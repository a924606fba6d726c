import SeverityLog.Toml.Line
import SeverityLog.Toml.Value

/-!
# Dates and times

A date, a time, or both with an optional offset. A date has to exist in the calendar; a minute may
have a sixty-first second.
-/

namespace SeverityLog.Toml

open Text

def isLeap (year : Nat) : Bool := year % 4 == 0 && (year % 100 != 0 || year % 400 == 0)

def daysInMonth (year month : Nat) : Nat :=
  if month = 2 then (if isLeap year then 29 else 28)
  else if month = 4 ∨ month = 6 ∨ month = 9 ∨ month = 11 then 30
  else 31

def date (s : List Char) : Option (List Char) := do
  let (year, r) ← fixedDigits 10 4 s
  let (month, r) ← fixedDigits 10 2 (← expect '-' r)
  let (day, r) ← fixedDigits 10 2 (← expect '-' r)
  if 1 ≤ month ∧ month ≤ 12 ∧ 1 ≤ day ∧ day ≤ daysInMonth year month then some r else none

def hoursMinutes (s : List Char) : Option (List Char) := do
  let (hour, r) ← fixedDigits 10 2 s
  let (minute, r) ← fixedDigits 10 2 (← expect ':' r)
  if hour ≤ 23 ∧ minute ≤ 59 then some r else none

def secondFraction (s : List Char) : List Char :=
  match s with
  | '.' :: r => if (r.takeWhile Char.isDigit).isEmpty then s else r.dropWhile Char.isDigit
  | _ => s

def time (s : List Char) : Option (List Char) := do
  let r ← hoursMinutes s
  let (second, r) ← fixedDigits 10 2 (← expect ':' r)
  if second ≤ 60 then some (secondFraction r) else none

def offset (s : List Char) : Option (List Char) :=
  match s with
  | 'Z' :: r | 'z' :: r => some r
  | '+' :: r | '-' :: r => hoursMinutes r
  | _ => some s

def startsTime : List Char → Bool
  | a :: b :: ':' :: _ => a.isDigit && b.isDigit
  | _ => false

def startsDate : List Char → Bool
  | a :: b :: c :: d :: '-' :: _ => [a, b, c, d].all Char.isDigit
  | _ => false

/-- The rest after a time that may follow a date, with its offset. -/
def timeAfterDate (s : List Char) : Option (List Char) :=
  match s with
  | c :: r =>
    if (c = 'T' ∨ c = 't' ∨ c = ' ') ∧ startsTime r then (time r).bind offset else some s
  | [] => some s

def dateTime : Scan Value := fun s => do
  let r ← if startsDate s then (date s).bind timeAfterDate else time s
  some (.dateTime (String.ofList (s.take (s.length - r.length))), r)

end SeverityLog.Toml
