/-!
# Clock readings

A reading holds the time on a clock that measures intervals, in nanoseconds, and the time of day,
in seconds since the start of 1970, which is written as a date and a time.
-/

namespace SeverityLog

def nanosPerSecond : Nat := 1000000000

theorem nanosPerSecond_pos : 0 < nanosPerSecond := by decide

/-- Nanoseconds since some fixed moment. -/
abbrev Instant := Nat

/-- Seconds since the start of 1970. -/
structure Timestamp where
  seconds : Nat
  deriving DecidableEq, Repr, Inhabited

structure Reading where
  instant : Instant
  timestamp : Timestamp
  deriving DecidableEq, Repr, Inhabited

structure Date where
  year : Nat
  month : Nat
  day : Nat
  deriving DecidableEq, Repr

/-- The date a number of days after the start of 1970. Years are counted from March, so that the
leap day comes last, in cycles of 400 years or 146097 days. -/
def Date.ofDays (days : Nat) : Date :=
  let shifted := days + 719468
  let cycle := shifted / 146097
  let dayOfCycle := shifted % 146097
  let yearOfCycle :=
    (dayOfCycle - dayOfCycle / 1460 + dayOfCycle / 36524 - dayOfCycle / 146096) / 365
  let dayOfYear := dayOfCycle - (365 * yearOfCycle + yearOfCycle / 4 - yearOfCycle / 100)
  let month := (5 * dayOfYear + 2) / 153
  { year := yearOfCycle + cycle * 400 + (if month < 10 then 0 else 1)
    month := if month < 10 then month + 3 else month - 9
    day := dayOfYear - (153 * month + 2) / 5 + 1 }

namespace Timestamp

/-- The decimal digits, with zeros in front up to the width. -/
def padded (width n : Nat) : String :=
  let digits := Nat.toDigits 10 n
  String.ofList (List.replicate (width - digits.length) '0' ++ digits)

/-- Year, month and day, the letter T, then hours, minutes and seconds. -/
def written (t : Timestamp) : String :=
  let date := Date.ofDays (t.seconds / 86400)
  let time := t.seconds % 86400
  padded 4 date.year ++ "-" ++ padded 2 date.month ++ "-" ++ padded 2 date.day ++ "T" ++
    padded 2 (time / 3600) ++ ":" ++ padded 2 (time / 60 % 60) ++ ":" ++ padded 2 (time % 60)

end Timestamp

end SeverityLog
