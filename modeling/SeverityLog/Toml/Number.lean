import SeverityLog.Toml.Line
import SeverityLog.Toml.Value

/-!
# Numbers

Integers of 64 bits in four bases, and floats. A float whose value rounds beyond the finite numbers
upwards is refused.
-/

namespace SeverityLog.Toml

open Text

/-- Digits after a first one. An underscore stands between two digits. -/
def digitTail (ok : Char → Bool) : Scan (List Char)
  | '_' :: c :: r => if ok c then (digitTail ok r).map fun (ds, r) => (c :: ds, r) else none
  | ['_'] => none
  | c :: r =>
    if ok c then (digitTail ok r).map fun (ds, r) => (c :: ds, r) else some ([], c :: r)
  | [] => some ([], [])

def digits (ok : Char → Bool) : Scan (List Char)
  | c :: r => if ok c then (digitTail ok r).map fun (ds, r) => (c :: ds, r) else none
  | [] => none

def inRange (n : Int) : Bool := -(Nat.pow 2 63) ≤ n && n < Nat.pow 2 63

def sign : List Char → Bool × List Char
  | '-' :: r => (true, r)
  | '+' :: r => (false, r)
  | s => (false, s)

/-- A sign and decimal digits. A zero stands alone. -/
def decimal : Scan (Bool × List Char) := fun s =>
  let (negative, r) := sign s
  match r with
  | '0' :: r => some ((negative, ['0']), r)
  | _ => (digits Char.isDigit r).map fun (ds, r) => ((negative, ds), r)

def based (base : Nat) : Scan Value := fun s => do
  let (ds, r) ← digits (isDigitBelow base) s
  let n := numeral base ds
  if inRange n then some (.integer n, r) else none

def exponent : Scan (Bool × Nat) := fun s => do
  let (negative, r) := sign s
  let (ds, r) ← digits Char.isDigit r
  some ((negative, numeral 10 ds), r)

/-- Whether `m * 10 ^ e`, or `m / 10 ^ e` for a negative exponent, rounds to a finite double. -/
def isFinite (m : Nat) (negative : Bool) (e : Nat) : Bool :=
  let bound := Nat.pow 2 1024 - Nat.pow 2 970
  if m = 0 then true
  else if negative then e ≥ (Nat.toDigits 10 m).length || m < bound * Nat.pow 10 e
  else e < 400 && m * Nat.pow 10 e < bound

/-- The exponent of `10 ^ e` after a division by `10 ^ places`. -/
def lowered (negative : Bool) (e places : Nat) : Bool × Nat :=
  if negative then (true, e + places)
  else if places ≤ e then (false, e - places)
  else (true, places - e)

/-- The value of digits before and after the point, with the power of ten that scales them. -/
def floatOf (negative : Bool) (whole fraction : List Char) (e : Bool × Nat) : Option Value :=
  let (down, size) := lowered e.1 e.2 fraction.length
  if negative || isFinite (numeral 10 (whole ++ fraction)) down size then
    some (.float (String.ofList ((if negative then ['-'] else []) ++ whole ++ '.' :: fraction ++
      'e' :: (if e.1 then ['-'] else []) ++ Nat.toDigits 10 e.2)))
  else none

/-- What follows the digits before the point. -/
def numberTail (negative : Bool) (whole : List Char) : Scan Value
  | '.' :: r => do
    let (fraction, r) ← digits Char.isDigit r
    let (e, r) ← match r with
      | 'e' :: r | 'E' :: r => exponent r
      | _ => some ((false, 0), r)
    let v ← floatOf negative whole fraction e
    some (v, r)
  | 'e' :: r | 'E' :: r => do
    let (e, r) ← exponent r
    let v ← floatOf negative whole [] e
    some (v, r)
  | r =>
    let n : Int := if negative then -(numeral 10 whole : Int) else numeral 10 whole
    if inRange n then some (.integer n, r) else none

/-- The names of the numbers that have no digits. -/
def special? (s : List Char) : Option (Value × List Char) :=
  match (sign s).2 with
  | 'i' :: 'n' :: 'f' :: r => some (.float "inf", r)
  | 'n' :: 'a' :: 'n' :: r => some (.float "nan", r)
  | _ => none

def number : Scan Value
  | '0' :: 'x' :: r => based 16 r
  | '0' :: 'o' :: r => based 8 r
  | '0' :: 'b' :: r => based 2 r
  | s =>
    match special? s with
    | some v => some v
    | none => do
      let ((negative, whole), r) ← decimal s
      numberTail negative whole r

end SeverityLog.Toml
