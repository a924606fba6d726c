import SeverityLog.Appearance
import SeverityLog.Text.Scan

/-!
# The vocabulary in JSON

A severity, a style and a level are written as JSON strings, and a threshold as a bare integer. A
variant may also stand as the only key of an object, over a null.
-/

namespace SeverityLog.Json

open Text

def skipSpace (s : List Char) : List Char :=
  s.dropWhile fun c => c == ' ' || c == '\t' || c == '\n' || c == '\r'

def isHighSurrogate (n : Nat) : Bool := 0xD800 ≤ n && n < 0xDC00

def isLowSurrogate (n : Nat) : Bool := 0xDC00 ≤ n && n < 0xE000

/-- The character of a letter after a backslash. -/
def escapeChar? : Char → Option Char
  | '"' => some '"'
  | '\\' => some '\\'
  | '/' => some '/'
  | 'b' => some (Char.ofNat 8)
  | 'f' => some (Char.ofNat 12)
  | 'n' => some '\n'
  | 'r' => some '\r'
  | 't' => some '\t'
  | _ => none

/-- A character written by its number, or by the numbers of two surrogates. -/
def unicode? : Scan Char := fun s => do
  let (n, r) ← fixedDigits 16 4 s
  if isLowSurrogate n then none
  else if isHighSurrogate n then
    match r with
    | '\\' :: 'u' :: r => do
      let (m, r) ← fixedDigits 16 4 r
      if isLowSurrogate m then
        some (Char.ofNat (0x10000 + (n - 0xD800) * 1024 + (m - 0xDC00)), r)
      else none
    | _ => none
  else some (Char.ofNat n, r)

/-- One character of a string, which is not its closing quote. -/
def stringChar? : Scan Char
  | '\\' :: 'u' :: r => unicode? r
  | '\\' :: c :: r => (escapeChar? c).map fun c => (c, r)
  | c :: r => if c.toNat < 0x20 ∨ c = '"' ∨ c = '\\' then none else some (c, r)
  | [] => none

/-- The characters up to the closing quote. Every character takes some of the text, so the length
of the text is enough fuel. -/
def stringBody (fuel : Nat) (s : List Char) : Option (List Char × List Char) :=
  match fuel, s with
  | _, '"' :: r => some ([], r)
  | 0, _ => none
  | fuel + 1, s => do
    let (c, r) ← stringChar? s
    let (cs, r) ← stringBody fuel r
    some (c :: cs, r)

def string? : Scan String
  | '"' :: r => (stringBody r.length r).map fun (cs, r) => (String.ofList cs, r)
  | _ => none

/-- The name of a variant, alone or as the only key of an object. -/
def variantName? (text : String) : Option String :=
  match skipSpace text.toList with
  | c :: r =>
    if c = Char.ofNat 0x7B then do
      let (name, r) ← string? (skipSpace r)
      match skipSpace r with
      | ':' :: r =>
        match skipSpace r with
        | 'n' :: 'u' :: 'l' :: 'l' :: r =>
          match skipSpace r with
          | d :: r => if d = Char.ofNat 0x7D ∧ skipSpace r = [] then some name else none
          | [] => none
        | _ => none
      | _ => none
    else do
      let (name, r) ← string? (c :: r)
      if skipSpace r = [] then some name else none
  | [] => none

/-- A number without sign, point or exponent. A zero in front stands alone. -/
def natural? (text : String) : Option Nat :=
  let s := skipSpace text.toList
  let ds := s.takeWhile Char.isDigit
  let r := s.dropWhile Char.isDigit
  if ds = [] ∨ (ds.head? = some '0' ∧ ds.length > 1) ∨ skipSpace r ≠ [] then none
  else some (numeral 10 ds)

end SeverityLog.Json

namespace SeverityLog

def ofJson? {α : Type} (all : List α) (name : α → String) (text : String) : Option α :=
  (Json.variantName? text).bind fun n => all.find? (name · == n)

namespace Severity

def jsonName : Severity → String
  | error => "error"
  | warning => "warning"
  | info => "info"
  | debug => "debug"

def ofJson? (text : String) : Option Severity := SeverityLog.ofJson? all jsonName text

end Severity

namespace BarStyle

def ofJson? (text : String) : Option BarStyle := SeverityLog.ofJson? all label text

end BarStyle

namespace PanelLevel

def ofJson? (text : String) : Option PanelLevel := SeverityLog.ofJson? all name text

end PanelLevel

namespace Verbosity

def ofJson? (text : String) : Option Verbosity :=
  (Json.natural? text).bind fun n => if n < UInt32.size then some ⟨UInt32.ofNat n⟩ else none

end Verbosity

end SeverityLog
