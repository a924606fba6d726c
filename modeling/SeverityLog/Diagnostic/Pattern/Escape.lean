import SeverityLog.Diagnostic.Pattern.Flags
import SeverityLog.Text.Scan

/-!
# Characters of patterns

A character of a pattern stands for itself, or it is written after a backslash. A backslash also
introduces classes by a letter and the edges of words and of the whole text.
-/

namespace SeverityLog.Diagnostic.Pattern

open Text

/-- A character, which may be written as a byte in two hexadecimal digits. -/
structure Literal where
  char : Char
  isByte : Bool := false
  deriving DecidableEq, Repr

namespace Flags

/-- A byte that is no character by itself stands in no text. -/
def admits (l : Literal) (f : Flags) : Bool :=
  !f.needsTable && (f.unicode || !l.isByte || l.char.toNat < 0x80)

/-- A class of bytes holds ASCII only. -/
def admitsMember (l : Literal) (f : Flags) : Bool :=
  !f.needsTable && (f.unicode || l.char.toNat < 0x80)

end Flags

inductive Escape where
  | literal (l : Literal)
  /-- The digits, the white space or the word characters of ASCII. -/
  | letterClass
  | textEdge
  | wordEdge
  deriving DecidableEq, Repr

namespace Escape

/-- So many hexadecimal digits after the number that has been read. -/
def hexDigits (f : Flags) : Nat → Nat → Scan Nat
  | 0, n, s => some (n, s)
  | count + 1, n, s =>
    match f.skip s with
    | c :: r => if isDigitBelow 16 c then hexDigits f count (n * 16 + digitValue c) r else none
    | [] => none

/-- A character by its code point in so many digits. -/
def codePoint (f : Flags) (count : Nat) (isByte : Bool) : Scan Escape := fun s =>
  (hexDigits f count 0 s).bind fun (n, r) =>
    if n.isValidChar then some (.literal ⟨Char.ofNat n, isByte⟩, r) else none

/-- Marks other than the angle brackets may be escaped without need. -/
def isEscapable (c : Char) : Bool :=
  c.toNat < 0x80 && !c.isAlphanum && c != '<' && c != '>'

/-- The characters that have a letter of their own. -/
def control? : Char → Option Char
  | 'a' => some (Char.ofNat 0x07)
  | 't' => some (Char.ofNat 0x09)
  | 'n' => some (Char.ofNat 0x0A)
  | 'v' => some (Char.ofNat 0x0B)
  | 'f' => some (Char.ofNat 0x0C)
  | 'r' => some (Char.ofNat 0x0D)
  | _ => none

/-- The rest of an escape after its backslash. A class by a letter takes a table, unless the pattern
is about bytes; its complement, which is by a capital letter, is then not text. -/
def scan (f : Flags) : Scan Escape
  | 'x' :: r => codePoint f 2 true r
  | 'u' :: r => codePoint f 4 false r
  | 'U' :: r => codePoint f 8 false r
  | c :: r =>
    if isEscapable c then some (.literal ⟨c, false⟩, r)
    else match c with
      | 'd' | 's' | 'w' => if f.unicode then none else some (.letterClass, r)
      | 'A' | 'z' => some (.textEdge, r)
      | 'b' | 'B' | '<' | '>' => some (.wordEdge, r)
      | _ => (control? c).map fun c => (.literal ⟨c, false⟩, r)
  | [] => none

end Escape

end SeverityLog.Diagnostic.Pattern
