import SeverityLog.Text.Scan

/-!
# Lines

What stands between the parts of a document: blanks, comments and line ends.
-/

namespace SeverityLog.Toml

open Text

def isSpace (c : Char) : Bool := c == ' ' || c == '\t'

def skipSpace (s : List Char) : List Char := s.dropWhile isSpace

/-- A tab, or any character that is not a control character of ASCII. -/
def isPlain (c : Char) : Bool := c == '\t' || (0x20 ≤ c.toNat && c.toNat ≠ 0x7F)

/-- The rest after a line end. A carriage return counts only before a line feed. -/
def newline? : List Char → Option (List Char)
  | '\n' :: r => some r
  | '\r' :: '\n' :: r => some r
  | _ => none

def skipComment : List Char → List Char
  | '#' :: r => r.dropWhile isPlain
  | s => s

/-- The rest after blanks, a comment and the end of the line or text. -/
def lineEnd? (s : List Char) : Option (List Char) :=
  match skipComment (skipSpace s) with
  | [] => some []
  | r => newline? r

theorem length_newline? {s r : List Char} (h : newline? s = some r) : r.length < s.length := by
  unfold newline? at h
  split at h
  · obtain rfl := Option.some.inj h
    exact Nat.lt_succ_self _
  · obtain rfl := Option.some.inj h
    exact Nat.lt_succ_of_lt (Nat.lt_succ_self _)
  · simp at h

theorem length_skipSpace_le (s : List Char) : (skipSpace s).length ≤ s.length :=
  (List.dropWhile_sublist _).length_le

theorem length_skipComment_le (s : List Char) : (skipComment s).length ≤ s.length := by
  unfold skipComment
  split
  · exact Nat.le_succ_of_le (List.dropWhile_sublist _).length_le
  · exact Nat.le_refl _

/-- The rest after blanks, and after a comment where comments are allowed. -/
def skipMargin (comments : Bool) (s : List Char) : List Char :=
  if comments then skipComment (skipSpace s) else skipSpace s

theorem length_skipMargin_le (comments : Bool) (s : List Char) :
    (skipMargin comments s).length ≤ s.length := by
  cases comments
  · exact length_skipSpace_le s
  · exact Nat.le_trans (length_skipComment_le _) (length_skipSpace_le s)

/-- The rest after blanks and line ends, and after comments where they are allowed. -/
def skipLines (comments : Bool) (s : List Char) : List Char :=
  match _h : newline? (skipMargin comments s) with
  | some r => skipLines comments r
  | none => skipSpace s
  termination_by s.length
  decreasing_by exact Nat.lt_of_lt_of_le (length_newline? _h) (length_skipMargin_le comments s)

end SeverityLog.Toml
