import SeverityLog.Toml.Line

/-!
# Strings and keys

The four kinds of string: basic and literal, on one line or on several. A bare key needs no quotes.
-/

namespace SeverityLog.Toml

open Text

def charOf? (n : Nat) : Option Char := if n.isValidChar then some (Char.ofNat n) else none

def codePoint (count : Nat) : Scan Char := fun s => do
  let (n, r) ← fixedDigits 16 count s
  let c ← charOf? n
  some (c, r)

def escaped : Scan Char
  | 'b' :: r => some (Char.ofNat 8, r)
  | 't' :: r => some ('\t', r)
  | 'n' :: r => some ('\n', r)
  | 'f' :: r => some (Char.ofNat 12, r)
  | 'r' :: r => some ('\r', r)
  | '"' :: r => some ('"', r)
  | '\\' :: r => some ('\\', r)
  | 'u' :: r => codePoint 4 r
  | 'U' :: r => codePoint 8 r
  | _ => none

theorem length_codePoint_le {count : Nat} {s r : List Char} {c : Char}
    (h : codePoint count s = some (c, r)) : r.length ≤ s.length := by
  simp only [codePoint, bind, Option.bind_eq_some_iff, Option.some.injEq, Prod.mk.injEq] at h
  obtain ⟨_, hn, _, _, _, rfl⟩ := h
  exact length_fixedDigits_le hn

theorem length_escaped_lt {s r : List Char} {c : Char} (h : escaped s = some (c, r)) :
    r.length < s.length := by
  unfold escaped at h
  split at h
  case h_8 => exact Nat.lt_succ_of_le (length_codePoint_le h)
  case h_9 => exact Nat.lt_succ_of_le (length_codePoint_le h)
  case h_10 => simp at h
  all_goals
    obtain ⟨_, rfl⟩ := Prod.mk.inj (Option.some.inj h)
    exact Nat.lt_succ_self _

/-- The rest of a basic string, whose opening quote is taken. -/
def basic (s : List Char) : Option (List Char × List Char) :=
  match s with
  | [] => none
  | '"' :: r => some ([], r)
  | '\\' :: r =>
    match _h : escaped r with
    | some (c, r) => (basic r).map fun (cs, r) => (c :: cs, r)
    | none => none
  | c :: r => if isPlain c then (basic r).map fun (cs, r) => (c :: cs, r) else none
  termination_by s.length
  decreasing_by
    · have := length_escaped_lt _h
      simp; omega
    · simp

/-- The rest of a literal string, whose opening quote is taken. -/
def literal : Scan (List Char)
  | [] => none
  | c :: r =>
    if c = '\'' then some ([], r)
    else if isPlain c then (literal r).map fun (cs, r) => (c :: cs, r)
    else none

/-- The rest after a backslash at the end of a line, with all blanks and line ends that follow. -/
def lineContinuation? (s : List Char) : Option (List Char) :=
  (newline? (skipSpace s)).map (skipLines false)

/-- Quotes in the text of several lines: one or two are text, three end it, and up to two more in
front of these are text. The value is the text and whether it ends. -/
def quoteRun (count : Nat) : Option (Nat × Bool) :=
  if count ≤ 2 then some (count, false)
  else if count ≤ 5 then some (count - 3, true)
  else none

/-- The rest of a text of several lines between three quotes, whose opening is taken. Escapes are
read only between double quotes. -/
def multiline (quote : Char) (fuel : Nat) (s : List Char) : Option (List Char × List Char) :=
  match fuel, s with
  | 0, _ | _, [] => none
  | fuel + 1, c :: r =>
    let go (taken rest : List Char) :=
      (multiline quote fuel rest).map fun (cs, r) => (taken ++ cs, r)
    if c = quote then
      let count := (s.takeWhile (· == quote)).length
      match quoteRun count with
      | some (n, true) => some (List.replicate n quote, s.drop count)
      | some (n, false) => go (List.replicate n quote) (s.drop count)
      | none => none
    else if c = '\\' ∧ quote = '"' then
      match lineContinuation? r with
      | some r => go [] r
      | none => (escaped r).bind fun (c, r) => go [c] r
    else
      match newline? s with
      | some r => go ['\n'] r
      | none => if isPlain c then go [c] r else none

/-- A line end directly after the opening quotes is left out. -/
def multilineBody (quote : Char) (s : List Char) : Option (List Char × List Char) :=
  multiline quote (s.length + 1) ((newline? s).getD s)

def text : Scan String := fun s =>
  let cs := match s with
    | '"' :: '"' :: '"' :: r => multilineBody '"' r
    | '\'' :: '\'' :: '\'' :: r => multilineBody '\'' r
    | '"' :: r => basic r
    | '\'' :: r => literal r
    | _ => none
  cs.map fun (cs, r) => (String.ofList cs, r)

def isBare (c : Char) : Bool := c.isAlphanum || c == '-' || c == '_'

def keyPart : Scan String
  | '"' :: r => (basic r).map fun (cs, r) => (String.ofList cs, r)
  | '\'' :: r => (literal r).map fun (cs, r) => (String.ofList cs, r)
  | s =>
    let cs := s.takeWhile isBare
    if cs.isEmpty then none else some (String.ofList cs, s.dropWhile isBare)

/-- The greatest number of parts in a key, and of arrays and inline tables inside one another. -/
def deepest : Nat := 79

/-- The parts of a key, with dots and blanks between them. No key has more than `limit` parts. -/
def keyParts : Nat → Scan (List String)
  | 0, _ => none
  | limit + 1, s => do
    let (part, r) ← keyPart (skipSpace s)
    match skipSpace r with
    | '.' :: r => do
      let (parts, r) ← keyParts limit r
      some (part :: parts, r)
    | r => some ([part], r)

def key : Scan (List String) := keyParts deepest

end SeverityLog.Toml
