import SeverityLog.Diagnostic.Pattern.Class
import SeverityLog.Text.Alphanumeric

/-!
# Patterns for values

The value of a field in a filter may be a regular expression. Nothing is ever matched against it;
it only has to be well formed, and it may not ask for the edges of words among all characters. What
needs a table of characters is refused too: classes by property, and matching in any case. A pattern
for bytes may match nothing that is not text. A pattern stands between braces, after an equals sign
and between commas, so none of these marks occurs in it, and a counted repetition cannot be closed.
-/

namespace SeverityLog.Diagnostic.Pattern

open Text

inductive Fault where
  | malformed
  | wordBoundary
  deriving DecidableEq, Repr

def Fault.message : Fault → String
  | malformed => "error building NFA"
  | wordBoundary =>
    "unsupported regex feature for DFAs: cannot build DFAs for regexes with Unicode word " ++
      "boundaries; switch to ASCII word boundaries, or heuristically enable Unicode word " ++
      "boundaries or use a different regex engine"

/-- A group that is open, with the depths of its alternatives and of the pieces since the last bar.
The whole pattern is the outermost group. -/
structure Group where
  flags : Flags := {}
  alternatives : List Nat := []
  pieces : List Nat := []
  repeatable : Bool := false
  deriving DecidableEq, Repr

namespace Group

def depth (g : Group) : Nat := together (together g.pieces :: g.alternatives)

def add (d : Nat) (g : Group) : Group := { g with pieces := d :: g.pieces, repeatable := true }

/-- A change of flags is a piece that cannot be repeated. -/
def change (cs : List Char) (g : Group) : Group :=
  { g.add 0 with flags := g.flags.change cs, repeatable := false }

def bar (g : Group) : Group :=
  { g with alternatives := together g.pieces :: g.alternatives, pieces := [], repeatable := false }

def repeated? (g : Group) : Option Group :=
  match g.pieces with
  | d :: ds => if g.repeatable then some { g with pieces := (d + 1) :: ds } else none
  | [] => none

end Group

/-- What has been read of a pattern: the groups that are open, the innermost first, the names that
are taken, and whether the edge of a word among all characters was asked for. -/
structure Reading where
  group : Group := {}
  outer : List Group := []
  names : List String := []
  wordEdge : Bool := false

namespace Reading

def flags (m : Reading) : Flags := m.group.flags

def add (d : Nat) (m : Reading) : Reading := { m with group := m.group.add d }

def enter (cs : List Char) (m : Reading) : Reading :=
  { m with group := { flags := m.flags.change cs }, outer := m.group :: m.outer }

def leave? (m : Reading) : Option Reading :=
  match m.outer with
  | [] => none
  | g :: outer => some { m with group := g.add (m.group.depth + 1), outer }

/-- A name starts with a letter or an underscore. -/
def validName : List Char → Bool
  | [] => false
  | c :: cs =>
    (c == '_' || isAlphabetic c) &&
      cs.all fun c => isAlphanumeric c || c == '_' || c == '.' || c == '[' || c == ']'

/-- The reading after a name up to its closing bracket. No name is given twice. -/
def scanName (m : Reading) : Scan Reading := fun s =>
  let cs := s.takeWhile (· != '>')
  let name := String.ofList cs
  if validName cs && !m.names.contains name then
    (expect '>' (s.drop cs.length)).map ({ m.enter [] with names := name :: m.names }, ·)
  else none

/-- The reading after the opening of a group, or after flags that stand alone. -/
def scanGroup (m : Reading) : Scan Reading
  | '?' :: 'P' :: '<' :: r | '?' :: '<' :: r => m.scanName r
  | '?' :: r =>
    let cs := r.takeWhile fun c => c != ':' && c != ')'
    if !Flags.isChange cs then none
    else match r.drop cs.length with
      | ':' :: r => some (m.enter cs, r)
      | ')' :: r => if cs.isEmpty then none else some ({ m with group := m.group.change cs }, r)
      | _ => none
  | r => some (m.enter [], r)

/-- The reading after the last piece is repeated. A question mark that follows at once belongs to
the repetition. -/
def scanRepetition (m : Reading) : Scan Reading := fun s =>
  m.group.repeated?.map fun group => ({ m with group }, (expect '?' s).getD s)

def scanEscape (m : Reading) : Scan Reading := fun s =>
  (Escape.scan m.flags s).bind fun
    | (.literal l, r) => if m.flags.admits l then some (m.add 0, r) else none
    | (.wordEdge, r) => some ({ m.add 0 with wordEdge := m.wordEdge || m.flags.unicode }, r)
    | (_, r) => some (m.add 0, r)

/-- The reading after one more piece. Any byte is not text. -/
def step (m : Reading) : Scan Reading
  | '(' :: r => m.scanGroup (m.flags.skip r)
  | ')' :: r => m.leave?.map (·, r)
  | '|' :: r => some ({ m with group := m.group.bar }, r)
  | '?' :: r | '*' :: r | '+' :: r => m.scanRepetition r
  | '\x7b' :: _ => none
  | '[' :: r => (scanClass m.flags r).map fun (d, r) => (m.add d, r)
  | '\\' :: r => m.scanEscape r
  | '.' :: r => if m.flags.unicode then some (m.add 0, r) else none
  | '^' :: r | '$' :: r => some (m.add 0, r)
  | c :: r => if m.flags.admits ⟨c, false⟩ then some (m.add 0, r) else none
  | [] => none

def run (m : Reading) (s : List Char) : Option Reading :=
  match m.flags.skip s with
  | [] => some m
  | t =>
    match m.step t with
    | some (m, r) => if r.length < s.length then m.run r else none
    | none => none
termination_by s.length

def deepest : Nat := 250

/-- Every group is closed, and nothing is nested too deeply. -/
def isComplete (m : Reading) : Bool := m.outer.isEmpty && m.group.depth ≤ deepest

end Reading

def fault? (s : List Char) : Option Fault :=
  match (({} : Reading).run s).filter Reading.isComplete with
  | none => some .malformed
  | some m => if m.wordEdge then some .wordBoundary else none

end SeverityLog.Diagnostic.Pattern
