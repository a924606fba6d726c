import SeverityLog.Diagnostic.Pattern.Escape

/-!
# Classes of characters

A class stands between square brackets. Its members are characters, ranges of characters, and other
classes, by a name or in brackets of their own; two `&`, `-` or `~` are an operator between what is
to their left and their right. Of a class that has been read only the depth is kept, which says how
deeply its parts are nested.
-/

namespace SeverityLog.Diagnostic.Pattern

open Text

/-- The depth of parts that stand side by side. Several of them are a part of their own. -/
def together : List Nat → Nat
  | [] => 0
  | [d] => d
  | ds => ds.foldl max 0 + 1

/-- An open bracket with the depths of the members since its last operator, and the depth of what
stands to the left of the operator. -/
structure Bracket where
  left : Option Nat := none
  members : List Nat := []
  /-- Only hyphens have been read, so a hyphen is a member. -/
  fresh : Bool := true
  deriving DecidableEq, Repr

namespace Bracket

def depth (b : Bracket) : Nat :=
  match b.left with
  | none => together b.members
  | some left => max left (together b.members) + 1

def add (d : Nat) (b : Bracket) : Bracket := { b with members := d :: b.members, fresh := false }

def addHyphen (b : Bracket) : Bracket := { b with members := 0 :: b.members }

def operator (b : Bracket) : Bracket := { left := some b.depth, fresh := false }

end Bracket

/-- A member is a character or a class by a letter, which is left out. -/
def scanMember (f : Flags) : Scan (Option Char)
  | '\\' :: r =>
    match Escape.scan f r with
    | some (.literal l, r) => if f.admitsMember l then some (some l.char, r) else none
    | some (.letterClass, r) => some (none, r)
    | _ => none
  | c :: r => if f.admitsMember ⟨c, false⟩ then some (some c, r) else none
  | [] => none

/-- The rest after a member, or after a range from a character to one that is not before it. A
hyphen before the closing bracket or another hyphen makes no range. -/
def scanRange (f : Flags) (s : List Char) : Option (List Char) :=
  (scanMember f s).bind fun (first, r) =>
    match f.skip r with
    | '-' :: r =>
      if f.peek? r = some ']' || f.peek? r = some '-' then some ('-' :: r)
      else
        (scanMember f (f.skip r)).bind fun (last, r) =>
          match first, last with
          | some first, some last => if first ≤ last then some r else none
          | _, _ => none
    | r => some r

def namedClasses : List String :=
  ["alnum", "alpha", "ascii", "blank", "cntrl", "digit", "graph", "lower", "print", "punct",
    "space", "upper", "word", "xdigit"]

/-- Whether a class by name between colons is a complement, and the rest after its bracket. -/
def namedClass? : Scan Bool := fun s => do
  let r ← expect ':' s
  let (complement, r) := match r with
    | '^' :: r => (true, r)
    | _ => (false, r)
  let name := r.takeWhile (· != ':')
  let r ← expect ':' (r.drop name.length)
  let r ← expect ']' r
  if namedClasses.contains (String.ofList name) then some (complement, r) else none

/-- Whether the class after an opening bracket is a complement, and the rest after the mark for
it. -/
def openClass (f : Flags) (s : List Char) : Bool × List Char :=
  match f.skip s with
  | '^' :: r => (true, r)
  | r => (false, r)

/-- One step in the inside of a bracket that stands in others, the innermost first. A bracket that
is closed is a member of the next one. -/
def classStep (f : Flags) (b : Bracket) (outer : List Bracket) : Scan (List Bracket)
  | ']' :: r =>
    if b.fresh && b.members.isEmpty then
      if f.needsTable then none else some (b.add 0 :: outer, r)
    else match outer with
      | [] => none
      | o :: outer => some (o.add (b.depth + 1) :: outer, r)
  | '[' :: r =>
    match namedClass? r with
    | some (complement, r) =>
      if f.needsTable || complement && !f.admitsComplement then none
      else some (b.add 0 :: outer, r)
    | none =>
      let (complement, r) := openClass f r
      if complement && !f.admitsComplement then none
      else some ({} :: b :: outer, r)
  | '-' :: '-' :: r =>
    if b.fresh then if f.needsTable then none else some (b.addHyphen :: outer, '-' :: r)
    else some (b.operator :: outer, r)
  | '&' :: '&' :: r | '~' :: '~' :: r => some (b.operator :: outer, r)
  | '-' :: r =>
    if b.fresh then if f.needsTable then none else some (b.addHyphen :: outer, r)
    else (scanRange f ('-' :: r)).map (b.add 0 :: outer, ·)
  | s => (scanRange f s).map (b.add 0 :: outer, ·)

/-- The outermost bracket after the others have been closed, and the rest. -/
def closeClass (f : Flags) (b : Bracket) (outer : List Bracket) (s : List Char) :
    Option (Bracket × List Char) :=
  match outer with
  | [] => some (b, s)
  | _ :: _ =>
    match classStep f b outer (f.skip s) with
    | some (b :: outer, r) => if r.length < s.length then closeClass f b outer r else none
    | _ => none
termination_by s.length

/-- The depth of a class after its opening bracket. Its own name is no class by name. -/
def scanClass (f : Flags) : Scan Nat := fun s =>
  let (complement, r) := openClass f s
  if complement && !f.admitsComplement then none
  else (closeClass f {} [{}] r).map fun (b, r) => (b.depth, r)

end SeverityLog.Diagnostic.Pattern
