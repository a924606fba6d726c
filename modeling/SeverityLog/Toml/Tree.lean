import SeverityLog.Toml.Value

/-!
# The tree of a document

Headers and assignments build one tree of tables. A key is assigned once, a table is opened once,
and neither a header nor a dotted key passes through a value.
-/

namespace SeverityLog.Toml

/-- One line of a document, apart from blank lines and comments. -/
inductive Statement where
  | header (path : List String)
  | arrayHeader (path : List String)
  | assign (path : List String) (value : Value)
  deriving Repr

namespace Entries

/-- The change of the table at a path. Tables that are missing on the way are made. A dotted key
passes only through tables that headers have not opened; both kinds of path enter the newest of
several tables. -/
def descend (isDotted : Bool) (change : Origin → Entries → Option Entries) :
    List String → Origin → Entries → Option Entries
  | [], origin, es => change origin es
  | key :: path, _, es =>
    let made : Origin := if isDotted then .dotted else .implied
    match es.lookup key with
    | none => (descend isDotted change path made []).map fun sub => es ++ [(key, .table made sub)]
    | some (.table origin sub) =>
      if origin = .inline ∨ (isDotted ∧ !origin.isOpen) then none
      else (descend isDotted change path origin sub).map fun sub => es.put key (.table origin sub)
    | some (.tables elements) =>
      match elements.getLast? with
      | none => none
      | some newest => (descend isDotted change path .header newest).map fun sub =>
        es.put key (.tables (elements.dropLast ++ [sub]))
    | some _ => none

/-- A key is vacant, and only a dotted key reaches a table that a dotted key made. -/
def assign (path : List String) (v : Value) (origin : Origin) (es : Entries) : Option Entries :=
  match path.getLast? with
  | none => none
  | some key =>
    let front := path.dropLast
    let insert (origin : Origin) (es : Entries) : Option Entries :=
      if (origin == .dotted) == front.isEmpty || (es.lookup key).isSome then none
      else some (es ++ [(key, v)])
    descend true insert front origin es

/-- A table is opened unless it stands there already; one that was only implied is opened too. -/
def openTable (key : String) (es : Entries) : Option Entries :=
  match es.lookup key with
  | none => some (es ++ [(key, .table .header [])])
  | some (.table .implied sub) => some (es.put key (.table .header sub))
  | some _ => none

def openElement (key : String) (es : Entries) : Option Entries :=
  match es.lookup key with
  | none => some (es ++ [(key, .tables [[]])])
  | some (.tables elements) => some (es.put key (.tables (elements ++ [[]])))
  | some _ => none

def openAt (change : String → Entries → Option Entries) (path : List String) (root : Entries) :
    Option Entries :=
  match path.getLast? with
  | none => none
  | some key => descend false (fun _ => change key) path.dropLast .header root

end Entries

/-- The tree so far, and the path of the table that assignments go to. -/
structure Tree where
  root : Entries := []
  current : List String := []

namespace Tree

def extend (t : Tree) : Statement → Option Tree
  | .header path => (Entries.openAt Entries.openTable path t.root).map fun root => ⟨root, path⟩
  | .arrayHeader path =>
    (Entries.openAt Entries.openElement path t.root).map fun root => ⟨root, path⟩
  | .assign path v =>
    (Entries.descend false (Entries.assign path v) t.current .header t.root).map fun root =>
      { t with root }

def ofStatements? (ss : List Statement) : Option Entries :=
  (ss.foldlM extend {}).map (·.root)

end Tree

/-- The table that assignments between braces make. -/
def inlineTable? (pairs : List (List String × Value)) : Option Value :=
  (pairs.foldlM (fun es (path, v) => Entries.assign path v .inline es) []).map (.table .inline)

end SeverityLog.Toml
