import SeverityLog.Toml.DateTime
import SeverityLog.Toml.Number
import SeverityLog.Toml.Text
import SeverityLog.Toml.Tree

/-!
# Documents

The grammar of TOML 1.0. A document is a sequence of headers and assignments, and it is valid when
these make a tree.
-/

namespace SeverityLog.Toml

open Text

/-- A value that is neither an array nor an inline table. -/
def scalar : Scan Value := fun s =>
  match s with
  | 't' :: 'r' :: 'u' :: 'e' :: r => some (.boolean true, r)
  | 'f' :: 'a' :: 'l' :: 's' :: 'e' :: r => some (.boolean false, r)
  | '"' :: _ | '\'' :: _ => (text s).map fun (t, r) => (.string t, r)
  | _ => if startsDate s || startsTime s then dateTime s else number s

/-- One item after another with commas between them. The rest starts at the first character that no
item and no comma before an item takes. -/
def separated {α : Type} (item : Scan α) (s : List Char) : List α × List Char :=
  match item s with
  | none => ([], s)
  | some (a, r) =>
    match r with
    | ',' :: t =>
      if _h : t.length < s.length then
        let (as, rest) := separated item t
        if as.isEmpty then ([a], r) else (a :: as, rest)
      else ([a], r)
    | _ => ([a], r)
  termination_by s.length

/-- The items up to the closing bracket, whose opening is taken. A comma may follow the last. -/
def array (item : Scan Value) : Scan Value := fun s => do
  let padded : Scan Value := fun s => do
    let (v, r) ← item (skipLines true s)
    some (v, skipLines true r)
  let (items, r) := separated padded s
  let r := match items, r with
    | _ :: _, ',' :: r => r
    | _, r => r
  let r ← expect ']' (skipLines true r)
  some (.array items, r)

def pair (item : Scan Value) : Scan (List String × Value) := fun s => do
  let (path, r) ← key s
  let r ← expect '=' (skipSpace r)
  let (v, r) ← item (skipSpace r)
  some ((path, v), skipSpace r)

/-- The pairs up to the closing brace, whose opening is taken. All stand on one line. -/
def inlineTable (item : Scan Value) : Scan Value := fun s => do
  let (pairs, r) := separated (pair item) s
  let r ← expect (Char.ofNat 0x7D) (skipSpace r)
  let v ← inlineTable? pairs
  some (v, r)

/-- A value with at most so many arrays and inline tables inside one another. -/
def value : Nat → Scan Value
  | 0, s => scalar s
  | levels + 1, s =>
    match s with
    | '[' :: r => array (value levels) r
    | c :: r => if c = Char.ofNat 0x7B then inlineTable (value levels) r else scalar s
    | [] => none

def header : Scan Statement
  | '[' :: '[' :: r => do
    let (path, r) ← key r
    let r ← expect ']' (skipSpace r)
    let r ← expect ']' r
    some (.arrayHeader path, r)
  | '[' :: r => do
    let (path, r) ← key r
    let r ← expect ']' (skipSpace r)
    some (.header path, r)
  | _ => none

def statement : Scan Statement := fun s =>
  match s with
  | '[' :: _ => header s
  | _ => (pair (value deepest) s).map fun ((path, v), r) => (.assign path v, r)

def statements (s : List Char) : Option (List Statement) :=
  match skipLines true s with
  | [] => some []
  | r =>
    match lineEnd? r with
    | some [] => some []
    | _ => do
      let (first, r) ← statement r
      let r ← lineEnd? r
      if _h : r.length < s.length then
        let others ← statements r
        some (first :: others)
      else none
  termination_by s.length

/-- The tree of a document, which may start with a byte order mark. -/
def parse? (document : String) : Option Entries :=
  let s := match document.toList with
    | c :: r => if c = Char.ofNat 0xFEFF then r else c :: r
    | [] => []
  (statements s).bind Tree.ofStatements?

end SeverityLog.Toml
