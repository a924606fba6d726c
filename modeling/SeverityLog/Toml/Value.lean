/-!
# TOML values

A table remembers how it came about, because that decides whether a later header or key may extend
it.
-/

namespace SeverityLog.Toml

inductive Origin where
  /-- Written between braces. -/
  | inline
  /-- Opened by a header of its own. -/
  | header
  /-- Named only inside a longer header. -/
  | implied
  /-- Made by a dotted key. -/
  | dotted
  deriving DecidableEq, Repr

/-- Whether a dotted key may pass through the table. -/
def Origin.isOpen : Origin → Bool
  | implied | dotted => true
  | inline | header => false

/-- A float and a date are kept as they are written. -/
inductive Value where
  | string (s : String)
  | integer (n : Int)
  | float (text : String)
  | boolean (b : Bool)
  | dateTime (text : String)
  | array (items : List Value)
  | table (origin : Origin) (entries : List (String × Value))
  /-- The tables of a doubly bracketed header, oldest first. -/
  | tables (elements : List (List (String × Value)))
  deriving Repr, Inhabited

/-- The keys of a table, each at most once. -/
abbrev Entries := List (String × Value)

/-- The entries with the value of a key replaced, or added at the end. -/
def Entries.put (key : String) (v : Value) : Entries → Entries
  | [] => [(key, v)]
  | (k, w) :: es => if k = key then (k, v) :: es else (k, w) :: put key v es

end SeverityLog.Toml
