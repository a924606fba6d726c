import SeverityLog.Appearance
import SeverityLog.Clock

/-!
# The log panel

The panel keeps the last five thousand entries, oldest first. A filter shows the entries of one
category.
-/

namespace SeverityLog

structure PanelEntry where
  timestamp : Timestamp
  category : String
  level : PanelLevel
  text : String
  deriving DecidableEq, Repr

abbrev Panel := List PanelEntry

namespace Panel

def capacity : Nat := 5000

def append (e : PanelEntry) (p : Panel) : Panel := (p ++ [e]).drop (p.length + 1 - capacity)

/-- The categories that occur, in the order of their first entries. -/
def categories (p : Panel) : List String :=
  p.foldl (fun seen e => if seen.contains e.category then seen else seen ++ [e.category]) []

def visible (filter : Option String) (p : Panel) : List PanelEntry :=
  match filter with
  | some category => p.filter (·.category == category)
  | none => p

end Panel

end SeverityLog
