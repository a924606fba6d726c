import SeverityLog.Diagnostic.Directive

/-!
# The filter for diagnostics

A filter is a list of directives, separated by commas. A part that is no directive is left out, but
one that cannot be cut into its pieces breaks the filter. Of the directives about a record the most
special one decides whether the record is shown, and of equally special ones the last.
-/

namespace SeverityLog.Diagnostic

abbrev Filter := List Directive

namespace Filter

def words (text : String) : List String :=
  ((text.toList.splitOn ',').map String.ofList).filter (· ≠ "")

/-- A text without any directive allows errors. -/
def parse (text : String) : Filter :=
  match (words text).filterMap fun word => (Directive.read word).toOption with
  | [] => [{ rank := Level.error.rank }]
  | ds => ds

def splitIn? (word : String) : Option Text.SplitCharacter :=
  match Directive.read word with
  | .error (.split character) => some character
  | _ => none

/-- The character on which the filter breaks, which is that of the first broken part. -/
def broken? (text : String) : Option Text.SplitCharacter := (words text).findSome? splitIn?

/-- The complaints about the parts that are no directives, as far as the filter is read. -/
def complaints (text : String) : List String :=
  ((words text).takeWhile fun word => (splitIn? word).isNone).filterMap fun word =>
    match Directive.read word with
    | .error fault => some ("ignoring `" ++ word ++ "`: " ++ fault.message)
    | .ok _ => none

/-- The later of two directives decides unless it comes first in precedence. -/
def prefer : Option Directive → Directive → Option Directive
  | none, d => some d
  | some best, d => if d.precedence best = .lt then some best else some d

def deciding? (target : String) (r : Record) (f : Filter) : Option Directive :=
  (f.filter (·.covers target r)).foldl prefer none

def permits (f : Filter) (target : String) (r : Record) : Bool :=
  match f.deciding? target r with
  | some d => r.level.rank ≤ d.rank
  | none => false

end Filter

end SeverityLog.Diagnostic
