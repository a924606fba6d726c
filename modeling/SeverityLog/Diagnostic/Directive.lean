import SeverityLog.Diagnostic
import SeverityLog.Diagnostic.Pattern
import SeverityLog.Text.Alphanumeric
import SeverityLog.Text.Blank
import SeverityLog.Text.Offset

/-!
# Directives

A directive is one part of a filter. It says which records it is about and up to which level it
allows them, as `target[span with a field in braces]=level`. Each piece may be left out; a word
alone is a level if it names one, and else a target.
-/

namespace SeverityLog.Diagnostic

/-- A field that a record has to have, with the value if one is asked for. -/
structure Requirement where
  name : String
  value : Option String := none
  deriving DecidableEq, Repr

/-- The rank bounds the ranks of levels; zero allows none. -/
structure Directive where
  target : String := ""
  span : Option String := none
  field : Option Requirement := none
  rank : Nat
  deriving DecidableEq, Repr

namespace Directive

inductive Fault where
  | form
  | level
  | value (cause : Pattern.Fault)
  /-- The text cannot be cut into its pieces. -/
  | split (character : Text.SplitCharacter)
  deriving DecidableEq, Repr

def Fault.message : Fault → String
  | form => "invalid filter directive"
  | level =>
    "error parsing level filter: expected one of \"off\", \"error\", \"warn\", \"info\", " ++
      "\"debug\", \"trace\", or a number 0-5"
  | value cause => "invalid field filter: " ++ cause.message
  | split character => character.message

def rank? (word : String) : Option Nat :=
  let lower := word.toLower
  match Level.all.find? (·.label.toLower == lower) with
  | some level => some level.rank
  | none =>
    if lower = "off" then some 0
    else
      let ds := match word.toList with
        | '+' :: ds => ds
        | ds => ds
      if ds.all Char.isDigit then (String.ofList ds).toNat?.filter (· ≤ 5) else none

/-- A directive that names no level allows every level. -/
def everything : Nat := Level.trace.rank

def startsTarget (c : Char) : Bool :=
  Text.isAlphanumeric c || c == '-' || c == ':' || c == '_'

/-! ## Fields -/

def dropSign : List Char → List Char
  | '+' :: r | '-' :: r => r
  | s => s

/-- Digits with at most one point among them, and perhaps an exponent; or the name of a value that
no digits denote. -/
def isNumber (s : List Char) : Bool :=
  let s := dropSign s
  let whole := s.takeWhile Char.isDigit
  let (fraction, r) := match s.drop whole.length with
    | '.' :: r => (r.takeWhile Char.isDigit, r.dropWhile Char.isDigit)
    | r => ([], r)
  let ends := match r with
    | [] => true
    | c :: r => (c == 'e' || c == 'E') && !(dropSign r).isEmpty && (dropSign r).all Char.isDigit
  ["inf", "infinity", "nan"].contains (String.ofList (s.map Char.toLower)) ||
    (ends && !(whole ++ fraction).isEmpty)

/-- A name, and perhaps a value after an equals sign. What follows a second equals sign does not
count. A value that is no number is a pattern. -/
def requirement (text : String) : Except Fault Requirement :=
  match text.splitOn "=" with
  | name :: value :: _ =>
    if isNumber value.toList then .ok { name, value := some value }
    else match Pattern.fault? value.toList with
      | some cause => .error (.value cause)
      | none => .ok { name, value := some value }
  | _ => .ok { name := text }

/-! ## Reading

The form of a directive is found in the text without the blanks around it. Its pieces are cut out
of the whole text at the offsets found, so a blank in front shifts every piece, and a blank of
several bytes can make a cut fail. A piece is cut out as soon as its end is found.
-/

open Text (Located)

def piece (whole : Located) (first past : Nat) : Except Fault String :=
  (whole.cut first past).mapError .split

/-- The bound after an equals sign, which may be left out together with it. -/
def readBound (whole : Located) : Located → Except Fault Nat
  | [] => .ok everything
  | (n, c) :: _ => do
    if c != '=' then .error .form
    let level ← (whole.cutFrom (n + 1)).mapError .split
    if level = "" then .ok everything else (rank? level).elim (.error .level) .ok

/-- The rest of a directive after the bracket at an offset: a span, a field in braces, and the
bound. -/
def readSpan (whole : Located) (target : String) (opening : Nat) (s : Located) :
    Except Fault Directive :=
  match s.dropWhile fun (_, c) => c != ']' && c != '\x7b' with
  | [] => .error .form
  | (n, ']') :: r => do
    pure { target, span := some (← piece whole (opening + 1) n), rank := ← readBound whole r }
  | (n, _) :: r => do
    let span ← piece whole (opening + 1) n
    match r.dropWhile (·.2 != '\x7d') with
    | [] => .error .form
    | (m, _) :: r =>
      let text ← piece whole (n + 1) m
      let field ← if text = "" then .error .form else requirement text
      match r with
      | (_, ']') :: r =>
        pure { target, span := if span = "" then none else some span, field := some field
               rank := ← readBound whole r }
      | _ => .error .form

def read (word : String) : Except Fault Directive :=
  let whole := Text.locate 0 word.toList
  match Text.locate 0 (Text.trim word.toList) with
  | [] => .error .form
  | (n, c) :: s =>
    if c = '[' then readSpan whole "" n s
    else if !startsTarget c then .error .form
    else
      match s.dropWhile fun (_, c) => c != '=' && c != '[' with
      | [] =>
        match rank? word with
        | some rank => .ok { rank }
        | none => .ok { target := word, rank := everything }
      | (m, '[') :: r => do readSpan whole (← piece whole 0 m) m r
      | r@((m, _) :: _) => do pure { target := ← piece whole 0 m, rank := ← readBound whole r }

/-! ## Records -/

/-- Spans and values of fields are asked of spans only, and no record of the program stands in a
span. -/
def isAboutSpans (d : Directive) : Bool := d.span.isSome || d.field.any (·.value.isSome)

def covers (target : String) (r : Record) (d : Directive) : Bool :=
  !d.isAboutSpans && target.startsWith d.target && d.field.all (r.names.contains ·.name)

/-- Of two directives about one record the later in this order decides: the one with the longer
target, and then the one with a field, or with the greater name of a field. -/
def precedence (a b : Directive) : Ordering :=
  let name (d : Directive) := (d.field.map Requirement.name).getD ""
  (compare a.target.utf8ByteSize b.target.utf8ByteSize).then (compare (name a) (name b))

end Directive

end SeverityLog.Diagnostic
