import SeverityLog.Text.Unprintable

/-!
# Diagnostic records

What the program tells about itself, apart from the messages that it delivers: a level, a text and
named values.
-/

namespace SeverityLog

namespace Diagnostic

/-- Ordered from the fewest to the most records. -/
inductive Level where
  | error
  | warn
  | info
  | debug
  | trace
  deriving DecidableEq, Repr, Inhabited

namespace Level

def all : List Level := [error, warn, info, debug, trace]

def rank : Level → Nat
  | error => 1
  | warn => 2
  | info => 3
  | debug => 4
  | trace => 5

def label : Level → String
  | error => "ERROR"
  | warn => "WARN"
  | info => "INFO"
  | debug => "DEBUG"
  | trace => "TRACE"

end Level

structure Field where
  name : String
  text : String
  deriving DecidableEq, Repr

namespace Field

def quoted (name value : String) : Field := ⟨name, Text.quoted value⟩

def shown {α : Type} [ToString α] (name : String) (value : α) : Field := ⟨name, toString value⟩

def written (f : Field) : String := f.name ++ "=" ++ f.text

end Field

structure Record where
  level : Level
  message : String
  fields : List Field := []
  /-- The names of values that the record has and does not show. -/
  hidden : List String := []
  deriving DecidableEq, Repr

namespace Record

/-- The level, the part of the program that speaks, the text, and the values. -/
def line (target : String) (r : Record) : String :=
  " ".intercalate ([r.level.label, target ++ ":", r.message] ++ r.fields.map Field.written)

/-- The names of everything that a record has. The text is the value of `message`. -/
def names (r : Record) : List String := "message" :: r.fields.map Field.name ++ r.hidden

end Record

end Diagnostic

end SeverityLog
