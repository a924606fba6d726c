import SeverityLog.Text.Blank
import SeverityLog.Text.LowerCase
import SeverityLog.Severity

/-!
# Failures

The causes for which the program fails or warns, each with its text, and the names by which a
severity and a sink are chosen. A name may stand between white space and in any case.
-/

namespace SeverityLog

inductive ReadFailure where
  | noSuchFile
  | notDirectory
  | isDirectory
  | nameTooLong
  | nulInName
  | notUtf8
  | other (text : String)
  deriving DecidableEq, Repr

def ReadFailure.message : ReadFailure → String
  | noSuchFile => "No such file or directory (os error 2)"
  | notDirectory => "Not a directory (os error 20)"
  | isDirectory => "Is a directory (os error 21)"
  | nameTooLong => "File name too long (os error 36)"
  | nulInName => "file name contained an unexpected NUL byte"
  | notUtf8 => "stream did not contain valid UTF-8"
  | other text => text

structure Setting where
  field : String
  expected : String
  deriving DecidableEq, Repr

inductive ConfigFailure where
  /-- An error of syntax or of a type, with what the TOML library says of it. -/
  | malformed (path text : String)
  | outOfRange (setting : Setting) (value : String)
  | unreadable (path : String) (cause : ReadFailure)
  deriving DecidableEq, Repr

namespace ConfigFailure

def message : ConfigFailure → String
  | malformed path text => "Config parse error '" ++ path ++ "': " ++ text
  | outOfRange setting value =>
    "Config '" ++ setting.field ++ "' = '" ++ value ++ "' is out of range. Expected: " ++
      setting.expected
  | unreadable path cause => "Config I/O error '" ++ path ++ "': " ++ cause.message

/-- The texts of the causes below the failure, nearest first. -/
def causes : ConfigFailure → List String
  | malformed _ text => [text]
  | outOfRange _ _ => []
  | unreadable _ cause => [cause.message]

end ConfigFailure

inductive Failure where
  | config (failure : ConfigFailure)
  | unknownSeverity (name : String)
  | unknownSink (name : String)
  | window (reason : String)
  deriving DecidableEq, Repr

namespace Failure

def message : Failure → String
  | config failure => "Configuration error: " ++ failure.message
  | unknownSeverity name =>
    "Unknown severity '" ++ name ++ "'. Expected one of: error, warning, info, debug"
  | unknownSink name => "Unknown sink '" ++ name ++ "'. Expected \"console\" or \"gui\""
  | window reason => "Failed to start host window: " ++ reason

def causes : Failure → List String
  | config failure => failure.message :: failure.causes
  | _ => []

end Failure

namespace Severity

def names : Severity → List String
  | error => ["error"]
  | warning => ["warning", "warn"]
  | info => ["info"]
  | debug => ["debug"]

def ofName? (name : String) : Option Severity :=
  all.find? fun s => Text.isSpelling s.names (Text.trim name.toList)

def parse (name : String) : Except Failure Severity :=
  (ofName? name).elim (.error (.unknownSeverity name)) .ok

end Severity

inductive SinkKind where
  | console
  | gui
  deriving DecidableEq, Repr, Inhabited

namespace SinkKind

def all : List SinkKind := [console, gui]

theorem mem_all (k : SinkKind) : k ∈ all := by cases k <;> simp [all]

def name : SinkKind → String
  | console => "console"
  | gui => "gui"

def label : SinkKind → String
  | console => "Console"
  | gui => "Gui"

def ofName? (name : String) : Option SinkKind :=
  all.find? fun k => Text.isSpelling [k.name] (Text.trim name.toList)

def parse (name : String) : Except Failure SinkKind :=
  (ofName? name).elim (.error (.unknownSink name)) .ok

theorem parse_eq_ok_iff {name : String} {k : SinkKind} :
    parse name = .ok k ↔ ofName? name = some k := by
  rw [parse]
  cases ofName? name <;> simp

theorem ofName?_name (k : SinkKind) : ofName? k.name = some k := by cases k <;> decide

end SinkKind

end SeverityLog
