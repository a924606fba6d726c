import SeverityLog.Config
import SeverityLog.File
import SeverityLog.Toml.Document

/-!
# Loading the configuration

A file is read as a TOML document, of which two sections count. What cannot be read leaves every
setting at its default, with one warning; a missing file leaves none.
-/

namespace SeverityLog

namespace RawConfig

/-- The values of a section by name, or by position when the section is an array. A date has no
values. -/
def sectionValues (names : List String) : Option Toml.Value → Option (List (Option Toml.Value))
  | none | some (.dateTime _) => some (names.map fun _ => none)
  | some (.table _ es) => some (names.map fun name => es.lookup name)
  | some (.array items) => some ((List.range names.length).map (items[·]?))
  | some (.tables elements) =>
    some ((List.range names.length).map fun i => (elements[i]?).map (.table .header))
  | some _ => none

/-- A setting that is absent, or of the right type. -/
def typed {α : Type} (read : Toml.Value → Option α) : Option Toml.Value → Option (Option α)
  | none => some none
  | some v => (read v).map some

def integer? : Toml.Value → Option Int
  | .integer n => some n
  | _ => none

def string? : Toml.Value → Option String
  | .string s => some s
  | _ => none

/-- The settings of a document. Fails when a setting or a section is of the wrong type. -/
def ofDocument? (root : Toml.Entries) : Option RawConfig := do
  let logger ← sectionValues ["verbosity", "sink"] (root.lookup "logger")
  let verbosity ← typed integer? (logger[0]?.join)
  let sink ← typed string? (logger[1]?.join)
  let logging ← sectionValues ["level"] (root.lookup "logging")
  let level ← typed string? (logging[0]?.join)
  some { verbosity, sink, level }

def parse? (document : String) : Option RawConfig := (Toml.parse? document).bind ofDocument?

/-- What the TOML library says of a document that it refuses is given from outside. -/
def read (refusal path : String) (found : Lookup) : Except ConfigFailure RawConfig :=
  match found.text with
  | .error cause => .error (.unreadable path cause)
  | .ok document => (parse? document).elim (.error (.malformed path refusal)) .ok

end RawConfig

namespace Config

structure Loaded where
  config : Config := {}
  warnings : List String := []
  events : List Event := []

def load (refusal path : String) (found : Lookup) : Loaded :=
  if !found.isPresent then { events := [.configAbsent path] }
  else
    match RawConfig.read refusal path found with
    | .error failure =>
      let warning := failure.message ++ ". Using defaults."
      { warnings := [warning], events := [.configRejected warning] }
    | .ok raw =>
      let (config, problems) := raw.validate
      let warnings := problems.map fun p => p.message ++ ". Using default."
      let doubts := if warnings.isEmpty then [] else [.configDoubtful warnings.length]
      { config, warnings, events := .configLoaded path :: doubts }

/-- Each setting is the value in the file if there is one that is accepted, and its default
otherwise. -/
def accepted (written : Option RawConfig) : Config where
  verbosity := (written.bind fun raw => raw.verbosity.bind RawConfig.verbosity?).getD .all
  sink := (written.bind fun raw => raw.sink.bind SinkKind.ofName?).getD .console
  logLevel := written.bind fun raw => raw.level.bind RawConfig.level?

/-- A missing file counts as one that cannot be read. -/
theorem config_load (refusal path : String) (found : Lookup) :
    (load refusal path found).config =
      accepted (RawConfig.read refusal path found).toOption := by
  cases found with
  | failed cause => rfl
  | directory => rfl
  | unreadable cause => rfl
  | file bytes =>
    cases hread : RawConfig.read refusal path (.file bytes) with
    | error failure => simp [load, Lookup.isPresent, accepted, hread, Except.toOption]
    | ok raw =>
      simp [load, Lookup.isPresent, accepted, hread, Except.toOption, RawConfig.validate_fst]

end Config

end SeverityLog
