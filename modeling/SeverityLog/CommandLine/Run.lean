import SeverityLog.CommandLine.Help
import SeverityLog.CommandLine.Parse
import SeverityLog.Config.Load
import SeverityLog.Console
import SeverityLog.Diagnostic.Filter
import SeverityLog.Path

/-!
# Running the program

The command line, the configuration and the defaults are merged setting by setting, and the message
is sent through the chosen sink. Diagnostics go to standard error; the outcome does not depend on
them, unless their filter is broken and the program is aborted.
-/

namespace SeverityLog.CommandLine

inductive Notice where
  | initialised
  | configWarning (warning : String)
  | starting (sink : SinkKind) (verbosity : Verbosity)
  | noMessage
  | opening
  | failed (failure : Failure)
  deriving DecidableEq, Repr

def applicationName : String := "AdMapLog"

namespace Notice

open Diagnostic

/-- The part of the program that speaks. -/
def target : Notice → String
  | initialised => "admap_log::util::logging"
  | opening => "eframe"
  | _ => "admap_log"

def record : Notice → Record
  | initialised =>
    { level := .debug, message := "Logging initialised"
      fields := [.quoted "app" applicationName, .quoted "version" programVersion,
        .shown "installed" "true"] }
  | configWarning warning =>
    { level := .warn, message := "Config warning", fields := [.shown "warning" warning] }
  | starting sink verbosity =>
    { level := .info, message := "AdMapLog starting"
      fields := [.quoted "version" programVersion, .shown "sink" sink.label,
        .shown "verbosity" verbosity] }
  | noMessage => { level := .warn, message := "No message given; nothing to log" }
  | opening =>
    { level := .debug, message := "Using the glow renderer"
      hidden := ["log.target", "log.module_path", "log.file", "log.line"] }
  | failed failure =>
    { level := .error, message := "AdMapLog failed", fields := [.shown "error" failure.message] }

end Notice

structure Resolved where
  severity : Severity
  sink : SinkKind
  verbosity : Verbosity
  deriving DecidableEq, Repr

/-- The command line wins over the configuration. -/
def resolve (i : Invocation) (c : Config) : Except Failure Resolved := do
  let severity ← Severity.parse i.level
  let sink ← match i.sink with
    | some name => SinkKind.parse name
    | none => pure c.sink
  pure { severity, sink, verbosity := (i.verbosity.map Verbosity.mk).getD c.verbosity }

inductive Ending where
  | done
  | failed (failure : Failure)
  /-- The filter for the diagnostics is broken. -/
  | aborted (character : Text.SplitCharacter)
  deriving DecidableEq, Repr

namespace Ending

/-- An aborted program is stopped by a signal. -/
def exitCode : Ending → UInt8
  | done => 0
  | failed _ => 1
  | aborted _ => 134

def lines : Ending → List String
  | done => []
  | failed failure => ["Error: " ++ failure.message]
  | aborted character => [character.message]

end Ending

/-- A run of the program. The notices and events are what it reports on the way. -/
structure Run where
  ending : Ending
  printed : String := ""
  notices : List Notice := []
  events : List Event := []
  config : Config := {}

/-- The directory is looked up only if the command line names no file. -/
def configPath (i : Invocation) (e : Environment) : String × List Event :=
  match i.config with
  | some path => (path, [])
  | none => (Config.fileIn e.configDirectory, [.pathsResolved e.configDirectory])

def send (r : Resolved) (message : Option String) (window : Except String Unit) :
    Ending × String × List Notice :=
  match r.sink, message with
  | .console, some m => (.done, Console.printed r.verbosity (.emit r.severity m), [])
  | .console, none => (.done, "", [.noMessage])
  | .gui, _ =>
    match window with
    | .ok () => (.done, "", [.opening])
    | .error reason => (.failed (.window reason), "", [.opening, .failed (.window reason)])

/-- A run with what the path of its configuration leads to, what the TOML library says of it if it
refuses it, and what opening a window comes to, when the diagnostics work. -/
def runWith (refusal : String) (i : Invocation) (path : String × List Event) (found : Lookup)
    (window : Except String Unit) : Run :=
  let loaded := Config.load refusal path.1 found
  let events := path.2 ++ loaded.events
  let first := .initialised :: loaded.warnings.map .configWarning
  match resolve i loaded.config with
  | .error failure =>
    { ending := .failed failure, notices := first ++ [.failed failure], events
      config := loaded.config }
  | .ok r =>
    let (ending, printed, notices) := send r i.message window
    { ending, printed, events, config := loaded.config
      notices := first ++ [.starting r.sink r.verbosity] ++ notices }

def defaultLogLevel : String := "info"

/-- The text of the filter: the environment's, or `debug` when asked for, or the configured
level. -/
def filterText (i : Invocation) (e : Environment) (c : Config) : String :=
  match e.logFilter with
  | some text => text
  | none => if i.debug then "debug" else c.logLevel.getD defaultLogLevel

open Diagnostic

/-- A run, of which nothing is left but the loading of its configuration when the filter for the
diagnostics is broken. -/
def run (refusal : String) (i : Invocation) (e : Environment) (lookup : String → Lookup)
    (window : Except String Unit) : Run :=
  let path := configPath i e
  let r := runWith refusal i path (lookup path.1) window
  match Filter.broken? (filterText i e r.config) with
  | some character => { ending := .aborted character, events := r.events, config := r.config }
  | none => r

def Run.errorLines (i : Invocation) (e : Environment) (r : Run) : List String :=
  let text := filterText i e r.config
  let shown := r.notices.filter fun n => (Filter.parse text).permits n.target n.record
  Filter.complaints text ++ shown.map (fun n => n.record.line n.target) ++ r.ending.lines

structure Output where
  exit : UInt8
  printed : String
  errors : List String

/-- The text that a stop prints on standard output, and the exit code. The text of a usage error is
left to the caller. -/
def Stop.output : Stop → Output
  | .help long => ⟨0, helpText long, []⟩
  | .version => ⟨0, versionText, []⟩
  | _ => ⟨2, "", []⟩

def configFile? (words : List String) (e : Environment) : Option String :=
  (parse words).toOption.map fun i => (configPath i e).1

def program (refusal : String) (words : List String) (e : Environment) (lookup : String → Lookup)
    (window : Except String Unit) : Output :=
  match parse words with
  | .error stop => stop.output
  | .ok i =>
    let r := run refusal i e lookup window
    ⟨r.ending.exitCode, r.printed, r.errorLines i e⟩

end SeverityLog.CommandLine
