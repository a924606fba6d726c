import SeverityLog.Appearance
import SeverityLog.Diagnostic
import SeverityLog.Logger

/-!
# Events of the library

The diagnostic records that sinks, the host application and the reading of the configuration
produce. No result depends on them.
-/

namespace SeverityLog

inductive Event where
  | pathsResolved (directory : String)
  | configAbsent (path : String)
  | configLoaded (path : String)
  | configRejected (warning : String)
  | configDoubtful (count : Nat)
  | sinkAttached (verbosity : Verbosity)
  | sinkDispatched (tag : String)
  | widgetsExpired (count : Nat)
  | verbosityChanged (before after : Verbosity)
  | messageComposed (severity : Severity) (message : String)
  deriving DecidableEq, Repr

namespace Event

open Diagnostic

def record : Event → Record
  | pathsResolved directory =>
    { level := .debug, message := "Platform paths resolved", fields := [.shown "config" directory] }
  | configAbsent path =>
    { level := .debug, message := "No config.toml found; using defaults"
      fields := [.shown "path" path] }
  | configLoaded path =>
    { level := .info, message := "Loaded config.toml", fields := [.shown "path" path] }
  | configRejected warning => { level := .warn, message := warning }
  | configDoubtful count =>
    { level := .warn, message := "Config validation produced warnings"
      fields := [.shown "count" count] }
  | sinkAttached verbosity =>
    { level := .debug, message := "GUI sink attached to host surfaces"
      fields := [.shown "verbosity" verbosity] }
  | sinkDispatched tag =>
    { level := .trace, message := "GUI sink dispatch"
      fields := [.quoted "tag" tag, .shown "style" (Appearance.ofTag tag).style.label,
        .shown "level" (Appearance.ofTag tag).level.name] }
  | widgetsExpired count =>
    { level := .trace, message := "Message bar widgets expired"
      fields := [.shown "expired" count] }
  | verbosityChanged before after =>
    { level := .debug, message := "Verbosity changed; rebuilding sinks"
      fields := [.shown "from" before, .shown "to" after] }
  | messageComposed severity message =>
    { level := .debug, message := "Dispatching composed message"
      fields := [.shown "severity" severity, .shown "len" message.utf8ByteSize] }

end Event

end SeverityLog
