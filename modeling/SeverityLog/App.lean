import SeverityLog.Console
import SeverityLog.Host.State

/-!
# The host application

The application owns a host and two sinks, one on the host's surfaces and one on the console. In a
frame it removes expired widgets, lets the controls act, brings the sinks to the threshold that the
composer shows, dispatches the message that waits, and asks for the next frame.
-/

namespace SeverityLog

structure Controls where
  /-- The widget whose close button is pressed. -/
  dismiss : Option Nat := none
  severity : Option Severity := none
  slide : Option Nat := none
  toggleMirror : Bool := false
  /-- The draft after the text was edited. -/
  draft : Option String := none
  send : Bool := false
  /-- Control and Enter are pressed in the message field. -/
  sendKey : Bool := false
  filter : Option (Option String) := none
  clear : Bool := false
  deriving DecidableEq, Repr

namespace Composer

/-- The composer after its controls have acted, before the draft is submitted. -/
def edit (k : Controls) (c : Composer) : Composer :=
  { c with
    severity := k.severity.getD c.severity
    verbosity := (k.slide.map (slide · c.verbosity)).getD c.verbosity
    mirror := c.mirror != k.toggleMirror
    draft := k.draft.getD c.draft }

end Composer

namespace Host

/-- The three parts of the window act on the host in the order bar, composer, panel. -/
def act (k : Controls) (h : Host) : Host :=
  let h := match k.dismiss with
    | some i => h.dismiss i
    | none => h
  let h := { h with composer := h.composer.edit k }
  let h := if k.send || k.sendKey then h.submit else h
  let h := { h with filter := k.filter.getD h.filter }
  if k.clear then h.clearPanel else h

end Host

structure App where
  host : Host
  guiVerbosity : Verbosity
  consoleVerbosity : Verbosity
  deriving DecidableEq, Repr

/-- The application after a step, the text that it printed, and its events. -/
structure Frame where
  app : App
  printed : String := ""
  events : List Event := []

namespace App

/-- The GUI sink takes the message first. The console takes it when it is mirrored. -/
def dispatch (r : Reading) (message : Severity × String) (mirror : Bool) (a : App) : Frame :=
  let call := Call.emit message.1 message.2
  let shown := (Host.logger r a.guiVerbosity).perform call a.host
  { app := { a with host := shown.state }
    printed := if mirror then Console.printed a.consoleVerbosity call else ""
    events := .messageComposed message.1 message.2 :: shown.report }

def send (r : Reading) (message : Option (Severity × String)) (mirror : Bool) (a : App) : Frame :=
  match message with
  | none => { app := a }
  | some message => a.dispatch r message mirror

/-- Both sinks are built again when the GUI sink's threshold is not the given one. -/
def sync (v : Verbosity) (a : App) : App × List Event :=
  if a.guiVerbosity = v then (a, [])
  else ({ a with guiVerbosity := v, consoleVerbosity := v },
    [.verbosityChanged a.guiVerbosity v, .sinkAttached v])

/-- An application on a host. Its sinks take the threshold of the host, and the initial message is
dispatched at once and not mirrored. -/
def attach (r : Reading) (h : Host) (initial : Option (Severity × String)) : Frame :=
  let v := h.composer.verbosity
  let app : App := { host := h, guiVerbosity := v, consoleVerbosity := v }
  let f := app.send r initial false
  { f with events := .sinkAttached v :: f.events }

def start (r : Reading) (v : Verbosity) (initial : Option (Severity × String)) : Frame :=
  attach r (.new v) initial

/-- A frame at a time. The clock is read again when the message is dispatched. -/
def frame (now : Instant) (r : Reading) (k : Controls) (a : App) : Frame :=
  let (host, expired) := a.host.expire now
  let (pending, host) := (host.act k).takePending
  let expiry := if expired = 0 then [] else [.widgetsExpired expired]
  let (app, changes) := sync host.composer.verbosity { a with host }
  let f := app.send r pending host.composer.mirror
  { f with events := expiry ++ changes ++ f.events }

inductive Repaint where
  | atOnce
  | after (delay : Nat)
  deriving DecidableEq, Repr

/-- A frame that sends a message is followed by another at once. Otherwise the countdown asks for
one every second while the bar is not empty, and for one when the next widget expires. -/
def repaint (now : Instant) (k : Controls) (a : App) : Option Repaint :=
  let (pending, host) := ((a.host.expire now).1.act k).takePending
  match pending with
  | some _ => some .atOnce
  | none => (host.bar.nextExpiry now).map fun delay => .after (min delay nanosPerSecond)

end App

/-- A frame in a run of the application, and the threshold that the host is given from outside
before it. -/
structure Turn where
  now : Instant
  reading : Reading
  controls : Controls := {}
  verbosity : Option Verbosity := none
  deriving DecidableEq, Repr

def Host.adjust (v : Option Verbosity) (h : Host) : Host :=
  { h with composer := { h.composer with verbosity := v.getD h.composer.verbosity } }

def App.turn (t : Turn) (a : App) : Frame :=
  { a with host := a.host.adjust t.verbosity }.frame t.now t.reading t.controls

namespace Frame

/-- What was printed and reported before comes first. -/
def andThen (f : Frame) (next : App → Frame) : Frame :=
  let g := next f.app
  { app := g.app, printed := f.printed ++ g.printed, events := f.events ++ g.events }

def follow (turns : List Turn) (f : Frame) : Frame :=
  turns.foldl (fun f t => f.andThen (App.turn t)) f

end Frame

end SeverityLog
