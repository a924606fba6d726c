import SeverityLog.Event

/-!
# The surfaces of a host

A host has a bar, which shows messages for some seconds, and a panel, which keeps them under a
category. A GUI sink clears the bar, pushes the message on it, and adds it to the panel; these are
three separate calls.
-/

namespace SeverityLog

inductive SurfaceCall where
  | clearWidgets
  | pushMessage (title text : String) (style : BarStyle) (seconds : Nat)
  | logMessage (text category : String) (level : PanelLevel)
  deriving DecidableEq, Repr

namespace GuiSink

/-- The panel's category for all messages of the plugin. -/
def title : String := "Intel Autonomus Driving Map"

def barSeconds : Nat := 5

def calls (e : Entry) : List SurfaceCall :=
  let look := Appearance.ofTag e.tag
  [.clearWidgets,
    .pushMessage e.tag e.message look.style barSeconds,
    .logMessage e.message title look.level]

/-- A sink over surfaces that change their state `σ` call by call. -/
def logger {σ : Type} (apply : SurfaceCall → σ → σ) (v : Verbosity) : Logger σ (List Event) where
  verbosity := v
  deliver e s := ⟨(calls e).foldl (fun s c => apply c s) s, [.sinkDispatched e.tag]⟩

end GuiSink

/-- Surfaces that keep every call, oldest first. -/
structure Recorder where
  calls : List SurfaceCall := []
  deriving DecidableEq, Repr

namespace Recorder

def record (c : SurfaceCall) (r : Recorder) : Recorder := ⟨r.calls ++ [c]⟩

/-- The calls so far, and a recorder without them. -/
def take (r : Recorder) : List SurfaceCall × Recorder := (r.calls, {})

def logger (v : Verbosity) : Logger Recorder (List Event) := GuiSink.logger record v

/-- A call through the sink, or the calls so far are taken. -/
inductive Step where
  | request (q : Request)
  | take
  deriving DecidableEq, Repr

def Step.request? : Step → Option Request
  | request q => some q
  | take => none

/-- A recorder in use, with the answers and the batches that were handed out. -/
structure Session where
  recorder : Recorder := {}
  answers : List (Option Bool) := []
  batches : List (List SurfaceCall) := []
  deriving DecidableEq, Repr

namespace Session

def step (v : Verbosity) (s : Session) : Step → Session
  | .request q =>
    let o := ((logger v).nested q.handles).perform q.call s.recorder
    { s with recorder := o.state, answers := s.answers ++ [o.answer] }
  | .take =>
    let (batch, rest) := s.recorder.take
    { s with recorder := rest, batches := s.batches ++ [batch] }

def run (v : Verbosity) (steps : List Step) (s : Session) : Session := steps.foldl (step v) s

def recorded (s : Session) : List SurfaceCall := s.batches.flatten ++ s.recorder.calls

end Session

end Recorder

end SeverityLog
