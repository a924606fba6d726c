import SeverityLog.Host.State

/-!
# Sinks that share a host

Several GUI sinks deliver to one host at the same time. Each call on a surface is one step, and
between two steps of a sink the other sinks and the expiry of widgets may take theirs. What the
surfaces were asked for is recorded with the sink that asked.
-/

namespace SeverityLog

namespace GuiSink

inductive Stage where
  | idle
  /-- The bar has been cleared for the message. -/
  | cleared (e : Entry)
  /-- The message is on the bar and not yet in the panel. -/
  | pushed (e : Entry)
  deriving DecidableEq, Repr

/-- A sink with the calls that it has not begun yet. -/
structure Worker where
  verbosity : Verbosity
  stage : Stage := .idle
  waiting : List Call
  deriving DecidableEq, Repr

namespace Worker

/-- The next call on a surface, if one is due. An idle sink takes up its next call, which comes to
nothing when the threshold does not permit it. -/
def advance (w : Worker) : Option SurfaceCall × Worker :=
  match w.stage, w.waiting with
  | .cleared e, _ => ((calls e)[1]?, { w with stage := .pushed e })
  | .pushed e, _ => ((calls e)[2]?, { w with stage := .idle })
  | .idle, [] => (none, w)
  | .idle, call :: waiting =>
    match call.delivery? w.verbosity with
    | some e => ((calls e)[0]?, { w with stage := .cleared e, waiting })
    | none => (none, { w with waiting })

def current (w : Worker) : List Entry :=
  match w.stage with
  | .idle => []
  | .cleared e | .pushed e => [e]

end Worker

end GuiSink

/-- A call on a surface, with the sink that made it and the clock at that moment. -/
structure Made (k : Nat) where
  sink : Fin k
  reading : Reading
  call : SurfaceCall
  deriving DecidableEq, Repr

namespace Made

variable {k : Nat}

def widget? : Made k → Option (Fin k × Widget)
  | ⟨i, r, .pushMessage title text style seconds⟩ =>
    some (i, { title, text, style, pushedAt := r.instant, seconds })
  | _ => none

def entry? : Made k → Option (Fin k × PanelEntry)
  | ⟨i, r, .logMessage text category level⟩ =>
    some (i, { timestamp := r.timestamp, category, level, text })
  | _ => none

end Made

/-- A host that `k` sinks share, and what they have asked of its surfaces, oldest first. -/
structure Sharing (k : Nat) where
  host : Host
  workers : Fin k → GuiSink.Worker
  made : List (Made k) := []

namespace Sharing

variable {k : Nat}

/-- The sinks before their first call, on a host with an empty bar and an empty panel. -/
def start (h : Host) (v : Fin k → Verbosity) (calls : Fin k → List Call) : Sharing k where
  host := { h with bar := [], panel := [] }
  workers i := { verbosity := v i, waiting := calls i }

inductive Move (k : Nat) where
  | advance (i : Fin k) (r : Reading)
  | expire (now : Instant)
  deriving DecidableEq, Repr

def Move.isAdvance : Move k → Bool
  | advance _ _ => true
  | expire _ => false

def setWorker (i : Fin k) (w : GuiSink.Worker) (s : Sharing k) : Sharing k :=
  { s with workers := fun j => if j = i then w else s.workers j }

def perform (i : Fin k) (r : Reading) (c : SurfaceCall) (s : Sharing k) : Sharing k :=
  { s with host := s.host.apply r c, made := s.made ++ [⟨i, r, c⟩] }

def step (s : Sharing k) : Move k → Sharing k
  | .advance i r =>
    let (call?, w) := (s.workers i).advance
    let s := s.setWorker i w
    match call? with
    | some c => s.perform i r c
    | none => s
  | .expire now => { s with host := (s.host.expire now).1 }

def run (moves : List (Move k)) (s : Sharing k) : Sharing k := moves.foldl step s

def pushed (s : Sharing k) : List (Fin k × Widget) := s.made.filterMap Made.widget?

/-- The widgets that were pushed since the bar was last cleared, each with its sink. -/
def sinceClear (s : Sharing k) : List (Fin k × Widget) :=
  (s.made.reverse.takeWhile (·.call ≠ .clearWidgets)).reverse.filterMap Made.widget?

def logged (s : Sharing k) : List (Fin k × PanelEntry) := s.made.filterMap Made.entry?

def loggedBy (i : Fin k) (s : Sharing k) : List PanelEntry :=
  (s.logged.filter (·.1 = i)).map Prod.snd

end Sharing

end SeverityLog
