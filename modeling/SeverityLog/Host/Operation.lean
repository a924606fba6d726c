import SeverityLog.Host.State

/-!
# Operations on the host

A host is used directly or through a GUI sink on its surfaces. Its operations act on what it shows,
or on its composer and its filter. What they return is kept in the order in which they were done.
-/

namespace SeverityLog

namespace Host

/-- An operation on the bar or on the panel. Widgets and entries come with their stamps. -/
inductive Display where
  | clearWidgets
  | pushWidget (w : Widget)
  | expire (now : Instant)
  | dismiss (i : Nat)
  | appendPanel (e : PanelEntry)
  | clearPanel
  deriving DecidableEq, Repr

/-- An operation on the composer or on the filter. -/
inductive Edit where
  | draft (text : String)
  | severity (s : Severity)
  | verbosity (v : Verbosity)
  | mirror (on : Bool)
  | filter (category : Option String)
  | submit
  | takePending
  deriving DecidableEq, Repr

inductive Operation where
  | display (d : Display)
  | edit (e : Edit)
  /-- A call through a sink of threshold `v`, at a reading of the clock. -/
  | call (r : Reading) (v : Verbosity) (q : Request)
  deriving DecidableEq, Repr

structure Session where
  host : Host
  /-- The numbers of widgets that expiries removed. -/
  expired : List Nat := []
  /-- What was waiting, or that nothing was, whenever the waiting message was taken. -/
  taken : List (Option (Severity × String)) := []
  /-- The answers to the calls. -/
  answers : List (Option Bool) := []
  deriving DecidableEq, Repr

namespace Session

def display (s : Session) : Display → Session
  | .clearWidgets => { s with host := s.host.clearWidgets }
  | .pushWidget w => { s with host := s.host.pushWidget w }
  | .expire now =>
    let (host, count) := s.host.expire now
    { s with host, expired := s.expired ++ [count] }
  | .dismiss i => { s with host := s.host.dismiss i }
  | .appendPanel e => { s with host := s.host.appendPanel e }
  | .clearPanel => { s with host := s.host.clearPanel }

def compose (f : Composer → Composer) (s : Session) : Session :=
  { s with host := { s.host with composer := f s.host.composer } }

def edit (s : Session) : Edit → Session
  | .draft text => s.compose ({ · with draft := text })
  | .severity severity => s.compose ({ · with severity })
  | .verbosity verbosity => s.compose ({ · with verbosity })
  | .mirror on => s.compose ({ · with mirror := on })
  | .filter category => { s with host := { s.host with filter := category } }
  | .submit => { s with host := s.host.submit }
  | .takePending =>
    let (message, host) := s.host.takePending
    { s with host, taken := s.taken ++ [message] }

def step (s : Session) : Operation → Session
  | .display d => s.display d
  | .edit e => s.edit e
  | .call r v q =>
    let o := ((logger r v).nested q.handles).perform q.call s.host
    { s with host := o.state, answers := s.answers ++ [o.answer] }

def run (os : List Operation) (s : Session) : Session := os.foldl step s

theorem run_append (os os' : List Operation) (s : Session) :
    s.run (os ++ os') = (s.run os).run os' := List.foldl_append

end Session

end Host

end SeverityLog
