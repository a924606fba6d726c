import SeverityLog.App
import SeverityLog.Host.View

/-!
# The window's controls

The application as its user meets it: each action finds its control on the screen, or does not,
and acts through the controls of one frame. The message field keeps the focus once it has it.
-/

namespace SeverityLog

structure Window where
  app : App
  reading : Reading
  focused : Bool := false

inductive Action where
  | send
  | clearLog
  /-- The close button of the widget at this place in the bar is pressed. -/
  | dismiss (index : Nat)
  | pickSeverity (severity : Severity)
  | toggleMirror
  | slide (notch : Nat)
  /-- The list of categories is opened, and the first entry of the label is picked. -/
  | pickCategory (label : String)
  | focus
  | type (text : String)
  | enter (control : Bool)
  | wait
  deriving DecidableEq, Repr

inductive Reply where
  | done
  | absent
  deriving DecidableEq, Repr

namespace Window

def categoryEntries (h : Host) : List (String × Option String) :=
  (Panel.allCategories, none) :: h.panel.categories.map fun c => (c, some c)

/-- The slider's notch nearest to a decimal number, `mantissa` divided by a power of ten. A half
goes up. -/
def notch (mantissa : Int) (places : Nat) : Nat :=
  let scale := Nat.pow 10 places
  min ((2 * mantissa.toNat + scale) / (2 * scale)) Verbosity.all.value.toNat

/-- A line break alone is not typed as text. It comes with the enter key. -/
def isBreak (text : String) : Bool := text == "\n" || text == "\r"

/-- The controls by which an action acts, or none if its control is not on the screen. -/
def controls? (w : Window) : Action → Option Controls
  | .send => some { send := true }
  | .clearLog => some { clear := true }
  | .dismiss i => if i < w.app.host.bar.length then some { dismiss := some i } else none
  | .pickSeverity s => some { severity := some s }
  | .toggleMirror => some { toggleMirror := true }
  | .slide n => some { slide := some n }
  | .pickCategory label =>
    ((categoryEntries w.app.host).lookup label).map fun filter => { filter := some filter }
  | .focus => some {}
  | .type text =>
    if w.focused && !isBreak text then
      some { draft := some (Composer.typed text w.app.host.composer.draft) }
    else some {}
  | .enter control =>
    if !w.focused then some {}
    else if control then some { sendKey := true }
    else some { draft := some (Composer.typed "\n" w.app.host.composer.draft) }
  | .wait => some {}

structure Step where
  window : Window
  reply : Reply := .done
  printed : String := ""
  events : List Event := []

def draw (k : Controls) (w : Window) : Step :=
  let f := w.app.frame w.reading.instant w.reading k
  { window := { w with app := f.app }, printed := f.printed, events := f.events }

def Step.andThen (s : Step) (next : Window → Step) : Step :=
  let t := next s.window
  { t with
    reply := if s.reply = .done then t.reply else s.reply
    printed := s.printed ++ t.printed
    events := s.events ++ t.events }

def start (r : Reading) (v : Verbosity) (initial : Option (Severity × String)) : Step :=
  let f := App.start r v initial
  { window := { app := f.app, reading := r }, printed := f.printed, events := f.events }

/-- The clock moves, and a frame is drawn. -/
def advance (r : Reading) (w : Window) : Step := { w with reading := r }.draw {}

def change (f : Host → Host) (w : Window) : Step :=
  { w with app := { w.app with host := f w.app.host } }.draw {}

/-- The action's frame, and one more frame after it. -/
def perform (a : Action) (w : Window) : Step :=
  match w.controls? a with
  | none => { w.draw {} with reply := .absent }
  | some k =>
    ({ w with focused := w.focused || a = Action.focus }.draw k).andThen (·.draw {})

end Window

end SeverityLog
