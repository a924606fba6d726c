import SeverityLog.Host.Bar
import SeverityLog.Host.Panel
import SeverityLog.Host.Composer
import SeverityLog.Surface

/-!
# The demo host

The host owns a bar, a panel with its filter, and a composer. Calls on its surfaces touch the bar
and the panel only.
-/

namespace SeverityLog

structure Host where
  bar : Bar := []
  panel : Panel := []
  filter : Option String := none
  composer : Composer := {}
  deriving DecidableEq, Repr

namespace Host

def new (v : Verbosity) : Host := { composer := { verbosity := v } }

def clearWidgets (h : Host) : Host := { h with bar := [] }

def pushWidget (w : Widget) (h : Host) : Host := { h with bar := h.bar.push w }

def expire (now : Instant) (h : Host) : Host × Nat :=
  let (bar, count) := h.bar.expire now
  ({ h with bar }, count)

def dismiss (i : Nat) (h : Host) : Host := { h with bar := h.bar.dismiss i }

def appendPanel (e : PanelEntry) (h : Host) : Host := { h with panel := h.panel.append e }

def clearPanel (h : Host) : Host := { h with panel := [] }

def submit (h : Host) : Host := { h with composer := h.composer.submit }

def takePending (h : Host) : Option (Severity × String) × Host :=
  let (pending, composer) := h.composer.takePending
  (pending, { h with composer })

def apply (r : Reading) : SurfaceCall → Host → Host
  | .clearWidgets, h => h.clearWidgets
  | .pushMessage title text style seconds, h =>
    h.pushWidget { title, text, style, pushedAt := r.instant, seconds }
  | .logMessage text category level, h =>
    h.appendPanel { timestamp := r.timestamp, category, level, text }

/-- The GUI sink on the host's own surfaces. -/
def logger (r : Reading) (v : Verbosity) : Logger Host (List Event) := GuiSink.logger (apply r) v

section AppendPanel

variable (e : PanelEntry) (h : Host)

theorem bar_appendPanel : (h.appendPanel e).bar = h.bar := by
  cases h
  rfl

theorem filter_appendPanel : (h.appendPanel e).filter = h.filter := by
  cases h
  rfl

theorem composer_appendPanel : (h.appendPanel e).composer = h.composer := by
  cases h
  rfl

end AppendPanel

end Host

end SeverityLog
