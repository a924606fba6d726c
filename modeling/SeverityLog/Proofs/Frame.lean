import Mathlib.Tactic.SplitIfs
import SeverityLog.App
import SeverityLog.Proofs.Delivery
import SeverityLog.Proofs.History

/-!
# What a frame leaves behind

A frame acts on the composer through its controls alone, whatever its time and whatever the bar and
the panel hold. The thresholds of the sinks, the message that is dispatched, what reaches the bar,
the panel and the console, and the two kinds of events that tell of them are read off the composer
when its controls have acted.
-/

namespace SeverityLog

namespace Event

def composed? : Event → Option (Severity × String)
  | messageComposed severity message => some (severity, message)
  | _ => none

def change? : Event → Option (Verbosity × Verbosity)
  | verbosityChanged before after => some (before, after)
  | _ => none

def dispatched (events : List Event) : List (Severity × String) := events.filterMap composed?

def changes (events : List Event) : List (Verbosity × Verbosity) := events.filterMap change?

theorem dispatched_append (a b : List Event) :
    dispatched (a ++ b) = dispatched a ++ dispatched b := by simp [dispatched]

theorem changes_append (a b : List Event) : changes (a ++ b) = changes a ++ changes b := by
  simp [changes]

end Event

open Event

namespace Composer

def operate (k : Controls) (c : Composer) : Composer :=
  if k.send || k.sendKey then (c.edit k).submit else c.edit k

theorem submit_eq (c : Composer) :
    c.submit = c ∨
      c.submit = { c with pending := some (c.severity, message c.draft), draft := "" } := by
  unfold submit
  split
  · exact Or.inl rfl
  · exact Or.inr rfl

theorem operate_settings (k : Controls) (c : Composer) :
    (c.operate k).severity = (c.edit k).severity ∧ (c.operate k).verbosity = (c.edit k).verbosity ∧
      (c.operate k).mirror = (c.edit k).mirror := by
  unfold operate
  split
  · rcases (c.edit k).submit_eq with h | h <;> rw [h] <;> exact ⟨rfl, rfl, rfl⟩
  · exact ⟨rfl, rfl, rfl⟩

end Composer

def Widget.ofMessage (r : Reading) (e : Entry) : Widget where
  title := e.tag
  text := e.message
  style := GuiSink.documentedStyle e.tag
  pushedAt := r.instant
  seconds := 5

def PanelEntry.ofMessage (r : Reading) (e : Entry) : PanelEntry where
  timestamp := r.timestamp
  category := "Intel Autonomus Driving Map"
  level := GuiSink.documentedLevel e.tag
  text := e.message

namespace Host

theorem composer_act (k : Controls) (h : Host) : (h.act k).composer = h.composer.operate k := by
  unfold act Composer.operate
  cases k.dismiss <;> cases k.clear <;> split_ifs <;> rfl

theorem bar_act (k : Controls) (h : Host) :
    (h.act k).bar = match k.dismiss with
      | some i => h.bar.eraseIdx i
      | none => h.bar := by
  unfold act
  cases k.dismiss <;> cases k.clear <;> split_ifs <;> rfl

theorem panel_act (k : Controls) (h : Host) :
    (h.act k).panel = if k.clear then [] else h.panel := by
  unfold act
  cases k.dismiss <;> cases k.clear <;> split_ifs <;> rfl

def receive (r : Reading) (h : Host) (e : Entry) : Host :=
  let look := Appearance.ofTag e.tag
  { h with
    bar := [{ title := e.tag, text := e.message, style := look.style, pushedAt := r.instant
              seconds := GuiSink.barSeconds }]
    panel := h.panel.append { timestamp := r.timestamp, category := GuiSink.title
                              level := look.level, text := e.message } }

theorem bar_receive (r : Reading) (e : Entry) (h : Host) :
    (h.receive r e).bar = [Widget.ofMessage r e] := by
  rw [receive, GuiSink.ofTag_eq_documented]
  rfl

theorem panel_receive (r : Reading) (e : Entry) (h : Host) :
    (h.receive r e).panel = (h.panel ++ [PanelEntry.ofMessage r e]).rtake Panel.capacity := by
  rw [receive, GuiSink.ofTag_eq_documented, Panel.append_eq_rtake, GuiSink.title,
    PanelEntry.ofMessage]

theorem panel_receive_concat (r : Reading) (e : Entry) (h : Host) :
    (h.receive r e).panel = h.panel.rtake 4999 ++ [PanelEntry.ofMessage r e] := by
  have hcapacity : Panel.capacity = 4999 + 1 := rfl
  rw [panel_receive, hcapacity, List.rtake_concat_succ]

theorem state_perform (r : Reading) (v : Verbosity) (c : Call) (h : Host) :
    ((logger r v).perform c h).state = (c.delivery? v).elim h (h.receive r) :=
  Logger.state_perform (logger r v) c h

/-- The GUI sink reports neither a dispatch nor a change of the threshold. -/
theorem report_perform (r : Reading) (v : Verbosity) (c : Call) (h : Host) :
    dispatched ((logger r v).perform c h).report = [] ∧
      changes ((logger r v).perform c h).report = [] := by
  rw [Logger.report_perform]
  cases c.delivery? (logger r v).verbosity <;> exact ⟨rfl, rfl⟩

end Host

namespace App

/-- What a logger of threshold `v` delivers of a message that waits or not. -/
def outgoing (v : Verbosity) (message : Option (Severity × String)) : Option Entry :=
  message.bind fun m => (Call.emit m.1 m.2).delivery? v

section Send

variable (r : Reading) (message : Option (Severity × String)) (mirror : Bool) (a : App)

theorem guiVerbosity_send : (a.send r message mirror).app.guiVerbosity = a.guiVerbosity := by
  cases message <;> rfl

theorem consoleVerbosity_send :
    (a.send r message mirror).app.consoleVerbosity = a.consoleVerbosity := by
  cases message <;> rfl

theorem host_send :
    (a.send r message mirror).app.host =
      (outgoing a.guiVerbosity message).elim a.host (a.host.receive r) := by
  cases message with
  | none => rfl
  | some m => exact Host.state_perform r a.guiVerbosity (.emit m.1 m.2) a.host

theorem printed_send :
    (a.send r message mirror).printed =
      if mirror then
        (outgoing a.consoleVerbosity message).elim "" (Console.record Console.mainLabel)
      else "" := by
  cases message with
  | none => cases mirror <;> rfl
  | some m =>
    simp only [send, dispatch, Console.printed, outgoing, Option.bind_some]
    cases (Call.emit m.1 m.2).delivery? a.consoleVerbosity <;> rfl

theorem dispatched_send : dispatched (a.send r message mirror).events = message.toList := by
  cases message with
  | none => rfl
  | some m =>
    have h := (Host.report_perform r a.guiVerbosity (.emit m.1 m.2) a.host).1
    exact congrArg (m :: ·) h

theorem changes_send : changes (a.send r message mirror).events = [] := by
  cases message with
  | none => rfl
  | some m => exact (Host.report_perform r a.guiVerbosity (.emit m.1 m.2) a.host).2

end Send

section Sync

variable (v : Verbosity) (a : App)

theorem guiVerbosity_sync : (sync v a).1.guiVerbosity = v := by
  unfold sync
  split_ifs with h
  · exact h
  · rfl

theorem consoleVerbosity_sync (h : a.guiVerbosity = a.consoleVerbosity) :
    (sync v a).1.consoleVerbosity = v := by
  unfold sync
  split_ifs with hv
  · exact h.symm.trans hv
  · rfl

theorem host_sync : (sync v a).1.host = a.host := by
  unfold sync
  split_ifs <;> rfl

theorem dispatched_sync : dispatched (sync v a).2 = [] := by
  unfold sync
  split_ifs <;> rfl

theorem changes_sync :
    changes (sync v a).2 = if a.guiVerbosity = v then [] else [(a.guiVerbosity, v)] := by
  unfold sync
  split_ifs <;> rfl

end Sync

/-- The host when its parts have been drawn: expired widgets are gone, and the controls have
acted. -/
def drawn (now : Instant) (k : Controls) (a : App) : Host := (a.host.expire now).1.act k

/-- The application when its sinks follow the threshold, before the waiting message is sent. -/
def synced (now : Instant) (k : Controls) (a : App) : App × List Event :=
  sync (a.drawn now k).takePending.2.composer.verbosity
    { a with host := (a.drawn now k).takePending.2 }

def sent (now : Instant) (r : Reading) (k : Controls) (a : App) : Frame :=
  (a.synced now k).1.send r (a.drawn now k).composer.pending
    (a.drawn now k).takePending.2.composer.mirror

section Frame

variable (now : Instant) (r : Reading) (k : Controls) (a : App)

theorem frame_eq :
    ∃ expiry, dispatched expiry = [] ∧ changes expiry = [] ∧
      a.frame now r k =
        { a.sent now r k with
          events := expiry ++ (a.synced now k).2 ++ (a.sent now r k).events } := by
  refine ⟨if (a.host.expire now).2 = 0 then [] else [.widgetsExpired (a.host.expire now).2],
    ?_, ?_, rfl⟩
  · split_ifs <;> rfl
  · split_ifs <;> rfl

theorem composer_drawn : (a.drawn now k).composer = a.host.composer.operate k :=
  Host.composer_act k (a.host.expire now).1

theorem composer_takePending :
    (a.drawn now k).takePending.2.composer =
      { a.host.composer.operate k with pending := none } := by
  rw [← composer_drawn now k a]
  rfl

theorem guiVerbosity_synced :
    (a.synced now k).1.guiVerbosity = (a.host.composer.operate k).verbosity := by
  rw [synced, guiVerbosity_sync, composer_takePending]

theorem consoleVerbosity_synced (h : a.guiVerbosity = a.consoleVerbosity) :
    (a.synced now k).1.consoleVerbosity = (a.host.composer.operate k).verbosity := by
  rw [synced, consoleVerbosity_sync, composer_takePending]
  exact h

theorem guiVerbosity_frame :
    (a.frame now r k).app.guiVerbosity = (a.host.composer.operate k).verbosity := by
  obtain ⟨expiry, -, -, he⟩ := frame_eq now r k a
  rw [he, ← guiVerbosity_synced now k a]
  exact guiVerbosity_send _ _ _ _

theorem consoleVerbosity_frame (h : a.guiVerbosity = a.consoleVerbosity) :
    (a.frame now r k).app.consoleVerbosity = (a.host.composer.operate k).verbosity := by
  obtain ⟨expiry, -, -, he⟩ := frame_eq now r k a
  rw [he, ← consoleVerbosity_synced now k a h]
  exact consoleVerbosity_send _ _ _ _

/-- The waiting message is taken, and what the threshold lets through of it is received. -/
theorem host_frame :
    (a.frame now r k).app.host =
      (outgoing (a.host.composer.operate k).verbosity (a.host.composer.operate k).pending).elim
        (a.drawn now k).takePending.2 ((a.drawn now k).takePending.2.receive r) := by
  obtain ⟨expiry, -, -, he⟩ := frame_eq now r k a
  rw [he]
  change (a.sent now r k).app.host = _
  rw [sent, host_send, guiVerbosity_synced, synced, host_sync, composer_drawn]

theorem printed_frame (h : a.guiVerbosity = a.consoleVerbosity) :
    (a.frame now r k).printed =
      if (a.host.composer.operate k).mirror then
        (outgoing (a.host.composer.operate k).verbosity (a.host.composer.operate k).pending).elim ""
          (Console.record Console.mainLabel)
      else "" := by
  obtain ⟨expiry, -, -, he⟩ := frame_eq now r k a
  rw [he]
  change (a.sent now r k).printed = _
  rw [sent, printed_send, consoleVerbosity_synced now k a h, composer_takePending, composer_drawn]

theorem composer_frame :
    (a.frame now r k).app.host.composer =
      { a.host.composer.operate k with pending := none } := by
  rw [host_frame, ← composer_takePending now k a]
  cases outgoing (a.host.composer.operate k).verbosity (a.host.composer.operate k).pending <;> rfl

theorem dispatched_frame :
    dispatched (a.frame now r k).events = (a.host.composer.operate k).pending.toList := by
  obtain ⟨expiry, hd, -, he⟩ := frame_eq now r k a
  rw [he]
  change dispatched (expiry ++ (a.synced now k).2 ++ (a.sent now r k).events) = _
  rw [dispatched_append, dispatched_append, hd, synced, dispatched_sync, sent, dispatched_send,
    composer_drawn, List.append_nil, List.nil_append]

theorem changes_frame :
    changes (a.frame now r k).events =
      if a.guiVerbosity = (a.host.composer.operate k).verbosity then []
      else [(a.guiVerbosity, (a.host.composer.operate k).verbosity)] := by
  obtain ⟨expiry, -, hc, he⟩ := frame_eq now r k a
  rw [he]
  change changes (expiry ++ (a.synced now k).2 ++ (a.sent now r k).events) = _
  rw [changes_append, changes_append, hc, synced, changes_sync, sent, changes_send,
    composer_takePending, List.append_nil, List.nil_append]

end Frame

end App

namespace Frame

theorem follow_nil (f : Frame) : f.follow [] = f := rfl

theorem follow_cons (t : Turn) (turns : List Turn) (f : Frame) :
    f.follow (t :: turns) = (f.andThen (App.turn t)).follow turns := rfl

/-- What holds at the start and is kept by every frame holds after a run. -/
theorem follow_induction {P : Frame → Prop} {f : Frame} (start : P f)
    (step : ∀ f t, P f → P (f.andThen (App.turn t))) (turns : List Turn) : P (f.follow turns) := by
  induction turns generalizing f with
  | nil => exact start
  | cons t turns ih => exact ih (step f t start)

end Frame

end SeverityLog
