import SeverityLog.Proofs.Dispatch

/-!
# The two sinks never drift apart

On any host, and with the host's threshold changed from outside between the frames, both sinks have
the threshold that the host shows at the end of each frame. The message of a frame is therefore
filtered by the threshold selected in that frame, on the surfaces and on the console alike. It
stands alone on the bar and at the end of the panel, or expiry and the controls alone change the
two. The reported changes lead from the threshold of the start to that of the sinks, one from the
other.
-/

namespace SeverityLog

namespace Turn

variable (t : Turn)

def selected (v : Verbosity) : Verbosity :=
  let given := t.verbosity.getD v
  (t.controls.slide.map (Composer.slide · given)).getD given

/-- The widgets that have not expired at the frame's time, without the one that is closed. The
position of that one is among the widgets that have not expired. -/
def keptWidgets (b : Bar) : Bar :=
  let live := b.filter fun w => t.now - w.pushedAt < w.seconds * 1000000000
  match t.controls.dismiss with
  | some i => live.eraseIdx i
  | none => live

def keptEntries (p : Panel) : Panel := if t.controls.clear then [] else p

end Turn

namespace App

/-- The host when a frame is drawn and the waiting message is taken, before it is dispatched. -/
def undelivered (t : Turn) (a : App) : Host :=
  (({ a with host := a.host.adjust t.verbosity } : App).drawn t.now t.controls).takePending.2

/-- The sinks take the threshold that the frame selects. By it the message of the frame reaches the
bar, the panel and, when it is mirrored, the console, or it reaches none of them. -/
structure Follows (t : Turn) (a : App) : Prop where
  gui : (a.turn t).app.guiVerbosity = t.selected a.host.composer.verbosity
  console : (a.turn t).app.consoleVerbosity = t.selected a.host.composer.verbosity
  host : (a.turn t).app.host.composer.verbosity = t.selected a.host.composer.verbosity
  submitted : ∀ m, t.controls.submission? a.host.composer.severity a.host.composer.draft = some m →
    Event.dispatched (a.turn t).events = [m]
  reported : ∀ s m, Event.dispatched (a.turn t).events = [(s, m)] →
    s.rank ≤ (t.selected a.host.composer.verbosity).value.toNat →
      (a.turn t).app.host.bar =
          [{ title := s.tag, text := m, style := GuiSink.documentedStyle s.tag
             pushedAt := t.reading.instant, seconds := 5 }] ∧
        (a.turn t).app.host.panel = (t.keptEntries a.host.panel).rtake 4999 ++
          [{ timestamp := t.reading.timestamp, category := "Intel Autonomus Driving Map"
             level := GuiSink.documentedLevel s.tag, text := m }] ∧
        (a.turn t).printed =
          if (a.turn t).app.host.composer.mirror then "[1]" ++ s.tag ++ ": " ++ m ++ "\n" else ""
  filtered : ∀ s m, Event.dispatched (a.turn t).events = [(s, m)] →
    (t.selected a.host.composer.verbosity).value.toNat < s.rank →
      (a.turn t).app.host.bar = t.keptWidgets a.host.bar ∧
        (a.turn t).app.host.panel = t.keptEntries a.host.panel ∧ (a.turn t).printed = ""
  silent : Event.dispatched (a.turn t).events = [] →
    (a.turn t).app.host.bar = t.keptWidgets a.host.bar ∧
      (a.turn t).app.host.panel = t.keptEntries a.host.panel ∧ (a.turn t).printed = ""
  quiet : (a.turn t).app.host.composer.mirror = false → (a.turn t).printed = ""

section Turn

variable (t : Turn) (a : App)

theorem bar_undelivered : (a.undelivered t).bar = t.keptWidgets a.host.bar := by
  change (Host.act t.controls _).bar = _
  rw [Host.bar_act, Turn.keptWidgets, ← Bar.expire_fst]
  rfl

theorem panel_undelivered : (a.undelivered t).panel = t.keptEntries a.host.panel := by
  change (Host.act t.controls _).panel = _
  rw [Host.panel_act]
  rfl

def operated : Composer := (a.host.adjust t.verbosity).composer.operate t.controls

theorem verbosity_operated :
    (a.operated t).verbosity = t.selected a.host.composer.verbosity :=
  (Composer.operate_settings _ _).2.1

theorem composer_turn :
    (a.turn t).app.host.composer = { a.operated t with pending := none } :=
  composer_frame _ _ _ _

theorem guiVerbosity_turn :
    (a.turn t).app.guiVerbosity = t.selected a.host.composer.verbosity := by
  rw [← verbosity_operated]
  exact guiVerbosity_frame _ _ _ _

theorem consoleVerbosity_turn (h : a.guiVerbosity = a.consoleVerbosity) :
    (a.turn t).app.consoleVerbosity = t.selected a.host.composer.verbosity := by
  rw [← verbosity_operated]
  exact consoleVerbosity_frame _ _ _ _ h

theorem pending_eq_of_dispatched {m : Option (Severity × String)}
    (h : Event.dispatched (a.turn t).events = m.toList) : (a.operated t).pending = m := by
  have hd : Event.dispatched (a.turn t).events = (a.operated t).pending.toList :=
    dispatched_frame _ _ _ _
  rw [hd] at h
  cases hp : (a.operated t).pending <;> cases m <;> simp_all

theorem host_turn {m : Option (Severity × String)}
    (h : Event.dispatched (a.turn t).events = m.toList) :
    (a.turn t).app.host =
      (outgoing (t.selected a.host.composer.verbosity) m).elim (a.undelivered t)
        ((a.undelivered t).receive t.reading) := by
  rw [← verbosity_operated, ← pending_eq_of_dispatched t a h]
  exact host_frame _ _ _ _

theorem printed_turn (hsinks : a.guiVerbosity = a.consoleVerbosity)
    {m : Option (Severity × String)} (h : Event.dispatched (a.turn t).events = m.toList) :
    (a.turn t).printed =
      if (a.turn t).app.host.composer.mirror then
        (outgoing (t.selected a.host.composer.verbosity) m).elim ""
          (Console.record Console.mainLabel)
      else "" := by
  rw [composer_turn, ← verbosity_operated, ← pending_eq_of_dispatched t a h]
  exact printed_frame _ _ _ _ hsinks

theorem outgoing_of_le {v : Verbosity} {s : Severity} (m : String) (h : s.rank ≤ v.value.toNat) :
    outgoing v (some (s, m)) = some ⟨s.tag, m⟩ :=
  if_pos (Verbosity.permits_iff.2 h)

theorem outgoing_of_lt {v : Verbosity} {s : Severity} (m : String) (h : v.value.toNat < s.rank) :
    outgoing v (some (s, m)) = none :=
  if_neg fun hp => absurd (Verbosity.permits_iff.1 hp) (Nat.not_le.2 h)

theorem follows_turn (hsinks : a.guiVerbosity = a.consoleVerbosity) : a.Follows t where
  gui := guiVerbosity_turn t a
  console := consoleVerbosity_turn t a hsinks
  host := by rw [composer_turn, ← verbosity_operated]
  submitted m hm := by rw [dispatched_turn, hm]; rfl
  reported s m hd hle := by
    have hh := host_turn t a (m := some (s, m)) hd
    have hp := printed_turn t a hsinks (m := some (s, m)) hd
    rw [outgoing_of_le m hle, Option.elim_some] at hh hp
    rw [hh] at hp ⊢
    refine ⟨Host.bar_receive _ _ _, ?_, hp⟩
    rw [Host.panel_receive_concat, panel_undelivered]
    rfl
  filtered s m hd hlt := by
    have hh := host_turn t a (m := some (s, m)) hd
    have hp := printed_turn t a hsinks (m := some (s, m)) hd
    rw [outgoing_of_lt m hlt, Option.elim_none] at hh hp
    rw [hh, bar_undelivered, panel_undelivered]
    exact ⟨rfl, rfl, hp.trans (ite_self "")⟩
  silent hd := by
    have hh := host_turn t a (m := none) hd
    have hp := printed_turn t a hsinks (m := none) hd
    rw [outgoing, Option.bind_none, Option.elim_none] at hh hp
    rw [hh, bar_undelivered, panel_undelivered]
    exact ⟨rfl, rfl, hp.trans (ite_self "")⟩
  quiet hm := by
    have hp := printed_turn t a hsinks (m := (a.operated t).pending) (dispatched_frame _ _ _ _)
    rw [hp, hm]
    rfl

theorem changes_turn :
    Event.changes (a.turn t).events =
      if a.guiVerbosity = (a.turn t).app.guiVerbosity then []
      else [(a.guiVerbosity, (a.turn t).app.guiVerbosity)] := by
  rw [guiVerbosity_turn, ← verbosity_operated]
  exact changes_frame _ _ _ _

end Turn

end App

namespace Frame

structure Linked (v : Verbosity) (f : Frame) : Prop where
  distinct : ∀ c ∈ Event.changes f.events, c.1 ≠ c.2
  chain : (Event.changes f.events).map Prod.fst ++ [f.app.guiVerbosity] =
    v :: (Event.changes f.events).map Prod.snd

theorem Linked.andThen {v : Verbosity} {f : Frame} (h : f.Linked v) (t : Turn) :
    (f.andThen (App.turn t)).Linked v := by
  have hevents : Event.changes (f.andThen (App.turn t)).events =
      Event.changes f.events ++ Event.changes (f.app.turn t).events := Event.changes_append _ _
  have hstep := App.changes_turn t f.app
  by_cases hv : f.app.guiVerbosity = (f.app.turn t).app.guiVerbosity
  · rw [if_pos hv] at hstep
    rw [hstep, List.append_nil] at hevents
    exact ⟨by rw [hevents]; exact h.distinct, by rw [hevents, ← h.chain, hv]; rfl⟩
  · rw [if_neg hv] at hstep
    rw [hstep] at hevents
    refine ⟨?_, ?_⟩
    · intro c hc
      rw [hevents, List.mem_append, List.mem_singleton] at hc
      rcases hc with hc | rfl
      · exact h.distinct c hc
      · exact hv
    · rw [hevents, List.map_append, List.map_append, ← List.cons_append, ← h.chain]
      rfl

theorem sinks_follow {f : Frame} (h : f.app.guiVerbosity = f.app.consoleVerbosity)
    (turns : List Turn) :
    (f.follow turns).app.guiVerbosity = (f.follow turns).app.consoleVerbosity := by
  refine follow_induction (P := fun f => f.app.guiVerbosity = f.app.consoleVerbosity) h ?_ turns
  intro f t hf
  exact (App.guiVerbosity_turn t f.app).trans (App.consoleVerbosity_turn t f.app hf).symm

end Frame

/-- The sinks start with the threshold of the host, and the initial message prints nothing. After
every run they agree, the next frame follows the threshold that it selects, and the reported changes
form a chain. -/
theorem sinks_in_step (r : Reading) (h : Host) (initial : Option (Severity × String))
    (turns : List Turn) :
    let start := App.attach r h initial
    let f := start.follow turns
    (start.app.guiVerbosity = h.composer.verbosity ∧
        start.app.consoleVerbosity = h.composer.verbosity ∧ start.printed = "") ∧
      f.app.guiVerbosity = f.app.consoleVerbosity ∧ (∀ t : Turn, f.app.Follows t) ∧
      f.Linked h.composer.verbosity := by
  intro start f
  have hgui : start.app.guiVerbosity = h.composer.verbosity := App.guiVerbosity_send _ _ _ _
  have hconsole : start.app.consoleVerbosity = h.composer.verbosity :=
    App.consoleVerbosity_send _ _ _ _
  have hprinted : start.printed = "" := App.printed_send _ _ _ _
  have hstart : Event.changes start.events = [] := App.changes_send r initial false _
  have hsinks := Frame.sinks_follow (hgui.trans hconsole.symm) turns
  have hlinked : start.Linked h.composer.verbosity :=
    ⟨by simp [hstart], by simp [hstart, hgui]⟩
  refine ⟨⟨hgui, hconsole, hprinted⟩, hsinks, fun t => App.follows_turn t f.app hsinks, ?_⟩
  exact Frame.follow_induction hlinked (fun f t hf => hf.andThen t) turns

end SeverityLog
