import SeverityLog.Proofs.Threshold

/-!
# What a sent message leaves behind

In a frame widgets expire, one of them may be closed, the panel may be emptied, and a message may be
submitted. A message that passes the threshold selected in the frame stands alone on the bar and at
the end of the panel. Otherwise the bar and the panel are what the other controls have left of them.
-/

namespace SeverityLog

namespace App

variable (t : Turn) (a : App)

/-- Between two frames no message waits, so what a frame submits is all that it can deliver. -/
theorem host_turn_of_idle (h : a.host.composer.pending = none) :
    (a.turn t).app.host =
      (outgoing (t.selected a.host.composer.verbosity)
        (t.controls.submission? a.host.composer.severity a.host.composer.draft)).elim
        (a.undelivered t) ((a.undelivered t).receive t.reading) := by
  refine host_turn t a ?_
  rw [dispatched_turn, h, Option.or_none]

end App

/-- A submitted message that passes the threshold of its frame is alone on the bar and last in the
panel, and the draft is empty. In any other frame only expiry and the controls change the bar and
the panel. -/
theorem turn_leaves (t : Turn) (a : App) (h : a.host.composer.pending = none) :
    let after := (a.turn t).app.host
    let submitted := t.controls.submission? a.host.composer.severity a.host.composer.draft
    let threshold := (t.selected a.host.composer.verbosity).value.toNat
    (∀ s m, submitted = some (s, m) → s.rank ≤ threshold →
        after.bar = [{ title := s.tag, text := m, style := GuiSink.documentedStyle s.tag
                       pushedAt := t.reading.instant, seconds := 5 }] ∧
        after.panel = (t.keptEntries a.host.panel).rtake 4999 ++
          [{ timestamp := t.reading.timestamp, category := "Intel Autonomus Driving Map"
             level := GuiSink.documentedLevel s.tag, text := m }] ∧
        after.composer.draft = "") ∧
      ((∀ s m, submitted = some (s, m) → threshold < s.rank) →
        after.bar = t.keptWidgets a.host.bar ∧ after.panel = t.keptEntries a.host.panel) := by
  intro after submitted threshold
  have hafter : after = (App.outgoing _ submitted).elim _ _ := App.host_turn_of_idle t a h
  refine ⟨?_, ?_⟩
  · intro s m hsubmitted hle
    rw [hsubmitted, App.outgoing_of_le m hle, Option.elim_some] at hafter
    refine ⟨?_, ?_, ?_⟩
    · rw [hafter, Host.bar_receive]
      rfl
    · rw [hafter, Host.panel_receive_concat, App.panel_undelivered]
      rfl
    · have hdraft : after.composer.draft = if submitted.isSome then "" else _ :=
        App.draft_turn t a
      rw [hdraft, hsubmitted, Option.isSome_some, if_pos rfl]
  · intro hfiltered
    have hnone : App.outgoing (t.selected a.host.composer.verbosity) submitted = none := by
      cases hsubmitted : submitted with
      | none => rfl
      | some p => exact App.outgoing_of_lt p.2 (hfiltered p.1 p.2 hsubmitted)
    rw [hnone, Option.elim_none] at hafter
    rw [hafter]
    exact ⟨App.bar_undelivered t a, App.panel_undelivered t a⟩

/-- An application whose bar holds an expired widget and a live one, six seconds after the start. -/
def App.busy : App where
  host :=
    { bar := [{ title := "INFO.", text := "old", style := .info, pushedAt := 0, seconds := 5 },
        { title := "WARN.", text := "new", style := .warning, pushedAt := 3000000000
          seconds := 5 }]
      panel := [{ timestamp := ⟨0⟩, category := "Map", level := .info, text := "old" }]
      composer := { draft := " stop " } }
  guiVerbosity := .all
  consoleVerbosity := .all

/-- The live widget is closed, and the draft is sent as an error or as a message that the threshold
does not permit. -/
def Turn.sending (s : Severity) : Turn where
  now := 6000000000
  reading := ⟨6000000001, ⟨6⟩⟩
  controls := { dismiss := some 0, severity := some s, slide := some 0, send := true }

theorem turn_leaves_busy :
    let sent := (App.busy.turn (.sending .error)).app.host
    let filtered := (App.busy.turn (.sending .warning)).app.host
    App.busy.host.composer.pending = none ∧
      (sent.bar = [{ title := "ERROR", text := "stop", style := .critical
                     pushedAt := 6000000001, seconds := 5 }] ∧
        sent.panel = App.busy.host.panel.rtake 4999 ++
          [{ timestamp := ⟨6⟩, category := "Intel Autonomus Driving Map", level := .critical
             text := "stop" }] ∧
        sent.composer.draft = "") ∧
      filtered.bar = [] ∧ filtered.panel = App.busy.host.panel := by
  intro sent filtered
  have hidle : App.busy.host.composer.pending = none := rfl
  have herror : (Turn.sending .error).controls.submission? .info " stop " =
      some (.error, "stop") := by decide
  have hwarning : (Turn.sending .warning).controls.submission? .info " stop " =
      some (.warning, "stop") := by decide
  have hkept : (Turn.sending .warning).keptWidgets App.busy.host.bar = [] := by decide
  obtain ⟨hsent, _⟩ := turn_leaves (.sending .error) App.busy hidle
  obtain ⟨_, hfiltered⟩ := turn_leaves (.sending .warning) App.busy hidle
  refine ⟨hidle, hsent .error "stop" herror (by decide), ?_⟩
  rw [← hkept]
  refine hfiltered fun s m hs => ?_
  cases Option.some_inj.mp (hs.symm.trans hwarning)
  decide

end SeverityLog
