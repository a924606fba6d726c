import SeverityLog.Host.State
import SeverityLog.Proofs.Delivery
import SeverityLog.Proofs.History

/-!
# The recorder simulates the host

The surfaces of a host are used through a sink and directly, and each call on them reads the clock.
A recorder in the place of the host keeps the calls. When these are made again in their order, each
at its reading, the bar and the panel become those of the host: the sink makes the same calls on any
surfaces, and one call keeps the host in step with the record.
-/

namespace SeverityLog

/-- A call through a sink on the surfaces, or a call on a surface itself. -/
inductive Use where
  | sink (q : Request)
  | surface (c : SurfaceCall)
  deriving DecidableEq, Repr

namespace GuiSink

variable {σ τ : Type}

def use (apply : SurfaceCall → σ → σ) (v : Verbosity) (s : σ) : Use → σ
  | .sink q => (((logger apply v).nested q.handles).perform q.call s).state
  | .surface c => apply c s

def used (apply : SurfaceCall → σ → σ) (v : Verbosity) (us : List Use) (s : σ) : σ :=
  us.foldl (use apply v) s

def asked (v : Verbosity) : Use → List SurfaceCall
  | .sink q => (due v [q.call]).flatMap documented
  | .surface c => [c]

theorem use_eq_foldl (apply : SurfaceCall → σ → σ) (v : Verbosity) (s : σ) (u : Use) :
    use apply v s u = (asked v u).foldl (fun s c => apply c s) s := by
  cases u with
  | surface c => rfl
  | sink q =>
    rw [use, Logger.perform_nested, Logger.state_perform, asked, ← delivered_eq_due,
      delivered_cons]
    change (q.call.delivery? v).elim s (fun e => (calls e).foldl (fun s c => apply c s) s) = _
    cases q.call.delivery? v with
    | none => rfl
    | some e => simp [delivered_nil, calls_eq_documented]

/-- What every call keeps between two kinds of surfaces, the uses keep. -/
theorem used_related {f : SurfaceCall → σ → σ} {g : SurfaceCall → τ → τ} {R : σ → τ → Prop}
    (call : ∀ c s t, R s t → R (f c s) (g c t)) (v : Verbosity) (us : List Use) {s : σ} {t : τ}
    (h : R s t) : R (used f v us s) (used g v us t) := by
  induction us generalizing s t with
  | nil => exact h
  | cons u us ih =>
    refine ih ?_
    rw [use_eq_foldl, use_eq_foldl]
    exact List.foldl_rel h fun c _ s t hst => call c s t hst

end GuiSink

namespace Recorder

theorem calls_used (v : Verbosity) (us : List Use) (r : Recorder) :
    (GuiSink.used record v us r).calls = r.calls ++ us.flatMap (GuiSink.asked v) := by
  induction us generalizing r with
  | nil => simp [GuiSink.used]
  | cons u us ih =>
    change (GuiSink.used record v us (GuiSink.use record v r u)).calls = _
    rw [ih, GuiSink.use_eq_foldl, GuiSink.foldl_record]
    simp

end Recorder

namespace SurfaceCall

variable (clock : Nat → Reading)

def pushed? : SurfaceCall × Nat → Option Widget
  | (pushMessage title text style seconds, n) =>
    some { title, text, style, pushedAt := (clock n).instant, seconds }
  | _ => none

def logged? : SurfaceCall × Nat → Option PanelEntry
  | (logMessage text category level, n) =>
    some { timestamp := (clock n).timestamp, category, level, text }
  | _ => none

def widgets (cs : List SurfaceCall) : List Widget :=
  History.since .clearWidgets (pushed? clock) cs

def entries (cs : List SurfaceCall) : List PanelEntry := History.numbered (logged? clock) cs

end SurfaceCall

namespace Host

variable (clock : Nat → Reading)

/-- A host whose surfaces read a clock at each call. -/
structure Clocked where
  host : Host
  /-- How many calls the surfaces have taken. -/
  calls : Nat := 0
  deriving DecidableEq, Repr

def Clocked.call (c : SurfaceCall) (s : Clocked) : Clocked where
  host := s.host.apply (clock s.calls) c
  calls := s.calls + 1

def replay (cs : List SurfaceCall) (h : Host) : Host :=
  cs.zipIdx.foldl (fun h (c, n) => h.apply (clock n) c) h

theorem replay_concat (cs : List SurfaceCall) (c : SurfaceCall) (h : Host) :
    h.replay clock (cs ++ [c]) = (h.replay clock cs).apply (clock cs.length) c := by
  rw [replay, History.zipIdx_concat, List.foldl_append]
  rfl

/-- The host is where the record leads, and its next call is the next of the record. -/
structure InStep (start : Host) (r : Recorder) (s : Clocked) : Prop where
  host : s.host = start.replay clock r.calls
  calls : s.calls = r.calls.length

theorem InStep.call {start : Host} {r : Recorder} {s : Clocked} (h : InStep clock start r s)
    (c : SurfaceCall) : InStep clock start (r.record c) (s.call clock c) where
  host := by
    rw [Recorder.record, replay_concat, ← h.host, ← h.calls]
    rfl
  calls := by
    rw [Recorder.record, List.length_append, ← h.calls]
    rfl

section Replay

variable {h : Host} (cs : List SurfaceCall)

theorem bar_replay (hbar : h.bar = []) :
    (h.replay clock cs).bar = (SurfaceCall.widgets clock cs).rtake Bar.capacity := by
  induction cs using List.reverseRecOn with
  | nil => exact hbar
  | append_singleton cs c ih =>
    rw [SurfaceCall.widgets] at ih ⊢
    rw [replay_concat]
    cases c with
    | clearWidgets =>
      rw [History.since_self]
      rfl
    | pushMessage title text style seconds =>
      rw [History.since_concat _ _ (by simp), apply, pushWidget, ih, Bar.push_rtake]
      rfl
    | logMessage text category level =>
      rw [History.since_concat _ _ (by simp), apply, bar_appendPanel, ih]
      simp only [SurfaceCall.pushed?, Option.toList_none, List.append_nil]

theorem panel_replay (hpanel : h.panel = []) :
    (h.replay clock cs).panel = (SurfaceCall.entries clock cs).rtake Panel.capacity := by
  induction cs using List.reverseRecOn with
  | nil => exact hpanel.trans (List.rtake_nil _).symm
  | append_singleton cs c ih =>
    rw [SurfaceCall.entries] at ih ⊢
    rw [replay_concat, History.numbered_concat]
    cases c with
    | clearWidgets =>
      rw [apply, clearWidgets, ih]
      simp only [SurfaceCall.logged?, Option.toList_none, List.append_nil]
    | pushMessage title text style seconds =>
      rw [apply, pushWidget, ih]
      simp only [SurfaceCall.logged?, Option.toList_none, List.append_nil]
    | logMessage text category level =>
      rw [apply, appendPanel, ih, Panel.append_rtake, SurfaceCall.logged?, Option.toList_some]

/-- Calls on the surfaces touch neither the filter nor the composer. -/
theorem settings_replay :
    (h.replay clock cs).filter = h.filter ∧ (h.replay clock cs).composer = h.composer := by
  induction cs using List.reverseRecOn with
  | nil => exact ⟨rfl, rfl⟩
  | append_singleton cs c ih =>
    rw [replay_concat]
    cases c with
    | clearWidgets => exact ih
    | pushMessage title text style seconds => exact ih
    | logMessage text category level =>
      rw [apply, filter_appendPanel, composer_appendPanel]
      exact ih

end Replay

end Host

/-- However a fresh host and a recorder are used, the calls that are recorded are those that the
uses come to. Made again in their order on a new host, they give the host's bar and panel, which
are the newest widgets since the last clear and the newest entries. The rest of the host stays as it
was. -/
theorem recorder_simulates_host (v atStart replayedAt : Verbosity) (clock : Nat → Reading)
    (us : List Use) :
    let recorded := (GuiSink.used Recorder.record v us {}).calls
    let shared := (GuiSink.used (Host.Clocked.call clock) v us ⟨.new atStart, 0⟩).host
    let replayed := (Host.new replayedAt).replay clock recorded
    (shared.bar = replayed.bar ∧ shared.panel = replayed.panel) ∧
      (shared.filter = (Host.new atStart).filter ∧ shared.composer = (Host.new atStart).composer) ∧
      recorded = us.flatMap (GuiSink.asked v) ∧
      shared.bar = (SurfaceCall.widgets clock recorded).rtake 8 ∧
      shared.panel = (SurfaceCall.entries clock recorded).rtake 5000 := by
  intro recorded shared replayed
  have hstep : Host.InStep clock (.new atStart) (GuiSink.used Recorder.record v us {})
      (GuiSink.used (Host.Clocked.call clock) v us ⟨.new atStart, 0⟩) :=
    GuiSink.used_related (fun c _ _ h => h.call clock c) v us ⟨rfl, rfl⟩
  have hshared : shared = (Host.new atStart).replay clock recorded := hstep.host
  have hbar : shared.bar = (SurfaceCall.widgets clock recorded).rtake 8 := by
    rw [hshared]
    exact Host.bar_replay clock recorded rfl
  have hpanel : shared.panel = (SurfaceCall.entries clock recorded).rtake 5000 := by
    rw [hshared]
    exact Host.panel_replay clock recorded rfl
  refine ⟨⟨?_, ?_⟩, ?_, Recorder.calls_used v us {}, hbar, hpanel⟩
  · rw [hbar]
    exact (Host.bar_replay clock recorded rfl).symm
  · rw [hpanel]
    exact (Host.panel_replay clock recorded rfl).symm
  · rw [hshared]
    exact Host.settings_replay clock recorded

end SeverityLog
