import Mathlib.Data.Fintype.Card
import SeverityLog.Host.Sharing
import SeverityLog.Proofs.Delivery
import SeverityLog.Proofs.History

/-!
# Every interleaving of the sinks

A sink pushes at most once between two clears, since a clear of its own comes before each of its
pushes. So the widgets on the bar are of different sinks. The panel is told by the entries that
were added, and the entries of one sink by its calls.
-/

namespace SeverityLog

/-- What the panel shows of a message beside the time. -/
def Entry.content (e : Entry) : String × String × PanelLevel :=
  (e.message, "Intel Autonomus Driving Map", GuiSink.documentedLevel e.tag)

def PanelEntry.content (e : PanelEntry) : String × String × PanelLevel :=
  (e.text, e.category, e.level)

/-- The messages that a sink has still to add to the panel. -/
def GuiSink.Worker.pending (w : GuiSink.Worker) : List Entry :=
  w.current ++ delivered w.verbosity w.waiting

namespace Sharing

variable {k : Nat}

/-- Everything that a move can do. A sink passes over a call, or it makes the first, the second or
the third call on a surface for a message. -/
inductive Effect (s : Sharing k) : Move k → Sharing k → Prop where
  | skip {i : Fin k} {r : Reading} {w : GuiSink.Worker}
      (kept : w.verbosity = (s.workers i).verbosity)
      (stage : w.stage = (s.workers i).stage) (pending : w.pending = (s.workers i).pending) :
      Effect s (.advance i r) (s.setWorker i w)
  | clear {i : Fin k} {r : Reading} {w : GuiSink.Worker} (e : Entry)
      (kept : w.verbosity = (s.workers i).verbosity) (idle : (s.workers i).stage = .idle)
      (stage : w.stage = .cleared e) (pending : w.pending = (s.workers i).pending) :
      Effect s (.advance i r) ((s.setWorker i w).perform i r .clearWidgets)
  | push {i : Fin k} {r : Reading} {w : GuiSink.Worker} (e : Entry)
      (kept : w.verbosity = (s.workers i).verbosity) (cleared : (s.workers i).stage = .cleared e)
      (stage : w.stage = .pushed e) (pending : w.pending = (s.workers i).pending) :
      Effect s (.advance i r) ((s.setWorker i w).perform i r
        (.pushMessage e.tag e.message (GuiSink.documentedStyle e.tag) 5))
  | log {i : Fin k} {r : Reading} {w : GuiSink.Worker} (e : Entry)
      (kept : w.verbosity = (s.workers i).verbosity) (pushed : (s.workers i).stage = .pushed e)
      (stage : w.stage = .idle) (pending : (s.workers i).pending = e :: w.pending) :
      Effect s (.advance i r) ((s.setWorker i w).perform i r
        (.logMessage e.message "Intel Autonomus Driving Map" (GuiSink.documentedLevel e.tag)))
  | expire (now : Instant) : Effect s (.expire now) { s with host := (s.host.expire now).1 }

theorem effect_step (s : Sharing k) (m : Move k) : Effect s m (s.step m) := by
  cases m with
  | expire now => exact .expire now
  | advance i r =>
    rcases hw : s.workers i with ⟨v, stage, waiting⟩
    simp only [step, hw, GuiSink.Worker.advance]
    cases stage with
    | cleared e =>
      simp only [GuiSink.calls_eq_documented]
      exact .push e (by rw [hw]) (by rw [hw]) rfl (by rw [hw]; rfl)
    | pushed e =>
      simp only [GuiSink.calls_eq_documented]
      exact .log e (by rw [hw]) (by rw [hw]) rfl (by rw [hw]; rfl)
    | idle =>
      cases waiting with
      | nil => exact .skip (by rw [hw]) (by rw [hw]) (by rw [hw])
      | cons c waiting =>
        cases hc : c.delivery? v with
        | none =>
          simp only [hc]
          refine .skip (by rw [hw]) (by rw [hw]) ?_
          simp [hw, GuiSink.Worker.pending, GuiSink.Worker.current, delivered_cons, hc]
        | some e =>
          simp only [hc]
          refine .clear e (by rw [hw]) (by rw [hw]) rfl ?_
          simp [hw, GuiSink.Worker.pending, GuiSink.Worker.current, delivered_cons, hc]

theorem sinceClear_setWorker (i : Fin k) (w : GuiSink.Worker) (s : Sharing k) :
    (s.setWorker i w).sinceClear = s.sinceClear := rfl

theorem sinceClear_clear (i : Fin k) (r : Reading) (s : Sharing k) :
    (s.perform i r .clearWidgets).sinceClear = [] := by
  simp [sinceClear, perform]

theorem sinceClear_push (i : Fin k) (r : Reading) (title text : String) (style : BarStyle)
    (seconds : Nat) (s : Sharing k) :
    (s.perform i r (.pushMessage title text style seconds)).sinceClear =
      s.sinceClear ++ [(i, { title, text, style, pushedAt := r.instant, seconds })] := by
  simp [sinceClear, perform, Made.widget?]

theorem sinceClear_log (i : Fin k) (r : Reading) (text category : String) (level : PanelLevel)
    (s : Sharing k) :
    (s.perform i r (.logMessage text category level)).sinceClear = s.sinceClear := by
  simp [sinceClear, perform, Made.widget?]

theorem logged_setWorker (i : Fin k) (w : GuiSink.Worker) (s : Sharing k) :
    (s.setWorker i w).logged = s.logged := rfl

theorem logged_clear (i : Fin k) (r : Reading) (s : Sharing k) :
    (s.perform i r .clearWidgets).logged = s.logged := by
  simp [logged, perform, Made.entry?]

theorem logged_push (i : Fin k) (r : Reading) (title text : String) (style : BarStyle)
    (seconds : Nat) (s : Sharing k) :
    (s.perform i r (.pushMessage title text style seconds)).logged = s.logged := by
  simp [logged, perform, Made.entry?]

theorem logged_log (i : Fin k) (r : Reading) (text category : String) (level : PanelLevel)
    (s : Sharing k) :
    (s.perform i r (.logMessage text category level)).logged =
      s.logged ++ [(i, { timestamp := r.timestamp, category, level, text })] := by
  simp [logged, perform, Made.entry?]

theorem bar_log (i : Fin k) (r : Reading) (text category : String) (level : PanelLevel)
    (s : Sharing k) :
    (s.perform i r (.logMessage text category level)).host.bar = s.host.bar :=
  Host.bar_appendPanel _ s.host

theorem host_setWorker (i : Fin k) (w : GuiSink.Worker) (s : Sharing k) :
    (s.setWorker i w).host = s.host := rfl

theorem panel_log (i : Fin k) (r : Reading) (text category : String) (level : PanelLevel)
    (s : Sharing k) :
    (s.perform i r (.logMessage text category level)).host.panel =
      s.host.panel.append { timestamp := r.timestamp, category, level, text } := by
  rw [perform, Host.apply, Host.appendPanel]

theorem sinceClear_suffix (s : Sharing k) : s.sinceClear <:+ s.pushed := by
  have hprefix := List.takeWhile_prefix (fun m : Made k => decide (m.call ≠ .clearWidgets))
    (l := s.made.reverse)
  have hsuffix := List.reverse_suffix.mpr hprefix
  rw [List.reverse_reverse] at hsuffix
  exact hsuffix.filterMap Made.widget?

theorem workers_perform (i : Fin k) (r : Reading) (c : SurfaceCall) (s : Sharing k) :
    (s.perform i r c).workers = s.workers := rfl

theorem workers_setWorker_self (i : Fin k) (w : GuiSink.Worker) (s : Sharing k) :
    (s.setWorker i w).workers i = w := if_pos rfl

theorem workers_setWorker_of_ne {i j : Fin k} (hj : j ≠ i) (w : GuiSink.Worker) (s : Sharing k) :
    (s.setWorker i w).workers j = s.workers j := if_neg hj

theorem workers_perform_self (i : Fin k) (r : Reading) (c : SurfaceCall) (w : GuiSink.Worker)
    (s : Sharing k) : ((s.setWorker i w).perform i r c).workers i = w := by
  rw [workers_perform, workers_setWorker_self]

/-- What the sink that moves keeps, each of the sinks keeps. -/
theorem setWorker_congr {α : Type} (f : GuiSink.Worker → α) {i : Fin k} {w : GuiSink.Worker}
    {s : Sharing k} (hw : f w = f (s.workers i)) (j : Fin k) :
    f ((s.setWorker i w).workers j) = f (s.workers j) := by
  by_cases hj : j = i
  · rw [hj, workers_setWorker_self, hw]
  · rw [workers_setWorker_of_ne hj]

/-- The sinks at a cleared bar are others than the one that moves, and they were there before. -/
theorem cleared_setWorker {i j : Fin k} {w : GuiSink.Worker} {s : Sharing k} {e : Entry}
    (hw : ∀ e, w.stage ≠ .cleared e) (h : ((s.setWorker i w).workers j).stage = .cleared e) :
    j ≠ i ∧ (s.workers j).stage = .cleared e := by
  by_cases hj : j = i
  · subst hj
    rw [workers_setWorker_self] at h
    exact absurd h (hw e)
  · rw [workers_setWorker_of_ne hj] at h
    exact ⟨hj, h⟩

/-- A sink pushes at most once between two clears, and the bar shows such pushes only. -/
structure OneEach (s : Sharing k) : Prop where
  distinct : (s.sinceClear.map Prod.fst).Nodup
  fresh : ∀ i e, (s.workers i).stage = .cleared e → i ∉ s.sinceClear.map Prod.fst
  shown : s.host.bar.Sublist (s.sinceClear.map Prod.snd)
  short : s.host.bar.length ≤ Bar.capacity

theorem OneEach.start (h : Host) (v : Fin k → Verbosity) (calls : Fin k → List Call) :
    OneEach (start h v calls) where
  distinct := List.nodup_nil
  fresh _ _ _ := List.not_mem_nil
  shown := List.Sublist.refl []
  short := Nat.zero_le _

theorem OneEach.step {s t : Sharing k} {m : Move k} (h : OneEach s) (he : Effect s m t) :
    OneEach t := by
  cases he with
  | skip _ stage =>
    refine ⟨h.distinct, ?_, h.shown, h.short⟩
    intro j e hj
    rw [setWorker_congr GuiSink.Worker.stage stage] at hj
    exact h.fresh j e hj
  | clear e _ _ stage =>
    refine ⟨?_, ?_, List.nil_sublist _, Nat.zero_le _⟩
    · rw [sinceClear_clear]
      exact List.nodup_nil
    · intro j e' _
      rw [sinceClear_clear]
      exact List.not_mem_nil
  | @push i r w e _ cleared stage =>
    have hi : i ∉ s.sinceClear.map Prod.fst := h.fresh i e cleared
    refine ⟨?_, ?_, ?_, Bar.length_push_le _ _⟩
    · rw [sinceClear_push, sinceClear_setWorker, List.map_append]
      have hconcat := h.distinct.concat hi
      rwa [List.concat_eq_append] at hconcat
    · intro j e' hj
      have hw : ∀ e, w.stage ≠ .cleared e := by simp [stage]
      rw [workers_perform] at hj
      obtain ⟨hji, hj⟩ := cleared_setWorker hw hj
      rw [sinceClear_push, List.map_append, List.mem_append]
      have := h.fresh j e' hj
      rintro (hmem | hmem)
      · exact this hmem
      · exact hji (List.mem_singleton.mp hmem)
    · rw [sinceClear_push, List.map_append]
      exact (List.drop_sublist _ _).trans (h.shown.append (List.Sublist.refl _))
  | @log i r w e _ pushed stage =>
    refine ⟨?_, ?_, ?_, ?_⟩
    · rw [sinceClear_log]
      exact h.distinct
    · intro j e' hj
      have hw : ∀ e, w.stage ≠ .cleared e := by simp [stage]
      rw [workers_perform] at hj
      obtain ⟨_, hj⟩ := cleared_setWorker hw hj
      rw [sinceClear_log]
      exact h.fresh j e' hj
    · rw [sinceClear_log, bar_log]
      exact h.shown
    · rw [bar_log]
      exact h.short
  | expire now =>
    refine ⟨h.distinct, h.fresh, ?_, ?_⟩
    · exact (List.filter_sublist).trans h.shown
    · exact (List.length_filter_le _ _).trans h.short

theorem OneEach.length_le {s : Sharing k} (h : OneEach s) : s.host.bar.length ≤ min k 8 := by
  refine Nat.le_min.mpr ⟨?_, h.short⟩
  calc s.host.bar.length ≤ (s.sinceClear.map Prod.snd).length := h.shown.length_le
    _ = (s.sinceClear.map Prod.fst).length := by rw [List.length_map, List.length_map]
    _ ≤ Fintype.card (Fin k) := h.distinct.length_le_card
    _ = k := Fintype.card_fin k

/-- Without expiry the bar shows the last of these pushes. Before the first of them, a sink has
cleared the bar and not pushed yet, or nothing has begun. -/
structure Newest (s : Sharing k) : Prop where
  shown : s.host.bar = (s.sinceClear.map Prod.snd).rtake Bar.capacity
  due : s.sinceClear = [] →
    (∃ i e, (s.workers i).stage = .cleared e) ∨ s.logged = [] ∧ ∀ i, (s.workers i).stage = .idle

theorem Newest.start (h : Host) (v : Fin k → Verbosity) (calls : Fin k → List Call) :
    Newest (start h v calls) where
  shown := rfl
  due _ := .inr ⟨rfl, fun _ => rfl⟩

theorem Newest.step {s t : Sharing k} {m : Move k} (h : Newest s) (he : Effect s m t)
    (hm : m.isAdvance) : Newest t := by
  cases he with
  | skip _ stage =>
    refine ⟨h.shown, ?_⟩
    intro hnil
    simp only [setWorker_congr GuiSink.Worker.stage stage]
    exact h.due hnil
  | @clear i r w e _ _ stage =>
    refine ⟨?_, fun _ => .inl ⟨i, e, ?_⟩⟩
    · rw [sinceClear_clear]
      rfl
    · rw [workers_perform_self, stage]
  | push e _ cleared stage =>
    refine ⟨?_, ?_⟩
    · rw [sinceClear_push, List.map_append]
      change Bar.push _ s.host.bar = _
      rw [h.shown, Bar.push_rtake]
      rfl
    · intro hnil
      rw [sinceClear_push] at hnil
      exact absurd hnil (List.concat_ne_nil _ _)
  | @log i r w e _ pushed stage =>
    refine ⟨?_, ?_⟩
    · rw [sinceClear_log, bar_log]
      exact h.shown
    · intro hnil
      rw [sinceClear_log] at hnil
      obtain ⟨j, e', hj⟩ | ⟨_, hidle⟩ := h.due hnil
      · have hji : j ≠ i := by
          rintro rfl
          rw [pushed] at hj
          cases hj
        refine .inl ⟨j, e', ?_⟩
        rw [workers_perform, workers_setWorker_of_ne hji, hj]
      · rw [hidle i] at pushed
        cases pushed
  | expire now => cases hm

theorem Newest.getLast?_bar {s : Sharing k} (h : Newest s)
    (hidle : ∀ i, (s.workers i).stage = .idle) (hlogged : s.logged ≠ []) :
    ∃ i w, s.pushed.getLast? = some (i, w) ∧ s.host.bar.getLast? = some w := by
  have hne : s.sinceClear ≠ [] := by
    intro hnil
    obtain ⟨i, e, hi⟩ | ⟨hnone, _⟩ := h.due hnil
    · rw [hidle i] at hi
      cases hi
    · exact hlogged hnone
  obtain hnil | ⟨earlier, ⟨i, w⟩, hlast⟩ := s.sinceClear.eq_nil_or_concat
  · exact absurd hnil hne
  rw [List.concat_eq_append] at hlast
  obtain ⟨before, hpushed⟩ := s.sinceClear_suffix
  refine ⟨i, w, ?_, ?_⟩
  · rw [← hpushed, hlast, ← List.append_assoc, List.getLast?_concat]
  · have hcapacity : Bar.capacity = 7 + 1 := rfl
    rw [h.shown, hlast, List.map_append, List.map_singleton, hcapacity, List.rtake_concat_succ,
      List.getLast?_concat]

/-- The panel keeps the last entries, and what a sink adds is what its calls deliver. -/
structure Kept (v : Fin k → Verbosity) (calls : Fin k → List Call) (s : Sharing k) : Prop where
  panel : s.host.panel = (s.logged.map Prod.snd).rtake Panel.capacity
  verbosity : ∀ i, (s.workers i).verbosity = v i
  order : ∀ i, (s.loggedBy i).map PanelEntry.content ++ (s.workers i).pending.map Entry.content =
    (due (v i) (calls i)).map Entry.content

theorem Kept.start (h : Host) (v : Fin k → Verbosity) (calls : Fin k → List Call) :
    Kept v calls (start h v calls) where
  panel := (List.rtake_nil _).symm
  verbosity _ := rfl
  order i := congrArg (List.map Entry.content) (delivered_eq_due (v i) (calls i))

theorem loggedBy_setWorker (i j : Fin k) (w : GuiSink.Worker) (s : Sharing k) :
    (s.setWorker i w).loggedBy j = s.loggedBy j := rfl

theorem loggedBy_log (i j : Fin k) (r : Reading) (text category : String) (level : PanelLevel)
    (s : Sharing k) :
    (s.perform i r (.logMessage text category level)).loggedBy j = s.loggedBy j ++
      if i = j then [{ timestamp := r.timestamp, category, level, text }] else [] := by
  rw [loggedBy, logged_log, List.filter_append, List.map_append, loggedBy]
  by_cases h : i = j <;> simp [h]

theorem Effect.verbosity {s t : Sharing k} {m : Move k} (he : Effect s m t) (j : Fin k) :
    (t.workers j).verbosity = (s.workers j).verbosity := by
  cases he with
  | skip kept => exact setWorker_congr GuiSink.Worker.verbosity kept j
  | clear _ kept => exact setWorker_congr GuiSink.Worker.verbosity kept j
  | push _ kept => exact setWorker_congr GuiSink.Worker.verbosity kept j
  | log _ kept => exact setWorker_congr GuiSink.Worker.verbosity kept j
  | expire => rfl

theorem Kept.step {v : Fin k → Verbosity} {calls : Fin k → List Call} {s t : Sharing k} {m : Move k}
    (h : Kept v calls s) (he : Effect s m t) : Kept v calls t := by
  have hverbosity : ∀ j, (t.workers j).verbosity = v j := by
    intro j
    rw [he.verbosity, h.verbosity]
  cases he with
  | skip _ _ pending =>
    refine ⟨h.panel, hverbosity, ?_⟩
    intro j
    rw [setWorker_congr GuiSink.Worker.pending pending]
    exact h.order j
  | clear e _ _ _ pending =>
    refine ⟨?_, hverbosity, ?_⟩
    · rw [logged_clear]
      exact h.panel
    · intro j
      rw [loggedBy, logged_clear, workers_perform, setWorker_congr GuiSink.Worker.pending pending]
      exact h.order j
  | push e _ _ _ pending =>
    refine ⟨?_, hverbosity, ?_⟩
    · rw [logged_push]
      exact h.panel
    · intro j
      rw [loggedBy, logged_push, workers_perform, setWorker_congr GuiSink.Worker.pending pending]
      exact h.order j
  | @log i r w e _ _ _ pending =>
    refine ⟨?_, hverbosity, ?_⟩
    · rw [logged_log, logged_setWorker, List.map_append, List.map_singleton]
      rw [panel_log, host_setWorker, h.panel, Panel.append_rtake]
    · intro j
      rw [loggedBy_log, loggedBy_setWorker, workers_perform, ← h.order j]
      by_cases hj : i = j
      · subst hj
        rw [if_pos rfl, workers_setWorker_self, pending, List.map_append, List.append_assoc]
        rfl
      · rw [if_neg hj, List.append_nil, workers_setWorker_of_ne (Ne.symm hj)]
  | expire now => exact ⟨h.panel, hverbosity, h.order⟩

theorem run_induction {P : Sharing k → Prop} {moves : List (Move k)}
    (hstep : ∀ s, ∀ m ∈ moves, P s → P (s.step m)) {s : Sharing k} (h : P s) : P (run moves s) := by
  induction moves generalizing s with
  | nil => exact h
  | cons m moves ih =>
    refine ih (fun s m' hm' => hstep s m' (List.mem_cons_of_mem m hm')) ?_
    exact hstep s m List.mem_cons_self h

theorem step_advance {s : Sharing k} {i : Fin k} {w w' : GuiSink.Worker} {c : SurfaceCall}
    (r : Reading) (hw : s.workers i = w) (hadvance : w.advance = (some c, w')) :
    s.step (.advance i r) = (s.setWorker i w').perform i r c := by
  simp only [step, hw, hadvance]

/-- A sink that makes its three calls in a row delivers the message. -/
theorem host_run_alone {s : Sharing k} {i : Fin k} {v : Verbosity} {c : Call} {calls : List Call}
    {e : Entry} (r : Reading) (hw : s.workers i = { verbosity := v, waiting := c :: calls })
    (hc : c.delivery? v = some e) :
    (run [.advance i r, .advance i r, .advance i r] s).host =
      ((Host.logger r v).deliver e s.host).state := by
  have hclear : GuiSink.Worker.advance { verbosity := v, waiting := c :: calls } =
      (some .clearWidgets, { verbosity := v, stage := .cleared e, waiting := calls }) := by
    simp only [GuiSink.Worker.advance, hc]
    rfl
  rw [run, List.foldl_cons, step_advance r hw hclear, List.foldl_cons,
    step_advance r (workers_perform_self i r _ _ s) rfl, List.foldl_cons,
    step_advance r (workers_perform_self i r _ _ _) rfl, List.foldl_nil]
  rfl

/-- However the sinks' calls on the surfaces and the expiry of widgets follow each other, the bar
shows widgets of different sinks, and the panel the last entries, those of each sink in the order of
its calls. Without expiry the bar ends with the last push once no sink is at work on a message. -/
theorem run_shared (h : Host) (v : Fin k → Verbosity) (calls : Fin k → List Call)
    (moves : List (Move k)) :
    let s := run moves (start h v calls)
    (s.host.bar.Sublist (s.sinceClear.map Prod.snd) ∧ (s.sinceClear.map Prod.fst).Nodup ∧
        s.host.bar.length ≤ min k 8) ∧
      (s.host.panel = (s.logged.map Prod.snd).rtake 5000 ∧
        (s.logged.length ≤ 5000 → s.host.panel = s.logged.map Prod.snd) ∧
        ∀ i, (s.loggedBy i).map PanelEntry.content ++
            ((s.workers i).current ++ due (v i) (s.workers i).waiting).map Entry.content =
          (due (v i) (calls i)).map Entry.content) ∧
      ((∀ m ∈ moves, m.isAdvance) → (∀ i, (s.workers i).stage = .idle) → s.logged ≠ [] →
        ∃ i w, s.pushed.getLast? = some (i, w) ∧ s.host.bar.getLast? = some w) := by
  intro s
  have honeEach : OneEach s :=
    run_induction (fun s m _ hs => hs.step (effect_step s m)) (.start h v calls)
  have hkept : Kept v calls s :=
    run_induction (fun s m _ hs => hs.step (effect_step s m)) (.start h v calls)
  refine ⟨⟨honeEach.shown, honeEach.distinct, honeEach.length_le⟩, ⟨hkept.panel, ?_, ?_⟩, ?_⟩
  · intro hlength
    have hnone : (s.logged.map Prod.snd).length - 5000 = 0 := by
      rw [List.length_map]
      omega
    rw [hkept.panel, List.rtake, Panel.capacity, hnone, List.drop_zero]
  · intro i
    have horder := hkept.order i
    rw [GuiSink.Worker.pending, delivered_eq_due, hkept.verbosity i] at horder
    exact horder
  · intro hmoves
    have hnewest : Newest s :=
      run_induction (fun s m hm hs => hs.step (effect_step s m) (hmoves m hm)) (.start h v calls)
    exact hnewest.getLast?_bar

/-- Two sinks, each at a cleared bar before the other pushes. -/
def overlapping (r : Reading) : List (Move 2) :=
  [.advance 0 r, .advance 1 r, .advance 0 r, .advance 1 r, .advance 1 r, .advance 0 r]

theorem run_shared_overlapping :
    let moves := overlapping ⟨0, ⟨0⟩⟩
    let calls : Fin 2 → List Call := fun i =>
      if i = 0 then [.emit .error "first"] else [.log "NOTE." "second"]
    let s := run moves (start {} (fun _ => ⟨3⟩) calls)
    (s.logged.length ≤ 5000 ∧ s.host.panel = s.logged.map Prod.snd) ∧
      (∀ m ∈ moves, m.isAdvance) ∧ (∀ i, (s.workers i).stage = .idle) ∧ s.logged ≠ [] ∧
        ∃ i w, s.pushed.getLast? = some (i, w) ∧ s.host.bar.getLast? = some w := by
  intro moves calls s
  have hlength : s.logged.length ≤ 5000 := by decide
  have hmoves : ∀ m ∈ moves, m.isAdvance := by decide
  have hidle : ∀ i, (s.workers i).stage = .idle := by decide
  have hlogged : s.logged ≠ [] := by decide
  obtain ⟨_, ⟨_, hpanel, _⟩, hnewest⟩ := run_shared {} (fun _ => ⟨3⟩) calls moves
  exact ⟨⟨hlength, hpanel hlength⟩, hmoves, hidle, hlogged, hnewest hmoves hidle hlogged⟩

end Sharing

end SeverityLog
