import Mathlib.Data.List.InsertIdx
import SeverityLog.Host.State
import SeverityLog.Proofs.History

/-!
# Where the widgets of the bar went

A push is told by its position among the moves of the bar, and the pushes whose widgets are shown
are followed move by move. Of the pushes since the bar was last cleared, each one that is not shown
was dismissed, or had expired when the bar was searched for expired widgets later on, or at least
eight pushes came after it.
-/

namespace SeverityLog

namespace Bar

inductive Move where
  | push (w : Widget)
  | clear
  | expire (now : Instant)
  | dismiss (i : Nat)
  deriving DecidableEq, Repr

/-- A widget that was pushed, and the position of its push among the moves. -/
structure Push where
  position : Nat
  widget : Widget
  deriving DecidableEq, Repr

def Move.push? : Move × Nat → Option Push
  | (push w, n) => some ⟨n, w⟩
  | _ => none

def pushes (moves : List Move) : List Push := History.numbered Move.push? moves

def sinceClear (moves : List Move) : List Push := History.since .clear Move.push? moves

/-- The pushes whose widgets are shown after the move at a position. -/
def follow (shown : List Push) : Move × Nat → List Push
  | (.push w, n) => List.rtake (shown ++ [⟨n, w⟩]) capacity
  | (.clear, _) => []
  | (.expire now, _) => shown.filter (!·.widget.isExpired now)
  | (.dismiss i, _) => shown.eraseIdx i

def shown (moves : List Move) : List Push := moves.zipIdx.foldl follow []

/-- Some move was of a kind that is told by the moves before it. -/
def Happened (kind : List Move → Move → Prop) (moves : List Move) : Prop :=
  ∃ before m later, moves = before ++ m :: later ∧ kind before m

namespace Push

variable (p : Push)

def Cleared : List Move → Prop :=
  Happened fun before m => m = .clear ∧ p.position < before.length

/-- The widget was closed where it stood on the bar. -/
def Dismissed : List Move → Prop :=
  Happened fun before m => ∃ i, m = .dismiss i ∧ (shown before)[i]? = some p

/-- After the push, the bar was searched at a time at which the widget had expired. -/
def Expired : List Move → Prop :=
  Happened fun before m =>
    ∃ now, m = .expire now ∧ p.position < before.length ∧ p.widget.isExpired now

def later (moves : List Move) : List Push := (pushes moves).filter (p.position < ·.position)

end Push

end Bar

namespace Host

def move (h : Host) : Bar.Move → Host
  | .push w => h.pushWidget w
  | .clear => h.clearWidgets
  | .expire now => (h.expire now).1
  | .dismiss i => h.dismiss i

def moved (moves : List Bar.Move) (h : Host) : Host := moves.foldl move h

end Host

namespace Bar

/-! ## One more move -/

theorem happened_concat {kind : List Move → Move → Prop} {moves : List Move} {m : Move} :
    Happened kind (moves ++ [m]) ↔ Happened kind moves ∨ kind moves m := by
  constructor
  · rintro ⟨before, m', later, hmoves, hkind⟩
    obtain rfl | ⟨later, m'', rfl⟩ := later.eq_nil_or_concat
    · obtain ⟨rfl, rfl⟩ := List.append_singleton_inj.mp hmoves
      exact .inr hkind
    · rw [List.concat_eq_append, ← List.cons_append, ← List.append_assoc] at hmoves
      obtain ⟨rfl, rfl⟩ := List.append_singleton_inj.mp hmoves
      exact .inl ⟨before, m', later, rfl, hkind⟩
  · rintro (⟨before, m', later, rfl, hkind⟩ | hkind)
    · exact ⟨before, m', later ++ [m], by simp, hkind⟩
    · exact ⟨moves, m, [], rfl, hkind⟩

theorem shown_concat (moves : List Move) (m : Move) :
    shown (moves ++ [m]) = follow (shown moves) (m, moves.length) := by
  rw [shown, History.zipIdx_concat, List.foldl_append]
  rfl

/-! ## The pushes and their order -/

theorem mem_pushes {moves : List Move} {p : Push} :
    p ∈ pushes moves ↔ moves[p.position]? = some (.push p.widget) := by
  simp only [pushes, History.numbered, List.mem_filterMap, Prod.exists,
    List.mem_zipIdx_iff_getElem?]
  constructor
  · rintro ⟨m, n, hm, hp⟩
    cases m <;> cases hp
    exact hm
  · intro hm
    exact ⟨.push p.widget, p.position, hm, rfl⟩

theorem position_lt {moves : List Move} {p : Push} (h : p ∈ pushes moves) :
    p.position < moves.length :=
  (List.getElem?_eq_some_iff.mp (mem_pushes.mp h)).1

theorem position_of_push? {m : Move} {n : Nat} {p : Push} (h : p ∈ (Move.push? (m, n)).toList) :
    p.position = n := by
  cases m <;> simp_all [Move.push?]

theorem pairwise_pushes (moves : List Move) :
    (pushes moves).Pairwise (·.position < ·.position) := by
  induction moves using List.reverseRecOn with
  | nil => exact .nil
  | append_singleton moves m ih =>
    rw [pushes, History.numbered_concat, List.pairwise_append]
    refine ⟨ih, ?_, ?_⟩
    · cases m <;> simp [Move.push?]
    · intro p hp q hq
      rw [position_of_push? hq]
      exact position_lt hp

theorem shown_sublist (moves : List Move) : (shown moves).Sublist (sinceClear moves) := by
  induction moves using List.reverseRecOn with
  | nil => exact .refl []
  | append_singleton moves m ih =>
    rw [shown_concat]
    cases m with
    | push w =>
      rw [sinceClear, History.since_concat _ _ (by simp)]
      exact (List.drop_sublist _ _).trans (ih.append (.refl _))
    | clear => exact List.nil_sublist _
    | expire now =>
      rw [sinceClear, History.since_concat _ _ (by simp)]
      exact List.filter_sublist.trans (ih.trans (List.sublist_append_left _ _))
    | dismiss i =>
      rw [sinceClear, History.since_concat _ _ (by simp)]
      exact (List.eraseIdx_sublist _ _).trans (ih.trans (List.sublist_append_left _ _))

theorem shown_sublist_pushes (moves : List Move) : (shown moves).Sublist (pushes moves) :=
  (shown_sublist moves).trans (History.since_suffix _ _).sublist

theorem length_shown_le (moves : List Move) : (shown moves).length ≤ capacity := by
  induction moves using List.reverseRecOn with
  | nil => exact Nat.zero_le _
  | append_singleton moves m ih =>
    rw [shown_concat]
    cases m with
    | push w =>
      simp only [follow, List.rtake, List.length_drop]
      omega
    | clear => exact Nat.zero_le _
    | expire now => exact (List.length_filter_le _ _).trans ih
    | dismiss i => exact (List.length_eraseIdx_le _ _).trans ih

/-- The bar is told by its pushes. -/
theorem bar_move {h : Host} {l : List Push} (hl : h.bar = l.map Push.widget) (m : Move) (n : Nat) :
    (h.move m).bar = (follow l (m, n)).map Push.widget := by
  cases m with
  | push w =>
    change h.bar.push w = _
    rw [push_eq_rtake, hl, follow, List.rtake, List.rtake, List.map_drop, List.map_append]
    simp
  | clear => rfl
  | expire now =>
    change h.bar.filter (!·.isExpired now) = _
    rw [hl, List.filter_map]
    rfl
  | dismiss i =>
    change h.bar.eraseIdx i = _
    rw [hl, List.eraseIdx_map]
    rfl

theorem bar_moved {h : Host} (hbar : h.bar = []) (moves : List Move) :
    (h.moved moves).bar = (shown moves).map Push.widget := by
  induction moves using List.reverseRecOn with
  | nil => exact hbar
  | append_singleton moves m ih =>
    rw [Host.moved, List.foldl_append, shown_concat]
    exact bar_move ih m moves.length

/-! ## What became of a push -/

/-- What happened to a push that was there already happened after it. -/
theorem Happened.lt {kind : List Move → Move → Prop} {moves : List Move} {n : Nat}
    (h : Happened kind moves) (hkind : ∀ before m, kind before m → n < before.length) :
    n < moves.length := by
  obtain ⟨before, m, later, rfl, hm⟩ := h
  have hlt := hkind before m hm
  rw [List.length_append]
  omega

/-- A push whose widget is not shown, although the bar was not cleared since. -/
def Push.Missing (p : Push) (moves : List Move) : Prop :=
  p.Dismissed moves ∨ p.Expired moves ∨ capacity ≤ (p.later moves).length

theorem Push.later_concat (p : Push) (moves : List Move) (m : Move) :
    p.later (moves ++ [m]) = p.later moves ++
      (Move.push? (m, moves.length)).toList.filter (p.position < ·.position) := by
  rw [later, pushes, History.numbered_concat, List.filter_append, later, pushes]

theorem Push.Missing.concat {p : Push} {moves : List Move} (h : p.Missing moves) (m : Move) :
    p.Missing (moves ++ [m]) := by
  rcases h with h | h | h
  · exact .inl (happened_concat.mpr (.inl h))
  · exact .inr (.inl (happened_concat.mpr (.inl h)))
  · refine .inr (.inr (h.trans ?_))
    rw [Push.later_concat, List.length_append]
    exact Nat.le_add_right _ _

/-- A push that the capacity displaces is followed by as many pushes. -/
theorem capacity_le_later {l : List Push} {moves : List Move} {p : Push}
    (hl : l.Sublist (pushes moves)) (hp : p ∈ l) (hnot : p ∉ l.rtake capacity) :
    capacity ≤ (p.later moves).length := by
  have hsplit : l.rdrop capacity ++ l.rtake capacity = l := List.take_append_drop _ _
  have hmem : p ∈ l.rdrop capacity := by
    rw [← hsplit, List.mem_append] at hp
    exact hp.resolve_right hnot
  have hpairwise := (pairwise_pushes moves).sublist hl
  rw [← hsplit, List.pairwise_append] at hpairwise
  have hlater : ∀ q ∈ l.rtake capacity, p.position < q.position := hpairwise.2.2 p hmem
  have hlength : (l.rtake capacity).length = capacity := by
    have hpos := List.length_pos_of_mem hmem
    simp only [List.rdrop, List.length_take] at hpos
    simp only [List.rtake, List.length_drop]
    omega
  have hself : (l.rtake capacity).filter (p.position < ·.position) = l.rtake capacity :=
    List.filter_eq_self.mpr (by simpa using hlater)
  have hsub : (l.rtake capacity).Sublist (p.later moves) := by
    rw [← hself]
    exact ((List.drop_sublist _ l).trans hl).filter _
  exact hlength.symm.le.trans hsub.length_le

theorem missing_of_not_mem_shown {moves : List Move} {p : Push} (hp : p ∈ sinceClear moves)
    (hnot : p ∉ shown moves) : p.Missing moves := by
  induction moves using List.reverseRecOn with
  | nil => cases hp
  | append_singleton moves m ih =>
    by_cases hm : m = .clear
    · rw [hm, sinceClear, History.since_self] at hp
      cases hp
    rw [sinceClear, History.since_concat _ _ hm, List.mem_append] at hp
    by_cases hshown : p ∈ shown moves
    · -- The move takes the widget off the bar.
      rw [shown_concat] at hnot
      cases m with
      | push w =>
        refine .inr (.inr (capacity_le_later ?_ (List.mem_append_left _ hshown) hnot))
        rw [pushes, History.numbered_concat]
        exact (shown_sublist_pushes moves).append (.refl _)
      | clear => exact absurd rfl hm
      | expire now =>
        have hexpired : p.widget.isExpired now := by
          simpa [follow, hshown] using hnot
        have hlt := position_lt ((shown_sublist_pushes moves).mem hshown)
        exact .inr (.inl (happened_concat.mpr (.inr ⟨now, rfl, hlt, hexpired⟩)))
      | dismiss i =>
        obtain ⟨k, hk⟩ := List.mem_iff_getElem?.mp hshown
        have hki : k = i := by
          by_contra hne
          exact hnot (List.mem_eraseIdx_iff_getElem?.mpr ⟨k, hne, hk⟩)
        exact .inl (happened_concat.mpr (.inr ⟨i, rfl, hki ▸ hk⟩))
    · rcases hp with hp | hp
      · exact (ih hp hshown).concat m
      · -- The newest push is shown.
        cases m with
        | push w =>
          obtain rfl := List.mem_singleton.mp hp
          refine absurd ?_ hnot
          rw [shown_concat, follow, capacity, List.rtake_concat_succ]
          exact List.mem_append_right _ (List.mem_singleton_self _)
        | clear => cases hp
        | expire now => cases hp
        | dismiss i => cases hp

theorem mem_sinceClear_or_cleared {moves : List Move} {p : Push} (hp : p ∈ pushes moves) :
    p ∈ sinceClear moves ∨ p.Cleared moves := by
  induction moves using List.reverseRecOn with
  | nil => cases hp
  | append_singleton moves m ih =>
    rw [pushes, History.numbered_concat, List.mem_append] at hp
    by_cases hm : m = .clear
    · subst hm
      have hlt := position_lt (hp.resolve_right List.not_mem_nil)
      exact .inr (happened_concat.mpr (.inr ⟨rfl, hlt⟩))
    · rw [sinceClear, History.since_concat _ _ hm, List.mem_append]
      rcases hp with hp | hp
      · rcases ih hp with h | h
        · exact .inl (.inl h)
        · exact .inr (happened_concat.mpr (.inl h))
      · exact .inl (.inr hp)

theorem mem_of_mem_follow {l : List Push} {m : Move} {n : Nat} {p : Push}
    (h : p ∈ follow l (m, n)) : p ∈ l ∨ ∃ w, m = .push w ∧ p = ⟨n, w⟩ := by
  cases m with
  | push w =>
    rcases List.mem_append.mp (List.mem_of_mem_drop h) with h | h
    · exact .inl h
    · exact .inr ⟨w, rfl, List.mem_singleton.mp h⟩
  | clear => cases h
  | expire now => exact .inl (List.mem_of_mem_filter h)
  | dismiss i => exact .inl ((List.eraseIdx_sublist _ _).mem h)

theorem nodup_shown (moves : List Move) : (shown moves).Nodup :=
  ((pairwise_pushes moves).sublist (shown_sublist_pushes moves)).imp fun h he =>
    absurd (congrArg Push.position he) h.ne

/-- A widget that is shown was not taken off the bar. -/
theorem kept_of_mem_shown {moves : List Move} {p : Push} (hp : p ∈ shown moves) :
    ¬ p.Cleared moves ∧ ¬ p.Dismissed moves ∧ ¬ p.Expired moves := by
  induction moves using List.reverseRecOn with
  | nil => cases hp
  | append_singleton moves m ih =>
    rw [shown_concat] at hp
    simp only [Push.Cleared, Push.Dismissed, Push.Expired, happened_concat, not_or]
    rcases mem_of_mem_follow hp with hshown | ⟨w, rfl, rfl⟩
    · obtain ⟨hcleared, hdismissed, hexpired⟩ := ih hshown
      refine ⟨⟨hcleared, ?_⟩, ⟨hdismissed, ?_⟩, ⟨hexpired, ?_⟩⟩
      · rintro ⟨rfl, _⟩
        cases hp
      · rintro ⟨i, rfl, hi⟩
        obtain ⟨k, hne, hk⟩ := List.mem_eraseIdx_iff_getElem?.mp hp
        have hlt := (List.getElem?_eq_some_iff.mp hk).1
        exact hne ((List.getElem?_inj hlt (nodup_shown moves)).mp (hk.trans hi.symm))
      · rintro ⟨now, rfl, _, hnow⟩
        simpa [hnow] using List.of_mem_filter hp
    · -- The push is newer than every move before it.
      have hnew : ¬ moves.length < moves.length := Nat.lt_irrefl _
      refine ⟨⟨?_, by simp⟩, ⟨?_, by simp⟩, ⟨?_, by simp⟩⟩
      · exact fun h => hnew (h.lt fun _ _ ⟨_, hlt⟩ => hlt)
      · refine fun h => hnew (h.lt fun before _ ⟨i, _, hi⟩ => ?_)
        exact position_lt ((shown_sublist_pushes before).mem (List.mem_of_getElem? hi))
      · exact fun h => hnew (h.lt fun _ _ ⟨_, _, hlt, _⟩ => hlt)

theorem later_eq_nil {moves : List Move} {p : Push} (h : (pushes moves).getLast? = some p) :
    p.later moves = [] := by
  obtain ⟨before, hbefore⟩ := List.getLast?_eq_some_iff.mp h
  have hpairwise := pairwise_pushes moves
  rw [hbefore, List.pairwise_append] at hpairwise
  rw [Push.later, hbefore, List.filter_eq_nil_iff]
  intro q hq
  rw [decide_eq_true_eq, Nat.not_lt]
  rcases List.mem_append.mp hq with hq | hq
  · exact (hpairwise.2.2 q hq p (List.mem_singleton_self p)).le
  · rw [List.mem_singleton.mp hq]

/-- The newest push is shown unless it was taken off the bar. -/
theorem mem_shown_of_getLast? {moves : List Move} {p : Push}
    (h : (pushes moves).getLast? = some p) :
    p ∈ shown moves ↔ ¬ (p.Cleared moves ∨ p.Dismissed moves ∨ p.Expired moves) := by
  rw [not_or, not_or]
  refine ⟨kept_of_mem_shown, ?_⟩
  rintro ⟨hcleared, hdismissed, hexpired⟩
  by_contra hnot
  have hsince := (mem_sinceClear_or_cleared (List.mem_of_getLast? h)).resolve_right hcleared
  rcases missing_of_not_mem_shown hsince hnot with hd | he | hl
  · exact hdismissed hd
  · exact hexpired he
  · rw [later_eq_nil h] at hl
    exact absurd hl (by decide)

/-- However widgets are pushed, cleared, expired and closed, the bar shows at most eight of those
pushed since the last clear, in their order and each once. The newest push is among them unless it
was cleared, closed or expired. Each of the others that is missing was closed, or it had expired at
the time of a later expiry, or at least eight pushes came after it. -/
theorem shown_accounts (v : Verbosity) (moves : List Move) :
    let bar := ((Host.new v).moved moves).bar
    (bar = (shown moves).map Push.widget ∧ bar.length ≤ 8) ∧
      ((shown moves).Sublist (sinceClear moves) ∧
        (shown moves).Pairwise (·.position < ·.position) ∧
        ∀ p ∈ shown moves, moves[p.position]? = some (.push p.widget)) ∧
      (∀ p, (pushes moves).getLast? = some p →
        (p ∈ shown moves ↔ ¬ (p.Cleared moves ∨ p.Dismissed moves ∨ p.Expired moves))) ∧
      ∀ p ∈ sinceClear moves, p ∉ shown moves →
        p.Dismissed moves ∨ p.Expired moves ∨ 8 ≤ (p.later moves).length := by
  intro bar
  have hbar : bar = (shown moves).map Push.widget := bar_moved rfl moves
  refine ⟨⟨hbar, ?_⟩, ⟨shown_sublist moves, ?_, ?_⟩, fun p => mem_shown_of_getLast?, ?_⟩
  · rw [hbar, List.length_map]
    exact length_shown_le moves
  · exact (pairwise_pushes moves).sublist (shown_sublist_pushes moves)
  · exact fun p hp => mem_pushes.mp ((shown_sublist_pushes moves).mem hp)
  · exact fun p => missing_of_not_mem_shown

/-- A crowded bar: the first of nine widgets is displaced, the second is closed, and the others but
the last expire. -/
def crowded : List Move :=
  let note (seconds : Nat) : Widget :=
    { title := "NOTE.", text := "full", style := .info, pushedAt := 0, seconds }
  List.replicate 8 (.push (note 1)) ++ [.push (note 2), .dismiss 0, .expire nanosPerSecond]

theorem shown_accounts_crowded :
    let note (seconds : Nat) : Widget :=
      { title := "NOTE.", text := "full", style := .info, pushedAt := 0, seconds }
    let first : Push := ⟨0, note 1⟩
    let last : Push := ⟨8, note 2⟩
    (last ∈ shown crowded ∧ crowded[last.position]? = some (.push last.widget)) ∧
      ((pushes crowded).getLast? = some last ∧
        (last ∈ shown crowded ↔
          ¬ (last.Cleared crowded ∨ last.Dismissed crowded ∨ last.Expired crowded))) ∧
      (first ∈ sinceClear crowded ∧ first ∉ shown crowded) ∧
        (first.Dismissed crowded ∨ first.Expired crowded ∨ 8 ≤ (first.later crowded).length) := by
  intro note first last
  have hlast : last ∈ shown crowded := by decide
  have hnewest : (pushes crowded).getLast? = some last := by decide
  have hfirst : first ∈ sinceClear crowded := by decide
  have hgone : first ∉ shown crowded := by decide
  obtain ⟨_, ⟨_, _, hpushed⟩, hpresent, hmissing⟩ := shown_accounts .all crowded
  exact ⟨⟨hlast, hpushed last hlast⟩, ⟨hnewest, hpresent last hnewest⟩, ⟨hfirst, hgone⟩,
    hmissing first hfirst hgone⟩

end Bar

end SeverityLog
