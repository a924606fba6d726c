import SeverityLog.Proofs.SentMessage

/-!
# The next expiry

Whether a widget has expired is told by its age, and the time until the next expiry by the moment at
which its lifetime is over. The two agree but for widgets without a lifetime that were pushed later
than the time asked for: these have expired before the moment comes. No such widget is left on the
bar after an expiry, so a frame is never asked for without a delay, nor too late for a widget.
-/

namespace SeverityLog

namespace Widget

variable {w : Widget} {now t d : Nat}

theorem lifetime_eq_zero_iff : w.lifetime = 0 ↔ w.seconds = 0 := by
  rw [lifetime, nanosPerSecond]
  omega

/-- A widget without a lifetime has always expired. -/
theorem isExpired_of_seconds_eq_zero (h : w.seconds = 0) : w.isExpired t := by
  rw [isExpired_iff, lifetime_eq_zero_iff.mpr h]
  exact Nat.zero_le _

theorem isExpired_add_untilExpiry : w.isExpired (now + w.untilExpiry now) := by
  rw [isExpired_iff, untilExpiry]
  omega

/-- Before the moment at which its lifetime is over, a widget has expired only if it has no lifetime
and its push is still to come. -/
theorem isExpired_iff_of_lt (hd : d ≤ w.untilExpiry now) (hle : now ≤ t) (hlt : t < now + d) :
    w.isExpired t ↔ w.seconds = 0 ∧ t < w.pushedAt := by
  rw [isExpired_iff, ← lifetime_eq_zero_iff]
  rw [untilExpiry] at hd
  constructor
  · intro hold
    have hearly : t < w.pushedAt := by omega
    exact ⟨by omega, hearly⟩
  · rintro ⟨hzero, -⟩
    rw [hzero]
    exact Nat.zero_le _

theorem untilExpiry_pos (h : ¬ w.isExpired now) : 0 < w.untilExpiry now := by
  rw [isExpired_iff] at h
  rw [untilExpiry]
  omega

end Widget

namespace Bar

variable {b : Bar} {now t d : Nat}

theorem nextExpiry_eq_none_iff : b.nextExpiry now = none ↔ b = [] := by
  rw [nextExpiry, List.min?_eq_none_iff, List.map_eq_nil_iff]

theorem nextExpiry_eq_some_iff :
    b.nextExpiry now = some d ↔
      (∃ w ∈ b, w.untilExpiry now = d) ∧ ∀ w ∈ b, d ≤ w.untilExpiry now := by
  rw [nextExpiry, List.min?_eq_some_iff, List.mem_map, List.forall_mem_map]

theorem expire_snd_pos {w : Widget} (hw : w ∈ b) (h : w.isExpired t) : 0 < (b.expire t).2 := by
  have hlt : (b.filter (!·.isExpired t)).length < b.length :=
    List.length_filter_lt_length_iff_exists.mpr ⟨w, hw, by simp [h]⟩
  exact Nat.sub_pos_of_lt hlt

theorem expire_nextExpiry_pos (h : b.nextExpiry now = some d) : 0 < (b.expire (now + d)).2 := by
  obtain ⟨⟨w, hw, rfl⟩, -⟩ := nextExpiry_eq_some_iff.mp h
  exact expire_snd_pos hw Widget.isExpired_add_untilExpiry

theorem expire_before_nextExpiry (h : b.nextExpiry now = some d) (hle : now ≤ t)
    (hlt : t < now + d) :
    (b.expire t).1 = b.filter fun w => !(w.seconds = 0 ∧ t < w.pushedAt) := by
  obtain ⟨-, hleast⟩ := nextExpiry_eq_some_iff.mp h
  refine List.filter_congr fun w hw => ?_
  have hiff := Widget.isExpired_iff_of_lt (hleast w hw) hle hlt
  rw [Bool.eq_iff_iff, Bool.not_eq_true', Bool.not_eq_true', decide_eq_false_iff_not, ← hiff,
    Bool.not_eq_true]

theorem nextExpiry_pos (hlive : ∀ w ∈ b, ¬ w.isExpired now) (h : b.nextExpiry now = some d) :
    0 < d := by
  obtain ⟨⟨w, hw, rfl⟩, -⟩ := nextExpiry_eq_some_iff.mp h
  exact Widget.untilExpiry_pos (hlive w hw)

theorem expire_eq_self_before_nextExpiry (hlive : ∀ w ∈ b, ¬ w.isExpired now)
    (h : b.nextExpiry now = some d) (hle : now ≤ t) (hlt : t < now + d) : (b.expire t).1 = b := by
  obtain ⟨-, hleast⟩ := nextExpiry_eq_some_iff.mp h
  have hstill : ∀ w ∈ b, ¬ w.isExpired t := by
    intro w hw hexpired
    have hiff := Widget.isExpired_iff_of_lt (hleast w hw) hle hlt
    -- A widget without a lifetime would have expired already, so no widget is an exception.
    exact hlive w hw (Widget.isExpired_of_seconds_eq_zero (hiff.mp hexpired).1)
  rw [expire_eq_self hstill]

end Bar

namespace App

variable {now : Instant} {k : Controls} {a : App}

theorem not_isExpired_of_mem_drawn {w : Widget} (h : w ∈ (a.drawn now k).bar) :
    ¬ w.isExpired now := by
  have hkept : w ∈ (a.host.bar.expire now).1 := by
    rw [drawn, Host.bar_act] at h
    cases hk : k.dismiss with
    | none =>
      rw [hk] at h
      exact h
    | some i =>
      rw [hk] at h
      exact List.mem_of_mem_eraseIdx h
  exact Bar.not_isExpired_of_mem_expire hkept

theorem repaint_eq_after {delay : Nat} (h : a.repaint now k = some (.after delay)) :
    ∃ d, (a.drawn now k).bar.nextExpiry now = some d ∧ delay = min d nanosPerSecond := by
  simp only [repaint] at h
  split at h
  · cases h
  · rename_i hp
    obtain ⟨d, hd, hdelay⟩ := Option.map_eq_some_iff.mp h
    cases hdelay
    exact ⟨d, hd, rfl⟩

end App

/-- There is a next expiry just when there is a widget. At its moment at least one widget goes, and
before it none but those without a lifetime whose push is still to come. No bar from which the
expired widgets were just removed has its next expiry at once. So after every frame the next one is
asked for later than at once, within a second, and no later than any widget on the bar expires. -/
theorem nextExpiry_exact (b : Bar) (now : Instant) :
    (b.nextExpiry now = none ↔ b = []) ∧
      (∀ d, b.nextExpiry now = some d →
        0 < (b.expire (now + d)).2 ∧
          ∀ t, now ≤ t → t < now + d →
            (b.expire t).1 = b.filter fun w => !(w.seconds = 0 ∧ t < w.pushedAt)) ∧
      (b.expire now).1.nextExpiry now ≠ some 0 ∧
      ∀ (a : App) (k : Controls) (delay : Nat), a.repaint now k = some (.after delay) →
        0 < delay ∧ delay ≤ 1000000000 ∧
          ∀ t, now ≤ t → t < now + delay →
            ((a.drawn now k).bar.expire t).1 = (a.drawn now k).bar := by
  refine ⟨Bar.nextExpiry_eq_none_iff, ?_, ?_, ?_⟩
  · intro d hd
    exact ⟨Bar.expire_nextExpiry_pos hd, fun t => Bar.expire_before_nextExpiry hd⟩
  · intro hzero
    have hlive : ∀ w ∈ (b.expire now).1, ¬ w.isExpired now :=
      fun w => Bar.not_isExpired_of_mem_expire
    exact Nat.lt_irrefl 0 (Bar.nextExpiry_pos hlive hzero)
  · intro a k delay hdelay
    have hlive : ∀ w ∈ (a.drawn now k).bar, ¬ w.isExpired now :=
      fun w => App.not_isExpired_of_mem_drawn
    obtain ⟨d, hd, rfl⟩ := App.repaint_eq_after hdelay
    have hpos : 0 < d := Bar.nextExpiry_pos hlive hd
    have hsecond : nanosPerSecond = 1000000000 := rfl
    refine ⟨by omega, by omega, fun t hle hlt => ?_⟩
    -- A delay that is cut to a second ends before the next expiry.
    have hbefore : t < now + d := lt_of_lt_of_le hlt (Nat.add_le_add_left (Nat.min_le_left _ _) _)
    exact Bar.expire_eq_self_before_nextExpiry hlive hd hle hbefore

/-- A widget of five seconds, one without a lifetime that is pushed after four seconds, and one that
is pushed after seven. -/
def Bar.ahead : Bar :=
  let note (pushedAt : Instant) (seconds : Nat) : Widget :=
    { title := "NOTE.", text := "ahead", style := .info, pushedAt, seconds }
  [note 0 5, note 4000000000 0, note 7000000000 2]

/-- After three seconds, and a moment before the next expiry. -/
theorem nextExpiry_exact_ahead :
    let now : Instant := 3000000000
    let t : Instant := 3999999999
    let a : App := { host := { bar := .ahead }, guiVerbosity := .all, consoleVerbosity := .all }
    (Bar.ahead.nextExpiry now = some 1000000000 ∧ now ≤ t ∧ t < now + 1000000000) ∧
      (0 < (Bar.ahead.expire (now + 1000000000)).2 ∧
        (Bar.ahead.expire t).1 = Bar.ahead.eraseIdx 1) ∧
      a.repaint now {} = some (.after 1000000000) ∧
        ((a.drawn now {}).bar.expire t).1 = Bar.ahead.eraseIdx 1 := by
  intro now t a
  have hnext : Bar.ahead.nextExpiry now = some 1000000000 := by decide
  have hle : now ≤ t := by decide
  have hlt : t < now + 1000000000 := by decide
  have hrepaint : a.repaint now {} = some (.after 1000000000) := by decide
  obtain ⟨-, hexact, -, hframe⟩ := nextExpiry_exact .ahead now
  obtain ⟨hremoved, hbefore⟩ := hexact _ hnext
  obtain ⟨-, -, hkept⟩ := hframe a {} _ hrepaint
  refine ⟨⟨hnext, hle, hlt⟩, ⟨hremoved, ?_⟩, hrepaint, ?_⟩
  · rw [hbefore t hle hlt]
    decide
  · rw [hkept t hle hlt]
    decide

end SeverityLog
