import SeverityLog.Host.View

/-!
# The countdown of a widget

Until a widget expires, the bar counts its remaining seconds down. The number that is painted is the
remaining time rounded up, but where that is a whole number of seconds it is one more. It is
therefore never zero and never grows, and it exceeds the seconds of the widget by one as long as the
widget has not aged.
-/

namespace SeverityLog

namespace Widget

variable {w : Widget} {now later : Instant}

theorem countdown_le_countdown (h : now ≤ later) : w.countdown later ≤ w.countdown now := by
  have hage : w.age now ≤ w.age later := Nat.sub_le_sub_right h _
  have hremaining : w.remaining later ≤ w.remaining now := Nat.sub_le_sub_left hage _
  exact Nat.succ_le_succ (Nat.div_le_div_right hremaining)

theorem countdown_sub_one : w.countdown now - 1 = w.remaining now / nanosPerSecond :=
  Nat.add_sub_cancel _ _

theorem countdown_le_iff {n : Nat} :
    w.countdown now ≤ n ↔ w.remaining now < n * nanosPerSecond := by
  rw [countdown, Nat.succ_le_iff, Nat.div_lt_iff_lt_mul nanosPerSecond_pos]

theorem remaining_lt_countdown : w.remaining now < w.countdown now * nanosPerSecond :=
  countdown_le_iff.mp (Nat.le_refl _)

theorem countdown_le_remaining : (w.countdown now - 1) * nanosPerSecond ≤ w.remaining now := by
  rw [countdown_sub_one]
  exact Nat.div_mul_le_self _ _

/-- Rounding up and counting one more differ only on whole seconds. -/
theorem countdown_lt_remaining_iff :
    (w.countdown now - 1) * nanosPerSecond < w.remaining now ↔
      ¬ nanosPerSecond ∣ w.remaining now := by
  rw [Nat.dvd_iff_div_mul_eq, ← countdown_sub_one]
  exact ⟨Nat.ne_of_lt, Nat.lt_of_le_of_ne countdown_le_remaining⟩

theorem countdown_le_succ_seconds : w.countdown now ≤ w.seconds + 1 := by
  rw [countdown_le_iff, Nat.succ_mul]
  exact Nat.lt_of_le_of_lt (Nat.sub_le _ _) (Nat.lt_add_of_pos_right nanosPerSecond_pos)

theorem countdown_le_seconds_iff (hlive : ¬ w.isExpired now) :
    w.countdown now ≤ w.seconds ↔ w.pushedAt < now := by
  have hlt : w.age now < w.lifetime := by rwa [isExpired_iff, Nat.not_le] at hlive
  calc w.countdown now ≤ w.seconds
    _ ↔ w.lifetime - w.age now < w.lifetime := countdown_le_iff
    _ ↔ 0 < w.age now := by omega
    _ ↔ w.pushedAt < now := Nat.sub_pos_iff_lt

end Widget

theorem View.getLast?_widget (fits : Widget → Bool) (now : Instant) (w : Widget) :
    (View.widget fits now w).getLast? =
      some (.barText (if fits w then toString (w.countdown now) ++ "s" else w.text)) := by
  rw [View.widget]
  cases fits w <;> rfl

/-- On a row with room for it, the last text of a widget is its countdown. Before the widget
expires, the number is the remaining time rounded up just when that is not a whole number of
seconds, and else one more. So it is at least one and at most one more than the seconds of the
widget, and not more than these from the first moment after its stamp. It never grows with time. -/
theorem countdown_rounds_up (fits : Widget → Bool) (w : Widget) (now : Instant)
    (hlive : now - w.pushedAt < w.seconds * 1000000000) :
    let remaining := w.seconds * 1000000000 - (now - w.pushedAt)
    let number := w.countdown now
    (∀ t, (View.widget fits t w).getLast? =
        some (.barText (if fits w then toString (w.countdown t) ++ "s" else w.text))) ∧
      ((number - 1) * 1000000000 ≤ remaining ∧ remaining < number * 1000000000) ∧
      ((number - 1) * 1000000000 < remaining ∧ remaining ≤ number * 1000000000 ↔
        ¬ 1000000000 ∣ remaining) ∧
      (1 ≤ number ∧ number ≤ w.seconds + 1 ∧ (number ≤ w.seconds ↔ w.pushedAt < now)) ∧
      ∀ later, now ≤ later → w.countdown later ≤ number := by
  intro remaining number
  have hexpired : ¬ w.isExpired now := by
    rw [Widget.isExpired_iff, Nat.not_le]
    exact hlive
  have hlt : remaining < number * 1000000000 := Widget.remaining_lt_countdown
  have hle : (number - 1) * 1000000000 ≤ remaining := Widget.countdown_le_remaining
  refine ⟨fun t => View.getLast?_widget fits t w, ⟨hle, hlt⟩, ?_, ⟨Nat.le_add_left 1 _, ?_, ?_⟩, ?_⟩
  · rw [and_iff_left (Nat.le_of_lt hlt)]
    exact Widget.countdown_lt_remaining_iff
  · exact Widget.countdown_le_succ_seconds
  · exact Widget.countdown_le_seconds_iff hexpired
  · exact fun later => Widget.countdown_le_countdown

/-- A widget of five seconds, after one and a half of them and after four. -/
theorem countdown_rounds_up_to_four :
    let w : Widget :=
      { title := "INFO.", text := "left", style := .info, pushedAt := 0, seconds := 5 }
    let now : Instant := 1500000000
    (now - w.pushedAt < w.seconds * 1000000000 ∧ w.countdown now = 4) ∧
      ((4 - 1) * 1000000000 < w.remaining now ∧ w.remaining now ≤ 4 * 1000000000) ∧
      w.countdown 4000000000 ≤ 4 := by
  intro w now
  have hlive : now - w.pushedAt < w.seconds * 1000000000 := by decide
  have hnumber : w.countdown now = 4 := by decide
  obtain ⟨-, -, hround, -, hanti⟩ := countdown_rounds_up (fun _ => true) w now hlive
  rw [hnumber] at hround hanti
  exact ⟨⟨hlive, hnumber⟩, hround.mpr (by decide), hanti 4000000000 (by decide)⟩

/-- A widget of five seconds that is drawn before its stamp has all of them left, and counts six. -/
theorem five_seconds_counted_as_six :
    let w : Widget :=
      { title := "INFO.", text := "left", style := .info, pushedAt := 1000000000, seconds := 5 }
    let now : Instant := 0
    ¬ w.isExpired now ∧ (View.widget (fun _ => true) now w).getLast? = some (.barText "6s") ∧
      w.remaining now = 5 * 1000000000 ∧
      ¬ ((6 - 1) * 1000000000 < w.remaining now ∧ w.remaining now ≤ 6 * 1000000000) ∧
      ¬ 6 ≤ w.seconds := by
  intro w now
  exact ⟨by decide, by decide, by decide, by decide, by decide⟩

end SeverityLog
