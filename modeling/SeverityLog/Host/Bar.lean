import SeverityLog.Appearance
import SeverityLog.Clock

/-!
# The message bar

The bar shows at most eight widgets, oldest first, each until its time is over. A push beyond the
eighth drops the oldest.
-/

namespace SeverityLog

structure Widget where
  title : String
  text : String
  style : BarStyle
  pushedAt : Instant
  seconds : Nat
  deriving DecidableEq, Repr

namespace Widget

def lifetime (w : Widget) : Nat := w.seconds * nanosPerSecond

/-- A widget whose push lies in the future has age zero. -/
def age (w : Widget) (now : Instant) : Nat := now - w.pushedAt

def isExpired (w : Widget) (now : Instant) : Bool := w.lifetime ≤ w.age now

def remaining (w : Widget) (now : Instant) : Nat := w.lifetime - w.age now

def untilExpiry (w : Widget) (now : Instant) : Nat := w.pushedAt + w.lifetime - now

def countdown (w : Widget) (now : Instant) : Nat := w.remaining now / nanosPerSecond + 1

theorem isExpired_iff {w : Widget} {now : Instant} :
    w.isExpired now ↔ w.lifetime ≤ now - w.pushedAt := by
  rw [isExpired, decide_eq_true_iff]
  rfl

/-- A widget that has expired stays expired. -/
theorem isExpired_mono {w : Widget} {now later : Instant} (h : now ≤ later)
    (hw : w.isExpired now) : w.isExpired later := by
  rw [isExpired_iff] at hw ⊢
  exact Nat.le_trans hw (Nat.sub_le_sub_right h _)

end Widget

abbrev Bar := List Widget

namespace Bar

def capacity : Nat := 8

def push (w : Widget) (b : Bar) : Bar := (b ++ [w]).drop (b.length + 1 - capacity)

def expire (now : Instant) (b : Bar) : Bar × Nat :=
  let kept := b.filter (!·.isExpired now)
  (kept, b.length - kept.length)

def nextExpiry (now : Instant) (b : Bar) : Option Nat := (b.map (·.untilExpiry now)).min?

def dismiss (i : Nat) (b : Bar) : Bar := b.eraseIdx i

theorem expire_fst (now : Instant) (b : Bar) :
    (b.expire now).1 = b.filter fun w => now - w.pushedAt < w.seconds * 1000000000 := by
  refine List.filter_congr fun w _ => ?_
  rw [Bool.eq_iff_iff, Bool.not_eq_true', ← Bool.not_eq_true, Widget.isExpired_iff, Nat.not_le,
    decide_eq_true_iff]
  rfl

theorem not_isExpired_of_mem_expire {w : Widget} {now : Instant} {b : Bar}
    (h : w ∈ (b.expire now).1) : ¬ w.isExpired now := by
  have hkept := (List.mem_filter.mp h).2
  simpa using hkept

theorem expire_eq_self {now : Instant} {b : Bar} (h : ∀ w ∈ b, ¬ w.isExpired now) :
    b.expire now = (b, 0) := by
  have hkept : b.filter (!·.isExpired now) = b :=
    List.filter_eq_self.mpr fun w hw => by simpa using h w hw
  simp only [expire, hkept, Nat.sub_self]

theorem length_expire (now : Instant) (b : Bar) :
    (b.expire now).2 + (b.expire now).1.length = b.length :=
  Nat.sub_add_cancel (List.length_filter_le _ _)

theorem length_push_le (w : Widget) (b : Bar) : (b.push w).length ≤ capacity := by
  simp only [push, List.length_drop, List.length_append, List.length_singleton, capacity]
  omega

end Bar

end SeverityLog
