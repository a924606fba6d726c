import Mathlib.Data.List.DropRight
import SeverityLog.Host.Bar
import SeverityLog.Host.Panel

/-!
# Histories

A history is a list that grows at its end, and its elements are told apart by their positions. The
bar and the panel keep the newest elements of theirs up to a capacity: the newest of the newest are
the newest of all.
-/

namespace SeverityLog

namespace History

variable {α β : Type}

def numbered (f : α × Nat → Option β) (l : List α) : List β := l.zipIdx.filterMap f

/-- What is made of the elements behind the last one that is `a`. -/
def since [DecidableEq α] (a : α) (f : α × Nat → Option β) (l : List α) : List β :=
  (l.zipIdx.rtakeWhile (·.1 ≠ a)).filterMap f

theorem zipIdx_concat (l : List α) (x : α) :
    (l ++ [x]).zipIdx = l.zipIdx ++ [(x, l.length)] := by
  rw [List.zipIdx_append, Nat.zero_add]
  rfl

theorem numbered_concat (f : α × Nat → Option β) (l : List α) (x : α) :
    numbered f (l ++ [x]) = numbered f l ++ (f (x, l.length)).toList := by
  rw [numbered, zipIdx_concat, List.filterMap_append, numbered]
  cases h : f (x, l.length) <;> simp [h]

section Since

variable [DecidableEq α] {a : α} (f : α × Nat → Option β) (l : List α)

theorem since_self : since a f (l ++ [a]) = [] := by
  rw [since, zipIdx_concat, List.rtakeWhile_concat_neg _ _ _ (by simp)]
  rfl

theorem since_concat {x : α} (h : x ≠ a) :
    since a f (l ++ [x]) = since a f l ++ (f (x, l.length)).toList := by
  rw [since, zipIdx_concat, List.rtakeWhile_concat_pos _ _ _ (by simpa using h),
    List.filterMap_append, since]
  cases h : f (x, l.length) <;> simp [h]

theorem since_suffix : since a f l <:+ numbered f l := (List.rtakeWhile_suffix _ _).filterMap f

end Since

theorem rtake_concat_rtake (c : Nat) (l : List α) (x : α) :
    (l.rtake c ++ [x]).rtake c = (l ++ [x]).rtake c := by
  have hc : l.rtake c ++ [x] = (l ++ [x]).drop (l.length - c) := by
    rw [List.drop_append_of_le_length (Nat.sub_le _ _)]
    rfl
  rw [hc, List.rtake, List.rtake, List.drop_drop]
  congr 1
  simp only [List.length_drop, List.length_append, List.length_singleton]
  omega

end History

theorem Bar.push_eq_rtake (w : Widget) (b : Bar) : b.push w = (b ++ [w]).rtake Bar.capacity := by
  rw [Bar.push, List.rtake, List.length_append]
  rfl

theorem Bar.push_rtake (w : Widget) (l : List Widget) :
    Bar.push w (l.rtake Bar.capacity) = (l ++ [w]).rtake Bar.capacity := by
  rw [Bar.push_eq_rtake, History.rtake_concat_rtake]

theorem Panel.append_eq_rtake (e : PanelEntry) (p : Panel) :
    p.append e = (p ++ [e]).rtake Panel.capacity := by
  rw [Panel.append, List.rtake, List.length_append]
  rfl

theorem Panel.append_rtake (e : PanelEntry) (l : List PanelEntry) :
    Panel.append e (l.rtake Panel.capacity) = (l ++ [e]).rtake Panel.capacity := by
  rw [Panel.append_eq_rtake, History.rtake_concat_rtake]

end SeverityLog
