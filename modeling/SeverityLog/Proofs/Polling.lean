import Mathlib.Algebra.Ring.Nat
import SeverityLog.Host.Operation

/-!
# Expiry does not depend on how it is polled

A widget that has expired once has expired at every later time, so of several times at which the bar
is searched only the latest counts. In whatever order the bar is searched, the widgets that are left
are those that a single search at the latest time leaves, and the same number of them is removed
altogether.
-/

namespace SeverityLog

theorem Widget.any_isExpired {w : Widget} {times : List Instant} {latest : Instant}
    (h : times.max? = some latest) : times.any (w.isExpired ·) = w.isExpired latest := by
  obtain ⟨hmem, hle⟩ := List.max?_eq_some_iff.mp h
  rw [Bool.eq_iff_iff, List.any_eq_true]
  constructor
  · rintro ⟨t, ht, hw⟩
    exact isExpired_mono (hle t ht) hw
  · intro hw
    exact ⟨latest, hmem, hw⟩

namespace Host

namespace Session

def poll (times : List Instant) (s : Session) : Session :=
  s.run (times.map fun t => .display (.expire t))

theorem poll_cons (t : Instant) (times : List Instant) (s : Session) :
    s.poll (t :: times) = (s.display (.expire t)).poll times := rfl

/-- The widgets that are left have not expired at any of the times. -/
theorem host_poll (times : List Instant) (s : Session) :
    (s.poll times).host =
      { s.host with bar := s.host.bar.filter fun w => !times.any (w.isExpired ·) } := by
  induction times generalizing s with
  | nil =>
    have hall : s.host.bar.filter (fun _ => true) = s.host.bar :=
      List.filter_eq_self.mpr fun _ _ => rfl
    simp only [List.any_nil, Bool.not_false, hall]
    rfl
  | cons t times ih =>
    have hfirst : (s.display (.expire t)).host =
        { s.host with bar := s.host.bar.filter (!·.isExpired t) } := rfl
    rw [poll_cons, ih, hfirst]
    simp only [List.filter_filter, List.any_cons, Bool.not_or, Bool.and_comm]

/-- Each search moves widgets from the bar into the numbers that are returned. -/
theorem sum_expired_display (t : Instant) (s : Session) :
    (s.display (.expire t)).expired.sum + (s.display (.expire t)).host.bar.length =
      s.expired.sum + s.host.bar.length := by
  have hexpired : (s.display (.expire t)).expired = s.expired ++ [(s.host.bar.expire t).2] := rfl
  have hbar : (s.display (.expire t)).host.bar = (s.host.bar.expire t).1 := rfl
  rw [hexpired, hbar, List.sum_append, List.sum_singleton, Nat.add_assoc, Bar.length_expire]

theorem sum_expired_poll (times : List Instant) (s : Session) :
    (s.poll times).expired.sum + (s.poll times).host.bar.length =
      s.expired.sum + s.host.bar.length := by
  induction times generalizing s with
  | nil => rfl
  | cons t times ih => rw [poll_cons, ih, sum_expired_display]

theorem length_expired_poll (times : List Instant) (s : Session) :
    (s.poll times).expired.length = s.expired.length + times.length := by
  induction times generalizing s with
  | nil => rfl
  | cons t times ih =>
    have hlength : (s.display (.expire t)).expired.length = s.expired.length + 1 :=
      List.length_append
    rw [poll_cons, ih, hlength, List.length_cons, Nat.add_assoc, Nat.add_comm 1]

end Session

/-- Whenever and in whatever order the bar is searched for expired widgets, the host is left as a
single search at the latest time leaves it, and the numbers of widgets that were removed add up to
that of the single search. The widgets that have not expired at the latest time stay in their order,
and nothing else of the host changes. A search at the same or an earlier time finds nothing more. -/
theorem polled_expire (h : Host) {times : List Instant} {latest : Instant}
    (hlatest : times.max? = some latest) :
    let polled := Session.poll times { host := h }
    (polled.host = (h.expire latest).1 ∧ polled.expired.length = times.length ∧
        polled.expired.sum = (h.expire latest).2) ∧
      polled.host = { h with bar := h.bar.filter fun w =>
        latest - w.pushedAt < w.seconds * 1000000000 } ∧
      ∀ t ≤ latest, polled.host.expire t = (polled.host, 0) := by
  intro polled
  have hpolled : polled.host = { h with bar := h.bar.filter (!·.isExpired latest) } := by
    change (Session.poll times { host := h }).host = _
    rw [Session.host_poll]
    simp only [Widget.any_isExpired hlatest]
  have hsum : polled.expired.sum + polled.host.bar.length = h.bar.length := by
    have hstart := Session.sum_expired_poll times { host := h }
    rwa [List.sum_nil, Nat.zero_add] at hstart
  refine ⟨⟨hpolled, ?_, ?_⟩, ?_, ?_⟩
  · have hlength := Session.length_expired_poll times { host := h }
    rwa [List.length_nil, Nat.zero_add] at hlength
  · have hremoved : (h.expire latest).2 + polled.host.bar.length = h.bar.length := by
      rw [hpolled]
      exact Bar.length_expire latest h.bar
    omega
  · rw [hpolled, ← Bar.expire_fst]
    rfl
  · intro t ht
    have hlive : ∀ w ∈ polled.host.bar, ¬ w.isExpired t := by
      intro w hw hexpired
      rw [hpolled] at hw
      exact Bar.not_isExpired_of_mem_expire hw (Widget.isExpired_mono ht hexpired)
    rw [expire, Bar.expire_eq_self hlive]

/-- Times in no order, on a bar that also holds a widget without a lifetime whose push is still to
come. -/
theorem polled_expire_out_of_order :
    let note (pushedAt : Instant) (seconds : Nat) : Widget :=
      { title := "NOTE.", text := "poll", style := .info, pushedAt, seconds }
    let h : Host :=
      { bar := [note 0 5, note 4000000000 6, note 7000000000 0], filter := some "Map"
        composer := { draft := "go" } }
    let times : List Instant := [3000000000, 8000000000, 5000000000, 8000000000]
    let polled := Session.poll times { host := h }
    times.max? = some 8000000000 ∧
      (polled.host = (h.expire 8000000000).1 ∧
        polled.host = { h with bar := [note 4000000000 6] }) ∧
      (polled.expired = [1, 1, 0, 0] ∧ polled.expired.sum = (h.expire 8000000000).2) ∧
      polled.host.expire 5000000000 = (polled.host, 0) := by
  intro note h times polled
  have hlatest : times.max? = some 8000000000 := by decide
  obtain ⟨⟨honce, -, hsum⟩, hkept, hearlier⟩ := polled_expire h hlatest
  refine ⟨hlatest, ⟨honce, ?_⟩, ⟨by decide, hsum⟩, hearlier 5000000000 (by decide)⟩
  rw [hkept]
  decide

end Host

end SeverityLog
