import SeverityLog.Proofs.PanelHistory

/-!
# The bar of a single sink

A delivery clears the bar before it pushes its message, so where a single sink writes, the bar shows
the latest message or nothing. It shows nothing before the first delivery, and again as soon as the
bar has been searched at a time five seconds or more after the latest one, even if the clock went
back since. A message that the threshold does not permit leaves the host as it was.
-/

namespace SeverityLog

namespace Host

inductive Occasion where
  | call (r : Reading) (q : Request)
  | expire (now : Instant)
  deriving DecidableEq, Repr

namespace Occasion

variable (v : Verbosity)

/-- The operation on the host when the sink has threshold `v`. -/
def operation : Occasion → Operation
  | call r q => .call r v q
  | expire now => .display (.expire now)

def widget? : Occasion → Option Widget
  | call r q => (due v [q.call]).head?.map (Widget.ofMessage r)
  | expire _ => none

def expires (w : Widget) : Occasion → Bool
  | call _ _ => false
  | expire now => w.isExpired now

end Occasion

section History

variable (v : Verbosity) (os : List Occasion)

def latest? : Option Widget := (os.filterMap (·.widget? v)).getLast?

def sinceLatest : List Occasion := os.rtakeWhile fun o => (o.widget? v).isNone

/-- The latest widget, unless it has expired since. -/
def lasting : Bar := (latest? v os).toList.filter fun w => !(sinceLatest v os).any (·.expires w)

variable {v os} {o : Occasion}

theorem latest?_of_delivered {w : Widget} (h : o.widget? v = some w) :
    latest? v (os ++ [o]) = some w := by
  simp [latest?, List.filterMap_append, h]

theorem latest?_of_not_delivered (h : o.widget? v = none) :
    latest? v (os ++ [o]) = latest? v os := by
  simp [latest?, List.filterMap_append, h]

theorem sinceLatest_of_delivered {w : Widget} (h : o.widget? v = some w) :
    sinceLatest v (os ++ [o]) = [] :=
  List.rtakeWhile_concat_neg _ _ _ (by simp [h])

theorem sinceLatest_of_not_delivered (h : o.widget? v = none) :
    sinceLatest v (os ++ [o]) = sinceLatest v os ++ [o] :=
  List.rtakeWhile_concat_pos _ _ _ (by simp [h])

/-- A delivery takes the place of what is shown, and a search removes what has expired. -/
theorem lasting_concat (v : Verbosity) (os : List Occasion) (o : Occasion) :
    lasting v (os ++ [o]) = match o.widget? v with
      | some w => [w]
      | none => (lasting v os).filter (!o.expires ·) := by
  cases h : o.widget? v with
  | some w =>
    rw [lasting, latest?_of_delivered h, sinceLatest_of_delivered h]
    rfl
  | none =>
    rw [lasting, latest?_of_not_delivered h, sinceLatest_of_not_delivered h]
    simp only [lasting, List.filter_filter, List.any_append, List.any_cons, List.any_nil,
      Bool.or_false, Bool.not_or, Bool.and_comm]

theorem seconds_of_widget? {w : Widget} (h : o.widget? v = some w) : w.seconds = 5 := by
  cases o with
  | call r q =>
    obtain ⟨e, -, rfl⟩ := Option.map_eq_some_iff.mp h
    rfl
  | expire now => cases h

theorem seconds_of_latest? {w : Widget} (h : latest? v os = some w) : w.seconds = 5 := by
  obtain ⟨o, -, ho⟩ := List.mem_filterMap.mp (List.mem_of_getLast? h)
  exact seconds_of_widget? ho

theorem isExpired_iff_of_latest? {w : Widget} (h : latest? v os = some w) (now : Instant) :
    w.isExpired now ↔ w.pushedAt + 5000000000 ≤ now := by
  have hage (a b : Nat) : 5 * 1000000000 ≤ a - b ↔ b + 5000000000 ≤ a := by omega
  rw [Widget.isExpired_iff, Widget.lifetime, seconds_of_latest? h]
  exact hage now w.pushedAt

theorem any_expires_iff {w : Widget} (h : latest? v os = some w) :
    (sinceLatest v os).any (·.expires w) ↔
      ∃ now, .expire now ∈ sinceLatest v os ∧ w.pushedAt + 5000000000 ≤ now := by
  rw [List.any_eq_true]
  constructor
  · rintro ⟨o, ho, hw⟩
    cases o with
    | call r q => cases hw
    | expire now => exact ⟨now, ho, (isExpired_iff_of_latest? h now).mp hw⟩
  · rintro ⟨now, ho, hw⟩
    exact ⟨.expire now, ho, (isExpired_iff_of_latest? h now).mpr hw⟩

theorem lasting_eq_nil_iff :
    lasting v os = [] ↔ latest? v os = none ∨
      ∃ w now, latest? v os = some w ∧ .expire now ∈ sinceLatest v os ∧
        w.pushedAt + 5000000000 ≤ now := by
  rw [lasting]
  cases h : latest? v os with
  | none => simp
  | some w => simp [← any_expires_iff h]

end History

namespace Session

/-- A delivered call leaves its own widget alone on the bar. -/
theorem bar_step (v : Verbosity) (o : Occasion) (s : Session) :
    (s.step (o.operation v)).host.bar = match o.widget? v with
      | some w => [w]
      | none => s.host.bar.filter (!o.expires ·) := by
  cases o with
  | expire now => rfl
  | call r q =>
    rw [Occasion.operation, host_call, Occasion.widget?, head?_due]
    cases q.call.delivery? v with
    | none => simp [Occasion.expires]
    | some e => exact bar_receive r e s.host

theorem bar_run (v : Verbosity) (start : Host) (h : start.bar = []) (os : List Occasion) :
    (run (os.map (·.operation v)) { host := start }).host.bar = lasting v os := by
  induction os using List.reverseRecOn with
  | nil => exact h
  | append_singleton os o ih =>
    rw [List.map_append, run_append, lasting_concat, ← ih]
    exact bar_step v o _

end Session

/-- Where a single sink writes, the bar is empty or shows the message of the latest call that was
delivered and nothing else. It is empty just when no call was delivered yet, or when after the
latest one the bar was searched at a time at least five seconds past its stamp. A call that the
threshold does not permit changes nothing. -/
theorem bar_shows_latest (atStart v : Verbosity) (os : List Occasion) :
    let bar := (Session.run (os.map (·.operation v)) { host := .new atStart }).host.bar
    (bar = [] ∨ ∃ w, latest? v os = some w ∧ bar = [w]) ∧
      (bar = [] ↔ latest? v os = none ∨
        ∃ w now, latest? v os = some w ∧ .expire now ∈ sinceLatest v os ∧
          w.pushedAt + 5000000000 ≤ now) ∧
      ∀ (s : Session) (r : Reading) (handles : Nat) (severity : Severity) (message : String),
        v.value.toNat < severity.rank →
          (s.step (.call r v ⟨handles, .emit severity message⟩)).host = s.host := by
  intro bar
  have hbar : bar = lasting v os := Session.bar_run v (.new atStart) rfl os
  refine ⟨?_, ?_, ?_⟩
  · rw [hbar, lasting]
    cases latest? v os with
    | none => exact .inl rfl
    | some w =>
      rw [Option.toList_some, List.filter_singleton]
      cases (sinceLatest v os).any (·.expires w) with
      | true => exact .inl rfl
      | false => exact .inr ⟨w, rfl, rfl⟩
  · rw [hbar]
    exact lasting_eq_nil_iff
  · intro s r handles severity message hlt
    have hfiltered : (Call.emit severity message).delivery? v = none :=
      if_neg fun h => absurd (Verbosity.permits_iff.mp h) (Nat.not_le.mpr hlt)
    rw [Session.host_call, hfiltered, Option.elim_none]

/-- An error that is shown for its last moment, then a search five seconds after it and another one
on a clock that went back, with messages that the threshold does not permit in between. -/
theorem bar_shows_latest_until_searched :
    let stop : Widget :=
      { title := "ERROR", text := "stop", style := .critical, pushedAt := 1000000000, seconds := 5 }
    let go : Request := ⟨1, .emit .info "go"⟩
    let os : List Occasion :=
      [.call ⟨1000000000, ⟨1⟩⟩ ⟨0, .emit .error "stop"⟩, .expire 5999999999,
        .call ⟨5999999999, ⟨5⟩⟩ go]
    let os' : List Occasion := os ++ [.expire 6000000000, .call ⟨6000000000, ⟨6⟩⟩ go, .expire 0]
    let bar (os : List Occasion) : Bar :=
      (Session.run (os.map (·.operation .errors)) { host := .new .all }).host.bar
    (latest? .errors os = some stop ∧ bar os = [stop]) ∧
      (.expire 6000000000 ∈ sinceLatest .errors os' ∧ bar os' = []) ∧
      Verbosity.errors.value.toNat < Severity.info.rank ∧
        ∀ (s : Session) (r : Reading), (s.step (.call r .errors go)).host = s.host := by
  intro stop go os os' bar
  have hlatest : latest? .errors os' = some stop := by decide
  have hsearched : .expire 6000000000 ∈ sinceLatest .errors os' := by decide
  have hlt : Verbosity.errors.value.toNat < Severity.info.rank := by decide
  obtain ⟨-, hempty, hfiltered⟩ := bar_shows_latest .all .errors os'
  refine ⟨by decide, ⟨hsearched, hempty.mpr ?_⟩, hlt, fun s r => hfiltered s r 1 .info "go" hlt⟩
  exact .inr ⟨stop, 6000000000, hlatest, hsearched, by decide⟩

end Host

end SeverityLog
