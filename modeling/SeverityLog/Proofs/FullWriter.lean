import SeverityLog.Proofs.Delivery

/-!
# A console whose writer fills up

A writer with a capacity holds the first bytes of all that it was given, wherever the cut falls: in
a character, or between the text of a record and its newline. A call fails when its own record does
not end within the capacity. The lock that a failed caller leaves poisoned is taken like any other.
-/

namespace SeverityLog

namespace Logger

variable {σ ρ : Type} [Inhabited ρ] (l : Logger σ ρ)

/-- What a call reports depends on the calls before it through the state that they left. -/
theorem getElem?_report_run (qs : List Request) (st : σ) (k : Nat) :
    (l.run qs st).report[k]? = qs[k]?.map fun q =>
      (q.call.expected, (l.perform q.call (l.run (qs.take k) st).state).report) := by
  induction qs generalizing st k with
  | nil => rfl
  | cons q qs ih =>
    cases k with
    | zero => simp [run, perform_nested, answer_perform]
    | succ k => simp [run, ih]

end Logger

namespace Writer

def given (c : Nat) (complaint : String) (poisoned : Bool) (bytes : List UInt8) : Writer where
  held := bytes.take c
  capacity := some c
  complaint := complaint
  poisoned := poisoned

variable (c : Nat) (complaint : String) (poisoned : Bool) (xs ys : List UInt8)

theorem given_nil :
    given c complaint poisoned [] = { capacity := some c, complaint, poisoned } := by
  simp [given]

theorem accepted_given :
    (given c complaint poisoned xs).accepted ys = ys.take (c - xs.length) := by
  have hroom : c - min c xs.length = c - xs.length := by omega
  simp only [given, accepted, List.length_take, hroom]

theorem taken_given :
    (given c complaint poisoned xs).taken ys = given c complaint poisoned (xs ++ ys) := by
  rw [taken, accepted_given]
  simp only [given, List.take_append]

theorem write_given (hys : ys ≠ []) :
    (given c complaint poisoned xs).write ys =
      ⟨given c complaint poisoned (xs ++ ys),
        if c < (xs ++ ys).length then some ⟨complaint⟩ else none⟩ := by
  have hpos := List.length_pos_iff.mpr hys
  have hcut : min (c - xs.length) ys.length < ys.length ↔ c < xs.length + ys.length := by omega
  rw [write_eq, taken_given, accepted_given, List.length_take, List.length_append]
  simp only [hcut]
  rfl

structure SameButLock (w w' : Writer) : Prop where
  held : w'.held = w.held
  capacity : w'.capacity = w.capacity
  complaint : w'.complaint = w.complaint

theorem SameButLock.write {w w' : Writer} (h : SameButLock w w') (bytes : List UInt8) :
    SameButLock (w.write bytes).state (w'.write bytes).state ∧
      (w'.write bytes).report = (w.write bytes).report := by
  have haccepted : w'.accepted bytes = w.accepted bytes := by
    rw [accepted, accepted, h.capacity, h.held]
  rw [write_eq, write_eq, haccepted, h.complaint]
  refine ⟨⟨?_, h.capacity, h.complaint⟩, rfl⟩
  rw [taken, taken, h.held, haccepted]

end Writer

namespace Console

variable (label : String) (v : Verbosity)

def written (qs : List Request) : List UInt8 :=
  (due v (qs.map Request.call)).flatMap (documented label)

theorem documented_ne_nil (e : Entry) : documented label e ≠ [] := by
  rw [documented, Text.bytes_append]
  exact List.append_ne_nil_of_right_ne_nil _ (by decide)

theorem written_append (qs qs' : List Request) :
    written label v (qs ++ qs') = written label v qs ++ written label v qs' := by
  simp only [written, due, List.map_append, List.filterMap_append, List.flatMap_append]

theorem written_singleton (q : Request) :
    written label v [q] = (q.call.delivery? v).elim [] (documented label) := by
  rw [written, ← delivered_eq_due, List.map_singleton, delivered_cons, delivered_nil]
  cases q.call.delivery? v <;> simp

theorem due_singleton_eq_nil_iff (q : Request) :
    due v [q.call] = [] ↔ written label v [q] = [] := by
  rw [written_singleton, ← delivered_eq_due, delivered_cons, delivered_nil]
  cases q.call.delivery? v <;> simp [documented_ne_nil]

/-! ## One call -/

section Given

variable (c : Nat) (complaint : String) (poisoned : Bool) (xs : List UInt8) (q : Request)

theorem state_perform_given :
    ∃ poisoned', ((logger label v).perform q.call (.given c complaint poisoned xs)).state =
      .given c complaint poisoned' (xs ++ written label v [q]) := by
  cases h : q.call.delivery? v with
  | none =>
    rw [perform_of_not_delivered _ h, written_singleton, h, Option.elim_none, List.append_nil]
    exact ⟨poisoned, rfl⟩
  | some e =>
    rw [perform_of_delivered _ h, written_singleton, h, Option.elim_some,
      Writer.write_given _ _ _ _ _ (documented_ne_nil label e)]
    exact ⟨_, rfl⟩

theorem report_perform_given :
    ((logger label v).perform q.call (.given c complaint poisoned xs)).report =
      if written label v [q] ≠ [] ∧ c < (xs ++ written label v [q]).length then some ⟨complaint⟩
      else none := by
  cases h : q.call.delivery? v with
  | none => simp [perform_of_not_delivered _ h, written_singleton, h]
  | some e =>
    have hne := documented_ne_nil label e
    rw [perform_of_delivered _ h, written_singleton, h, Option.elim_some,
      Writer.write_given _ _ _ _ _ hne]
    simp only [Writer.release, hne, ne_eq, not_false_eq_true, true_and]

end Given

/-- A failed call leaves the lock poisoned, and so it stays. -/
theorem poisoned_perform (q : Request) (w : Writer) :
    ((logger label v).perform q.call w).state.poisoned =
      (w.poisoned || ((logger label v).perform q.call w).report.isSome) := by
  cases h : q.call.delivery? v with
  | none => simp [perform_of_not_delivered _ h]
  | some e => simp [perform_of_delivered _ h, Writer.release, Writer.write_eq, Writer.taken]

theorem sameButLock_perform {w w' : Writer} (h : Writer.SameButLock w w') (q : Request) :
    Writer.SameButLock ((logger label v).perform q.call w).state
        ((logger label v).perform q.call w').state ∧
      ((logger label v).perform q.call w').report = ((logger label v).perform q.call w).report := by
  cases hq : q.call.delivery? v with
  | none =>
    rw [perform_of_not_delivered _ hq, perform_of_not_delivered _ hq]
    exact ⟨h, rfl⟩
  | some e =>
    obtain ⟨⟨hheld, hcapacity, hcomplaint⟩, hreport⟩ := h.write (documented label e)
    rw [perform_of_delivered _ hq, perform_of_delivered _ hq]
    exact ⟨⟨hheld, hcapacity, hcomplaint⟩, hreport⟩

/-! ## A run of calls -/

theorem state_run_given (c : Nat) (complaint : String) (poisoned : Bool) (xs : List UInt8)
    (qs : List Request) :
    ∃ poisoned', ((logger label v).run qs (.given c complaint poisoned xs)).state =
      .given c complaint poisoned' (xs ++ written label v qs) := by
  induction qs generalizing poisoned xs with
  | nil => exact ⟨poisoned, by rw [written, List.map_nil]; simp [Logger.run, due]⟩
  | cons q qs ih =>
    obtain ⟨poisoned₁, hstate⟩ := state_perform_given label v c complaint poisoned xs q
    obtain ⟨poisoned₂, hrun⟩ := ih poisoned₁ (xs ++ written label v [q])
    refine ⟨poisoned₂, ?_⟩
    rw [Logger.run, Logger.perform_nested, hstate, hrun, List.append_assoc, ← written_append,
      List.singleton_append]

theorem poisoned_run (qs : List Request) (w : Writer) :
    ((logger label v).run qs w).state.poisoned =
      (w.poisoned || ((logger label v).run qs w).report.any (·.2.isSome)) := by
  induction qs generalizing w with
  | nil => simp [Logger.run]
  | cons q qs ih =>
    simp only [Logger.run, Logger.perform_nested, ih, poisoned_perform, List.any_cons,
      Bool.or_assoc]

theorem sameButLock_run {w w' : Writer} (h : Writer.SameButLock w w') (qs : List Request) :
    Writer.SameButLock ((logger label v).run qs w).state ((logger label v).run qs w').state ∧
      ((logger label v).run qs w').report = ((logger label v).run qs w).report := by
  induction qs generalizing w w' with
  | nil => exact ⟨h, rfl⟩
  | cons q qs ih =>
    obtain ⟨hstate, hreport⟩ := sameButLock_perform label v h q
    obtain ⟨hrun, hreports⟩ := ih hstate
    simp only [Logger.run, Logger.perform_nested]
    exact ⟨hrun, by rw [hreports, hreport, answer_perform, answer_perform]⟩

/-- What the callers get back, with the texts of the failures. -/
def answers (o : Outcome Writer (List (Option Bool × Option WriteFailure))) :
    List (Except String (Option Bool)) :=
  o.report.map fun p => (settled p.1 p.2).mapError WriteFailure.message

theorem answers_run_given (c : Nat) (complaint : String) (poisoned : Bool) (qs : List Request)
    (k : Nat) :
    (answers ((logger label v).run qs (.given c complaint poisoned [])))[k]? = qs[k]?.map fun q =>
      if written label v [q] ≠ [] ∧ c < (written label v (qs.take (k + 1))).length then
        .error ("failed printing to console: " ++ complaint)
      else .ok q.call.expected := by
  -- The lock that the calls before leave is of no matter: only what they were to write counts.
  obtain ⟨poisoned', hstate⟩ := state_run_given label v c complaint poisoned [] (qs.take k)
  rw [answers, List.getElem?_map, Logger.getElem?_report_run, hstate, List.nil_append,
    Option.map_map, List.take_add_one, written_append]
  cases hq : qs[k]? with
  | none => rfl
  | some q =>
    rw [Option.toList_some, Option.map_some, Option.map_some, Function.comp_apply,
      report_perform_given]
    by_cases hcut : written label v [q] ≠ [] ∧
        c < (written label v (qs.take k) ++ written label v [q]).length
    · rw [if_pos hcut, if_pos hcut]
      rfl
    · rw [if_neg hcut, if_neg hcut]
      rfl

theorem isSome_mem_report_iff {o : Outcome Writer (List (Option Bool × Option WriteFailure))} :
    o.report.any (·.2.isSome) ↔ ∃ text, .error text ∈ answers o := by
  rw [List.any_eq_true]
  constructor
  · rintro ⟨⟨answer, report⟩, hmem, hsome⟩
    obtain ⟨failure, rfl⟩ := Option.isSome_iff_exists.mp hsome
    exact ⟨failure.message, List.mem_map.mpr ⟨_, hmem, rfl⟩⟩
  · rintro ⟨text, htext⟩
    obtain ⟨⟨answer, report⟩, hmem, hsettled⟩ := List.mem_map.mp htext
    cases report with
    | none => cases hsettled
    | some failure => exact ⟨_, hmem, rfl⟩

/-- A run into a writer of a capacity keeps the first bytes of what it writes without one. A call
fails just when it is delivered and its record ends beyond the capacity, always with the writer's
complaint. A call that is not delivered changes nothing and never fails. The lock is poisoned by a
failed call, and only by one. Later calls write and answer the same with a poisoned lock; when the
capacity is lifted, their records are appended whole. -/
theorem run_into_capacity (c : Nat) (complaint : String) (v : Verbosity) (label : String)
    (qs : List Request) :
    let console := logger label v
    let free := console.run qs { complaint }
    let full := console.run qs { capacity := some c, complaint }
    (free.state.held = (due v (qs.map Request.call)).flatMap (documented label) ∧
        full.state.held = free.state.held.take (min c free.state.held.length)) ∧
      (∀ k, (answers full)[k]? = qs[k]?.map fun q =>
        if due v [q.call] ≠ [] ∧ c < (written label v (qs.take (k + 1))).length then
          .error ("failed printing to console: " ++ complaint)
        else .ok q.call.expected) ∧
      (∀ (q : Request) (w : Writer), due v [q.call] = [] →
        console.run [q] w = ⟨w, [(q.call.expected, none)]⟩) ∧
      (full.state.poisoned ↔ ∃ text, .error text ∈ answers full) ∧
      (∀ (later : List Request) (w : Writer),
        let sound := console.run later { w with poisoned := false }
        let poisoned := console.run later { w with poisoned := true }
        poisoned.state.held = sound.state.held ∧ answers poisoned = answers sound) ∧
      ∀ later : List Request,
        let lifted := console.run later { full.state with capacity := none }
        lifted.state.held =
            full.state.held ++ (due v (later.map Request.call)).flatMap (documented label) ∧
          answers lifted = later.map fun q => .ok q.call.expected := by
  intro console free full
  have hfree : free = _ := run_of_capacity_eq_none label v rfl qs
  rw [delivered_eq_due, List.nil_append] at hfree
  have hstart : full = console.run qs (.given c complaint false []) := by rw [Writer.given_nil]
  obtain ⟨poisoned', hfull⟩ := state_run_given label v c complaint false [] qs
  rw [← hstart, List.nil_append] at hfull
  refine ⟨⟨by rw [hfree], ?_⟩, ?_, ?_, ?_, ?_, ?_⟩
  · rw [hfree, hfull]
    exact List.take_eq_take_min ..
  · intro k
    rw [hstart]
    simp only [ne_eq, due_singleton_eq_nil_iff label]
    exact answers_run_given label v c complaint false qs k
  · intro q w hdue
    rw [← delivered_eq_due, delivered_cons, List.append_eq_nil_iff,
      Option.toList_eq_nil_iff] at hdue
    simp only [console, Logger.run, Logger.perform_nested, perform_of_not_delivered w hdue.1]
  · rw [← isSome_mem_report_iff, show full.state.poisoned = _ from poisoned_run label v qs _,
      Bool.false_or]
  · intro later w sound poisoned
    have hsame : Writer.SameButLock { w with poisoned := false } { w with poisoned := true } :=
      ⟨rfl, rfl, rfl⟩
    obtain ⟨⟨hheld, -, -⟩, hreport⟩ := sameButLock_run label v hsame later
    exact ⟨hheld, by rw [answers, answers, hreport]⟩
  · intro later lifted
    have hlifted : lifted = _ := run_of_capacity_eq_none label v rfl later
    rw [delivered_eq_due] at hlifted
    refine ⟨by rw [hlifted], ?_⟩
    rw [answers, hlifted, List.map_map]
    rfl

/-- The capacity ends within the last character of an error, and a message that is not permitted
follows. -/
theorem run_into_capacity_within_character :
    let console := logger "1" .errors
    let cut : Request := { call := .emit .error "n\u00e9" }
    let filtered : Request := { call := .emit .info "x" }
    let full := console.run [cut, filtered] { capacity := some 12, complaint := "no space" }
    due .errors [filtered.call] = [] ∧
      console.run [filtered] full.state = ⟨full.state, [(some false, none)]⟩ ∧
      full.state.held = Text.bytes "[1]ERROR: n" ++ [0xC3] ∧
      (answers full)[0]? = some (.error "failed printing to console: no space") ∧
      (answers full)[1]? = some (.ok (some false)) := by
  intro console cut filtered full
  have hfiltered : due .errors [filtered.call] = [] := by decide
  obtain ⟨⟨hfree, hheld⟩, hanswers, hsilent, -⟩ :=
    run_into_capacity 12 "no space" .errors "1" [cut, filtered]
  refine ⟨hfiltered, hsilent filtered full.state hfiltered, ?_, ?_, ?_⟩
  · rw [hheld, hfree]
    decide
  · exact hanswers 0
  · exact hanswers 1

end Console

end SeverityLog
