import Mathlib.Tactic.SplitIfs
import SeverityLog.Host.Operation
import SeverityLog.Proofs.Delivery
import SeverityLog.Proofs.Frame
import SeverityLog.Proofs.History

/-!
# What the panel keeps

An entry is added to the panel directly, or by a message that a GUI sink delivers. After any
sequence of operations the panel holds the newest of the entries that were added since it was last
cleared, as many as its capacity allows. An operation that neither adds an entry nor clears the
panel leaves it alone.
-/

namespace SeverityLog

namespace Panel

/-- As long as the panel is over its capacity, its oldest entry goes. -/
def evict : Panel → Panel
  | [] => []
  | e :: p => if capacity < (e :: p).length then evict p else e :: p

theorem evict_eq_rtake (p : Panel) : p.evict = p.rtake capacity := by
  induction p with
  | nil => rfl
  | cons e p ih =>
    rw [evict]
    split_ifs with h
    · have hle : capacity ≤ p.length := Nat.lt_succ_iff.mp h
      rw [ih, List.rtake, List.rtake, List.length_cons, Nat.succ_sub hle, List.drop_succ_cons]
    · rw [List.rtake, Nat.sub_eq_zero_of_le (Nat.not_lt.mp h), List.drop_zero]

end Panel

namespace Host

def Operation.added : Operation → Option PanelEntry
  | .display (.appendPanel e) => some e
  | .call r v q => (due v [q.call]).head?.map (PanelEntry.ofMessage r)
  | _ => none

def appended (os : List Operation) : List PanelEntry :=
  History.since (.display .clearPanel) (·.1.added) os

theorem appended_clear (os : List Operation) : appended (os ++ [.display .clearPanel]) = [] :=
  History.since_self _ _

theorem appended_concat (os : List Operation) {o : Operation} (h : o ≠ .display .clearPanel) :
    appended (os ++ [o]) = appended os ++ o.added.toList :=
  History.since_concat _ _ h

theorem panel_appendPanel (e : PanelEntry) (h : Host) :
    (h.appendPanel e).panel = (h.panel ++ [e]).rtake Panel.capacity := by
  rw [appendPanel, Panel.append_eq_rtake]

theorem head?_due (v : Verbosity) (c : Call) : (due v [c]).head? = c.delivery? v := by
  rw [← delivered_eq_due, delivered_cons, delivered_nil, List.append_nil]
  cases c.delivery? v <;> rfl

namespace Session

variable (s : Session)

theorem host_call (r : Reading) (v : Verbosity) (q : Request) :
    (s.step (.call r v q)).host = (q.call.delivery? v).elim s.host (s.host.receive r) := by
  rw [step, Logger.perform_nested, state_perform]

theorem panel_call (r : Reading) (v : Verbosity) (q : Request) :
    (s.step (.call r v q)).host.panel = match (Operation.call r v q).added with
      | some e => (s.host.panel ++ [e]).rtake Panel.capacity
      | none => s.host.panel := by
  rw [host_call, Operation.added, head?_due]
  cases q.call.delivery? v with
  | none => rfl
  | some e => rw [Option.elim_some, panel_receive, Option.map_some]

/-- The panel grows by the entry that an operation adds, is emptied by a clear, and is left alone
otherwise. -/
theorem panel_step (o : Operation) :
    (s.step o).host.panel = match o.added with
      | some e => (s.host.panel ++ [e]).rtake Panel.capacity
      | none => if o = .display .clearPanel then [] else s.host.panel := by
  cases o with
  | display d =>
    cases d with
    | appendPanel e => exact panel_appendPanel e s.host
    | _ => rfl
  | edit e => cases e <;> rfl
  | call r v q => rw [panel_call, if_neg nofun]

theorem panel_run (start : Host) (h : start.panel = []) (os : List Operation) :
    (run os { host := start }).host.panel = (appended os).rtake Panel.capacity := by
  induction os using List.reverseRecOn with
  | nil => exact h
  | append_singleton os o ih =>
    rw [run_append]
    change ((run os { host := start }).step o).host.panel = _
    rw [panel_step, ih]
    by_cases ho : o = .display .clearPanel
    · rw [ho, appended_clear]
      rfl
    · rw [appended_concat os ho]
      cases o.added with
      | none => rw [if_neg ho, Option.toList_none, List.append_nil]
      | some e => exact History.rtake_concat_rtake _ _ _

end Session

/-- However a host is used, its panel shows the newest five thousand of the entries that were added
since the last clear. One operation adds one entry or none, and none but a clear takes others away
than the oldest. A panel of any length is brought back to its capacity by an entry that is added. -/
theorem panel_keeps_newest (v : Verbosity) (os : List Operation) :
    let panel := (Session.run os { host := .new v }).host.panel
    (panel = (appended os).rtake 5000 ∧ panel.length = min 5000 (appended os).length) ∧
      (∀ (s : Session) (o : Operation),
        (s.step o).host.panel = match o.added with
          | some e => (s.host.panel ++ [e]).rtake 5000
          | none => if o = .display .clearPanel then [] else s.host.panel) ∧
      ∀ (h : Host) (e : PanelEntry),
        (h.appendPanel e).panel = Panel.evict (h.panel ++ [e]) ∧
          Panel.evict (h.panel ++ [e]) = (h.panel ++ [e]).rtake 5000 := by
  intro panel
  have hpanel : panel = (appended os).rtake 5000 := Session.panel_run (.new v) rfl os
  refine ⟨⟨hpanel, ?_⟩, fun s o => Session.panel_step s o, fun h e => ⟨?_, ?_⟩⟩
  · rw [hpanel, List.rtake, List.length_drop]
    omega
  · rw [Panel.evict_eq_rtake, panel_appendPanel]
  · exact Panel.evict_eq_rtake _

end Host

end SeverityLog
