import SeverityLog.Proofs.Frame

/-!
# No composed message is lost or sent twice

What a run submits is told by the controls of its frames alone: a severity and a draft are carried
from frame to frame, and a frame in which the button or the keys send submits the draft unless it is
blank. A run hands exactly these messages to dispatch, after the initial one, and no message waits
between two frames.
-/

namespace SeverityLog

def Controls.submission? (k : Controls) (severity : Severity) (draft : String) :
    Option (Severity × String) :=
  let text := (k.draft.getD draft).toList
  if (k.send || k.sendKey) && text.any (!Text.isBlank ·) then
    some (k.severity.getD severity, String.ofList ((Text.trim text).take 4096))
  else none

/-- What the frames of a run submit. A submitted draft is emptied. -/
def submissions (severity : Severity) (draft : String) : List Controls → List (Severity × String)
  | [] => []
  | k :: ks =>
    let message := k.submission? severity draft
    message.toList ++ submissions (k.severity.getD severity)
      (if message.isSome then "" else k.draft.getD draft) ks

namespace Composer

theorem isBlank_iff (draft : String) : isBlank draft ↔ ∀ c ∈ draft.toList, Text.isBlank c := by
  rw [isBlank, List.isEmpty_iff, Text.trim_eq_nil_iff]

theorem any_not_isBlank (draft : String) :
    draft.toList.any (!Text.isBlank ·) = !isBlank draft := by
  rw [← List.not_all_eq_any_not]
  congr 1
  rw [Bool.eq_iff_iff, List.all_eq_true, isBlank_iff]

/-- The controls act on the settings one by one, and a submission moves the draft into the place of
the waiting message. -/
theorem operate_eq (k : Controls) (c : Composer) :
    c.operate k =
      match k.submission? c.severity c.draft with
      | some m => { c.edit k with pending := some m, draft := "" }
      | none => c.edit k := by
  simp only [operate, Controls.submission?, any_not_isBlank]
  cases k.send || k.sendKey with
  | false => rfl
  | true =>
    have hdraft : (c.edit k).draft = k.draft.getD c.draft := rfl
    rw [if_pos rfl, submit, hdraft]
    cases isBlank (k.draft.getD c.draft) <;> rfl

/-- A submission takes the place of a message that waits already. -/
theorem pending_operate (k : Controls) (c : Composer) :
    (c.operate k).pending = (k.submission? c.severity c.draft).or c.pending := by
  rw [operate_eq]
  cases k.submission? c.severity c.draft <;> rfl

theorem severity_operate (k : Controls) (c : Composer) :
    (c.operate k).severity = k.severity.getD c.severity := (operate_settings k c).1

theorem draft_operate (k : Controls) (c : Composer) :
    (c.operate k).draft =
      if (k.submission? c.severity c.draft).isSome then "" else k.draft.getD c.draft := by
  rw [operate_eq]
  cases k.submission? c.severity c.draft <;> rfl

end Composer

namespace App

theorem pending_turn (t : Turn) (a : App) : (a.turn t).app.host.composer.pending = none := by
  rw [turn, composer_frame]

theorem dispatched_turn (t : Turn) (a : App) :
    Event.dispatched (a.turn t).events =
      ((t.controls.submission? a.host.composer.severity a.host.composer.draft).or
        a.host.composer.pending).toList := by
  rw [turn, dispatched_frame, Composer.pending_operate]
  rfl

theorem severity_turn (t : Turn) (a : App) :
    (a.turn t).app.host.composer.severity = t.controls.severity.getD a.host.composer.severity := by
  rw [turn, composer_frame]
  exact Composer.severity_operate _ _

theorem draft_turn (t : Turn) (a : App) :
    (a.turn t).app.host.composer.draft =
      if (t.controls.submission? a.host.composer.severity a.host.composer.draft).isSome then ""
      else t.controls.draft.getD a.host.composer.draft := by
  rw [turn, composer_frame]
  exact Composer.draft_operate _ _

end App

namespace Frame

theorem pending_follow (turns : List Turn) (f : Frame) (h : f.app.host.composer.pending = none) :
    (f.follow turns).app.host.composer.pending = none :=
  follow_induction (P := fun f => f.app.host.composer.pending = none) h
    (fun f t _ => App.pending_turn t f.app) turns

theorem dispatched_follow (turns : List Turn) (f : Frame)
    (h : f.app.host.composer.pending = none) :
    Event.dispatched (f.follow turns).events = Event.dispatched f.events ++
      submissions f.app.host.composer.severity f.app.host.composer.draft
        (turns.map Turn.controls) := by
  induction turns generalizing f with
  | nil => simp [follow_nil, submissions]
  | cons t turns ih =>
    rw [follow_cons, ih (f.andThen (App.turn t)) (App.pending_turn t f.app)]
    simp only [andThen, Event.dispatched_append, App.dispatched_turn, h, Option.or_none,
      App.severity_turn, App.draft_turn, List.map_cons, submissions, List.append_assoc]

end Frame

/-- A run hands the initial message to dispatch and then what its frames submit, in their order. No
message waits at the end of a frame, and the next frame hands over what it submits and nothing
else. -/
theorem dispatched_run_eq_submissions (r : Reading) (v : Verbosity)
    (initial : Option (Severity × String)) (turns : List Turn) :
    let f := (App.start r v initial).follow turns
    Event.dispatched f.events =
        initial.toList ++ submissions .info "" (turns.map Turn.controls) ∧
      f.app.host.composer.pending = none ∧
      ∀ t : Turn, Event.dispatched (f.app.turn t).events =
        (t.controls.submission? f.app.host.composer.severity f.app.host.composer.draft).toList := by
  intro f
  have hcomposer : (App.start r v initial).app.host.composer = { verbosity := v } := by
    change (App.send r initial false _).app.host.composer = _
    rw [App.host_send]
    cases App.outgoing _ initial <;> rfl
  have hdispatched : Event.dispatched (App.start r v initial).events = initial.toList :=
    App.dispatched_send r initial false _
  have hpending : (App.start r v initial).app.host.composer.pending = none := by rw [hcomposer]
  have hend : f.app.host.composer.pending = none := Frame.pending_follow turns _ hpending
  refine ⟨?_, hend, ?_⟩
  · rw [Frame.dispatched_follow turns _ hpending, hdispatched, hcomposer]
  · intro t
    rw [App.dispatched_turn, hend, Option.or_none]

end SeverityLog
