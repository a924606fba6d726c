import SeverityLog.Host.Operation

/-!
# What is shown and what is composed are independent

Operations on the bar and the panel may alternate in any way with operations on the composer and the
filter. Each of the first kind commutes with each of the second, so all of the first can be done
before all of the second, and nothing that is returned on the way changes.
-/

namespace SeverityLog

namespace Host

/-- The operations of two sequences together, those of each sequence in their order. -/
inductive Interleaves : List Display → List Edit → List Operation → Prop
  | nil : Interleaves [] [] []
  | display {ds es os} (d : Display) : Interleaves ds es os →
      Interleaves (d :: ds) es (.display d :: os)
  | edit {ds es os} (e : Edit) : Interleaves ds es os →
      Interleaves ds (e :: es) (.edit e :: os)

namespace Session

def mapPanel (f : Panel → Panel) (s : Session) : Session :=
  { s with host := { s.host with panel := f s.host.panel } }

theorem edit_mapPanel (f : Panel → Panel) (s : Session) (e : Edit) :
    (s.edit e).mapPanel f = (s.mapPanel f).edit e := by
  cases e <;> rfl

/-- No operation reads or writes what those of the other kind read or write. -/
theorem edit_display (s : Session) (d : Display) (e : Edit) :
    (s.edit e).display d = (s.display d).edit e := by
  cases d with
  | appendPanel entry => exact edit_mapPanel (Panel.append entry) s e
  | _ => cases e <;> rfl

theorem edit_run_display (ds : List Display) (e : Edit) (s : Session) :
    (s.edit e).run (ds.map Operation.display) = (s.run (ds.map Operation.display)).edit e := by
  induction ds generalizing s with
  | nil => rfl
  | cons d ds ih =>
    change ((s.edit e).display d).run (ds.map Operation.display) = _
    rw [edit_display, ih]
    rfl

/-- However the operations of the two kinds alternate, the host comes to the same state, and the
same numbers and messages are returned, as when everything that is shown is done first. -/
theorem run_interleaved {ds : List Display} {es : List Edit} {os : List Operation}
    (h : Interleaves ds es os) (s : Session) :
    s.run os = s.run (ds.map Operation.display ++ es.map Operation.edit) := by
  induction h generalizing s with
  | nil => rfl
  | display d _ ih => exact ih (s.display d)
  | @edit ds es os e _ ih =>
    -- The edit passes by all that is shown after it.
    calc s.run (.edit e :: os)
      _ = (s.edit e).run (ds.map Operation.display ++ es.map Operation.edit) := ih (s.edit e)
      _ = ((s.run (ds.map Operation.display)).edit e).run (es.map Operation.edit) := by
        rw [run_append, edit_run_display]
      _ = s.run (ds.map Operation.display ++ (e :: es).map Operation.edit) := by
        rw [run_append]
        rfl

/-- A widget is pushed and expires while a draft is typed, sent and taken. -/
theorem run_interleaved_alternating :
    let w : Widget :=
      { title := "NOTE.", text := "up", style := .info, pushedAt := 0, seconds := 5 }
    let ds : List Display := [.pushWidget w, .expire 5000000000, .clearPanel]
    let es : List Edit := [.draft " go ", .submit, .takePending]
    let os : List Operation :=
      [.edit (.draft " go "), .display (.pushWidget w), .edit .submit,
        .display (.expire 5000000000), .edit .takePending, .display .clearPanel]
    let start : Session := { host := .new .all }
    Interleaves ds es os ∧
      start.run os = start.run (ds.map Operation.display ++ es.map Operation.edit) ∧
      (start.run os).expired = [1] ∧ (start.run os).taken = [some (.info, "go")] := by
  intro w ds es os start
  have h : Interleaves ds es os :=
    .edit _ (.display _ (.edit _ (.display _ (.edit _ (.display _ .nil)))))
  exact ⟨h, run_interleaved h start, by decide, by decide⟩

end Session

end Host

end SeverityLog
