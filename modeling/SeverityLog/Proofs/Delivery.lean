import SeverityLog.Console
import SeverityLog.Surface

/-!
# The two sinks deliver the same messages

The messages that are due under a threshold are told by the numbers: a call by severity is due when
the threshold is at least the severity's position, and a call by tag is always due. A console writes
one line for each due message. A recorder keeps three calls for each, wherever its calls are taken.
-/

namespace SeverityLog

/-- The messages that a threshold lets through, by its number. -/
def due (v : Verbosity) (calls : List Call) : List Entry :=
  calls.filterMap fun
    | .emit s message => if s.rank ≤ v.value.toNat then some ⟨s.tag, message⟩ else none
    | .log tag message => some ⟨tag, message⟩

def Call.expected : Call → Option Bool
  | emit _ _ => some false
  | log _ _ => none

theorem delivered_eq_due (v : Verbosity) (calls : List Call) : delivered v calls = due v calls := by
  unfold delivered due
  congr 1
  funext c
  cases c with
  | emit s message => simp only [Call.delivery?, Verbosity.permits_iff]
  | log tag message => rfl

theorem answer_perform {σ ρ : Type} [Inhabited ρ] (l : Logger σ ρ) (c : Call) (st : σ) :
    (l.perform c st).answer = c.expected := by
  cases c <;> rfl

section Perform

variable {σ ρ : Type} [Inhabited ρ] {l : Logger σ ρ} {c : Call} {e : Entry} (st : σ)

theorem Logger.perform_of_not_delivered (h : c.delivery? l.verbosity = none) :
    l.perform c st = ⟨⟨st, default⟩, c.expected⟩ := by
  cases c with
  | emit s message =>
    have hs : ¬ l.verbosity.permits s := by simpa [Call.delivery?] using h
    simp only [perform, emit, if_neg hs, Call.expected]
  | log tag message => cases h

theorem Logger.perform_of_delivered (h : c.delivery? l.verbosity = some e) :
    l.perform c st = ⟨l.deliver e st, c.expected⟩ := by
  cases c with
  | emit s message =>
    obtain ⟨hs, rfl⟩ : l.verbosity.permits s ∧ (⟨s.tag, message⟩ : Entry) = e := by
      simpa [Call.delivery?] using h
    simp only [perform, emit, if_pos hs, Call.expected]
  | log tag message =>
    cases h
    rfl

end Perform

theorem delivered_cons (v : Verbosity) (c : Call) (calls : List Call) :
    delivered v (c :: calls) = (c.delivery? v).toList ++ delivered v calls := by
  cases h : c.delivery? v <;> simp [delivered, h]

namespace Console

def documented (label : String) (e : Entry) : List UInt8 :=
  Text.bytes ("[" ++ label ++ "]" ++ e.tag ++ ": " ++ e.message ++ "\n")

theorem deliver_eq (label : String) (v : Verbosity) (e : Entry) (w : Writer) :
    (logger label v).deliver e w = Writer.release (w.write (documented label e)) := by
  change Writer.release (w.acquire.writeLine (line label e)) = _
  rw [Writer.acquire_eq, Writer.writeLine_eq]
  rfl

section Perform

variable {label : String} {v : Verbosity} {c : Call} (w : Writer)

theorem perform_of_not_delivered (h : c.delivery? v = none) :
    (logger label v).perform c w = ⟨⟨w, none⟩, c.expected⟩ :=
  Logger.perform_of_not_delivered (l := logger label v) w h

theorem perform_of_delivered {e : Entry} (h : c.delivery? v = some e) :
    (logger label v).perform c w =
      ⟨Writer.release (w.write (documented label e)), c.expected⟩ := by
  rw [← deliver_eq label v e w]
  exact Logger.perform_of_delivered (l := logger label v) w h

end Perform

section Unbounded

variable (label : String) (v : Verbosity) {w : Writer} (hw : w.capacity = none)

include hw

theorem perform_unbounded (c : Call) :
    (logger label v).perform c w =
      ⟨⟨{ w with held := w.held ++ (c.delivery? v).toList.flatMap (documented label) }, none⟩,
        c.expected⟩ := by
  cases h : c.delivery? v with
  | none => simp [perform_of_not_delivered w h]
  | some e =>
    simp [perform_of_delivered w h, Writer.release, Writer.write_eq, Writer.taken, Writer.accepted,
      hw]

theorem run_of_capacity_eq_none (qs : List Request) :
    (logger label v).run qs w =
      ⟨{ w with held := w.held ++ (delivered v (qs.map Request.call)).flatMap (documented label) },
        qs.map fun q => (q.call.expected, none)⟩ := by
  induction qs generalizing w with
  | nil => simp [Logger.run, delivered_nil]
  | cons q qs ih =>
    rw [Logger.run, Logger.perform_nested, perform_unbounded label v hw]
    simp only [ih, hw, List.map_cons, delivered_cons, List.flatMap_append, List.append_assoc]

end Unbounded

theorem run_unbounded (label : String) (v : Verbosity) (qs : List Request) (held : List UInt8) :
    (logger label v).run qs { held } =
      ⟨{ held := held ++ (delivered v (qs.map Request.call)).flatMap (documented label) },
        qs.map fun q => (q.call.expected, none)⟩ :=
  run_of_capacity_eq_none label v rfl qs

end Console

namespace GuiSink

def documentedStyle (tag : String) : BarStyle :=
  if tag = "ERROR" then .critical else if tag = "WARN." then .warning
  else if tag = "INFO." then .info else .success

def documentedLevel (tag : String) : PanelLevel :=
  if tag = "ERROR" then .critical else if tag = "WARN." then .warning else .info

def documented (e : Entry) : List SurfaceCall :=
  [.clearWidgets, .pushMessage e.tag e.message (documentedStyle e.tag) 5,
    .logMessage e.message "Intel Autonomus Driving Map" (documentedLevel e.tag)]

theorem ofTag_eq_documented (tag : String) :
    Appearance.ofTag tag = ⟨documentedStyle tag, documentedLevel tag⟩ := by
  by_cases h : ∃ s : Severity, s.tag = tag
  · obtain ⟨s, rfl⟩ := h
    rw [Appearance.ofTag_tag]
    cases s <;> rfl
  · have hne : ∀ s : Severity, s.tag ≠ tag := fun s hs => h ⟨s, hs⟩
    have he : tag ≠ "ERROR" := (hne .error).symm
    have hw : tag ≠ "WARN." := (hne .warning).symm
    have hi : tag ≠ "INFO." := (hne .info).symm
    rw [Appearance.ofTag, Severity.ofTag?_eq_none hne, documentedStyle, documentedLevel, if_neg he,
      if_neg hw, if_neg hi, if_neg he, if_neg hw]
    rfl

theorem calls_eq_documented (e : Entry) : calls e = documented e := by
  simp only [calls, ofTag_eq_documented, documented, title, barSeconds]

theorem foldl_record (cs : List SurfaceCall) (r : Recorder) :
    cs.foldl (fun r c => r.record c) r = ⟨r.calls ++ cs⟩ := by
  induction cs generalizing r with
  | nil => simp
  | cons c cs ih => rw [List.foldl_cons, ih]; simp [Recorder.record]

end GuiSink

namespace Recorder

theorem state_perform (v : Verbosity) (c : Call) (r : Recorder) :
    ((logger v).perform c r).state =
      ⟨r.calls ++ (c.delivery? v).toList.flatMap GuiSink.calls⟩ := by
  rw [Logger.state_perform]
  change (c.delivery? v).elim r (fun e => (GuiSink.calls e).foldl (fun r c => r.record c) r) = _
  cases h : c.delivery? v with
  | none => simp
  | some e => simp [GuiSink.foldl_record]

namespace Session

theorem recorded_step (v : Verbosity) (s : Session) (m : Step) :
    (s.step v m).recorded =
      s.recorded ++ (delivered v (m.request?.toList.map Request.call)).flatMap GuiSink.calls := by
  cases m with
  | request q =>
    simp only [step, recorded, Logger.perform_nested, state_perform, Step.request?,
      Option.toList_some, List.map_cons, List.map_nil, delivered_cons, delivered_nil,
      List.append_nil, List.append_assoc]
  | take => simp [step, recorded, Recorder.take, Step.request?, delivered_nil]

theorem answers_step (v : Verbosity) (s : Session) (m : Step) :
    (s.step v m).answers = s.answers ++ m.request?.toList.map (·.call.expected) := by
  cases m with
  | request q => simp [step, answer_perform, Step.request?]
  | take => simp [step, Step.request?]

theorem recorded_run (v : Verbosity) (steps : List Step) (s : Session) :
    (run v steps s).recorded = s.recorded ++
      (delivered v ((steps.filterMap Step.request?).map Request.call)).flatMap GuiSink.calls := by
  induction steps generalizing s with
  | nil => simp [run, delivered_nil]
  | cons m steps ih =>
    change (run v steps (s.step v m)).recorded = _
    rw [ih, recorded_step]
    cases hm : m.request? with
    | none => simp [hm, delivered_nil]
    | some q => simp [hm, delivered_cons, delivered_nil]

theorem answers_run (v : Verbosity) (steps : List Step) (s : Session) :
    (run v steps s).answers =
      s.answers ++ (steps.filterMap Step.request?).map (·.call.expected) := by
  induction steps generalizing s with
  | nil => simp [run]
  | cons m steps ih =>
    change (run v steps (s.step v m)).answers = _
    rw [ih, answers_step]
    cases hm : m.request? with
    | none => simp [hm]
    | some q => simp [hm]

end Session

end Recorder

/-- Through any handles, and with the recorded calls taken at any points, the console holds the
lines and the recorder has been given the calls of exactly the due messages. Every call by severity
returns `false`. -/
theorem sinks_deliver_due (v : Verbosity) (label : String) (held : List UInt8)
    (steps : List Recorder.Step) :
    let requests := steps.filterMap Recorder.Step.request?
    let messages := due v (requests.map Request.call)
    let console := (Console.logger label v).run requests { held }
    let gui := Recorder.Session.run v steps {}
    console.state.held = held ++ messages.flatMap (Console.documented label) ∧
      gui.batches.flatten ++ gui.recorder.calls = messages.flatMap GuiSink.documented ∧
      console.report.map (fun p => Console.settled p.1 p.2) =
        requests.map (fun q => .ok q.call.expected) ∧
      gui.answers = requests.map (·.call.expected) := by
  intro requests messages console gui
  have hconsole : console = _ := Console.run_unbounded label v requests held
  have hdue : delivered v (requests.map Request.call) = messages := delivered_eq_due v _
  refine ⟨?_, ?_, ?_, ?_⟩
  · rw [hconsole, hdue]
  · have hgui := Recorder.Session.recorded_run v steps {}
    have hcalls : GuiSink.calls = GuiSink.documented := funext GuiSink.calls_eq_documented
    rw [hcalls] at hgui
    exact hgui.trans (by rw [hdue]; rfl)
  · rw [hconsole, List.map_map]
    rfl
  · exact Recorder.Session.answers_run v steps {}

end SeverityLog
