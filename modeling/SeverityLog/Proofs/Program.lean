import SeverityLog.Proofs.Diagnostics
import SeverityLog.Proofs.Loading

/-!
# What a run comes to

The command line is merged with the configuration setting by setting, and the merged settings alone
decide how a run ends and what it prints. A wrong name is fatal on the command line only, the name
of the severity before that of the sink; in the configuration it gives way to the default. So a
configuration cannot make a run fail for which the command line names a sink.
-/

namespace SeverityLog.CommandLine

namespace Invocation

/-- The chosen sink, or none when the command line names no sink that there is. -/
def sink? (i : Invocation) (c : Config) : Option SinkKind :=
  match i.sink with
  | some name => SinkKind.ofName? name
  | none => some c.sink

def threshold (i : Invocation) (c : Config) : Verbosity :=
  (i.verbosity.map Verbosity.mk).getD c.verbosity

/-- All that the console is to print. An empty message is a message. -/
def consoleText (i : Invocation) (c : Config) (s : Severity) : String :=
  match i.message with
  | some m =>
    if s.rank ≤ (i.threshold c).value.toNat then "[1]" ++ s.tag ++ ": " ++ m ++ "\n" else ""
  | none => ""

end Invocation

namespace Run

structure Gives (r : Run) (ending : Ending) (exitCode : UInt8) (printed : String) : Prop where
  ending : r.ending = ending
  exitCode : r.ending.exitCode = exitCode
  printed : r.printed = printed

/-- The run is the one that the command line and the configuration ask for, with what opening a
window comes to. What is done in the window is not part of the run. -/
structure Obeys (i : Invocation) (c : Config) (window : Except String Unit) (r : Run) : Prop where
  badLevel : Severity.ofName? i.level = none → r.Gives (.failed (.unknownSeverity i.level)) 1 ""
  badSink : ∀ s name, Severity.ofName? i.level = some s → i.sink = some name →
    SinkKind.ofName? name = none → r.Gives (.failed (.unknownSink name)) 1 ""
  console : ∀ s, Severity.ofName? i.level = some s → i.sink? c = some .console →
    r.Gives .done 0 (i.consoleText c s)
  opened : ∀ s, Severity.ofName? i.level = some s → i.sink? c = some .gui → window = .ok () →
    r.Gives .done 0 ""
  unopened : ∀ s reason, Severity.ofName? i.level = some s → i.sink? c = some .gui →
    window = .error reason → r.Gives (.failed (.window reason)) 1 ""

end Run

/-! ## Merging -/

section Resolve

variable {i : Invocation} {c : Config}

theorem resolve_of_bad_level (h : Severity.ofName? i.level = none) :
    resolve i c = .error (.unknownSeverity i.level) := by
  rw [resolve, Severity.parse, h]
  rfl

theorem resolve_of_bad_sink {s : Severity} {name : String}
    (hlevel : Severity.ofName? i.level = some s) (hname : i.sink = some name)
    (hsink : SinkKind.ofName? name = none) : resolve i c = .error (.unknownSink name) := by
  rw [resolve, Severity.parse, hlevel, hname]
  simp only [SinkKind.parse, hsink]
  rfl

theorem resolve_of_valid {s : Severity} {k : SinkKind}
    (hlevel : Severity.ofName? i.level = some s) (hsink : i.sink? c = some k) :
    resolve i c = .ok ⟨s, k, i.threshold c⟩ := by
  rw [resolve, Severity.parse, hlevel]
  cases hname : i.sink with
  | none =>
    simp only [Invocation.sink?, hname, Option.some.injEq] at hsink
    subst hsink
    rfl
  | some name =>
    simp only [Invocation.sink?, hname] at hsink
    simp only [SinkKind.parse, hsink]
    rfl

theorem sink?_eq_none_iff :
    i.sink? c = none ↔ ∃ name, i.sink = some name ∧ SinkKind.ofName? name = none := by
  cases hname : i.sink <;> simp [Invocation.sink?, hname]

/-- A command line is merged when its names are right, and only then. -/
theorem resolve_eq_ok_iff {r : Resolved} :
    resolve i c = .ok r ↔ ∃ s k, Severity.ofName? i.level = some s ∧ i.sink? c = some k ∧
      r = ⟨s, k, i.threshold c⟩ := by
  constructor
  · intro h
    cases hlevel : Severity.ofName? i.level with
    | none =>
      rw [resolve_of_bad_level hlevel] at h
      cases h
    | some s =>
      cases hsink : i.sink? c with
      | none =>
        obtain ⟨name, hname, hbad⟩ := sink?_eq_none_iff.mp hsink
        rw [resolve_of_bad_sink hlevel hname hbad] at h
        cases h
      | some k =>
        rw [resolve_of_valid hlevel hsink] at h
        cases h
        exact ⟨s, k, rfl, rfl, rfl⟩
  · rintro ⟨s, k, hlevel, hsink, rfl⟩
    exact resolve_of_valid hlevel hsink

theorem printed_emit (v : Verbosity) (s : Severity) (m : String) :
    Console.printed v (.emit s m) =
      if s.rank ≤ v.value.toNat then "[1]" ++ s.tag ++ ": " ++ m ++ "\n" else "" := by
  by_cases h : s.rank ≤ v.value.toNat
  · have hp : v.permits s := Verbosity.permits_iff.2 h
    rw [if_pos h]
    simp only [Console.printed, Call.delivery?, if_pos hp]
    rfl
  · have hp : ¬ v.permits s := fun hp => h (Verbosity.permits_iff.1 hp)
    rw [if_neg h]
    simp only [Console.printed, Call.delivery?, if_neg hp]

theorem send_console (s : Severity) (window : Except String Unit) :
    let sent := send ⟨s, .console, i.threshold c⟩ i.message window
    sent.1 = .done ∧ sent.2.1 = i.consoleText c s := by
  rw [Invocation.consoleText]
  cases i.message with
  | none => exact ⟨rfl, rfl⟩
  | some m => exact ⟨rfl, printed_emit _ s m⟩

end Resolve

/-! ## Running -/

section RunWith

variable {refusal : String} {i : Invocation} {path : String × List Event} {found : Lookup}
  {window : Except String Unit}

theorem config_runWith :
    (runWith refusal i path found window).config = (Config.load refusal path.1 found).config := by
  rw [runWith]
  cases resolve i (Config.load refusal path.1 found).config <;> rfl

theorem runWith_of_error {failure : Failure}
    (h : resolve i (Config.load refusal path.1 found).config = .error failure) :
    (runWith refusal i path found window).Gives (.failed failure) 1 "" := by
  simp only [runWith, h]
  exact ⟨rfl, rfl, rfl⟩

theorem runWith_of_ok {r : Resolved} {ending : Ending} {printed : String}
    (h : resolve i (Config.load refusal path.1 found).config = .ok r)
    (hending : (send r i.message window).1 = ending)
    (hprinted : (send r i.message window).2.1 = printed) :
    (runWith refusal i path found window).Gives ending ending.exitCode printed := by
  subst hending hprinted
  simp only [runWith, h]
  exact ⟨rfl, rfl, rfl⟩

theorem obeys_runWith :
    (runWith refusal i path found window).Obeys i (Config.load refusal path.1 found).config
      window where
  badLevel hlevel := runWith_of_error (resolve_of_bad_level hlevel)
  badSink _ _ hlevel hname hsink := runWith_of_error (resolve_of_bad_sink hlevel hname hsink)
  console s hlevel hsink := by
    obtain ⟨hending, hprinted⟩ := send_console s window
    exact runWith_of_ok (resolve_of_valid hlevel hsink) hending hprinted
  opened s hlevel hsink hwindow := by
    subst hwindow
    exact runWith_of_ok (resolve_of_valid hlevel hsink) rfl rfl
  unopened s reason hlevel hsink hwindow := by
    subst hwindow
    exact runWith_of_ok (resolve_of_valid hlevel hsink) rfl rfl

end RunWith

/-! ## Two configurations -/

section Twice

variable {i : Invocation} {c c' : Config} {window : Except String Unit} {r r' : Run}

/-- Two runs that end alike print alike as far as they are to print alike. -/
theorem Run.Gives.agree {ending : Ending} {exitCode : UInt8} {printed printed' : String} {P : Prop}
    (h : r.Gives ending exitCode printed) (h' : r'.Gives ending exitCode printed')
    (hprinted : P → printed' = printed) :
    r'.ending = r.ending ∧ (P → r'.printed = r.printed) := by
  refine ⟨h'.ending.trans h.ending.symm, fun hp => ?_⟩
  rw [h'.printed, h.printed, hprinted hp]

theorem Invocation.consoleText_congr (h : i.verbosity.isSome ∨ i.message = none) (s : Severity) :
    i.consoleText c' s = i.consoleText c s := by
  rcases h with h | h
  · obtain ⟨v, hv⟩ := Option.isSome_iff_exists.1 h
    simp only [consoleText, threshold, hv, Option.map_some, Option.getD_some]
  · simp only [consoleText, h]

/-- Under a sink of the command line the configuration has a say in the threshold alone. -/
theorem Run.Obeys.agree (h : r.Obeys i c window) (h' : r'.Obeys i c' window)
    (hsink : i.sink.isSome) :
    r'.ending = r.ending ∧ (i.verbosity.isSome ∨ i.message = none → r'.printed = r.printed) := by
  obtain ⟨name, hname⟩ := Option.isSome_iff_exists.1 hsink
  have hchosen (c : Config) : i.sink? c = SinkKind.ofName? name := by rw [Invocation.sink?, hname]
  cases hlevel : Severity.ofName? i.level with
  | none => exact (h.badLevel hlevel).agree (h'.badLevel hlevel) fun _ => rfl
  | some s =>
    cases hkind : SinkKind.ofName? name with
    | none =>
      have hg := h.badSink s name hlevel hname hkind
      exact hg.agree (h'.badSink s name hlevel hname hkind) fun _ => rfl
    | some kind =>
      have hc : i.sink? c = some kind := (hchosen c).trans hkind
      have hc' : i.sink? c' = some kind := (hchosen c').trans hkind
      cases kind with
      | console =>
        have hg := h.console s hlevel hc
        exact hg.agree (h'.console s hlevel hc') fun hfixed => i.consoleText_congr hfixed s
      | gui =>
        cases hwindow : window with
        | ok _ =>
          have hg := h.opened s hlevel hc hwindow
          exact hg.agree (h'.opened s hlevel hc' hwindow) fun _ => rfl
        | error reason =>
          have hg := h.unopened s reason hlevel hc hwindow
          exact hg.agree (h'.unopened s reason hlevel hc' hwindow) fun _ => rfl

end Twice

/-! ## The whole program -/

open Diagnostic

/-- Only the environment can break the filter. -/
theorem run_eq_runWith (refusal : String) (i : Invocation) {e : Environment}
    (lookup : String → Lookup) (window : Except String Unit)
    (hfilter : ∀ text, e.logFilter = some text → Filter.broken? text = none) :
    run refusal i e lookup window =
      runWith refusal i (configPath i e) (lookup (configPath i e).1) window := by
  have hunbroken :=
    broken?_filterText refusal i (configPath i e).1 (lookup (configPath i e).1) hfilter
  simp only [run, config_runWith, hunbroken]

/-- On every command line and for every file, and unless the environment's filter is broken, the run
obeys the command line and the accepted ones of the settings that the file holds, with the defaults
in the place of the others. When the command line names the sink, no file changes how the run ends;
when it names the threshold too, or no message, no file changes what is printed. -/
theorem run_obeys (refusal : String) (i : Invocation) (e : Environment) (lookup : String → Lookup)
    (window : Except String Unit)
    (hfilter : ∀ text, e.logFilter = some text → Filter.broken? text = none) :
    let path := (configPath i e).1
    let written := (RawConfig.read refusal path (lookup path)).toOption
    let r := run refusal i e lookup window
    (∀ raw, written = some raw ↔ RawConfig.Reads (lookup path) raw) ∧
      r.Obeys i (.accepted written) window ∧
      ∀ (refusal' : String) (lookup' : String → Lookup), i.sink.isSome →
        (run refusal' i e lookup' window).ending = r.ending ∧
          (i.verbosity.isSome ∨ i.message = none →
            (run refusal' i e lookup' window).printed = r.printed) := by
  intro path written r
  have hobeys (refusal : String) (lookup : String → Lookup) :
      (run refusal i e lookup window).Obeys i
        (.accepted (RawConfig.read refusal path (lookup path)).toOption) window := by
    rw [run_eq_runWith refusal i lookup window hfilter, ← Config.config_load]
    exact obeys_runWith
  refine ⟨fun raw => RawConfig.toOption_read_eq_some_iff, hobeys refusal lookup, ?_⟩
  intro refusal' lookup' hsink
  exact (hobeys refusal lookup).agree (hobeys refusal' lookup') hsink

/-- An empty message is sent as a debug message, without a file. -/
theorem run_obeys_without_file :
    let i : Invocation := { message := some "", level := " Debug " }
    let e : Environment := { logFilter := some "debug" }
    (∀ text, e.logFilter = some text → Filter.broken? text = none) ∧
      (run "" i e (fun _ => .failed .noSuchFile) (.error "no display")).Gives .done 0
        "[1]DEBUG: \n" := by
  intro i e
  have hfilter : ∀ text, e.logFilter = some text → Filter.broken? text = none := by
    intro text htext
    cases htext
    exact Filter.broken?_eq_none (by decide)
  obtain ⟨-, hobeys, -⟩ :=
    run_obeys "" i e (fun _ => .failed .noSuchFile) (.error "no display") hfilter
  exact ⟨hfilter, hobeys.console .debug (by decide) rfl⟩

end SeverityLog.CommandLine
