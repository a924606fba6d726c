import SeverityLog.Proofs.Outcome

/-!
# The largest threshold

A configuration brings no threshold above sixteen into effect, whatever stands in its file. The
command line is merged without such a check, so the threshold in effect is above sixteen just when
the command line asks for one that is.
-/

namespace SeverityLog

theorem Config.verbosity_accepted_le (written : Option RawConfig) :
    (accepted written).verbosity ≤ .largestConfigured := by
  change (written.bind fun raw => raw.verbosity.bind RawConfig.verbosity?).getD .all ≤ _
  rw [← Option.bind_assoc]
  exact RawConfig.getD_verbosity?_le _

namespace CommandLine

theorem threshold_of_eq_some {i : Invocation} {c : Config} {n : UInt32}
    (h : i.verbosity = some n) : i.threshold c = ⟨n⟩ := by
  rw [Invocation.threshold, h]
  rfl

theorem threshold_of_eq_none {i : Invocation} {c : Config} (h : i.verbosity = none) :
    i.threshold c = c.verbosity := by
  rw [Invocation.threshold, h]
  rfl

/-- What is resolved is what the run starts with. -/
theorem starting_mem_notices {refusal : String} {i : Invocation} {path : String × List Event}
    {found : Lookup} {window : Except String Unit} {r : Resolved}
    (h : resolve i (Config.load refusal path.1 found).config = .ok r) :
    .starting r.sink r.verbosity ∈ (runWith refusal i path found window).notices := by
  simp [runWith, h]

open Diagnostic

/-- When a command line is merged with a file of any content, the threshold in effect is the number
on the command line, and without one the accepted number of the file or the default. The run starts
with that threshold. The file and the default keep it at sixteen or below, so it is above only when
the command line asks for more. -/
theorem resolved_le_largest_iff (refusal : String) (i : Invocation) (e : Environment)
    (lookup : String → Lookup) (window : Except String Unit) (r : Resolved)
    (h : resolve i (run refusal i e lookup window).config = .ok r) :
    let path := (configPath i e).1
    let written := (RawConfig.read refusal path (lookup path)).toOption
    (r.verbosity ≤ .largestConfigured ↔ ∀ n, i.verbosity = some n → n.toNat ≤ 16) ∧
      (Config.accepted written).verbosity ≤ .largestConfigured ∧
      r.verbosity = (i.verbosity.map Verbosity.mk).getD (Config.accepted written).verbosity ∧
      ((∀ text, e.logFilter = some text → Filter.broken? text = none) →
        .starting r.sink r.verbosity ∈ (run refusal i e lookup window).notices) := by
  intro path written
  have hconfig : (run refusal i e lookup window).config = Config.accepted written := by
    rw [config_run, Config.config_load]
  have hcapped := Config.verbosity_accepted_le written
  have hthreshold : r.verbosity = i.threshold (Config.accepted written) := by
    rw [hconfig] at h
    obtain ⟨-, -, -, -, rfl⟩ := resolve_eq_ok_iff.mp h
    rfl
  refine ⟨?_, hcapped, hthreshold, fun hfilter => ?_⟩
  · rw [hthreshold]
    cases hn : i.verbosity with
    | none =>
      rw [threshold_of_eq_none hn]
      exact ⟨fun _ => nofun, fun _ => hcapped⟩
    | some n =>
      rw [threshold_of_eq_some hn, Verbosity.le_iff]
      exact ⟨fun hle m hm => Option.some_inj.mp hm ▸ hle, fun hall => hall n rfl⟩
  · rw [config_run] at h
    rw [run_eq_runWith refusal i lookup window hfilter]
    exact starting_mem_notices h

/-- The command line asks for the largest threshold, and the file is a directory. -/
theorem resolved_le_largest_iff_at_sixteen :
    let i : Invocation := { message := some "go", verbosity := some 16 }
    let r : Resolved := ⟨.info, .console, ⟨16⟩⟩
    let lookup : String → Lookup := fun _ => .directory
    resolve i (run "" i {} lookup (.ok ())).config = .ok r ∧ r.verbosity ≤ .largestConfigured ∧
      .starting .console ⟨16⟩ ∈ (run "" i {} lookup (.ok ())).notices := by
  intro i r lookup
  have hresolve : resolve i (run "" i {} lookup (.ok ())).config = .ok r := by
    rw [config_run]
    exact resolve_of_valid (by decide) rfl
  have hwithin : ∀ n, i.verbosity = some n → n.toNat ≤ 16 := by
    rintro _ ⟨⟩
    decide
  obtain ⟨hiff, -, -, hstarting⟩ := resolved_le_largest_iff "" i {} lookup (.ok ()) r hresolve
  exact ⟨hresolve, hiff.mpr hwithin, hstarting nofun⟩

/-- The command line asks for seventeen, and there is no file. -/
theorem seventeen_in_effect :
    let i : Invocation := { verbosity := some 17 }
    let r : Resolved := ⟨.info, .console, ⟨17⟩⟩
    parse ["-v", "17"] = .ok i ∧
      resolve i (run "" i {} (fun _ => .failed .noSuchFile) (.ok ())).config = .ok r ∧
      ¬ r.verbosity ≤ .largestConfigured := by
  intro i r
  have hparse : parse ["-v", "17"] = .ok i := by rfl
  have hresolve :
      resolve i (run "" i {} (fun _ => .failed .noSuchFile) (.ok ())).config = .ok r := by
    rw [config_run]
    exact resolve_of_valid (by decide) rfl
  exact ⟨hparse, hresolve, by decide⟩

end CommandLine

end SeverityLog
