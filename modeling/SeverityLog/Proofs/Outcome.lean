import SeverityLog.Proofs.Program

/-!
# Diagnostics do not show in the outcome

A flag, the filter of the environment and the level of the configuration choose what the program
tells about itself. Two runs that differ in these alone are merged to the same settings, print the
same, and end in the same way. A level of any text leaves the other settings of its file as they
are.
-/

namespace SeverityLog

def Lookup.document? (found : Lookup) : Option Toml.Entries :=
  found.text.toOption.bind Toml.parse?

namespace RawConfig

/-- The section for diagnostics gives this text as its level, or none. -/
def HasLevel (level : Option String) (root : Toml.Entries) : Prop :=
  sectionValues ["level"] (root.lookup "logging") = some [level.map .string]

structure SameButLevel (root root' : Toml.Entries) : Prop where
  others : ∀ key, key ≠ "logging" → root'.lookup key = root.lookup key
  level : root'.lookup "logging" = root.lookup "logging" ∨
    (∃ level, HasLevel level root) ∧ ∃ level, HasLevel level root'

def withoutLevel (raw : RawConfig) : RawConfig := { raw with level := none }

/-- The settings of the logger, which stand in a section of their own. -/
def logger? (root : Toml.Entries) : Option RawConfig := do
  let logger ← sectionValues ["verbosity", "sink"] (root.lookup "logger")
  let verbosity ← typed integer? (logger[0]?.join)
  let sink ← typed string? (logger[1]?.join)
  some { verbosity, sink }

theorem typed_string (level : Option String) :
    typed string? (level.map .string) = some level := by
  cases level <;> rfl

/-- A level that is a text makes no document invalid. -/
theorem withoutLevel_ofDocument? {level : Option String} {root : Toml.Entries}
    (h : HasLevel level root) : (ofDocument? root).map withoutLevel = logger? root := by
  have hlevel : typed string? ([level.map Toml.Value.string][0]?.join) = some level :=
    typed_string level
  rw [ofDocument?, logger?, h]
  cases sectionValues ["verbosity", "sink"] (root.lookup "logger") with
  | none => rfl
  | some logger =>
    simp only [Option.bind_eq_bind, Option.bind_some, hlevel]
    cases typed integer? logger[0]?.join with
    | none => rfl
    | some verbosity => cases typed string? logger[1]?.join <;> rfl

theorem SameButLevel.withoutLevel_eq {root root' : Toml.Entries} (h : SameButLevel root root') :
    (ofDocument? root').map withoutLevel = (ofDocument? root).map withoutLevel := by
  have hlogger : root'.lookup "logger" = root.lookup "logger" := h.others "logger" (by decide)
  rcases h.level with hlogging | ⟨⟨level, hlevel⟩, level', hlevel'⟩
  · rw [ofDocument?, hlogger, hlogging, ← ofDocument?]
  · rw [withoutLevel_ofDocument? hlevel, withoutLevel_ofDocument? hlevel', logger?, hlogger,
      ← logger?]

theorem bind_withoutLevel {document document' : Option Toml.Entries}
    (h : Option.Rel SameButLevel document document') :
    (document'.bind ofDocument?).map withoutLevel =
      (document.bind ofDocument?).map withoutLevel := by
  cases h with
  | none => rfl
  | some hroot => exact hroot.withoutLevel_eq

theorem toOption_read (refusal path : String) (found : Lookup) :
    (read refusal path found).toOption = found.document?.bind ofDocument? := by
  rw [read, Lookup.document?]
  cases found.text with
  | error cause => rfl
  | ok document =>
    change ((parse? document).elim (Except.error _) Except.ok).toOption = parse? document
    cases parse? document <;> rfl

end RawConfig

namespace Config

open RawConfig

/-- The accepted settings of the logger are told without the level. -/
theorem accepted_withoutLevel (written : Option RawConfig) :
    (accepted (written.map withoutLevel)).verbosity = (accepted written).verbosity ∧
      (accepted (written.map withoutLevel)).sink = (accepted written).sink := by
  cases written <;> exact ⟨rfl, rfl⟩

theorem load_congr (refusal refusal' path : String) {found found' : Lookup}
    (h : Option.Rel SameButLevel found.document? found'.document?) :
    (load refusal' path found').config.verbosity = (load refusal path found).config.verbosity ∧
      (load refusal' path found').config.sink = (load refusal path found).config.sink := by
  have hread : (read refusal' path found').toOption.map withoutLevel =
      (read refusal path found).toOption.map withoutLevel := by
    rw [toOption_read, toOption_read]
    exact bind_withoutLevel h
  obtain ⟨hverbosity, hsink⟩ := accepted_withoutLevel (read refusal path found).toOption
  obtain ⟨hverbosity', hsink'⟩ := accepted_withoutLevel (read refusal' path found').toOption
  rw [hread] at hverbosity' hsink'
  rw [config_load, config_load]
  exact ⟨hverbosity'.symm.trans hverbosity, hsink'.symm.trans hsink⟩

end Config

namespace CommandLine

open Diagnostic

def Invocation.quiet (i : Invocation) : Invocation := { i with debug := false }

section Twice

variable {refusal refusal' : String} {i i' : Invocation} {c c' : Config}
  {path path' : String × List Event}
  {found found' : Lookup} {window : Except String Unit}

theorem resolve_congr (hquiet : i'.quiet = i.quiet) (hverbosity : c'.verbosity = c.verbosity)
    (hsink : c'.sink = c.sink) : resolve i' c' = resolve i c := by
  have hflag (i : Invocation) (c : Config) : resolve i.quiet c = resolve i c := rfl
  rw [← hflag i', ← hflag i, hquiet, resolve, hverbosity, hsink, ← resolve]

theorem runWith_congr
    (hsettings : resolve i' (Config.load refusal' path'.1 found').config =
      resolve i (Config.load refusal path.1 found).config)
    (hmessage : i'.message = i.message) :
    let r := runWith refusal i path found window
    let r' := runWith refusal' i' path' found' window
    r'.ending = r.ending ∧ r'.printed = r.printed := by
  intro r r'
  cases h : resolve i (Config.load refusal path.1 found).config with
  | error failure =>
    have hgives : r.Gives _ _ _ := runWith_of_error h
    have hgives' : r'.Gives _ _ _ := runWith_of_error (hsettings.trans h)
    exact ⟨hgives'.ending.trans hgives.ending.symm, hgives'.printed.trans hgives.printed.symm⟩
  | ok r =>
    have hgives : (runWith refusal i path found window).Gives _ _ _ := runWith_of_ok h rfl rfl
    have hgives' : (runWith refusal' i' path' found' window).Gives _ _ _ :=
      runWith_of_ok (hsettings.trans h) rfl rfl
    rw [hmessage] at hgives'
    exact ⟨hgives'.ending.trans hgives.ending.symm, hgives'.printed.trans hgives.printed.symm⟩

end Twice

/-- The configuration is loaded before the filter can break. -/
theorem config_run (refusal : String) (i : Invocation) (e : Environment)
    (lookup : String → Lookup) (window : Except String Unit) :
    (run refusal i e lookup window).config =
      (Config.load refusal (configPath i e).1 (lookup (configPath i e).1)).config := by
  rw [run]
  split <;> exact config_runWith

section Unseen

variable {refusal refusal' : String} {e : Environment} {filter filter' : Option String}
  {lookup lookup' : String → Lookup} {window : Except String Unit} {i i' : Invocation}

theorem configPath_congr (hquiet : i'.quiet = i.quiet) :
    configPath i' { e with logFilter := filter' } =
      configPath i { e with logFilter := filter } := by
  have hflag (i : Invocation) (filter : Option String) :
      configPath i { e with logFilter := filter } = configPath i.quiet e := rfl
  rw [hflag i', hflag i, hquiet]

variable (hfiles : ∀ path,
  Option.Rel RawConfig.SameButLevel (lookup path).document? (lookup' path).document?)

include hfiles

/-- Both runs read the file of one path. -/
theorem resolve_run_congr (hquiet : i'.quiet = i.quiet) :
    resolve i' (run refusal' i' { e with logFilter := filter' } lookup' window).config =
      resolve i (run refusal i { e with logFilter := filter } lookup window).config := by
  rw [config_run, config_run, configPath_congr hquiet]
  obtain ⟨hverbosity, hsink⟩ :=
    Config.load_congr refusal refusal' _ (hfiles (configPath i _).1)
  exact resolve_congr hquiet hverbosity hsink

theorem run_congr (hquiet : i'.quiet = i.quiet)
    (hfilter : ∀ text, filter = some text → Filter.broken? text = none)
    (hfilter' : ∀ text, filter' = some text → Filter.broken? text = none) :
    let r := run refusal i { e with logFilter := filter } lookup window
    let r' := run refusal' i' { e with logFilter := filter' } lookup' window
    r'.ending = r.ending ∧ r'.printed = r.printed := by
  intro r r'
  have hsettings : resolve i' r'.config = resolve i r.config := resolve_run_congr hfiles hquiet
  have hr : r = _ := run_eq_runWith refusal i lookup window hfilter
  have hr' : r' = _ := run_eq_runWith refusal' i' lookup' window hfilter'
  have hmessage : i'.quiet.message = i.quiet.message := by rw [hquiet]
  rw [hr, hr', config_runWith, config_runWith] at hsettings
  rw [hr, hr']
  exact runWith_congr hsettings hmessage

end Unseen

section Program

variable {refusal : String} {words : List String} {e : Environment} {lookup : String → Lookup}
  {window : Except String Unit}

theorem program_of_stop {stop : Stop} (h : parse words = .error stop) :
    program refusal words e lookup window = stop.output := by
  rw [program, h]

theorem program_of_invocation {i : Invocation} (h : parse words = .ok i) :
    let r := run refusal i e lookup window
    program refusal words e lookup window = ⟨r.ending.exitCode, r.printed, r.errorLines i e⟩ := by
  rw [program, h]

end Program

/-- Both command lines are refused for the same cause, or neither is. -/
theorem parse_cases {words words' : List String}
    (h : (parse words').map Invocation.quiet = (parse words).map Invocation.quiet) :
    (∃ stop, parse words = .error stop ∧ parse words' = .error stop) ∨
      ∃ i i', parse words = .ok i ∧ parse words' = .ok i' ∧ i'.quiet = i.quiet := by
  cases hparse : parse words with
  | error stop =>
    cases hparse' : parse words' with
    | error stop' =>
      rw [hparse, hparse'] at h
      cases h
      exact .inl ⟨stop, rfl, rfl⟩
    | ok i' =>
      rw [hparse, hparse'] at h
      cases h
  | ok i =>
    cases hparse' : parse words' with
    | error stop' =>
      rw [hparse, hparse'] at h
      cases h
    | ok i' =>
      rw [hparse, hparse'] at h
      exact .inr ⟨i, i', rfl, rfl, Except.ok.inj h⟩

/-- Take two command lines that differ in the flag for diagnostics at most, two filters, and files
whose levels for diagnostics are any texts or missing. The same severity, sink and threshold come
into effect. Unless one of the filters breaks, the program also exits with the same code and prints
the same, and its runs end in the same way, with the same failure if they fail. -/
theorem outcome_free_of_diagnostics (refusal refusal' : String) (words words' : List String)
    (e : Environment) (filter filter' : Option String) (lookup lookup' : String → Lookup)
    (window : Except String Unit)
    (hwords : (parse words').map Invocation.quiet = (parse words).map Invocation.quiet)
    (hfiles : ∀ path,
      Option.Rel RawConfig.SameButLevel (lookup path).document? (lookup' path).document?) :
    let before : Environment := { e with logFilter := filter }
    let after : Environment := { e with logFilter := filter' }
    let output := program refusal words before lookup window
    let output' := program refusal' words' after lookup' window
    (∀ i i', parse words = .ok i → parse words' = .ok i' →
        resolve i' (run refusal' i' after lookup' window).config =
          resolve i (run refusal i before lookup window).config) ∧
      ((∀ text, filter = some text → Filter.broken? text = none) →
        (∀ text, filter' = some text → Filter.broken? text = none) →
          (output'.exit = output.exit ∧ output'.printed = output.printed) ∧
            ∀ i i', parse words = .ok i → parse words' = .ok i' →
              (run refusal' i' after lookup' window).ending =
                (run refusal i before lookup window).ending) := by
  intro before after output output'
  rcases parse_cases hwords with ⟨stop, hparse, hparse'⟩ | ⟨i, i', hparse, hparse', hquiet⟩
  · have houtput : output = _ := program_of_stop hparse
    have houtput' : output' = _ := program_of_stop hparse'
    have hrefused : ∀ i, parse words ≠ .ok i := fun i h => nomatch hparse.symm.trans h
    rw [houtput, houtput']
    exact ⟨fun i _ h _ => absurd h (hrefused i),
      fun _ _ => ⟨⟨rfl, rfl⟩, fun i _ h _ => absurd h (hrefused i)⟩⟩
  · have houtput : output = _ := program_of_invocation hparse
    have houtput' : output' = _ := program_of_invocation hparse'
    rw [houtput, houtput', hparse, hparse']
    refine ⟨?_, fun hfilter hfilter' => ?_⟩
    · rintro _ _ ⟨⟩ ⟨⟩
      exact resolve_run_congr hfiles hquiet
    · obtain ⟨hending, hprinted⟩ := run_congr hfiles hquiet hfilter hfilter'
      refine ⟨⟨congrArg Ending.exitCode hending, hprinted⟩, ?_⟩
      rintro _ _ ⟨⟩ ⟨⟩
      exact hending

/-- A file whose level is refused and a file without a level, read under a filter of the environment
and under the flag. -/
theorem outcome_free_of_diagnostics_loud :
    let words := ["-l", "debug", "go"]
    let words' := ["-l", "debug", "-d", "go"]
    let lookup : String → Lookup := fun _ => .file "[logging]\nlevel = \"loud\"".toUTF8
    let lookup' : String → Lookup := fun _ => .file "".toUTF8
    let before : Environment := { logFilter := some "error" }
    let after : Environment := {}
    let i : Invocation := { message := some "go", level := "debug" }
    let i' : Invocation := { i with debug := true }
    (parse words').map Invocation.quiet = (parse words).map Invocation.quiet ∧
      (∀ path,
        Option.Rel RawConfig.SameButLevel (lookup path).document? (lookup' path).document?) ∧
      resolve i' (run "" i' after lookup' (.ok ())).config =
        resolve i (run "" i before lookup (.ok ())).config ∧
      (program "" words' after lookup' (.ok ())).printed =
        (program "" words before lookup (.ok ())).printed := by
  intro words words' lookup lookup' before after i i'
  have hwords : (parse words').map Invocation.quiet = (parse words).map Invocation.quiet := by
    decide
  have hfiles (path : String) :
      Option.Rel RawConfig.SameButLevel (lookup path).document? (lookup' path).document? := by
    have hloud : (lookup path).document? =
        some [("logging", .table .header [("level", .string "loud")])] := by
      with_unfolding_all rfl
    have hempty : (lookup' path).document? = some [] := by
      with_unfolding_all rfl
    rw [hloud, hempty]
    refine .some ⟨fun key hkey => ?_, .inr ⟨⟨some "loud", rfl⟩, none, rfl⟩⟩
    rw [List.lookup_cons, beq_eq_false_iff_ne.mpr hkey]
  have herror : ∀ text, before.logFilter = some text → Filter.broken? text = none := by
    rintro text ⟨⟩
    exact Filter.broken?_eq_none (by decide)
  have hparse : parse words = .ok i := by rfl
  have hparse' : parse words' = .ok i' := by rfl
  obtain ⟨hsettings, houtcome⟩ := outcome_free_of_diagnostics "" "" words words' {} (some "error")
    none lookup lookup' (.ok ()) hwords hfiles
  have hprinted := (houtcome herror nofun).1.2
  have hsame := hsettings i i' hparse hparse'
  exact ⟨hwords, hfiles, hsame, hprinted⟩

end CommandLine

end SeverityLog
