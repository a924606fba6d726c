import SeverityLog.Config

/-!
# The settings are checked one by one

A setting that is present either means a value, which is then used, or it is refused with one
complaint that quotes it. One that is absent or refused has its default. No setting has a say in
another, the complaints stand in the order of the settings, and what comes out is accepted when it
is checked again.
-/

namespace SeverityLog

namespace RawConfig

section Setting

variable {α β : Type}

/-- What comes of a setting as it is written: the value in effect, and the complaints. -/
inductive Checked (means : α → β → Prop) (default : β) (complaint : α → ConfigFailure) :
    Option α → β → List ConfigFailure → Prop where
  | absent : Checked means default complaint none default []
  | accepted {raw : α} {value : β} (h : means raw value) :
    Checked means default complaint (some raw) value []
  | refused {raw : α} (h : ∀ value, ¬ means raw value) :
    Checked means default complaint (some raw) default [complaint raw]

variable {setting : Setting} {default : β} {read : α → Option β} {written : α → String}

theorem check_of_read {raw : α} {value : β} (h : read raw = some value) :
    check setting default read written (some raw) = (value, []) := by
  simp only [check, h]

theorem checked_check {means : α → β → Prop} {complaint : α → ConfigFailure}
    (hread : ∀ raw value, read raw = some value ↔ means raw value)
    (hcomplaint : ∀ raw, complaint raw = .outOfRange setting (written raw)) (raw : Option α) :
    Checked means default complaint raw (check setting default read written raw).1
      (check setting default read written raw).2 := by
  cases raw with
  | none => exact .absent
  | some raw =>
    cases h : read raw with
    | some value =>
      rw [check_of_read h]
      exact .accepted ((hread raw value).mp h)
    | none =>
      have hrefused : ∀ value, ¬ means raw value := by
        intro value hmeans
        rw [← hread, h] at hmeans
        cases hmeans
      simp only [check, h]
      rw [← hcomplaint]
      exact .refused hrefused

end Setting

def ofConfig (c : Config) : RawConfig where
  verbosity := some c.verbosity.value.toNat
  sink := some c.sink.name
  level := c.logLevel

theorem verbosity_validate_le (raw : RawConfig) :
    raw.validate.1.verbosity ≤ .largestConfigured := by
  rw [validate_fst]
  exact getD_verbosity?_le raw.verbosity

theorem level?_logLevel_validate {raw : RawConfig} {level : String}
    (h : raw.validate.1.logLevel = some level) : level? level = some level := by
  rw [validate_fst] at h
  obtain ⟨name, -, hname⟩ := Option.bind_eq_some_iff.mp h
  obtain rfl := (level?_eq_some_iff.mp hname).1
  exact hname

/-- What was validated is accepted as it is. -/
theorem validate_ofConfig_validate (raw : RawConfig) :
    (ofConfig raw.validate.1).validate = (raw.validate.1, []) := by
  have hverbosity : verbosity? (raw.validate.1.verbosity.value.toNat : Int) =
      some raw.validate.1.verbosity :=
    verbosity?_eq_some_iff.mpr ⟨verbosity_validate_le raw, rfl⟩
  have hsink : SinkKind.ofName? raw.validate.1.sink.name = some raw.validate.1.sink :=
    SinkKind.ofName?_name _
  have hlevel : check .level none (fun name => (level? name).map some) id
      raw.validate.1.logLevel = (raw.validate.1.logLevel, []) := by
    cases h : raw.validate.1.logLevel with
    | none => rfl
    | some level => exact check_of_read (by rw [level?_logLevel_validate h]; rfl)
  rw [validate, ofConfig, check_of_read hverbosity, check_of_read hsink, hlevel]
  rfl

/-- Whatever the settings are, each is checked on its own. A threshold is accepted from 0 to 16, a
sink by a name that is one, and a level in any spelling whose lower case is the name of a level, and
it keeps this spelling. Each one that is present and refused is quoted in one complaint, and there
are no others. No setting depends on another, the threshold is at most 16, and what comes out is
accepted as it is. -/
theorem validate_exact (raw : RawConfig) :
    let config := raw.validate.1
    let levels := ["error", "warn", "info", "debug", "trace"]
    (∃ p₁ p₂ p₃, raw.validate.2 = p₁ ++ p₂ ++ p₃ ∧
      Checked (fun n v => (0 ≤ n ∧ n ≤ 16) ∧ (v.value.toNat : Int) = n) ⟨4⟩
        (fun n => .outOfRange ⟨"[logger] verbosity", "0-16"⟩ (toString n))
        raw.verbosity config.verbosity p₁ ∧
      Checked (fun name kind => SinkKind.parse name = .ok kind) .console
        (fun name => .outOfRange ⟨"[logger] sink", "\"console\" or \"gui\""⟩ name)
        raw.sink config.sink p₂ ∧
      Checked
        (fun name level => level = some name ∧ String.ofList (Text.lower name.toList) ∈ levels) none
        (fun name => .outOfRange ⟨"[logging] level", "error, warn, info, debug, trace"⟩ name)
        raw.level config.logLevel p₃) ∧
      (∀ other : RawConfig,
        (other.verbosity = raw.verbosity → other.validate.1.verbosity = config.verbosity) ∧
        (other.sink = raw.sink → other.validate.1.sink = config.sink) ∧
        (other.level = raw.level → other.validate.1.logLevel = config.logLevel)) ∧
      config.verbosity.value.toNat ≤ 16 ∧
      (ofConfig config).validate = (config, []) := by
  intro config levels
  refine ⟨⟨_, _, _, rfl, ?_, ?_, ?_⟩, fun other => ?_, ?_, validate_ofConfig_validate raw⟩
  · refine checked_check (fun n v => ?_) (fun n => rfl) raw.verbosity
    have hlargest : Verbosity.largestConfigured.value.toNat = 16 := rfl
    rw [verbosity?_eq_some_iff, Verbosity.le_iff, hlargest]
    omega
  · exact checked_check (fun name kind => SinkKind.parse_eq_ok_iff.symm) (fun name => rfl) raw.sink
  · refine checked_check (fun name level => ?_) (fun name => rfl) raw.level
    rw [Option.map_eq_some_iff]
    constructor
    · rintro ⟨value, hvalue, rfl⟩
      obtain ⟨rfl, hspelling⟩ := level?_eq_some_iff.mp hvalue
      exact ⟨rfl, hspelling⟩
    · rintro ⟨rfl, hspelling⟩
      exact ⟨name, level?_eq_some_iff.mpr ⟨rfl, hspelling⟩, rfl⟩
  · simp only [config, validate_fst]
    refine ⟨fun h => ?_, fun h => ?_, fun h => ?_⟩ <;> rw [h]
  · exact Verbosity.le_iff.mp (verbosity_validate_le raw)

end RawConfig

end SeverityLog
