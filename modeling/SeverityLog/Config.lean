import SeverityLog.Failure
import SeverityLog.Event

/-!
# Configuration

A configuration holds a threshold, a sink and a level for diagnostics. Each setting is checked on
its own: a value that is refused is reported and its default used instead.
-/

namespace SeverityLog

/-- The settings as they stand in the file, with unknown keys left out. -/
structure RawConfig where
  verbosity : Option Int := none
  sink : Option String := none
  level : Option String := none
  deriving DecidableEq, Repr

structure Config where
  verbosity : Verbosity := .all
  sink : SinkKind := .console
  logLevel : Option String := none
  deriving DecidableEq, Repr

namespace Setting

def verbosity : Setting :=
  ⟨"[logger] verbosity", "0-" ++ toString Verbosity.largestConfigured⟩

def sink : Setting := ⟨"[logger] sink", "\"console\" or \"gui\""⟩

def levelNames : List String := ["error", "warn", "info", "debug", "trace"]

def level : Setting := ⟨"[logging] level", ", ".intercalate levelNames⟩

end Setting

namespace RawConfig

def verbosity? (n : Int) : Option Verbosity :=
  if 0 ≤ n ∧ n ≤ Verbosity.largestConfigured.value.toNat then some ⟨UInt32.ofNat n.toNat⟩ else none

/-- A level keeps its spelling. -/
def level? (name : String) : Option String :=
  if Text.isSpelling Setting.levelNames name.toList then some name else none

/-- A number within the bound is not changed by the narrowing. -/
theorem verbosity?_eq_some_iff {n : Int} {v : Verbosity} :
    verbosity? n = some v ↔ v ≤ .largestConfigured ∧ (v.value.toNat : Int) = n := by
  have hlargest : Verbosity.largestConfigured.value.toNat = 16 := rfl
  have hsize : UInt32.size = 4294967296 := rfl
  rw [verbosity?, Verbosity.le_iff, hlargest]
  constructor
  · intro h
    obtain ⟨hn, hv⟩ := Option.ite_none_right_eq_some.mp h
    obtain rfl := Option.some.inj hv
    have hlt : n.toNat < UInt32.size := by omega
    rw [UInt32.toNat_ofNat_of_lt' hlt]
    omega
  · rintro ⟨hle, rfl⟩
    rw [if_pos (by omega), Int.toNat_natCast, UInt32.ofNat_toNat]

/-- The default is within the bound too. -/
theorem getD_verbosity?_le (raw : Option Int) :
    (raw.bind verbosity?).getD .all ≤ .largestConfigured := by
  cases h : raw.bind verbosity? with
  | none => decide
  | some v =>
    obtain ⟨n, -, hn⟩ := Option.bind_eq_some_iff.mp h
    exact (verbosity?_eq_some_iff.mp hn).1

theorem level?_eq_some_iff {name level : String} :
    level? name = some level ↔
      level = name ∧ String.ofList (Text.lower name.toList) ∈ Setting.levelNames := by
  rw [level?, Option.ite_none_right_eq_some, Text.isSpelling_iff, Option.some_inj, and_comm,
    eq_comm]

def check {α β : Type} (setting : Setting) (default : β) (read : α → Option β)
    (written : α → String) : Option α → β × List ConfigFailure
  | none => (default, [])
  | some raw =>
    match read raw with
    | some value => (value, [])
    | none => (default, [.outOfRange setting (written raw)])

def validate (raw : RawConfig) : Config × List ConfigFailure :=
  let (verbosity, p₁) := check .verbosity Verbosity.all verbosity? toString raw.verbosity
  let (sink, p₂) := check .sink SinkKind.console SinkKind.ofName? id raw.sink
  let (logLevel, p₃) := check .level none (fun name => (level? name).map some) id raw.level
  ({ verbosity, sink, logLevel }, p₁ ++ p₂ ++ p₃)

theorem check_fst {α β : Type} (setting : Setting) (default : β) (read : α → Option β)
    (written : α → String) (raw : Option α) :
    (check setting default read written raw).1 = (raw.bind read).getD default := by
  cases raw with
  | none => rfl
  | some value => cases h : read value <;> simp [check, h]

theorem mem_check_snd {α β : Type} {setting : Setting} {default : β} {read : α → Option β}
    {written : α → String} {raw : Option α} {problem : ConfigFailure}
    (h : problem ∈ (check setting default read written raw).2) :
    ∃ value, problem = .outOfRange setting value := by
  cases raw with
  | none => cases h
  | some raw =>
    cases hread : read raw with
    | some value =>
      simp only [check, hread] at h
      cases h
    | none =>
      simp only [check, hread, List.mem_singleton] at h
      exact ⟨_, h⟩

theorem mem_validate_snd {raw : RawConfig} {problem : ConfigFailure}
    (h : problem ∈ raw.validate.2) : ∃ setting value, problem = .outOfRange setting value := by
  rcases List.mem_append.mp h with h | h
  · rcases List.mem_append.mp h with h | h
    · exact ⟨_, mem_check_snd h⟩
    · exact ⟨_, mem_check_snd h⟩
  · exact ⟨_, mem_check_snd h⟩

/-- Each setting depends on its own value only. -/
theorem validate_fst (raw : RawConfig) :
    raw.validate.1 =
      { verbosity := (raw.verbosity.bind verbosity?).getD .all
        sink := (raw.sink.bind SinkKind.ofName?).getD .console
        logLevel := raw.level.bind level? } := by
  have hlevel : (raw.level.bind fun name => (level? name).map some).getD none =
      raw.level.bind level? := by
    cases raw.level with
    | none => rfl
    | some name => cases h : level? name <;> simp [h]
  simp only [validate, check_fst, hlevel]

end RawConfig

end SeverityLog
