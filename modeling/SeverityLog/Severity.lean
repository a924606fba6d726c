/-!
# Severities and reporting thresholds

A message carries one of four severities. A logger reports a severity when its threshold is at
least the level that the severity requires, so a threshold that admits one severity admits every
more severe one.
-/

namespace SeverityLog

/-- Ordered from the most to the least severe. -/
inductive Severity where
  | error
  | warning
  | info
  | debug
  deriving DecidableEq, Repr, Inhabited

structure Verbosity where
  value : UInt32
  deriving DecidableEq, Repr

namespace Verbosity

/-- Every severity is reported. -/
def all : Verbosity := ⟨4⟩

instance : Inhabited Verbosity := ⟨all⟩

/-- Only errors are reported. -/
def errors : Verbosity := ⟨0⟩

/-- The largest threshold that a configuration file may ask for. -/
def largestConfigured : Verbosity := ⟨16⟩

instance : LE Verbosity := ⟨fun a b => a.value ≤ b.value⟩

instance (a b : Verbosity) : Decidable (a ≤ b) :=
  inferInstanceAs (Decidable (a.value ≤ b.value))

instance : Ord Verbosity := ⟨fun a b => compare a.value b.value⟩

instance : ToString Verbosity := ⟨fun v => toString v.value.toNat⟩

theorem le_iff {a b : Verbosity} : a ≤ b ↔ a.value.toNat ≤ b.value.toNat := UInt32.le_iff_toNat_le

end Verbosity

namespace Severity

def all : List Severity := [error, warning, info, debug]

theorem mem_all (s : Severity) : s ∈ all := by cases s <;> simp [all]

def rank : Severity → Nat
  | error => 0
  | warning => 1
  | info => 2
  | debug => 3

instance : Ord Severity := ⟨fun a b => compare a.rank b.rank⟩

def required : Severity → Verbosity
  | error => ⟨0⟩
  | warning => ⟨1⟩
  | info => ⟨2⟩
  | debug => ⟨3⟩

def tag : Severity → String
  | error => "ERROR"
  | warning => "WARN."
  | info => "INFO."
  | debug => "DEBUG"

def ofTag? (tag : String) : Option Severity :=
  all.find? (·.tag == tag)

theorem ofTag?_tag (s : Severity) : ofTag? s.tag = some s := by cases s <;> decide

theorem ofTag?_eq_none {tag : String} (h : ∀ s : Severity, s.tag ≠ tag) : ofTag? tag = none := by
  rw [ofTag?, List.find?_eq_none]
  intro s _
  simpa using h s

def label : Severity → String
  | error => "Error"
  | warning => "Warning"
  | info => "Info"
  | debug => "Debug"

instance : ToString Severity := ⟨label⟩

end Severity

def Verbosity.permits (v : Verbosity) (s : Severity) : Bool :=
  decide (s.required ≤ v)

theorem Verbosity.permits_iff {v : Verbosity} {s : Severity} :
    v.permits s ↔ s.rank ≤ v.value.toNat := by
  cases s <;> simp [permits, Verbosity.le_iff, Severity.required, Severity.rank]

end SeverityLog
