import SeverityLog.Severity

/-!
# Loggers

A logger has a threshold and delivers tagged messages. A call that names a severity is delivered,
under the tag of the severity, when the threshold permits it; a call that names a tag is always
delivered. A call by severity answers `false` in either case.
-/

namespace SeverityLog

structure Entry where
  tag : String
  message : String
  deriving DecidableEq, Repr

inductive Call where
  | emit (severity : Severity) (message : String)
  | log (tag message : String)
  deriving DecidableEq, Repr

namespace Call

def delivery? (v : Verbosity) : Call → Option Entry
  | emit s message => if v.permits s then some ⟨s.tag, message⟩ else none
  | log tag message => some ⟨tag, message⟩

end Call

def delivered (v : Verbosity) (calls : List Call) : List Entry :=
  calls.filterMap (·.delivery? v)

theorem delivered_nil (v : Verbosity) : delivered v [] = [] := rfl

/-- What a delivery leaves behind, with what it reports about itself. -/
structure Outcome (σ ρ : Type) where
  state : σ
  report : ρ

structure Returned (σ ρ : Type) extends Outcome σ ρ where
  answer : Option Bool

/-- A threshold, and the delivery of one message into a state. -/
structure Logger (σ ρ : Type) where
  verbosity : Verbosity
  deliver : Entry → σ → Outcome σ ρ

/-- A call, and the number of handles that it passes on its way to the logger. -/
structure Request where
  handles : Nat := 0
  call : Call
  deriving DecidableEq, Repr

namespace Logger

variable {σ ρ : Type} [Inhabited ρ]

/-- A message that the threshold does not permit changes nothing and reports nothing. -/
def emit (l : Logger σ ρ) (s : Severity) (message : String) (st : σ) : Outcome σ ρ :=
  if l.verbosity.permits s then l.deliver ⟨s.tag, message⟩ st else ⟨st, default⟩

/-- The threshold stands before the calls by severity only. -/
def perform (l : Logger σ ρ) : Call → σ → Returned σ ρ
  | .emit s message, st => { l.emit s message st with answer := some false }
  | .log tag message, st => { l.deliver ⟨tag, message⟩ st with answer := none }

/-- A logger behind a handle, which passes on the threshold and the delivery. -/
def behind (l : Logger σ ρ) : Logger σ ρ where
  verbosity := l.verbosity
  deliver e s := l.deliver e s

/-- A logger behind handles, one behind the other. -/
def nested (l : Logger σ ρ) : Nat → Logger σ ρ
  | 0 => l
  | n + 1 => (l.nested n).behind

/-- The calls one after another, with their answers and reports in the same order. -/
def run (l : Logger σ ρ) : List Request → σ → Outcome σ (List (Option Bool × ρ))
  | [], st => ⟨st, []⟩
  | q :: qs, st =>
    let o := (l.nested q.handles).perform q.call st
    let rest := run l qs o.state
    ⟨rest.state, (o.answer, o.report) :: rest.report⟩

theorem perform_behind (l : Logger σ ρ) (c : Call) (st : σ) :
    l.behind.perform c st = l.perform c st := by
  cases c <;> rfl

theorem perform_nested (l : Logger σ ρ) (n : Nat) (c : Call) (st : σ) :
    (l.nested n).perform c st = l.perform c st := by
  induction n with
  | zero => rfl
  | succ n ih => rw [nested, perform_behind, ih]

/-- A call reaches the state through its delivery alone. -/
theorem state_perform (l : Logger σ ρ) (c : Call) (st : σ) :
    (l.perform c st).state =
      (c.delivery? l.verbosity).elim st fun e => (l.deliver e st).state := by
  cases c with
  | emit s message => by_cases h : l.verbosity.permits s <;> simp [perform, emit, Call.delivery?, h]
  | log tag message => rfl

theorem report_perform (l : Logger σ ρ) (c : Call) (st : σ) :
    (l.perform c st).report =
      (c.delivery? l.verbosity).elim default fun e => (l.deliver e st).report := by
  cases c with
  | emit s message => by_cases h : l.verbosity.permits s <;> simp [perform, emit, Call.delivery?, h]
  | log tag message => rfl

end Logger

end SeverityLog
