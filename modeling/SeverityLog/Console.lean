import SeverityLog.Logger
import SeverityLog.Text.Bytes

/-!
# The console

A console writes one record for each delivered message: the label of the calling thread in square
brackets, the tag, a colon, a space, the message and a newline. Its writer holds bytes up to a
capacity, and a record that does not fit is kept as far as it fits. The caller whose record does not
fit fails while it holds the lock of the writer. The next caller takes the lock all the same.
-/

namespace SeverityLog

namespace Console

def line (label : String) (e : Entry) : String :=
  "[" ++ label ++ "]" ++ e.tag ++ ": " ++ e.message

def record (label : String) (e : Entry) : String := line label e ++ "\n"

def mainLabel : String := "1"

/-- How a thread shows its number. -/
def threadName (id : Nat) : String := "ThreadId(" ++ toString id ++ ")"

/-- A text without its beginning, taken away as often as the text starts with it. -/
def withoutStart (start cs : List Char) : List Char :=
  if start ≠ [] ∧ start <+: cs then withoutStart start (cs.drop start.length) else cs
termination_by cs.length
decreasing_by
  rename_i h
  have hpos := List.length_pos_iff.mpr h.1
  have hle := h.2.length_le
  rw [List.length_drop]
  omega

def withoutEnd (c : Char) (cs : List Char) : List Char := (cs.reverse.dropWhile (· = c)).reverse

/-- The label of a thread, unless the console is given another one: its number. -/
def threadLabel (id : Nat) : String :=
  String.ofList (withoutEnd ')' (withoutStart "ThreadId(".toList (threadName id).toList))

/-- The writer took no more bytes, and said why. -/
structure WriteFailure where
  reason : String
  deriving DecidableEq, Repr

def WriteFailure.message (f : WriteFailure) : String := "failed printing to console: " ++ f.reason

end Console

open Console (WriteFailure)

/-- Bytes written so far, how many the writer holds at most, what it says when it is full, and
whether a caller failed while it held the lock. -/
structure Writer where
  held : List UInt8 := []
  capacity : Option Nat := none
  complaint : String := "disk full"
  poisoned : Bool := false

namespace Writer

def accepted (w : Writer) (bytes : List UInt8) : List UInt8 :=
  match w.capacity with
  | none => bytes
  | some c => bytes.take (c - w.held.length)

/-- The writer after one call, which took the bytes for which there was room. -/
def taken (w : Writer) (bytes : List UInt8) : Writer :=
  { w with held := w.held ++ w.accepted bytes }

/-- A call fails when there is room for no byte. Otherwise what is left is offered in the next call,
until nothing is left. -/
def write (w : Writer) (bytes : List UInt8) : Outcome Writer (Option WriteFailure) :=
  if bytes = [] then ⟨w, none⟩
  else if w.accepted bytes = [] then ⟨w, some ⟨w.complaint⟩⟩
  else (w.taken bytes).write (bytes.drop (w.accepted bytes).length)
termination_by bytes.length
decreasing_by
  rename_i hbytes haccepted
  have := List.length_pos_iff.mpr hbytes
  have := List.length_pos_iff.mpr haccepted
  rw [List.length_drop]
  omega

/-- The text of a line is written first, and the newline when all of the text was taken. -/
def writeLine (w : Writer) (text : String) : Outcome Writer (Option WriteFailure) :=
  let o := w.write (Text.bytes text)
  match o.report with
  | some _ => o
  | none => o.state.write (Text.bytes "\n")

/-- A poisoned lock is handed out as an error. -/
def lock (w : Writer) : Except Writer Writer := if w.poisoned then .error w else .ok w

/-- A caller uses the writer in either case. -/
def acquire (w : Writer) : Writer :=
  match w.lock with
  | .ok w => w
  | .error w => w

/-- A failed write is fatal to the caller, and a caller that dies poisons the lock it holds. -/
def release (o : Outcome Writer (Option WriteFailure)) : Outcome Writer (Option WriteFailure) :=
  { o with state := { o.state with poisoned := o.state.poisoned || o.report.isSome } }

/-! ## What is taken -/

@[simp] theorem accepted_nil (w : Writer) : w.accepted [] = [] := by
  cases h : w.capacity <;> simp [accepted, h]

theorem accepted_prefix (w : Writer) (bytes : List UInt8) : w.accepted bytes <+: bytes := by
  cases h : w.capacity with
  | none => simp [accepted, h]
  | some c => simpa only [accepted, h] using List.take_prefix _ bytes

theorem accepted_append (w : Writer) (xs ys : List UInt8) :
    w.accepted (xs ++ ys) = w.accepted xs ++ (w.taken xs).accepted ys := by
  cases h : w.capacity with
  | none => simp [accepted, taken, h]
  | some c =>
    have hroom : c - (w.held.length + min (c - w.held.length) xs.length) =
        c - w.held.length - xs.length := by omega
    simp [accepted, taken, h, List.take_append, hroom]

theorem taken_append (w : Writer) (xs ys : List UInt8) :
    w.taken (xs ++ ys) = (w.taken xs).taken ys := by
  simp [taken, accepted_append]

theorem taken_of_accepted_eq_nil {w : Writer} {xs : List UInt8} (h : w.accepted xs = []) :
    w.taken xs = w := by
  simp [taken, h]

/-- A writer that took a part only is full. -/
theorem accepted_taken_of_lt {w : Writer} {xs : List UInt8}
    (h : (w.accepted xs).length < xs.length) (ys : List UInt8) :
    (w.taken xs).accepted ys = [] := by
  cases hc : w.capacity with
  | none => simp [accepted, hc] at h
  | some c =>
    simp only [accepted, hc, List.length_take] at h
    have hroom : c - (w.held.length + min (c - w.held.length) xs.length) = 0 := by omega
    simp [accepted, taken, hc, hroom]

/-- However many calls it takes, the writer keeps what fits, and fails when that is not all. -/
theorem write_eq (w : Writer) (bytes : List UInt8) :
    w.write bytes =
      ⟨w.taken bytes,
        if (w.accepted bytes).length < bytes.length then some ⟨w.complaint⟩ else none⟩ := by
  fun_induction write w bytes with
  | case1 w => simp [taken]
  | case2 w bytes hbytes haccepted =>
    simp [taken, haccepted, List.length_pos_iff.mpr hbytes]
  | case3 w bytes hbytes haccepted ih =>
    -- A second call finds the writer full, or nothing is left for it.
    have hrest : (w.taken bytes).accepted (bytes.drop (w.accepted bytes).length) = [] := by
      by_cases hlt : (w.accepted bytes).length < bytes.length
      · exact accepted_taken_of_lt hlt _
      · rw [List.drop_of_length_le (Nat.le_of_not_lt hlt), accepted_nil]
    rw [ih, taken_of_accepted_eq_nil hrest, hrest, List.length_nil, List.length_drop]
    simp only [Nat.sub_pos_iff_lt]
    rfl

theorem writeLine_eq (w : Writer) (text : String) :
    w.writeLine text = w.write (Text.bytes (text ++ "\n")) := by
  simp only [writeLine, write_eq, Text.bytes_append, accepted_append, taken_append,
    List.length_append]
  by_cases hlt : (w.accepted (Text.bytes text)).length < (Text.bytes text).length
  · -- The newline is not offered after a part of the text, and a full writer would not take it.
    have hfull := accepted_taken_of_lt hlt (Text.bytes "\n")
    have hlt' : (w.accepted (Text.bytes text)).length + 0 <
        (Text.bytes text).length + (Text.bytes "\n").length := by omega
    rw [if_pos hlt, hfull, taken_of_accepted_eq_nil hfull, List.length_nil, if_pos hlt']
  · have hle := (w.accepted_prefix (Text.bytes text)).length_le
    have heq : (w.accepted (Text.bytes text)).length = (Text.bytes text).length := by omega
    rw [if_neg hlt, heq]
    simp only [Nat.add_lt_add_iff_left]
    rfl

/-- The lock makes no difference to what is written. -/
theorem acquire_eq (w : Writer) : w.acquire = w := by
  cases h : w.poisoned <;> simp [acquire, lock, h]

end Writer

namespace Console

/-- The logger whose calls come from a thread of the label. -/
def logger (label : String) (v : Verbosity) : Logger Writer (Option WriteFailure) where
  verbosity := v
  deliver e w := Writer.release (w.acquire.writeLine (line label e))

/-- What the caller gets back. A failed write is fatal to the caller. -/
def settled (answer : Option Bool) : Option WriteFailure → Except WriteFailure (Option Bool)
  | some failure => .error failure
  | none => .ok answer

def printed (v : Verbosity) (c : Call) : String :=
  match c.delivery? v with
  | some e => record mainLabel e
  | none => ""

end Console

end SeverityLog
