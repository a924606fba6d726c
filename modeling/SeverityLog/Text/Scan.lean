/-!
# Scanning

A scanner takes a piece off the front of a text and returns it with the rest, or fails. Here are
single characters and digits, and the numbers that digits denote.
-/

namespace SeverityLog.Text

abbrev Scan (α : Type) := List Char → Option (α × List Char)

def expect (c : Char) : List Char → Option (List Char)
  | d :: r => if d = c then some r else none
  | [] => none

def digitValue (c : Char) : Nat :=
  if c.isDigit then c.toNat - 48
  else if 'a' ≤ c ∧ c ≤ 'f' then c.toNat - 87
  else c.toNat - 55

def isDigitBelow (base : Nat) (c : Char) : Bool :=
  (c.isDigit || ('a' ≤ c && c ≤ 'f') || ('A' ≤ c && c ≤ 'F')) && digitValue c < base

def numeral (base : Nat) (ds : List Char) : Nat :=
  ds.foldl (fun n c => n * base + digitValue c) 0

/-- Exactly so many digits, and the number that they denote. -/
def fixedDigits (base count : Nat) : Scan Nat := fun s =>
  let ds := s.take count
  if ds.length = count ∧ ds.all (isDigitBelow base) then some (numeral base ds, s.drop count)
  else none

theorem length_fixedDigits_le {base count n : Nat} {s r : List Char}
    (h : fixedDigits base count s = some (n, r)) : r.length ≤ s.length := by
  simp only [fixedDigits, Option.ite_none_right_eq_some, Option.some.injEq, Prod.mk.injEq] at h
  obtain ⟨_, _, rfl⟩ := h
  simp

end SeverityLog.Text
