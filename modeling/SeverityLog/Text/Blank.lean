/-!
# White space

The Unicode property `White_Space`, and text without the white space at its two ends. A trimmed
text neither starts nor ends with white space.
-/

namespace SeverityLog.Text

/-- The Unicode property `White_Space`. -/
def isBlank (c : Char) : Bool :=
  (0x09 ≤ c.toNat && c.toNat ≤ 0x0D) || c.toNat == 0x20 || c.toNat == 0x85 || c.toNat == 0xA0 ||
  c.toNat == 0x1680 || (0x2000 ≤ c.toNat && c.toNat ≤ 0x200A) || c.toNat == 0x2028 ||
  c.toNat == 0x2029 || c.toNat == 0x202F || c.toNat == 0x205F || c.toNat == 0x3000

def trimStart (cs : List Char) : List Char := cs.dropWhile isBlank

def trimEnd (cs : List Char) : List Char := (cs.reverse.dropWhile isBlank).reverse

def trim (cs : List Char) : List Char := trimEnd (trimStart cs)

theorem mem_of_mem_trim {cs : List Char} {c : Char} (h : c ∈ trim cs) : c ∈ cs := by
  rw [trim, trimEnd, List.mem_reverse] at h
  have hstart : c ∈ trimStart cs :=
    List.mem_reverse.1 ((List.dropWhile_sublist isBlank).mem h)
  exact (List.dropWhile_sublist isBlank).mem hstart

theorem dropWhile_isBlank_eq_nil_iff {cs : List Char} :
    cs.dropWhile isBlank = [] ↔ ∀ c ∈ cs, isBlank c := by
  induction cs with
  | nil => simp
  | cons c cs ih => by_cases h : isBlank c <;> simp [h, ih]

/-- White space alone, and nothing else, trims to the empty text. -/
theorem trim_eq_nil_iff {cs : List Char} : trim cs = [] ↔ ∀ c ∈ cs, isBlank c := by
  simp only [trim, trimStart, trimEnd, List.reverse_eq_nil_iff, dropWhile_isBlank_eq_nil_iff,
    List.mem_reverse]
  constructor
  · intro h c hc
    rw [← List.takeWhile_append_dropWhile (p := isBlank) (l := cs), List.mem_append] at hc
    rcases hc with hc | hc
    · exact List.all_eq_true.1 List.all_takeWhile c hc
    · exact h c hc
  · intro h c hc
    exact h c (List.dropWhile_sublist isBlank |>.mem hc)

theorem trimEnd_prefix (cs : List Char) : trimEnd cs <+: cs := by
  rw [trimEnd, ← List.reverse_suffix, List.reverse_reverse]
  exact List.dropWhile_suffix isBlank

theorem not_isBlank_of_head?_dropWhile {cs : List Char} {c : Char}
    (h : (cs.dropWhile isBlank).head? = some c) : ¬ isBlank c := by
  have hstop := List.head?_dropWhile_not isBlank cs
  rw [h] at hstop
  simpa using hstop

theorem dropWhile_isBlank_eq_self {cs : List Char} (h : ∀ c, cs.head? = some c → ¬ isBlank c) :
    cs.dropWhile isBlank = cs := by
  cases cs with
  | nil => rfl
  | cons c cs => exact List.dropWhile_cons_of_neg (h c rfl)

/-- What is between the white space at the two ends of a text. -/
structure IsTrimOf (core cs : List Char) : Prop where
  split : ∃ lead trail, cs = lead ++ core ++ trail ∧ (∀ c ∈ lead, isBlank c) ∧
    ∀ c ∈ trail, isBlank c
  first : ∀ c, core.head? = some c → ¬ isBlank c
  last : ∀ c, core.getLast? = some c → ¬ isBlank c

theorem isTrimOf_trim (cs : List Char) : IsTrimOf (trim cs) cs where
  split := by
    let lead := cs.takeWhile isBlank
    let trail := ((trimStart cs).reverse.takeWhile isBlank).reverse
    have hstart : lead ++ trimStart cs = cs := List.takeWhile_append_dropWhile
    have hend : trim cs ++ trail = trimStart cs := by
      rw [trim, trimEnd, ← List.reverse_append, List.takeWhile_append_dropWhile,
        List.reverse_reverse]
    refine ⟨lead, trail, ?_, List.all_eq_true.1 List.all_takeWhile, fun c hc => ?_⟩
    · rw [List.append_assoc, hend, hstart]
    · exact List.all_eq_true.1 List.all_takeWhile c (List.mem_reverse.1 hc)
  first c hc := by
    -- The end is trimmed after the start, and takes nothing from the start of what is left.
    obtain ⟨trail, htrail⟩ := trimEnd_prefix (trimStart cs)
    have hhead : (trimStart cs).head? = some c := by
      rw [← htrail, List.head?_append]
      change (trimEnd (trimStart cs)).head? = some c at hc
      rw [hc]
      rfl
    exact not_isBlank_of_head?_dropWhile hhead
  last c hc := by
    rw [trim, trimEnd, List.getLast?_reverse] at hc
    exact not_isBlank_of_head?_dropWhile hc

/-- A text is trimmed in one way only. -/
theorem IsTrimOf.eq_trim {core cs : List Char} (h : IsTrimOf core cs) : core = trim cs := by
  obtain ⟨lead, trail, rfl, hlead, htrail⟩ := h.split
  have hend : trimEnd (core ++ trail) = core := by
    have hreverse : ∀ c ∈ trail.reverse, isBlank c := fun c hc => htrail c (List.mem_reverse.1 hc)
    rw [trimEnd, List.reverse_append, List.dropWhile_append_of_pos hreverse,
      dropWhile_isBlank_eq_self, List.reverse_reverse]
    rw [List.head?_reverse]
    exact h.last
  rw [trim, trimStart, List.append_assoc, List.dropWhile_append_of_pos hlead]
  cases core with
  | nil =>
    rw [List.nil_append, dropWhile_isBlank_eq_nil_iff.2 htrail]
    rfl
  | cons c core =>
    rw [List.cons_append, List.dropWhile_cons_of_neg (h.first c rfl), ← List.cons_append, hend]

theorem IsTrimOf.length_le {core cs : List Char} (h : IsTrimOf core cs) :
    core.length ≤ cs.length := by
  obtain ⟨lead, trail, rfl, -, -⟩ := h.split
  simp only [List.length_append]
  omega

end SeverityLog.Text
