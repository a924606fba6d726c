import Mathlib.Algebra.Ring.Nat
import Mathlib.Data.List.Induction
import SeverityLog.Host.State

/-!
# The panel by categories

The categories of a panel are found in one pass over its entries. They are those that occur, each
once, in the order of their first entries. A filter shows the entries of one category in the order
of the panel, so that the filters for all categories together show each entry once. An entry that
is added takes a category away just when it drives out the last entries of that category and does
not belong to it.
-/

namespace SeverityLog

namespace Panel

/-! ## The categories that occur -/

/-- One step of the pass: a category that has not been seen is put at the end. -/
def see (seen : List String) (e : PanelEntry) : List String :=
  if seen.contains e.category then seen else seen ++ [e.category]

theorem see_of_mem {seen : List String} {e : PanelEntry} (h : e.category ∈ seen) :
    see seen e = seen := by
  unfold see
  rw [if_pos (List.contains_iff_mem.mpr h)]

theorem see_of_not_mem {seen : List String} {e : PanelEntry} (h : e.category ∉ seen) :
    see seen e = seen ++ [e.category] := by
  unfold see
  rw [if_neg (mt List.contains_iff_mem.mp h)]

theorem mem_see {seen : List String} {e : PanelEntry} {c : String} :
    c ∈ see seen e ↔ c ∈ seen ∨ e.category = c := by
  by_cases h : e.category ∈ seen
  · rw [see_of_mem h]
    constructor
    · exact Or.inl
    · rintro (hc | rfl)
      · exact hc
      · exact h
  · rw [see_of_not_mem h, List.mem_append, List.mem_singleton, eq_comm (a := c)]

theorem categories_concat (p : Panel) (e : PanelEntry) :
    categories (p ++ [e]) = see (categories p) e := by
  unfold categories
  rw [List.foldl_append]
  rfl

theorem mem_categories {p : Panel} {c : String} :
    c ∈ p.categories ↔ ∃ e ∈ p, e.category = c := by
  induction p using List.reverseRecOn with
  | nil => simp [categories]
  | append_singleton p e ih =>
    rw [categories_concat, mem_see, ih]
    simp only [List.mem_append, List.mem_singleton, or_and_right, exists_or, exists_eq_left]

def firstOf (c : String) (p : Panel) : Nat := p.findIdx (·.category == c)

theorem firstOf_lt_length {p : Panel} {c : String} :
    p.firstOf c < p.length ↔ c ∈ p.categories := by
  unfold firstOf
  rw [List.findIdx_lt_length, mem_categories]
  simp only [beq_iff_eq]

theorem firstOf_append_of_mem {p : Panel} {c : String} (h : c ∈ p.categories) (q : Panel) :
    firstOf c (p ++ q) = p.firstOf c := by
  have hlt := firstOf_lt_length.mpr h
  unfold firstOf at hlt ⊢
  rw [List.findIdx_append, if_pos hlt]

theorem firstOf_append_of_not_mem {p : Panel} {c : String} (h : c ∉ p.categories) (q : Panel) :
    firstOf c (p ++ q) = q.firstOf c + p.length := by
  have hlt := mt firstOf_lt_length.mp h
  unfold firstOf at hlt ⊢
  rw [List.findIdx_append, if_neg hlt]

theorem pairwise_categories (p : Panel) :
    p.categories.Pairwise fun c d => p.firstOf c < p.firstOf d := by
  induction p using List.reverseRecOn with
  | nil => exact .nil
  | append_singleton p e ih =>
    -- What has been seen keeps its first position when the panel grows.
    have hkept : (categories p).Pairwise fun c d =>
        firstOf c (p ++ [e]) < firstOf d (p ++ [e]) := by
      apply ih.imp_of_mem
      intro c d hc hd hlt
      rwa [firstOf_append_of_mem hc, firstOf_append_of_mem hd]
    rw [categories_concat]
    by_cases hseen : e.category ∈ categories p
    · rwa [see_of_mem hseen]
    · rw [see_of_not_mem hseen, List.pairwise_append]
      refine ⟨hkept, List.pairwise_singleton _ _, fun c hc d hd => ?_⟩
      obtain rfl := List.mem_singleton.mp hd
      have hold := firstOf_lt_length.mpr hc
      rw [firstOf_append_of_mem hc, firstOf_append_of_not_mem hseen]
      omega

theorem nodup_categories (p : Panel) : p.categories.Nodup := by
  apply (pairwise_categories p).imp
  intro c d hlt heq
  rw [heq] at hlt
  exact Nat.lt_irrefl _ hlt

/-! ## The entries of a category -/

theorem mem_visible {p : Panel} {c : String} {e : PanelEntry} :
    e ∈ p.visible (some c) ↔ e ∈ p ∧ e.category = c := by
  unfold visible
  rw [List.mem_filter, beq_iff_eq]

theorem visible_append (filter : Option String) (p q : Panel) :
    visible filter (p ++ q) = p.visible filter ++ q.visible filter := by
  cases filter with
  | none => rfl
  | some c => exact List.filter_append ..

theorem visible_singleton (c : String) (e : PanelEntry) :
    visible (some c) [e] = if e.category = c then [e] else [] := by
  by_cases h : e.category = c <;> simp [visible, h]

theorem mem_categories_iff_visible {p : Panel} {c : String} :
    c ∈ p.categories ↔ p.visible (some c) ≠ [] := by
  rw [mem_categories]
  constructor
  · rintro ⟨e, he⟩
    exact List.ne_nil_of_mem (mem_visible.mpr he)
  · intro h
    obtain ⟨e, he⟩ := List.exists_mem_of_ne_nil _ h
    exact ⟨e, mem_visible.mp he⟩

theorem visible_eq_nil_iff {p : Panel} {c : String} :
    p.visible (some c) = [] ↔ ∀ e ∈ p, e.category ≠ c := by
  unfold visible
  rw [List.filter_eq_nil_iff]
  simp only [beq_iff_eq, ne_eq]

theorem visible_sublist (c : String) (p : Panel) : (p.visible (some c)).Sublist p :=
  List.filter_sublist

theorem count_visible (c : String) (p : Panel) (e : PanelEntry) :
    (p.visible (some c)).count e = if e.category = c then p.count e else 0 := by
  by_cases h : e.category = c
  · rw [if_pos h]
    exact List.count_filter (beq_iff_eq.mpr h)
  · rw [if_neg h]
    exact List.count_eq_zero_of_not_mem fun hmem => h (mem_visible.mp hmem).2

theorem disjoint_visible {c d : String} (h : c ≠ d) (p : Panel) :
    (p.visible (some c)).Disjoint (p.visible (some d)) := by
  intro e hc hd
  exact h ((mem_visible.mp hc).2.symm.trans (mem_visible.mp hd).2)

/-- Different categories together show the entries that belong to one of them. -/
theorem flatMap_visible_perm {cs : List String} (hcs : cs.Nodup) (p : Panel) :
    (cs.flatMap fun c => p.visible (some c)).Perm (p.filter (·.category ∈ cs)) := by
  induction cs with
  | nil => simp
  | cons c cs ih =>
    obtain ⟨hnew, hrest⟩ := List.nodup_cons.mp hcs
    have hfirst : (p.filter (·.category ∈ c :: cs)).filter (·.category == c) =
        p.visible (some c) := by
      rw [List.filter_filter]
      refine List.filter_congr fun e _ => ?_
      by_cases h : e.category = c <;> simp [h]
    have hothers : (p.filter (·.category ∈ c :: cs)).filter (!·.category == c) =
        p.filter (·.category ∈ cs) := by
      rw [List.filter_filter]
      refine List.filter_congr fun e _ => ?_
      by_cases h : e.category = c <;> simp [h, hnew]
    have hsplit := List.filter_append_perm (·.category == c) (p.filter (·.category ∈ c :: cs))
    rw [hfirst, hothers] at hsplit
    rw [List.flatMap_cons]
    exact ((ih hrest).append_left _).trans hsplit

theorem flatMap_categories_perm (p : Panel) :
    (p.categories.flatMap fun c => p.visible (some c)).Perm p := by
  have hall : p.filter (·.category ∈ p.categories) = p := by
    apply List.filter_eq_self.mpr
    intro e he
    exact decide_eq_true (mem_categories.mpr ⟨e, he, rfl⟩)
  have hperm := flatMap_visible_perm (nodup_categories p) p
  rwa [hall] at hperm

/-! ## An entry is added -/

/-- The oldest entries go, as many as the panel would be over its capacity. -/
theorem exists_gone_kept (e : PanelEntry) (p : Panel) :
    ∃ gone kept, p = gone ++ kept ∧ gone.length = p.length + 1 - capacity ∧
      p.append e = kept ++ [e] := by
  have hle : p.length + 1 - capacity ≤ p.length := by
    unfold capacity
    omega
  refine ⟨p.take (p.length + 1 - capacity), p.drop (p.length + 1 - capacity), ?_, ?_, ?_⟩
  · rw [List.take_append_drop]
  · rw [List.length_take]
    omega
  · unfold append
    rw [List.drop_append_of_le_length hle]

section Lost

variable {gone kept p : Panel} {e : PanelEntry}

theorem lost_iff (hp : p = gone ++ kept) (happend : p.append e = kept ++ [e]) {c : String} :
    c ∈ p.categories ∧ c ∉ (p.append e).categories ↔
      (∃ x ∈ gone, x.category = c) ∧ (∀ x ∈ kept, x.category ≠ c) ∧ e.category ≠ c := by
  rw [happend, hp, mem_categories, mem_categories]
  constructor
  · rintro ⟨⟨x, hx, hc⟩, hlost⟩
    have hkept : ∀ x ∈ kept, x.category ≠ c := fun x hx hc =>
      hlost ⟨x, List.mem_append_left _ hx, hc⟩
    have hnew : e.category ≠ c := fun hc => hlost ⟨e, List.mem_append_right _ (by simp), hc⟩
    rcases List.mem_append.mp hx with hgone | hstays
    · exact ⟨⟨x, hgone, hc⟩, hkept, hnew⟩
    · exact absurd hc (hkept x hstays)
  · rintro ⟨⟨x, hgone, hc⟩, hkept, hnew⟩
    refine ⟨⟨x, List.mem_append_left _ hgone, hc⟩, ?_⟩
    rintro ⟨y, hy, hy'⟩
    rcases List.mem_append.mp hy with hstays | hlast
    · exact hkept y hstays hy'
    · obtain rfl := List.mem_singleton.mp hlast
      exact hnew hy'

/-- One entry goes at most from a panel that is not over its capacity. -/
theorem lost_iff_of_length_le (hp : p = gone ++ kept) (happend : p.append e = kept ++ [e])
    (hgone : gone.length = p.length + 1 - capacity) (hlength : p.length ≤ capacity) {c : String} :
    c ∈ p.categories ∧ c ∉ (p.append e).categories ↔
      p.length = capacity ∧ (∃ oldest, p.head? = some oldest ∧ p.visible (some c) = [oldest]) ∧
        e.category ≠ c := by
  rw [lost_iff hp happend]
  cases gone with
  | nil =>
    have hroom : p.length ≠ capacity := by
      rw [List.length_nil] at hgone
      omega
    simp [hroom]
  | cons oldest gone =>
    have hfull : p.length = capacity ∧ gone.length = 0 := by
      rw [List.length_cons] at hgone
      omega
    obtain rfl := List.length_eq_zero_iff.mp hfull.2
    have hvisible : p.visible (some c) =
        (if oldest.category = c then [oldest] else []) ++ kept.visible (some c) := by
      rw [hp, visible_append, visible_singleton]
    have hhead : p.head? = some oldest := by rw [hp]; rfl
    constructor
    · rintro ⟨⟨x, hx, hc⟩, hkept, hnew⟩
      obtain rfl := List.mem_singleton.mp hx
      refine ⟨hfull.1, ⟨x, hhead, ?_⟩, hnew⟩
      rw [hvisible, if_pos hc, visible_eq_nil_iff.mpr hkept, List.append_nil]
    · rintro ⟨-, ⟨x, hx, honly⟩, hnew⟩
      obtain rfl := Option.some.inj (hhead.symm.trans hx)
      have hc : oldest.category = c := (mem_visible.mp (honly ▸ List.mem_singleton_self _)).2
      rw [hvisible, if_pos hc, List.append_right_eq_self] at honly
      exact ⟨⟨oldest, List.mem_singleton_self _, hc⟩, visible_eq_nil_iff.mp honly, hnew⟩

end Lost

end Panel

namespace Host

/-- Whatever a panel holds, its categories are those that occur, each once, in the order of their
first entries. The filter for a category shows the entries that belong to it, in their order and as
often as they stand there, and shows something just when the category is among those. No entry is
shown by two filters, all of them together show each entry once, and no filter shows them all. An
entry that is added drives out the oldest beyond the capacity; a category is lost by it just when it
has entries among these, has none among those that stay, and is not the category of the new entry.
In a panel that is not over its capacity, the oldest entry then was the only one of its category. -/
theorem categories_partition (h : Host) :
    let p := h.panel
    let shown := fun c => p.visible (some c)
    (p.categories.Nodup ∧ (∀ c, c ∈ p.categories ↔ ∃ e ∈ p, e.category = c) ∧
      p.categories.Pairwise fun c d => p.firstOf c < p.firstOf d) ∧
    (∀ c, ((shown c).Sublist p ∧
        ∀ e, (shown c).count e = if e.category = c then p.count e else 0) ∧
      (shown c ≠ [] ↔ c ∈ p.categories)) ∧
    (p.categories.Pairwise (fun c d => (shown c).Disjoint (shown d)) ∧
      (p.categories.flatMap shown).Perm p ∧
      (p.categories.map fun c => (shown c).length).sum = p.length ∧ p.visible none = p) ∧
    ∀ e, ∃ gone kept, p = gone ++ kept ∧ gone.length = p.length + 1 - 5000 ∧
      (h.appendPanel e).panel = kept ++ [e] ∧
      ∀ c, let lost := c ∈ p.categories ∧ c ∉ (h.appendPanel e).panel.categories
        (lost ↔ (∃ x ∈ gone, x.category = c) ∧ (∀ x ∈ kept, x.category ≠ c) ∧ e.category ≠ c) ∧
        (p.length ≤ 5000 → (lost ↔ p.length = 5000 ∧
          (∃ oldest, p.head? = some oldest ∧ shown c = [oldest]) ∧ e.category ≠ c)) := by
  intro p shown
  have hperm : (p.categories.flatMap shown).Perm p := p.flatMap_categories_perm
  refine ⟨⟨p.nodup_categories, fun c => Panel.mem_categories, p.pairwise_categories⟩, fun c => ?_,
    ⟨?_, hperm, ?_, rfl⟩, fun e => ?_⟩
  · exact ⟨⟨p.visible_sublist c, p.count_visible c⟩, Panel.mem_categories_iff_visible.symm⟩
  · apply p.nodup_categories.imp
    intro c d hne
    exact Panel.disjoint_visible hne p
  · rw [← List.length_flatMap]
    exact hperm.length_eq
  · obtain ⟨gone, kept, hsplit, hgone, happend⟩ := p.exists_gone_kept e
    have hcapacity : Panel.capacity = 5000 := rfl
    have hpanel : (h.appendPanel e).panel = p.append e := by rw [appendPanel]
    rw [hpanel]
    refine ⟨gone, kept, hsplit, ?_, happend, fun c => ⟨?_, fun hlength => ?_⟩⟩
    · rw [hgone, hcapacity]
    · exact Panel.lost_iff hsplit happend
    · rw [← hcapacity] at hlength ⊢
      exact Panel.lost_iff_of_length_le hsplit happend hgone hlength

end Host

end SeverityLog
