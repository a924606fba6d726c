import Mathlib.Data.List.TakeDrop
import SeverityLog.Proofs.Dispatch

/-!
# A submission is exact and atomic

A draft of white space alone is left as it is, and so is a message that waits. Any other draft is
trimmed and cut to the longest message, which takes the place of the waiting one, and the draft is
emptied. Nothing is lost of a draft that is no longer than the message field lets it grow.
-/

namespace SeverityLog

/-- The longest text of at most `n` characters with which another text begins. -/
structure Text.IsCutOf (n : Nat) (cut cs : List Char) : Prop where
  initial : cut <+: cs
  length_le : cut.length ≤ n
  longest : ∀ other, other <+: cs → other.length ≤ n → other.length ≤ cut.length

theorem Text.isCutOf_take (n : Nat) (cs : List Char) : IsCutOf n (cs.take n) cs where
  initial := List.take_prefix n cs
  length_le := List.length_take_le n cs
  longest other hother hlength := by
    rw [List.length_take]
    exact Nat.le_min.mpr ⟨hlength, hother.length_le⟩

namespace Composer

variable {c : Composer}

theorem submit_of_blank (h : ∀ x ∈ c.draft.toList, Text.isBlank x) : c.submit = c := by
  rw [submit, if_pos ((isBlank_iff c.draft).mpr h)]

theorem submit_of_not_blank (h : ∃ x ∈ c.draft.toList, ¬ Text.isBlank x) :
    c.submit = { c with pending := some (c.severity, message c.draft), draft := "" } := by
  have hdraft : ¬ isBlank c.draft := by
    obtain ⟨x, hx, hvisible⟩ := h
    exact fun hblank => hvisible ((isBlank_iff c.draft).mp hblank x hx)
  rw [submit, if_neg hdraft]

theorem length_typed_le {text draft : String} (h : draft.length ≤ longestMessage) :
    (typed text draft).length ≤ longestMessage := by
  rw [typed, String.length_append, String.length_ofList]
  have htaken := List.length_take_le (longestMessage - draft.length) text.toList
  omega

end Composer

/-- A draft of white space alone leaves the whole host as it was. Any other draft becomes the
waiting message: without the white space at its ends, and of that the longest beginning of at most
4096 characters, which starts with no white space and is all of it unless it is longer. The draft is
emptied, and nothing else of the host changes. A draft that is not longer than this limit is
submitted whole, and no text that is typed makes it longer. -/
theorem submit_exact (h : Host) :
    let draft := h.composer.draft
    ((∀ c ∈ draft.toList, Text.isBlank c) → h.submit = h) ∧
      ((∃ c ∈ draft.toList, ¬ Text.isBlank c) →
        ∃ core cut, Text.IsTrimOf core draft.toList ∧ Text.IsCutOf 4096 cut core ∧
          h.submit = { h with composer := { h.composer with
            pending := some (h.composer.severity, String.ofList cut), draft := "" } } ∧
          (∃ c rest, cut = c :: rest ∧ ¬ Text.isBlank c) ∧
          (cut = core ↔ core.length ≤ 4096) ∧ (draft.length ≤ 4096 → cut = core)) ∧
      (draft.length ≤ 4096 → ∀ text, (Composer.typed text draft).length ≤ 4096) := by
  intro draft
  refine ⟨?_, ?_, fun hlength text => Composer.length_typed_le hlength⟩
  · intro hblank
    rw [Host.submit, Composer.submit_of_blank hblank]
  · intro hmessage
    have htrim := Text.isTrimOf_trim draft.toList
    have hcut : (Text.trim draft.toList).take 4096 = Text.trim draft.toList ↔ _ :=
      List.take_eq_self_iff _
    refine ⟨Text.trim draft.toList, (Text.trim draft.toList).take 4096, htrim,
      Text.isCutOf_take _ _, ?_, ?_, hcut, fun hlength => hcut.mpr ?_⟩
    · rw [Host.submit, Composer.submit_of_not_blank hmessage]
      rfl
    · obtain ⟨c, rest, hcore⟩ : ∃ c rest, Text.trim draft.toList = c :: rest := by
        refine List.exists_cons_of_ne_nil fun hnil => ?_
        obtain ⟨c, hc, hvisible⟩ := hmessage
        exact hvisible (Text.trim_eq_nil_iff.mp hnil c hc)
      refine ⟨c, rest.take 4095, ?_, htrim.first c (by rw [hcore]; rfl)⟩
      rw [hcore, List.take_succ_cons]
    · rw [← String.length_toList] at hlength
      exact Nat.le_trans htrim.length_le hlength

/-- White space of several kinds, alone and around a message, while another message waits. -/
theorem submit_exact_wide :
    let host (draft : String) : Host :=
      { filter := some "Map"
        composer := { draft, severity := .warning, pending := some (.error, "stop") } }
    let blank := host "\u3000\t\u2003"
    let wide := host "\u3000größer als 4\u2003\n"
    ((∀ c ∈ blank.composer.draft.toList, Text.isBlank c) ∧ blank.submit = blank) ∧
      ((∃ c ∈ wide.composer.draft.toList, ¬ Text.isBlank c) ∧
        wide.submit = { wide with composer := { wide.composer with
          pending := some (.warning, "größer als 4"), draft := "" } }) ∧
      wide.composer.draft.length ≤ 4096 ∧
        (Composer.typed "!" wide.composer.draft).length ≤ 4096 := by
  intro host blank wide
  have hblank : ∀ c ∈ blank.composer.draft.toList, Text.isBlank c :=
    List.all_eq_true.mp (by decide)
  have hmessage : ∃ c ∈ wide.composer.draft.toList, ¬ Text.isBlank c :=
    ⟨'4', by decide, by decide⟩
  have hlength : wide.composer.draft.length ≤ 4096 := by decide
  have hcore : Text.trim wide.composer.draft.toList = "größer als 4".toList := by decide
  obtain ⟨_, hsubmit, htyped⟩ := submit_exact wide
  obtain ⟨core, cut, htrim, -, hwide, -, -, hwhole⟩ := hsubmit hmessage
  rw [hwhole hlength, htrim.eq_trim, hcore, String.ofList_toList] at hwide
  exact ⟨⟨hblank, (submit_exact blank).1 hblank⟩, ⟨hmessage, hwide⟩, hlength, htyped hlength "!"⟩

end SeverityLog
