import SeverityLog.Proofs.Submission

/-!
# A message that is submitted again

A text is in normal form when it has no white space at its ends and is not too long. Exactly these
texts are their own messages. A draft is cut after it is trimmed, and where the last character that
is kept is white space, its message is not in normal form: submitted again, it loses the white space
at its end. The second message is in normal form always.
-/

namespace SeverityLog

namespace Composer

/-- A text with no white space at its ends, and not longer than the longest message. -/
structure IsNormal (text : String) : Prop where
  first : ∀ c, text.toList.head? = some c → ¬ Text.isBlank c
  last : ∀ c, text.toList.getLast? = some c → ¬ Text.isBlank c
  length_le : text.length ≤ 4096

variable {draft text : String}

theorem toList_message (draft : String) :
    (message draft).toList = (Text.trim draft.toList).take longestMessage :=
  String.toList_ofList

theorem length_message_le (draft : String) : (message draft).length ≤ longestMessage := by
  rw [← String.length_toList, toList_message]
  exact List.length_take_le _ _

theorem not_isBlank_of_head?_message {c : Char} (h : (message draft).toList.head? = some c) :
    ¬ Text.isBlank c := by
  rw [toList_message, List.head?_take, if_neg (by decide)] at h
  exact (Text.isTrimOf_trim draft.toList).first c h

theorem exists_visible_message (h : ∃ c ∈ draft.toList, ¬ Text.isBlank c) :
    ∃ c ∈ (message draft).toList, ¬ Text.isBlank c := by
  have hcore : Text.trim draft.toList ≠ [] := by
    obtain ⟨c, hc, hvisible⟩ := h
    exact fun hnil => hvisible (Text.trim_eq_nil_iff.mp hnil c hc)
  have hmessage : (message draft).toList ≠ [] := by
    rw [toList_message]
    exact fun hnil => (List.take_eq_nil_iff.mp hnil).elim (by decide) hcore
  have hhead := List.head?_eq_some_head hmessage
  exact ⟨_, List.head_mem hmessage, not_isBlank_of_head?_message hhead⟩

theorem isTrimOf_message (h : (Text.trim draft.toList).length ≤ longestMessage) :
    Text.IsTrimOf (message draft).toList draft.toList := by
  rw [toList_message, List.take_of_length_le h]
  exact Text.isTrimOf_trim draft.toList

theorem isNormal_message_of_length_le (h : (Text.trim draft.toList).length ≤ longestMessage) :
    IsNormal (message draft) where
  first := (isTrimOf_message h).first
  last := (isTrimOf_message h).last
  length_le := length_message_le draft

/-- Only the last character that the cut keeps can be white space. -/
theorem isNormal_message_iff :
    IsNormal (message draft) ↔
      ∀ c, (Text.trim draft.toList)[4095]? = some c → ¬ Text.isBlank c := by
  have hlast (h : 4096 ≤ (Text.trim draft.toList).length) :
      (message draft).toList.getLast? = (Text.trim draft.toList)[4095]? := by
    rw [toList_message, List.getLast?_take, if_neg (by decide),
      List.getElem?_eq_getElem (show longestMessage - 1 < _ from h), Option.some_or]
    exact (List.getElem?_eq_getElem _).symm
  constructor
  · intro hnormal c hc
    have hlength : 4096 ≤ (Text.trim draft.toList).length := (List.getElem?_eq_some_iff.mp hc).1
    exact hnormal.last c ((hlast hlength).trans hc)
  · intro hkept
    by_cases hlength : 4096 ≤ (Text.trim draft.toList).length
    · exact ⟨fun c => not_isBlank_of_head?_message,
        fun c hc => hkept c ((hlast hlength).symm.trans hc), length_message_le draft⟩
    · exact isNormal_message_of_length_le (Nat.le_of_lt (Nat.lt_of_not_le hlength))

/-- The texts that submission leaves as they are. -/
theorem message_eq_self_iff : message text = text ↔ IsNormal text := by
  have htrim := Text.isTrimOf_trim text.toList
  constructor
  · intro h
    have htaken : (Text.trim text.toList).take longestMessage = text.toList := by
      rw [← toList_message, h]
    -- The text is as long as its trim, so neither trimming nor cutting takes anything away.
    have hbeginning : text.toList <+: Text.trim text.toList := by
      conv_lhs => rw [← htaken]
      exact List.take_prefix _ _
    have hself : text.toList = Text.trim text.toList :=
      hbeginning.eq_of_length_le htrim.length_le
    rw [← hself] at htrim
    exact ⟨htrim.first, htrim.last, h ▸ length_message_le text⟩
  · intro hnormal
    have hself : Text.IsTrimOf text.toList text.toList :=
      ⟨⟨[], [], by simp, nofun, nofun⟩, hnormal.first, hnormal.last⟩
    have hlength : text.toList.length ≤ longestMessage := hnormal.length_le
    rw [message, ← hself.eq_trim, List.take_of_length_le hlength, String.ofList_toList]

end Composer

namespace Host

def resubmit (text : String) (h : Host) : Host :=
  ({ h with composer := { h.composer with draft := text } }).submit

theorem submit_of_not_blank {h : Host} (hdraft : ∃ c ∈ h.composer.draft.toList, ¬ Text.isBlank c) :
    h.submit = { h with composer := { h.composer with
      pending := some (h.composer.severity, Composer.message h.composer.draft)
      draft := "" } } := by
  rw [submit, Composer.submit_of_not_blank hdraft]

theorem pending_resubmit {text : String} (h : Host) (htext : ∃ c ∈ text.toList, ¬ Text.isBlank c) :
    (h.resubmit text).composer.pending = some (h.composer.severity, Composer.message text) := by
  let drafted : Host := { h with composer := { h.composer with draft := text } }
  have hdrafted : drafted.submit = _ := submit_of_not_blank htext
  rw [resubmit, hdrafted]

end Host

open Composer in
/-- The message of a draft is not too long and starts with no white space. It ends with none unless
the trimmed draft has white space in the 4096th place; a draft that is not too long has no such
place. Submitted again, a message in normal form stays as it is, and any other loses the white space
at its end. What is waiting then is in normal form. -/
theorem resubmitted_unchanged_iff (h : Host)
    (hdraft : ∃ c ∈ h.composer.draft.toList, ¬ Text.isBlank c) :
    ∃ core queued settled,
      Text.IsTrimOf core h.composer.draft.toList ∧
      h.submit.composer.pending = some (h.composer.severity, queued) ∧
      (h.submit.resubmit queued).composer.pending = some (h.composer.severity, settled) ∧
      (queued.length ≤ 4096 ∧ ∀ c, queued.toList.head? = some c → ¬ Text.isBlank c) ∧
      (IsNormal queued ↔ ∀ c, core[4095]? = some c → ¬ Text.isBlank c) ∧
      (h.composer.draft.length ≤ 4096 → IsNormal queued) ∧
      (settled = queued ↔ IsNormal queued) ∧
      IsNormal settled ∧ Text.IsTrimOf settled.toList queued.toList := by
  have htrim := Text.isTrimOf_trim h.composer.draft.toList
  have hlength := length_message_le h.composer.draft
  have hfits : (Text.trim (message h.composer.draft).toList).length ≤ longestMessage :=
    Nat.le_trans (Text.isTrimOf_trim _).length_le hlength
  refine ⟨Text.trim h.composer.draft.toList, message h.composer.draft,
    message (message h.composer.draft), htrim, ?_, ?_,
    ⟨hlength, fun c hc => not_isBlank_of_head?_message hc⟩, isNormal_message_iff, ?_,
    message_eq_self_iff, isNormal_message_of_length_le hfits, isTrimOf_message hfits⟩
  · rw [Host.submit_of_not_blank hdraft]
  · rw [Host.pending_resubmit _ (exists_visible_message hdraft), Host.submit_of_not_blank hdraft]
  · intro hshort
    exact isNormal_message_of_length_le (Nat.le_trans htrim.length_le hshort)

open Composer in
/-- A message between white space is in normal form once it is submitted. -/
theorem resubmitted_unchanged_between_blanks :
    let h : Host := { composer := { draft := "\u3000 lane 4 missing \n", severity := .warning } }
    (∃ c ∈ h.composer.draft.toList, ¬ Text.isBlank c) ∧
      h.submit.composer.pending = some (.warning, "lane 4 missing") ∧
      (h.submit.resubmit "lane 4 missing").composer.pending =
        some (.warning, "lane 4 missing") := by
  intro h
  have hdraft : ∃ c ∈ h.composer.draft.toList, ¬ Text.isBlank c := ⟨'4', by decide, by decide⟩
  obtain ⟨core, queued, settled, -, hqueued, hsettled, -, -, hshort, hstable, -⟩ :=
    resubmitted_unchanged_iff h hdraft
  have hmessage : h.submit.composer.pending = some (.warning, "lane 4 missing") := by decide
  obtain rfl : queued = "lane 4 missing" := by
    rw [hmessage] at hqueued
    exact (congrArg Prod.snd (Option.some.inj hqueued)).symm
  rw [hstable.mpr (hshort (by decide))] at hsettled
  exact ⟨hdraft, hmessage, hsettled⟩

namespace Composer

/-- The cut keeps a blank in front of the last character of a draft that is one character too
long. -/
theorem toList_message_of_blank_at_cut {xs : List Char} {first last : Char}
    (hhead : xs.head? = some first) (hfirst : ¬ Text.isBlank first) (hlast : ¬ Text.isBlank last)
    (hlength : xs.length = 4095) :
    (message (String.ofList (xs ++ [' ', last]))).toList = xs ++ [' '] := by
  have hself : Text.IsTrimOf (xs ++ [' ', last]) (xs ++ [' ', last]) := by
    refine ⟨⟨[], [], by simp, nofun, nofun⟩, fun c hc => ?_, fun c hc => ?_⟩
    · rw [List.head?_append, hhead] at hc
      exact Option.some.inj hc ▸ hfirst
    · rw [List.getLast?_append] at hc
      exact Option.some.inj hc ▸ hlast
  rw [toList_message, String.toList_ofList, ← hself.eq_trim, List.take_append,
    List.take_of_length_le (by rw [hlength]; decide), hlength]
  rfl

end Composer

open Composer in
/-- A draft of 4097 characters with a blank in the 4096th place. Its message ends with the blank,
and does not stay as it is when it is submitted again. -/
theorem message_ends_with_blank :
    let draft := String.ofList (List.replicate 4095 'a' ++ [' ', 'b'])
    let h : Host := { composer := { draft } }
    ∃ queued, h.submit.composer.pending = some (.info, queued) ∧
      queued.toList.getLast? = some ' ' ∧
      (h.submit.resubmit queued).composer.pending ≠ some (.info, queued) := by
  intro draft h
  have hvisible : ∃ c ∈ h.composer.draft.toList, ¬ Text.isBlank c := by
    refine ⟨'b', ?_, by decide⟩
    rw [show h.composer.draft.toList = _ from String.toList_ofList]
    exact List.mem_append_right _ (by decide)
  have hqueued : (message draft).toList = List.replicate 4095 'a' ++ [' '] :=
    toList_message_of_blank_at_cut (List.head?_replicate.trans (if_neg (by decide))) (by decide)
      (by decide) List.length_replicate
  have hlast : (message draft).toList.getLast? = some ' ' := by
    rw [hqueued, List.getLast?_concat]
  have hsubmit : h.submit = _ := Host.submit_of_not_blank hvisible
  refine ⟨message draft, by rw [hsubmit], hlast, fun hsame => ?_⟩
  have hagain := Host.pending_resubmit h.submit (exists_visible_message hvisible)
  rw [hsame] at hagain
  have hfixed := (Prod.mk.inj (Option.some.inj hagain)).2
  exact (message_eq_self_iff.mp hfixed.symm).last ' ' hlast (by decide)

end SeverityLog
