import Mathlib.Data.List.Forall2
import SeverityLog.Config

/-!
# Which texts are names

A name is read from the lower case of a text, by the rules for all of Unicode. Some letters outside
ASCII have a small letter of ASCII as their lower case, or as the first part of it. Still a name is
read from its spellings in small and capital letters of ASCII only: no name has a k, which is the
lower case of the Kelvin sign, and what follows a dotted capital I is in no name. A severity and a
sink may stand between white space, a level may not.
-/

namespace SeverityLog

namespace Text

/-- The same letter, small or as a capital of ASCII. -/
def SameLetter (c d : Char) : Prop := c = d ∨ (c.isUpper ∧ c.toNat + 32 = d.toNat)

def Denotes (name : String) (cs : List Char) : Prop :=
  ∃ lead word trail, cs = lead ++ word ++ trail ∧ (∀ c ∈ lead, isBlank c) ∧
    (∀ c ∈ trail, isBlank c) ∧ List.Forall₂ SameLetter word name.toList

/-- A small letter of ASCII that is the lower case of nothing but itself and its capital. -/
def IsPlainLetter (c : Char) : Prop := 0x61 ≤ c.toNat ∧ c.toNat ≤ 0x7A ∧ c.toNat ≠ 0x6B

instance (c : Char) : Decidable (IsPlainLetter c) :=
  inferInstanceAs (Decidable (0x61 ≤ c.toNat ∧ c.toNat ≤ 0x7A ∧ c.toNat ≠ 0x6B))

/-! ## One letter -/

theorem isUpper_iff {c : Char} : c.isUpper ↔ 0x41 ≤ c.toNat ∧ c.toNat ≤ 0x5A := by
  have hcode : c.isUpper = decide (65 ≤ c.val ∧ c.val ≤ 90) := rfl
  rw [hcode, decide_eq_true_iff, UInt32.le_iff_toNat_le, UInt32.le_iff_toNat_le]
  rfl

theorem toNat_ofNat {n : Nat} (h : n.isValidChar) : (Char.ofNat n).toNat = n := by
  rw [Char.ofNat, dif_pos h]
  rfl

theorem toNat_toLower (c : Char) :
    c.toLower.toNat = if 0x41 ≤ c.toNat ∧ c.toNat ≤ 0x5A then c.toNat + 32 else c.toNat := by
  have hcapital : (c.val ≥ 'A'.val ∧ c.val ≤ 'Z'.val) ↔ 0x41 ≤ c.toNat ∧ c.toNat ≤ 0x5A := by
    rw [ge_iff_le, UInt32.le_iff_toNat_le, UInt32.le_iff_toNat_le]
    rfl
  unfold Char.toLower
  by_cases h : c.val ≥ 'A'.val ∧ c.val ≤ 'Z'.val
  · obtain ⟨hfirst, hlast⟩ := hcapital.mp h
    rw [dif_pos h, if_pos ⟨hfirst, hlast⟩]
    change (c.val + ('a'.val - 'A'.val)).toNat = _
    rw [UInt32.toNat_add]
    change (c.val.toNat + 0x20) % 2 ^ 32 = c.val.toNat + 32
    have hsmall : c.val.toNat ≤ 0x5A := hlast
    omega
  · rw [dif_neg h, if_neg (mt hcapital.mpr h)]

theorem toLower_eq_iff {c d : Char} (hd : IsPlainLetter d) : c.toLower = d ↔ SameLetter c d := by
  obtain ⟨hfirst, hlast, -⟩ := hd
  rw [SameLetter, isUpper_iff, ← Char.toNat_inj, ← Char.toNat_inj, toNat_toLower]
  split <;> omega

theorem SameLetter.isLetter {c d : Char} (h : SameLetter c d) (hd : IsPlainLetter d) :
    (0x41 ≤ c.toNat ∧ c.toNat ≤ 0x5A) ∨ (0x61 ≤ c.toNat ∧ c.toNat ≤ 0x7A) := by
  rcases h with rfl | ⟨hcapital, -⟩
  · exact Or.inr ⟨hd.1, hd.2.1⟩
  · exact Or.inl (isUpper_iff.mp hcapital)

theorem lowerChar_of_lt {c : Char} (h : c.toNat < 0x80) : lowerChar c = [c.toLower] := if_pos h

/-- The small letters of the table are outside ASCII, except for the small k. -/
theorem small_of_mem_caseRuns : ∀ r ∈ caseRuns,
    (0x80 ≤ r.small ∧ (r.last - r.first + r.small < 0xD800 ∨
      (0xDFFF < r.small ∧ r.last - r.first + r.small < 0x110000))) ∨
    (r.first = r.last ∧ r.small = 0x6B) := by
  decide +kernel

theorem not_isPlainLetter_lower {r : CaseRun} {n : Nat} (hr : r ∈ caseRuns) (hn : r.contains n) :
    ¬ IsPlainLetter (Char.ofNat (r.lower n)) := by
  simp only [CaseRun.contains, Bool.and_eq_true, decide_eq_true_eq] at hn
  obtain ⟨⟨hfirst, hlast⟩, -⟩ := hn
  unfold CaseRun.lower IsPlainLetter
  rcases small_of_mem_caseRuns r hr with ⟨hsmall, hvalid⟩ | ⟨hone, hkelvin⟩
  · have hchar : (n - r.first + r.small).isValidChar := by
      unfold Nat.isValidChar
      omega
    rw [toNat_ofNat hchar]
    omega
  · have hk : n - r.first + r.small = 0x6B := by omega
    rw [hk]
    decide

/-- A character outside ASCII does not become plain letters only. -/
theorem exists_not_isPlainLetter {c : Char} (h : ¬ c.toNat < 0x80) :
    ∃ d ∈ lowerChar c, ¬ IsPlainLetter d := by
  unfold lowerChar
  rw [if_neg h]
  by_cases hdotted : c.toNat == 0x0130
  · rw [if_pos hdotted]
    exact ⟨Char.ofNat 0x0307, by simp, by decide⟩
  · rw [if_neg hdotted]
    cases hrun : caseRuns.find? (·.contains c.toNat) with
    | none =>
      refine ⟨c, List.mem_singleton_self c, ?_⟩
      unfold IsPlainLetter
      omega
    | some r =>
      have hmem := List.mem_of_find?_eq_some hrun
      have hcontains := List.find?_some hrun
      exact ⟨_, List.mem_singleton_self _, not_isPlainLetter_lower hmem hcontains⟩

/-- The Kelvin sign. -/
example : lowerChar (Char.ofNat 0x212A) = ['k'] := by decide

/-! ## A whole text -/

/-- Lower-casing a text: each character by itself, except that a capital sigma has a small letter of
its own at the end of a word. Where words end is left open. -/
inductive Lowered : List Char → List Char → Prop where
  | nil : Lowered [] []
  | char (c : Char) {cs ds : List Char} (h : Lowered cs ds) : Lowered (c :: cs) (lowerChar c ++ ds)
  | finalSigma {cs ds : List Char} (h : Lowered cs ds) : Lowered ('Σ' :: cs) ('ς' :: ds)

theorem lowered_lower (cs : List Char) : Lowered cs (lower cs) := by
  induction cs with
  | nil => exact .nil
  | cons c cs ih => exact .char c ih

section Name

variable {cs ds name : List Char} (hname : ∀ d ∈ name, IsPlainLetter d)

include hname

theorem isLetter_of_mem {c : Char} (h : List.Forall₂ SameLetter cs name) (hc : c ∈ cs) :
    (0x41 ≤ c.toNat ∧ c.toNat ≤ 0x5A) ∨ (0x61 ≤ c.toNat ∧ c.toNat ≤ 0x7A) := by
  induction h with
  | nil => cases hc
  | cons hsame _ ih =>
    obtain ⟨hd, hrest⟩ := List.forall_mem_cons.mp hname
    rcases List.mem_cons.mp hc with rfl | hc
    · exact hsame.isLetter hd
    · exact ih hrest hc

theorem not_forall₂_cons {c : Char} (hc : ¬ c.toNat < 0x80) :
    ¬ List.Forall₂ SameLetter (c :: cs) name := by
  intro h
  have hletter := isLetter_of_mem hname h List.mem_cons_self
  omega

/-- A text has a name of plain letters as its lower case just when it spells the name in ASCII. It
makes no difference where words end. -/
theorem Lowered.eq_iff (h : Lowered cs ds) : ds = name ↔ List.Forall₂ SameLetter cs name := by
  induction h generalizing name with
  | nil => exact ⟨fun heq => heq ▸ .nil, fun hsame => by cases hsame; rfl⟩
  | @char c cs ds _ ih =>
    by_cases hascii : c.toNat < 0x80
    · rw [lowerChar_of_lt hascii]
      cases name with
      | nil => exact ⟨nofun, nofun⟩
      | cons d name =>
        obtain ⟨hd, hrest⟩ := List.forall_mem_cons.mp hname
        rw [List.singleton_append, List.cons_eq_cons, List.forall₂_cons, toLower_eq_iff hd,
          ih hrest]
    · refine iff_of_false ?_ (not_forall₂_cons hname hascii)
      rintro rfl
      obtain ⟨d, hmem, hforeign⟩ := exists_not_isPlainLetter hascii
      exact hforeign (hname d (List.mem_append_left _ hmem))
  | finalSigma _ _ =>
    refine iff_of_false ?_ (not_forall₂_cons hname (by decide))
    rintro rfl
    exact absurd (hname 'ς' List.mem_cons_self) (by decide)

theorem not_isBlank_of_mem {c : Char} (h : List.Forall₂ SameLetter cs name) (hc : c ∈ cs) :
    ¬ isBlank c := by
  have hletter := isLetter_of_mem hname h hc
  simp only [isBlank, Bool.or_eq_true, Bool.and_eq_true, decide_eq_true_eq, beq_iff_eq]
  omega

end Name

theorem forall₂_trim_iff {name : String} (hname : ∀ d ∈ name.toList, IsPlainLetter d)
    {cs : List Char} :
    List.Forall₂ SameLetter (trim cs) name.toList ↔ Denotes name cs := by
  constructor
  · intro h
    obtain ⟨lead, trail, hsplit, hlead, htrail⟩ := (isTrimOf_trim cs).split
    exact ⟨lead, trim cs, trail, hsplit, hlead, htrail, h⟩
  · rintro ⟨lead, word, trail, hsplit, hlead, htrail, hword⟩
    -- A word of letters is what trimming leaves of the text.
    have htrim : IsTrimOf word cs := by
      refine ⟨⟨lead, trail, hsplit, hlead, htrail⟩, fun c hc => ?_, fun c hc => ?_⟩
      · exact not_isBlank_of_mem hname hword (List.mem_of_head? hc)
      · exact not_isBlank_of_mem hname hword (List.mem_of_getLast? hc)
    exact htrim.eq_trim ▸ hword

/-- A name is written in ASCII, whatever white space stands around it. -/
theorem Denotes.lt_or_isBlank {name : String} (hname : ∀ d ∈ name.toList, IsPlainLetter d)
    {cs : List Char} (h : Denotes name cs) {c : Char} (hc : c ∈ cs) :
    c.toNat < 0x80 ∨ isBlank c := by
  obtain ⟨lead, word, trail, rfl, hlead, htrail, hword⟩ := h
  rcases List.mem_append.mp hc with hc | hc
  · rcases List.mem_append.mp hc with hc | hc
    · exact Or.inr (hlead c hc)
    · have hletter := isLetter_of_mem hname hword hc
      exact Or.inl (by omega)
  · exact Or.inr (htrail c hc)

theorem isSpelling_iff_exists {names : List String}
    (hnames : ∀ name ∈ names, ∀ d ∈ name.toList, IsPlainLetter d) {cs : List Char} :
    isSpelling names cs ↔ ∃ name ∈ names, List.Forall₂ SameLetter cs name.toList := by
  unfold isSpelling
  rw [List.any_eq_true]
  refine exists_congr fun name => and_congr_right fun hmem => ?_
  rw [beq_iff_eq]
  exact (lowered_lower cs).eq_iff (hnames name hmem)

theorem isSpelling_trim_iff {names : List String}
    (hnames : ∀ name ∈ names, ∀ d ∈ name.toList, IsPlainLetter d) {cs : List Char} :
    isSpelling names (trim cs) ↔ ∃ name ∈ names, Denotes name cs := by
  rw [isSpelling_iff_exists hnames]
  exact exists_congr fun name => and_congr_right fun hmem => forall₂_trim_iff (hnames name hmem)

end Text

/-! ## The names of severities and sinks -/

theorem find?_eq_some_iff_of_unique {α : Type} {p : α → Bool} {l : List α}
    (hunique : ∀ a b, p a → p b → a = b) {a : α} (ha : a ∈ l) : l.find? p = some a ↔ p a := by
  constructor
  · exact List.find?_some
  · intro hp
    cases hfound : l.find? p with
    | none => exact absurd hp (List.find?_eq_none.mp hfound a ha)
    | some b => rw [hunique b a (List.find?_some hfound) hp]

namespace Severity

theorem eq_of_mem_names {s s' : Severity} {name : String} (h : name ∈ s.names)
    (h' : name ∈ s'.names) : s = s' := by
  cases s <;> cases s' <;> simp_all [names]

theorem isPlainLetter_of_mem_names (s : Severity) :
    ∀ name ∈ s.names, ∀ d ∈ name.toList, Text.IsPlainLetter d := by
  cases s <;> simp [names, Text.IsPlainLetter]

theorem ofName?_eq_some_iff {text : String} {s : Severity} :
    ofName? text = some s ↔ ∃ name ∈ s.names, Text.Denotes name text.toList := by
  have hunique : ∀ s s' : Severity, Text.isSpelling s.names (Text.trim text.toList) →
      Text.isSpelling s'.names (Text.trim text.toList) → s = s' := by
    intro s s' h h'
    exact eq_of_mem_names (Text.isSpelling_iff.mp h) (Text.isSpelling_iff.mp h')
  rw [← Text.isSpelling_trim_iff s.isPlainLetter_of_mem_names]
  exact find?_eq_some_iff_of_unique hunique (mem_all s)

end Severity

namespace SinkKind

theorem isPlainLetter_of_mem_name (k : SinkKind) :
    ∀ name ∈ [k.name], ∀ d ∈ name.toList, Text.IsPlainLetter d := by
  cases k <;> simp [name, Text.IsPlainLetter]

theorem ofName?_eq_some_iff {text : String} {k : SinkKind} :
    ofName? text = some k ↔ Text.Denotes k.name text.toList := by
  have hunique : ∀ k k' : SinkKind, Text.isSpelling [k.name] (Text.trim text.toList) →
      Text.isSpelling [k'.name] (Text.trim text.toList) → k = k' := by
    intro k k' h h'
    have hname : k.name = k'.name :=
      (List.mem_singleton.mp (Text.isSpelling_iff.mp h)).symm.trans
        (List.mem_singleton.mp (Text.isSpelling_iff.mp h'))
    cases k <;> cases k' <;> simp_all [name]
  calc ofName? text = some k ↔ Text.isSpelling [k.name] (Text.trim text.toList) :=
        find?_eq_some_iff_of_unique hunique (mem_all k)
    _ ↔ ∃ name ∈ [k.name], Text.Denotes name text.toList :=
        Text.isSpelling_trim_iff k.isPlainLetter_of_mem_name
    _ ↔ Text.Denotes k.name text.toList := by simp only [List.mem_singleton, exists_eq_left]

end SinkKind

/-! ## What is read -/

/-- What comes of a text that is read by a table of names. A text that is refused is not changed in
the failure. -/
structure ReadBy {α : Type} (table : List (String × α)) (unknown : Failure) (text : String)
    (result : Except Failure α) : Prop where
  accepted : ∀ a, result = .ok a ↔ ∃ name, (name, a) ∈ table ∧ Text.Denotes name text.toList
  refused : ∀ failure, result = .error failure ↔
    failure = unknown ∧ ∀ entry ∈ table, ¬ Text.Denotes entry.1 text.toList
  foreign : ∀ c ∈ text.toList, ¬ c.toNat < 0x80 → ¬ Text.isBlank c → result = .error unknown

theorem readBy_elim {α : Type} {table : List (String × α)} {unknown : Failure} {text : String}
    {found : Option α} (htable : ∀ entry ∈ table, ∀ d ∈ entry.1.toList, Text.IsPlainLetter d)
    (hfound : ∀ a, found = some a ↔ ∃ name, (name, a) ∈ table ∧ Text.Denotes name text.toList) :
    ReadBy table unknown text (found.elim (.error unknown) .ok) := by
  have hnone : found = none ↔ ∀ entry ∈ table, ¬ Text.Denotes entry.1 text.toList := by
    rw [Option.eq_none_iff_forall_ne_some]
    constructor
    · intro hne entry hmem hdenotes
      exact hne entry.2 ((hfound entry.2).mpr ⟨entry.1, hmem, hdenotes⟩)
    · intro hnot a hsome
      obtain ⟨name, hmem, hdenotes⟩ := (hfound a).mp hsome
      exact hnot _ hmem hdenotes
  have hrefused : ∀ failure, found.elim (.error unknown) .ok = Except.error failure ↔
      failure = unknown ∧ ∀ entry ∈ table, ¬ Text.Denotes entry.1 text.toList := by
    intro failure
    rw [← hnone]
    cases found <;> simp [eq_comm]
  refine ⟨fun a => ?_, hrefused, fun c hc hascii hblank => (hrefused unknown).mpr ⟨rfl, ?_⟩⟩
  · rw [← hfound a]
    cases found <;> simp
  · intro entry hmem hdenotes
    rcases hdenotes.lt_or_isBlank (htable entry hmem) hc with hlt | hwhite
    · exact hascii hlt
    · exact hblank hwhite

namespace RawConfig

theorem mem_check_snd_iff {α β : Type} {setting : Setting} {default : β} {read : α → Option β}
    {written : α → String} {raw : Option α} {failure : ConfigFailure} :
    failure ∈ (check setting default read written raw).2 ↔
      ∃ value, raw = some value ∧ read value = none ∧
        failure = .outOfRange setting (written value) := by
  cases raw with
  | none => simp [check]
  | some value => cases h : read value <;> simp [check, h]

theorem logLevel_validate_iff {raw : RawConfig} {text : String} :
    raw.validate.1.logLevel = some text ↔
      raw.level = some text ∧ Text.isSpelling Setting.levelNames text.toList := by
  rw [validate_fst, Option.bind_eq_some_iff]
  simp only [level?_eq_some_iff, ← Text.isSpelling_iff]
  constructor
  · rintro ⟨name, hlevel, rfl, hspelling⟩
    exact ⟨hlevel, hspelling⟩
  · rintro ⟨hlevel, hspelling⟩
    exact ⟨text, hlevel, rfl, hspelling⟩

/-- The other settings complain under names of their own. -/
theorem complaint_mem_validate_iff {raw : RawConfig} {text : String} :
    .outOfRange .level text ∈ raw.validate.2 ↔
      raw.level = some text ∧ ¬ Text.isSpelling Setting.levelNames text.toList := by
  have hverbosity : Setting.level ≠ .verbosity := by decide
  have hsink : Setting.level ≠ .sink := by decide
  have hrefused : ∀ name, (level? name).map some = none ↔
      ¬ Text.isSpelling Setting.levelNames name.toList := by
    intro name
    by_cases hspelling : Text.isSpelling Setting.levelNames name.toList <;>
      simp [level?, hspelling]
  rw [validate]
  simp only [List.mem_append, mem_check_snd_iff, ConfigFailure.outOfRange.injEq, hverbosity, hsink,
    false_and, and_false, exists_false, false_or, hrefused, id, true_and]
  constructor
  · rintro ⟨name, hlevel, hspelling, rfl⟩
    exact ⟨hlevel, hspelling⟩
  · rintro ⟨hlevel, hspelling⟩
    exact ⟨text, hlevel, hspelling, rfl⟩

end RawConfig

/-- A severity and a sink are read from their names in small and capital letters of ASCII, between
white space. Any other text is refused and quoted as it is; a text with a character outside ASCII
that is no white space is always refused. A level in a configuration is accepted just when it is
such a name with nothing around it, and complained about otherwise. -/
theorem names_read_exactly (text : String) :
    let levels := ["error", "warn", "info", "debug", "trace"]
    let isLevel := ∃ name ∈ levels, List.Forall₂ Text.SameLetter text.toList name.toList
    ReadBy [("error", .error), ("warning", .warning), ("warn", .warning), ("info", .info),
      ("debug", .debug)] (.unknownSeverity text) text (Severity.parse text) ∧
    ReadBy [("console", .console), ("gui", .gui)] (.unknownSink text) text (SinkKind.parse text) ∧
    ∀ raw : RawConfig,
      (raw.validate.1.logLevel = some text ↔ raw.level = some text ∧ isLevel) ∧
      (.outOfRange ⟨"[logging] level", "error, warn, info, debug, trace"⟩ text ∈ raw.validate.2 ↔
        raw.level = some text ∧ ¬ isLevel) := by
  intro levels isLevel
  have hlevel : Text.isSpelling Setting.levelNames text.toList ↔ isLevel := by
    apply Text.isSpelling_iff_exists
    simp [Setting.levelNames, Text.IsPlainLetter]
  refine ⟨readBy_elim ?_ fun s => ?_, readBy_elim ?_ fun k => ?_, fun raw => ⟨?_, ?_⟩⟩
  · simp [Text.IsPlainLetter]
  · rw [Severity.ofName?_eq_some_iff]
    refine exists_congr fun name => and_congr_left fun _ => ?_
    cases s <;> simp [Severity.names]
  · simp [Text.IsPlainLetter]
  · rw [SinkKind.ofName?_eq_some_iff]
    cases k <;> simp [SinkKind.name]
  · rw [← hlevel]
    exact RawConfig.logLevel_validate_iff
  · rw [← hlevel]
    exact RawConfig.complaint_mem_validate_iff

end SeverityLog
