import Mathlib.Data.List.TakeWhile
import SeverityLog.CommandLine.Run

/-!
# Filters that cannot break

A filter breaks only where a part of it is cut into pieces, and a part is cut at an equals sign or
at a bracket. The names of levels have neither, so of all texts that may become the filter only the
environment's can break it.
-/

namespace SeverityLog

namespace Diagnostic

/-- A text of one part, which is not cut. -/
def Filter.IsPlain (text : String) : Prop := ∀ c ∈ text.toList, c ≠ ',' ∧ c ≠ '=' ∧ c ≠ '['

instance (text : String) : Decidable (Filter.IsPlain text) :=
  List.decidableBAll _ text.toList

namespace Filter

theorem eq_of_mem_words {text word : String} (h : ',' ∉ text.toList) (hw : word ∈ words text) :
    word = text := by
  rw [words, List.splitOn_eq_singleton h, List.map_singleton, String.ofList_toList] at hw
  exact List.mem_singleton.1 (List.mem_filter.1 hw).1

/-- The target of a plain part reaches to the end, and no piece is cut out. -/
theorem splitIn?_eq_none {word : String} (h : IsPlain word) : splitIn? word = none := by
  have hchars : ∀ p ∈ Text.locate 0 (Text.trim word.toList), p.2 ≠ '=' ∧ p.2 ≠ '[' :=
    fun p hp => (h p.2 (Text.mem_of_mem_trim (Text.snd_mem_of_mem_locate hp))).2
  rw [splitIn?, Directive.read]
  cases hword : Text.locate 0 (Text.trim word.toList) with
  | nil => rfl
  | cons p s =>
    rw [hword] at hchars
    obtain ⟨n, c⟩ := p
    have hbracket : c ≠ '[' := (hchars _ List.mem_cons_self).2
    have htarget : ∀ p ∈ s, p.2 != '=' && p.2 != '[' := by
      intro p hp
      obtain ⟨heq, hopen⟩ := hchars p (List.mem_cons_of_mem _ hp)
      simp [heq, hopen]
    simp only [if_neg hbracket]
    rw [List.dropWhile_eq_nil_iff.2 htarget]
    by_cases hstart : Directive.startsTarget c
    · cases hrank : Directive.rank? word <;> simp [hstart]
    · simp [hstart]

theorem broken?_eq_none {text : String} (h : IsPlain text) : broken? text = none := by
  refine List.findSome?_eq_none_iff.2 fun word hw => ?_
  have hcomma : ',' ∉ text.toList := fun hc => (h ',' hc).1 rfl
  rw [eq_of_mem_words hcomma hw]
  exact splitIn?_eq_none h

theorem isPlain_of_level? {name level : String} (h : RawConfig.level? name = some level) :
    IsPlain level := by
  obtain ⟨hname, rfl⟩ : Text.isSpelling Setting.levelNames name.toList ∧ name = level := by
    simpa [RawConfig.level?] using h
  have hcomma : ',' ∉ name.toList := Text.not_mem_of_isSpelling hname (by decide) (by decide)
  have hequals : '=' ∉ name.toList := Text.not_mem_of_isSpelling hname (by decide) (by decide)
  have hbracket : '[' ∉ name.toList := Text.not_mem_of_isSpelling hname (by decide) (by decide)
  intro c hc
  refine ⟨?_, ?_, ?_⟩ <;> rintro rfl <;> contradiction

end Filter

end Diagnostic

namespace CommandLine

open Diagnostic

theorem level?_of_logLevel {refusal path : String} {found : Lookup} {level : String}
    (h : (Config.load refusal path found).config.logLevel = some level) :
    ∃ name, RawConfig.level? name = some level := by
  rw [Config.config_load] at h
  obtain ⟨raw, -, hlevel⟩ := Option.bind_eq_some_iff.1 h
  obtain ⟨name, -, hname⟩ := Option.bind_eq_some_iff.1 hlevel
  exact ⟨name, hname⟩

/-- Neither the flag nor any configuration breaks the filter. -/
theorem broken?_filterText (refusal : String) (i : Invocation) {e : Environment} (path : String)
    (found : Lookup) (h : ∀ text, e.logFilter = some text → Filter.broken? text = none) :
    Filter.broken? (filterText i e (Config.load refusal path found).config) = none := by
  rw [filterText]
  cases hfilter : e.logFilter with
  | some text => exact h text hfilter
  | none =>
    by_cases hdebug : i.debug
    · simpa only [if_pos hdebug] using Filter.broken?_eq_none (by decide)
    · simp only [if_neg hdebug]
      cases hlevel : (Config.load refusal path found).config.logLevel with
      | none => exact Filter.broken?_eq_none (by decide)
      | some level =>
        obtain ⟨name, hname⟩ := level?_of_logLevel hlevel
        exact Filter.broken?_eq_none (Filter.isPlain_of_level? hname)

end CommandLine

end SeverityLog
