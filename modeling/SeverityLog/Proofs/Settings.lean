import SeverityLog.Config.Load

/-!
# The settings of a document

Two sections of a document hold three settings, each by its name in a table or by its place in an
array. A missing section and a date hold none. A document is refused when one of the sections is a
text, a number or a truth value, or when a setting has another type than its own. Otherwise it is
read, and its settings are the values that it holds.
-/

namespace SeverityLog

namespace Toml

/-- What stands for a setting in a section. -/
inductive Holds (name : String) (place : Nat) : Option Value → Value → Prop where
  | named {origin : Origin} {entries : Entries} {v : Value} (h : entries.lookup name = some v) :
    Holds name place (some (.table origin entries)) v
  | placed {items : List Value} {v : Value} (h : items[place]? = some v) :
    Holds name place (some (.array items)) v
  /-- The tables of a doubly bracketed header are placed like the items of an array. -/
  | table {elements : List Entries} {entries : Entries} (h : elements[place]? = some entries) :
    Holds name place (some (.tables elements)) (.table .header entries)

inductive IsScalar : Option Value → Prop where
  | string (s : String) : IsScalar (some (.string s))
  | integer (n : Int) : IsScalar (some (.integer n))
  | float (text : String) : IsScalar (some (.float text))
  | boolean (b : Bool) : IsScalar (some (.boolean b))

namespace Entries

inductive WrongType (root : Entries) : Prop where
  | logger (h : IsScalar (root.lookup "logger"))
  | verbosity {v : Value} (h : Holds "verbosity" 0 (root.lookup "logger") v)
    (hv : ∀ n, v ≠ .integer n)
  | sink {v : Value} (h : Holds "sink" 1 (root.lookup "logger") v) (hv : ∀ s, v ≠ .string s)
  | logging (h : IsScalar (root.lookup "logging"))
  | level {v : Value} (h : Holds "level" 0 (root.lookup "logging") v) (hv : ∀ s, v ≠ .string s)

/-- The settings are what the document holds, and are missing where it holds nothing. -/
structure HasSettings (root : Entries) (raw : RawConfig) : Prop where
  verbosity : ∀ n, raw.verbosity = some n ↔
    Holds "verbosity" 0 (root.lookup "logger") (.integer n)
  sink : ∀ s, raw.sink = some s ↔ Holds "sink" 1 (root.lookup "logger") (.string s)
  level : ∀ s, raw.level = some s ↔ Holds "level" 0 (root.lookup "logging") (.string s)

/-- A document has its settings only once. -/
theorem HasSettings.unique {root : Entries} {raw raw' : RawConfig} (h : root.HasSettings raw)
    (h' : root.HasSettings raw') : raw = raw' := by
  have hverbosity : raw.verbosity = raw'.verbosity :=
    Option.ext fun n => (h.verbosity n).trans (h'.verbosity n).symm
  have hsink : raw.sink = raw'.sink := Option.ext fun s => (h.sink s).trans (h'.sink s).symm
  have hlevel : raw.level = raw'.level := Option.ext fun s => (h.level s).trans (h'.level s).symm
  cases raw
  cases raw'
  simp only at hverbosity hsink hlevel
  rw [hverbosity, hsink, hlevel]

end Entries

end Toml

namespace RawConfig

open Toml

section Setting

variable {names : List String} {values : Option Value} {settings : List (Option Value)}

theorem sectionValues_eq_none_iff : sectionValues names values = none ↔ IsScalar values := by
  constructor
  · intro h
    match values, h with
    | some (.string s), _ => exact .string s
    | some (.integer n), _ => exact .integer n
    | some (.float text), _ => exact .float text
    | some (.boolean b), _ => exact .boolean b
  · rintro ⟨⟩ <;> rfl

variable (hsettings : sectionValues names values = some settings) {name : String} {place : Nat}
  (hname : names[place]? = some name)

include hsettings hname

/-- A section gives for a setting what it holds. -/
theorem getElem?_eq_some_iff_holds {v : Value} :
    settings[place]?.join = some v ↔ Holds name place values v := by
  obtain ⟨hlt, -⟩ := List.getElem?_eq_some_iff.mp hname
  match values, hsettings with
  | none, rfl | some (.dateTime _), rfl =>
    simp only [List.getElem?_map, hname, Option.map_some, Option.join_some]
    exact ⟨nofun, nofun⟩
  | some (.table _ entries), rfl =>
    simp only [List.getElem?_map, hname, Option.map_some, Option.join_some]
    exact ⟨.named, fun h => by cases h; assumption⟩
  | some (.array items), rfl =>
    simp only [List.getElem?_map, List.getElem?_range hlt, Option.map_some, Option.join_some]
    exact ⟨.placed, fun h => by cases h; assumption⟩
  | some (.tables elements), rfl =>
    simp only [List.getElem?_map, List.getElem?_range hlt, Option.map_some, Option.join_some,
      Option.map_eq_some_iff]
    constructor
    · rintro ⟨entries, hentries, rfl⟩
      exact .table hentries
    · rintro ⟨⟩
      exact ⟨_, ‹_›, rfl⟩

variable {α : Type} {read : Value → Option α} {write : α → Value}
  (hread : ∀ v a, read v = some a ↔ v = write a)

include hread

theorem typed_eq_none_iff :
    typed read settings[place]?.join = none ↔
      ∃ v, Holds name place values v ∧ ∀ a, v ≠ write a := by
  simp only [← getElem?_eq_some_iff_holds hsettings hname]
  cases settings[place]?.join with
  | none => exact iff_of_false nofun (by rintro ⟨v, ⟨⟩, -⟩)
  | some v => simp [typed, ← hread, Option.eq_none_iff_forall_ne_some]

theorem exists_typed_eq_some (hright : ¬ ∃ v, Holds name place values v ∧ ∀ a, v ≠ write a) :
    ∃ x, typed read settings[place]?.join = some x :=
  Option.ne_none_iff_exists'.mp (mt (typed_eq_none_iff hsettings hname hread).mp hright)

theorem eq_some_iff_of_typed {x : Option α} (h : typed read settings[place]?.join = some x)
    (a : α) : x = some a ↔ Holds name place values (write a) := by
  rw [← getElem?_eq_some_iff_holds hsettings hname]
  cases hv : settings[place]?.join with
  | none =>
    rw [hv] at h
    cases h
    exact ⟨nofun, nofun⟩
  | some v =>
    rw [hv] at h
    obtain ⟨b, hb, rfl⟩ := Option.map_eq_some_iff.mp h
    rw [Option.some_inj, Option.some_inj, ← hread, hb, Option.some_inj]

end Setting

theorem integer?_eq_some_iff (v : Value) (n : Int) : integer? v = some n ↔ v = .integer n := by
  cases v <;> simp [integer?]

theorem string?_eq_some_iff (v : Value) (s : String) : string? v = some s ↔ v = .string s := by
  cases v <;> simp [string?]

variable {root : Entries} {raw : RawConfig}

/-- A document is read section by section and setting by setting. -/
theorem ofDocument?_eq_some_iff_steps :
    ofDocument? root = some raw ↔
      ∃ logger, sectionValues ["verbosity", "sink"] (root.lookup "logger") = some logger ∧
        typed integer? logger[0]?.join = some raw.verbosity ∧
        typed string? logger[1]?.join = some raw.sink ∧
        ∃ logging, sectionValues ["level"] (root.lookup "logging") = some logging ∧
          typed string? logging[0]?.join = some raw.level := by
  obtain ⟨verbosity, sink, level⟩ := raw
  simp only [ofDocument?, Option.bind_eq_bind, Option.bind_eq_some_iff, Option.some.injEq,
    RawConfig.mk.injEq]
  constructor
  · rintro ⟨logger, hlogger, _, hverbosity, _, hsink, logging, hlogging, _, hlevel, rfl, rfl, rfl⟩
    exact ⟨logger, hlogger, hverbosity, hsink, logging, hlogging, hlevel⟩
  · rintro ⟨logger, hlogger, hverbosity, hsink, logging, hlogging, hlevel⟩
    exact ⟨logger, hlogger, _, hverbosity, _, hsink, logging, hlogging, _, hlevel, rfl, rfl, rfl⟩

theorem hasSettings_of_ofDocument? (h : ofDocument? root = some raw) : root.HasSettings raw := by
  obtain ⟨logger, hlogger, hverbosity, hsink, logging, hlogging, hlevel⟩ :=
    ofDocument?_eq_some_iff_steps.mp h
  exact ⟨eq_some_iff_of_typed hlogger rfl integer?_eq_some_iff hverbosity,
    eq_some_iff_of_typed hlogger rfl string?_eq_some_iff hsink,
    eq_some_iff_of_typed hlogging rfl string?_eq_some_iff hlevel⟩

theorem not_wrongType_of_ofDocument? (h : ofDocument? root = some raw) : ¬ root.WrongType := by
  obtain ⟨logger, hlogger, hverbosity, hsink, logging, hlogging, hlevel⟩ :=
    ofDocument?_eq_some_iff_steps.mp h
  intro hwrong
  cases hwrong with
  | logger h => cases hlogger.symm.trans (sectionValues_eq_none_iff.mpr h)
  | verbosity h hv =>
    have hnone := (typed_eq_none_iff hlogger rfl integer?_eq_some_iff).mpr ⟨_, h, hv⟩
    cases hverbosity.symm.trans hnone
  | sink h hv =>
    have hnone := (typed_eq_none_iff hlogger rfl string?_eq_some_iff).mpr ⟨_, h, hv⟩
    cases hsink.symm.trans hnone
  | logging h => cases hlogging.symm.trans (sectionValues_eq_none_iff.mpr h)
  | level h hv =>
    have hnone := (typed_eq_none_iff hlogging rfl string?_eq_some_iff).mpr ⟨_, h, hv⟩
    cases hlevel.symm.trans hnone

theorem exists_ofDocument?_of_not_wrongType (h : ¬ root.WrongType) :
    ∃ raw, ofDocument? root = some raw := by
  obtain ⟨logger, hlogger⟩ :
      ∃ logger, sectionValues ["verbosity", "sink"] (root.lookup "logger") = some logger :=
    Option.ne_none_iff_exists'.mp fun hnone => h (.logger (sectionValues_eq_none_iff.mp hnone))
  obtain ⟨logging, hlogging⟩ :
      ∃ logging, sectionValues ["level"] (root.lookup "logging") = some logging :=
    Option.ne_none_iff_exists'.mp fun hnone => h (.logging (sectionValues_eq_none_iff.mp hnone))
  obtain ⟨verbosity, hverbosity⟩ := exists_typed_eq_some hlogger rfl integer?_eq_some_iff
    fun ⟨_, hv, hother⟩ => h (.verbosity hv hother)
  obtain ⟨sink, hsink⟩ := exists_typed_eq_some hlogger rfl string?_eq_some_iff
    fun ⟨_, hv, hother⟩ => h (.sink hv hother)
  obtain ⟨level, hlevel⟩ := exists_typed_eq_some hlogging rfl string?_eq_some_iff
    fun ⟨_, hv, hother⟩ => h (.level hv hother)
  exact ⟨⟨verbosity, sink, level⟩, ofDocument?_eq_some_iff_steps.mpr
    ⟨logger, hlogger, hverbosity, hsink, logging, hlogging, hlevel⟩⟩

/-- A document is refused just when a type is wrong. -/
theorem ofDocument?_eq_none_iff : ofDocument? root = none ↔ root.WrongType := by
  constructor
  · intro hnone
    refine Classical.byContradiction fun h => ?_
    obtain ⟨raw, hraw⟩ := exists_ofDocument?_of_not_wrongType h
    cases hnone.symm.trans hraw
  · intro hwrong
    exact Option.eq_none_iff_forall_ne_some.mpr fun raw h => not_wrongType_of_ofDocument? h hwrong

/-- A document is read as the settings that it has. -/
theorem ofDocument?_eq_some_iff :
    ofDocument? root = some raw ↔ ¬ root.WrongType ∧ root.HasSettings raw := by
  constructor
  · intro h
    exact ⟨not_wrongType_of_ofDocument? h, hasSettings_of_ofDocument? h⟩
  · rintro ⟨hright, hsettings⟩
    obtain ⟨raw', h⟩ := exists_ofDocument?_of_not_wrongType hright
    rw [h, hsettings.unique (hasSettings_of_ofDocument? h)]

end RawConfig

end SeverityLog
