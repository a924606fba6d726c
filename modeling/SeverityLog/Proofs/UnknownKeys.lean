import SeverityLog.Proofs.Outcome

/-!
# Unknown keys

Of a document whose sections are tables, three values count: two of the logger and one for the
diagnostics. Two documents that give these alike are loaded alike, whatever else stands in them and
wherever. A value of the wrong type makes no difference here, because only its type is looked at.
-/

namespace SeverityLog

namespace Toml

/-- A value as far as a setting can depend on it: texts, integers and truth values as they are, and
of any other value its type. -/
def Value.outline : Value → Value
  | .float _ => .float ""
  | .dateTime _ => .dateTime ""
  | .array _ | .tables _ => .array []
  | .table _ _ => .table .inline []
  | v => v

inductive IsSection : Option Value → Prop where
  | absent : IsSection none
  | table (origin : Origin) (entries : Entries) : IsSection (some (.table origin entries))

namespace Entries

def value? (name key : String) (root : Entries) : Option Value :=
  match root.lookup name with
  | some (.table _ entries) => entries.lookup key
  | _ => none

structure HasSections (root : Entries) : Prop where
  logger : IsSection (root.lookup "logger")
  logging : IsSection (root.lookup "logging")

structure SameSettings (root root' : Entries) : Prop where
  verbosity : (root'.value? "logger" "verbosity").map Value.outline =
    (root.value? "logger" "verbosity").map Value.outline
  sink : (root'.value? "logger" "sink").map Value.outline =
    (root.value? "logger" "sink").map Value.outline
  level : (root'.value? "logging" "level").map Value.outline =
    (root.value? "logging" "level").map Value.outline

end Entries

end Toml

namespace RawConfig

open Toml

theorem sectionValues_of_isSection {root : Entries} {name : String}
    (h : IsSection (root.lookup name)) (keys : List String) :
    sectionValues keys (root.lookup name) = some (keys.map fun key => root.value? name key) := by
  unfold Entries.value?
  generalize root.lookup name = values at h
  cases h <;> rfl

/-- The settings are read from three values of the document. -/
theorem ofDocument?_of_hasSections {root : Entries} (h : root.HasSections) :
    ofDocument? root = (do
      let verbosity ← typed integer? (root.value? "logger" "verbosity")
      let sink ← typed string? (root.value? "logger" "sink")
      let level ← typed string? (root.value? "logging" "level")
      some { verbosity, sink, level }) := by
  rw [ofDocument?, sectionValues_of_isSection h.logger, sectionValues_of_isSection h.logging]
  rfl

theorem integer?_outline (v : Value) : integer? v.outline = integer? v := by cases v <;> rfl

theorem string?_outline (v : Value) : string? v.outline = string? v := by cases v <;> rfl

theorem typed_congr {α : Type} {read : Value → Option α} (hread : ∀ v, read v.outline = read v)
    {v v' : Option Value} (h : v'.map Value.outline = v.map Value.outline) :
    typed read v' = typed read v := by
  have houtline (v : Option Value) : typed read (v.map Value.outline) = typed read v := by
    cases v with
    | none => rfl
    | some v => simp only [Option.map_some, typed, hread]
  rw [← houtline, h, houtline]

theorem ofDocument?_congr {root root' : Entries} (hsections : root.HasSections)
    (hsections' : root'.HasSections) (h : root.SameSettings root') :
    ofDocument? root' = ofDocument? root := by
  rw [ofDocument?_of_hasSections hsections, ofDocument?_of_hasSections hsections',
    typed_congr integer?_outline h.verbosity, typed_congr string?_outline h.sink,
    typed_congr string?_outline h.level]

theorem read_of_document {refusal path document : String} {found : Lookup} {root : Entries}
    (htext : found.text = .ok document) (hroot : Toml.parse? document = some root) :
    read refusal path found =
      (ofDocument? root).elim (.error (.malformed path refusal)) .ok := by
  simp only [read, htext, parse?, hroot, Option.bind_some]

end RawConfig

theorem Lookup.exists_text_of_document {found : Lookup} {root : Toml.Entries}
    (h : found.document? = some root) :
    ∃ document, found.text = .ok document ∧ Toml.parse? document = some root := by
  rw [document?] at h
  cases htext : found.text with
  | error cause =>
    rw [htext] at h
    cases h
  | ok document =>
    rw [htext] at h
    exact ⟨document, rfl, h⟩

namespace Config

/-- Take two files that are documents of TOML in which both sections are missing or tables, and
which agree on the threshold and the sink of the logger and on the level for the diagnostics: each
is missing in both, or has the same type in both and, if it is a text, an integer or a truth value,
the same value. Whatever other keys the documents have, they are loaded alike, with the same
configuration and, but for the text of a refusal, the same warnings and reports. -/
theorem load_ignores_unknown (refusal refusal' path : String) (found found' : Lookup)
    (root root' : Toml.Entries) (hfound : found.document? = some root)
    (hfound' : found'.document? = some root') (hsections : root.HasSections)
    (hsections' : root'.HasSections) (hsettings : root.SameSettings root') :
    (load refusal' path found').config = (load refusal path found).config ∧
      (load refusal path found').warnings = (load refusal path found).warnings ∧
      (load refusal path found').events = (load refusal path found).events := by
  obtain ⟨document, htext, hroot⟩ := Lookup.exists_text_of_document hfound
  obtain ⟨document', htext', hroot'⟩ := Lookup.exists_text_of_document hfound'
  have hdocument : RawConfig.ofDocument? root' = RawConfig.ofDocument? root :=
    RawConfig.ofDocument?_congr hsections hsections' hsettings
  have hread : RawConfig.read refusal path found' = RawConfig.read refusal path found := by
    rw [RawConfig.read_of_document htext hroot, RawConfig.read_of_document htext' hroot', hdocument]
  have hload : load refusal path found' = load refusal path found := by
    rw [load, load, Lookup.isPresent_of_text htext, Lookup.isPresent_of_text htext', hread]
  refine ⟨?_, ?_, ?_⟩
  · rw [config_load, config_load, RawConfig.toOption_read, RawConfig.toOption_read, hfound, hfound',
      Option.bind_some, Option.bind_some, hdocument]
  · rw [hload]
  · rw [hload]

/-- A threshold that is out of range, among keys, tables and arrays that nothing reads. -/
theorem load_ignores_unknown_in_other_order :
    let found : Lookup :=
      .file "[logger]\nverbosity = 17\ncolour = true\n[extra]\nx = [1, [2]]\n".toUTF8
    let found' : Lookup :=
      .file "logging.old = 'info'\n[logger]\nsinks = \"gui\"\nverbosity = 0x11\n".toUTF8
    let root : Toml.Entries :=
      [("logger", .table .header [("verbosity", .integer 17), ("colour", .boolean true)]),
        ("extra", .table .header [("x", .array [.integer 1, .array [.integer 2]])])]
    let root' : Toml.Entries :=
      [("logging", .table .dotted [("old", .string "info")]),
        ("logger", .table .header [("sinks", .string "gui"), ("verbosity", .integer 17)])]
    (found.document? = some root ∧ found'.document? = some root') ∧
      (root.HasSections ∧ root'.HasSections ∧ root.SameSettings root') ∧
      (load "" "config.toml" found').config = (load "" "config.toml" found).config ∧
      (load "" "config.toml" found').warnings = (load "" "config.toml" found).warnings ∧
      (load "" "config.toml" found').events = (load "" "config.toml" found).events := by
  intro found found' root root'
  have hroot : found.document? = some root := by
    with_unfolding_all rfl
  have hroot' : found'.document? = some root' := by
    with_unfolding_all rfl
  have hsections : root.HasSections := ⟨.table _ _, .absent⟩
  have hsections' : root'.HasSections := ⟨.table _ _, .table _ _⟩
  have hsettings : root.SameSettings root' := ⟨rfl, rfl, rfl⟩
  have halike := load_ignores_unknown "" "" "config.toml" found found' root root' hroot hroot'
    hsections hsections' hsettings
  exact ⟨⟨hroot, hroot'⟩, ⟨hsections, hsections', hsettings⟩, halike⟩

end Config

end SeverityLog
