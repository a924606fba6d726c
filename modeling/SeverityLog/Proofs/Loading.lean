import SeverityLog.Proofs.Settings

/-!
# Loading the configuration never fails

A path that leads to nothing gives the defaults in silence. A file that cannot be read as a
configuration gives all defaults and one warning, whatever settings it has. The settings of any
other file are checked one by one, with a warning for each that is refused. The reports tell these
cases apart.
-/

namespace SeverityLog

namespace FileTree

variable {t : FileTree}

theorem lookup_empty (t : FileTree) : t.lookup "" = .failed .noSuchFile := by
  have hnul : "".contains (Char.ofNat 0) = false := by simp
  rw [lookup, hnul]
  rfl

theorem parts_append_slash (p q : String) : parts (p ++ "/" ++ q) = parts p ++ parts q := by
  rw [parts, String.toList_append, String.toList_append, List.append_assoc]
  change (List.splitOn '/' (p.toList ++ '/' :: q.toList)).map _ = _
  rw [List.splitOn_append_cons_self, List.map_append, ← parts, ← parts]

theorem parts_ne_nil (p : String) : parts p ≠ [] := by
  rw [parts, ne_eq, List.map_eq_nil_iff]
  exact List.splitOn_ne_nil _ _

theorem startsWith_slash_append {p : String} (h : p ≠ "") (q : String) :
    (p ++ "/" ++ q).startsWith "/" = p.startsWith "/" := by
  obtain ⟨c, cs, hp⟩ : ∃ c cs, p.toList = c :: cs :=
    List.exists_cons_of_ne_nil fun hnil => h (String.toList_eq_nil_iff.mp hnil)
  have hslash : "/".toList = ['/'] := rfl
  rw [Bool.eq_iff_iff, String.startsWith_string_iff, String.startsWith_string_iff,
    String.toList_append, String.toList_append, hp, hslash]
  simp only [List.cons_append, List.cons_prefix_cons, List.nil_prefix, and_true]

/-- The walk stops at a file, so no path leads on from there. -/
theorem walk_through_file {bytes : ByteArray} {place ps rest : List String}
    (h : t.walk place ps = .file bytes) (hrest : rest ≠ []) :
    t.walk place (ps ++ rest) = .failed .notDirectory := by
  induction ps generalizing place with
  | nil => cases h
  | cons p ps ih =>
    by_cases hsize : p.utf8ByteSize > 255
    · simp [walk, hsize] at h
    · cases hnode : t.node? (enter place p) with
      | none => simp [walk, hsize, hnode] at h
      | some node =>
        cases node with
        | directory =>
          have hstep : t.walk (enter place p) ps = .file bytes := by
            simpa [walk, hsize, hnode] using h
          simpa [walk, hsize, hnode] using ih hstep
        | file content =>
          cases ps with
          | nil =>
            obtain ⟨part, parts, rfl⟩ := List.exists_cons_of_ne_nil hrest
            simp [walk, hsize, hnode]
          | cons => simp [walk, hsize, hnode] at h

theorem lookup_through_file {bytes : ByteArray} {p : String} (h : t.lookup p = .file bytes)
    (q : String) : ∃ cause, t.lookup (p ++ "/" ++ q) = .failed cause := by
  have hp : p ≠ "" := by
    rintro rfl
    rw [lookup_empty] at h
    cases h
  have hwalk : t.walk (if p.startsWith "/" then [] else t.workingDirectory) (parts p) =
      .file bytes := by
    rw [lookup, if_neg hp] at h
    split at h
    · cases h
    · split at h
      · cases h
      · exact h
  have hthrough := walk_through_file hwalk (parts_ne_nil q)
  rw [← parts_append_slash] at hthrough
  rw [lookup, startsWith_slash_append hp, hthrough]
  repeat' split
  all_goals exact ⟨_, rfl⟩

end FileTree

namespace RawConfig

variable {refusal path : String} {found : Lookup} {failure : ConfigFailure} {raw : RawConfig}

inductive Fails (refusal path : String) : Lookup → ConfigFailure → Prop where
  | absent {cause : ReadFailure} : Fails refusal path (.failed cause) (.unreadable path cause)
  | unreadable {cause : ReadFailure} :
    Fails refusal path (.unreadable cause) (.unreadable path cause)
  | directory : Fails refusal path .directory (.unreadable path .isDirectory)
  | notUtf8 {bytes : ByteArray} (h : String.fromUTF8? bytes = none) :
    Fails refusal path (.file bytes) (.unreadable path .notUtf8)
  | notToml {bytes : ByteArray} {document : String} (h : String.fromUTF8? bytes = some document)
    (hdocument : Toml.parse? document = none) :
    Fails refusal path (.file bytes) (.malformed path refusal)
  | wrongType {bytes : ByteArray} {document : String} {root : Toml.Entries}
    (h : String.fromUTF8? bytes = some document) (hdocument : Toml.parse? document = some root)
    (hroot : root.WrongType) : Fails refusal path (.file bytes) (.malformed path refusal)

inductive Reads : Lookup → RawConfig → Prop where
  | document {bytes : ByteArray} {document : String} {root : Toml.Entries} {raw : RawConfig}
    (h : String.fromUTF8? bytes = some document) (hdocument : Toml.parse? document = some root)
    (hright : ¬ root.WrongType) (hsettings : root.HasSettings raw) : Reads (.file bytes) raw

theorem read_of_fails (h : Fails refusal path found failure) :
    read refusal path found = .error failure := by
  cases h with
  | absent => rfl
  | unreadable => rfl
  | directory => rfl
  | notUtf8 h => simp only [read, Lookup.text, h, Option.elim_none]
  | notToml h hdocument =>
    simp only [read, Lookup.text, h, Option.elim_some, parse?, hdocument, Option.bind_none,
      Option.elim_none]
  | wrongType h hdocument hroot =>
    simp only [read, Lookup.text, h, Option.elim_some, parse?, hdocument, Option.bind_some,
      ofDocument?_eq_none_iff.mpr hroot, Option.elim_none]

theorem read_of_reads (h : Reads found raw) : read refusal path found = .ok raw := by
  obtain ⟨h, hdocument, hright, hsettings⟩ := h
  simp only [read, Lookup.text, h, Option.elim_some, parse?, hdocument, Option.bind_some,
    ofDocument?_eq_some_iff.mpr ⟨hright, hsettings⟩]

theorem fails_or_reads (refusal path : String) (found : Lookup) :
    (∃ failure, Fails refusal path found failure) ∨ ∃ raw, Reads found raw := by
  cases found with
  | failed cause => exact .inl ⟨_, .absent⟩
  | unreadable cause => exact .inl ⟨_, .unreadable⟩
  | directory => exact .inl ⟨_, .directory⟩
  | file bytes =>
    cases htext : String.fromUTF8? bytes with
    | none => exact .inl ⟨_, .notUtf8 htext⟩
    | some document =>
      cases hdocument : Toml.parse? document with
      | none => exact .inl ⟨_, .notToml htext hdocument⟩
      | some root =>
        cases hroot : ofDocument? root with
        | none => exact .inl ⟨_, .wrongType htext hdocument (ofDocument?_eq_none_iff.mp hroot)⟩
        | some raw =>
          obtain ⟨hright, hsettings⟩ := ofDocument?_eq_some_iff.mp hroot
          exact .inr ⟨raw, .document htext hdocument hright hsettings⟩

theorem read_eq_error_iff :
    read refusal path found = .error failure ↔ Fails refusal path found failure := by
  refine ⟨fun h => ?_, read_of_fails⟩
  rcases fails_or_reads refusal path found with ⟨failure', hfails⟩ | ⟨raw, hreads⟩
  · cases h.symm.trans (read_of_fails hfails)
    exact hfails
  · cases h.symm.trans (read_of_reads hreads)

theorem read_eq_ok_iff : read refusal path found = .ok raw ↔ Reads found raw := by
  refine ⟨fun h => ?_, read_of_reads⟩
  rcases fails_or_reads refusal path found with ⟨failure, hfails⟩ | ⟨raw', hreads⟩
  · cases h.symm.trans (read_of_fails hfails)
  · cases h.symm.trans (read_of_reads hreads)
    exact hreads

theorem toOption_read_eq_some_iff :
    (read refusal path found).toOption = some raw ↔ Reads found raw := by
  rw [← @read_eq_ok_iff refusal path]
  cases read refusal path found <;> simp [Except.toOption]

end RawConfig

namespace Config

structure Loaded.Gives (l : Loaded) (config : Config) (warnings : List String)
    (events : List Event) : Prop where
  config : l.config = config
  warnings : l.warnings = warnings
  events : l.events = events

variable {refusal path : String} {found : Lookup}

theorem load_failed (cause : ReadFailure) :
    (load refusal path (.failed cause)).Gives {} [] [.configAbsent path] := ⟨rfl, rfl, rfl⟩

theorem load_of_error {failure : ConfigFailure} (hpresent : ∀ cause, found ≠ .failed cause)
    (h : RawConfig.read refusal path found = .error failure) :
    let warning := failure.message ++ ". Using defaults."
    (load refusal path found).Gives {} [warning] [.configRejected warning] := by
  rw [load, Lookup.isPresent_of_ne hpresent, h]
  exact ⟨rfl, rfl, rfl⟩

theorem ne_failed_of_ok {raw : RawConfig} (h : RawConfig.read refusal path found = .ok raw)
    (cause : ReadFailure) : found ≠ .failed cause := by
  rintro rfl
  cases h

theorem load_of_ok {raw : RawConfig} (h : RawConfig.read refusal path found = .ok raw) :
    (load refusal path found).Gives raw.validate.1
      (raw.validate.2.map fun p => p.message ++ ". Using default.")
      (.configLoaded path ::
        if raw.validate.2 = [] then [] else [.configDoubtful raw.validate.2.length]) := by
  rw [load, Lookup.isPresent_of_ne (ne_failed_of_ok h), h]
  refine ⟨rfl, rfl, ?_⟩
  simp only [List.isEmpty_map, List.isEmpty_iff, List.length_map]
  rfl

theorem text_of_error {failure : ConfigFailure}
    (h : RawConfig.read refusal path found = .error failure) :
    (failure = .malformed path refusal ∧
        failure.message = "Config parse error '" ++ path ++ "': " ++ refusal) ∨
      ∃ cause, failure = .unreadable path cause ∧
        failure.message = "Config I/O error '" ++ path ++ "': " ++ cause.message := by
  cases RawConfig.read_eq_error_iff.mp h with
  | notToml | wrongType => exact .inl ⟨rfl, rfl⟩
  | _ => exact .inr ⟨_, rfl, rfl⟩

/-- A warning about a file that is not read is not the report that counts the warnings. -/
theorem warning_ne_of_error {failure : ConfigFailure}
    (h : RawConfig.read refusal path found = .error failure) :
    failure.message ++ ". Using defaults." ≠ "Config validation produced warnings" := by
  have hbeginning : ∃ first ∈ ["Config parse error '", "Config I/O error '"],
      first.toList <+: (failure.message ++ ". Using defaults.").toList := by
    rcases text_of_error h with ⟨-, htext⟩ | ⟨cause, -, htext⟩
    · refine ⟨"Config parse error '", List.mem_cons_self, ?_⟩
      simp only [htext, String.toList_append, List.append_assoc]
      exact List.prefix_append _ _
    · refine ⟨"Config I/O error '", List.mem_cons_of_mem _ List.mem_cons_self, ?_⟩
      simp only [htext, String.toList_append, List.append_assoc]
      exact List.prefix_append _ _
  have hother : ∀ first ∈ ["Config parse error '", "Config I/O error '"],
      ¬ first.toList <+: "Config validation produced warnings".toList := by decide
  obtain ⟨first, hfirst, hinitial⟩ := hbeginning
  intro hsame
  rw [hsame] at hinitial
  exact hother first hfirst hinitial

theorem text_of_problem {raw : RawConfig} {problem : ConfigFailure}
    (h : problem ∈ raw.validate.2) :
    ∃ setting value, problem = .outOfRange setting value ∧
      problem.message = "Config '" ++ setting.field ++ "' = '" ++ value ++
        "' is out of range. Expected: " ++ setting.expected := by
  obtain ⟨setting, value, rfl⟩ := RawConfig.mem_validate_snd h
  exact ⟨setting, value, rfl, rfl⟩

def Loaded.trace (l : Loaded) : List Diagnostic.Record := l.events.map Event.record

/-- All that a loading can report, and when. -/
theorem event_cases {event : Event} (h : event ∈ (load refusal path found).events) :
    event = .configAbsent path ∨
    (∃ failure, RawConfig.read refusal path found = .error failure ∧
      event = .configRejected (failure.message ++ ". Using defaults.")) ∨
    ∃ raw, RawConfig.read refusal path found = .ok raw ∧ (event = .configLoaded path ∨
      raw.validate.2 ≠ [] ∧ event = .configDoubtful raw.validate.2.length) := by
  cases hread : RawConfig.read refusal path found with
  | ok raw =>
    rw [(load_of_ok hread).events, List.mem_cons, List.mem_ite_nil_left, List.mem_singleton] at h
    exact .inr (.inr ⟨raw, rfl, h⟩)
  | error failure =>
    by_cases habsent : ∃ cause, found = .failed cause
    · obtain ⟨cause, rfl⟩ := habsent
      rw [(load_failed cause).events, List.mem_singleton] at h
      exact .inl h
    · rw [(load_of_error (not_exists.mp habsent) hread).events, List.mem_singleton] at h
      exact .inr (.inl ⟨failure, rfl, h⟩)

theorem mem_trace_loaded_iff {r : Diagnostic.Record} :
    r ∈ (load refusal path found).trace ∧ r.level = .info ∧ r.message = "Loaded config.toml" ↔
      (∃ raw, RawConfig.read refusal path found = .ok raw) ∧
        r = { level := .info, message := "Loaded config.toml"
              fields := [.shown "path" path] } := by
  constructor
  · rintro ⟨hr, hlevel, -⟩
    obtain ⟨event, hevent, rfl⟩ := List.mem_map.mp hr
    rcases event_cases hevent with rfl | ⟨failure, -, rfl⟩ | ⟨raw, hraw, rfl | ⟨-, rfl⟩⟩
    · cases hlevel
    · cases hlevel
    · exact ⟨⟨raw, hraw⟩, rfl⟩
    · cases hlevel
  · rintro ⟨⟨raw, hraw⟩, rfl⟩
    refine ⟨List.mem_map.mpr ⟨.configLoaded path, ?_, rfl⟩, rfl, rfl⟩
    rw [(load_of_ok hraw).events]
    exact List.mem_cons_self

theorem mem_trace_doubtful_iff {r : Diagnostic.Record} :
    r ∈ (load refusal path found).trace ∧ r.level = .warn ∧
        r.message = "Config validation produced warnings" ↔
      ∃ raw, RawConfig.read refusal path found = .ok raw ∧ raw.validate.2 ≠ [] ∧
        r = { level := .warn, message := "Config validation produced warnings"
              fields := [.shown "count" raw.validate.2.length] } := by
  constructor
  · rintro ⟨hr, hlevel, hmessage⟩
    obtain ⟨event, hevent, rfl⟩ := List.mem_map.mp hr
    rcases event_cases hevent with
      rfl | ⟨failure, hfailure, rfl⟩ | ⟨raw, hraw, rfl | ⟨hraised, rfl⟩⟩
    · cases hlevel
    · exact absurd hmessage (warning_ne_of_error hfailure)
    · cases hlevel
    · exact ⟨raw, hraw, hraised, rfl⟩
  · rintro ⟨raw, hraw, hraised, rfl⟩
    refine ⟨List.mem_map.mpr ⟨.configDoubtful raw.validate.2.length, ?_, rfl⟩, rfl, rfl⟩
    rw [(load_of_ok hraw).events, if_neg hraised]
    exact List.mem_cons_of_mem _ List.mem_cons_self

/-- Whatever a path leads to, a configuration comes of it. Where nothing is there, it is the default
one, without a warning. Where something is there that is not read as a configuration, all of it is
the default one, and the one warning tells the failure: it cannot be read, or is no UTF-8, no TOML
or has a section or a setting of the wrong type. Everything else is read, and its settings are those
of the document. What is read is validated, with a warning for each complaint, in their order, and
each warning names what is wrong. That the file was read is reported just then, and the number of
warnings just when there are some. Nothing is there at the empty path and on any path that leads
through a file. -/
theorem load_exact (refusal path : String) (found : Lookup) :
    let loaded := load refusal path found
    let read := RawConfig.read refusal path found
    ((∀ cause, found = .failed cause → loaded.config = {} ∧ loaded.warnings = []) ∧
        (∀ failure, (∀ cause, found ≠ .failed cause) → read = .error failure →
          loaded.config = {} ∧ loaded.warnings = [failure.message ++ ". Using defaults."]) ∧
        ∀ raw, read = .ok raw → (∀ cause, found ≠ .failed cause) ∧
          loaded.config = raw.validate.1 ∧
          loaded.warnings = raw.validate.2.map fun p => p.message ++ ". Using default.") ∧
      ((∀ failure, read = .error failure ↔ RawConfig.Fails refusal path found failure) ∧
        ∀ raw, read = .ok raw ↔ RawConfig.Reads found raw) ∧
      ((∀ failure, read = .error failure →
          (failure = .malformed path refusal ∧
              failure.message = "Config parse error '" ++ path ++ "': " ++ refusal) ∨
            ∃ cause, failure = .unreadable path cause ∧
              failure.message = "Config I/O error '" ++ path ++ "': " ++ cause.message) ∧
        ∀ raw : RawConfig, ∀ problem ∈ raw.validate.2,
          ∃ setting value, problem = .outOfRange setting value ∧
            problem.message = "Config '" ++ setting.field ++ "' = '" ++ value ++
              "' is out of range. Expected: " ++ setting.expected) ∧
      (∀ r, r ∈ loaded.trace ∧ r.level = .info ∧ r.message = "Loaded config.toml" ↔
        (∃ raw, read = .ok raw) ∧
          r = { level := .info, message := "Loaded config.toml"
                fields := [.shown "path" path] }) ∧
      (∀ r, r ∈ loaded.trace ∧ r.level = .warn ∧
          r.message = "Config validation produced warnings" ↔
        ∃ raw, read = .ok raw ∧ raw.validate.2 ≠ [] ∧
          r = { level := .warn, message := "Config validation produced warnings"
                fields := [.shown "count" raw.validate.2.length] }) ∧
      ∀ t : FileTree, (∃ cause, t.lookup "" = .failed cause) ∧
        ∀ p q bytes, t.lookup p = .file bytes →
          ∃ cause, t.lookup (p ++ "/" ++ q) = .failed cause := by
  intro loaded read
  refine ⟨⟨?_, fun failure hpresent hfailure => ?_, fun raw hraw => ?_⟩,
    ⟨fun failure => RawConfig.read_eq_error_iff, fun raw => RawConfig.read_eq_ok_iff⟩,
    ⟨fun failure => text_of_error, fun raw problem => text_of_problem⟩,
    fun r => mem_trace_loaded_iff, fun r => mem_trace_doubtful_iff,
    fun t => ⟨⟨_, t.lookup_empty⟩, fun p q bytes hfile => FileTree.lookup_through_file hfile q⟩⟩
  · rintro cause rfl
    have hgives : loaded.Gives _ _ _ := load_failed cause
    exact ⟨hgives.config, hgives.warnings⟩
  · have hgives : loaded.Gives _ _ _ := load_of_error hpresent hfailure
    exact ⟨hgives.config, hgives.warnings⟩
  · have hgives : loaded.Gives _ _ _ := load_of_ok hraw
    exact ⟨ne_failed_of_ok hraw, hgives.config, hgives.warnings⟩

end Config

end SeverityLog
