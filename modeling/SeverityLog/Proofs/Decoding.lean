import SeverityLog.Proofs.Transcript

/-!
# A line of the console is decoded in one way

A label of digits contains no bracket, and all tags are of one length and differ from each other. So
the label, the severity and the message of a line are found again, whatever the message contains,
and two lines are equal only if all three are. The label of a thread is its number, unless another
one is given.
-/

namespace SeverityLog

namespace Console

/-! ## The label of a thread -/

theorem withoutStart_append {start : List Char} (h : start ≠ []) (cs : List Char) :
    withoutStart start (start ++ cs) = withoutStart start cs := by
  rw [withoutStart, if_pos ⟨h, List.prefix_append _ _⟩, List.drop_left]

theorem withoutStart_of_not_prefix {start cs : List Char} (h : ¬ start <+: cs) :
    withoutStart start cs = cs := by
  rw [withoutStart, if_neg fun hstart => h hstart.2]

theorem withoutEnd_concat {c : Char} {cs : List Char} (h : c ∉ cs) :
    withoutEnd c (cs ++ [c]) = cs := by
  have hrest : cs.reverse.dropWhile (· = c) = cs.reverse := by
    cases hcs : cs.reverse with
    | nil => rfl
    | cons d ds =>
      have hd : d ∈ cs := List.mem_reverse.mp (hcs ▸ List.mem_cons_self)
      have hne : d ≠ c := fun heq => h (heq ▸ hd)
      exact List.dropWhile_cons_of_neg (by simpa using hne)
  have hlast : (cs ++ [c]).reverse.dropWhile (· = c) = cs.reverse := by
    rw [List.reverse_concat, List.dropWhile_cons_of_pos (by simp), hrest]
  rw [withoutEnd, hlast, List.reverse_reverse]

theorem isDigit_of_mem_toString {id : Nat} {c : Char} (h : c ∈ (toString id).toList) :
    c.isDigit := by
  have hrepr : (toString id).toList = Nat.toDigits 10 id := Nat.toList_repr
  rw [hrepr] at h
  exact Nat.isDigit_of_mem_toDigits (by decide) (by decide) h

/-- Taking away what stands around the number takes nothing from the number. -/
theorem threadLabel_eq (id : Nat) : threadLabel id = toString id := by
  have hname : (threadName id).toList = "ThreadId(".toList ++ ((toString id).toList ++ [')']) := by
    simp [threadName]
  have hstart : ¬ "ThreadId(".toList <+: (toString id).toList ++ [')'] := by
    intro hprefix
    have hfirst : 'T' ∈ (toString id).toList ++ [')'] := hprefix.subset (by simp)
    rcases List.mem_append.mp hfirst with hdigit | hbracket
    · exact absurd (isDigit_of_mem_toString hdigit) (by decide)
    · exact absurd (List.mem_singleton.mp hbracket) (by decide)
  have hend : ')' ∉ (toString id).toList := fun hdigit =>
    absurd (isDigit_of_mem_toString hdigit) (by decide)
  rw [threadLabel, hname, withoutStart_append (by simp), withoutStart_of_not_prefix hstart,
    withoutEnd_concat hend, String.ofList_toList]

/-- The main thread is the first. -/
example : threadLabel 1 = mainLabel := by cbv

/-! ## The three parts of a line -/

/-- What stands between the bracket that opens a line and the first bracket that closes. -/
def labelOf (line : String) : String :=
  String.ofList ((line.toList.drop 1).takeWhile (· ≠ ']'))

def decode? (line : String) : Option (String × Severity × String) :=
  (read? line).map fun p => (labelOf line, p.1, p.2)

section Digits

variable {label : String} (hlabel : ∀ c ∈ label.toList, c.isDigit)

include hlabel

theorem labelOf_line (e : Entry) : labelOf (line label e) = label := by
  have hline : (line label e).toList.drop 1 =
      label.toList ++ ']' :: (e.tag.toList ++ (": ".toList ++ e.message.toList)) := by
    simp [line]
  have hopen : ∀ c ∈ label.toList, decide (c ≠ ']') = true := fun c hc =>
    decide_eq_true (ne_bracket_of_mem hlabel hc)
  rw [labelOf, hline, List.takeWhile_append_of_pos hopen]
  simp

theorem decode?_line (s : Severity) (m : String) :
    decode? (line label ⟨s.tag, m⟩) = some (label, s, m) := by
  have hread : read? (line label ⟨s.tag, m⟩) = some (s, m) := read?_line hlabel s m
  rw [decode?, hread, labelOf_line hlabel]
  rfl

/-- The tag is read from the five characters behind the first bracket that closes. -/
theorem ofTag?_line (s : Severity) (m : String) :
    Severity.ofTag? (String.ofList
      ((((line label ⟨s.tag, m⟩).toList.dropWhile (· ≠ ']')).drop 1).take 5)) = some s := by
  have hread : read? (line label ⟨s.tag, m⟩) = some (s, m) := read?_line hlabel s m
  unfold read? at hread
  obtain ⟨s', hs', heq⟩ := Option.map_eq_some_iff.mp hread
  have hsame : s' = s := (Prod.mk.inj heq).1
  exact hs'.trans (congrArg some hsame)

end Digits

/-- A line that is written under a label of digits is decoded to its label, its severity and its
message. The tag stands in the five characters behind the first bracket that closes. Two such lines
are equal only if their labels, severities and messages are. The label of a thread that is given no
other is its number, and consists of digits. -/
theorem line_decodable {label : String} (hlabel : ∀ c ∈ label.toList, c.isDigit) (s : Severity)
    (m : String) :
    let written := line label ⟨s.tag, m⟩
    decode? written = some (label, s, m) ∧
      Severity.ofTag? (String.ofList
        (((written.toList.dropWhile (· ≠ ']')).drop 1).take 5)) = some s ∧
      (∀ label' s' m', (∀ c ∈ label'.toList, c.isDigit) →
        written = line label' ⟨Severity.tag s', m'⟩ → label = label' ∧ s = s' ∧ m = m') ∧
      ∀ id, threadLabel id = toString id ∧ ∀ c ∈ (threadLabel id).toList, c.isDigit := by
  intro written
  have hdecode : decode? written = some (label, s, m) := decode?_line hlabel s m
  refine ⟨hdecode, ofTag?_line hlabel s m, fun label' s' m' hlabel' heq => ?_, fun id => ?_⟩
  · have hsame : some (label, s, m) = some (label', s', m') := by
      rw [← hdecode, heq, decode?_line hlabel']
    cases hsame
    exact ⟨rfl, rfl, rfl⟩
  · refine ⟨threadLabel_eq id, fun c hc => ?_⟩
    rw [threadLabel_eq] at hc
    exact isDigit_of_mem_toString hc

/-- A message that imitates the brackets, another tag and another line. -/
theorem line_decodable_imitating :
    let m := "]WARN.: up\n[7]ERROR: down"
    (∀ c ∈ "12".toList, c.isDigit) ∧
      line "12" ⟨Severity.info.tag, m⟩ = "[12]INFO.: ]WARN.: up\n[7]ERROR: down" ∧
      decode? "[12]INFO.: ]WARN.: up\n[7]ERROR: down" = some ("12", .info, m) := by
  intro m
  have hlabel : ∀ c ∈ "12".toList, c.isDigit := by simp
  have hline : line "12" ⟨Severity.info.tag, m⟩ = "[12]INFO.: ]WARN.: up\n[7]ERROR: down" := by
    decide
  obtain ⟨hdecode, -⟩ := line_decodable hlabel .info m
  rw [hline] at hdecode
  exact ⟨hlabel, hline, hdecode⟩

end Console

end SeverityLog
