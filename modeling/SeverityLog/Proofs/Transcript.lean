import SeverityLog.Proofs.Delivery

/-!
# Reading the console back

A reader splits the text of a console at its newlines and takes each line apart again. That gives
the messages back as long as none of them contains a newline. The rest of a message after a newline
stands on lines of its own, and nothing tells such a line from a record.
-/

namespace SeverityLog

section Split

variable {α : Type} [BEq α] [LawfulBEq α] {a : α}

theorem splitOn_append_of_not_mem {xs : List α} (h : a ∉ xs) (ys : List α) :
    (xs ++ ys).splitOn a = (ys.splitOn a).modifyHead (xs ++ ·) := by
  induction xs with
  | nil =>
    obtain ⟨piece, pieces, hys⟩ := List.exists_cons_of_ne_nil (List.splitOn_ne_nil a ys)
    rw [List.nil_append, hys]
    rfl
  | cons x xs ih =>
    obtain ⟨hx, hxs⟩ := not_or.mp (mt List.mem_cons.mpr h)
    have hne : ¬ (x == a) := fun heq => hx (eq_of_beq heq).symm
    rw [List.cons_append, List.splitOn_cons_eq_if_modifyHead, if_neg hne, ih hxs]
    simp only [List.modifyHead_modifyHead]
    rfl

omit [LawfulBEq α] in
theorem length_splitOn (a : α) (xs : List α) : (xs.splitOn a).length = xs.count a + 1 := by
  induction xs with
  | nil => simp
  | cons x xs ih =>
    rw [List.splitOn_cons_eq_if_modifyHead, List.count_cons]
    split <;> simp [ih]

end Split

namespace Text

/-- The complete lines of a text. What follows the last newline is no line. -/
def lines (text : String) : List String :=
  ((text.toList.splitOn '\n').dropLast).map String.ofList

theorem fromUTF8?_bytes (s : String) : String.fromUTF8? (bytes s).toByteArray = some s := by
  have h : (bytes s).toByteArray = s.toByteArray :=
    calc (bytes s).toByteArray = (String.ofList s.toList).toByteArray :=
          String.toByteArray_ofList.symm
      _ = s.toByteArray := by rw [String.ofList_toList]
  rw [h, String.fromUTF8?, dif_pos s.isValidUTF8]
  rfl

theorem splitOn_append_newline (first rest : String) :
    (first ++ "\n" ++ rest).toList.splitOn '\n' =
      first.toList.splitOn '\n' ++ rest.toList.splitOn '\n' := by
  rw [String.toList_append, String.toList_append, List.append_assoc]
  exact List.splitOn_append_cons_self _ _

theorem lines_append_newline (first rest : String) :
    lines (first ++ "\n" ++ rest) =
      (first.toList.splitOn '\n').map String.ofList ++ lines rest := by
  have hrest : rest.toList.splitOn '\n' ≠ [] := List.splitOn_ne_nil _ _
  rw [lines, splitOn_append_newline, List.dropLast_append_of_ne_nil hrest, List.map_append, lines]

end Text

namespace Console

variable (label : String)

def header (s : Severity) : String := "[" ++ label ++ "]" ++ s.tag ++ ": "

/-- The severity and the message of a line: the five characters after the first bracket that closes
are the tag, and the message begins two characters later. -/
def read? (line : String) : Option (Severity × String) :=
  let rest := (line.toList.dropWhile (· ≠ ']')).drop 1
  (Severity.ofTag? (String.ofList (rest.take 5))).map (·, String.ofList (rest.drop 7))

def transcript : List (Severity × String) → String
  | [] => ""
  | p :: ps => header label p.1 ++ p.2 ++ "\n" ++ transcript ps

theorem lines_transcript (ps : List (Severity × String)) :
    Text.lines (transcript label ps) = ps.flatMap fun p =>
      ((header label p.1 ++ p.2).toList.splitOn '\n').map String.ofList := by
  induction ps with
  | nil => rfl
  | cons p ps ih => rw [transcript, Text.lines_append_newline, ih, List.flatMap_cons]

theorem getLast?_splitOn_transcript (ps : List (Severity × String)) :
    ((transcript label ps).toList.splitOn '\n').getLast? = some [] := by
  induction ps with
  | nil => rfl
  | cons p ps ih =>
    rw [transcript, Text.splitOn_append_newline, List.getLast?_append, ih]
    rfl

theorem bytes_transcript (ps : List (Severity × String)) :
    Text.bytes (transcript label ps) =
      (ps.map fun p => (⟨p.1.tag, p.2⟩ : Entry)).flatMap (documented label) := by
  induction ps with
  | nil => rfl
  | cons p ps ih =>
    rw [transcript, Text.bytes_append, ih, List.map_cons, List.flatMap_cons]
    rfl

def requests (messages : List (Severity × String)) : List Request :=
  messages.map fun p => { call := .emit p.1 p.2 }

def permitted (v : Verbosity) (messages : List (Severity × String)) : List (Severity × String) :=
  messages.filter fun p => p.1.rank ≤ v.value.toNat

theorem due_requests (v : Verbosity) (messages : List (Severity × String)) :
    due v ((requests messages).map Request.call) =
      (permitted v messages).map fun p => (⟨p.1.tag, p.2⟩ : Entry) := by
  induction messages with
  | nil => rfl
  | cons p messages ih =>
    rw [requests] at ih
    by_cases h : p.1.rank ≤ v.value.toNat <;>
      simp_all [requests, permitted, due]

theorem fromUTF8?_run (v : Verbosity) (messages : List (Severity × String)) :
    String.fromUTF8? ((logger label v).run (requests messages) {}).state.held.toByteArray =
      some (transcript label (permitted v messages)) := by
  rw [run_unbounded, delivered_eq_due, due_requests, List.nil_append, ← bytes_transcript,
    Text.fromUTF8?_bytes]

/-! ## A label of digits -/

section Digits

variable {label} (hlabel : ∀ c ∈ label.toList, c.isDigit)

include hlabel

theorem not_mem_header (s : Severity) : '\n' ∉ (header label s).toList := by
  intro h
  simp only [header, String.toList_append, List.mem_append] at h
  rcases h with (((h | h) | h) | h) | h
  · simp at h
  · exact absurd (hlabel _ h) (by decide)
  · simp at h
  · cases s <;> simp [Severity.tag] at h
  · simp at h

theorem ne_bracket_of_mem {c : Char} (hc : c ∈ label.toList) : c ≠ ']' := by
  rintro rfl
  exact absurd (hlabel _ hc) (by decide)

theorem read?_line (s : Severity) (m : String) : read? (header label s ++ m) = some (s, m) := by
  have hline : (header label s ++ m).toList =
      ('[' :: label.toList) ++ ']' :: (s.tag.toList ++ (": ".toList ++ m.toList)) := by
    simp [header]
  -- The header's own bracket is the first that closes, whatever the message contains.
  have hopen : ∀ c ∈ '[' :: label.toList, decide (c ≠ ']') = true := by
    intro c hc
    rw [decide_eq_true_iff]
    rcases List.mem_cons.mp hc with rfl | hc
    · decide
    · exact ne_bracket_of_mem hlabel hc
  have htag : s.tag.toList.length = 5 := by cases s <;> rfl
  have hrest : ((header label s ++ m).toList.dropWhile (· ≠ ']')).drop 1 =
      s.tag.toList ++ (": ".toList ++ m.toList) := by
    rw [hline, List.dropWhile_append_of_pos hopen]
    rfl
  have hmessage : (s.tag.toList ++ (": ".toList ++ m.toList)).drop 7 = m.toList := by
    rw [← List.append_assoc]
    exact List.drop_left' (by rw [List.length_append, htag]; rfl)
  rw [read?, hrest, List.take_left' htag, hmessage, String.ofList_toList, String.ofList_toList,
    Severity.ofTag?_tag]
  rfl

theorem splitOn_record (s : Severity) (m : String) :
    ((header label s ++ m).toList.splitOn '\n').map String.ofList =
      ((m.toList.splitOn '\n').map String.ofList).modifyHead (header label s ++ ·) := by
  obtain ⟨first, others, hm⟩ := List.exists_cons_of_ne_nil (List.splitOn_ne_nil '\n' m.toList)
  -- The header goes to the first line of the message, and the others stay as they are.
  rw [String.toList_append, splitOn_append_of_not_mem (not_mem_header hlabel s), hm]
  simp [String.ofList_append]

theorem lines_transcript_of_plain {ps : List (Severity × String)}
    (hplain : ∀ p ∈ ps, '\n' ∉ p.2.toList) :
    Text.lines (transcript label ps) = ps.map fun p => header label p.1 ++ p.2 := by
  rw [lines_transcript]
  induction ps with
  | nil => rfl
  | cons p ps ih =>
    obtain ⟨hp, hps⟩ := List.forall_mem_cons.mp hplain
    rw [List.flatMap_cons, ih hps, splitOn_record hlabel, List.splitOn_eq_singleton hp]
    simp

theorem length_lines_transcript (ps : List (Severity × String)) :
    (Text.lines (transcript label ps)).length =
      ps.length + (ps.flatMap (·.2.toList)).count '\n' := by
  rw [lines_transcript]
  induction ps with
  | nil => rfl
  | cons p ps ih =>
    rw [List.flatMap_cons, List.length_append, ih, splitOn_record hlabel, List.length_modifyHead,
      List.length_map, length_splitOn, List.length_cons, List.flatMap_cons, List.count_append]
    omega

theorem length_lines_transcript_iff (ps : List (Severity × String)) :
    (Text.lines (transcript label ps)).length = ps.length ↔ ∀ p ∈ ps, '\n' ∉ p.2.toList := by
  have hnone : (ps.flatMap (·.2.toList)).count '\n' = 0 ↔ ∀ p ∈ ps, '\n' ∉ p.2.toList := by
    rw [List.count_eq_zero, List.mem_flatMap, not_exists]
    exact forall_congr' fun _ => not_and
  rw [length_lines_transcript hlabel, ← hnone]
  omega

end Digits

/-- The text of a console consists of complete lines. A permitted message begins the line that has
its header, and each newline in it begins another line. So there are as many lines as permitted
messages just when none of these contains a newline. Then every line is the record of one message,
and reading the lines gives the permitted messages back, in their order. -/
theorem reads_back (v : Verbosity) (label : String) (hlabel : ∀ c ∈ label.toList, c.isDigit)
    (messages : List (Severity × String)) :
    let console := (logger label v).run (requests messages) {}
    let sent := permitted v messages
    ∃ text, String.fromUTF8? console.state.held.toByteArray = some text ∧
      (text.toList.splitOn '\n').getLast? = some [] ∧
      Text.lines text = (sent.flatMap fun p =>
        ((p.2.toList.splitOn '\n').map String.ofList).modifyHead (header label p.1 ++ ·)) ∧
      ((Text.lines text).length = sent.length ↔ ∀ p ∈ sent, '\n' ∉ p.2.toList) ∧
      ((∀ p ∈ sent, '\n' ∉ p.2.toList) →
        Text.lines text = (sent.map fun p => header label p.1 ++ p.2) ∧
          (Text.lines text).map read? = sent.map some) := by
  intro console sent
  refine ⟨transcript label sent, fromUTF8?_run label v messages,
    getLast?_splitOn_transcript label sent, ?_, length_lines_transcript_iff hlabel sent, ?_⟩
  · simp only [lines_transcript, splitOn_record hlabel]
  · intro hplain
    rw [lines_transcript_of_plain hlabel hplain]
    refine ⟨rfl, ?_⟩
    rw [List.map_map]
    refine List.map_congr_left fun p _ => ?_
    rw [Function.comp_apply, read?_line hlabel]

/-- Messages that imitate a header within a line, and one of two lines that is not permitted. -/
theorem reads_back_imitating :
    let v : Verbosity := ⟨2⟩
    let messages := [(.info, "]WARN.: up"), (.debug, "left\nright"), (.error, "[12]INFO.: down")]
    (∀ c ∈ "12".toList, c.isDigit) ∧ (∀ p ∈ permitted v messages, '\n' ∉ p.2.toList) ∧
      ∃ text, String.fromUTF8?
          ((logger "12" v).run (requests messages) {}).state.held.toByteArray = some text ∧
        Text.lines text = ["[12]INFO.: ]WARN.: up", "[12]ERROR: [12]INFO.: down"] ∧
        (Text.lines text).map read? =
          [some (.info, "]WARN.: up"), some (.error, "[12]INFO.: down")] := by
  intro v messages
  have hlabel : ∀ c ∈ "12".toList, c.isDigit := by simp
  have hplain : ∀ p ∈ permitted v messages, '\n' ∉ p.2.toList := by
    simp [v, messages, permitted, Severity.rank]
  obtain ⟨text, htext, -, -, -, hlines⟩ := reads_back v "12" hlabel messages
  obtain ⟨hrecords, hread⟩ := hlines hplain
  refine ⟨hlabel, hplain, text, htext, ?_, ?_⟩
  · rw [hrecords]
    decide
  · rw [hread]
    decide

/-- One permitted message whose text is that of two. -/
theorem two_lines_of_one_message :
    let forged := [(.info, "a\n[1]ERROR: b")]
    let honest := [(.info, "a"), (.error, "b")]
    (permitted .all forged).length = 1 ∧
      ((logger "1" .all).run (requests forged) {}).state.held =
        ((logger "1" .all).run (requests honest) {}).state.held ∧
      ∃ text, String.fromUTF8?
          ((logger "1" .all).run (requests forged) {}).state.held.toByteArray = some text ∧
        Text.lines text = ["[1]INFO.: a", "[1]ERROR: b"] := by
  intro forged honest
  refine ⟨rfl, ?_, transcript "1" (permitted .all forged), fromUTF8?_run "1" .all forged, ?_⟩
  · rw [run_unbounded, run_unbounded]
    decide
  · decide

end Console

end SeverityLog
