/-
Module: OneTimePassword.Proofs.Respondent.Console
Purpose: Questions at a console, put one after another, read its input line by line. Each goes on
  where the one before it stopped.
Main exports: Respondent.Reads, Respondent.Says, Respondent.Inquiry, Respondent.Inquiry.Answered,
  Respondent.Answered, Respondent.answered_replies
-/
import OneTimePassword.Proofs.Session.Retold
import OneTimePassword.Proofs.Text.Numeral

namespace OneTimePassword.Respondent

/-! ### Reading lines -/

/-- Lines that are read off a text, and what is left of it. A newline ends each of them. The last line
of the text may lack it, if it is not empty. -/
inductive Reads : String → List String → String → Prop where
  | nothing {text : String} : Reads text [] text
  | line {line text rest : String} {lines : List String} (hline : '\n' ∉ line.toList)
      (hlater : Reads text lines rest) : Reads (line ++ "\n" ++ text) (line :: lines) rest
  | unended {line : String} (hline : '\n' ∉ line.toList) (hnonempty : line ≠ "") :
      Reads line [line] ""

variable {line text rest : String} {lines first later : List String}

theorem linesOf_line (hline : '\n' ∉ line.toList) (text : String) :
    linesOf (line ++ "\n" ++ text) = line :: linesOf text := by
  have hsplit : (line ++ "\n" ++ text).toList.splitOn '\n' =
      line.toList :: text.toList.splitOn '\n' := by
    have hnewline : "\n".toList = ['\n'] := rfl
    rw [String.toList_append, String.toList_append, hnewline, List.append_assoc,
      List.singleton_append, List.splitOn_append_cons_self_of_not_mem hline]
  obtain ⟨piece, pieces, hpieces⟩ :=
    List.exists_cons_of_ne_nil (List.splitOn_ne_nil '\n' text.toList)
  simp only [linesOf, hsplit, hpieces, List.getLast?_cons_cons, List.dropLast_cons_cons]
  split
  · rw [List.map_cons, String.ofList_toList]
  · rw [List.map_cons, String.ofList_toList]

theorem linesOf_unended (hline : '\n' ∉ line.toList) (hnonempty : line ≠ "") :
    linesOf line = [line] := by
  have hnil : line.toList ≠ [] := fun h => hnonempty (String.toList_eq_nil_iff.mp h)
  simp [linesOf, List.splitOn_eq_singleton hline, hnil]

/-- A text is at its end, or it starts with a line. -/
theorem text_cases (text : String) :
    text = "" ∨ (∃ line rest, text = line ++ "\n" ++ rest ∧ '\n' ∉ line.toList) ∨
      (text ≠ "" ∧ '\n' ∉ text.toList) := by
  by_cases hnewline : '\n' ∈ text.toList
  · obtain ⟨line, rest, htext, hline⟩ := List.eq_append_cons_of_mem hnewline
    refine .inr (.inl ⟨String.ofList line, String.ofList rest, ?_, ?_⟩)
    · apply String.toList_inj.mp
      rw [htext]
      simp
    · rwa [String.toList_ofList]
  · by_cases hempty : text = ""
    · exact .inl hempty
    · exact .inr (.inr ⟨hempty, hnewline⟩)

theorem eq_empty_of_linesOf (h : linesOf text = []) : text = "" := by
  rcases text_cases text with hempty | ⟨line, rest, rfl, hline⟩ | ⟨hnonempty, hline⟩
  · exact hempty
  · rw [linesOf_line hline] at h
    exact absurd h (List.cons_ne_nil _ _)
  · rw [linesOf_unended hline hnonempty] at h
    exact absurd h (List.cons_ne_nil _ _)

/-- The first lines of a text can be read off it. -/
theorem exists_reads (h : linesOf text = first ++ later) :
    ∃ rest, Reads text first rest ∧ linesOf rest = later := by
  induction first generalizing text with
  | nil => exact ⟨text, .nothing, h⟩
  | cons line lines ih =>
      rcases text_cases text with rfl | ⟨start, behind, rfl, hstart⟩ | ⟨hnonempty, hline⟩
      · exact absurd h nofun
      · rw [linesOf_line hstart] at h
        obtain ⟨rfl, hlater⟩ := List.cons.inj h
        obtain ⟨rest, hread, hrest⟩ := ih hlater
        exact ⟨rest, .line hstart hread, hrest⟩
      · rw [linesOf_unended hline hnonempty] at h
        obtain ⟨rfl, hlater⟩ := List.cons.inj h
        obtain ⟨rfl, rfl⟩ := List.append_eq_nil_iff.mp hlater.symm
        exact ⟨"", .unended hline hnonempty, rfl⟩

/-! ### Single questions -/

/-- Whether a line answers yes or no: it starts with the answer's letter, small or capital. -/
def Says (line : String) (answer : Bool) : Prop :=
  ∃ c, line.toList.head? = some c ∧ c ∈ if answer then ['y', 'Y'] else ['n', 'N']

theorem yesNo?_eq_some_iff {answer : Bool} : yesNo? line = some answer ↔ Says line answer := by
  unfold yesNo? Says
  cases line.toList.head? with
  | none => simp
  | some c =>
      cases answer with
      | false => split <;> simp_all
      | true => split <;> simp_all

theorem not_says_iff : yesNo? line = none ↔ ∀ answer, ¬ Says line answer := by
  simp only [Option.eq_none_iff_forall_ne_some, ne_eq, yesNo?_eq_some_iff]

/-- A text a number of times. -/
def times (count : Nat) (text : String) : String := String.join (List.replicate count text)

theorem times_succ (count : Nat) (text : String) :
    times (count + 1) text = text ++ times count text := by
  rw [times, List.replicate_succ, String.join_cons]
  rfl

/-- The lines up to the first answer are passed, or all of them. -/
theorem seekAnswer_cases (question : String) (atEnd : Stop) (lines : List String) :
    (∃ passed line later answer, lines = passed ++ line :: later ∧
      (∀ other ∈ passed, yesNo? other = none) ∧ yesNo? line = some answer ∧
      seekAnswer question atEnd lines =
        ⟨.ok answer, .console later atEnd, times (passed.length + 1) question⟩) ∨
    ((∀ other ∈ lines, yesNo? other = none) ∧ seekAnswer question atEnd lines =
      ⟨.error atEnd, .console [] atEnd, times (lines.length + 1) question ++ closing atEnd⟩) := by
  induction lines with
  | nil =>
      refine .inr ⟨List.forall_mem_nil _, ?_⟩
      rw [seekAnswer, List.length_nil, times_succ]
      simp [times]
  | cons line later ih =>
      rw [seekAnswer]
      cases hline : yesNo? line with
      | some answer =>
          refine .inl ⟨[], line, later, answer, rfl, List.forall_mem_nil _, hline, ?_⟩
          rw [List.length_nil, times_succ]
          simp [times]
      | none =>
          rcases ih with
            ⟨passed, answering, rest, answer, rfl, hpassed, hanswer, hseek⟩ | ⟨hlater, hseek⟩
          · refine .inl ⟨line :: passed, answering, rest, answer, rfl,
              List.forall_mem_cons.mpr ⟨hline, hpassed⟩, hanswer, ?_⟩
            rw [hseek, List.length_cons, times_succ (passed.length + 1)]
          · refine .inr ⟨List.forall_mem_cons.mpr ⟨hline, hlater⟩, ?_⟩
            rw [hseek, List.length_cons, times_succ (later.length + 1), String.append_assoc]

/-- A question that wants a yes or a no, or a number. -/
inductive Inquiry where
  | whether (message : String)
  | number (message : String)
deriving Repr, DecidableEq

namespace Inquiry

/-- Put the question. -/
def put : Inquiry → Respondent → Reply Answer
  | .whether message, respondent =>
      let reply := askWhether message respondent
      { reply with outcome := reply.outcome.map Answer.whether }
  | .number message, respondent =>
      let reply := askNumber message respondent
      { reply with outcome := reply.outcome.map Answer.number }

/-- What becomes of a question at a console with this text still to be read, and what of the text is
left after it. -/
inductive Answered (atEnd : Stop) : Inquiry → String → Reply Answer → String → Prop where
  | whether {message text line rest : String} {passed : List String} {answer : Bool}
      (hread : Reads text (passed ++ [line]) rest)
      (hpassed : ∀ other ∈ passed, ∀ answer, ¬ Says other answer) (hline : Says line answer) :
      Answered atEnd (.whether message) text
        ⟨.ok (.whether answer), .console (linesOf rest) atEnd,
          "\n" ++ times (passed.length + 1) (message ++ " (y/n) ")⟩ rest
  | whetherStopped {message text : String} {lines : List String} (hread : Reads text lines "")
      (hlines : ∀ line ∈ lines, ∀ answer, ¬ Says line answer) :
      Answered atEnd (.whether message) text
        ⟨.error atEnd, .console [] atEnd,
          "\n" ++ times (lines.length + 1) (message ++ " (y/n) ") ++ closing atEnd⟩ ""
  | number {message text line rest : String} {number : Option Int} (hread : Reads text [line] rest)
      (hnumber : ∀ n, number = some n ↔ Text.IsNumeral line.toList n) :
      Answered atEnd (.number message) text
        ⟨.ok (.number number), .console (linesOf rest) atEnd, message ++ " "⟩ rest
  | numberStopped {message : String} :
      Answered atEnd (.number message) ""
        ⟨.error atEnd, .console [] atEnd, message ++ " " ++ closing atEnd⟩ ""

/-- A question reads whole lines only. -/
theorem answered_put (inquiry : Inquiry) (atEnd : Stop) (text : String) :
    ∃ rest, inquiry.Answered atEnd text (inquiry.put (.console (linesOf text) atEnd)) rest ∧
      (inquiry.put (.console (linesOf text) atEnd)).respondent = .console (linesOf rest) atEnd := by
  cases inquiry with
  | whether message =>
      rw [put, askWhether]
      rcases seekAnswer_cases (message ++ " (y/n) ") atEnd (linesOf text) with
        ⟨passed, line, later, answer, hlines, hpassed, hanswer, hseek⟩ | ⟨hnone, hseek⟩
      · rw [List.append_cons] at hlines
        obtain ⟨rest, hread, rfl⟩ := exists_reads hlines
        rw [hseek]
        refine ⟨rest, .whether hread (fun other hother => ?_) (yesNo?_eq_some_iff.mp hanswer), rfl⟩
        exact not_says_iff.mp (hpassed other hother)
      · obtain ⟨rest, hread, hrest⟩ := exists_reads (List.append_nil (linesOf text)).symm
        obtain rfl := eq_empty_of_linesOf hrest
        rw [hseek, ← String.append_assoc]
        refine ⟨"", .whetherStopped hread fun line hline => ?_, rfl⟩
        exact not_says_iff.mp (hnone line hline)
  | number message =>
      cases hlines : linesOf text with
      | nil =>
          obtain rfl := eq_empty_of_linesOf hlines
          exact ⟨"", .numberStopped, rfl⟩
      | cons line later =>
          obtain ⟨rest, hread, rfl⟩ := exists_reads (hlines.trans (List.singleton_append).symm)
          refine ⟨rest, .number hread fun n => ?_, rfl⟩
          exact Text.readInteger?_eq_some_iff

end Inquiry

/-! ### Questions one after another -/

/-- The replies to questions. Each is put to the respondent that the one before it left, also where
that had no answer. -/
def replies : List Inquiry → Respondent → List (Reply Answer)
  | [], _ => []
  | inquiry :: later, respondent =>
      let reply := inquiry.put respondent
      reply :: replies later reply.respondent

/-- Replies to questions, each from where the one before it left the text. -/
inductive Answered (atEnd : Stop) : List Inquiry → String → List (Reply Answer) → String → Prop where
  | done {text : String} : Answered atEnd [] text [] text
  | next {inquiry : Inquiry} {inquiries : List Inquiry} {text middle rest : String}
      {reply : Reply Answer} {later : List (Reply Answer)}
      (hfirst : inquiry.Answered atEnd text reply middle)
      (hlater : Answered atEnd inquiries middle later rest) :
      Answered atEnd (inquiry :: inquiries) text (reply :: later) rest

/-- No sequence of questions loses a line of the text, skips one or reads one twice. -/
theorem answered_replies (atEnd : Stop) (inquiries : List Inquiry) (text : String) :
    ∃ rest, Answered atEnd inquiries text (replies inquiries (.console (linesOf text) atEnd)) rest := by
  induction inquiries generalizing text with
  | nil => exact ⟨text, .done⟩
  | cons inquiry inquiries ih =>
      obtain ⟨middle, hfirst, hleft⟩ := inquiry.answered_put atEnd text
      obtain ⟨rest, hlater⟩ := ih middle
      rw [← hleft] at hlater
      exact ⟨rest, .next hfirst hlater⟩

end OneTimePassword.Respondent
