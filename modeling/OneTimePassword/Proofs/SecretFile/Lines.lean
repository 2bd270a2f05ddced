/-
Module: OneTimePassword.Proofs.SecretFile.Lines
Purpose: The lines of a secret file: what makes them lines, how long they get, and that the file's
  text gives them back.
Main exports: Respondent.linesOf_join, SecretFile.linesOf_text, SecretFile.insertDirective_eq_ok_iff,
  SecretFile.lines_of_insertDirective, SecretFile.append_eq_ok_iff, SecretFile.lines_of_append,
  SecretFile.addMode_eq_ok_iff, SecretFile.size_above, SecretFile.size_behind
-/
import Mathlib.Algebra.GroupWithZero.Nat
import OneTimePassword.Proofs.Text.Decimal
import OneTimePassword.Respondent
import OneTimePassword.SecretFile.Basic

namespace OneTimePassword

/-! ### Lines and text -/

/-- Lines that are each ended by a newline are found again in the whole. -/
theorem Respondent.linesOf_join {lines : List String} (h : ∀ line ∈ lines, '\n' ∉ line.toList) :
    linesOf (String.join (lines.map (· ++ "\n"))) = lines := by
  have hsplit : (String.join (lines.map (· ++ "\n"))).toList.splitOn '\n' =
      lines.map String.toList ++ [[]] := by
    induction lines with
    | nil => rfl
    | cons line rest ih =>
        have hline : '\n' ∉ line.toList := h line List.mem_cons_self
        have hrest := ih fun other hother => h other (List.mem_cons_of_mem _ hother)
        rw [String.toList_join] at hrest ⊢
        have hnewline : "\n".toList = ['\n'] := rfl
        rw [List.map_cons, List.flatMap_cons, String.toList_append, hnewline, List.append_assoc,
          List.singleton_append, List.splitOn_append_cons_self_of_not_mem hline, hrest]
        rfl
  simp only [linesOf, hsplit, List.getLast?_append, List.getLast?_singleton, Option.some_or, if_true,
    List.dropLast_concat, List.map_map]
  simp

namespace Directive

theorem newline_notMem_line (directive : Directive) : '\n' ∉ directive.line.toList := by
  cases directive with
  | disallowReuse => decide +kernel
  | stepSize seconds => simp [line, mark, Text.newline_notMem_decimal]
  | windowSize codes => simp [line, mark, Text.newline_notMem_decimal]
  | rateLimit attempts seconds => simp [line, mark, Text.newline_notMem_decimal]

/-! ### Sizes -/

theorem lineSize_stepSize_le {seconds most : Nat} (h : seconds ≤ most) :
    lineSize (stepSize seconds).line ≤ lineSize (stepSize most).line := by
  have := Text.length_decimalNat_mono h
  simp only [lineSize, line, String.length_append, Text.decimal_natCast]
  omega

theorem lineSize_windowSize_le {codes most : Nat} (h : codes ≤ most) :
    lineSize (windowSize codes).line ≤ lineSize (windowSize most).line := by
  have := Text.length_decimalNat_mono h
  simp only [lineSize, line, String.length_append, Text.decimal_natCast]
  omega

theorem lineSize_rateLimit_le {attempts seconds most longest : Nat} (hattempts : attempts ≤ most)
    (hseconds : seconds ≤ longest) :
    lineSize (rateLimit attempts seconds).line ≤ lineSize (rateLimit most longest).line := by
  have := Text.length_decimalNat_mono hattempts
  have := Text.length_decimalNat_mono hseconds
  simp only [lineSize, line, String.length_append, Text.decimal_natCast]
  omega

end Directive

theorem Mode.newline_notMem_line (mode : Mode) : '\n' ∉ mode.line.toList := by
  cases mode with
  | timeBased => decide +kernel
  | counterBased => simp [line, Directive.mark, Text.newline_notMem_decimalNat]

/-- No directive reads as a mode line. -/
theorem Directive.line_ne_mode_line (directive : Directive) (mode : Mode) :
    directive.line ≠ mode.line := by
  intro h
  have hthird := congrArg (fun text : String => text.toList[2]?) h
  cases directive <;> cases mode <;> simp [line, Mode.line, mark] at hthird

namespace ScratchCode

theorem lineSize_display {code : Nat} (haccepted : IsAccepted code) (hcode : code < modulus) :
    lineSize (display code) = width + 1 := by
  rw [lineSize, display_eq_decimalNat haccepted hcode, length_decimalNat_of_isAccepted haccepted hcode]

end ScratchCode

namespace SecretFile

variable {file : SecretFile} {line : String}

theorem size_eq_sum (file : SecretFile) : file.size = (file.lines.map lineSize).sum := by
  rw [size, List.sum, List.foldr_map]

theorem size_above (file : SecretFile) (lines : List String) :
    { file with directives := lines ++ file.directives }.size =
      file.size + (lines.map lineSize).sum := by
  simp only [size_eq_sum, SecretFile.lines, List.map_cons, List.map_append, List.sum_cons,
    List.sum_append]
  omega

theorem size_behind (file : SecretFile) (lines : List String) :
    { file with entries := file.entries ++ lines }.size =
      file.size + (lines.map lineSize).sum := by
  simp only [size_eq_sum, SecretFile.lines, List.map_cons, List.map_append, List.sum_cons,
    List.sum_append]
  omega

/-! ### Adding lines -/

theorem stripNewlines_of_notMem (h : '\n' ∉ line.toList) : stripNewlines line = line := by
  have hreverse : line.toList.reverse.dropWhile (· == '\n') = line.toList.reverse := by
    cases hline : line.toList.reverse with
    | nil => rfl
    | cons c rest =>
        have hc : c ≠ '\n' := by
          rintro rfl
          exact h (List.mem_reverse.mp (hline ▸ List.mem_cons_self))
        simp [hc]
  simp [stripNewlines, hreverse]

theorem length_stripNewlines_le (line : String) : (stripNewlines line).length ≤ line.length := by
  have hle := (List.dropWhile_suffix (· == '\n') (l := line.toList.reverse)).length_le
  rw [List.length_reverse, String.length_toList] at hle
  simpa [stripNewlines] using hle

theorem insertDirective_eq_ok_iff {file' : SecretFile} :
    file.insertDirective line = .ok file' ↔
      file.Fits (stripNewlines line) ∧
        file' = { file with directives := stripNewlines line :: file.directives } := by
  by_cases fits : file.Fits (stripNewlines line)
  · simp [insertDirective, fits, eq_comm]
  · simp [insertDirective, fits]

/-- Among the lines a directive goes to the second place, whatever others there are. -/
theorem lines_of_insertDirective {file' : SecretFile} (h : file.insertDirective line = .ok file') :
    file'.lines = file.lines.insertIdx 1 (stripNewlines line) := by
  obtain ⟨-, rfl⟩ := insertDirective_eq_ok_iff.mp h
  rfl

theorem insertDirective_eq_ok (h : '\n' ∉ line.toList) (fits : file.Fits line) :
    file.insertDirective line = .ok { file with directives := line :: file.directives } := by
  rw [insertDirective_eq_ok_iff, stripNewlines_of_notMem h]
  exact ⟨fits, rfl⟩

theorem append_eq_ok_iff {file' : SecretFile} :
    file.append line = .ok file' ↔
      file.Fits line ∧ file' = { file with entries := file.entries ++ [line] } := by
  by_cases fits : file.Fits line
  · simp [append, fits, eq_comm]
  · simp [append, fits]

/-- Among the lines an entry goes to the end. -/
theorem lines_of_append {file' : SecretFile} (h : file.append line = .ok file') :
    file'.lines = file.lines ++ [line] := by
  obtain ⟨-, rfl⟩ := append_eq_ok_iff.mp h
  simp [lines]

theorem addMode_eq_ok_iff {file' : SecretFile} {mode : Mode} :
    file.addMode mode = .ok file' ↔
      file.hasMode = false ∧ file.Fits mode.line ∧
        file' = { file with entries := file.entries ++ [mode.line] } := by
  rw [addMode]
  cases hmode : file.hasMode with
  | true => simp
  | false => simp [append_eq_ok_iff]

/-- The text of a file gives its lines back. -/
theorem linesOf_text (h : ∀ line ∈ file.lines, '\n' ∉ line.toList) :
    Respondent.linesOf file.text = file.lines :=
  Respondent.linesOf_join h

end SecretFile

end OneTimePassword
