/-
Module: OneTimePassword.Proofs.SecretFile.Reader
Purpose: What a login goes by that has nothing but the text of a secret file: the secret, the time
  step and the counter. They are those that the file was put together with.
Main exports: SecretFile.secretOf?, SecretFile.stepOf, SecretFile.counterOf?,
  SecretFile.readable_compose
-/
import Mathlib.Data.List.Basic
import OneTimePassword.Proofs.SecretFile.Content
import OneTimePassword.Proofs.Settings.Validation
import OneTimePassword.Proofs.Text.Integer
import OneTimePassword.Proofs.Text.Plain

namespace OneTimePassword.SecretFile

open SetupM (runOn)

/-! ### Reading a text -/

/-- The secret stands on the first line. -/
def secretOf? (text : String) : Option String := (Respondent.linesOf text).head?

/-- What stands in front of the number on a line. -/
def lead (keyword : String) : List Char := (Directive.mark ++ keyword ++ " ").toList

/-- The number that a line states behind a keyword. -/
def numberOn? (keyword line : String) : Option Int :=
  ((lead keyword).isPrefixOf? line.toList).bind Text.readInteger?

/-- The number on the first line that states one behind a keyword. -/
def number? (keyword text : String) : Option Int :=
  (Respondent.linesOf text).findSome? (numberOn? keyword)

/-- The length of a time step, which is 30 seconds unless a line says something else. -/
def stepOf (text : String) : Int := (number? "STEP_SIZE" text).getD 30

/-- The counter of the next code. -/
def counterOf? (text : String) : Option Int := number? "HOTP_COUNTER" text

/-! ### Lines with and without a number -/

variable {keyword line : String} {directive : Directive} {mode : Mode}

/-- A line that differs from the keyword somewhere states no number behind it. -/
theorem numberOn?_eq_none {c : Char} (place : Nat) (hlead : (lead keyword)[place]? = some c)
    (hline : line.toList[place]? ≠ some c) : numberOn? keyword line = none := by
  cases hprefix : (lead keyword).isPrefixOf? line.toList with
  | none => rw [numberOn?, hprefix, Option.bind_none]
  | some rest =>
      rw [List.isPrefixOf?_eq_some_iff_append_eq] at hprefix
      rw [← hprefix, List.getElem?_append_left (List.getElem?_eq_some_iff.mp hlead).1] at hline
      exact absurd hlead hline

theorem numberOn?_eq (h : line.toList = lead keyword ++ number) :
    numberOn? keyword line = Text.readInteger? number := by
  have hprefix := List.isPrefixOf?_eq_some_iff_append_eq.mpr h.symm
  rw [numberOn?, hprefix, Option.bind_some]

/-- Lines without a mark state no number. -/
theorem numberOn?_of_unmarked (h : '"' ∉ line.toList) : numberOn? keyword line = none := by
  apply numberOn?_eq_none 0
  · rw [lead, String.toList_append, String.toList_append]
    rfl
  · intro hfirst
    exact h (List.mem_of_getElem? hfirst)

theorem numberOn?_encode (raw : Bytes) : numberOn? keyword (Base32.encode raw) = none :=
  numberOn?_of_unmarked ((Text.isPlain_encode raw).notMem rfl)

theorem numberOn?_display (code : Nat) : numberOn? keyword (ScratchCode.display code) = none := by
  apply numberOn?_of_unmarked
  intro hmark
  exact absurd (Text.isDigit_of_mem_zeroPadded hmark) (by decide)

/-- A number in decimal that is not too long is the number of its line. -/
theorem numberOn?_decimal {number : Int}
    (hline : line = Directive.mark ++ keyword ++ " " ++ Text.decimal number)
    (h : (Text.decimalNat number.natAbs).length ≤ Text.maxIntegerDigits) :
    numberOn? keyword line = some number := by
  have hsplit : line.toList = lead keyword ++ (Text.decimal number).toList := by
    rw [hline, String.toList_append, lead]
  rw [numberOn?_eq hsplit, Text.readInteger?_decimal h]

/-- The time step of a directive is read back, and no other directive is taken for one. -/
theorem numberOn?_directive
    (h : ∀ seconds ∈ directive.seconds?,
      (Text.decimalNat seconds.natAbs).length ≤ Text.maxIntegerDigits) :
    numberOn? "STEP_SIZE" directive.line = directive.seconds? := by
  cases directive with
  | disallowReuse => decide +kernel
  | windowSize codes =>
      apply numberOn?_eq_none 2 (c := 'S') (by decide +kernel)
      simp [Directive.line, Directive.mark]
  | rateLimit attempts seconds =>
      apply numberOn?_eq_none 2 (c := 'S') (by decide +kernel)
      simp [Directive.line, Directive.mark]
  | stepSize seconds => exact numberOn?_decimal rfl (h seconds rfl)

/-- No directive is taken for a counter. -/
theorem counterOn?_directive (directive : Directive) :
    numberOn? "HOTP_COUNTER" directive.line = none := by
  apply numberOn?_eq_none 2 (c := 'H') (by decide +kernel)
  cases directive with
  | disallowReuse => decide +kernel
  | windowSize codes => simp [Directive.line, Directive.mark]
  | rateLimit attempts seconds => simp [Directive.line, Directive.mark]
  | stepSize seconds => simp [Directive.line, Directive.mark]

/-! ### What was put together is read -/

variable {file : SecretFile} {options : Options} {raw : Bytes} {codes : List Nat} {s t : Session}

/-- The lines of the text are those that the file was put together from. -/
theorem linesOf_compose
    (h : runOn (compose (Base32.encode raw) mode (codes.map Int.ofNat) options) s = (.ok file, t)) :
    ∃ directives : List Directive,
      directives.filterMap Directive.seconds? = Policy.statedSteps mode options ∧
      Respondent.linesOf file.text = Base32.encode raw :: (directives.map Directive.line ++
        mode.line :: (codes.map Int.ofNat).map ScratchCode.display) := by
  obtain ⟨directives, hstated, hlines⟩ :=
    compose_states (Base32.newline_notMem_encode raw) h
  refine ⟨directives, hstated, ?_⟩
  rw [linesOf_text, hlines]
  intro line hline
  rw [hlines] at hline
  simp only [List.mem_cons, List.mem_append, List.mem_map] at hline
  rcases hline with rfl | ⟨directive, -, rfl⟩ | rfl | ⟨code, -, rfl⟩
  · exact Base32.newline_notMem_encode raw
  · exact directive.newline_notMem_line
  · exact mode.newline_notMem_line
  · exact Text.newline_notMem_zeroPadded _ _

/-- Neither the secret nor the codes state a number, so it is looked for between them. -/
theorem number?_of_lines {text : String} {directives : List Directive}
    (h : Respondent.linesOf text = Base32.encode raw :: (directives.map Directive.line ++
      mode.line :: (codes.map Int.ofNat).map ScratchCode.display)) :
    number? keyword text =
      (directives.findSome? fun directive => numberOn? keyword directive.line).or
        (numberOn? keyword mode.line) := by
  have hcodes : ((codes.map Int.ofNat).map ScratchCode.display).findSome? (numberOn? keyword) =
      none := by
    rw [List.findSome?_map, List.findSome?_map, List.findSome?_eq_none_iff]
    exact fun code _ => numberOn?_display code
  rw [number?, h, List.findSome?_cons, numberOn?_encode, List.findSome?_append, List.findSome?_map,
    List.findSome?_cons, hcodes]
  cases numberOn? keyword mode.line <;> rfl

/-- The steps that a file states lead to the step of the options. -/
theorem head?_statedSteps (options : Options) :
    (Policy.statedSteps .timeBased options).head?.getD 30 =
      (options.stepSize.getD Totp.defaultStep : Nat) := by
  unfold Policy.statedSteps
  cases options.stepSize with
  | none => rfl
  | some seconds =>
      by_cases husual : seconds = Totp.defaultStep
      · simp [husual, Totp.defaultStep]
      · simp [husual]

/-- Options that passed the check lead to time steps that are not too long to be read. -/
theorem length_statedSteps_le (consistent : options.IsConsistent) {seconds : Int}
    (h : seconds ∈ Policy.statedSteps mode options) :
    (Text.decimalNat seconds.natAbs).length ≤ Text.maxIntegerDigits := by
  unfold Policy.statedSteps at h
  split at h
  · rename_i given hgiven
    have hmost : given ≤ Quantity.stepSize.greatest := (consistent.step given hgiven).1.2
    split at h
    · cases h
    · obtain rfl := List.mem_singleton.mp h
      calc (Text.decimalNat given).length
          ≤ (Text.decimalNat Quantity.stepSize.greatest).length :=
            Text.length_decimalNat_mono hmost
        _ ≤ Text.maxIntegerDigits := by decide +kernel
  · cases h

/-- A secret file says what it was put together with: the secret, and, by its mode, the time step or
the first counter. -/
theorem readable_compose (consistent : options.IsConsistent)
    (h : runOn (compose (Base32.encode raw) mode (codes.map Int.ofNat) options) s = (.ok file, t)) :
    secretOf? file.text = some (Base32.encode raw) ∧
      (mode = .timeBased → stepOf file.text = (options.stepSize.getD Totp.defaultStep : Nat)) ∧
      (mode = .counterBased → counterOf? file.text = some (Mode.firstCounter : Nat)) := by
  obtain ⟨directives, hstated, hlines⟩ := linesOf_compose h
  refine ⟨?_, ?_, ?_⟩
  · rw [secretOf?, hlines, List.head?_cons]
  · rintro rfl
    have hread : ∀ directive ∈ directives,
        numberOn? "STEP_SIZE" directive.line = directive.seconds? := by
      intro directive hdirective
      apply numberOn?_directive
      intro seconds hseconds
      apply length_statedSteps_le consistent
      rw [← hstated]
      exact List.mem_filterMap.mpr ⟨directive, hdirective, hseconds⟩
    have hfirst : directives.findSome? (fun directive => numberOn? "STEP_SIZE" directive.line) =
        (directives.filterMap Directive.seconds?).head? := by
      rw [← List.head?_filterMap, List.filterMap_congr hread]
    have hmode : numberOn? "STEP_SIZE" Mode.timeBased.line = none := by decide +kernel
    rw [stepOf, number?_of_lines hlines, hfirst, hmode, Option.or_none, hstated,
      head?_statedSteps]
  · rintro rfl
    have hmode : numberOn? "HOTP_COUNTER" Mode.counterBased.line = some Mode.firstCounter := by
      decide +kernel
    have hnone : directives.findSome? (fun directive => numberOn? "HOTP_COUNTER" directive.line) =
        none := by
      rw [List.findSome?_eq_none_iff]
      exact fun directive _ => counterOn?_directive directive
    rw [counterOf?, number?_of_lines hlines, hnone, hmode, Option.none_or]

end OneTimePassword.SecretFile
