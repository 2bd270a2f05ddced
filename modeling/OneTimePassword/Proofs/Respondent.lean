/-
Module: OneTimePassword.Proofs.Respondent
Purpose: When a question goes unanswered, and respondents that give the same answers.
Main exports: Respondent.codeQuestion, Respondent.IsPatient, Respondent.Alike,
  Respondent.AskedBefore, Respondent.alike_askedBefore
-/
import OneTimePassword.Respondent

namespace OneTimePassword.Respondent

/-- The question that is answered by a code; all others want a yes or a no. -/
def codeQuestion : String := "Enter code from app (-1 to skip):"

/-! ### Questions without an answer -/

/-- How the input of a console ends. -/
def ending? : Respondent → Option Stop
  | .console _ atEnd => some atEnd
  | .scripted _ _ _ => none

/-- A question goes unanswered only where the input ends, and does not change how it does. -/
def IsPatient {α : Type} (question : Respondent → Reply α) : Prop :=
  ∀ respondent, (question respondent).respondent.ending? = respondent.ending? ∧
    ∀ stop, (question respondent).outcome = .error stop → respondent.ending? = some stop

theorem isPatient_askWhether (message : String) : IsPatient (askWhether message) := by
  intro respondent
  cases respondent with
  | console lines atEnd =>
      have hseek : (seekAnswer (message ++ " (y/n) ") atEnd lines).respondent.ending? = some atEnd ∧
          ∀ stop, (seekAnswer (message ++ " (y/n) ") atEnd lines).outcome = .error stop →
            some atEnd = some stop := by
        induction lines with
        | nil => exact ⟨rfl, fun stop h => congrArg some (Except.error.inj h)⟩
        | cons line rest ih =>
            rw [seekAnswer]
            cases yesNo? line with
            | none => exact ih
            | some answer => exact ⟨rfl, fun stop h => by cases h⟩
      exact hseek
  | scripted yesNo numbers asked => exact ⟨rfl, fun stop h => by cases h⟩

theorem isPatient_askNumber (message : String) : IsPatient (askNumber message) := by
  intro respondent
  cases respondent with
  | console lines atEnd =>
      cases lines with
      | nil => exact ⟨rfl, fun stop h => congrArg some (Except.error.inj h)⟩
      | cons line rest => exact ⟨rfl, fun stop h => by cases h⟩
  | scripted yesNo numbers asked =>
      cases numbers with
      | nil => exact ⟨rfl, fun stop h => by cases h⟩
      | cons number later => exact ⟨rfl, fun stop h => by cases h⟩

/-! ### The same answers -/

/-- Replies that differ in the respondent that is left only. -/
structure Reply.Alike {α : Type} (r : Respondent → Respondent → Prop) (p q : Reply α) : Prop where
  outcome : p.outcome = q.outcome
  printed : p.printed = q.printed
  respondent : r p.respondent q.respondent

/-- Related respondents give the same answers to every question, and are related after it. -/
structure Alike (r : Respondent → Respondent → Prop) : Prop where
  numbersLeft {a b : Respondent} : r a b → a.numbersLeft = b.numbersLeft
  askWhether (message : String) {a b : Respondent} :
    r a b → (askWhether message a).Alike r (askWhether message b)
  askNumber (message : String) {a b : Respondent} :
    r a b → (askNumber message a).Alike r (askNumber message b)

/-- Scripts of which the second was asked a question before all else. -/
def AskedBefore (question : String) (a b : Respondent) : Prop :=
  ∃ yesNo numbers asked, a = .scripted yesNo numbers asked ∧
    b = .scripted yesNo numbers (question :: asked)

/-- What a script was asked before does not matter to its answers. -/
theorem alike_askedBefore (question : String) : Alike (AskedBefore question) where
  numbersLeft := by
    rintro _ _ ⟨yesNo, numbers, asked, rfl, rfl⟩
    rfl
  askWhether message := by
    rintro _ _ ⟨yesNo, numbers, asked, rfl, rfl⟩
    exact ⟨rfl, rfl, _, numbers, _, rfl, rfl⟩
  askNumber message := by
    rintro _ _ ⟨yesNo, numbers, asked, rfl, rfl⟩
    cases numbers with
    | nil => exact ⟨rfl, rfl, yesNo, [], _, rfl, rfl⟩
    | cons number later => exact ⟨rfl, rfl, yesNo, later, _, rfl, rfl⟩

end OneTimePassword.Respondent
