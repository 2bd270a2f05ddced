/-
Module: OneTimePassword.Proofs.Replacement.Cause
Purpose: What a replacement blames its failure on. Whatever it does not blame on the writing of the
  content has kept it from creating the temporary file, so that nothing has changed.
Main exports: Replacement.Failure.IsOfWriting, Replacement.Stage.Accounts,
  Replacement.Course.accounts, Replacement.Attempt.files_eq_of_report
-/
import OneTimePassword.Proofs.Replacement.Course

namespace OneTimePassword.Replacement

variable {job : Replacement} {before files : FileSystem}

/-- There was a file for the content, but the content did not get into it or to its path. -/
def Failure.IsOfWriting : Failure → Prop
  | .notWritten _ | .shortWrite _ _ => True
  | .conflict _ | .notCreated _ _ | .malformedPath => False

/-- A stage that has cleaned up or is about to blames the writing. One that ended for another cause
stands at the tree that it began with, unless a path was malformed in the middle of the way. -/
def Stage.Accounts (before files : FileSystem) : Stage → Prop
  | .creating => files = before
  | .discarding cause | .retracting cause | .withdrawing cause => cause.IsOfWriting
  | .ended (.error cause) => cause.IsOfWriting ∨ cause = .malformedPath ∨ files = before
  | .writing | .closing _ | .moving | .ended (.ok ()) => True

theorem Stage.accounts_afterClosing (job : Replacement) (written : Except Errno Nat) :
    (Stage.afterClosing job written).Accounts before files := by
  cases written with
  | error e => trivial
  | ok count =>
      rw [Stage.afterClosing]
      split
      · trivial
      · trivial

/-- What a stage accounts for, the next one does too. -/
theorem Stage.Accounts.step (attempt : Attempt) {step : Step}
    (h : attempt.stage.Accounts before files) (hstep : attempt.step files = some step) :
    step.attempt.stage.Accounts before step.files := by
  obtain ⟨call, reply, opened, after, hcall, hperform, rfl⟩ := Attempt.step_eq_some_iff.mp hstep
  generalize hstage : attempt.stage = stage at h hcall
  simp only
  cases stage with
  | creating =>
      obtain rfl := Option.some.inj hcall
      obtain rfl : files = before := h
      rcases attempt.perform_create files with ⟨e, hreply⟩ | ⟨-, hreply⟩ | ⟨temp, -, hreply⟩
      · cases hreply.symm.trans hperform
        exact .inr (.inr rfl)
      · cases hreply.symm.trans hperform
        exact .inr (.inl rfl)
      · cases hreply.symm.trans hperform
        trivial
  | writing => cases reply <;> trivial
  | closing written =>
      cases reply with
      | failed e => trivial
      | done | wrote count | malformedPath => exact accounts_afterClosing attempt.job written
  | moving =>
      cases reply with
      | malformedPath => exact .inr (.inl rfl)
      | done | wrote count | failed e => trivial
  | discarding cause | withdrawing cause => exact .inl h
  | retracting cause => exact h
  | ended outcome => simp [Stage.call] at hcall

/-- On every course the stage accounts for the tree. -/
theorem Course.accounts {mayOccur : Faults → Prop} {past : List Step} {attempt : Attempt}
    (course : Course job before mayOccur past attempt files) :
    attempt.stage.Accounts before files := by
  induction course with
  | start faults => rfl
  | @next past attempt files step course faults occurs call ih =>
      exact Stage.Accounts.step { attempt with faults } ih call

/-- A replacement that does not blame the writing leaves the tree as it was, even where nothing can
be removed. -/
theorem Attempt.files_eq_of_report {faults : Faults} {cause : Failure}
    (h : (({ job, faults } : Attempt).finish before).1.report? = some (.error cause))
    (hcause : ¬ cause.IsOfWriting) : (({ job, faults } : Attempt).finish before).2 = before := by
  obtain ⟨outcome, opened, hreport, situation⟩ := finish_situation job before faults
  obtain rfl : outcome = .error cause := Option.some.inj (hreport.symm.trans h)
  by_cases hpath : cause = .malformedPath
  · -- only the very first call can meet a malformed path
    subst hpath
    generalize (({ job, faults } : Attempt).steps before).any _ = failed at situation
    generalize (({ job, faults } : Attempt).finish before).2 = after at situation ⊢
    cases situation with
    | refused => rfl
    | discarded free hne => exact absurd rfl hne
  · obtain ⟨outcome, hstage⟩ := exists_stage_finish { job, faults } before
    obtain rfl : outcome = .error cause := by simpa [report?, hstage] using h
    have start : Course job before (· = faults) [] { job, faults } before := .start faults
    have haccounts := (course_steps start rfl).1.accounts
    rw [hstage] at haccounts
    rcases haccounts with hwriting | hmalformed | hfiles
    · exact absurd hwriting hcause
    · exact absurd hmalformed hpath
    · exact hfiles

end OneTimePassword.Replacement
