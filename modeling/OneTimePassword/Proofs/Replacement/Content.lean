/-
Module: OneTimePassword.Proofs.Replacement.Content
Purpose: How little a replacement goes by the content that it writes: of two attempts with content
  of the same length, on trees of the same shape, each call is answered alike and leaves trees of
  the same shape. Elsewhere than at its two paths a replacement changes nothing.
Main exports: Replacement.Attempt.withContent, Replacement.Call.Alike, Replacement.Step.Alike,
  Replacement.Attempt.steps_alike, Replacement.journalOf_alike,
  Replacement.Attempt.lookup_finish_of_ne
-/
import Mathlib.Data.List.Forall2
import OneTimePassword.Proofs.FileSystem.Shape
import OneTimePassword.Proofs.Replacement.Course

namespace OneTimePassword.Replacement

variable {attempt : Attempt} {call call' : Call} {files files' : FileSystem} {content : String}

/-! ### Other content -/

/-- The attempt to write something else to the same place. -/
def Attempt.withContent (attempt : Attempt) (content : String) : Attempt :=
  { attempt with job := { attempt.job with content } }

/-- Calls that differ at most in the bytes that they write, not in how many these are. -/
inductive Call.Alike : Call → Call → Prop where
  | same (call : Call) : Alike call call
  | write {data data' : Bytes} (hlength : data'.length = data.length) :
      Alike (.write data) (.write data')

/-- Steps of two attempts that differ in their content: the replies tell no difference, and the
trees have the same shape. -/
structure Step.Alike (content : String) (step step' : Step) : Prop where
  call : step.call.Alike step'.call
  reply : step'.reply = step.reply
  attempt : step'.attempt = step.attempt.withContent content
  shape : step'.files.shape = step.files.shape

theorem Stage.call_alike {job : Replacement}
    (hlength : (Text.utf8 content).length = job.data.length) (stage : Stage) :
    Option.Rel Call.Alike (stage.call job) (stage.call { job with content }) := by
  cases stage with
  | writing => exact .some (.write hlength)
  | creating | closing | moving | discarding | retracting | withdrawing => exact .some (.same _)
  | ended outcome => exact .none

theorem Stage.next_withContent {job : Replacement}
    (hlength : (Text.utf8 content).length = job.data.length) (stage : Stage) (reply : Reply) :
    stage.next { job with content } reply = stage.next job reply := by
  have hdata : ({ job with content } : Replacement).data.length = job.data.length := hlength
  cases stage with
  | closing written =>
      cases reply <;> cases written <;> simp only [next, afterClosing, hdata]
  | _ => cases reply <;> rfl

/-- The same reply, the same file that is open, and trees of the same shape. -/
def SameAnswer (first second : Reply × Option Location × FileSystem) : Prop :=
  second.1 = first.1 ∧ second.2.1 = first.2.1 ∧ second.2.2.shape = first.2.2.shape

/-! ### Call by call -/

namespace Attempt

/-- A writing is answered by the number of bytes. -/
theorem perform_write_alike (attempt : Attempt) {data data' : Bytes}
    (hlength : data'.length = data.length) (hshape : files'.shape = files.shape) :
    SameAnswer (attempt.perform files (.write data)) (attempt.perform files' (.write data')) := by
  simp only [perform, hlength]
  cases attempt.opened with
  | none =>
      cases attempt.faults.write with
      | none => exact ⟨rfl, rfl, hshape⟩
      | some fault => cases fault <;> exact ⟨rfl, rfl, hshape⟩
  | some location =>
      have hput (data data' : Bytes) :
          (files'.appendTo location data').shape = (files.appendTo location data).shape := by
        simp only [FileSystem.shape_appendTo, hshape]
      cases attempt.faults.write with
      | none => exact ⟨rfl, rfl, hput data data'⟩
      | some fault =>
          cases fault with
          | fails e => exact ⟨rfl, rfl, hshape⟩
          | stopsAfter count => exact ⟨rfl, rfl, hput (data.take count) (data'.take count)⟩

/-- Calls that are alike come to the same on trees of the same shape. -/
theorem perform_alike (attempt : Attempt) (hcall : call.Alike call')
    (hshape : files'.shape = files.shape) :
    SameAnswer (attempt.perform files call) (attempt.perform files' call') := by
  cases hcall with
  | write hlength => exact attempt.perform_write_alike hlength hshape
  | same =>
      cases call with
      | write data => exact attempt.perform_write_alike rfl hshape
      | close =>
          simp only [perform]
          cases attempt.faults.close with
          | some e => exact ⟨rfl, rfl, hshape⟩
          | none => exact ⟨rfl, rfl, hshape⟩
      | create path =>
          have hcreate := FileSystem.createExclusive_shape files' path fileMode
          rw [hshape, FileSystem.createExclusive_shape] at hcreate
          simp only [perform]
          cases attempt.faults.create with
          | some e => exact ⟨rfl, rfl, hshape⟩
          | none =>
              dsimp only
              split
              · exact ⟨rfl, rfl, hshape⟩
              · cases hfirst : files.createExclusive path fileMode <;>
                  cases hsecond : files'.createExclusive path fileMode <;>
                  simp_all [SameAnswer, Except.map]
      | rename source target =>
          have hrename := FileSystem.rename_shape files' source target
          rw [hshape, FileSystem.rename_shape] at hrename
          simp only [perform]
          cases attempt.faults.rename with
          | some e => exact ⟨rfl, rfl, hshape⟩
          | none =>
              dsimp only
              split
              · exact ⟨rfl, rfl, hshape⟩
              · cases hfirst : files.rename source target <;>
                  cases hsecond : files'.rename source target <;>
                  simp_all [SameAnswer, Except.map]
      | unlink path =>
          have hunlink := FileSystem.unlink_shape files' path
          rw [hshape, FileSystem.unlink_shape] at hunlink
          simp only [perform]
          cases attempt.faults.unlink with
          | some e => exact ⟨rfl, rfl, hshape⟩
          | none =>
              dsimp only
              split
              · exact ⟨rfl, rfl, hshape⟩
              · cases hfirst : files.unlink path <;> cases hsecond : files'.unlink path <;>
                  simp_all [SameAnswer, Except.map]

/-- Both attempts make a call, or neither does. -/
theorem step_alike (hlength : (Text.utf8 content).length = attempt.job.data.length)
    (hshape : files'.shape = files.shape) :
    Option.Rel (Step.Alike content) (attempt.step files)
      ((attempt.withContent content).step files') := by
  have hcalls := Stage.call_alike hlength attempt.stage
  change Option.Rel _ (Option.map _ (attempt.stage.call attempt.job))
    (Option.map _ (attempt.stage.call { attempt.job with content }))
  generalize attempt.stage.call attempt.job = first at hcalls ⊢
  generalize attempt.stage.call { attempt.job with content } = second at hcalls ⊢
  cases hcalls with
  | none => exact .none
  | @some call call' hcall =>
      have hperform : (attempt.withContent content).perform files' call' =
          attempt.perform files' call' := by cases call' <;> rfl
      obtain ⟨hreply, hopened, hshape'⟩ := attempt.perform_alike hcall hshape
      simp only [Option.map_some, hperform]
      refine .some ⟨hcall, hreply, ?_, hshape'⟩
      simp only [withContent, hreply, hopened, Stage.next_withContent hlength]

theorem job_step {step : Step} (h : attempt.step files = some step) :
    step.attempt.job = attempt.job := by
  obtain ⟨_, _, _, _, -, -, rfl⟩ := step_eq_some_iff.mp h
  rfl

/-! ### From beginning to end -/

/-- All calls of the two attempts are alike, one after the other. -/
theorem steps_alike (attempt : Attempt)
    (hlength : (Text.utf8 content).length = attempt.job.data.length)
    (hshape : files'.shape = files.shape) :
    List.Forall₂ (Step.Alike content) (attempt.steps files)
        ((attempt.withContent content).steps files') ∧
      ((attempt.withContent content).finish files').1 =
        (attempt.finish files).1.withContent content ∧
      ((attempt.withContent content).finish files').2.shape = (attempt.finish files).2.shape := by
  fun_induction attempt.steps files generalizing files' with
  | case1 attempt files hstep =>
      have hsteps := step_alike hlength hshape
      rw [hstep] at hsteps
      have hstep' : (attempt.withContent content).step files' = none := by
        generalize (attempt.withContent content).step files' = second at hsteps
        cases hsteps
        rfl
      rw [steps_of_step_eq_none hstep', finish_of_step_eq_none hstep',
        finish_of_step_eq_none hstep]
      exact ⟨.nil, rfl, hshape⟩
  | case2 attempt files step hstep ih =>
      have hsteps := step_alike hlength hshape
      rw [hstep] at hsteps
      obtain ⟨step', hstep', alike⟩ :
          ∃ step', (attempt.withContent content).step files' = some step' ∧
            step.Alike content step' := by
        generalize (attempt.withContent content).step files' = second at hsteps
        cases hsteps with
        | some alike => exact ⟨_, rfl, alike⟩
      rw [steps_of_step_eq_some hstep', finish_of_step_eq_some hstep',
        finish_of_step_eq_some hstep, alike.attempt]
      obtain ⟨hrest, hend, htree⟩ := ih (by rwa [job_step hstep]) alike.shape
      exact ⟨.cons alike hrest, hend, htree⟩

end Attempt

/-- What is noted down of calls does not tell them apart either. -/
theorem recordsOf_alike (h : call.Alike call') (reply : Reply) :
    recordsOf call' reply = recordsOf call reply := by
  cases h with
  | same => rfl
  | write => rfl

theorem journalOf_alike {steps steps' : List Step}
    (h : List.Forall₂ (Step.Alike content) steps steps') : journalOf steps' = journalOf steps := by
  induction h with
  | nil => rfl
  | cons alike _ ih =>
      simp only [journalOf, List.flatMap_cons] at ih ⊢
      rw [ih, alike.reply, recordsOf_alike alike.call]

/-! ### Elsewhere -/

/-- Whatever has been done so far was done at the two paths. -/
theorem Situation.lookup_of_ne {job : Replacement} {before : FileSystem} {mayStick : Prop}
    {failed : Bool} {stage : Stage} {opened : Option Location} {location : Location}
    (h : Situation job before mayStick failed stage opened files)
    (htarget : before.place job.target ≠ .ok location)
    (htemp : before.place job.temp ≠ .ok location) :
    files.lookup location = before.lookup location := by
  have hne {temp : Location} (free : IsFree job before temp) : location ≠ temp := by
    rintro rfl
    exact htemp free.place_temp
  cases h with
  | start | refused => rfl
  | writing free | closing free | moving free | discarding free | retracting free =>
      exact lookup_withTemp_of_ne _ (hne free)
  | discarded free _ cleared | withdrawing free cleared => exact cleared.lookup_of_ne (hne free)
  | moved free hplace =>
      apply FileSystem.lookup_insert_of_ne
      rintro rfl
      exact htarget hplace
  | withdrawn free cleared gone =>
      rcases gone with ⟨place, hplace, -, -, rfl⟩ | ⟨rfl, -⟩
      · have hplaced : location ≠ place := by
          rintro rfl
          exact htarget hplace
        rw [FileSystem.lookup_erase_of_ne hplaced, cleared.lookup_of_ne (hne free)]
      · exact cleared.lookup_of_ne (hne free)

theorem Attempt.lookup_finish_of_ne (job : Replacement) (before : FileSystem) (faults : Faults)
    {location : Location} (htarget : before.place job.target ≠ .ok location)
    (htemp : before.place job.temp ≠ .ok location) :
    (({ job, faults } : Attempt).finish before).2.lookup location = before.lookup location := by
  obtain ⟨outcome, opened, -, situation⟩ := finish_situation job before faults
  exact situation.lookup_of_ne htarget htemp

end OneTimePassword.Replacement
