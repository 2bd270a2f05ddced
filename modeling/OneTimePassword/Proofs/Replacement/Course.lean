/-
Module: OneTimePassword.Proofs.Replacement.Course
Purpose: The points that a replacement passes through, and the tree at each of them. At every call the
  tree differs from the first one by the temporary file at most, until the move succeeds or a cleanup
  takes the target away.
Main exports: Replacement.Course, Replacement.Situation, Replacement.Situation.step,
  Replacement.Course.situation, Replacement.Attempt.course_steps,
  Replacement.Attempt.finish_situation, Replacement.Attempt.finish_of_free,
  Replacement.Attempt.finish_of_failed_move
-/
import OneTimePassword.Proofs.Replacement.TempFile

namespace OneTimePassword.Replacement

open Attempt (IsWellFormed)
open FileSystem (KeepsWays)

variable {job : Replacement} {before files after : FileSystem} {temp place : Location}

/-- Whether the call was a move that did not succeed. -/
def Step.isFailedRename (step : Step) : Bool :=
  match step.call, step.reply with
  | .rename _ _, .failed _ => true
  | _, _ => false

/-- The calls of a replacement up to some point, and what there is at that point. Each call meets
faults of its own, of the kind that may occur. -/
inductive Course (job : Replacement) (before : FileSystem) (mayOccur : Faults → Prop) :
    List Step → Attempt → FileSystem → Prop where
  | start (faults : Faults) : Course job before mayOccur [] { job, faults } before
  | next {past : List Step} {attempt : Attempt} {files : FileSystem} {step : Step}
      (course : Course job before mayOccur past attempt files) (faults : Faults)
      (occurs : mayOccur faults) (call : ({ attempt with faults } : Attempt).step files = some step) :
      Course job before mayOccur (past ++ [step]) step.attempt step.files

/-- The temporary file has been taken away, unless removals may fail. -/
def IsCleared (before : FileSystem) (temp : Location) (content : Bytes) (mayStick : Prop)
    (files : FileSystem) : Prop :=
  files = before ∨ mayStick ∧ files = withTemp before temp content

/-- A file or link at the target has been taken away, unless removals may fail. -/
def IsWithdrawn (job : Replacement) (before : FileSystem) (temp : Location) (mayStick : Prop)
    (files after : FileSystem) : Prop :=
  (∃ place, before.place job.target = .ok place ∧ before.IsRemovable place ∧ place ≠ temp ∧
      after = files.erase place) ∨
    after = files ∧
      (mayStick ∨ ∀ place, before.place job.target = .ok place → ¬ before.IsRemovable place)

/-- The points of a replacement that began on the tree `before`: whether its move has failed, the
stage, the place of the file that is open, and the tree. -/
inductive Situation (job : Replacement) (before : FileSystem) (mayStick : Prop) :
    Bool → Stage → Option Location → FileSystem → Prop where
  | start : Situation job before mayStick false .creating none before
  | refused {cause : Failure} (hcause : IsWellFormed job.temp → cause ≠ .malformedPath) :
      Situation job before mayStick false (.ended (.error cause)) none before
  | writing {temp : Location} (free : IsFree job before temp) :
      Situation job before mayStick false .writing (some temp) (withTemp before temp [])
  | closing {temp : Location} {content : Bytes} {written : Except Errno Nat}
      (free : IsFree job before temp)
      (complete : written = .ok job.data.length → content = job.data) :
      Situation job before mayStick false (.closing written) (some temp)
        (withTemp before temp content)
  | moving {temp : Location} (free : IsFree job before temp) :
      Situation job before mayStick false .moving none (withTemp before temp job.data)
  | discarding {temp : Location} {content : Bytes} {cause : Failure} (free : IsFree job before temp)
      (hcause : cause ≠ .malformedPath) :
      Situation job before mayStick false (.discarding cause) none (withTemp before temp content)
  | discarded {temp : Location} {content : Bytes} {cause : Failure} {files : FileSystem}
      (free : IsFree job before temp) (hcause : cause ≠ .malformedPath)
      (cleared : IsCleared before temp content mayStick files) :
      Situation job before mayStick false (.ended (.error cause)) none files
  | moved {temp place : Location} (free : IsFree job before temp)
      (hplace : before.place job.target = .ok place) (hkind : before.lookup place ≠ some .directory)
      (hne : place ≠ temp) (hroot : place ≠ []) :
      Situation job before mayStick false (.ended (.ok ())) none
        (before.insert place (.file fileMode job.data))
  | retracting {temp : Location} {e : Errno} (free : IsFree job before temp) :
      Situation job before mayStick true (.retracting (.notWritten e)) none
        (withTemp before temp job.data)
  | withdrawing {temp : Location} {e : Errno} {files : FileSystem} (free : IsFree job before temp)
      (cleared : IsCleared before temp job.data mayStick files) :
      Situation job before mayStick true (.withdrawing (.notWritten e)) none files
  | withdrawn {temp : Location} {e : Errno} {files after : FileSystem}
      (free : IsFree job before temp) (cleared : IsCleared before temp job.data mayStick files)
      (gone : IsWithdrawn job before temp mayStick files after) :
      Situation job before mayStick true (.ended (.error (.notWritten e))) none after

theorem IsFree.keepsWays_of_isCleared (free : IsFree job before temp) {content : Bytes}
    {mayStick : Prop} (cleared : IsCleared before temp content mayStick files) :
    KeepsWays before files := by
  rcases cleared with rfl | ⟨-, rfl⟩
  · exact fun _ _ h _ => h
  · exact free.keepsWays content

theorem IsCleared.lookup_of_ne {content : Bytes} {mayStick : Prop}
    (cleared : IsCleared before temp content mayStick files) {other : Location}
    (h : other ≠ temp) : files.lookup other = before.lookup other := by
  rcases cleared with rfl | ⟨-, rfl⟩
  · rfl
  · exact lookup_withTemp_of_ne content h

theorem Stage.creationFailure_ne_malformedPath (job : Replacement) (e : Errno) :
    Stage.creationFailure job e ≠ .malformedPath := by
  unfold Stage.creationFailure
  split <;> simp

/-- A step is the answer to the call that its stage makes. -/
theorem Attempt.step_eq_some_iff {attempt : Attempt} {step : Step} :
    attempt.step files = some step ↔
      ∃ call reply opened after, attempt.stage.call attempt.job = some call ∧
        attempt.perform files call = (reply, opened, after) ∧
        step = { call, reply, files := after
                 attempt := { attempt with
                   stage := attempt.stage.next attempt.job reply, opened } } := by
  unfold Attempt.step
  cases attempt.stage.call attempt.job with
  | none => simp
  | some call =>
      constructor
      · intro h
        exact ⟨call, _, _, _, rfl, rfl, (Option.some.inj h).symm⟩
      · rintro ⟨_, reply, opened, after, hcall, hperform, rfl⟩
        cases hcall
        simp [hperform]

theorem Attempt.step_of_perform {attempt : Attempt} {call : Call} {reply : Reply}
    {opened : Option Location} (hcall : attempt.stage.call attempt.job = some call)
    (hperform : attempt.perform files call = (reply, opened, after)) :
    attempt.step files = some
      { call, reply, files := after
        attempt := { attempt with stage := attempt.stage.next attempt.job reply, opened } } :=
  step_eq_some_iff.mpr ⟨call, reply, opened, after, hcall, hperform, rfl⟩

/-- The step in which the call of a stage comes to a reply. -/
theorem Attempt.step_eq {attempt : Attempt} {stage : Stage} {call : Call} {reply : Reply}
    {opened : Option Location} {step : Step} (hstage : attempt.stage = stage)
    (hcall : stage.call attempt.job = some call)
    (hperform : attempt.perform files call = (reply, opened, after))
    (hstep : attempt.step files = some step) :
    step = { call, reply, files := after
             attempt := { attempt with stage := stage.next attempt.job reply, opened } } := by
  subst hstage
  obtain ⟨_, _, _, _, hcall', hperform', rfl⟩ := step_eq_some_iff.mp hstep
  cases hcall.symm.trans hcall'
  cases hperform.symm.trans hperform'
  rfl

/-! ### From point to point -/

namespace Situation

variable {mayStick : Prop} {attempt : Attempt} {step : Step} {content : Bytes}

theorem step_creating (hstage : attempt.stage = .creating) (hopened : attempt.opened = none)
    (hstep : attempt.step before = some step) :
    Situation attempt.job before mayStick step.isFailedRename step.attempt.stage
      step.attempt.opened step.files := by
  rcases attempt.perform_create before with ⟨e, h⟩ | ⟨hpath, h⟩ | ⟨temp, free, h⟩
  · rw [hopened] at h
    obtain rfl := Attempt.step_eq hstage rfl h hstep
    exact .refused fun _ => Stage.creationFailure_ne_malformedPath _ e
  · rw [hopened] at h
    obtain rfl := Attempt.step_eq hstage rfl h hstep
    exact .refused fun hwell => absurd hwell hpath
  · obtain rfl := Attempt.step_eq hstage rfl h hstep
    exact .writing free

theorem step_writing (free : IsFree attempt.job before temp) (hstage : attempt.stage = .writing)
    (hopened : attempt.opened = some temp)
    (hstep : attempt.step (withTemp before temp []) = some step) :
    Situation attempt.job before mayStick step.isFailedRename step.attempt.stage
      step.attempt.opened step.files := by
  rcases Attempt.perform_write free hopened attempt.job.data with
    ⟨e, h⟩ | ⟨count, content, hcontent, h⟩
  · obtain rfl := Attempt.step_eq hstage rfl h hstep
    exact .closing free (by simp)
  · obtain rfl := Attempt.step_eq hstage rfl h hstep
    exact .closing free fun hcount => hcontent (Except.ok.inj hcount)

/-- A closed file is moved if all of its content was written, and else discarded. -/
theorem of_afterClosing (free : IsFree job before temp) {written : Except Errno Nat}
    (complete : written = .ok job.data.length → content = job.data) :
    Situation job before mayStick false (Stage.afterClosing job written) none
      (withTemp before temp content) := by
  cases written with
  | error e => exact .discarding free (by simp)
  | ok count =>
      by_cases hcount : count = job.data.length
      · simp only [Stage.afterClosing, hcount, if_true]
        rw [complete (congrArg Except.ok hcount)]
        exact .moving free
      · simp only [Stage.afterClosing, hcount, if_false]
        exact .discarding free (by simp)

theorem step_closing (free : IsFree attempt.job before temp) {written : Except Errno Nat}
    (complete : written = .ok attempt.job.data.length → content = attempt.job.data)
    (hstage : attempt.stage = .closing written)
    (hstep : attempt.step (withTemp before temp content) = some step) :
    Situation attempt.job before mayStick step.isFailedRename step.attempt.stage
      step.attempt.opened step.files := by
  rcases attempt.perform_close (withTemp before temp content) with ⟨e, h⟩ | h
  · obtain rfl := Attempt.step_eq hstage rfl h hstep
    exact .discarding free (by simp)
  · obtain rfl := Attempt.step_eq hstage rfl h hstep
    exact of_afterClosing free complete

theorem step_moving (free : IsFree attempt.job before temp) (hstage : attempt.stage = .moving)
    (hopened : attempt.opened = none)
    (hstep : attempt.step (withTemp before temp attempt.job.data) = some step) :
    Situation attempt.job before mayStick step.isFailedRename step.attempt.stage
      step.attempt.opened step.files := by
  rcases Attempt.perform_rename free attempt.job.data with
    ⟨e, h⟩ | ⟨place, hplace, hkind, hne, hroot, h⟩
  · rw [hopened] at h
    obtain rfl := Attempt.step_eq hstage rfl h hstep
    exact .retracting free
  · rw [hopened] at h
    obtain rfl := Attempt.step_eq hstage rfl h hstep
    exact .moved free hplace hkind hne hroot

/-- To take the temporary file away is to go on without it, unless the removal sticks. -/
theorem exists_cleared (free : IsFree attempt.job before temp) (content : Bytes)
    (hstick : attempt.faults.unlink ≠ none → mayStick) :
    ∃ reply after, IsCleared before temp content mayStick after ∧
      attempt.perform (withTemp before temp content) (.unlink attempt.job.temp) =
        (reply, attempt.opened, after) := by
  rcases Attempt.perform_unlink_temp free content with ⟨e, hfault, h⟩ | h
  · exact ⟨_, _, .inr ⟨hstick (by simp [hfault]), rfl⟩, h⟩
  · exact ⟨_, _, .inl rfl, h⟩

theorem step_discarding (free : IsFree attempt.job before temp) {cause : Failure}
    (hcause : cause ≠ .malformedPath) (hstage : attempt.stage = .discarding cause)
    (hopened : attempt.opened = none) (hstick : attempt.faults.unlink ≠ none → mayStick)
    (hstep : attempt.step (withTemp before temp content) = some step) :
    Situation attempt.job before mayStick step.isFailedRename step.attempt.stage
      step.attempt.opened step.files := by
  obtain ⟨reply, after, cleared, h⟩ := exists_cleared free content hstick
  rw [hopened] at h
  obtain rfl := Attempt.step_eq hstage rfl h hstep
  exact .discarded free hcause cleared

theorem step_retracting (free : IsFree attempt.job before temp) {e : Errno}
    (hstage : attempt.stage = .retracting (.notWritten e)) (hopened : attempt.opened = none)
    (hstick : attempt.faults.unlink ≠ none → mayStick)
    (hstep : attempt.step (withTemp before temp attempt.job.data) = some step) :
    Situation attempt.job before mayStick true step.attempt.stage step.attempt.opened
      step.files := by
  obtain ⟨reply, after, cleared, h⟩ := exists_cleared free attempt.job.data hstick
  rw [hopened] at h
  obtain rfl := Attempt.step_eq hstage rfl h hstep
  exact .withdrawing free cleared

theorem step_withdrawing (free : IsFree attempt.job before temp)
    (cleared : IsCleared before temp attempt.job.data mayStick files) {e : Errno}
    (hstage : attempt.stage = .withdrawing (.notWritten e)) (hopened : attempt.opened = none)
    (hstick : attempt.faults.unlink ≠ none → mayStick) (hstep : attempt.step files = some step) :
    Situation attempt.job before mayStick true step.attempt.stage step.attempt.opened
      step.files := by
  rcases Attempt.perform_unlink_target free (free.keepsWays_of_isCleared cleared)
    (fun _ => cleared.lookup_of_ne) with ⟨e, hfault, h⟩ | ⟨place, hplace, hnode, hne, h⟩
  · rw [hopened] at h
    obtain rfl := Attempt.step_eq hstage rfl h hstep
    exact .withdrawn free cleared (.inr ⟨rfl, hfault.imp_left fun h => hstick (by simp [h])⟩)
  · rw [hopened] at h
    obtain rfl := Attempt.step_eq hstage rfl h hstep
    exact .withdrawn free cleared (.inl ⟨place, hplace, hnode, hne, rfl⟩)

end Situation

/-- Each call leads from one point to another. -/
theorem Situation.step {mayStick : Prop} {failed : Bool} (attempt : Attempt) {step : Step}
    (h : Situation attempt.job before mayStick failed attempt.stage attempt.opened files)
    (hstick : attempt.faults.unlink ≠ none → mayStick) (hstep : attempt.step files = some step) :
    Situation attempt.job before mayStick (failed || step.isFailedRename) step.attempt.stage
      step.attempt.opened step.files := by
  have hends (outcome : Except Failure Unit) : attempt.stage ≠ .ended outcome := by
    intro hended
    simp [Attempt.step, hended, Stage.call] at hstep
  generalize hstage : attempt.stage = stage at h hends
  generalize hopened : attempt.opened = opened at h
  cases h with
  | start => exact step_creating hstage hopened hstep
  | writing free => exact step_writing free hstage hopened hstep
  | closing free complete => exact step_closing free complete hstage hstep
  | moving free => exact step_moving free hstage hopened hstep
  | discarding free hcause => exact step_discarding free hcause hstage hopened hstick hstep
  | retracting free => exact step_retracting free hstage hopened hstick hstep
  | withdrawing free cleared => exact step_withdrawing free cleared hstage hopened hstick hstep
  | refused | discarded | moved | withdrawn => exact absurd rfl (hends _)

/-- Every course is at one of the points. -/
theorem Course.situation {mayOccur : Faults → Prop} {past : List Step} {attempt : Attempt}
    (course : Course job before mayOccur past attempt files) :
    attempt.job = job ∧
      Situation job before (∃ faults, mayOccur faults ∧ faults.unlink ≠ none)
        (past.any (·.isFailedRename)) attempt.stage attempt.opened files := by
  induction course with
  | start faults => exact ⟨rfl, .start⟩
  | @next past attempt files step course faults occurs call ih =>
      rcases ih with ⟨hjob, situation⟩
      have hkept : step.attempt.job = attempt.job := by
        obtain ⟨_, _, _, _, -, -, rfl⟩ := Attempt.step_eq_some_iff.mp call
        rfl
      subst hjob
      have hnext := Situation.step { attempt with faults } situation
        (fun hfault => ⟨faults, occurs, hfault⟩) call
      exact ⟨hkept, by simpa [List.any_append] using hnext⟩

/-! ### Courses from beginning to end -/

namespace Attempt

variable {attempt : Attempt} {step : Step}

theorem steps_of_step_eq_none (h : attempt.step files = none) : attempt.steps files = [] := by
  rw [steps]
  split
  · rfl
  · simp_all

theorem steps_of_step_eq_some (h : attempt.step files = some step) :
    attempt.steps files = step :: step.attempt.steps step.files := by
  rw [steps]
  split
  · simp_all
  · rename_i other hother
    obtain rfl : other = step := Option.some.inj (hother.symm.trans h)
    rfl

theorem any_steps_of_step_eq_some (h : attempt.step files = some step) (p : Step → Bool) :
    (attempt.steps files).any p = (p step || (step.attempt.steps step.files).any p) := by
  rw [steps_of_step_eq_some h, List.any_cons]

theorem finish_of_step_eq_none (h : attempt.step files = none) :
    attempt.finish files = (attempt, files) := by
  rw [finish, steps_of_step_eq_none h]
  rfl

theorem finish_of_step_eq_some (h : attempt.step files = some step) :
    attempt.finish files = step.attempt.finish step.files := by
  rw [finish, steps_of_step_eq_some h, finish]
  cases hlast : (step.attempt.steps step.files).getLast? with
  | none => simp [List.getLast?_cons, hlast]
  | some last => simp [List.getLast?_cons, hlast]

theorem faults_step (h : attempt.step files = some step) :
    step.attempt.faults = attempt.faults := by
  obtain ⟨_, _, _, _, -, -, rfl⟩ := step_eq_some_iff.mp h
  rfl

/-- What an attempt goes through is a course under its own faults, up to each of its calls. -/
theorem course_steps {mayOccur : Faults → Prop} {past : List Step}
    (course : Course job before mayOccur past attempt files) (hfaults : mayOccur attempt.faults) :
    Course job before mayOccur (past ++ attempt.steps files) (attempt.finish files).1
        (attempt.finish files).2 ∧
      ∀ step ∈ attempt.steps files, ∃ earlier, earlier <+: attempt.steps files ∧
        Course job before mayOccur (past ++ earlier) step.attempt step.files := by
  fun_induction attempt.steps files generalizing past with
  | case1 attempt files hstep =>
      rw [finish_of_step_eq_none hstep, List.append_nil]
      exact ⟨course, by simp⟩
  | case2 attempt files step hstep ih =>
      have hnext := Course.next course attempt.faults hfaults hstep
      obtain ⟨hend, hall⟩ := ih hnext (by rwa [faults_step hstep])
      rw [finish_of_step_eq_some hstep]
      refine ⟨by simpa using hend, ?_⟩
      intro other member
      rcases List.mem_cons.mp member with rfl | member
      · exact ⟨[other], by simp, hnext⟩
      · obtain ⟨earlier, hearlier, hcourse⟩ := hall other member
        exact ⟨step :: earlier, List.cons_prefix_cons.mpr ⟨rfl, hearlier⟩, by simpa using hcourse⟩

/-- An attempt comes to an end. -/
theorem exists_stage_finish (attempt : Attempt) (files : FileSystem) :
    ∃ outcome, (attempt.finish files).1.stage = .ended outcome := by
  fun_induction attempt.steps files with
  | case1 attempt files hstep =>
      rw [finish_of_step_eq_none hstep]
      have hcall : attempt.stage.call attempt.job = none := by simpa [step] using hstep
      cases hstage : attempt.stage with
      | ended outcome => exact ⟨outcome, rfl⟩
      | _ => simp [hstage, Stage.call] at hcall
  | case2 attempt files step hstep ih => rwa [finish_of_step_eq_some hstep]

/-- The end of a whole attempt, and the point that it stands for. -/
theorem finish_situation (job : Replacement) (before : FileSystem) (faults : Faults) :
    ∃ outcome opened, (({ job, faults } : Attempt).finish before).1.report? = some outcome ∧
      Situation job before (faults.unlink ≠ none)
        ((({ job, faults } : Attempt).steps before).any (·.isFailedRename)) (.ended outcome) opened
        (({ job, faults } : Attempt).finish before).2 := by
  obtain ⟨outcome, hstage⟩ := exists_stage_finish { job, faults } before
  have start : Course job before (· = faults) [] { job, faults } before := .start faults
  obtain ⟨-, situation⟩ := (course_steps start rfl).1.situation
  simp only [hstage, exists_eq_left, List.nil_append] at situation
  exact ⟨outcome, _, by simp [report?, hstage], situation⟩

/-! ### To the move and from there on -/

/-- Only a call that fails keeps an attempt from its move where the temporary file can be created. -/
theorem finish_eq_moving (free : IsFree job before temp) (faults : Faults)
    (hcreate : faults.create = none) (hwrite : faults.write = none) (hclose : faults.close = none) :
    let moving : Attempt := { job, faults, stage := .moving }
    ({ job, faults } : Attempt).finish before = moving.finish (withTemp before temp job.data) ∧
      (({ job, faults } : Attempt).steps before).any (·.isFailedRename) =
        (moving.steps (withTemp before temp job.data)).any (·.isFailedRename) := by
  intro moving
  have hcreated : ({ job, faults } : Attempt).perform before (.create job.temp) =
      (.done, some temp, withTemp before temp []) := by
    simp [perform, hcreate, free.isWellFormed, free.create_temp]
  have hwritten : ({ job, faults, stage := .writing, opened := some temp } : Attempt).perform
      (withTemp before temp []) (.write job.data) =
      (.wrote job.data.length, some temp, withTemp before temp job.data) := by
    simp [perform, hwrite, free.appendTo_withTemp]
  have hclosed : ({ job, faults, stage := .closing (.ok job.data.length), opened := some temp } :
      Attempt).perform (withTemp before temp job.data) .close =
      (.done, none, withTemp before temp job.data) := by
    simp [perform, hclose]
  have hcomplete : Stage.next job (.closing (.ok job.data.length)) .done = .moving := by
    simp [Stage.next, Stage.afterClosing]
  have created := step_of_perform rfl hcreated
  have written := step_of_perform rfl hwritten
  have closed := step_of_perform rfl hclosed
  simp only [hcomplete] at closed
  constructor
  · exact (finish_of_step_eq_some created).trans
      ((finish_of_step_eq_some written).trans (finish_of_step_eq_some closed))
  · exact (any_steps_of_step_eq_some created _).trans
      ((any_steps_of_step_eq_some written _).trans (any_steps_of_step_eq_some closed _))

/-- If no call fails and there is no directory at the target, the target is replaced. -/
theorem finish_of_free (free : IsFree job before temp) {spot : FileSystem.Spot}
    (hlocate : before.locate job.target = .ok (some spot)) (hslash : spot.endsInSlash = false)
    (hkind : before.lookup spot.location ≠ some .directory) :
    ({ job, faults := {} } : Attempt).finish before =
      ({ job, faults := {}, stage := .ended (.ok ()) },
        before.insert spot.location (.file fileMode job.data)) := by
  have htarget : IsWellFormed job.target := isWellFormed_tempPath.mp free.isWellFormed
  have hmoved : ({ job, faults := {}, stage := .moving } : Attempt).perform
      (withTemp before temp job.data) (.rename job.temp job.target) =
      (.done, none, before.insert spot.location (.file fileMode job.data)) := by
    simp [perform, free.isWellFormed, htarget, free.rename_temp hlocate hslash hkind]
  rw [(finish_eq_moving free {} rfl rfl rfl).1, finish_of_step_eq_some (step_of_perform rfl hmoved),
    finish_of_step_eq_none rfl]
  rfl

/-- If only the move and what comes after it may fail, and the move does, then the temporary file is
taken away, and the target behind it. -/
theorem finish_of_failed_move (free : IsFree job before temp) (faults : Faults) {e : Errno}
    {reply reply' : Reply} {opened : Option Location} (hcreate : faults.create = none)
    (hwrite : faults.write = none) (hclose : faults.close = none) (hrename : faults.rename = some e)
    (htemp : ({ job, faults, stage := .retracting (.notWritten e) } : Attempt).perform
      (withTemp before temp job.data) (.unlink job.temp) = (reply, none, files))
    (htarget : ({ job, faults, stage := .withdrawing (.notWritten e) } : Attempt).perform files
      (.unlink job.target) = (reply', opened, after)) :
    ({ job, faults } : Attempt).finish before =
        ({ job, faults, stage := .ended (.error (.notWritten e)), opened }, after) ∧
      (({ job, faults } : Attempt).steps before).any (·.isFailedRename) = true := by
  have hmove : ({ job, faults, stage := .moving } : Attempt).perform
      (withTemp before temp job.data) (.rename job.temp job.target) =
      (.failed e, none, withTemp before temp job.data) := by
    simp [perform, hrename]
  obtain ⟨hfinish, hsteps⟩ := finish_eq_moving free faults hcreate hwrite hclose
  constructor
  · rw [hfinish]
    calc ({ job, faults, stage := .moving } : Attempt).finish (withTemp before temp job.data)
        = ({ job, faults, stage := .retracting (.notWritten e) } : Attempt).finish
            (withTemp before temp job.data) :=
          finish_of_step_eq_some (step_of_perform rfl hmove)
      _ = ({ job, faults, stage := .withdrawing (.notWritten e) } : Attempt).finish files :=
          finish_of_step_eq_some (step_of_perform rfl htemp)
      _ = ({ job, faults, stage := .ended (.error (.notWritten e)), opened } : Attempt).finish
            after := finish_of_step_eq_some (step_of_perform rfl htarget)
      _ = _ := finish_of_step_eq_none rfl
  · rw [hsteps]
    exact any_steps_of_step_eq_some (step_of_perform rfl hmove) _

end Attempt

end OneTimePassword.Replacement
