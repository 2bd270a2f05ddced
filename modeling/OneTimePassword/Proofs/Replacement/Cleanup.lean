/-
Module: OneTimePassword.Proofs.Replacement.Cleanup
Purpose: What becomes of the cleaning up changes nothing in what a replacement reports: whether files
  can be taken away or not, the calls are the same and so is the outcome.
Main exports: Replacement.Attempt.withUnlink, Replacement.leftovers, Replacement.Stage.settled?,
  Replacement.Attempt.exists_worked, Replacement.Attempt.finish_of_failing_removals
-/
import OneTimePassword.Proofs.Replacement.Course

namespace OneTimePassword.Replacement

variable {job : Replacement} {attempt : Attempt} {before files : FileSystem} {step : Step}
  {outcome : Except Failure Unit} {e : Errno}

/-! ### Other removals -/

/-- The attempt with removals that come to something else. -/
def Attempt.withUnlink (unlink : Option Errno) (attempt : Attempt) : Attempt :=
  { attempt with faults := { attempt.faults with unlink } }

/-- The step of an attempt with removals that come to something else. -/
def Step.withUnlink (unlink : Option Errno) (step : Step) : Step :=
  { step with attempt := step.attempt.withUnlink unlink }

/-- The tree after a number of steps. -/
def treeAfter (before : FileSystem) (past : List Step) : FileSystem :=
  (past.getLast?.map (·.files)).getD before

theorem treeAfter_cons (before : FileSystem) (step : Step) (later : List Step) :
    treeAfter before (step :: later) = treeAfter step.files later := by
  cases hlast : later.getLast? with
  | none => simp [treeAfter, List.getLast?_cons, hlast]
  | some last => simp [treeAfter, List.getLast?_cons, hlast]

/-! ### Stages -/

/-- The paths to be taken away in the end: both if the move failed, the temporary file if it was created
and could not be filled or closed, and nothing if it was never created or has been moved. -/
def leftovers (job : Replacement) (moveFailed : Bool) : Except Failure Unit → List String
  | .error (.notWritten _) | .error (.shortWrite _ _) =>
      if moveFailed then [job.temp, job.target] else [job.temp]
  | .ok _ | .error (.conflict _) | .error (.notCreated _ _) | .error .malformedPath => []

namespace Stage

/-- What there will be to report, once that is settled. From then on files are only taken away. -/
def settled? : Stage → Option (Except Failure Unit)
  | .creating | .writing | .closing _ | .moving => none
  | .discarding cause | .retracting cause | .withdrawing cause => some (.error cause)
  | .ended outcome => some outcome

/-- The paths that a stage begins to take away. -/
def removals (job : Replacement) : Stage → List String
  | .discarding _ => [job.temp]
  | .retracting _ => [job.temp, job.target]
  | .withdrawing _ => [job.target]
  | .creating | .writing | .closing _ | .moving | .ended _ => []

/-- From a settled stage on there is one removal after another. No answer to them changes what there is
to report. -/
theorem settled_cases {stage : Stage} (job : Replacement) (hsettled : stage.settled? = some outcome) :
    stage = .ended outcome ∨
      ∃ path later, stage.call job = some (.unlink path) ∧ stage.removals job = path :: later ∧
        ∀ reply, (stage.next job reply).settled? = some outcome ∧
          (stage.next job reply).removals job = later := by
  cases stage with
  | creating | writing | closing | moving => cases hsettled
  | discarding cause | withdrawing cause =>
      exact .inr ⟨_, [], rfl, rfl, fun reply => ⟨hsettled, rfl⟩⟩
  | retracting cause => exact .inr ⟨_, [job.target], rfl, rfl, fun reply => ⟨hsettled, rfl⟩⟩
  | ended outcome => exact .inl (congrArg ended (Option.some.inj hsettled))

theorem removals_afterClosing {job : Replacement} {written : Except Errno Nat}
    (hsettled : (afterClosing job written).settled? = some outcome) :
    (afterClosing job written).removals job = leftovers job false outcome := by
  cases written with
  | error e =>
      cases hsettled
      rfl
  | ok count =>
      unfold afterClosing at hsettled ⊢
      dsimp only at hsettled ⊢
      split at hsettled
      · cases hsettled
      · rename_i hcount
        cases hsettled
        rw [if_neg hcount]
        rfl

theorem leftovers_creationFailure (job : Replacement) (e : Errno) :
    leftovers job false (.error (creationFailure job e)) = [] := by
  unfold creationFailure
  split <;> rfl

end Stage

namespace Attempt

/-! ### Up to the cleanup -/

/-- A call before the cleanup takes nothing away. A failed move settles the outcome, and with the
outcome it is settled what is to be taken away. -/
theorem removals_step (hwork : attempt.stage.settled? = none) (hstep : attempt.step files = some step) :
    (∀ path, step.call ≠ .unlink path) ∧
      (step.isFailedRename → step.attempt.stage.settled? ≠ none) ∧
      ∀ outcome, step.attempt.stage.settled? = some outcome →
        step.attempt.stage.removals attempt.job =
          leftovers attempt.job step.isFailedRename outcome := by
  obtain ⟨call, reply, opened, after, hcall, -, rfl⟩ := step_eq_some_iff.mp hstep
  generalize attempt.stage = stage at hwork hcall
  cases stage with
  | creating =>
      cases hcall
      refine ⟨by simp, by simp [Step.isFailedRename], ?_⟩
      intro outcome hsettled
      cases reply with
      | failed e =>
          cases hsettled
          exact (Stage.leftovers_creationFailure attempt.job e).symm
      | malformedPath =>
          cases hsettled
          rfl
      | done | wrote => cases hsettled
  | writing =>
      cases hcall
      refine ⟨by simp, by simp [Step.isFailedRename], ?_⟩
      intro outcome hsettled
      cases reply <;> cases hsettled
  | closing written =>
      cases hcall
      refine ⟨by simp, by simp [Step.isFailedRename], ?_⟩
      intro outcome hsettled
      cases reply with
      | failed e =>
          cases hsettled
          rfl
      | done | wrote | malformedPath => exact Stage.removals_afterClosing hsettled
  | moving =>
      cases hcall
      refine ⟨by simp, ?_, ?_⟩
      · cases reply <;> simp [Step.isFailedRename, Stage.next, Stage.settled?]
      · intro outcome hsettled
        cases reply <;> cases hsettled <;> rfl
  | discarding | retracting | withdrawing | ended => cases hwork

/-- A call that takes nothing away comes to the same whatever becomes of removals. -/
theorem perform_withUnlink {call : Call} (hcall : ∀ path, call ≠ .unlink path)
    (unlink : Option Errno) :
    (attempt.withUnlink unlink).perform files call = attempt.perform files call := by
  cases call with
  | unlink path => exact absurd rfl (hcall path)
  | create | write | close | rename => rfl

theorem step_withUnlink (hwork : attempt.stage.settled? = none)
    (hstep : attempt.step files = some step) (unlink : Option Errno) :
    (attempt.withUnlink unlink).step files = some (step.withUnlink unlink) := by
  have hcall := (removals_step hwork hstep).1
  obtain ⟨call, reply, opened, after, hstage, hperform, rfl⟩ := step_eq_some_iff.mp hstep
  rw [← perform_withUnlink hcall unlink] at hperform
  exact step_of_perform hstage hperform

/-- The work of an attempt up to the point where its outcome is settled: the steps are the same
whatever becomes of removals, and none of them takes anything away. -/
structure Worked (attempt : Attempt) (files : FileSystem) (past : List Step) (last : Attempt)
    (outcome : Except Failure Unit) : Prop where
  job : last.job = attempt.job
  settled : last.stage.settled? = some outcome
  keeps : ∀ step ∈ past, ∀ path, step.call ≠ .unlink path
  removals : last.stage.removals last.job =
    leftovers last.job (past.any (·.isFailedRename)) outcome
  steps : ∀ unlink, (attempt.withUnlink unlink).steps files =
    past.map (Step.withUnlink unlink) ++ (last.withUnlink unlink).steps (treeAfter files past)
  finish : ∀ unlink, (attempt.withUnlink unlink).finish files =
    (last.withUnlink unlink).finish (treeAfter files past)

/-- Every attempt gets to that point. -/
theorem exists_worked (hwork : attempt.stage.settled? = none) (files : FileSystem) :
    ∃ past last outcome, Worked attempt files past last outcome := by
  fun_induction attempt.steps files with
  | case1 attempt files hstep =>
      have hcall : attempt.stage.call attempt.job = none := by simpa [step] using hstep
      generalize attempt.stage = stage at hwork hcall
      cases stage with
      | creating | writing | closing | moving => cases hcall
      | discarding | retracting | withdrawing | ended => cases hwork
  | case2 attempt files step hstep ih =>
      have hjob : step.attempt.job = attempt.job := by
        obtain ⟨_, _, _, _, -, -, rfl⟩ := step_eq_some_iff.mp hstep
        rfl
      have hother := step_withUnlink hwork hstep
      obtain ⟨hcall, hfailed, hremovals⟩ := removals_step hwork hstep
      rw [← hjob] at hremovals
      cases hsettled : step.attempt.stage.settled? with
      | some outcome =>
          refine ⟨[step], step.attempt, outcome, hjob, hsettled, by simpa using hcall, ?_, ?_, ?_⟩
          · rw [List.any_cons, List.any_nil, Bool.or_false]
            exact hremovals outcome hsettled
          · exact fun unlink => steps_of_step_eq_some (hother unlink)
          · exact fun unlink => finish_of_step_eq_some (hother unlink)
      | none =>
          -- the outcome would be settled if the move had failed
          have hmoved : step.isFailedRename = false :=
            Bool.eq_false_iff.mpr fun h => hfailed h hsettled
          obtain ⟨past, last, outcome, worked⟩ := ih hsettled
          refine ⟨step :: past, last, outcome, worked.job.trans hjob, worked.settled,
            List.forall_mem_cons.mpr ⟨hcall, worked.keeps⟩, ?_, ?_, ?_⟩
          · rw [List.any_cons, hmoved, Bool.false_or]
            exact worked.removals
          · intro unlink
            rw [steps_of_step_eq_some (hother unlink), treeAfter_cons]
            exact congrArg (_ :: ·) (worked.steps unlink)
          · intro unlink
            rw [finish_of_step_eq_some (hother unlink), treeAfter_cons]
            exact worked.finish unlink

/-! ### The cleanup -/

theorem ended_of_settled (hsettled : attempt.stage.settled? = some outcome)
    (hstep : attempt.step files = none) : attempt.stage = .ended outcome := by
  have hcall : attempt.stage.call attempt.job = none := by simpa [step] using hstep
  rcases Stage.settled_cases attempt.job hsettled with hended | ⟨path, later, hunlink, -, -⟩
  · exact hended
  · cases hcall.symm.trans hunlink

/-- A call of the cleanup takes the next path away, or leaves the tree as it is if removals fail. -/
theorem step_of_settled (hsettled : attempt.stage.settled? = some outcome)
    (hstep : attempt.step files = some step) :
    step.attempt.stage.settled? = some outcome ∧
      (∃ path, step.call = .unlink path ∧ attempt.stage.removals attempt.job =
        path :: step.attempt.stage.removals step.attempt.job) ∧
      ∀ e, attempt.faults.unlink = some e → step.reply = .failed e ∧ step.files = files := by
  obtain ⟨call, reply, opened, after, hcall, hperform, rfl⟩ := step_eq_some_iff.mp hstep
  rcases Stage.settled_cases attempt.job hsettled with hended | ⟨path, later, hunlink, hfirst, hlater⟩
  · simp [hended, Stage.call] at hcall
  · obtain rfl : call = .unlink path := Option.some.inj (hcall.symm.trans hunlink)
    refine ⟨(hlater reply).1, ⟨path, rfl, ?_⟩, ?_⟩
    · rw [hfirst, (hlater reply).2]
    · intro e hfault
      simp only [perform, hfault, Prod.mk.injEq] at hperform
      exact ⟨hperform.1.symm, hperform.2.2.symm⟩

/-- Once the outcome is settled, the calls and the report are the same whatever the calls come to. -/
theorem steps_of_settled (hsettled : attempt.stage.settled? = some outcome) (files : FileSystem) :
    (attempt.steps files).map (·.call) = (attempt.stage.removals attempt.job).map .unlink ∧
      (attempt.finish files).1.report? = some outcome := by
  fun_induction attempt.steps files with
  | case1 attempt files hstep =>
      rw [finish_of_step_eq_none hstep]
      simp [ended_of_settled hsettled hstep, Stage.removals, report?]
  | case2 attempt files step hstep ih =>
      obtain ⟨hnext, ⟨path, hcall, hremovals⟩, -⟩ := step_of_settled hsettled hstep
      obtain ⟨hcalls, hreport⟩ := ih hnext
      rw [finish_of_step_eq_some hstep, List.map_cons, hcall, hcalls, hremovals, List.map_cons]
      exact ⟨rfl, hreport⟩

/-- Removals that fail leave the tree as it is. -/
theorem steps_of_failing_removals (hsettled : attempt.stage.settled? = some outcome)
    (hunlink : attempt.faults.unlink = some e) (files : FileSystem) :
    (∀ step ∈ attempt.steps files, step.reply = .failed e) ∧ (attempt.finish files).2 = files := by
  fun_induction attempt.steps files with
  | case1 attempt files hstep =>
      rw [finish_of_step_eq_none hstep]
      exact ⟨by simp, rfl⟩
  | case2 attempt files step hstep ih =>
      obtain ⟨hnext, -, hfails⟩ := step_of_settled hsettled hstep
      obtain ⟨hreply, hfiles⟩ := hfails e hunlink
      obtain ⟨hreplies, hfinish⟩ := ih hnext (by rwa [faults_step hstep])
      rw [finish_of_step_eq_some hstep]
      exact ⟨List.forall_mem_cons.mpr ⟨hreply, hreplies⟩, hfinish.trans hfiles⟩

end Attempt

/-! ### Warnings -/

theorem journalOf_append (past later : List Step) :
    journalOf (past ++ later) = journalOf past ++ journalOf later := List.flatMap_append

/-- Only a removal is worth a warning. -/
theorem warnings_of_work {past : List Step} (hpast : ∀ step ∈ past, ∀ path, step.call ≠ .unlink path) :
    (journalOf past).filter Record.isWarning = [] := by
  induction past with
  | nil => rfl
  | cons step past ih =>
      obtain ⟨hstep, hpast⟩ := List.forall_mem_cons.mp hpast
      have hquiet : (recordsOf step.call step.reply).filter Record.isWarning = [] := by
        cases hcall : step.call with
        | unlink path => exact absurd hcall (hstep path)
        | create | write | close | rename => cases step.reply <;> rfl
      rw [journalOf, List.flatMap_cons, List.filter_append, hquiet]
      exact ih hpast

/-- The warning of a removal that failed. -/
def removalWarning (e : Errno) (path : String) : Record :=
  .warning ("Could not remove " ++ path ++ ": " ++ e.messageAt path)

/-- Each removal that fails is worth a warning, unless there was nothing to remove. -/
theorem warnings_of_failing_removals {paths : List String} {cleaning : List Step}
    (hcalls : cleaning.map (·.call) = paths.map .unlink)
    (hreplies : ∀ step ∈ cleaning, step.reply = .failed e) :
    (journalOf cleaning).filter Record.isWarning =
      if e = .notFound then [] else paths.map (removalWarning e) := by
  induction cleaning generalizing paths with
  | nil =>
      obtain rfl : paths = [] := by simpa using hcalls.symm
      simp [journalOf]
  | cons step cleaning ih =>
      cases paths with
      | nil => cases hcalls
      | cons path paths =>
          obtain ⟨hcall, hcalls⟩ := List.cons.inj hcalls
          obtain ⟨hreply, hreplies⟩ := List.forall_mem_cons.mp hreplies
          have hlater := ih hcalls hreplies
          rw [journalOf] at hlater ⊢
          rw [List.flatMap_cons, List.filter_append, hlater, hreply, show step.call = _ from hcall]
          by_cases hgone : e = .notFound
          · simp [recordsOf, hgone]
          · rw [recordsOf, if_neg hgone, if_neg hgone, if_neg hgone]
            rfl

/-! ### With and without failing removals -/

/-- The steps of an attempt are the given ones, under its own faults, and then removals of these paths.
-/
def Attempt.CleansUp (attempt : Attempt) (before : FileSystem) (past : List Step)
    (removals : List String) : Prop :=
  ∃ cleaning, attempt.steps before = past.map (Step.withUnlink attempt.faults.unlink) ++ cleaning ∧
    cleaning.map (·.call) = removals.map .unlink

namespace Attempt

/-- What an attempt does and reports when its work is done. -/
theorem Worked.conclusion {past : List Step} {last : Attempt}
    (worked : Worked attempt files past last outcome) (unlink : Option Errno) :
    ((attempt.withUnlink unlink).finish files).1.report? = some outcome ∧
      (attempt.withUnlink unlink).CleansUp files past (last.stage.removals last.job) := by
  have hsettled : (last.withUnlink unlink).stage.settled? = some outcome := worked.settled
  obtain ⟨hcalls, hreport⟩ := steps_of_settled hsettled (treeAfter files past)
  rw [worked.finish]
  exact ⟨hreport, _, worked.steps unlink, hcalls⟩

/-- Where removals fail the tree stays as the work has left it, and all there is are warnings. -/
theorem Worked.failing {past : List Step} {last : Attempt}
    (worked : Worked attempt files past last outcome) (e : Errno) :
    ((attempt.withUnlink (some e)).finish files).2 = treeAfter files past ∧
      (journalOf ((attempt.withUnlink (some e)).steps files)).filter Record.isWarning =
        if e = .notFound then []
        else (last.stage.removals last.job).map (removalWarning e) := by
  have hsettled : (last.withUnlink (some e)).stage.settled? = some outcome := worked.settled
  obtain ⟨hcalls, -⟩ := steps_of_settled hsettled (treeAfter files past)
  obtain ⟨hreplies, htree⟩ := steps_of_failing_removals hsettled rfl (treeAfter files past)
  have hpast : ∀ step ∈ past.map (Step.withUnlink (some e)), ∀ path, step.call ≠ .unlink path := by
    intro _ member
    obtain ⟨step, hstep, rfl⟩ := List.mem_map.mp member
    exact worked.keeps step hstep
  rw [worked.finish, worked.steps, journalOf_append, List.filter_append, warnings_of_work hpast,
    warnings_of_failing_removals hcalls hreplies]
  exact ⟨htree, rfl⟩

/-- Whether files can be taken away changes nothing in what a replacement reports. With and without it
the same is done up to the cleanup, and the same paths are to be taken away then: none if the content
got to its path, two after a failed move, one at most after all else. If no removal succeeds the tree at
the end is the one that the cleanup began with, and there is one warning for each path, unless all that
was met with is that nothing was there. -/
theorem finish_of_failing_removals (job : Replacement) (before : FileSystem) (faults : Faults)
    (e : Errno) :
    let working : Attempt := { job, faults := { faults with unlink := none } }
    let failing : Attempt := { job, faults := { faults with unlink := some e } }
    ∃ outcome past,
      let removals := leftovers job (past.any (·.isFailedRename)) outcome
      (working.finish before).1.report? = some outcome ∧
      (failing.finish before).1.report? = some outcome ∧
      (∀ step ∈ past, ∀ path, step.call ≠ .unlink path) ∧
      working.CleansUp before past removals ∧ failing.CleansUp before past removals ∧
      (failing.finish before).2 = treeAfter before past ∧
      (journalOf (failing.steps before)).filter Record.isWarning =
        if e = .notFound then [] else removals.map (removalWarning e) := by
  intro working failing
  have hwork : working.stage.settled? = none := rfl
  obtain ⟨past, last, outcome, worked⟩ := exists_worked hwork before
  have hjob : last.job = job := worked.job
  obtain ⟨hreport, hcalls⟩ := worked.conclusion none
  obtain ⟨hreport', hcalls'⟩ := worked.conclusion (some e)
  obtain ⟨htree, hwarnings⟩ := worked.failing e
  rw [worked.removals, hjob] at hcalls hcalls' hwarnings
  exact ⟨outcome, past, hreport, hreport', worked.keeps, hcalls, hcalls', htree, hwarnings⟩

end Attempt

end OneTimePassword.Replacement
