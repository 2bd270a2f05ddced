/-
Module: OneTimePassword.Proofs.Replacement.Conflict
Purpose: When a replacement reports that something is in the place of its temporary file. It does so
  where that is the case, but also where links on the way there lead on and on.
Main exports: FileSystem.IsOccupied, FileSystem.walk_of_self_link,
  Replacement.createExclusive_temp_eq_error_iff, Replacement.Stage.IsPastCreation,
  Replacement.Attempt.finish_conflict_iff
-/
import OneTimePassword.Proofs.Replacement.Course

namespace OneTimePassword

namespace FileSystem

variable {fs : FileSystem} {path : String} {links mode : Nat} {here : Location}
  {names : List String} {spot : Spot}

/-- Something is in the place of a path's last name. A link there is something, wherever it leads. -/
def IsOccupied (fs : FileSystem) (path : String) : Prop :=
  ∃ spot node, fs.locate path = .ok (some spot) ∧ fs.nodeAt spot = .ok (some node)

/-- Nothing on a way is found fault with for being there. -/
theorem walk_ne_exists : fs.walk links here names ≠ .error .exists := by
  fun_induction fs.walk links here names with
  | case1 => simp
  | case2 links here rest ih => exact ih
  | case3 links here rest hdot ih => exact ih
  | case4 links here name rest hdot hdots e hchild =>
      unfold child at hchild
      split at hchild
      · cases hchild
        simp
      · cases hchild
  | case5 => simp
  | case6 => simp
  | case7 links here name rest hdot hdots hchild ih => exact ih
  | case8 => simp
  | case9 here name rest hdot hdots target hchild links ih => exact ih

/-- A way through a link that leads to itself does not come to an end. -/
theorem walk_of_self_link {name target : String} (hdots : name ≠ "." ∧ name ≠ "..")
    (hchild : fs.child here name = .ok (some (.link target))) (hstart : linkStart here target = here)
    (hnames : namesOf target = [name]) (rest : List String) :
    fs.walk links here (name :: rest) = .error .tooManyLinks := by
  induction links with
  | zero =>
      rw [walk, if_neg hdots.1, if_neg hdots.2, hchild]
  | succ links ih =>
      rw [walk, if_neg hdots.1, if_neg hdots.2, hchild]
      simpa [hstart, hnames] using ih

theorem nodeAt_eq_error {e : Errno} (h : fs.nodeAt spot = .error e) : e = .nameTooLong := by
  unfold nodeAt child at h
  split at h
  · exact (Except.error.inj h).symm
  · cases h

/-- At a spot that no slash follows, it is all about what is there. -/
theorem createExclusive_of_locate (hlocate : fs.locate path = .ok (some spot))
    (hslash : spot.endsInSlash = false) :
    fs.createExclusive path mode =
      match fs.nodeAt spot with
      | .error e => .error e
      | .ok (some _) => .error .exists
      | .ok none => .ok (fs.insert spot.location (.file mode []), spot.location) := by
  unfold createExclusive
  rw [hlocate]
  simp only [bind, Except.bind, hslash, Bool.false_eq_true, if_false]
  rcases fs.nodeAt spot with e | _ | node
  · rfl
  · rfl
  · rfl

theorem createExclusive_of_locate_eq_error {e : Errno} (h : fs.locate path = .error e) :
    fs.createExclusive path mode = .error e := by
  unfold createExclusive
  rw [h]
  rfl

end FileSystem

namespace Replacement

open Attempt (IsWellFormed)

variable {job : Replacement} {files : FileSystem} {attempt : Attempt} {stage : Stage}

/-! ### The creation -/

/-- The path of a temporary file ends in a name for a node. What keeps it from leading to a spot is
how long it is, or the way to its directory. -/
theorem locate_temp (job : Replacement) (files : FileSystem) :
    (∃ spot, files.locate job.temp = .ok (some spot) ∧ spot.endsInSlash = false) ∨
      ∃ e, files.locate job.temp = .error e ∧ e ≠ .exists := by
  obtain ⟨names, last, htemp, -, -⟩ := exists_namesOf_temp job
  have hend : job.temp.toList.getLast? = some '~' := by simp [temp, tempPath, temporaryEnding]
  have hpath : job.temp ≠ "" := by
    intro hempty
    simp [hempty] at hend
  by_cases hlength : (Text.utf8 job.temp).length ≤ FileSystem.maxPathLength
  · rw [FileSystem.locate_of_namesOf_eq_concat hpath hlength htemp]
    cases hwalk : files.walk FileSystem.maxLinks [] names with
    | error e =>
        refine .inr ⟨e, rfl, ?_⟩
        rintro rfl
        exact FileSystem.walk_ne_exists hwalk
    | ok directory =>
        have hdots : ¬ (last ++ temporaryEnding = "." ∨ last ++ temporaryEnding = "..") := by
          have htilde : (last ++ temporaryEnding).toList.getLast? = some '~' := by
            simp [temporaryEnding]
          rintro (hdot | hdot)
          · simp [hdot] at htilde
          · simp [hdot] at htilde
        refine .inl ⟨_, by rw [Except.map, FileSystem.spotOf, if_neg hdots], ?_⟩
        simp [hend]
  · exact .inr ⟨.nameTooLong, by rw [FileSystem.locate, if_neg hpath, if_pos (by omega)], by simp⟩

/-- The creation of a temporary file counts as a conflict where its place is taken, and where the way
there does not come to an end. -/
theorem createExclusive_temp_eq_error_iff (job : Replacement) (files : FileSystem) :
    (∃ e, files.createExclusive job.temp fileMode = .error e ∧
        Stage.creationFailure job e = .conflict job.temp) ↔
      files.IsOccupied job.temp ∨ files.locate job.temp = .error .tooManyLinks := by
  rcases locate_temp job files with ⟨spot, hlocate, hslash⟩ | ⟨e, hlocate, he⟩
  · have hoccupied : files.IsOccupied job.temp ↔ ∃ node, files.nodeAt spot = .ok (some node) := by
      constructor
      · rintro ⟨other, node, hother, hnode⟩
        obtain rfl : spot = other := Option.some.inj (Except.ok.inj (hlocate.symm.trans hother))
        exact ⟨node, hnode⟩
      · rintro ⟨node, hnode⟩
        exact ⟨spot, node, hlocate, hnode⟩
    rw [hoccupied, FileSystem.createExclusive_of_locate hlocate hslash, hlocate]
    rcases hnode : files.nodeAt spot with e | _ | node
    · obtain rfl := FileSystem.nodeAt_eq_error hnode
      simp [Stage.creationFailure]
    · simp
    · simp [Stage.creationFailure]
  · have hfree : ¬ files.IsOccupied job.temp := by
      rintro ⟨spot, node, hspot, -⟩
      cases hlocate.symm.trans hspot
    rw [FileSystem.createExclusive_of_locate_eq_error hlocate, hlocate]
    cases e with
    | «exists» => exact absurd rfl he
    | _ => simp [hfree, Stage.creationFailure]

/-! ### From the creation on -/

/-- A stage that has a temporary file behind it, so that it blames no other one. -/
def Stage.IsPastCreation : Stage → Prop
  | .creating => False
  | .writing | .closing _ | .moving | .ended (.ok ()) => True
  | .discarding cause | .retracting cause | .withdrawing cause | .ended (.error cause) =>
      ∀ temp, cause ≠ .conflict temp

theorem Stage.isPastCreation_afterClosing (job : Replacement) (written : Except Errno Nat) :
    (afterClosing job written).IsPastCreation := by
  cases written with
  | error e => simp [afterClosing, IsPastCreation]
  | ok count =>
      rw [afterClosing]
      split
      · trivial
      · simp [IsPastCreation]

/-- No answer leads back to the creation. -/
theorem Stage.IsPastCreation.next (h : stage.IsPastCreation) (job : Replacement) (reply : Reply) :
    (stage.next job reply).IsPastCreation := by
  cases stage with
  | creating => exact h.elim
  | writing => cases reply <;> trivial
  | closing written =>
      cases reply with
      | failed e => simp [Stage.next, IsPastCreation]
      | done | wrote count | malformedPath => exact isPastCreation_afterClosing job written
  | moving => cases reply <;> simp [Stage.next, IsPastCreation]
  | discarding cause | retracting cause | withdrawing cause | ended outcome => exact h

theorem Attempt.isPastCreation_finish (attempt : Attempt) (files : FileSystem)
    (h : attempt.stage.IsPastCreation) : (attempt.finish files).1.stage.IsPastCreation := by
  fun_induction attempt.steps files with
  | case1 attempt files hstep => rwa [finish_of_step_eq_none hstep]
  | case2 attempt files step hstep ih =>
      rw [finish_of_step_eq_some hstep]
      apply ih
      obtain ⟨call, reply, opened, after, -, -, rfl⟩ := step_eq_some_iff.mp hstep
      exact h.next attempt.job reply

/-- From the creation on there is no conflict to report. -/
theorem Attempt.report?_finish_ne_conflict (h : attempt.stage.IsPastCreation) (path : String) :
    (attempt.finish files).1.report? ≠ some (.error (.conflict path)) := by
  intro hreport
  have hpast := isPastCreation_finish attempt files h
  obtain ⟨outcome, hstage⟩ := exists_stage_finish attempt files
  rw [hstage] at hpast
  obtain rfl : outcome = .error (.conflict path) := by simpa [report?, hstage] using hreport
  exact hpast path rfl

/-! ### The whole attempt -/

/-- What an attempt without faults comes to is settled by the creation if that fails. -/
theorem Attempt.report?_finish_of_createExclusive_eq_error {e : Errno}
    (hpath : IsWellFormed job.target)
    (h : files.createExclusive job.temp fileMode = .error e) :
    (({ job, faults := {} } : Attempt).finish files).1.report? =
      some (.error (Stage.creationFailure job e)) := by
  have htemp : IsWellFormed job.temp := isWellFormed_tempPath.mpr hpath
  have hstep : ({ job, faults := {} } : Attempt).step files = some
      { call := .create job.temp, reply := .failed e, files
        attempt := { job, faults := {}, stage := .ended (.error (Stage.creationFailure job e)) } } :=
    step_of_perform rfl (by simp [perform, htemp, h])
  rw [finish_of_step_eq_some hstep, finish_of_step_eq_none rfl]
  rfl

/-- A replacement none of whose calls is made to fail reports a conflict if and only if something is
in the place of its temporary file, or too many links are met on the way there. In that second case
nothing is in the way: there is no such place. -/
theorem Attempt.finish_conflict_iff (job : Replacement) (files : FileSystem)
    (hpath : IsWellFormed job.target) :
    ((∃ path, (({ job, faults := {} } : Attempt).finish files).1.report? =
        some (.error (.conflict path))) ↔
      files.IsOccupied job.temp ∨ files.locate job.temp = .error .tooManyLinks) ∧
    (files.locate job.temp = .error .tooManyLinks → ¬ files.IsOccupied job.temp) := by
  constructor
  · rw [← createExclusive_temp_eq_error_iff]
    cases hcreate : files.createExclusive job.temp fileMode with
    | error e =>
        rw [report?_finish_of_createExclusive_eq_error hpath hcreate]
        cases e <;> simp [Stage.creationFailure]
    | ok created =>
        rcases created with ⟨after, place⟩
        have htemp : IsWellFormed job.temp := isWellFormed_tempPath.mpr hpath
        have hstep : ({ job, faults := {} } : Attempt).step files = some
            { call := .create job.temp, reply := .done, files := after
              attempt := { job, faults := {}, stage := .writing, opened := some place } } :=
          step_of_perform rfl (by simp [perform, htemp, hcreate])
        rw [finish_of_step_eq_some hstep]
        simp only [reduceCtorEq, false_and, exists_false, iff_false, not_exists]
        exact report?_finish_ne_conflict trivial
  · rintro hlinks ⟨spot, node, hspot, -⟩
    cases hlinks.symm.trans hspot

/-- A link that leads nowhere is in the place of the temporary file. -/
theorem Attempt.finish_conflict_iff_of_dangling_link :
    let job : Replacement := { target := "s", content := "x\n" }
    let files : FileSystem := { entries := [(["s~"], .link "nowhere")] }
    IsWellFormed job.target ∧ files.IsOccupied job.temp ∧
      ∃ path, (({ job, faults := {} } : Attempt).finish files).1.report? =
        some (.error (.conflict path)) := by
  intro job files
  have hpath : IsWellFormed job.target := by decide
  have hname : FileSystem.IsName job.temp := by decide +kernel
  have hoccupied : files.IsOccupied job.temp :=
    ⟨_, .link "nowhere", files.locate_of_isName hname, files.nodeAt_of_isName hname⟩
  exact ⟨hpath, hoccupied, (finish_conflict_iff job files hpath).1.mpr (.inl hoccupied)⟩

/-- A link that leads to itself lies on the way to the temporary file, of which there is none. The
report has it that the file is there already. -/
theorem Attempt.conflict_of_link_loop :
    let job : Replacement := { target := "loop/x", content := "d" }
    let files : FileSystem := { entries := [(["loop"], .link "loop")] }
    IsWellFormed job.target ∧
      ¬ ((∃ path, (({ job, faults := {} } : Attempt).finish files).1.report? =
          some (.error (.conflict path))) ↔ files.IsOccupied job.temp) ∧
      ∃ path, (({ job, faults := {} } : Attempt).finish files).1.report? =
        some (.error (.conflict path)) := by
  intro job files
  have hpath : IsWellFormed job.target := by decide
  have hnames : FileSystem.namesOf job.temp = ["loop"] ++ ["x~"] := by decide +kernel
  have hlinks : files.locate job.temp = .error .tooManyLinks := by
    rw [FileSystem.locate_of_namesOf_eq_concat (by decide) (by decide +kernel) hnames,
      FileSystem.walk_of_self_link (by decide) rfl rfl rfl]
    rfl
  have hfree : ¬ files.IsOccupied job.temp := by
    rintro ⟨spot, node, hspot, -⟩
    cases hlinks.symm.trans hspot
  have hreport := report?_finish_of_createExclusive_eq_error hpath
    (FileSystem.createExclusive_of_locate_eq_error hlinks)
  exact ⟨hpath, fun h => hfree (h.mp ⟨_, hreport⟩), _, hreport⟩

end Replacement

end OneTimePassword
