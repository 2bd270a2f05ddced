/-
Module: OneTimePassword.Proofs.Replacement.Race
Purpose: Two replacements of one file whose calls follow each other in any order. The content of the
  last successful move stays, unless the other replacement, whose own move failed before that, still
  has the target to take away.
Main exports: Replacement.Race, Replacement.Race.advance, Replacement.Race.run,
  Replacement.Attempt.HasTemp.step, Replacement.Race.IsSound, Replacement.Race.target_of_lastMove
-/
import OneTimePassword.Proofs.Replacement.Course

namespace OneTimePassword

namespace FileSystem

variable {fs fs' after : FileSystem} {location : Location}

theorem KeepsWays.refl (fs : FileSystem) : KeepsWays fs fs := fun _ _ h _ => h

theorem KeepsWays.trans (h : KeepsWays fs fs') (h' : KeepsWays fs' after) : KeepsWays fs after :=
  fun location node hnode hway => h' location node (h location node hnode hway) hway

/-- Nothing leads on where a node is taken away. -/
theorem keepsWays_of_erase (location : Location) : KeepsWays (fs.erase location) fs := by
  intro other node hnode _
  by_cases hother : other = location
  · subst hother
    cases other with
    | nil => exact hnode
    | cons name names => simp [lookup_erase_self] at hnode
  · rwa [lookup_erase_of_ne hother] at hnode

/-- Nothing leads on where a file is put. -/
theorem keepsWays_of_insert_file (location : Location) (mode : Nat) (content : Bytes) :
    KeepsWays (fs.insert location (.file mode content)) fs :=
  (keepsWays_insert_file mode content).trans (keepsWays_of_erase location)

end FileSystem

namespace Replacement

open FileSystem (KeepsWays Spot)

/-! ### Two runners -/

inductive Runner where
  | first
  | second
deriving Repr, DecidableEq

def Runner.other : Runner → Runner
  | .first => .second
  | .second => .first

theorem Runner.eq_other {runner another : Runner} (h : another ≠ runner) :
    runner = another.other := by
  cases runner <;> cases another <;> simp_all [other]

/-- A call, and whose it was. -/
structure Turn where
  runner : Runner
  step : Step

/-- Two replacements under way on one tree. -/
structure Race where
  attempts : Runner → Attempt
  files : FileSystem
  /-- The calls so far, the last one first. -/
  past : List Turn

namespace Race

/-- Each runner has a content of its own for the target. -/
def start (target : String) (contents : Runner → String) (files : FileSystem) : Race :=
  { attempts := fun runner => { job := { target, content := contents runner }, faults := {} }
    files, past := [] }

/-- A runner makes its next call, which may be one that fails. At its end it makes none. -/
def advance (race : Race) (runner : Runner) (faults : Faults) : Race :=
  match ({ race.attempts runner with faults } : Attempt).step race.files with
  | none => race
  | some step =>
      { attempts := fun other => if other = runner then step.attempt else race.attempts other
        files := step.files
        past := ⟨runner, step⟩ :: race.past }

/-- The calls follow each other as a schedule has it. -/
def run (race : Race) (schedule : List (Runner × Faults)) : Race :=
  schedule.foldl (fun race (runner, faults) => race.advance runner faults) race

end Race

/-! ### Moves and removals -/

namespace Step

def isRename (step : Step) : Bool :=
  match step.call with
  | .rename _ _ => true
  | _ => false

/-- Whether a path was taken away. -/
def removes (path : String) (step : Step) : Bool :=
  match step.call, step.reply with
  | .unlink removed, .done => removed = path
  | _, _ => false

theorem removes_eq_false {step : Step} (path : String) (h : step.reply ≠ .done) :
    step.removes path = false := by
  unfold removes
  split
  · rename_i hreply
    exact absurd hreply h
  · rfl

end Step

namespace Race

/-- The last move that was tried. -/
def lastMove? (race : Race) : Option Turn := race.past.find? (·.step.isRename)

/-- The calls after the last move that was tried. -/
def sinceMove (race : Race) : List Turn := race.past.takeWhile (!·.step.isRename)

end Race

variable {before files after : FileSystem} {attempt : Attempt} {job : Replacement}
  {spot source : Spot}

theorem temp_ne_target (job : Replacement) : job.temp ≠ job.target :=
  append_temporaryEnding_ne job.target

/-- The temporary file lies beside the target. -/
theorem location_ne_of_locate (htemp : before.locate job.temp = .ok (some source))
    (htarget : before.locate job.target = .ok (some spot)) (hslash : spot.endsInSlash = false) :
    spot.location ≠ source.location := by
  obtain ⟨names, last, hconcat, hlast, htargetNames⟩ := exists_namesOf_temp job
  obtain ⟨hpath, -, ⟨-, hnone⟩ | ⟨above, name, directory, hsplit, hwalk, hspot⟩⟩ :=
    FileSystem.locate_eq_ok_iff.mp htarget
  · cases hnone
  obtain ⟨-, -, rfl⟩ := FileSystem.spotOf_eq_some_iff.mp hspot.symm
  obtain ⟨-, -, ⟨-, hnone⟩ | ⟨above', name', directory', hsplit', hwalk', hspot'⟩⟩ :=
    FileSystem.locate_eq_ok_iff.mp htemp
  · cases hnone
  obtain ⟨-, -, rfl⟩ := FileSystem.spotOf_eq_some_iff.mp hspot'.symm
  have hnonempty : last ≠ "" := by
    intro hempty
    have hend := (hlast.mp hempty).resolve_left hpath
    simp [hend] at hslash
  rw [if_neg hnonempty, hsplit] at htargetNames
  rw [hconcat] at hsplit'
  obtain ⟨rfl, hname⟩ := List.append_inj' htargetNames rfl
  obtain rfl := List.singleton_inj.mp hname
  obtain ⟨rfl, hname'⟩ := List.append_inj' hsplit' rfl
  obtain rfl := List.singleton_inj.mp hname'
  obtain rfl : directory = directory' := Except.ok.inj (hwalk.symm.trans hwalk')
  intro hsame
  have hname : name = name ++ temporaryEnding := by simpa [Spot.location] using hsame
  exact append_temporaryEnding_ne name hname.symm

/-! ### What a call can come to -/

namespace Attempt

/-- What is written goes behind what the open file holds. -/
theorem perform_write_cases {place : Location} {content : Bytes} {mode : Nat} (data : Bytes)
    (hopened : attempt.opened = some place)
    (hnode : files.lookup place = some (.file mode content)) :
    (∃ e, attempt.perform files (.write data) = (.failed e, some place, files)) ∨
      ∃ count chunk, (count = data.length → chunk = data) ∧
        attempt.perform files (.write data) =
          (.wrote count, some place, files.insert place (.file mode (content ++ chunk))) := by
  simp only [perform, hopened, FileSystem.appendTo, hnode]
  cases attempt.faults.write with
  | none => exact .inr ⟨_, data, fun _ => rfl, rfl⟩
  | some fault =>
      cases fault with
      | fails e => exact .inl ⟨e, rfl⟩
      | stopsAfter count =>
          refine .inr ⟨_, data.take count, ?_, rfl⟩
          intro hcount
          exact List.take_of_length_le (by omega)

theorem perform_rename_cases (attempt : Attempt) (files : FileSystem) (path target : String) :
    (∃ e, attempt.perform files (.rename path target) = (.failed e, attempt.opened, files)) ∨
      attempt.perform files (.rename path target) = (.malformedPath, attempt.opened, files) ∨
      ∃ after, files.rename path target = .ok after ∧
        attempt.perform files (.rename path target) = (.done, attempt.opened, after) := by
  simp only [perform]
  cases attempt.faults.rename with
  | some e => exact .inl ⟨e, rfl⟩
  | none =>
      dsimp only
      by_cases hpaths : IsWellFormed path ∧ IsWellFormed target
      · simp only [hpaths, and_self, not_true_eq_false, if_false]
        cases files.rename path target with
        | error e => exact .inl ⟨e, rfl⟩
        | ok after => exact .inr (.inr ⟨after, rfl, rfl⟩)
      · rw [if_pos hpaths]
        exact .inr (.inl rfl)

/-- Whatever else a removal comes to, it leaves the tree alone. -/
theorem perform_unlink_cases (attempt : Attempt) (files : FileSystem) (path : String) :
    (∃ reply, reply ≠ .done ∧
        attempt.perform files (.unlink path) = (reply, attempt.opened, files)) ∨
      ∃ after, files.unlink path = .ok after ∧
        attempt.perform files (.unlink path) = (.done, attempt.opened, after) := by
  simp only [perform]
  cases attempt.faults.unlink with
  | some e => exact .inl ⟨.failed e, by simp, rfl⟩
  | none =>
      dsimp only
      by_cases hpath : IsWellFormed path
      · simp only [hpath, not_true_eq_false, if_false]
        cases files.unlink path with
        | error e => exact .inl ⟨.failed e, by simp, rfl⟩
        | ok after => exact .inr ⟨after, rfl, rfl⟩
      · rw [if_pos hpath]
        exact .inl ⟨.malformedPath, by simp, rfl⟩

end Attempt

/-! ### The runner at its temporary file -/

/-- The stages between the creation of the temporary file and its end. -/
def Stage.HoldsTemp : Stage → Prop
  | .writing | .closing _ | .moving | .discarding _ | .retracting _ => True
  | .creating | .withdrawing _ | .ended _ => False

/-- What a stage takes for granted of the temporary file at a place. -/
def Stage.Trusts (job : Replacement) (opened : Option Location) (place : Location)
    (content : Bytes) : Stage → Prop
  | .writing => opened = some place ∧ content = []
  | .closing written => written = .ok job.data.length → content = job.data
  | .moving => content = job.data
  | .creating | .discarding _ | .retracting _ | .withdrawing _ | .ended _ => True

/-- As long as a runner needs it, its temporary file is there and as the runner has left it. The path
leads there from the tree at the beginning. -/
def Attempt.HasTemp (before files : FileSystem) (attempt : Attempt) : Prop :=
  attempt.stage.HoldsTemp → ∃ spot content, before.locate attempt.job.temp = .ok (some spot) ∧
    files.lookup spot.location = some (.file fileMode content) ∧
    attempt.stage.Trusts attempt.job attempt.opened spot.location content

/-- What a runner's call does to the tree that it shares. -/
inductive Effect (before : FileSystem) (attempt : Attempt) (files : FileSystem) (step : Step) :
    Prop where
  | nothing (hfiles : step.files = files)
      (hholds : step.attempt.stage.HoldsTemp → attempt.stage.HoldsTemp)
      (hreply : step.isRename = true → step.reply ≠ .done)
      (hremoves : step.removes attempt.job.target = false)
  | onTemp {spot : Spot} (hlocate : before.locate attempt.job.temp = .ok (some spot))
      (hmine : attempt.stage.HoldsTemp ∨ files.lookup spot.location = none)
      (hfiles : step.files = files.erase spot.location ∨
        ∃ content, step.files = files.insert spot.location (.file fileMode content))
      (hrename : step.isRename = false) (hremoves : step.removes attempt.job.target = false)
  | moves {source spot : Spot} (hsource : before.locate attempt.job.temp = .ok (some source))
      (htarget : before.locate attempt.job.target = .ok (some spot))
      (hslash : spot.endsInSlash = false) (hstage : attempt.stage = .moving)
      (hends : step.attempt.stage = .ended (.ok ())) (hrename : step.isRename = true)
      (hfiles : step.files =
        (files.erase source.location).insert spot.location (.file fileMode attempt.job.data))
  | removes {cause : Failure} {spot : Spot}
      (htarget : before.locate attempt.job.target = .ok (some spot))
      (hslash : spot.endsInSlash = false) (hstage : attempt.stage = .withdrawing cause)
      (hends : step.attempt.stage = .ended (.error cause)) (hrename : step.isRename = false)
      (hremoves : step.removes attempt.job.target = true)
      (hfiles : step.files = files.erase spot.location)

theorem located_of_unlink {path : String} (ways : KeepsWays files before)
    (h : files.unlink path = .ok after) :
    ∃ spot, before.locate path = .ok (some spot) ∧ spot.endsInSlash = false ∧
      after = files.erase spot.location := by
  obtain ⟨spot, node, hlocate, hslash, -, -, rfl⟩ := FileSystem.unlink_eq_ok_iff.mp h
  exact ⟨spot, FileSystem.locate_of_keepsWays ways hlocate, hslash, rfl⟩

/-! ### Call by call -/

namespace Attempt.HasTemp

variable {step : Step} {content : Bytes}

theorem of_creating (ways : KeepsWays files before) (hstage : attempt.stage = .creating)
    (hstep : attempt.step files = some step) :
    step.attempt.HasTemp before step.files ∧ Effect before attempt files step := by
  rcases attempt.perform_create files with ⟨e, h⟩ | ⟨-, h⟩ | ⟨place, free, h⟩
  · obtain rfl := step_eq hstage rfl h hstep
    exact ⟨False.elim, .nothing rfl False.elim (by simp [Step.isRename]) rfl⟩
  · obtain rfl := step_eq hstage rfl h hstep
    exact ⟨False.elim, .nothing rfl False.elim (by simp [Step.isRename]) rfl⟩
  · obtain rfl := step_eq hstage rfl h hstep
    obtain ⟨spot, hlocate, -, hnode, rfl⟩ := free.located
    have hbefore := FileSystem.locate_of_keepsWays ways hlocate
    constructor
    · intro
      exact ⟨spot, [], hbefore, FileSystem.lookup_insert_self free.ne_nil, rfl, rfl⟩
    · exact .onTemp hbefore (.inr free.lookup) (.inr ⟨[], rfl⟩) rfl rfl

theorem of_writing (hlocate : before.locate attempt.job.temp = .ok (some spot))
    (hnode : files.lookup spot.location = some (.file fileMode []))
    (hopened : attempt.opened = some spot.location) (hstage : attempt.stage = .writing)
    (hstep : attempt.step files = some step) :
    step.attempt.HasTemp before step.files ∧ Effect before attempt files step := by
  rcases perform_write_cases attempt.job.data hopened hnode with
    ⟨e, h⟩ | ⟨count, chunk, hchunk, h⟩
  · obtain rfl := step_eq hstage rfl h hstep
    refine ⟨fun _ => ⟨spot, [], hlocate, hnode, by simp [Stage.next, Stage.Trusts]⟩, ?_⟩
    exact .nothing rfl (fun _ => hstage ▸ trivial) (by simp [Step.isRename]) rfl
  · obtain rfl := step_eq hstage rfl h hstep
    constructor
    · intro
      refine ⟨spot, _, hlocate, FileSystem.lookup_insert_self spot.location_ne_nil, ?_⟩
      intro hcount
      exact hchunk (Except.ok.inj hcount)
    · exact .onTemp hlocate (.inl (hstage ▸ trivial)) (.inr ⟨_, rfl⟩) rfl rfl

/-- Only the file that was written in full is moved. -/
theorem trusts_afterClosing {written : Except Errno Nat} {place : Location}
    (complete : written = .ok job.data.length → content = job.data) :
    (Stage.afterClosing job written).Trusts job none place content := by
  cases written with
  | error e => trivial
  | ok count =>
      by_cases hcount : count = job.data.length
      · simp only [Stage.afterClosing, hcount, if_true]
        exact complete (congrArg Except.ok hcount)
      · simp only [Stage.afterClosing, hcount, if_false]
        trivial

theorem of_closing {written : Except Errno Nat}
    (hlocate : before.locate attempt.job.temp = .ok (some spot))
    (hnode : files.lookup spot.location = some (.file fileMode content))
    (complete : written = .ok attempt.job.data.length → content = attempt.job.data)
    (hstage : attempt.stage = .closing written) (hstep : attempt.step files = some step) :
    step.attempt.HasTemp before step.files ∧ Effect before attempt files step := by
  rcases attempt.perform_close files with ⟨e, h⟩ | h
  · obtain rfl := step_eq hstage rfl h hstep
    refine ⟨fun _ => ⟨spot, content, hlocate, hnode, trivial⟩, ?_⟩
    exact .nothing rfl (fun _ => hstage ▸ trivial) (by simp [Step.isRename]) rfl
  · obtain rfl := step_eq hstage rfl h hstep
    refine ⟨fun _ => ⟨spot, content, hlocate, hnode, trusts_afterClosing complete⟩, ?_⟩
    exact .nothing rfl (fun _ => hstage ▸ trivial) (by simp [Step.isRename]) rfl

theorem of_moving (ways : KeepsWays files before)
    (hlocate : before.locate attempt.job.temp = .ok (some spot))
    (hnode : files.lookup spot.location = some (.file fileMode attempt.job.data))
    (hstage : attempt.stage = .moving) (hstep : attempt.step files = some step) :
    step.attempt.HasTemp before step.files ∧ Effect before attempt files step := by
  rcases attempt.perform_rename_cases files attempt.job.temp attempt.job.target with
    ⟨e, h⟩ | h | ⟨after, hrename, h⟩
  · obtain rfl := step_eq hstage rfl h hstep
    refine ⟨fun _ => ⟨spot, _, hlocate, hnode, trivial⟩, ?_⟩
    exact .nothing rfl (fun _ => hstage ▸ trivial) (by simp) rfl
  · obtain rfl := step_eq hstage rfl h hstep
    exact ⟨False.elim, .nothing rfl False.elim (by simp) rfl⟩
  · obtain rfl := step_eq hstage rfl h hstep
    obtain ⟨source, goal, node, replaced, hsource, hgoal, hmoved, -, -, hslash, -, rfl⟩ :=
      FileSystem.rename_eq_ok_iff.mp hrename
    have hsource' := FileSystem.locate_of_keepsWays ways hsource
    have hgoal' := FileSystem.locate_of_keepsWays ways hgoal
    obtain rfl : spot = source := Option.some.inj (Except.ok.inj (hlocate.symm.trans hsource'))
    obtain rfl : node = .file fileMode attempt.job.data :=
      Option.some.inj ((FileSystem.nodeAt_eq_ok_iff.mp hmoved).2.symm.trans hnode)
    exact ⟨False.elim, .moves hsource' hgoal' hslash hstage rfl rfl rfl⟩

/-- Whoever takes its temporary file away needs it no more. -/
theorem of_removing {stage : Stage} (ways : KeepsWays files before)
    (hstage : attempt.stage = stage)
    (hcall : stage.call attempt.job = some (.unlink attempt.job.temp)) (hholds : stage.HoldsTemp)
    (hlater : ∀ reply, ¬ (stage.next attempt.job reply).HoldsTemp)
    (hstep : attempt.step files = some step) :
    step.attempt.HasTemp before step.files ∧ Effect before attempt files step := by
  rcases attempt.perform_unlink_cases files attempt.job.temp with
    ⟨reply, hreply, h⟩ | ⟨after, hunlink, h⟩
  · obtain rfl := step_eq hstage hcall h hstep
    refine ⟨fun hheld => absurd hheld (hlater reply), ?_⟩
    exact .nothing rfl (fun hheld => absurd hheld (hlater reply)) (by simp [Step.isRename])
      (Step.removes_eq_false _ hreply)
  · obtain rfl := step_eq hstage hcall h hstep
    obtain ⟨spot, hlocate, -, rfl⟩ := located_of_unlink ways hunlink
    refine ⟨fun hheld => absurd hheld (hlater _), ?_⟩
    have hne := temp_ne_target attempt.job
    exact .onTemp hlocate (.inl (hstage ▸ hholds)) (.inl rfl) rfl (by simp [Step.removes, hne])

theorem of_withdrawing {cause : Failure} (ways : KeepsWays files before)
    (hstage : attempt.stage = .withdrawing cause) (hstep : attempt.step files = some step) :
    step.attempt.HasTemp before step.files ∧ Effect before attempt files step := by
  rcases attempt.perform_unlink_cases files attempt.job.target with
    ⟨reply, hreply, h⟩ | ⟨after, hunlink, h⟩
  · obtain rfl := step_eq hstage rfl h hstep
    exact ⟨False.elim, .nothing rfl False.elim (by simp [Step.isRename])
      (Step.removes_eq_false _ hreply)⟩
  · obtain rfl := step_eq hstage rfl h hstep
    obtain ⟨spot, hlocate, hslash, rfl⟩ := located_of_unlink ways hunlink
    exact ⟨False.elim, .removes hlocate hslash hstage rfl rfl (by simp [Step.removes]) rfl⟩

end Attempt.HasTemp

/-- One call of a runner keeps up its trust in the temporary file, and has one of the effects. -/
theorem Attempt.HasTemp.step {step : Step} (has : attempt.HasTemp before files)
    (ways : KeepsWays files before) (hstep : attempt.step files = some step) :
    step.attempt.HasTemp before step.files ∧ Effect before attempt files step := by
  unfold HasTemp at has
  cases hstage : attempt.stage with
  | creating => exact of_creating ways hstage hstep
  | writing =>
      rw [hstage] at has
      obtain ⟨spot, content, hlocate, hnode, hopened, rfl⟩ := has trivial
      exact of_writing hlocate hnode hopened hstage hstep
  | closing written =>
      rw [hstage] at has
      obtain ⟨spot, content, hlocate, hnode, complete⟩ := has trivial
      exact of_closing hlocate hnode complete hstage hstep
  | moving =>
      rw [hstage] at has
      obtain ⟨spot, content, hlocate, hnode, rfl⟩ := has trivial
      exact of_moving ways hlocate hnode hstage hstep
  | discarding cause => exact of_removing ways hstage rfl trivial (fun _ => id) hstep
  | retracting cause => exact of_removing ways hstage rfl trivial (fun _ => id) hstep
  | withdrawing cause => exact of_withdrawing ways hstage hstep
  | ended outcome => simp [Attempt.step, hstage, Stage.call] at hstep

/-! ### What a call leaves to the other runner -/

namespace Effect

variable {step : Step}

theorem keepsWays (effect : Effect before attempt files step) : KeepsWays step.files files := by
  cases effect with
  | nothing hfiles => exact hfiles ▸ .refl files
  | onTemp _ _ hfiles =>
      rcases hfiles with hfiles | ⟨content, hfiles⟩
      · exact hfiles ▸ FileSystem.keepsWays_of_erase _
      · exact hfiles ▸ FileSystem.keepsWays_of_insert_file _ _ _
  | moves _ _ _ _ _ _ hfiles =>
      rw [hfiles]
      exact (FileSystem.keepsWays_of_insert_file _ _ _).trans (FileSystem.keepsWays_of_erase _)
  | removes _ _ _ _ _ _ hfiles => exact hfiles ▸ FileSystem.keepsWays_of_erase _

/-- A runner that comes by a temporary file has found none in its place. -/
theorem of_holdsTemp (effect : Effect before attempt files step)
    (hholds : step.attempt.stage.HoldsTemp) :
    attempt.stage.HoldsTemp ∨
      ∃ spot, before.locate attempt.job.temp = .ok (some spot) ∧
        files.lookup spot.location = none := by
  cases effect with
  | nothing _ hheld => exact .inl (hheld hholds)
  | onTemp hlocate hmine => exact hmine.imp_right fun hnone => ⟨_, hlocate, hnone⟩
  | moves _ _ _ _ hends | removes _ _ _ hends =>
      rw [hends] at hholds
      exact hholds.elim

/-- A runner without a temporary file does nothing to the one that is there. -/
theorem lookup_temp (effect : Effect before attempt files step)
    (hfree : ¬ attempt.stage.HoldsTemp)
    (hlocate : before.locate attempt.job.temp = .ok (some spot)) {node : FileSystem.Node}
    (hnode : files.lookup spot.location = some node) :
    step.files.lookup spot.location = some node := by
  cases effect with
  | nothing hfiles => rwa [hfiles]
  | onTemp hlocate' hmine =>
      obtain rfl := Option.some.inj (Except.ok.inj (hlocate.symm.trans hlocate'))
      rcases hmine with hholds | hnone
      · exact absurd hholds hfree
      · cases hnone.symm.trans hnode
  | moves _ _ _ hstage => exact absurd (hstage ▸ trivial) hfree
  | removes htarget hslash _ _ _ _ hfiles =>
      rwa [hfiles, FileSystem.lookup_erase_of_ne]
      exact (location_ne_of_locate hlocate htarget hslash).symm

/-- What is at the target stays there but for moves and removals. -/
theorem lookup_target (effect : Effect before attempt files step) (hrename : step.isRename = false)
    (hremoves : step.removes attempt.job.target = false)
    (hlocate : before.locate attempt.job.target = .ok (some spot))
    (hslash : spot.endsInSlash = false) :
    step.files.lookup spot.location = files.lookup spot.location := by
  cases effect with
  | nothing hfiles => rw [hfiles]
  | onTemp htemp _ hfiles =>
      have hne := location_ne_of_locate htemp hlocate hslash
      rcases hfiles with hfiles | ⟨content, hfiles⟩
      · rw [hfiles, FileSystem.lookup_erase_of_ne hne]
      · rw [hfiles, FileSystem.lookup_insert_of_ne hne]
  | moves _ _ _ _ _ hmoves => cases hmoves.symm.trans hrename
  | removes _ _ _ _ _ hgone => cases hgone.symm.trans hremoves

end Effect

/-! ### The race as a whole -/

/-- The stages behind a move that failed, as long as the runner is still cleaning up. -/
def Stage.FollowsFailedMove : Stage → Prop
  | .retracting _ | .withdrawing _ => True
  | .creating | .writing | .closing _ | .moving | .discarding _ | .ended _ => False

theorem Stage.FollowsFailedMove.of_next {stage : Stage} {reply : Reply}
    (h : (stage.next job reply).FollowsFailedMove) :
    stage.FollowsFailedMove ∨ stage = .moving ∧ ∃ e, reply = .failed e := by
  have hclosed (written : Except Errno Nat) : ¬ (afterClosing job written).FollowsFailedMove := by
    cases written with
    | error e => exact id
    | ok count =>
        rw [afterClosing]
        split
        · exact id
        · exact id
  cases stage with
  | creating | writing => cases reply <;> exact h.elim
  | closing written =>
      cases reply with
      | failed e => exact h.elim
      | done | wrote count | malformedPath => exact absurd h (hclosed written)
  | moving =>
      cases reply with
      | failed e => exact .inr ⟨rfl, e, rfl⟩
      | done | wrote count | malformedPath => exact h.elim
  | retracting cause | withdrawing cause => exact .inl trivial
  | discarding cause | ended outcome => exact h.elim

/-- Who cleans up after a move has just failed in it, or was cleaning up already. -/
theorem Attempt.followsFailedMove_of_step {step : Step} (hstep : attempt.step files = some step)
    (h : step.attempt.stage.FollowsFailedMove) :
    attempt.stage.FollowsFailedMove ∨ step.isFailedRename = true := by
  obtain ⟨call, reply, opened, after, hcall, -, rfl⟩ := step_eq_some_iff.mp hstep
  refine h.of_next.imp_right ?_
  rintro ⟨hstage, e, rfl⟩
  rw [hstage] at hcall
  obtain rfl := Option.some.inj hcall
  rfl

namespace Race

variable {contents : Runner → String} {target : String} {race : Race}

/-- What holds of a race at any time. -/
structure IsSound (target : String) (contents : Runner → String) (before : FileSystem)
    (race : Race) : Prop where
  job : ∀ runner, (race.attempts runner).job = { target, content := contents runner }
  ways : KeepsWays race.files before
  hasTemp : ∀ runner, (race.attempts runner).HasTemp before race.files
  alone : ∀ runner, (race.attempts runner).stage.HoldsTemp →
    ¬ (race.attempts runner.other).stage.HoldsTemp
  failed : ∀ runner, (race.attempts runner).stage.FollowsFailedMove →
    ∃ turn ∈ race.past, turn.runner = runner ∧ turn.step.isFailedRename = true
  moved : ∀ turn ∈ race.past, turn.step.isRename = true → turn.step.reply = .done →
    ∃ outcome, (race.attempts turn.runner).stage = .ended outcome

theorem isSound_start (target : String) (contents : Runner → String) (before : FileSystem) :
    (start target contents before).IsSound target contents before where
  job _ := rfl
  ways := .refl before
  hasTemp _ := False.elim
  alone _ := False.elim
  failed _ := False.elim
  moved _ hturn := by cases hturn

namespace IsSound

variable {runner another : Runner} {faults : Faults} {step : Step}

/-- The call of one runner in a race that is sound. -/
theorem effect (sound : race.IsSound target contents before)
    (hstep : ({ race.attempts runner with faults } : Attempt).step race.files = some step) :
    step.attempt.HasTemp before step.files ∧
      Effect before { race.attempts runner with faults } race.files step :=
  Attempt.HasTemp.step (sound.hasTemp runner) sound.ways hstep

theorem ne_ended (sound : race.IsSound target contents before)
    (hstep : ({ race.attempts runner with faults } : Attempt).step race.files = some step)
    {turn : Turn} (hturn : turn ∈ race.past) (hrename : turn.step.isRename = true)
    (hdone : turn.step.reply = .done) : turn.runner ≠ runner := by
  rintro rfl
  obtain ⟨outcome, hends⟩ := sound.moved turn hturn hrename hdone
  obtain ⟨call, -, -, -, hcall, -⟩ := Attempt.step_eq_some_iff.mp hstep
  simp [hends, Stage.call] at hcall

/-- A runner that comes by a temporary file has found none, so the other one has none. -/
theorem other_free (sound : race.IsSound target contents before)
    (hstep : ({ race.attempts runner with faults } : Attempt).step race.files = some step)
    (hholds : step.attempt.stage.HoldsTemp) : ¬ (race.attempts runner.other).stage.HoldsTemp := by
  rcases (sound.effect hstep).2.of_holdsTemp hholds with hheld | ⟨spot, hlocate, hnone⟩
  · exact sound.alone runner hheld
  · intro hother
    obtain ⟨spot', content, hlocate', hnode, -⟩ := sound.hasTemp runner.other hother
    rw [sound.job] at hlocate'
    have hlocate : before.locate (race.attempts runner).job.temp = .ok (some spot) := hlocate
    rw [sound.job] at hlocate
    obtain rfl : spot = spot' := Option.some.inj (Except.ok.inj (hlocate.symm.trans hlocate'))
    cases hnone.symm.trans hnode

/-- The temporary file of the other runner is left alone. -/
theorem hasTemp_other (sound : race.IsSound target contents before)
    (hstep : ({ race.attempts runner with faults } : Attempt).step race.files = some step)
    (hother : another ≠ runner) : (race.attempts another).HasTemp before step.files := by
  intro hholds
  obtain ⟨spot, content, hlocate, hnode, htrust⟩ := sound.hasTemp another hholds
  have hfree := sound.alone another hholds
  rw [← Runner.eq_other hother] at hfree
  refine ⟨spot, content, hlocate, (sound.effect hstep).2.lookup_temp hfree ?_ hnode, htrust⟩
  rw [sound.job] at hlocate
  change before.locate (race.attempts runner).job.temp = _
  rwa [sound.job]

/-- Who cleans up after a failed move has made it before, or just now. -/
theorem exists_failed (sound : race.IsSound target contents before)
    (hstep : ({ race.attempts runner with faults } : Attempt).step race.files = some step)
    (hfollows : step.attempt.stage.FollowsFailedMove) :
    ∃ turn ∈ (⟨runner, step⟩ : Turn) :: race.past,
      turn.runner = runner ∧ turn.step.isFailedRename = true := by
  rcases Attempt.followsFailedMove_of_step hstep hfollows with hfollows | hmove
  · obtain ⟨turn, hturn, hwhose, hmove⟩ := sound.failed runner hfollows
    exact ⟨turn, List.mem_cons_of_mem _ hturn, hwhose, hmove⟩
  · exact ⟨_, List.mem_cons_self, rfl, hmove⟩

/-- A call of either runner leaves a race sound. -/
theorem advance (sound : race.IsSound target contents before) (runner : Runner)
    (faults : Faults) : (race.advance runner faults).IsSound target contents before := by
  unfold Race.advance
  split
  · exact sound
  rename_i step hstep
  obtain ⟨htemp, effect⟩ := sound.effect hstep
  constructor
  case job =>
    intro another
    by_cases hrunner : another = runner
    · subst hrunner
      have hjob : step.attempt.job = (race.attempts another).job := by
        obtain ⟨_, _, _, _, -, -, rfl⟩ := Attempt.step_eq_some_iff.mp hstep
        rfl
      simpa [hjob] using sound.job another
    · simpa [hrunner] using sound.job another
  case ways => exact effect.keepsWays.trans sound.ways
  case hasTemp =>
    intro another
    by_cases hrunner : another = runner
    · simpa [hrunner] using htemp
    · simpa [hrunner] using sound.hasTemp_other hstep hrunner
  case alone =>
    intro another
    by_cases hrunner : another = runner
    · subst hrunner
      cases another <;> simpa [Runner.other] using sound.other_free hstep
    · obtain rfl := Runner.eq_other hrunner
      cases another <;> simpa [Runner.other] using fun h h' => sound.other_free hstep h' h
  case failed =>
    intro another hfailed
    by_cases hrunner : another = runner
    · subst hrunner
      simp only [if_true] at hfailed
      exact sound.exists_failed hstep hfailed
    · simp only [hrunner, if_false] at hfailed
      obtain ⟨turn, hturn, hwhose, hmove⟩ := sound.failed another hfailed
      exact ⟨turn, List.mem_cons_of_mem _ hturn, hwhose, hmove⟩
  case moved =>
    intro turn hturn hrename hdone
    rcases List.mem_cons.mp hturn with rfl | hturn
    · cases effect with
      | nothing _ _ hreply => exact absurd hdone (hreply hrename)
      | onTemp _ _ _ hnone => cases hnone.symm.trans hrename
      | moves _ _ _ _ hends => exact ⟨_, by simpa using hends⟩
      | removes _ _ _ _ hnone => cases hnone.symm.trans hrename
    · have hwhose := sound.ne_ended hstep hturn hrename hdone
      simpa [hwhose] using sound.moved turn hturn hrename hdone

end IsSound

/-! ### After the last move -/

section Advance

variable {runner : Runner} {faults : Faults} {step : Step} {turn : Turn}

theorem advance_of_step_eq_none
    (hstep : ({ race.attempts runner with faults } : Attempt).step race.files = none) :
    race.advance runner faults = race := by
  rw [advance, hstep]

theorem advance_of_step_eq_some
    (hstep : ({ race.attempts runner with faults } : Attempt).step race.files = some step) :
    race.advance runner faults =
      { attempts := fun other => if other = runner then step.attempt else race.attempts other
        files := step.files
        past := ⟨runner, step⟩ :: race.past } := by
  rw [advance, hstep]

theorem lastMove?_advance
    (hstep : ({ race.attempts runner with faults } : Attempt).step race.files = some step) :
    (race.advance runner faults).lastMove? =
      if step.isRename then some ⟨runner, step⟩ else race.lastMove? := by
  rw [advance_of_step_eq_some hstep, lastMove?, List.find?_cons]
  cases step.isRename with
  | true => rfl
  | false => rfl

theorem sinceMove_advance
    (hstep : ({ race.attempts runner with faults } : Attempt).step race.files = some step) :
    (race.advance runner faults).sinceMove =
      if step.isRename then [] else ⟨runner, step⟩ :: race.sinceMove := by
  rw [advance_of_step_eq_some hstep, sinceMove, List.takeWhile_cons]
  cases step.isRename with
  | true => rfl
  | false => rfl

/-- What a successful move brought to the target is there, unless the other runner, whose own move
failed before, has taken it away since then. -/
def KeepsContent (target : String) (contents : Runner → String) (before : FileSystem) (race : Race)
    (turn : Turn) : Prop :=
  ∃ spot, before.locate target = .ok (some spot) ∧ spot.endsInSlash = false ∧
    ((∀ later ∈ race.sinceMove, later.step.removes target = false) ∧
        race.files.lookup spot.location =
          some (.file fileMode (Text.utf8 (contents turn.runner))) ∨
      (∃ removal ∈ race.sinceMove, removal.runner = turn.runner.other ∧
          removal.step.removes target = true) ∧
        (∃ failed ∈ race.past, failed.runner = turn.runner.other ∧
          failed.step.isFailedRename = true) ∧
        race.files.lookup spot.location = none)

/-- A move that succeeds brings its runner's content. -/
theorem keepsContent_of_move (sound : race.IsSound target contents before)
    (hstep : ({ race.attempts runner with faults } : Attempt).step race.files = some step)
    (hrename : step.isRename = true) (hdone : step.reply = .done) :
    (race.advance runner faults).KeepsContent target contents before ⟨runner, step⟩ := by
  have hjob : (race.attempts runner).job = { target, content := contents runner } :=
    sound.job runner
  have hsince := sinceMove_advance hstep
  rw [if_pos hrename] at hsince
  cases (sound.effect hstep).2 with
  | nothing _ _ hreply => exact absurd hdone (hreply hrename)
  | onTemp _ _ _ hnone | removes _ _ _ _ hnone => cases hnone.symm.trans hrename
  | @moves source spot _ htarget hslash _ _ _ hfiles =>
      dsimp only at htarget hfiles
      rw [hjob] at htarget hfiles
      refine ⟨spot, htarget, hslash, .inl ⟨by simp [hsince], ?_⟩⟩
      rw [advance_of_step_eq_some hstep, hfiles]
      exact FileSystem.lookup_insert_self spot.location_ne_nil

/-- Of the calls behind the last move, only a removal by the other runner does away with the
content. -/
theorem KeepsContent.advance (kept : race.KeepsContent target contents before turn)
    (sound : race.IsSound target contents before) (hlast : race.lastMove? = some turn)
    (hdone : turn.step.reply = .done)
    (hstep : ({ race.attempts runner with faults } : Attempt).step race.files = some step)
    (hrename : step.isRename = false) :
    (race.advance runner faults).KeepsContent target contents before turn := by
  have hjob : (race.attempts runner).job = { target, content := contents runner } :=
    sound.job runner
  have hturn : turn ∈ race.past := List.mem_of_find?_eq_some hlast
  have hmove : turn.step.isRename = true := by simpa using List.find?_some hlast
  have hsince := sinceMove_advance hstep
  rw [if_neg (by simp [hrename])] at hsince
  obtain ⟨-, effect⟩ := sound.effect hstep
  obtain ⟨spot, htarget, hslash, hcontent⟩ := kept
  refine ⟨spot, htarget, hslash, ?_⟩
  rw [hsince, advance_of_step_eq_some hstep]
  cases hremoves : step.removes target with
  | true =>
      cases effect with
      | nothing _ _ _ hnone | onTemp _ _ _ _ hnone =>
          dsimp only at hnone
          rw [hjob] at hnone
          cases hnone.symm.trans hremoves
      | moves _ _ _ _ _ hmoves => cases hmoves.symm.trans hrename
      | @removes cause goal hgoal _ hstage _ _ _ hfiles =>
          dsimp only at hgoal hstage
          rw [hjob] at hgoal
          obtain rfl := Option.some.inj (Except.ok.inj (htarget.symm.trans hgoal))
          obtain rfl : runner = turn.runner.other :=
            Runner.eq_other (sound.ne_ended hstep hturn hmove hdone)
          have hfollows : (race.attempts turn.runner.other).stage.FollowsFailedMove := by
            rw [hstage]
            trivial
          obtain ⟨failed, hfailed, hwhose, hfailure⟩ := sound.failed _ hfollows
          refine .inr ⟨⟨_, List.mem_cons_self, rfl, hremoves⟩,
            ⟨failed, List.mem_cons_of_mem _ hfailed, hwhose, hfailure⟩, ?_⟩
          rw [hfiles]
          exact FileSystem.lookup_erase_self spot.location_ne_nil
  | false =>
      have hlookup : step.files.lookup spot.location = race.files.lookup spot.location := by
        apply effect.lookup_target hrename
        · rw [hjob]
          exact hremoves
        · rw [hjob]
          exact htarget
        · exact hslash
      rw [hlookup]
      rcases hcontent with ⟨hnone, hnode⟩ |
        ⟨⟨removal, hremoval, hgone⟩, ⟨failed, hfailed, hfailure⟩, hnode⟩
      · refine .inl ⟨?_, hnode⟩
        intro later hlater
        rcases List.mem_cons.mp hlater with rfl | hlater
        · exact hremoves
        · exact hnone later hlater
      · exact .inr ⟨⟨removal, List.mem_cons_of_mem _ hremoval, hgone⟩,
          ⟨failed, List.mem_cons_of_mem _ hfailed, hfailure⟩, hnode⟩

end Advance

/-- A whole race is sound, and keeps what its last move brought, if that move succeeded. -/
theorem isSound_run (sound : race.IsSound target contents before)
    (kept : ∀ turn, race.lastMove? = some turn → turn.step.reply = .done →
      race.KeepsContent target contents before turn) (schedule : List (Runner × Faults)) :
    (race.run schedule).IsSound target contents before ∧
      ∀ turn, (race.run schedule).lastMove? = some turn → turn.step.reply = .done →
        (race.run schedule).KeepsContent target contents before turn := by
  induction schedule generalizing race with
  | nil => exact ⟨sound, kept⟩
  | cons next schedule ih =>
      rcases next with ⟨runner, faults⟩
      apply ih (sound.advance runner faults)
      intro turn hlast hdone
      cases hstep : ({ race.attempts runner with faults } : Attempt).step race.files with
      | none =>
          rw [advance_of_step_eq_none hstep] at hlast ⊢
          exact kept turn hlast hdone
      | some step =>
          rw [lastMove?_advance hstep] at hlast
          cases hrename : step.isRename with
          | true =>
              rw [if_pos hrename] at hlast
              obtain rfl := Option.some.inj hlast
              exact keepsContent_of_move sound hstep hrename hdone
          | false =>
              rw [if_neg (by simp [hrename])] at hlast
              exact (kept turn hlast hdone).advance sound hlast hdone hstep hrename

/-- Two replacements of one file, whose calls follow each other in any order and fail at will. If the
last move succeeds, the target has all of the content of the runner that made it, or nothing: the
other runner may have failed in a move of its own before, and it is only then that it still has the
target to take away. -/
theorem target_of_lastMove (target : String) (contents : Runner → String) (before : FileSystem)
    (schedule : List (Runner × Faults)) {turn : Turn}
    (hlast : ((start target contents before).run schedule).lastMove? = some turn)
    (hdone : turn.step.reply = .done) :
    let race := (start target contents before).run schedule
    ∃ place, before.place target = .ok place ∧
      ((∀ later ∈ race.sinceMove, later.step.removes target = false) ∧
          race.files.lookup place = some (.file 0o600 (Text.utf8 (contents turn.runner))) ∨
        (∃ removal ∈ race.sinceMove, removal.runner = turn.runner.other ∧
            removal.step.removes target = true) ∧
          (∃ failed ∈ race.past, failed.runner = turn.runner.other ∧
            failed.step.isFailedRename = true) ∧
          race.files.lookup place = none) := by
  intro race
  have hstart : ∀ turn, (start target contents before).lastMove? = some turn →
      turn.step.reply = .done → (start target contents before).KeepsContent target contents before
        turn := by
    intro turn hnone
    cases hnone
  obtain ⟨-, hrun⟩ := isSound_run (isSound_start target contents before) hstart schedule
  obtain ⟨spot, hlocate, hslash, hcontent⟩ := hrun turn hlast hdone
  exact ⟨spot.location, FileSystem.place_of_locate hlocate hslash, hcontent⟩

/-- The first runner's move fails, and it is done with cleaning up before the second one's move. -/
theorem target_of_lastMove_of_early_cleanup :
    let contents : Runner → String := fun runner => if runner = .first then "A\n" else "B\n"
    let schedule : List (Runner × Faults) :=
      [(.first, {}), (.first, {}), (.first, {}), (.first, { rename := some .inputOutput }),
        (.first, {}), (.second, {}), (.second, {}), (.first, {}), (.second, {}), (.second, {})]
    let race := (start "s" contents .empty).run schedule
    ∃ turn, race.lastMove? = some turn ∧ turn.step.reply = .done ∧ turn.runner = .second ∧
      race.files.lookup ["s"] = some (.file 0o600 (Text.utf8 "B\n")) := by
  intro contents schedule race
  have htemp : tempPath "s" = "s~" := rfl
  have hnames : FileSystem.IsName "s" ∧ FileSystem.IsName "s~" := by decide +kernel
  have hpaths : Attempt.IsWellFormed "s" ∧ Attempt.IsWellFormed "s~" := by decide
  obtain ⟨hlast, hsince⟩ : race.lastMove?.map (fun turn => (turn.runner, turn.step.reply)) =
        some (.second, .done) ∧
      race.sinceMove.any (·.step.removes "s") = false := by
    simp [race, schedule, run, start, advance, lastMove?, sinceMove, Step.isRename, Attempt.step,
      Stage.call, Stage.next, Stage.afterClosing, Attempt.perform, temp, htemp, hpaths,
      FileSystem.createExclusive_of_isName, FileSystem.rename_of_isName,
      FileSystem.unlink_of_isName, hnames, FileSystem.appendTo, FileSystem.lookup,
      FileSystem.insert, FileSystem.erase, FileSystem.empty, List.lookup_cons]
  obtain ⟨turn, hturn, hmove⟩ := Option.map_eq_some_iff.mp hlast
  obtain ⟨hwhose, hdone⟩ := Prod.mk.inj hmove
  obtain ⟨place, hplace, hcontent⟩ :=
    target_of_lastMove "s" contents .empty schedule hturn hdone
  have hroot : FileSystem.empty.place "s" = .ok ["s"] :=
    FileSystem.place_of_locate (FileSystem.empty.locate_of_isName hnames.1) rfl
  obtain rfl : place = ["s"] := Except.ok.inj (hplace.symm.trans hroot)
  refine ⟨turn, hturn, hdone, hwhose, ?_⟩
  rcases hcontent with ⟨-, hnode⟩ | ⟨⟨removal, hremoval, -, hgone⟩, -⟩
  · rwa [hwhose] at hnode
  · exact absurd hgone (by simpa using List.any_eq_false.mp hsince removal hremoval)

/-- The second runner comes in between a failed move of the first one and the cleaning up after it.
Its own move is the last and succeeds, but when both are at their end its content is gone. -/
theorem success_undone :
    let contents : Runner → String := fun runner => if runner = .first then "A\n" else "B\n"
    let schedule : List (Runner × Faults) :=
      [(.first, {}), (.first, {}), (.first, {}), (.first, { rename := some .inputOutput }),
        (.first, {}), (.second, {}), (.second, {}), (.second, {}), (.second, {}), (.first, {})]
    let race := (start "s" contents .empty).run schedule
    (race.attempts .first).report? = some (.error (.notWritten .inputOutput)) ∧
      (race.attempts .second).report? = some (.ok ()) ∧
      race.lastMove?.map (fun turn => (turn.runner, turn.step.reply)) = some (.second, .done) ∧
      race.files.lookup ["s"] = none := by
  intro contents schedule race
  have htemp : tempPath "s" = "s~" := rfl
  have hnames : FileSystem.IsName "s" ∧ FileSystem.IsName "s~" := by decide +kernel
  have hpaths : Attempt.IsWellFormed "s" ∧ Attempt.IsWellFormed "s~" := by decide
  simp [race, schedule, run, start, advance, lastMove?, Step.isRename, Attempt.report?, Attempt.step,
    Stage.call, Stage.next, Stage.afterClosing, Attempt.perform, temp, htemp, hpaths,
    FileSystem.createExclusive_of_isName, FileSystem.rename_of_isName,
    FileSystem.unlink_of_isName, hnames, FileSystem.appendTo, FileSystem.lookup,
    FileSystem.insert, FileSystem.erase, FileSystem.empty, List.lookup_cons]

end Race

end Replacement

end OneTimePassword
