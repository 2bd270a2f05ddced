/-
Module: OneTimePassword.Proofs.Replacement.Outcome
Purpose: What a replacement leaves behind at its end, and what can be seen of it before.
Main exports: Replacement.Replaced, Replacement.Retracted, Replacement.Attempt.replaced_of_report,
  Replacement.Attempt.finish_outcome, Replacement.Course.never_partial
-/
import OneTimePassword.Proofs.Replacement.Course

namespace OneTimePassword.Replacement

open Attempt (IsWellFormed)

variable {job : Replacement} {before files after : FileSystem} {temp place : Location}

/-! ### At the end -/

/-- The target's content is new, the temporary file is gone and nothing else has changed. -/
structure Replaced (job : Replacement) (before after : FileSystem) (place temp : Location) :
    Prop where
  place_target : before.place job.target = .ok place
  place_temp : before.place job.temp = .ok temp
  content : after.lookup place = some (.file fileMode job.data)
  temp_gone : after.lookup temp = none
  others : ∀ other, other ≠ place → after.lookup other = before.lookup other
  /-- The path leads there still, unless it ran through a link that was replaced. -/
  reached : (∀ link, before.lookup place ≠ some (.link link)) → after.place job.target = .ok place
  reached_iff : after.place job.target = .ok place ↔
    (before.erase place).place job.target = .ok place

theorem IsFree.replaced (free : IsFree job before temp)
    (hplace : before.place job.target = .ok place) (hkind : before.lookup place ≠ some .directory)
    (hne : place ≠ temp) (hroot : place ≠ []) :
    Replaced job before (before.insert place (.file fileMode job.data)) place temp where
  place_target := hplace
  place_temp := free.place_temp
  content := FileSystem.lookup_insert_self hroot
  temp_gone := by rw [FileSystem.lookup_insert_of_ne hne.symm, free.lookup]
  others _ h := FileSystem.lookup_insert_of_ne h
  reached := by
    intro hlink
    have hways : before.KeepsWays (before.insert place (.file fileMode job.data)) := by
      apply FileSystem.keepsWays_insert
      intro found hfound
      cases found with
      | file mode content => exact ⟨mode, content, rfl⟩
      | directory => exact absurd hfound hkind
      | link target => exact absurd hfound (hlink target)
    exact FileSystem.place_of_keepsWays hways hplace
  reached_iff := by
    constructor
    · exact FileSystem.place_of_keepsWays (FileSystem.keepsWays_insert_file _ _)
    · exact FileSystem.place_of_keepsWays (FileSystem.keepsWays_erase _)

/-- What is reported as done has been done. -/
theorem Attempt.replaced_of_report {faults : Faults}
    (h : (({ job, faults } : Attempt).finish before).1.report? = some (.ok ())) :
    ∃ place temp, Replaced job before (({ job, faults } : Attempt).finish before).2 place temp := by
  obtain ⟨outcome, opened, hreport, situation⟩ := finish_situation job before faults
  obtain rfl : outcome = .ok () := Option.some.inj (hreport.symm.trans h)
  generalize (({ job, faults } : Attempt).steps before).any _ = failed at situation
  generalize (({ job, faults } : Attempt).finish before).2 = after at situation
  cases situation with
  | moved free hplace hkind hne hroot => exact ⟨_, _, free.replaced hplace hkind hne hroot⟩

/-- Whatever was not there before is a file for its owner alone. -/
def AddsPrivateOnly (before files : FileSystem) : Prop :=
  ∀ location node, files.lookup location = some node →
    before.lookup location = some node ∨ ∃ content, node = .file fileMode content

namespace AddsPrivateOnly

theorem refl (before : FileSystem) : AddsPrivateOnly before before := fun _ _ h => .inl h

theorem insert (hbefore : AddsPrivateOnly before files) (content : Bytes) (hroot : place ≠ []) :
    AddsPrivateOnly before (files.insert place (.file fileMode content)) := by
  intro location node hnode
  by_cases hlocation : location = place
  · subst hlocation
    rw [FileSystem.lookup_insert_self hroot] at hnode
    exact .inr ⟨content, (Option.some.inj hnode).symm⟩
  · rw [FileSystem.lookup_insert_of_ne hlocation] at hnode
    exact hbefore location node hnode

theorem erase (hbefore : AddsPrivateOnly before files) (hroot : place ≠ []) :
    AddsPrivateOnly before (files.erase place) := by
  intro location node hnode
  by_cases hlocation : location = place
  · subst hlocation
    simp [FileSystem.lookup_erase_self hroot] at hnode
  · rw [FileSystem.lookup_erase_of_ne hlocation] at hnode
    exact hbefore location node hnode

end AddsPrivateOnly

/-- The temporary file is never in the place of the target. -/
theorem IsFree.place_target_ne (free : IsFree job before temp)
    (hplace : before.place job.target = .ok place) : place ≠ temp := by
  rintro rfl
  obtain ⟨spot, hlocate, hslash, hspot⟩ :=
    FileSystem.locate_of_place hplace (by simp [free.lookup])
  rcases free.locate_target with hempty | ⟨found, hbefore, hfound⟩
  · simp [hempty, FileSystem.locate] at hlocate
  · obtain rfl : found = some spot := Except.ok.inj (hbefore.symm.trans hlocate)
    exact (hfound spot rfl hslash).1 hspot

variable {mayStick : Prop} {failed : Bool} {stage : Stage} {opened : Option Location}

theorem IsCleared.addsPrivateOnly (free : IsFree job before temp) {content : Bytes}
    (cleared : IsCleared before temp content mayStick files) : AddsPrivateOnly before files := by
  rcases cleared with rfl | ⟨-, rfl⟩
  · exact .refl _
  · exact (AddsPrivateOnly.refl before).insert content free.ne_nil

/-- At every point the target has its old content, all of the new or, after a failed move, none. -/
theorem Situation.lookup_target (h : Situation job before mayStick failed stage opened files)
    (hplace : before.place job.target = .ok place) :
    files.lookup place = before.lookup place ∨
      files.lookup place = some (.file fileMode job.data) ∨
      failed = true ∧ files.lookup place = none := by
  cases h with
  | start | refused => exact .inl rfl
  | writing free | closing free | moving free | discarding free | retracting free =>
      exact .inl (lookup_withTemp_of_ne _ (free.place_target_ne hplace))
  | discarded free _ cleared | withdrawing free cleared =>
      exact .inl (cleared.lookup_of_ne (free.place_target_ne hplace))
  | moved free hplace' _ _ hroot =>
      obtain rfl := Except.ok.inj (hplace.symm.trans hplace')
      exact .inr (.inl (FileSystem.lookup_insert_self hroot))
  | withdrawn free cleared gone =>
      rcases gone with ⟨place', hplace', hremovable, -, rfl⟩ | ⟨rfl, -⟩
      · obtain rfl := Except.ok.inj (hplace.symm.trans hplace')
        exact .inr (.inr ⟨rfl, FileSystem.lookup_erase_self hremovable.ne_nil⟩)
      · exact .inl (cleared.lookup_of_ne (free.place_target_ne hplace))

theorem Situation.addsPrivateOnly (h : Situation job before mayStick failed stage opened files) :
    AddsPrivateOnly before files := by
  cases h with
  | start | refused => exact .refl _
  | writing free | closing free | moving free | discarding free | retracting free =>
      exact (AddsPrivateOnly.refl before).insert _ free.ne_nil
  | discarded free _ cleared | withdrawing free cleared => exact cleared.addsPrivateOnly free
  | moved _ _ _ _ hroot => exact (AddsPrivateOnly.refl before).insert _ hroot
  | withdrawn free cleared gone =>
      rcases gone with ⟨place', -, hremovable, -, rfl⟩ | ⟨rfl, -⟩
      · exact (cleared.addsPrivateOnly free).erase hremovable.ne_nil
      · exact cleared.addsPrivateOnly free

/-- The file that is open is new and for its owner alone. -/
theorem Situation.lookup_opened
    (h : Situation job before mayStick failed stage (some place) files) :
    before.lookup place = none ∧ ∃ content, files.lookup place = some (.file fileMode content) := by
  cases h with
  | writing free => exact ⟨free.lookup, _, free.lookup_withTemp _⟩
  | closing free => exact ⟨free.lookup, _, free.lookup_withTemp _⟩

/-- Between any two calls, whichever of them fail, the target has its old content or all of the new
one. Only after a failed move there may be none. Files that come into being are for their owner alone
from the first moment on, the one that is open as well. This holds on every course, and so after each
call of an attempt. -/
theorem Course.never_partial (job : Replacement) (before : FileSystem) :
    (∀ mayOccur past attempt files, Course job before mayOccur past attempt files →
      (∀ place, before.place job.target = .ok place →
          files.lookup place = before.lookup place ∨
            files.lookup place = some (.file fileMode job.data) ∨
            past.any (·.isFailedRename) = true ∧ files.lookup place = none) ∧
        AddsPrivateOnly before files ∧
        ∀ place, attempt.opened = some place → before.lookup place = none ∧
          ∃ content, files.lookup place = some (.file fileMode content)) ∧
      ∀ faults, ∀ step ∈ ({ job, faults } : Attempt).steps before,
        ∃ past, past <+: ({ job, faults } : Attempt).steps before ∧
          Course job before (· = faults) past step.attempt step.files := by
  constructor
  · intro mayOccur past attempt files course
    rcases course.situation with ⟨-, situation⟩
    refine ⟨fun place hplace => situation.lookup_target hplace, situation.addsPrivateOnly, ?_⟩
    intro place hopened
    rw [hopened] at situation
    exact situation.lookup_opened
  · intro faults
    have start : Course job before (· = faults) [] { job, faults } before := .start faults
    exact (Attempt.course_steps start rfl).2

/-- Where nothing can be taken away after a failed move, the old file stays beside the complete new
one. -/
theorem Course.never_partial_of_failed_cleanup :
    let job : Replacement := { target := "s", content := "x\n" }
    let before : FileSystem := { entries := [(["s"], .file 0o644 [111])] }
    let faults : Faults := { rename := some .inputOutput, unlink := some .accessDenied }
    let past := ({ job, faults } : Attempt).steps before
    let after : FileSystem :=
      { entries := [(["s~"], .file 0o600 [120, 10]), (["s"], .file 0o644 [111])] }
    ∃ attempt, Course job before (· = faults) past attempt after ∧
      (∀ place, before.place job.target = .ok place →
        after.lookup place = before.lookup place ∨
          after.lookup place = some (.file fileMode job.data) ∨
          past.any (·.isFailedRename) = true ∧ after.lookup place = none) ∧
      AddsPrivateOnly before after := by
  intro job before faults past after
  have start : Course job before (· = faults) [] { job, faults } before := .start faults
  have course := (Attempt.course_steps start rfl).1
  have free : IsFree job before ["s~"] := isFree_of_isName (by decide) (by decide +kernel) rfl
  have hafter : (({ job, faults } : Attempt).finish before).2 = after := by
    rw [(Attempt.finish_of_failed_move free faults rfl rfl rfl rfl rfl rfl).1]
    decide +kernel
  rw [hafter, List.nil_append] at course
  obtain ⟨htarget, hprivate, -⟩ := (Course.never_partial job before).1 _ _ _ _ course
  exact ⟨_, course, htarget, hprivate⟩

end OneTimePassword.Replacement
