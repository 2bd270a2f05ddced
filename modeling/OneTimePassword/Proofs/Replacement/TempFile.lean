/-
Module: OneTimePassword.Proofs.Replacement.TempFile
Purpose: The temporary file of a replacement, and what each call comes to on a tree that has it. The
  file gets in no way, so the target's path leads where it did without it.
Main exports: Replacement.IsFree, Replacement.withTemp, Replacement.IsFree.create_temp,
  Replacement.IsFree.unlink_temp, Replacement.IsFree.rename_temp, Replacement.IsFree.locate_target,
  Replacement.Attempt.perform_create, Replacement.Attempt.perform_write,
  Replacement.Attempt.perform_rename, Replacement.Attempt.perform_unlink_temp,
  Replacement.Attempt.perform_unlink_target
-/
import OneTimePassword.Proofs.FileSystem.Place
import OneTimePassword.Replacement.Attempt

namespace OneTimePassword.Replacement

open FileSystem (KeepsWays Spot)
open Attempt (IsWellFormed)

variable {job : Replacement} {before files after : FileSystem} {temp place : Location}

/-! ### The path of the temporary file -/

theorem append_temporaryEnding_ne (name : String) : name ++ temporaryEnding ≠ name := by
  intro h
  have := congrArg String.length h
  simp [temporaryEnding] at this

/-- The last name on the way to the temporary file goes on where the target's does, or stands alone
where the target's path is empty or ends in a slash. -/
theorem exists_namesOf_temp (job : Replacement) :
    ∃ names last, FileSystem.namesOf job.temp = names ++ [last ++ temporaryEnding] ∧
      (last = "" ↔ job.target = "" ∨ job.target.toList.getLast? = some '/') ∧
      FileSystem.namesOf job.target = if last = "" then names else names ++ [last] :=
  FileSystem.exists_namesOf_append job.target temporaryEnding (by decide) (by decide)

/-! ### The temporary file -/

/-- Nothing is in the place of the temporary file, and the path that leads there can be used. -/
structure IsFree (job : Replacement) (before : FileSystem) (temp : Location) : Prop where
  isWellFormed : IsWellFormed job.temp
  located : ∃ spot, before.locate job.temp = .ok (some spot) ∧ spot.endsInSlash = false ∧
    before.nodeAt spot = .ok none ∧ spot.location = temp

/-- The tree with the temporary file in it. -/
def withTemp (before : FileSystem) (temp : Location) (content : Bytes) : FileSystem :=
  before.insert temp (.file fileMode content)

theorem lookup_withTemp_of_ne {other : Location} (content : Bytes) (h : other ≠ temp) :
    (withTemp before temp content).lookup other = before.lookup other :=
  FileSystem.lookup_insert_of_ne h

namespace IsFree

theorem ne_nil (free : IsFree job before temp) : temp ≠ [] := by
  rcases free.located with ⟨spot, -, -, -, rfl⟩
  exact spot.location_ne_nil

theorem lookup (free : IsFree job before temp) : before.lookup temp = none := by
  rcases free.located with ⟨spot, -, -, hnode, rfl⟩
  exact (FileSystem.nodeAt_eq_ok_iff.mp hnode).2

theorem place_temp (free : IsFree job before temp) : before.place job.temp = .ok temp := by
  rcases free.located with ⟨spot, hlocate, hslash, -, rfl⟩
  exact FileSystem.place_of_locate hlocate hslash

theorem keepsWays (free : IsFree job before temp) (content : Bytes) :
    KeepsWays before (withTemp before temp content) := by
  apply FileSystem.keepsWays_insert
  simp [free.lookup]

theorem lookup_withTemp (free : IsFree job before temp) (content : Bytes) :
    (withTemp before temp content).lookup temp = some (.file fileMode content) :=
  FileSystem.lookup_insert_self free.ne_nil

theorem erase_withTemp (free : IsFree job before temp) (content : Bytes) :
    (withTemp before temp content).erase temp = before :=
  FileSystem.erase_insert_of_lookup_eq_none free.ne_nil free.lookup

theorem appendTo_withTemp (free : IsFree job before temp) (content data : Bytes) :
    (withTemp before temp content).appendTo temp data = withTemp before temp (content ++ data) := by
  unfold FileSystem.appendTo
  rw [free.lookup_withTemp]
  exact FileSystem.insert_insert _

/-- The temporary file can be created. -/
theorem create_temp (free : IsFree job before temp) :
    before.createExclusive job.temp fileMode = .ok (withTemp before temp [], temp) := by
  rcases free.located with ⟨spot, hlocate, hslash, hnode, rfl⟩
  exact FileSystem.createExclusive_eq_ok_iff.mpr ⟨spot, hlocate, hslash, hnode, rfl, rfl⟩

/-- The path to the temporary file still leads there when the file has come into being. -/
theorem nodeAt_withTemp (free : IsFree job before temp) (content : Bytes) :
    ∃ spot, (withTemp before temp content).locate job.temp = .ok (some spot) ∧
      spot.endsInSlash = false ∧ spot.location = temp ∧
      (withTemp before temp content).nodeAt spot = .ok (some (.file fileMode content)) := by
  rcases free.located with ⟨spot, hlocate, hslash, hnode, rfl⟩
  refine ⟨spot, FileSystem.locate_of_keepsWays (free.keepsWays content) hlocate, hslash, rfl, ?_⟩
  exact FileSystem.nodeAt_eq_ok_iff.mpr
    ⟨(FileSystem.nodeAt_eq_ok_iff.mp hnode).1, free.lookup_withTemp content⟩

/-- It can be taken away, and then all is as before. -/
theorem unlink_temp (free : IsFree job before temp) (content : Bytes) :
    (withTemp before temp content).unlink job.temp = .ok before := by
  obtain ⟨spot, hlocate, hslash, hplace, hnode⟩ := free.nodeAt_withTemp content
  refine FileSystem.unlink_eq_ok_iff.mpr ⟨spot, _, hlocate, hslash, hnode, by simp, ?_⟩
  rw [hplace, free.erase_withTemp]

/-- Wherever the temporary file can be, the target's path leads somewhere else, unless it is empty. -/
theorem locate_target (free : IsFree job before temp) :
    job.target = "" ∨ ∃ found, before.locate job.target = .ok found ∧
      ∀ spot, found = some spot → spot.endsInSlash = false →
        spot.location ≠ temp ∧ (Text.utf8 spot.name).length ≤ FileSystem.maxNameLength := by
  by_cases htarget : job.target = ""
  · exact .inl htarget
  right
  rcases free.located with ⟨spot, hlocate, -, hnode, rfl⟩
  obtain ⟨names, last, hconcat, hlast, hnames⟩ := exists_namesOf_temp job
  obtain ⟨-, hlength, ⟨hnil, -⟩ | ⟨names', last', directory, hsplit, hwalk, hspot⟩⟩ :=
    FileSystem.locate_eq_ok_iff.mp hlocate
  · simp [hconcat] at hnil
  rw [hconcat] at hsplit
  obtain ⟨rfl, hlast'⟩ := List.append_inj' hsplit rfl
  obtain rfl := List.singleton_inj.mp hlast'
  obtain ⟨-, -, rfl⟩ := FileSystem.spotOf_eq_some_iff.mp hspot.symm
  have hlength' : (Text.utf8 job.target).length ≤ FileSystem.maxPathLength := by
    have := FileSystem.length_utf8_append job.target temporaryEnding
    have : (Text.utf8 job.temp).length = _ := this
    omega
  by_cases hempty : last = ""
  · -- the path ends in a slash, so it names a directory on the way to the temporary file
    have hend : job.target.toList.getLast? = some '/' := (hlast.mp hempty).resolve_left htarget
    rw [if_pos hempty] at hnames
    cases hlast' : (FileSystem.namesOf job.target).getLast? with
    | none =>
        have hnil := List.getLast?_eq_none_iff.mp hlast'
        exact ⟨none, FileSystem.locate_of_namesOf_eq_nil htarget hlength' hnil, by simp⟩
    | some name =>
        obtain ⟨above, habove⟩ := List.getLast?_eq_some_iff.mp hlast'
        rw [← hnames, habove] at hwalk
        obtain ⟨middle, hmiddle⟩ := FileSystem.exists_walk_of_walk_append hwalk
        refine ⟨_, FileSystem.locate_eq_ok_iff.mpr
          ⟨htarget, hlength', .inr ⟨above, name, middle, habove, hmiddle, rfl⟩⟩, ?_⟩
        intro spot hspot hslash
        obtain ⟨-, -, rfl⟩ := FileSystem.spotOf_eq_some_iff.mp hspot
        simp [hend] at hslash
  · -- both names are looked for in the same directory
    rw [if_neg hempty] at hnames
    refine ⟨_, FileSystem.locate_eq_ok_iff.mpr
      ⟨htarget, hlength', .inr ⟨names, last, directory, hnames, hwalk, rfl⟩⟩, ?_⟩
    intro spot hspot hslash
    obtain ⟨-, -, rfl⟩ := FileSystem.spotOf_eq_some_iff.mp hspot
    constructor
    · intro hsame
      have hname : last = last ++ temporaryEnding := by simpa [Spot.location] using hsame
      exact append_temporaryEnding_ne last hname.symm
    · have hbound := (FileSystem.nodeAt_eq_ok_iff.mp hnode).1
      have := FileSystem.length_utf8_append last temporaryEnding
      simp only at hbound ⊢
      omega

/-- On a tree that is as before but for the temporary file, the target's path leads to the same spot,
and the same is found there. -/
theorem locate_target_eq_some (free : IsFree job before temp) (hways : KeepsWays before files)
    {spot : Spot} (h : files.locate job.target = .ok (some spot))
    (hslash : spot.endsInSlash = false) :
    before.locate job.target = .ok (some spot) ∧ spot.location ≠ temp := by
  rcases free.locate_target with hempty | ⟨found, hbefore, hspot⟩
  · simp [hempty, FileSystem.locate] at h
  · rw [FileSystem.locate_of_keepsWays hways hbefore] at h
    obtain rfl : found = some spot := Except.ok.inj h
    exact ⟨hbefore, (hspot spot rfl hslash).1⟩

theorem place_of_unlink_target (free : IsFree job before temp) (hways : KeepsWays before files)
    (hsame : ∀ other, other ≠ temp → files.lookup other = before.lookup other)
    (h : files.unlink job.target = .ok after) :
    ∃ place, before.place job.target = .ok place ∧ before.IsRemovable place ∧ place ≠ temp ∧
      after = files.erase place := by
  obtain ⟨spot, node, hlocate, hslash, hnode, hkind, rfl⟩ := FileSystem.unlink_eq_ok_iff.mp h
  obtain ⟨hbefore, hne⟩ := free.locate_target_eq_some hways hlocate hslash
  refine ⟨spot.location, FileSystem.place_of_locate hbefore hslash, ⟨node, ?_, hkind⟩, hne, rfl⟩
  rw [← hsame _ hne]
  exact (FileSystem.nodeAt_eq_ok_iff.mp hnode).2

/-- If the target cannot be taken away, there is no file and no link to take. -/
theorem not_isRemovable_of_unlink_target (free : IsFree job before temp)
    (hways : KeepsWays before files)
    (hsame : ∀ other, other ≠ temp → files.lookup other = before.lookup other) {e : Errno}
    (h : files.unlink job.target = .error e) :
    ∀ place, before.place job.target = .ok place → ¬ before.IsRemovable place := by
  rintro place hplace ⟨node, hnode, hkind⟩
  obtain ⟨spot, hlocate, hslash, rfl⟩ :=
    FileSystem.locate_of_place hplace (by simpa [hnode] using hkind)
  rcases free.locate_target with hempty | ⟨found, hbefore, hspot⟩
  · simp [hempty, FileSystem.locate] at hlocate
  · obtain rfl : found = some spot := Except.ok.inj (hbefore.symm.trans hlocate)
    obtain ⟨hne, hlength⟩ := hspot spot rfl hslash
    have hok : files.unlink job.target = .ok (files.erase spot.location) :=
      FileSystem.unlink_eq_ok_iff.mpr ⟨spot, node, FileSystem.locate_of_keepsWays hways hlocate,
        hslash, FileSystem.nodeAt_eq_ok_iff.mpr ⟨hlength, (hsame _ hne).trans hnode⟩, hkind, rfl⟩
    simp [hok] at h

/-- The temporary file can only be moved to a place that holds no directory. -/
theorem place_of_rename (free : IsFree job before temp) {content : Bytes}
    (h : (withTemp before temp content).rename job.temp job.target = .ok after) :
    ∃ place, before.place job.target = .ok place ∧ before.lookup place ≠ some .directory ∧
      place ≠ temp ∧ place ≠ [] ∧ after = before.insert place (.file fileMode content) := by
  obtain ⟨source, spot, node, replaced, hsource, htarget, hnode, hreplaced, -, hslash, hkind, rfl⟩ :=
    FileSystem.rename_eq_ok_iff.mp h
  obtain ⟨spot', hlocate', -, hplace, hnode'⟩ := free.nodeAt_withTemp content
  obtain rfl : source = spot' := Option.some.inj (Except.ok.inj (hsource.symm.trans hlocate'))
  obtain rfl : node = .file fileMode content :=
    Option.some.inj (Except.ok.inj (hnode.symm.trans hnode'))
  obtain ⟨hbefore, hne⟩ := free.locate_target_eq_some (free.keepsWays content) htarget hslash
  refine ⟨spot.location, FileSystem.place_of_locate hbefore hslash, ?_, hne, spot.location_ne_nil, ?_⟩
  · rw [← lookup_withTemp_of_ne content hne, (FileSystem.nodeAt_eq_ok_iff.mp hreplaced).2]
    exact hkind
  · rw [hplace, free.erase_withTemp]

/-- It can be moved to each such place. -/
theorem rename_temp (free : IsFree job before temp) {spot : FileSystem.Spot}
    (hlocate : before.locate job.target = .ok (some spot)) (hslash : spot.endsInSlash = false)
    (hkind : before.lookup spot.location ≠ some .directory) (content : Bytes) :
    (withTemp before temp content).rename job.temp job.target =
      .ok (before.insert spot.location (.file fileMode content)) := by
  obtain ⟨source, hsource, hend, hplace, hnode⟩ := free.nodeAt_withTemp content
  obtain ⟨hne, hlength⟩ : spot.location ≠ temp ∧
      (Text.utf8 spot.name).length ≤ FileSystem.maxNameLength := by
    rcases free.locate_target with htarget | ⟨found, hfound, hspot⟩
    · simp [htarget, FileSystem.locate] at hlocate
    · exact hspot spot (Except.ok.inj (hfound.symm.trans hlocate)) hslash
  have hreplaced : (withTemp before temp content).nodeAt spot =
      .ok (before.lookup spot.location) :=
    FileSystem.nodeAt_eq_ok_iff.mpr ⟨hlength, lookup_withTemp_of_ne content hne⟩
  refine FileSystem.rename_eq_ok_iff.mpr ⟨source, spot, _, _, hsource,
    FileSystem.locate_of_keepsWays (free.keepsWays content) hlocate, hnode, hreplaced, hend, hslash,
    hkind, ?_⟩
  rw [hplace, free.erase_withTemp]

end IsFree

theorem isFree_of_isName (hpath : IsWellFormed job.temp) (hname : FileSystem.IsName job.temp)
    (hlookup : before.lookup [job.temp] = none) : IsFree job before [job.temp] where
  isWellFormed := hpath
  located := ⟨⟨[], job.temp, false⟩, before.locate_of_isName hname, rfl,
    (before.nodeAt_of_isName hname).trans (by rw [hlookup]), rfl⟩

/-! ### The calls -/

namespace Attempt

theorem isWellFormed_tempPath {path : String} : IsWellFormed (tempPath path) ↔ IsWellFormed path := by
  simp [IsWellFormed, tempPath, temporaryEnding]

variable {attempt : Attempt}

theorem perform_create (attempt : Attempt) (before : FileSystem) :
    (∃ e, attempt.perform before (.create attempt.job.temp) =
        (.failed e, attempt.opened, before)) ∨
      (¬ IsWellFormed attempt.job.temp ∧ attempt.perform before (.create attempt.job.temp) =
        (.malformedPath, attempt.opened, before)) ∨
      ∃ temp, IsFree attempt.job before temp ∧
        attempt.perform before (.create attempt.job.temp) =
          (.done, some temp, withTemp before temp []) := by
  simp only [perform]
  cases attempt.faults.create with
  | some e => exact .inl ⟨e, rfl⟩
  | none =>
      by_cases hpath : IsWellFormed attempt.job.temp
      · simp only [hpath, not_true_eq_false, if_false]
        cases hcreate : before.createExclusive attempt.job.temp fileMode with
        | error e => exact .inl ⟨e, rfl⟩
        | ok created =>
            rcases created with ⟨files, temp⟩
            obtain ⟨spot, hlocate, hslash, hnode, rfl, rfl⟩ :=
              FileSystem.createExclusive_eq_ok_iff.mp hcreate
            exact .inr (.inr ⟨spot.location, ⟨hpath, spot, hlocate, hslash, hnode, rfl⟩, rfl⟩)
      · exact .inr (.inl ⟨hpath, by simp [hpath]⟩)

/-- What a writing reports as complete is complete. -/
theorem perform_write (free : IsFree job before temp) (hopened : attempt.opened = some temp)
    (data : Bytes) :
    (∃ e, attempt.perform (withTemp before temp []) (.write data) =
        (.failed e, some temp, withTemp before temp [])) ∨
      ∃ count content, (count = data.length → content = data) ∧
        attempt.perform (withTemp before temp []) (.write data) =
          (.wrote count, some temp, withTemp before temp content) := by
  simp only [perform, hopened, free.appendTo_withTemp, List.nil_append]
  cases attempt.faults.write with
  | none => exact .inr ⟨_, data, fun _ => rfl, rfl⟩
  | some fault =>
      cases fault with
      | fails e => exact .inl ⟨e, rfl⟩
      | stopsAfter count =>
          refine .inr ⟨_, data.take count, ?_, rfl⟩
          intro hcount
          exact List.take_of_length_le (by omega)

theorem perform_close (attempt : Attempt) (files : FileSystem) :
    (∃ e, attempt.perform files .close = (.failed e, none, files)) ∨
      attempt.perform files .close = (.done, none, files) := by
  simp only [perform]
  cases attempt.faults.close with
  | some e => exact .inl ⟨e, rfl⟩
  | none => exact .inr rfl

theorem perform_rename (free : IsFree job before temp) (content : Bytes) :
    (∃ e, attempt.perform (withTemp before temp content) (.rename job.temp job.target) =
        (.failed e, attempt.opened, withTemp before temp content)) ∨
      ∃ place, before.place job.target = .ok place ∧ before.lookup place ≠ some .directory ∧
        place ≠ temp ∧ place ≠ [] ∧
        attempt.perform (withTemp before temp content) (.rename job.temp job.target) =
          (.done, attempt.opened, before.insert place (.file fileMode content)) := by
  have htarget : IsWellFormed job.target := isWellFormed_tempPath.mp free.isWellFormed
  simp only [perform, free.isWellFormed, htarget, and_self, not_true_eq_false, if_false]
  cases attempt.faults.rename with
  | some e => exact .inl ⟨e, rfl⟩
  | none =>
      cases hrename : (withTemp before temp content).rename job.temp job.target with
      | error e => exact .inl ⟨e, rfl⟩
      | ok after =>
          obtain ⟨place, hplace, hkind, hne, hroot, rfl⟩ := free.place_of_rename hrename
          exact .inr ⟨place, hplace, hkind, hne, hroot, rfl⟩

theorem perform_unlink_temp (free : IsFree job before temp) (content : Bytes) :
    (∃ e, attempt.faults.unlink = some e ∧
      attempt.perform (withTemp before temp content) (.unlink job.temp) =
        (.failed e, attempt.opened, withTemp before temp content)) ∨
      attempt.perform (withTemp before temp content) (.unlink job.temp) =
        (.done, attempt.opened, before) := by
  simp only [perform, free.isWellFormed, free.unlink_temp, not_true_eq_false, if_false]
  cases attempt.faults.unlink with
  | some e => exact .inl ⟨e, rfl, rfl⟩
  | none => exact .inr rfl

theorem perform_unlink_target (free : IsFree job before temp) (hways : KeepsWays before files)
    (hsame : ∀ other, other ≠ temp → files.lookup other = before.lookup other) :
    (∃ e, (attempt.faults.unlink = some e ∨
        ∀ place, before.place job.target = .ok place → ¬ before.IsRemovable place) ∧
      attempt.perform files (.unlink job.target) = (.failed e, attempt.opened, files)) ∨
      ∃ place, before.place job.target = .ok place ∧ before.IsRemovable place ∧ place ≠ temp ∧
        attempt.perform files (.unlink job.target) =
          (.done, attempt.opened, files.erase place) := by
  have htarget : IsWellFormed job.target := isWellFormed_tempPath.mp free.isWellFormed
  simp only [perform, htarget, not_true_eq_false, if_false]
  cases attempt.faults.unlink with
  | some e => exact .inl ⟨e, .inl rfl, rfl⟩
  | none =>
      cases hunlink : files.unlink job.target with
      | error e =>
          exact .inl ⟨e, .inr (free.not_isRemovable_of_unlink_target hways hsame hunlink), rfl⟩
      | ok after =>
          obtain ⟨place, hplace, hnode, hne, rfl⟩ :=
            free.place_of_unlink_target hways hsame hunlink
          exact .inr ⟨place, hplace, hnode, hne, rfl⟩

end Attempt

end OneTimePassword.Replacement
