/-
Module: OneTimePassword.Replacement.Attempt
Purpose: Replacements carried out call by call on a tree, with calls that may fail.
Main exports: Faults, Replacement.Attempt, Replacement.Attempt.step, Replacement.Attempt.steps,
  Replacement.Attempt.finish, Replacement.journalOf
-/
import OneTimePassword.FileSystem.Calls
import OneTimePassword.Journal
import OneTimePassword.Replacement.Basic

namespace OneTimePassword

/-- How a writing goes wrong. -/
inductive WriteFault where
  | fails (e : Errno)
  /-- Only so many bytes get written. -/
  | stopsAfter (count : Nat)
deriving Repr, DecidableEq

/-- The calls that go wrong, and how. All others do what they do on the tree. -/
structure Faults where
  create : Option Errno := none
  write : Option WriteFault := none
  /-- The file is closed all the same. -/
  close : Option Errno := none
  rename : Option Errno := none
  unlink : Option Errno := none
deriving Repr, DecidableEq

namespace Replacement

/-- A replacement under way. -/
structure Attempt where
  job : Replacement
  faults : Faults
  stage : Stage := .creating
  /-- The place of the temporary file while it is open. -/
  opened : Option Location := none

/-- One call: what was asked and answered, and all that is there afterwards. -/
structure Step where
  call : Call
  reply : Reply
  attempt : Attempt
  files : FileSystem

namespace Attempt

/-- Whether a path can be handed to the system. -/
def IsWellFormed (path : String) : Prop := '\x00' ∉ path.toList

instance (path : String) : Decidable (IsWellFormed path) :=
  inferInstanceAs (Decidable ('\x00' ∉ path.toList))

/-- Carry out a call on a tree where some calls fail. -/
def perform (attempt : Attempt) (files : FileSystem) :
    Call → Reply × Option Location × FileSystem
  | .create path =>
      match attempt.faults.create with
      | some e => (.failed e, attempt.opened, files)
      | none =>
          if ¬ IsWellFormed path then (.malformedPath, attempt.opened, files)
          else
            match files.createExclusive path fileMode with
            | .error e => (.failed e, attempt.opened, files)
            | .ok (files, location) => (.done, some location, files)
  | .write data =>
      let put (data : Bytes) : FileSystem :=
        match attempt.opened with
        | some location => files.appendTo location data
        | none => files
      match attempt.faults.write with
      | some (.fails e) => (.failed e, attempt.opened, files)
      | some (.stopsAfter count) =>
          (.wrote (min count data.length), attempt.opened, put (data.take count))
      | none => (.wrote data.length, attempt.opened, put data)
  | .close =>
      match attempt.faults.close with
      | some e => (.failed e, none, files)
      | none => (.done, none, files)
  | .rename source target =>
      match attempt.faults.rename with
      | some e => (.failed e, attempt.opened, files)
      | none =>
          if ¬ (IsWellFormed source ∧ IsWellFormed target) then
            (.malformedPath, attempt.opened, files)
          else
            match files.rename source target with
            | .error e => (.failed e, attempt.opened, files)
            | .ok files => (.done, attempt.opened, files)
  | .unlink path =>
      match attempt.faults.unlink with
      | some e => (.failed e, attempt.opened, files)
      | none =>
          if ¬ IsWellFormed path then (.malformedPath, attempt.opened, files)
          else
            match files.unlink path with
            | .error e => (.failed e, attempt.opened, files)
            | .ok files => (.done, attempt.opened, files)

/-- Make the next call, if there is one to make. -/
def step (attempt : Attempt) (files : FileSystem) : Option Step :=
  (attempt.stage.call attempt.job).map fun call =>
    let (reply, opened, files) := attempt.perform files call
    { call, reply, files
      attempt := { attempt with stage := attempt.stage.next attempt.job reply, opened } }

/-- A call brings the attempt closer to its end. -/
theorem callsLeft_step_lt {attempt : Attempt} {files : FileSystem} {step : Step}
    (h : attempt.step files = some step) :
    step.attempt.stage.callsLeft < attempt.stage.callsLeft := by
  obtain ⟨call, hcall, rfl⟩ := Option.map_eq_some_iff.1 h
  exact Stage.callsLeft_next_lt _ (by simp [hcall])

/-- All calls to the end, in order. -/
def steps (attempt : Attempt) (files : FileSystem) : List Step :=
  match _h : attempt.step files with
  | none => []
  | some step => step :: steps step.attempt step.files
termination_by attempt.stage.callsLeft
decreasing_by exact callsLeft_step_lt _h

/-- An attempt at its end, and the tree it leaves behind. -/
def finish (attempt : Attempt) (files : FileSystem) : Attempt × FileSystem :=
  match (attempt.steps files).getLast? with
  | none => (attempt, files)
  | some step => (step.attempt, step.files)

/-- What an attempt reports. One that has calls to make reports nothing yet. -/
def report? (attempt : Attempt) : Option (Except Failure Unit) :=
  match attempt.stage with
  | .ended outcome => some outcome
  | _ => none

end Attempt

/-- The records of a call. Taking away what is not there is not worth a word. -/
def recordsOf : Call → Reply → List Record
  | .create path, .done => [.debug ("Created " ++ path)]
  | .rename source target, .done => [.debug ("Renamed " ++ source ++ " to " ++ target)]
  | .unlink path, .failed e =>
      if e = .notFound then []
      else [.warning ("Could not remove " ++ path ++ ": " ++ e.messageAt path)]
  | _, _ => []

/-- The records of a sequence of calls. -/
def journalOf (steps : List Step) : List Record :=
  steps.flatMap fun step => recordsOf step.call step.reply

end Replacement

end OneTimePassword
