/-
Module: OneTimePassword.Replacement.Basic
Purpose: The replacement of a file by new content, as a sequence of system calls.
Main exports: Replacement, Replacement.Stage, Replacement.Stage.call, Replacement.Stage.next,
  Replacement.Failure
-/
import OneTimePassword.Errno
import OneTimePassword.Text.Utf8

namespace OneTimePassword

/-- New content for the file at a path. The content is written to a temporary file beside it, which
is then moved onto the path in one step, so nobody reads half a file. -/
structure Replacement where
  target : String
  content : String
deriving Repr, DecidableEq

namespace Replacement

/-- What the name of a temporary file ends in. -/
def temporaryEnding : String := "~"

/-- The temporary file for a path. -/
def tempPath (target : String) : String := target ++ temporaryEnding

/-- The temporary file. -/
def temp (job : Replacement) : String := tempPath job.target

/-- The bytes to be written. -/
def data (job : Replacement) : Bytes := Text.utf8 job.content

/-- Only the owner may read and write the file. -/
def fileMode : Nat := 0o600

/-- A system call. -/
inductive Call where
  /-- Create a file where nothing is, for its owner alone, and open it. -/
  | create (path : String)
  | write (data : Bytes)
  | close
  | rename (source target : String)
  | unlink (path : String)
deriving Repr, DecidableEq

/-- What a call came to. -/
inductive Reply where
  | done
  | wrote (count : Nat)
  | failed (e : Errno)
  /-- The path holds a NUL character, so the call was not made. -/
  | malformedPath
deriving Repr, DecidableEq

/-- Why the content did not get to its path. -/
inductive Failure where
  /-- The temporary file of an earlier run, or something else of its name, is in the way. -/
  | conflict (temp : String)
  | notCreated (temp : String) (e : Errno)
  | notWritten (e : Errno)
  | shortWrite (written total : Nat)
  /-- The path holds a NUL character. -/
  | malformedPath
deriving Repr, DecidableEq

/-- The wording of the failure. -/
def Failure.message : Failure → String
  | .conflict temp => "Temporary file " ++ Text.quoted temp ++ " already exists"
  | .notCreated temp e => "Failed to create " ++ Text.quoted temp ++ " (" ++ e.description ++ ")"
  | .notWritten e => "Failed to write new secret (" ++ e.description ++ ")"
  | .shortWrite written total =>
      "Failed to write new secret (short write: " ++ Text.decimalNat written ++ " of " ++
        Text.decimalNat total ++ " bytes)"
  | .malformedPath => "embedded null byte"

/-- Where a replacement stands: what it does next and what it has to report in the end. -/
inductive Stage where
  | creating
  | writing
  /-- The file is closed whatever became of the writing. -/
  | closing (written : Except Errno Nat)
  | moving
  /-- Take the temporary file away. -/
  | discarding (cause : Failure)
  /-- The temporary file did not get to its path: take it away, then the target too, whose content
  no longer fits the new secret. -/
  | retracting (cause : Failure)
  /-- Take the target away. -/
  | withdrawing (cause : Failure)
  | ended (outcome : Except Failure Unit)

namespace Stage

/-- The call that a stage makes. -/
def call (job : Replacement) : Stage → Option Call
  | .creating => some (.create job.temp)
  | .writing => some (.write job.data)
  | .closing _ => some .close
  | .moving => some (.rename job.temp job.target)
  | .discarding _ | .retracting _ => some (.unlink job.temp)
  | .withdrawing _ => some (.unlink job.target)
  | .ended _ => none

/-- The failure of a creation. A link in the place of the temporary file is a conflict as well. -/
def creationFailure (job : Replacement) : Errno → Failure
  | .exists | .tooManyLinks => .conflict job.temp
  | e => .notCreated job.temp e

/-- The stage after a closed file. An error of the closing counts before one of the writing, and
content that was cut short counts as an error. -/
def afterClosing (job : Replacement) (written : Except Errno Nat) : Stage :=
  match written with
  | .error e => .discarding (.notWritten e)
  | .ok count =>
      if count = job.data.length then .moving
      else .discarding (.shortWrite count job.data.length)

/-- The stage after the call of a stage was answered. What becomes of the cleaning up changes
nothing in the report. -/
def next (job : Replacement) : Stage → Reply → Stage
  | .creating, .failed e => .ended (.error (creationFailure job e))
  | .creating, .malformedPath => .ended (.error .malformedPath)
  | .creating, _ => .writing
  | .writing, .failed e => .closing (.error e)
  | .writing, .wrote count => .closing (.ok count)
  | .writing, _ => .closing (.ok 0)
  | .closing _, .failed e => .discarding (.notWritten e)
  | .closing written, _ => afterClosing job written
  | .moving, .failed e => .retracting (.notWritten e)
  | .moving, .malformedPath => .ended (.error .malformedPath)
  | .moving, _ => .ended (.ok ())
  | .discarding cause, _ => .ended (.error cause)
  | .retracting cause, _ => .withdrawing cause
  | .withdrawing cause, _ => .ended (.error cause)
  | .ended outcome, _ => .ended outcome

/-- A bound on the calls that are still to come. -/
def callsLeft : Stage → Nat
  | .creating => 6
  | .writing => 5
  | .closing _ => 4
  | .moving => 3
  | .retracting _ => 2
  | .discarding _ | .withdrawing _ => 1
  | .ended _ => 0

theorem callsLeft_afterClosing_le (job : Replacement) (written : Except Errno Nat) :
    (afterClosing job written).callsLeft ≤ 3 := by
  cases written with
  | error => simp [afterClosing, callsLeft]
  | ok count => unfold afterClosing; dsimp only; split <;> simp [callsLeft]

/-- Each call brings a replacement closer to its end. -/
theorem callsLeft_next_lt {job : Replacement} {stage : Stage} (reply : Reply)
    (h : (stage.call job).isSome) : (stage.next job reply).callsLeft < stage.callsLeft := by
  cases stage with
  | closing written =>
      have := Nat.lt_succ_of_le (callsLeft_afterClosing_le job written)
      cases reply with
      | failed e => simp [next, callsLeft]
      | _ => exact this
  | ended outcome => simp [call] at h
  | _ => cases reply <;> simp [next, callsLeft]

end Stage

end Replacement

end OneTimePassword
