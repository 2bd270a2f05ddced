/-
Module: OneTimePassword.Clock
Purpose: The clock as the sequence of its readings.
Main exports: Clock, Clock.read
-/
import OneTimePassword.Timestamp

namespace OneTimePassword

/-- A clock that has been read a number of times. -/
structure Clock where
  /-- Every reading there will be, by its place in the sequence. -/
  readings : Nat → Timestamp
  /-- The readings taken so far. -/
  taken : Nat := 0

namespace Clock

/-- A clock that gives the readings of a list and then repeats the last. -/
def ofList (first : Timestamp) (later : List Timestamp) : Clock :=
  { readings := fun place => (first :: later).getD place ((first :: later).getLastD first) }

/-- Take a reading. -/
def read (clock : Clock) : Timestamp × Clock :=
  (clock.readings clock.taken, { clock with taken := clock.taken + 1 })

end Clock

end OneTimePassword
