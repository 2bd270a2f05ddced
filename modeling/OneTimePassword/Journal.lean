/-
Module: OneTimePassword.Journal
Purpose: What a run notes down about its course.
Main exports: Record, Record.isWarning
-/

namespace OneTimePassword

/-- A note, for those who want to follow a run, or for everybody. -/
inductive Record where
  | debug (text : String)
  | warning (text : String)
deriving Repr, DecidableEq

namespace Record

/-- The note's wording. -/
def text : Record → String
  | .debug text => text
  | .warning text => text

/-- Whether the note is for everybody. -/
def isWarning : Record → Bool
  | .debug _ => false
  | .warning _ => true

end Record

end OneTimePassword
