/-
Module: OneTimePassword.Mode
Purpose: What a one-time password is computed from.
Main exports: Mode, Mode.name, Mode.ofName?
-/

namespace OneTimePassword

/-- Codes follow the clock, or a counter that advances with every login. -/
inductive Mode where
  | timeBased
  | counterBased
deriving Repr, DecidableEq, Inhabited

/-- The name of a mode in settings and in enrollment URIs. -/
def Mode.name : Mode → String
  | .timeBased => "totp"
  | .counterBased => "hotp"

/-- The mode of a name. -/
def Mode.ofName? (name : String) : Option Mode :=
  [Mode.timeBased, .counterBased].find? (·.name == name)

/-- The mode that the answer to "time-based?" selects. -/
def Mode.ofAnswer (timeBased : Bool) : Mode := if timeBased then .timeBased else .counterBased

end OneTimePassword
