/-
Module: OneTimePassword.CommandLine.Request
Purpose: What a command line asks for, and the options that it comes to.
Main exports: CommandLine.Request, CommandLine.Request.isBlank, CommandLine.Request.options
-/
import OneTimePassword.CommandLine.Switch
import OneTimePassword.Failure
import OneTimePassword.Settings.Validation

namespace OneTimePassword.CommandLine

/-- What a command line asks for. -/
structure Request where
  /-- The settings. For a value that was left blank they have a stand-in: the empty text, or a
  number that no range holds. -/
  settings : Settings := {}
  /-- Whether the run is to be told in detail. -/
  verbose : Bool := false
  /-- The switches whose value was left blank. -/
  blank : List Switch := []
deriving Repr, DecidableEq

/-- The number that stands in for one that was left blank. -/
def blankNumber : Int := -1

/-- The switch that sets a number. -/
def Switch.ofQuantity : Quantity → Switch
  | .stepSize => .stepSize
  | .windowSize => .windowSize
  | .rateLimit => .rateLimit
  | .rateTime => .rateTime
  | .emergencyCodes => .emergencyCodes

namespace Request

/-- Whether a switch was given, but its value was left blank. -/
def isBlank (request : Request) (switch : Switch) : Bool := request.blank.contains switch

/-- The failure that a conflict among the settings means. No range holds the stand-in for a number
and no mode has the empty name, so a conflict about a blank value is met where that value is
checked, and told as what it is. An empty path is as wrong as a blank one. -/
def blame (request : Request) (conflict : Conflict) : Failure :=
  match conflict with
  | .outOfRange quantity =>
      if request.isBlank (Switch.ofQuantity quantity) then .blank .number else .conflict conflict
  | .unknownQrMode _ => if request.isBlank .qrMode then .blank .name else .conflict conflict
  | _ => .conflict conflict

/-- The options that are asked for. A blank label and a blank issuer do as empty ones. -/
def options (request : Request) : Except Failure Options :=
  request.settings.validate.mapError request.blame

end Request

end OneTimePassword.CommandLine
