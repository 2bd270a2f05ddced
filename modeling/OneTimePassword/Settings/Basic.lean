/-
Module: OneTimePassword.Settings.Basic
Purpose: One run's settings as they are given, and as they are after the check.
Main exports: Settings, Options, Options.toSettings
-/
import OneTimePassword.Mode
import OneTimePassword.QrCode.Mode
import OneTimePassword.Settings.Conflict

namespace OneTimePassword

/-- Settings as given, with nothing known about how they fit together. What is left out is decided
in the course of the run. -/
structure Settings where
  mode : Option String := none
  disallowReuse : Option Bool := none
  stepSize : Option Int := none
  windowSize : Option Int := none
  minimalWindow : Bool := false
  rateLimit : Option Int := none
  rateTime : Option Int := none
  noRateLimit : Bool := false
  emergencyCodes : Int := ScratchCode.defaultCount
  confirm : Bool := true
  force : Bool := false
  quiet : Bool := false
  label : Option String := none
  issuer : Option String := none
  secretPath : Option String := none
  qrMode : String := QrCode.Mode.default.name
deriving Repr, DecidableEq

/-- How many codes around the present one are valid. -/
inductive WindowChoice where
  /-- The user is asked. -/
  | ask
  /-- As few as the mode admits. -/
  | minimal
  | size (codes : Nat)
deriving Repr, DecidableEq

/-- How often logins may be tried. -/
inductive RateChoice where
  /-- The user is asked. -/
  | ask
  | unlimited
  | limit (attempts seconds : Nat)
deriving Repr, DecidableEq

/-- Settings that passed the check. -/
structure Options where
  mode : Option Mode
  disallowReuse : Option Bool
  stepSize : Option Nat
  window : WindowChoice
  rate : RateChoice
  emergencyCodes : Nat
  confirm : Bool
  force : Bool
  quiet : Bool
  label : Option String
  issuer : Option String
  secretPath : Option String
  qrMode : QrCode.Mode
deriving Repr, DecidableEq

namespace Options

/-- Whether logins are limited to a given rate. -/
def isRateLimited (options : Options) : Bool :=
  match options.rate with
  | .limit _ _ => true
  | _ => false

/-- The settings that options come from, with the QR mode under its normal name. -/
def toSettings (options : Options) : Settings :=
  { mode := options.mode.map Mode.name
    disallowReuse := options.disallowReuse
    stepSize := options.stepSize.map Int.ofNat
    windowSize :=
      match options.window with
      | .size codes => some codes
      | _ => none
    minimalWindow := options.window = .minimal
    rateLimit :=
      match options.rate with
      | .limit attempts _ => some attempts
      | _ => none
    rateTime :=
      match options.rate with
      | .limit _ seconds => some seconds
      | _ => none
    noRateLimit := options.rate = .unlimited
    emergencyCodes := options.emergencyCodes
    confirm := options.confirm
    force := options.force
    quiet := options.quiet
    label := options.label
    issuer := options.issuer
    secretPath := options.secretPath
    qrMode := options.qrMode.name }

end Options

end OneTimePassword
