/-
Module: OneTimePassword.Settings.Validation
Purpose: The check of settings. It names the first conflict in a fixed order.
Main exports: Settings.validate
-/
import OneTimePassword.Settings.Basic

namespace OneTimePassword

namespace Settings

/-- The mode that was asked for, if any was. -/
def checkMode (settings : Settings) : Except Conflict (Option Mode) :=
  match settings.mode with
  | none => .ok none
  | some name =>
      match Mode.ofName? name with
      | some mode => .ok (some mode)
      | none => .error (.unknownMode name)

/-- The time step. It has to be in range before it is asked whether the mode has one. -/
def checkStep (settings : Settings) (mode : Option Mode) : Except Conflict (Option Nat) := do
  let step ← Quantity.stepSize.check? settings.stepSize
  if step.isSome && mode = some .counterBased then throw .stepInCounterBased
  pure step

/-- The window of valid codes. -/
def checkWindow (settings : Settings) (mode : Option Mode) : Except Conflict WindowChoice := do
  match ← Quantity.windowSize.check? settings.windowSize with
  | none => pure (if settings.minimalWindow then .minimal else .ask)
  | some size =>
      if settings.minimalWindow then throw .twoWindows
      if mode = some .timeBased && size < minTimeBasedWindow then throw .windowTooSmall
      pure (.size size)

/-- The rate limit. Its two numbers come together or not at all. -/
def checkRate (settings : Settings) : Except Conflict RateChoice := do
  let attempts ← Quantity.rateLimit.check? settings.rateLimit
  let seconds ← Quantity.rateTime.check? settings.rateTime
  if settings.noRateLimit && (attempts.isSome || seconds.isSome) then throw .limitAndNoLimit
  match attempts, seconds with
  | some attempts, some seconds => pure (.limit attempts seconds)
  | none, none => pure (if settings.noRateLimit then .unlimited else .ask)
  | _, _ => throw .halfLimit

/-- The QR mode under any of its spellings. -/
def checkQrMode (name : String) : Except Conflict QrCode.Mode :=
  match QrCode.Mode.ofName? name with
  | some mode => .ok mode
  | none => .error (.unknownQrMode name)

/-- Check settings as a whole. -/
def validate (settings : Settings) : Except Conflict Options := do
  let mode ← settings.checkMode
  if settings.disallowReuse.isSome && mode ≠ some .timeBased then throw .reuseNeedsTimeBased
  let stepSize ← settings.checkStep mode
  let window ← settings.checkWindow mode
  let rate ← settings.checkRate
  let emergencyCodes ← Quantity.emergencyCodes.check settings.emergencyCodes
  if settings.secretPath = some "" then throw .emptyPath
  let qrMode ← checkQrMode settings.qrMode
  pure
    { mode, disallowReuse := settings.disallowReuse, stepSize, window, rate, emergencyCodes
      confirm := settings.confirm, force := settings.force, quiet := settings.quiet
      label := settings.label, issuer := settings.issuer, secretPath := settings.secretPath
      qrMode }

end Settings

end OneTimePassword
