/-
Module: OneTimePassword.Enrollment.Run
Purpose: One run from the drawing of a secret to the replacement of the secret file.
Main exports: Enrollment.Summary, Enrollment.prepare, Enrollment.replaceFile, Enrollment.run
-/
import OneTimePassword.Enrollment.Presentation
import OneTimePassword.ScratchCode.Draw
import OneTimePassword.SecretFile.Policy

namespace OneTimePassword.Enrollment

/-- What a run comes to. -/
structure Summary where
  secret : String
  mode : Mode
  scratchCodes : List Nat
  path : String
  /-- The secret file, unless the user declined it. -/
  file? : Option SecretFile
deriving Repr, DecidableEq

/-- The bytes of a secret: 160 bits. -/
def secretSize : Nat := 20

/-- Draw a secret. -/
def drawSecret : SetupM String := do
  let secret := Base32.encode (← readRandom secretSize)
  note (.debug ("Generated new " ++ Text.decimalNat secret.length ++ "-character secret"))
  pure secret

/-- The mode that the options name, or that the user chooses. -/
def settleMode (options : Options) : SetupM Mode :=
  match options.mode with
  | some mode => pure mode
  | none => do
      let timeBased ← askWhether "Do you want authentication tokens to be time-based"
      pure (Mode.ofAnswer timeBased)

/-- What an app is told about a secret. An empty label gives way to the host's, an empty issuer
stands. -/
def uriFor (environment : Environment) (options : Options) (secret : String) (mode : Mode) :
    EnrollmentUri :=
  { mode, secret
    label :=
      match options.label with
      | none | some "" => environment.host.label
      | some label => label
    issuer := options.issuer.getD environment.host.issuer }

/-- Show a secret, then have the app's code confirmed, or show a code to compare with it. -/
def presentSecret (environment : Environment) (options : Options) (secret : String) (mode : Mode) :
    SetupM Unit := do
  showUri environment options.qrMode (uriFor environment options secret mode)
  printLine ("Your new secret key is: " ++ secret)
  if options.confirm && mode = .timeBased then
    discard (confirmApp secret (options.stepSize.getD Totp.defaultStep))
  else
    let code ← orFail .code (Hotp.codeOfSecret secret Mode.firstCounter)
    printLine ("Your verification code for code " ++ Text.decimalNat Mode.firstCounter ++ " is " ++
      Hotp.display code)
  printLine "Your emergency scratch codes are:"

/-- The path of the secret file. -/
def secretPath (environment : Environment) (options : Options) : SetupM String :=
  match options.secretPath with
  | some path => pure path
  | none =>
      match Home.secretPath? environment.home? with
      | some path => pure path
      | none => throw .noHome

/-- All of a run but the replacement of the secret file. -/
def prepare (environment : Environment) (options : Options) : SetupM Summary := do
  let secret ← drawSecret
  let mode ← settleMode options
  if !options.quiet then presentSecret environment options secret mode
  let scratchCodes ← ScratchCode.drawMany options.emergencyCodes
  if !options.quiet then
    scratchCodes.forM fun code => printLine ("  " ++ ScratchCode.display code)
  let path ← secretPath environment options
  let accepted ←
    if options.force then pure true
    else askWhether ("Do you want me to update your \"" ++ path ++ "\" file?")
  if accepted then
    let file ← SecretFile.compose secret mode (scratchCodes.map Int.ofNat) options
    pure { secret, mode, scratchCodes, path, file? := some file }
  else
    note (.debug ("Update of " ++ path ++ " declined"))
    pure { secret, mode, scratchCodes, path, file? := none }

/-- End the run as the replacement of the secret file did. -/
def conclude (path : String) : Except Replacement.Failure Unit → SetupM Unit
  | .ok () => note (.debug ("Wrote " ++ path))
  | .error error => throw (.replacement error)

/-- Put a secret file in the place of the file at a path. -/
def replaceFile (faults : Faults) (path : String) (file : SecretFile) : SetupM Unit := do
  let session ← get
  let attempt : Replacement.Attempt :=
    { job := { target := path, content := file.text }, faults }
  let (finished, files) := attempt.finish session.files
  let records := Replacement.journalOf (attempt.steps session.files)
  set { session with files, journal := session.journal ++ records }
  conclude path (finished.report?.getD (.ok ()))

/-- A whole run. -/
def run (environment : Environment) (options : Options) : SetupM Summary := do
  let result ← prepare environment options
  match result.file? with
  | none => pure result
  | some file => do
      replaceFile environment.faults result.path file
      pure result

end OneTimePassword.Enrollment
