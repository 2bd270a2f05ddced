/-
Module: OneTimePassword.Enrollment.Presentation
Purpose: A new secret shown to its user, and the proof that the user's app has taken it over.
Main exports: Environment, Enrollment.render, Enrollment.showUri, Enrollment.confirmApp
-/
import OneTimePassword.EnrollmentUri
import OneTimePassword.Host
import OneTimePassword.QrCode.Renderer
import OneTimePassword.Replacement.Attempt
import OneTimePassword.Session

namespace OneTimePassword

/-- What a run finds and cannot change. -/
structure Environment where
  /-- The home directory as it is told. -/
  home? : Option String
  host : Host
  /-- Whether the output goes to a terminal. -/
  isTerminal : Bool
  renderer : QrCode.Renderer
  /-- The file system calls that fail. -/
  faults : Faults := {}

namespace Enrollment

/-- Hand a text over to be shown as a QR code, and say whether it was. Where there is an encoder,
its failures are not made up for: they end the run. -/
def render (renderer : QrCode.Renderer) (text : String) : SetupM Bool := do
  let remember : SetupM Unit :=
    modify fun session => { session with shown := session.shown ++ [text] }
  match renderer with
  | .absent => pure false
  | .viewer succeeds =>
      remember
      pure succeeds
  | .terminal _ none =>
      note (.debug "qrcode package not available")
      pure false
  | .terminal style (some encoder) =>
      remember
      let matrix ← orFail .encoding (encoder (Text.utf8 text))
      print (← orFail .drawing (QrCode.draw style matrix))
      pure true

/-- Show an enrollment URI on a terminal, as a QR code or, where there is none, as text. The URI
has to be in order even if nothing shows it, unless QR codes are not wanted. -/
def showUri (environment : Environment) (qrMode : QrCode.Mode) (uri : EnrollmentUri) :
    SetupM Unit := do
  if qrMode = .hidden then return
  let text ← orFail .uri uri.render
  if !environment.isTerminal then return
  if !(← render environment.renderer text) then
    printLine "Failed to show QR code visually for scanning."
    printLine "Consider typing the OTP secret into your app manually."
    printLine ("    " ++ text)

/-- The code of a secret at the present time. -/
def presentCode (secret : String) (step : Int) : SetupM Nat := do
  let reading ← readClock
  let counter ← orFail .clock (Totp.stepNumber reading step)
  orFail .code (Hotp.codeOfSecret secret counter)

/-- Ask at most `questions` times for the code that the app shows, until it is the present one or a
negative number skips the check. The clock is read anew after each answer. -/
def confirmWithin (secret : String) (step : Int) : (questions : Nat) → SetupM Bool
  | 0 => throw (.unanswered .aborted)
  | questions + 1 => do
      let answer ← askNumber "Enter code from app (-1 to skip):"
      if answer.any (· < 0) then
        printLine "Code confirmation skipped"
        return false
      let code ← presentCode secret step
      if answer = some (code : Int) then
        printLine "Code confirmed"
        return true
      note (.debug "Code mismatch, asking again")
      printLine ("Code incorrect (correct code " ++ Hotp.display code ++ "). Try again.")
      confirmWithin secret step questions

/-- Ask for the code that the app shows. A respondent that has no more numbers skips the check or
ends the run, so one question more than it has numbers is never asked in vain. -/
def confirmApp (secret : String) (step : Int) : SetupM Bool := do
  let session ← get
  confirmWithin secret step (session.respondent.numbersLeft + 1)

end Enrollment

end OneTimePassword
