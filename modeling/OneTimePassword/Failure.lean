/-
Module: OneTimePassword.Failure
Purpose: All that can end a run early.
Main exports: Failure, Failure.message
-/
import OneTimePassword.RandomBytes
import OneTimePassword.Hotp
import OneTimePassword.Percent
import OneTimePassword.Respondent
import OneTimePassword.QrCode.Renderer
import OneTimePassword.Replacement.Basic
import OneTimePassword.SecretFile.Basic
import OneTimePassword.Timestamp

namespace OneTimePassword

/-- The causes that end a run, by where they arise. -/
inductive Failure where
  | random (error : RandomBytes.Error)
  | uri (error : Percent.Error)
  | conflict (error : Conflict)
  | blank (setting : Blank)
  | clock (error : Timestamp.Error)
  | code (error : Hotp.Error)
  | unanswered (stop : Respondent.Stop)
  | encoding (error : QrCode.EncoderError)
  | drawing (error : QrCode.DrawingError)
  | noHome
  | refusal (error : SecretFile.Refusal)
  | replacement (error : Replacement.Failure)
deriving Repr, DecidableEq

/-- The wording of the failure. -/
def Failure.message : Failure → String
  | .random error => error.message
  | .uri error => error.message
  | .conflict error => error.message
  | .blank setting => setting.message
  | .clock error => error.message
  | .code error => error.message
  | .unanswered stop => stop.message
  | .encoding error => error.message
  | .drawing error => error.message
  | .noHome => "Cannot determine home directory"
  | .refusal error => error.message
  | .replacement error => error.message

end OneTimePassword
