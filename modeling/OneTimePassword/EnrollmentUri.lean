/-
Module: OneTimePassword.EnrollmentUri
Purpose: The URI that an authenticator app scans to take over a secret.
Main exports: EnrollmentUri, EnrollmentUri.render
-/
import OneTimePassword.Mode
import OneTimePassword.Percent

namespace OneTimePassword

/-- What an authenticator app is told. -/
structure EnrollmentUri where
  mode : Mode
  label : String
  secret : String
  issuer : Option String
deriving Repr, DecidableEq

/-- The URI's text. An empty issuer is left out as a missing one is. -/
def EnrollmentUri.render (uri : EnrollmentUri) : Except Percent.Error String := do
  let label ← Percent.encode uri.label
  let start := "otpauth://" ++ uri.mode.name ++ "/" ++ label ++ "?secret=" ++ uri.secret
  match uri.issuer with
  | none | some "" => pure start
  | some issuer => do
      let issuer ← Percent.encode issuer
      pure (start ++ "&issuer=" ++ issuer)

end OneTimePassword
