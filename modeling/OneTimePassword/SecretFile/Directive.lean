/-
Module: OneTimePassword.SecretFile.Directive
Purpose: The lines of a secret file that say how its secret is used.
Main exports: Directive, Directive.line, Mode.line
-/
import OneTimePassword.Mode
import OneTimePassword.Text.Integer

namespace OneTimePassword

/-- What marks a line of a secret file as neither secret nor code. -/
def Directive.mark : String := "\" "

/-- The optional rules of a secret file. -/
inductive Directive where
  /-- A code is good for one login only. -/
  | disallowReuse
  | stepSize (seconds : Int)
  | windowSize (codes : Int)
  | rateLimit (attempts seconds : Int)
deriving Repr, DecidableEq

/-- The line that states a rule. -/
def Directive.line : Directive → String
  | .disallowReuse => mark ++ "DISALLOW_REUSE"
  | .stepSize seconds => mark ++ "STEP_SIZE " ++ Text.decimal seconds
  | .windowSize codes => mark ++ "WINDOW_SIZE " ++ Text.decimal codes
  | .rateLimit attempts seconds =>
      mark ++ "RATE_LIMIT " ++ Text.decimal attempts ++ " " ++ Text.decimal seconds

/-- The counter that a counter-based secret starts from. -/
def Mode.firstCounter : Nat := 1

/-- The line that states the mode. -/
def Mode.line : Mode → String
  | .timeBased => Directive.mark ++ "TOTP_AUTH"
  | .counterBased => Directive.mark ++ "HOTP_COUNTER " ++ Text.decimalNat firstCounter

theorem Mode.mark_mem_line (mode : Mode) : '"' ∈ mode.line.toList := by
  cases mode with
  | timeBased => decide
  | counterBased => simp [line, Directive.mark]

end OneTimePassword
