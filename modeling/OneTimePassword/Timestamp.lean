/-
Module: OneTimePassword.Timestamp
Purpose: Clock readings and the time steps they fall into.
Main exports: Timestamp, Timestamp.ofFloat, Timestamp.wholeSeconds, Timestamp.Error, Totp.stepNumber
-/

namespace OneTimePassword

/-- A clock reading in seconds: an exact number, or a reading that is no number at all. -/
inductive Timestamp where
  | seconds (value : Rat)
  | notANumber
  | infinite
deriving Repr, DecidableEq

namespace Timestamp

/-- The exact value of a binary double of the given bits: 52 of fraction, eleven of exponent and one
of sign. A positive exponent stands for a further one bit before the fraction. -/
def ofBits (bits : Nat) : Timestamp :=
  let sign : Int := if bits.testBit 63 then -1 else 1
  let exponent := (bits >>> 52) % 0x800
  let fraction := bits % 0x10000000000000
  let significand := if exponent = 0 then fraction else 0x10000000000000 + fraction
  let numerator := significand <<< max exponent 1
  if exponent = 0x7ff then
    if fraction = 0 then .infinite else .notANumber
  else .seconds (mkRat (sign * numerator) (1 <<< 1075))

/-- The exact value of a double. -/
def ofFloat (value : Float) : Timestamp := ofBits value.toBits.toNat

/-- Why a reading names no time step. -/
inductive Error where
  | notANumber
  | infinite
  /-- Steps of no length. -/
  | emptyStep
deriving Repr, DecidableEq

/-- The wording of the error. -/
def Error.message : Error → String
  | .notANumber => "cannot convert float NaN to integer"
  | .infinite => "cannot convert float infinity to integer"
  | .emptyStep => "integer division or modulo by zero"

/-- The reading without its fraction, which is cut off toward zero. -/
def wholeSeconds : Timestamp → Except Error Int
  | .seconds value => .ok (value.num.tdiv value.den)
  | .notANumber => .error .notANumber
  | .infinite => .error .infinite

end Timestamp

/-- The length of a time step where nothing else is said, in seconds. -/
def Totp.defaultStep : Nat := 30

/-- The number of the time step that a reading falls into: its whole seconds divided by the length
of a step, rounded down. -/
def Totp.stepNumber (reading : Timestamp) (step : Int) : Except Timestamp.Error Int := do
  let seconds ← reading.wholeSeconds
  if step = 0 then throw .emptyStep
  pure (seconds.fdiv step)

end OneTimePassword
