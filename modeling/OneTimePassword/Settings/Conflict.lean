/-
Module: OneTimePassword.Settings.Conflict
Purpose: Why settings cannot be carried out.
Main exports: Quantity, Quantity.check, Conflict, Conflict.message, Blank, Blank.message
-/
import OneTimePassword.ScratchCode.Basic
import OneTimePassword.Text.Quoted

namespace OneTimePassword

/-- The numbers among the settings. -/
inductive Quantity where
  | stepSize
  | windowSize
  | rateLimit
  | rateTime
  | emergencyCodes
deriving Repr, DecidableEq

namespace Quantity

/-- What a number is called in messages. -/
def name : Quantity → String
  | .stepSize => "Step size"
  | .windowSize => "Window size"
  | .rateLimit => "Rate limit"
  | .rateTime => "Rate time"
  | .emergencyCodes => "Number of emergency codes"

/-- The least value of a number. -/
def least : Quantity → Nat
  | .stepSize => 1
  | .windowSize => 1
  | .rateLimit => 1
  | .rateTime => 15
  | .emergencyCodes => 0

/-- The greatest value of a number. -/
def greatest : Quantity → Nat
  | .stepSize => 60
  | .windowSize => 21
  | .rateLimit => 10
  | .rateTime => 600
  | .emergencyCodes => ScratchCode.maxCount

end Quantity

/-- The least window for time-based codes: the code before, the present one and the next. -/
def minTimeBasedWindow : Nat := 3

/-- The causes for which settings are refused. -/
inductive Conflict where
  | unknownMode (name : String)
  /-- Reuse of a code can be disallowed for time-based codes only. -/
  | reuseNeedsTimeBased
  | outOfRange (quantity : Quantity)
  /-- Counter-based codes have no time step. -/
  | stepInCounterBased
  /-- A window size was given together with the request for the least one. -/
  | twoWindows
  | windowTooSmall
  /-- A rate limit was given together with the request for none. -/
  | limitAndNoLimit
  /-- Of the number of attempts and their time, one is missing. -/
  | halfLimit
  | emptyPath
  | unknownQrMode (name : String)
deriving Repr, DecidableEq

/-- The wording of the conflict. -/
def Conflict.message : Conflict → String
  | .unknownMode name => "Unknown mode " ++ Text.quoted name
  | .reuseNeedsTimeBased => "Must select time-based mode, when using -d or -D"
  | .outOfRange quantity =>
      quantity.name ++ " must be in the range " ++ Text.decimalNat quantity.least ++ ".." ++
        Text.decimalNat quantity.greatest
  | .stepInCounterBased => "Step size is not meaningful in counter-based mode"
  | .twoWindows => "-w and -W are mutually exclusive"
  | .windowTooSmall =>
      "Window size must be at least " ++ Text.decimalNat minTimeBasedWindow ++
        " in time-based mode"
  | .limitAndNoLimit => "-u is mutually exclusive with -r/-R"
  | .halfLimit => "Must set -r when setting -R, and vice versa"
  | .emptyPath => "-s must be followed by a filename"
  | .unknownQrMode name => "Invalid qr-mode " ++ Text.quoted name

/-- What a setting is that was announced and then left blank, which is less than an empty text. -/
inductive Blank where
  /-- A number, which cannot be held against its range. -/
  | number
  /-- A name, which cannot be looked up. -/
  | name
deriving Repr, DecidableEq

/-- The wording for a setting that was left blank. -/
def Blank.message : Blank → String
  | .number => "'<=' not supported between instances of 'int' and 'list'"
  | .name => "'list' object has no attribute 'upper'"

/-- A number within its range, bounds included. -/
def Quantity.check (quantity : Quantity) (value : Int) : Except Conflict Nat :=
  if (quantity.least : Int) ≤ value ∧ value ≤ quantity.greatest then .ok value.toNat
  else .error (.outOfRange quantity)

/-- A number that may be left out. -/
def Quantity.check? (quantity : Quantity) : Option Int → Except Conflict (Option Nat)
  | none => .ok none
  | some value => (quantity.check value).map some

end OneTimePassword
