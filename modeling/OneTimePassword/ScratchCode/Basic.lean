/-
Module: OneTimePassword.ScratchCode.Basic
Purpose: The emergency codes that a login takes once each.
Main exports: ScratchCode.ofBlock, ScratchCode.IsAccepted, ScratchCode.display
-/
import OneTimePassword.BigEndian
import OneTimePassword.Text.Integer

namespace OneTimePassword.ScratchCode

/-- The digits of a code. -/
def width : Nat := 8

/-- Codes are below this number, so eight digits hold them. -/
def modulus : Nat := 100000000

/-- The least code that is written without leading zeros. -/
def least : Nat := modulus / 10

/-- The random bytes that go into one code. -/
def blockLength : Nat := 4

/-- How many codes a run makes unless it is told otherwise. -/
def defaultCount : Nat := 5

/-- The most codes that a run makes. -/
def maxCount : Nat := 10

/-- The number that a block stands for: its lowest 31 bits, reduced to at most eight digits. -/
def ofBlock (block : Bytes) : Nat := BigEndian.read block % BigEndian.range31 % modulus

/-- Numbers that have all eight digits make a code; the others are drawn anew. -/
def IsAccepted (value : Nat) : Prop := least ≤ value

instance (value : Nat) : Decidable (IsAccepted value) := inferInstanceAs (Decidable (least ≤ value))

/-- A code as it is shown and stored. -/
def display (code : Int) : String := Text.zeroPadded width code

end OneTimePassword.ScratchCode
