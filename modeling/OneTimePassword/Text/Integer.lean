/-
Module: OneTimePassword.Text.Integer
Purpose: Reading integers that a person typed, and writing them with a least width.
Main exports: Text.readInteger?, Text.decimal, Text.zeroPadded
-/
import OneTimePassword.Text.Blank
import OneTimePassword.Text.Digit

namespace OneTimePassword.Text

/-- The most digits an integer may be written with. Leading zeros count, underscores do not. -/
def maxIntegerDigits : Nat := 4300

/-- The values of a run of digits in which a single underscore may stand between two of them. -/
def readDigits? : List Char → Option (List Nat)
  | [] => none
  | [c] => (digitValue? c).map ([·])
  | c :: '_' :: rest => do
      let value ← digitValue? c
      let values ← readDigits? rest
      pure (value :: values)
  | c :: rest => do
      let value ← digitValue? c
      let values ← readDigits? rest
      pure (value :: values)

/-- The number that decimal digits stand for, most significant first. -/
def ofDigits (digits : List Nat) : Nat := digits.foldl (fun n digit => 10 * n + digit) 0

/-- The number written by digits alone, within the limit on their count. -/
def readNatural? (s : List Char) : Option Nat := do
  let digits ← readDigits? s
  if digits.length ≤ maxIntegerDigits then some (ofDigits digits) else none

/-- Blanks that may surround an integer: all white space but the information separators. -/
def isMargin (c : Char) : Bool := isBlank c && !isInformationSeparator c

/-- Read an integer: one optional sign, then decimal digits of any script. -/
def readInteger? (s : List Char) : Option Int :=
  match trim isMargin s with
  | '+' :: rest => (readNatural? rest).map Int.ofNat
  | '-' :: rest => (readNatural? rest).map fun n => -(n : Int)
  | rest => (readNatural? rest).map Int.ofNat

/-- A natural number in decimal. -/
def decimalNat (n : Nat) : String := String.ofList (Nat.toDigits 10 n)

/-- An integer in decimal. -/
def decimal (n : Int) : String :=
  if n < 0 then "-" ++ decimalNat n.natAbs else decimalNat n.natAbs

/-- An integer in decimal with zeros put in front of its digits until it is `width` characters
long. The sign stands before the zeros and counts as one of the characters. -/
def zeroPadded (width : Nat) (n : Int) : String :=
  let digits := Nat.toDigits 10 n.natAbs
  let sign := if n < 0 then ['-'] else []
  let zeros := List.replicate (width - sign.length - digits.length) '0'
  String.ofList (sign ++ zeros ++ digits)

end OneTimePassword.Text
