/-
Module: OneTimePassword.Percent
Purpose: Texts inside an enrollment URI.
Main exports: Percent.Error, Percent.isEscaped, Percent.encodeByte, Percent.encode
-/
import OneTimePassword.Text.Utf8

namespace OneTimePassword.Percent

/-- Why a text is not written. -/
inductive Error where
  /-- The text might not fit into an enrollment URI. -/
  | tooLong
deriving Repr, DecidableEq

/-- The wording of the error. -/
def Error.message : Error → String
  | .tooLong => "Generated URL would be unreasonably large"

/-- The length that an enrollment URI should stay within. -/
def maxUriLength : Nat := 10000

/-- The bytes that are escaped: blanks and controls, all outside ASCII, and `%`, `&`, `?` and `=`. A
slash, a colon and an at sign stand for themselves. -/
def isEscaped (byte : UInt8) : Bool :=
  byte ≤ 0x20 || 0x7f ≤ byte || byte ∈ [0x25, 0x26, 0x3f, 0x3d]

/-- A hexadecimal digit with capital letters. -/
def hexDigit (value : Nat) : Char := (Nat.digitChar value).toUpper

/-- A byte as text. -/
def encodeByte (byte : UInt8) : List Char :=
  if isEscaped byte then ['%', hexDigit (byte.toNat / 16), hexDigit (byte.toNat % 16)]
  else [Char.ofNat byte.toNat]

/-- A text whose UTF-8 form is escaped byte by byte. A text that could take up the whole URI is
refused, however few of its bytes need an escape. -/
def encode (text : String) : Except Error String :=
  let raw := Text.utf8 text
  if 3 * raw.length + 1 > maxUriLength then .error .tooLong
  else .ok (String.ofList (raw.flatMap encodeByte))

end OneTimePassword.Percent
