/-
Module: OneTimePassword.Text.Quoted
Purpose: Texts in quotation marks, as messages show them.
Main exports: Text.hexDigits, Text.quotationMark, Text.quoteChar, Text.quoted
-/
import OneTimePassword.Text.Printable

namespace OneTimePassword.Text

/-- The lowest `width` hexadecimal digits of a number, most significant first. The digits above
nine are the lower-case letters from `a`. -/
def hexDigits : (width n : Nat) → List Char
  | 0, _ => []
  | width + 1, n => hexDigits width (n / 16) ++ [Nat.digitChar (n % 16)]

/-- Single quotation marks enclose a text, unless it holds one and no double one. -/
def quotationMark (s : List Char) : Char :=
  if s.contains '\'' && !s.contains '"' then '"' else '\''

/-- A character within quotation marks: the mark itself, the backslash and what cannot be shown
are escaped. -/
def quoteChar (mark c : Char) : List Char :=
  if c = mark || c = '\\' then ['\\', c]
  else if c = '\n' then ['\\', 'n']
  else if c = '\r' then ['\\', 'r']
  else if c = '\t' then ['\\', 't']
  else if isPrintable c then [c]
  else if c.toNat < 0x100 then '\\' :: 'x' :: hexDigits 2 c.toNat
  else if c.toNat < 0x10000 then '\\' :: 'u' :: hexDigits 4 c.toNat
  else '\\' :: 'U' :: hexDigits 8 c.toNat

/-- A text in quotation marks. -/
def quoted (s : String) : String :=
  let mark := quotationMark s.toList
  String.ofList (mark :: s.toList.flatMap (quoteChar mark) ++ [mark])

end OneTimePassword.Text
