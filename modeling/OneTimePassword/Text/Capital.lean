/-
Module: OneTimePassword.Text.Capital
Purpose: Upper-casing, exact wherever the outcome is ASCII.
Main exports: Text.capital, Text.capitals
-/

namespace OneTimePassword.Text

/-- The upper-case form of a character. Besides the ASCII letters, ten characters have a form
written in ASCII alone: the dotless i, the long s, the sharp s and the Latin ligatures. Every other
character stands for itself here; its own upper-case form holds a character outside ASCII, so a
comparison with an ASCII text comes out the same. -/
def capital (c : Char) : List Char :=
  match c.toNat with
  | 0xdf => ['S', 'S']
  | 0x131 => ['I']
  | 0x17f => ['S']
  | 0xfb00 => ['F', 'F']
  | 0xfb01 => ['F', 'I']
  | 0xfb02 => ['F', 'L']
  | 0xfb03 => ['F', 'F', 'I']
  | 0xfb04 => ['F', 'F', 'L']
  | 0xfb05 => ['S', 'T']
  | 0xfb06 => ['S', 'T']
  | _ => [c.toUpper]

/-- A text in capitals. -/
def capitals (s : List Char) : List Char := s.flatMap capital

end OneTimePassword.Text
