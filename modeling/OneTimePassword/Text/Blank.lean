/-
Module: OneTimePassword.Text.Blank
Purpose: White space, and taking it off both ends of a text.
Main exports: Text.isBlank, Text.isInformationSeparator, Text.trim
-/

namespace OneTimePassword.Text

/-- The four separators of ASCII control code (file, group, record and unit). -/
def isInformationSeparator (c : Char) : Bool := 0x1c ≤ c.toNat && c.toNat ≤ 0x1f

/-- White space in the sense of Unicode, the four information separators included. -/
def isBlank (c : Char) : Bool :=
  (0x09 ≤ c.toNat && c.toNat ≤ 0x0d) || isInformationSeparator c ||
    c.toNat == 0x20 || c.toNat == 0x85 || c.toNat == 0xa0 || c.toNat == 0x1680 ||
    (0x2000 ≤ c.toNat && c.toNat ≤ 0x200a) || c.toNat == 0x2028 || c.toNat == 0x2029 ||
    c.toNat == 0x202f || c.toNat == 0x205f || c.toNat == 0x3000

/-- A text without the characters at its two ends that satisfy `p`. -/
def trim (p : Char → Bool) (s : List Char) : List Char :=
  ((s.dropWhile p).reverse.dropWhile p).reverse

end OneTimePassword.Text
