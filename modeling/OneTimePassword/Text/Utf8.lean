/-
Module: OneTimePassword.Text.Utf8
Purpose: Texts as bytes.
Main exports: Bytes, Text.utf8
-/

namespace OneTimePassword

/-- A string of bytes. -/
abbrev Bytes := List UInt8

/-- The UTF-8 form of a text. Every text has one, as half of a surrogate pair is no character. -/
def Text.utf8 (s : String) : Bytes := s.toList.flatMap String.utf8EncodeChar

end OneTimePassword
