/-
Module: OneTimePassword.QrCode.Renderer
Purpose: The means at hand to show a text as a QR code.
Main exports: QrCode.EncoderError, QrCode.Encoder, QrCode.Renderer, QrCode.Renderer.ofModeName
-/
import OneTimePassword.QrCode.Drawing
import OneTimePassword.Text.Utf8

namespace OneTimePassword.QrCode

/-- Why an encoder makes no matrix of given bytes, in its own words. -/
structure EncoderError where
  message : String
deriving Repr, DecidableEq

/-- What makes the matrix for given bytes, at the medium error correction level, in the smallest
version that holds them and without a border. There is none for bytes that no version holds. -/
abbrev Encoder := Bytes → Except EncoderError Matrix

/-- Who shows QR codes. -/
inductive Renderer where
  /-- Nobody. -/
  | absent
  /-- The terminal, if there is an encoder. -/
  | terminal (style : Style) (encoder? : Option Encoder)
  /-- A viewer that takes the text and says whether it showed it. -/
  | viewer (succeeds : Bool)

/-- The renderer for a mode by its exact name, and whether there is none only for want of an
encoder. A name that means no mode is drawn as far as its style can be told. -/
def Renderer.ofModeName (name : String) (encoder? : Option Encoder) : Renderer × Bool :=
  if name = Mode.hidden.name then (.absent, false)
  else
    match encoder? with
    | none => (.absent, true)
    | some encoder => (.terminal (Style.ofName name) (some encoder), false)

end OneTimePassword.QrCode
