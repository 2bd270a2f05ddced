/-
Module: OneTimePassword.QrCode.Mode
Purpose: The ways to show a QR code on a terminal, and their names.
Main exports: QrCode.Style, QrCode.Style.ofName, QrCode.Mode, QrCode.Mode.name, QrCode.Mode.ofName?
-/
import OneTimePassword.Text.Capital

namespace OneTimePassword.QrCode

/-- What the modules are made of: coloured blanks, or Unicode half blocks. -/
inductive Glyphs where
  | ansi
  | utf8
deriving Repr, DecidableEq

/-- The colours of a drawing: those of the terminal, these two exchanged, or black on grey. -/
inductive Tint where
  | plain
  | inverse
  | grey
deriving Repr, DecidableEq

/-- How a drawing looks. -/
structure Style where
  glyphs : Glyphs
  tint : Tint
deriving Repr, DecidableEq

/-- The name of a style. -/
def Style.name (style : Style) : String :=
  let start := match style.glyphs with
    | .ansi => "ANSI"
    | .utf8 => "UTF8"
  let finish := match style.tint with
    | .plain => ""
    | .inverse => "_INVERSE"
    | .grey => "_GREY"
  start ++ finish

/-- The style that a name asks for. Only its start and its end count, and what asks for nothing
else is drawn plain and in half blocks. -/
def Style.ofName (name : String) : Style :=
  { glyphs := if "ANSI".toList.isPrefixOf name.toList then .ansi else .utf8
    tint :=
      if "_INVERSE".toList.isSuffixOf name.toList then .inverse
      else if "_GREY".toList.isSuffixOf name.toList then .grey
      else .plain }

/-- Whether and how a QR code is shown. -/
inductive Mode where
  | hidden
  | drawn (style : Style)
deriving Repr, DecidableEq

namespace Mode

/-- The name of a mode. -/
def name : Mode → String
  | .hidden => "NONE"
  | .drawn style => style.name

/-- All modes, in the order in which they are listed to people. -/
def all : List Mode :=
  [.hidden,
    .drawn ⟨.ansi, .plain⟩, .drawn ⟨.ansi, .inverse⟩, .drawn ⟨.ansi, .grey⟩,
    .drawn ⟨.utf8, .plain⟩, .drawn ⟨.utf8, .inverse⟩, .drawn ⟨.utf8, .grey⟩]

/-- The mode where nothing else is said. -/
def default : Mode := .drawn ⟨.ansi, .plain⟩

/-- A name in its normal form: in capitals, with underscores for dashes. -/
def normalName (name : String) : List Char :=
  (Text.capitals name.toList).map fun c => if c = '-' then '_' else c

/-- The mode of a name, in any case and with dashes or underscores. -/
def ofName? (name : String) : Option Mode := all.find? (·.name.toList == normalName name)

end Mode

end OneTimePassword.QrCode
