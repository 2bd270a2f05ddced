/-
Module: OneTimePassword.QrCode.Drawing
Purpose: QR codes as terminal text.
Main exports: QrCode.Matrix, QrCode.ansiText, QrCode.halfBlockText?, QrCode.draw
-/
import OneTimePassword.QrCode.Mode

namespace OneTimePassword.QrCode

/-- The modules of a QR code by rows from the top, dark ones being true. -/
abbrev Matrix := List (List Bool)

/-- All attributes off. -/
def reset : List Char := "\x1b[0m".toList

/-- Black on grey. -/
def blackOnGrey : List Char := "\x1b[30;47m".toList

/-- Foreground and background are exchanged. -/
def inverseOn : List Char := "\x1b[7m".toList

/-- Foreground and background as they are. -/
def inverseOff : List Char := "\x1b[27m".toList

/-- The colours in which a line begins. -/
def Tint.setup : Tint → List Char
  | .plain => []
  | .inverse => inverseOn
  | .grey => blackOnGrey

/-- What turns to dark modules. Where the colours are exchanged from the start, dark is the normal
video. -/
def Tint.toDark : Tint → List Char
  | .inverse => inverseOff
  | _ => inverseOn

/-- What turns back to light modules. -/
def Tint.toLight : Tint → List Char
  | .inverse => inverseOn
  | _ => inverseOff

/-- Turn the colours if a module of the other kind follows. -/
def turn (tint : Tint) (present following : Bool) : List Char :=
  if present = following then [] else if following then tint.toDark else tint.toLight

/-- A line of the given cells, in the tint's colours to its end. -/
def line (tint : Tint) (cells : List Char) : List Char := tint.setup ++ cells ++ reset ++ ['\n']

/-- A line of blanks. -/
def blankLine (tint : Tint) (width : Nat) : List Char := line tint (List.replicate width ' ')

/-- Modules of two blanks each. `present` tells the colour that is on before the first; light is on
behind the last. -/
def ansiCells (tint : Tint) : (present : Bool) → List Bool → List Char
  | present, [] => turn tint present false
  | present, dark :: rest => turn tint present dark ++ [' ', ' '] ++ ansiCells tint dark rest

/-- A QR code in coloured blanks, with two light modules around it. -/
def ansiText (tint : Tint) (matrix : Matrix) : List Char :=
  let margin := blankLine tint (2 * (matrix.length + 4))
  let border := List.replicate 4 ' '
  let row (cells : List Bool) := line tint (border ++ ansiCells tint false cells ++ border)
  reset ++ margin ++ margin ++ matrix.flatMap row ++ margin ++ margin

/-- Two modules, one above the other, in one character. -/
def halfBlock : (upper lower : Bool) → Char
  | true, true => '█'
  | true, false => '▀'
  | false, true => '▄'
  | false, false => ' '

/-- The characters for two rows, the lower of which may be missing. There are none if a row is too
short. -/
def halfBlockCells? (width : Nat) (upper : List Bool) (lower? : Option (List Bool)) :
    Option (List Char) :=
  (List.range width).mapM fun column => do
    let top ← upper[column]?
    let bottom ←
      match lower? with
      | none => some false
      | some lower => lower[column]?
    pure (halfBlock top bottom)

/-- Rows two by two. The last one stands alone if their number is odd. -/
def rowPairs : Matrix → List (List Bool × Option (List Bool))
  | [] => []
  | [row] => [(row, none)]
  | upper :: lower :: rest => (upper, some lower) :: rowPairs rest

/-- A QR code in half blocks, with two light modules around it. Only a matrix all of whose rows are
as long as it is high can be drawn; what rows have beyond that is left out. -/
def halfBlockText? (tint : Tint) (matrix : Matrix) : Option (List Char) := do
  let width := matrix.length
  let margin := blankLine tint (width + 4)
  let rows ← (rowPairs matrix).mapM fun (upper, lower?) => do
    let cells ← halfBlockCells? width upper lower?
    pure (line tint ([' ', ' '] ++ cells ++ [' ', ' ']))
  pure (reset ++ margin ++ rows.flatten ++ margin)

/-- Why a matrix is not drawn. -/
inductive DrawingError where
  /-- A row is shorter than the matrix is high. -/
  | shortRow
deriving Repr, DecidableEq

/-- The wording of the error. -/
def DrawingError.message : DrawingError → String
  | .shortRow => "list index out of range"

/-- The text that shows a QR code in a style. -/
def draw (style : Style) (matrix : Matrix) : Except DrawingError String :=
  match style.glyphs with
  | .ansi => .ok (String.ofList (ansiText style.tint matrix))
  | .utf8 =>
      match halfBlockText? style.tint matrix with
      | some text => .ok (String.ofList text)
      | none => .error .shortRow

end OneTimePassword.QrCode
