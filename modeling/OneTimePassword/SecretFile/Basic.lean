/-
Module: OneTimePassword.SecretFile.Basic
Purpose: The secret file in memory, built up line by line within a bounded size.
Main exports: SecretFile, SecretFile.lines, SecretFile.text, SecretFile.size, SecretFile.start,
  SecretFile.addMode, SecretFile.addCode, SecretFile.insertDirective
-/
import OneTimePassword.ScratchCode.Basic
import OneTimePassword.SecretFile.Directive
import OneTimePassword.Settings.Conflict

namespace OneTimePassword

/-- The size of a line in a file, its newline included. -/
def lineSize (line : String) : Nat := line.length + 1

/-- The lines of a secret file. Directives stand directly below the secret, the last one added on
top; the mode line and the scratch codes follow in the order in which they were added. -/
structure SecretFile where
  /-- The size that the file may reach. -/
  capacity : Int
  secret : String
  /-- The directives, last added first. -/
  directives : List String
  /-- The mode line and the scratch codes, first added first. -/
  entries : List String
deriving Repr, DecidableEq

namespace SecretFile

/-- Why a line is not taken. -/
inductive Refusal where
  /-- The file would outgrow its capacity. -/
  | full
  /-- A mode line is there already. -/
  | modeIsSet
deriving Repr, DecidableEq

/-- The wording of the refusal. -/
def Refusal.message : Refusal → String
  | .full => "secret file buffer overflow"
  | .modeIsSet => ""

/-- The symbols of a secret of 160 bits. -/
def secretLength : Nat := 32

/-- The size of the largest file that options can lead to: every directive at its widest, and as
many scratch codes as there may be. -/
def maxSize : Nat :=
  (secretLength + 1)
    + max (lineSize Mode.timeBased.line) (lineSize Mode.counterBased.line)
    + lineSize Directive.disallowReuse.line
    + lineSize (Directive.stepSize Quantity.stepSize.greatest).line
    + lineSize (Directive.windowSize Quantity.windowSize.greatest).line
    + lineSize (Directive.rateLimit Quantity.rateLimit.greatest Quantity.rateTime.greatest).line
    + ScratchCode.maxCount * (ScratchCode.width + 1)

/-- The lines from top to bottom. -/
def lines (file : SecretFile) : List String := file.secret :: (file.directives ++ file.entries)

/-- The size of the file in characters. -/
def size (file : SecretFile) : Nat := file.lines.foldr (fun line rest => lineSize line + rest) 0

/-- The file's text: each line is followed by a newline. -/
def text (file : SecretFile) : String := String.join (file.lines.map (· ++ "\n"))

/-- A line without the newlines at its end. -/
def stripNewlines (line : String) : String :=
  String.ofList (line.toList.reverse.dropWhile (· == '\n')).reverse

/-- Whether a line fits into the rest of the capacity. -/
def Fits (file : SecretFile) (line : String) : Prop :=
  ((file.size + lineSize line : Nat) : Int) ≤ file.capacity

instance (file : SecretFile) (line : String) : Decidable (file.Fits line) :=
  inferInstanceAs (Decidable (_ ≤ _))

/-- A file of the secret alone. -/
def start (secret : String) (capacity : Int) : Except Refusal SecretFile :=
  let file : SecretFile :=
    { capacity, secret := stripNewlines secret, directives := [], entries := [] }
  if file.size ≤ capacity then .ok file else .error .full

/-- Add a line at the end. -/
def append (file : SecretFile) (line : String) : Except Refusal SecretFile :=
  if file.Fits line then .ok { file with entries := file.entries ++ [line] } else .error .full

/-- Whether some line reads as a mode line. -/
def hasMode (file : SecretFile) : Bool :=
  file.lines.any fun line => line == Mode.timeBased.line || line == Mode.counterBased.line

/-- Add the mode line, of which there is one at most. -/
def addMode (file : SecretFile) (mode : Mode) : Except Refusal SecretFile :=
  if file.hasMode then .error .modeIsSet else file.append mode.line

/-- Add a scratch code at the end. -/
def addCode (file : SecretFile) (code : Int) : Except Refusal SecretFile :=
  file.append (ScratchCode.display code)

/-- Put a line directly below the secret. -/
def insertDirective (file : SecretFile) (line : String) : Except Refusal SecretFile :=
  let line := stripNewlines line
  if file.Fits line then .ok { file with directives := line :: file.directives } else .error .full

end SecretFile

end OneTimePassword
