/-
Module: OneTimePassword.CommandLine.UsageError
Purpose: Why a command line is not understood.
Main exports: CommandLine.UsageError, CommandLine.UsageError.message
-/
import OneTimePassword.CommandLine.Switch
import OneTimePassword.Text.Quoted

namespace OneTimePassword.CommandLine

/-- The causes for which a command line is refused. -/
inductive UsageError where
  /-- An abbreviation that several names begin with. -/
  | ambiguous (word : String) (names : List String)
  /-- A value is missing. -/
  | noValue (switch : Switch)
  /-- A value that the switch does not take. -/
  | needlessValue (switch : Switch) (value : String)
  /-- A value that is no integer. -/
  | notInteger (switch : Switch) (value : String)
  /-- A switch that speaks about what another one did. -/
  | repeated (earlier later : String)
  /-- Words that nothing can be made of. -/
  | unrecognized (words : List String)
deriving Repr, DecidableEq

/-- The wording of the error. -/
def UsageError.message : UsageError → String
  | .ambiguous word names =>
      "ambiguous option: " ++ word ++ " could match " ++ String.intercalate ", " names
  | .noValue switch => "argument " ++ switch.title ++ ": expected one argument"
  | .needlessValue switch value =>
      "argument " ++ switch.title ++ ": ignored explicit argument " ++ Text.quoted value
  | .notInteger switch value =>
      "argument " ++ switch.title ++ ": invalid int value: " ++ Text.quoted value
  | .repeated earlier later =>
      if earlier = later then "Duplicate " ++ later ++ " option detected"
      else "Duplicate " ++ earlier ++ " and/or " ++ later ++ " option detected"
  | .unrecognized words => "unrecognized arguments: " ++ String.intercalate " " words

end OneTimePassword.CommandLine
