/-
Module: OneTimePassword.CommandLine.Description
Purpose: The options of a request in one line, for the journal.
Main exports: CommandLine.Request.describe
-/
import OneTimePassword.CommandLine.Request

namespace OneTimePassword.CommandLine

namespace Request

/-- A truth value. -/
def describeBool (value : Bool) : String := if value then "True" else "False"

/-- A value that may be left open. -/
def describeOption {α : Type} (describeValue : α → String) : Option α → String
  | some value => describeValue value
  | none => "None"

/-- A text that a switch sets. One that was left blank is told from an empty one. -/
def describeText (request : Request) (switch : Switch) (text : Option String) : String :=
  if request.isBlank switch then "[]" else describeOption Text.quoted text

/-- The settings behind the options that a request comes to, each by its name. -/
def describe (request : Request) (options : Options) : String :=
  let settings := options.toSettings
  let fields :=
    [("mode", describeOption Text.quoted settings.mode),
      ("disallow_reuse", describeOption describeBool settings.disallowReuse),
      ("step_size", describeOption Text.decimal settings.stepSize),
      ("window_size", describeOption Text.decimal settings.windowSize),
      ("minimal_window", describeBool settings.minimalWindow),
      ("rate_limit", describeOption Text.decimal settings.rateLimit),
      ("rate_time", describeOption Text.decimal settings.rateTime),
      ("no_rate_limit", describeBool settings.noRateLimit),
      ("emergency_codes", Text.decimal settings.emergencyCodes),
      ("confirm", describeBool settings.confirm),
      ("force", describeBool settings.force),
      ("quiet", describeBool settings.quiet),
      ("label", request.describeText .label settings.label),
      ("issuer", request.describeText .issuer settings.issuer),
      ("secret_path", describeOption Text.quoted settings.secretPath),
      ("qr_mode", Text.quoted settings.qrMode)]
  "SetupOptions(" ++
    String.intercalate ", " (fields.map fun (name, value) => name ++ "=" ++ value) ++ ")"

end Request

end OneTimePassword.CommandLine
