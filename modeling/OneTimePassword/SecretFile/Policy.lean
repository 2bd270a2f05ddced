/-
Module: OneTimePassword.SecretFile.Policy
Purpose: The content of a secret file, by the options and by the answers to what they leave open.
Main exports: Policy.Question, Policy.Question.text, Policy.add, SecretFile.compose
-/
import OneTimePassword.Session
import OneTimePassword.Settings.Basic

namespace OneTimePassword

namespace Policy

/-- The questions about what options leave open. -/
inductive Question where
  /-- Whether a code is good for one login only. -/
  | reuse
  /-- Whether more codes than usual are valid. -/
  | window (mode : Mode)
  /-- Whether logins are limited to a rate. -/
  | rate
deriving Repr, DecidableEq

/-- The wording of a question. -/
def Question.text : Question → String
  | .reuse =>
      "Do you want to disallow multiple uses of the same authentication\n" ++
      "token? This restricts you to one login about every 30s, but it increases\n" ++
      "your chances to notice or even prevent man-in-the-middle attacks"
  | .window .timeBased =>
      "By default, a new token is generated every 30 seconds by the mobile app.\n" ++
      "In order to compensate for possible time-skew between the client and the server,\n" ++
      "we allow an extra token before and after the current time. This allows for a\n" ++
      "time skew of up to 30 seconds between authentication server and client. If you\n" ++
      "experience problems with poor time synchronization, you can increase the window\n" ++
      "from its default size of 3 permitted codes (one previous code, the current\n" ++
      "code, the next code) to 17 permitted codes (the 8 previous codes, the current\n" ++
      "code, and the 8 next codes). This will permit for a time skew of up to 4 minutes\n" ++
      "between client and server.\n" ++
      "Do you want to do so?"
  | .window .counterBased =>
      "By default, three tokens are valid at any one time.  This accounts for\n" ++
      "generated-but-not-used tokens and failed login attempts. In order to\n" ++
      "decrease the likelihood of synchronization problems, this window can be\n" ++
      "increased from its default size of 3 to 17. Do you want to do so?"
  | .rate =>
      "If the computer that you are logging into isn't hardened against brute-force\n" ++
      "login attempts, you can enable rate-limiting for the authentication module.\n" ++
      "By default, this limits attackers to no more than 3 login attempts every 30s.\n" ++
      "Do you want to enable rate-limiting?"

/-- The window that a user can choose instead of the usual one. -/
def wideWindow : Nat := 17

/-- The least window of a mode. -/
def minimalWindow : Mode → Nat
  | .timeBased => minTimeBasedWindow
  | .counterBased => 1

/-- The rate limit that a user can choose. -/
def usualRate : Directive := .rateLimit 3 30

end Policy

/-- A step of putting a secret file together. -/
abbrev ComposeM := StateT SecretFile SetupM

namespace SecretFile

/-- Change the file, unless it refuses. -/
def change (f : SecretFile → Except Refusal SecretFile) : ComposeM Unit := do
  set (← orFail .refusal (f (← get)))

/-- The characters that a line is shown without in a journal. -/
def isMark (c : Char) : Bool := Directive.mark.toList.contains c

/-- Put a line below the secret and note it down. -/
def insertLine (line : String) : ComposeM Unit := do
  change (·.insertDirective line)
  let shown := Text.trim isMark (stripNewlines line).toList
  note (.debug ("Added option " ++ String.ofList shown))

/-- Put a line below the secret if the answer to a question is yes. -/
def offerLine (question line : String) : ComposeM Bool := do
  if ← askWhether question then
    insertLine line
    pure true
  else pure false

end SecretFile

namespace Policy

/-- Put a directive into the file. -/
def state (directive : Directive) : ComposeM Unit := SecretFile.insertLine directive.line

/-- Put a directive into the file if the user wants it. -/
def offer (question : Question) (directive : Directive) : ComposeM Unit :=
  discard (SecretFile.offerLine question.text directive.line)

/-- Whether a code may be used again. Only time-based codes could be. -/
def addReuse (mode : Mode) (options : Options) : ComposeM Unit :=
  match mode, options.disallowReuse with
  | .timeBased, none => offer .reuse .disallowReuse
  | .timeBased, some true => state .disallowReuse
  | _, _ => pure ()

/-- The time step, unless it is the usual one. A counter-based secret has none; where the mode was
chosen in the course of the run, it is only here that the two meet. -/
def addStep (mode : Mode) (options : Options) : ComposeM Unit :=
  match mode, options.stepSize with
  | _, none => pure ()
  | .timeBased, some seconds =>
      if seconds = Totp.defaultStep then pure () else state (.stepSize seconds)
  | .counterBased, some _ => throw (.conflict .stepInCounterBased)

/-- The window of valid codes. A time-based one can be found too small here if the mode was chosen
in the course of the run. -/
def addWindow (mode : Mode) (options : Options) : ComposeM Unit :=
  match options.window with
  | .ask => offer (.window mode) (.windowSize wideWindow)
  | .minimal => state (.windowSize (minimalWindow mode))
  | .size codes =>
      if mode = .timeBased ∧ codes < minTimeBasedWindow then throw (.conflict .windowTooSmall)
      else state (.windowSize codes)

/-- The rate of logins. -/
def addRate (options : Options) : ComposeM Unit :=
  match options.rate with
  | .ask => offer .rate usualRate
  | .unlimited => pure ()
  | .limit attempts seconds => state (.rateLimit attempts seconds)

/-- All directives in the order in which they are settled. The file has them the other way round. -/
def add (mode : Mode) (options : Options) : ComposeM Unit := do
  addReuse mode options
  addStep mode options
  addWindow mode options
  addRate options

end Policy

/-- Put a secret file together: the secret, the mode, the scratch codes, and then the directives. -/
def SecretFile.compose (secret : String) (mode : Mode) (codes : List Int) (options : Options) :
    SetupM SecretFile := do
  let file ← orFail .refusal (SecretFile.start secret SecretFile.maxSize)
  let steps : ComposeM Unit := do
    change (·.addMode mode)
    codes.forM fun code => change (·.addCode code)
    Policy.add mode options
  let (_, file) ← steps.run file
  pure file

end OneTimePassword
