/-
Module: OneTimePassword.CommandLine.Switch
Purpose: The switches of the command line.
Main exports: CommandLine.Switch, CommandLine.Switch.names, CommandLine.Switch.topic,
  CommandLine.Switch.ofName?
-/

namespace OneTimePassword.CommandLine

/-- What can be given on the command line. -/
inductive Switch where
  | help
  | version
  | verbose
  | counterBased
  | noConfirm
  | timeBased
  | disallowReuse
  | allowReuse
  | force
  | label
  | issuer
  | quiet
  | qrMode
  | rateLimit
  | rateTime
  | noRateLimit
  | secret
  | stepSize
  | windowSize
  | minimalWindow
  | emergencyCodes
deriving Repr, DecidableEq

/-- What a switch speaks about. A command line has one switch at most for each of these. -/
inductive Topic where
  | mode
  | confirmation
  | reuse
  | force
  | label
  | issuer
  | quiet
  | qrMode
  | rateLimit
  | rateTime
  | noRateLimit
  | secret
  | stepSize
  | window
  | emergencyCodes
deriving Repr, DecidableEq

namespace Switch

/-- All switches, in the order in which they are listed to people. -/
def all : List Switch :=
  [.help, .version, .verbose, .counterBased, .noConfirm, .timeBased, .disallowReuse, .allowReuse,
    .force, .label, .issuer, .quiet, .qrMode, .rateLimit, .rateTime, .noRateLimit, .secret,
    .stepSize, .windowSize, .minimalWindow, .emergencyCodes]

/-- The names of a switch: a short one with a dash, if it has one, and a long one with two. -/
def names : Switch → List String
  | .help => ["-h", "--help"]
  | .version => ["--version"]
  | .verbose => ["-v", "--verbose"]
  | .counterBased => ["-c", "--counter-based"]
  | .noConfirm => ["-C", "--no-confirm"]
  | .timeBased => ["-t", "--time-based"]
  | .disallowReuse => ["-d", "--disallow-reuse"]
  | .allowReuse => ["-D", "--allow-reuse"]
  | .force => ["-f", "--force"]
  | .label => ["-l", "--label"]
  | .issuer => ["-i", "--issuer"]
  | .quiet => ["-q", "--quiet"]
  | .qrMode => ["-Q", "--qr-mode"]
  | .rateLimit => ["-r", "--rate-limit"]
  | .rateTime => ["-R", "--rate-time"]
  | .noRateLimit => ["-u", "--no-rate-limit"]
  | .secret => ["-s", "--secret"]
  | .stepSize => ["-S", "--step-size"]
  | .windowSize => ["-w", "--window-size"]
  | .minimalWindow => ["-W", "--minimal-window"]
  | .emergencyCodes => ["-e", "--emergency-codes"]

/-- What a switch speaks about. Those that can be repeated speak about nothing. -/
def topic : Switch → Option Topic
  | .help | .version | .verbose => none
  | .counterBased | .timeBased => some .mode
  | .noConfirm => some .confirmation
  | .disallowReuse | .allowReuse => some .reuse
  | .force => some .force
  | .label => some .label
  | .issuer => some .issuer
  | .quiet => some .quiet
  | .qrMode => some .qrMode
  | .rateLimit => some .rateLimit
  | .rateTime => some .rateTime
  | .noRateLimit => some .noRateLimit
  | .secret => some .secret
  | .stepSize => some .stepSize
  | .windowSize | .minimalWindow => some .window
  | .emergencyCodes => some .emergencyCodes

/-- Whether a switch takes a value. -/
def takesValue : Switch → Bool
  | .label | .issuer | .qrMode | .rateLimit | .rateTime | .secret | .stepSize | .windowSize
  | .emergencyCodes => true
  | _ => false

/-- All names with their switches, in the order of the listing. -/
def named : List (String × Switch) :=
  all.flatMap fun switch => switch.names.map fun name => (name, switch)

/-- The switch of an exact name. -/
def ofName? (name : String) : Option Switch := named.lookup name

/-- How a switch is called in messages. -/
def title (switch : Switch) : String := String.intercalate "/" switch.names

end Switch

end OneTimePassword.CommandLine
