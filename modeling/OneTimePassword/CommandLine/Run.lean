/-
Module: OneTimePassword.CommandLine.Run
Purpose: A run of the program as a whole, from its command line to its exit status.
Main exports: CommandLine.Setting, CommandLine.Ending, CommandLine.Transcript, CommandLine.start,
  CommandLine.run
-/
import OneTimePassword.CommandLine.Description
import OneTimePassword.CommandLine.Help
import OneTimePassword.CommandLine.Parse
import OneTimePassword.Enrollment.Run

namespace OneTimePassword.CommandLine

/-- What the program is started in. -/
structure Setting where
  home? : Option String
  host : Host
  isTerminal : Bool
  encoder? : Option QrCode.Encoder
  faults : Faults := {}
  /-- The random source, or why it cannot be had. -/
  source : Except RandomBytes.Error RandomBytes.Supply

/-- How a run of the program ends. -/
inductive Ending where
  | exit (status : Nat)
  /-- A failure that the program has no words for. -/
  | failure (cause : Failure)
deriving Repr, DecidableEq

/-- What a run of the program leaves behind. -/
structure Transcript where
  ending : Ending
  output : String
  errors : String
  session : Session

/-- The failures that are told to the user in a line. The others stem from a clock or a path that
makes no sense, from a QR code that cannot be made or from a value that was left blank, or are
nothing but an end of input. -/
def isReported : Failure → Bool
  | .random .closedStream | .random .closedNode | .random .unvarying => false
  | .random _ | .uri _ | .conflict _ | .noHome => true
  | .code (.secret _) => true
  | .replacement .malformedPath => false
  | .replacement _ => true
  | _ => false

/-- A record as a line. -/
def recordLine (record : Record) : String := "[+] " ++ record.text ++ "\n"

/-- The lines of a journal. Only a verbose run shows what is not for everybody. -/
def journalLines (verbose : Bool) (journal : List Record) : String :=
  String.join ((journal.filter fun record => verbose || record.isWarning).map recordLine)

/-- A run that asked for `work` to be done with checked options and an open random source. What is
noted down before is noted down here. -/
def start {α : Type} (setting : Setting) (request : Request)
    (work : Environment → Options → SetupM α) : SetupM α := do
  let options ← orFail id request.options
  note (.debug ("Options: " ++ request.describe options))
  let source ← orFail .random setting.source
  modify fun session => { session with random := source }
  let (renderer, isMissing) := QrCode.Renderer.ofModeName options.qrMode.name setting.encoder?
  if isMissing then note (.debug "qrcode package not installed, QR display disabled")
  let environment : Environment :=
    { home? := setting.home?, host := setting.host, isTerminal := setting.isTerminal, renderer
      faults := setting.faults }
  work environment options

/-- What is told of a run that ended as it did. -/
def conclude {α : Type} (verbose : Bool) (outcome : Except Failure α) (session : Session) :
    Transcript :=
  let errors := journalLines verbose session.journal
  match outcome with
  | .ok _ => { ending := .exit 0, output := session.printed, errors, session }
  | .error (.unanswered .interrupted) =>
      { ending := .exit 1, output := session.printed ++ "\n", errors, session }
  | .error (.unanswered _) => { ending := .exit 1, output := session.printed, errors, session }
  | .error cause =>
      if isReported cause then
        { ending := .exit 1, output := session.printed
          errors := errors ++ "Error: " ++ cause.message ++ "\n", session }
      else { ending := .failure cause, output := session.printed, errors, session }

/-- What is told about a command line that asks for no run. -/
def decline (stop : Stop) (session : Session) : Transcript :=
  match stop with
  | .help => { ending := .exit 0, output := help, errors := "", session }
  | .version => { ending := .exit 0, output := version, errors := "", session }
  | .usage error => { ending := .exit 2, output := "", errors := refusal error, session }

/-- Run the program. -/
def run (setting : Setting) (args : List String) (session : Session) : Transcript :=
  match parse args with
  | .error stop => decline stop session
  | .ok request =>
      let (outcome, session) := (start setting request Enrollment.run).run.run session
      conclude request.verbose outcome session

end OneTimePassword.CommandLine
