/-
Module: OneTimePassword.Session
Purpose: What a run uses up and leaves behind, and the steps that do so.
Main exports: Session, SetupM, print, note, askWhether, askNumber, readRandom, readClock
-/
import OneTimePassword.Clock
import OneTimePassword.Failure
import OneTimePassword.FileSystem.Basic
import OneTimePassword.Journal

namespace OneTimePassword

/-- The state of a run. -/
structure Session where
  random : RandomBytes.Supply
  respondent : Respondent
  clock : Clock
  files : FileSystem
  /-- All that was printed. -/
  printed : String := ""
  journal : List Record := []
  /-- The texts that were handed over to be shown as QR codes. -/
  shown : List String := []

/-- A step of a run. One that fails leaves behind what it did until then. -/
abbrev SetupM := ExceptT Failure (StateM Session)

/-- Go on with the value, or end the run for the given cause. -/
def orFail {ε α : Type} (cause : ε → Failure) : Except ε α → SetupM α
  | .ok value => pure value
  | .error error => throw (cause error)

/-- Print text. -/
def print (text : String) : SetupM Unit :=
  modify fun session => { session with printed := session.printed ++ text }

/-- Print a line. -/
def printLine (text : String) : SetupM Unit := print (text ++ "\n")

/-- Note something down. -/
def note (record : Record) : SetupM Unit :=
  modify fun session => { session with journal := session.journal ++ [record] }

/-- Put a question to the respondent. -/
def ask {α : Type} (question : Respondent → Respondent.Reply α) : SetupM α := do
  let session ← get
  let reply := question session.respondent
  set { session with respondent := reply.respondent, printed := session.printed ++ reply.printed }
  orFail .unanswered reply.outcome

/-- Ask a yes-or-no question. -/
def askWhether (message : String) : SetupM Bool := ask (Respondent.askWhether message)

/-- Ask for a number. -/
def askNumber (message : String) : SetupM (Option Int) := ask (Respondent.askNumber message)

/-- Read random bytes. -/
def readRandom (wanted : Int) : SetupM Bytes := do
  let session ← get
  let (result, random) := session.random.read wanted
  set { session with random }
  let data ← orFail .random result
  note (.debug ("Read " ++ Text.decimal wanted ++ " bytes of entropy"))
  pure data

/-- Take a clock reading. -/
def readClock : SetupM Timestamp := do
  let session ← get
  let (reading, clock) := session.clock.read
  set { session with clock }
  pure reading

end OneTimePassword
