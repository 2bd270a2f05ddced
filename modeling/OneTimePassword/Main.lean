/-
Module: OneTimePassword.Main
Purpose: The program on a real machine: it reads the terminal, the clock and the random device, and
  makes the system calls of a replacement.
Main exports: main
-/
import Std.Time.DateTime.Timestamp
import OneTimePassword.CommandLine.Run

namespace OneTimePassword.Program

/-- An error code by its number, which some calls give with the sign reversed. -/
def errnoOfCode (code : UInt32) (text : String) : Errno :=
  Errno.ofNumber (if code < 0x80000000 then code.toNat else (-code).toNat) text

/-- The error code of a failed call. -/
def errnoOf : IO.Error → Errno
  | .alreadyExists _ code text | .resourceBusy code text | .resourceVanished code text
  | .unsupportedOperation code text | .hardwareFault code text
  | .unsatisfiedConstraints code text | .illegalOperation code text | .protocolError code text
  | .timeExpired code text | .interrupted _ code text | .noFileOrDirectory _ code text
  | .invalidArgument _ code text | .permissionDenied _ code text | .resourceExhausted _ code text
  | .inappropriateType _ code text | .noSuchThing _ code text | .otherError code text =>
      errnoOfCode code text
  | .unexpectedEof => .inputOutput
  | .userError text => .other 0 text

/-- The content of a small file of the system, or nothing if it cannot be read. -/
def readFile? (path : String) : IO (Option String) := do
  try
    pure (some (← IO.FS.readFile path))
  catch _ => pure none

/-- The first line of a text. -/
def firstLine (text : String) : String := ((Respondent.linesOf text).head?).getD ""

/-- The real user id in the status of a process. -/
def uidOfStatus (status : String) : Nat :=
  let line := (Respondent.linesOf status).find? fun line => "Uid:".toList.isPrefixOf line.toList
  let digits :=
    ((((line.getD "").toList.drop 4).dropWhile Text.isBlank).takeWhile Text.isAsciiDigit)
  (Text.readNatural? digits).getD 0

/-- The login name of a user id in a table of accounts. -/
def accountOf? (uid : Nat) (accounts : String) : Option String :=
  (Respondent.linesOf accounts).findSome? fun line =>
    match line.toList.splitOn ':' with
    | name :: _ :: number :: _ =>
        if Text.readNatural? number = some uid then some (String.ofList name) else none
    | _ => none

/-- The machine and the account. -/
def findHost : IO Host := do
  let hostname ← readFile? "/proc/sys/kernel/hostname"
  let status ← readFile? "/proc/self/status"
  let accounts ← readFile? "/etc/passwd"
  let uid := uidOfStatus (status.getD "")
  pure
    { hostname? := hostname.map firstLine, account? := accounts.bind (accountOf? uid), uid }

/-- Bytes that are more than any run needs: enough for a thousand scratch codes. -/
def supplySize : Nat := 4096

/-- Take bytes from the random device. -/
def openRandom : IO (Except RandomBytes.Error RandomBytes.Supply) := do
  let name := RandomBytes.systemDevice
  try
    let handle ← IO.FS.Handle.mk name .read
    let bytes ← handle.read supplySize.toUSize
    pure (.ok { name, device := .stream bytes.toList true })
  catch e => pure (.error (.cannotOpen name (errnoOf e)))

/-- The present time. -/
def presentTime : IO Timestamp := do
  let now ← Std.Time.Timestamp.now
  pure (.seconds (mkRat now.toNanosecondsSinceUnixEpoch.val 1000000000))

/-- Create a file where nothing is, for its owner alone, and open it. That takes two calls here: the
file comes with the rights that the process gives to all new files, and these are narrowed before
anything is written. A file whose rights stay as they are is taken away again. -/
def createPrivate (path : String) : IO IO.FS.Handle := do
  let handle ← IO.FS.Handle.mk path .writeNew
  try
    IO.setAccessRights path { user := { read := true, write := true } }
    pure handle
  catch e =>
    try
      IO.FS.removeFile path
    catch _ => pure ()
    throw e

/-- Make a system call. The handle is the temporary file as long as it is open. -/
def perform (handle? : Option IO.FS.Handle) :
    Replacement.Call → IO (Replacement.Reply × Option IO.FS.Handle)
  | .create path => do
      if path.contains '\x00' then return (.malformedPath, handle?)
      try
        pure (.done, some (← createPrivate path))
      catch e => pure (.failed (errnoOf e), handle?)
  | .write data => do
      try
        if let some handle := handle? then
          handle.write (ByteArray.mk data.toArray)
          handle.flush
        pure (.wrote data.length, handle?)
      catch e => pure (.failed (errnoOf e), handle?)
  | .close => pure (.done, none)
  | .rename source target => do
      try
        IO.FS.rename source target
        pure (.done, handle?)
      catch e => pure (.failed (errnoOf e), handle?)
  | .unlink path => do
      try
        IO.FS.removeFile path
        pure (.done, handle?)
      catch e => pure (.failed (errnoOf e), handle?)

/-- Carry a replacement through, with the records that it leaves. -/
partial def carryOut (job : Replacement) (stage : Replacement.Stage)
    (handle? : Option IO.FS.Handle) (journal : List Record) :
    IO (Except Replacement.Failure Unit × List Record) := do
  match stage, stage.call job with
  | .ended outcome, _ => pure (outcome, journal)
  | _, none => pure (.ok (), journal)
  | _, some call =>
      let (reply, handle?) ← perform handle? call
      carryOut job (stage.next job reply) handle?
        (journal ++ Replacement.recordsOf call reply)

/-- Print what was not printed before. -/
def showNew (stream : IO.FS.Stream) (before now : String) : IO Unit := do
  stream.putStr (String.ofList (now.toList.drop before.length))
  stream.flush

/-- All that a run has got from the outside so far. -/
structure Dialogue where
  lines : List String := []
  atEnd : Respondent.Stop := .awaited
  /-- The clock readings that were used. -/
  readings : List Timestamp := []
  /-- What is on the screen already. -/
  output : String := ""
  errors : String := ""

/-- Run up to the next question, with the run so far repeated, and again when it is answered. -/
partial def converse (setting : CommandLine.Setting) (request : CommandLine.Request)
    (dialogue : Dialogue) : IO (Except Failure Enrollment.Summary × Session × Dialogue) := do
  let stdin ← IO.getStdin
  let now ← presentTime
  let session : Session :=
    { random := { name := RandomBytes.systemDevice, device := .stream [] true }
      respondent := .console dialogue.lines dialogue.atEnd
      clock := { readings := fun place => dialogue.readings.getD place now }
      files := FileSystem.empty }
  let (outcome, session) := (CommandLine.start setting request Enrollment.prepare).run.run session
  let errors := CommandLine.journalLines request.verbose session.journal
  showNew (← IO.getStderr) dialogue.errors errors
  showNew (← IO.getStdout) dialogue.output session.printed
  let dialogue :=
    { dialogue with
      output := session.printed
      errors
      readings := (List.range session.clock.taken).map session.clock.readings }
  match outcome with
  | .error (.unanswered .awaited) =>
      let line ← stdin.getLine
      if line.isEmpty then converse setting request { dialogue with atEnd := .aborted }
      else
        let text := (Respondent.linesOf line).head?.getD ""
        converse setting request { dialogue with lines := dialogue.lines ++ [text] }
  | _ => pure (outcome, session, dialogue)

/-- Show the rest of a transcript and give the exit status. -/
def finish (transcript : CommandLine.Transcript) (dialogue : Dialogue) : IO UInt32 := do
  showNew (← IO.getStderr) dialogue.errors transcript.errors
  showNew (← IO.getStdout) dialogue.output transcript.output
  match transcript.ending with
  | .exit status => pure status.toUInt32
  | .failure cause =>
      (← IO.getStderr).putStrLn cause.message
      pure 1

/-- Run the program. -/
def run (args : List String) : IO UInt32 := do
  match CommandLine.parse args with
  | .error stop =>
      let session : Session :=
        { random := { name := RandomBytes.systemDevice, device := .stream [] true }
          respondent := .console [] .aborted, clock := Clock.ofList (.seconds 0) []
          files := FileSystem.empty }
      finish (CommandLine.decline stop session) {}
  | .ok request =>
      let setting : CommandLine.Setting :=
        { home? := ← IO.getEnv "HOME", host := ← findHost
          isTerminal := ← (← IO.getStdout).isTty, encoder? := none, source := ← openRandom }
      let (outcome, session, dialogue) ← converse setting request {}
      match outcome with
      | .ok { path, file? := some file, .. } =>
          let job : Replacement := { target := path, content := file.text }
          let (report, journal) ← carryOut job .creating none []
          let session := { session with journal := session.journal ++ journal }
          let (outcome, session) :=
            (Enrollment.conclude path report).run.run session
          finish (CommandLine.conclude request.verbose outcome session) dialogue
      | _ => finish (CommandLine.conclude request.verbose outcome session) dialogue

end OneTimePassword.Program

/-- The program. -/
def main (args : List String) : IO UInt32 := OneTimePassword.Program.run args
