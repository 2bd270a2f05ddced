/-
Module: OneTimePassword.Respondent
Purpose: Questions to the user, put on a console or answered from a script.
Main exports: Respondent, Respondent.Stop, Respondent.Reply, Respondent.askWhether,
  Respondent.askNumber, Respondent.linesOf
-/
import OneTimePassword.Text.Integer

namespace OneTimePassword

namespace Respondent

/-- Why a question has no answer. -/
inductive Stop where
  /-- The input is at its end. -/
  | aborted
  /-- The user broke off. -/
  | interrupted
  /-- The input is not complete yet. -/
  | awaited
deriving Repr, DecidableEq

/-- The wording for a question that has no answer. -/
def Stop.message : Stop → String
  | .aborted => "No answer on standard input"
  | .interrupted => ""
  | .awaited => ""

/-- The answers of a script to yes-or-no questions. -/
inductive YesNo where
  | always (answer : Bool)
  /-- One answer for each question, and no from the end of the list on. -/
  | inOrder (answers : List Bool)
deriving Repr, DecidableEq

/-- The next answer, and those behind it. -/
def YesNo.next : YesNo → Bool × YesNo
  | .always answer => (answer, .always answer)
  | .inOrder [] => (false, .inOrder [])
  | .inOrder (answer :: later) => (answer, .inOrder later)

end Respondent

/-- Who answers questions. -/
inductive Respondent where
  /-- A person at a console, by the lines that are still to be typed and the way in which they
  end. -/
  | console (lines : List String) (atEnd : Respondent.Stop)
  /-- A script, with the questions that were put to it. Where it has no more numbers it answers
  -1. -/
  | scripted (yesNo : Respondent.YesNo) (numbers : List (Option Int)) (asked : List String)
deriving Repr, DecidableEq

namespace Respondent

/-- The lines of a text. Each newline ends one, and what stands behind the last newline is a line if
it is not empty. -/
def linesOf (text : String) : List String :=
  let pieces := text.toList.splitOn '\n'
  let whole := if pieces.getLast? = some [] then pieces.dropLast else pieces
  whole.map String.ofList

/-- What became of a question: the answer or why there is none, the respondent after it, and what
was printed in the course. -/
structure Reply (α : Type) where
  outcome : Except Stop α
  respondent : Respondent
  printed : String

/-- What is printed where the input ends: the user's cursor is taken to a new line, unless the user
broke off or is still typing. -/
def closing : Stop → String
  | .aborted => "\n"
  | _ => ""

/-- Yes or no by the first character of a line. -/
def yesNo? (line : String) : Option Bool :=
  match line.toList.head? with
  | some 'y' | some 'Y' => some true
  | some 'n' | some 'N' => some false
  | _ => none

/-- Put a yes-or-no question for each line of the input until one answers it. -/
def seekAnswer (question : String) (atEnd : Stop) : List String → Reply Bool
  | [] => ⟨.error atEnd, .console [] atEnd, question ++ closing atEnd⟩
  | line :: rest =>
      match yesNo? line with
      | some answer => ⟨.ok answer, .console rest atEnd, question⟩
      | none =>
          let later := seekAnswer question atEnd rest
          { later with printed := question ++ later.printed }

/-- Ask a yes-or-no question. -/
def askWhether (message : String) : Respondent → Reply Bool
  | .console lines atEnd =>
      let reply := seekAnswer (message ++ " (y/n) ") atEnd lines
      { reply with printed := "\n" ++ reply.printed }
  | .scripted yesNo numbers asked =>
      let (answer, yesNo) := yesNo.next
      ⟨.ok answer, .scripted yesNo numbers (asked ++ [message]), ""⟩

/-- Ask for a number. The whole line but the blanks around it has to be one; for any other line the
answer is nothing. -/
def askNumber (message : String) : Respondent → Reply (Option Int)
  | .console [] atEnd => ⟨.error atEnd, .console [] atEnd, message ++ " " ++ closing atEnd⟩
  | .console (line :: rest) atEnd =>
      ⟨.ok (Text.readInteger? (Text.trim Text.isBlank line.toList)), .console rest atEnd,
        message ++ " "⟩
  | .scripted yesNo [] asked => ⟨.ok (some (-1)), .scripted yesNo [] (asked ++ [message]), ""⟩
  | .scripted yesNo (answer :: later) asked =>
      ⟨.ok answer, .scripted yesNo later (asked ++ [message]), ""⟩

/-- The numbers that can still be had before the respondent's own end. -/
def numbersLeft : Respondent → Nat
  | .console lines _ => lines.length
  | .scripted _ numbers _ => numbers.length

/-- The questions that were put to a script, in order. -/
def questions? : Respondent → Option (List String)
  | .console _ _ => none
  | .scripted _ _ asked => some asked

end Respondent

end OneTimePassword
