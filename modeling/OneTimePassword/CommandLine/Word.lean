/-
Module: OneTimePassword.CommandLine.Word
Purpose: The words of a command line, told apart before any of them takes effect.
Main exports: CommandLine.Word, CommandLine.Word.read, CommandLine.wordsOf
-/
import OneTimePassword.CommandLine.UsageError
import OneTimePassword.Text.Digit

namespace OneTimePassword.CommandLine

/-- What a word of the command line is. -/
inductive Word where
  /-- A word that can be the value of the switch before it. -/
  | plain (text : String)
  /-- A switch by its full name, perhaps with a value or more switches attached. -/
  | switch (switch : Switch) (name : String) (attached? : Option String)
  /-- A word that can be nothing: it looks like a switch and is none, or the words were over
  before. -/
  | stray (text : String)
deriving Repr, DecidableEq

/-- The word behind which there are no switches any more. -/
def terminator : String := "--"

namespace Word

/-- A text cut at its first equals sign. -/
def splitAtEquals (text : List Char) : List Char × Option (List Char) :=
  match text.dropWhile (· ≠ '=') with
  | [] => (text, none)
  | _ :: value => (text.takeWhile (· ≠ '='), some value)

/-- Whether decimal digits follow, in any number from `least` on. -/
def areDigits (least : Nat) (text : List Char) : Bool :=
  least ≤ text.length && text.all fun c => (Text.digitValue? c).isSome

/-- Whether a text is a negative number: a minus sign, then digits, or a point with digits behind
it and perhaps before. A newline may end it. -/
def isNegativeNumber : List Char → Bool
  | '-' :: text =>
      let text := if text.getLast? = some '\n' then text.dropLast else text
      areDigits 1 text ||
        match text.dropWhile (· ≠ '.') with
        | [] => false
        | _ :: fraction => areDigits 0 (text.takeWhile (· ≠ '.')) && areDigits 1 fraction
  | _ => false

/-- The switches that a word can mean which is no exact name. A long name may be cut short, with a
value behind an equals sign. A short name may be followed at once by its value or by further
switches. -/
def candidates (text : List Char) : List (Switch × String × Option String) :=
  match text with
  | '-' :: '-' :: _ =>
      let (start, value?) := splitAtEquals text
      (Switch.named.filter fun (name, _) => start.isPrefixOf name.toList).map
        fun (name, found) => (found, name, value?.map String.ofList)
  | _ =>
      (Switch.named.filter fun (name, _) => name.toList = text.take 2).map
        fun (name, found) => (found, name, some (String.ofList (text.drop 2)))

/-- A word that starts with a dash, is longer than that and is no exact name. Negative numbers and
words with a blank in them are never switches by mistake. -/
def readInexact (word : String) : Except UsageError Word :=
  match candidates word.toList with
  | [] =>
      .ok (if isNegativeNumber word.toList || word.contains ' ' then .plain word else .stray word)
  | [(found, name, attached?)] => .ok (.switch found name attached?)
  | several => .error (.ambiguous word (several.map fun (_, name, _) => name))

/-- Tell what a word is. -/
def read (word : String) : Except UsageError Word :=
  if word.toList.head? ≠ some '-' then .ok (.plain word)
  else
    match Switch.ofName? word with
    | some found => .ok (.switch found word none)
    | none =>
        if word = "-" then .ok (.plain word)
        else
          match splitAtEquals word.toList with
          | (name, some value) =>
              match Switch.ofName? (String.ofList name) with
              | some found =>
                  .ok (.switch found (String.ofList name) (some (String.ofList value)))
              | none => readInexact word
          | (_, none) => readInexact word

end Word

/-- Tell what the words of a command line are. From the terminator on they are nothing. -/
def wordsOf : List String → Except UsageError (List Word)
  | [] => .ok []
  | word :: rest =>
      if word = terminator then .ok ((word :: rest).map .stray)
      else do
        let first ← Word.read word
        let later ← wordsOf rest
        pure (first :: later)

end OneTimePassword.CommandLine
