/-
Module: OneTimePassword.Errno
Purpose: The causes for which the operating system refuses a call.
Main exports: Errno, Errno.number, Errno.description, Errno.ofNumber, Errno.message, Errno.messageAt
-/
import OneTimePassword.Text.Integer
import OneTimePassword.Text.Quoted

namespace OneTimePassword

/-- The error codes of system calls. -/
inductive Errno where
  | notPermitted
  | notFound
  | inputOutput
  | tryAgain
  | accessDenied
  | exists
  | crossDevice
  | notDirectory
  | isDirectory
  | noSpace
  | readOnly
  | busy
  | nameTooLong
  | tooManyLinks
  | other (number : Nat) (description : String)
deriving Repr, DecidableEq

namespace Errno

/-- The number of a code. -/
def number : Errno → Nat
  | .notPermitted => 1
  | .notFound => 2
  | .inputOutput => 5
  | .tryAgain => 11
  | .accessDenied => 13
  | .busy => 16
  | .exists => 17
  | .crossDevice => 18
  | .notDirectory => 20
  | .isDirectory => 21
  | .noSpace => 28
  | .readOnly => 30
  | .nameTooLong => 36
  | .tooManyLinks => 40
  | .other number _ => number

/-- What a code means, in the words of the system. -/
def description : Errno → String
  | .notPermitted => "Operation not permitted"
  | .notFound => "No such file or directory"
  | .inputOutput => "Input/output error"
  | .tryAgain => "Resource temporarily unavailable"
  | .accessDenied => "Permission denied"
  | .busy => "Device or resource busy"
  | .exists => "File exists"
  | .crossDevice => "Invalid cross-device link"
  | .notDirectory => "Not a directory"
  | .isDirectory => "Is a directory"
  | .noSpace => "No space left on device"
  | .readOnly => "Read-only file system"
  | .nameTooLong => "File name too long"
  | .tooManyLinks => "Too many levels of symbolic links"
  | .other _ description => description

/-- The codes that have a name here. -/
def known : List Errno :=
  [.notPermitted, .notFound, .inputOutput, .tryAgain, .accessDenied, .busy, .exists, .crossDevice,
    .notDirectory, .isDirectory, .noSpace, .readOnly, .nameTooLong, .tooManyLinks]

/-- The code of a number, with a description in case that it has no name here. -/
def ofNumber (number : Nat) (description : String) : Errno :=
  (known.find? (·.number == number)).getD (.other number description)

/-- The report of a call that names no file. -/
def message (e : Errno) : String :=
  "[Errno " ++ Text.decimalNat e.number ++ "] " ++ e.description

/-- The report of a call on a file. -/
def messageAt (e : Errno) (path : String) : String := e.message ++ ": " ++ Text.quoted path

end Errno

end OneTimePassword
