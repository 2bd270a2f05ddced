/-
Module: OneTimePassword.RandomBytes
Purpose: Random bytes, handed out in exactly the number asked for or not at all.
Main exports: RandomBytes.Device, RandomBytes.Supply, RandomBytes.Error, RandomBytes.Supply.read,
  RandomBytes.Supply.close
-/
import OneTimePassword.Errno
import OneTimePassword.Text.Utf8

namespace OneTimePassword.RandomBytes

/-- What one reading of a device brings. -/
inductive Outcome where
  | bytes (data : Bytes)
  /-- Nothing is there for now. -/
  | nothing
  | fails (e : Errno)
deriving Repr, DecidableEq

/-- Where random bytes come from. -/
inductive Device where
  /-- Bytes that run out. -/
  | stream (left : Bytes) (isOpen : Bool)
  /-- A device node, which brings one byte over and over, or none at all. -/
  | node (fill : Option UInt8) (isOpen : Bool)
  /-- The outcomes of the readings to come, whatever number of bytes they ask for. Behind the last
  there is no data, and closing changes nothing. -/
  | outcomes (next : List Outcome)
deriving Repr, DecidableEq

/-- A device and the name that messages give it. -/
structure Supply where
  name : String
  device : Device
deriving Repr, DecidableEq

/-- Why there are no random bytes. -/
inductive Error where
  | cannotOpen (path : String) (e : Errno)
  | cannotRead (name : String) (e : Errno)
  | wrongCount (name : String) (wanted : Int) (got : Nat)
  /-- The stream was closed before. -/
  | closedStream
  /-- The device node was closed before. -/
  | closedNode
  /-- An endless device brings a block that is turned down, and would bring it forever. This stands
  for a run that never ends, and has no wording. -/
  | unvarying
deriving Repr, DecidableEq

/-- The wording of the error. -/
def Error.message : Error → String
  | .cannotOpen path e => "Failed to open " ++ Text.quoted path ++ ": " ++ e.messageAt path
  | .cannotRead name e => "Failed to read from " ++ Text.quoted name ++ ": " ++ e.message
  | .wrongCount name wanted got =>
      "Failed to read from " ++ Text.quoted name ++ ": wanted " ++ Text.decimal wanted ++
        " bytes, got " ++ Text.decimalNat got
  | .closedStream => "I/O operation on closed file."
  | .closedNode => "I/O operation on closed file"
  | .unvarying => ""

/-- The device that is read where nothing else is said. -/
def systemDevice : String := "/dev/urandom"

/-- How many of `left` bytes a reading of `wanted` takes. A negative number asks for all. -/
def share (wanted : Int) (left : Nat) : Nat :=
  if wanted < 0 then left else min wanted.toNat left

namespace Device

/-- What a reading of `wanted` bytes brings, and the device after it. Nothing is brought by a
device that is closed. -/
def pull (wanted : Int) : Device → Option Outcome × Device
  | .stream left true =>
      let count := share wanted left.length
      (some (.bytes (left.take count)), .stream (left.drop count) true)
  | .node fill true =>
      let data := match fill with
        | some byte => List.replicate wanted.toNat byte
        | none => []
      (some (.bytes data), .node fill true)
  | .outcomes [] => (some (.bytes []), .outcomes [])
  | .outcomes (first :: later) => (some first, .outcomes later)
  | closed => (none, closed)

/-- The device after it was closed. -/
def close : Device → Device
  | .stream left _ => .stream left false
  | .node fill _ => .node fill false
  | .outcomes next => .outcomes next

/-- The error of a reading after the closing. -/
def closedError : Device → Error
  | .stream _ _ => .closedStream
  | _ => .closedNode

/-- The readings of at least one byte that a device can still satisfy. A device node gives as many
as are asked for; they are not counted. -/
def readingsLeft : Device → Nat
  | .stream left _ => left.length
  | .node _ _ => 0
  | .outcomes next => next.length

end Device

namespace Supply

/-- Read exactly `wanted` bytes. A reading that brings another number of them is an error and is
not tried again, as a supply that runs low must not make for a weak secret. -/
def read (supply : Supply) (wanted : Int) : Except Error Bytes × Supply :=
  let (outcome, device) := supply.device.pull wanted
  let result : Except Error Bytes :=
    match outcome with
    | none => .error device.closedError
    | some (.fails e) => .error (.cannotRead supply.name e)
    | some .nothing => .error (.wrongCount supply.name wanted 0)
    | some (.bytes data) =>
        if (data.length : Int) = wanted then .ok data
        else .error (.wrongCount supply.name wanted data.length)
  (result, { supply with device })

/-- The supply after it was closed. -/
def close (supply : Supply) : Supply := { supply with device := supply.device.close }

end Supply

end OneTimePassword.RandomBytes
