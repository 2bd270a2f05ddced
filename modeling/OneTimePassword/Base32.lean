/-
Module: OneTimePassword.Base32
Purpose: Secrets as Base32 text, written without padding and read as people type them.
Main exports: Base32.Error, Base32.encode, Base32.Reading, Base32.decodeAtMost, Base32.decode,
  Base32.key
-/
import OneTimePassword.Text.Capital
import OneTimePassword.Text.Integer
import OneTimePassword.Text.Quoted
import OneTimePassword.Text.Utf8

namespace OneTimePassword.Base32

/-- Why a text is no secret. -/
inductive Error where
  /-- A character that is neither a symbol nor a separator. -/
  | foreignCharacter (c : Char)
  /-- The text is empty, or so long that it could decode to too many bytes. -/
  | unusableLength (bound : Nat)
  /-- The text has separators only, or one symbol besides. -/
  | noKeyMaterial
deriving Repr, DecidableEq

/-- The wording of the error. -/
def Error.message : Error → String
  | .foreignCharacter c => "Invalid Base32 character " ++ Text.quoted (String.singleton c)
  | .unusableLength bound =>
      "Base32 secret too long or empty (estimated " ++ Text.decimalNat bound ++ " bytes)"
  | .noKeyMaterial => "Base32 secret contains no key material"

/-- The 32 symbols in the order of their values. -/
def alphabet : List Char := "ABCDEFGHIJKLMNOPQRSTUVWXYZ234567".toList

/-- The bits that one symbol carries. -/
def bitsPerSymbol : Nat := 5

/-- The `width` lowest bits of a number, most significant first. -/
def bitsOf (width n : Nat) : List Bool :=
  (List.range width).reverse.map fun place => n.testBit place

/-- The number that bits stand for, most significant first. -/
def ofBits (bits : List Bool) : Nat := bits.foldl (fun n bit => 2 * n + bit.toNat) 0

/-- The symbol for a value below 32. -/
def symbol (value : Nat) : Char := alphabet.getD value 'A'

/-- Write bits as symbols, five to a symbol. Zeros fill up the last group. -/
def symbols : List Bool → List Char
  | b₀ :: b₁ :: b₂ :: b₃ :: b₄ :: rest => symbol (ofBits [b₀, b₁, b₂, b₃, b₄]) :: symbols rest
  | [] => []
  | bits => [symbol (ofBits (bits ++ List.replicate (bitsPerSymbol - bits.length) false))]

/-- Write bytes as symbols, as few as hold their bits. -/
def encode (raw : Bytes) : String :=
  String.ofList (symbols (raw.flatMap fun byte => bitsOf 8 byte.toNat))

/-- Characters that may stand anywhere and carry nothing. -/
def isSeparator (c : Char) : Bool := c ∈ [' ', '\t', '\r', '\n', '-', '=']

/-- The value of a symbol in either case. What counts is the capital, so the dotless i and the long
s are read as `I` and `S`. -/
def value? (c : Char) : Option Nat :=
  match Text.capital c with
  | [capital] => alphabet.findIdx? (· == capital)
  | _ => none

/-- A text as far as it is read: the bytes that are complete, and a register whose lowest `pending`
bits belong to the byte that is begun. The bits above them stand in a byte already. -/
structure Reading where
  bytes : Array UInt8
  register : Nat
  pending : Nat
  pending_lt : pending < 8
deriving Repr, DecidableEq

/-- Nothing is read yet. -/
def Reading.start : Reading :=
  { bytes := #[], register := 0, pending := 0, pending_lt := Nat.zero_lt_succ 7 }

/-- The bits that a register keeps: the lowest sixteen. -/
def registerMask : Nat := 0xffff

/-- Read one more value. Its bits are shifted into the register, and once eight are pending a byte
is taken from their upper end. -/
def Reading.push (reading : Reading) (value : Nat) : Reading :=
  let register := (reading.register <<< bitsPerSymbol ||| value) &&& registerMask
  let pending := reading.pending + bitsPerSymbol
  if h : pending < 8 then
    { bytes := reading.bytes, register, pending, pending_lt := h }
  else
    { bytes := reading.bytes.push (UInt8.ofNat (register >>> (pending - 8)))
      register
      pending := pending - 8
      pending_lt := by
        have := reading.pending_lt
        simp only [pending, bitsPerSymbol]
        omega }

/-- Read one more character. -/
def Reading.next (reading : Reading) (c : Char) : Except Error Reading :=
  if isSeparator c then .ok reading
  else
    match value? c with
    | none => .error (.foreignCharacter c)
    | some value => .ok (reading.push value)

/-- Read on until `limit` bytes are complete or the text ends. Text behind the last byte wanted is
not looked at. -/
def Reading.follow (limit : Int) : Reading → List Char → Except Error Reading
  | reading, [] => .ok reading
  | reading, c :: rest =>
      if limit ≤ reading.bytes.size then .ok reading
      else do
        let reading ← reading.next c
        reading.follow limit rest

/-- The first `limit` bytes that a text decodes to, none for a limit below zero. Bits that do not
fill a byte are dropped. -/
def decodeAtMost (limit : Int) (text : String) : Except Error Bytes := do
  let reading ← Reading.start.follow limit text.toList
  pure reading.bytes.toList

/-- A bound on the bytes that a text can decode to: five for each eight characters begun. -/
def decodedBound (text : String) : Nat := (text.length + 7) / 8 * 5

/-- The bytes that a text decodes to. -/
def decode (text : String) : Except Error Bytes := decodeAtMost (decodedBound text) text

/-- The most bytes that a key may be estimated at. -/
def maxKeyLength : Nat := 100

/-- The key that a secret stands for. It has at least one byte, and no text of an estimated length
above `maxKeyLength` is read. -/
def key (secret : String) : Except Error Bytes := do
  let bound := decodedBound secret
  if bound = 0 || maxKeyLength < bound then
    throw (.unusableLength bound)
  match ← decodeAtMost bound secret with
  | [] => throw .noKeyMaterial
  | bytes => pure bytes

end OneTimePassword.Base32
