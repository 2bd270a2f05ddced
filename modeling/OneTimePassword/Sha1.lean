/-
Module: OneTimePassword.Sha1
Purpose: The SHA-1 digest of a byte string.
Main exports: Sha1.digest, Sha1.length_digest
-/
import OneTimePassword.BigEndian

namespace OneTimePassword.Sha1

/-- The bytes that the compression takes at a time. -/
def blockLength : Nat := 64

/-- The bytes of a digest. -/
def digestLength : Nat := 20

/-- The five chaining words. -/
structure State where
  a : UInt32
  b : UInt32
  c : UInt32
  d : UInt32
  e : UInt32
deriving Repr, DecidableEq

/-- The chaining words before the first block. -/
def State.start : State :=
  { a := 0x67452301, b := 0xefcdab89, c := 0x98badcfe, d := 0x10325476, e := 0xc3d2e1f0 }

/-- Word by word addition modulo 2 ^ 32. -/
def State.add (s t : State) : State :=
  { a := s.a + t.a, b := s.b + t.b, c := s.c + t.c, d := s.d + t.d, e := s.e + t.e }

/-- The chaining words as bytes. -/
def State.toBytes (s : State) : Bytes :=
  [s.a, s.b, s.c, s.d, s.e].flatMap fun word => BigEndian.write 4 word.toNat

/-- Rotate a word to the left. -/
def rotate (places : UInt32) (word : UInt32) : UInt32 :=
  (word <<< places) ||| (word >>> (32 - places))

/-- The message with a one bit, zeros up to eight bytes short of a whole block, and its length in
bits. -/
def padded (message : Bytes) : Bytes :=
  let zeros := (119 - message.length % blockLength) % blockLength
  message ++ 0x80 :: (List.replicate zeros 0 ++ BigEndian.write 8 (8 * message.length))

/-- Four bytes to the word. -/
def words : Bytes → List UInt32
  | b₀ :: b₁ :: b₂ :: b₃ :: rest => UInt32.ofNat (BigEndian.read [b₀, b₁, b₂, b₃]) :: words rest
  | _ => []

/-- Blocks of sixteen words. -/
def blocks (ws : List UInt32) : List (List UInt32) :=
  (List.range (ws.length / 16)).map fun i => (ws.drop (16 * i)).take 16

/-- Put `n` further words in front of a list that has the newest word first. -/
def extend : Nat → List UInt32 → List UInt32
  | 0, newest => newest
  | n + 1, newest =>
      let word i := newest.getD i 0
      extend n (rotate 1 (word 2 ^^^ word 7 ^^^ word 13 ^^^ word 15) :: newest)

/-- The eighty words that a block is worked through with. -/
def schedule (block : List UInt32) : List UInt32 := (extend 64 block.reverse).reverse

/-- The function and the constant of a round. -/
def mixing (round : Nat) (s : State) : UInt32 × UInt32 :=
  if round < 20 then ((s.b &&& s.c) ||| (~~~s.b &&& s.d), 0x5a827999)
  else if round < 40 then (s.b ^^^ s.c ^^^ s.d, 0x6ed9eba1)
  else if round < 60 then ((s.b &&& s.c) ||| (s.b &&& s.d) ||| (s.c &&& s.d), 0x8f1bbcdc)
  else (s.b ^^^ s.c ^^^ s.d, 0xca62c1d6)

/-- One round. -/
def State.round (s : State) (word : UInt32 × Nat) : State :=
  let (f, k) := mixing word.2 s
  { a := rotate 5 s.a + f + s.e + k + word.1, b := s.a, c := rotate 30 s.b, d := s.c, e := s.d }

/-- Work one block into the chaining words. -/
def State.compress (s : State) (block : List UInt32) : State :=
  s.add ((schedule block).zipIdx.foldl State.round s)

/-- The digest of a message. -/
def digest (message : Bytes) : Bytes :=
  ((blocks (words (padded message))).foldl State.compress State.start).toBytes

@[simp] theorem length_digest (message : Bytes) : (digest message).length = digestLength := by
  simp [digest, State.toBytes, digestLength]

end OneTimePassword.Sha1
