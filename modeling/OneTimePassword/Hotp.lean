/-
Module: OneTimePassword.Hotp
Purpose: Counter-based one-time passwords.
Main exports: Hotp.challenge, Hotp.truncated, Hotp.truncated?, Hotp.code, Hotp.codeOfSecret,
  Hotp.display
-/
import OneTimePassword.Base32
import OneTimePassword.Hmac

namespace OneTimePassword.Hotp

/-- Why there is no code. -/
inductive Error where
  /-- The counter is negative or takes more than 64 bits. -/
  | counterOutOfRange
  /-- The secret holds no key. -/
  | secret (error : Base32.Error)
  /-- There is nothing to truncate. -/
  | emptyDigest
deriving Repr, DecidableEq

/-- The wording of the error. -/
def Error.message : Error → String
  | .counterOutOfRange => "int too large to convert"
  | .secret error => error.message
  | .emptyDigest => "index out of range"

/-- Codes are below this number, so six digits hold them. -/
def modulus : Nat := 1000000

/-- The digits that a code is shown with. -/
def codeWidth : Nat := 6

/-- The counter as the eight bytes that the key signs. -/
def challenge (counter : Int) : Except Error Bytes :=
  if 0 ≤ counter ∧ counter < BigEndian.range64 then .ok (BigEndian.write 8 counter.toNat)
  else .error .counterOutOfRange

/-- Dynamic truncation: the low four bits of the last byte say where four bytes are taken, and of
these the top bit is cleared. Fewer than four are taken where the digest ends. -/
def truncated (digest : Bytes) : Nat :=
  let offset := (digest.getLastD 0).toNat % 16
  BigEndian.read ((digest.drop offset).take 4) % BigEndian.range31

/-- Dynamic truncation of a digest that may be empty. -/
def truncated? (digest : Bytes) : Except Error Nat :=
  if digest.isEmpty then .error .emptyDigest else .ok (truncated digest)

/-- The code of a key at a counter. -/
def code (key : Bytes) (counter : Int) : Except Error Nat :=
  (challenge counter).map fun bytes => truncated (Hmac.sha1 key bytes) % modulus

/-- The code of a secret at a counter. -/
def codeOfSecret (secret : String) (counter : Int) : Except Error Nat :=
  match Base32.key secret with
  | .error error => .error (.secret error)
  | .ok key => code key counter

/-- A code as it is shown. -/
def display (code : Int) : String := Text.zeroPadded codeWidth code

theorem code_lt_modulus {key : Bytes} {counter : Int} {value : Nat}
    (h : code key counter = .ok value) : value < modulus := by
  cases hc : challenge counter with
  | error => simp [code, hc, Except.map] at h
  | ok bytes =>
      simp only [code, hc, Except.map, Except.ok.injEq] at h
      exact h ▸ Nat.mod_lt _ (by decide)

end OneTimePassword.Hotp
