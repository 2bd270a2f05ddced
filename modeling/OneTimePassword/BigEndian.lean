/-
Module: OneTimePassword.BigEndian
Purpose: Numbers as bytes, most significant first.
Main exports: BigEndian.read, BigEndian.write, BigEndian.range31, BigEndian.range64
-/
import OneTimePassword.Text.Utf8

namespace OneTimePassword.BigEndian

/-- The number that bytes stand for. No bytes stand for zero. -/
def read (bytes : Bytes) : Nat := bytes.foldl (fun n byte => 256 * n + byte.toNat) 0

/-- The number of values that 31 bits can have. -/
def range31 : Nat := 0x80000000

/-- The number of values that 64 bits can have. -/
def range64 : Nat := 0x10000000000000000

/-- The lowest `width` bytes of a number. -/
def write : (width n : Nat) → Bytes
  | 0, _ => []
  | width + 1, n => write width (n / 256) ++ [UInt8.ofNat n]

@[simp] theorem length_write (width n : Nat) : (write width n).length = width := by
  induction width generalizing n with
  | zero => rfl
  | succ width ih => simp [write, ih]

end OneTimePassword.BigEndian
