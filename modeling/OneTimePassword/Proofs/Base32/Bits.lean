/-
Module: OneTimePassword.Proofs.Base32.Bits
Purpose: Numbers as bits, bits as bytes, and the bits that the characters of a text carry.
Main exports: Base32.bitsOf_ofBits, Base32.ofBits_bitsOf, Base32.bitsOf_add, Base32.bytesOf,
  Base32.byteBits, Base32.carriedBits
-/
import Mathlib.Algebra.GroupWithZero.Nat
import Mathlib.Data.List.Induction
import OneTimePassword.Proofs.Base32.Symbols

namespace OneTimePassword.Base32

variable {bits : List Bool} {raw : Bytes} {c : Char}

/-! ### Numbers and bits -/

@[simp] theorem length_bitsOf (width n : Nat) : (bitsOf width n).length = width := by
  simp [bitsOf]

/-- The lowest bit stands at the end. -/
theorem bitsOf_succ (width n : Nat) :
    bitsOf (width + 1) n = bitsOf width (n / 2) ++ [n.testBit 0] := by
  rw [bitsOf, bitsOf, List.map_reverse, List.map_reverse, List.range_succ_eq_map, List.map_cons,
    List.map_map, List.reverse_cons]
  congr 2
  apply List.map_congr_left
  intro place _
  exact Nat.testBit_succ n place

theorem ofBits_concat (bits : List Bool) (bit : Bool) :
    ofBits (bits ++ [bit]) = 2 * ofBits bits + bit.toNat := by
  simp [ofBits]

theorem ofBits_lt (bits : List Bool) : ofBits bits < 2 ^ bits.length := by
  induction bits using List.reverseRecOn with
  | nil => decide
  | append_singleton bits bit ih =>
      have hbit := bit.toNat_lt
      rw [ofBits_concat, List.length_append, List.length_singleton, Nat.pow_succ]
      omega

theorem bitsOf_ofBits (bits : List Bool) : bitsOf bits.length (ofBits bits) = bits := by
  induction bits using List.reverseRecOn with
  | nil => rfl
  | append_singleton bits bit ih =>
      have hlow : (2 * ofBits bits + bit.toNat).testBit 0 = bit := by
        cases bit with
        | false => simp [Nat.testBit_zero]
        | true => simp [Nat.testBit_zero]
      have hhigh : (2 * ofBits bits + bit.toNat) / 2 = ofBits bits := by
        have hbit := bit.toNat_lt
        omega
      rw [List.length_append, List.length_singleton, bitsOf_succ, ofBits_concat, hlow, hhigh, ih]

theorem ofBits_bitsOf (width n : Nat) : ofBits (bitsOf width n) = n % 2 ^ width := by
  induction width generalizing n with
  | zero => simp [bitsOf, ofBits, Nat.mod_one]
  | succ width ih =>
      rw [bitsOf_succ, ofBits_concat, ih, Nat.pow_succ', Nat.mod_mul, Nat.toNat_testBit]
      simp [Nat.add_comm]

/-- Bits depend on no place beyond their width. -/
theorem bitsOf_congr {width m n : Nat} (h : ∀ place < width, m.testBit place = n.testBit place) :
    bitsOf width m = bitsOf width n := by
  apply List.map_congr_left
  intro place hplace
  exact h place (List.mem_range.mp (List.mem_reverse.mp hplace))

/-- The upper bits stand in front of the lower ones. -/
theorem bitsOf_add (upper lower n : Nat) :
    bitsOf (upper + lower) n = bitsOf upper (n >>> lower) ++ bitsOf lower n := by
  induction lower generalizing n with
  | zero => exact (List.append_nil _).symm
  | succ lower ih =>
      have hshift : n >>> (lower + 1) = (n / 2) >>> lower := Nat.shiftRight_succ_inside n lower
      rw [← Nat.add_assoc, bitsOf_succ, ih, bitsOf_succ lower, hshift, List.append_assoc]

/-! ### Bits and bytes -/

/-- The whole bytes of a run of bits. What does not fill a byte is dropped. -/
def bytesOf : List Bool → Bytes
  | b₀ :: b₁ :: b₂ :: b₃ :: b₄ :: b₅ :: b₆ :: b₇ :: rest =>
      UInt8.ofNat (ofBits [b₀, b₁, b₂, b₃, b₄, b₅, b₆, b₇]) :: bytesOf rest
  | _ => []

/-- The bits of bytes, from left to right. -/
def byteBits (raw : Bytes) : List Bool := raw.flatMap fun byte => bitsOf 8 byte.toNat

/-- A byte made from a number has the number's lowest bits. -/
theorem bitsOf_ofNat_byte (n : Nat) : bitsOf 8 (UInt8.ofNat n).toNat = bitsOf 8 n := by
  apply bitsOf_congr
  intro place hplace
  rw [UInt8.toNat_ofNat', Nat.testBit_mod_two_pow, decide_eq_true hplace, Bool.true_and]

theorem bytesOf_of_length_lt (h : bits.length < 8) : bytesOf bits = [] := by
  unfold bytesOf
  split
  · simp only [List.length_cons] at h
    omega
  · rfl

theorem bytesOf_of_le_length (h : 8 ≤ bits.length) :
    bytesOf bits = UInt8.ofNat (ofBits (bits.take 8)) :: bytesOf (bits.drop 8) := by
  match bits, h with
  | _ :: _ :: _ :: _ :: _ :: _ :: _ :: _ :: _, _ => rfl

@[simp] theorem length_byteBits (raw : Bytes) : (byteBits raw).length = 8 * raw.length := by
  induction raw with
  | nil => rfl
  | cons byte rest ih =>
      rw [byteBits, List.flatMap_cons, List.length_append, length_bitsOf, ← byteBits, ih,
        List.length_cons]
      omega

theorem byteBits_concat (raw : Bytes) (byte : UInt8) :
    byteBits (raw ++ [byte]) = byteBits raw ++ bitsOf 8 byte.toNat := by
  rw [byteBits, List.flatMap_append, List.flatMap_singleton, ← byteBits]

theorem length_bytesOf (bits : List Bool) : (bytesOf bits).length = bits.length / 8 := by
  fun_induction bytesOf bits with
  | case1 b₀ b₁ b₂ b₃ b₄ b₅ b₆ b₇ rest ih =>
      simp only [List.length_cons, ih]
      omega
  | case2 bits h =>
      have hshort : bits.length < 8 := by
        match bits with
        | [] | [_] | [_, _] | [_, _, _] | [_, _, _, _] | [_, _, _, _, _] | [_, _, _, _, _, _]
        | [_, _, _, _, _, _, _] => simp
        | b₀ :: b₁ :: b₂ :: b₃ :: b₄ :: b₅ :: b₆ :: b₇ :: rest =>
            exact (h b₀ b₁ b₂ b₃ b₄ b₅ b₆ b₇ rest rfl).elim
      simp [Nat.div_eq_of_lt hshort]

/-- Whole bytes come back from their bits, in front of those that further bits fill. -/
theorem bytesOf_byteBits_append (raw : Bytes) (bits : List Bool) :
    bytesOf (byteBits raw ++ bits) = raw ++ bytesOf bits := by
  induction raw with
  | nil => rfl
  | cons byte rest ih =>
      have hbyte : UInt8.ofNat (ofBits (bitsOf 8 byte.toNat)) = byte := by
        rw [ofBits_bitsOf, Nat.mod_eq_of_lt byte.toNat_lt, UInt8.ofNat_toNat]
      have hsplit : byteBits (byte :: rest) ++ bits =
          bitsOf 8 byte.toNat ++ (byteBits rest ++ bits) := by
        rw [byteBits, List.flatMap_cons, List.append_assoc, ← byteBits]
      have hlength := length_bitsOf 8 byte.toNat
      rw [hsplit, bytesOf_of_le_length (by simp), List.take_left' hlength, List.drop_left' hlength,
        hbyte, ih, List.cons_append]

/-- The bits of whole bytes are the bits that were there, up to the last whole byte. -/
theorem byteBits_bytesOf (bits : List Bool) :
    byteBits (bytesOf bits) = bits.take (8 * (bits.length / 8)) := by
  induction hlength : bits.length / 8 generalizing bits with
  | zero =>
      rw [bytesOf_of_length_lt (by omega)]
      rfl
  | succ count ih =>
      have hbyte : bitsOf 8 (UInt8.ofNat (ofBits (bits.take 8))).toNat = bits.take 8 := by
        have htake : (bits.take 8).length = 8 := by
          rw [List.length_take]
          omega
        have hbits := bitsOf_ofBits (bits.take 8)
        rw [htake] at hbits
        rw [bitsOf_ofNat_byte, hbits]
      have hrest := ih (bits.drop 8) (by rw [List.length_drop]; omega)
      rw [bytesOf_of_le_length (by omega), byteBits, List.flatMap_cons, ← byteBits, hrest, hbyte,
        Nat.mul_succ, Nat.add_comm, List.take_add]

/-! ### The bits of a text -/

/-- The bits that characters carry, five to a symbol in either case. Characters that are no symbols
carry none. -/
def carriedBits (text : List Char) : List Bool :=
  text.flatMap fun c =>
    match value? c with
    | some value => bitsOf bitsPerSymbol value
    | none => []

theorem carriedBits_append (front rest : List Char) :
    carriedBits (front ++ rest) = carriedBits front ++ carriedBits rest := List.flatMap_append

theorem length_carriedBits_singleton_le (c : Char) :
    (carriedBits [c]).length ≤ bitsPerSymbol := by
  rw [carriedBits, List.flatMap_singleton]
  split
  · exact Nat.le_of_eq (length_bitsOf _ _)
  · exact Nat.zero_le _

theorem length_carriedBits_le (text : List Char) :
    (carriedBits text).length ≤ 5 * text.length := by
  induction text with
  | nil => exact Nat.le_refl 0
  | cons c rest ih =>
      have hfirst := length_carriedBits_singleton_le c
      rw [bitsPerSymbol] at hfirst
      rw [← List.singleton_append, carriedBits_append, List.length_append, List.length_append,
        List.length_singleton]
      omega

/-- A separator has no value. -/
theorem value?_of_isSeparator (h : isSeparator c = true) : value? c = none := by
  simp only [isSeparator, decide_eq_true_eq, List.mem_cons, List.not_mem_nil, or_false] at h
  rcases h with rfl | rfl | rfl | rfl | rfl | rfl <;> decide

end OneTimePassword.Base32
