/-
Module: OneTimePassword.Proofs.Hotp
Purpose: The code of a key at a counter, byte by byte, and how it is shown.
Main exports: Hotp.truncated_eq, Hotp.display_readable, Hotp.code_eq_rfc4226
-/
import Mathlib.Algebra.Group.Int.Defs
import Mathlib.Algebra.GroupWithZero.Nat
import OneTimePassword.Hotp
import OneTimePassword.Proofs.Text.Integer

namespace OneTimePassword

/-- Each byte of a number is one of its digits to the base 256. -/
theorem BigEndian.write_eq_map (width n : Nat) :
    write width n =
      (List.range width).map fun place => UInt8.ofNat (n / 256 ^ (width - 1 - place)) := by
  induction width generalizing n with
  | zero => rfl
  | succ width ih =>
      rw [write, ih, List.range_succ, List.map_append, List.map_singleton, Nat.add_sub_cancel,
        Nat.sub_self, Nat.pow_zero, Nat.div_one]
      congr 1
      apply List.map_congr_left
      intro place hplace
      have hlt := List.mem_range.mp hplace
      have hexponent : width - place = width - 1 - place + 1 := by omega
      rw [Nat.div_div_eq_div_mul, hexponent, Nat.pow_succ']

namespace Hotp

variable {digest : Bytes} {offset : Nat} {value : Nat}

/-! ### Truncation -/

/-- The four bytes from a place inside the digest. -/
theorem drop_take_four (inside : offset + 3 < digest.length) :
    (digest.drop offset).take 4 =
      [digest[offset], digest[offset + 1], digest[offset + 2], digest[offset + 3]] := by
  rw [List.drop_eq_getElem_cons (by omega), List.drop_eq_getElem_cons (by omega),
    List.drop_eq_getElem_cons (by omega), List.drop_eq_getElem_cons (by omega)]
  rfl

/-- Four bytes without their top bit. -/
theorem read_four (b₀ b₁ b₂ b₃ : UInt8) :
    BigEndian.read [b₀, b₁, b₂, b₃] % BigEndian.range31 =
      b₀.toNat % 128 * 2 ^ 24 + b₁.toNat * 2 ^ 16 + b₂.toNat * 2 ^ 8 + b₃.toNat := by
  have h₁ := b₁.toNat_lt
  have h₂ := b₂.toNat_lt
  have h₃ := b₃.toNat_lt
  rw [BigEndian.read, BigEndian.range31, List.foldl_cons, List.foldl_cons, List.foldl_cons,
    List.foldl_cons, List.foldl_nil]
  omega

/-- A digest of twenty bytes has four of them from wherever its last one points to. -/
theorem truncated_eq {last : UInt8} (hlength : digest.length = Sha1.digestLength)
    (hlast : digest.getLast? = some last) (hoffset : offset = last.toNat % 16) :
    ∃ inside : offset + 3 < digest.length,
      truncated digest =
        digest[offset].toNat % 128 * 2 ^ 24 + digest[offset + 1].toNat * 2 ^ 16 +
          digest[offset + 2].toNat * 2 ^ 8 + digest[offset + 3].toNat := by
  have inside : offset + 3 < digest.length := by
    rw [hlength, hoffset, Sha1.digestLength]
    omega
  have hpointed : (digest.getLastD 0).toNat % 16 = offset := by
    rw [List.getLastD_eq_getLast?, hlast, hoffset]
    rfl
  refine ⟨inside, ?_⟩
  rw [truncated, hpointed, drop_take_four inside, read_four]

/-! ### Display -/

/-- Codes are shown in six digits, from which they are read back. -/
theorem display_readable (h : value < modulus) :
    (display value).length = 6 ∧
      (∀ c ∈ (display value).toList, c.isDigit = true) ∧
      Text.readInteger? (display value).toList = some (value : Int) := by
  have hdigits : (Nat.toDigits 10 value).length ≤ codeWidth :=
    (Nat.length_toDigits_le_iff (by decide) (by decide)).mpr h
  have hlength : (display value).length = 6 := by
    rw [display, Text.length_zeroPadded]
    exact Nat.max_eq_left hdigits
  refine ⟨hlength, fun _ => Text.isDigit_of_mem_zeroPadded, ?_⟩
  apply Text.readInteger?_zeroPadded
  rw [← display, hlength]
  decide

/-! ### Codes -/

theorem range64_eq : (BigEndian.range64 : Int) = 2 ^ 64 := rfl

theorem challenge_of_range {counter : Int} (h : 0 ≤ counter ∧ counter < 2 ^ 64) :
    challenge counter =
      .ok ((List.range 8).map fun place => UInt8.ofNat (counter.toNat / 256 ^ (7 - place))) := by
  rw [challenge, range64_eq, if_pos h, BigEndian.write_eq_map]

theorem challenge_of_not_range {counter : Int} (h : ¬ (0 ≤ counter ∧ counter < 2 ^ 64)) :
    challenge counter = .error .counterOutOfRange := by
  rw [challenge, range64_eq, if_neg h]

/-- A counter of 64 bits has a code for every key, and no other counter has one. The counter's eight
bytes are signed with the key; the low four bits of the last byte of the signature say where four
bytes are taken, and the code is what these stand for without their top bit, in six digits. -/
theorem code_eq_rfc4226 (key : Bytes) (counter : Int) :
    (0 ≤ counter ∧ counter < 2 ^ 64 →
      ∃ message last offset value,
        message = (List.range 8).map (fun place =>
          UInt8.ofNat (counter.toNat / 256 ^ (7 - place))) ∧
        (Hmac.sha1 key message).getLast? = some last ∧ offset = last.toNat % 16 ∧
        (∃ inside : offset + 3 < (Hmac.sha1 key message).length,
          value =
            ((Hmac.sha1 key message)[offset].toNat % 128 * 2 ^ 24 +
              (Hmac.sha1 key message)[offset + 1].toNat * 2 ^ 16 +
              (Hmac.sha1 key message)[offset + 2].toNat * 2 ^ 8 +
              (Hmac.sha1 key message)[offset + 3].toNat) % 10 ^ 6) ∧
        code key counter = .ok value ∧ value ≤ 999999 ∧
        (display value).length = 6 ∧ (∀ c ∈ (display value).toList, c.isDigit = true) ∧
        Text.readInteger? (display value).toList = some (value : Int)) ∧
    (¬ (0 ≤ counter ∧ counter < 2 ^ 64) → code key counter = .error .counterOutOfRange) := by
  constructor
  · intro hrange
    have hchallenge := challenge_of_range hrange
    generalize (List.range 8).map (fun place =>
      UInt8.ofNat (counter.toNat / 256 ^ (7 - place))) = message at hchallenge
    have hlength := Hmac.length_sha1 key message
    obtain ⟨last, hlast⟩ : ∃ last, (Hmac.sha1 key message).getLast? = some last := by
      apply Option.isSome_iff_exists.mp
      apply List.getLast?_isSome.mpr
      intro h
      rw [h] at hlength
      cases hlength
    obtain ⟨inside, htruncated⟩ := truncated_eq hlength hlast rfl
    have hcode : code key counter = .ok (truncated (Hmac.sha1 key message) % modulus) := by
      rw [code, hchallenge]
      rfl
    have hlt : truncated (Hmac.sha1 key message) % modulus < modulus := Nat.mod_lt _ (by decide)
    refine ⟨message, last, _, _, rfl, hlast, rfl, ⟨inside, ?_⟩, hcode, Nat.le_of_lt_succ hlt,
      display_readable hlt⟩
    rw [htruncated]
    rfl
  · intro hrange
    rw [code, challenge_of_not_range hrange]
    rfl

/-- The first published code: four bytes from the start of the digest, whose top bit is one. -/
theorem code_eq_rfc4226_of_published_key :
    let key : Bytes := "12345678901234567890".toList.map fun c => UInt8.ofNat c.toNat
    (0 ≤ (0 : Int) ∧ (0 : Int) < 2 ^ 64) ∧
      ∃ value, code key 0 = .ok value ∧ value = 755224 ∧ (display value).length = 6 ∧
        Text.readInteger? (display value).toList = some 755224 := by
  intro key
  have hrange : 0 ≤ (0 : Int) ∧ (0 : Int) < 2 ^ 64 := by decide
  obtain ⟨-, -, -, value, -, -, -, -, hcode, -, hlength, -, hread⟩ :=
    (code_eq_rfc4226 key 0).1 hrange
  have hvalue : (code key 0).toOption = some 755224 := by decide +kernel
  obtain rfl : value = 755224 := by
    rw [hcode] at hvalue
    exact Option.some.inj hvalue
  exact ⟨hrange, _, hcode, rfl, hlength, hread⟩

end Hotp

end OneTimePassword
