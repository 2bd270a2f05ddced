/-
Module: OneTimePassword.Proofs.Text.Decimal
Purpose: The characters and the width of numbers in decimal.
Main exports: Text.length_decimalNat_le_iff, Text.head?_decimalNat_ne_zero,
  Text.newline_notMem_decimal, Text.newline_notMem_zeroPadded,
  ScratchCode.length_decimalNat_of_isAccepted, ScratchCode.display_eq_decimalNat
-/
import OneTimePassword.Proofs.Text.Integer
import OneTimePassword.ScratchCode.Basic

namespace OneTimePassword

namespace Text

theorem isAsciiDigit_of_isDigit {c : Char} (h : c.isDigit = true) : isAsciiDigit c = true := by
  simpa [isAsciiDigit, Char.isDigit, Char.le_def] using h

theorem isAsciiDigit_of_mem_decimalNat {c : Char} {n : Nat} (h : c ∈ (decimalNat n).toList) :
    isAsciiDigit c = true := isAsciiDigit_of_isDigit (isDigit_of_mem_decimalNat h)

theorem newline_notMem_decimalNat (n : Nat) : '\n' ∉ (decimalNat n).toList := by
  intro h
  have := isAsciiDigit_of_mem_decimalNat h
  simp [isAsciiDigit] at this

theorem newline_notMem_decimal (n : Int) : '\n' ∉ (decimal n).toList := by
  unfold decimal
  split
  · simp [newline_notMem_decimalNat]
  · exact newline_notMem_decimalNat _

/-- Apart from its sign, a padded number is made of digits. -/
theorem mem_zeroPadded {c : Char} {width : Nat} {n : Int} (h : c ∈ (zeroPadded width n).toList) :
    c = '-' ∨ c.isDigit = true := by
  rw [zeroPadded, String.toList_ofList, List.mem_append, List.mem_append] at h
  rcases h with (hsign | hzero) | hdigit
  · left
    split at hsign
    · exact List.mem_singleton.mp hsign
    · cases hsign
  · right
    rw [List.eq_of_mem_replicate hzero]
    rfl
  · exact .inr (Nat.isDigit_of_mem_toDigits (by decide) (by decide) hdigit)

theorem newline_notMem_zeroPadded (width : Nat) (n : Int) :
    '\n' ∉ (zeroPadded width n).toList := by
  intro h
  rcases mem_zeroPadded h with hsign | hdigit
  · exact absurd hsign (by decide)
  · exact absurd hdigit (by decide)

theorem decimal_natCast (n : Nat) : decimal n = decimalNat n := by
  simp [decimal]

theorem length_decimalNat_le_iff {n width : Nat} (h : 0 < width) :
    (decimalNat n).length ≤ width ↔ n < Nat.pow 10 width := by
  rw [decimalNat, String.length_ofList]
  exact Nat.length_toDigits_le_iff (by decide) h

/-- No zeros stand in front of a number. -/
theorem head?_decimalNat_ne_zero {n : Nat} (h : 0 < n) :
    (decimalNat n).toList.head? ≠ some '0' := by
  rw [decimalNat, String.toList_ofList]
  induction n using Nat.strongRecOn with
  | ind n ih =>
      by_cases hlt : n < 10
      · have hdigit : ∀ digit < 10, 0 < digit → digit.digitChar ≠ '0' := by decide
        rw [Nat.toDigits_of_lt_base hlt]
        simpa using hdigit n hlt h
      · have hhead := ih (n / 10) (by omega) (by omega)
        rw [List.head?_eq_some_head (List.length_pos_iff.mp Nat.length_toDigits_pos)] at hhead
        rw [Nat.toDigits_of_base_le (by decide) (by omega), List.head?_append,
          List.head?_eq_some_head (List.length_pos_iff.mp Nat.length_toDigits_pos)]
        exact hhead

/-- Greater numbers have no fewer digits. -/
theorem length_decimalNat_mono {m n : Nat} (h : m ≤ n) :
    (decimalNat m).length ≤ (decimalNat n).length := by
  have hpos : 0 < (decimalNat n).length := by
    rw [decimalNat, String.length_ofList]
    exact Nat.length_toDigits_pos
  have hn : n < Nat.pow 10 (decimalNat n).length :=
    (length_decimalNat_le_iff hpos).mp (Nat.le_refl _)
  exact (length_decimalNat_le_iff hpos).mpr (Nat.lt_of_le_of_lt h hn)

/-- A number of just as many digits as it is padded to stays as it is. -/
theorem zeroPadded_of_length_decimalNat {n width : Nat} (h : (decimalNat n).length = width) :
    zeroPadded width n = decimalNat n := by
  rw [decimalNat, String.length_ofList] at h
  simp [zeroPadded, decimalNat, h]

end Text

namespace ScratchCode

/-- The codes are the numbers of exactly eight digits. -/
theorem length_decimalNat_of_isAccepted {code : Nat} (haccepted : IsAccepted code)
    (hcode : code < modulus) : (Text.decimalNat code).length = width := by
  have hle : (Text.decimalNat code).length ≤ width :=
    (Text.length_decimalNat_le_iff (by decide)).mpr hcode
  have hgt : ¬ (Text.decimalNat code).length ≤ 7 := by
    rw [Text.length_decimalNat_le_iff (by decide)]
    exact Nat.not_lt.mpr haccepted
  simp only [width] at hle ⊢
  omega

theorem display_eq_decimalNat {code : Nat} (haccepted : IsAccepted code) (hcode : code < modulus) :
    display code = Text.decimalNat code :=
  Text.zeroPadded_of_length_decimalNat (length_decimalNat_of_isAccepted haccepted hcode)

end ScratchCode

end OneTimePassword
