/-
Module: OneTimePassword.Proofs.Text.Integer
Purpose: Numbers that are written in decimal digits are read back.
Main exports: Text.readInteger?_decimal, Text.readNatural?_of_isDigit, Text.readInteger?_of_isDigit,
  Text.length_zeroPadded, Text.readInteger?_zeroPadded, Text.isDigit_of_mem_decimalNat,
  Text.trim_isBlank_decimal
-/
import OneTimePassword.Text.Integer

namespace OneTimePassword.Text

variable {c : Char} {s : List Char}

/-! ### Digits -/

theorem isDigit_iff : c.isDigit = true ↔ 48 ≤ c.toNat ∧ c.toNat ≤ 57 := by
  simp only [Char.isDigit, Bool.and_eq_true, decide_eq_true_eq, ge_iff_le, UInt32.le_iff_toNat_le]
  exact Iff.rfl

theorem digitValue?_of_isDigit (h : c.isDigit = true) :
    digitValue? c = some (c.toNat - '0'.toNat) := by
  obtain ⟨hleast, hgreatest⟩ := isDigit_iff.mp h
  have hzeros : digitZeros = 0x30 :: digitZeros.tail := rfl
  rw [digitValue?, hzeros, List.find?_cons_of_pos]
  · rfl
  · rw [Bool.and_eq_true, decide_eq_true_eq, decide_eq_true_eq]
    exact ⟨hleast, Nat.lt_succ_of_le hgreatest⟩

theorem ne_underscore_of_isDigit (h : c.isDigit = true) : c ≠ '_' := by
  rintro rfl
  exact absurd h (by decide)

theorem isBlank_of_isDigit (h : c.isDigit = true) : isBlank c = false := by
  obtain ⟨hleast, hgreatest⟩ := isDigit_iff.mp h
  simp [isBlank, isInformationSeparator]
  omega

theorem isMargin_of_isDigit (h : c.isDigit = true) : isMargin c = false := by
  rw [isMargin, isBlank_of_isDigit h, Bool.false_and]

/-- Digits alone are read one by one. -/
theorem readDigits?_of_isDigit (hnil : s ≠ []) (h : ∀ c ∈ s, c.isDigit = true) :
    readDigits? s = some (s.map fun c => c.toNat - '0'.toNat) := by
  induction s with
  | nil => exact absurd rfl hnil
  | cons c rest ih =>
      have hc := digitValue?_of_isDigit (h c List.mem_cons_self)
      cases rest with
      | nil =>
          rw [readDigits?, hc]
          rfl
      | cons next later =>
          have hlater : ∀ other ∈ next :: later, other.isDigit = true :=
            fun other hother => h other (List.mem_cons_of_mem _ hother)
          have hnext := ne_underscore_of_isDigit (hlater next List.mem_cons_self)
          have hread := ih (List.cons_ne_nil _ _) hlater
          rw [readDigits?, hc, hread]
          · rfl
          · simp
          · rintro rest' ⟨rfl, -⟩
            exact hnext rfl

theorem readNatural?_of_isDigit (hnil : s ≠ []) (h : ∀ c ∈ s, c.isDigit = true)
    (hlength : s.length ≤ maxIntegerDigits) :
    readNatural? s = some (Nat.ofDigitChars 10 s 0) := by
  have hdigits : ofDigits (s.map fun c => c.toNat - '0'.toNat) = Nat.ofDigitChars 10 s 0 := by
    rw [ofDigits, List.foldl_map, Nat.ofDigitChars_eq_foldl]
  rw [readNatural?, readDigits?_of_isDigit hnil h, ← hdigits]
  simp [hlength]

/-! ### Whole numbers -/

theorem trim_of_forall {p : Char → Bool} (h : ∀ c ∈ s, p c = false) : trim p s = s := by
  have hfront : s.dropWhile p = s := by
    cases s with
    | nil => rfl
    | cons c rest => exact List.dropWhile_cons_of_neg (by simp [h c List.mem_cons_self])
  have hback : s.reverse.dropWhile p = s.reverse := by
    cases hreverse : s.reverse with
    | nil => rfl
    | cons c rest =>
        have hc : c ∈ s := List.mem_reverse.mp (hreverse ▸ List.mem_cons_self)
        exact List.dropWhile_cons_of_neg (by simp [h c hc])
  rw [trim, hfront, hback, List.reverse_reverse]

/-- Digits without a sign are a number. -/
theorem readInteger?_of_isDigit (hnil : s ≠ []) (h : ∀ c ∈ s, c.isDigit = true)
    (hlength : s.length ≤ maxIntegerDigits) :
    readInteger? s = some (Nat.ofDigitChars 10 s 0 : Int) := by
  have hread := readNatural?_of_isDigit hnil h hlength
  rw [readInteger?, trim_of_forall fun c hc => isMargin_of_isDigit (h c hc)]
  cases s with
  | nil => exact absurd rfl hnil
  | cons c rest =>
      have hc := h c List.mem_cons_self
      split
      · rename_i hplus
        obtain ⟨rfl, -⟩ := List.cons.inj hplus
        exact absurd hc (by decide)
      · rename_i hminus
        obtain ⟨rfl, -⟩ := List.cons.inj hminus
        exact absurd hc (by decide)
      · rw [hread]
        rfl

/-! ### Numbers of a least width -/

variable {width n : Nat}

theorem toList_zeroPadded (width n : Nat) :
    (zeroPadded width n).toList =
      List.replicate (width - (Nat.toDigits 10 n).length) '0' ++ Nat.toDigits 10 n := by
  have hsign : ¬ (n : Int) < 0 := Int.not_lt.mpr (Int.natCast_nonneg n)
  simp [zeroPadded, hsign]

theorem isDigit_of_mem_zeroPadded (h : c ∈ (zeroPadded width n).toList) : c.isDigit = true := by
  rw [toList_zeroPadded, List.mem_append] at h
  rcases h with hzero | hdigit
  · rw [List.eq_of_mem_replicate hzero]
    rfl
  · exact Nat.isDigit_of_mem_toDigits (by decide) (by decide) hdigit

theorem length_zeroPadded (width n : Nat) :
    (zeroPadded width n).length = max width (Nat.toDigits 10 n).length := by
  rw [← String.length_toList, toList_zeroPadded, List.length_append, List.length_replicate]
  omega

/-- Zeros in front of a number do not change it. -/
theorem readInteger?_zeroPadded (h : (zeroPadded width n).length ≤ maxIntegerDigits) :
    readInteger? (zeroPadded width n).toList = some (n : Int) := by
  have hnil : (zeroPadded width n).toList ≠ [] := by
    rw [toList_zeroPadded]
    exact List.append_ne_nil_of_right_ne_nil _ Nat.toDigits_ne_nil
  rw [← String.length_toList] at h
  rw [readInteger?_of_isDigit hnil (fun _ => isDigit_of_mem_zeroPadded) h, toList_zeroPadded,
    Nat.ofDigitChars_append, Nat.ofDigitChars_replicate_zero, Nat.mul_zero,
    Nat.ofDigitChars_ten_toDigits]

/-! ### Numbers in decimal -/

theorem isDigit_of_mem_decimalNat {n : Nat} (h : c ∈ (decimalNat n).toList) :
    c.isDigit = true := by
  rw [decimalNat, String.toList_ofList] at h
  exact Nat.isDigit_of_mem_toDigits (by decide) (by decide) h

/-- There are no blanks to be taken off a number. -/
theorem trim_isBlank_decimal (n : Int) : trim isBlank (decimal n).toList = (decimal n).toList := by
  apply trim_of_forall
  intro c hc
  unfold decimal at hc
  split at hc
  · rw [String.toList_append, List.mem_append] at hc
    rcases hc with hsign | hdigit
    · obtain rfl : c = '-' := List.mem_singleton.mp hsign
      decide
    · exact isBlank_of_isDigit (isDigit_of_mem_decimalNat hdigit)
  · exact isBlank_of_isDigit (isDigit_of_mem_decimalNat hc)

/-- A number that is not too long is read back, sign and all. -/
theorem readInteger?_decimal {n : Int} (h : (decimalNat n.natAbs).length ≤ maxIntegerDigits) :
    readInteger? (decimal n).toList = some n := by
  have hdigits : ∀ c ∈ (decimalNat n.natAbs).toList, c.isDigit = true :=
    fun c => isDigit_of_mem_decimalNat
  have hnil : (decimalNat n.natAbs).toList ≠ [] := by
    rw [decimalNat, String.toList_ofList]
    exact Nat.toDigits_ne_nil
  have hvalue : Nat.ofDigitChars 10 (decimalNat n.natAbs).toList 0 = n.natAbs := by
    rw [decimalNat, String.toList_ofList, Nat.ofDigitChars_ten_toDigits]
  rw [← String.length_toList] at h
  by_cases hneg : n < 0
  · have htrim : trim isMargin ('-' :: (decimalNat n.natAbs).toList) =
        '-' :: (decimalNat n.natAbs).toList := by
      apply trim_of_forall
      intro c hc
      rcases List.mem_cons.mp hc with rfl | hc
      · decide
      · exact isMargin_of_isDigit (hdigits c hc)
    rw [decimal, if_pos hneg, String.toList_append]
    change readInteger? ('-' :: (decimalNat n.natAbs).toList) = some n
    rw [readInteger?, htrim]
    simp only [readNatural?_of_isDigit hnil hdigits h, hvalue]
    change some (-(n.natAbs : Int)) = some n
    rw [Int.ofNat_natAbs_of_nonpos (Int.le_of_lt hneg), Int.neg_neg]
  · rw [decimal, if_neg hneg, readInteger?_of_isDigit hnil hdigits h, hvalue,
      Int.natAbs_of_nonneg (Int.not_lt.mp hneg)]

end OneTimePassword.Text
