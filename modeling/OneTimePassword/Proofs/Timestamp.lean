/-
Module: OneTimePassword.Proofs.Timestamp
Purpose: The time step of a reading against the floor of its exact quotient. Fractions are cut off
  toward zero, so the last second before a step counts for the step as long as it is negative.
Main exports: Timestamp.ofBits_of_finite, Timestamp.le_wholeSeconds_iff, Totp.IsReached,
  Totp.IsCutOff, Totp.le_stepNumber_iff, Totp.stepNumber_of_seconds
-/
import Mathlib.Data.Rat.Floor
import Mathlib.Tactic.Linarith
import Mathlib.Tactic.NormNum
import OneTimePassword.Timestamp

namespace OneTimePassword

namespace Timestamp

variable {value : ℚ} {seconds : ℤ}

/-- Doubles whose exponent is not all ones are numbers: the fraction, with a further one bit before
it unless the exponent is zero, scaled by the exponent. -/
theorem ofBits_of_finite {bits : ℕ} (hfinite : (bits >>> 52) % 0x800 ≠ 0x7ff) :
    ofBits bits =
      .seconds ((if bits.testBit 63 then -1 else 1 : ℤ) *
        (if (bits >>> 52) % 0x800 = 0 then bits % 2 ^ 52 else 2 ^ 52 + bits % 2 ^ 52 : ℕ) *
        (2 : ℚ) ^ ((max ((bits >>> 52) % 0x800) 1 : ℕ) - (1075 : ℕ) : ℤ)) := by
  have hfraction : (0x10000000000000 : ℕ) = 2 ^ 52 := by norm_num
  unfold ofBits
  generalize (bits >>> 52) % 0x800 = exponent at hfinite ⊢
  generalize 1075 = scale
  rw [if_neg hfinite, hfraction]
  generalize (if exponent = 0 then bits % 2 ^ 52 else 2 ^ 52 + bits % 2 ^ 52) = significand
  rw [Rat.mkRat_eq_div, Nat.shiftLeft_eq, Nat.shiftLeft_eq, one_mul,
    zpow_sub₀ two_ne_zero, zpow_natCast, zpow_natCast]
  push_cast
  rw [mul_div_assoc', mul_assoc]

/-! ### Whole seconds -/

theorem wholeSeconds_of_nonneg (h : 0 ≤ value) : wholeSeconds (.seconds value) = .ok ⌊value⌋ := by
  rw [wholeSeconds, Int.tdiv_eq_ediv_of_nonneg (Rat.num_nonneg.mpr h), Rat.floor_def']

theorem wholeSeconds_of_nonpos (h : value ≤ 0) : wholeSeconds (.seconds value) = .ok ⌈value⌉ := by
  have hopposite := wholeSeconds_of_nonneg (neg_nonneg.mpr h)
  rw [wholeSeconds, Rat.num_neg_eq_neg_num, Rat.den_neg_eq_den, Int.neg_tdiv, Int.floor_neg]
    at hopposite
  rw [wholeSeconds, neg_injective (Except.ok.inj hopposite)]

/-- Seconds after the epoch are counted when they are over, and all others as soon as they begin. -/
theorem le_wholeSeconds_iff (h : wholeSeconds (.seconds value) = .ok seconds) (bound : ℤ) :
    bound ≤ seconds ↔ if 0 < bound then (bound : ℚ) ≤ value else (bound : ℚ) - 1 < value := by
  rcases le_total 0 value with hsign | hsign
  · obtain rfl := Except.ok.inj ((wholeSeconds_of_nonneg hsign).symm.trans h)
    rw [Int.le_floor]
    split
    · rfl
    · rename_i hbound
      have hcast : (bound : ℚ) ≤ 0 := by exact_mod_cast not_lt.mp hbound
      exact iff_of_true (by linarith) (by linarith)
  · obtain rfl := Except.ok.inj ((wholeSeconds_of_nonpos hsign).symm.trans h)
    rw [Int.le_ceil_iff]
    split
    · rename_i hbound
      have hcast : (1 : ℚ) ≤ bound := by exact_mod_cast hbound
      exact iff_of_false (by linarith) (by linarith)
    · rfl

end Timestamp

namespace Totp

open Timestamp (wholeSeconds)

variable {value later : ℚ} {step number k : ℤ}

/-! ### Steps -/

/-- The step of a number has come: a step after the epoch when it begins, and any other as soon as
less than a second is missing. -/
def IsReached (value : ℚ) (step k : ℤ) : Prop :=
  if 0 < k then (k * step : ℚ) ≤ value else (k * step - 1 : ℚ) < value

/-- Less than a second is missing to a step that begins at the epoch or before it. -/
def IsCutOff (value : ℚ) (step : ℤ) : Prop :=
  ∃ k : ℤ, k ≤ 0 ∧ (k * step - 1 : ℚ) < value ∧ value < (k * step : ℚ)

/-- A reading in seconds always has a step. -/
theorem exists_stepNumber (value : ℚ) (hstep : 1 ≤ step) :
    ∃ seconds, wholeSeconds (.seconds value) = .ok seconds ∧
      stepNumber (.seconds value) step = .ok (seconds.fdiv step) := by
  refine ⟨_, rfl, ?_⟩
  have hne : step ≠ 0 := by omega
  simp only [stepNumber, wholeSeconds, bind, Except.bind, hne, if_false]
  rfl

theorem le_stepNumber_iff (hstep : 1 ≤ step) (h : stepNumber (.seconds value) step = .ok number)
    (k : ℤ) : k ≤ number ↔ IsReached value step k := by
  obtain ⟨seconds, hseconds, hnumber⟩ := exists_stepNumber value hstep
  obtain rfl := Except.ok.inj (hnumber.symm.trans h)
  have hpos : 0 < k * step ↔ 0 < k := mul_pos_iff_of_pos_right (by omega)
  rw [Int.fdiv_eq_ediv_of_nonneg _ (by omega), Int.le_ediv_iff_mul_le (by omega),
    Timestamp.le_wholeSeconds_iff hseconds, IsReached, Int.cast_mul]
  simp only [hpos]

/-- Without the seconds that are cut off a step has come when it begins. -/
theorem isReached_iff (hcut : ¬ IsCutOff value step) :
    IsReached value step k ↔ (k * step : ℚ) ≤ value := by
  unfold IsReached
  split
  · rfl
  · rename_i hk
    constructor
    · intro hvalue
      by_contra hearly
      exact hcut ⟨k, not_lt.mp hk, hvalue, not_le.mp hearly⟩
    · intro hvalue
      linarith

theorem stepNumber_of_not_isCutOff (hstep : 1 ≤ step) (hcut : ¬ IsCutOff value step)
    (h : stepNumber (.seconds value) step = .ok number) : number = ⌊value / step⌋ := by
  have hpos : (0 : ℚ) < step := by exact_mod_cast hstep
  refine eq_of_forall_le_iff fun k => ?_
  rw [le_stepNumber_iff hstep h, isReached_iff hcut, Int.le_floor, le_div_iff₀ hpos]

/-- Seconds that are cut off count for the step that they are missing to. -/
theorem stepNumber_of_isCutOff (hstep : 1 ≤ step) (hcut : IsCutOff value step)
    (h : stepNumber (.seconds value) step = .ok number) : number = ⌊value / step⌋ + 1 := by
  obtain ⟨k, hk, hearly, hmissing⟩ := hcut
  have hone : (1 : ℚ) ≤ step := by exact_mod_cast hstep
  have hpos : (0 : ℚ) < step := by linarith
  have hfloor : ⌊value / step⌋ = k - 1 := by
    rw [Int.floor_eq_iff, le_div_iff₀ hpos, div_lt_iff₀ hpos]
    push_cast
    constructor <;> linarith
  have hreached : IsReached value step k := by rwa [IsReached, if_neg (not_lt.mpr hk)]
  have hnext : ¬ IsReached value step (k + 1) := by
    unfold IsReached
    push_cast
    split <;> linarith
  have hle := (le_stepNumber_iff hstep h k).mpr hreached
  have hlt := mt (le_stepNumber_iff hstep h (k + 1)).mp hnext
  omega

/-- Nothing is cut off after the epoch, nor of whole seconds. -/
theorem not_isCutOff (h : 0 ≤ value ∨ ∃ seconds : ℤ, value = seconds) (hstep : 1 ≤ step) :
    ¬ IsCutOff value step := by
  rintro ⟨k, hk, hearly, hmissing⟩
  rcases h with hvalue | ⟨seconds, rfl⟩
  · have hle : (k * step : ℚ) ≤ 0 := by exact_mod_cast mul_nonpos_of_nonpos_of_nonneg hk (by omega)
    linarith
  · have hlower : k * step - 1 < seconds := by exact_mod_cast hearly
    have hupper : seconds < k * step := by exact_mod_cast hmissing
    omega

theorem IsReached.mono (h : IsReached value step k) (hlater : value ≤ later) :
    IsReached later step k := by
  unfold IsReached at h ⊢
  split at h
  · rename_i hk
    rw [if_pos hk]
    linarith
  · rename_i hk
    rw [if_neg hk]
    linarith

/-- Every reading in seconds has a step. It is the floor of the quotient for readings from the epoch on
and for whole seconds, and altogether unless less than a second is missing to a step that begins at the
epoch or before it; then it is already that step. So the readings of one step are those from the time
when it has come to the time when the next one has, and a later reading never has an earlier step. -/
theorem stepNumber_of_seconds (value : ℚ) (hstep : 1 ≤ step) :
    ∃ number, stepNumber (.seconds value) step = .ok number ∧
      ((0 ≤ value ∨ ∃ seconds : ℤ, value = seconds) → number = ⌊value / step⌋) ∧
      (¬ IsCutOff value step → number = ⌊value / step⌋) ∧
      (IsCutOff value step → number = ⌊value / step⌋ + 1) ∧
      (∀ k, number = k ↔ IsReached value step k ∧ ¬ IsReached value step (k + 1)) ∧
      ∀ later, value ≤ later → ∃ laterNumber,
        stepNumber (.seconds later) step = .ok laterNumber ∧ number ≤ laterNumber := by
  obtain ⟨seconds, -, hnumber⟩ := exists_stepNumber value hstep
  have hreached := le_stepNumber_iff hstep hnumber
  refine ⟨_, hnumber, ?_, ?_, ?_, ?_, ?_⟩
  · exact fun h => stepNumber_of_not_isCutOff hstep (not_isCutOff h hstep) hnumber
  · exact fun hcut => stepNumber_of_not_isCutOff hstep hcut hnumber
  · exact fun hcut => stepNumber_of_isCutOff hstep hcut hnumber
  · intro k
    rw [← hreached, ← hreached]
    omega
  · intro later hlater
    obtain ⟨laterSeconds, -, hlaterNumber⟩ := exists_stepNumber later hstep
    refine ⟨_, hlaterNumber, ?_⟩
    rw [le_stepNumber_iff hstep hlaterNumber]
    exact ((hreached _).mp le_rfl).mono hlater

/-- Half a second before the second step back begins, it has come already. -/
theorem stepNumber_of_seconds_before_step :
    (1 : ℤ) ≤ 30 ∧ IsCutOff (-121 / 2) 30 ∧ ⌊(-121 / 2 : ℚ) / (30 : ℤ)⌋ = -3 ∧
      stepNumber (.seconds (-121 / 2)) 30 = .ok (-2) := by
  have hcut : IsCutOff (-121 / 2) 30 := ⟨-2, by norm_num, by norm_num, by norm_num⟩
  have hfloor : ⌊(-121 / 2 : ℚ) / (30 : ℤ)⌋ = -3 := by
    rw [Int.floor_eq_iff]
    norm_num
  have hstep : (1 : ℤ) ≤ 30 := by norm_num
  obtain ⟨number, hnumber, -, -, hvalue, -⟩ := stepNumber_of_seconds (-121 / 2) hstep
  obtain rfl : number = -2 := by rw [hvalue hcut, hfloor]; norm_num
  exact ⟨hstep, hcut, hfloor, hnumber⟩

/-- The double -0.5 is half a second before the epoch, but has the step that begins there. The floor of
its quotient names the step before. -/
theorem step_begins_before_epoch :
    Timestamp.ofBits 0xbfe0000000000000 = .seconds (-1 / 2) ∧
      stepNumber (.seconds (-1 / 2)) 30 = .ok 0 ∧ ⌊(-1 / 2 : ℚ) / 30⌋ = -1 ∧
      ¬ ∀ (value : ℚ) (step : ℤ), 1 ≤ step →
        stepNumber (.seconds value) step = .ok ⌊value / step⌋ := by
  have hbits : Timestamp.ofBits 0xbfe0000000000000 = .seconds (-1 / 2) := by
    have hsign : (0xbfe0000000000000 : ℕ).testBit 63 = true := by decide
    have hexponent : (0xbfe0000000000000 >>> 52) % 0x800 = 1022 := by decide
    rw [Timestamp.ofBits_of_finite (by decide), hsign, hexponent]
    norm_num
  have hnumber : stepNumber (.seconds (-1 / 2)) 30 = .ok 0 := by decide +kernel
  have hfloor : ⌊(-1 / 2 : ℚ) / 30⌋ = -1 := by
    rw [Int.floor_eq_iff]
    norm_num
  refine ⟨hbits, hnumber, hfloor, ?_⟩
  intro h
  have hclaimed : ⌊(-1 / 2 : ℚ) / (30 : ℤ)⌋ = 0 :=
    Except.ok.inj ((h (-1 / 2) 30 (by norm_num)).symm.trans hnumber)
  rw [Int.cast_ofNat, hfloor] at hclaimed
  cases hclaimed

end Totp

end OneTimePassword
