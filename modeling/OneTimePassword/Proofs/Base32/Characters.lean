/-
Module: OneTimePassword.Proofs.Base32.Characters
Purpose: The characters that a secret may be typed with.
Main exports: Base32.isForeign, Base32.folded, Base32.mem_alphabet_iff, Base32.value?_toUpper,
  Base32.readable_iff
-/
import Mathlib.Data.Bool.AllAny
import OneTimePassword.Base32

namespace OneTimePassword.Base32

variable {c : Char}

/-- No ASCII letter, no digit from two to seven, and no separator. -/
def isForeign (c : Char) : Bool := !(c.isAlpha || ('2' ≤ c && c ≤ '7') || isSeparator c)

/-- The two characters outside ASCII whose capital is a symbol: the dotless i and the long s. -/
def folded : List Char := ['ı', 'ſ']

/-! ### ASCII and beyond -/

theorem forall_ascii {p : Char → Prop} (h : ∀ code < 128, p (Char.ofNat code)) :
    ∀ c : Char, c.toNat < 128 → p c := by
  intro c hc
  have hcode := h c.toNat hc
  rwa [Char.ofNat_toNat] at hcode

theorem isForeign_of_le (h : 128 ≤ c.toNat) : isForeign c = true := by
  have hbeyond {last : Char} (hlast : last.toNat < 128) : ¬ c.val ≤ last.val := fun hle =>
    Nat.not_lt_of_le (Nat.le_trans h (UInt32.le_iff_toNat_le.mp hle)) hlast
  have hupper : c.isUpper = false := decide_eq_false fun hcase => hbeyond (by decide) hcase.2
  have hlower : c.isLower = false :=
    Bool.and_eq_false_imp.mpr fun _ => decide_eq_false (hbeyond (by decide))
  have hletter : c.isAlpha = false := Bool.or_eq_false_iff.mpr ⟨hupper, hlower⟩
  have hdigit : ('2' ≤ c && c ≤ '7') = false :=
    Bool.and_eq_false_imp.mpr fun _ => decide_eq_false (hbeyond (by decide))
  have hseparator : isSeparator c = false := by
    apply decide_eq_false
    intro hmember
    simp only [List.mem_cons, List.not_mem_nil, or_false] at hmember
    rcases hmember with rfl | rfl | rfl | rfl | rfl | rfl
    all_goals exact absurd h (by decide)
  rw [isForeign, hletter, hdigit, hseparator]
  rfl

/-! ### Capitals -/

theorem toUpper_of_le (h : 128 ≤ c.toNat) : c.toUpper = c := by
  have hlower : ¬ (c.val ≥ 'a'.val ∧ c.val ≤ 'z'.val) := by
    rintro ⟨-, hlast⟩
    have hcode : c.toNat ≤ 122 := UInt32.le_iff_toNat_le.mp hlast
    omega
  exact dif_neg hlower

theorem toUpper_toUpper (c : Char) : c.toUpper.toUpper = c.toUpper := by
  by_cases hascii : c.toNat < 128
  · exact forall_ascii (p := fun c => c.toUpper.toUpper = c.toUpper) (by decide) c hascii
  · have hself := toUpper_of_le (Nat.le_of_not_lt hascii)
    rw [hself, hself]

theorem toNat_toUpper_lt (h : c.toNat < 128) : c.toUpper.toNat < 128 :=
  forall_ascii (p := fun c => c.toUpper.toNat < 128) (by decide) c h

theorem capital_of_lt (h : c.toNat < 128) : Text.capital c = [c.toUpper] := by
  unfold Text.capital
  split
  case h_11 => rfl
  all_goals omega

/-- The other capitals written in ASCII alone are those of ligatures, and have two letters. -/
theorem capital_of_le (h : 128 ≤ c.toNat) (hfolded : c ∉ folded) :
    Text.capital c = [c] ∨ (Text.capital c).length ≠ 1 := by
  have hne (other : Char) (hother : other ∈ folded) : c.toNat ≠ other.toNat := by
    intro heq
    exact hfolded (Char.toNat_inj.mp heq ▸ hother)
  unfold Text.capital
  split
  case h_2 hcode => exact absurd hcode (hne 'ı' (by decide))
  case h_3 hcode => exact absurd hcode (hne 'ſ' (by decide))
  case h_11 => exact .inl (congrArg (fun c => [c]) (toUpper_of_le h))
  all_goals exact .inr (by decide)

/-! ### Symbols -/

theorem notMem_alphabet_of_le (h : 128 ≤ c.toNat) : c ∉ alphabet := by
  have hall : ∀ c ∈ alphabet, c.toNat < 128 := List.all_iff_forall_prop.mp (by decide)
  exact fun hc => Nat.not_lt_of_le h (hall c hc)

theorem mem_alphabet_iff (h : c.toNat < 128) :
    c ∈ alphabet ↔ c.isUpper = true ∨ ('2' ≤ c ∧ c ≤ '7') := by
  constructor
  · have hall : ∀ c ∈ alphabet, c.isUpper = true ∨ ('2' ≤ c ∧ c ≤ '7') :=
      List.all_iff_forall_prop.mp (by decide)
    exact hall c
  · exact forall_ascii (p := fun c => c.isUpper = true ∨ ('2' ≤ c ∧ c ≤ '7') → c ∈ alphabet)
      (by decide) c h

theorem isSome_value?_iff {capital : Char} (h : Text.capital c = [capital]) :
    (value? c).isSome = true ↔ capital ∈ alphabet := by
  rw [value?, h]
  simp only [List.findIdx?_isSome, List.any_beq', List.contains_iff_mem]

theorem value?_of_le (h : 128 ≤ c.toNat) (hfolded : c ∉ folded) : value? c = none := by
  rcases capital_of_le h hfolded with hself | hlength
  · rw [← Option.not_isSome_iff_eq_none, isSome_value?_iff hself]
    exact notMem_alphabet_of_le h
  · unfold value?
    split
    · rename_i capital hcapital
      exact absurd (congrArg List.length hcapital) hlength
    · rfl

/-- A letter has the same value in either case. -/
theorem value?_toUpper (c : Char) : value? c.toUpper = value? c := by
  by_cases hascii : c.toNat < 128
  · have hcapital : Text.capital c.toUpper = Text.capital c := by
      rw [capital_of_lt hascii, capital_of_lt (toNat_toUpper_lt hascii), toUpper_toUpper]
    rw [value?, hcapital, value?]
  · rw [toUpper_of_le (Nat.le_of_not_lt hascii)]

/-! ### What can be read -/

theorem isForeign_eq_false_iff (h : c.toNat < 128) :
    isForeign c = false ↔
      isSeparator c = true ∨ c.toUpper.isUpper = true ∨ ('2' ≤ c.toUpper ∧ c.toUpper ≤ '7') :=
  forall_ascii (p := fun c => isForeign c = false ↔
    isSeparator c = true ∨ c.toUpper.isUpper = true ∨ ('2' ≤ c.toUpper ∧ c.toUpper ≤ '7'))
    (by decide) c h

/-- Letters, digits from two to seven, separators and the two characters outside ASCII: these can be
read, and nothing else. -/
theorem readable_iff (c : Char) :
    (isSeparator c = true ∨ (value? c).isSome = true) ↔ isForeign c = false ∨ c ∈ folded := by
  by_cases hascii : c.toNat < 128
  · have hfolded : c ∉ folded := by
      have hall : ∀ c ∈ folded, ¬ c.toNat < 128 := List.all_iff_forall_prop.mp (by decide)
      exact fun hc => hall c hc hascii
    rw [isSome_value?_iff (capital_of_lt hascii), mem_alphabet_iff (toNat_toUpper_lt hascii),
      isForeign_eq_false_iff hascii, or_iff_left hfolded]
  · have hcode := Nat.le_of_not_lt hascii
    have hforeign := isForeign_of_le hcode
    constructor
    · rintro (hseparator | hvalue)
      · rw [isForeign, hseparator, Bool.or_true] at hforeign
        cases hforeign
      · by_cases hfolded : c ∈ folded
        · exact .inr hfolded
        · rw [value?_of_le hcode hfolded] at hvalue
          cases hvalue
    · rintro (hplain | hfolded)
      · rw [hforeign] at hplain
        cases hplain
      · have hall : ∀ c ∈ folded, (value? c).isSome = true :=
          List.all_iff_forall_prop.mp (by decide)
        exact .inr (hall c hfolded)

end OneTimePassword.Base32
