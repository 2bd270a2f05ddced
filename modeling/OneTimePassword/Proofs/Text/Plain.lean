/-
Module: OneTimePassword.Proofs.Text.Plain
Purpose: Texts of letters and digits, as secrets and codes are, and how they differ from other
  lines.
Main exports: Text.length_utf8_of_ascii, Text.IsPlain, Text.IsPlain.length_utf8,
  Text.isPlain_encode, Text.isPlain_decimalNat, Text.IsPlain.ne_mode_line
-/
import OneTimePassword.Proofs.Base32.Symbols
import OneTimePassword.Proofs.Text.Decimal
import OneTimePassword.SecretFile.Directive

namespace OneTimePassword.Text

/-- Letters and digits are ASCII characters. -/
theorem val_le_of_isAlphanum {c : Char} (h : c.isAlphanum = true) : c.val ≤ 127 := by
  obtain halpha | hdigit : c.isAlpha = true ∨ c.isDigit = true := (Bool.or_eq_true _ _).mp h
  · obtain hupper | hlower : c.isUpper = true ∨ c.isLower = true := (Bool.or_eq_true _ _).mp halpha
    · exact UInt32.le_trans (of_decide_eq_true hupper).2 (by decide)
    · exact UInt32.le_trans (of_decide_eq_true ((Bool.and_eq_true _ _).mp hlower).2) (by decide)
  · exact UInt32.le_trans (of_decide_eq_true ((Bool.and_eq_true _ _).mp hdigit).2) (by decide)

/-- Each ASCII character is one byte. -/
theorem length_utf8_of_ascii {text : String} (h : ∀ c ∈ text.toList, c.val ≤ 127) :
    (utf8 text).length = text.length := by
  have hsize : ∀ c ∈ text.toList, (String.utf8EncodeChar c).length = 1 := by
    intro c hc
    rw [String.length_utf8EncodeChar, Char.utf8Size_eq_one_iff]
    exact h c hc
  rw [utf8, List.length_flatMap, List.map_congr_left hsize, List.map_const', List.sum_replicate_nat,
    Nat.mul_one, String.length_toList]

/-- A text of ASCII letters and digits. -/
def IsPlain (text : String) : Prop := ∀ c ∈ text.toList, c.isAlphanum = true

namespace IsPlain

variable {text : String}

theorem notMem (h : IsPlain text) {c : Char} (hc : c.isAlphanum = false) : c ∉ text.toList := by
  intro member
  rw [h c member] at hc
  cases hc

/-- The mark of such a line is neither a letter nor a digit. -/
theorem ne_mode_line (h : IsPlain text) (mode : Mode) : text ≠ mode.line := by
  rintro rfl
  exact h.notMem rfl mode.mark_mem_line

theorem length_utf8 (h : IsPlain text) : (utf8 text).length = text.length :=
  length_utf8_of_ascii fun c hc => val_le_of_isAlphanum (h c hc)

end IsPlain

theorem isPlain_encode (raw : Bytes) : IsPlain (Base32.encode raw) := by
  have halphabet : Base32.alphabet.all Char.isAlphanum = true := by decide
  exact fun c hc => List.all_eq_true.mp halphabet c (Base32.mem_alphabet_of_mem_encode hc)

theorem isPlain_decimalNat (n : Nat) : IsPlain (decimalNat n) := by
  intro c hc
  rw [Char.isAlphanum, isDigit_of_mem_decimalNat hc, Bool.or_true]

end OneTimePassword.Text
