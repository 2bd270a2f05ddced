/-
Module: OneTimePassword.Proofs.Base32.Symbols
Purpose: Encoded text is made of symbols.
Main exports: Base32.mem_alphabet_of_mem_encode, Base32.newline_notMem_encode
-/
import OneTimePassword.Base32

namespace OneTimePassword.Base32

theorem symbol_mem_alphabet (value : Nat) : symbol value ∈ alphabet := by
  rw [symbol, List.getD_eq_getElem?_getD]
  cases hfound : alphabet[value]? with
  | none => decide
  | some c => exact List.mem_of_getElem? hfound

theorem mem_alphabet_of_mem_symbols {c : Char} {bits : List Bool} (h : c ∈ symbols bits) :
    c ∈ alphabet := by
  fun_induction symbols bits with
  | case1 b₀ b₁ b₂ b₃ b₄ rest ih =>
      rcases List.mem_cons.mp h with rfl | h
      · exact symbol_mem_alphabet _
      · exact ih h
  | case2 => exact absurd h List.not_mem_nil
  | case3 bits =>
      obtain rfl := List.mem_singleton.mp h
      exact symbol_mem_alphabet _

theorem mem_alphabet_of_mem_encode {c : Char} {raw : Bytes} (h : c ∈ (encode raw).toList) :
    c ∈ alphabet := by
  rw [encode, String.toList_ofList] at h
  exact mem_alphabet_of_mem_symbols h

theorem newline_notMem_encode (raw : Bytes) : '\n' ∉ (encode raw).toList := fun h =>
  absurd (mem_alphabet_of_mem_encode h) (by decide)

end OneTimePassword.Base32
