/-
Module: OneTimePassword.Proofs.Base32.RoundTrip
Purpose: Bytes come back from the text that they are written as, and a text from the bytes that it
  is read as, unless its length or its last bits are none that writing leads to.
Main exports: Base32.symbolBits, Base32.carriedBits_symbols, Base32.decode_encode,
  Base32.decode_eq_ok_of_alphabet, Base32.encode_inverse_decode
-/
import Mathlib.Data.List.Basic
import Mathlib.Data.List.GetD
import OneTimePassword.Proofs.Base32.Reading

namespace OneTimePassword.Base32

variable {bits : List Bool} {text : String} {c : Char}

/-- The bits of a text of symbols: five for each, the symbol's place in the alphabet. -/
def symbolBits (text : String) : List Bool :=
  text.toList.flatMap fun c => bitsOf bitsPerSymbol (alphabet.idxOf c)

/-! ### Symbols and their values -/

theorem symbol_idxOf (h : c ∈ alphabet) : symbol (alphabet.idxOf c) = c := by
  have hlt : alphabet.idxOf c < alphabet.length := List.idxOf_lt_length_of_mem h
  rw [symbol, List.getD_eq_getElem _ _ hlt, List.getElem_idxOf hlt]

theorem value?_symbol : ∀ value < 32, value? (symbol value) = some value := by decide

theorem value?_eq_idxOf (h : c ∈ alphabet) : value? c = some (alphabet.idxOf c) := by
  have hlt : alphabet.idxOf c < 32 := List.idxOf_lt_length_of_mem h
  have hvalue := value?_symbol _ hlt
  rwa [symbol_idxOf h] at hvalue

theorem carriedBits_toList (h : ∀ c ∈ text.toList, c ∈ alphabet) :
    carriedBits text.toList = symbolBits text := by
  rw [carriedBits, symbolBits]
  apply List.flatMap_congr
  intro c hc
  rw [value?_eq_idxOf (h c hc)]

/-! ### Writing bits as symbols -/

theorem symbols_append (h : bits.length = bitsPerSymbol) (rest : List Bool) :
    symbols (bits ++ rest) = symbol (ofBits bits) :: symbols rest := by
  match bits, h with
  | [_, _, _, _, _], _ => rfl

/-- Where there are no five bits to begin with, there are fewer. -/
theorem length_lt_of_forall_ne
    (h : ∀ b₀ b₁ b₂ b₃ b₄ rest, bits ≠ b₀ :: b₁ :: b₂ :: b₃ :: b₄ :: rest) :
    bits.length < bitsPerSymbol := by
  match bits with
  | [] | [_] | [_, _] | [_, _, _] | [_, _, _, _] => simp [bitsPerSymbol]
  | b₀ :: b₁ :: b₂ :: b₃ :: b₄ :: rest => exact absurd rfl (h b₀ b₁ b₂ b₃ b₄ rest)

theorem carriedBits_cons_symbol (h : bits.length = bitsPerSymbol) (rest : List Char) :
    carriedBits (symbol (ofBits bits) :: rest) = bits ++ carriedBits rest := by
  have hlt : ofBits bits < 32 := by
    have := ofBits_lt bits
    rwa [h] at this
  have hbits := bitsOf_ofBits bits
  rw [h] at hbits
  rw [carriedBits, List.flatMap_cons, value?_symbol _ hlt, ← carriedBits]
  exact congrArg (· ++ carriedBits rest) hbits

/-- Symbols carry the bits that they were written for, and zeros up to a whole number of fives. -/
theorem carriedBits_symbols (bits : List Bool) :
    (symbols bits).length = (bits.length + 4) / 5 ∧
      carriedBits (symbols bits) =
        bits ++ List.replicate (5 * ((bits.length + 4) / 5) - bits.length) false := by
  fun_induction symbols bits with
  | case1 b₀ b₁ b₂ b₃ b₄ rest ih =>
      obtain ⟨hcount, hcarried⟩ := ih
      have hfive : [b₀, b₁, b₂, b₃, b₄].length = bitsPerSymbol := rfl
      have hpad : 5 * ((rest.length + 4) / 5) - rest.length =
          5 * ((rest.length + 5 + 4) / 5) - (rest.length + 5) := by omega
      rw [carriedBits_cons_symbol hfive, hcarried, List.length_cons, hcount, hpad]
      refine ⟨?_, rfl⟩
      simp only [List.length_cons]
      omega
  | case2 => exact ⟨rfl, rfl⟩
  | case3 bits hfull hnil =>
      have hshort := length_lt_of_forall_ne hfull
      have hpos : 0 < bits.length := List.length_pos_iff.mpr hnil
      have hpadded : (bits ++ List.replicate (bitsPerSymbol - bits.length) false).length =
          bitsPerSymbol := by
        rw [List.length_append, List.length_replicate]
        omega
      rw [bitsPerSymbol] at hshort
      have hone : (bits.length + 4) / 5 = 1 := by omega
      rw [carriedBits_cons_symbol hpadded, hone, carriedBits, List.flatMap_nil, List.append_nil]
      exact ⟨rfl, rfl⟩

theorem length_encode (raw : Bytes) : (encode raw).length = (8 * raw.length + 4) / 5 := by
  have hcount := (carriedBits_symbols (byteBits raw)).1
  rw [length_byteBits] at hcount
  rw [encode, String.length_ofList]
  exact hcount

/-- What is written carries the bits of the bytes and, behind them, zeros. -/
theorem symbolBits_encode (raw : Bytes) :
    symbolBits (encode raw) =
      byteBits raw ++ List.replicate (5 * (encode raw).length - 8 * raw.length) false := by
  have hcarried := (carriedBits_symbols (byteBits raw)).2
  rw [length_byteBits] at hcarried
  rw [← carriedBits_toList (fun _ => mem_alphabet_of_mem_encode), length_encode, encode,
    String.toList_ofList]
  exact hcarried

/-! ### There and back -/

theorem length_symbolBits (text : String) : (symbolBits text).length = 5 * text.length := by
  rw [symbolBits, ← String.length_toList]
  induction text.toList with
  | nil => rfl
  | cons c rest ih =>
      rw [List.flatMap_cons, List.length_append, length_bitsOf, ih, bitsPerSymbol, List.length_cons]
      omega

theorem decode_eq_ok_of_alphabet (h : ∀ c ∈ text.toList, c ∈ alphabet) :
    decode text = .ok (bytesOf (symbolBits text)) := by
  have htext : IsReadable text.toList := by
    intro c hc
    rw [value?_eq_idxOf (h c hc)]
    exact .inr rfl
  rw [decode_of_isReadable htext, carriedBits_toList h]

theorem decode_encode (raw : Bytes) : decode (encode raw) = .ok raw := by
  have hshort : (List.replicate (5 * (encode raw).length - 8 * raw.length) false).length < 8 := by
    rw [List.length_replicate, length_encode]
    omega
  rw [decode_eq_ok_of_alphabet (fun _ => mem_alphabet_of_mem_encode), symbolBits_encode,
    bytesOf_byteBits_append, bytesOf_of_length_lt hshort, List.append_nil]

/-- A text of symbols can be told from its bits. -/
theorem symbols_symbolBits (h : ∀ c ∈ text.toList, c ∈ alphabet) :
    String.ofList (symbols (symbolBits text)) = text := by
  rw [← String.toList_inj, String.toList_ofList, symbolBits]
  generalize text.toList = chars at h
  induction chars with
  | nil => rfl
  | cons c rest ih =>
      have hc := h c List.mem_cons_self
      have hlt : alphabet.idxOf c < 32 := List.idxOf_lt_length_of_mem hc
      have hvalue : ofBits (bitsOf bitsPerSymbol (alphabet.idxOf c)) = alphabet.idxOf c := by
        rw [ofBits_bitsOf]
        exact Nat.mod_eq_of_lt hlt
      rw [List.flatMap_cons, symbols_append (length_bitsOf _ _), hvalue, symbol_idxOf hc,
        ih fun other hother => h other (List.mem_cons_of_mem _ hother)]

theorem eq_of_symbolBits_eq {other : String} (h : ∀ c ∈ text.toList, c ∈ alphabet)
    (hother : ∀ c ∈ other.toList, c ∈ alphabet) (hbits : symbolBits text = symbolBits other) :
    text = other := by
  rw [← symbols_symbolBits h, hbits, symbols_symbolBits hother]

/-- Writing gives a text of symbols back if it leaves no symbol out and nothing but zeros behind the
last whole byte. -/
theorem encode_bytesOf_symbolBits (h : ∀ c ∈ text.toList, c ∈ alphabet) :
    encode (bytesOf (symbolBits text)) = text ↔
      (8 * (5 * text.length / 8) + 4) / 5 = text.length ∧
        ∀ bit ∈ (symbolBits text).drop (8 * (5 * text.length / 8)), bit = false := by
  have hbytes := byteBits_bytesOf (symbolBits text)
  have hcount := length_bytesOf (symbolBits text)
  rw [length_symbolBits] at hbytes hcount
  have hlength := length_encode (bytesOf (symbolBits text))
  rw [hcount] at hlength
  have hencoded := symbolBits_encode (bytesOf (symbolBits text))
  rw [hbytes, hcount, hlength] at hencoded
  constructor
  · intro heq
    rw [heq] at hlength hencoded
    refine ⟨hlength.symm, ?_⟩
    have hsplit :=
      (List.take_append_drop (8 * (5 * text.length / 8)) (symbolBits text)).trans hencoded
    rw [List.append_cancel_left hsplit]
    intro bit hbit
    exact List.eq_of_mem_replicate hbit
  · rintro ⟨hsymbols, hzeros⟩
    apply eq_of_symbolBits_eq (fun _ => mem_alphabet_of_mem_encode) h
    have hdrop : (symbolBits text).drop (8 * (5 * text.length / 8)) =
        List.replicate (5 * text.length - 8 * (5 * text.length / 8)) false := by
      rw [List.eq_replicate_iff, List.length_drop, length_symbolBits]
      exact ⟨rfl, hzeros⟩
    rw [hencoded, hsymbols, ← hdrop, List.take_append_drop]

/-- A text of bytes has one of five lengths within each eight symbols. -/
theorem length_of_bytes_iff (n : Nat) :
    (8 * (5 * n / 8) + 4) / 5 = n ↔ n % 8 ∈ [0, 2, 4, 5, 7] := by
  simp only [List.mem_cons, List.not_mem_nil, or_false]
  omega

/-- Writing and reading are inverse to each other. Bytes are written in as many symbols as their
bits need, and read back from them. A text of symbols is read, and it is what the bytes read are
written as just if bytes can have its length and the bits behind its last whole byte are zeros. -/
theorem encode_inverse_decode :
    (∀ raw : Bytes,
      (encode raw).length = (8 * raw.length + 4) / 5 ∧
      (∀ c ∈ (encode raw).toList, c ∈ alphabet) ∧
      decode (encode raw) = .ok raw) ∧
    ∀ text : String, (∀ c ∈ text.toList, c ∈ alphabet) →
      ∃ raw, decode text = .ok raw ∧
        (encode raw = text ↔
          text.length % 8 ∈ [0, 2, 4, 5, 7] ∧
            ∀ bit ∈ (symbolBits text).drop (8 * (5 * text.length / 8)), bit = false) := by
  constructor
  · intro raw
    exact ⟨length_encode raw, fun _ => mem_alphabet_of_mem_encode, decode_encode raw⟩
  · intro text htext
    refine ⟨_, decode_eq_ok_of_alphabet htext, ?_⟩
    rw [encode_bytesOf_symbolBits htext, length_of_bytes_iff]

/-- Two symbols hold one byte and two bits: the one text ends in two zeros, the other does not. -/
theorem encode_inverse_decode_of_two_symbols :
    (∀ c ∈ "AE".toList, c ∈ alphabet) ∧ (∀ c ∈ "AF".toList, c ∈ alphabet) ∧
      (∃ raw, decode "AE" = .ok raw ∧ encode raw = "AE") ∧
      ∃ raw, decode "AF" = .ok raw ∧ encode raw ≠ "AF" := by
  have halphabet {text : String} (h : text.toList.all (· ∈ alphabet) = true) :
      ∀ c ∈ text.toList, c ∈ alphabet := by simpa using h
  have hzeros : ∀ c ∈ "AE".toList, c ∈ alphabet := halphabet (by decide +kernel)
  have hone : ∀ c ∈ "AF".toList, c ∈ alphabet := halphabet (by decide +kernel)
  obtain ⟨raw, hraw, hinverse⟩ := encode_inverse_decode.2 "AE" hzeros
  obtain ⟨other, hother, hnot⟩ := encode_inverse_decode.2 "AF" hone
  refine ⟨hzeros, hone, ⟨raw, hraw, hinverse.mpr (by decide +kernel)⟩, other, hother, ?_⟩
  rw [ne_eq, hnot]
  decide +kernel

end OneTimePassword.Base32
