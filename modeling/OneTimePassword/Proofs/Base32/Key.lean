/-
Module: OneTimePassword.Proofs.Base32.Key
Purpose: A secret stands for the whole of what it is read as, or for no key at all.
Main exports: Base32.key_eq_ok_iff, Base32.key_eq_error_iff, Base32.codeOfSecret_encode,
  Base32.key_whole_or_refused
-/
import OneTimePassword.Hotp
import OneTimePassword.Proofs.Base32.Decoding
import OneTimePassword.Proofs.Base32.RoundTrip

namespace OneTimePassword.Base32

variable {text : String} {raw : Bytes} {counter : Int}

/-! ### Lengths -/

/-- The bound on a text's bytes rises in steps of five, so it meets the cap at the end of a step. -/
theorem unusable_iff (text : String) :
    (decodedBound text = 0 ∨ maxKeyLength < decodedBound text) ↔
      ¬ (1 ≤ text.length ∧ text.length ≤ 160) := by
  rw [decodedBound, maxKeyLength]
  omega

/-- A text is read as the whole bytes that its symbols fill. -/
theorem length_of_decode (h : decode text = .ok raw) :
    raw.length = 5 * (written text.toList).length / 8 := by
  cases hfind : text.toList.find? isRefused with
  | some c =>
      rw [decode_of_find?_eq_some hfind] at h
      cases h
  | none =>
      have htext := isReadable_of_find?_eq_none hfind
      rw [decode_of_isReadable htext] at h
      rw [← Except.ok.inj h, length_bytesOf, length_carriedBits htext]

theorem length_written_le (text : String) : (written text.toList).length ≤ text.length := by
  rw [← String.length_toList]
  exact List.length_filter_le _ _

/-! ### Keys -/

theorem key_of_unusable (h : ¬ (1 ≤ text.length ∧ text.length ≤ 160)) :
    key text = .error (.unusableLength (decodedBound text)) := by
  have hbound := (unusable_iff text).mpr h
  simp only [key, Bool.or_eq_true, decide_eq_true_eq, if_pos hbound]
  rfl

/-- The bound that a key is read with is the one that any text is read with. -/
theorem key_of_usable (h : 1 ≤ text.length ∧ text.length ≤ 160) :
    key text = (decode text).bind fun raw =>
      if raw = [] then .error .noKeyMaterial else .ok raw := by
  have hbound := mt (unusable_iff text).mp (not_not_intro h)
  simp only [key, Bool.or_eq_true, decide_eq_true_eq, if_neg hbound]
  change (decode text).bind _ = _
  congr 1
  funext raw
  cases raw with
  | nil => rfl
  | cons => rfl

/-- Two symbols fill a byte, one does not. -/
theorem key_of_decode (h : 1 ≤ text.length ∧ text.length ≤ 160) (hdecode : decode text = .ok raw) :
    key text =
      if 2 ≤ (written text.toList).length then .ok raw else .error .noKeyMaterial := by
  have hlength := length_of_decode hdecode
  rw [key_of_usable h, hdecode]
  change (if raw = [] then _ else _) = _
  by_cases hempty : raw = []
  · have hfew : ¬ 2 ≤ (written text.toList).length := by
      rw [hempty, List.length_nil] at hlength
      omega
    rw [if_pos hempty, if_neg hfew]
  · have hmany : 2 ≤ (written text.toList).length := by
      have hpos := List.length_pos_iff.mpr hempty
      omega
    rw [if_neg hempty, if_pos hmany]

theorem key_eq_ok_iff :
    key text = .ok raw ↔
      (1 ≤ text.length ∧ text.length ≤ 160) ∧ decode text = .ok raw ∧
        2 ≤ (written text.toList).length := by
  by_cases husable : 1 ≤ text.length ∧ text.length ≤ 160
  · cases hdecode : decode text with
    | error e => simp [key_of_usable husable, hdecode, Except.bind]
    | ok bytes =>
        rw [key_of_decode husable hdecode]
        by_cases hmany : 2 ≤ (written text.toList).length
        · simp [husable, hmany]
        · simp [hmany]
  · simp [key_of_unusable husable, husable]

theorem key_eq_error_iff {e : Error} :
    key text = .error e ↔
      (¬ (1 ≤ text.length ∧ text.length ≤ 160) ∧ e = .unusableLength (decodedBound text)) ∨
        (1 ≤ text.length ∧ text.length ≤ 160) ∧
          (decode text = .error e ∨
            (∃ raw, decode text = .ok raw) ∧ (written text.toList).length < 2 ∧
              e = .noKeyMaterial) := by
  by_cases husable : 1 ≤ text.length ∧ text.length ≤ 160
  · cases hdecode : decode text with
    | error cause => simp [key_of_usable husable, hdecode, Except.bind, husable]
    | ok bytes =>
        rw [key_of_decode husable hdecode]
        by_cases hmany : 2 ≤ (written text.toList).length
        · simp [husable, hmany, Nat.not_lt_of_le hmany]
        · simp [husable, hmany, Nat.lt_of_not_le hmany, eq_comm]
  · simp [key_of_unusable husable, husable, eq_comm]

theorem length_of_key (h : key text = .ok raw) : 1 ≤ raw.length ∧ raw.length ≤ 100 := by
  obtain ⟨husable, hdecode, hmany⟩ := key_eq_ok_iff.mp h
  have hlength := length_of_decode hdecode
  have hwritten := length_written_le text
  omega

/-! ### Keys that are written as secrets -/

theorem usable_encode_iff (raw : Bytes) :
    (1 ≤ (encode raw).length ∧ (encode raw).length ≤ 160) ↔
      1 ≤ raw.length ∧ raw.length ≤ 100 := by
  rw [length_encode]
  omega

/-- A key of at most 100 bytes is as good as the secret that it is written as. -/
theorem codeOfSecret_encode (h : 1 ≤ raw.length ∧ raw.length ≤ 100) :
    Hotp.codeOfSecret (encode raw) counter = Hotp.code raw counter := by
  have hkey : key (encode raw) = .ok raw := by
    refine key_eq_ok_iff.mpr ⟨(usable_encode_iff raw).mpr h, decode_encode raw, ?_⟩
    have hlength := length_of_decode (decode_encode raw)
    omega
  rw [Hotp.codeOfSecret, hkey]

theorem codeOfSecret_encode_of_unusable (h : ¬ (1 ≤ raw.length ∧ raw.length ≤ 100)) :
    Hotp.codeOfSecret (encode raw) counter =
      .error (.secret (.unusableLength (decodedBound (encode raw)))) := by
  rw [Hotp.codeOfSecret, key_of_unusable (mt (usable_encode_iff raw).mp h)]

/-- A text of one to 160 characters that is read, and has two symbols at least, stands for all the
bytes that it is read as; any other text is refused, for its length, for a foreign character or for
want of a byte. So a secret written for a key gives the key's codes if the key has one to 100 bytes,
and is refused otherwise. -/
theorem key_whole_or_refused :
    (∀ text : String,
      (∀ raw, key text = .ok raw ↔
        (1 ≤ text.length ∧ text.length ≤ 160) ∧ decode text = .ok raw ∧
          2 ≤ (written text.toList).length) ∧
      (∀ raw, key text = .ok raw →
        raw.length = 5 * (written text.toList).length / 8 ∧ 1 ≤ raw.length ∧ raw.length ≤ 100) ∧
      ∀ e, key text = .error e ↔
        (¬ (1 ≤ text.length ∧ text.length ≤ 160) ∧ e = .unusableLength (decodedBound text)) ∨
          (1 ≤ text.length ∧ text.length ≤ 160) ∧
            (decode text = .error e ∨
              (∃ raw, decode text = .ok raw) ∧ (written text.toList).length < 2 ∧
                e = .noKeyMaterial)) ∧
    ∀ (raw : Bytes) (counter : Int),
      (1 ≤ raw.length ∧ raw.length ≤ 100 →
        Hotp.codeOfSecret (encode raw) counter = Hotp.code raw counter) ∧
      (¬ (1 ≤ raw.length ∧ raw.length ≤ 100) →
        ∃ e, Hotp.codeOfSecret (encode raw) counter = .error (.secret e)) := by
  constructor
  · intro text
    refine ⟨fun _ => key_eq_ok_iff, ?_, fun _ => key_eq_error_iff⟩
    intro raw h
    exact ⟨length_of_decode (key_eq_ok_iff.mp h).2.1, length_of_key h⟩
  · intro raw counter
    exact ⟨codeOfSecret_encode, fun h => ⟨_, codeOfSecret_encode_of_unusable h⟩⟩

/-- The longest secret that is read, and a key of the greatest length, with one more byte and
without any. -/
theorem key_whole_or_refused_at_bounds :
    let longest := String.ofList (List.replicate 160 'a')
    let bytes : Bytes := List.replicate 100 8
    (∃ raw, key longest = .ok raw ∧ raw.length = 100) ∧
      (1 ≤ bytes.length ∧ bytes.length ≤ 100) ∧
      Hotp.codeOfSecret (encode bytes) 1 = Hotp.code bytes 1 ∧
      ¬ (1 ≤ (8 :: bytes).length ∧ (8 :: bytes).length ≤ 100) ∧
      (∃ e, Hotp.codeOfSecret (encode (8 :: bytes)) 1 = .error (.secret e)) ∧
      ∃ e, Hotp.codeOfSecret (encode []) 1 = .error (.secret e) := by
  intro longest bytes
  have hlength : longest.length = 160 := by
    rw [String.length_ofList, List.length_replicate]
  have hreadable : IsReadable longest.toList := by
    intro c hc
    rw [String.toList_ofList] at hc
    obtain rfl := List.eq_of_mem_replicate hc
    exact .inr (by decide)
  have hwritten : (written longest.toList).length = 160 := by
    rw [written, String.toList_ofList, List.filter_replicate_of_pos (by decide),
      List.length_replicate]
  obtain ⟨hkey, hwhole, -⟩ := key_whole_or_refused.1 longest
  have hlongest := (hkey _).mpr
    ⟨⟨by omega, by omega⟩, decode_of_isReadable hreadable, by omega⟩
  have hcount := (hwhole _ hlongest).1
  rw [hwritten] at hcount
  have hgreatest : 1 ≤ bytes.length ∧ bytes.length ≤ 100 := by decide
  have hbeyond : ¬ (1 ≤ (8 :: bytes).length ∧ (8 :: bytes).length ≤ 100) := by decide
  have hnone : ¬ (1 ≤ ([] : Bytes).length ∧ ([] : Bytes).length ≤ 100) := by decide
  exact ⟨⟨_, hlongest, hcount⟩, hgreatest, (key_whole_or_refused.2 bytes 1).1 hgreatest, hbeyond,
    (key_whole_or_refused.2 (8 :: bytes) 1).2 hbeyond, (key_whole_or_refused.2 [] 1).2 hnone⟩

end OneTimePassword.Base32
