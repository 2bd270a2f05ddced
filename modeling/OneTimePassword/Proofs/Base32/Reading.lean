/-
Module: OneTimePassword.Proofs.Base32.Reading
Purpose: The bits that a register and the bytes before it hold after each character, and from them
  what a text is read as.
Main exports: Base32.IsReadable, Base32.Reading.bits, Base32.Reading.bits_push,
  Base32.Reading.exists_follow, Base32.decodeAtMost_of_isReadable,
  Base32.decodeAtMost_of_complete, Base32.decodeAtMost_of_foreign
-/
import OneTimePassword.Proofs.Base32.Bits

namespace OneTimePassword.Base32

variable {text front rest : List Char} {c : Char} {limit : Int}

/-- Every character is a separator or has a value. -/
def IsReadable (text : List Char) : Prop :=
  ∀ c ∈ text, isSeparator c = true ∨ (value? c).isSome = true

instance (text : List Char) : Decidable (IsReadable text) :=
  List.decidableBAll (fun c => isSeparator c = true ∨ (value? c).isSome = true) text

theorem value?_lt {value : Nat} (h : value? c = some value) : value < 32 := by
  unfold value? at h
  split at h
  · exact (List.findIdx?_eq_some_iff_findIdx_eq.mp h).1
  · cases h

namespace Reading

variable {reading : Reading} {value : Nat}

/-! ### One more character -/

/-- All bits read: those of the complete bytes, then the pending ones. -/
def bits (reading : Reading) : List Bool :=
  byteBits reading.bytes.toList ++ bitsOf reading.pending reading.register

theorem length_bits (reading : Reading) :
    reading.bits.length = 8 * reading.bytes.size + reading.pending := by
  rw [bits, List.length_append, length_byteBits, length_bitsOf, Array.length_toList]

/-- Pending bits never fill a byte, so the complete bytes are what all bits come to. -/
theorem bytesOf_bits_append (reading : Reading) (bits : List Bool) :
    bytesOf (reading.bits ++ bits) = reading.bytes.toList ++
      bytesOf (bitsOf reading.pending reading.register ++ bits) := by
  rw [Reading.bits, List.append_assoc, bytesOf_byteBits_append]

theorem bytesOf_bits (reading : Reading) : bytesOf reading.bits = reading.bytes.toList := by
  have hpending : (bitsOf reading.pending reading.register).length < 8 := by
    rw [length_bitsOf]
    exact reading.pending_lt
  rw [bits, bytesOf_byteBits_append, bytesOf_of_length_lt hpending, List.append_nil]

/-- Once a value is shifted in, the register holds the bits that were pending and, below them, those
of the value. They are twelve at most, so the mask takes none of them away. -/
theorem bitsOf_shifted {pending : Nat} (register : Nat) (hpending : pending < 8)
    (hvalue : value < 32) :
    bitsOf (pending + bitsPerSymbol) ((register <<< bitsPerSymbol ||| value) &&& registerMask) =
      bitsOf pending register ++ bitsOf bitsPerSymbol value := by
  have hmask : registerMask = 2 ^ 16 - 1 := rfl
  rw [bitsOf_add, hmask]
  congr 1
  · apply bitsOf_congr
    intro place hplace
    have hkept : bitsPerSymbol + place < 16 := by
      rw [bitsPerSymbol]
      omega
    have hbeyond : value.testBit (bitsPerSymbol + place) = false := by
      apply Nat.testBit_lt_two_pow
      have hpow : 2 ^ 5 ≤ 2 ^ (bitsPerSymbol + place) :=
        Nat.pow_le_pow_right Nat.two_pos (Nat.le_add_right _ place)
      exact Nat.lt_of_lt_of_le hvalue hpow
    rw [Nat.testBit_shiftRight, Nat.testBit_and, Nat.testBit_or, Nat.testBit_shiftLeft,
      Nat.testBit_two_pow_sub_one, hbeyond]
    simp [hkept]
  · apply bitsOf_congr
    intro place hplace
    have hkept : place < 16 := Nat.lt_trans hplace (by decide)
    have hvacant : ¬ bitsPerSymbol ≤ place := Nat.not_le_of_lt hplace
    rw [Nat.testBit_and, Nat.testBit_or, Nat.testBit_shiftLeft, Nat.testBit_two_pow_sub_one]
    simp [hkept, hvacant]

/-- A value adds its five bits, whether or not they complete a byte. -/
theorem bits_push (reading : Reading) (hvalue : value < 32) :
    (reading.push value).bits = reading.bits ++ bitsOf bitsPerSymbol value := by
  have hshifted := bitsOf_shifted reading.register reading.pending_lt hvalue
  rw [bits, bits, List.append_assoc, ← hshifted]
  unfold push
  dsimp only
  generalize (reading.register <<< bitsPerSymbol ||| value) &&& registerMask = register
  split
  · rfl
  · rename_i hfull
    have hsplit := bitsOf_add 8 (reading.pending + bitsPerSymbol - 8) register
    rw [Nat.add_sub_cancel' (Nat.le_of_not_lt hfull)] at hsplit
    rw [Array.toList_push, byteBits_concat, bitsOf_ofNat_byte, List.append_assoc, ← hsplit]

/-- Reading a character adds the bits that it carries. -/
theorem exists_next (reading : Reading) (h : isSeparator c = true ∨ (value? c).isSome = true) :
    ∃ after, reading.next c = .ok after ∧ after.bits = reading.bits ++ carriedBits [c] := by
  by_cases hseparator : isSeparator c = true
  · refine ⟨reading, if_pos hseparator, ?_⟩
    rw [carriedBits, List.flatMap_singleton, value?_of_isSeparator hseparator, List.append_nil]
  · obtain ⟨value, hvalue⟩ := Option.isSome_iff_exists.mp (h.resolve_left hseparator)
    refine ⟨reading.push value, ?_, ?_⟩
    · rw [next, if_neg hseparator, hvalue]
    · rw [bits_push reading (value?_lt hvalue), carriedBits, List.flatMap_singleton, hvalue]

theorem next_of_foreign (reading : Reading) (hseparator : isSeparator c = false)
    (hvalue : value? c = none) : reading.next c = .error (.foreignCharacter c) := by
  rw [next, hseparator, hvalue]
  rfl

/-! ### Whole texts -/

theorem follow_of_le (h : limit ≤ reading.bytes.size) (text : List Char) :
    reading.follow limit text = .ok reading := by
  cases text with
  | nil => rfl
  | cons c rest => exact if_pos h

theorem follow_cons_of_lt (h : reading.bytes.size < limit) (c : Char) (rest : List Char) :
    reading.follow limit (c :: rest) = (reading.next c).bind fun after => after.follow limit rest :=
  if_neg (Int.not_le.mpr h)

/-- A text is read part by part. -/
theorem follow_append (reading : Reading) (front rest : List Char) :
    reading.follow limit (front ++ rest) =
      (reading.follow limit front).bind fun after => after.follow limit rest := by
  induction front generalizing reading with
  | nil => rfl
  | cons c front ih =>
      by_cases hfull : limit ≤ reading.bytes.size
      · rw [follow_of_le hfull, follow_of_le hfull]
        exact (follow_of_le hfull rest).symm
      · have hopen := Int.not_le.mp hfull
        rw [List.cons_append, follow_cons_of_lt hopen, follow_cons_of_lt hopen]
        cases reading.next c with
        | error => rfl
        | ok after => exact ih after

/-- Where each character can be read, the bits that the text carries come behind those that were
there, and of the bytes that they come to as many are complete in the end as are wanted. -/
theorem exists_follow (reading : Reading) (htext : IsReadable text)
    (hfits : reading.bytes.size ≤ limit.toNat) :
    ∃ after, reading.follow limit text = .ok after ∧
      after.bytes.toList = (bytesOf (reading.bits ++ carriedBits text)).take limit.toNat := by
  induction text generalizing reading with
  | nil =>
      refine ⟨reading, rfl, ?_⟩
      rw [carriedBits, List.flatMap_nil, List.append_nil, bytesOf_bits, List.take_of_length_le]
      rwa [Array.length_toList]
  | cons c rest ih =>
      by_cases hfull : limit ≤ reading.bytes.size
      · refine ⟨reading, follow_of_le hfull _, ?_⟩
        have hsize : reading.bytes.toList.length = limit.toNat := by
          rw [Array.length_toList]
          omega
        rw [bytesOf_bits_append, List.take_left' hsize]
      · obtain ⟨next, hnext, hbits⟩ := exists_next reading (htext c List.mem_cons_self)
        have hgrown : next.bytes.size ≤ limit.toNat := by
          have hbefore := length_bits reading
          have hafter := length_bits next
          have hadded := length_carriedBits_singleton_le c
          have hpending := reading.pending_lt
          rw [hbits, List.length_append, hbefore] at hafter
          rw [bitsPerSymbol] at hadded
          omega
        obtain ⟨after, hafter, hbytes⟩ :=
          ih next (fun other hother => htext other (List.mem_cons_of_mem _ hother)) hgrown
        refine ⟨after, ?_, ?_⟩
        · rw [follow_cons_of_lt (Int.not_le.mp hfull), hnext]
          exact hafter
        · rw [hbytes, hbits, List.append_assoc, ← carriedBits_append, List.singleton_append]

end Reading

/-! ### What a text is read as -/

theorem exists_follow_start (htext : IsReadable text) (limit : Int) :
    ∃ after, Reading.start.follow limit text = .ok after ∧
      after.bytes.toList = (bytesOf (carriedBits text)).take limit.toNat :=
  Reading.exists_follow .start htext (Nat.zero_le _)

theorem decodeAtMost_of_isReadable {text : String} (htext : IsReadable text.toList) (limit : Int) :
    decodeAtMost limit text = .ok ((bytesOf (carriedBits text.toList)).take limit.toNat) := by
  obtain ⟨after, hafter, hbytes⟩ := exists_follow_start htext limit
  rw [decodeAtMost, hafter, ← hbytes]
  rfl

/-- The bound on a text's bytes is met, so none of them is left out. -/
theorem decode_of_isReadable {text : String} (htext : IsReadable text.toList) :
    decode text = .ok (bytesOf (carriedBits text.toList)) := by
  have hbound :
      (bytesOf (carriedBits text.toList)).length ≤ (decodedBound text : Int).toNat := by
    have hcarried := length_carriedBits_le text.toList
    rw [String.length_toList] at hcarried
    rw [length_bytesOf, Int.toNat_natCast, decodedBound]
    omega
  rw [decode, decodeAtMost_of_isReadable htext, List.take_of_length_le hbound]

/-- Behind the character that completes the last byte wanted, anything may stand. -/
theorem decodeAtMost_of_complete (hfront : IsReadable front)
    (hcomplete : 8 * limit ≤ (carriedBits front).length) (rest : List Char) :
    decodeAtMost limit (String.ofList (front ++ rest)) =
      .ok ((bytesOf (carriedBits front)).take limit.toNat) := by
  obtain ⟨after, hafter, hbytes⟩ := exists_follow_start hfront limit
  have hfull : limit ≤ after.bytes.size := by
    have hsize := congrArg List.length hbytes
    rw [Array.length_toList, List.length_take, length_bytesOf] at hsize
    omega
  rw [decodeAtMost, String.toList_ofList, Reading.follow_append, hafter, ← hbytes]
  exact congrArg (Except.map (·.bytes.toList)) (Reading.follow_of_le hfull rest)

/-- A foreign character in front of the end of the last byte wanted is an error, whatever follows. -/
theorem decodeAtMost_of_foreign (hfront : IsReadable front)
    (hwanted : (carriedBits front).length < 8 * limit) (hseparator : isSeparator c = false)
    (hvalue : value? c = none) (rest : List Char) :
    decodeAtMost limit (String.ofList (front ++ c :: rest)) = .error (.foreignCharacter c) := by
  obtain ⟨after, hafter, hbytes⟩ := exists_follow_start hfront limit
  have hopen : after.bytes.size < limit := by
    have hsize := congrArg List.length hbytes
    rw [Array.length_toList, List.length_take, length_bytesOf] at hsize
    omega
  have herror : after.follow limit (c :: rest) = .error (.foreignCharacter c) := by
    rw [Reading.follow_cons_of_lt hopen, Reading.next_of_foreign after hseparator hvalue]
    rfl
  rw [decodeAtMost, String.toList_ofList, Reading.follow_append, hafter]
  exact congrArg (Except.map (·.bytes.toList)) herror

end OneTimePassword.Base32
