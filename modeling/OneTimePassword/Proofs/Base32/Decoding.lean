/-
Module: OneTimePassword.Proofs.Base32.Decoding
Purpose: The bytes of a text are the leading bits of its values, and a text is refused for the first
  foreign character in it.
Main exports: Base32.written, Base32.spelling, Base32.decode_leading_bits,
  Base32.decode_eq_error_iff
-/
import Mathlib.Data.List.Basic
import OneTimePassword.Proofs.Base32.Characters
import OneTimePassword.Proofs.Base32.Reading

namespace OneTimePassword.Base32

variable {text front rest : List Char} {c : Char}

/-! ### What is written between separators -/

/-- The characters that are no separators. -/
def written (text : List Char) : List Char := text.filter (!isSeparator ·)

/-- What is written, with the ASCII letters as capitals. -/
def spelling (text : List Char) : List Char := (written text).map Char.toUpper

theorem mem_written_iff : c ∈ written text ↔ c ∈ text ∧ isSeparator c = false := by
  rw [written, List.mem_filter, Bool.not_eq_true']

theorem carriedBits_eq (text : List Char) :
    carriedBits text = ((written text).filterMap value?).flatMap (bitsOf bitsPerSymbol) := by
  induction text with
  | nil => rfl
  | cons c rest ih =>
      rw [← List.singleton_append, carriedBits_append, ih]
      cases hseparator : isSeparator c with
      | true => simp [carriedBits, written, hseparator, value?_of_isSeparator hseparator]
      | false =>
          cases hvalue : value? c with
          | none => simp [carriedBits, written, hseparator, hvalue]
          | some value => simp [carriedBits, written, hseparator, hvalue]

/-- A text can be read if all that is written in it has a value. -/
theorem isReadable_iff : IsReadable text ↔ ∀ c ∈ written text, (value? c).isSome = true := by
  constructor
  · intro htext c hc
    obtain ⟨hmember, hseparator⟩ := mem_written_iff.mp hc
    refine (htext c hmember).resolve_left ?_
    rw [hseparator]
    exact Bool.false_ne_true
  · intro hwritten c hc
    cases hseparator : isSeparator c with
    | true => exact .inl rfl
    | false => exact .inr (hwritten c (mem_written_iff.mpr ⟨hc, hseparator⟩))

theorem map_value?_eq (h : IsReadable text) :
    (written text).map value? = ((written text).filterMap value?).map some := by
  have hwritten := isReadable_iff.mp h
  generalize written text = symbols at hwritten
  induction symbols with
  | nil => rfl
  | cons c rest ih =>
      obtain ⟨value, hvalue⟩ := Option.isSome_iff_exists.mp (hwritten c List.mem_cons_self)
      rw [List.map_cons, List.filterMap_cons_some hvalue, List.map_cons, hvalue,
        ih fun other hother => hwritten other (List.mem_cons_of_mem _ hother)]

theorem length_carriedBits (h : IsReadable text) :
    (carriedBits text).length = 5 * (written text).length := by
  have hcount := congrArg List.length (map_value?_eq h)
  rw [List.length_map, List.length_map] at hcount
  rw [carriedBits_eq, hcount, List.length_flatMap]
  simp [bitsPerSymbol, Nat.mul_comm]

/-- A letter counts the same in either case. -/
theorem filterMap_spelling (text : List Char) :
    (spelling text).filterMap value? = (written text).filterMap value? := by
  have hvalue : value? ∘ Char.toUpper = value? := funext value?_toUpper
  rw [spelling, List.filterMap_map, hvalue]

theorem isReadable_iff_spelling :
    IsReadable text ↔ ∀ c ∈ spelling text, (value? c).isSome = true := by
  simp only [isReadable_iff, spelling, List.forall_mem_map, value?_toUpper]

/-- Separators, and whether a letter is small or a capital, make no difference. -/
theorem decode_of_spelling_eq {text other : String} (htext : IsReadable text.toList)
    (h : spelling other.toList = spelling text.toList) :
    decode other = .ok (bytesOf (carriedBits text.toList)) := by
  have hother : IsReadable other.toList := by
    rw [isReadable_iff_spelling, h, ← isReadable_iff_spelling]
    exact htext
  rw [decode_of_isReadable hother, carriedBits_eq, ← filterMap_spelling, h, filterMap_spelling,
    ← carriedBits_eq]

/-- Where each character can be read, the bytes of a text are the leading bits of its values, put
one behind the other and cut off at the last whole byte. It makes no difference where separators
stand and in which case letters are written. With a limit the first bytes are read, and behind the
character that completes the last of them anything may stand. -/
theorem decode_leading_bits {text : String} (htext : IsReadable text.toList) :
    ∃ (values : List Nat) (raw : Bytes),
      (written text.toList).map value? = values.map some ∧
      (∀ value ∈ values, value < 32) ∧
      raw.length = 5 * values.length / 8 ∧
      byteBits raw = (values.flatMap (bitsOf bitsPerSymbol)).take (8 * raw.length) ∧
      decode text = .ok raw ∧
      (∀ other : String, spelling other.toList = spelling text.toList → decode other = .ok raw) ∧
      (∀ limit : Int, decodeAtMost limit text = .ok (raw.take limit.toNat)) ∧
      ∀ (limit : Int) (front rest : List Char), front <+: text.toList →
        8 * limit ≤ 5 * (written front).length →
          decodeAtMost limit (String.ofList (front ++ rest)) = .ok (raw.take limit.toNat) := by
  have hvalues := map_value?_eq htext
  have hcount := congrArg List.length hvalues
  rw [List.length_map, List.length_map] at hcount
  have hlength : (bytesOf (carriedBits text.toList)).length =
      5 * ((written text.toList).filterMap value?).length / 8 := by
    rw [length_bytesOf, length_carriedBits htext, hcount]
  refine ⟨(written text.toList).filterMap value?, bytesOf (carriedBits text.toList), hvalues, ?_,
    hlength, ?_, decode_of_isReadable htext, fun _ => decode_of_spelling_eq htext,
    decodeAtMost_of_isReadable htext, ?_⟩
  · intro value hvalue
    obtain ⟨c, -, hc⟩ := List.mem_filterMap.mp hvalue
    exact value?_lt hc
  · rw [byteBits_bytesOf, length_bytesOf, carriedBits_eq]
  · rintro limit front rest ⟨back, hback⟩ hcomplete
    have hfront : IsReadable front := fun c hc =>
      htext c (hback ▸ List.mem_append_left back hc)
    have hbits : 8 * limit ≤ (carriedBits front).length := by
      rw [length_carriedBits hfront]
      exact hcomplete
    have hwhole : String.ofList (front ++ back) = text := by
      rw [hback, String.ofList_toList]
    rw [decodeAtMost_of_complete hfront hbits, ← decodeAtMost_of_complete hfront hbits back, hwhole,
      decodeAtMost_of_isReadable htext]

/-- Separators, small letters, the two characters outside ASCII and a rest that fills no byte. -/
theorem decode_leading_bits_of_spaced_text :
    IsReadable "mZ-xw 6=ſı".toList ∧ decode "mZ-xw 6=ſı" = .ok [0x66, 0x6f, 0x6f, 0x49] ∧
      decode "MZXW6ſı" = .ok [0x66, 0x6f, 0x6f, 0x49] ∧
      decodeAtMost 2 "mZ-xw!?" = .ok [0x66, 0x6f] ∧ decodeAtMost (-1) "!" = .ok [] := by
  have htext : IsReadable "mZ-xw 6=ſı".toList := by decide
  obtain ⟨values, raw, hvalues, -, hlength, hbits, hdecode, hspelling, -, hfront⟩ :=
    decode_leading_bits htext
  obtain rfl : raw = [0x66, 0x6f, 0x6f, 0x49] := by
    have hraw : decode "mZ-xw 6=ſı" = .ok [0x66, 0x6f, 0x6f, 0x49] := by decide
    exact Except.ok.inj (hdecode.symm.trans hraw)
  exact ⟨htext, hdecode, hspelling "MZXW6ſı" (by decide),
    hfront 2 "mZ-xw".toList "!?".toList (by decide) (by decide),
    hfront (-1) [] "!".toList (by decide) (by decide)⟩

/-! ### What is refused -/

/-- The characters that no text may hold. -/
def isRefused (c : Char) : Bool := isForeign c && !folded.contains c

theorem isRefused_eq_false_iff :
    isRefused c = false ↔ isSeparator c = true ∨ (value? c).isSome = true := by
  rw [readable_iff, isRefused, Bool.and_eq_false_iff, Bool.not_eq_false', List.contains_iff_mem]

theorem isReadable_of_find?_eq_none (h : text.find? isRefused = none) : IsReadable text :=
  fun c hc => isRefused_eq_false_iff.mp (Bool.eq_false_iff.mpr (List.find?_eq_none.mp h c hc))

/-- The bound on a text's bytes is not reached before its last character, so no character is passed
over. -/
theorem decode_of_find?_eq_some {text : String} (h : text.toList.find? isRefused = some c) :
    decode text = .error (.foreignCharacter c) := by
  obtain ⟨hrefused, front, rest, htext, hfront⟩ := List.find?_eq_some_iff_append.mp h
  have hreadable : IsReadable front := by
    intro other hother
    have hpassed := hfront other hother
    rw [Bool.not_eq_true'] at hpassed
    exact isRefused_eq_false_iff.mp hpassed
  have hwanted : (carriedBits front).length < 8 * (decodedBound text : Int) := by
    have hcarried := length_carriedBits_le front
    have hlength := congrArg List.length htext
    rw [String.length_toList, List.length_append, List.length_cons] at hlength
    rw [decodedBound]
    omega
  have hforeign : ¬ (isSeparator c = true ∨ (value? c).isSome = true) := by
    rw [← isRefused_eq_false_iff, hrefused]
    exact Bool.noConfusion
  have hseparator : isSeparator c = false := Bool.eq_false_iff.mpr fun h => hforeign (.inl h)
  have hvalue : value? c = none := Option.not_isSome_iff_eq_none.mp fun h => hforeign (.inr h)
  have hrefusal := decodeAtMost_of_foreign hreadable hwanted hseparator hvalue rest
  rwa [← htext, String.ofList_toList] at hrefusal

/-- A text is refused if a character in it is neither an ASCII letter nor a digit from two to seven
nor a separator, the dotless i and the long s apart, and the message names the first such character.
All other texts are read. -/
theorem decode_eq_error_iff (text : String) (e : Error) :
    decode text = .error e ↔
      ∃ c, text.toList.find? (fun c => isForeign c && !folded.contains c) = some c ∧
        e = .foreignCharacter c ∧
        e.message = "Invalid Base32 character " ++ Text.quoted (String.singleton c) := by
  change _ ↔ ∃ c, text.toList.find? isRefused = some c ∧ _
  cases hfind : text.toList.find? isRefused with
  | none =>
      rw [decode_of_isReadable (isReadable_of_find?_eq_none hfind)]
      constructor
      · exact nofun
      · rintro ⟨c, hc, -⟩
        cases hc
  | some c =>
      rw [decode_of_find?_eq_some hfind]
      constructor
      · rintro ⟨⟩
        exact ⟨c, rfl, rfl, rfl⟩
      · rintro ⟨_, ⟨⟩, rfl, -⟩
        rfl

/-- The long s is neither an ASCII letter nor a digit nor a separator, and yet it is read. -/
theorem long_s_is_read :
    (∃ c ∈ "ſA".toList, isForeign c = true) ∧ ¬ ∃ e, decode "ſA" = .error e := by
  have hread : decode "ſA" = .ok [0x90] := by decide
  refine ⟨⟨'ſ', by decide, by decide⟩, ?_⟩
  rintro ⟨e, herror⟩
  rw [hread] at herror
  cases herror

end OneTimePassword.Base32
