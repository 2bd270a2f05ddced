/-
Module: OneTimePassword.Proofs.Percent
Purpose: A text that was escaped for an enrollment URI is made of few characters, and is read back.
Main exports: Text.ofUtf8?, Percent.escape, Percent.encode_eq_ok_iff, Percent.escapedSize,
  Percent.length_escape, Percent.forall_mem_escape, Percent.IsWellEscaped, Percent.decode?,
  Percent.decode?_escape, Percent.hash_notMem_escape
-/
import Mathlib.Data.Bool.AllAny
import OneTimePassword.Percent
import OneTimePassword.Proofs.Text.Integer

namespace OneTimePassword

/-! ### UTF-8 -/

namespace Text

/-- The text of a UTF-8 form. -/
def ofUtf8? (bytes : Bytes) : Option String :=
  bytes.toByteArray.utf8Decode?.map fun characters => String.ofList characters.toList

theorem ofUtf8?_utf8 (text : String) : ofUtf8? (utf8 text) = some text := by
  have hdecode : (utf8 text).toByteArray.utf8Decode? = some text.toList.toArray :=
    List.utf8Decode?_utf8Encode
  rw [ofUtf8?, hdecode, Option.map_some, List.toList_toArray, String.ofList_toList]

theorem utf8_append (first second : String) : utf8 (first ++ second) = utf8 first ++ utf8 second := by
  rw [utf8, String.toList_append, List.flatMap_append]
  rfl

variable {c : Char} {byte : UInt8}

/-- A byte below 128 is a character of its own and not a part of another one. -/
theorem toNat_eq_of_mem_utf8EncodeChar (h : byte ∈ String.utf8EncodeChar c)
    (hascii : byte.toNat < 128) : c.toNat = byte.toNat := by
  unfold String.utf8EncodeChar at h
  dsimp only at h
  by_cases hsingle : c.val.toNat ≤ 127
  · rw [if_pos hsingle] at h
    obtain rfl := List.mem_singleton.mp h
    rw [UInt8.toNat_ofNat', Nat.mod_eq_of_lt (Nat.lt_of_le_of_lt hsingle (by decide))]
    rfl
  · -- the parts of a longer form have their highest bit set
    exfalso
    rw [if_neg hsingle] at h
    split at h
    · simp only [List.mem_cons, List.not_mem_nil, or_false] at h
      rcases h with rfl | rfl
      all_goals
        rw [UInt8.toNat_ofNat'] at hascii
        omega
    · split at h
      · simp only [List.mem_cons, List.not_mem_nil, or_false] at h
        rcases h with rfl | rfl | rfl
        all_goals
          rw [UInt8.toNat_ofNat'] at hascii
          omega
      · simp only [List.mem_cons, List.not_mem_nil, or_false] at h
        rcases h with rfl | rfl | rfl | rfl
        all_goals
          rw [UInt8.toNat_ofNat'] at hascii
          omega

theorem toNat_ofNat_byte (byte : UInt8) : (Char.ofNat byte.toNat).toNat = byte.toNat := by
  have hvalid : byte.toNat.isValidChar := .inl (Nat.lt_trans byte.toNat_lt (by decide))
  rw [Char.ofNat, dif_pos hvalid]
  rfl

/-- A byte below 128 is the form of its character. -/
theorem utf8EncodeChar_ofNat (hascii : byte.toNat < 128) :
    String.utf8EncodeChar (Char.ofNat byte.toNat) = [byte] := by
  have hnat : (Char.ofNat byte.toNat).val.toNat = byte.toNat := toNat_ofNat_byte byte
  unfold String.utf8EncodeChar
  dsimp only
  rw [hnat, if_pos (Nat.le_of_lt_succ hascii), UInt8.ofNat_toNat]

end Text

namespace Percent

/-! ### Single bytes -/

/-- The characters that stand for themselves. -/
def IsPassed (c : Char) : Prop := 0x21 ≤ c.toNat ∧ c.toNat ≤ 0x7e ∧ c ∉ ['%', '&', '?', '=']

/-- The digits of an escaped byte. -/
def IsCapitalHex (c : Char) : Prop := c.isDigit = true ∨ 'A' ≤ c ∧ c ≤ 'F'

instance (c : Char) : Decidable (IsCapitalHex c) :=
  inferInstanceAs (Decidable (c.isDigit = true ∨ 'A' ≤ c ∧ c ≤ 'F'))

/-- The value of a hexadecimal digit, with a capital or a small letter. -/
def hexValue? (c : Char) : Option Nat :=
  if c.isDigit then some (c.toNat - '0'.toNat)
  else if 'A' ≤ c ∧ c ≤ 'F' then some (c.toNat - 'A'.toNat + 10)
  else if 'a' ≤ c ∧ c ≤ 'f' then some (c.toNat - 'a'.toNat + 10)
  else none

theorem hexDigit_of_lt : ∀ value < 16,
    IsCapitalHex (hexDigit value) ∧ hexValue? (hexDigit value) = some value := by
  decide

theorem isPassed_of_not_isEscaped {byte : UInt8} (h : isEscaped byte = false) :
    IsPassed (Char.ofNat byte.toNat) := by
  simp only [isEscaped, Bool.or_eq_false_iff, decide_eq_false_iff_not, UInt8.le_iff_toNat_le] at h
  obtain ⟨⟨hlow, hhigh⟩, hreserved⟩ := h
  rw [IsPassed, Text.toNat_ofNat_byte]
  refine ⟨Nat.lt_of_not_le hlow, Nat.le_of_lt_succ (Nat.lt_of_not_le hhigh), ?_⟩
  intro hmember
  apply hreserved
  have hcode := List.mem_map_of_mem (f := fun c : Char => UInt8.ofNat c.toNat) hmember
  rwa [Text.toNat_ofNat_byte, UInt8.ofNat_toNat] at hcode

/-- A byte is written as the character that it is, or by a percent sign and two digits. -/
theorem encodeByte_cases (byte : UInt8) :
    (∃ c, encodeByte byte = [c] ∧ IsPassed c ∧ String.utf8EncodeChar c = [byte]) ∨
      ∃ high low, encodeByte byte = ['%', high, low] ∧
        (IsCapitalHex high ∧ hexValue? high = some (byte.toNat / 16)) ∧
        (IsCapitalHex low ∧ hexValue? low = some (byte.toNat % 16)) := by
  have hbound := byte.toNat_lt
  unfold encodeByte
  cases hescaped : isEscaped byte with
  | true =>
      exact .inr ⟨_, _, rfl, hexDigit_of_lt _ (by omega), hexDigit_of_lt _ (by omega)⟩
  | false =>
      have hpassed := isPassed_of_not_isEscaped hescaped
      refine .inl ⟨_, rfl, hpassed, Text.utf8EncodeChar_ofNat ?_⟩
      rw [← Text.toNat_ofNat_byte byte]
      exact Nat.lt_succ_of_le (Nat.le_succ_of_le hpassed.2.1)

/-! ### Whole texts -/

/-- The escaped form of a text. -/
def escape (text : String) : List Char := (Text.utf8 text).flatMap encodeByte

variable {text written : String}

/-- A text of at most 3333 bytes is escaped, all others are refused. -/
theorem encode_eq_ok_iff :
    encode text = .ok written ↔
      (Text.utf8 text).length ≤ 3333 ∧ written = String.ofList (escape text) := by
  have hbound : 3 * (Text.utf8 text).length + 1 > maxUriLength ↔
      ¬ (Text.utf8 text).length ≤ 3333 := by
    simp only [maxUriLength]
    omega
  unfold encode
  simp only [hbound]
  by_cases hfits : (Text.utf8 text).length ≤ 3333
  · simp [hfits, escape, eq_comm]
  · simp [hfits]

theorem encode_of_lt (h : 3333 < (Text.utf8 text).length) : encode text = .error .tooLong := by
  cases hencoded : encode text with
  | error e => rfl
  | ok written => exact absurd h (Nat.not_lt_of_le (encode_eq_ok_iff.mp hencoded).1)

/-- The size of a text's escaped form: three for each byte with an escape, one for any other. -/
def escapedSize (text : String) : Nat :=
  (Text.utf8 text).length + 2 * (Text.utf8 text).countP isEscaped

theorem length_escape (text : String) : (escape text).length = escapedSize text := by
  rw [escape, escapedSize]
  induction Text.utf8 text with
  | nil => rfl
  | cons byte rest ih =>
      rw [List.flatMap_cons, List.length_append, ih, List.length_cons]
      cases hescaped : isEscaped byte with
      | true =>
          rw [List.countP_cons_of_pos hescaped, encodeByte, if_pos hescaped]
          simp only [List.length_cons, List.length_nil]
          omega
      | false =>
          have hpassed : ¬ isEscaped byte = true := Bool.eq_false_iff.mp hescaped
          rw [List.countP_cons_of_neg hpassed, encodeByte, if_neg hpassed, List.length_singleton]
          omega

theorem escapedSize_le (text : String) : escapedSize text ≤ 3 * (Text.utf8 text).length := by
  have hescaped := List.countP_le_length (p := isEscaped) (l := Text.utf8 text)
  rw [escapedSize]
  omega

theorem escape_append (first second : String) :
    escape (first ++ second) = escape first ++ escape second := by
  rw [escape, Text.utf8_append, List.flatMap_append]
  rfl

/-- What holds of the characters that stand for themselves, of percent signs and of digits holds of
all characters of an escaped text. -/
theorem forall_mem_escape {p : Char → Prop} (hpassed : ∀ c, IsPassed c → p c) (hpercent : p '%')
    (hhex : ∀ c, IsCapitalHex c → p c) (text : String) : ∀ c ∈ escape text, p c := by
  intro c hc
  obtain ⟨byte, -, hbyte⟩ := List.mem_flatMap.mp hc
  rcases encodeByte_cases byte with ⟨passed, hwritten, h, -⟩ | ⟨high, low, hwritten, hhigh, hlow⟩
  · rw [hwritten] at hbyte
    obtain rfl := List.mem_singleton.mp hbyte
    exact hpassed c h
  · rw [hwritten] at hbyte
    simp only [List.mem_cons, List.not_mem_nil, or_false] at hbyte
    rcases hbyte with rfl | rfl | rfl
    · exact hpercent
    · exact hhex c hhigh.1
    · exact hhex c hlow.1

/-- Nothing in an escaped text is taken for the mark between two parts of a URI. -/
theorem reserved_notMem_escape (text : String) :
    '&' ∉ escape text ∧ '?' ∉ escape text ∧ '=' ∉ escape text := by
  have hkeeps (mark : Char) (hmark : mark ∈ ['&', '?', '=']) : mark ∉ escape text := by
    have hhex : ∀ mark ∈ ['&', '?', '='], ¬ IsCapitalHex mark :=
      List.all_iff_forall_prop.mp (by decide)
    have hdiffers : ∀ c ∈ escape text, c ≠ mark := by
      apply forall_mem_escape
      · rintro c ⟨-, -, hpassed⟩ rfl
        exact hpassed (List.mem_cons_of_mem _ hmark)
      · rintro rfl
        exact absurd hmark (by decide)
      · rintro c hc rfl
        exact hhex c hmark hc
    exact fun h => hdiffers mark h rfl
  exact ⟨hkeeps _ (by decide), hkeeps _ (by decide), hkeeps _ (by decide)⟩

/-- The visible characters of ASCII. -/
def IsVisible (c : Char) : Prop := 0x21 ≤ c.toNat ∧ c.toNat ≤ 0x7e

instance (c : Char) : Decidable (IsVisible c) :=
  inferInstanceAs (Decidable (0x21 ≤ c.toNat ∧ c.toNat ≤ 0x7e))

theorem IsCapitalHex.isVisible {c : Char} (h : IsCapitalHex c) : IsVisible c := by
  rcases h with hdigit | ⟨hfirst, hlast⟩
  · obtain ⟨hleast, hgreatest⟩ := Text.isDigit_iff.mp hdigit
    exact ⟨Nat.le_trans (by decide) hleast, Nat.le_trans hgreatest (by decide)⟩
  · exact ⟨Nat.le_trans (by decide) (UInt32.le_iff_toNat_le.mp hfirst),
      Nat.le_trans (UInt32.le_iff_toNat_le.mp hlast) (by decide)⟩

theorem isVisible_of_mem_escape (text : String) : ∀ c ∈ escape text, IsVisible c :=
  forall_mem_escape (fun _ h => ⟨h.1, h.2.1⟩) (by decide) (fun _ h => h.isVisible) text

/-! ### Percent signs -/

/-- Each percent sign has two digits behind it. -/
def IsWellEscaped (s : List Char) : Prop :=
  ∀ before after, s = before ++ '%' :: after →
    ∃ high low rest, after = high :: low :: rest ∧ IsCapitalHex high ∧ IsCapitalHex low

theorem isWellEscaped_of_notMem {s : List Char} (h : '%' ∉ s) : IsWellEscaped s := by
  rintro before after rfl
  simp at h

theorem IsWellEscaped.append {s t : List Char} (hs : IsWellEscaped s) (ht : IsWellEscaped t) :
    IsWellEscaped (s ++ t) := by
  intro before after h
  rcases List.append_eq_append_iff.mp h with ⟨middle, hbefore, ht'⟩ | ⟨middle, hs', hafter⟩
  · exact ht middle after ht'
  · cases middle with
    | nil => exact ht [] after hafter.symm
    | cons c middle =>
        obtain ⟨rfl, rfl⟩ := List.cons.inj hafter
        obtain ⟨high, low, rest, rfl, hdigits⟩ := hs before middle hs'
        exact ⟨high, low, rest ++ t, rfl, hdigits⟩

theorem isWellEscaped_encodeByte (byte : UInt8) : IsWellEscaped (encodeByte byte) := by
  rcases encodeByte_cases byte with ⟨c, hwritten, hpassed, -⟩ | ⟨high, low, hwritten, hhigh, hlow⟩
  · rw [hwritten]
    apply isWellEscaped_of_notMem
    rw [List.mem_singleton]
    rintro rfl
    exact hpassed.2.2 (by decide)
  · rw [hwritten]
    intro before after h
    cases before with
    | nil =>
        obtain ⟨-, rfl⟩ := List.cons.inj h
        exact ⟨high, low, [], rfl, hhigh.1, hlow.1⟩
    | cons first before =>
        -- neither of the digits is a percent sign
        have hmember : '%' ∈ [high, low] := by
          rw [(List.cons.inj h).2]
          exact List.mem_append_right _ List.mem_cons_self
        have hpercent : ¬ IsCapitalHex '%' := by decide
        simp only [List.mem_cons, List.not_mem_nil, or_false] at hmember
        rcases hmember with rfl | rfl
        · exact absurd hhigh.1 hpercent
        · exact absurd hlow.1 hpercent

theorem isWellEscaped_escape (text : String) : IsWellEscaped (escape text) := by
  unfold escape
  induction Text.utf8 text with
  | nil => exact isWellEscaped_of_notMem List.not_mem_nil
  | cons byte rest ih => exact (isWellEscaped_encodeByte byte).append ih

/-! ### Reading back -/

/-- The bytes of an escaped text. -/
def bytes? : List Char → Option Bytes
  | [] => some []
  | '%' :: high :: low :: rest => do
      let high ← hexValue? high
      let low ← hexValue? low
      let bytes ← bytes? rest
      pure (UInt8.ofNat (16 * high + low) :: bytes)
  | c :: rest =>
      if c = '%' then none else (bytes? rest).map (String.utf8EncodeChar c ++ ·)

/-- An escaped text without its escapes. -/
def decode? (s : List Char) : Option String := (bytes? s).bind Text.ofUtf8?

/-- A byte is read back, whatever stands behind it. -/
theorem bytes?_encodeByte_append (byte : UInt8) (rest : List Char) :
    bytes? (encodeByte byte ++ rest) = (bytes? rest).map (byte :: ·) := by
  rcases encodeByte_cases byte with ⟨c, hwritten, hpassed, hbyte⟩ | ⟨high, low, hwritten, hhigh, hlow⟩
  · have hpercent : c ≠ '%' := by
      rintro rfl
      exact hpassed.2.2 (by decide)
    rw [hwritten, List.singleton_append, bytes?]
    · rw [if_neg hpercent, hbyte]
      rfl
    · rintro high low rest' rfl
      exact absurd rfl hpercent
  · have hvalue : UInt8.ofNat (16 * (byte.toNat / 16) + byte.toNat % 16) = byte := by
      rw [Nat.div_add_mod, UInt8.ofNat_toNat]
    rw [hwritten]
    change bytes? ('%' :: high :: low :: rest) = _
    rw [bytes?, hhigh.2, hlow.2]
    cases bytes? rest with
    | none => rfl
    | some bytes => exact congrArg (fun first => some (first :: bytes)) hvalue

theorem decode?_escape (text : String) : decode? (escape text) = some text := by
  have hbytes (raw : Bytes) : bytes? (raw.flatMap encodeByte) = some raw := by
    induction raw with
    | nil => rfl
    | cons byte rest ih =>
        rw [List.flatMap_cons, bytes?_encodeByte_append, ih]
        rfl
  rw [decode?, escape, hbytes, Option.bind_some, Text.ofUtf8?_utf8]

/-! ### Number signs -/

/-- A number sign is not escaped, and nothing else becomes one. -/
theorem hash_notMem_escape (h : '#' ∉ text.toList) : '#' ∉ escape text := by
  intro hhash
  obtain ⟨byte, hbyte, hwritten⟩ := List.mem_flatMap.mp hhash
  rcases encodeByte_cases byte with ⟨c, hc, -, hform⟩ | ⟨high, low, hhex, hhigh, hlow⟩
  · rw [hc] at hwritten
    obtain rfl := List.mem_singleton.mp hwritten
    obtain rfl : 0x23 = byte := List.head_eq_of_cons_eq hform
    obtain ⟨c, hmember, hpart⟩ := List.mem_flatMap.mp hbyte
    have hcode : c.toNat = '#'.toNat := Text.toNat_eq_of_mem_utf8EncodeChar hpart (by decide)
    exact h (Char.toNat_inj.mp hcode ▸ hmember)
  · have hdigit : ¬ IsCapitalHex '#' := by decide
    rw [hhex] at hwritten
    simp only [List.mem_cons, List.not_mem_nil, or_false] at hwritten
    rcases hwritten with hpercent | rfl | rfl
    · exact absurd hpercent (by decide)
    · exact hdigit hhigh.1
    · exact hdigit hlow.1

/-- A number sign is written as it is. -/
theorem escape_of_hash (front behind : String) :
    escape (front ++ "#" ++ behind) = escape front ++ '#' :: escape behind := by
  have hhash : escape "#" = ['#'] := by decide +kernel
  rw [escape_append, escape_append, hhash, List.append_assoc, List.singleton_append]

theorem exists_front_of_hash (h : '#' ∈ text.toList) :
    ∃ front behind, text = front ++ "#" ++ behind ∧ '#' ∉ front.toList := by
  obtain ⟨front, behind, htext, hfront⟩ := List.eq_append_cons_of_mem h
  refine ⟨String.ofList front, String.ofList behind, ?_, ?_⟩
  · apply String.toList_inj.mp
    rw [htext]
    simp
  · rwa [String.toList_ofList]

end Percent

end OneTimePassword
