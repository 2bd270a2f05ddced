/-
Module: OneTimePassword.Proofs.EnrollmentUri.Size
Purpose: How long an enrollment URI is, and which are refused for their length.
Main exports: EnrollmentUri.IsOverlong, EnrollmentUri.size, EnrollmentUri.render_of_isOverlong,
  EnrollmentUri.exists_render, EnrollmentUri.render_size, EnrollmentUri.oversize_of_blank_label
-/
import OneTimePassword.Proofs.EnrollmentUri.Reader
import OneTimePassword.Proofs.Text.Plain

namespace OneTimePassword.EnrollmentUri

open Percent (escape escapedSize)

variable {uri : EnrollmentUri}

/-- The label or the issuer alone could take up a whole URI if each of its bytes had an escape. -/
def IsOverlong (uri : EnrollmentUri) : Prop :=
  3333 < (Text.utf8 uri.label).length ∨ ∃ issuer ∈ uri.issuer, 3333 < (Text.utf8 issuer).length

/-- The bytes of a URI whose secret has 32 symbols: the scheme, the type, the secret and the marks
take 55, the field of an issuer eight and what the issuer takes. -/
def size (uri : EnrollmentUri) : Nat :=
  55 + escapedSize uri.label + uri.issuer?.elim 0 fun issuer => 8 + escapedSize issuer

/-! ### Refused URIs -/

theorem render_of_isOverlong (h : uri.IsOverlong) : uri.render = .error .tooLong := by
  unfold render
  by_cases hlabel : 3333 < (Text.utf8 uri.label).length
  · rw [Percent.encode_of_lt hlabel]
    rfl
  · obtain ⟨issuer, hgiven, hissuer⟩ := h.resolve_left hlabel
    have hencoded : Percent.encode uri.label = .ok (String.ofList (escape uri.label)) :=
      Percent.encode_eq_ok_iff.mpr ⟨Nat.le_of_not_lt hlabel, rfl⟩
    have hnonempty : issuer ≠ "" := by
      rintro rfl
      exact absurd hissuer (by decide)
    rw [hencoded, Option.mem_def.mp hgiven]
    simp [bind, Except.bind, Percent.encode_of_lt hissuer]

theorem not_isOverlong_iff :
    ¬ uri.IsOverlong ↔ (Text.utf8 uri.label).length ≤ 3333 ∧
      ∀ issuer ∈ uri.issuer, (Text.utf8 issuer).length ≤ 3333 := by
  rw [IsOverlong, not_or, not_exists]
  simp only [not_and, Nat.not_lt]

/-! ### Sizes -/

theorem length_issuerField (issuer : String) :
    (issuerField issuer).length = 7 + escapedSize issuer := by
  have hname : "issuer=".toList.length = 7 := by decide
  exact List.length_append.trans (congrArg₂ (· + ·) hname (Percent.length_escape issuer))

theorem length_markedIssuer (issuer? : Option String) :
    (Text.marked '&' (issuer?.map issuerField)).length =
      issuer?.elim 0 fun issuer => 8 + escapedSize issuer := by
  cases issuer? with
  | none => rfl
  | some issuer =>
      have hfield := length_issuerField issuer
      simp only [Option.map_some, Text.marked, List.length_cons, Option.elim_some]
      omega

theorem length_layout (hlength : uri.secret.length = 32) : uri.layout.length = uri.size := by
  have hscheme : "otpauth://".toList.length = 10 := by decide
  have hmode : uri.mode.name.toList.length = 4 := by
    cases uri.mode with
    | timeBased => decide
    | counterBased => decide
  have hname : "secret=".toList.length = 7 := by decide
  have hmarked (part : List Char) : Text.marked '?' (some part) = '?' :: part := rfl
  have hissuer := length_markedIssuer uri.issuer?
  unfold layout query size
  simp only [hmarked, List.length_append, List.length_cons, hscheme, hmode, hname,
    Percent.length_escape, String.length_toList, hlength, hissuer]
  omega

theorem size_le (h : ¬ uri.IsOverlong) : uri.size ≤ 20061 := by
  obtain ⟨hlabel, hissuer⟩ := not_isOverlong_iff.mp h
  have hlabelSize := Percent.escapedSize_le uri.label
  rw [size]
  cases hgiven : uri.issuer? with
  | none =>
      rw [Option.elim_none]
      omega
  | some issuer =>
      have hissuerBytes := hissuer issuer (Option.mem_filter_iff.mp hgiven).1
      have hissuerSize := Percent.escapedSize_le issuer
      rw [Option.elim_some]
      omega

/-- A URI has only visible characters, each of them one byte. -/
theorem exists_render (h : ¬ uri.IsOverlong) (hlength : uri.secret.length = 32)
    (hsecret : ∀ c ∈ uri.secret.toList, c ∈ Base32.alphabet) :
    ∃ text, uri.render = .ok text ∧ (Text.utf8 text).length = uri.size := by
  obtain ⟨hlabel, hissuer⟩ := not_isOverlong_iff.mp h
  refine ⟨_, render_eq_layout hlabel hissuer, ?_⟩
  have hascii : ∀ c ∈ (String.ofList uri.layout).toList, c.val ≤ 127 := by
    intro c hc
    rw [String.toList_ofList] at hc
    exact UInt32.le_iff_toNat_le.mpr
      (Nat.le_trans (isVisible_of_mem_layout hsecret c hc).2 (by decide))
  rw [Text.length_utf8_of_ascii hascii, String.length_ofList, length_layout hlength]

/-- The label and the issuer are measured one by one, each as if all its bytes had an escape, and
the URI is not. It is refused if one of the two has more than 3333 bytes. If not, its text can have
up to 20061 bytes, and it keeps within the limit for URIs just if the escaped label and the field of
an issuer take no more than the 9945 bytes that are left beside the other parts. -/
theorem render_size (hlength : uri.secret.length = 32)
    (hsecret : ∀ c ∈ uri.secret.toList, c ∈ Base32.alphabet) :
    (uri.IsOverlong → uri.render = .error .tooLong) ∧
      (¬ uri.IsOverlong → ∃ text, uri.render = .ok text ∧
        (Text.utf8 text).length =
          55 + escapedSize uri.label + (uri.issuer?.elim 0 fun issuer => 8 + escapedSize issuer) ∧
        (Text.utf8 text).length ≤ 20061 ∧
        ((Text.utf8 text).length ≤ Percent.maxUriLength ↔
          escapedSize uri.label + (uri.issuer?.elim 0 fun issuer => 8 + escapedSize issuer) ≤
            9945)) := by
  refine ⟨render_of_isOverlong, fun h => ?_⟩
  obtain ⟨text, hrender, hsize⟩ := exists_render h hlength hsecret
  refine ⟨text, hrender, hsize, hsize ▸ size_le h, ?_⟩
  rw [hsize, size, Percent.maxUriLength]
  omega

/-- A blank in the label and an ampersand in the issuer have an escape. -/
theorem render_size_of_marks :
    let uri : EnrollmentUri :=
      ⟨.counterBased, "a b", "GEZDGNBVGY3TQOJQGEZDGNBVGY3TQOJQ", some "x&y"⟩
    uri.secret.length = 32 ∧ (∀ c ∈ uri.secret.toList, c ∈ Base32.alphabet) ∧
      ¬ uri.IsOverlong ∧ ∃ text, uri.render = .ok text ∧ (Text.utf8 text).length = 73 := by
  intro uri
  have hlength : uri.secret.length = 32 := by decide
  have hsecret : ∀ c ∈ uri.secret.toList, c ∈ Base32.alphabet :=
    List.all_iff_forall_prop.mp (by decide)
  have hfits : ¬ uri.IsOverlong := by
    refine not_isOverlong_iff.mpr ⟨by decide, ?_⟩
    rintro issuer ⟨⟩
    decide
  obtain ⟨text, hrender, hsize, -⟩ := (render_size hlength hsecret).2 hfits
  have hsum : 55 + escapedSize "a b" + (8 + escapedSize "x&y") = 73 := by decide
  exact ⟨hlength, hsecret, hfits, text, hrender, hsize.trans hsum⟩

theorem utf8_replicate_blank (count : Nat) :
    Text.utf8 (String.ofList (List.replicate count ' ')) = List.replicate count 0x20 := by
  rw [Text.utf8, String.toList_ofList]
  induction count with
  | zero => rfl
  | succ count ih =>
      rw [List.replicate_succ, List.flatMap_cons, ih]
      rfl

/-- The longest label that is not refused, made of blanks, leads to a URI beyond the limit. -/
theorem oversize_of_blank_label :
    let label := String.ofList (List.replicate 3333 ' ')
    let uri : EnrollmentUri := ⟨.timeBased, label, "GEZDGNBVGY3TQOJQGEZDGNBVGY3TQOJQ", none⟩
    uri.secret.length = 32 ∧ (∀ c ∈ uri.secret.toList, c ∈ Base32.alphabet) ∧
      ¬ ((∃ e, uri.render = .error e) ∨
        ∃ text, uri.render = .ok text ∧ (Text.utf8 text).length ≤ Percent.maxUriLength) := by
  intro label uri
  have hbytes : Text.utf8 uri.label = List.replicate 3333 0x20 := utf8_replicate_blank 3333
  have hlength : uri.secret.length = 32 := by decide
  have hsecret : ∀ c ∈ uri.secret.toList, c ∈ Base32.alphabet :=
    List.all_iff_forall_prop.mp (by decide)
  have hfits : ¬ uri.IsOverlong := by
    refine not_isOverlong_iff.mpr ⟨?_, nofun⟩
    rw [hbytes, List.length_replicate]
  have hsize : uri.size = 10054 := by
    have hescaped : escapedSize uri.label = 9999 := by
      rw [escapedSize, hbytes, List.length_replicate, List.countP_replicate]
      rfl
    rw [size, hescaped]
    rfl
  obtain ⟨text, hrender, htext⟩ := exists_render hfits hlength hsecret
  refine ⟨hlength, hsecret, ?_⟩
  rintro (⟨e, herror⟩ | ⟨other, hother, hlimit⟩)
  · rw [hrender] at herror
    cases herror
  · obtain rfl : text = other := Except.ok.inj (hrender.symm.trans hother)
    rw [htext, hsize, Percent.maxUriLength] at hlimit
    omega

end OneTimePassword.EnrollmentUri
