/-
Module: OneTimePassword.Proofs.EnrollmentUri.Reader
Purpose: A reader of enrollment URIs, and that it gives back what a URI was made from.
Main exports: Text.cut, Text.marked, EnrollmentUri.issuer?, EnrollmentUri.layout,
  EnrollmentUri.render_eq_layout, EnrollmentUri.read?, EnrollmentUri.read?_render
-/
import Mathlib.Data.List.Infix
import OneTimePassword.Base32
import OneTimePassword.EnrollmentUri
import OneTimePassword.Proofs.Percent

namespace OneTimePassword

/-! ### Parts between marks -/

namespace Text

/-- What stands in front of the first mark, and what behind it, if there is one. -/
def cut (mark : Char) (s : List Char) : List Char × Option (List Char) :=
  (s.takeWhile (· ≠ mark), (s.dropWhile (· ≠ mark)).tail?)

/-- A part that may be missing, behind its mark. -/
def marked (mark : Char) : Option (List Char) → List Char
  | none => []
  | some part => mark :: part

/-- A text is cut in front of the part that was put behind it. -/
theorem cut_append_marked {mark : Char} {s : List Char} (h : mark ∉ s) (part : Option (List Char)) :
    cut mark (s ++ marked mark part) = (s, part) := by
  have hpassed : ∀ c ∈ s, decide (c ≠ mark) = true := by
    rintro c hc
    exact decide_eq_true fun hmark => h (hmark ▸ hc)
  rw [cut, List.takeWhile_append_of_pos hpassed, List.dropWhile_append_of_pos hpassed]
  cases part with
  | none => simp [marked]
  | some part => simp [marked]

end Text

namespace EnrollmentUri

open Percent (escape IsVisible IsWellEscaped)

/-! ### The layout of a URI -/

variable {uri : EnrollmentUri} {c : Char}

/-- The issuer, if there is one. An empty one is none. -/
def issuer? (uri : EnrollmentUri) : Option String := uri.issuer.filter (· ≠ "")

/-- The field of an issuer. -/
def issuerField (issuer : String) : List Char := "issuer=".toList ++ escape issuer

/-- What stands behind the question mark. -/
def query (secret : String) (issuer : Option String) : List Char :=
  "secret=".toList ++ secret.toList ++ Text.marked '&' (issuer.map issuerField)

/-- The URI that tells an app all this. -/
def layout (uri : EnrollmentUri) : List Char :=
  "otpauth://".toList ++ uri.mode.name.toList ++
    '/' :: (escape uri.label ++ Text.marked '?' (some (query uri.secret uri.issuer?)))

/-- A URI is written in this layout if neither the label nor the issuer is too long. -/
theorem render_eq_layout (hlabel : (Text.utf8 uri.label).length ≤ 3333)
    (hissuer : ∀ issuer ∈ uri.issuer, (Text.utf8 issuer).length ≤ 3333) :
    uri.render = .ok (String.ofList uri.layout) := by
  have hencoded : Percent.encode uri.label = .ok (String.ofList (escape uri.label)) :=
    Percent.encode_eq_ok_iff.mpr ⟨hlabel, rfl⟩
  have hlayout : String.ofList uri.layout = "otpauth://" ++ uri.mode.name ++ "/" ++
      String.ofList (escape uri.label) ++ "?secret=" ++ uri.secret ++
        String.ofList (Text.marked '&' (uri.issuer?.map issuerField)) := by
    apply String.toList_inj.mp
    unfold layout query Text.marked
    simp
  rw [hlayout, render, hencoded]
  cases hgiven : uri.issuer with
  | none =>
      have hnone : uri.issuer? = none := by
        rw [issuer?, hgiven, Option.filter_none]
      rw [hnone]
      exact congrArg Except.ok String.append_empty.symm
  | some issuer =>
      by_cases hempty : issuer = ""
      · have hnone : uri.issuer? = none := by
          rw [issuer?, hgiven, hempty]
          rfl
        rw [hnone, hempty]
        exact congrArg Except.ok String.append_empty.symm
      · have hsome : uri.issuer? = some issuer := by
          simp [issuer?, hgiven, hempty]
        have hencodedIssuer : Percent.encode issuer = .ok (String.ofList (escape issuer)) :=
          Percent.encode_eq_ok_iff.mpr ⟨hissuer issuer hgiven, rfl⟩
        have hfield : String.ofList (Text.marked '&' ((some issuer).map issuerField)) =
            "&issuer=" ++ String.ofList (escape issuer) := by
          apply String.toList_inj.mp
          unfold issuerField
          simp [Text.marked]
        rw [hsome, hfield, ← String.append_assoc]
        simp [bind, Except.bind, hencodedIssuer, pure, Except.pure]

/-- The symbols of a secret are visible, and none is a mark of the URI. -/
theorem symbol_isVisible (h : c ∈ Base32.alphabet) :
    IsVisible c ∧ c ∉ ['%', '&', '?', '=', '#'] := by
  have hall : ∀ c ∈ Base32.alphabet, IsVisible c ∧ c ∉ ['%', '&', '?', '=', '#'] :=
    List.all_iff_forall_prop.mp (by decide +kernel)
  exact hall c h

theorem mark_notMem_secret {secret : String} {mark : Char}
    (hsecret : ∀ c ∈ secret.toList, c ∈ Base32.alphabet)
    (hmark : mark ∈ ['%', '&', '?', '=', '#']) : mark ∉ secret.toList :=
  fun hmember => (symbol_isVisible (hsecret mark hmember)).2 hmark

/-- What holds of the fixed parts, of the secret and of all escaped texts, and of two texts together
if it holds of both, holds of the URI. -/
theorem layout_induction {p : List Char → Prop} (happend : ∀ {s t}, p s → p t → p (s ++ t))
    (hfixed : ∀ s ∈ ["otpauth://", "totp", "hotp", "/", "?", "secret=", "&", "issuer=", ""],
      p s.toList) (hsecret : p uri.secret.toList) (hescape : ∀ text, p (escape text)) :
    p uri.layout := by
  have hmode : p uri.mode.name.toList := by
    cases uri.mode with
    | timeBased => exact hfixed "totp" (by decide)
    | counterBased => exact hfixed "hotp" (by decide)
  have hfield : p (Text.marked '&' (uri.issuer?.map issuerField)) := by
    cases uri.issuer? with
    | none => exact hfixed "" (by decide)
    | some issuer =>
        exact happend (hfixed "&" (by decide))
          (happend (hfixed "issuer=" (by decide)) (hescape issuer))
  have hquery : p (query uri.secret uri.issuer?) :=
    happend (happend (hfixed "secret=" (by decide)) hsecret) hfield
  have hlabel : p (escape uri.label ++ Text.marked '?' (some (query uri.secret uri.issuer?))) :=
    happend (hescape uri.label) (happend (hfixed "?" (by decide)) hquery)
  have htype := happend (hfixed "otpauth://" (by decide)) hmode
  exact happend htype (happend (hfixed "/" (by decide)) hlabel)

theorem isVisible_of_mem_layout (hsecret : ∀ c ∈ uri.secret.toList, c ∈ Base32.alphabet) :
    ∀ c ∈ uri.layout, IsVisible c := by
  have hfixed : ∀ s ∈ ["otpauth://", "totp", "hotp", "/", "?", "secret=", "&", "issuer=", ""],
      s.toList.all (fun c => IsVisible c) = true := by
    decide +kernel
  refine layout_induction (p := fun s => ∀ c ∈ s, IsVisible c) ?_ ?_ ?_ ?_
  · intro s t hs ht c hc
    exact (List.mem_append.mp hc).elim (hs c) (ht c)
  · exact fun s hs => List.all_iff_forall_prop.mp (hfixed s hs)
  · exact fun c hc => (symbol_isVisible (hsecret c hc)).1
  · exact Percent.isVisible_of_mem_escape

theorem isWellEscaped_layout (hsecret : '%' ∉ uri.secret.toList) : IsWellEscaped uri.layout := by
  refine layout_induction IsWellEscaped.append ?_ ?_ Percent.isWellEscaped_escape
  · have hnone : ∀ s ∈ ["otpauth://", "totp", "hotp", "/", "?", "secret=", "&", "issuer=", ""],
        '%' ∉ s.toList := by
      decide +kernel
    exact fun s hs => Percent.isWellEscaped_of_notMem (hnone s hs)
  · exact Percent.isWellEscaped_of_notMem hsecret

/-! ### The reader -/

/-- The mode that is told by the letter in front of `otp`. -/
def mode? : Char → Option Mode
  | 't' => some .timeBased
  | 'h' => some .counterBased
  | _ => none

/-- Read the issuer off what stands behind the ampersand. -/
def readIssuer? : Option (List Char) → Option (Option String)
  | none => some none
  | some field => do
      let written ← "issuer=".toList.isPrefixOf? field
      let issuer ← Percent.decode? written
      pure (some issuer)

/-- Read a URI: the type up to `otp/`, the label up to the first question mark, the secret up to the
first ampersand, and the issuer up to the end. -/
def read? (text : String) : Option EnrollmentUri := do
  let letter :: rest ← "otpauth://".toList.isPrefixOf? text.toList | none
  let mode ← mode? letter
  let rest ← "otp/".toList.isPrefixOf? rest
  let (label, fields) := Text.cut '?' rest
  let secret ← "secret=".toList.isPrefixOf? (← fields)
  let (secret, field) := Text.cut '&' secret
  let label ← Percent.decode? label
  let issuer ← readIssuer? field
  pure { mode, label, secret := String.ofList secret, issuer }

theorem exists_letter (mode : Mode) :
    ∃ letter, mode.name.toList = letter :: "otp".toList ∧ mode? letter = some mode := by
  cases mode with
  | timeBased => exact ⟨'t', by decide +kernel, rfl⟩
  | counterBased => exact ⟨'h', by decide +kernel, rfl⟩

theorem isPrefixOf?_append (start rest : List Char) :
    start.isPrefixOf? (start ++ rest) = some rest :=
  List.isPrefixOf?_eq_some_iff_append_eq.mpr rfl

theorem readIssuer?_field (issuer : Option String) :
    readIssuer? (issuer.map issuerField) = some issuer := by
  cases issuer with
  | none => rfl
  | some issuer =>
      unfold issuerField
      simp only [Option.map_some, readIssuer?, isPrefixOf?_append, Option.bind_eq_bind,
        Option.bind_some, Percent.decode?_escape, Option.pure_def]

/-- No label holds a question mark, and no secret an ampersand, so each part is read up to its
end. -/
theorem read?_layout (hsecret : '&' ∉ uri.secret.toList) :
    read? (String.ofList uri.layout) = some { uri with issuer := uri.issuer? } := by
  obtain ⟨letter, hname, hmode⟩ := exists_letter uri.mode
  have hlabel : '?' ∉ escape uri.label := (Percent.reserved_notMem_escape uri.label).2.1
  have hlayout : uri.layout = "otpauth://".toList ++ (letter :: ("otp/".toList ++
      (escape uri.label ++ Text.marked '?' (some ("secret=".toList ++ (uri.secret.toList ++
        Text.marked '&' (uri.issuer?.map issuerField))))))) := by
    unfold layout query
    simp [hname]
  simp only [read?, hlayout, String.toList_ofList, isPrefixOf?_append, Option.bind_eq_bind,
    Option.bind_some, hmode, Text.cut_append_marked hlabel, Text.cut_append_marked hsecret,
    Percent.decode?_escape, readIssuer?_field, Option.pure_def, String.ofList_toList]

/-- A URI is written in visible characters, and reading it gives back what it was made from. -/
theorem read?_render (uri : EnrollmentUri) (hlabel : (Text.utf8 uri.label).length ≤ 3333)
    (hissuer : ∀ issuer ∈ uri.issuer, (Text.utf8 issuer).length ≤ 3333)
    (hsecret : ∀ c ∈ uri.secret.toList, c ∈ Base32.alphabet) :
    ∃ text, uri.render = .ok text ∧
      read? text = some { uri with issuer := uri.issuer? } ∧
      (∀ c ∈ text.toList, IsVisible c) ∧ IsWellEscaped text.toList ∧
      ∀ part, part = uri.label ∨ uri.issuer = some part →
        ∃ written, Percent.encode part = .ok written ∧
          '&' ∉ written.toList ∧ '?' ∉ written.toList ∧ '=' ∉ written.toList := by
  have hread := read?_layout (mark_notMem_secret hsecret (by decide : '&' ∈ _))
  refine ⟨_, render_eq_layout hlabel hissuer, hread, ?_, ?_, ?_⟩
  · rw [String.toList_ofList]
    exact isVisible_of_mem_layout hsecret
  · rw [String.toList_ofList]
    exact isWellEscaped_layout (mark_notMem_secret hsecret (by decide))
  · intro part hpart
    have hfits : (Text.utf8 part).length ≤ 3333 := by
      rcases hpart with rfl | hpart
      · exact hlabel
      · exact hissuer part hpart
    refine ⟨_, Percent.encode_eq_ok_iff.mpr ⟨hfits, rfl⟩, ?_⟩
    rw [String.toList_ofList]
    exact Percent.reserved_notMem_escape part

/-- A label with a blank, an accent and a question mark, and an issuer with an ampersand. -/
theorem read?_render_marks :
    let uri : EnrollmentUri := ⟨.timeBased, "é a?b%", "GEZDGNBV", some "x&issuer=y"⟩
    ∃ text, uri.render = .ok text ∧ read? text = some uri := by
  intro uri
  obtain ⟨text, hrender, hread, -⟩ := read?_render uri (by decide +kernel)
    (by
      rintro issuer ⟨⟩
      decide +kernel)
    (List.all_iff_forall_prop.mp (by decide +kernel))
  exact ⟨text, hrender, hread⟩

end EnrollmentUri

end OneTimePassword
