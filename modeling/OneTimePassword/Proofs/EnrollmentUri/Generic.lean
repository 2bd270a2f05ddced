/-
Module: OneTimePassword.Proofs.EnrollmentUri.Generic
Purpose: What a reader that knows only the syntax that all URIs share takes from an enrollment URI.
  A number sign is not escaped, so what stands behind one is read as the fragment. With one in the
  label no secret is found.
Main exports: GenericUri, GenericUri.split?, GenericUri.Tells, EnrollmentUri.split?_render,
  EnrollmentUri.secret_lost_in_fragment
-/
import OneTimePassword.Proofs.EnrollmentUri.Reader

namespace OneTimePassword

/-- The parts that every URI may have. -/
structure GenericUri where
  scheme : List Char
  authority : Option (List Char)
  path : List Char
  query : Option (List Char)
  fragment : Option (List Char)
deriving Repr, DecidableEq

namespace GenericUri

open EnrollmentUri (issuerField)
open Percent (escape)

variable {uri : EnrollmentUri} {label secret : String} {issuer : Option String}
  {path : List Char} {query fragment : Option (List Char)}

/-- Split a URI: the fragment starts at the first number sign, the query at the first question mark
in front of it, and the scheme ends at the first colon. Two slashes stand in front of an authority,
which reaches up to the next one. -/
def split? (text : String) : Option GenericUri := do
  let (rest, fragment) := Text.cut '#' text.toList
  let (rest, query) := Text.cut '?' rest
  let (scheme, hierarchy) := Text.cut ':' rest
  let hierarchy ← hierarchy
  match "//".toList.isPrefixOf? hierarchy with
  | some rest =>
      let authority := rest.takeWhile (· ≠ '/')
      pure { scheme, authority := some authority, path := rest.drop authority.length, query, fragment }
  | none => pure { scheme, authority := none, path := hierarchy, query, fragment }

/-- The path of an enrollment may hold slashes and colons. -/
theorem split?_enrolling (mode : Mode) (hpath : '?' ∉ path)
    (hhash : '#' ∉ path ++ Text.marked '?' query) :
    split? (String.ofList ("otpauth://".toList ++ mode.name.toList ++
      '/' :: (path ++ Text.marked '?' query ++ Text.marked '#' fragment))) =
        some ⟨"otpauth".toList, some mode.name.toList, '/' :: path, query, fragment⟩ := by
  have htype : ∀ mark ∈ ['#', '?'], mark ∉ "otpauth://".toList ++ mode.name.toList ++ ['/'] := by
    refine List.all_iff_forall_prop.mp ?_
    cases mode with
    | timeBased => decide +kernel
    | counterBased => decide +kernel
  have hmode : ∀ c ∈ mode.name.toList, decide (c ≠ '/') = true := by
    apply List.all_eq_true.mp
    cases mode with
    | timeBased => decide +kernel
    | counterBased => decide +kernel
  have hcolon : ':' ∉ "otpauth".toList := by decide +kernel
  have hfragment : '#' ∉ "otpauth://".toList ++ mode.name.toList ++ ['/'] ++ path ++
      Text.marked '?' query := by
    rw [List.append_assoc, List.mem_append, not_or]
    exact ⟨htype '#' (by decide), hhash⟩
  have hquery : '?' ∉ "otpauth://".toList ++ mode.name.toList ++ ['/'] ++ path := by
    rw [List.mem_append, not_or]
    exact ⟨htype '?' (by decide), hpath⟩
  have hscheme : Text.cut ':' ("otpauth://".toList ++ mode.name.toList ++ ['/'] ++ path) =
      ("otpauth".toList, some ("//".toList ++ (mode.name.toList ++ '/' :: path))) := by
    rw [← Text.cut_append_marked hcolon]
    simp [Text.marked]
  have htext : "otpauth://".toList ++ mode.name.toList ++
      '/' :: (path ++ Text.marked '?' query ++ Text.marked '#' fragment) =
        "otpauth://".toList ++ mode.name.toList ++ ['/'] ++ path ++ Text.marked '?' query ++
          Text.marked '#' fragment := by
    simp only [List.append_assoc, List.cons_append, List.nil_append]
  have hauthority : (mode.name.toList ++ '/' :: path).takeWhile (· ≠ '/') = mode.name.toList := by
    rw [List.takeWhile_append_of_pos hmode]
    simp
  simp only [split?, String.toList_ofList, htext, Text.cut_append_marked hfragment,
    Text.cut_append_marked hquery, hscheme, EnrollmentUri.isPrefixOf?_append, Option.bind_eq_bind,
    Option.bind_some, hauthority, List.drop_left, Option.pure_def]

/-- The label is the path, and the secret and the issuer are the fields of the query. -/
structure Tells (parts : GenericUri) (uri : EnrollmentUri) : Prop where
  authority : parts.authority = some uri.mode.name.toList
  path : ∃ written, parts.path = '/' :: written ∧ Percent.decode? written = some uri.label
  query : ∃ query field, parts.query = some query ∧
    query.splitOn '&' = ("secret=".toList ++ uri.secret.toList) :: field.toList ∧
    EnrollmentUri.readIssuer? field = some uri.issuer

/-- Only one ampersand stands in the query. -/
theorem splitOn_query (hsecret : '&' ∉ secret.toList) (issuer : Option String) :
    (EnrollmentUri.query secret issuer).splitOn '&' =
      ("secret=".toList ++ secret.toList) :: (issuer.map issuerField).toList := by
  have hfirst : '&' ∉ "secret=".toList ++ secret.toList := by
    rw [List.mem_append, not_or]
    exact ⟨by decide +kernel, hsecret⟩
  unfold EnrollmentUri.query
  cases issuer with
  | none =>
      rw [Option.map_none, Text.marked, List.append_nil, List.splitOn_eq_singleton hfirst]
      rfl
  | some issuer =>
      have hsecond : '&' ∉ issuerField issuer := by
        unfold issuerField
        rw [List.mem_append, not_or]
        exact ⟨by decide +kernel, (Percent.reserved_notMem_escape issuer).1⟩
      rw [Option.map_some, Text.marked, List.splitOn_append_cons_self_of_not_mem hfirst,
        List.splitOn_eq_singleton hsecond]
      rfl

/-- Whatever the fragment is, path and query tell what was written into them. -/
theorem tells (uri : EnrollmentUri) (hsecret : '&' ∉ uri.secret.toList)
    (scheme : List Char) (fragment : Option (List Char)) :
    Tells ⟨scheme, some uri.mode.name.toList, '/' :: escape uri.label,
      some (EnrollmentUri.query uri.secret uri.issuer), fragment⟩ uri where
  authority := rfl
  path := ⟨_, rfl, Percent.decode?_escape uri.label⟩
  query := ⟨_, _, rfl, splitOn_query hsecret uri.issuer, EnrollmentUri.readIssuer?_field uri.issuer⟩

end GenericUri

namespace EnrollmentUri

open Percent (escape)

variable {uri : EnrollmentUri} {secret front behind : String} {issuer : Option String}

/-- The number signs of a query are those of the issuer. -/
theorem hash_notMem_query (hsecret : '#' ∉ secret.toList)
    (hissuer : ∀ name ∈ issuer, '#' ∉ name.toList) : '#' ∉ query secret issuer := by
  have hfield : '#' ∉ Text.marked '&' (issuer.map issuerField) := by
    cases issuer with
    | none => exact List.not_mem_nil
    | some name =>
        have hfixed : '#' ∉ '&' :: "issuer=".toList := by decide +kernel
        have hname : '#' ∉ escape name := Percent.hash_notMem_escape (hissuer name rfl)
        exact fun h => (List.mem_append.mp h).elim hfixed hname
  have hstart : '#' ∉ "secret=".toList := by decide +kernel
  unfold query
  simp only [List.mem_append, not_or]
  exact ⟨⟨hstart, hsecret⟩, hfield⟩

/-- Without a number sign there is no fragment. -/
theorem split?_layout (hlabel : '#' ∉ uri.label.toList)
    (hissuer : ∀ issuer ∈ uri.issuer?, '#' ∉ issuer.toList) (hsecret : '#' ∉ uri.secret.toList) :
    GenericUri.split? (String.ofList uri.layout) = some ⟨"otpauth".toList,
      some uri.mode.name.toList, '/' :: escape uri.label,
      some (query uri.secret uri.issuer?), none⟩ := by
  have hhash : '#' ∉ escape uri.label ++ Text.marked '?' (some (query uri.secret uri.issuer?)) := by
    rw [List.mem_append, Text.marked, List.mem_cons, not_or, not_or]
    exact ⟨Percent.hash_notMem_escape hlabel, by decide, hash_notMem_query hsecret hissuer⟩
  have hpath := (Percent.reserved_notMem_escape uri.label).2.1
  rw [← GenericUri.split?_enrolling uri.mode hpath hhash, Text.marked.eq_1, List.append_nil]
  rfl

/-- A number sign in the label leaves no query. -/
theorem split?_layout_of_label (hlabel : uri.label = front ++ "#" ++ behind)
    (hfront : '#' ∉ front.toList) :
    GenericUri.split? (String.ofList uri.layout) = some ⟨"otpauth".toList,
      some uri.mode.name.toList, '/' :: escape front, none,
      some (escape behind ++ '?' :: query uri.secret uri.issuer?)⟩ := by
  have hhash : '#' ∉ escape front ++ Text.marked '?' none := by
    rw [Text.marked, List.append_nil]
    exact Percent.hash_notMem_escape hfront
  have hpath := (Percent.reserved_notMem_escape front).2.1
  have hlayout : uri.layout = "otpauth://".toList ++ uri.mode.name.toList ++
      '/' :: (escape front ++ Text.marked '?' none ++
        Text.marked '#' (some (escape behind ++ '?' :: query uri.secret uri.issuer?))) := by
    unfold layout
    rw [hlabel, Percent.escape_of_hash]
    simp only [Text.marked, List.append_nil, List.append_assoc, List.cons_append]
  rw [hlayout]
  exact GenericUri.split?_enrolling uri.mode hpath hhash

/-- A number sign in the issuer cuts the issuer off. -/
theorem split?_layout_of_issuer (hlabel : '#' ∉ uri.label.toList)
    (hissuer : uri.issuer = some (front ++ "#" ++ behind)) (hfront : '#' ∉ front.toList)
    (hsecret : '#' ∉ uri.secret.toList) :
    GenericUri.split? (String.ofList uri.layout) = some ⟨"otpauth".toList,
      some uri.mode.name.toList, '/' :: escape uri.label,
      some (query uri.secret (some front)), some (escape behind)⟩ := by
  have hquery : query uri.secret uri.issuer? =
      query uri.secret (some front) ++ Text.marked '#' (some (escape behind)) := by
    have hgiven : uri.issuer? = some (front ++ "#" ++ behind) := by
      rw [issuer?, hissuer]
      simp
    rw [hgiven]
    unfold query
    rw [Option.map_some, Option.map_some]
    unfold issuerField
    rw [Percent.escape_of_hash]
    simp only [Text.marked, List.append_assoc, List.cons_append]
  have hhash : '#' ∉ escape uri.label ++ Text.marked '?' (some (query uri.secret (some front))) := by
    have hname : ∀ name ∈ some front, '#' ∉ name.toList := by
      rintro name ⟨⟩
      exact hfront
    rw [List.mem_append, Text.marked, List.mem_cons, not_or, not_or]
    exact ⟨Percent.hash_notMem_escape hlabel, by decide, hash_notMem_query hsecret hname⟩
  have hpath := (Percent.reserved_notMem_escape uri.label).2.1
  have hlayout : uri.layout = "otpauth://".toList ++ uri.mode.name.toList ++
      '/' :: (escape uri.label ++ Text.marked '?' (some (query uri.secret (some front))) ++
        Text.marked '#' (some (escape behind))) := by
    unfold layout
    rw [hquery]
    simp only [Text.marked, List.append_assoc, List.cons_append]
  rw [hlayout]
  exact GenericUri.split?_enrolling uri.mode hpath hhash

/-- A generic reader finds all that a URI was made from, if there is no number sign in it. Of a label
or an issuer with one it finds what stands in front of it, and nothing of what follows in the URI. -/
theorem split?_render (uri : EnrollmentUri)
    (hlabel : ∃ written, Percent.encode uri.label = .ok written)
    (hissuer : ∀ issuer ∈ uri.issuer, ∃ written, Percent.encode issuer = .ok written)
    (hsecret : ∀ c ∈ uri.secret.toList, c ∈ Base32.alphabet) :
    ∃ text parts, uri.render = .ok text ∧ GenericUri.split? text = some parts ∧
      parts.scheme = "otpauth".toList ∧
      ('#' ∉ uri.label.toList → (∀ issuer ∈ uri.issuer, '#' ∉ issuer.toList) →
        parts.fragment = none ∧ parts.Tells { uri with issuer := uri.issuer? }) ∧
      ('#' ∈ uri.label.toList → ∃ front behind, uri.label = front ++ "#" ++ behind ∧
        '#' ∉ front.toList ∧ parts.authority = some uri.mode.name.toList ∧
        parts.path = '/' :: escape front ∧ parts.query = none ∧ parts.fragment.isSome) ∧
      ('#' ∉ uri.label.toList → ∀ issuer ∈ uri.issuer, '#' ∈ issuer.toList →
        ∃ front behind, issuer = front ++ "#" ++ behind ∧ '#' ∉ front.toList ∧
          parts.fragment = some (escape behind) ∧ parts.Tells { uri with issuer := some front }) := by
  have hunmarked {mark : Char} (hmark : mark ∈ ['%', '&', '?', '=', '#']) :
      mark ∉ uri.secret.toList := mark_notMem_secret hsecret hmark
  obtain ⟨label, hlabel⟩ := hlabel
  have hrender := render_eq_layout (Percent.encode_eq_ok_iff.mp hlabel).1 fun issuer hgiven => by
    obtain ⟨written, hwritten⟩ := hissuer issuer hgiven
    exact (Percent.encode_eq_ok_iff.mp hwritten).1
  by_cases hhash : '#' ∈ uri.label.toList
  · obtain ⟨front, behind, hsplit, hfront⟩ := Percent.exists_front_of_hash hhash
    refine ⟨_, _, hrender, split?_layout_of_label hsplit hfront, rfl, ?_, ?_, ?_⟩
    · exact fun hnone => absurd hhash hnone
    · exact fun _ => ⟨front, behind, hsplit, hfront, rfl, rfl, rfl, rfl⟩
    · exact fun hnone => absurd hhash hnone
  · by_cases hissuerHash : ∃ issuer ∈ uri.issuer, '#' ∈ issuer.toList
    · obtain ⟨issuer, hgiven, hmember⟩ := hissuerHash
      obtain ⟨front, behind, rfl, hfront⟩ := Percent.exists_front_of_hash hmember
      refine ⟨_, _, hrender,
        split?_layout_of_issuer hhash hgiven hfront (hunmarked (by decide)), rfl, ?_, ?_, ?_⟩
      · exact fun _ hnone => absurd hmember (hnone _ hgiven)
      · exact fun hsome => absurd hsome hhash
      · intro _ issuer hissuer _
        obtain rfl := Option.some.inj (hgiven.symm.trans hissuer)
        exact ⟨front, behind, rfl, hfront, rfl,
          GenericUri.tells { uri with issuer := some front } (hunmarked (by decide)) _ _⟩
    · have hnone : ∀ issuer ∈ uri.issuer, '#' ∉ issuer.toList := by
        intro issuer hgiven hmember
        exact hissuerHash ⟨issuer, hgiven, hmember⟩
      have hkept : ∀ issuer ∈ uri.issuer?, '#' ∉ issuer.toList := by
        intro issuer hgiven
        exact hnone issuer (Option.mem_filter_iff.mp hgiven).1
      refine ⟨_, _, hrender,
        split?_layout hhash hkept (hunmarked (by decide)), rfl, ?_, ?_, ?_⟩
      · exact fun _ _ => ⟨rfl,
          GenericUri.tells { uri with issuer := uri.issuer? } (hunmarked (by decide)) _ _⟩
      · exact fun hsome => absurd hsome hhash
      · exact fun _ issuer hgiven hmember => absurd hmember (hnone issuer hgiven)

/-- A label with slashes, a colon and a question mark, and an issuer with an ampersand. -/
theorem split?_render_marks :
    let uri : EnrollmentUri := ⟨.counterBased, "//a:b?c", "GEZDGNBV", some "x&y"⟩
    ∃ text parts, uri.render = .ok text ∧ GenericUri.split? text = some parts ∧
      parts.fragment = none ∧ parts.Tells uri := by
  intro uri
  obtain ⟨text, parts, hrender, hsplit, -, htells, -⟩ := split?_render uri
    ⟨"//a:b%3Fc", by decide +kernel⟩
    (by
      rintro issuer ⟨⟩
      exact ⟨"x%26y", by decide +kernel⟩)
    (List.all_iff_forall_prop.mp (by decide +kernel))
  have hissuer : ∀ issuer ∈ uri.issuer, '#' ∉ issuer.toList := by
    rintro issuer ⟨⟩
    decide +kernel
  exact ⟨text, parts, hrender, hsplit, htells (by decide +kernel) hissuer⟩

/-- The secret is read as part of the fragment if a number sign stands in the label. -/
theorem secret_lost_in_fragment :
    let uri : EnrollmentUri := ⟨.timeBased, "a#b", "GEZDGNBVGY3TQOJQGEZDGNBVGY3TQOJQ", none⟩
    uri.render = .ok "otpauth://totp/a#b?secret=GEZDGNBVGY3TQOJQGEZDGNBVGY3TQOJQ" ∧
      ¬ ∃ text parts, uri.render = .ok text ∧ GenericUri.split? text = some parts ∧
        parts.fragment = none ∧ parts.Tells uri := by
  intro uri
  have hrender : uri.render = .ok "otpauth://totp/a#b?secret=GEZDGNBVGY3TQOJQGEZDGNBVGY3TQOJQ" := by
    decide +kernel
  have hfragment : (GenericUri.split? "otpauth://totp/a#b?secret=GEZDGNBVGY3TQOJQGEZDGNBVGY3TQOJQ").map
      (·.fragment) = some (some "b?secret=GEZDGNBVGY3TQOJQGEZDGNBVGY3TQOJQ".toList) := by
    decide +kernel
  refine ⟨hrender, ?_⟩
  rintro ⟨text, parts, htext, hsplit, hnone, -⟩
  obtain rfl := Except.ok.inj (hrender.symm.trans htext)
  rw [hsplit, Option.map_some, hnone] at hfragment
  exact absurd (Option.some.inj hfragment) nofun

end EnrollmentUri

end OneTimePassword
