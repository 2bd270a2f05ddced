/-
Module: OneTimePassword.Proofs.SecretFile.Twin
Purpose: Secret files that differ in nothing but their secrets and codes. What is done to one of
  them goes for the other as well, and their texts have the same length.
Main exports: SecretFile.AlikeLine, SecretFile.AlikeCodes, SecretFile.Twin,
  SecretFile.Twin.length_text, ComposeM.Agree, SetupM.Agree.compose
-/
import Mathlib.Data.List.Forall2
import OneTimePassword.Proofs.FileSystem.Place
import OneTimePassword.Proofs.SecretFile.Compositional
import OneTimePassword.Proofs.SecretFile.Lines
import OneTimePassword.Proofs.Session.Agree
import OneTimePassword.Proofs.Text.Plain

namespace OneTimePassword

open SetupM (Matches Respects Inquiring)

namespace SecretFile

/-! ### Lines -/

/-- A line and its like: the same, or other letters and digits, just as many of them. -/
inductive AlikeLine : String → String → Prop where
  | same (line : String) : AlikeLine line line
  | plain {line line' : String} (hplain : Text.IsPlain line) (hplain' : Text.IsPlain line')
      (hlength : line'.length = line.length) : AlikeLine line line'

/-- Codes, one by one, and others that are written in lines like theirs. -/
def AlikeCodes : List Int → List Int → Prop :=
  List.Forall₂ fun code code' => AlikeLine (ScratchCode.display code) (ScratchCode.display code')

variable {line line' : String} {file file' : SecretFile}

namespace AlikeLine

theorem lineSize_eq (h : AlikeLine line line') : lineSize line' = lineSize line := by
  cases h with
  | same => rfl
  | plain _ _ hlength => rw [lineSize, lineSize, hlength]

theorem length_utf8_eq (h : AlikeLine line line') :
    (Text.utf8 line').length = (Text.utf8 line).length := by
  cases h with
  | same => rfl
  | plain hplain hplain' hlength => rw [hplain'.length_utf8, hplain.length_utf8, hlength]

theorem eq_mode_line_iff (h : AlikeLine line line') (mode : Mode) :
    line' = mode.line ↔ line = mode.line := by
  cases h with
  | same => rfl
  | plain hplain hplain' _ =>
      simp only [hplain'.ne_mode_line mode, hplain.ne_mode_line mode]

theorem stripNewlines (h : AlikeLine line line') :
    AlikeLine (stripNewlines line) (stripNewlines line') := by
  cases h with
  | same => exact .same _
  | plain hplain hplain' hlength =>
      rw [stripNewlines_of_notMem (hplain.notMem rfl), stripNewlines_of_notMem (hplain'.notMem rfl)]
      exact .plain hplain hplain' hlength

/-- What is the same of each two lines is the same of all of them. -/
theorem map_eq {α : Type} {f : String → α} {lines lines' : List String}
    (hf : ∀ line line', AlikeLine line line' → f line' = f line)
    (h : List.Forall₂ AlikeLine lines lines') : lines'.map f = lines.map f := by
  induction h with
  | nil => rfl
  | cons hline _ ih => rw [List.map_cons, List.map_cons, hf _ _ hline, ih]

end AlikeLine

/-! ### Files -/

/-- A file and its twin differ in the secret and in the codes, not in how long these are. -/
structure Twin (file file' : SecretFile) : Prop where
  capacity : file'.capacity = file.capacity
  secret : AlikeLine file.secret file'.secret
  directives : file'.directives = file.directives
  entries : List.Forall₂ AlikeLine file.entries file'.entries

namespace Twin

theorem lines (twin : file.Twin file') : List.Forall₂ AlikeLine file.lines file'.lines := by
  rw [SecretFile.lines, SecretFile.lines, twin.directives]
  exact .cons twin.secret
    (List.rel_append (List.forall₂_same.mpr fun line _ => .same line) twin.entries)

theorem size_eq (twin : file.Twin file') : file'.size = file.size := by
  rw [size_eq_sum, size_eq_sum, AlikeLine.map_eq (fun _ _ => AlikeLine.lineSize_eq) twin.lines]

theorem fits_iff (twin : file.Twin file') (h : AlikeLine line line') :
    file'.Fits line' ↔ file.Fits line := by
  rw [Fits, Fits, twin.size_eq, h.lineSize_eq, twin.capacity]

theorem hasMode_eq (twin : file.Twin file') : file'.hasMode = file.hasMode := by
  have hline (line line' : String) (h : AlikeLine line line') :
      (line' == Mode.timeBased.line || line' == Mode.counterBased.line) =
        (line == Mode.timeBased.line || line == Mode.counterBased.line) := by
    rw [Bool.eq_iff_iff]
    simp only [Bool.or_eq_true, beq_iff_eq, h.eq_mode_line_iff]
  have hall := congrArg (·.any id) (AlikeLine.map_eq hline twin.lines)
  rwa [List.any_map, List.any_map, Function.id_comp] at hall

/-- The texts of twins are of one length. -/
theorem length_text (twin : file.Twin file') :
    (Text.utf8 file'.text).length = (Text.utf8 file.text).length := by
  have hjoin (lines : List String) : (Text.utf8 (String.join (lines.map (· ++ "\n")))).length =
      (lines.map fun line => (Text.utf8 line).length + 1).sum := by
    induction lines with
    | nil => rfl
    | cons line rest ih =>
        have hnewline : (Text.utf8 "\n").length = 1 := by decide
        rw [List.map_cons, String.join_cons, FileSystem.length_utf8_append,
          FileSystem.length_utf8_append, hnewline, ih, List.map_cons, List.sum_cons]
  have hline (line line' : String) (h : AlikeLine line line') :
      (Text.utf8 line').length + 1 = (Text.utf8 line).length + 1 := by rw [h.length_utf8_eq]
  rw [text, text, hjoin, hjoin, AlikeLine.map_eq hline twin.lines]

end Twin

/-! ### Changes -/

theorem twin_start {secret secret' : String} (h : AlikeLine secret secret') (capacity : Int) :
    Matches Twin (start secret capacity) (start secret' capacity) := by
  have twin : Twin
      { capacity, secret := stripNewlines secret, directives := [], entries := [] }
      { capacity, secret := stripNewlines secret', directives := [], entries := [] } :=
    ⟨rfl, h.stripNewlines, rfl, .nil⟩
  simp only [start, twin.size_eq]
  split
  · exact .ok twin
  · exact .error _

namespace Twin

theorem append (twin : file.Twin file') (h : AlikeLine line line') :
    Matches Twin (file.append line) (file'.append line') := by
  unfold SecretFile.append
  simp only [twin.fits_iff h]
  split
  · exact .ok ⟨twin.capacity, twin.secret, twin.directives,
      List.rel_append twin.entries (.cons h .nil)⟩
  · exact .error _

theorem addMode (twin : file.Twin file') (mode : Mode) :
    Matches Twin (file.addMode mode) (file'.addMode mode) := by
  unfold SecretFile.addMode
  rw [twin.hasMode_eq]
  split
  · exact .error _
  · exact twin.append (.same _)

theorem insertDirective (twin : file.Twin file') (line : String) :
    Matches Twin (file.insertDirective line) (file'.insertDirective line) := by
  unfold SecretFile.insertDirective
  simp only [twin.fits_iff (.same _)]
  split
  · exact .ok ⟨twin.capacity, twin.secret,
      congrArg (SecretFile.stripNewlines line :: ·) twin.directives, twin.entries⟩
  · exact .error _

end Twin

end SecretFile

/-! ### Putting twins together -/

open SecretFile (AlikeLine AlikeCodes Twin)

variable {α β : Type} {E : Failure → Prop} {R : Session → Session → Prop}

/-- Two steps do the same to twins: they have the same value, and leave twins behind. -/
def ComposeM.Agree (E : Failure → Prop) (R : Session → Session → Prop) (x y : ComposeM α) : Prop :=
  ∀ file file', file.Twin file' →
    SetupM.Agree E R (fun done done' => done.1 = done'.1 ∧ done.2.Twin done'.2) (x.run file)
      (y.run file')

namespace ComposeM.Agree

theorem pure (a : α) : Agree E R (Pure.pure a) (Pure.pure a) := fun _ _ twin => .pure ⟨rfl, twin⟩

theorem throw (e : Failure) : Agree E R (MonadExcept.throw e : ComposeM α) (MonadExcept.throw e) :=
  fun _ _ _ => .throw e

theorem bind {x y : ComposeM α} {f g : α → ComposeM β} (hx : Agree E R x y)
    (hf : ∀ a, Agree E R (f a) (g a)) : Agree E R (x >>= f) (y >>= g) := by
  intro file file' twin
  rw [StateT.run_bind, StateT.run_bind]
  apply (hx file file' twin).bind
  rintro ⟨a, changed⟩ ⟨_, changed'⟩ ⟨rfl, twin'⟩
  exact hf a changed changed' twin'

theorem lift {x : SetupM α} (h : Respects R x) : Agree E R (x : ComposeM α) (x : ComposeM α) := by
  intro file file' twin
  apply (SetupM.Agree.of_respects h).bind
  rintro a _ rfl
  exact .pure ⟨rfl, twin⟩

theorem change {f f' : SecretFile → Except SecretFile.Refusal SecretFile}
    (h : ∀ file file', file.Twin file' → Matches Twin (f file) (f' file')) :
    Agree E R (SecretFile.change f) (SecretFile.change f') := by
  intro file file' twin
  have hrun (f : SecretFile → Except SecretFile.Refusal SecretFile) (file : SecretFile) :
      (SecretFile.change f).run file =
        orFail .refusal (f file) >>= fun changed => Pure.pure (PUnit.unit, changed) := by
    simp [SecretFile.change]
  rw [hrun, hrun]
  apply (SetupM.Agree.orFail .refusal (h file file' twin)).bind
  intro changed changed' twin'
  exact .pure ⟨rfl, twin'⟩

end ComposeM.Agree

variable (hR : Inquiring fun x => Respects R x)

include hR

/-- What is settled by options and answers is settled alike. -/
theorem Policy.agree_add (mode : Mode) (options : Options) :
    ComposeM.Agree E R (add mode options) (add mode options) := by
  have hstate (directive : Directive) : ComposeM.Agree E R (state directive) (state directive) :=
    .bind (.change fun _ _ twin => twin.insertDirective _) fun _ => .lift (hR.note _)
  apply @add_induction fun x => ComposeM.Agree E R x x
  · exact .pure _
  · exact .throw
  · exact hstate
  · intro question directive _
    refine .bind (.bind (.lift (hR.askWhether question.text_ne_codeQuestion)) ?_) fun _ => .pure _
    intro answer
    cases answer with
    | true => exact .bind (hstate directive) fun _ => .pure _
    | false => exact .pure _
  · exact fun hx hy => .bind hx fun _ => hy

/-- The same goes for two whole files. -/
theorem SetupM.Agree.compose {secret secret' : String} (hsecret : AlikeLine secret secret')
    {codes codes' : List Int} (hcodes : AlikeCodes codes codes') (mode : Mode) (options : Options) :
    Agree E R Twin (SecretFile.compose secret mode codes options)
      (SecretFile.compose secret' mode codes' options) := by
  have hadd : ComposeM.Agree E R
      (codes.forM fun code => SecretFile.change (·.addCode code))
      (codes'.forM fun code => SecretFile.change (·.addCode code)) := by
    induction hcodes with
    | nil => exact .pure _
    | cons hcode _ ih => exact .bind (.change fun _ _ twin => twin.append hcode) fun _ => ih
  have hsteps := ComposeM.Agree.bind (.change fun _ _ twin => twin.addMode mode)
    fun _ => .bind hadd fun _ => Policy.agree_add hR mode options
  apply (Agree.orFail .refusal (SecretFile.twin_start hsecret _)).bind
  intro file file' twin
  apply (hsteps file file' twin).bind
  intro done done' h
  exact .pure h.2

end OneTimePassword
