/-
Module: OneTimePassword.Proofs.SecretFile.Room
Purpose: A secret file has room for whatever its options lead to, whoever answers the questions. What
  is left to fail is a question without an answer, or the options themselves.
Main exports: Policy.TakesRoom, Policy.takesRoom_add, SecretFile.ensures_compose
-/
import OneTimePassword.Proofs.SecretFile.Layout
import OneTimePassword.Proofs.Session.Ensures

namespace OneTimePassword

open SetupM (runOn Ensures)

/-- Notes do not matter to what is known of a session. -/
def Session.IgnoresNotes (P : Session → Prop) : Prop :=
  ∀ s record, P s → P { s with journal := s.journal ++ [record] }

variable {P : Session → Prop} {E : Failure → Prop}

namespace Policy

variable {x y : ComposeM Unit} {width more : Nat} {directive : Directive} {mode : Mode}
  {options : Options}

/-- A step puts no more than `width` characters into a file. Where there is room for them, only what
`E` holds of can go wrong. -/
def TakesRoom (P : Session → Prop) (E : Failure → Prop) (x : ComposeM Unit) (width : Nat) : Prop :=
  ∀ file : SecretFile, ((file.size + width : Nat) : Int) ≤ file.capacity →
    Ensures P (x.run file)
      (fun done s => P s ∧ done.2.capacity = file.capacity ∧ done.2.size ≤ file.size + width) E

namespace TakesRoom

theorem skip (width : Nat) : TakesRoom P E (pure ()) width :=
  fun _ _ => .pure fun _ hs => ⟨hs, rfl, Nat.le_add_right _ _⟩

theorem stop {e : Failure} (he : E e) (width : Nat) : TakesRoom P E (throw e) width :=
  fun _ _ => .throw he

theorem state (ignores : Session.IgnoresNotes P) (hwidth : lineSize directive.line ≤ width) :
    TakesRoom P E (Policy.state directive) width := by
  intro file hroom
  constructor
  intro s hs
  have fits : file.Fits directive.line := by
    simp only [SecretFile.Fits]
    omega
  have hsize := SecretFile.size_above file [directive.line]
  simp only [List.singleton_append, List.map_cons, List.map_nil, List.sum_singleton] at hsize
  rw [Policy.state, SecretFile.runOn_insertLine,
    SecretFile.insertDirective_eq_ok directive.newline_notMem_line fits]
  exact ⟨ignores s _ hs, rfl, Nat.le_trans (Nat.le_of_eq hsize) (Nat.add_le_add_left hwidth _)⟩

theorem offer (ignores : Session.IgnoresNotes P) (question : Question)
    (hask : Ensures P (askWhether question.text) (fun _ => P) E)
    (hwidth : lineSize directive.line ≤ width) :
    TakesRoom P E (Policy.offer question directive) width := by
  intro file hroom
  constructor
  intro s hs
  rw [runOn_offer]
  rcases hrun : runOn (askWhether question.text) s with ⟨e | answer, t⟩
  · exact hask.of_eq_error hs hrun
  · have ht : P t := hask.of_eq_ok hs hrun
    cases answer with
    | false => exact ⟨ht, rfl, Nat.le_add_right _ _⟩
    | true => exact (state ignores hwidth file hroom).of_run t ht

theorem seq (hx : TakesRoom P E x width) (hy : TakesRoom P E y more) :
    TakesRoom P E (do x; y) (width + more) := by
  intro file hroom
  rw [StateT.run_bind]
  apply (hx file (by omega)).bind
  intro done
  constructor
  intro s hs
  rcases hs with ⟨hP, hcapacity, hsize⟩
  have hrest := (hy done.2 (by omega)).of_run s hP
  rcases hrun : runOn (y.run done.2) s with ⟨e | last, t⟩
  · rw [hrun] at hrest
    exact hrest
  · rw [hrun] at hrest
    exact ⟨hrest.1, hrest.2.1.trans hcapacity, by omega⟩

end TakesRoom

/-- The directives of options never take up more than the widest ones do. -/
theorem takesRoom_add (consistent : options.IsConsistent) (ignores : Session.IgnoresNotes P)
    (hask : ∀ message, Ensures P (askWhether message) (fun _ => P) E)
    (hconflict : ∀ conflict, E (.conflict conflict)) : TakesRoom P E (add mode options) widest := by
  refine TakesRoom.seq ?_ (TakesRoom.seq ?_ (TakesRoom.seq ?_ ?_))
  · unfold addReuse
    split
    · exact .offer ignores _ (hask _) (Nat.le_refl _)
    · exact .state ignores (Nat.le_refl _)
    · exact .skip _
  · unfold addStep
    split
    · exact .skip _
    · rename_i seconds hstep
      split
      · exact .skip _
      · exact .state ignores
          (Directive.lineSize_stepSize_le (consistent.step seconds hstep).1.2)
    · exact .stop (hconflict _) _
  · unfold addWindow
    split
    · exact .offer ignores _ (hask _) (Directive.lineSize_windowSize_le (by decide))
    · have hleast : minimalWindow mode ≤ Quantity.windowSize.greatest := by
        cases mode <;> decide
      exact .state ignores (Directive.lineSize_windowSize_le hleast)
    · rename_i codes hwindow
      split
      · exact .stop (hconflict _) _
      · exact .state ignores
          (Directive.lineSize_windowSize_le (consistent.window codes hwindow).1.2)
  · unfold addRate
    split
    · exact .offer ignores _ (hask _) (Directive.lineSize_rateLimit_le (by decide) (by decide))
    · exact .skip _
    · rename_i attempts seconds hrate
      obtain ⟨hattempts, hseconds⟩ := consistent.rate attempts seconds hrate
      exact .state ignores (Directive.lineSize_rateLimit_le hattempts.2 hseconds.2)

end Policy

/-- A file for a secret and codes of the usual length is never refused a line. -/
theorem SecretFile.ensures_compose {secret : String} {codes : List Int} {options : Options}
    (mode : Mode) (consistent : options.IsConsistent) (hsecret : '\n' ∉ secret.toList)
    (hlength : secret.length = secretLength) (hcount : codes.length ≤ ScratchCode.maxCount)
    (hcodes : ∀ code ∈ codes, 10000000 ≤ code ∧ code ≤ 99999999)
    (ignores : Session.IgnoresNotes P)
    (hask : ∀ message, Ensures P (askWhether message) (fun _ => P) E)
    (hconflict : ∀ conflict, E (.conflict conflict)) :
    Ensures P (compose secret mode codes options) (fun _ => P) E := by
  constructor
  intro s hs
  have hroom : (((bare secret mode codes).size + Policy.widest : Nat) : Int) ≤ maxSize :=
    Int.ofNat_le.mpr (size_bare_add_widest_le mode hlength hcount hcodes)
  have hroomy : Policy.TakesRoom P E (Policy.add mode options) Policy.widest :=
    Policy.takesRoom_add consistent ignores hask hconflict
  have hadd := (hroomy _ hroom).of_run s hs
  rw [runOn_compose options hsecret hlength hcount hcodes]
  rcases hrun : runOn ((Policy.add mode options).run (bare secret mode codes)) s with
    ⟨e | ⟨⟨⟩, file⟩, t⟩
  · rw [hrun] at hadd
    exact hadd
  · rw [hrun] at hadd
    exact hadd.1

end OneTimePassword
