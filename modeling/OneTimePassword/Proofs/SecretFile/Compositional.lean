/-
Module: OneTimePassword.Proofs.SecretFile.Compositional
Purpose: To put a secret file together is to talk to people, whatever happens to the file.
Main exports: ComposeM.Lifts, Policy.Question.IsOpen, Policy.add_induction,
  SetupM.Compositional.compose, SetupM.Inquiring.compose
-/
import OneTimePassword.Proofs.Session.Compositional
import OneTimePassword.SecretFile.Policy

namespace OneTimePassword

open SetupM (Compositional Inquiring)

variable {Φ : ∀ {α : Type}, SetupM α → Prop} {α β : Type}

/-- A step has a property whatever the file is that it is applied to. -/
def ComposeM.Lifts (Φ : ∀ {α : Type}, SetupM α → Prop) (x : ComposeM α) : Prop :=
  ∀ file, Φ (x.run file)

namespace ComposeM.Lifts

theorem bind {x : ComposeM α} {f : α → ComposeM β} (hΦ : Compositional Φ) (hx : Lifts Φ x)
    (hf : ∀ a, Lifts Φ (f a)) : Lifts Φ (x >>= f) := by
  intro file
  rw [StateT.run_bind]
  exact hΦ.bind (hx file) fun done => hf done.1 done.2

theorem lift {x : SetupM α} (hΦ : Compositional Φ) (hx : Φ x) : Lifts Φ (x : ComposeM α) :=
  fun _ => hΦ.bind hx fun _ => hΦ.pure _

theorem change (hΦ : Compositional Φ)
    (f : SecretFile → Except SecretFile.Refusal SecretFile) : Lifts Φ (SecretFile.change f) :=
  .bind hΦ (fun _ => hΦ.pure _) fun _ => .bind hΦ (.lift hΦ (hΦ.orFail _ _)) fun _ _ => hΦ.pure _

theorem discard {x : ComposeM α} (hΦ : Compositional Φ) (hx : Lifts Φ x) :
    Lifts Φ (Functor.discard x) := fun file => hΦ.bind (hx file) fun _ => hΦ.pure _

end ComposeM.Lifts

open ComposeM (Lifts)

namespace SecretFile

theorem lifts_insertLine (hΦ : Compositional Φ) (hnote : ∀ record, Φ (note record))
    (line : String) : Lifts Φ (insertLine line) :=
  .bind hΦ (.change hΦ _) fun _ => .lift hΦ (hnote _)

theorem lifts_offerLine (hΦ : Inquiring Φ) {question : String}
    (h : question ≠ Respondent.codeQuestion) (line : String) :
    Lifts Φ (offerLine question line) := by
  apply Lifts.bind hΦ.toCompositional (.lift hΦ.toCompositional (hΦ.askWhether h))
  intro answer
  cases answer with
  | true =>
      have hinsert := lifts_insertLine hΦ.toCompositional hΦ.note line
      exact .bind hΦ.toCompositional hinsert fun _ _ => hΦ.pure _
  | false => exact fun _ => hΦ.pure _

end SecretFile

namespace Policy

theorem Question.text_ne_codeQuestion (question : Question) :
    question.text ≠ Respondent.codeQuestion := by
  cases question with
  | reuse => decide +kernel
  | window mode => cases mode <;> decide +kernel
  | rate => decide +kernel

theorem lifts_offer (hΦ : Inquiring Φ) (question : Question) (directive : Directive) :
    Lifts Φ (offer question directive) :=
  .discard hΦ.toCompositional (SecretFile.lifts_offerLine hΦ question.text_ne_codeQuestion _)

/-- Options leave a question open in a mode. -/
def Question.IsOpen (mode : Mode) (options : Options) : Question → Prop
  | .reuse => mode = .timeBased ∧ options.disallowReuse = none
  | .window other => other = mode ∧ options.window = .ask
  | .rate => options.rate = .ask

/-- To settle the directives is to state them, to offer them where the options leave them open, and to
stop at a conflict, one after the other. What holds of these steps holds of the whole. -/
theorem add_induction {Ψ : ComposeM Unit → Prop} {mode : Mode} {options : Options}
    (skip : Ψ (pure ())) (stop : ∀ e, Ψ (throw e)) (state : ∀ directive, Ψ (state directive))
    (offer : ∀ (question : Question) directive, question.IsOpen mode options →
      Ψ (offer question directive))
    (seq : ∀ {x y : ComposeM Unit}, Ψ x → Ψ y → Ψ (do x; y)) : Ψ (add mode options) := by
  refine seq ?_ (seq ?_ (seq ?_ ?_))
  · unfold addReuse
    split
    · rename_i hopen
      exact offer .reuse _ ⟨rfl, hopen⟩
    · exact state _
    · exact skip
  · unfold addStep
    split
    · exact skip
    · split
      · exact skip
      · exact state _
    · exact stop _
  · unfold addWindow
    split
    · rename_i hopen
      exact offer (.window mode) _ ⟨rfl, hopen⟩
    · exact state _
    · split
      · exact stop _
      · exact state _
  · unfold addRate
    split
    · rename_i hopen
      exact offer .rate _ hopen
    · exact skip
    · exact state _

section

variable (hΦ : Compositional Φ) (hnote : ∀ record, Φ (note record)) {mode : Mode}
  {options : Options}

include hΦ hnote

/-- Only for what is open there has to be somebody to ask. -/
theorem lifts_add_of_offer (hoffer : ∀ (question : Question) directive,
      question.IsOpen mode options → Lifts Φ (offer question directive)) :
    Lifts Φ (add mode options) := by
  apply add_induction
  · exact fun _ => hΦ.pure _
  · exact fun e _ => hΦ.throw e
  · exact fun directive => SecretFile.lifts_insertLine hΦ hnote directive.line
  · exact hoffer
  · exact fun hx hy => .bind hΦ hx fun _ => hy

/-- Where all is given, nobody has to be asked. -/
theorem lifts_add_of_given (hgiven : ∀ question : Question, ¬ question.IsOpen mode options) :
    Lifts Φ (add mode options) :=
  lifts_add_of_offer hΦ hnote fun question _ hopen => absurd hopen (hgiven question)

end

theorem lifts_add (hΦ : Inquiring Φ) (mode : Mode) (options : Options) :
    Lifts Φ (add mode options) :=
  lifts_add_of_offer hΦ.toCompositional hΦ.note fun question directive _ =>
    lifts_offer hΦ question directive

end Policy

/-- Only the directives have to do with more than the file. -/
theorem SetupM.Compositional.compose (hΦ : Compositional Φ) {mode : Mode} {options : Options}
    (hadd : Lifts Φ (Policy.add mode options)) (secret : String) (codes : List Int) :
    Φ (SecretFile.compose secret mode codes options) := by
  have hcodes : Lifts Φ (codes.forM fun code => SecretFile.change (·.addCode code)) := by
    induction codes with
    | nil => exact fun _ => hΦ.pure _
    | cons code rest ih => exact .bind hΦ (.change hΦ _) fun _ => ih
  have hsteps := Lifts.bind hΦ (.change hΦ (·.addMode mode)) fun _ => .bind hΦ hcodes fun _ => hadd
  exact hΦ.bind (hΦ.orFail _ _) fun file => hΦ.bind (hsteps file) fun _ => hΦ.pure _

/-- A secret file is put together by talking. -/
theorem SetupM.Inquiring.compose (hΦ : Inquiring Φ) (secret : String) (mode : Mode)
    (codes : List Int) (options : Options) :
    Φ (SecretFile.compose secret mode codes options) :=
  hΦ.toCompositional.compose (Policy.lifts_add hΦ mode options) secret codes

end OneTimePassword
