/-
Module: OneTimePassword.Proofs.Session.Agree
Purpose: Two programs run side by side. As long as neither fails for one of some excused causes,
  they come to related values, or to one and the same failure, and leave related sessions.
Main exports: SetupM.Matches, SetupM.Agree, SetupM.Agree.bind, SetupM.Agree.orFail,
  SetupM.Agree.absorb
-/
import OneTimePassword.Proofs.Session.Ensures
import OneTimePassword.Proofs.Session.Respects

namespace OneTimePassword.SetupM

variable {α β γ δ : Type} {E : Failure → Prop} {R : Session → Session → Prop}

/-- Two outcomes are related values or one and the same failure. -/
inductive Matches {ε : Type} (Q : α → β → Prop) : Except ε α → Except ε β → Prop where
  | ok {a : α} {b : β} (h : Q a b) : Matches Q (.ok a) (.ok b)
  | error (e : ε) : Matches Q (.error e) (.error e)

theorem Matches.imp {ε : Type} {Q Q' : α → β → Prop} {first : Except ε α} {second : Except ε β}
    (h : Matches Q first second) (hQ : ∀ a b, Q a b → Q' a b) : Matches Q' first second := by
  cases h with
  | ok h => exact .ok (hQ _ _ h)
  | error e => exact .error e

theorem Matches.eq {ε : Type} {first second : Except ε α} (h : Matches (· = ·) first second) :
    first = second := by
  cases h with
  | ok h => rw [h]
  | error e => rfl

/-- An outcome is a failure for one of the given causes. -/
def FailsFor (E : Failure → Prop) (outcome : Except Failure α) : Prop :=
  ∃ e, outcome = .error e ∧ E e

/-- Two steps, each from one of two related sessions, come to the same as far as it is looked at,
unless one of them fails for an excused cause. -/
def Agree (E : Failure → Prop) (R : Session → Session → Prop) (Q : α → β → Prop) (x : SetupM α)
    (y : SetupM β) : Prop :=
  ∀ s t, R s t → FailsFor E (runOn x s).1 ∨ FailsFor E (runOn y t).1 ∨
    Matches Q (runOn x s).1 (runOn y t).1 ∧ R (runOn x s).2 (runOn y t).2

namespace Agree

variable {Q : α → β → Prop} {Q' : γ → δ → Prop} {x : SetupM α} {y : SetupM β} {f : α → SetupM γ}
  {g : β → SetupM δ}

theorem pure {a : α} {b : β} (h : Q a b) : Agree E R Q (Pure.pure a) (Pure.pure b) :=
  fun _ _ related => .inr (.inr ⟨.ok h, related⟩)

theorem throw (e : Failure) :
    Agree E R Q (MonadExcept.throw e : SetupM α) (MonadExcept.throw e : SetupM β) :=
  fun _ _ related => .inr (.inr ⟨.error e, related⟩)

theorem orFail {ε : Type} {first : Except ε α} {second : Except ε β} (cause : ε → Failure)
    (h : Matches Q first second) :
    Agree E R Q (OneTimePassword.orFail cause first) (OneTimePassword.orFail cause second) := by
  cases h with
  | ok h => exact .pure h
  | error e => exact .throw (cause e)

theorem imp {Q' : α → β → Prop} (h : Agree E R Q x y) (hQ : ∀ a b, Q a b → Q' a b) :
    Agree E R Q' x y := fun s t related =>
  (h s t related).imp_right (·.imp_right (·.imp_left (·.imp hQ)))

/-- What follows on related values has to agree as well. -/
theorem bind (hx : Agree E R Q x y) (hf : ∀ a b, Q a b → Agree E R Q' (f a) (g b)) :
    Agree E R Q' (x >>= f) (y >>= g) := by
  intro s t related
  have hfirst := hx s t related
  rcases hrunx : runOn x s with ⟨outcome, s'⟩
  rcases hruny : runOn y t with ⟨outcome', t'⟩
  rw [hrunx, hruny] at hfirst
  rcases hfirst with ⟨e, rfl, he⟩ | ⟨e, rfl, he⟩ | ⟨hmatches, hrelated⟩
  · exact .inl ⟨e, by rw [runOn_bind_of_error hrunx], he⟩
  · exact .inr (.inl ⟨e, by rw [runOn_bind_of_error hruny], he⟩)
  · cases hmatches with
    | @ok a b h =>
        rw [runOn_bind_of_ok hrunx, runOn_bind_of_ok hruny]
        exact hf a b h s' t' hrelated
    | error e =>
        rw [runOn_bind_of_error hrunx, runOn_bind_of_error hruny]
        exact .inr (.inr ⟨.error e, hrelated⟩)

/-- A step that does not tell related sessions apart agrees with itself. -/
theorem of_respects {x : SetupM α} (h : Respects R x) : Agree E R (· = ·) x x := by
  intro s t related
  obtain ⟨hsame, hrelated⟩ := h s t related
  refine .inr (.inr ⟨?_, hrelated⟩)
  rw [← hsame]
  cases (runOn x s).1 with
  | error e => exact .error e
  | ok a => exact .ok rfl

/-- Leave that is given in advance is asked for by neither. -/
theorem leave {given : Bool} {x : SetupM Bool} {f : Bool → SetupM γ} {g : Bool → SetupM δ}
    (hx : Respects R x) (hf : ∀ answer, Agree E R Q' (f answer) (g answer)) :
    Agree E R Q' (if given then Pure.pure true >>= f else x >>= f)
      (if given then Pure.pure true >>= g else x >>= g) := by
  cases given with
  | true => exact hf true
  | false =>
      apply (of_respects hx).bind
      rintro answer _ rfl
      exact hf answer

/-- Whatever each of two steps does on its own, they agree if neither leaves the sessions that its
own one is related to. What is known of the value of each is all that relates the two values. -/
theorem absorb {P : α → Prop} {P' : β → Prop} (symm : ∀ s t, R s t → R t s)
    (hx : ∀ t, Ensures (R t) x (fun a s => P a ∧ R t s) E)
    (hy : ∀ s, Ensures (R s) y (fun b t => P' b ∧ R s t) E) :
    Agree E R (fun a b => P a ∧ P' b) x y := by
  intro s t related
  rcases hrunx : runOn x s with ⟨e | a, s'⟩
  · exact .inl ⟨e, rfl, (hx t).of_eq_error (symm s t related) hrunx⟩
  · obtain ⟨ha, hfirst⟩ := (hx t).of_eq_ok (symm s t related) hrunx
    rcases hruny : runOn y t with ⟨e | b, t'⟩
    · exact .inr (.inl ⟨e, rfl, (hy s').of_eq_error (symm t s' hfirst) hruny⟩)
    · obtain ⟨hb, hsecond⟩ := (hy s').of_eq_ok (symm t s' hfirst) hruny
      exact .inr (.inr ⟨.ok ⟨ha, hb⟩, hsecond⟩)

/-- Steps that come to nothing of interest agree if each keeps to itself. -/
theorem absorb_quietly (symm : ∀ s t, R s t → R t s) (hx : ∀ t, Ensures (R t) x (fun _ => R t) E)
    (hy : ∀ s, Ensures (R s) y (fun _ => R s) E) : Agree E R (fun _ _ => True) x y := by
  have hboth : Agree E R (fun _ _ => True ∧ True) x y :=
    absorb symm (fun t => (hx t).imp fun _ _ related => ⟨trivial, related⟩)
      fun s => (hy s).imp fun _ _ related => ⟨trivial, related⟩
  exact hboth.imp fun _ _ _ => trivial

end Agree

end OneTimePassword.SetupM
