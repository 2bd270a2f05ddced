/-
Module: OneTimePassword.Proofs.Session.Ensures
Purpose: What a step makes sure of: it takes a session of one kind to a value and a session of another
  kind, unless it fails, and then it fails for one of the given causes.
Main exports: SetupM.Ensures, SetupM.Ensures.bind, SetupM.Ensures.mono, SetupM.Ensures.orFail
-/
import OneTimePassword.Proofs.Session.Steps

namespace OneTimePassword.SetupM

variable {α β : Type} {P P' : Session → Prop} {Q : α → Session → Prop} {R : β → Session → Prop}
  {E E' : Failure → Prop} {x : SetupM α} {f : α → SetupM β}

/-- From a session of which `P` holds the step comes to a value and a session of which `Q` holds, or
to a failure of which `E` holds. -/
structure Ensures (P : Session → Prop) (x : SetupM α) (Q : α → Session → Prop)
    (E : Failure → Prop) : Prop where
  of_run : ∀ s, P s →
    match runOn x s with
    | (.ok a, t) => Q a t
    | (.error e, _) => E e

namespace Ensures

theorem of_eq_ok (h : Ensures P x Q E) {s t : Session} {a : α} (hs : P s)
    (hrun : runOn x s = (.ok a, t)) : Q a t := by
  have := h.of_run s hs
  rwa [hrun] at this

theorem of_eq_error (h : Ensures P x Q E) {s t : Session} {e : Failure} (hs : P s)
    (hrun : runOn x s = (.error e, t)) : E e := by
  have := h.of_run s hs
  rwa [hrun] at this

/-- Whoever relies on less may promise less. -/
theorem mono {Q' : α → Session → Prop} (h : Ensures P x Q E) (hP : ∀ s, P' s → P s)
    (hQ : ∀ a s, Q a s → Q' a s) (hE : ∀ e, E e → E' e) : Ensures P' x Q' E' := by
  constructor
  intro s hs
  rcases hrun : runOn x s with ⟨e | a, t⟩
  · exact hE e (h.of_eq_error (hP s hs) hrun)
  · exact hQ a t (h.of_eq_ok (hP s hs) hrun)

theorem imp {Q' : α → Session → Prop} (h : Ensures P x Q E) (hQ : ∀ a s, Q a s → Q' a s) :
    Ensures P x Q' E := h.mono (fun _ => id) hQ fun _ => id

theorem pure {a : α} (h : ∀ s, P s → Q a s) : Ensures P (Pure.pure a) Q E := ⟨h⟩

theorem throw {e : Failure} (h : E e) : Ensures P (MonadExcept.throw e : SetupM α) Q E :=
  ⟨fun _ _ => h⟩

/-- The second step goes on from what the first makes sure of. -/
theorem bind (hx : Ensures P x Q E) (hf : ∀ a, Ensures (Q a) (f a) R E) :
    Ensures P (x >>= f) R E := by
  constructor
  intro s hs
  rcases hrun : runOn x s with ⟨e | a, t⟩
  · rw [runOn_bind_of_error hrun]
    exact hx.of_eq_error hs hrun
  · rw [runOn_bind_of_ok hrun]
    exact (hf a).of_run t (hx.of_eq_ok hs hrun)

/-- What is known besides the session counts for the step. -/
theorem assume {p : Prop} (h : p → Ensures P x Q E) : Ensures (fun s => p ∧ P s) x Q E :=
  ⟨fun s hs => (h hs.1).of_run s hs.2⟩

theorem modify {g : Session → Session} {Q : PUnit → Session → Prop}
    (h : ∀ s, P s → Q ⟨⟩ (g s)) : Ensures P (modify g) Q E := ⟨h⟩

theorem orFail {ε : Type} {cause : ε → Failure} {result : Except ε α}
    (hok : ∀ a, result = .ok a → ∀ s, P s → Q a s)
    (herror : ∀ e, result = .error e → E (cause e)) : Ensures P (orFail cause result) Q E := by
  constructor
  intro s hs
  cases result with
  | error e => exact herror e rfl
  | ok a => exact hok a rfl s hs

theorem ask {question : Respondent → Respondent.Reply α}
    (h : ∀ s, P s →
      match (question s.respondent).outcome with
      | .ok a => Q a { s with
          respondent := (question s.respondent).respondent
          printed := s.printed ++ (question s.respondent).printed }
      | .error stop => E (.unanswered stop)) : Ensures P (ask question) Q E := by
  constructor
  intro s hs
  have hreply := h s hs
  rw [runOn_ask]
  cases houtcome : (question s.respondent).outcome with
  | error stop =>
      rw [houtcome] at hreply
      exact hreply
  | ok a =>
      rw [houtcome] at hreply
      exact hreply

end Ensures

end OneTimePassword.SetupM
