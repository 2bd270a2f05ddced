/-
Module: OneTimePassword.Proofs.Session.Steps
Purpose: How the steps of a run take a session on, one after another, and what a run keeps because
  each of its steps does.
Main exports: SetupM.runOn_bind, SetupM.runOn_bind_eq_ok_iff, SetupM.Keeps, SetupM.Keeps.bind
-/
import OneTimePassword.Session

namespace OneTimePassword

namespace SetupM

variable {α β : Type} {x : SetupM α} {f : α → SetupM β} {b : β} {s s' : Session}

/-! ### The outcome of steps -/

/-- What comes of a step that a session takes, and the session after it. -/
def runOn (x : SetupM α) (s : Session) : Except Failure α × Session := x.run.run s

/-- The second step follows where the first has a value. -/
theorem runOn_bind (x : SetupM α) (f : α → SetupM β) (s : Session) :
    runOn (x >>= f) s =
      match runOn x s with
      | (.ok a, s') => runOn (f a) s'
      | (.error e, s') => (.error e, s') := by
  rcases h : runOn x s with ⟨e | a, s'⟩
  · have hx : x.run.run s = (.error e, s') := h
    simp only [runOn, ExceptT.run_bind, StateT.run_bind, hx]
    rfl
  · have hx : x.run.run s = (.ok a, s') := h
    simp only [runOn, ExceptT.run_bind, StateT.run_bind, hx]
    rfl

theorem runOn_bind_of_ok {a : α} (h : runOn x s = (.ok a, s')) :
    runOn (x >>= f) s = runOn (f a) s' := by
  rw [runOn_bind, h]

theorem runOn_bind_of_error {e : Failure} (h : runOn x s = (.error e, s')) :
    runOn (x >>= f) s = (.error e, s') := by
  rw [runOn_bind, h]

/-- The handler follows where the step has no value. -/
theorem runOn_tryCatch (x : SetupM α) (handler : Failure → SetupM α) (s : Session) :
    runOn (tryCatch x handler) s =
      match runOn x s with
      | (.ok a, s') => (.ok a, s')
      | (.error e, s') => runOn (handler e) s' := by
  simp only [runOn, tryCatch, tryCatchThe, MonadExceptOf.tryCatch, ExceptT.tryCatch, ExceptT.run_mk,
    StateT.run_bind]
  rcases hx : x.run.run s with ⟨e | a, s'⟩
  · have h : StateT.run x s = (.error e, s') := hx
    rw [h]
    rfl
  · have h : StateT.run x s = (.ok a, s') := hx
    rw [h]
    rfl

/-- Two steps have a value only if both have one. -/
theorem runOn_bind_eq_ok_iff :
    runOn (x >>= f) s = (.ok b, s') ↔
      ∃ a middle, runOn x s = (.ok a, middle) ∧ runOn (f a) middle = (.ok b, s') := by
  constructor
  · intro h
    rcases hx : runOn x s with ⟨e | a, middle⟩
    · simp [runOn_bind_of_error hx] at h
    · exact ⟨a, middle, rfl, by rwa [runOn_bind_of_ok hx] at h⟩
  · rintro ⟨a, middle, hx, hf⟩
    rw [runOn_bind_of_ok hx, hf]

/-- A step that may be left out stands before another one. -/
theorem runOn_unless_eq_ok_iff {skipped : Bool} {x : SetupM Unit} {f : Unit → SetupM β} :
    runOn (if !skipped then x >>= f else f ()) s = (.ok b, s') ↔
      ∃ middle, (if skipped then middle = s else runOn x s = (.ok (), middle)) ∧
        runOn (f ()) middle = (.ok b, s') := by
  cases skipped with
  | true => simp
  | false =>
      simp only [Bool.not_false, if_true, runOn_bind_eq_ok_iff, Bool.false_eq_true, if_false]
      constructor
      · rintro ⟨⟨⟩, middle, hx, hf⟩
        exact ⟨middle, hx, hf⟩
      · rintro ⟨middle, hx, hf⟩
        exact ⟨(), middle, hx, hf⟩

/-- Leave that is given in advance is not asked for. -/
theorem runOn_leave_eq_ok_iff {given : Bool} {x : SetupM Bool} {f : Bool → SetupM β} :
    runOn (if given then pure true >>= f else x >>= f) s = (.ok b, s') ↔
      ∃ answer middle,
        (if given then answer = true ∧ middle = s else runOn x s = (.ok answer, middle)) ∧
        runOn (f answer) middle = (.ok b, s') := by
  cases given with
  | true => simp [and_assoc]
  | false => simp [runOn_bind_eq_ok_iff]

@[simp] theorem runOn_pure (a : α) (s : Session) : runOn (pure a : SetupM α) s = (.ok a, s) := rfl

@[simp] theorem runOn_throw (e : Failure) (s : Session) :
    runOn (throw e : SetupM α) s = (.error e, s) := rfl

@[simp] theorem runOn_get (s : Session) : runOn (get : SetupM Session) s = (.ok s, s) := rfl

@[simp] theorem runOn_set (s t : Session) : runOn (set t : SetupM PUnit) s = (.ok ⟨⟩, t) := rfl

@[simp] theorem runOn_modify (g : Session → Session) (s : Session) :
    runOn (modify g : SetupM PUnit) s = (.ok ⟨⟩, g s) := rfl

@[simp] theorem runOn_orFail_ok {ε : Type} (cause : ε → Failure) (a : α) (s : Session) :
    runOn (orFail cause (.ok a)) s = (.ok a, s) := rfl

@[simp] theorem runOn_orFail_error {ε : Type} (cause : ε → Failure) (e : ε) (s : Session) :
    runOn (orFail cause (.error e) : SetupM α) s = (.error (cause e), s) := rfl

theorem runOn_orFail_eq_ok_iff {ε : Type} {cause : ε → Failure} {result : Except ε β} :
    runOn (orFail cause result) s = (.ok b, s') ↔ result = .ok b ∧ s' = s := by
  cases result with
  | error e => simp
  | ok a => simp [eq_comm]

@[simp] theorem runOn_printLine (text : String) (s : Session) :
    runOn (printLine text) s = (.ok (), { s with printed := s.printed ++ (text ++ "\n") }) := rfl

@[simp] theorem runOn_note (record : Record) (s : Session) :
    runOn (note record) s = (.ok (), { s with journal := s.journal ++ [record] }) := rfl

theorem runOn_ask (question : Respondent → Respondent.Reply α) (s : Session) :
    runOn (ask question) s =
      runOn (orFail .unanswered (question s.respondent).outcome)
        { s with
          respondent := (question s.respondent).respondent
          printed := s.printed ++ (question s.respondent).printed } := rfl

/-! ### What steps keep -/

/-- The session after a step is related to the one before it, whatever comes of the step. -/
def Keeps (R : Session → Session → Prop) (x : SetupM α) : Prop := ∀ s, R s (runOn x s).2

namespace Keeps

variable {R : Session → Session → Prop}

theorem of_run (h : Keeps R x) {outcome : Except Failure α} (hrun : runOn x s = (outcome, s')) :
    R s s' := by
  have := h s
  rwa [hrun] at this

theorem mono {R' : Session → Session → Prop} (hx : Keeps R x) (h : ∀ s t, R s t → R' s t) :
    Keeps R' x := fun s => h s _ (hx s)

theorem pure (refl : ∀ s, R s s) (a : α) : Keeps R (Pure.pure a) := refl

theorem throw (refl : ∀ s, R s s) (e : Failure) : Keeps R (MonadExcept.throw e : SetupM α) := refl

theorem orFail (refl : ∀ s, R s s) {ε : Type} (cause : ε → Failure) (result : Except ε α) :
    Keeps R (orFail cause result) := by
  intro s
  cases result with
  | error e => exact refl s
  | ok a => exact refl s

theorem bind (trans : ∀ s t u, R s t → R t u → R s u) (hx : Keeps R x) (hf : ∀ a, Keeps R (f a)) :
    Keeps R (x >>= f) := by
  intro s
  rcases h : runOn x s with ⟨e | a, middle⟩
  · rw [runOn_bind_of_error h]
    exact hx.of_run h
  · rw [runOn_bind_of_ok h]
    exact trans _ _ _ (hx.of_run h) (hf a middle)

end Keeps

end SetupM

end OneTimePassword
