/-
Module: OneTimePassword.Proofs.SecretFile.Steps
Purpose: How the steps of putting a secret file together take the file and the session on.
Main exports: ComposeM.runOn_bind, SecretFile.runOn_insertLine, SecretFile.runOn_offerLine,
  Policy.runOn_offer
-/
import OneTimePassword.Proofs.SecretFile.Lines
import OneTimePassword.Proofs.Session.Steps
import OneTimePassword.SecretFile.Policy

namespace OneTimePassword

open SetupM (runOn runOn_bind_of_ok runOn_bind_of_error)

variable {file : SecretFile} {s : Session}

namespace ComposeM

variable {α β : Type}

/-- The second step follows where the first has a value. -/
theorem runOn_bind (x : ComposeM α) (f : α → ComposeM β) (file : SecretFile) (s : Session) :
    runOn ((x >>= f).run file) s =
      match runOn (x.run file) s with
      | (.ok (a, file'), s') => runOn ((f a).run file') s'
      | (.error e, s') => (.error e, s') := by
  rw [StateT.run_bind, SetupM.runOn_bind]
  rcases runOn (x.run file) s with ⟨e | ⟨a, file'⟩, s'⟩
  · rfl
  · rfl

theorem runOn_bind_of_ok {x : ComposeM α} {f : α → ComposeM β} {a : α} {file' : SecretFile}
    {s' : Session} (h : runOn (x.run file) s = (.ok (a, file'), s')) :
    runOn ((x >>= f).run file) s = runOn ((f a).run file') s' := by
  rw [runOn_bind, h]

theorem runOn_bind_of_error {x : ComposeM α} {f : α → ComposeM β} {e : Failure} {s' : Session}
    (h : runOn (x.run file) s = (.error e, s')) :
    runOn ((x >>= f).run file) s = (.error e, s') := by
  rw [runOn_bind, h]

/-- Two steps have a value only if both have one. -/
theorem runOn_bind_eq_ok_iff {x : ComposeM α} {f : α → ComposeM β} {b : β} {file' : SecretFile}
    {s' : Session} :
    runOn ((x >>= f).run file) s = (.ok (b, file'), s') ↔
      ∃ a changed middle, runOn (x.run file) s = (.ok (a, changed), middle) ∧
        runOn ((f a).run changed) middle = (.ok (b, file'), s') := by
  rw [StateT.run_bind, SetupM.runOn_bind_eq_ok_iff]
  constructor
  · rintro ⟨⟨a, changed⟩, middle, hx, hf⟩
    exact ⟨a, changed, middle, hx, hf⟩
  · rintro ⟨a, changed, middle, hx, hf⟩
    exact ⟨(a, changed), middle, hx, hf⟩

@[simp] theorem runOn_pure (a : α) (file : SecretFile) (s : Session) :
    runOn ((pure a : ComposeM α).run file) s = (.ok (a, file), s) := rfl

@[simp] theorem runOn_throw (e : Failure) (file : SecretFile) (s : Session) :
    runOn ((throw e : ComposeM α).run file) s = (.error e, s) := rfl

/-- A step that does not touch the file leaves it as it is. -/
theorem runOn_lift (x : SetupM α) (file : SecretFile) (s : Session) :
    runOn ((x : ComposeM α).run file) s =
      match runOn x s with
      | (.ok a, s') => (.ok (a, file), s')
      | (.error e, s') => (.error e, s') := by
  change runOn (x >>= fun a => pure (a, file)) s = _
  rw [SetupM.runOn_bind]
  rfl

theorem runOn_discard (x : ComposeM α) (file : SecretFile) (s : Session) :
    runOn ((discard x).run file) s =
      match runOn (x.run file) s with
      | (.ok (_, file'), s') => (.ok ((), file'), s')
      | (.error e, s') => (.error e, s') := by
  change runOn (x.run file >>= fun p => pure ((), p.2)) s = _
  rw [SetupM.runOn_bind]
  rcases runOn (x.run file) s with ⟨e | ⟨a, file'⟩, s'⟩
  · rfl
  · rfl

end ComposeM

namespace SecretFile

theorem runOn_change (f : SecretFile → Except Refusal SecretFile) (file : SecretFile) (s : Session) :
    runOn ((change f).run file) s =
      match f file with
      | .ok file' => (.ok ((), file'), s)
      | .error refusal => (.error (.refusal refusal), s) := by
  simp only [change, StateT.run_bind, StateT.run_get, pure_bind]
  cases hf : f file with
  | error refusal => rfl
  | ok file' => rfl

/-- The note on a line that was put below the secret. -/
def added (line : String) : Record :=
  .debug ("Added option " ++ String.ofList (Text.trim isMark (stripNewlines line).toList))

theorem runOn_insertLine (line : String) (file : SecretFile) (s : Session) :
    runOn ((insertLine line).run file) s =
      match file.insertDirective line with
      | .ok file' => (.ok ((), file'), { s with journal := s.journal ++ [added line] })
      | .error refusal => (.error (.refusal refusal), s) := by
  rw [insertLine, ComposeM.runOn_bind, runOn_change]
  cases hinsert : file.insertDirective line with
  | error refusal => rfl
  | ok file' => rfl

/-- A line is added if the answer is yes, and there is nothing to be done if it is no. -/
theorem runOn_offerLine (question line : String) (file : SecretFile) (s : Session) :
    runOn ((offerLine question line).run file) s =
      match runOn (askWhether question) s with
      | (.ok true, s') => runOn ((do insertLine line; pure true : ComposeM Bool).run file) s'
      | (.ok false, s') => (.ok (false, file), s')
      | (.error e, s') => (.error e, s') := by
  rw [offerLine, ComposeM.runOn_bind, ComposeM.runOn_lift]
  rcases runOn (askWhether question) s with ⟨e | answer, s'⟩
  · rfl
  · cases answer with
    | false => rfl
    | true => rfl

end SecretFile

namespace Policy

/-- A directive is stated if the answer is yes, and there is nothing to be done if it is no. -/
theorem runOn_offer (question : Question) (directive : Directive) (file : SecretFile)
    (s : Session) :
    runOn ((offer question directive).run file) s =
      match runOn (askWhether question.text) s with
      | (.ok true, s') => runOn ((state directive).run file) s'
      | (.ok false, s') => (.ok ((), file), s')
      | (.error e, s') => (.error e, s') := by
  rw [offer, ComposeM.runOn_discard, SecretFile.runOn_offerLine]
  rcases runOn (askWhether question.text) s with ⟨e | answer, s'⟩
  · rfl
  · cases answer with
    | false => rfl
    | true =>
        simp only [state, ComposeM.runOn_bind]
        rcases runOn ((SecretFile.insertLine directive.line).run file) s' with ⟨e | ⟨a, file'⟩, s''⟩
        · rfl
        · rfl

end Policy

end OneTimePassword
