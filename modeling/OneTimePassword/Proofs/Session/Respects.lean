/-
Module: OneTimePassword.Proofs.Session.Respects
Purpose: Two runs of the same steps, from sessions that differ in their respondents only. As long as
  the respondents answer alike, all that the steps do is alike.
Main exports: SetupM.Respects, Session.SameBut, SetupM.drawing_respects,
  SetupM.checking_respects, SetupM.preparatory_respects
-/
import OneTimePassword.Proofs.Respondent
import OneTimePassword.Proofs.Session.Frame

namespace OneTimePassword

open SetupM (runOn Compositional Showing Drawing Checking Preparatory)

/-- A step does not tell related sessions apart: it comes to the same from both of them, and the
sessions after it are related again. -/
def SetupM.Respects {α : Type} (R : Session → Session → Prop) (x : SetupM α) : Prop :=
  ∀ s t, R s t → (runOn x s).1 = (runOn x t).1 ∧ R (runOn x s).2 (runOn x t).2

open SetupM (Respects)

/-- A step that follows on another one has to cope with the values of that one only. -/
theorem SetupM.Respects.bind_of_run {α β : Type} {R : Session → Session → Prop} {x : SetupM α}
    {f : α → SetupM β} (hx : Respects R x)
    (hf : ∀ a s t, runOn x s = (.ok a, t) → Respects R (f a)) : Respects R (x >>= f) := by
  intro s t related
  obtain ⟨hsame, hlater⟩ := hx s t related
  have ht : runOn x t = ((runOn x s).1, (runOn x t).2) := Prod.ext hsame.symm rfl
  rcases hs : runOn x s with ⟨e | a, middle⟩
  · rw [hs] at ht hlater
    rw [runOn_bind_of_error hs, runOn_bind_of_error ht]
    exact ⟨rfl, hlater⟩
  · rw [hs] at ht hlater
    rw [runOn_bind_of_ok hs, runOn_bind_of_ok ht]
    exact hf a s middle hs middle _ hlater

theorem SetupM.compositional_respects (R : Session → Session → Prop) :
    Compositional fun x => Respects R x where
  pure _ := fun _ _ related => ⟨rfl, related⟩
  throw _ := fun _ _ related => ⟨rfl, related⟩
  bind hx hf := hx.bind_of_run fun a _ _ _ => hf a

/-- Sessions that have related respondents and all else in common. -/
def Session.SameBut (r : Respondent → Respondent → Prop) (s t : Session) : Prop :=
  ∃ other, r s.respondent other ∧ t = { s with respondent := other }

open Session (SameBut)

namespace SetupM

variable {α : Type} {r : Respondent → Respondent → Prop}

/-- The same step with another respondent. -/
theorem Respects.exists_runOn_eq {x : SetupM α} (hx : Respects (SameBut r) x) {s : Session}
    {other : Respondent} (hother : r s.respondent other) :
    ∃ left, r (runOn x s).2.respondent left ∧
      runOn x { s with respondent := other } =
        ((runOn x s).1, { (runOn x s).2 with respondent := left }) := by
  obtain ⟨hsame, left, hleft, hafter⟩ := hx s _ ⟨other, hother, rfl⟩
  exact ⟨left, hleft, Prod.ext hsame.symm hafter⟩

/-- A change to a session that has nothing to do with its respondent. -/
theorem Respects.modify {g : Session → Session}
    (h : ∀ s other, (g s).respondent = s.respondent ∧
      g { s with respondent := other } = { g s with respondent := other }) :
    Respects (SameBut r) (modify g : SetupM PUnit) := by
  rintro s _ ⟨other, hother, rfl⟩
  obtain ⟨hrespondent, hchange⟩ := h s other
  refine ⟨rfl, other, ?_, hchange⟩
  rw [runOn_modify, hrespondent]
  exact hother

theorem Respects.note (record : Record) :
    Respects (SameBut r) (OneTimePassword.note record) := .modify fun _ _ => ⟨rfl, rfl⟩

theorem Respects.readRandom (wanted : Int) :
    Respects (SameBut r) (OneTimePassword.readRandom wanted) := by
  rintro s _ ⟨other, hother, rfl⟩
  rw [runOn_readRandom, runOn_readRandom]
  rcases s.random.read wanted with ⟨e | data, random⟩
  · exact ⟨rfl, other, hother, rfl⟩
  · exact ⟨rfl, other, hother, rfl⟩

theorem Respects.ask {question : Respondent → Respondent.Reply α}
    (h : ∀ a b, r a b → (question a).Alike r (question b)) :
    Respects (SameBut r) (OneTimePassword.ask question) := by
  rintro s _ ⟨other, hother, rfl⟩
  obtain ⟨houtcome, hprinted, hrespondent⟩ := h _ _ hother
  rw [runOn_ask, runOn_ask]
  dsimp only
  rw [← houtcome, ← hprinted]
  cases (question s.respondent).outcome with
  | error stop => exact ⟨rfl, _, hrespondent, rfl⟩
  | ok a => exact ⟨rfl, _, hrespondent, rfl⟩

/-- Random bytes are the same whoever answers. -/
theorem drawing_respects : Drawing fun x => Respects (SameBut r) x where
  toCompositional := compositional_respects (SameBut r)
  note := .note
  readRandom := .readRandom
  readingsLeft := by
    rintro s _ ⟨other, hother, rfl⟩
    exact ⟨rfl, other, hother, rfl⟩

/-- What is shown is the same whoever answers. -/
theorem showing_respects : Showing fun x => Respects (SameBut r) x where
  toCompositional := compositional_respects (SameBut r)
  print _ := .modify fun _ _ => ⟨rfl, rfl⟩
  note := .note
  remember _ := .modify fun _ _ => ⟨rfl, rfl⟩

/-- Codes are asked for in the same way by those who have the same numbers. -/
theorem checking_respects (hleft : ∀ a b, r a b → a.numbersLeft = b.numbersLeft)
    (hanswer : ∀ message a b, r a b →
      (Respondent.askNumber message a).Alike r (Respondent.askNumber message b)) :
    Checking fun x => Respects (SameBut r) x where
  toShowing := showing_respects
  askNumber message := .ask (hanswer message)
  numbersLeft := by
    rintro s _ ⟨other, hother, rfl⟩
    exact ⟨congrArg Except.ok (hleft _ _ hother), other, hother, rfl⟩
  readClock := by
    rintro s _ ⟨other, hother, rfl⟩
    exact ⟨rfl, other, hother, rfl⟩

/-- Whatever a preparation is made of, it does not tell respondents apart that answer alike. -/
theorem preparatory_respects (alike : Respondent.Alike r) :
    Preparatory fun x => Respects (SameBut r) x where
  toChecking := checking_respects (fun _ _ => alike.numbersLeft) fun message _ _ =>
    alike.askNumber message
  askWhether _ := .ask fun _ _ => alike.askWhether _
  readRandom := .readRandom
  readingsLeft := drawing_respects.readingsLeft

end SetupM

end OneTimePassword
