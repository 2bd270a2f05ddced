/-
Module: OneTimePassword.Proofs.Session.Compositional
Purpose: Properties that a run has because each of its steps has them.
Main exports: SetupM.Compositional, SetupM.Showing, SetupM.Inquiring, SetupM.Drawing,
  SetupM.Preparing, SetupM.Checking, SetupM.Conversational, SetupM.Preparatory
-/
import OneTimePassword.Proofs.Respondent
import OneTimePassword.Proofs.Session.Steps

namespace OneTimePassword.SetupM

/-- A property that steps pass on to what is put together from them. -/
structure Compositional (Φ : ∀ {α : Type}, SetupM α → Prop) : Prop where
  pure {α : Type} (a : α) : Φ (Pure.pure a)
  throw {α : Type} (e : Failure) : Φ (MonadExcept.throw e : SetupM α)
  bind {α β : Type} {x : SetupM α} {f : α → SetupM β} (hx : Φ x) (hf : ∀ a, Φ (f a)) :
    Φ (x >>= f)

/-- A property of that kind that the steps have which show something. -/
structure Showing (Φ : ∀ {α : Type}, SetupM α → Prop) : Prop extends Compositional Φ where
  note (record : Record) : Φ (OneTimePassword.note record)
  print (text : String) : Φ (OneTimePassword.print text)
  /-- A text is handed over to be shown as a QR code. -/
  remember (text : String) :
    Φ (modify fun session => { session with shown := session.shown ++ [text] } : SetupM Unit)

/-- A property of that kind that the steps have which want a yes or a no. -/
structure Inquiring (Φ : ∀ {α : Type}, SetupM α → Prop) : Prop extends Compositional Φ where
  note (record : Record) : Φ (OneTimePassword.note record)
  askWhether {message : String} (h : message ≠ Respondent.codeQuestion) :
    Φ (OneTimePassword.askWhether message)

/-- A property of that kind that the steps have which take random bytes. -/
structure Drawing (Φ : ∀ {α : Type}, SetupM α → Prop) : Prop extends Compositional Φ where
  note (record : Record) : Φ (OneTimePassword.note record)
  readRandom (wanted : Int) : Φ (OneTimePassword.readRandom wanted)
  readingsLeft : Φ (do return (← get).random.device.readingsLeft : SetupM Nat)

/-- A property that all these steps have. -/
structure Preparing (Φ : ∀ {α : Type}, SetupM α → Prop) : Prop extends
  Showing Φ, Inquiring Φ, Drawing Φ

/-- A property that the steps have which show something and ask for codes, by the clock. -/
structure Checking (Φ : ∀ {α : Type}, SetupM α → Prop) : Prop extends Showing Φ where
  askNumber (message : String) : Φ (OneTimePassword.askNumber message)
  numbersLeft : Φ (do return (← get).respondent.numbersLeft : SetupM Nat)
  readClock : Φ OneTimePassword.readClock

/-- A property that the steps have which talk to people. -/
structure Conversational (Φ : ∀ {α : Type}, SetupM α → Prop) : Prop extends
    Checking Φ, Inquiring Φ

/-- A property that the steps have which talk to people or take random bytes. -/
structure Preparatory (Φ : ∀ {α : Type}, SetupM α → Prop) : Prop extends
  Conversational Φ, Preparing Φ

variable {Φ : ∀ {α : Type}, SetupM α → Prop} {α β : Type}

namespace Compositional

variable (hΦ : Compositional Φ)

include hΦ

theorem orFail {ε : Type} (cause : ε → Failure) (result : Except ε α) :
    Φ (OneTimePassword.orFail cause result) := by
  cases result with
  | error e => exact hΦ.throw (cause e)
  | ok a => exact hΦ.pure a

theorem discard {x : SetupM α} (hx : Φ x) : Φ (Functor.discard x) :=
  hΦ.bind hx fun _ => hΦ.pure _

/-- A value that is read off the session tells all that the step after it has to know. -/
theorem of_gets {view : Session → β} {f : β → SetupM α}
    (hview : Φ (do return view (← get) : SetupM β)) (hf : ∀ b, Φ (f b)) :
    Φ (do let session ← get; f (view session)) := by
  have hread : Φ ((do return view (← get)) >>= f) := hΦ.bind hview hf
  simpa using hread

/-- The rest of a run goes on from an answer that is not asked for if it is known. -/
theorem leave {given : Bool} {x : SetupM Bool} {f : Bool → SetupM α} (hx : Φ x)
    (hf : ∀ answer, Φ (f answer)) : Φ (if given then Pure.pure true >>= f else x >>= f) := by
  cases given with
  | true => exact hΦ.bind (hΦ.pure true) hf
  | false => exact hΦ.bind hx hf

theorem forM {xs : List β} {f : β → SetupM PUnit} (hf : ∀ b, Φ (f b)) : Φ (xs.forM f) := by
  induction xs with
  | nil => exact hΦ.pure _
  | cons b rest ih => exact hΦ.bind (hf b) fun _ => ih

end Compositional

/-- What every step keeps is kept by what is put together from steps. -/
theorem Compositional.keeps {R : Session → Session → Prop} (refl : ∀ s, R s s)
    (trans : ∀ s t u, R s t → R t u → R s u) : Compositional fun x => Keeps R x where
  pure := Keeps.pure refl
  throw := Keeps.throw refl
  bind := Keeps.bind trans

theorem Showing.printLine (hΦ : Showing Φ) (text : String) :
    Φ (OneTimePassword.printLine text) := hΦ.print _

end OneTimePassword.SetupM
