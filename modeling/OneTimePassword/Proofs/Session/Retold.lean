/-
Module: OneTimePassword.Proofs.Session.Retold
Purpose: What is answered from a script can be typed at a console: steps that get through with the
  script get through with a line for each question, come to the same and read these lines only.
Main exports: Respondent.Answer, Respondent.Script, Respondent.Answer.ReadFrom, SetupM.Retells,
  SetupM.Retells.bind, SetupM.Retells.askWhether, SetupM.Retells.askNumber, SetupM.preparing_retold
-/
import Mathlib.Data.List.Forall2
import OneTimePassword.Proofs.Session.Compositional
import OneTimePassword.Proofs.Session.Frame

namespace OneTimePassword

namespace Respondent

/-! ### Scripts -/

/-- What is answered to a question: a yes or a no, or a number. -/
inductive Answer where
  | whether (answer : Bool)
  | number (answer : Option Int)
deriving Repr, DecidableEq

/-- The answers of a script that are still to come. -/
structure Script where
  yesNo : YesNo
  numbers : List (Option Int)

namespace Script

/-- The script as a respondent that has been asked some questions. -/
def respondent (script : Script) (asked : List String) : Respondent :=
  .scripted script.yesNo script.numbers asked

/-- The answer to a question, and those behind it. -/
def answer (script : Script) (question : String) : Answer × Script :=
  if question = codeQuestion then
    (.number (script.numbers.headD (some (-1))), { script with numbers := script.numbers.tail })
  else (.whether script.yesNo.next.1, { script with yesNo := script.yesNo.next.2 })

/-- The answers to questions, in order. -/
def answers (script : Script) : List String → List Answer
  | [] => []
  | question :: later => (script.answer question).1 :: (script.answer question).2.answers later

/-- The script behind these answers. -/
def after (script : Script) : List String → Script
  | [] => script
  | question :: later => (script.answer question).2.after later

variable {script : Script} {first later : List String}

/-- These are the answers that the respondent gives. -/
theorem askWhether_respondent (script : Script) (asked : List String) {message : String}
    (h : message ≠ codeQuestion) :
    ∃ answer, (script.answer message).1 = .whether answer ∧
      askWhether message (script.respondent asked) =
        ⟨.ok answer, (script.answer message).2.respondent (asked ++ [message]), ""⟩ := by
  rw [answer, if_neg h]
  exact ⟨_, rfl, rfl⟩

theorem askNumber_respondent (script : Script) (asked : List String) :
    ∃ answer, (script.answer codeQuestion).1 = .number answer ∧
      askNumber codeQuestion (script.respondent asked) =
        ⟨.ok answer, (script.answer codeQuestion).2.respondent (asked ++ [codeQuestion]), ""⟩ := by
  rw [answer, if_pos rfl]
  rcases script with ⟨yesNo, numbers⟩
  cases numbers with
  | nil => exact ⟨_, rfl, rfl⟩
  | cons number rest => exact ⟨_, rfl, rfl⟩

theorem after_append : script.after (first ++ later) = (script.after first).after later := by
  induction first generalizing script with
  | nil => rfl
  | cons question rest ih => exact ih

theorem answers_append :
    script.answers (first ++ later) =
      script.answers first ++ (script.after first).answers later := by
  induction first generalizing script with
  | nil => rfl
  | cons question rest ih => exact congrArg _ ih

end Script

/-- What a line is read as where there is that answer. -/
def Answer.ReadFrom (line : String) : Answer → Prop
  | .whether answer => yesNo? line = some answer
  | .number answer => Text.readInteger? (Text.trim Text.isBlank line.toList) = answer

end Respondent

open Respondent (Answer Script)

namespace SetupM

/-! ### Steps retold -/

variable {α β : Type}

/-- Whatever the first step comes to with a script, the other one comes to at a console where there
is a line for each question. It reads these lines and no others, and has all else in common with the
first but what is printed. The other step may go by a bound on the number of these lines. -/
def Retells (x : SetupM α) (y : Nat → SetupM α) : Prop :=
  ∀ (s t : Session) (script : Script) (asked : List String) (a : α),
    s.respondent = script.respondent asked → runOn x s = (.ok a, t) →
    ∃ questions, t.respondent = (script.after questions).respondent (asked ++ questions) ∧
      ∀ lines later atEnd printed bound,
        List.Forall₂ Answer.ReadFrom lines (script.answers questions) → lines.length ≤ bound →
        ∃ printed', runOn (y bound)
            { s with respondent := .console (lines ++ later) atEnd, printed } =
          (.ok a, { t with respondent := .console later atEnd, printed := printed' })

/-- A step that is the same for a console as for a script. -/
def Retold (x : SetupM α) : Prop := Retells x fun _ => x

namespace Retells

/-- A step without questions. -/
theorem of_unasked {x : SetupM α} (h : ∀ s t a, runOn x s = (.ok a, t) →
    t.respondent = s.respondent ∧ ∀ respondent printed, ∃ printed',
      runOn x { s with respondent, printed } =
        (.ok a, { t with respondent, printed := printed' })) : Retold x := by
  intro s t script asked a hscript hrun
  obtain ⟨hrespondent, hconsole⟩ := h s t a hrun
  refine ⟨[], by rw [List.append_nil, hrespondent, hscript]; rfl, ?_⟩
  intro lines later atEnd printed bound hlines _
  cases hlines
  exact hconsole (.console later atEnd) printed

/-- A step that only looks up what has nothing to do with the respondent. -/
theorem of_unchanged {x : SetupM α} {f : Session → α} (h : ∀ s, runOn x s = (.ok (f s), s))
    (hf : ∀ s respondent printed, f { s with respondent, printed } = f s) : Retold x := by
  apply of_unasked
  intro s t a hrun
  rw [h] at hrun
  cases hrun
  refine ⟨rfl, fun respondent printed => ⟨printed, ?_⟩⟩
  rw [h, hf]

/-- What follows goes on with the lines behind. -/
theorem bind {x : SetupM α} {f : α → SetupM β} {g : α → Nat → SetupM β} (hx : Retold x)
    (hf : ∀ a, Retells (f a) (g a)) : Retells (x >>= f) fun bound => x >>= (g · bound) := by
  intro s t script asked b hscript hrun
  obtain ⟨a, middle, hfirst, hsecond⟩ := runOn_bind_eq_ok_iff.mp hrun
  obtain ⟨first, hmiddle, hretold⟩ := hx s middle script asked a hscript hfirst
  obtain ⟨second, ht, hretold'⟩ := hf a middle t _ _ b hmiddle hsecond
  refine ⟨first ++ second, by rw [ht, Script.after_append, List.append_assoc], ?_⟩
  intro lines later atEnd printed bound hlines hbound
  rw [Script.answers_append] at hlines
  let count := (script.answers first).length
  have hlength := List.length_take_le' count lines
  obtain ⟨printedThen, hthere⟩ := hretold (lines.take count) (lines.drop count ++ later) atEnd
    printed bound (List.forall₂_take_append _ _ _ hlines) (by omega)
  obtain ⟨printed', hthere'⟩ := hretold' (lines.drop count) later atEnd printedThen bound
    (List.forall₂_drop_append _ _ _ hlines) (by rw [List.length_drop]; omega)
  rw [← List.append_assoc, List.take_append_drop] at hthere
  exact ⟨printed', by rw [runOn_bind_of_ok hthere, hthere']⟩

/-- A change to a session that has nothing to do with its respondent, nor with what was printed. -/
theorem modify {g : Session → Session} (h : ∀ s, (g s).respondent = s.respondent ∧
    ∀ respondent printed, ∃ printed',
      g { s with respondent, printed } = { g s with respondent, printed := printed' }) :
    Retold (modify g : SetupM Unit) := by
  apply of_unasked
  intro s t a hrun
  cases hrun
  obtain ⟨hrespondent, hchange⟩ := h s
  refine ⟨hrespondent, fun respondent printed => ?_⟩
  obtain ⟨printed', hprinted⟩ := hchange respondent printed
  exact ⟨printed', by rw [runOn_modify, hprinted]⟩

theorem readRandom (wanted : Int) : Retold (OneTimePassword.readRandom wanted) := by
  apply of_unasked
  intro s t a hrun
  rw [runOn_readRandom] at hrun
  rcases hread : s.random.read wanted with ⟨e | data, random⟩
  · rw [hread] at hrun
    cases hrun
  · rw [hread] at hrun
    cases hrun
    refine ⟨rfl, fun respondent printed => ⟨printed, ?_⟩⟩
    rw [runOn_readRandom]
    simp only [hread]

theorem readClock : Retold OneTimePassword.readClock := by
  apply of_unasked
  intro s t a hrun
  cases hrun
  exact ⟨rfl, fun respondent printed => ⟨printed, rfl⟩⟩

/-- A yes or a no is read off the first character of its line. -/
theorem askWhether {message : String} (h : message ≠ Respondent.codeQuestion) :
    Retold (OneTimePassword.askWhether message) := by
  intro s t script asked a hscript hrun
  obtain ⟨given, hgiven, hreply⟩ := script.askWhether_respondent asked h
  rw [OneTimePassword.askWhether, runOn_ask, hscript, hreply] at hrun
  cases hrun
  refine ⟨[message], rfl, ?_⟩
  intro lines later atEnd printed bound hlines _
  rw [Script.answers, hgiven] at hlines
  cases hlines with
  | @cons line _ _ _ hline hnil =>
      cases hnil
      have hread : Respondent.yesNo? line = some a := hline
      rw [OneTimePassword.askWhether, runOn_ask]
      simp only [Respondent.askWhether, List.singleton_append, Respondent.seekAnswer, hread]
      exact ⟨_, rfl⟩

/-- A number is read off its line before the step goes on with one line less. -/
theorem askNumber {f : Option Int → SetupM α} {y : Nat → SetupM α} {g : Option Int → Nat → SetupM α}
    (hf : ∀ answer, Retells (f answer) (g answer))
    (hy : ∀ bound, y (bound + 1) = do
      let answer ← OneTimePassword.askNumber Respondent.codeQuestion
      g answer bound) :
    Retells (do let answer ← OneTimePassword.askNumber Respondent.codeQuestion; f answer) y := by
  intro s t script asked a hscript hrun
  obtain ⟨given, hgiven, hreply⟩ := script.askNumber_respondent asked
  rw [runOn_bind, OneTimePassword.askNumber, runOn_ask, hscript, hreply] at hrun
  obtain ⟨questions, ht, hretold⟩ := hf given _ t _ _ a rfl hrun
  refine ⟨Respondent.codeQuestion :: questions, by rw [ht, List.append_assoc]; rfl, ?_⟩
  intro lines later atEnd printed bound hlines hbound
  rw [Script.answers, hgiven] at hlines
  cases hlines with
  | @cons line _ rest _ hline hrest =>
      have hread : Respondent.askNumber Respondent.codeQuestion
          (.console ((line :: rest) ++ later) atEnd) =
            ⟨.ok given, .console (rest ++ later) atEnd, Respondent.codeQuestion ++ " "⟩ := by
        have hvalue : Text.readInteger? (Text.trim Text.isBlank line.toList) = given := hline
        rw [← hvalue]
        rfl
      cases bound with
      | zero => exact absurd hbound (Nat.not_succ_le_zero _)
      | succ bound =>
          obtain ⟨printed', hthere⟩ := hretold rest later atEnd
            (printed ++ (Respondent.codeQuestion ++ " ")) bound hrest
            (Nat.le_of_succ_le_succ hbound)
          refine ⟨printed', ?_⟩
          rw [hy, runOn_bind, OneTimePassword.askNumber, runOn_ask, hread]
          exact hthere

end Retells

/-- Whatever a preparation is made of but the check of the app can be retold. -/
theorem preparing_retold : Preparing fun x => Retold x where
  pure a := .of_unchanged (fun _ => rfl) fun _ _ _ => rfl
  throw e := .of_unasked fun s t b hrun => by cases hrun
  bind hx hf := .bind hx hf
  note _ := .modify fun _ => ⟨rfl, fun _ printed => ⟨printed, rfl⟩⟩
  print text := .modify fun _ => ⟨rfl, fun _ printed => ⟨printed ++ text, rfl⟩⟩
  remember _ := .modify fun _ => ⟨rfl, fun _ printed => ⟨printed, rfl⟩⟩
  askWhether h := .askWhether h
  readRandom := .readRandom
  readingsLeft := .of_unchanged (fun _ => rfl) fun _ _ _ => rfl

end SetupM

end OneTimePassword
