/-
Module: OneTimePassword.Proofs.Enrollment.Console
Purpose: A run that gets through with a script gets through at a console where the same answers are
  typed, and comes to the same.
Main exports: Respondent.Answer.IsTyped, Enrollment.retells_confirmWithin, Enrollment.retold_run,
  Enrollment.console_retells_script
-/
import OneTimePassword.Proofs.Enrollment.Files
import OneTimePassword.Proofs.Session.Retold
import OneTimePassword.Proofs.Text.Integer

namespace OneTimePassword

open Respondent (Answer Script YesNo linesOf)
open SetupM (runOn Retells Retold)

namespace Respondent.Answer

/-- How an answer is typed: a letter for a yes or a no, a number in decimal, and for want of a
number any line that is none. -/
def IsTyped (line : String) : Answer → Prop
  | .whether answer => line = if answer then "y" else "n"
  | .number (some n) => line = Text.decimal n
  | .number none => Text.readInteger? (Text.trim Text.isBlank line.toList) = none

instance (line : String) : (answer : Answer) → Decidable (IsTyped line answer)
  | .whether _ => inferInstanceAs (Decidable (line = _))
  | .number (some n) => inferInstanceAs (Decidable (line = Text.decimal n))
  | .number none => inferInstanceAs (Decidable (Text.readInteger? _ = none))

/-- The number of an answer is short enough to be read. -/
def IsReadable : Answer → Prop
  | .number (some n) => (Text.decimalNat n.natAbs).length ≤ Text.maxIntegerDigits
  | .whether _ | .number none => True

instance : (answer : Answer) → Decidable answer.IsReadable
  | .number (some _) => inferInstanceAs (Decidable (_ ≤ Text.maxIntegerDigits))
  | .whether _ | .number none => .isTrue trivial

/-- What is typed is read as what was meant. -/
theorem readFrom_of_isTyped {line : String} {answer : Answer} (h : IsTyped line answer)
    (hreadable : answer.IsReadable) : ReadFrom line answer := by
  cases answer with
  | whether answer =>
      obtain rfl : line = _ := h
      cases answer with
      | true => exact (by decide : yesNo? "y" = some true)
      | false => exact (by decide : yesNo? "n" = some false)
  | number answer =>
      cases answer with
      | none => exact h
      | some n =>
          obtain rfl : line = _ := h
          rw [ReadFrom, Text.trim_isBlank_decimal]
          exact Text.readInteger?_decimal hreadable

end Respondent.Answer

namespace Enrollment

/-! ### The check of the app -/

theorem retold_presentCode (secret : String) (step : Int) : Retold (presentCode secret step) := by
  have preparing := SetupM.preparing_retold
  exact preparing.bind .readClock fun _ => preparing.bind (preparing.orFail _ _) fun _ =>
    preparing.orFail _ _

/-- The check ends within as many questions as there are lines typed for it. -/
theorem retells_confirmWithin (secret : String) (step : Int) (questions : Nat) :
    Retells (confirmWithin secret step questions) (confirmWithin secret step) := by
  have preparing := SetupM.preparing_retold
  induction questions with
  | zero =>
      intro s t script asked a _ hrun
      cases hrun
  | succ questions ih =>
      refine Retells.askNumber ?_ fun bound => rfl
      intro answer
      by_cases hskip : answer.any (· < 0)
      · simp only [hskip, if_true]
        exact preparing.bind (preparing.printLine _) fun _ => preparing.pure _
      · simp only [hskip]
        apply Retells.bind (retold_presentCode secret step)
        intro code
        by_cases hcode : answer = some (code : Int)
        · simp only [hcode, if_true]
          exact preparing.bind (preparing.printLine _) fun _ => preparing.pure _
        · simp only [hcode, if_false]
          exact .bind (preparing.note _) fun _ => .bind (preparing.printLine _) fun _ => ih

theorem retold_confirmApp (secret : String) (step : Int) : Retold (confirmApp secret step) := by
  intro s t script asked a hscript hrun
  obtain ⟨questions, ht, hretold⟩ :=
    retells_confirmWithin secret step _ s t script asked a hscript hrun
  refine ⟨questions, ht, ?_⟩
  intro lines later atEnd printed _ hlines _
  have hbound : lines.length ≤ (lines ++ later).length + 1 := by
    rw [List.length_append]
    omega
  exact hretold lines later atEnd printed _ hlines hbound

/-! ### The whole run -/

theorem retold_replaceFile (faults : Faults) (path : String) (file : SecretFile) :
    Retold (replaceFile faults path file) := by
  apply Retells.of_unasked
  intro s t a hrun
  rw [runOn_replaceFile] at hrun
  cases hreport : (({ job := { target := path, content := file.text }, faults } :
      Replacement.Attempt).finish s.files).1.report?.getD (.ok ()) with
  | error cause =>
      rw [hreport] at hrun
      cases hrun
  | ok done =>
      rw [hreport] at hrun
      cases hrun
      refine ⟨rfl, fun respondent printed => ⟨printed, ?_⟩⟩
      rw [runOn_replaceFile, hreport]
      rfl

/-- Whatever a run asks can be told at a console as well. -/
theorem retold_run (environment : Environment) (options : Options) :
    Retold (run environment options) := by
  have preparing := SetupM.preparing_retold
  rw [run_eq_deliver]
  apply preparing.bind (preparing.prepare retold_confirmApp environment options)
  intro summary
  unfold deliver
  cases summary.file? with
  | none => exact preparing.pure _
  | some file => exact preparing.bind (retold_replaceFile _ _ _) fun _ => preparing.pure _

/-- A script and a person at a console are interchangeable. If a run that is answered from a script
has a result, then a run at a console comes to the same result where there is a line for each
question that the script was asked, with the same answer typed in it. All else is the same after it
as well, the files and the random bytes that are left among it, but for what was printed; and the
input has been read to its end and no further. -/
theorem console_retells_script (environment : Environment) (options : Options) (s : Session)
    (yesNo : YesNo) (numbers : List (Option Int)) {summary : Summary} {t : Session}
    (h : runOn (run environment options) { s with respondent := .scripted yesNo numbers [] } =
      (.ok summary, t)) :
    ∃ questions, t.respondent.questions? = some questions ∧
      ((∀ answer ∈ ({ yesNo, numbers } : Script).answers questions, answer.IsReadable) →
        ∀ text atEnd, List.Forall₂ Answer.IsTyped (linesOf text)
          (({ yesNo, numbers } : Script).answers questions) →
        ∃ printed, runOn (run environment options)
            { s with respondent := .console (linesOf text) atEnd } =
          (.ok summary, { t with respondent := .console [] atEnd, printed })) := by
  obtain ⟨questions, ht, hretold⟩ :=
    retold_run environment options _ t { yesNo, numbers } [] summary rfl h
  refine ⟨questions, by rw [ht]; rfl, ?_⟩
  intro hreadable text atEnd htyped
  have hread : List.Forall₂ Answer.ReadFrom (linesOf text)
      (({ yesNo, numbers } : Script).answers questions) := by
    rw [List.forall₂_iff_zip] at htyped ⊢
    exact ⟨htyped.1, fun hboth => Respondent.Answer.readFrom_of_isTyped (htyped.2 hboth)
      (hreadable _ (List.of_mem_zip hboth).2)⟩
  obtain ⟨printed, hrun⟩ := hretold (linesOf text) [] atEnd s.printed _ hread (Nat.le_refl _)
  rw [List.append_nil] at hrun
  exact ⟨printed, hrun⟩

/-- The check of the app is skipped after a wrong code and a line that is none. -/
theorem console_retells_script_of_skipped_check :
    let environment : Environment :=
      { home? := none, host := { hostname? := none, account? := none, uid := 0 }
        isTerminal := false, renderer := .absent }
    let options : Options :=
      { mode := none, disallowReuse := none, stepSize := none, window := .ask
        rate := .ask, emergencyCodes := 1, confirm := true, force := false, quiet := false
        label := none, issuer := none, secretPath := some "s", qrMode := .hidden }
    let s : Session :=
      { random := { name := "", device := .stream (List.replicate 20 0 ++ [1, 49, 45, 0, 9]) true }
        respondent := .console [] .aborted
        clock := .ofList (.seconds 59) []
        files := { entries := [(["s"], .file 0o644 [65])] } }
    let script : Script :=
      { yesNo := .inOrder [true, true, true, false, true], numbers := [some 123, none] }
    let text := "y\n123\nwhat\n-1\ny\ny\nn\ny\n"
    ∃ summary t questions printed,
      runOn (run environment options) { s with respondent := script.respondent [] } =
        (.ok summary, t) ∧
      t.respondent.questions? = some questions ∧
      (∀ answer ∈ script.answers questions, answer.IsReadable) ∧
      List.Forall₂ Answer.IsTyped (linesOf text) (script.answers questions) ∧
      runOn (run environment options) { s with respondent := .console (linesOf text) .aborted } =
        (.ok summary, { t with respondent := .console [] .aborted, printed }) := by
  intro environment options s script text
  let file : SecretFile :=
    { capacity := 209, secret := "AAAAAAAAAAAAAAAAAAAAAAAAAAAAAAAA"
      directives := ["\" RATE_LIMIT 3 30", "\" DISALLOW_REUSE"]
      entries := ["\" TOTP_AUTH", "20000000"] }
  let summary : Summary :=
    { secret := "AAAAAAAAAAAAAAAAAAAAAAAAAAAAAAAA", mode := .timeBased
      scratchCodes := [20000000], path := "s", file? := some file }
  let given : List Answer :=
    [.whether true, .number (some 123), .number none, .number (some (-1)), .whether true,
      .whether true, .whether false, .whether true]
  have hprepare : (runOn (prepare environment options)
      { s with respondent := script.respondent [] }).1.toOption = some summary := by
    decide +kernel
  have hgiven : ((runOn (prepare environment options)
      { s with respondent := script.respondent [] }).2.respondent.questions?).map script.answers =
      some given := by
    decide +kernel
  obtain ⟨t, hrun, hrespondent⟩ :=
    exists_run_of_isName hprepare rfl rfl (by decide) (by decide +kernel) (by decide) rfl
  obtain ⟨questions, hasked, hconsole⟩ :=
    console_retells_script environment options s script.yesNo script.numbers hrun
  have hanswers : script.answers questions = given := by
    rw [← hrespondent, hasked] at hgiven
    exact Option.some.inj hgiven
  have hreadable : ∀ answer ∈ script.answers questions, answer.IsReadable := by
    rw [hanswers]
    decide +kernel
  have htyped : List.Forall₂ Answer.IsTyped (linesOf text) (script.answers questions) := by
    have hlines : linesOf text = ["y", "123", "what", "-1", "y", "y", "n", "y"] := by decide +kernel
    rw [hanswers, hlines]
    decide +kernel
  obtain ⟨printed, hthere⟩ := hconsole hreadable text .aborted htyped
  exact ⟨summary, t, questions, printed, hrun, hasked, hreadable, htyped, hthere⟩

end Enrollment

end OneTimePassword
