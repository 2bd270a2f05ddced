/-
Module: OneTimePassword.Proofs.Enrollment.Presentation
Purpose: Showing a secret and having it confirmed is put together from steps that talk. It changes
  nothing but what is printed, and the secret is among that.
Main exports: SetupM.Showing.presentSecret, SetupM.Inquiring.settleMode,
  SetupM.Checking.confirmApp, Enrollment.printed_presentSecret
-/
import OneTimePassword.Enrollment.Run
import OneTimePassword.Proofs.Session.Frame

namespace OneTimePassword

open Session (Talks)
open SetupM (runOn Keeps)

/-! ### What a presentation is put together from -/

section

variable {Φ : ∀ {α : Type}, SetupM α → Prop}

theorem SetupM.Compositional.secretPath (hΦ : Compositional Φ) (environment : Environment)
    (options : Options) : Φ (Enrollment.secretPath environment options) := by
  unfold Enrollment.secretPath
  split
  · exact hΦ.pure _
  · split
    · exact hΦ.pure _
    · exact hΦ.throw _

namespace SetupM.Showing

variable (hΦ : Showing Φ)

include hΦ

theorem render (renderer : QrCode.Renderer) (text : String) :
    Φ (Enrollment.render renderer text) := by
  cases renderer with
  | absent => exact hΦ.pure _
  | viewer succeeds => exact hΦ.bind (hΦ.remember text) fun _ => hΦ.pure _
  | terminal style encoder? =>
      cases encoder? with
      | none => exact hΦ.bind (hΦ.note _) fun _ => hΦ.pure _
      | some encoder =>
          exact hΦ.bind (hΦ.remember text) fun _ => hΦ.bind (hΦ.orFail _ _) fun _ =>
            hΦ.bind (hΦ.orFail _ _) fun _ => hΦ.bind (hΦ.print _) fun _ => hΦ.pure _

theorem showUri (environment : Environment) (qrMode : QrCode.Mode) (uri : EnrollmentUri) :
    Φ (Enrollment.showUri environment qrMode uri) := by
  unfold Enrollment.showUri
  split
  · exact hΦ.pure _
  · apply hΦ.bind (hΦ.orFail _ _)
    intro text
    split
    · exact hΦ.pure _
    · apply hΦ.bind (hΦ.render _ _)
      intro isShown
      split
      · exact hΦ.bind (hΦ.printLine _) fun _ => hΦ.bind (hΦ.printLine _) fun _ => hΦ.printLine _
      · exact hΦ.pure _

/-- To present a secret is to show it, and to ask for a code where that is wanted. -/
theorem presentSecret (hconfirm : ∀ secret step, Φ (Enrollment.confirmApp secret step))
    (environment : Environment) (options : Options) (secret : String) (mode : Mode) :
    Φ (Enrollment.presentSecret environment options secret mode) := by
  apply hΦ.bind (hΦ.showUri _ _ _)
  intro
  apply hΦ.bind (hΦ.printLine _)
  intro
  split
  · exact hΦ.bind (hΦ.discard (hconfirm _ _)) fun _ => hΦ.printLine _
  · exact hΦ.bind (hΦ.orFail _ _) fun _ => hΦ.bind (hΦ.printLine _) fun _ => hΦ.printLine _

end SetupM.Showing

theorem SetupM.Inquiring.settleMode (hΦ : Inquiring Φ) (options : Options) :
    Φ (Enrollment.settleMode options) := by
  unfold Enrollment.settleMode
  split
  · exact hΦ.pure _
  · exact hΦ.bind (hΦ.askWhether (by decide +kernel)) fun _ => hΦ.pure _

namespace SetupM.Checking

variable (hΦ : Checking Φ)

include hΦ

theorem presentCode (secret : String) (step : Int) : Φ (Enrollment.presentCode secret step) :=
  hΦ.bind hΦ.readClock fun _ => hΦ.bind (hΦ.orFail _ _) fun _ => hΦ.orFail _ _

theorem confirmWithin (secret : String) (step : Int) (questions : Nat) :
    Φ (Enrollment.confirmWithin secret step questions) := by
  induction questions with
  | zero => exact hΦ.throw _
  | succ questions ih =>
      apply hΦ.bind (hΦ.askNumber _)
      intro answer
      split
      · exact hΦ.bind (hΦ.printLine _) fun _ => hΦ.pure _
      · apply hΦ.bind (hΦ.presentCode _ _)
        intro code
        split
        · exact hΦ.bind (hΦ.printLine _) fun _ => hΦ.pure _
        · exact hΦ.bind (hΦ.note _) fun _ => hΦ.bind (hΦ.printLine _) fun _ => ih

theorem confirmApp (secret : String) (step : Int) : Φ (Enrollment.confirmApp secret step) := by
  have hgets := hΦ.of_gets hΦ.numbersLeft fun count => hΦ.confirmWithin secret step (count + 1)
  exact hgets

theorem presentSecret (environment : Environment) (options : Options) (secret : String)
    (mode : Mode) : Φ (Enrollment.presentSecret environment options secret mode) :=
  hΦ.toShowing.presentSecret hΦ.confirmApp environment options secret mode

end SetupM.Checking

end

namespace Enrollment

theorem keepsTalks_showUri (environment : Environment) (qrMode : QrCode.Mode)
    (uri : EnrollmentUri) : Keeps Talks (showUri environment qrMode uri) :=
  SetupM.conversational_talks.showUri environment qrMode uri

theorem keepsTalks_confirmApp (secret : String) (step : Int) :
    Keeps Talks (confirmApp secret step) := SetupM.conversational_talks.confirmApp secret step

theorem keepsTalks_settleMode (options : Options) : Keeps Talks (settleMode options) :=
  SetupM.conversational_talks.settleMode options

theorem keepsTalks_secretPath (environment : Environment) (options : Options) :
    Keeps Talks (secretPath environment options) :=
  SetupM.conversational_talks.secretPath environment options

theorem keepsTalks_presentSecret (environment : Environment) (options : Options) (secret : String)
    (mode : Mode) : Keeps Talks (presentSecret environment options secret mode) :=
  SetupM.conversational_talks.presentSecret environment options secret mode

/-! ### What is printed -/

variable {s t : Session}

/-- A line that is printed at the end is the end of the output. -/
theorem printed_bind_printLine {α : Type} {x : SetupM α} {line : String} (hx : Keeps Talks x)
    (h : runOn (x >>= fun _ => printLine line) s = (.ok (), t)) :
    ∃ text, t.printed = s.printed ++ text ++ (line ++ "\n") := by
  obtain ⟨a, middle, hrun, hprint⟩ := SetupM.runOn_bind_eq_ok_iff.mp h
  obtain ⟨-, -, text, hprinted⟩ := hx.of_run hrun
  rw [SetupM.runOn_printLine] at hprint
  obtain ⟨-, rfl⟩ := Prod.mk.inj hprint
  exact ⟨text, by rw [hprinted]⟩

/-- What a presentation prints: the secret on a line of its own, the heading of the codes last. -/
theorem printed_presentSecret {environment : Environment} {options : Options} {secret : String}
    {mode : Mode}
    (h : runOn (presentSecret environment options secret mode) s = (.ok (), t)) :
    ∃ before between, t.printed = s.printed ++ before ++ ("Your new secret key is: " ++ secret ++ "\n")
      ++ between ++ "Your emergency scratch codes are:\n" := by
  obtain ⟨⟨⟩, s₁, huri, hlater⟩ := SetupM.runOn_bind_eq_ok_iff.mp h
  obtain ⟨-, -, before, hbefore⟩ := (keepsTalks_showUri _ _ _).of_run huri
  rw [SetupM.runOn_bind_of_ok (SetupM.runOn_printLine _ _)] at hlater
  have hbetween : ∃ between, t.printed = s₁.printed ++ ("Your new secret key is: " ++ secret ++ "\n")
      ++ between ++ "Your emergency scratch codes are:\n" := by
    split at hlater
    · exact printed_bind_printLine
        (SetupM.conversational_talks.discard (keepsTalks_confirmApp _ _)) hlater
    · obtain ⟨code, s₂, hcode, hlast⟩ := SetupM.runOn_bind_eq_ok_iff.mp hlater
      obtain ⟨-, rfl⟩ := SetupM.runOn_orFail_eq_ok_iff.mp hcode
      exact printed_bind_printLine (SetupM.conversational_talks.printLine _) hlast
  rcases hbetween with ⟨between, hbetween⟩
  exact ⟨before, between, by rw [hbetween, hbefore]⟩

/-- The codes are printed one to a line. -/
theorem runOn_printCodes (codes : List Nat) (s : Session) :
    runOn (codes.forM fun code => printLine ("  " ++ ScratchCode.display code)) s =
      (.ok (), { s with
        printed :=
          s.printed ++
            String.join (codes.map fun code : Nat => "  " ++ ScratchCode.display code ++ "\n") }) := by
  induction codes generalizing s with
  | nil => simp
  | cons code rest ih =>
      rw [List.forM_eq_forM] at ih ⊢
      rw [List.forM_cons, SetupM.runOn_bind_of_ok (SetupM.runOn_printLine _ _), ih]
      simp [String.append_assoc]

end Enrollment

end OneTimePassword
