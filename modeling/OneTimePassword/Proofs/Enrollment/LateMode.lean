/-
Module: OneTimePassword.Proofs.Enrollment.LateMode
Purpose: A run in whose course the mode is chosen comes to what a run comes to that was given it.
Main exports: Enrollment.runFor, Enrollment.run_eq, Enrollment.respects_runFor,
  Enrollment.late_mode_eq_early_mode
-/
import OneTimePassword.Proofs.Enrollment.Files
import OneTimePassword.Proofs.SecretFile.LateMode
import OneTimePassword.Proofs.Session.Respects

namespace OneTimePassword.Enrollment

open Respondent (Alike AskedBefore YesNo)
open Session (SameBut)
open SetupM (runOn Respects)

variable {environment : Environment} {options : Options} {session : Session}
  {r : Respondent → Respondent → Prop}

/-- The question that the mode is chosen by. -/
def modeQuestion : String := "Do you want authentication tokens to be time-based"

/-- A run from the choice of the mode on. -/
def runFor (environment : Environment) (options : Options) (secret : String) (mode : Mode) :
    SetupM Summary := do
  let drafted ← draftFor environment options secret mode
  let accepted ← if options.force then pure true else askWhether (updateQuestion drafted.path)
  let summary ← complete options drafted accepted
  match summary.file? with
  | none => pure summary
  | some file => do
      replaceFile environment.faults summary.path file
      pure summary

theorem run_eq (environment : Environment) (options : Options) :
    run environment options = (do
      let secret ← drawSecret
      let mode ← settleMode options
      runFor environment options secret mode) := by
  rw [run, prepare_eq, draft, bind_assoc, bind_assoc]
  refine bind_congr fun secret => ?_
  rw [bind_assoc]
  refine bind_congr fun mode => bind_congr fun drafted => ?_
  cases options.force with
  | true => exact bind_assoc _ _ _
  | false => exact bind_assoc _ _ _

/-- Once the mode is settled, it does not matter any more who has settled it. -/
theorem runFor_withMode (environment : Environment) (options : Options) (secret : String)
    (mode : Mode) :
    runFor environment (options.withMode mode) secret mode =
      runFor environment options secret mode := rfl

theorem respects_drawSecret : Respects (SameBut r) drawSecret := SetupM.drawing_respects.drawSecret

/-- The end of a replacement is worth a note. -/
theorem respects_conclude {R : Session → Session → Prop}
    (hnote : ∀ record, Respects R (note record)) (path : String)
    (outcome : Except Replacement.Failure Unit) : Respects R (conclude path outcome) := by
  cases outcome with
  | ok done => exact hnote _
  | error cause => exact (SetupM.compositional_respects R).throw _

theorem respects_replaceFile (faults : Faults) (path : String) (file : SecretFile) :
    Respects (SameBut r) (replaceFile faults path file) := by
  rintro s _ ⟨other, hother, rfl⟩
  rw [runOn_replaceFile, runOn_replaceFile]
  exact respects_conclude .note path _ _ _ ⟨other, hother, rfl⟩

/-- The rest of a run does not tell respondents apart that answer alike. -/
theorem respects_runFor (alike : Alike r) (environment : Environment) (options : Options)
    (secret : String) (mode : Mode) :
    Respects (SameBut r) (runFor environment options secret mode) := by
  have preparatory := SetupM.preparatory_respects alike
  have preparing := preparatory.toPreparing
  refine preparing.bind (preparing.draftFor preparatory.confirmApp environment options secret mode)
    fun drafted => ?_
  refine preparing.leave (preparing.askWhether (updateQuestion_ne_codeQuestion _))
    fun accepted => ?_
  refine preparing.bind (preparing.complete options drafted accepted) fun summary => ?_
  exact preparing.deliver fun file => respects_replaceFile _ _ file

/-! ### Up to the choice of the mode -/

/-- Whoever is there to answer, nobody is asked for the sake of a secret. -/
theorem runOn_drawSecret (session : Session) (respondent : Respondent) :
    runOn drawSecret { session with respondent } =
      ((runOn drawSecret session).1, { (runOn drawSecret session).2 with respondent }) := by
  have hrespects : Respects (SameBut fun _ other => other = respondent) drawSecret :=
    respects_drawSecret
  obtain ⟨_, rfl, hrun⟩ := hrespects.exists_runOn_eq rfl
  exact hrun

theorem runOn_settleMode_withMode (options : Options) (mode : Mode) (s : Session) :
    runOn (settleMode (options.withMode mode)) s = (.ok mode, s) := rfl

/-- A script is asked for the mode where the options leave it open. -/
theorem runOn_settleMode_of_none (hunset : options.mode = none) (answer : Bool)
    (answers : List Bool) (numbers : List (Option Int)) (asked : List String) (s : Session) :
    runOn (settleMode options)
      { s with respondent := .scripted (.inOrder (answer :: answers)) numbers asked } =
        (.ok (Mode.ofAnswer answer),
          { s with respondent :=
              .scripted (.inOrder answers) numbers (asked ++ [modeQuestion]) }) := by
  have hsettle : settleMode options = (do
      let timeBased ← askWhether modeQuestion
      pure (Mode.ofAnswer timeBased)) := by
    rw [settleMode, hunset]
    rfl
  rw [hsettle, SetupM.runOn_bind, askWhether, SetupM.runOn_ask]
  simp [Respondent.askWhether, YesNo.next]

/-- The two runs go the same way, and where they get as far as the mode one has been asked for it. -/
theorem run_of_none (environment : Environment) (session : Session) (hunset : options.mode = none)
    (answer : Bool) (answers : List Bool) (numbers : List (Option Int)) :
    let late := runOn (run environment options)
      { session with respondent := .scripted (.inOrder (answer :: answers)) numbers [] }
    let early := runOn (run environment (options.withMode (Mode.ofAnswer answer)))
      { session with respondent := .scripted (.inOrder answers) numbers [] }
    late.1 = early.1 ∧
      match (runOn drawSecret session).1 with
      | .ok _ => SameBut (AskedBefore modeQuestion) early.2 late.2
      | .error _ =>
          late.2 = { (runOn drawSecret session).2 with
            respondent := .scripted (.inOrder (answer :: answers)) numbers [] } ∧
          early.2 = { (runOn drawSecret session).2 with
            respondent := .scripted (.inOrder answers) numbers [] } := by
  intro late early
  have hdrawn (respondent : Respondent) := runOn_drawSecret session respondent
  simp only [late, early, run_eq]
  rcases hdraw : runOn drawSecret session with ⟨failure | secret, drawn⟩
  · rw [hdraw] at hdrawn
    rw [SetupM.runOn_bind_of_error (hdrawn _), SetupM.runOn_bind_of_error (hdrawn _)]
    exact ⟨rfl, rfl, rfl⟩
  · rw [hdraw] at hdrawn
    rw [SetupM.runOn_bind_of_ok (hdrawn _), SetupM.runOn_bind_of_ok (hdrawn _),
      SetupM.runOn_bind_of_ok (runOn_settleMode_of_none hunset _ _ _ _ _),
      SetupM.runOn_bind_of_ok (runOn_settleMode_withMode _ _ _), runFor_withMode]
    have hrest := respects_runFor (Respondent.alike_askedBefore modeQuestion) environment options
      secret (Mode.ofAnswer answer)
    obtain ⟨hsame, hafter⟩ := hrest
      { drawn with respondent := .scripted (.inOrder answers) numbers [] }
      { drawn with respondent := .scripted (.inOrder answers) numbers [modeQuestion] }
      ⟨_, ⟨.inOrder answers, numbers, [], rfl, rfl⟩, rfl⟩
    exact ⟨hsame.symm, hafter⟩

/-! ### The mode among the settings and the mode on demand -/

/-- Whether a mode is among the settings or chosen in the course of the run makes no difference. The
settings clash with it when they are checked just if they do so when the secret file is put
together, whatever the answers are, and in the same way; only a secret that reads as a mode line
comes between. Where there is no clash, the runs have the same result or failure and the same session
in the end, but that the one whose mode was open has been asked for it first. If no secret can be
drawn, nobody is asked. -/
theorem late_mode_eq_early_mode (environment : Environment) (session : Session)
    {settings : Settings} {options : Options} (hunset : settings.mode = none)
    (hvalid : settings.validate = .ok options) (answer : Bool) :
    let mode := Mode.ofAnswer answer
    (∀ (secret : String) (codes : List Int) script numbers asked conflict, secret.length = 32 →
      (∀ mode : Mode, SecretFile.stripNewlines secret ≠ mode.line) → codes.length ≤ 10 →
      (∀ code ∈ codes, 10000000 ≤ code ∧ code ≤ 99999999) →
      ((settings.withMode mode).validate = .error conflict ↔
        (runOn (SecretFile.compose secret mode codes options)
          { session with respondent := .scripted script numbers asked }).1 =
            .error (.conflict conflict))) ∧
    ∀ optionsEarly, (settings.withMode mode).validate = .ok optionsEarly →
      ∀ answers numbers,
        let late := runOn (run environment options)
          { session with respondent := .scripted (.inOrder (answer :: answers)) numbers [] }
        let early := runOn (run environment optionsEarly)
          { session with respondent := .scripted (.inOrder answers) numbers [] }
        late.1 = early.1 ∧
        late.2 = { early.2 with respondent := late.2.respondent } ∧
        ∃ questions, early.2.respondent.questions? = some questions ∧
          match (runOn drawSecret session).1 with
          | .ok _ => late.2.respondent.questions? = some (modeQuestion :: questions)
          | .error _ => questions = [] ∧ late.2.respondent.questions? = some [] := by
  intro mode
  have hchecked := Settings.validate_withMode hunset hvalid mode
  constructor
  · intro secret codes script numbers asked conflict hlength hne hcount hcodes
    have hcomposed : (runOn (SecretFile.compose secret mode codes options)
        { session with respondent := .scripted script numbers asked }).1 =
          .error (.conflict conflict) ↔ Policy.clash? mode settings = some conflict :=
      SecretFile.compose_eq_conflict_iff hvalid hlength hne hcount hcodes rfl
    rw [hcomposed, hchecked]
    cases Policy.clash? mode settings with
    | none => simp
    | some found => simp
  · intro optionsEarly hearly answers numbers late early
    obtain rfl : optionsEarly = options.withMode mode := by
      rw [hchecked] at hearly
      cases hclash : Policy.clash? mode settings with
      | none =>
          rw [hclash] at hearly
          exact (Except.ok.inj hearly).symm
      | some conflict =>
          rw [hclash] at hearly
          cases hearly
    have hopen : options.mode = none := by
      obtain ⟨-, hsettings, -⟩ := Settings.validate_eq_ok_iff.mp hvalid
      rw [hsettings] at hunset
      exact Option.map_eq_none_iff.mp hunset
    obtain ⟨hsame, hafter⟩ := run_of_none environment session hopen answer answers numbers
    refine ⟨hsame, ?_⟩
    cases hdraw : (runOn drawSecret session).1 with
    | error failure =>
        rw [hdraw] at hafter
        obtain ⟨hlast, hfirst⟩ := hafter
        change late.2 = _ at hlast
        change early.2 = _ at hfirst
        rw [hlast, hfirst]
        exact ⟨rfl, [], rfl, rfl, rfl⟩
    | ok secret =>
        rw [hdraw] at hafter
        obtain ⟨_, ⟨yesNo, left, questions, hscript, rfl⟩, hlast⟩ := hafter
        change late.2 = _ at hlast
        rw [hlast]
        exact ⟨rfl, questions, congrArg Respondent.questions? hscript, rfl⟩

/-- A window of two codes is too small for time-based codes, which is found early or late, and is fine
for counter-based ones. -/
theorem late_mode_eq_early_mode_of_small_window :
    let environment : Environment :=
      { home? := none, host := { hostname? := none, account? := none, uid := 0 }
        isTerminal := false, renderer := .absent }
    let settings : Settings := { windowSize := some 2, emergencyCodes := 1, secretPath := some "s" }
    let secret := "ABCDEFGHIJKLMNOPQRSTUVWXYZ234567"
    let session : Session :=
      { random := { name := "", device := .stream (List.replicate 24 170) true }
        respondent := .scripted (.inOrder []) [] []
        clock := .ofList .notANumber []
        files := { entries := [] } }
    ∃ options optionsEarly, settings.mode = none ∧ settings.validate = .ok options ∧
      (settings.withMode .timeBased).validate = .error .windowTooSmall ∧
      (runOn (SecretFile.compose secret .timeBased [12345678] options)
        { session with respondent := .scripted (.inOrder [true]) [] [] }).1 =
          .error (.conflict .windowTooSmall) ∧
      (settings.withMode .counterBased).validate = .ok optionsEarly ∧
      (runOn (run environment options)
        { session with respondent := .scripted (.inOrder [false, true]) [] [] }).1 =
          (runOn (run environment optionsEarly)
            { session with respondent := .scripted (.inOrder [true]) [] [] }).1 := by
  intro environment settings secret session
  let options : Options :=
    { mode := none, disallowReuse := none, stepSize := none, window := .size 2, rate := .ask
      emergencyCodes := 1, confirm := true, force := false, quiet := false, label := none
      issuer := none, secretPath := some "s", qrMode := .drawn ⟨.ansi, .plain⟩ }
  have hvalid : settings.validate = .ok options := by decide +kernel
  have hclash : (settings.withMode .timeBased).validate = .error .windowTooSmall := by decide +kernel
  have hearly : (settings.withMode .counterBased).validate =
      .ok (options.withMode .counterBased) := by decide +kernel
  have hcodes : ∀ code ∈ [(12345678 : Int)], 10000000 ≤ code ∧ code ≤ 99999999 := by decide
  have hne : ∀ mode : Mode, SecretFile.stripNewlines secret ≠ mode.line := by
    intro mode
    cases mode <;> decide +kernel
  have hfound := (late_mode_eq_early_mode environment session rfl hvalid true).1 secret [12345678]
    (.inOrder [true]) [] [] .windowTooSmall (by decide +kernel) hne (by decide) hcodes
  have hruns := (late_mode_eq_early_mode environment session rfl hvalid false).2
    (options.withMode .counterBased) hearly [true] []
  exact ⟨options, options.withMode .counterBased, rfl, hvalid, hclash, hfound.mp hclash, hearly,
    hruns.1⟩

/-- A text that is a mode line once its newlines are off passes for a secret. A mode cannot be put
below it, so it does not come to the conflict that the settings have with the mode. -/
theorem conflict_unnoticed_of_mode_line_secret :
    let settings : Settings := { stepSize := some 45 }
    let secret := "\" TOTP_AUTH\n\n\n\n\n\n\n\n\n\n\n\n\n\n\n\n\n\n\n\n\n"
    let session : Session :=
      { random := { name := "", device := .outcomes [] }
        respondent := .scripted (.inOrder []) [] []
        clock := .ofList .notANumber []
        files := { entries := [] } }
    ∃ options, settings.mode = none ∧ settings.validate = .ok options ∧ secret.length = 32 ∧
      (settings.withMode .counterBased).validate = .error .stepInCounterBased ∧
      (runOn (SecretFile.compose secret .counterBased [] options) session).1 =
        .error (.refusal .modeIsSet) := by
  intro settings secret session
  have hvalid : settings.validate = .ok
      { mode := none, disallowReuse := none, stepSize := some 45, window := .ask, rate := .ask
        emergencyCodes := 5, confirm := true, force := false, quiet := false, label := none
        issuer := none, secretPath := none, qrMode := .drawn ⟨.ansi, .plain⟩ } := by decide +kernel
  have hclash : (settings.withMode .counterBased).validate = .error .stepInCounterBased := by
    decide +kernel
  refine ⟨_, rfl, hvalid, by decide +kernel, hclash, ?_⟩
  decide +kernel

end OneTimePassword.Enrollment
