/-
Module: OneTimePassword.Proofs.Enrollment.Confirmation
Purpose: The check of an app, question by question, and that it goes by the codes which a reader of
  the secret file makes.
Main exports: Respondent.codeAnswer, Enrollment.IsCodeAt, Enrollment.Confirmation,
  Enrollment.confirmWithin_eq_ok, Enrollment.run_presents_stored_code
-/
import OneTimePassword.Proofs.Enrollment.Credential
import OneTimePassword.Proofs.Enrollment.Files
import OneTimePassword.Proofs.Enrollment.LateMode
import OneTimePassword.Proofs.Hotp
import OneTimePassword.Proofs.SecretFile.Reader

namespace OneTimePassword

/-! ### Questions for codes -/

namespace Respondent

/-- The answers to one question for a code after another, by their places. -/
def codeAnswer (respondent : Respondent) : Nat → Except Stop (Option Int)
  | 0 => (askNumber codeQuestion respondent).outcome
  | place + 1 => codeAnswer (askNumber codeQuestion respondent).respondent place

/-- Who is left to answer after a number of questions for codes. -/
def afterCodes (respondent : Respondent) : Nat → Respondent
  | 0 => respondent
  | count + 1 => afterCodes (askNumber codeQuestion respondent).respondent count

/-- What is printed with a question for a code. Only a console has an input that ends; a script is
asked without a word. -/
def codePrompt (respondent : Respondent) : String :=
  match respondent.ending? with
  | some _ => codeQuestion ++ " "
  | none => ""

variable {respondent : Respondent}

theorem codePrompt_of_isPatient {α : Type} {question : Respondent → Reply α}
    (h : IsPatient question) (respondent : Respondent) :
    (question respondent).respondent.codePrompt = respondent.codePrompt := by
  rw [codePrompt, (h respondent).1]
  rfl

theorem printed_askNumber {answer : Option Int}
    (h : (askNumber codeQuestion respondent).outcome = .ok answer) :
    (askNumber codeQuestion respondent).printed = respondent.codePrompt := by
  cases respondent with
  | console lines atEnd =>
      cases lines with
      | nil => cases h
      | cons line rest => rfl
  | scripted yesNo numbers asked => cases numbers <;> rfl

end Respondent

/-- The reading that a clock gives after a number of others. -/
def Clock.upcoming (clock : Clock) (place : Nat) : Timestamp := clock.readings (clock.taken + place)

theorem Clock.upcoming_read (clock : Clock) (place : Nat) :
    clock.read.2.upcoming place = clock.upcoming (place + 1) := by
  simp only [upcoming, read]
  congr 1
  omega

namespace Enrollment

open Respondent (codeQuestion)
open Session (Talks Unasked)
open SetupM (runOn runOn_bind_eq_ok_iff)

variable {environment : Environment} {options : Options} {secret : String} {step : Int}
  {codes : List Nat} {code : Nat} {accepted : Bool} {mode : Mode} {s t : Session}
  {summary : Summary}

/-! ### The check -/

/-- A code is the one that a secret has at the time of a reading. -/
def IsCodeAt (secret : String) (step : Int) (reading : Timestamp) (code : Nat) : Prop :=
  ∃ counter, Totp.stepNumber reading step = .ok counter ∧
    Hotp.codeOfSecret secret counter = .ok code

/-- How an app is checked: by one question after another, each answered before the clock is read.
The codes are those that were given away after wrong answers; the answer behind them ends the check.
-/
structure Confirmation (secret : String) (step : Int) (respondent : Respondent) (clock : Clock)
    (codes : List Nat) (accepted : Bool) : Prop where
  missed : ∀ place code, codes[place]? = some code →
    IsCodeAt secret step (clock.upcoming place) code ∧
      ∃ answer, respondent.codeAnswer place = .ok answer ∧ answer ≠ some (code : Int) ∧
        ¬ answer.any (· < 0)
  ended :
    match accepted with
    | true => ∃ code, IsCodeAt secret step (clock.upcoming codes.length) code ∧
        respondent.codeAnswer codes.length = .ok (some (code : Int))
    | false => ∃ answer < 0, respondent.codeAnswer codes.length = .ok (some answer)

/-- What a check prints. -/
def checkSheet (prompt : String) : List Nat → Bool → String
  | [], true => prompt ++ "Code confirmed\n"
  | [], false => prompt ++ "Code confirmation skipped\n"
  | code :: later, accepted =>
      prompt ++ "Code incorrect (correct code " ++ Hotp.display code ++ "). Try again.\n" ++
        checkSheet prompt later accepted

namespace Confirmation

variable {respondent : Respondent} {clock : Clock}

theorem skip {answer : Int} (hneg : answer < 0)
    (hanswer : (Respondent.askNumber codeQuestion respondent).outcome = .ok (some answer)) :
    Confirmation secret step respondent clock [] false :=
  ⟨by simp, answer, hneg, hanswer⟩

theorem accept (hcode : IsCodeAt secret step (clock.upcoming 0) code)
    (hanswer : (Respondent.askNumber codeQuestion respondent).outcome = .ok (some (code : Int))) :
    Confirmation secret step respondent clock [] true :=
  ⟨by simp, code, hcode, hanswer⟩

/-- A check goes on after a wrong answer. -/
theorem cons {answer : Option Int}
    (hcode : IsCodeAt secret step (clock.upcoming 0) code)
    (hanswer : (Respondent.askNumber codeQuestion respondent).outcome = .ok answer)
    (hwrong : answer ≠ some (code : Int)) (hskip : ¬ answer.any (· < 0))
    (later : Confirmation secret step (Respondent.askNumber codeQuestion respondent).respondent
      clock.read.2 codes accepted) :
    Confirmation secret step respondent clock (code :: codes) accepted := by
  constructor
  · intro place other hother
    cases place with
    | zero =>
        obtain rfl : code = other := by simpa using hother
        exact ⟨hcode, answer, hanswer, hwrong, hskip⟩
    | succ place =>
        rw [← Clock.upcoming_read]
        exact later.missed place other (by simpa using hother)
  · have hended := later.ended
    rw [List.length_cons, ← Clock.upcoming_read]
    exact hended

end Confirmation

theorem presentCode_eq_ok (h : runOn (presentCode secret step) s = (.ok code, t)) :
    IsCodeAt secret step (s.clock.upcoming 0) code ∧ t = { s with clock := s.clock.read.2 } := by
  obtain ⟨reading, s₁, hread, h₁⟩ := runOn_bind_eq_ok_iff.mp h
  obtain ⟨counter, s₂, hcounter, hcode⟩ := runOn_bind_eq_ok_iff.mp h₁
  obtain ⟨hstep, rfl⟩ := SetupM.runOn_orFail_eq_ok_iff.mp hcounter
  obtain ⟨hvalue, rfl⟩ := SetupM.runOn_orFail_eq_ok_iff.mp hcode
  cases hread
  exact ⟨⟨counter, hstep, hvalue⟩, rfl⟩

/-- A question that is answered. -/
theorem askNumber_eq_ok {message : String} {answer : Option Int}
    (h : runOn (askNumber message) s = (.ok answer, t)) :
    (Respondent.askNumber message s.respondent).outcome = .ok answer ∧
      t = { s with
        respondent := (Respondent.askNumber message s.respondent).respondent
        printed := s.printed ++ (Respondent.askNumber message s.respondent).printed } := by
  rw [askNumber, SetupM.runOn_ask] at h
  exact SetupM.runOn_orFail_eq_ok_iff.mp h

/-- A check that comes to an end has gone this way, has printed no more than this, and has asked no
further question. -/
theorem confirmWithin_eq_ok {questions : Nat}
    (h : runOn (confirmWithin secret step questions) s = (.ok accepted, t)) :
    ∃ codes, Confirmation secret step s.respondent s.clock codes accepted ∧
      t.printed = s.printed ++ checkSheet s.respondent.codePrompt codes accepted ∧
      t.respondent = s.respondent.afterCodes (codes.length + 1) := by
  induction questions generalizing s with
  | zero => cases h
  | succ questions ih =>
      obtain ⟨answer, s₁, hask, h₁⟩ := runOn_bind_eq_ok_iff.mp h
      have hask : runOn (askNumber codeQuestion) s = (.ok answer, s₁) := hask
      obtain ⟨hanswer, rfl⟩ := askNumber_eq_ok hask
      rw [Respondent.printed_askNumber hanswer] at h₁
      by_cases hskip : answer.any (· < 0)
      · rw [if_pos hskip, SetupM.runOn_bind_of_ok (SetupM.runOn_printLine _ _)] at h₁
        obtain ⟨given, rfl, hneg⟩ : ∃ given, answer = some given ∧ given < 0 := by
          simpa [Option.any_eq_true] using hskip
        cases h₁
        exact ⟨[], .skip hneg hanswer, by simp [checkSheet, String.append_assoc], rfl⟩
      · rw [if_neg hskip] at h₁
        obtain ⟨code, s₂, hpresent, h₂⟩ := runOn_bind_eq_ok_iff.mp h₁
        obtain ⟨hcode, rfl⟩ := presentCode_eq_ok hpresent
        by_cases hright : answer = some (code : Int)
        · rw [if_pos hright, SetupM.runOn_bind_of_ok (SetupM.runOn_printLine _ _)] at h₂
          cases h₂
          subst hright
          exact ⟨[], .accept hcode hanswer, by simp [checkSheet, String.append_assoc], rfl⟩
        · rw [if_neg hright, SetupM.runOn_bind_of_ok (SetupM.runOn_note _ _),
            SetupM.runOn_bind_of_ok (SetupM.runOn_printLine _ _)] at h₂
          obtain ⟨codes, later, hprinted, hrespondent⟩ := ih h₂
          refine ⟨code :: codes, .cons hcode hanswer hright hskip later, ?_, hrespondent⟩
          rw [hprinted]
          simp [checkSheet, Respondent.codePrompt_of_isPatient (Respondent.isPatient_askNumber _),
            String.append_assoc]

/-! ### The presentation -/

/-- A presentation shows the secret and has the app checked, or shows a code to compare with. Nobody
is asked but for the check. -/
theorem presentSecret_cases
    (h : runOn (presentSecret environment options secret mode) s = (.ok (), t)) :
    ∃ before between, t.printed = s.printed ++ before ++
        ("Your new secret key is: " ++ secret ++ "\n") ++ between ++
        "Your emergency scratch codes are:\n" ∧
      if options.confirm && mode = .timeBased then
        ∃ codes accepted, between = checkSheet s.respondent.codePrompt codes accepted ∧
          Confirmation secret (options.stepSize.getD Totp.defaultStep : Nat) s.respondent s.clock
            codes accepted ∧
          t.respondent = s.respondent.afterCodes (codes.length + 1)
      else
        t.respondent = s.respondent ∧ ∃ code : Nat,
          between = "Your verification code for code " ++ Text.decimalNat Mode.firstCounter ++
            " is " ++ Hotp.display code ++ "\n" ∧
          Hotp.codeOfSecret secret Mode.firstCounter = .ok code := by
  obtain ⟨⟨⟩, s₁, huri, h₁⟩ := runOn_bind_eq_ok_iff.mp h
  obtain ⟨-, -, before, hbefore⟩ := (keepsTalks_showUri _ _ _).of_run huri
  obtain ⟨hrespondent, hclock⟩ := (SetupM.showing_unasked.showUri _ _ _).of_run huri
  rw [SetupM.runOn_bind_of_ok (SetupM.runOn_printLine _ _)] at h₁
  split
  · rename_i hconfirm
    rw [if_pos hconfirm] at h₁
    obtain ⟨⟨⟩, s₂, hdiscard, hprint⟩ := runOn_bind_eq_ok_iff.mp h₁
    obtain ⟨accepted, s₃, hcheck, hend⟩ := runOn_bind_eq_ok_iff.mp hdiscard
    cases hend
    rw [confirmApp, SetupM.runOn_bind_of_ok (SetupM.runOn_get _)] at hcheck
    obtain ⟨codes, hconfirmation, hprinted, hasked⟩ := confirmWithin_eq_ok hcheck
    dsimp only at hconfirmation hprinted hasked
    rw [hrespondent, hclock] at hconfirmation
    rw [hrespondent, hbefore] at hprinted
    rw [hrespondent] at hasked
    rw [SetupM.runOn_printLine, hprinted] at hprint
    obtain ⟨-, rfl⟩ := Prod.mk.inj hprint
    exact ⟨before, _, rfl, codes, accepted, rfl, hconfirmation, hasked⟩
  · rename_i hconfirm
    rw [if_neg hconfirm] at h₁
    obtain ⟨code, s₂, hcode, h₂⟩ := runOn_bind_eq_ok_iff.mp h₁
    obtain ⟨hvalue, rfl⟩ := SetupM.runOn_orFail_eq_ok_iff.mp hcode
    rw [SetupM.runOn_bind_of_ok (SetupM.runOn_printLine _ _), SetupM.runOn_printLine, hbefore] at h₂
    obtain ⟨-, rfl⟩ := Prod.mk.inj h₂
    exact ⟨before, _, rfl, hrespondent, code, rfl, hvalue⟩

theorem presentSecret_eq_ok
    (h : runOn (presentSecret environment options secret mode) s = (.ok (), t)) :
    ∃ before between, t.printed = s.printed ++ before ++
        ("Your new secret key is: " ++ secret ++ "\n") ++ between ++
        "Your emergency scratch codes are:\n" ∧
      if options.confirm && mode = .timeBased then
        ∃ codes accepted, between = checkSheet s.respondent.codePrompt codes accepted ∧
          Confirmation secret (options.stepSize.getD Totp.defaultStep : Nat) s.respondent s.clock
            codes accepted
      else
        ∃ code : Nat,
          between = "Your verification code for code " ++ Text.decimalNat Mode.firstCounter ++
            " is " ++ Hotp.display code ++ "\n" ∧
          Hotp.codeOfSecret secret Mode.firstCounter = .ok code := by
  obtain ⟨before, between, hprinted, hcases⟩ := presentSecret_cases h
  refine ⟨before, between, hprinted, ?_⟩
  split
  · rename_i hconfirm
    rw [if_pos hconfirm] at hcases
    obtain ⟨codes, accepted, hbetween, confirmation, -⟩ := hcases
    exact ⟨codes, accepted, hbetween, confirmation⟩
  · rename_i hconfirm
    rw [if_neg hconfirm] at hcases
    exact hcases.2

/-- Who is left to answer when the mode is settled. -/
def afterMode (options : Options) (respondent : Respondent) : Respondent :=
  match options.mode with
  | some _ => respondent
  | none => (Respondent.askWhether modeQuestion respondent).respondent

theorem codePrompt_afterMode (options : Options) (respondent : Respondent) :
    (afterMode options respondent).codePrompt = respondent.codePrompt := by
  unfold afterMode
  split
  · rfl
  · exact Respondent.codePrompt_of_isPatient (Respondent.isPatient_askWhether _) respondent

theorem settleMode_eq_ok (h : runOn (settleMode options) s = (.ok mode, t)) :
    t.respondent = afterMode options s.respondent ∧ t.clock = s.clock ∧
      ∃ text, t.printed = s.printed ++ text := by
  obtain ⟨-, -, hprinted⟩ := (keepsTalks_settleMode options).of_run h
  unfold settleMode at h
  unfold afterMode
  cases hmode : options.mode with
  | some given =>
      rw [hmode] at h
      cases h
      exact ⟨rfl, rfl, hprinted⟩
  | none =>
      rw [hmode] at h
      obtain ⟨answer, s₁, hask, hend⟩ := runOn_bind_eq_ok_iff.mp h
      rw [askWhether, SetupM.runOn_ask] at hask
      obtain ⟨-, rfl⟩ := SetupM.runOn_orFail_eq_ok_iff.mp hask
      cases hend
      exact ⟨rfl, rfl, hprinted⟩

theorem exists_encode_of_drawSecret (h : runOn drawSecret s = (.ok secret, t)) :
    ∃ seed, secret = Base32.encode seed := by
  obtain ⟨seed, s₁, -, h₁⟩ := runOn_bind_eq_ok_iff.mp h
  rw [SetupM.runOn_bind_of_ok (SetupM.runOn_note _ _)] at h₁
  cases h₁
  exact ⟨seed, rfl⟩

/-- A preparation that is not quiet presents the secret as soon as the mode is settled. What is
printed after that stands behind it. -/
theorem Prepared.presented (prepared : Prepared environment options s summary t)
    (hquiet : options.quiet = false) :
    (∃ seed, summary.secret = Base32.encode seed) ∧
      ∃ settled presented, settled.respondent = afterMode options s.respondent ∧
        settled.clock = s.clock ∧ (∃ text, settled.printed = s.printed ++ text) ∧
        runOn (presentSecret environment options summary.secret summary.mode) settled =
          (.ok (), presented) ∧
        ∃ after, t.printed = presented.printed ++ after := by
  obtain ⟨drawn, settled, presented, filled, listed, hsecret, hmode, hpresented, hcodes, hlisted,
    -, -, after, hafter⟩ := prepared.talks
  rw [hquiet, if_neg (by simp)] at hpresented hlisted
  subst hlisted
  obtain ⟨⟨hdrawnRespondent, hdrawnClock⟩, hdrawnPrinted⟩ :=
    SetupM.drawing_silent.drawSecret.of_run hsecret
  obtain ⟨hrespondent, hclock, text, hprinted⟩ := settleMode_eq_ok hmode
  obtain ⟨-, hfilledPrinted⟩ := (SetupM.drawing_silent.drawMany _).of_run hcodes
  rw [hdrawnRespondent] at hrespondent
  rw [hdrawnPrinted] at hprinted
  refine ⟨exists_encode_of_drawSecret hsecret, settled, presented, hrespondent,
    hclock.trans hdrawnClock, ⟨text, hprinted⟩, hpresented,
    listing summary.scratchCodes ++ after, ?_⟩
  rw [hafter, hfilledPrinted, String.append_assoc]

/-! ### The whole run -/

theorem codeOfSecret_readable {counter : Int} (h : Hotp.codeOfSecret secret counter = .ok code) :
    (Hotp.display code).length = 6 ∧
      (∀ c ∈ (Hotp.display code).toList, c.isDigit = true) ∧
      Text.readInteger? (Hotp.display code).toList = some (code : Int) := by
  unfold Hotp.codeOfSecret at h
  split at h
  · cases h
  · exact Hotp.display_readable (Hotp.code_lt_modulus h)

/-- What is checked or shown in the course of a run is what a login makes of the written file. In
time-based mode the codes are those of its first line by its time step, each at the reading that the
clock gives after the answer: they are what answers are compared with, and they have six digits
where they are given away. In counter-based mode the code is the one at its counter. -/
theorem run_presents_stored_code {settings : Settings} {file : SecretFile}
    (hvalid : settings.validate = .ok options) (hquiet : options.quiet = false)
    (h : runOn (run environment options) s = (.ok summary, t)) (hfile : summary.file? = some file) :
    ∃ place secret before between after, s.files.place summary.path = .ok place ∧
      t.files.lookup place = some (.file 0o600 (Text.utf8 file.text)) ∧
      SecretFile.secretOf? file.text = some secret ∧
      t.printed = s.printed ++ before ++ ("Your new secret key is: " ++ secret ++ "\n") ++
        between ++ "Your emergency scratch codes are:\n" ++ after ∧
      (summary.mode = .timeBased → options.confirm = true → ∃ codes accepted,
        between = checkSheet s.respondent.codePrompt codes accepted ∧
        Confirmation secret (SecretFile.stepOf file.text) (afterMode options s.respondent) s.clock
          codes accepted ∧
        ∀ code ∈ codes, (Hotp.display code).length = 6 ∧
          (∀ c ∈ (Hotp.display code).toList, c.isDigit = true) ∧
          Text.readInteger? (Hotp.display code).toList = some (code : Int)) ∧
      (summary.mode = .counterBased → ∃ (counter : Int) (code : Nat),
        between = "Your verification code for code " ++ Text.decimal counter ++ " is " ++
          Hotp.display code ++ "\n" ∧
        SecretFile.counterOf? file.text = some counter ∧
        Hotp.codeOfSecret secret counter = .ok code) := by
  obtain ⟨consistent, -, -⟩ := Settings.validate_eq_ok_iff.mp hvalid
  obtain ⟨middle, hprepare, hreplace⟩ := (Ended.of_run h).of_file hfile
  have prepared := prepare_eq_ok hprepare
  obtain ⟨⟨seed, hsecret⟩, settled, presented, hrespondent, hclock, ⟨text, htext⟩, hpresent,
    after, hafter⟩ := prepared.presented hquiet
  obtain ⟨answered, hcompose⟩ := prepared.exists_compose hfile
  rw [hsecret] at hcompose
  obtain ⟨hfirst, hstep, hcounter⟩ := SecretFile.readable_compose consistent hcompose
  rw [← hsecret] at hfirst
  obtain ⟨-, hprinted, place, temp, replaced⟩ := replaceFile_eq_ok hreplace
  have hfiles : middle.files = s.files :=
    (keepsSameFiles_prepare environment options).of_run hprepare
  rw [hfiles] at replaced
  obtain ⟨before, between, hshown, hcases⟩ := presentSecret_eq_ok hpresent
  rw [hrespondent, hclock, codePrompt_afterMode] at hcases
  refine ⟨place, summary.secret, text ++ before, between, after, replaced.place_target,
    replaced.content, hfirst, ?_, ?_, ?_⟩
  · rw [hprinted, hafter, hshown, htext]
    simp only [String.append_assoc]
  · intro hmode hconfirm
    rw [if_pos (by simp [hmode, hconfirm]), ← hstep hmode] at hcases
    obtain ⟨codes, accepted, hbetween, confirmation⟩ := hcases
    refine ⟨codes, accepted, hbetween, confirmation, ?_⟩
    intro code hcode
    obtain ⟨index, hindex⟩ := List.getElem?_of_mem hcode
    obtain ⟨⟨counter, -, hvalue⟩, -⟩ := confirmation.missed index code hindex
    exact codeOfSecret_readable hvalue
  · intro hmode
    rw [if_neg (by simp [hmode])] at hcases
    obtain ⟨code, hbetween, hcode⟩ := hcases
    refine ⟨Mode.firstCounter, code, ?_, hcounter hmode, hcode⟩
    rw [Text.decimal_natCast]
    exact hbetween

/-- Steps of 45 seconds: the code of the first step is not guessed, that of the second one is. -/
theorem run_presents_stored_code_at_second_question :
    let environment : Environment :=
      { home? := none, host := { hostname? := none, account? := none, uid := 0 }
        isTerminal := false, renderer := .absent }
    let settings : Settings :=
      { stepSize := some 45, minimalWindow := true, noRateLimit := true, emergencyCodes := 0
        force := true, secretPath := some "s", qrMode := "NONE" }
    let session : Session :=
      { random := { name := "", device := .stream (List.replicate 20 0) true }
        respondent := .scripted (.inOrder [true]) [some 1, some 73348] []
        clock := .ofList (.seconds 59) [.seconds 100]
        files := { entries := [] } }
    ∃ options summary final file secret codes accepted, settings.validate = .ok options ∧
      options.quiet = false ∧ runOn (run environment options) session = (.ok summary, final) ∧
      summary.file? = some file ∧ SecretFile.secretOf? file.text = some secret ∧
      SecretFile.stepOf file.text = 45 ∧
      Confirmation secret 45 (afterMode options session.respondent) session.clock codes
        accepted := by
  intro environment settings session
  let options : Options :=
    { mode := none, disallowReuse := none, stepSize := some 45, window := .minimal
      rate := .unlimited, emergencyCodes := 0, confirm := true, force := true, quiet := false
      label := none, issuer := none, secretPath := some "s", qrMode := .hidden }
  let file : SecretFile :=
    { capacity := 209, secret := "AAAAAAAAAAAAAAAAAAAAAAAAAAAAAAAA"
      directives := ["\" WINDOW_SIZE 3", "\" STEP_SIZE 45"], entries := ["\" TOTP_AUTH"] }
  let summary : Summary :=
    { secret := "AAAAAAAAAAAAAAAAAAAAAAAAAAAAAAAA", mode := .timeBased, scratchCodes := []
      path := "s", file? := some file }
  have hvalid : settings.validate = .ok options := by decide +kernel
  have hprepare : (runOn (prepare environment options) session).1.toOption = some summary := by
    decide +kernel
  have hstep : SecretFile.stepOf file.text = 45 := by decide +kernel
  obtain ⟨final, hrun, -⟩ :=
    exists_run_of_isName hprepare rfl rfl (by decide) (by decide +kernel) (by decide) rfl
  obtain ⟨place, secret, before, between, after, -, -, hsecret, -, htimeBased, -⟩ :=
    run_presents_stored_code hvalid rfl hrun rfl
  obtain ⟨codes, accepted, -, confirmation, -⟩ := htimeBased rfl rfl
  rw [hstep] at confirmation
  exact ⟨options, summary, final, file, secret, codes, accepted, hvalid, rfl, hrun, rfl, hsecret,
    hstep, confirmation⟩

end Enrollment

end OneTimePassword
