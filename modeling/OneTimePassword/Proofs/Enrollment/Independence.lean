/-
Module: OneTimePassword.Proofs.Enrollment.Independence
Purpose: How a secret is shown, and whether the app is checked, makes no difference to what is
  written.
Main exports: Failure.IsOfPresentation, Session.SameScript, Enrollment.ensures_presentSecret,
  Enrollment.presentation_is_immaterial
-/
import OneTimePassword.Proofs.Enrollment.LateMode
import OneTimePassword.Proofs.Session.Agree

namespace OneTimePassword

open SetupM (runOn Respects Ensures Agree Inquiring Drawing)

/-- The failures of showing a secret and of checking an app. -/
def Failure.IsOfPresentation : Failure → Prop
  | .uri _ | .clock _ | .code _ | .encoding _ | .drawing _ => True
  | .random _ | .conflict _ | .blank _ | .unanswered _ | .noHome | .refusal _ | .replacement _ =>
      False

/-- The answers that a script still has to yes-or-no questions. -/
def Respondent.script? : Respondent → Option YesNo
  | .console _ _ => none
  | .scripted yesNo _ _ => some yesNo

/-- Sessions with the same random bytes and the same files, in which a script gives the same answers
to yes-or-no questions. -/
structure Session.SameScript (s t : Session) : Prop where
  random : t.random = s.random
  files : t.files = s.files
  script : ∃ yesNo, s.respondent.script? = some yesNo ∧ t.respondent.script? = some yesNo

open Session (SameScript)

theorem Session.SameScript.symm (s t : Session) (h : SameScript s t) : SameScript t s := by
  obtain ⟨yesNo, hs, ht⟩ := h.script
  exact ⟨h.random.symm, h.files.symm, yesNo, ht, hs⟩

/-! ### Steps that both sessions take -/

theorem SetupM.respects_note_sameScript (record : Record) :
    Respects SameScript (OneTimePassword.note record) :=
  fun _ _ h => ⟨rfl, h.random, h.files, h.script⟩

/-- A script answers a yes-or-no question by what it holds for such questions. -/
theorem Respondent.askWhether_of_script? {respondent : Respondent} {yesNo : YesNo}
    (h : respondent.script? = some yesNo) (message : String) :
    (askWhether message respondent).outcome = .ok yesNo.next.1 ∧
      (askWhether message respondent).respondent.script? = some yesNo.next.2 := by
  cases respondent with
  | console lines atEnd => cases h
  | scripted script numbers asked =>
      obtain rfl := Option.some.inj h
      exact ⟨rfl, rfl⟩

/-- To ask for a yes or a no is the same in both sessions. -/
theorem SetupM.inquiring_sameScript : Inquiring fun x => Respects SameScript x where
  toCompositional := SetupM.compositional_respects SameScript
  note := SetupM.respects_note_sameScript
  askWhether _ := by
    intro s t h
    obtain ⟨yesNo, hs, ht⟩ := h.script
    obtain ⟨houtcome, hafter⟩ := Respondent.askWhether_of_script? hs _
    obtain ⟨houtcome', hafter'⟩ := Respondent.askWhether_of_script? ht _
    rw [askWhether, SetupM.runOn_ask, SetupM.runOn_ask, houtcome, houtcome']
    exact ⟨rfl, h.random, h.files, yesNo.next.2, hafter, hafter'⟩

/-- To take random bytes is the same in both sessions. -/
theorem SetupM.drawing_sameScript : Drawing fun x => Respects SameScript x where
  toCompositional := SetupM.compositional_respects SameScript
  note := SetupM.respects_note_sameScript
  readRandom wanted := by
    intro s t h
    rw [runOn_readRandom, runOn_readRandom, h.random]
    rcases s.random.read wanted with ⟨e | data, random⟩
    · exact ⟨rfl, rfl, h.files, h.script⟩
    · exact ⟨rfl, rfl, h.files, h.script⟩
  readingsLeft := by
    intro s t h
    change Except.ok s.random.device.readingsLeft = Except.ok t.random.device.readingsLeft ∧ _
    rw [h.random]
    exact ⟨rfl, h⟩

namespace Enrollment

theorem respects_replaceFile_sameScript (faults : Faults) (path : String) (file : SecretFile) :
    Respects SameScript (replaceFile faults path file) := by
  intro s t h
  rw [runOn_replaceFile, runOn_replaceFile, h.files]
  exact respects_conclude SetupM.respects_note_sameScript path _ _ _ ⟨h.random, rfl, h.script⟩

/-! ### Steps that only one session takes -/

/-- What is printed, shown and noted down is neither here nor there, and neither is the clock. -/
def IgnoresDisplay (P : Session → Prop) : Prop :=
  ∀ t t', t'.random = t.random → t'.files = t.files → t'.respondent = t.respondent → P t → P t'

theorem ignoresDisplay_sameScript (s : Session) : IgnoresDisplay (SameScript s) := by
  intro t t' hrandom hfiles hrespondent same
  exact ⟨hrandom.trans same.random, hfiles.trans same.files, hrespondent ▸ same.script⟩

theorem IgnoresDisplay.numbersLeft {P : Session → Prop} (hP : IgnoresDisplay P) (questions : Nat) :
    IgnoresDisplay fun t => P t ∧ t.respondent.numbersLeft < questions := by
  intro t t' hrandom hfiles hrespondent h
  exact ⟨hP t t' hrandom hfiles hrespondent h.1, hrespondent ▸ h.2⟩

/-- A step that asks nobody: it changes nothing but what is displayed, and fails in no way but those
of a presentation. -/
def Displays {α : Type} (x : SetupM α) : Prop :=
  ∀ P, IgnoresDisplay P → Ensures P x (fun _ => P) Failure.IsOfPresentation

namespace Displays

variable {α β : Type} {x : SetupM α} {f : α → SetupM β}

theorem pure (a : α) : Displays (Pure.pure a) := fun _ _ => .pure fun _ h => h

theorem bind (hx : Displays x) (hf : ∀ a, Displays (f a)) : Displays (x >>= f) :=
  fun P hP => (hx P hP).bind fun a => hf a P hP

theorem orFail {ε : Type} (cause : ε → Failure) (hcause : ∀ e, (cause e).IsOfPresentation)
    (result : Except ε α) : Displays (OneTimePassword.orFail cause result) :=
  fun _ _ => .orFail (fun _ _ _ h => h) fun e _ => hcause e

theorem modify {g : Session → Session} (h : ∀ t, (g t).random = t.random ∧
    (g t).files = t.files ∧ (g t).respondent = t.respondent) :
    Displays (modify g : SetupM Unit) := by
  intro P hP
  apply Ensures.modify
  intro t ht
  obtain ⟨hrandom, hfiles, hrespondent⟩ := h t
  exact hP t _ hrandom hfiles hrespondent ht

theorem print (text : String) : Displays (OneTimePassword.print text) :=
  modify fun _ => ⟨rfl, rfl, rfl⟩

theorem printLine (text : String) : Displays (OneTimePassword.printLine text) := print _

theorem note (record : Record) : Displays (OneTimePassword.note record) :=
  modify fun _ => ⟨rfl, rfl, rfl⟩

end Displays

theorem displays_render (renderer : QrCode.Renderer) (text : String) :
    Displays (render renderer text) := by
  have hremember : Displays (modify fun session =>
      { session with shown := session.shown ++ [text] } : SetupM Unit) :=
    .modify fun _ => ⟨rfl, rfl, rfl⟩
  cases renderer with
  | absent => exact .pure _
  | viewer succeeds => exact hremember.bind fun _ => .pure _
  | terminal style encoder? =>
      cases encoder? with
      | none => exact (Displays.note _).bind fun _ => .pure _
      | some encoder =>
          apply hremember.bind
          intro _
          apply (Displays.orFail .encoding (fun _ => trivial) _).bind
          intro matrix
          exact (Displays.orFail .drawing (fun _ => trivial) _).bind fun _ =>
            (Displays.print _).bind fun _ => .pure _

theorem displays_showUri (environment : Environment) (qrMode : QrCode.Mode) (uri : EnrollmentUri) :
    Displays (showUri environment qrMode uri) := by
  unfold showUri
  split
  · exact .pure _
  · apply (Displays.orFail .uri (fun _ => trivial) _).bind
    intro text
    split
    · exact .pure _
    · apply (displays_render _ _).bind
      intro isShown
      split
      · exact (Displays.printLine _).bind fun _ => (Displays.printLine _).bind fun _ =>
          .printLine _
      · exact .pure _

theorem displays_presentCode (secret : String) (step : Int) :
    Displays (presentCode secret step) := by
  have hread : Displays readClock := fun P hP => ⟨fun t ht => hP t _ rfl rfl rfl ht⟩
  exact hread.bind fun _ => (Displays.orFail .clock (fun _ => trivial) _).bind fun _ =>
    .orFail .code (fun _ => trivial) _

/-- A script that has no number left has the check skipped. -/
theorem ensures_askNumber (s : Session) (message : String) (questions : Nat) :
    Ensures (fun t => SameScript s t ∧ t.respondent.numbersLeft < questions + 1) (askNumber message)
      (fun answer t => SameScript s t ∧
        (¬ answer.any (· < 0) → t.respondent.numbersLeft < questions))
      Failure.IsOfPresentation := by
  apply Ensures.ask
  intro t h
  obtain ⟨same, hleft⟩ := h
  obtain ⟨yesNo, hs, ht⟩ := same.script
  cases hrespondent : t.respondent with
  | console lines atEnd =>
      rw [hrespondent] at ht
      cases ht
  | scripted script numbers asked =>
      rw [hrespondent] at ht hleft
      cases numbers with
      | nil => exact ⟨⟨same.random, same.files, yesNo, hs, ht⟩, fun hwrong => absurd rfl hwrong⟩
      | cons number later =>
          exact ⟨⟨same.random, same.files, yesNo, hs, ht⟩, fun _ => Nat.lt_of_succ_lt_succ hleft⟩

theorem ensures_confirmWithin (s : Session) (secret : String) (step : Int) (questions : Nat) :
    Ensures (fun t => SameScript s t ∧ t.respondent.numbersLeft < questions)
      (confirmWithin secret step questions) (fun _ => SameScript s) Failure.IsOfPresentation := by
  induction questions with
  | zero => exact ⟨fun t h => absurd h.2 (Nat.not_lt_zero _)⟩
  | succ questions ih =>
      have ignores := ignoresDisplay_sameScript s
      apply (ensures_askNumber s _ questions).bind
      intro answer
      split
      · have hskip : Displays (do printLine "Code confirmation skipped"; pure false) :=
          (Displays.printLine _).bind fun _ => .pure _
        exact (hskip _ ignores).mono (fun _ h => h.1) (fun _ _ h => h) fun _ h => h
      · rename_i hwrong
        have hcode := displays_presentCode secret step _ (ignores.numbersLeft questions)
        apply (hcode.mono (fun _ h => ⟨h.1, h.2 hwrong⟩) (fun _ _ h => h) fun _ h => h).bind
        intro code
        split
        · have haccept : Displays (do printLine "Code confirmed"; pure true) :=
            (Displays.printLine _).bind fun _ => .pure _
          exact (haccept _ ignores).mono (fun _ h => h.1) (fun _ _ h => h) fun _ h => h
        · have hnote := Displays.note (.debug "Code mismatch, asking again") _
            (ignores.numbersLeft questions)
          exact hnote.bind fun _ =>
            (Displays.printLine _ _ (ignores.numbersLeft questions)).bind fun _ => ih

/-- A presentation has nothing to do with the secret file. -/
theorem ensures_presentSecret (s : Session) (environment : Environment) (options : Options)
    (secret : String) (mode : Mode) :
    Ensures (SameScript s) (presentSecret environment options secret mode) (fun _ => SameScript s)
      Failure.IsOfPresentation := by
  have ignores := ignoresDisplay_sameScript s
  apply (displays_showUri _ _ _ _ ignores).bind
  intro
  apply (Displays.printLine _ _ ignores).bind
  intro
  split
  · have hconfirmed : Ensures (SameScript s)
        (confirmApp secret (options.stepSize.getD Totp.defaultStep : Nat)) (fun _ => SameScript s)
        Failure.IsOfPresentation :=
      ⟨fun t same => (ensures_confirmWithin s secret _ _).of_run t ⟨same, Nat.lt_succ_self _⟩⟩
    have hdiscarded : Ensures (SameScript s)
        (discard (confirmApp secret (options.stepSize.getD Totp.defaultStep : Nat)))
        (fun _ => SameScript s) Failure.IsOfPresentation :=
      hconfirmed.bind fun _ => .pure fun _ h => h
    exact hdiscarded.bind fun _ => Displays.printLine _ _ ignores
  · have hcode : Displays (do
        let code ← orFail .code (Hotp.codeOfSecret secret Mode.firstCounter)
        printLine ("Your verification code for code " ++ Text.decimalNat Mode.firstCounter ++
          " is " ++ Hotp.display code)
        printLine "Your emergency scratch codes are:") :=
      (Displays.orFail .code (fun _ => trivial) _).bind fun _ =>
        (Displays.printLine _).bind fun _ => .printLine _
    exact hcode _ ignores

/-! ### The two runs -/

/-- What a run shows before it draws the codes. -/
def display (environment : Environment) (options : Options) (secret : String) (mode : Mode) :
    SetupM Unit :=
  if options.quiet then pure () else presentSecret environment options secret mode

/-- What a run shows of its codes. -/
def list (options : Options) (codes : List Nat) : SetupM Unit :=
  if options.quiet then pure ()
  else codes.forM fun code => printLine ("  " ++ ScratchCode.display code)

theorem draftFor_eq (environment : Environment) (options : Options) (secret : String)
    (mode : Mode) : draftFor environment options secret mode = (do
      display environment options secret mode
      let scratchCodes ← ScratchCode.drawMany options.emergencyCodes
      list options scratchCodes
      let path ← secretPath environment options
      pure { secret, mode, scratchCodes, path, file? := none }) := by
  unfold draftFor display list
  cases options.quiet with
  | true => rfl
  | false => rfl

/-- A run from its draft on. -/
def conclusion (environment : Environment) (options : Options) (drafted : Summary) :
    SetupM Summary := do
  let accepted ← if options.force then pure true else askWhether (updateQuestion drafted.path)
  let summary ← complete options drafted accepted
  deliver environment summary

theorem runFor_eq (environment : Environment) (options : Options) (secret : String) (mode : Mode) :
    runFor environment options secret mode =
      draftFor environment options secret mode >>= conclusion environment options := rfl

theorem respects_conclusion (environment : Environment) (options : Options) (drafted : Summary) :
    Respects SameScript (conclusion environment options drafted) := by
  have inquiring := SetupM.inquiring_sameScript
  apply inquiring.leave (inquiring.askWhether (updateQuestion_ne_codeQuestion _))
  intro accepted
  apply inquiring.bind (inquiring.complete options drafted accepted)
  intro summary
  exact inquiring.deliver fun file => respects_replaceFile_sameScript _ _ file

theorem ensures_display (s : Session) (environment : Environment) (options : Options)
    (secret : String) (mode : Mode) :
    Ensures (SameScript s) (display environment options secret mode) (fun _ => SameScript s)
      Failure.IsOfPresentation := by
  unfold display
  split
  · exact .pure fun _ same => same
  · exact ensures_presentSecret s environment options secret mode

theorem ensures_list (s : Session) (options : Options) (codes : List Nat) :
    Ensures (SameScript s) (list options codes) (fun _ => SameScript s)
      Failure.IsOfPresentation := by
  unfold list
  split
  · exact .pure fun _ same => same
  · constructor
    intro t same
    rw [runOn_printCodes]
    exact ⟨same.random, same.files, same.script⟩

/-- Two runs with other environments and options, which agree in all that has nothing to do with the
presentation, and whose scripts answer yes-or-no questions alike, agree. -/
theorem agree_run (environment : Environment) (host : Host) (isTerminal : Bool)
    (renderer : QrCode.Renderer) (options : Options) (quiet confirm : Bool)
    (label issuer : Option String) (qrMode : QrCode.Mode) :
    Agree Failure.IsOfPresentation SameScript (· = ·) (run environment options)
      (run { environment with host, isTerminal, renderer }
        { options with quiet, confirm, label, issuer, qrMode }) := by
  rw [run_eq, run_eq]
  apply (Agree.of_respects SetupM.drawing_sameScript.drawSecret).bind
  rintro secret _ rfl
  apply (Agree.of_respects (SetupM.inquiring_sameScript.settleMode options)).bind
  rintro mode _ rfl
  rw [runFor_eq, runFor_eq]
  apply Agree.bind
  · rw [draftFor_eq, draftFor_eq]
    apply (Agree.absorb_quietly SameScript.symm (ensures_display · environment options secret mode)
      (ensures_display · _ _ secret mode)).bind
    intro _ _ _
    apply (Agree.of_respects (SetupM.drawing_sameScript.drawMany options.emergencyCodes)).bind
    rintro codes _ rfl
    apply (Agree.absorb_quietly SameScript.symm (ensures_list · options codes)
      (ensures_list · _ codes)).bind
    intro _ _ _
    apply (Agree.of_respects
      ((SetupM.compositional_respects SameScript).secretPath environment options)).bind
    rintro path _ rfl
    exact .pure rfl
  · rintro drafted _ rfl
    exact .of_respects (respects_conclusion environment options drafted)

/-- How a secret is shown, and whether and with which answers and clock the app is checked, makes no
difference to what comes of a run. Unless one of two such runs fails in the course of it, both come
to the same result or failure, and leave the same files and the same random bytes. -/
theorem presentation_is_immaterial (environment : Environment) (host : Host) (isTerminal : Bool)
    (renderer : QrCode.Renderer) (options : Options) (quiet confirm : Bool)
    (label issuer : Option String) (qrMode : QrCode.Mode) (s : Session)
    (yesNo : Respondent.YesNo) (numbers numbers' : List (Option Int)) (clock clock' : Clock) :
    let first := runOn (run environment options)
      { s with respondent := .scripted yesNo numbers [], clock }
    let second := runOn (run { environment with host, isTerminal, renderer }
      { options with quiet, confirm, label, issuer, qrMode })
      { s with respondent := .scripted yesNo numbers' [], clock := clock' }
    (∀ failure, first.1 = .error failure → ¬ failure.IsOfPresentation) →
    (∀ failure, second.1 = .error failure → ¬ failure.IsOfPresentation) →
      first.1 = second.1 ∧ first.2.files = second.2.files ∧ first.2.random = second.2.random := by
  intro first second hfirst hsecond
  have hagree := agree_run environment host isTerminal renderer options quiet confirm label issuer
    qrMode { s with respondent := .scripted yesNo numbers [], clock }
    { s with respondent := .scripted yesNo numbers' [], clock := clock' }
    ⟨rfl, rfl, yesNo, rfl, rfl⟩
  rcases hagree with ⟨failure, hfailure, hcause⟩ | ⟨failure, hfailure, hcause⟩ | ⟨hmatches, same⟩
  · exact absurd hcause (hfirst failure hfailure)
  · exact absurd hcause (hsecond failure hfailure)
  · exact ⟨hmatches.eq, same.files.symm, same.random.symm⟩

/-- A quiet run and one that has the app checked, with a wrong answer. -/
theorem presentation_is_immaterial_of_wrong_answer :
    let environment : Environment :=
      { home? := none, host := { hostname? := none, account? := none, uid := 0 }
        isTerminal := false, renderer := .absent }
    let host : Host := { hostname? := some "gate", account? := some "ann", uid := 7 }
    let options : Options :=
      { mode := none, disallowReuse := none, stepSize := none, window := .minimal
        rate := .unlimited, emergencyCodes := 1, confirm := false, force := true, quiet := true
        label := none, issuer := none, secretPath := some "s", qrMode := .hidden }
    let qrMode : QrCode.Mode := .drawn ⟨.ansi, .plain⟩
    let s : Session :=
      { random := { name := "", device := .stream (List.replicate 20 0 ++ [1, 49, 45, 0, 9]) true }
        respondent := .scripted (.inOrder []) [] []
        clock := .ofList .notANumber []
        files := { entries := [(["s"], .file 0o644 [65])] } }
    let first := runOn (run environment options)
      { s with
        respondent := .scripted (.inOrder [true, true]) [] []
        clock := .ofList .notANumber [] }
    let second := runOn (run { environment with host, isTerminal := true, renderer := .viewer true }
      { options with
        quiet := false, confirm := true, label := some "me", issuer := some "", qrMode })
      { s with
        respondent := .scripted (.inOrder [true, true]) [some 1, none] []
        clock := .ofList (.seconds 59) [] }
    (∀ failure, first.1 = .error failure → ¬ failure.IsOfPresentation) ∧
      (∀ failure, second.1 = .error failure → ¬ failure.IsOfPresentation) ∧
      first.1 = second.1 ∧ first.2.files = second.2.files ∧ first.2.random = second.2.random := by
  intro environment host options qrMode s first second
  let file : SecretFile :=
    { capacity := 209, secret := "AAAAAAAAAAAAAAAAAAAAAAAAAAAAAAAA"
      directives := ["\" WINDOW_SIZE 3", "\" DISALLOW_REUSE"]
      entries := ["\" TOTP_AUTH", "20000000"] }
  let summary : Summary :=
    { secret := "AAAAAAAAAAAAAAAAAAAAAAAAAAAAAAAA", mode := .timeBased
      scratchCodes := [20000000], path := "s", file? := some file }
  have hprepare : (runOn (prepare environment options)
      { s with respondent := .scripted (.inOrder [true, true]) [] []
               clock := .ofList .notANumber [] }).1.toOption = some summary := by
    decide +kernel
  have hprepare' : (runOn
      (prepare { environment with host, isTerminal := true, renderer := .viewer true }
        { options with
          quiet := false, confirm := true, label := some "me", issuer := some "", qrMode })
      { s with respondent := .scripted (.inOrder [true, true]) [some 1, none] []
               clock := .ofList (.seconds 59) [] }).1.toOption = some summary := by
    decide +kernel
  obtain ⟨final, hrun, -⟩ :=
    exists_run_of_isName hprepare rfl rfl (by decide) (by decide +kernel) (by decide) rfl
  obtain ⟨final', hrun', -⟩ :=
    exists_run_of_isName hprepare' rfl rfl (by decide) (by decide +kernel) (by decide) rfl
  have hfirst : ∀ failure, first.1 = .error failure → ¬ failure.IsOfPresentation := by
    intro failure hfailure
    cases (congrArg Prod.fst hrun).symm.trans hfailure
  have hsecond : ∀ failure, second.1 = .error failure → ¬ failure.IsOfPresentation := by
    intro failure hfailure
    cases (congrArg Prod.fst hrun').symm.trans hfailure
  exact ⟨hfirst, hsecond, presentation_is_immaterial environment host true (.viewer true) options
    false true (some "me") (some "") qrMode s (.inOrder [true, true]) [] [some 1, none]
    (.ofList .notANumber []) (.ofList (.seconds 59) []) hfirst hsecond⟩

end Enrollment

end OneTimePassword
