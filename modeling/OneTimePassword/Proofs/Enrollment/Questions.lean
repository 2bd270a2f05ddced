/-
Module: OneTimePassword.Proofs.Enrollment.Questions
Purpose: A run asks what its settings leave open and nothing else, in a fixed order.
Main exports: Enrollment.modeQuestions, Enrollment.updateQuestions, Enrollment.policyQuestions,
  Enrollment.IsChecked, Enrollment.IsUnattended, Enrollment.run_questions
-/
import OneTimePassword.Proofs.Enrollment.Confirmation
import OneTimePassword.Proofs.Enrollment.Failures
import OneTimePassword.Proofs.Enrollment.Independence

namespace OneTimePassword

/-! ### Scripts -/

namespace Respondent

/-- Each question for a code takes a number of a script. -/
theorem afterCodes_scripted (yesNo : YesNo) (numbers : List (Option Int)) (asked : List String)
    (count : Nat) :
    afterCodes (.scripted yesNo numbers asked) count =
      .scripted yesNo (numbers.drop count) (asked ++ List.replicate count codeQuestion) := by
  induction count generalizing numbers asked with
  | zero => simp [afterCodes]
  | succ count ih =>
      cases numbers with
      | nil => simp [afterCodes, askNumber, ih, List.replicate_succ]
      | cons number later => simp [afterCodes, askNumber, ih, List.replicate_succ]

/-- Scripts that were asked the same and have the same numbers, whatever else they answer. -/
def AskedAlike (a b : Respondent) : Prop :=
  ∃ yesNo yesNo' numbers asked, a = .scripted yesNo numbers asked ∧
    b = .scripted yesNo' numbers asked

namespace AskedAlike

variable {a b : Respondent}

theorem questions?_eq (h : AskedAlike a b) : b.questions? = a.questions? := by
  obtain ⟨yesNo, yesNo', numbers, asked, rfl, rfl⟩ := h
  rfl

theorem numbersLeft_eq (h : AskedAlike a b) : a.numbersLeft = b.numbersLeft := by
  obtain ⟨yesNo, yesNo', numbers, asked, rfl, rfl⟩ := h
  rfl

/-- They cannot be told apart by questions for codes. -/
theorem askNumber (message : String) (h : AskedAlike a b) :
    (Respondent.askNumber message a).Alike AskedAlike (Respondent.askNumber message b) := by
  obtain ⟨yesNo, yesNo', numbers, asked, rfl, rfl⟩ := h
  cases numbers with
  | nil => exact ⟨rfl, rfl, yesNo, yesNo', [], _, rfl, rfl⟩
  | cons number later => exact ⟨rfl, rfl, yesNo, yesNo', later, _, rfl, rfl⟩

end AskedAlike

end Respondent

open Respondent (YesNo AskedAlike codeQuestion)
open Session (SameBut Unasked)
open SetupM (runOn runOn_bind_eq_ok_iff Keeps Respects)

namespace Enrollment

variable {environment : Environment} {settings : Settings} {options : Options}
  {drafted summary : Summary} {secret : String} {mode : Mode} {accepted : Bool} {s t : Session}
  {yesNo script : YesNo} {numbers : List (Option Int)} {asked : List String}

/-! ### What settings leave open -/

/-- The question for the mode, unless it is given. -/
def modeQuestions (options : Options) : List String :=
  if options.mode = none then [modeQuestion] else []

/-- The question for leave to update the file at a path, unless it is given in advance. -/
def updateQuestions (options : Options) (path : String) : List String :=
  if options.force then [] else [updateQuestion path]

/-- The questions about the directives. Without leave no file is put together. -/
def policyQuestions (settings : Settings) (mode : Mode) (accepted : Bool) : List String :=
  if accepted then (Policy.openQuestions mode settings).map Policy.Question.text else []

/-- The questions that are put for the sake of the file: all that are open, unless the settings turn
out not to go with the mode. -/
def fileQuestions (options : Options) (mode : Mode) (accepted : Bool) : List String :=
  if accepted then (Policy.askedQuestions mode options.toSettings).map Policy.Question.text else []

/-- The number of questions for a code: one for each answer that a check of the app takes, and none
where there is no check. -/
def IsChecked (options : Options) (secret : String) (mode : Mode) (respondent : Respondent)
    (clock : Clock) (count : Nat) : Prop :=
  if !options.quiet && (options.confirm && mode = .timeBased) then
    ∃ codes accepted, count = codes.length + 1 ∧
      Confirmation secret (options.stepSize.getD Totp.defaultStep : Nat) respondent clock codes
        accepted
  else count = 0

/-- Settings that leave nothing open in a mode, neither in the check of the app nor in the file. -/
structure IsUnattended (settings : Settings) (options : Options) (mode : Mode) : Prop where
  given : options.mode = some mode
  reuse : mode = .timeBased → settings.disallowReuse ≠ none
  window : settings.windowSize ≠ none ∨ settings.minimalWindow = true
  rate : settings.rateLimit ≠ none ∨ settings.noRateLimit = true
  force : options.force = true
  unchecked : options.quiet = true ∨ options.confirm = false ∨ mode = .counterBased

/-! ### Up to the draft -/

theorem afterMode_scripted (options : Options) (yesNo : YesNo) (numbers : List (Option Int))
    (asked : List String) :
    afterMode options (.scripted yesNo numbers asked) =
      .scripted (yesNo.drop (modeQuestions options).length) numbers
        (asked ++ modeQuestions options) := by
  unfold afterMode modeQuestions
  cases options.mode with
  | none => simp [Respondent.askWhether, YesNo.next_eq]
  | some mode => simp

/-- The mode is the given one, or goes by the first answer of a script. -/
theorem runOn_settleMode_of_script (options : Options)
    (hscript : s.respondent = .scripted yesNo numbers asked) :
    runOn (settleMode options) s =
      (.ok (options.mode.getD (Mode.ofAnswer (yesNo.nth 0))),
        { s with respondent := afterMode options s.respondent }) := by
  unfold settleMode
  cases hmode : options.mode with
  | some given => simp [afterMode, hmode]
  | none =>
      have hafter := afterMode_scripted options yesNo numbers asked
      change runOn (askWhether modeQuestion >>= fun timeBased => pure (Mode.ofAnswer timeBased)) s = _
      rw [SetupM.runOn_bind_of_ok (runOn_askWhether_of_script modeQuestion hscript), hscript, hafter]
      simp [modeQuestions, hmode]

/-- Only where the app is checked does a presentation ask for codes. -/
theorem exists_isChecked {presented : Session}
    (h : if options.quiet then presented = s
      else runOn (presentSecret environment options secret mode) s = (.ok (), presented)) :
    ∃ count, IsChecked options secret mode s.respondent s.clock count ∧
      presented.respondent = s.respondent.afterCodes count := by
  unfold IsChecked
  cases hquiet : options.quiet with
  | true =>
      rw [hquiet, if_pos rfl] at h
      subst h
      exact ⟨0, by simp, rfl⟩
  | false =>
      rw [hquiet, if_neg (by simp)] at h
      obtain ⟨before, between, -, hcases⟩ := presentSecret_cases h
      simp only [Bool.not_false, Bool.true_and]
      by_cases hconfirm : (options.confirm && mode = .timeBased) = true
      · rw [if_pos hconfirm] at hcases
        obtain ⟨codes, accepted, -, confirmation, hrespondent⟩ := hcases
        refine ⟨codes.length + 1, ?_, hrespondent⟩
        rw [if_pos hconfirm]
        exact ⟨codes, accepted, rfl, confirmation⟩
      · rw [if_neg hconfirm] at hcases
        refine ⟨0, ?_, hcases.1⟩
        rw [if_neg hconfirm]

theorem respondent_listing {codes : List Nat} {listed : Session}
    (h : if options.quiet then listed = s
      else runOn (codes.forM fun code => printLine ("  " ++ ScratchCode.display code)) s =
        (.ok (), listed)) : listed.respondent = s.respondent := by
  have showing := SetupM.showing_unasked
  split at h
  · rw [h]
  · exact ((showing.forM fun _ => showing.printLine _).of_run h).1

/-- A draft asks for nothing but codes. -/
theorem draftFor_eq_ok
    (h : runOn (draftFor environment options secret mode) s = (.ok drafted, t)) :
    drafted.secret = secret ∧ drafted.mode = mode ∧
      ∃ count, IsChecked options secret mode s.respondent s.clock count ∧
        t.respondent = s.respondent.afterCodes count := by
  unfold draftFor at h
  obtain ⟨presented, hpresented, h₁⟩ := SetupM.runOn_unless_eq_ok_iff.mp h
  obtain ⟨codes, filled, hcodes, h₂⟩ := runOn_bind_eq_ok_iff.mp h₁
  obtain ⟨listed, hlisted, h₃⟩ := SetupM.runOn_unless_eq_ok_iff.mp h₂
  obtain ⟨path, placed, hpath, hend⟩ := runOn_bind_eq_ok_iff.mp h₃
  cases hend
  obtain ⟨count, checked, hrespondent⟩ := exists_isChecked hpresented
  have hfilled : filled.respondent = presented.respondent :=
    ((SetupM.drawing_silent.drawMany _).of_run hcodes).1.1
  have hplaced : t.respondent = listed.respondent :=
    ((SetupM.showing_unasked.secretPath _ _).of_run hpath).1
  refine ⟨rfl, rfl, count, checked, ?_⟩
  rw [hplaced, respondent_listing hlisted, hfilled, hrespondent]

/-- A draft takes the answer for the mode if it has to, and those for codes. -/
theorem draft_eq_ok (hscript : s.respondent = .scripted yesNo numbers asked)
    (h : runOn (draft environment options) s = (.ok drafted, t)) :
    drafted.mode = options.mode.getD (Mode.ofAnswer (yesNo.nth 0)) ∧
      ∃ count, IsChecked options drafted.secret drafted.mode (afterMode options s.respondent) s.clock
          count ∧
        t.respondent = .scripted (yesNo.drop (modeQuestions options).length) (numbers.drop count)
          (asked ++ modeQuestions options ++ List.replicate count codeQuestion) := by
  rw [draft] at h
  obtain ⟨secret, drawn, hsecret, h₁⟩ := runOn_bind_eq_ok_iff.mp h
  obtain ⟨mode, settled, hmode, hdraft⟩ := runOn_bind_eq_ok_iff.mp h₁
  obtain ⟨⟨hrespondent, hclock⟩, -⟩ := SetupM.drawing_silent.drawSecret.of_run hsecret
  rw [runOn_settleMode_of_script options (hrespondent.trans hscript)] at hmode
  cases hmode
  obtain ⟨rfl, hchosen, count, checked, hafter⟩ := draftFor_eq_ok hdraft
  dsimp only at checked hafter
  rw [hrespondent, hclock] at checked
  refine ⟨hchosen, count, hchosen ▸ checked, ?_⟩
  rw [hafter, hrespondent, hscript, afterMode_scripted, Respondent.afterCodes_scripted]

/-! ### From the draft on -/

section Conclusion

variable (isDraft : IsDraft environment options drafted) (consistent : options.IsConsistent)

include isDraft consistent

/-- A draft leaves room for all directives. -/
theorem IsDraft.room :
    (((SecretFile.bare drafted.secret drafted.mode (drafted.scratchCodes.map Int.ofNat)).size +
      Policy.widest : Nat) : Int) ≤ SecretFile.maxSize := by
  obtain ⟨hcount, hcodes⟩ := isDraft.fits consistent
  exact Int.ofNat_le.mpr
    (SecretFile.size_bare_add_widest_le drafted.mode isDraft.length_secret hcount hcodes)

/-- What comes of a draft is up to the directives. -/
theorem IsDraft.runOn_compose (s : Session) :
    runOn (SecretFile.compose drafted.secret drafted.mode (drafted.scratchCodes.map Int.ofNat)
        options) s =
      match runOn ((Policy.add drafted.mode options).run (SecretFile.bare drafted.secret drafted.mode
        (drafted.scratchCodes.map Int.ofNat))) s with
      | (.ok (_, file), t) => (.ok file, t)
      | (.error e, t) => (.error e, t) := by
  obtain ⟨hcount, hcodes⟩ := isDraft.fits consistent
  exact SecretFile.runOn_compose options isDraft.newline_notMem isDraft.length_secret hcount hcodes

/-- For the sake of the file a script is asked for what is open, whatever comes of it. -/
theorem respondent_compose (hscript : s.respondent = .scripted script numbers asked) :
    let questions := Policy.askedQuestions drafted.mode options.toSettings
    (runOn (SecretFile.compose drafted.secret drafted.mode (drafted.scratchCodes.map Int.ofNat)
        options) s).2.respondent =
      .scripted (script.drop questions.length) numbers
        (asked ++ questions.map Policy.Question.text) := by
  intro questions
  have hrespondent := Policy.respondent_add drafted.mode consistent hscript
    (isDraft.room consistent)
  rw [isDraft.runOn_compose consistent]
  split
  · rename_i hadd
    rw [hadd] at hrespondent
    exact hrespondent
  · rename_i hadd
    rw [hadd] at hrespondent
    exact hrespondent

/-- A file is put together only if the settings go with the mode. -/
theorem clash?_eq_none_of_compose {file : SecretFile}
    (hscript : s.respondent = .scripted script numbers asked)
    (h : runOn (SecretFile.compose drafted.secret drafted.mode
      (drafted.scratchCodes.map Int.ofNat) options) s = (.ok file, t)) :
    Policy.clash? drafted.mode options.toSettings = none := by
  rw [isDraft.runOn_compose consistent] at h
  cases hclash : Policy.clash? drafted.mode options.toSettings with
  | none => rfl
  | some conflict =>
      have hfails := Policy.runOn_add_of_clash consistent hclash hscript (isDraft.room consistent)
      split at h
      · rename_i hadd
        rw [hadd] at hfails
        cases hfails
      · cases h

/-- What is left open in the file is asked for where there is leave to replace it. -/
theorem respondent_complete (accepted : Bool)
    (hscript : s.respondent = .scripted script numbers asked) :
    (runOn (complete options drafted accepted) s).2.respondent =
      .scripted (script.drop (fileQuestions options drafted.mode accepted).length) numbers
        (asked ++ fileQuestions options drafted.mode accepted) := by
  cases accepted with
  | false =>
      have hunasked : (runOn (complete options drafted false) s).2.respondent = s.respondent := rfl
      rw [hunasked, hscript]
      simp [fileQuestions]
  | true =>
      have hcomplete : complete options drafted true =
          SecretFile.compose drafted.secret drafted.mode (drafted.scratchCodes.map Int.ofNat)
            options >>= fun file => pure { drafted with file? := some file } := rfl
      rw [hcomplete, SetupM.respondent_bind fun _ => SetupM.showing_unasked.pure _,
        respondent_compose isDraft consistent hscript]
      simp [fileQuestions]

theorem clash?_eq_none_of_complete (hscript : s.respondent = .scripted script numbers asked)
    (h : runOn (complete options drafted true) s = (.ok summary, t)) :
    Policy.clash? drafted.mode options.toSettings = none := by
  obtain ⟨file, middle, hcompose, -⟩ := runOn_bind_eq_ok_iff.mp h
  exact clash?_eq_none_of_compose isDraft consistent hscript hcompose

end Conclusion

/-- A completion adds no more than a file to the draft. -/
theorem exists_file?_of_complete
    (h : runOn (complete options drafted accepted) s = (.ok summary, t)) :
    ∃ file?, summary = { drafted with file? } := by
  cases accepted with
  | true =>
      obtain ⟨file, middle, -, hend⟩ := runOn_bind_eq_ok_iff.mp h
      cases hend
      exact ⟨_, rfl⟩
  | false =>
      cases h
      exact ⟨_, rfl⟩

theorem deliver_eq_ok {result : Summary}
    (h : runOn (deliver environment summary) s = (.ok result, t)) : result = summary := by
  unfold deliver at h
  split at h
  · cases h
    rfl
  · obtain ⟨⟨⟩, middle, -, hend⟩ := runOn_bind_eq_ok_iff.mp h
    cases hend
    rfl

theorem keepsUnasked_replaceFile (faults : Faults) (path : String) (file : SecretFile) :
    Keeps Unasked (replaceFile faults path file) := by
  intro s
  rw [runOn_replaceFile]
  generalize Option.getD _ _ = outcome
  cases outcome with
  | ok done => exact ⟨rfl, rfl⟩
  | error cause => exact ⟨rfl, rfl⟩

/-- Nobody is asked once the file has been put together. -/
theorem keepsUnasked_deliver (environment : Environment) (summary : Summary) :
    Keeps Unasked (deliver environment summary) :=
  SetupM.showing_unasked.deliver fun file => keepsUnasked_replaceFile _ _ file

/-- Leave is given in advance, or by the next answer of a script. -/
theorem runOn_conclusion_of_script (environment : Environment) (options : Options)
    (drafted : Summary) (hscript : s.respondent = .scripted script numbers asked) :
    runOn (conclusion environment options drafted) s =
      runOn (complete options drafted (options.force || script.nth 0) >>= deliver environment)
        { s with
          respondent := .scripted (script.drop (updateQuestions options drafted.path).length) numbers
            (asked ++ updateQuestions options drafted.path) } := by
  unfold conclusion updateQuestions
  cases options.force with
  | true => simp [← hscript]
  | false =>
      have hask := runOn_askWhether_of_script (updateQuestion drafted.path) hscript
      simp only [Bool.false_eq_true, if_false, Bool.false_or]
      rw [SetupM.runOn_bind_of_ok hask]
      rfl

/-- From the draft on a script is asked for leave, and then for what is open, whatever comes of it. -/
theorem respondent_conclusion (isDraft : IsDraft environment options drafted)
    (consistent : options.IsConsistent) (hscript : s.respondent = .scripted script numbers asked) :
    (runOn (conclusion environment options drafted) s).2.respondent =
      .scripted
        (script.drop ((updateQuestions options drafted.path).length +
          (fileQuestions options drafted.mode (options.force || script.nth 0)).length))
        numbers
        (asked ++ updateQuestions options drafted.path ++
          fileQuestions options drafted.mode (options.force || script.nth 0)) := by
  rw [runOn_conclusion_of_script environment options drafted hscript,
    SetupM.respondent_bind (keepsUnasked_deliver environment),
    respondent_complete isDraft consistent _ rfl, YesNo.drop_drop]

/-! ### Runs with a result -/

theorem run_eq_conclusion (environment : Environment) (options : Options) :
    run environment options = draft environment options >>= conclusion environment options := by
  simp only [run_eq, draft, runFor_eq, bind_assoc]

/-- Where the settings go with the mode, all that is open is asked. -/
theorem fileQuestions_eq (hvalid : settings.validate = .ok options)
    (hclash : accepted = true → Policy.clash? mode options.toSettings = none) :
    fileQuestions options mode accepted = policyQuestions settings mode accepted := by
  obtain ⟨-, hsettings, -⟩ := Settings.validate_eq_ok_iff.mp hvalid
  cases accepted with
  | false => rfl
  | true =>
      rw [fileQuestions, Policy.askedQuestions, hclash rfl, hsettings]
      rfl

/-- A run with a result has asked a script for the mode, for codes, for leave and for what is open in
the file, each as far as it has to be asked for. -/
theorem run_asks (hvalid : settings.validate = .ok options)
    (hscript : s.respondent = .scripted yesNo numbers asked)
    (h : runOn (run environment options) s = (.ok summary, t)) :
    let asksMode := modeQuestions options
    let asksLeave := updateQuestions options summary.path
    let asksPolicy := policyQuestions settings summary.mode summary.file?.isSome
    ∃ checks, IsChecked options summary.secret summary.mode (afterMode options s.respondent) s.clock
        checks ∧
      summary.mode = options.mode.getD (Mode.ofAnswer (yesNo.nth 0)) ∧
      summary.file?.isSome = (options.force || yesNo.nth asksMode.length) ∧
      t.respondent =
        .scripted (yesNo.drop (asksMode.length + asksLeave.length + asksPolicy.length))
          (numbers.drop checks)
          (asked ++ asksMode ++ List.replicate checks codeQuestion ++ asksLeave ++ asksPolicy) := by
  obtain ⟨consistent, -, -⟩ := Settings.validate_eq_ok_iff.mp hvalid
  rw [run_eq_conclusion] at h
  obtain ⟨drafted, placed, hdraft, hconclusion⟩ := runOn_bind_eq_ok_iff.mp h
  obtain ⟨isDraft, -⟩ := (accounts_draft consistent).of_eq_ok (.refl s) hdraft
  obtain ⟨hmode, checks, checked, hplaced⟩ := draft_eq_ok hscript hdraft
  have hrespondent := respondent_conclusion isDraft consistent hplaced
  rw [hconclusion, YesNo.nth_drop, Nat.add_zero, YesNo.drop_drop, ← Nat.add_assoc] at hrespondent
  rw [runOn_conclusion_of_script environment options drafted hplaced, YesNo.nth_drop,
    Nat.add_zero] at hconclusion
  obtain ⟨completed, middle, hcomplete, hdeliver⟩ := runOn_bind_eq_ok_iff.mp hconclusion
  obtain rfl := deliver_eq_ok hdeliver
  have hsome := complete_eq_ok hcomplete
  rw [← hsome] at hcomplete hrespondent
  have hclash : summary.file?.isSome = true →
      Policy.clash? drafted.mode options.toSettings = none := by
    intro haccepted
    rw [haccepted] at hcomplete
    exact clash?_eq_none_of_complete isDraft consistent rfl hcomplete
  rw [fileQuestions_eq hvalid hclash] at hrespondent
  obtain ⟨file?, rfl⟩ := exists_file?_of_complete hcomplete
  exact ⟨checks, checked, hmode, hsome, hrespondent⟩

/-! ### Other answers -/

/-- A draft does not depend on what a script answers to later questions. -/
theorem draft_asks_alike (environment : Environment)
    (hscript : s.respondent = .scripted yesNo numbers asked)
    (hmode : options.mode = none → script.nth 0 = yesNo.nth 0) :
    let drafting := runOn (draft environment options) s
    ∃ other, AskedAlike drafting.2.respondent other ∧
      runOn (draft environment options) { s with respondent := .scripted script numbers asked } =
        (drafting.1, { drafting.2 with respondent := other }) := by
  have hsame : options.mode.getD (Mode.ofAnswer (script.nth 0)) =
      options.mode.getD (Mode.ofAnswer (yesNo.nth 0)) := by
    cases hgiven : options.mode with
    | some mode => rfl
    | none => rw [hmode hgiven]
  have hdrawn := (SetupM.drawing_silent.drawSecret s).1.1.trans hscript
  have hother := runOn_drawSecret s (.scripted script numbers asked)
  rw [draft]
  rcases hdraw : runOn drawSecret s with ⟨failure | secret, drawn⟩
  · rw [hdraw] at hdrawn hother
    rw [SetupM.runOn_bind_of_error hdraw, SetupM.runOn_bind_of_error hother]
    exact ⟨_, ⟨yesNo, script, numbers, asked, hdrawn, rfl⟩, rfl⟩
  · have hchecking := SetupM.checking_respects (fun _ _ => AskedAlike.numbersLeft_eq)
      fun message _ _ => AskedAlike.askNumber message
    have hdraft : Respects (SameBut AskedAlike) (draftFor environment options secret
        (options.mode.getD (Mode.ofAnswer (yesNo.nth 0)))) :=
      SetupM.showing_respects.draftFor SetupM.drawing_respects environment options secret _
        fun _ => hchecking.presentSecret environment options secret _
    rw [hdraw] at hdrawn hother
    rw [SetupM.runOn_bind_of_ok hdraw, SetupM.runOn_bind_of_ok hother,
      SetupM.runOn_bind_of_ok (runOn_settleMode_of_script options hdrawn),
      SetupM.runOn_bind_of_ok (runOn_settleMode_of_script options rfl), hsame, hdrawn,
      afterMode_scripted, afterMode_scripted]
    exact hdraft.exists_runOn_eq ⟨_, _, numbers, _, rfl, rfl⟩

/-- Scripts that choose the same mode and give the same leave are asked the same, however their runs
end. -/
theorem run_asks_alike (environment : Environment) (hvalid : settings.validate = .ok options)
    (hscript : s.respondent = .scripted yesNo numbers asked)
    (hmode : options.mode = none → script.nth 0 = yesNo.nth 0)
    (hleave : options.force = false →
      script.nth (modeQuestions options).length = yesNo.nth (modeQuestions options).length) :
    (runOn (run environment options)
        { s with respondent := .scripted script numbers asked }).2.respondent.questions? =
      (runOn (run environment options) s).2.respondent.questions? := by
  obtain ⟨consistent, -, -⟩ := Settings.validate_eq_ok_iff.mp hvalid
  obtain ⟨other, halike, hsecond⟩ := draft_asks_alike environment hscript hmode
  rw [run_eq_conclusion]
  rcases hfirst : runOn (draft environment options) s with ⟨failure | drafted, placed⟩
  · rw [hfirst] at halike hsecond
    rw [SetupM.runOn_bind_of_error hfirst, SetupM.runOn_bind_of_error hsecond]
    exact halike.questions?_eq
  · rw [hfirst] at halike hsecond
    obtain ⟨isDraft, -⟩ := (accounts_draft consistent).of_eq_ok (.refl s) hfirst
    obtain ⟨-, checks, -, hplaced⟩ := draft_eq_ok hscript hfirst
    obtain ⟨-, checks', -, hother⟩ := draft_eq_ok rfl hsecond
    have hasked := halike.questions?_eq
    rw [show other = _ from hother, hplaced] at hasked
    have hsame : (options.force || (script.drop (modeQuestions options).length).nth 0) =
        (options.force || (yesNo.drop (modeQuestions options).length).nth 0) := by
      cases hforce : options.force with
      | true => rfl
      | false => rw [YesNo.nth_drop, YesNo.nth_drop, Nat.add_zero, hleave hforce]
    rw [SetupM.runOn_bind_of_ok hfirst, SetupM.runOn_bind_of_ok hsecond,
      respondent_conclusion isDraft consistent hplaced,
      respondent_conclusion isDraft consistent hother, hsame]
    simp only [Respondent.questions?, Option.some.injEq] at hasked ⊢
    rw [hasked]

/-! ### No questions -/

/-- A secret that need not be checked is presented without questions. -/
theorem respects_presentSecret_of_unchecked {r : Respondent → Respondent → Prop}
    (hunchecked : (options.confirm && mode = .timeBased) = false) :
    Respects (SameBut r) (presentSecret environment options secret mode) := by
  have showing : SetupM.Showing fun x => Respects (SameBut r) x := SetupM.showing_respects
  unfold presentSecret
  rw [hunchecked]
  exact showing.bind (showing.showUri _ _ _) fun _ =>
    showing.bind (showing.printLine _) fun _ => showing.bind (showing.orFail _ _) fun _ =>
      showing.bind (showing.printLine _) fun _ => showing.printLine _

namespace IsUnattended

variable (unattended : IsUnattended settings options mode)

include unattended

theorem settleMode_eq : settleMode options = pure mode := by
  unfold settleMode
  rw [unattended.given]

theorem confirm_eq_false (hquiet : options.quiet = false) :
    (options.confirm && mode = .timeBased) = false := by
  rcases unattended.unchecked with hquiet' | hconfirm | rfl
  · cases hquiet.symm.trans hquiet'
  · simp [hconfirm]
  · simp

theorem not_isOpen (hvalid : settings.validate = .ok options) (question : Policy.Question) :
    ¬ question.IsOpen mode options := by
  obtain ⟨-, hsettings, -⟩ := Settings.validate_eq_ok_iff.mp hvalid
  have hreuse := unattended.reuse
  have hwindow := unattended.window
  have hrate := unattended.rate
  rw [hsettings] at hreuse hwindow hrate
  cases question with
  | reuse => exact fun hopen => hreuse hopen.1 hopen.2
  | window other =>
      intro hopen
      simp [Options.toSettings, hopen.2] at hwindow
  | rate =>
      intro hopen
      have hask : options.rate = .ask := hopen
      simp [Options.toSettings, hask] at hrate

end IsUnattended

/-- Where nothing is left open, it does not matter who is there to answer. -/
theorem respects_run_of_unattended {r : Respondent → Respondent → Prop}
    (environment : Environment) (hvalid : settings.validate = .ok options)
    (unattended : IsUnattended settings options mode) :
    Respects (SameBut r) (run environment options) := by
  have showing : SetupM.Showing fun x => Respects (SameBut r) x := SetupM.showing_respects
  have hadd := Policy.lifts_add_of_given showing.toCompositional showing.note
    (unattended.not_isOpen hvalid)
  rw [run_eq]
  refine showing.bind respects_drawSecret fun secret => ?_
  rw [unattended.settleMode_eq, pure_bind, runFor_eq]
  have hdraft : Respects (SameBut r) (draftFor environment options secret mode) :=
    showing.draftFor SetupM.drawing_respects environment options secret mode
      fun hquiet => respects_presentSecret_of_unchecked (unattended.confirm_eq_false hquiet)
  refine hdraft.bind_of_run fun drafted s t hrun => ?_
  -- the directives are those for the mode of the draft
  obtain ⟨-, rfl, -⟩ := draftFor_eq_ok hrun
  unfold conclusion
  rw [unattended.force]
  refine showing.bind (showing.pure true) fun accepted => ?_
  refine showing.bind ?_ fun summary => showing.deliver fun file => respects_replaceFile _ _ file
  cases accepted with
  | true => exact showing.bind (showing.compose hadd _ _) fun _ => showing.pure _
  | false => exact showing.bind (showing.note _) fun _ => showing.pure _

/-! ### All runs -/

/-- A run asks what its settings leave open, in a fixed order, and nothing else. A script that a run
comes back from with a result was asked for the mode if that is not given; for codes, once for each
answer that a check of the app has taken; for leave to update the file, unless that was forced; and if
there is leave, for what is still open in the file. The answers to those last questions do not change
which questions there are, however the run ends. Where nothing is open nobody is asked: the run is the
same whoever is there to answer. -/
theorem run_questions (environment : Environment) {settings : Settings} {options : Options}
    (hvalid : settings.validate = .ok options) :
    (∀ (s t : Session) (summary : Summary) yesNo numbers asked,
      s.respondent = .scripted yesNo numbers asked →
      runOn (run environment options) s = (.ok summary, t) →
      let asksMode := modeQuestions options
      let asksLeave := updateQuestions options summary.path
      let asksPolicy := policyQuestions settings summary.mode summary.file?.isSome
      ∃ checks, IsChecked options summary.secret summary.mode (afterMode options s.respondent)
          s.clock checks ∧
        summary.mode = options.mode.getD (Mode.ofAnswer (yesNo.nth 0)) ∧
        summary.file?.isSome = (options.force || yesNo.nth asksMode.length) ∧
        t.respondent =
          .scripted (yesNo.drop (asksMode.length + asksLeave.length + asksPolicy.length))
            (numbers.drop checks)
            (asked ++ asksMode ++ List.replicate checks codeQuestion ++ asksLeave ++ asksPolicy)) ∧
    (∀ (s : Session) (yesNo yesNo' : YesNo) numbers asked,
      s.respondent = .scripted yesNo numbers asked →
      (∀ place < (modeQuestions options).length + (if options.force then 0 else 1),
        yesNo'.nth place = yesNo.nth place) →
      (runOn (run environment options)
          { s with respondent := .scripted yesNo' numbers asked }).2.respondent.questions? =
        (runOn (run environment options) s).2.respondent.questions?) ∧
    (∀ mode, IsUnattended settings options mode → ∀ (s : Session),
      (runOn (run environment options) s).2.respondent = s.respondent ∧
      ∀ respondent, runOn (run environment options) { s with respondent } =
        ((runOn (run environment options) s).1,
          { (runOn (run environment options) s).2 with respondent })) := by
  refine ⟨?_, ?_, ?_⟩
  · intro s t summary yesNo numbers asked hscript hrun
    exact run_asks hvalid hscript hrun
  · intro s yesNo yesNo' numbers asked hscript hsame
    apply run_asks_alike environment hvalid hscript
    · intro hmode
      have hfirst : 0 < (modeQuestions options).length := by simp [modeQuestions, hmode]
      exact hsame 0 (Nat.add_pos_left hfirst _)
    · intro hforce
      exact hsame _ (by simp [hforce])
  · intro mode unattended s
    have hsame (respondent : Respondent) :
        runOn (run environment options) { s with respondent } =
          ((runOn (run environment options) s).1,
            { (runOn (run environment options) s).2 with respondent }) := by
      have hrespects : Respects (SameBut fun _ other => other = respondent)
          (run environment options) := respects_run_of_unattended environment hvalid unattended
      obtain ⟨_, rfl, hrun⟩ := hrespects.exists_runOn_eq rfl
      exact hrun
    exact ⟨congrArg (·.2.respondent) (hsame s.respondent), hsame⟩

/-- A script that is asked everything, the check being skipped: with no more than the first two of its
answers left as they are, it is asked the same. Settings that leave nothing open ask nothing. -/
theorem run_questions_of_skipped_check :
    let environment : Environment :=
      { home? := none, host := { hostname? := none, account? := none, uid := 0 }
        isTerminal := false, renderer := .absent }
    let settings : Settings := { emergencyCodes := 0, secretPath := some "s", qrMode := "NONE" }
    let given : Settings :=
      { mode := some "hotp", windowSize := some 5, noRateLimit := true, force := true
        emergencyCodes := 0, secretPath := some "s", qrMode := "NONE" }
    let session : Session :=
      { random := { name := "", device := .stream (List.replicate 20 0) true }
        respondent := .scripted (.inOrder [true, true, true, false, true]) [some (-1)] []
        clock := .ofList .notANumber []
        files := { entries := [] } }
    (∃ options summary final checks, settings.validate = .ok options ∧
      runOn (run environment options) session = (.ok summary, final) ∧
      IsChecked options summary.secret .timeBased (afterMode options session.respondent)
        session.clock checks ∧
      final.respondent.questions? =
        some ([modeQuestion] ++ List.replicate checks codeQuestion ++ [updateQuestion "s"] ++
          [Policy.Question.reuse, .window .timeBased, .rate].map Policy.Question.text) ∧
      (runOn (run environment options) { session with
        respondent := .scripted (.inOrder [true, true]) [some (-1)] [] }).2.respondent.questions? =
        final.respondent.questions?) ∧
    ∃ options, given.validate = .ok options ∧
      (runOn (run environment options) session).2.respondent = session.respondent := by
  intro environment settings given session
  let options : Options :=
    { mode := none, disallowReuse := none, stepSize := none, window := .ask, rate := .ask
      emergencyCodes := 0, confirm := true, force := false, quiet := false, label := none
      issuer := none, secretPath := some "s", qrMode := .hidden }
  let unattendedOptions : Options :=
    { mode := some .counterBased, disallowReuse := none, stepSize := none, window := .size 5
      rate := .unlimited, emergencyCodes := 0, confirm := true, force := true, quiet := false
      label := none, issuer := none, secretPath := some "s", qrMode := .hidden }
  let file : SecretFile :=
    { capacity := 209, secret := "AAAAAAAAAAAAAAAAAAAAAAAAAAAAAAAA"
      directives := ["\" RATE_LIMIT 3 30", "\" DISALLOW_REUSE"], entries := ["\" TOTP_AUTH"] }
  let summary : Summary :=
    { secret := "AAAAAAAAAAAAAAAAAAAAAAAAAAAAAAAA", mode := .timeBased, scratchCodes := []
      path := "s", file? := some file }
  have hvalid : settings.validate = .ok options := by decide +kernel
  have hgiven : given.validate = .ok unattendedOptions := by decide +kernel
  have hprepare : (runOn (prepare environment options) session).1.toOption = some summary := by
    decide +kernel
  obtain ⟨final, hrun, -⟩ :=
    exists_run_of_isName hprepare rfl rfl (by decide) (by decide +kernel) (by decide) rfl
  obtain ⟨hasks, halike, -⟩ := run_questions environment hvalid
  obtain ⟨checks, checked, -, -, hrespondent⟩ := hasks session final summary _ _ _ rfl hrun
  have hsame := halike session _ (.inOrder [true, true]) _ _ rfl (by decide)
  rw [hrun] at hsame
  have unattended : IsUnattended given unattendedOptions .counterBased :=
    { given := rfl, reuse := by decide, window := by decide, rate := by decide, force := rfl
      unchecked := by decide }
  obtain ⟨-, -, hunasked⟩ := run_questions environment hgiven
  exact ⟨⟨options, summary, final, checks, hvalid, hrun, checked,
    congrArg Respondent.questions? hrespondent, hsame⟩, unattendedOptions, hgiven,
    (hunasked .counterBased unattended session).1⟩

end Enrollment

end OneTimePassword
