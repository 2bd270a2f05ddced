/-
Module: OneTimePassword.Proofs.Enrollment.Files
Purpose: A run touches the files only once all is settled: whatever ends it before that, or the
  user's no, leaves them as they were.
Main exports: Failure.IsOfWriting, Enrollment.draft, Enrollment.prepare_eq, Enrollment.IsAnswered,
  Enrollment.keepsSameFiles_prepare, Enrollment.exists_run_of_isName, Enrollment.Ended.files_eq,
  Enrollment.run_files
-/
import Mathlib.Control.Monad.Basic
import OneTimePassword.Proofs.Enrollment.Presentation
import OneTimePassword.Proofs.Enrollment.Run
import OneTimePassword.Proofs.Replacement.Cause
import OneTimePassword.Proofs.ScratchCode.Draw
import OneTimePassword.Proofs.SecretFile.Content

namespace OneTimePassword

open Session (SameFiles)
open SetupM (runOn runOn_bind_eq_ok_iff Keeps)

/-- The new content of the secret file did not get to its place, although there was a temporary file
for it already. -/
def Failure.IsOfWriting : Failure → Prop
  | .replacement cause => cause.IsOfWriting
  | .random _ | .uri _ | .conflict _ | .blank _ | .clock _ | .code _ | .unanswered _ | .encoding _
  | .drawing _ | .noHome | .refusal _ => False

namespace Enrollment

variable {environment : Environment} {options : Options} {s : Session}

/-! ### Up to the question and from there on -/

/-- The question whether the file at a path may be updated. -/
def updateQuestion (path : String) : String :=
  "Do you want me to update your \"" ++ path ++ "\" file?"

theorem updateQuestion_ne_codeQuestion (path : String) :
    updateQuestion path ≠ Respondent.codeQuestion := by
  have hfirst : (updateQuestion path).toList.head? = some 'D' := by
    change ("Do you want me to update your \"" ++ path ++ "\" file?").toList.head? = some 'D'
    rw [String.toList_append, String.toList_append]
    rfl
  apply mt (congrArg fun question : String => question.toList.head?)
  simp only [hfirst]
  decide +kernel

/-- What a run does with a secret and a mode, up to that question. -/
def draftFor (environment : Environment) (options : Options) (secret : String) (mode : Mode) :
    SetupM Summary := do
  if !options.quiet then presentSecret environment options secret mode
  let scratchCodes ← ScratchCode.drawMany options.emergencyCodes
  if !options.quiet then
    scratchCodes.forM fun code => printLine ("  " ++ ScratchCode.display code)
  let path ← secretPath environment options
  pure { secret, mode, scratchCodes, path, file? := none }

/-- A run up to that question. -/
def draft (environment : Environment) (options : Options) : SetupM Summary := do
  let secret ← drawSecret
  let mode ← settleMode options
  draftFor environment options secret mode

/-- A secret file is put together if there is leave to replace the old one. -/
def complete (options : Options) (drafted : Summary) (accepted : Bool) : SetupM Summary := do
  if accepted then
    let file ← SecretFile.compose drafted.secret drafted.mode
      (drafted.scratchCodes.map Int.ofNat) options
    pure { drafted with file? := some file }
  else
    note (.debug ("Update of " ++ drafted.path ++ " declined"))
    pure { drafted with file? := none }

/-- A preparation is a draft that is completed by the answer to the question. -/
theorem prepare_eq (environment : Environment) (options : Options) :
    prepare environment options = (do
      let drafted ← draft environment options
      let accepted ←
        if options.force then pure true else askWhether (updateQuestion drafted.path)
      complete options drafted accepted) := by
  unfold prepare draft draftFor
  cases options.quiet with
  | true =>
      simp only [Bool.not_true, Bool.false_eq_true, if_false, bind_assoc, pure_bind]
      cases options.force with
      | true => rfl
      | false => rfl
  | false =>
      simp only [Bool.not_false, if_true, bind_assoc, pure_bind]
      cases options.force with
      | true => rfl
      | false => rfl

/-- The question comes up in a run, and is answered. -/
def IsAnswered (environment : Environment) (options : Options) (s : Session) (answer : Bool) :
    Prop :=
  options.force = false ∧ ∃ drafted placed answered,
    runOn (draft environment options) s = (.ok drafted, placed) ∧
      runOn (askWhether (updateQuestion drafted.path)) placed = (.ok answer, answered)

end Enrollment

/-! ### Before the file is replaced -/

namespace SetupM

variable {Φ : ∀ {α : Type}, SetupM α → Prop}

/-- To deliver is to replace a file if there is one. -/
theorem Compositional.deliver (hΦ : Compositional Φ) {environment : Environment}
    {summary : Enrollment.Summary}
    (hreplace : ∀ file, Φ (Enrollment.replaceFile environment.faults summary.path file)) :
    Φ (Enrollment.deliver environment summary) := by
  unfold Enrollment.deliver
  cases summary.file? with
  | none => exact hΦ.pure summary
  | some file => exact hΦ.bind (hreplace file) fun _ => hΦ.pure summary

theorem Drawing.drawSecret (hΦ : Drawing Φ) : Φ Enrollment.drawSecret :=
  hΦ.bind (hΦ.readRandom _) fun _ => hΦ.bind (hΦ.note _) fun _ => hΦ.pure _

theorem Inquiring.complete (hΦ : Inquiring Φ) (options : Options) (drafted : Enrollment.Summary)
    (accepted : Bool) : Φ (Enrollment.complete options drafted accepted) := by
  cases accepted with
  | true => exact hΦ.bind (hΦ.compose _ _ _ _) fun _ => hΦ.pure _
  | false => exact hΦ.bind (hΦ.note _) fun _ => hΦ.pure _

/-- A draft for a secret and a mode shows the secret, takes random bytes for the codes and shows these.
It asks no more than the presentation does. -/
theorem Showing.draftFor (hΦ : Showing Φ) (hdrawing : Drawing Φ) (environment : Environment)
    (options : Options) (secret : String) (mode : Mode)
    (hpresent : options.quiet = false →
      Φ (Enrollment.presentSecret environment options secret mode)) :
    Φ (Enrollment.draftFor environment options secret mode) := by
  have hlisting (codes : List Nat) :
      Φ (codes.forM fun code => OneTimePassword.printLine ("  " ++ ScratchCode.display code)) :=
    hΦ.forM fun _ => hΦ.printLine _
  have hend (codes : List Nat) : Φ (do
      let path ← Enrollment.secretPath environment options
      pure ({ secret, mode, scratchCodes := codes, path, file? := none } : Enrollment.Summary)) :=
    hΦ.bind (hΦ.secretPath environment options) fun _ => hΦ.pure _
  unfold Enrollment.draftFor
  cases hquiet : options.quiet with
  | true => exact hΦ.bind (hdrawing.drawMany _) hend
  | false =>
      exact hΦ.bind (hpresent hquiet) fun _ => hΦ.bind (hdrawing.drawMany _) fun codes =>
        hΦ.bind (hlisting codes) fun _ => hend codes

namespace Preparing

variable (hΦ : Preparing Φ) (hconfirm : ∀ secret step, Φ (Enrollment.confirmApp secret step))

include hΦ hconfirm

theorem draftFor (environment : Environment) (options : Options) (secret : String) (mode : Mode) :
    Φ (Enrollment.draftFor environment options secret mode) :=
  hΦ.toShowing.draftFor hΦ.toDrawing environment options secret mode
    fun _ => hΦ.presentSecret hconfirm environment options secret mode

theorem draft (environment : Environment) (options : Options) :
    Φ (Enrollment.draft environment options) :=
  hΦ.bind hΦ.drawSecret fun _ => hΦ.bind (hΦ.settleMode options) fun _ =>
    hΦ.draftFor hconfirm _ _ _ _

/-- To prepare a run is to show things, to ask questions and to take random bytes. -/
theorem prepare (environment : Environment) (options : Options) :
    Φ (Enrollment.prepare environment options) := by
  rw [Enrollment.prepare_eq]
  exact hΦ.bind (hΦ.draft hconfirm environment options) fun _ =>
    hΦ.leave (hΦ.askWhether (Enrollment.updateQuestion_ne_codeQuestion _)) fun _ =>
      hΦ.complete _ _ _

end Preparing

/-- To prepare a run is to talk to people and to take random bytes. -/
theorem Preparatory.prepare (hΦ : Preparatory Φ) (environment : Environment) (options : Options) :
    Φ (Enrollment.prepare environment options) :=
  hΦ.toPreparing.prepare hΦ.confirmApp environment options

end SetupM

namespace Enrollment

variable {environment : Environment} {options : Options} {s t placed : Session}
  {drafted summary : Summary} {accepted answer : Bool}

/-- A preparation leaves the files alone, whatever comes of it. -/
theorem keepsSameFiles_prepare (environment : Environment) (options : Options) :
    Keeps SameFiles (prepare environment options) :=
  SetupM.preparatory_sameFiles.prepare environment options

/-- A run returns what it has prepared where nothing is in the way of its file: the path is a name
below the root, no directory is there and no temporary file, and no call on files fails. Nobody is
asked for that. -/
theorem exists_run_of_isName {file : SecretFile}
    (hprepare : (runOn (prepare environment options) s).1.toOption = some summary)
    (hfile : summary.file? = some file) (hfaults : environment.faults = {})
    (hpath : Replacement.Attempt.IsWellFormed summary.path)
    (hnames : FileSystem.IsName summary.path ∧
      FileSystem.IsName (Replacement.tempPath summary.path))
    (hkind : s.files.lookup [summary.path] ≠ some .directory)
    (hfree : s.files.lookup [Replacement.tempPath summary.path] = none) :
    ∃ final, runOn (run environment options) s = (.ok summary, final) ∧
      final.respondent = (runOn (prepare environment options) s).2.respondent := by
  rcases hrun : runOn (prepare environment options) s with ⟨failure | prepared, middle⟩
  · rw [hrun] at hprepare
    cases hprepare
  · rw [hrun] at hprepare
    obtain rfl : prepared = summary := Option.some.inj hprepare
    have hfiles : middle.files = s.files :=
      (keepsSameFiles_prepare environment options).of_run hrun
    have free : ({ target := prepared.path, content := file.text } : Replacement).IsFree s.files
        [Replacement.tempPath prepared.path] :=
      Replacement.isFree_of_isName (Replacement.Attempt.isWellFormed_tempPath.mpr hpath) hnames.2
        hfree
    have hfinish :=
      Replacement.Attempt.finish_of_free free (s.files.locate_of_isName hnames.1) rfl hkind
    rw [run, SetupM.runOn_bind_of_ok hrun]
    simp only [hfile, SetupM.runOn_bind, runOn_replaceFile, hfiles, hfaults, hfinish]
    exact ⟨_, rfl, rfl⟩

/-! ### The answer to the question -/

theorem complete_eq_ok (h : runOn (complete options drafted accepted) s = (.ok summary, t)) :
    summary.file?.isSome = accepted := by
  cases accepted with
  | true =>
      obtain ⟨file, middle, -, hend⟩ := runOn_bind_eq_ok_iff.mp h
      cases hend
      rfl
  | false =>
      cases h
      rfl

/-- There is a file to be written if it was forced or agreed to. -/
theorem prepare_eq_ok_isSome (h : runOn (prepare environment options) s = (.ok summary, t)) :
    summary.file?.isSome = true ↔
      options.force = true ∨ IsAnswered environment options s true := by
  rw [prepare_eq] at h
  obtain ⟨drafted, placed, hdraft, h₁⟩ := runOn_bind_eq_ok_iff.mp h
  obtain ⟨accepted, answered, hanswer, hcomplete⟩ := SetupM.runOn_leave_eq_ok_iff.mp h₁
  rw [complete_eq_ok hcomplete]
  cases hforce : options.force with
  | true =>
      rw [hforce] at hanswer
      simp [hanswer.1]
  | false =>
      rw [hforce] at hanswer
      constructor
      · intro haccepted
        subst haccepted
        exact .inr ⟨hforce, drafted, placed, answered, hdraft, hanswer⟩
      · intro h
        obtain ⟨-, drafted', placed', answered', hdraft', hanswer'⟩ := h.resolve_left (by simp)
        cases hdraft.symm.trans hdraft'
        cases hanswer.symm.trans hanswer'
        rfl

/-- After a no there is nothing to be written. -/
theorem exists_prepare_of_declined (h : IsAnswered environment options s false) :
    ∃ summary t, runOn (prepare environment options) s = (.ok summary, t) ∧
      summary.file? = none := by
  obtain ⟨hforce, drafted, placed, answered, hdraft, hanswer⟩ := h
  rw [prepare_eq, SetupM.runOn_bind_of_ok hdraft, hforce]
  simp only [Bool.false_eq_true, if_false]
  rw [SetupM.runOn_bind_of_ok hanswer]
  exact ⟨_, _, rfl, rfl⟩

/-! ### The whole run -/

/-- A replacement that fails for another cause than the writing leaves the files alone. -/
theorem replaceFile_eq_error {faults : Faults} {path : String} {file : SecretFile}
    {failure : Failure} (h : runOn (replaceFile faults path file) s = (.error failure, t))
    (hfailure : ¬ failure.IsOfWriting) : t.files = s.files := by
  obtain ⟨outcome, opened, hreport, -⟩ :=
    Replacement.Attempt.finish_situation { target := path, content := file.text } s.files faults
  rw [runOn_replaceFile, hreport, Option.getD_some] at h
  cases outcome with
  | ok done => cases h
  | error cause =>
      cases h
      exact Replacement.Attempt.files_eq_of_report hreport hfailure

namespace Ended

variable {outcome : Except Failure Summary} {failure : Failure}

/-- What a run returns is what was prepared. -/
theorem exists_prepare (ended : Ended environment options s (.ok summary) t) :
    ∃ middle, runOn (prepare environment options) s = (.ok summary, middle) := by
  cases ended with
  | declined hprepare hfile => exact ⟨t, hprepare⟩
  | written hprepare hfile hreplace => exact ⟨_, hprepare⟩

/-- Files change only where there is a file to be written. -/
theorem exists_file (ended : Ended environment options s outcome t) (h : t.files ≠ s.files) :
    ∃ summary middle, runOn (prepare environment options) s = (.ok summary, middle) ∧
      summary.file?.isSome = true := by
  have hkeeps := keepsSameFiles_prepare environment options
  cases ended with
  | unprepared hprepare => exact absurd (hkeeps.of_run hprepare) h
  | declined hprepare hfile => exact absurd (hkeeps.of_run hprepare) h
  | unwritten hprepare hfile hreplace => exact ⟨_, _, hprepare, by rw [hfile]; rfl⟩
  | written hprepare hfile hreplace => exact ⟨_, _, hprepare, by rw [hfile]; rfl⟩

/-- A failure that is not one of the writing leaves the files alone. -/
theorem files_eq (ended : Ended environment options s (.error failure) t)
    (hfailure : ¬ failure.IsOfWriting) : t.files = s.files := by
  have hkeeps := keepsSameFiles_prepare environment options
  cases ended with
  | unprepared hprepare => exact hkeeps.of_run hprepare
  | @unwritten _ _ _ middle _ hprepare hfile hreplace =>
      calc t.files = middle.files := replaceFile_eq_error hreplace hfailure
        _ = s.files := hkeeps.of_run hprepare

/-- After a no there is a result without a file, and the files are as they were. -/
theorem of_declined (ended : Ended environment options s outcome t)
    (h : IsAnswered environment options s false) :
    t.files = s.files ∧ ∃ summary, outcome = .ok summary ∧ summary.file? = none := by
  obtain ⟨declined, placed, hprepared, hnone⟩ := exists_prepare_of_declined h
  have hkeeps := keepsSameFiles_prepare environment options
  cases ended with
  | unprepared hprepare => cases hprepared.symm.trans hprepare
  | @declined summary _ hprepare hfile => exact ⟨hkeeps.of_run hprepare, summary, rfl, hfile⟩
  | unwritten hprepare hfile hreplace | written hprepare hfile hreplace =>
      cases hprepared.symm.trans hprepare
      cases hnone.symm.trans hfile

end Ended

/-- A run touches the files only after everything else has succeeded: it must have prepared a file.
If it ends because of the random bytes, the enrollment URI, conflicting settings, a question without
an answer, a missing home directory, the clock or the counter, or because something is in the place
of the temporary file, the files are as they were; only a failure of the writing itself may have
changed them. They also are as they were if the user's answer is no. A run comes back with a written
file if and only if it was forced or the answer was yes, and nothing has ended it. -/
theorem run_files (environment : Environment) (options : Options) (s : Session) :
    let outcome := (runOn (run environment options) s).1
    let files := (runOn (run environment options) s).2.files
    (files ≠ s.files → ∃ summary t, runOn (prepare environment options) s = (.ok summary, t) ∧
      summary.file?.isSome = true) ∧
    (∀ failure, outcome = .error failure → ¬ failure.IsOfWriting → files = s.files) ∧
    (IsAnswered environment options s false →
      files = s.files ∧ ∃ summary, outcome = .ok summary ∧ summary.file? = none) ∧
    ((∃ summary, outcome = .ok summary ∧ summary.file?.isSome = true) ↔
      (options.force = true ∨ IsAnswered environment options s true) ∧
        ∃ summary, outcome = .ok summary) := by
  intro outcome files
  have ended : Ended environment options s outcome _ := ended_run environment options s
  have hsome {summary : Summary} (houtcome : outcome = .ok summary) :
      summary.file?.isSome = true ↔
        options.force = true ∨ IsAnswered environment options s true := by
    rw [houtcome] at ended
    obtain ⟨middle, hprepare⟩ := ended.exists_prepare
    exact prepare_eq_ok_isSome hprepare
  refine ⟨ended.exists_file, ?_, ended.of_declined, ?_⟩
  · intro failure houtcome hfailure
    rw [houtcome] at ended
    exact ended.files_eq hfailure
  · constructor
    · intro h
      obtain ⟨summary, houtcome, hfile⟩ := h
      exact ⟨(hsome houtcome).mp hfile, summary, houtcome⟩
    · intro h
      obtain ⟨hleave, summary, houtcome⟩ := h
      exact ⟨summary, houtcome, (hsome houtcome).mpr hleave⟩

/-- The user agreed to the update, but the mode chosen before that does not go with the window. -/
theorem run_files_of_late_conflict :
    let environment : Environment :=
      { home? := some "/", host := { hostname? := none, account? := none, uid := 0 }
        isTerminal := false, renderer := .absent, faults := { unlink := some .inputOutput } }
    let options : Options :=
      { mode := none, disallowReuse := none, stepSize := none, window := .size 1
        rate := .unlimited, emergencyCodes := 1, confirm := true, force := false, quiet := true
        label := none, issuer := none, secretPath := none, qrMode := .hidden }
    let session : Session :=
      { random := { name := "", device := .stream (List.replicate 20 0 ++ [1, 49, 45, 0]) true }
        respondent := .console ["yes", "y", "n"] .aborted
        clock := .ofList .notANumber []
        files := { entries := [([".google_authenticator"], .file 0o600 [65, 10])] } }
    IsAnswered environment options session true ∧
      (runOn (run environment options) session).1 = .error (.conflict .windowTooSmall) ∧
      ¬ (Failure.conflict .windowTooSmall).IsOfWriting ∧
      (runOn (run environment options) session).2.files = session.files := by
  intro environment options session
  have hconflict :
      (runOn (run environment options) session).1 = .error (.conflict .windowTooSmall) := by
    decide +kernel
  have hearly : ¬ (Failure.conflict .windowTooSmall).IsOfWriting := fun h => h
  let drafted : Summary :=
    { secret := "AAAAAAAAAAAAAAAAAAAAAAAAAAAAAAAA", mode := .timeBased, scratchCodes := [20000000]
      path := "/.google_authenticator", file? := none }
  have hdraft : (runOn (draft environment options) session).1 = .ok drafted := by
    decide +kernel
  have hyes : (runOn (askWhether (updateQuestion drafted.path))
      (runOn (draft environment options) session).2).1 = .ok true := by
    decide +kernel
  have hanswered : IsAnswered environment options session true :=
    ⟨rfl, drafted, _, _, Prod.ext hdraft rfl, Prod.ext hyes rfl⟩
  obtain ⟨-, herror, -, -⟩ := run_files environment options session
  exact ⟨hanswered, hconflict, hearly, herror _ hconflict hearly⟩

end Enrollment

end OneTimePassword
