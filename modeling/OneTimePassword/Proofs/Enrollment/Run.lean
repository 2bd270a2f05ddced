/-
Module: OneTimePassword.Proofs.Enrollment.Run
Purpose: The stations that a run with a result has passed, and the ways in which a run ends.
Main exports: Enrollment.Prepared, Enrollment.prepare_eq_ok, Enrollment.replaceFile_eq_ok,
  Enrollment.deliver, Enrollment.Ended, Enrollment.ended_run, Enrollment.run_eq_ok
-/
import OneTimePassword.Enrollment.Run
import OneTimePassword.Proofs.Replacement.Outcome
import OneTimePassword.Proofs.Session.Steps

namespace OneTimePassword.Enrollment

open Replacement (Replaced Attempt)
open SetupM (runOn runOn_bind_eq_ok_iff)

variable {environment : Environment} {options : Options} {s t : Session} {summary : Summary}

/-- The stations of a preparation that came to its end. A quiet one shows nothing, and one that is
forced asks for no leave. -/
inductive Prepared (environment : Environment) (options : Options) (s : Session)
    (summary : Summary) (t : Session) : Prop where
  | stations {drawn settled presented filled listed placed answered : Session}
      (secret : runOn drawSecret s = (.ok summary.secret, drawn))
      (mode : runOn (settleMode options) drawn = (.ok summary.mode, settled))
      (presentation :
        if options.quiet then presented = settled
        else runOn (presentSecret environment options summary.secret summary.mode) settled =
          (.ok (), presented))
      (codes : runOn (ScratchCode.drawMany options.emergencyCodes) presented =
        (.ok summary.scratchCodes, filled))
      (listing :
        if options.quiet then listed = filled
        else runOn (summary.scratchCodes.forM fun code =>
          printLine ("  " ++ ScratchCode.display code)) filled = (.ok (), listed))
      (path : runOn (secretPath environment options) listed = (.ok summary.path, placed))
      (answer :
        if options.force then summary.file?.isSome ∧ answered = placed
        else runOn (askWhether ("Do you want me to update your \"" ++ summary.path ++ "\" file?"))
          placed = (.ok summary.file?.isSome, answered))
      (file :
        match summary.file? with
        | some file => runOn (SecretFile.compose summary.secret summary.mode
            (summary.scratchCodes.map Int.ofNat) options) answered = (.ok file, t)
        | none => t = { answered with
            journal := answered.journal ++
              [.debug ("Update of " ++ summary.path ++ " declined")] })

theorem Prepared.exists_compose {file : SecretFile}
    (prepared : Prepared environment options s summary t) (hfile : summary.file? = some file) :
    ∃ answered, runOn (SecretFile.compose summary.secret summary.mode
      (summary.scratchCodes.map Int.ofNat) options) answered = (.ok file, t) := by
  rcases prepared with ⟨-, -, -, -, -, -, -, hcompose⟩
  rw [hfile] at hcompose
  exact ⟨_, hcompose⟩

theorem prepare_eq_ok (h : runOn (prepare environment options) s = (.ok summary, t)) :
    Prepared environment options s summary t := by
  obtain ⟨secret, drawn, hsecret, h₁⟩ := runOn_bind_eq_ok_iff.mp h
  obtain ⟨mode, settled, hmode, h₂⟩ := runOn_bind_eq_ok_iff.mp h₁
  obtain ⟨presented, hpresented, h₃⟩ := SetupM.runOn_unless_eq_ok_iff.mp h₂
  obtain ⟨codes, filled, hcodes, h₄⟩ := runOn_bind_eq_ok_iff.mp h₃
  obtain ⟨listed, hlisted, h₅⟩ := SetupM.runOn_unless_eq_ok_iff.mp h₄
  obtain ⟨path, placed, hpath, h₆⟩ := runOn_bind_eq_ok_iff.mp h₅
  obtain ⟨accepted, answered, hanswered, h₇⟩ := SetupM.runOn_leave_eq_ok_iff.mp h₆
  cases accepted with
  | true =>
      obtain ⟨file, final, hfile, hend⟩ := runOn_bind_eq_ok_iff.mp h₇
      cases hend
      exact .stations hsecret hmode hpresented hcodes hlisted hpath (by simpa using hanswered) hfile
  | false =>
      cases h₇
      exact .stations hsecret hmode hpresented hcodes hlisted hpath (by simpa using hanswered) rfl

theorem runOn_replaceFile (faults : Faults) (path : String) (file : SecretFile) (s : Session) :
    let attempt : Attempt := { job := { target := path, content := file.text }, faults }
    runOn (replaceFile faults path file) s =
      runOn (conclude path ((attempt.finish s.files).1.report?.getD (.ok ())))
        { s with
          files := (attempt.finish s.files).2
          journal := s.journal ++ Replacement.journalOf (attempt.steps s.files) } := rfl

/-- A replacement that a run reports as done is done. -/
theorem replaceFile_eq_ok {faults : Faults} {path : String} {file : SecretFile}
    (h : runOn (replaceFile faults path file) s = (.ok (), t)) :
    t.random = s.random ∧ t.printed = s.printed ∧
      ∃ place temp, Replaced { target := path, content := file.text } s.files t.files place temp := by
  obtain ⟨outcome, opened, hreport, -⟩ :=
    Attempt.finish_situation { target := path, content := file.text } s.files faults
  rw [runOn_replaceFile, hreport, Option.getD_some] at h
  cases outcome with
  | error cause => cases h
  | ok done =>
      rw [conclude, SetupM.runOn_note] at h
      obtain ⟨-, rfl⟩ := Prod.mk.inj h
      exact ⟨rfl, rfl, Attempt.replaced_of_report hreport⟩

/-- What a run does with what it has prepared. -/
def deliver (environment : Environment) (summary : Summary) : SetupM Summary :=
  match summary.file? with
  | none => pure summary
  | some file => do
      replaceFile environment.faults summary.path file
      pure summary

theorem run_eq_deliver (environment : Environment) (options : Options) :
    run environment options = prepare environment options >>= deliver environment := rfl

/-- The ways in which a run ends: with its preparation, after the user's no, or with the replacement
of the secret file. -/
inductive Ended (environment : Environment) (options : Options) (s : Session) :
    Except Failure Summary → Session → Prop where
  | unprepared {failure : Failure} {t : Session}
      (hprepare : runOn (prepare environment options) s = (.error failure, t)) :
      Ended environment options s (.error failure) t
  | declined {summary : Summary} {t : Session}
      (hprepare : runOn (prepare environment options) s = (.ok summary, t))
      (hfile : summary.file? = none) : Ended environment options s (.ok summary) t
  | unwritten {summary : Summary} {file : SecretFile} {failure : Failure} {middle t : Session}
      (hprepare : runOn (prepare environment options) s = (.ok summary, middle))
      (hfile : summary.file? = some file)
      (hreplace : runOn (replaceFile environment.faults summary.path file) middle =
        (.error failure, t)) : Ended environment options s (.error failure) t
  | written {summary : Summary} {file : SecretFile} {middle t : Session}
      (hprepare : runOn (prepare environment options) s = (.ok summary, middle))
      (hfile : summary.file? = some file)
      (hreplace : runOn (replaceFile environment.faults summary.path file) middle = (.ok (), t)) :
      Ended environment options s (.ok summary) t

/-- Every run ends in one of these ways. -/
theorem ended_run (environment : Environment) (options : Options) (s : Session) :
    Ended environment options s (runOn (run environment options) s).1
      (runOn (run environment options) s).2 := by
  rw [run, SetupM.runOn_bind]
  rcases hprepare : runOn (prepare environment options) s with ⟨failure | summary, middle⟩
  · exact .unprepared hprepare
  · cases hfile : summary.file? with
    | none =>
        simp only [hfile]
        exact .declined hprepare hfile
    | some file =>
        simp only [hfile, SetupM.runOn_bind]
        rcases hreplace : runOn (replaceFile environment.faults summary.path file) middle with
          ⟨failure | ⟨⟩, t⟩
        · exact .unwritten hprepare hfile hreplace
        · exact .written hprepare hfile hreplace

theorem Ended.of_run {outcome : Except Failure Summary}
    (h : runOn (run environment options) s = (outcome, t)) :
    Ended environment options s outcome t := by
  have hended := ended_run environment options s
  rwa [h] at hended

/-- A run that returns a file has replaced the old one by it. -/
theorem Ended.of_file {file : SecretFile} (ended : Ended environment options s (.ok summary) t)
    (hfile : summary.file? = some file) :
    ∃ middle, runOn (prepare environment options) s = (.ok summary, middle) ∧
      runOn (replaceFile environment.faults summary.path file) middle = (.ok (), t) := by
  cases ended with
  | declined hprepare hnone => cases hnone.symm.trans hfile
  | @written _ written middle _ hprepare hwritten hreplace =>
      obtain rfl : written = file := Option.some.inj (hwritten.symm.trans hfile)
      exact ⟨middle, hprepare, hreplace⟩

/-- A run with a result has prepared it, and has written the secret file if there was leave to. -/
theorem run_eq_ok (h : runOn (run environment options) s = (.ok summary, t)) :
    ∃ middle, Prepared environment options s summary middle ∧
      match summary.file? with
      | some file => runOn (replaceFile environment.faults summary.path file) middle = (.ok (), t)
      | none => t = middle := by
  cases Ended.of_run h with
  | declined hprepare hfile =>
      refine ⟨t, prepare_eq_ok hprepare, ?_⟩
      rw [hfile]
  | @written _ file middle _ hprepare hfile hreplace =>
      refine ⟨middle, prepare_eq_ok hprepare, ?_⟩
      rw [hfile]
      exact hreplace

end OneTimePassword.Enrollment
