/-
Module: OneTimePassword.Proofs.SecretFile.LateMode
Purpose: Settings meet the mode when they are checked or, where the mode is chosen later on, when the
  directives of the secret file are settled. Both find the same conflicts.
Main exports: Settings.withMode, Options.withMode, Settings.validate_withMode,
  SecretFile.compose_eq_conflict_iff
-/
import OneTimePassword.Proofs.SecretFile.Layout

namespace OneTimePassword

open Respondent (YesNo)
open SetupM (runOn)

/-- Settings with a mode among them. -/
def Settings.withMode (settings : Settings) (mode : Mode) : Settings :=
  { settings with mode := some mode.name }

/-- Options with a mode among them. -/
def Options.withMode (options : Options) (mode : Mode) : Options :=
  { options with mode := some mode }

namespace Settings

variable {settings : Settings} {options : Options}

/-- A time step that is in range is at odds with a counter only. -/
theorem checkStep_some {step : Option Nat} (h : settings.checkStep none = .ok step) (mode : Mode) :
    settings.checkStep (some mode) =
      if mode = .counterBased ∧ settings.stepSize.isSome then .error .stepInCounterBased
      else .ok step := by
  obtain ⟨hstep, hadmits⟩ := checkStep_eq_ok_iff.mp h
  have hcheck : Quantity.stepSize.check? settings.stepSize = .ok step :=
    Quantity.check?_eq_ok_iff.mpr ⟨hstep, fun seconds hseconds => (hadmits seconds hseconds).1⟩
  rw [checkStep, hcheck, hstep, Option.isSome_map]
  cases step with
  | none => cases mode <;> rfl
  | some seconds => cases mode <;> rfl

/-- A window that is in range can be too small for time-based codes only. -/
theorem checkWindow_some {window : WindowChoice} (h : settings.checkWindow none = .ok window)
    (mode : Mode) :
    settings.checkWindow (some mode) =
      if mode = .timeBased ∧ settings.windowSize.any (· < 3) then .error .windowTooSmall
      else .ok window := by
  obtain ⟨hsize, hminimal, hadmits⟩ := checkWindow_eq_ok_iff.mp h
  cases window with
  | size codes =>
      have hcheck : Quantity.windowSize.check? settings.windowSize = .ok (some codes) := by
        rw [Quantity.check?_eq_ok_iff]
        exact ⟨hsize, fun n hn => Option.some.inj hn ▸ (hadmits codes rfl).1⟩
      have hmost : ((codes : Int) < 3) ↔ codes < minTimeBasedWindow := Int.ofNat_lt
      have hminimal : settings.minimalWindow = false := by simpa using hminimal
      rw [checkWindow, hcheck, hsize]
      cases mode with
      | counterBased => simp [bind, Except.bind, hminimal, pure, Except.pure]
      | timeBased =>
          by_cases hsmall : codes < minTimeBasedWindow
          · simp [bind, Except.bind, hminimal, hmost, hsmall, throw, throwThe, MonadExceptOf.throw]
          · simp [bind, Except.bind, hminimal, hmost, hsmall, pure, Except.pure]
  | ask =>
      rw [if_neg (by simp [hsize]), checkWindow_eq_ok_iff]
      exact ⟨hsize, hminimal, by simp⟩
  | minimal =>
      rw [if_neg (by simp [hsize]), checkWindow_eq_ok_iff]
      exact ⟨hsize, hminimal, by simp⟩

/-- Settings that pass the check without a mode pass it with one too, unless they clash with it. -/
theorem validate_withMode (hmode : settings.mode = none) (hvalid : settings.validate = .ok options)
    (mode : Mode) :
    (settings.withMode mode).validate =
      match Policy.clash? mode settings with
      | some conflict => .error conflict
      | none => .ok (options.withMode mode) := by
  have hnamed : (settings.withMode mode).checkMode = .ok (some mode) :=
    checkMode_eq_ok_iff.mpr rfl
  simp only [validate, bind_eq_ok_iff, guard_eq_ok_iff, pure_eq_ok_iff] at hvalid
  obtain ⟨unset, hunset, hreuse, step, hstep, window, hwindow, rate, hrate, count, hcount, hpath,
    qrMode, hqrMode, rfl⟩ := hvalid
  obtain rfl : unset = none := by
    rw [checkMode, hmode] at hunset
    exact (Except.ok.inj hunset).symm
  have hopen : settings.disallowReuse = none := by simpa using hreuse
  -- the mode is looked at by two of the checks, and these read nothing else of the settings' mode
  have hstep' : (settings.withMode mode).checkStep (some mode) = _ := checkStep_some hstep mode
  have hwindow' : (settings.withMode mode).checkWindow (some mode) = _ :=
    checkWindow_some hwindow mode
  cases hclash : Policy.clash? mode settings with
  | none =>
      have hfits : ¬ (mode = .counterBased ∧ settings.stepSize.isSome) ∧
          ¬ (mode = .timeBased ∧ settings.windowSize.any (· < 3)) := by
        cases mode with
        | timeBased => simpa [Policy.clash?] using hclash
        | counterBased => simpa [Policy.clash?] using hclash
      rw [if_neg hfits.1] at hstep'
      rw [if_neg hfits.2] at hwindow'
      simp only [validate, bind_eq_ok_iff, guard_eq_ok_iff, pure_eq_ok_iff]
      exact ⟨some mode, hnamed, by simp [withMode, hopen], step, hstep', window, hwindow', rate,
        hrate, count, hcount, hpath, qrMode, hqrMode, rfl⟩
  | some conflict =>
      have hreuse' : (settings.withMode mode).disallowReuse = none := hopen
      cases mode with
      | timeBased =>
          obtain ⟨hsmall, rfl⟩ : settings.windowSize.any (· < 3) ∧
              Conflict.windowTooSmall = conflict := by
            simpa [Policy.clash?] using hclash
          rw [if_neg (by simp)] at hstep'
          rw [if_pos ⟨rfl, hsmall⟩] at hwindow'
          simp [validate, hnamed, hreuse', hstep', hwindow', bind, Except.bind]
      | counterBased =>
          obtain ⟨hgiven, rfl⟩ : settings.stepSize.isSome ∧
              Conflict.stepInCounterBased = conflict := by
            simpa [Policy.clash?] using hclash
          rw [if_pos ⟨rfl, hgiven⟩] at hstep'
          simp [validate, hnamed, hreuse', hstep', bind, Except.bind]

end Settings

/-- Where the mode comes after the check, the conflicts are found when a secret file is put together,
whatever the answers to the questions before are. -/
theorem SecretFile.compose_eq_conflict_iff {session : Session} {mode : Mode} {settings : Settings}
    {options : Options} {secret : String} {codes : List Int} {conflict : Conflict} {script : YesNo}
    {numbers : List (Option Int)} {asked : List String}
    (hvalid : settings.validate = .ok options) (hlength : secret.length = secretLength)
    (hne : ∀ mode : Mode, stripNewlines secret ≠ mode.line)
    (hcount : codes.length ≤ ScratchCode.maxCount)
    (hcodes : ∀ code ∈ codes, 10000000 ≤ code ∧ code ≤ 99999999)
    (hscript : session.respondent = .scripted script numbers asked) :
    (runOn (compose secret mode codes options) session).1 = .error (.conflict conflict) ↔
      Policy.clash? mode settings = some conflict := by
  obtain ⟨consistent, hsettings, -⟩ := Settings.validate_eq_ok_iff.mp hvalid
  have hsame : Policy.clash? mode settings = Policy.clash? mode options.toSettings := by
    rw [hsettings]
    rfl
  have hstripped : (stripNewlines secret).length ≤ secretLength :=
    hlength ▸ length_stripNewlines_le secret
  have hroom : (((bare (stripNewlines secret) mode codes).size + Policy.widest : Nat) : Int) ≤
      maxSize :=
    Int.ofNat_le.mpr (size_bare_add_widest_le_of_length_le mode hstripped hcount hcodes)
  rw [hsame, runOn_compose_of_ne options hne hlength hcount hcodes]
  cases hclash : Policy.clash? mode options.toSettings with
  | some found =>
      have hfails := Policy.runOn_add_of_clash consistent hclash hscript hroom
      rcases hrun : runOn ((Policy.add mode options).run (bare (stripNewlines secret) mode codes))
        session with ⟨e | done, s⟩
      · rw [hrun] at hfails
        obtain rfl := Except.error.inj hfails
        simp [eq_comm]
      · rw [hrun] at hfails
        cases hfails
  | none =>
      have gives := Policy.gives_nth (Policy.nodup_openQuestions mode options.toSettings) script
      obtain ⟨-, hruns⟩ := Policy.settles_add consistent hclash _ script _ gives
      obtain ⟨journal, hrun⟩ := hruns _ session numbers asked hscript hroom
      rw [hrun]
      simp

end OneTimePassword
