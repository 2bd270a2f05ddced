/-
Module: OneTimePassword.Proofs.Settings.Consistency
Purpose: The rules for settings as they are given, told without the check, and that the check
  accepts just the settings that keep them.
Main exports: Settings.IsConsistent, Settings.validate_toSettings,
  Settings.validate_iff_consistent
-/
import OneTimePassword.Proofs.Settings.Validation

namespace OneTimePassword

/-! ### Names of QR modes -/

namespace QrCode.Mode

theorem mem_all (mode : Mode) : mode ∈ all := by
  rcases mode with _ | ⟨glyphs, tint⟩
  · simp [all]
  · cases glyphs <;> cases tint <;> simp [all]

/-- A name is that of a mode just if its normal form is the mode's own name. -/
theorem ofName?_eq_some_iff {name : String} {mode : Mode} :
    ofName? name = some mode ↔ mode.name = String.ofList (normalName name) := by
  rw [← String.toList_inj, String.toList_ofList]
  constructor
  · intro h
    have hfound := List.find?_some h
    exact beq_iff_eq.mp hfound
  · intro h
    rw [ofName?, ← h]
    rcases mode with _ | ⟨glyphs, tint⟩
    · rfl
    · cases glyphs <;> cases tint <;> rfl

/-- The names of the modes are in their normal form. -/
theorem ofName?_name (mode : Mode) : ofName? mode.name = some mode := by
  rcases mode with _ | ⟨glyphs, tint⟩
  · rfl
  · cases glyphs <;> cases tint <;> rfl

/-- The modes by their names, in the order in which they are listed to people. -/
theorem map_name_all :
    all.map name =
      ["NONE", "ANSI", "ANSI_INVERSE", "ANSI_GREY", "UTF8", "UTF8_INVERSE", "UTF8_GREY"] := rfl

theorem normalName_mem {name : String} {mode : Mode} (h : ofName? name = some mode) :
    String.ofList (normalName name) ∈
      ["NONE", "ANSI", "ANSI_INVERSE", "ANSI_GREY", "UTF8", "UTF8_INVERSE", "UTF8_GREY"] := by
  rw [← ofName?_eq_some_iff.mp h, ← map_name_all]
  exact List.mem_map_of_mem (mem_all mode)

end QrCode.Mode

/-! ### The rules -/

/-- What settings have to be. Nothing is said about the settings that do not occur: they go with
all others. -/
structure Settings.IsConsistent (settings : Settings) : Prop where
  mode : ∀ name, settings.mode = some name → name = "totp" ∨ name = "hotp"
  /-- Reuse is a matter of time-based codes. -/
  reuse : settings.disallowReuse ≠ none → settings.mode = some "totp"
  step : ∀ seconds, settings.stepSize = some seconds →
    1 ≤ seconds ∧ seconds ≤ 60 ∧ settings.mode ≠ some "hotp"
  window : ∀ codes, settings.windowSize = some codes →
    1 ≤ codes ∧ codes ≤ 21 ∧ settings.minimalWindow = false ∧
      (settings.mode = some "totp" → 3 ≤ codes)
  /-- The two numbers of a limit come together, and not with the wish for none. -/
  rate : (settings.rateLimit = none ∧ settings.rateTime = none) ∨
    ∃ attempts seconds, settings.rateLimit = some attempts ∧ settings.rateTime = some seconds ∧
      1 ≤ attempts ∧ attempts ≤ 10 ∧ 15 ≤ seconds ∧ seconds ≤ 600 ∧ settings.noRateLimit = false
  emergencyCodes : 0 ≤ settings.emergencyCodes ∧ settings.emergencyCodes ≤ 10
  secretPath : settings.secretPath ≠ some ""
  qrMode : String.ofList (QrCode.Mode.normalName settings.qrMode) ∈
    ["NONE", "ANSI", "ANSI_INVERSE", "ANSI_GREY", "UTF8", "UTF8_INVERSE", "UTF8_GREY"]

namespace Settings

variable {settings : Settings} {options : Options}

/-! ### Accepted settings keep the rules -/

theorem mode_toSettings_eq_some_iff {mode : Mode} :
    options.toSettings.mode = some mode.name ↔ options.mode = some mode := by
  have hname (other : Mode) : other.name = mode.name ↔ other = mode := by
    cases other <;> cases mode <;> decide
  change options.mode.map Mode.name = some mode.name ↔ _
  rw [Option.map_eq_some_iff]
  constructor
  · rintro ⟨other, hother, h⟩
    rw [hother, (hname other).mp h]
  · intro h
    exact ⟨mode, h, rfl⟩

/-- The settings behind options that the check made sure of keep the rules. -/
theorem isConsistent_toSettings (consistent : options.IsConsistent) :
    options.toSettings.IsConsistent := by
  constructor
  case mode =>
    intro name hname
    obtain ⟨mode, -, rfl⟩ := Option.map_eq_some_iff.mp hname
    cases mode with
    | timeBased => exact .inl rfl
    | counterBased => exact .inr rfl
  case reuse =>
    intro hreuse
    have hmode := consistent.reuse (Option.isSome_iff_ne_none.mpr hreuse)
    exact mode_toSettings_eq_some_iff.mpr hmode
  case step =>
    intro seconds hseconds
    obtain ⟨n, hn, rfl⟩ := Option.map_eq_some_iff.mp hseconds
    obtain ⟨⟨hleast, hgreatest⟩, hmode⟩ := consistent.step n hn
    refine ⟨Int.ofNat_le.mpr hleast, Int.ofNat_le.mpr hgreatest, fun h => hmode ?_⟩
    exact mode_toSettings_eq_some_iff.mp h
  case window =>
    intro codes hcodes
    cases hwindow : options.window with
    | ask => simp [Options.toSettings, hwindow] at hcodes
    | minimal => simp [Options.toSettings, hwindow] at hcodes
    | size n =>
        obtain rfl : (n : Int) = codes := by simpa [Options.toSettings, hwindow] using hcodes
        obtain ⟨⟨hleast, hgreatest⟩, htimeBased⟩ := consistent.window n hwindow
        refine ⟨Int.ofNat_le.mpr hleast, Int.ofNat_le.mpr hgreatest, ?_, fun h => ?_⟩
        · simp [Options.toSettings, hwindow]
        · exact Int.ofNat_le.mpr (htimeBased (mode_toSettings_eq_some_iff.mp h))
  case rate =>
    cases hrate : options.rate with
    | ask => exact .inl (by simp [Options.toSettings, hrate])
    | unlimited => exact .inl (by simp [Options.toSettings, hrate])
    | limit attempts seconds =>
        obtain ⟨⟨hattempts, hattempts'⟩, hseconds, hseconds'⟩ := consistent.rate _ _ hrate
        refine .inr ⟨attempts, seconds, ?_, ?_, Int.ofNat_le.mpr hattempts,
          Int.ofNat_le.mpr hattempts', Int.ofNat_le.mpr hseconds, Int.ofNat_le.mpr hseconds', ?_⟩
        · simp [Options.toSettings, hrate]
        · simp [Options.toSettings, hrate]
        · simp [Options.toSettings, hrate]
  case emergencyCodes =>
    exact ⟨Int.natCast_nonneg _, Int.ofNat_le.mpr consistent.emergencyCodes.2⟩
  case secretPath => exact consistent.secretPath
  case qrMode =>
    exact QrCode.Mode.normalName_mem (QrCode.Mode.ofName?_name options.qrMode)

/-- Options whose settings keep the rules are as the check would have them. -/
theorem isConsistent_of_toSettings (consistent : options.toSettings.IsConsistent) :
    options.IsConsistent := by
  constructor
  case reuse =>
    intro hreuse
    exact mode_toSettings_eq_some_iff.mp (consistent.reuse (Option.isSome_iff_ne_none.mp hreuse))
  case step =>
    intro seconds hseconds
    obtain ⟨hleast, hgreatest, hmode⟩ :=
      consistent.step seconds (Option.map_eq_some_iff.mpr ⟨seconds, hseconds, rfl⟩)
    refine ⟨⟨Int.ofNat_le.mp hleast, Int.ofNat_le.mp hgreatest⟩, fun h => hmode ?_⟩
    exact mode_toSettings_eq_some_iff.mpr h
  case window =>
    intro codes hcodes
    obtain ⟨hleast, hgreatest, -, htimeBased⟩ :=
      consistent.window codes (by simp [Options.toSettings, hcodes])
    refine ⟨⟨Int.ofNat_le.mp hleast, Int.ofNat_le.mp hgreatest⟩, fun h => ?_⟩
    exact Int.ofNat_le.mp (htimeBased (mode_toSettings_eq_some_iff.mpr h))
  case rate =>
    intro attempts seconds hrate
    obtain ⟨hnone, -⟩ | ⟨n, m, hn, hm, hattempts, hattempts', hseconds, hseconds', -⟩ :=
      consistent.rate
    · simp [Options.toSettings, hrate] at hnone
    · obtain rfl : (attempts : Int) = n := by simpa [Options.toSettings, hrate] using hn
      obtain rfl : (seconds : Int) = m := by simpa [Options.toSettings, hrate] using hm
      exact ⟨⟨Int.ofNat_le.mp hattempts, Int.ofNat_le.mp hattempts'⟩,
        Int.ofNat_le.mp hseconds, Int.ofNat_le.mp hseconds'⟩
  case emergencyCodes =>
    exact ⟨Nat.zero_le _, Int.ofNat_le.mp consistent.emergencyCodes.2⟩
  case secretPath => exact consistent.secretPath

/-- As far as the QR mode is concerned, any name of one does. -/
theorem IsConsistent.respell (consistent : settings.IsConsistent) {name : String}
    {mode : QrCode.Mode} (h : QrCode.Mode.ofName? name = some mode) :
    { settings with qrMode := name }.IsConsistent :=
  { consistent with qrMode := QrCode.Mode.normalName_mem h }

/-! ### Settings that keep the rules are those of options -/

namespace IsConsistent

theorem exists_mode (consistent : settings.IsConsistent) :
    ∃ mode : Option Mode, settings.mode = mode.map Mode.name := by
  cases hmode : settings.mode with
  | none => exact ⟨none, rfl⟩
  | some name =>
      obtain rfl | rfl := consistent.mode name hmode
      · exact ⟨some .timeBased, rfl⟩
      · exact ⟨some .counterBased, rfl⟩

theorem exists_step (consistent : settings.IsConsistent) :
    ∃ step : Option Nat, settings.stepSize = step.map Int.ofNat := by
  cases hstep : settings.stepSize with
  | none => exact ⟨none, rfl⟩
  | some seconds =>
      obtain ⟨hleast, -⟩ := consistent.step seconds hstep
      exact ⟨some seconds.toNat, congrArg some (Int.toNat_of_nonneg (by omega)).symm⟩

theorem exists_window (consistent : settings.IsConsistent) :
    ∃ window : WindowChoice,
      (settings.windowSize =
        match window with
        | .size codes => some codes
        | _ => none) ∧
        settings.minimalWindow = decide (window = .minimal) := by
  cases hwindow : settings.windowSize with
  | none =>
      cases settings.minimalWindow with
      | true => exact ⟨.minimal, rfl, rfl⟩
      | false => exact ⟨.ask, rfl, rfl⟩
  | some codes =>
      obtain ⟨hleast, -, hminimal, -⟩ := consistent.window codes hwindow
      exact ⟨.size codes.toNat, congrArg some (Int.toNat_of_nonneg (by omega)).symm, hminimal⟩

theorem exists_rate (consistent : settings.IsConsistent) :
    ∃ rate : RateChoice,
      (settings.rateLimit =
        match rate with
        | .limit attempts _ => some attempts
        | _ => none) ∧
        (settings.rateTime =
          match rate with
          | .limit _ seconds => some seconds
          | _ => none) ∧
        settings.noRateLimit = decide (rate = .unlimited) := by
  obtain ⟨hlimit, htime⟩ | ⟨attempts, seconds, hlimit, htime, hattempts, -, hseconds, -, hnone⟩ :=
    consistent.rate
  · cases settings.noRateLimit with
    | true => exact ⟨.unlimited, hlimit, htime, rfl⟩
    | false => exact ⟨.ask, hlimit, htime, rfl⟩
  · refine ⟨.limit attempts.toNat seconds.toNat, ?_, ?_, hnone⟩
    · rw [hlimit]
      exact congrArg some (Int.toNat_of_nonneg (by omega)).symm
    · rw [htime]
      exact congrArg some (Int.toNat_of_nonneg (by omega)).symm

theorem exists_qrMode (consistent : settings.IsConsistent) :
    ∃ mode, QrCode.Mode.ofName? settings.qrMode = some mode := by
  have hname := consistent.qrMode
  rw [← QrCode.Mode.map_name_all] at hname
  obtain ⟨mode, -, hmode⟩ := List.mem_map.mp hname
  exact ⟨mode, QrCode.Mode.ofName?_eq_some_iff.mpr hmode⟩

theorem exists_options (consistent : settings.IsConsistent) :
    ∃ options : Options, settings = { options.toSettings with qrMode := settings.qrMode } ∧
      QrCode.Mode.ofName? settings.qrMode = some options.qrMode := by
  obtain ⟨mode, hmode⟩ := consistent.exists_mode
  obtain ⟨stepSize, hstep⟩ := consistent.exists_step
  obtain ⟨window, hsize, hminimal⟩ := consistent.exists_window
  obtain ⟨rate, hlimit, htime, hnone⟩ := consistent.exists_rate
  obtain ⟨qrMode, hqr⟩ := consistent.exists_qrMode
  obtain ⟨emergencyCodes, hcodes⟩ := Int.eq_ofNat_of_zero_le consistent.emergencyCodes.1
  refine ⟨
    { mode, disallowReuse := settings.disallowReuse, stepSize, window, rate, emergencyCodes
      confirm := settings.confirm, force := settings.force, quiet := settings.quiet
      label := settings.label, issuer := settings.issuer, secretPath := settings.secretPath
      qrMode }, ?_, hqr⟩
  rcases settings with ⟨⟩
  dsimp only at hmode hstep hsize hminimal hlimit htime hnone hcodes
  subst hmode hstep hsize hminimal hlimit htime hnone hcodes
  rfl

end IsConsistent

/-! ### The check and the rules -/

/-- Options that the check made sure of are what their own settings come to. -/
theorem validate_toSettings (consistent : options.IsConsistent) :
    options.toSettings.validate = .ok options :=
  validate_eq_ok_iff.mpr ⟨consistent, rfl, QrCode.Mode.ofName?_name options.qrMode⟩

/-- Settings pass the check if and only if they keep the rules, and else there is a conflict. What
they lead to is the settings as they were given, with the QR mode under its normal name, and when
these are checked again, nothing changes any more. -/
theorem validate_iff_consistent (settings : Settings) :
    (settings.IsConsistent →
      ∃ options, settings.validate = .ok options ∧
        options.toSettings =
          { settings with qrMode := String.ofList (QrCode.Mode.normalName settings.qrMode) } ∧
        options.toSettings.validate = .ok options) ∧
      (¬ settings.IsConsistent → ∃ conflict, settings.validate = .error conflict) := by
  constructor
  · intro consistent
    obtain ⟨options, hsettings, hqr⟩ := consistent.exists_options
    have hname := QrCode.Mode.ofName?_eq_some_iff.mp hqr
    have hnormal : options.toSettings =
        { settings with qrMode := String.ofList (QrCode.Mode.normalName settings.qrMode) } := by
      rw [hsettings, ← hname]
      rfl
    have hoptions : options.IsConsistent := by
      apply isConsistent_of_toSettings
      rw [hnormal, ← hname]
      exact consistent.respell (QrCode.Mode.ofName?_name options.qrMode)
    exact ⟨options, validate_eq_ok_iff.mpr ⟨hoptions, hsettings, hqr⟩, hnormal,
      validate_toSettings hoptions⟩
  · intro inconsistent
    cases hvalid : settings.validate with
    | error conflict => exact ⟨conflict, rfl⟩
    | ok options =>
        obtain ⟨hoptions, hsettings, hqr⟩ := validate_eq_ok_iff.mp hvalid
        refine absurd ?_ inconsistent
        rw [hsettings]
        exact (isConsistent_toSettings hoptions).respell hqr

/-- Every number at the end of its range. With the window smaller by one, there is a conflict. -/
theorem validate_iff_consistent_of_bounds :
    let settings : Settings :=
      { mode := some "totp", disallowReuse := some false, stepSize := some 60
        windowSize := some 3, rateLimit := some 10, rateTime := some 15, emergencyCodes := 0
        qrMode := "utf8-inverse" }
    (∃ options, settings.validate = .ok options ∧
        options.toSettings = { settings with qrMode := "UTF8_INVERSE" } ∧
        options.toSettings.validate = .ok options) ∧
      ∃ conflict, { settings with windowSize := some 2 }.validate = .error conflict := by
  intro settings
  have hname : String.ofList (QrCode.Mode.normalName settings.qrMode) = "UTF8_INVERSE" := by
    decide +kernel
  have consistent : settings.IsConsistent := by
    constructor
    case rate => exact .inr ⟨10, 15, by simp [settings]⟩
    case qrMode => simp [hname]
    all_goals simp [settings]
  have inconsistent : ¬ { settings with windowSize := some 2 }.IsConsistent := by
    intro h
    obtain ⟨-, -, -, htimeBased⟩ := h.window 2 rfl
    exact absurd (htimeBased rfl) (by decide)
  obtain ⟨options, hoptions, hnormal, hagain⟩ := (validate_iff_consistent settings).1 consistent
  rw [hname] at hnormal
  exact ⟨⟨options, hoptions, hnormal, hagain⟩, (validate_iff_consistent _).2 inconsistent⟩

end Settings

end OneTimePassword
