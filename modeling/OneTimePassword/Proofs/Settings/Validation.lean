/-
Module: OneTimePassword.Proofs.Settings.Validation
Purpose: Which settings pass the check, and what is known of the options that they lead to.
Main exports: Options.IsConsistent, Settings.validate_eq_ok_iff
-/
import OneTimePassword.Settings.Validation

namespace OneTimePassword

/-! ### Numbers within their ranges -/

/-- The range of a number, bounds included. -/
def Quantity.Admits (quantity : Quantity) (n : Nat) : Prop :=
  quantity.least ≤ n ∧ n ≤ quantity.greatest

namespace Quantity

variable {quantity : Quantity} {value : Int} {n : Nat}

theorem check_eq_ok_iff : quantity.check value = .ok n ↔ value = n ∧ quantity.Admits n := by
  unfold check Admits
  split
  · rename_i hrange
    rw [Except.ok.injEq]
    omega
  · rename_i hrange
    simp only [reduceCtorEq, false_iff]
    omega

theorem check?_eq_ok_iff {value? : Option Int} {n? : Option Nat} :
    quantity.check? value? = .ok n? ↔
      value? = n?.map Int.ofNat ∧ ∀ n, n? = some n → quantity.Admits n := by
  cases value? with
  | none =>
      cases n? with
      | none => simp [check?]
      | some n => simp [check?]
  | some value =>
      cases hcheck : quantity.check value with
      | error cause =>
          simp only [check?, hcheck, Except.map, reduceCtorEq, false_iff]
          rintro ⟨hvalue, hadmits⟩
          obtain ⟨n, rfl, rfl⟩ := Option.map_eq_some_iff.mp hvalue.symm
          have hchecked := check_eq_ok_iff.mpr ⟨rfl, hadmits n rfl⟩
          exact absurd (hcheck.symm.trans hchecked) (by simp)
      | ok checked =>
          obtain ⟨rfl, hadmits⟩ := check_eq_ok_iff.mp hcheck
          simp only [check?, hcheck, Except.map, Except.ok.injEq]
          constructor
          · rintro rfl
            exact ⟨rfl, fun n h => Option.some.inj h ▸ hadmits⟩
          · rintro ⟨hvalue, -⟩
            obtain ⟨n, rfl, hn⟩ := Option.map_eq_some_iff.mp hvalue.symm
            rw [Int.ofNat_inj.mp hn]

end Quantity

/-! ### One check after another -/

namespace Settings

variable {settings : Settings} {mode : Option Mode}

theorem bind_eq_ok_iff {ε α β : Type} {x : Except ε α} {f : α → Except ε β} {b : β} :
    (x >>= f) = .ok b ↔ ∃ a, x = .ok a ∧ f a = .ok b := by
  cases x with
  | error e => simp [bind, Except.bind]
  | ok a => simp [bind, Except.bind]

theorem pure_eq_ok_iff {ε α : Type} {a b : α} : (pure a : Except ε α) = .ok b ↔ a = b := by
  simp [pure, Except.pure]

/-- A check that stops is no way to a value. -/
theorem guard_eq_ok_iff {ε β : Type} {condition : Prop} [Decidable condition] {cause : ε}
    {next : Unit → Except ε β} {b : β} :
    (if condition then throw cause >>= next else next ()) = .ok b ↔
      ¬ condition ∧ next () = .ok b := by
  by_cases h : condition
  · simp [h, throw, throwThe, MonadExceptOf.throw, bind, Except.bind]
  · simp [h]

theorem ofName?_eq_some_iff {name : String} {mode : Mode} :
    Mode.ofName? name = some mode ↔ name = mode.name := by
  constructor
  · intro h
    have := List.find?_some h
    exact (by simpa using this : mode.name = name).symm
  · rintro rfl
    cases mode with
    | timeBased => rfl
    | counterBased => rfl

theorem checkMode_eq_ok_iff : settings.checkMode = .ok mode ↔ settings.mode = mode.map Mode.name := by
  unfold checkMode
  cases settings.mode with
  | none => cases mode <;> simp
  | some name =>
      cases hfound : Mode.ofName? name with
      | none =>
          cases mode with
          | none => simp [hfound]
          | some mode =>
              have hname : name ≠ mode.name := by
                rw [ne_eq, ← ofName?_eq_some_iff, hfound]
                simp
              simp [hfound, hname]
      | some found =>
          cases mode with
          | none => simp [hfound]
          | some mode => simp [hfound, ← ofName?_eq_some_iff]

theorem checkStep_eq_ok_iff {step : Option Nat} :
    settings.checkStep mode = .ok step ↔
      settings.stepSize = step.map Int.ofNat ∧
        ∀ seconds, step = some seconds →
          Quantity.stepSize.Admits seconds ∧ mode ≠ some .counterBased := by
  simp only [checkStep, bind_eq_ok_iff, Quantity.check?_eq_ok_iff, guard_eq_ok_iff, pure_eq_ok_iff]
  constructor
  · rintro ⟨step, ⟨hstep, hadmits⟩, hmode, rfl⟩
    refine ⟨hstep, fun seconds h => ⟨hadmits seconds h, ?_⟩⟩
    simpa [h] using hmode
  · rintro ⟨hstep, hadmits⟩
    refine ⟨step, ⟨hstep, fun seconds h => (hadmits seconds h).1⟩, ?_, rfl⟩
    cases step with
    | none => simp
    | some seconds => simpa using (hadmits seconds rfl).2

theorem checkWindow_eq_ok_iff {window : WindowChoice} :
    settings.checkWindow mode = .ok window ↔
      (settings.windowSize =
        match window with
        | .size codes => some codes
        | _ => none) ∧
        settings.minimalWindow = decide (window = .minimal) ∧
        ∀ codes, window = .size codes →
          Quantity.windowSize.Admits codes ∧
            (mode = some .timeBased → minTimeBasedWindow ≤ codes) := by
  simp only [checkWindow, bind_eq_ok_iff, Quantity.check?_eq_ok_iff]
  constructor
  · rintro ⟨size, ⟨hsize, hadmits⟩, h⟩
    cases size with
    | none =>
        rw [pure_eq_ok_iff] at h
        subst h
        cases hminimal : settings.minimalWindow with
        | true => simpa using hsize
        | false => simpa using hsize
    | some codes =>
        simp only [guard_eq_ok_iff, pure_eq_ok_iff] at h
        rcases h with ⟨hminimal, hmode, rfl⟩
        refine ⟨hsize, by simpa using hminimal, ?_⟩
        intro n hn
        obtain rfl := WindowChoice.size.inj hn
        exact ⟨hadmits codes rfl, by simpa using hmode⟩
  · rintro ⟨hsize, hminimal, hadmits⟩
    cases window with
    | ask => exact ⟨none, ⟨hsize, by simp⟩, by simp [hminimal, pure_eq_ok_iff]⟩
    | minimal => exact ⟨none, ⟨hsize, by simp⟩, by simp [hminimal, pure_eq_ok_iff]⟩
    | size codes =>
        obtain ⟨hrange, hmode⟩ := hadmits codes rfl
        refine ⟨some codes, ⟨hsize, fun n hn => Option.some.inj hn ▸ hrange⟩, ?_⟩
        simp only [guard_eq_ok_iff, pure_eq_ok_iff]
        exact ⟨by simpa using hminimal, by simpa using hmode, trivial⟩

theorem checkRate_eq_ok_iff {rate : RateChoice} :
    settings.checkRate = .ok rate ↔
      (settings.rateLimit =
        match rate with
        | .limit attempts _ => some attempts
        | _ => none) ∧
        (settings.rateTime =
          match rate with
          | .limit _ seconds => some seconds
          | _ => none) ∧
        settings.noRateLimit = decide (rate = .unlimited) ∧
        ∀ attempts seconds, rate = .limit attempts seconds →
          Quantity.rateLimit.Admits attempts ∧ Quantity.rateTime.Admits seconds := by
  simp only [checkRate, bind_eq_ok_iff, Quantity.check?_eq_ok_iff, guard_eq_ok_iff]
  constructor
  · rintro ⟨attempts, ⟨hattempts, hlimit⟩, seconds, ⟨hseconds, htime⟩, hnone, h⟩
    cases attempts with
    | none =>
        cases seconds with
        | none =>
            rw [pure_eq_ok_iff] at h
            subst h
            cases hunlimited : settings.noRateLimit with
            | true => exact ⟨hattempts, hseconds, rfl, by simp⟩
            | false => exact ⟨hattempts, hseconds, rfl, by simp⟩
        | some seconds => cases h
    | some attempts =>
        cases seconds with
        | none => cases h
        | some seconds =>
            rw [pure_eq_ok_iff] at h
            subst h
            refine ⟨hattempts, hseconds, by simpa using hnone, ?_⟩
            intro n m hnm
            obtain ⟨rfl, rfl⟩ := RateChoice.limit.inj hnm
            exact ⟨hlimit _ rfl, htime _ rfl⟩
  · rintro ⟨hattempts, hseconds, hnone, hadmits⟩
    cases rate with
    | ask =>
        exact ⟨none, ⟨hattempts, by simp⟩, none, ⟨hseconds, by simp⟩, by simp,
          by simp [hnone, pure_eq_ok_iff]⟩
    | unlimited =>
        exact ⟨none, ⟨hattempts, by simp⟩, none, ⟨hseconds, by simp⟩, by simp,
          by simp [hnone, pure_eq_ok_iff]⟩
    | limit attempts seconds =>
        obtain ⟨hlimit, htime⟩ := hadmits attempts seconds rfl
        exact ⟨some attempts, ⟨hattempts, fun n hn => Option.some.inj hn ▸ hlimit⟩,
          some seconds, ⟨hseconds, fun n hn => Option.some.inj hn ▸ htime⟩, by simp [hnone], rfl⟩

theorem checkQrMode_eq_ok_iff {name : String} {qrMode : QrCode.Mode} :
    checkQrMode name = .ok qrMode ↔ QrCode.Mode.ofName? name = some qrMode := by
  unfold checkQrMode
  split
  · rename_i found hfound
    simp [hfound]
  · rename_i hnone
    simp [hnone]

end Settings

/-! ### The check as a whole -/

/-- What the check makes sure of. -/
structure Options.IsConsistent (options : Options) : Prop where
  reuse : options.disallowReuse.isSome → options.mode = some .timeBased
  step : ∀ seconds, options.stepSize = some seconds →
    Quantity.stepSize.Admits seconds ∧ options.mode ≠ some .counterBased
  window : ∀ codes, options.window = .size codes →
    Quantity.windowSize.Admits codes ∧
      (options.mode = some .timeBased → minTimeBasedWindow ≤ codes)
  rate : ∀ attempts seconds, options.rate = .limit attempts seconds →
    Quantity.rateLimit.Admits attempts ∧ Quantity.rateTime.Admits seconds
  emergencyCodes : Quantity.emergencyCodes.Admits options.emergencyCodes
  secretPath : options.secretPath ≠ some ""

/-- Settings pass the check just if they are consistent. They are the settings of the options that
they lead to, but for the spelling of the QR mode. -/
theorem Settings.validate_eq_ok_iff {settings : Settings} {options : Options} :
    settings.validate = .ok options ↔
      options.IsConsistent ∧ settings = { options.toSettings with qrMode := settings.qrMode } ∧
        QrCode.Mode.ofName? settings.qrMode = some options.qrMode := by
  simp only [validate, bind_eq_ok_iff, guard_eq_ok_iff, pure_eq_ok_iff, checkMode_eq_ok_iff,
    checkStep_eq_ok_iff, checkWindow_eq_ok_iff, checkRate_eq_ok_iff, checkQrMode_eq_ok_iff,
    Quantity.check_eq_ok_iff]
  constructor
  · rintro ⟨mode, hmode, hreuse, step, ⟨hstep, hseconds⟩, window, ⟨hsize, hminimal, hcodes⟩, rate,
      ⟨hattempts, htime, hunlimited, hlimit⟩, count, ⟨hcount, hrange⟩, hpath, qrMode, hqr, rfl⟩
    refine ⟨⟨?_, hseconds, hcodes, hlimit, hrange, hpath⟩, ?_, hqr⟩
    · simpa using hreuse
    · rcases settings with ⟨⟩
      dsimp only at hmode hstep hsize hminimal hattempts htime hunlimited hcount
      subst hmode hstep hsize hminimal hattempts htime hunlimited hcount
      rfl
  · rintro ⟨consistent, hsettings, hqr⟩
    refine ⟨options.mode, congrArg Settings.mode hsettings, ?_,
      options.stepSize, ⟨congrArg Settings.stepSize hsettings, consistent.step⟩,
      options.window, ⟨congrArg Settings.windowSize hsettings,
        congrArg Settings.minimalWindow hsettings, consistent.window⟩,
      options.rate, ⟨congrArg Settings.rateLimit hsettings, congrArg Settings.rateTime hsettings,
        congrArg Settings.noRateLimit hsettings, consistent.rate⟩,
      options.emergencyCodes, ⟨congrArg Settings.emergencyCodes hsettings,
        consistent.emergencyCodes⟩, ?_, options.qrMode, hqr, ?_⟩
    · rw [hsettings]
      simpa [Options.toSettings] using consistent.reuse
    · rw [hsettings]
      exact consistent.secretPath
    · rw [hsettings]
      rfl

end OneTimePassword
