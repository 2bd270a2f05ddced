/-
Module: OneTimePassword.Proofs.SecretFile.Layout
Purpose: The lines of a whole secret file, and that there is room for them.
Main exports: SecretFile.runOn_addCodes, SecretFile.size_bare_add_widest_le,
  SecretFile.runOn_compose, SecretFile.compose_layout
-/
import Mathlib.Control.Monad.Basic
import OneTimePassword.Proofs.SecretFile.Policy

namespace OneTimePassword

open Respondent (YesNo)
open SetupM (runOn)

namespace ScratchCode

/-- The codes that a secret file takes: the numbers of eight digits. -/
theorem exists_isAccepted {code : Int} (h : 10000000 ≤ code ∧ code ≤ 99999999) :
    ∃ n : Nat, code = n ∧ IsAccepted n ∧ n < modulus := by
  refine ⟨code.toNat, by omega, ?_, ?_⟩
  · simp only [IsAccepted, least, modulus]
    omega
  · simp only [modulus]
    omega

end ScratchCode

namespace SecretFile

variable {file : SecretFile} {session : Session} {mode : Mode} {secret : String} {codes : List Int}

theorem start_eq_ok (hlength : (stripNewlines secret).length ≤ secretLength) :
    start secret maxSize = .ok
      { capacity := maxSize, secret := stripNewlines secret, directives := [], entries := [] } := by
  have hsize : SecretFile.size
      { capacity := maxSize, secret := stripNewlines secret, directives := [], entries := [] } =
        (stripNewlines secret).length + 1 := by
    simp [size_eq_sum, lines, lineSize]
  have hroom : (stripNewlines secret).length + 1 ≤ maxSize :=
    Nat.le_trans (Nat.succ_le_succ hlength) (by decide)
  rw [start, hsize]
  exact if_pos (Int.ofNat_le.mpr hroom)

theorem hasMode_start (hne : ∀ mode : Mode, secret ≠ mode.line) (capacity : Int) :
    SecretFile.hasMode { capacity, secret, directives := [], entries := [] } = false := by
  simp [hasMode, lines, hne]

/-- Codes of eight digits are taken one after another as long as there is room. -/
theorem runOn_addCodes (hcodes : ∀ code ∈ codes, 10000000 ≤ code ∧ code ≤ 99999999)
    (hroom : ((file.size + codes.length * (ScratchCode.width + 1) : Nat) : Int) ≤ file.capacity) :
    runOn ((codes.forM fun code => change (·.addCode code)).run file) session =
      (.ok ((), { file with entries := file.entries ++ codes.map ScratchCode.display }),
        session) := by
  induction codes generalizing file with
  | nil => simp
  | cons code rest ih =>
      obtain ⟨n, rfl, haccepted, hn⟩ :=
        ScratchCode.exists_isAccepted (hcodes code List.mem_cons_self)
      have hwidth := ScratchCode.lineSize_display haccepted hn
      rw [List.length_cons, Nat.succ_mul, ← Nat.add_assoc] at hroom
      have fits : file.Fits (ScratchCode.display n) := by
        simp only [Fits, hwidth]
        omega
      have hfirst : runOn ((change (·.addCode n)).run file) session =
          (.ok ((), { file with entries := file.entries ++ [ScratchCode.display n] }), session) := by
        rw [runOn_change, addCode, append_eq_ok_iff.mpr ⟨fits, rfl⟩]
      have hlater : ∀ other ∈ rest, 10000000 ≤ other ∧ other ≤ 99999999 :=
        fun other hother => hcodes other (List.mem_cons_of_mem _ hother)
      have hlaterRoom :
          (({ file with entries := file.entries ++ [ScratchCode.display n] }.size +
            rest.length * (ScratchCode.width + 1) : Nat) : Int) ≤ file.capacity := by
        rw [size_behind]
        simp only [List.map_cons, List.map_nil, List.sum_cons, List.sum_nil, hwidth]
        omega
      have hrest := ih hlater hlaterRoom
      rw [List.forM_eq_forM] at hrest ⊢
      rw [List.forM_cons, ComposeM.runOn_bind_of_ok hfirst, hrest]
      simp

/-- The size of the largest file leaves room for the directives below and for the codes. -/
theorem maxSize_eq :
    maxSize = secretLength + 1 + max (lineSize Mode.timeBased.line) (lineSize Mode.counterBased.line)
      + Policy.widest + ScratchCode.maxCount * (ScratchCode.width + 1) := by
  simp only [maxSize, Policy.widest]
  omega

theorem lineSize_mode_le (mode : Mode) :
    lineSize mode.line ≤ max (lineSize Mode.timeBased.line) (lineSize Mode.counterBased.line) := by
  cases mode with
  | timeBased => exact Nat.le_max_left _ _
  | counterBased => exact Nat.le_max_right _ _

/-- A file before anything is said about its use. -/
def bare (secret : String) (mode : Mode) (codes : List Int) : SecretFile :=
  { capacity := maxSize, secret, directives := [],
    entries := mode.line :: codes.map ScratchCode.display }

theorem size_bare (hcodes : ∀ code ∈ codes, 10000000 ≤ code ∧ code ≤ 99999999) :
    (bare secret mode codes).size =
      secret.length + 1 + lineSize mode.line + codes.length * (ScratchCode.width + 1) := by
  have hsum : ((codes.map ScratchCode.display).map lineSize).sum =
      codes.length * (ScratchCode.width + 1) := by
    induction codes with
    | nil => simp
    | cons code rest ih =>
        obtain ⟨n, rfl, haccepted, hn⟩ :=
          ScratchCode.exists_isAccepted (hcodes code List.mem_cons_self)
        have hrest := ih fun other hother => hcodes other (List.mem_cons_of_mem _ hother)
        rw [List.map_cons, List.map_cons, List.sum_cons, hrest,
          ScratchCode.lineSize_display haccepted hn, List.length_cons, Nat.succ_mul, Nat.add_comm]
  simp only [size_eq_sum, lines, bare, List.nil_append, List.map_cons, List.sum_cons, hsum]
  simp only [lineSize]
  omega

/-- The largest file holds every file that has no directives yet, with room for all of them. -/
theorem size_bare_add_widest_le_of_length_le (mode : Mode) (hlength : secret.length ≤ secretLength)
    (hcount : codes.length ≤ ScratchCode.maxCount)
    (hcodes : ∀ code ∈ codes, 10000000 ≤ code ∧ code ≤ 99999999) :
    (bare secret mode codes).size + Policy.widest ≤ maxSize := by
  have hmode := lineSize_mode_le mode
  have hall := Nat.mul_le_mul_right (ScratchCode.width + 1) hcount
  rw [size_bare hcodes, maxSize_eq]
  omega

theorem size_bare_add_widest_le (mode : Mode) (hlength : secret.length = secretLength)
    (hcount : codes.length ≤ ScratchCode.maxCount)
    (hcodes : ∀ code ∈ codes, 10000000 ≤ code ∧ code ≤ 99999999) :
    (bare secret mode codes).size + Policy.widest ≤ maxSize :=
  size_bare_add_widest_le_of_length_le mode (Nat.le_of_eq hlength) hcount hcodes

/-- The secret, the mode and the codes have their places whatever is settled after that. Only a secret
that reads as a mode line stands in the way of the mode. -/
theorem runOn_compose_of_ne (options : Options)
    (hne : ∀ mode : Mode, stripNewlines secret ≠ mode.line)
    (hlength : secret.length = secretLength) (hcount : codes.length ≤ ScratchCode.maxCount)
    (hcodes : ∀ code ∈ codes, 10000000 ≤ code ∧ code ≤ 99999999) :
    runOn (compose secret mode codes options) session =
      match runOn ((Policy.add mode options).run (bare (stripNewlines secret) mode codes)) session with
      | (.ok (_, file), s) => (.ok file, s)
      | (.error e, s) => (.error e, s) := by
  let file : SecretFile :=
    { capacity := maxSize, secret := stripNewlines secret, directives := [], entries := [] }
  let headed : SecretFile := { file with entries := [mode.line] }
  have hstripped : (stripNewlines secret).length ≤ secretLength :=
    hlength ▸ length_stripNewlines_le secret
  have hroom := size_bare_add_widest_le_of_length_le mode hstripped hcount hcodes
  rw [size_bare hcodes] at hroom
  have hsize : file.size = (stripNewlines secret).length + 1 := by
    simp [file, size_eq_sum, lines, lineSize]
  have hheaded : headed.size = (stripNewlines secret).length + 1 + lineSize mode.line := by
    calc headed.size = file.size + ([mode.line].map lineSize).sum := size_behind file [mode.line]
      _ = (stripNewlines secret).length + 1 + lineSize mode.line := by simp [hsize]
  have fits : file.Fits mode.line := by
    simp only [Fits, hsize]
    exact Int.ofNat_le.mpr (by omega)
  have hmode : runOn ((change (·.addMode mode)).run file) session =
      (.ok ((), headed), session) := by
    rw [runOn_change, addMode, hasMode_start hne, if_neg (by simp),
      append_eq_ok_iff.mpr ⟨fits, rfl⟩]
    rfl
  have hall : runOn ((codes.forM fun code => change (·.addCode code)).run headed) session =
      (.ok ((), bare (stripNewlines secret) mode codes), session) := by
    rw [runOn_addCodes hcodes (Int.ofNat_le.mpr (by omega))]
    rfl
  rw [compose, start_eq_ok hstripped, SetupM.runOn_bind_of_ok (SetupM.runOn_orFail_ok _ _ _),
    SetupM.runOn_bind, ComposeM.runOn_bind_of_ok hmode, ComposeM.runOn_bind_of_ok hall]
  rcases runOn ((Policy.add mode options).run (bare (stripNewlines secret) mode codes)) session with
    ⟨e | ⟨a, file⟩, s⟩
  · rfl
  · rfl

/-- A secret without newlines is too long to be a mode line. -/
theorem runOn_compose (options : Options) (hsecret : '\n' ∉ secret.toList)
    (hlength : secret.length = secretLength) (hcount : codes.length ≤ ScratchCode.maxCount)
    (hcodes : ∀ code ∈ codes, 10000000 ≤ code ∧ code ≤ 99999999) :
    runOn (compose secret mode codes options) session =
      match runOn ((Policy.add mode options).run (bare secret mode codes)) session with
      | (.ok (_, file), s) => (.ok file, s)
      | (.error e, s) => (.error e, s) := by
  have hstripped : stripNewlines secret = secret := stripNewlines_of_notMem hsecret
  have hne : ∀ mode : Mode, stripNewlines secret ≠ mode.line := by
    intro mode
    rw [hstripped]
    rintro rfl
    cases mode <;> cases hlength
  have hrun : runOn (compose secret mode codes options) session = _ :=
    runOn_compose_of_ne options hne hlength hcount hcodes
  rwa [hstripped] at hrun

/-- A secret file has the secret on top, then the directives that the settings and the answers to
their open questions lead to, and at the bottom the mode line and the codes. There is always room for
all that; what can go wrong is that the settings do not go with the mode. -/
theorem compose_layout (session : Session) (mode : Mode) {settings : Settings} {options : Options}
    {script : YesNo} {numbers : List (Option Int)} {asked : List String}
    (hvalid : settings.validate = .ok options) (hlength : secret.length = 32)
    (hsecret : '\n' ∉ secret.toList) (hcount : codes.length ≤ 10)
    (hcodes : ∀ code ∈ codes, 10000000 ≤ code ∧ code ≤ 99999999)
    (hscript : session.respondent = .scripted script numbers asked) :
    let questions := Policy.openQuestions mode settings
    let answer := fun question => script.nth (questions.idxOf question)
    match Policy.clash? mode settings with
    | some conflict =>
        (runOn (compose secret mode codes options) session).1 = .error (.conflict conflict)
    | none =>
        ∃ file journal,
          runOn (compose secret mode codes options) session =
            (.ok file, { session with
              respondent := .scripted (script.drop questions.length) numbers
                (asked ++ questions.map Policy.Question.text)
              journal }) ∧
          file.lines =
            secret :: ((Policy.directives mode settings answer).map Directive.line ++
              mode.line :: codes.map ScratchCode.display) ∧
          file.size ≤ maxSize ∧
          ∀ code ∈ codes, ScratchCode.display code = Text.decimal code ∧
            (ScratchCode.display code).length = 8 := by
  intro questions answer
  obtain ⟨consistent, hsettings, -⟩ := Settings.validate_eq_ok_iff.mp hvalid
  -- the spelling of the QR mode is all that the settings have beyond the options
  obtain ⟨spelling, rfl⟩ : ∃ spelling, settings = { options.toSettings with qrMode := spelling } :=
    ⟨_, hsettings⟩
  have hroom : (((bare secret mode codes).size + Policy.widest : Nat) : Int) ≤ maxSize :=
    Int.ofNat_le.mpr (size_bare_add_widest_le mode hlength hcount hcodes)
  rw [runOn_compose options hsecret hlength hcount hcodes]
  split
  · rename_i conflict hclash
    have hfails := Policy.runOn_add_of_clash consistent hclash hscript hroom
    rcases hrun : runOn ((Policy.add mode options).run (bare secret mode codes)) session with
      ⟨e | done, s⟩
    · simpa [hrun] using hfails
    · simp [hrun] at hfails
  · rename_i hclash
    have gives := Policy.gives_nth (Policy.nodup_openQuestions mode options.toSettings) script
    obtain ⟨hwidth, hruns⟩ := Policy.settles_add consistent hclash answer script _ gives
    obtain ⟨journal, hrun⟩ := hruns _ session numbers asked hscript hroom
    rw [hrun]
    refine ⟨_, journal, rfl, ?_, ?_, ?_⟩
    · rw [lines]
      simp only [bare, List.append_nil]
      rfl
    · have hsize := size_above (bare secret mode codes)
        ((Policy.directives mode options.toSettings answer).map Directive.line)
      have hbare := size_bare_add_widest_le mode hlength hcount hcodes
      rw [List.map_map] at hsize
      exact Nat.le_trans (Nat.le_of_eq hsize)
        (Nat.le_trans (Nat.add_le_add_left hwidth _) hbare)
    · intro code hcode
      obtain ⟨n, rfl, haccepted, hn⟩ := ScratchCode.exists_isAccepted (hcodes code hcode)
      rw [ScratchCode.display_eq_decimalNat haccepted hn]
      exact ⟨(Text.decimal_natCast n).symm, ScratchCode.length_decimalNat_of_isAccepted haccepted hn⟩

/-- The mode was chosen in the course of the run, reuse is allowed and the rate is limited. -/
theorem compose_layout_of_answers :
    let settings : Settings := { stepSize := some 45, windowSize := some 5 }
    let secret := "ABCDEFGHIJKLMNOPQRSTUVWXYZ234567"
    let session : Session :=
      { random := { name := "", device := .outcomes [] }
        respondent := .scripted (.inOrder [false, true]) [] []
        clock := .ofList .notANumber []
        files := { entries := [] } }
    ∃ options, settings.validate = .ok options ∧
      secret.length = 32 ∧ '\n' ∉ secret.toList ∧
      (∀ code ∈ [(12345678 : Int)], 10000000 ≤ code ∧ code ≤ 99999999) ∧
      ∃ file final,
        runOn (compose secret .timeBased [12345678] options) session = (.ok file, final) ∧
        file.lines =
          [secret, "\" RATE_LIMIT 3 30", "\" WINDOW_SIZE 5", "\" STEP_SIZE 45", "\" TOTP_AUTH",
            "12345678"] := by
  intro settings secret session
  have hvalid : settings.validate = .ok
      { mode := none, disallowReuse := none, stepSize := some 45, window := .size 5, rate := .ask
        emergencyCodes := 5, confirm := true, force := false, quiet := false, label := none
        issuer := none, secretPath := none, qrMode := .drawn ⟨.ansi, .plain⟩ } := by decide +kernel
  have hlength : secret.length = 32 := by decide +kernel
  have hsecret : '\n' ∉ secret.toList := by decide +kernel
  have hcodes : ∀ code ∈ [(12345678 : Int)], 10000000 ≤ code ∧ code ≤ 99999999 := by decide
  obtain ⟨file, journal, hrun, hlines, -⟩ :=
    compose_layout session .timeBased hvalid hlength hsecret (by decide) hcodes rfl
  refine ⟨_, hvalid, hlength, hsecret, hcodes, file, _, hrun, ?_⟩
  rw [hlines]
  decide +kernel

end SecretFile

end OneTimePassword
