/-
Module: OneTimePassword.Proofs.Enrollment.Failures
Purpose: What can end a run. Beside the failures that it is meant to end with there are some that come
  from what it is given: a clock reading without a counter, a path with a NUL character, a source of
  random bytes or an input that has been closed, a QR encoder that fails or leaves rows short.
Trusted boundary: texts are Unicode, so each has a UTF-8 form; halves of surrogate pairs are none. What
  is printed is always taken.
Main exports: Failure.IsOwn, Enrollment.IsEncoded, Failure.StemsFrom, Session.Follows,
  Enrollment.Accounts, Enrollment.accounts_prepare, Enrollment.run_failure
-/
import OneTimePassword.Proofs.Base32.RoundTrip
import OneTimePassword.Proofs.Enrollment.Files
import OneTimePassword.Proofs.QrCode.Drawing
import OneTimePassword.Proofs.RandomBytes
import OneTimePassword.Proofs.Respondent
import OneTimePassword.Proofs.SecretFile.Room

namespace OneTimePassword

open SetupM (runOn Ensures)

/-! ### Causes -/

/-- A reading falls into a time step whose number fits into eight bytes. -/
def Timestamp.HasCounter (reading : Timestamp) (step : Nat) : Prop :=
  ∃ counter, Totp.stepNumber reading step = .ok counter ∧
    0 ≤ counter ∧ counter < BigEndian.range64

/-- The path that a run writes to, unless it does not get that far. -/
def Enrollment.path? (environment : Environment) (options : Options) : Option String :=
  options.secretPath.or (Home.secretPath? environment.home?)

/-- The failures that a run is meant to end with. -/
def Failure.IsOwn : Failure → Prop
  | .random (.cannotOpen _ _) | .random (.cannotRead _ _) | .random (.wrongCount _ _ _) => True
  | .random .closedStream | .random .closedNode | .random .unvarying => False
  | .uri _ | .conflict _ | .noHome => True
  | .code (.secret _) => True
  | .code .counterOutOfRange | .code .emptyDigest => False
  | .unanswered .aborted => True
  | .unanswered .interrupted | .unanswered .awaited => False
  | .replacement .malformedPath => False
  | .replacement _ => True
  | .blank _ | .clock _ | .encoding _ | .drawing _ | .refusal _ => False

/-- The clock is looked at only to check a code that the app shows. -/
def Enrollment.IsConfirming (options : Options) : Prop :=
  options.quiet = false ∧ options.confirm = true ∧ options.mode ≠ some .counterBased

/-- A text that a run may hand to an encoder: the enrollment URI of a secret that it may draw, for a
mode that it may come to, and only to be shown on a terminal. -/
structure Enrollment.IsEncoded (environment : Environment) (options : Options)
    (style : QrCode.Style) (encoder : QrCode.Encoder) (text : String) : Prop where
  quiet : options.quiet = false
  qrMode : options.qrMode ≠ .hidden
  isTerminal : environment.isTerminal = true
  renderer : environment.renderer = .terminal style (some encoder)
  uri : ∃ (seed : Bytes) (mode : Mode), seed.length = secretSize ∧ options.mode.getD mode = mode ∧
    (uriFor environment options (Base32.encode seed) mode).render = .ok text

/-- The failures beside these, each with what it comes from. A secret file without room, an empty
digest or a time step of no length are not among them. -/
def Failure.StemsFrom (environment : Environment) (options : Options) (s : Session) :
    Failure → Prop
  | .clock .notANumber | .clock .infinite | .code .counterOutOfRange =>
      Enrollment.IsConfirming options ∧ ∃ place, s.clock.taken ≤ place ∧
        ¬ (s.clock.readings place).HasCounter (options.stepSize.getD Totp.defaultStep)
  | .replacement .malformedPath =>
      ∃ path, Enrollment.path? environment options = some path ∧ '\x00' ∈ path.toList
  | .random .closedStream | .random .closedNode => s.random.device.isOpen = false
  | .random .unvarying => s.random.device.isEndless = true
  | .unanswered stop => s.respondent.ending? = some stop
  | .encoding error =>
      ∃ style encoder text, Enrollment.IsEncoded environment options style encoder text ∧
        encoder (Text.utf8 text) = .error error
  | .drawing _ =>
      ∃ style encoder text matrix, Enrollment.IsEncoded environment options style encoder text ∧
        encoder (Text.utf8 text) = .ok matrix ∧ style.glyphs = .utf8 ∧
        ∃ row ∈ matrix, row.length < matrix.length
  | _ => False

/-- What stays as it was in a session and in those that come of it. -/
structure Session.Follows (s t : Session) : Prop where
  readings : t.clock.readings = s.clock.readings
  taken : s.clock.taken ≤ t.clock.taken
  isOpen : t.random.device.isOpen = s.random.device.isOpen
  isEndless : t.random.device.isEndless = s.random.device.isEndless
  ending : t.respondent.ending? = s.respondent.ending?

theorem Session.Follows.refl (s : Session) : s.Follows s := ⟨rfl, Nat.le_refl _, rfl, rfl, rfl⟩

theorem Session.ignoresNotes_follows (s : Session) : IgnoresNotes s.Follows :=
  fun _ _ follows => ⟨follows.1, follows.2, follows.3, follows.4, follows.5⟩

namespace Enrollment

/-- A step from any session that follows on the first one comes to a value of which `Q` holds, or fails
in one of the ways that are accounted for. -/
def Accounts {α : Type} (environment : Environment) (options : Options) (s : Session)
    (x : SetupM α) (Q : α → Prop) : Prop :=
  Ensures s.Follows x (fun a t => Q a ∧ s.Follows t)
    (fun failure => failure.IsOwn ∨ failure.StemsFrom environment options s)

namespace Accounts

variable {α β : Type} {environment : Environment} {options : Options} {s : Session} {x : SetupM α}
  {f : α → SetupM β} {Q : α → Prop} {R : β → Prop}

theorem pure {a : α} (h : Q a) : Accounts environment options s (Pure.pure a) Q :=
  Ensures.pure fun _ follows => ⟨h, follows⟩

theorem bind (hx : Accounts environment options s x Q)
    (hf : ∀ a, Q a → Accounts environment options s (f a) R) :
    Accounts environment options s (x >>= f) R :=
  Ensures.bind hx fun a => .assume (hf a)

theorem orFail {ε : Type} {cause : ε → Failure} {result : Except ε α}
    (hok : ∀ a, result = .ok a → Q a)
    (herror : ∀ e, result = .error e →
      (cause e).IsOwn ∨ (cause e).StemsFrom environment options s) :
    Accounts environment options s (OneTimePassword.orFail cause result) Q :=
  Ensures.orFail (fun a h _ follows => ⟨hok a h, follows⟩) herror

theorem throw {failure : Failure} (h : failure.IsOwn) :
    Accounts environment options s (MonadExcept.throw failure : SetupM α) Q :=
  Ensures.throw (.inl h)

/-- Whatever is printed, shown or noted down is neither here nor there. -/
theorem modify {g : Session → Session} (h : ∀ t, (g t).random = t.random ∧
    (g t).clock = t.clock ∧ (g t).respondent = t.respondent) :
    Accounts environment options s (modify g : SetupM Unit) fun _ => True := by
  apply Ensures.modify
  intro t follows
  obtain ⟨hrandom, hclock, hrespondent⟩ := h t
  refine ⟨trivial, ?_, ?_, ?_, ?_, ?_⟩
  · rw [hclock, follows.readings]
  · rw [hclock]
    exact follows.taken
  · rw [hrandom, follows.isOpen]
  · rw [hrandom, follows.isEndless]
  · rw [hrespondent, follows.ending]

theorem print (text : String) :
    Accounts environment options s (OneTimePassword.print text) fun _ => True :=
  modify fun _ => ⟨rfl, rfl, rfl⟩

theorem printLine (text : String) :
    Accounts environment options s (OneTimePassword.printLine text) fun _ => True := print _

theorem note (record : Record) :
    Accounts environment options s (OneTimePassword.note record) fun _ => True :=
  modify fun _ => ⟨rfl, rfl, rfl⟩

/-- A question has an answer as long as the input does not end. -/
theorem ask {question : Respondent → Respondent.Reply α}
    (patient : Respondent.IsPatient question) :
    Accounts environment options s (OneTimePassword.ask question) fun _ => True := by
  apply Ensures.ask
  intro t follows
  obtain ⟨hending, hstop⟩ := patient t.respondent
  cases houtcome : (question t.respondent).outcome with
  | ok a =>
      exact ⟨trivial, follows.readings, follows.taken, follows.isOpen, follows.isEndless,
        hending.trans follows.ending⟩
  | error stop =>
      have hsame := hstop stop houtcome
      rw [follows.ending] at hsame
      exact .inr hsame

end Accounts

/-! ### Random bytes -/

section Drawing

variable {environment : Environment} {options : Options} {s : Session}

/-- A session that follows on another one, and whose device, if it runs out at all, does so within a
number of readings. -/
def LastsWithin (s : Session) (readings : Nat) (t : Session) : Prop :=
  (s.random.device.isEndless = true ∨ t.random.device.readingsLeft < readings) ∧ s.Follows t

theorem lastsWithin_self {t : Session} (follows : s.Follows t) :
    LastsWithin s (t.random.device.readingsLeft + 1) t := ⟨.inr (Nat.lt_succ_self _), follows⟩

/-- Each reading takes away from what a device can still satisfy. -/
theorem ensures_readRandom {wanted : Nat} (hwanted : 0 < wanted) (readings : Nat) :
    Ensures (LastsWithin s (readings + 1)) (readRandom wanted)
      (fun data t => data.length = wanted ∧ LastsWithin s readings t)
      (fun failure => failure.IsOwn ∨ failure.StemsFrom environment options s) := by
  constructor
  intro t ht
  obtain ⟨hlasts, follows⟩ := ht
  have hopen := RandomBytes.Device.isOpen_pull wanted t.random.device
  have hend := RandomBytes.Device.isEndless_pull wanted t.random.device
  rw [runOn_readRandom]
  rcases RandomBytes.Supply.read_cases t.random wanted with
    ⟨data, hlength, hpull, hread⟩ | ⟨e, he, hread⟩
  · rw [hread]
    have hcount : data.length = wanted := Int.ofNat_inj.mp hlength
    have hsome : data ≠ [] := List.ne_nil_of_length_pos (hcount ▸ hwanted)
    refine ⟨hcount, ?_, follows.readings, follows.taken, hopen.trans follows.isOpen,
      hend.trans follows.isEndless, follows.ending⟩
    rcases hlasts with hforever | hleft
    · exact .inl hforever
    · cases hkind : s.random.device.isEndless with
      | true => exact .inl rfl
      | false =>
          have := RandomBytes.Device.readingsLeft_pull_lt hpull hsome
            (follows.isEndless.trans hkind)
          exact .inr (by simp only; omega)
  · rw [hread]
    rcases he with ⟨cause, rfl⟩ | ⟨got, rfl⟩ | ⟨hnone, hclosed⟩
    · exact .inl trivial
    · exact .inl trivial
    · have hshut : s.random.device.isOpen = false :=
        follows.isOpen.symm.trans (RandomBytes.Device.isOpen_of_pull hnone)
      rcases hclosed with rfl | rfl
      · exact .inr hshut
      · exact .inr hshut

theorem Accounts.readRandom {wanted : Nat} (hwanted : 0 < wanted) :
    Accounts environment options s (readRandom wanted) fun data => data.length = wanted := by
  constructor
  intro t follows
  have hread : Ensures _ (OneTimePassword.readRandom wanted) _
      (fun failure => failure.IsOwn ∨ failure.StemsFrom environment options s) :=
    ensures_readRandom hwanted t.random.device.readingsLeft
  exact (hread.imp fun _ _ h => ⟨h.1, h.2.2⟩).of_run t (lastsWithin_self follows)

/-- Whoever looks at enough blocks gives up on an endless device only. -/
theorem ensures_drawWithin (blocks : Nat) :
    Ensures (LastsWithin s blocks) (ScratchCode.drawWithin blocks)
      (fun code t => (ScratchCode.IsAccepted code ∧ code < ScratchCode.modulus) ∧ s.Follows t)
      (fun failure => failure.IsOwn ∨ failure.StemsFrom environment options s) := by
  induction blocks with
  | zero =>
      constructor
      intro t ht
      rcases ht.1 with hforever | hleft
      · exact .inr hforever
      · exact absurd hleft (Nat.not_lt_zero _)
  | succ blocks ih =>
      apply (ensures_readRandom (by decide) blocks).bind
      intro block
      apply Ensures.assume
      intro
      dsimp only
      split
      · rename_i haccepted
        exact .pure fun t ht => ⟨⟨haccepted, ScratchCode.ofBlock_lt_modulus block⟩, ht.2⟩
      · apply Ensures.bind (Q := fun _ => LastsWithin s blocks)
        · exact .modify fun t ht => ⟨ht.1, s.ignoresNotes_follows t _ ht.2⟩
        · exact fun _ => ih

theorem Accounts.drawMany (count : Nat) :
    Accounts environment options s (ScratchCode.drawMany count) fun codes =>
      codes.length = count ∧
        ∀ code ∈ codes, ScratchCode.IsAccepted code ∧ code < ScratchCode.modulus := by
  apply ScratchCode.ensures_drawMany
  · exact ⟨fun t follows => (ensures_drawWithin _).of_run t (lastsWithin_self follows)⟩
  · exact fun text => Ensures.imp (Accounts.note (.debug text)) fun _ _ h => h.2

theorem accounts_drawSecret :
    Accounts environment options s drawSecret fun secret =>
      ∃ seed : Bytes, seed.length = secretSize ∧ secret = Base32.encode seed := by
  have hsize : 0 < secretSize := by decide
  apply (Accounts.readRandom hsize).bind
  intro seed hseed
  exact (Accounts.note _).bind fun _ _ => .pure ⟨seed, hseed, rfl⟩

end Drawing

/-! ### Presentation -/

section Presentation

variable {environment : Environment} {options : Options} {s : Session}

theorem accounts_settleMode :
    Accounts environment options s (settleMode options) fun mode =>
      options.mode.getD mode = mode := by
  unfold settleMode
  split
  · rename_i mode hmode
    exact .pure (by simp [hmode])
  · rename_i hmode
    apply (Accounts.ask (Respondent.isPatient_askWhether _)).bind
    intro timeBased _
    exact .pure (by simp [hmode])

/-- What becomes of a text depends on the encoder, where there is one, and on the matrix that it
makes. -/
theorem accounts_render {text : String}
    (hencoded : ∀ style encoder, environment.renderer = .terminal style (some encoder) →
      IsEncoded environment options style encoder text) :
    Accounts environment options s (render environment.renderer text) fun _ => True := by
  have hremember : Accounts environment options s (modify fun session =>
      { session with shown := session.shown ++ [text] } : SetupM Unit) fun _ => True :=
    .modify fun _ => ⟨rfl, rfl, rfl⟩
  cases hrenderer : environment.renderer with
  | absent => exact .pure trivial
  | viewer succeeds => exact hremember.bind fun _ _ => .pure trivial
  | terminal style encoder? =>
      cases encoder? with
      | none => exact (Accounts.note _).bind fun _ _ => .pure trivial
      | some encoder =>
          have isEncoded := hencoded style encoder hrenderer
          have hmatrix : Accounts environment options s
              (orFail .encoding (encoder (Text.utf8 text))) fun matrix =>
                encoder (Text.utf8 text) = .ok matrix := by
            apply Accounts.orFail (fun _ => id)
            intro e he
            exact .inr ⟨style, encoder, text, isEncoded, he⟩
          have hdrawn (matrix : QrCode.Matrix) (hok : encoder (Text.utf8 text) = .ok matrix) :
              Accounts environment options s (orFail .drawing (QrCode.draw style matrix))
                fun _ => True := by
            apply Accounts.orFail (fun _ _ => trivial)
            intro e he
            obtain ⟨hglyphs, hshort⟩ := QrCode.draw_eq_error_iff.mp he
            exact .inr ⟨style, encoder, text, matrix, isEncoded, hok, hglyphs, hshort⟩
          apply hremember.bind
          intro _ _
          apply hmatrix.bind
          intro matrix hok
          exact (hdrawn matrix hok).bind fun _ _ => (Accounts.print _).bind fun _ _ => .pure trivial

theorem accounts_showUri (hquiet : options.quiet = false) {seed : Bytes}
    (hseed : seed.length = secretSize) {mode : Mode} (hmode : options.mode.getD mode = mode) :
    Accounts environment options s
      (showUri environment options.qrMode (uriFor environment options (Base32.encode seed) mode))
      fun _ => True := by
  unfold showUri
  split
  · exact .pure trivial
  · rename_i hqrMode
    have hrendered : Accounts environment options s
        (orFail .uri (uriFor environment options (Base32.encode seed) mode).render) fun text =>
          (uriFor environment options (Base32.encode seed) mode).render = .ok text :=
      .orFail (fun _ => id) fun _ _ => .inl trivial
    apply hrendered.bind
    intro text htext
    split
    · exact .pure trivial
    · rename_i hterminal
      have hencoded (style : QrCode.Style) (encoder : QrCode.Encoder)
          (hrenderer : environment.renderer = .terminal style (some encoder)) :
          IsEncoded environment options style encoder text :=
        ⟨hquiet, hqrMode, by simpa using hterminal, hrenderer, seed, mode, hseed, hmode, htext⟩
      apply (accounts_render hencoded).bind
      intro isShown _
      split
      · exact (Accounts.printLine _).bind fun _ _ => (Accounts.printLine _).bind fun _ _ =>
          .printLine _
      · exact .pure trivial

/-- There is a code unless the secret has no key or the counter does not fit. -/
theorem codeOfSecret_eq_error {secret : String} {counter : Int} {e : Hotp.Error}
    (h : Hotp.codeOfSecret secret counter = .error e) :
    (∃ cause, e = .secret cause) ∨
      e = .counterOutOfRange ∧ ¬ (0 ≤ counter ∧ counter < BigEndian.range64) := by
  unfold Hotp.codeOfSecret at h
  cases hkey : Base32.key secret with
  | error cause =>
      rw [hkey] at h
      exact .inl ⟨cause, (Except.error.inj h).symm⟩
  | ok key =>
      rw [hkey] at h
      by_cases hrange : 0 ≤ counter ∧ counter < BigEndian.range64
      · simp [Hotp.code, Hotp.challenge, hrange, Except.map] at h
      · simp only [Hotp.code, Hotp.challenge, hrange, if_false, Except.map] at h
        exact .inr ⟨(Except.error.inj h).symm, hrange⟩

theorem accounts_readClock :
    Accounts environment options s readClock fun reading =>
      ∃ place, s.clock.taken ≤ place ∧ reading = s.clock.readings place := by
  constructor
  intro t follows
  refine ⟨⟨t.clock.taken, follows.taken, ?_⟩, follows.readings, ?_, follows.isOpen,
    follows.isEndless, follows.ending⟩
  · rw [← follows.readings]
  · exact Nat.le_succ_of_le follows.taken

theorem accounts_presentCode (consistent : options.IsConsistent) (confirming : IsConfirming options)
    (secret : String) :
    Accounts environment options s
      (presentCode secret (options.stepSize.getD Totp.defaultStep : Nat)) fun _ => True := by
  have hstep : options.stepSize.getD Totp.defaultStep ≠ 0 := by
    cases hsize : options.stepSize with
    | none => decide
    | some seconds =>
        have := (consistent.step seconds hsize).1.1
        simp only [Quantity.least, Option.getD_some] at this ⊢
        omega
  generalize hlength : options.stepSize.getD Totp.defaultStep = step at hstep
  apply accounts_readClock.bind
  intro reading hreading
  obtain ⟨place, hplace, rfl⟩ := hreading
  have hlacks (h : ¬ (s.clock.readings place).HasCounter step) : IsConfirming options ∧
      ∃ place, s.clock.taken ≤ place ∧
        ¬ (s.clock.readings place).HasCounter (options.stepSize.getD Totp.defaultStep) :=
    ⟨confirming, place, hplace, hlength ▸ h⟩
  have hnumber : Accounts environment options s
      (orFail .clock (Totp.stepNumber (s.clock.readings place) step)) fun counter =>
        Totp.stepNumber (s.clock.readings place) step = .ok counter := by
    apply Accounts.orFail (fun _ => id)
    intro e he
    have hnone : ¬ (s.clock.readings place).HasCounter step := by
      rintro ⟨counter, hcounter, -⟩
      cases hcounter.symm.trans he
    cases e with
    | notANumber | infinite => exact .inr (hlacks hnone)
    | emptyStep =>
        -- a step that has a length is never found to be empty
        cases hreading : s.clock.readings place with
        | seconds value =>
            simp [Totp.stepNumber, hreading, Timestamp.wholeSeconds, hstep, bind, Except.bind, pure,
              Except.pure] at he
        | notANumber | infinite =>
            simp [Totp.stepNumber, hreading, Timestamp.wholeSeconds, bind, Except.bind] at he
  apply hnumber.bind
  intro counter hcounter
  apply Accounts.orFail (fun _ _ => trivial)
  intro e he
  rcases codeOfSecret_eq_error he with ⟨cause, rfl⟩ | ⟨rfl, hrange⟩
  · exact .inl trivial
  · refine .inr (hlacks ?_)
    rintro ⟨other, hother, hfits⟩
    obtain rfl : counter = other := Except.ok.inj (hcounter.symm.trans hother)
    exact hrange hfits

theorem accounts_confirmWithin (consistent : options.IsConsistent)
    (confirming : IsConfirming options) (secret : String) (questions : Nat) :
    Accounts environment options s
      (confirmWithin secret (options.stepSize.getD Totp.defaultStep : Nat) questions)
      fun _ => True := by
  induction questions with
  | zero => exact .throw trivial
  | succ questions ih =>
      apply (Accounts.ask (Respondent.isPatient_askNumber _)).bind
      intro answer _
      split
      · exact (Accounts.printLine _).bind fun _ _ => .pure trivial
      · apply (accounts_presentCode consistent confirming secret).bind
        intro code _
        split
        · exact (Accounts.printLine _).bind fun _ _ => .pure trivial
        · exact (Accounts.note _).bind fun _ _ => (Accounts.printLine _).bind fun _ _ => ih

theorem accounts_confirmApp (consistent : options.IsConsistent) (confirming : IsConfirming options)
    (secret : String) :
    Accounts environment options s
      (confirmApp secret (options.stepSize.getD Totp.defaultStep : Nat)) fun _ => True :=
  ⟨fun t => (accounts_confirmWithin consistent confirming secret
    (t.respondent.numbersLeft + 1)).of_run t⟩

theorem accounts_presentSecret (consistent : options.IsConsistent) (hquiet : options.quiet = false)
    {seed : Bytes} (hseed : seed.length = secretSize) {mode : Mode}
    (hmode : options.mode.getD mode = mode) :
    Accounts environment options s (presentSecret environment options (Base32.encode seed) mode)
      fun _ => True := by
  apply (accounts_showUri hquiet hseed hmode).bind
  intro _ _
  generalize Base32.encode seed = secret
  apply (Accounts.printLine _).bind
  intro _ _
  split
  · rename_i hconfirm
    simp only [Bool.and_eq_true, decide_eq_true_eq] at hconfirm
    have htimeBased : options.mode ≠ some .counterBased := by
      intro hcounter
      rw [hcounter, Option.getD_some] at hmode
      cases hmode.trans hconfirm.2
    have hdiscarded : Accounts environment options s
        (discard (confirmApp secret (options.stepSize.getD Totp.defaultStep : Nat)))
        fun _ => True :=
      (accounts_confirmApp consistent ⟨hquiet, hconfirm.1, htimeBased⟩ secret).bind
        fun _ _ => .pure trivial
    exact hdiscarded.bind fun _ _ => .printLine _
  · have hcode : Accounts environment options s
        (orFail .code (Hotp.codeOfSecret secret Mode.firstCounter)) fun _ => True := by
      apply Accounts.orFail (fun _ _ => trivial)
      intro e he
      rcases codeOfSecret_eq_error he with ⟨cause, rfl⟩ | ⟨rfl, hrange⟩
      · exact .inl trivial
      · exact absurd (by decide) hrange
    exact hcode.bind fun _ _ => (Accounts.printLine _).bind fun _ _ => .printLine _

end Presentation

/-! ### The whole run -/

section Run

variable {environment : Environment} {options : Options} {s : Session}

/-- What a draft hands on. -/
structure IsDraft (environment : Environment) (options : Options) (drafted : Summary) : Prop where
  length_secret : drafted.secret.length = SecretFile.secretLength
  newline_notMem : '\n' ∉ drafted.secret.toList
  length_codes : drafted.scratchCodes.length = options.emergencyCodes
  codes : ∀ code ∈ drafted.scratchCodes, ScratchCode.IsAccepted code ∧ code < ScratchCode.modulus
  path : path? environment options = some drafted.path

/-- The codes of a draft are few, and have eight digits each. -/
theorem IsDraft.fits {drafted : Summary} (isDraft : IsDraft environment options drafted)
    (consistent : options.IsConsistent) :
    (drafted.scratchCodes.map Int.ofNat).length ≤ ScratchCode.maxCount ∧
      ∀ code ∈ drafted.scratchCodes.map Int.ofNat, 10000000 ≤ code ∧ code ≤ 99999999 := by
  constructor
  · rw [List.length_map, isDraft.length_codes]
    exact consistent.emergencyCodes.2
  · intro code hcode
    obtain ⟨n, hn, rfl⟩ := List.mem_map.mp hcode
    have hdigits := isDraft.codes n hn
    simp only [ScratchCode.IsAccepted, ScratchCode.least, ScratchCode.modulus] at hdigits
    simp only [Int.ofNat_eq_natCast]
    omega

theorem accounts_secretPath :
    Accounts environment options s (secretPath environment options) fun path =>
      path? environment options = some path := by
  unfold secretPath path?
  split
  · rename_i path hpath
    exact .pure (by simp [hpath])
  · rename_i hnone
    split
    · rename_i path hpath
      exact .pure (by simp [hnone, hpath])
    · exact .throw trivial

theorem accounts_draftFor (consistent : options.IsConsistent) {seed : Bytes}
    (hseed : seed.length = secretSize) {mode : Mode} (hmode : options.mode.getD mode = mode) :
    Accounts environment options s (draftFor environment options (Base32.encode seed) mode)
      (IsDraft environment options) := by
  have hlength : (Base32.encode seed).length = SecretFile.secretLength := by
    rw [Base32.length_encode, hseed]
    rfl
  have hend (codes : List Nat) (hcodes : codes.length = options.emergencyCodes ∧
        ∀ code ∈ codes, ScratchCode.IsAccepted code ∧ code < ScratchCode.modulus) :
      Accounts environment options s (do
        let path ← secretPath environment options
        pure ({ secret := Base32.encode seed, mode, scratchCodes := codes, path, file? := none } :
          Summary)) (IsDraft environment options) :=
    accounts_secretPath.bind fun _ hpath =>
      .pure ⟨hlength, Base32.newline_notMem_encode seed, hcodes.1, hcodes.2, hpath⟩
  have hlisting (codes : List Nat) : Accounts environment options s
      (codes.forM fun code => printLine ("  " ++ ScratchCode.display code)) fun _ => True := by
    constructor
    intro t follows
    rw [runOn_printCodes]
    exact ⟨trivial, follows.1, follows.2, follows.3, follows.4, follows.5⟩
  unfold draftFor
  cases hquiet : options.quiet with
  | true =>
      simp only [Bool.not_true, Bool.false_eq_true, if_false]
      exact (Accounts.drawMany _).bind hend
  | false =>
      simp only [Bool.not_false, if_true]
      apply (accounts_presentSecret consistent hquiet hseed hmode).bind
      intro _ _
      apply (Accounts.drawMany _).bind
      intro codes hcodes
      exact (hlisting codes).bind fun _ _ => hend codes hcodes

theorem accounts_draft (consistent : options.IsConsistent) :
    Accounts environment options s (draft environment options)
      (IsDraft environment options) := by
  apply accounts_drawSecret.bind
  rintro _ ⟨seed, hseed, rfl⟩
  apply accounts_settleMode.bind
  intro mode hmode
  exact accounts_draftFor consistent hseed hmode

theorem accounts_complete (consistent : options.IsConsistent) {drafted : Summary}
    (isDraft : IsDraft environment options drafted) (accepted : Bool) :
    Accounts environment options s (complete options drafted accepted) fun summary =>
      path? environment options = some summary.path := by
  cases accepted with
  | false => exact (Accounts.note _).bind fun _ _ => .pure isDraft.path
  | true =>
      obtain ⟨hcount, hcodes⟩ := isDraft.fits consistent
      have hask (message : String) : Ensures s.Follows (askWhether message) (fun _ => s.Follows)
          (fun failure => failure.IsOwn ∨ failure.StemsFrom environment options s) := by
        have hanswered : Accounts environment options s (askWhether message) fun _ => True :=
          .ask (Respondent.isPatient_askWhether message)
        exact Ensures.imp hanswered fun _ _ h => h.2
      have hfile : Accounts environment options s (SecretFile.compose drafted.secret drafted.mode
          (drafted.scratchCodes.map Int.ofNat) options) fun _ => True := by
        have hcompose := SecretFile.ensures_compose drafted.mode consistent isDraft.newline_notMem
          isDraft.length_secret hcount hcodes s.ignoresNotes_follows hask
          (fun conflict => .inl trivial)
        exact hcompose.imp fun _ _ follows => ⟨trivial, follows⟩
      exact hfile.bind fun _ _ => .pure isDraft.path

theorem accounts_prepare (consistent : options.IsConsistent) :
    Accounts environment options s (prepare environment options) fun summary =>
      path? environment options = some summary.path := by
  rw [prepare_eq]
  apply (accounts_draft consistent).bind
  intro drafted isDraft
  cases options.force with
  | true =>
      have hgiven : Accounts environment options s (Pure.pure true) fun _ => True := .pure trivial
      exact hgiven.bind fun accepted _ => accounts_complete consistent isDraft accepted
  | false =>
      exact (Accounts.ask (Respondent.isPatient_askWhether _)).bind
        fun accepted _ => accounts_complete consistent isDraft accepted

/-- Only a NUL character in the path makes a replacement stop at it. -/
theorem replaceFile_eq_malformedPath {faults : Faults} {path : String} {file : SecretFile}
    {t u : Session}
    (h : runOn (replaceFile faults path file) t = (.error (.replacement .malformedPath), u)) :
    '\x00' ∈ path.toList := by
  obtain ⟨outcome, opened, hreport, situation⟩ :=
    Replacement.Attempt.finish_situation { target := path, content := file.text } t.files faults
  rw [runOn_replaceFile, hreport, Option.getD_some] at h
  cases outcome with
  | ok done => cases h
  | error cause =>
      have hcause := congrArg Prod.fst h
      obtain rfl := Failure.replacement.inj (Except.error.inj hcause)
      generalize (({ job := { target := path, content := file.text }, faults } :
        Replacement.Attempt).steps t.files).any _ = failed at situation
      generalize (({ job := { target := path, content := file.text }, faults } :
        Replacement.Attempt).finish t.files).2 = after at situation
      by_contra hclean
      cases situation with
      | refused hcause =>
          exact hcause (Replacement.Attempt.isWellFormed_tempPath.mpr hclean) rfl
      | discarded free hcause => exact hcause rfl

theorem replaceFile_eq_replacement {faults : Faults} {path : String} {file : SecretFile}
    {failure : Failure} {t u : Session}
    (h : runOn (replaceFile faults path file) t = (.error failure, u)) :
    ∃ cause, failure = .replacement cause := by
  rw [runOn_replaceFile] at h
  generalize Option.getD _ _ = outcome at h
  cases outcome with
  | ok done => cases h
  | error cause =>
      cases h
      exact ⟨cause, rfl⟩

/-- Options that passed the check let a run end in two ways only: with one of the failures that it is
meant to end with, or because of something that it was given. Nothing that it has put together itself
ends it: there is room for the secret file, there is a digest to take a code from, and the time steps
have a length. -/
theorem run_failure (environment : Environment) {settings : Settings} {options : Options}
    (hvalid : settings.validate = .ok options) (s : Session) {failure : Failure} {t : Session}
    (h : runOn (run environment options) s = (.error failure, t)) :
    failure.IsOwn ∨ failure.StemsFrom environment options s := by
  obtain ⟨consistent, -, -⟩ := Settings.validate_eq_ok_iff.mp hvalid
  have hprepared : Accounts environment options s (prepare environment options) fun summary =>
      path? environment options = some summary.path := accounts_prepare consistent
  cases Ended.of_run h with
  | unprepared hprepare => exact hprepared.of_eq_error (.refl s) hprepare
  | @unwritten summary file _ middle _ hprepare hfile hreplace =>
      obtain ⟨cause, rfl⟩ := replaceFile_eq_replacement hreplace
      obtain ⟨hpath, -⟩ := hprepared.of_eq_ok (.refl s) hprepare
      cases cause with
      | malformedPath => exact .inr ⟨_, hpath, replaceFile_eq_malformedPath hreplace⟩
      | conflict temp | notCreated temp e | notWritten e | shortWrite written total =>
          exact .inl trivial

/-- The path has a NUL character in it. -/
theorem run_failure_of_malformed_path :
    let environment : Environment :=
      { home? := none, host := { hostname? := none, account? := none, uid := 0 }
        isTerminal := false, renderer := .absent }
    let settings : Settings :=
      { mode := some "hotp", minimalWindow := true, noRateLimit := true, emergencyCodes := 0
        force := true, quiet := true, secretPath := some "s\x00" }
    let session : Session :=
      { random := { name := "", device := .stream (List.replicate 20 0) true }
        respondent := .scripted (.inOrder []) [] []
        clock := .ofList .notANumber []
        files := { entries := [] } }
    ∃ options, settings.validate = .ok options ∧
      (runOn (run environment options) session).1 = .error (.replacement .malformedPath) ∧
      (Failure.replacement .malformedPath).StemsFrom environment options session := by
  intro environment settings session
  let options : Options :=
    { mode := some .counterBased, disallowReuse := none, stepSize := none, window := .minimal
      rate := .unlimited, emergencyCodes := 0, confirm := true, force := true, quiet := true
      label := none, issuer := none, secretPath := some "s\x00", qrMode := .drawn ⟨.ansi, .plain⟩ }
  have hvalid : settings.validate = .ok options := by decide +kernel
  have hfails : (runOn (run environment options) session).1 =
      .error (.replacement .malformedPath) := by decide +kernel
  have hcause := run_failure environment hvalid session (Prod.ext hfails rfl)
  exact ⟨options, hvalid, hfails, hcause.resolve_left id⟩

/-- A QR code that cannot be made ends a run, although the URI could have been shown as text. -/
example :
    let overflow : QrCode.EncoderError := ⟨"no version holds that much"⟩
    let environment : Environment :=
      { home? := none, host := { hostname? := none, account? := none, uid := 0 }
        isTerminal := true, renderer := .terminal ⟨.ansi, .plain⟩ (some fun _ => .error overflow) }
    let options : Options :=
      { mode := some .counterBased, disallowReuse := none, stepSize := none, window := .minimal
        rate := .unlimited, emergencyCodes := 0, confirm := true, force := true, quiet := false
        label := none, issuer := none, secretPath := some "s", qrMode := .drawn ⟨.ansi, .plain⟩ }
    let session : Session :=
      { random := { name := "", device := .stream (List.replicate 20 0) true }
        respondent := .scripted (.inOrder []) [] []
        clock := .ofList .notANumber []
        files := { entries := [] } }
    (runOn (run environment options) session).1 = .error (.encoding overflow) := by
  decide +kernel

/-- The clock stands before the time that steps are counted from. There is no counter for a code to be
checked by, and no failure that a run is meant to end with. -/
theorem run_fails_of_early_clock :
    let environment : Environment :=
      { home? := none, host := { hostname? := none, account? := none, uid := 0 }
        isTerminal := false, renderer := .absent }
    let settings : Settings :=
      { mode := some "totp", disallowReuse := some false, windowSize := some 3, noRateLimit := true
        emergencyCodes := 0, force := true, secretPath := some "s" }
    let session : Session :=
      { random := { name := "", device := .stream (Text.utf8 "12345678901234567890") true }
        respondent := .scripted (.inOrder []) [some 1] []
        clock := .ofList (.seconds (-1)) []
        files := { entries := [] } }
    ∃ options failure, settings.validate = .ok options ∧
      (runOn (run environment options) session).1 = .error failure ∧ ¬ failure.IsOwn := by
  intro environment settings session
  have hvalid : settings.validate = .ok
      { mode := some .timeBased, disallowReuse := some false, stepSize := none, window := .size 3
        rate := .unlimited, emergencyCodes := 0, confirm := true, force := true, quiet := false
        label := none, issuer := none, secretPath := some "s"
        qrMode := .drawn ⟨.ansi, .plain⟩ } := by decide +kernel
  refine ⟨_, .code .counterOutOfRange, hvalid, ?_, id⟩
  decide +kernel

end Run

end Enrollment

end OneTimePassword
