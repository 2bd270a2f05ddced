/-
Module: OneTimePassword.Proofs.Enrollment.Secrecy
Purpose: A quiet run keeps its secret to itself: but for the content of the secret file, whatever
  can be seen of it is the same for all random bytes.
Main exports: Failure.IsOfShortage, Session.LooksLike, Session.Indistinct, Enrollment.Summary.Twin,
  Enrollment.agree_prepare, Enrollment.quiet_run_reveals_nothing
-/
import OneTimePassword.Proofs.Enrollment.Failures
import OneTimePassword.Proofs.Enrollment.LateMode
import OneTimePassword.Proofs.Replacement.Content
import OneTimePassword.Proofs.SecretFile.Twin

namespace OneTimePassword

open SetupM (runOn Respects Ensures Agree Matches Inquiring)
open SecretFile (AlikeLine AlikeCodes)

/-- The failures for want of random bytes. A source that is closed does not even try. -/
def Failure.IsOfShortage : Failure → Prop
  | .random .closedStream | .random .closedNode => False
  | .random _ => True
  | .uri _ | .conflict _ | .blank _ | .clock _ | .code _ | .unanswered _ | .encoding _ | .drawing _
  | .noHome | .refusal _ | .replacement _ => False

namespace Session

/-- All that can be seen of a session is the same: what is left of the answers, the questions and
other output, the texts that were handed over to be shown as QR codes, and the warnings. -/
structure LooksLike (s t : Session) : Prop where
  respondent : t.respondent = s.respondent
  clock : t.clock = s.clock
  printed : t.printed = s.printed
  shown : t.shown = s.shown
  warnings : t.journal.filter (·.isWarning) = s.journal.filter (·.isWarning)

/-- The files are the same as well, and random bytes can be had in both sessions. -/
structure Indistinct (s t : Session) : Prop extends LooksLike s t where
  files : t.files = s.files
  isOpen : s.random.device.isOpen = true ∧ t.random.device.isOpen = true

theorem Indistinct.symm (s t : Session) (h : Indistinct s t) : Indistinct t s :=
  ⟨⟨h.respondent.symm, h.clock.symm, h.printed.symm, h.shown.symm, h.warnings.symm⟩, h.files.symm,
    h.isOpen.symm⟩

variable {s t : Session}

/-- Records that are none of the warnings make no difference. -/
theorem Indistinct.note (h : Indistinct s t) (text : String) {random : RandomBytes.Supply}
    (hopen : random.device.isOpen = true) :
    Indistinct s { t with random, journal := t.journal ++ [.debug text] } := by
  refine ⟨⟨h.respondent, h.clock, h.printed, h.shown, ?_⟩, h.files, h.isOpen.1, hopen⟩
  rw [List.filter_append, h.warnings]
  exact List.append_nil _

/-- The same records are the same warnings. -/
theorem LooksLike.append (h : LooksLike s t) (records : List Record) (files files' : FileSystem) :
    LooksLike { s with files, journal := s.journal ++ records }
      { t with files := files', journal := t.journal ++ records } := by
  refine ⟨h.respondent, h.clock, h.printed, h.shown, ?_⟩
  rw [List.filter_append, List.filter_append, h.warnings]

end Session

open Session (LooksLike Indistinct)

/-! ### Steps that both sessions take -/

theorem SetupM.inquiring_indistinct : Inquiring fun x => Respects Indistinct x where
  toCompositional := SetupM.compositional_respects Indistinct
  note record := by
    intro s t h
    exact ⟨rfl, h.append [record] _ _, h.files, h.isOpen⟩
  askWhether := by
    intro message _ s t h
    have hprinted := congrArg (· ++ (Respondent.askWhether message s.respondent).printed) h.printed
    rw [askWhether, SetupM.runOn_ask, SetupM.runOn_ask, h.respondent]
    cases (Respondent.askWhether message s.respondent).outcome with
    | error stop => exact ⟨rfl, ⟨rfl, h.clock, hprinted, h.shown, h.warnings⟩, h.files, h.isOpen⟩
    | ok answer => exact ⟨rfl, ⟨rfl, h.clock, hprinted, h.shown, h.warnings⟩, h.files, h.isOpen⟩

namespace Enrollment

/-! ### Random bytes -/

section Drawing

variable (s : Session)

theorem ensures_note_indistinct (text : String) :
    Ensures (Indistinct s) (note (.debug text)) (fun _ => Indistinct s) Failure.IsOfShortage :=
  .modify fun _ h => h.note text h.isOpen.2

theorem ensures_readRandom_indistinct (wanted : Nat) :
    Ensures (Indistinct s) (readRandom wanted)
      (fun data t => data.length = wanted ∧ Indistinct s t) Failure.IsOfShortage := by
  constructor
  intro t h
  have hopen := (RandomBytes.Device.isOpen_pull wanted t.random.device).trans h.isOpen.2
  rw [runOn_readRandom]
  rcases RandomBytes.Supply.read_cases t.random wanted with
    ⟨data, hlength, -, hread⟩ | ⟨e, he, hread⟩
  · rw [hread]
    exact ⟨Int.ofNat_inj.mp hlength, h.note _ hopen⟩
  · rw [hread]
    rcases he with ⟨cause, rfl⟩ | ⟨got, rfl⟩ | ⟨hnone, -⟩
    · trivial
    · trivial
    · cases h.isOpen.2.symm.trans (RandomBytes.Device.isOpen_of_pull hnone)

/-- A secret is as long as any other. -/
theorem ensures_drawSecret :
    Ensures (Indistinct s) drawSecret
      (fun secret t =>
        (Text.IsPlain secret ∧ secret.length = SecretFile.secretLength) ∧ Indistinct s t)
      Failure.IsOfShortage := by
  apply (ensures_readRandom_indistinct s secretSize).bind
  intro seed
  apply Ensures.assume
  intro hseed
  have hlength : (Base32.encode seed).length = SecretFile.secretLength := by
    rw [Base32.length_encode, hseed]
    rfl
  exact (ensures_note_indistinct s _).bind fun _ =>
    .pure fun _ h => ⟨⟨Text.isPlain_encode seed, hlength⟩, h⟩

theorem ensures_drawWithin_indistinct (blocks : Nat) :
    Ensures (Indistinct s) (ScratchCode.drawWithin blocks)
      (fun code t => (ScratchCode.IsAccepted code ∧ code < ScratchCode.modulus) ∧ Indistinct s t)
      Failure.IsOfShortage := by
  induction blocks with
  | zero => exact ⟨fun _ _ => trivial⟩
  | succ blocks ih =>
      apply (ensures_readRandom_indistinct s ScratchCode.blockLength).bind
      intro block
      apply Ensures.assume
      intro
      dsimp only
      split
      · rename_i haccepted
        exact .pure fun t h => ⟨⟨haccepted, ScratchCode.ofBlock_lt_modulus block⟩, h⟩
      · exact (ensures_note_indistinct s _).bind fun _ => ih

/-- However many blocks they cost, there are as many codes as there should be. -/
theorem ensures_drawMany_indistinct (count : Nat) :
    Ensures (Indistinct s) (ScratchCode.drawMany count)
      (fun codes t => (codes.length = count ∧
        ∀ code ∈ codes, ScratchCode.IsAccepted code ∧ code < ScratchCode.modulus) ∧ Indistinct s t)
      Failure.IsOfShortage :=
  ScratchCode.ensures_drawMany ⟨fun t h => (ensures_drawWithin_indistinct s _).of_run t h⟩
    (ensures_note_indistinct s) count

end Drawing

/-! ### Two preparations -/

/-- Codes are all written alike. -/
theorem alikeCodes {codes codes' : List Nat} (hlength : codes.length = codes'.length)
    (hcodes : ∀ code ∈ codes, ScratchCode.IsAccepted code ∧ code < ScratchCode.modulus)
    (hcodes' : ∀ code ∈ codes', ScratchCode.IsAccepted code ∧ code < ScratchCode.modulus) :
    AlikeCodes (codes.map Int.ofNat) (codes'.map Int.ofNat) := by
  rw [AlikeCodes, List.forall₂_map_left_iff, List.forall₂_map_right_iff, List.forall₂_iff_zip]
  refine ⟨hlength, ?_⟩
  intro code code' hmem
  obtain ⟨hleft, hright⟩ := List.of_mem_zip hmem
  obtain ⟨haccepted, hlt⟩ := hcodes code hleft
  obtain ⟨haccepted', hlt'⟩ := hcodes' code' hright
  change AlikeLine (ScratchCode.display (code : Int)) (ScratchCode.display (code' : Int))
  rw [ScratchCode.display_eq_decimalNat haccepted hlt,
    ScratchCode.display_eq_decimalNat haccepted' hlt']
  refine .plain (Text.isPlain_decimalNat code) (Text.isPlain_decimalNat code') ?_
  rw [ScratchCode.length_decimalNat_of_isAccepted haccepted hlt,
    ScratchCode.length_decimalNat_of_isAccepted haccepted' hlt']

/-- Two results differ in the secret, in the codes and so in what the file has of them. -/
structure Summary.Twin (first second : Summary) : Prop where
  secret : AlikeLine first.secret second.secret
  mode : second.mode = first.mode
  codes : AlikeCodes (first.scratchCodes.map Int.ofNat) (second.scratchCodes.map Int.ofNat)
  path : second.path = first.path
  file : Option.Rel SecretFile.Twin first.file? second.file?

variable {environment : Environment} {options : Options}

/-- What two preparations hand on: twins, which are meant for the path of the secret file. -/
def HandsOn (environment : Environment) (options : Options) (first second : Summary) : Prop :=
  path? environment options = some first.path ∧ first.Twin second

theorem agree_secretPath (environment : Environment) (options : Options) :
    Agree Failure.IsOfShortage Indistinct
      (fun path path' => path? environment options = some path ∧ path' = path)
      (secretPath environment options) (secretPath environment options) := by
  unfold secretPath path?
  split
  · rename_i path hpath
    exact .pure ⟨by simp [hpath], rfl⟩
  · rename_i hnone
    split
    · rename_i path hpath
      exact .pure ⟨by simp [hnone, hpath], rfl⟩
    · exact .throw _

theorem agree_draft (environment : Environment) (hquiet : options.quiet = true) :
    Agree Failure.IsOfShortage Indistinct (HandsOn environment options) (draft environment options)
      (draft environment options) := by
  unfold draft draftFor
  simp only [hquiet, Bool.not_true, Bool.false_eq_true, if_false]
  apply (Agree.absorb Indistinct.symm ensures_drawSecret ensures_drawSecret).bind
  rintro secret secret' ⟨⟨hplain, hlength⟩, ⟨hplain', hlength'⟩⟩
  apply (Agree.of_respects (SetupM.inquiring_indistinct.settleMode options)).bind
  rintro mode _ rfl
  apply (Agree.absorb Indistinct.symm (ensures_drawMany_indistinct · options.emergencyCodes)
    (ensures_drawMany_indistinct · options.emergencyCodes)).bind
  rintro codes codes' ⟨⟨hcount, hcodes⟩, ⟨hcount', hcodes'⟩⟩
  apply (agree_secretPath environment options).bind
  rintro path _ ⟨hpath, rfl⟩
  exact .pure ⟨hpath, .plain hplain hplain' (hlength'.trans hlength.symm), rfl,
    alikeCodes (hcount.trans hcount'.symm) hcodes hcodes', rfl, .none⟩

theorem agree_complete {first second : Summary} (handsOn : HandsOn environment options first second)
    (accepted : Bool) :
    Agree Failure.IsOfShortage Indistinct (HandsOn environment options)
      (complete options first accepted) (complete options second accepted) := by
  obtain ⟨hpath, twin⟩ := handsOn
  unfold complete
  cases accepted with
  | true =>
      rw [twin.mode]
      apply (Agree.compose SetupM.inquiring_indistinct twin.secret twin.codes _ _).bind
      intro file file' twins
      exact .pure ⟨hpath, twin.secret, rfl, twin.codes, twin.path, .some twins⟩
  | false =>
      rw [twin.path]
      apply (Agree.of_respects (SetupM.inquiring_indistinct.note _)).bind
      rintro _ _ -
      exact .pure ⟨hpath, twin.secret, twin.mode, twin.codes, rfl, .none⟩

/-- Two quiet preparations look the same. -/
theorem agree_prepare (environment : Environment) (hquiet : options.quiet = true) :
    Agree Failure.IsOfShortage Indistinct (HandsOn environment options)
      (prepare environment options) (prepare environment options) := by
  rw [prepare_eq]
  apply (agree_draft environment hquiet).bind
  intro first second handsOn
  rw [handsOn.2.path]
  exact .leave (SetupM.inquiring_indistinct.askWhether (updateQuestion_ne_codeQuestion _))
    fun accepted => agree_complete handsOn accepted

/-! ### Two replacements -/

/-- Trees of one shape, with the same in all places but for the two that a replacement is about. -/
structure SameBeside (before : FileSystem) (path : String) (files files' : FileSystem) : Prop where
  shape : files'.shape = files.shape
  beside : ∀ location, files'.lookup location ≠ files.lookup location →
    before.place path = .ok location ∨ before.place (Replacement.tempPath path) = .ok location

theorem sameBeside_finish (path : String) (faults : Faults) (before : FileSystem)
    {content content' : String}
    (hlength : (Text.utf8 content').length = (Text.utf8 content).length) :
    SameBeside before path
      (({ job := { target := path, content }, faults } : Replacement.Attempt).finish before).2
      (({ job := { target := path, content := content' }, faults } :
        Replacement.Attempt).finish before).2 := by
  obtain ⟨-, -, hshape⟩ := Replacement.Attempt.steps_alike
    { job := { target := path, content }, faults } hlength (Eq.refl before.shape)
  refine ⟨hshape, ?_⟩
  intro location
  contrapose!
  rintro ⟨htarget, htemp⟩
  rw [Replacement.Attempt.lookup_finish_of_ne { target := path, content := content' } before faults
    htarget htemp, Replacement.Attempt.lookup_finish_of_ne { target := path, content } before faults
    htarget htemp]

/-- To put its twin in the place of the file looks the same. -/
theorem replaceFile_alike {file file' : SecretFile} (twin : file.Twin file') (faults : Faults)
    (path : String) {s t : Session} (h : Indistinct s t) :
    (runOn (replaceFile faults path file) s).1 = (runOn (replaceFile faults path file') t).1 ∧
      LooksLike (runOn (replaceFile faults path file) s).2
        (runOn (replaceFile faults path file') t).2 ∧
      SameBeside s.files path (runOn (replaceFile faults path file) s).2.files
        (runOn (replaceFile faults path file') t).2.files := by
  let attempt : Replacement.Attempt := { job := { target := path, content := file.text }, faults }
  obtain ⟨hsteps, hend, -⟩ := attempt.steps_alike twin.length_text (Eq.refl s.files.shape)
  have hreport : ((attempt.withContent file'.text).finish s.files).1.report? =
      (attempt.finish s.files).1.report? := (congrArg Replacement.Attempt.report? hend).trans rfl
  have hjournal := Replacement.journalOf_alike hsteps
  have hlooks := h.append (Replacement.journalOf (attempt.steps s.files))
    (attempt.finish s.files).2 ((attempt.withContent file'.text).finish s.files).2
  have hnote (record : Record) : Respects
      (fun s' t' => LooksLike s' t' ∧ SameBeside s.files path s'.files t'.files) (note record) :=
    fun _ _ related => ⟨rfl, related.1.append [record] _ _, related.2⟩
  have hconclude := respects_conclude hnote path ((attempt.finish s.files).1.report?.getD (.ok ()))
    _ _ ⟨hlooks, sameBeside_finish path faults s.files twin.length_text⟩
  have hsecond : runOn (replaceFile faults path file') t =
      runOn (conclude path ((attempt.finish s.files).1.report?.getD (.ok ())))
        { t with
          files := ((attempt.withContent file'.text).finish s.files).2
          journal := t.journal ++ Replacement.journalOf (attempt.steps s.files) } := by
    rw [runOn_replaceFile, h.files, ← hreport, ← hjournal]
    rfl
  rw [hsecond]
  exact hconclude

theorem deliver_alike {first second : Summary} (twin : first.Twin second) {s t : Session}
    (h : Indistinct s t) :
    Matches Summary.Twin (runOn (deliver environment first) s).1
        (runOn (deliver environment second) t).1 ∧
      LooksLike (runOn (deliver environment first) s).2 (runOn (deliver environment second) t).2 ∧
      SameBeside s.files first.path (runOn (deliver environment first) s).2.files
        (runOn (deliver environment second) t).2.files := by
  have hfile := twin.file
  unfold deliver
  generalize first.file? = written at hfile ⊢
  generalize second.file? = written' at hfile ⊢
  cases hfile with
  | none =>
      exact ⟨.ok twin, h.toLooksLike, congrArg FileSystem.shape h.files,
        fun location hne => absurd (congrArg (·.lookup location) h.files) hne⟩
  | @some file file' twins =>
      have halike := replaceFile_alike twins environment.faults first.path h
      simp only [twin.path, SetupM.runOn_bind]
      rcases hfirst : runOn (replaceFile environment.faults first.path file) s with
        ⟨failure | ⟨⟩, final⟩
      · rw [hfirst] at halike
        rcases hsecond : runOn (replaceFile environment.faults first.path file') t with
          ⟨_, final'⟩
        rw [hsecond] at halike
        obtain ⟨rfl, hlooks, hbeside⟩ := halike
        exact ⟨.error failure, hlooks, hbeside⟩
      · rw [hfirst] at halike
        rcases hsecond : runOn (replaceFile environment.faults first.path file') t with
          ⟨_, final'⟩
        rw [hsecond] at halike
        obtain ⟨rfl, hlooks, hbeside⟩ := halike
        exact ⟨.ok twin, hlooks, hbeside⟩

/-! ### Two runs -/

/-- Two quiet runs look the same unless one of them is short of random bytes. -/
theorem quiet_runs_alike (hquiet : options.quiet = true) {s t : Session} (h : Indistinct s t)
    (hfirst : ¬ SetupM.FailsFor Failure.IsOfShortage (runOn (run environment options) s).1)
    (hsecond : ¬ SetupM.FailsFor Failure.IsOfShortage (runOn (run environment options) t).1) :
    Matches Summary.Twin (runOn (run environment options) s).1
        (runOn (run environment options) t).1 ∧
      LooksLike (runOn (run environment options) s).2 (runOn (run environment options) t).2 ∧
      (runOn (run environment options) t).2.files.shape =
        (runOn (run environment options) s).2.files.shape ∧
      ∀ location, (runOn (run environment options) t).2.files.lookup location ≠
          (runOn (run environment options) s).2.files.lookup location →
        ∃ path, path? environment options = some path ∧
          (s.files.place path = .ok location ∨
            s.files.place (Replacement.tempPath path) = .ok location) := by
  rw [run_eq_deliver] at hfirst hsecond ⊢
  have hprepare := agree_prepare environment hquiet s t h
  have hkept := keepsSameFiles_prepare environment options s
  rcases hs : runOn (prepare environment options) s with ⟨outcome, middle⟩
  rcases ht : runOn (prepare environment options) t with ⟨outcome', middle'⟩
  rw [hs, ht] at hprepare
  rw [hs] at hkept
  rcases hprepare with ⟨e, rfl, he⟩ | ⟨e, rfl, he⟩ | ⟨hmatches, related⟩
  · exact absurd ⟨e, by rw [SetupM.runOn_bind_of_error hs], he⟩ hfirst
  · exact absurd ⟨e, by rw [SetupM.runOn_bind_of_error ht], he⟩ hsecond
  · cases hmatches with
    | error e =>
        rw [SetupM.runOn_bind_of_error hs, SetupM.runOn_bind_of_error ht]
        exact ⟨.error e, related.toLooksLike, congrArg FileSystem.shape related.files,
          fun location hne => absurd (congrArg (·.lookup location) related.files) hne⟩
    | ok handsOn =>
        rw [SetupM.runOn_bind_of_ok hs, SetupM.runOn_bind_of_ok ht]
        obtain ⟨hmatches, hlooks, hbeside⟩ := deliver_alike handsOn.2 related
        refine ⟨hmatches, hlooks, hbeside.shape, ?_⟩
        intro location hne
        have hplace := hbeside.beside location hne
        rw [hkept] at hplace
        exact ⟨_, handsOn.1, hplace⟩

/-- A closed source ends a run at once. -/
theorem runOn_run_of_closed {s : Session} (hclosed : s.random.device.isOpen = false) :
    runOn (run environment options) s = (.error (.random s.random.device.closedError), s) := by
  have hread : runOn (readRandom secretSize) s =
      (.error (.random s.random.device.closedError), s) := by
    rw [runOn_readRandom, RandomBytes.Supply.read_of_closed hclosed]
  have hsecret : runOn drawSecret s = (.error (.random s.random.device.closedError), s) :=
    SetupM.runOn_bind_of_error hread
  have hdraft : runOn (draft environment options) s =
      (.error (.random s.random.device.closedError), s) := SetupM.runOn_bind_of_error hsecret
  rw [run_eq_deliver, prepare_eq]
  exact SetupM.runOn_bind_of_error (SetupM.runOn_bind_of_error hdraft)

/-- A quiet run reveals nothing about the secret. Of two runs that differ in nothing but the random
bytes, and that both have enough of them, all that can be seen is the same: whether they fail and
how, the questions and the rest of the output, the texts that are shown as QR codes, and the
warnings. Their results tell nothing but the secret and the codes apart, and the trees that they
leave have the same nodes of the same kinds and modes. What is in these can only differ at the path
of the secret file and at that of its temporary file. -/
theorem quiet_run_reveals_nothing (environment : Environment) (options : Options) (s : Session)
    (random random' : RandomBytes.Supply) (hquiet : options.quiet = true)
    (hsource : random.device.IsLike random'.device) :
    let first := runOn (run environment options) { s with random }
    let second := runOn (run environment options) { s with random := random' }
    (∀ failure, first.1 = .error failure → ¬ failure.IsOfShortage) →
    (∀ failure, second.1 = .error failure → ¬ failure.IsOfShortage) →
      Matches Summary.Twin first.1 second.1 ∧ LooksLike first.2 second.2 ∧
        second.2.files.shape = first.2.files.shape ∧
        ∀ location, second.2.files.lookup location ≠ first.2.files.lookup location →
          ∃ path, path? environment options = some path ∧
            (s.files.place path = .ok location ∨
              s.files.place (Replacement.tempPath path) = .ok location) := by
  intro first second hfirst hsecond
  cases hopen : random.device.isOpen with
  | true =>
      have hsame : Indistinct { s with random } { s with random := random' } :=
        ⟨⟨rfl, rfl, rfl, rfl, rfl⟩, rfl, hopen, hsource.isOpen_eq.trans hopen⟩
      apply quiet_runs_alike hquiet hsame
      · rintro ⟨failure, hfailure, hcause⟩
        exact hfirst failure hfailure hcause
      · rintro ⟨failure, hfailure, hcause⟩
        exact hsecond failure hfailure hcause
  | false =>
      have hends : first = (.error (.random random.device.closedError), { s with random }) :=
        runOn_run_of_closed hopen
      have hends' : second =
          (.error (.random random'.device.closedError), { s with random := random' }) :=
        runOn_run_of_closed (hsource.isOpen_eq.trans hopen)
      rw [hends, hends', hsource.closedError_eq]
      exact ⟨.error _, ⟨rfl, rfl, rfl, rfl, rfl⟩, rfl, fun _ hne => absurd rfl hne⟩

/-- One of the runs has to draw a code twice. -/
theorem quiet_run_reveals_nothing_of_rejected_block :
    let environment : Environment :=
      { home? := none, host := { hostname? := none, account? := none, uid := 0 }
        isTerminal := true, renderer := .viewer true }
    let options : Options :=
      { mode := some .timeBased, disallowReuse := some true, stepSize := none, window := .minimal
        rate := .unlimited, emergencyCodes := 1, confirm := true, force := true, quiet := true
        label := none, issuer := none, secretPath := some "s", qrMode := .drawn ⟨.ansi, .plain⟩ }
    let s : Session :=
      { random := { name := "", device := .outcomes [] }
        respondent := .scripted (.inOrder []) [] []
        clock := .ofList .notANumber []
        files := { entries := [(["s"], .file 0o644 [65]), (["t"], .directory)] } }
    let random : RandomBytes.Supply :=
      { name := "", device := .stream (List.replicate 20 0 ++ [1, 49, 45, 0]) true }
    let random' : RandomBytes.Supply :=
      { name := ""
        device := .stream (List.replicate 20 255 ++ [0, 0, 0, 9, 1, 49, 45, 1, 7]) true }
    let first := runOn (run environment options) { s with random }
    let second := runOn (run environment options) { s with random := random' }
    options.quiet = true ∧ random.device.IsLike random'.device ∧
      (∀ failure, first.1 = .error failure → ¬ failure.IsOfShortage) ∧
      (∀ failure, second.1 = .error failure → ¬ failure.IsOfShortage) ∧
      Matches Summary.Twin first.1 second.1 ∧ LooksLike first.2 second.2 ∧
      second.2.files.shape = first.2.files.shape := by
  intro environment options s random random' first second
  let file (secret code : String) : SecretFile :=
    { capacity := 209, secret, directives := ["\" WINDOW_SIZE 3", "\" DISALLOW_REUSE"]
      entries := ["\" TOTP_AUTH", code] }
  let summary (secret : String) (code : Nat) : Summary :=
    { secret, mode := .timeBased, scratchCodes := [code], path := "s"
      file? := some (file secret (Text.decimalNat code)) }
  have hprepare : (runOn (prepare environment options) { s with random }).1.toOption =
      some (summary "AAAAAAAAAAAAAAAAAAAAAAAAAAAAAAAA" 20000000) := by decide +kernel
  have hprepare' : (runOn (prepare environment options) { s with random := random' }).1.toOption =
      some (summary "77777777777777777777777777777777" 20000001) := by decide +kernel
  obtain ⟨final, hrun, -⟩ :=
    exists_run_of_isName hprepare rfl rfl (by decide) (by decide +kernel) (by decide) rfl
  obtain ⟨final', hrun', -⟩ :=
    exists_run_of_isName hprepare' rfl rfl (by decide) (by decide +kernel) (by decide) rfl
  have hfirst : ∀ failure, first.1 = .error failure → ¬ failure.IsOfShortage := by
    intro failure hfailure
    cases (congrArg Prod.fst hrun).symm.trans hfailure
  have hsecond : ∀ failure, second.1 = .error failure → ¬ failure.IsOfShortage := by
    intro failure hfailure
    cases (congrArg Prod.fst hrun').symm.trans hfailure
  obtain ⟨hmatches, hlooks, hshape, -⟩ :=
    quiet_run_reveals_nothing environment options s random random' rfl rfl hfirst hsecond
  exact ⟨rfl, rfl, hfirst, hsecond, hmatches, hlooks, hshape⟩

end Enrollment

end OneTimePassword
