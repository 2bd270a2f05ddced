/-
Module: OneTimePassword.Proofs.Enrollment.Credential
Purpose: A run with a result stores, returns and shows one and the same credential, and draws it from
  the supply of random bytes in order.
Main exports: Enrollment.Prepared.talks, Enrollment.Prepared.accounts, Enrollment.run_credential
-/
import OneTimePassword.Proofs.Base32.Symbols
import OneTimePassword.Proofs.Enrollment.Files
import OneTimePassword.Proofs.Text.Plain

namespace OneTimePassword.Enrollment

open Session (Talks Consumes)
open SetupM (runOn Keeps)

variable {environment : Environment} {options : Options} {s t : Session} {summary : Summary}
  {file : SecretFile} {bytes : Bytes}

theorem drawSecret_eq_ok {secret : String} (hdevice : s.random.device = .stream bytes true)
    (h : runOn drawSecret s = (.ok secret, t)) :
    ∃ seed, seed.length = secretSize ∧ secret = Base32.encode seed ∧ Consumes seed s t := by
  obtain ⟨seed, middle, hread, hrest⟩ := SetupM.runOn_bind_eq_ok_iff.mp h
  obtain ⟨hlength, consumed⟩ := readRandom_eq_ok hdevice hread
  rw [SetupM.runOn_bind_of_ok (SetupM.runOn_note _ _)] at hrest
  cases hrest
  exact ⟨seed, hlength, rfl, consumed⟩

/-- The sheet on which the codes are listed. -/
def listing (codes : List Nat) : String :=
  String.join (codes.map fun code : Nat => "  " ++ ScratchCode.display code ++ "\n")

/-- What comes behind the list of the codes is talk. -/
theorem Prepared.talks (prepared : Prepared environment options s summary t) :
    ∃ drawn settled presented filled listed,
      runOn drawSecret s = (.ok summary.secret, drawn) ∧
      runOn (settleMode options) drawn = (.ok summary.mode, settled) ∧
      (if options.quiet then presented = settled
        else runOn (presentSecret environment options summary.secret summary.mode) settled =
          (.ok (), presented)) ∧
      runOn (ScratchCode.drawMany options.emergencyCodes) presented =
        (.ok summary.scratchCodes, filled) ∧
      (if options.quiet then listed = filled
        else listed = { filled with printed := filled.printed ++ listing summary.scratchCodes }) ∧
      Talks listed t := by
  rcases prepared with ⟨hsecret, hmode, hpresented, hcodes, hlisted, hpath, hanswered, hfile⟩
  rename_i drawn settled presented filled listed placed answered
  have hplaced : Talks listed placed := (keepsTalks_secretPath _ _).of_run hpath
  have hansweredTalks : Talks placed answered := by
    split at hanswered
    · exact hanswered.2 ▸ .refl placed
    · exact Keeps.of_run (Keeps.talks_ask _) hanswered
  have hend : Talks answered t := by
    split at hfile
    · exact (SecretFile.keepsTalks_compose _ _ _ _).of_run hfile
    · exact hfile ▸ ⟨rfl, rfl, "", by simp⟩
  refine ⟨drawn, settled, presented, filled, listed, hsecret, hmode, hpresented, hcodes, ?_,
    (hplaced.trans hansweredTalks).trans hend⟩
  cases hquiet : options.quiet with
  | true =>
      rw [hquiet, if_pos rfl] at hlisted
      exact hlisted
  | false =>
      rw [hquiet, if_neg (by simp), runOn_printCodes] at hlisted
      exact (Prod.mk.inj hlisted).2.symm

/-- A preparation draws the secret, talks, draws the codes and talks again. Unless it is quiet it
prints the secret in between and the codes behind. -/
theorem Prepared.accounts (prepared : Prepared environment options s summary t)
    (hdevice : s.random.device = .stream bytes true) :
    ∃ seed blocks drawn presented filled,
      (seed.length = secretSize ∧ summary.secret = Base32.encode seed) ∧
      (summary.scratchCodes.length = options.emergencyCodes ∧
        ScratchCode.IsDrawn blocks summary.scratchCodes) ∧
      Consumes seed s drawn ∧ Talks drawn presented ∧
      Consumes blocks.flatten presented filled ∧ Talks filled t ∧
      (options.quiet = false →
        (∃ before between, presented.printed =
          drawn.printed ++ before ++ ("Your new secret key is: " ++ summary.secret ++ "\n") ++
            between ++ "Your emergency scratch codes are:\n") ∧
        ∃ after, t.printed = filled.printed ++ listing summary.scratchCodes ++ after) := by
  obtain ⟨drawn, settled, presented, filled, listed, hsecret, hmode, hpresented, hcodes, hlisted,
    hlast⟩ := prepared.talks
  obtain ⟨seed, hlength, hencoded, consumed⟩ := drawSecret_eq_ok hdevice hsecret
  have hsettled : Talks drawn settled := (keepsTalks_settleMode options).of_run hmode
  have hpresentedTalks : Talks settled presented := by
    split at hpresented
    · exact hpresented ▸ .refl settled
    · exact (keepsTalks_presentSecret _ _ _ _).of_run hpresented
  rcases consumed.exists_left with ⟨left, hleft⟩
  have hpresentedDevice : presented.random.device = .stream left true := by
    rw [hpresentedTalks.1, hsettled.1, hleft]
  obtain ⟨hcount, blocks, hdrawn, consumedCodes⟩ := ScratchCode.drawMany_eq_ok hpresentedDevice hcodes
  have htalks : Talks drawn presented := hsettled.trans hpresentedTalks
  cases hquiet : options.quiet with
  | true =>
      rw [hquiet, if_pos rfl] at hlisted
      subst hlisted
      exact ⟨seed, blocks, drawn, presented, listed, ⟨hlength, hencoded⟩, ⟨hcount, hdrawn⟩, consumed,
        htalks, consumedCodes, hlast, by simp⟩
  | false =>
      rw [hquiet, if_neg (by simp)] at hlisted hpresented
      subst hlisted
      obtain ⟨before, between, hshown⟩ := printed_presentSecret hpresented
      rcases hsettled with ⟨-, -, talk, htalk⟩
      rcases hlast with ⟨hrandom, hfiles, after, hafter⟩
      refine ⟨seed, blocks, drawn, presented, filled, ⟨hlength, hencoded⟩, ⟨hcount, hdrawn⟩, consumed,
        htalks, consumedCodes, ?_, fun _ => ⟨?_, after, hafter⟩⟩
      · exact ⟨hrandom, hfiles, listing summary.scratchCodes ++ after, by
          rw [hafter, String.append_assoc]⟩
      · exact ⟨talk ++ before, between, by simp only [hshown, htalk, String.append_assoc]⟩

theorem listing_eq {codes : List Nat} {blocks : List Bytes}
    (hdrawn : ScratchCode.IsDrawn blocks codes) :
    listing codes = String.join (codes.map fun code => "  " ++ Text.decimalNat code ++ "\n") := by
  rw [listing]
  congr 1
  apply List.map_congr_left
  intro code hcode
  rw [hdrawn.display_eq_decimalNat hcode]

/-- The lines of a secret file are those that it was put together from. -/
theorem linesOf_text {secret : String} {mode : Mode} {codes : List Nat} {blocks : List Bytes}
    {directives : List Directive} (hsecret : '\n' ∉ secret.toList)
    (hdrawn : ScratchCode.IsDrawn blocks codes)
    (hlines : file.lines = secret :: (directives.map Directive.line ++
      mode.line :: (codes.map Int.ofNat).map ScratchCode.display)) :
    Respondent.linesOf file.text = secret :: (directives.map Directive.line ++
      mode.line :: codes.map Text.decimalNat) := by
  have hcodes : (codes.map Int.ofNat).map ScratchCode.display = codes.map Text.decimalNat := by
    rw [List.map_map]
    apply List.map_congr_left
    intro code hcode
    exact hdrawn.display_eq_decimalNat hcode
  rw [hcodes] at hlines
  rw [SecretFile.linesOf_text, hlines]
  intro line hline
  rw [hlines] at hline
  simp only [List.mem_cons, List.mem_append, List.mem_map] at hline
  rcases hline with rfl | ⟨directive, -, rfl⟩ | rfl | ⟨code, -, rfl⟩
  · exact hsecret
  · exact directive.newline_notMem_line
  · exact mode.newline_notMem_line
  · exact Text.newline_notMem_decimalNat code

/-- A secret is not mistaken for a mode line. -/
theorem encode_ne_mode_line (raw : Bytes) (mode : Mode) : Base32.encode raw ≠ mode.line :=
  (Text.isPlain_encode raw).ne_mode_line mode

/-- A run that has written a file returns, stores and shows one credential. The secret is what the
first bytes of the stream encode. The codes are what the blocks behind stand for, less those that
are turned down, and what is behind the last code's block is still in the stream. The file at the path
is for its owner alone and has the secret on top and the codes behind its one mode line. Unless it was
quiet, the run has printed them too. -/
theorem run_credential (hdevice : s.random.device = .stream bytes true)
    (h : runOn (run environment options) s = (.ok summary, t)) (hfile : summary.file? = some file) :
    (∃ seed blocks left, bytes = seed ++ blocks.flatten ++ left ∧
      t.random.device = .stream left true ∧
      seed.length = 20 ∧ summary.secret = Base32.encode seed ∧
      ScratchCode.IsDrawn blocks summary.scratchCodes ∧
      summary.scratchCodes.length = options.emergencyCodes) ∧
    (∃ place, s.files.place summary.path = .ok place ∧
      t.files.lookup place = some (.file 0o600 (Text.utf8 file.text)) ∧
      ((∀ link, s.files.lookup place ≠ some (.link link)) →
        t.files.place summary.path = .ok place) ∧
      (t.files.place summary.path = .ok place ↔
        (s.files.erase place).place summary.path = .ok place)) ∧
    (∃ directives, Respondent.linesOf file.text =
        summary.secret :: (directives ++
          summary.mode.line :: summary.scratchCodes.map Text.decimalNat) ∧
      summary.mode.line ∉ summary.secret :: directives ∧
      ∀ code ∈ summary.scratchCodes, (Text.decimalNat code).length = 8) ∧
    (options.quiet = false → ∃ before between after, t.printed =
      s.printed ++ before ++ ("Your new secret key is: " ++ summary.secret ++ "\n") ++ between ++
        "Your emergency scratch codes are:\n" ++
        String.join (summary.scratchCodes.map fun code => "  " ++ Text.decimalNat code ++ "\n") ++
        after) := by
  obtain ⟨middle, prepared, hreplace⟩ := run_eq_ok h
  rw [hfile] at hreplace
  obtain ⟨hrandom, hprinted, place, temp, replaced⟩ := replaceFile_eq_ok hreplace
  obtain ⟨seed, blocks, drawn, presented, filled, ⟨hlength, hsecret⟩, ⟨hcount, hdrawn⟩, hseed,
    htalks, hblocks, hlast, hshown⟩ := prepared.accounts hdevice
  obtain ⟨answered, hcompose⟩ := prepared.exists_compose hfile
  obtain ⟨directives, hlines⟩ :=
    SecretFile.compose_eq_ok (hsecret ▸ Base32.newline_notMem_encode seed) hcompose
  have hfiles : middle.files = s.files := by rw [hlast.2.1, hblocks.1, htalks.2.1, hseed.1]
  rw [hfiles] at replaced
  refine ⟨?_, ?_, ?_, ?_⟩
  · rcases hseed with ⟨-, -, behind, hstream, hdrawnDevice⟩
    rcases hblocks with ⟨-, -, left, hpresentedDevice, hleft⟩
    rw [htalks.1, hdrawnDevice] at hpresentedDevice
    obtain ⟨rfl, -⟩ := RandomBytes.Device.stream.inj hpresentedDevice
    obtain ⟨rfl, -⟩ := RandomBytes.Device.stream.inj (hdevice.symm.trans hstream)
    refine ⟨seed, blocks, left, by rw [List.append_assoc], ?_, hlength, hsecret, hdrawn, hcount⟩
    rw [hrandom, hlast.1, hleft]
  · exact ⟨place, replaced.place_target, replaced.content, replaced.reached, replaced.reached_iff⟩
  · refine ⟨directives.map Directive.line, linesOf_text ?_ hdrawn hlines, ?_, ?_⟩
    · exact hsecret ▸ Base32.newline_notMem_encode seed
    · rw [List.mem_cons, List.mem_map]
      rintro (hmode | ⟨directive, -, hmode⟩)
      · exact encode_ne_mode_line seed summary.mode (hsecret ▸ hmode.symm)
      · exact directive.line_ne_mode_line summary.mode hmode
    · intro code hcode
      obtain ⟨haccepted, hlt⟩ := hdrawn.isAccepted hcode
      exact ScratchCode.length_decimalNat_of_isAccepted haccepted hlt
  · intro hquiet
    obtain ⟨⟨before, between, hpresented⟩, after, hafter⟩ := hshown hquiet
    refine ⟨before, between, after, ?_⟩
    rw [hprinted, hafter, hblocks.2.1, hpresented, hseed.2.1, listing_eq hdrawn]

/-- The second of three blocks is turned down, and a byte is left over. -/
theorem run_credential_of_rejected_block :
    let environment : Environment :=
      { home? := none, host := { hostname? := none, account? := none, uid := 0 }
        isTerminal := false, renderer := .absent }
    let options : Options :=
      { mode := some .timeBased, disallowReuse := some true, stepSize := none, window := .minimal
        rate := .unlimited, emergencyCodes := 2, confirm := true, force := true, quiet := false
        label := none, issuer := none, secretPath := some "s", qrMode := .hidden }
    let bytes : Bytes := List.replicate 20 0 ++ [1, 49, 45, 0] ++ [0, 0, 0, 1] ++ [2, 98, 90, 0] ++ [9]
    let session : Session :=
      { random := { name := "", device := .stream bytes true }
        respondent := .scripted (.inOrder []) [] []
        clock := .ofList .notANumber []
        files := { entries := [] } }
    ∃ summary final file, runOn (run environment options) session = (.ok summary, final) ∧
      summary.file? = some file ∧ summary.scratchCodes = [20000000, 40000000] ∧
      (∃ seed blocks left, bytes = seed ++ blocks.flatten ++ left ∧
        final.random.device = .stream left true ∧ seed.length = 20 ∧
        summary.secret = Base32.encode seed ∧ ScratchCode.IsDrawn blocks summary.scratchCodes) ∧
      ∃ place, session.files.place summary.path = .ok place ∧
        final.files.lookup place = some (.file 0o600 (Text.utf8 file.text)) := by
  intro environment options bytes session
  let file : SecretFile :=
    { capacity := 209, secret := "AAAAAAAAAAAAAAAAAAAAAAAAAAAAAAAA"
      directives := ["\" WINDOW_SIZE 3", "\" DISALLOW_REUSE"]
      entries := ["\" TOTP_AUTH", "20000000", "40000000"] }
  let summary : Summary :=
    { secret := "AAAAAAAAAAAAAAAAAAAAAAAAAAAAAAAA", mode := .timeBased
      scratchCodes := [20000000, 40000000], path := "s", file? := some file }
  have hprepare : (runOn (prepare environment options) session).1.toOption = some summary := by
    decide +kernel
  obtain ⟨final, hrun, -⟩ :=
    exists_run_of_isName hprepare rfl rfl (by decide) (by decide +kernel) (by decide) rfl
  obtain ⟨⟨seed, blocks, left, hbytes, hleft, hlength, hsecret, hdrawn, -⟩,
    ⟨place, hplace, hcontent, -⟩, -⟩ := run_credential rfl hrun rfl
  exact ⟨summary, final, file, hrun, rfl, rfl,
    ⟨seed, blocks, left, hbytes, hleft, hlength, hsecret, hdrawn⟩, place, hplace, hcontent⟩

end OneTimePassword.Enrollment
