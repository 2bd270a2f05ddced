/-
Module: OneTimePassword.Proofs.SecretFile.ModeLine
Purpose: How many mode lines a secret file has after any run of edits, and which codes stand above.
Main exports: SecretFile.IsModeLine, SecretFile.IsCodeLine, SecretFile.ModeAboveCodes,
  SecretFile.Edit.IsProper, SecretFile.Stores, SecretFile.History.stores, SecretFile.place_of_mode
-/
import OneTimePassword.Proofs.SecretFile.History

namespace OneTimePassword.SecretFile

open SetupM (runOn)

/-! ### Lines -/

/-- A line that reads as a mode. -/
def IsModeLine (line : String) : Prop := ∃ mode : Mode, line = mode.line

/-- A line that reads as a scratch code, that is, a line of eight digits. -/
def IsCodeLine (line : String) : Prop :=
  line.length = ScratchCode.width ∧ line.toList.all Char.isDigit = true

/-- Below the secret no mode line stands under a line that reads as a code. -/
def ModeAboveCodes (file : SecretFile) : Prop :=
  file.lines.tail.Pairwise fun above below => IsCodeLine above → ¬ IsModeLine below

theorem isModeLine_iff {line : String} :
    IsModeLine line ↔ line = Mode.timeBased.line ∨ line = Mode.counterBased.line := by
  constructor
  · rintro ⟨mode, rfl⟩
    cases mode with
    | timeBased => exact .inl rfl
    | counterBased => exact .inr rfl
  · intro h
    rcases h with h | h
    · exact ⟨.timeBased, h⟩
    · exact ⟨.counterBased, h⟩

instance (line : String) : Decidable (IsModeLine line) := decidable_of_iff _ isModeLine_iff.symm

instance (line : String) : Decidable (IsCodeLine line) := inferInstanceAs (Decidable (_ ∧ _))

instance (file : SecretFile) : Decidable file.ModeAboveCodes :=
  inferInstanceAs (Decidable (List.Pairwise _ _))

theorem isModeLine_line (mode : Mode) : IsModeLine mode.line := ⟨mode, rfl⟩

/-- No code reads as a mode line, however many digits it has. -/
theorem not_isModeLine_display (code : Int) : ¬ IsModeLine (ScratchCode.display code) := by
  rintro ⟨mode, h⟩
  have hmark : '"' ∈ (ScratchCode.display code).toList := h ▸ mode.mark_mem_line
  rcases Text.mem_zeroPadded hmark with hsign | hdigit
  · exact absurd hsign (by decide)
  · exact absurd hdigit (by decide)

theorem countP_isModeLine_eq_zero_iff {lines : List String} :
    lines.countP (IsModeLine ·) = 0 ↔ ∀ line ∈ lines, ¬ IsModeLine line := by
  simp [List.countP_eq_zero]

variable {secret line entry : String} {capacity : Int} {file file' : SecretFile} {edit : Edit}
  {outcome : Except Failure Bool} {past before after : List Trial} {trial : Trial} {mode : Mode}
  {s s' : Session}

theorem hasMode_eq_false_iff : file.hasMode = false ↔ ∀ line ∈ file.lines, ¬ IsModeLine line := by
  rw [← Bool.not_eq_true, hasMode_iff]
  constructor
  · rintro hnone line hmem ⟨mode, rfl⟩
    exact hnone ⟨mode, hmem⟩
  · rintro hnone ⟨mode, hmem⟩
    exact hnone _ hmem (isModeLine_line mode)

/-! ### One edit -/

namespace Edit

/-- A directive that reads neither as a mode line nor as a code. The newlines at its end are not part
of the line. -/
def IsProper (edit : Edit) : Prop :=
  ∀ line ∈ edit.directive?, ¬ IsModeLine (stripNewlines line) ∧ ¬ IsCodeLine (stripNewlines line)

instance (edit : Edit) : Decidable edit.IsProper :=
  inferInstanceAs (Decidable (∀ line ∈ edit.directive?, _))

/-- An attempt adds a line or leaves the file as it is. -/
theorem attempt_cases (h : runOn (edit.attempt.run file) s = (.ok (outcome, file'), s')) :
    outcome = .ok true ∧ edit.change file = .ok file' ∨
      Trial.isAdded ⟨edit, outcome⟩ = false ∧ file' = file := by
  obtain ⟨s₁, hperform⟩ := exists_runOn_perform edit file s
  rw [runOn_attempt, hperform] at h
  cases hanswer : edit.answer s with
  | error stop =>
      rw [hanswer] at h
      cases h
      exact .inr ⟨rfl, rfl⟩
  | ok wanted =>
      rw [hanswer] at h
      cases wanted with
      | false =>
          cases h
          exact .inr ⟨rfl, rfl⟩
      | true =>
          cases hchange : edit.change file with
          | error refusal =>
              rw [hchange] at h
              cases h
              exact .inr ⟨rfl, rfl⟩
          | ok changed =>
              rw [hchange] at h
              cases h
              exact .inl ⟨rfl, rfl⟩

/-- What a file is after a change. -/
theorem eq_of_change (h : edit.change file = .ok file') :
    file' = { file with
      directives := (edit.directive?.map stripNewlines).toList ++ file.directives
      entries := file.entries ++ edit.appended?.toList } := by
  cases edit with
  | setMode mode => simpa [directive?, appended?] using (addMode_eq_ok_iff.mp h).2.2
  | addCode code => simpa [directive?, appended?] using (append_eq_ok_iff.mp h).2
  | insertLine text | offerLine question text =>
      simpa [directive?, appended?] using (insertDirective_eq_ok_iff.mp h).2

end Edit

/-! ### Runs of edits -/

theorem entriesOf_setMode (before : List Trial) (mode : Mode) (after : List Trial) :
    entriesOf (before ++ ⟨.setMode mode, .ok true⟩ :: after) =
      entriesOf before ++ mode.line :: entriesOf after := by
  rw [entriesOf_append, ← List.singleton_append, entriesOf_append]
  rfl

/-- What stands behind the directives are codes, and modes that were set. -/
theorem mem_entriesOf (h : entry ∈ entriesOf past) :
    (∃ code : Int, entry = ScratchCode.display code) ∨
      IsModeLine entry ∧
        ∃ before mode after, past = before ++ ⟨.setMode mode, .ok true⟩ :: after := by
  obtain ⟨⟨edit, outcome⟩, htrial, hentry⟩ := List.mem_filterMap.mp h
  obtain ⟨hmem, hadded⟩ := List.mem_filter.mp htrial
  cases edit with
  | setMode mode =>
      obtain rfl : outcome = .ok true := by
        cases outcome with
        | error failure => cases hadded
        | ok added => exact congrArg Except.ok hadded
      obtain ⟨before, after, hpast⟩ := List.append_of_mem hmem
      exact .inr ⟨⟨mode, (Option.some.inj hentry).symm⟩, before, mode, after, hpast⟩
  | addCode code => exact .inl ⟨code, (Option.some.inj hentry).symm⟩
  | insertLine text | offerLine question text => cases hentry

/-- A file stores the secret and what was added to it. Apart from the directives there is one mode
line at most. -/
structure Stores (secret : String) (past : List Trial) (file : SecretFile) : Prop where
  secret_eq : file.secret = stripNewlines secret
  directives_eq : file.directives = ((directivesOf past).map stripNewlines).reverse
  entries_eq : file.entries = entriesOf past
  modes_le : (stripNewlines secret :: entriesOf past).countP (IsModeLine ·) ≤ 1

theorem stores_start (h : start secret capacity = .ok file) : Stores secret [] file := by
  rw [start] at h
  split at h
  · cases h
    exact ⟨rfl, rfl, rfl, List.countP_le_length⟩
  · cases h

/-- A trial that added nothing is not seen in the file. -/
theorem Stores.skip (stores : Stores secret past file) (hadded : trial.isAdded = false) :
    Stores secret (past ++ [trial]) file := by
  rcases stores with ⟨hsecret, hdirectives, hentries, hmodes⟩
  constructor
  · exact hsecret
  · rw [directivesOf_append, directivesOf_of_not_isAdded hadded, List.append_nil]
    exact hdirectives
  · rw [entriesOf_append, entriesOf_of_not_isAdded hadded, List.append_nil]
    exact hentries
  · rw [entriesOf_append, entriesOf_of_not_isAdded hadded, List.append_nil]
    exact hmodes

/-- A mode line comes to lines of which none reads as a mode, and a code is no mode line. -/
theorem Stores.modes_add_le (stores : Stores secret past file) (h : edit.change file = .ok file') :
    (stripNewlines secret :: entriesOf past).countP (IsModeLine ·) +
      edit.appended?.toList.countP (IsModeLine ·) ≤ 1 := by
  cases edit with
  | setMode mode =>
      have hfree := hasMode_eq_false_iff.mp (addMode_eq_ok_iff.mp h).1
      have hnone : (stripNewlines secret :: entriesOf past).countP (IsModeLine ·) = 0 := by
        rw [countP_isModeLine_eq_zero_iff, ← stores.secret_eq, ← stores.entries_eq]
        intro line hline
        apply hfree
        rw [lines, List.mem_cons, List.mem_append]
        exact (List.mem_cons.mp hline).imp_right .inr
      rw [hnone, Nat.zero_add]
      exact List.countP_le_length
  | addCode code =>
      have hcode : [ScratchCode.display code].countP (IsModeLine ·) = 0 := by
        simp [not_isModeLine_display code]
      rw [Edit.appended?, Option.toList_some, hcode, Nat.add_zero]
      exact stores.modes_le
  | insertLine text | offerLine question text =>
      rw [Edit.appended?, Option.toList_none, List.countP_nil, Nat.add_zero]
      exact stores.modes_le

theorem Stores.add (stores : Stores secret past file) (h : edit.change file = .ok file') :
    Stores secret (past ++ [⟨edit, .ok true⟩]) file' := by
  have hadded : Trial.isAdded ⟨edit, .ok true⟩ = true := rfl
  have hmodes := stores.modes_add_le h
  obtain rfl := Edit.eq_of_change h
  constructor
  · exact stores.secret_eq
  · rw [directivesOf_append, directivesOf_of_isAdded hadded, List.map_append, List.reverse_append,
      ← stores.directives_eq]
    cases edit.directive? with
    | none => rfl
    | some line => rfl
  · rw [entriesOf_append, entriesOf_of_isAdded hadded, stores.entries_eq]
  · rw [entriesOf_append, entriesOf_of_isAdded hadded, ← List.cons_append, List.countP_append]
    exact hmodes

/-- Any run of edits leads to a file that stores what was added. -/
theorem History.stores (history : History secret capacity past file) : Stores secret past file := by
  induction history with
  | start hstart => exact stores_start hstart
  | next earlier edit s hattempt ih =>
      rcases Edit.attempt_cases hattempt with ⟨rfl, hchange⟩ | ⟨hadded, rfl⟩
      · exact ih.add hchange
      · exact ih.skip hadded

namespace Stores

theorem lines_eq (stores : Stores secret past file) :
    file.lines =
      stripNewlines secret :: (((directivesOf past).map stripNewlines).reverse ++ entriesOf past) := by
  rw [lines, stores.secret_eq, stores.directives_eq, stores.entries_eq]

/-- Around a mode that was set there are no mode lines. -/
theorem not_isModeLine (stores : Stores secret past file)
    (hset : past = before ++ ⟨.setMode mode, .ok true⟩ :: after) :
    ∀ entry ∈ entriesOf before ++ entriesOf after, ¬ IsModeLine entry := by
  have hmodes := stores.modes_le
  have hmode := List.countP_cons_of_pos (p := (IsModeLine ·)) (l := entriesOf after)
    (decide_eq_true (isModeLine_line mode))
  rw [hset, entriesOf_setMode, List.countP_cons, List.countP_append, hmode] at hmodes
  rw [← countP_isModeLine_eq_zero_iff, List.countP_append]
  omega

end Stores

/-! ### Where the mode stands -/

theorem proper_directives (hproper : ∀ trial ∈ past, trial.edit.IsProper) :
    ∀ line ∈ ((directivesOf past).map stripNewlines).reverse,
      ¬ IsModeLine line ∧ ¬ IsCodeLine line := by
  intro line hline
  obtain ⟨text, htext, rfl⟩ := List.mem_map.mp (List.mem_reverse.mp hline)
  obtain ⟨trial, htrial, hdirective⟩ := List.mem_filterMap.mp htext
  exact hproper trial (List.mem_filter.mp htrial).1 text hdirective

/-- Lines without a mode are in order. -/
theorem pairwise_of_no_mode {lines : List String} (h : ∀ line ∈ lines, ¬ IsModeLine line) :
    lines.Pairwise fun above below => IsCodeLine above → ¬ IsModeLine below :=
  List.pairwise_of_forall_mem_list fun _ _ below hbelow _ => h below hbelow

/-- With one mode among the lines, those above it must not read as codes. -/
theorem pairwise_around_mode_iff {aboves belows : List String} (mode : Mode)
    (haboves : ∀ line ∈ aboves, ¬ IsModeLine line) (hbelows : ∀ line ∈ belows, ¬ IsModeLine line) :
    (aboves ++ mode.line :: belows).Pairwise
        (fun above below => IsCodeLine above → ¬ IsModeLine below) ↔
      ∀ line ∈ aboves, ¬ IsCodeLine line := by
  rw [List.pairwise_append, List.pairwise_cons]
  constructor
  · rintro ⟨-, -, hcross⟩ line hline hcode
    exact hcross line hline mode.line List.mem_cons_self hcode (isModeLine_line mode)
  · intro h
    refine ⟨pairwise_of_no_mode haboves,
      ⟨fun below hbelow _ => hbelows below hbelow, pairwise_of_no_mode hbelows⟩, ?_⟩
    intro above habove _ _ hcode
    exact absurd hcode (h above habove)

namespace Stores

theorem countP_isModeLine_le (stores : Stores secret past file)
    (hproper : ∀ trial ∈ past, trial.edit.IsProper) : file.lines.countP (IsModeLine ·) ≤ 1 := by
  have hmodes := stores.modes_le
  have hdirectives := countP_isModeLine_eq_zero_iff.mpr
    fun line hline => (proper_directives hproper line hline).1
  rw [List.countP_cons] at hmodes
  rw [stores.lines_eq, List.countP_cons, List.countP_append, hdirectives, Nat.zero_add]
  exact hmodes

/-- Where the mode was set, the codes that were added before are above it. -/
theorem modeAboveCodes_iff_of_set (stores : Stores secret past file)
    (hproper : ∀ trial ∈ past, trial.edit.IsProper)
    (hset : past = before ++ ⟨.setMode mode, .ok true⟩ :: after) :
    file.ModeAboveCodes ↔ ∀ entry ∈ entriesOf before, ¬ IsCodeLine entry := by
  have hdirectives := proper_directives hproper
  have haround := stores.not_isModeLine hset
  have hentries : entriesOf past = entriesOf before ++ mode.line :: entriesOf after := by
    rw [hset, entriesOf_setMode]
  have haboves : ∀ line ∈ ((directivesOf past).map stripNewlines).reverse ++ entriesOf before,
      ¬ IsModeLine line := by
    intro line hline
    rcases List.mem_append.mp hline with hline | hline
    · exact (hdirectives line hline).1
    · exact haround line (List.mem_append_left _ hline)
  have hbelows : ∀ line ∈ entriesOf after, ¬ IsModeLine line :=
    fun line hline => haround line (List.mem_append_right _ hline)
  rw [ModeAboveCodes, stores.lines_eq, List.tail_cons, hentries, ← List.append_assoc,
    pairwise_around_mode_iff mode haboves hbelows]
  constructor
  · exact fun h entry hentry => h entry (List.mem_append_right _ hentry)
  · intro h line hline
    rcases List.mem_append.mp hline with hline | hline
    · exact (hdirectives line hline).2
    · exact h line hline

/-- Where the mode was not set, there is nothing to be above. -/
theorem modeAboveCodes_of_unset (stores : Stores secret past file)
    (hproper : ∀ trial ∈ past, trial.edit.IsProper)
    (hunset : ¬ ∃ before mode after, past = before ++ ⟨.setMode mode, .ok true⟩ :: after) :
    file.ModeAboveCodes := by
  rw [ModeAboveCodes, stores.lines_eq, List.tail_cons]
  apply pairwise_of_no_mode
  intro line hline
  rcases List.mem_append.mp hline with hline | hline
  · exact (proper_directives hproper line hline).1
  · obtain ⟨code, rfl⟩ := (mem_entriesOf hline).resolve_right fun hset => hunset hset.2
    exact not_isModeLine_display code

end Stores

/-- A mode is taken where there is room for it and no other, be there codes or not. -/
theorem attempt_setMode (file : SecretFile) (mode : Mode) (s : Session) :
    ∃ outcome file' s', runOn ((Edit.attempt (.setMode mode)).run file) s =
        (.ok (outcome, file'), s') ∧
      (outcome = .ok true ↔ file.Fits mode.line ∧ ∀ line ∈ file.lines, ¬ IsModeLine line) ∧
      (outcome = .ok true → file'.lines = file.lines ++ [mode.line]) ∧
      (outcome ≠ .ok true → file' = file) := by
  rw [Edit.runOn_attempt]
  obtain ⟨s', hperform⟩ := Edit.exists_runOn_perform (.setMode mode) file s
  rw [hperform, ← hasMode_eq_false_iff]
  simp only [Edit.answer, Edit.change]
  cases hadd : file.addMode mode with
  | error refusal =>
      refine ⟨_, _, s', rfl, ?_, by simp, by simp⟩
      constructor
      · intro h
        cases h
      · rintro ⟨hfits, hfree⟩
        rw [addMode_eq_ok_iff.mpr ⟨hfree, hfits, rfl⟩] at hadd
        cases hadd
  | ok changed =>
      obtain ⟨hfree, hfits, rfl⟩ := addMode_eq_ok_iff.mp hadd
      exact ⟨_, _, s', rfl, by simp [hfree, hfits], by simp [lines], by simp⟩

/-- How the mode stands to the codes after any run of edits. Where a mode was set, the codes above it
are those that were added before and the codes below it those that were added after. If the directives
read neither as mode lines nor as codes, there is one mode line at most, and it is above all codes just
if no code was added before the mode was set. Nothing sees to that, as a mode is refused for lack of
room and for another mode line only, and otherwise goes to the end of the file, whatever codes are
there. -/
theorem place_of_mode (history : History secret capacity past file) :
    (∀ before mode after, past = before ++ ⟨.setMode mode, .ok true⟩ :: after →
      file.lines = stripNewlines secret :: (((directivesOf past).map stripNewlines).reverse ++
        (entriesOf before ++ mode.line :: entriesOf after)) ∧
      ∀ entry ∈ entriesOf before ++ entriesOf after,
        ∃ code : Int, entry = ScratchCode.display code) ∧
    ((∀ trial ∈ past, trial.edit.IsProper) →
      file.lines.countP (IsModeLine ·) ≤ 1 ∧
      (file.ModeAboveCodes ↔
        ∀ before mode after, past = before ++ ⟨.setMode mode, .ok true⟩ :: after →
          ∀ entry ∈ entriesOf before, ¬ IsCodeLine entry)) ∧
    ∀ mode s, ∃ outcome file' s', runOn ((Edit.attempt (.setMode mode)).run file) s =
        (.ok (outcome, file'), s') ∧
      (outcome = .ok true ↔ file.Fits mode.line ∧ ∀ line ∈ file.lines, ¬ IsModeLine line) ∧
      (outcome = .ok true → file'.lines = file.lines ++ [mode.line]) ∧
      (outcome ≠ .ok true → file' = file) := by
  have stores := history.stores
  refine ⟨?_, ?_, attempt_setMode file⟩
  · intro before mode after hset
    constructor
    · rw [← entriesOf_setMode, ← hset]
      exact stores.lines_eq
    · intro entry hentry
      have hother := stores.not_isModeLine hset entry hentry
      rcases List.mem_append.mp hentry with hentry | hentry
      · exact (mem_entriesOf hentry).resolve_right fun hset => hother hset.1
      · exact (mem_entriesOf hentry).resolve_right fun hset => hother hset.1
  · intro hproper
    refine ⟨stores.countP_isModeLine_le hproper, ?_⟩
    constructor
    · intro h before mode after hset
      exact (stores.modeAboveCodes_iff_of_set hproper hset).mp h
    · intro h
      by_cases hset : ∃ before mode after, past = before ++ ⟨.setMode mode, .ok true⟩ :: after
      · obtain ⟨before, mode, after, hset⟩ := hset
        exact (stores.modeAboveCodes_iff_of_set hproper hset).mpr (h before mode after hset)
      · exact stores.modeAboveCodes_of_unset hproper hset

/-- A mode that comes first stays above the codes. A second mode is refused. -/
theorem place_of_mode_of_early_mode :
    let past : List Trial :=
      [⟨.insertLine "\" A\n", .ok true⟩, ⟨.setMode .timeBased, .ok true⟩,
        ⟨.addCode 12345678, .ok true⟩, ⟨.setMode .counterBased, .error (.refusal .modeIsSet)⟩,
        ⟨.addCode 87654321, .ok true⟩]
    (∀ trial ∈ past, trial.edit.IsProper) ∧ ∃ file, History "AB" 40 past file ∧
      file.lines = ["AB", "\" A", "\" TOTP_AUTH", "12345678", "87654321"] ∧
      file.lines.countP (IsModeLine ·) ≤ 1 ∧ file.ModeAboveCodes := by
  intro past
  let session : Session :=
    { random := { name := "", device := .outcomes [] }
      respondent := .scripted (.inOrder []) [] []
      clock := .ofList .notANumber []
      files := { entries := [] } }
  have hproper : ∀ trial ∈ past, trial.edit.IsProper := by decide +kernel
  have history : History "AB" 40 past _ :=
    History.start (by rfl)
      |>.next (.insertLine "\" A\n") session rfl
      |>.next (.setMode .timeBased) session rfl
      |>.next (.addCode 12345678) session rfl
      |>.next (.setMode .counterBased) session rfl
      |>.next (.addCode 87654321) session rfl
  obtain ⟨hset, hordered, -⟩ := place_of_mode history
  obtain ⟨hlines, -⟩ := hset [⟨.insertLine "\" A\n", .ok true⟩] .timeBased
    [⟨.addCode 12345678, .ok true⟩, ⟨.setMode .counterBased, .error (.refusal .modeIsSet)⟩,
      ⟨.addCode 87654321, .ok true⟩] rfl
  obtain ⟨hone, -⟩ := hordered hproper
  exact ⟨hproper, _, history, hlines, hone, by decide +kernel⟩

/-- A mode that comes behind a code is taken, and stands below it. -/
theorem code_above_late_mode :
    let past : List Trial := [⟨.addCode 12345678, .ok true⟩, ⟨.setMode .timeBased, .ok true⟩]
    (∀ trial ∈ past, trial.edit.IsProper) ∧
      ∃ file, History "GEZDGNBVGY3TQOJQGEZDGNBVGY3TQOJQ" maxSize past file ∧
        file.lines = ["GEZDGNBVGY3TQOJQGEZDGNBVGY3TQOJQ", "12345678", "\" TOTP_AUTH"] ∧
        ¬ file.ModeAboveCodes := by
  intro past
  let session : Session :=
    { random := { name := "", device := .outcomes [] }
      respondent := .scripted (.inOrder []) [] []
      clock := .ofList .notANumber []
      files := { entries := [] } }
  have history : History "GEZDGNBVGY3TQOJQGEZDGNBVGY3TQOJQ" maxSize past _ :=
    History.start (by rfl)
      |>.next (.addCode 12345678) session rfl
      |>.next (.setMode .timeBased) session rfl
  exact ⟨by decide +kernel, _, history, by decide +kernel, by decide +kernel⟩

end OneTimePassword.SecretFile
