/-
Module: OneTimePassword.Proofs.SecretFile.History
Purpose: What a secret file holds after any run of edits, of which some may have failed.
Main exports: SecretFile.Edit, SecretFile.Edit.attempt, SecretFile.Edit.Made, SecretFile.History,
  SecretFile.Holds, SecretFile.History.holds, SecretFile.faithful_record
-/
import OneTimePassword.Proofs.SecretFile.Steps

namespace OneTimePassword

open SetupM (runOn)

namespace SecretFile

/-! ### Edits -/

/-- The calls that add a line to a secret file. -/
inductive Edit where
  | setMode (mode : Mode)
  | addCode (code : Int)
  | insertLine (line : String)
  | offerLine (question line : String)
deriving Repr, DecidableEq

namespace Edit

/-- The line that an edit adds below the secret. -/
def directive? : Edit → Option String
  | .setMode _ | .addCode _ => none
  | .insertLine line | .offerLine _ line => some line

/-- The line that an edit adds at the end. -/
def appended? : Edit → Option String
  | .setMode mode => some mode.line
  | .addCode code => some (ScratchCode.display code)
  | .insertLine _ | .offerLine _ _ => none

/-- The line that an edit adds. -/
def line : Edit → String
  | .setMode mode => mode.line
  | .addCode code => ScratchCode.display code
  | .insertLine line | .offerLine _ line => line

/-- What an edit does to a file once it is wanted. -/
def change (file : SecretFile) : Edit → Except Refusal SecretFile
  | .setMode mode => file.addMode mode
  | .addCode code => file.addCode code
  | .insertLine line | .offerLine _ line => file.insertDirective line

/-- Make an edit. The value is whether a line was added. -/
def perform : Edit → ComposeM Bool
  | .setMode mode => do
      SecretFile.change (·.addMode mode)
      pure true
  | .addCode code => do
      SecretFile.change (·.addCode code)
      pure true
  | .insertLine line => do
      SecretFile.insertLine line
      pure true
  | .offerLine question line => SecretFile.offerLine question line

/-- Make an edit and go on whatever comes of it. An edit that fails does so before it changes
anything, so the file to go on with is the one that was there. -/
def attempt (edit : Edit) : ComposeM (Except Failure Bool) :=
  tryCatch (do return .ok (← edit.perform)) fun failure => pure (.error failure)

/-- Whether an edit is wanted. Only an offer leaves that to the respondent. -/
def answer (s : Session) : Edit → Except Respondent.Stop Bool
  | .offerLine question _ => (Respondent.askWhether question s.respondent).outcome
  | .setMode _ | .addCode _ | .insertLine _ => .ok true

/-- The directives of a file are free of newlines, which end a line. -/
def IsPlain (edit : Edit) : Prop := ∀ line ∈ edit.directive?, '\n' ∉ line.toList

instance (edit : Edit) : Decidable edit.IsPlain :=
  inferInstanceAs (Decidable (∀ line ∈ edit.directive?, '\n' ∉ line.toList))

/-- A file does not take a line that it has no room for, nor a mode line next to another one. -/
def IsRefused (file : SecretFile) (edit : Edit) : Prop :=
  file.capacity < file.size + (edit.line.length + 1) ∨
    (∃ mode, edit = .setMode mode) ∧ ∃ mode : Mode, mode.line ∈ file.lines

/-- A file with one more line. -/
def addTo (file : SecretFile) (edit : Edit) : SecretFile :=
  { file with
    directives := edit.directive?.toList ++ file.directives
    entries := file.entries ++ edit.appended?.toList }

/-- What an edit leads to, by the answer to whether it is wanted. -/
inductive Made (file : SecretFile) (edit : Edit) (answer : Except Respondent.Stop Bool) :
    Except Failure Bool → SecretFile → Prop where
  | unanswered {stop : Respondent.Stop} (hanswer : answer = .error stop) :
      Made file edit answer (.error (.unanswered stop)) file
  | declined (hanswer : answer = .ok false) : Made file edit answer (.ok false) file
  | refused {refusal : Refusal} (hanswer : answer = .ok true) (refused : edit.IsRefused file) :
      Made file edit answer (.error (.refusal refusal)) file
  | added (hanswer : answer = .ok true) (taken : ¬ edit.IsRefused file) :
      Made file edit answer (.ok true) (edit.addTo file)

end Edit

/-! ### One edit -/

variable {file file' : SecretFile} {edit : Edit} {line : String} {outcome : Except Failure Bool}
  {s s' : Session}

theorem hasMode_iff : file.hasMode = true ↔ ∃ mode : Mode, mode.line ∈ file.lines := by
  rw [hasMode, List.any_eq_true]
  constructor
  · intro h
    obtain ⟨line, hmem, hline⟩ := h
    rw [Bool.or_eq_true, beq_iff_eq, beq_iff_eq] at hline
    rcases hline with rfl | rfl
    · exact ⟨.timeBased, hmem⟩
    · exact ⟨.counterBased, hmem⟩
  · intro h
    obtain ⟨mode, hmem⟩ := h
    refine ⟨mode.line, hmem, ?_⟩
    cases mode with
    | timeBased => simp
    | counterBased => simp

theorem fits_iff : file.Fits line ↔ ¬ file.capacity < file.size + (line.length + 1) := by
  rw [Fits, lineSize, Int.not_lt]
  rfl

theorem append_of_not_fits (h : ¬ file.Fits line) : file.append line = .error .full := if_neg h

theorem insertDirective_of_not_fits (hline : '\n' ∉ line.toList) (h : ¬ file.Fits line) :
    file.insertDirective line = .error .full := by
  rw [insertDirective, stripNewlines_of_notMem hline]
  exact if_neg h

namespace Edit

/-- A line is added unless the file refuses it. -/
theorem change_of_not_isRefused (hplain : edit.IsPlain) (h : ¬ edit.IsRefused file) :
    edit.change file = .ok (edit.addTo file) := by
  obtain ⟨hroom, hmode⟩ := not_or.mp h
  have fits : file.Fits edit.line := fits_iff.mpr hroom
  have happend (hentry : edit.appended? = some edit.line) (hdirective : edit.directive? = none) :
      file.append edit.line = .ok (edit.addTo file) := by
    apply append_eq_ok_iff.mpr
    refine ⟨fits, ?_⟩
    rw [addTo, hentry, hdirective]
    rfl
  cases edit with
  | setMode mode =>
      have hfree : ¬ file.hasMode = true := fun hset => hmode ⟨⟨mode, rfl⟩, hasMode_iff.mp hset⟩
      rw [change, addMode, if_neg hfree]
      exact happend rfl rfl
  | addCode code => exact happend rfl rfl
  | insertLine text | offerLine question text =>
      rw [change, insertDirective_eq_ok (hplain text rfl) fits, addTo]
      simp [directive?, appended?]

theorem change_of_isRefused (hplain : edit.IsPlain) (h : edit.IsRefused file) :
    ∃ refusal, edit.change file = .error refusal := by
  have hfull (hroom : ¬ (∃ mode, edit = .setMode mode)) : ¬ file.Fits edit.line := by
    rw [fits_iff, not_not]
    exact h.resolve_right fun hmode => hroom hmode.1
  cases edit with
  | setMode mode =>
      by_cases hset : file.hasMode = true
      · exact ⟨.modeIsSet, if_pos hset⟩
      · have hroom := h.resolve_right fun hmode => hset (hasMode_iff.mpr hmode.2)
        refine ⟨.full, (if_neg hset).trans (append_of_not_fits ?_)⟩
        rw [fits_iff, not_not]
        exact hroom
  | addCode code => exact ⟨.full, append_of_not_fits (hfull (by simp))⟩
  | insertLine text | offerLine question text =>
      exact ⟨.full, insertDirective_of_not_fits (hplain text rfl) (hfull (by simp))⟩

/-- A step adds a line, or is refused as the change of the file is. It may leave notes behind. -/
def Makes (step : ComposeM Bool) (change : SecretFile → Except Refusal SecretFile) : Prop :=
  ∀ file s, ∃ s', runOn (step.run file) s =
    (match change file with
      | .ok file' => .ok (true, file')
      | .error refusal => .error (.refusal refusal), s')

theorem makes_change (change : SecretFile → Except Refusal SecretFile) :
    Makes (do SecretFile.change change; pure true) change := by
  intro file s
  rw [ComposeM.runOn_bind, runOn_change]
  cases change file with
  | error refusal => exact ⟨s, rfl⟩
  | ok changed => exact ⟨s, rfl⟩

theorem makes_insertLine (line : String) :
    Makes (do SecretFile.insertLine line; pure true) (·.insertDirective line) := by
  intro file s
  rw [ComposeM.runOn_bind, runOn_insertLine]
  dsimp only
  cases file.insertDirective line with
  | error refusal => exact ⟨s, rfl⟩
  | ok changed => exact ⟨_, rfl⟩

/-- An edit that is wanted changes the file, and leaves a session behind. -/
theorem exists_runOn_perform (edit : Edit) (file : SecretFile) (s : Session) :
    ∃ s', runOn (edit.perform.run file) s =
      (match edit.answer s with
        | .error stop => .error (.unanswered stop)
        | .ok false => .ok (false, file)
        | .ok true =>
            match edit.change file with
            | .ok file' => .ok (true, file')
            | .error refusal => .error (.refusal refusal), s') := by
  cases edit with
  | setMode mode => exact makes_change (·.addMode mode) file s
  | addCode code => exact makes_change (·.addCode code) file s
  | insertLine line => exact makes_insertLine line file s
  | offerLine question line =>
      rw [perform, runOn_offerLine, askWhether, SetupM.runOn_ask]
      simp only [answer, change]
      cases (Respondent.askWhether question s.respondent).outcome with
      | error stop => exact ⟨_, rfl⟩
      | ok wanted =>
          cases wanted with
          | false => exact ⟨_, rfl⟩
          | true => exact makes_insertLine line file _

/-- An attempt has the outcome of its edit for a value, and the file stays if there was none. -/
theorem runOn_attempt (edit : Edit) (file : SecretFile) (s : Session) :
    runOn (edit.attempt.run file) s =
      match runOn (edit.perform.run file) s with
      | (.ok (added, file'), s') => (.ok (.ok added, file'), s')
      | (.error failure, s') => (.ok (.error failure, file), s') := by
  have hcaught : edit.attempt.run file = tryCatch
      ((edit.perform >>= fun added => pure (Except.ok added) : ComposeM _).run file)
      fun failure => pure (.error failure, file) := rfl
  rw [hcaught, SetupM.runOn_tryCatch, ComposeM.runOn_bind]
  rcases runOn (edit.perform.run file) s with ⟨failure | ⟨added, file'⟩, s'⟩
  · rfl
  · rfl

/-- An edit is made by the rules, in every file and every session. -/
theorem exists_made (edit : Edit) (file : SecretFile) (s : Session) (hplain : edit.IsPlain) :
    ∃ outcome file' s', runOn (edit.attempt.run file) s = (.ok (outcome, file'), s') ∧
      Made file edit (edit.answer s) outcome file' := by
  obtain ⟨s', hrun⟩ := exists_runOn_perform edit file s
  rw [runOn_attempt, hrun]
  cases hanswer : edit.answer s with
  | error stop => exact ⟨_, _, s', rfl, .unanswered rfl⟩
  | ok wanted =>
      cases wanted with
      | false => exact ⟨_, _, s', rfl, .declined rfl⟩
      | true =>
          by_cases hrefused : edit.IsRefused file
          · obtain ⟨refusal, hchange⟩ := change_of_isRefused hplain hrefused
            rw [hchange]
            exact ⟨_, _, s', rfl, .refused rfl hrefused⟩
          · rw [change_of_not_isRefused hplain hrefused]
            exact ⟨_, _, s', rfl, .added rfl hrefused⟩

theorem size_addTo (file : SecretFile) (edit : Edit) :
    (edit.addTo file).size = file.size + lineSize edit.line := by
  have habove := size_above { file with entries := file.entries ++ edit.appended?.toList }
    edit.directive?.toList
  have hbehind := size_behind file edit.appended?.toList
  rw [addTo, habove, hbehind]
  cases edit with
  | setMode mode | addCode code => simp [appended?, directive?, line]
  | insertLine text | offerLine question text => simp [appended?, directive?, line]

theorem newline_notMem_appended (h : line ∈ edit.appended?) : '\n' ∉ line.toList := by
  cases edit with
  | setMode mode =>
      cases h
      exact mode.newline_notMem_line
  | addCode code =>
      cases h
      exact Text.newline_notMem_zeroPadded _ _
  | insertLine text | offerLine question text => cases h

end Edit

/-! ### Runs of edits -/

/-- An edit that was attempted, with what came of it. -/
structure Trial where
  edit : Edit
  outcome : Except Failure Bool
deriving Repr

/-- Whether a trial added its line. -/
def Trial.isAdded (trial : Trial) : Bool :=
  match trial.outcome with
  | .ok added => added
  | .error _ => false

/-- The directives that were added, in the order of the trials. -/
def directivesOf (past : List Trial) : List String :=
  (past.filter Trial.isAdded).filterMap (·.edit.directive?)

/-- The mode lines and scratch codes that were added, in the order of the trials. -/
def entriesOf (past : List Trial) : List String :=
  (past.filter Trial.isAdded).filterMap (·.edit.appended?)

section Past

variable {trial : Trial}

theorem directivesOf_append (before after : List Trial) :
    directivesOf (before ++ after) = directivesOf before ++ directivesOf after := by
  rw [directivesOf, List.filter_append, List.filterMap_append]
  rfl

theorem entriesOf_append (before after : List Trial) :
    entriesOf (before ++ after) = entriesOf before ++ entriesOf after := by
  rw [entriesOf, List.filter_append, List.filterMap_append]
  rfl

theorem directivesOf_of_isAdded (h : trial.isAdded = true) :
    directivesOf [trial] = trial.edit.directive?.toList := by
  cases hdirective : trial.edit.directive? with
  | none => simp [directivesOf, h, hdirective]
  | some line => simp [directivesOf, h, hdirective]

theorem entriesOf_of_isAdded (h : trial.isAdded = true) :
    entriesOf [trial] = trial.edit.appended?.toList := by
  cases hentry : trial.edit.appended? with
  | none => simp [entriesOf, h, hentry]
  | some line => simp [entriesOf, h, hentry]

theorem directivesOf_of_not_isAdded (h : trial.isAdded = false) : directivesOf [trial] = [] := by
  simp [directivesOf, h]

theorem entriesOf_of_not_isAdded (h : trial.isAdded = false) : entriesOf [trial] = [] := by
  simp [entriesOf, h]

end Past

/-- A file comes about by trials, one after another. Each may have a session of its own, and those
that fail do not end the run. -/
inductive History (secret : String) (capacity : Int) : List Trial → SecretFile → Prop where
  | start {file : SecretFile} (hstart : SecretFile.start secret capacity = .ok file) :
      History secret capacity [] file
  | next {past : List Trial} {file file' : SecretFile} {outcome : Except Failure Bool}
      {s' : Session} (earlier : History secret capacity past file) (edit : Edit) (s : Session)
      (hattempt : runOn (edit.attempt.run file) s = (.ok (outcome, file'), s')) :
      History secret capacity (past ++ [⟨edit, outcome⟩]) file'

/-- A file holds the secret and what was added to it, within its capacity. -/
structure Holds (secret : String) (capacity : Int) (past : List Trial) (file : SecretFile) :
    Prop where
  capacity_eq : file.capacity = capacity
  secret_eq : file.secret = secret
  directives_eq : file.directives = (directivesOf past).reverse
  entries_eq : file.entries = entriesOf past
  size_le : file.size ≤ capacity

variable {secret : String} {capacity : Int} {past : List Trial}

theorem start_eq_error_iff (hsecret : '\n' ∉ secret.toList) :
    start secret capacity = .error .full ↔ capacity < secret.length + 1 := by
  rw [start, stripNewlines_of_notMem hsecret]
  simp only [size_eq_sum, lines, List.append_nil, List.map_cons, List.map_nil, List.sum_cons,
    List.sum_nil]
  split
  · simp_all [lineSize]
  · simp_all [lineSize]

theorem holds_start (hsecret : '\n' ∉ secret.toList) (h : start secret capacity = .ok file) :
    Holds secret capacity [] file := by
  rw [start, stripNewlines_of_notMem hsecret] at h
  split at h
  · rename_i hsize
    cases h
    exact ⟨rfl, rfl, rfl, rfl, hsize⟩
  · cases h

/-- A trial that added nothing is not seen in the file. -/
theorem Holds.skip (holds : Holds secret capacity past file) {trial : Trial}
    (hadded : trial.isAdded = false) : Holds secret capacity (past ++ [trial]) file := by
  rcases holds with ⟨hcapacity, hsecret, hdirectives, hentries, hsize⟩
  refine ⟨hcapacity, hsecret, ?_, ?_, hsize⟩
  · rw [directivesOf_append, directivesOf_of_not_isAdded hadded, List.append_nil]
    exact hdirectives
  · rw [entriesOf_append, entriesOf_of_not_isAdded hadded, List.append_nil]
    exact hentries

theorem Holds.add (holds : Holds secret capacity past file) (htaken : ¬ edit.IsRefused file) :
    Holds secret capacity (past ++ [⟨edit, .ok true⟩]) (edit.addTo file) := by
  rcases holds with ⟨hcapacity, hsecret, hdirectives, hentries, hsize⟩
  have hadded : Trial.isAdded ⟨edit, .ok true⟩ = true := rfl
  refine ⟨hcapacity, hsecret, ?_, ?_, ?_⟩
  · rw [Edit.addTo, directivesOf_append, directivesOf_of_isAdded hadded, List.reverse_append,
      ← hdirectives]
    cases edit.directive? with
    | none => rfl
    | some line => rfl
  · rw [entriesOf_append, entriesOf_of_isAdded hadded, ← hentries]
    rfl
  · have hroom := (not_or.mp htaken).1
    rw [Edit.size_addTo, lineSize, ← hcapacity]
    exact Int.not_lt.mp hroom

/-- What a file holds it holds after one more edit. -/
theorem Holds.next (holds : Holds secret capacity past file) {answer : Except Respondent.Stop Bool}
    (made : edit.Made file answer outcome file') :
    Holds secret capacity (past ++ [⟨edit, outcome⟩]) file' := by
  cases made with
  | unanswered hanswer => exact holds.skip rfl
  | declined hanswer => exact holds.skip rfl
  | refused hanswer refused => exact holds.skip rfl
  | added hanswer taken => exact holds.add taken

/-- A file holds what was added to it, after any run of edits. -/
theorem History.holds (hsecret : '\n' ∉ secret.toList) (history : History secret capacity past file)
    (hplain : ∀ trial ∈ past, trial.edit.IsPlain) : Holds secret capacity past file := by
  induction history with
  | start hstart => exact holds_start hsecret hstart
  | @next past file file' outcome s' earlier edit s hattempt ih =>
      have hedit : edit.IsPlain := hplain ⟨edit, outcome⟩ (by simp)
      have hearlier := ih fun trial hmem => hplain trial (List.mem_append_left _ hmem)
      obtain ⟨outcome', changed, s₁, hrun, made⟩ := edit.exists_made file s hedit
      rw [hattempt] at hrun
      cases hrun
      exact hearlier.next made

theorem Holds.lines_eq (holds : Holds secret capacity past file) :
    file.lines = secret :: ((directivesOf past).reverse ++ entriesOf past) := by
  rw [lines, holds.secret_eq, holds.directives_eq, holds.entries_eq]

/-- Newlines stand between lines only. -/
theorem Holds.newline_notMem (holds : Holds secret capacity past file)
    (hsecret : '\n' ∉ secret.toList) (hplain : ∀ trial ∈ past, trial.edit.IsPlain) :
    ∀ line ∈ file.lines, '\n' ∉ line.toList := by
  intro line hline
  rw [holds.lines_eq, List.mem_cons, List.mem_append, List.mem_reverse] at hline
  rcases hline with rfl | hdirective | hentry
  · exact hsecret
  · obtain ⟨trial, hmem, hline⟩ := List.mem_filterMap.mp hdirective
    exact hplain trial (List.mem_filter.mp hmem).1 line hline
  · obtain ⟨trial, -, hline⟩ := List.mem_filterMap.mp hentry
    exact Edit.newline_notMem_appended hline

/-- The size of a file is the number of its characters. -/
theorem length_text (file : SecretFile) : file.text.length = file.size := by
  rw [text, String.length_join, List.map_map, size_eq_sum]
  congr 2
  funext line
  exact String.length_append line "\n"

/-- A secret file is a faithful record of its edits. It takes its secret if there is room for it.
Then, after any run of edits, its lines are the secret, the directives that were added, the last one
first, and the mode lines and codes that were added, the first one first. Its size is the number of
its characters and within its capacity, and its text can be split into its lines again. An edit that
is wanted fails if and only if there is no room for its line or if it would be a second mode line,
and without a line added the file is as it was. -/
theorem faithful_record (hsecret : '\n' ∉ secret.toList) (capacity : Int) :
    (start secret capacity = .error .full ↔ capacity < secret.length + 1) ∧
    ∀ past file, History secret capacity past file → (∀ trial ∈ past, trial.edit.IsPlain) →
      file.capacity = capacity ∧
      file.lines = secret :: ((directivesOf past).reverse ++ entriesOf past) ∧
      file.size = file.text.length ∧ file.size ≤ capacity ∧
      Respondent.linesOf file.text = file.lines ∧
      ∀ edit : Edit, edit.IsPlain → ∀ s,
        ∃ outcome file' s', runOn (edit.attempt.run file) s = (.ok (outcome, file'), s') ∧
          ((∃ refusal, outcome = .error (.refusal refusal)) ↔
            edit.answer s = .ok true ∧ edit.IsRefused file) ∧
          (outcome = .ok true ↔ edit.answer s = .ok true ∧ ¬ edit.IsRefused file) ∧
          (outcome = .ok true → file' = edit.addTo file) ∧
          (outcome ≠ .ok true →
            file'.lines = file.lines ∧ file'.size = file.size ∧ file'.text = file.text) := by
  refine ⟨start_eq_error_iff hsecret, ?_⟩
  intro past file history hplain
  have holds := history.holds hsecret hplain
  refine ⟨holds.capacity_eq, holds.lines_eq, (length_text file).symm, holds.size_le,
    linesOf_text (holds.newline_notMem hsecret hplain), ?_⟩
  intro edit hedit s
  obtain ⟨outcome, file', s', hrun, made⟩ := edit.exists_made file s hedit
  refine ⟨outcome, file', s', hrun, ?_⟩
  cases made with
  | unanswered hanswer => simp [hanswer]
  | declined hanswer => simp [hanswer]
  | refused hanswer refused => simpa [hanswer] using refused
  | added hanswer taken => simpa [hanswer] using taken

/-- A second mode line and a line that is too long are refused, and an offer is declined. -/
theorem faithful_record_of_refused_edits :
    let past : List Trial :=
      [⟨.setMode .timeBased, .ok true⟩, ⟨.offerLine "A?" "\" A", .ok true⟩,
        ⟨.addCode 12345678, .ok true⟩, ⟨.setMode .counterBased, .error (.refusal .modeIsSet)⟩,
        ⟨.insertLine "\" STEP_SIZE 45", .error (.refusal .full)⟩,
        ⟨.offerLine "B?" "\" B", .ok false⟩]
    '\n' ∉ "AB".toList ∧ (∀ trial ∈ past, trial.edit.IsPlain) ∧
      ∃ file, History "AB" 40 past file ∧
        file.lines = ["AB", "\" A", "\" TOTP_AUTH", "12345678"] ∧ file.size = 28 ∧
        ∀ s, ∃ refusal file' s', runOn ((Edit.attempt (.insertLine "\" WINDOW_SIZE")).run file) s =
          (.ok (.error (.refusal refusal), file'), s') := by
  intro past
  let asked (answers : List Bool) : Session :=
    { random := { name := "", device := .outcomes [] }
      respondent := .scripted (.inOrder answers) [] []
      clock := .ofList .notANumber []
      files := { entries := [] } }
  have hsecret : '\n' ∉ "AB".toList := by decide +kernel
  have hplain : ∀ trial ∈ past, trial.edit.IsPlain := by decide +kernel
  have history : History "AB" 40 past _ :=
    History.start (by rfl)
      |>.next (.setMode .timeBased) (asked []) rfl
      |>.next (.offerLine "A?" "\" A") (asked [true]) rfl
      |>.next (.addCode 12345678) (asked []) rfl
      |>.next (.setMode .counterBased) (asked []) rfl
      |>.next (.insertLine "\" STEP_SIZE 45") (asked []) rfl
      |>.next (.offerLine "B?" "\" B") (asked [false]) rfl
  obtain ⟨-, hall⟩ := faithful_record hsecret 40
  obtain ⟨-, hlines, hsize, -, -, hedits⟩ := hall past _ history hplain
  refine ⟨hsecret, hplain, _, history, hlines, hsize, ?_⟩
  intro s
  obtain ⟨outcome, file', s', hrun, hrefused, -⟩ :=
    hedits (.insertLine "\" WINDOW_SIZE") (by decide +kernel) s
  obtain ⟨refusal, rfl⟩ := hrefused.mpr ⟨rfl, .inl (by decide +kernel)⟩
  exact ⟨refusal, file', s', hrun⟩

end SecretFile

end OneTimePassword
