/-
Module: OneTimePassword.Proofs.SecretFile.Policy
Purpose: Which directives settings lead to, by the answers of a script to what they leave open.
Main exports: Policy.openQuestions, Policy.clash?, Policy.askedQuestions, Policy.directives,
  Policy.Gives, Policy.Settles, Policy.settles_add, Policy.runOn_add_of_clash,
  Policy.respondent_add
-/
import OneTimePassword.Proofs.SecretFile.Steps
import OneTimePassword.Proofs.Settings.Validation

namespace OneTimePassword

/-! ### Scripts -/

namespace Respondent.YesNo

/-- The answer of a script to the question at an index. -/
def nth : YesNo → Nat → Bool
  | .always answer, _ => answer
  | .inOrder answers, index => answers.getD index false

/-- The script that is left after a number of questions. -/
def drop : YesNo → Nat → YesNo
  | .always answer, _ => .always answer
  | .inOrder answers, count => .inOrder (answers.drop count)

variable {script later : YesNo}

theorem next_eq (script : YesNo) : script.next = (script.nth 0, script.drop 1) := by
  cases script with
  | always answer => rfl
  | inOrder answers => cases answers <;> rfl

theorem drop_drop (script : YesNo) (m n : Nat) : (script.drop m).drop n = script.drop (m + n) := by
  cases script with
  | always answer => rfl
  | inOrder answers => simp [drop]

theorem nth_drop (script : YesNo) (m n : Nat) : (script.drop m).nth n = script.nth (m + n) := by
  cases script with
  | always answer => rfl
  | inOrder answers => simp [drop, nth, List.getD_eq_getElem?_getD]

@[simp] theorem drop_zero (script : YesNo) : script.drop 0 = script := by
  cases script <;> rfl

end Respondent.YesNo

/-- A script always answers. -/
theorem runOn_askWhether_of_script {script : Respondent.YesNo} {numbers : List (Option Int)}
    {asked : List String} {session : Session} (message : String)
    (hscript : session.respondent = .scripted script numbers asked) :
    SetupM.runOn (askWhether message) session =
      (.ok (script.nth 0), { session with
        respondent := .scripted (script.drop 1) numbers (asked ++ [message]) }) := by
  rw [askWhether, SetupM.runOn_ask, hscript]
  simp [Respondent.askWhether, Respondent.YesNo.next_eq]

namespace Policy

open Respondent (YesNo)
open SetupM (runOn)

/-! ### What a file is to contain -/

/-- The questions that settings leave open in a mode, in the order in which they are put. -/
def openQuestions (mode : Mode) (settings : Settings) : List Question :=
  (if mode = .timeBased ∧ settings.disallowReuse = none then [.reuse] else []) ++
    (if settings.windowSize = none ∧ ¬ settings.minimalWindow then [.window mode] else []) ++
    (if settings.rateLimit = none ∧ ¬ settings.noRateLimit then [.rate] else [])

/-- Why settings without a mode of their own do not go with one that was chosen later. -/
def clash? (mode : Mode) (settings : Settings) : Option Conflict :=
  match mode with
  | .timeBased =>
      if settings.windowSize.any (· < 3) then some .windowTooSmall else none
  | .counterBased => if settings.stepSize.isSome then some .stepInCounterBased else none

/-- The questions that are put: all that are open, or no more than the one about reuse where the
settings turn out not to go with the mode after that. -/
def askedQuestions (mode : Mode) (settings : Settings) : List Question :=
  match clash? mode settings with
  | none => openQuestions mode settings
  | some _ => if mode = .timeBased ∧ settings.disallowReuse = none then [.reuse] else []

/-- The rate limit: none on request, else the one given, else the usual one on demand. -/
def rate? (settings : Settings) (answer : Question → Bool) : Option Directive :=
  if settings.noRateLimit then none
  else
    match settings.rateLimit, settings.rateTime with
    | some attempts, some seconds => some (.rateLimit attempts seconds)
    | _, _ => if answer .rate then some (.rateLimit 3 30) else none

/-- The window: the least on request, else the one given, else a wide one on demand. -/
def window? (mode : Mode) (settings : Settings) (answer : Question → Bool) : Option Directive :=
  if settings.minimalWindow then
    match mode with
    | .timeBased => some (.windowSize 3)
    | .counterBased => some (.windowSize 1)
  else
    match settings.windowSize with
    | some codes => some (.windowSize codes)
    | none => if answer (.window mode) then some (.windowSize 17) else none

/-- The time step, where it is not the usual one. -/
def step? (mode : Mode) (settings : Settings) : Option Directive :=
  match settings.stepSize with
  | none => none
  | some seconds => if mode = .timeBased ∧ seconds ≠ 30 then some (.stepSize seconds) else none

/-- The rule against reuse, as given or on demand. -/
def reuse? (mode : Mode) (settings : Settings) (answer : Question → Bool) : Option Directive :=
  if mode = .timeBased ∧ settings.disallowReuse.getD (answer .reuse) then some .disallowReuse
  else none

/-- The directives from top to bottom. -/
def directives (mode : Mode) (settings : Settings) (answer : Question → Bool) : List Directive :=
  (rate? settings answer).toList ++ (window? mode settings answer).toList ++
    (step? mode settings).toList ++ (reuse? mode settings answer).toList

/-! ### Answers in order -/

variable {answer : Question → Bool} {questions : List Question} {script later : YesNo}

/-- A script answers questions one after another, with another script left. -/
def Gives (answer : Question → Bool) : List Question → YesNo → YesNo → Prop
  | [], script, later => later = script
  | question :: questions, script, later =>
      script.nth 0 = answer question ∧ Gives answer questions (script.drop 1) later

theorem gives_append {others : List Question} :
    Gives answer (questions ++ others) script later ↔
      ∃ middle, Gives answer questions script middle ∧ Gives answer others middle later := by
  induction questions generalizing script with
  | nil => simp [Gives]
  | cons question questions ih => simp [Gives, ih, and_assoc]

theorem Gives.congr {other : Question → Bool} (h : ∀ question ∈ questions,
    answer question = other question) (gives : Gives answer questions script later) :
    Gives other questions script later := by
  induction questions generalizing script with
  | nil => exact gives
  | cons question questions ih =>
      rcases gives with ⟨hfirst, hrest⟩
      constructor
      · exact hfirst.trans (h question List.mem_cons_self)
      · apply ih _ hrest
        intro later hlater
        exact h later (List.mem_cons_of_mem _ hlater)

/-- Questions that are all different get the answers at their places. -/
theorem gives_nth (hdistinct : questions.Nodup) (script : YesNo) :
    Gives (fun question => script.nth (questions.idxOf question)) questions script
      (script.drop questions.length) := by
  induction questions generalizing script with
  | nil => simp [Gives]
  | cons question questions ih =>
      obtain ⟨hfresh, hrest⟩ := List.nodup_cons.mp hdistinct
      refine ⟨by simp, ?_⟩
      have hlater := ih hrest (script.drop 1)
      rw [YesNo.drop_drop, Nat.add_comm] at hlater
      apply hlater.congr
      intro other hother
      have hne : (question == other) = false := by
        simpa using fun h : question = other => hfresh (h ▸ hother)
      simp [YesNo.nth_drop, List.idxOf_cons, hne, Nat.add_comm]

theorem nodup_openQuestions (mode : Mode) (settings : Settings) :
    (openQuestions mode settings).Nodup := by
  unfold openQuestions
  split <;> split <;> split <;> simp

/-! ### One directive after another -/

/-- A step puts questions to a script and states the directives that its answers lead to, given from
top to bottom. There is room for them if there is room for `width` characters. -/
def Settles (x : ComposeM Unit) (questions : List Question)
    (directives : (Question → Bool) → List Directive) (width : Nat) : Prop :=
  ∀ answer script later, Gives answer questions script later →
    ((directives answer).map fun directive => lineSize directive.line).sum ≤ width ∧
      ∀ (file : SecretFile) (session : Session) numbers asked,
        session.respondent = .scripted script numbers asked →
        ((file.size + width : Nat) : Int) ≤ file.capacity →
        ∃ journal,
          runOn (x.run file) session =
            (.ok ((), { file with
                directives := (directives answer).map Directive.line ++ file.directives }),
              { session with
                respondent := .scripted later numbers (asked ++ questions.map Question.text)
                journal })

namespace Settles

variable {x y : ComposeM Unit} {others : List Question}
  {upper lower : (Question → Bool) → List Directive} {width more : Nat} {directive : Directive}
  {question : Question}

theorem skip (width : Nat) : Settles (pure ()) [] (fun _ => []) width := by
  intro answer script later gives
  obtain rfl : later = script := gives
  constructor
  · exact Nat.zero_le _
  · intro file session numbers asked hscript _
    exact ⟨session.journal, by simp [← hscript]⟩

theorem state (hwidth : lineSize directive.line ≤ width) :
    Settles (state directive) [] (fun _ => [directive]) width := by
  intro answer script later gives
  obtain rfl : later = script := gives
  constructor
  · simpa using hwidth
  · intro file session numbers asked hscript hroom
    have fits : file.Fits directive.line := by
      simp only [SecretFile.Fits]
      omega
    refine ⟨session.journal ++ [SecretFile.added directive.line], ?_⟩
    rw [Policy.state, SecretFile.runOn_insertLine,
      SecretFile.insertDirective_eq_ok directive.newline_notMem_line fits]
    simp [← hscript]

theorem offer (question : Question) (hwidth : lineSize directive.line ≤ width) :
    Settles (offer question directive) [question]
      (fun answer => if answer question then [directive] else []) width := by
  intro answer script later gives
  rcases gives with ⟨hfirst, hlater⟩
  obtain rfl : later = script.drop 1 := hlater
  have hasked : ∀ (session : Session) numbers asked,
      session.respondent = .scripted script numbers asked →
      runOn (askWhether question.text) session =
        (.ok (answer question), { session with
          respondent := .scripted (script.drop 1) numbers (asked ++ [question.text]) }) := by
    intro session numbers asked hscript
    rw [runOn_askWhether_of_script question.text hscript, hfirst]
  cases hanswer : answer question with
  | false =>
      constructor
      · simp [hanswer]
      · intro file session numbers asked hscript _
        refine ⟨session.journal, ?_⟩
        rw [runOn_offer, hasked session numbers asked hscript, hanswer]
        simp [hanswer]
  | true =>
      have hstate := (state hwidth answer (script.drop 1) _ rfl).2
      constructor
      · simpa [hanswer] using hwidth
      · intro file session numbers asked hscript hroom
        rw [runOn_offer, hasked session numbers asked hscript, hanswer]
        obtain ⟨journal, hrun⟩ := hstate file { session with
          respondent := .scripted (script.drop 1) numbers (asked ++ [question.text]) } _ _ rfl hroom
        exact ⟨journal, by simpa [hanswer] using hrun⟩

/-- Of two steps, the later one states its directives above those of the earlier one. -/
theorem seq (hx : Settles x questions lower width) (hy : Settles y others upper more) :
    Settles (do x; y) (questions ++ others) (fun answer => upper answer ++ lower answer)
      (width + more) := by
  intro answer script later gives
  obtain ⟨middle, hgives, hothers⟩ := gives_append.mp gives
  obtain ⟨hlower, hrunx⟩ := hx answer script middle hgives
  obtain ⟨hupper, hruny⟩ := hy answer middle later hothers
  constructor
  · simp only [List.map_append, List.sum_append]
    omega
  · intro file session numbers asked hscript hroom
    obtain ⟨journal, hx⟩ := hrunx file session numbers asked hscript (by omega)
    have hroom' : (({ file with
        directives := (lower answer).map Directive.line ++ file.directives }.size + more : Nat)
          : Int) ≤ file.capacity := by
      rw [SecretFile.size_above, List.map_map]
      simp only [Function.comp_def]
      omega
    obtain ⟨last, hy⟩ := hruny _ { session with
      respondent := .scripted middle numbers (asked ++ questions.map Question.text), journal } _ _
        rfl hroom'
    refine ⟨last, ?_⟩
    rw [ComposeM.runOn_bind, hx]
    simpa using hy

end Settles

/-! ### The directives of options -/

variable {mode : Mode} {options : Options}

theorem settles_addReuse (mode : Mode) (options : Options) :
    Settles (addReuse mode options)
      (if mode = .timeBased ∧ options.toSettings.disallowReuse = none then [.reuse] else [])
      (fun answer => (reuse? mode options.toSettings answer).toList)
      (lineSize Directive.disallowReuse.line) := by
  cases mode with
  | counterBased =>
      simpa [addReuse, reuse?] using Settles.skip _
  | timeBased =>
      cases hreuse : options.disallowReuse with
      | none =>
          have := Settles.offer .reuse (Nat.le_refl (lineSize Directive.disallowReuse.line))
          simpa [addReuse, reuse?, Options.toSettings, hreuse, apply_ite Option.toList] using this
      | some given =>
          cases given with
          | false => simpa [addReuse, reuse?, Options.toSettings, hreuse] using Settles.skip _
          | true =>
              have := Settles.state (Nat.le_refl (lineSize Directive.disallowReuse.line))
              simpa [addReuse, reuse?, Options.toSettings, hreuse] using this

theorem settles_addStep (mode : Mode) (consistent : options.IsConsistent)
    (hmode : mode = .counterBased → options.stepSize = none) :
    Settles (addStep mode options) [] (fun _ => (step? mode options.toSettings).toList)
      (lineSize (Directive.stepSize Quantity.stepSize.greatest).line) := by
  cases hstep : options.stepSize with
  | none => simpa [addStep, step?, Options.toSettings, hstep] using Settles.skip _
  | some seconds =>
      cases mode with
      | counterBased => exact absurd ((hmode rfl).symm.trans hstep) (by simp)
      | timeBased =>
          have hrange := (consistent.step seconds hstep).1
          by_cases husual : seconds = Totp.defaultStep
          · subst husual
            simpa [addStep, step?, Options.toSettings, hstep, Totp.defaultStep]
              using Settles.skip _
          · have hgiven : ¬ (seconds : Int) = 30 := by
              simp only [Totp.defaultStep] at husual
              omega
            have := Settles.state (Directive.lineSize_stepSize_le hrange.2)
            simpa [addStep, step?, Options.toSettings, hstep, husual, hgiven] using this

theorem settles_addWindow (consistent : options.IsConsistent)
    (hclash : clash? mode options.toSettings = none) :
    Settles (addWindow mode options)
      (if options.toSettings.windowSize = none ∧ ¬ options.toSettings.minimalWindow then
        [.window mode] else [])
      (fun answer => (window? mode options.toSettings answer).toList)
      (lineSize (Directive.windowSize Quantity.windowSize.greatest).line) := by
  cases hwindow : options.window with
  | ask =>
      have hwide : wideWindow ≤ Quantity.windowSize.greatest := by decide
      have := Settles.offer (.window mode) (Directive.lineSize_windowSize_le hwide)
      simpa [addWindow, window?, wideWindow, Options.toSettings, hwindow,
        apply_ite Option.toList] using this
  | minimal =>
      have hleast : minimalWindow mode ≤ Quantity.windowSize.greatest := by
        cases mode <;> decide
      have := Settles.state (Directive.lineSize_windowSize_le hleast)
      cases mode with
      | timeBased =>
          simpa [addWindow, window?, minimalWindow, minTimeBasedWindow, Options.toSettings,
            hwindow] using this
      | counterBased =>
          simpa [addWindow, window?, minimalWindow, Options.toSettings, hwindow] using this
  | size codes =>
      have hrange := (consistent.window codes hwindow).1
      have := Settles.state (Directive.lineSize_windowSize_le hrange.2)
      have hsmall : ¬ (mode = .timeBased ∧ codes < minTimeBasedWindow) := by
        rintro ⟨rfl, hlt⟩
        have hlt : (codes : Int) < 3 := Int.ofNat_lt.mpr hlt
        simp [clash?, Options.toSettings, hwindow, hlt] at hclash
      simpa [addWindow, window?, Options.toSettings, hwindow, hsmall] using this

theorem settles_addRate (consistent : options.IsConsistent) :
    Settles (addRate options)
      (if options.toSettings.rateLimit = none ∧ ¬ options.toSettings.noRateLimit then [.rate]
        else [])
      (fun answer => (rate? options.toSettings answer).toList)
      (lineSize (Directive.rateLimit Quantity.rateLimit.greatest
        Quantity.rateTime.greatest).line) := by
  cases hrate : options.rate with
  | ask =>
      have hattempts : 3 ≤ Quantity.rateLimit.greatest := by decide
      have hseconds : 30 ≤ Quantity.rateTime.greatest := by decide
      have := Settles.offer .rate (Directive.lineSize_rateLimit_le hattempts hseconds)
      simpa [addRate, rate?, usualRate, Options.toSettings, hrate, apply_ite Option.toList] using this
  | unlimited => simpa [addRate, rate?, Options.toSettings, hrate] using Settles.skip _
  | limit attempts seconds =>
      obtain ⟨hattempts, hseconds⟩ := consistent.rate attempts seconds hrate
      have := Settles.state (Directive.lineSize_rateLimit_le hattempts.2 hseconds.2)
      simpa [addRate, rate?, Options.toSettings, hrate] using this

/-- The size of all directives at their widest. -/
def widest : Nat :=
  lineSize Directive.disallowReuse.line
    + (lineSize (Directive.stepSize Quantity.stepSize.greatest).line
    + (lineSize (Directive.windowSize Quantity.windowSize.greatest).line
    + lineSize (Directive.rateLimit Quantity.rateLimit.greatest Quantity.rateTime.greatest).line))

theorem settles_add (consistent : options.IsConsistent)
    (hclash : clash? mode options.toSettings = none) :
    Settles (add mode options) (openQuestions mode options.toSettings)
      (directives mode options.toSettings) widest := by
  have hmode : mode = .counterBased → options.stepSize = none := by
    rintro rfl
    simpa [clash?, Options.toSettings] using hclash
  have := (settles_addReuse mode options).seq ((settles_addStep mode consistent hmode).seq
    ((settles_addWindow consistent hclash).seq (settles_addRate consistent)))
  rw [openQuestions, List.append_assoc]
  exact this

/-- Settings that do not go with the mode are found out whatever the answers are. Only the question
about reuse comes before that. -/
theorem runOn_add_eq_of_clash {conflict : Conflict} {file : SecretFile} {session : Session}
    {numbers : List (Option Int)} {asked : List String} (consistent : options.IsConsistent)
    (hclash : clash? mode options.toSettings = some conflict)
    (hscript : session.respondent = .scripted script numbers asked)
    (hroom : ((file.size + widest : Nat) : Int) ≤ file.capacity) :
    ∃ journal, runOn ((add mode options).run file) session =
      (.error (.conflict conflict), { session with
        respondent := .scripted (script.drop (askedQuestions mode options.toSettings).length) numbers
          (asked ++ (askedQuestions mode options.toSettings).map Question.text)
        journal }) := by
  have hsplit : add mode options =
      (do addReuse mode options; addStep mode options) >>= fun _ =>
        (do addWindow mode options; addRate options) := by
    rw [bind_assoc]
    rfl
  rw [hsplit, askedQuestions, hclash]
  cases mode with
  | counterBased =>
      cases hstep : options.stepSize with
      | none => simp [clash?, Options.toSettings, hstep] at hclash
      | some seconds =>
          obtain rfl : Conflict.stepInCounterBased = conflict := by
            simpa [clash?, Options.toSettings, hstep] using hclash
          have hthrow : addStep .counterBased options = throw (.conflict .stepInCounterBased) := by
            simp [addStep, hstep]
          have hfirst : (do addReuse .counterBased options; addStep .counterBased options) =
              (throw (.conflict .stepInCounterBased) : ComposeM Unit) := by
            rw [hthrow]
            rfl
          rw [hfirst, ComposeM.runOn_bind, ComposeM.runOn_throw]
          exact ⟨session.journal, by simp [← hscript]⟩
  | timeBased =>
      cases hwindow : options.window with
      | ask => simp [clash?, Options.toSettings, hwindow] at hclash
      | minimal => simp [clash?, Options.toSettings, hwindow] at hclash
      | size codes =>
          obtain ⟨hsmall, rfl⟩ : (codes : Int) < 3 ∧ Conflict.windowTooSmall = conflict := by
            simpa [clash?, Options.toSettings, hwindow] using hclash
          have hthrow : addWindow .timeBased options = throw (.conflict .windowTooSmall) := by
            have hsmall : codes < minTimeBasedWindow := Int.ofNat_lt.mp hsmall
            simp [addWindow, hwindow, hsmall]
          -- everything up to the window goes well, whatever the answer on reuse
          have settles := (settles_addReuse .timeBased options).seq
            (settles_addStep .timeBased consistent (by simp))
          rw [List.append_nil] at settles
          dsimp only
          generalize hquestions : (if Mode.timeBased = .timeBased ∧
            options.toSettings.disallowReuse = none then [Question.reuse] else []) = questions
            at settles ⊢
          have hdistinct : questions.Nodup := by
            rw [← hquestions]
            split <;> simp
          obtain ⟨journal, hrun⟩ := (settles _ _ _ (gives_nth hdistinct script)).2 file session
            numbers asked hscript (by simp only [widest] at hroom; omega)
          rw [ComposeM.runOn_bind_of_ok hrun, hthrow]
          exact ⟨journal, rfl⟩

theorem runOn_add_of_clash {conflict : Conflict} {file : SecretFile} {session : Session}
    {numbers : List (Option Int)} {asked : List String} (consistent : options.IsConsistent)
    (hclash : clash? mode options.toSettings = some conflict)
    (hscript : session.respondent = .scripted script numbers asked)
    (hroom : ((file.size + widest : Nat) : Int) ≤ file.capacity) :
    (runOn ((add mode options).run file) session).1 = .error (.conflict conflict) := by
  obtain ⟨journal, hrun⟩ := runOn_add_eq_of_clash consistent hclash hscript hroom
  rw [hrun]

/-- Whatever comes of it, the answers of a script are taken one by one by the questions. -/
theorem respondent_add (mode : Mode) {file : SecretFile} {session : Session}
    {numbers : List (Option Int)} {asked : List String} (consistent : options.IsConsistent)
    (hscript : session.respondent = .scripted script numbers asked)
    (hroom : ((file.size + widest : Nat) : Int) ≤ file.capacity) :
    (runOn ((add mode options).run file) session).2.respondent =
      .scripted (script.drop (askedQuestions mode options.toSettings).length) numbers
        (asked ++ (askedQuestions mode options.toSettings).map Question.text) := by
  cases hclash : clash? mode options.toSettings with
  | some conflict =>
      obtain ⟨journal, hrun⟩ := runOn_add_eq_of_clash consistent hclash hscript hroom
      rw [hrun]
  | none =>
      have gives := gives_nth (nodup_openQuestions mode options.toSettings) script
      obtain ⟨journal, hrun⟩ := (settles_add consistent hclash _ _ _ gives).2 file session numbers
        asked hscript hroom
      rw [hrun, askedQuestions, hclash]

end Policy

end OneTimePassword
