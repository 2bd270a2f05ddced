/-
Module: OneTimePassword.Proofs.SecretFile.Content
Purpose: What a secret file that was put together holds, whoever answered the questions.
Main exports: Policy.States, Policy.states_add, SecretFile.compose_states, SecretFile.compose_eq_ok
-/
import OneTimePassword.Proofs.SecretFile.Compositional
import OneTimePassword.Proofs.SecretFile.Steps
import OneTimePassword.Proofs.Session.Frame

namespace OneTimePassword

open Session (Talks)
open SetupM (runOn Keeps)

/-- The time step that a directive states. -/
def Directive.seconds? : Directive → Option Int
  | .stepSize seconds => some seconds
  | .disallowReuse | .windowSize _ | .rateLimit _ _ => none

namespace Policy

variable {x y : ComposeM Unit} {steps : List Int}

/-- A step talks to people and puts directives below the secret, and nothing else. They state the
given time steps. -/
def States (steps : List Int) (x : ComposeM Unit) : Prop :=
  ∀ file s,
    match runOn (x.run file) s with
    | (.ok ((), file'), t) => Talks s t ∧ ∃ directives : List Directive,
        directives.filterMap Directive.seconds? = steps ∧
        file' = { file with directives := directives.map Directive.line ++ file.directives }
    | (.error _, t) => Talks s t

namespace States

theorem skip : States [] (pure ()) := fun _ s => ⟨.refl s, [], rfl, rfl⟩

theorem stop (e : Failure) : States steps (throw e) := fun _ s => Talks.refl s

theorem state (directive : Directive) :
    States directive.seconds?.toList (Policy.state directive) := by
  intro file s
  rw [Policy.state, SecretFile.runOn_insertLine, SecretFile.insertDirective,
    SecretFile.stripNewlines_of_notMem directive.newline_notMem_line]
  by_cases fits : file.Fits directive.line
  · simp only [fits, if_true]
    have hsteps : [directive].filterMap Directive.seconds? = directive.seconds?.toList := by
      cases hseconds : directive.seconds? <;> simp [hseconds]
    exact ⟨⟨rfl, rfl, "", by simp⟩, [directive], hsteps, rfl⟩
  · simp only [fits, if_false]
    exact .refl s

/-- What is left to the user is no time step. -/
theorem offer (question : Question) {directive : Directive} (h : directive.seconds? = none) :
    States [] (Policy.offer question directive) := by
  intro file s
  rw [runOn_offer]
  have hasked : Keeps Talks (askWhether question.text) := Keeps.talks_ask _
  rcases hrun : runOn (askWhether question.text) s with ⟨e | answer, middle⟩
  · exact hasked.of_run hrun
  · cases answer with
    | false => exact ⟨hasked.of_run hrun, [], rfl, rfl⟩
    | true =>
        have hstate := state directive file middle
        rw [h] at hstate
        have htalks := hasked.of_run hrun
        simp only
        rcases hrest : runOn ((Policy.state directive).run file) middle with ⟨e | ⟨⟨⟩, file'⟩, t⟩
        · rw [hrest] at hstate
          exact htalks.trans hstate
        · rw [hrest] at hstate
          rcases hstate with ⟨hlater, directives, hfile⟩
          exact ⟨htalks.trans hlater, directives, hfile⟩

/-- The directives of the later step stand above those of the earlier one. -/
theorem seq {lower upper : List Int} (hx : States lower x) (hy : States upper y) :
    States (upper ++ lower) (do x; y) := by
  intro file s
  have hfirst := hx file s
  rw [ComposeM.runOn_bind]
  rcases hrun : runOn (x.run file) s with ⟨e | ⟨⟨⟩, middle⟩, t⟩
  · rw [hrun] at hfirst
    exact hfirst
  · rw [hrun] at hfirst
    rcases hfirst with ⟨htalks, below, hbelow, rfl⟩
    have hsecond := hy { file with directives := below.map Directive.line ++ file.directives } t
    simp only
    rcases hrest : runOn (y.run _) t with ⟨e | ⟨⟨⟩, file'⟩, u⟩
    · rw [hrest] at hsecond
      exact htalks.trans hsecond
    · rw [hrest] at hsecond
      rcases hsecond with ⟨hlater, above, habove, rfl⟩
      exact ⟨htalks.trans hlater, above ++ below, by rw [List.filterMap_append, habove, hbelow],
        by simp⟩

end States

/-- The time steps that a file states: one at most, and none if it is the usual one. -/
def statedSteps (mode : Mode) (options : Options) : List Int :=
  match mode, options.stepSize with
  | .timeBased, some seconds => if seconds = Totp.defaultStep then [] else [(seconds : Int)]
  | _, _ => []

theorem states_add (mode : Mode) (options : Options) :
    States (statedSteps mode options) (add mode options) := by
  have hreuse : States [] (addReuse mode options) := by
    unfold addReuse
    split
    · exact .offer _ rfl
    · exact .state .disallowReuse
    · exact .skip
  have hstep : States (statedSteps mode options) (addStep mode options) := by
    unfold addStep statedSteps
    cases options.stepSize with
    | none => cases mode <;> exact .skip
    | some seconds =>
        cases mode with
        | counterBased => exact .stop _
        | timeBased =>
            dsimp only
            split
            · exact .skip
            · exact .state (.stepSize seconds)
  have hwindow : States [] (addWindow mode options) := by
    unfold addWindow
    split
    · exact .offer _ rfl
    · exact .state (.windowSize _)
    · split
      · exact .stop _
      · exact .state (.windowSize _)
  have hrate : States [] (addRate options) := by
    unfold addRate
    split
    · exact .offer _ rfl
    · exact .skip
    · exact .state (.rateLimit _ _)
  have hall := hreuse.seq (hstep.seq (hwindow.seq hrate))
  rw [List.append_nil, List.nil_append, List.nil_append] at hall
  exact hall

end Policy

namespace SecretFile

variable {file file' : SecretFile} {mode : Mode} {secret : String} {codes : List Int}
  {options : Options} {s t : Session}

theorem runOn_change_eq_ok_iff {f : SecretFile → Except Refusal SecretFile} :
    runOn ((change f).run file) s = (.ok ((), file'), t) ↔ f file = .ok file' ∧ t = s := by
  rw [runOn_change]
  cases f file with
  | error refusal => simp
  | ok changed => simp [eq_comm]

theorem addCodes_eq_ok
    (h : runOn ((codes.forM fun code => change (·.addCode code)).run file) s = (.ok ((), file'), t)) :
    file' = { file with entries := file.entries ++ codes.map ScratchCode.display } ∧ t = s := by
  induction codes generalizing file s with
  | nil =>
      cases h
      simp
  | cons code rest ih =>
      obtain ⟨⟨⟩, changed, middle, hfirst, hrest⟩ := ComposeM.runOn_bind_eq_ok_iff.mp h
      obtain ⟨hadded, rfl⟩ := runOn_change_eq_ok_iff.mp hfirst
      obtain ⟨rfl, rfl⟩ := ih hrest
      obtain ⟨-, rfl⟩ := append_eq_ok_iff.mp hadded
      exact ⟨by simp, rfl⟩

theorem keepsTalks_compose (secret : String) (mode : Mode) (codes : List Int) (options : Options) :
    Keeps Talks (compose secret mode codes options) :=
  SetupM.conversational_talks.compose secret mode codes options

/-- A file that was put together has the secret on top and the mode line with the codes behind it at
the bottom. All that stands between are directives, and they state a time step if one is to be. -/
theorem compose_states (hsecret : '\n' ∉ secret.toList)
    (h : runOn (compose secret mode codes options) s = (.ok file, t)) :
    ∃ directives : List Directive,
      directives.filterMap Directive.seconds? = Policy.statedSteps mode options ∧
      file.lines =
        secret :: (directives.map Directive.line ++ mode.line :: codes.map ScratchCode.display) := by
  obtain ⟨started, s₁, hfirst, hall⟩ := SetupM.runOn_bind_eq_ok_iff.mp h
  obtain ⟨hstart, -⟩ := SetupM.runOn_orFail_eq_ok_iff.mp hfirst
  obtain ⟨⟨⟨⟩, filled⟩, s₂, hsteps, hend⟩ := SetupM.runOn_bind_eq_ok_iff.mp hall
  cases hend
  obtain ⟨⟨⟩, headed, s₃, hsecond, hlater⟩ := ComposeM.runOn_bind_eq_ok_iff.mp hsteps
  obtain ⟨hmode, -⟩ := runOn_change_eq_ok_iff.mp hsecond
  obtain ⟨⟨⟩, coded, s₄, hcodes, hadd⟩ := ComposeM.runOn_bind_eq_ok_iff.mp hlater
  obtain ⟨hcoded, -⟩ := addCodes_eq_ok hcodes
  have hstates := Policy.states_add mode options coded s₄
  rw [hadd] at hstates
  rcases hstates with ⟨-, directives, hstated, rfl⟩
  have hstarted : started.secret = secret ∧ started.directives = [] ∧ started.entries = [] := by
    rw [start, stripNewlines_of_notMem hsecret] at hstart
    split at hstart
    · cases hstart
      exact ⟨rfl, rfl, rfl⟩
    · cases hstart
  rcases hstarted with ⟨hsecret, hdirectives, hentries⟩
  rw [(addMode_eq_ok_iff.mp hmode).2.2] at hcoded
  exact ⟨directives, hstated, by simp [lines, hcoded, hsecret, hdirectives, hentries]⟩

theorem compose_eq_ok (hsecret : '\n' ∉ secret.toList)
    (h : runOn (compose secret mode codes options) s = (.ok file, t)) :
    ∃ directives : List Directive, file.lines =
      secret :: (directives.map Directive.line ++ mode.line :: codes.map ScratchCode.display) := by
  obtain ⟨directives, -, hlines⟩ := compose_states hsecret h
  exact ⟨directives, hlines⟩

end SecretFile

end OneTimePassword
