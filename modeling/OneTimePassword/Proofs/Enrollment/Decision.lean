/-
Module: OneTimePassword.Proofs.Enrollment.Decision
Purpose: The check of an app ends with the first answer that decides it, whoever answers and whatever
  the clock gives.
Main exports: Enrollment.IsDecisive, Enrollment.missSheet, Enrollment.afterMisses,
  Enrollment.runOn_confirmWithin_of_misses, Enrollment.Concluded, Enrollment.confirmApp_decided
-/
import Mathlib.Order.Nat
import Mathlib.Tactic.Choose
import OneTimePassword.Proofs.Enrollment.Questions

namespace OneTimePassword

/-! ### Answers in order -/

namespace Respondent

variable {respondent : Respondent}

/-- A number is gone with each question, as long as there are any. -/
theorem numbersLeft_askNumber (message : String) (respondent : Respondent) :
    (askNumber message respondent).respondent.numbersLeft = respondent.numbersLeft - 1 := by
  cases respondent with
  | console lines atEnd => cases lines <;> rfl
  | scripted yesNo numbers asked => cases numbers <;> rfl

/-- Where no number is left there is no answer, or a negative one. -/
theorem lt_numbersLeft {place : Nat} {answer : Option Int}
    (hanswer : respondent.codeAnswer place = .ok answer)
    (hskip : ¬ ∃ number < 0, answer = some number) : place < respondent.numbersLeft := by
  induction place generalizing respondent with
  | zero =>
      cases respondent with
      | console lines atEnd =>
          cases lines with
          | nil => cases hanswer
          | cons line rest => exact Nat.succ_pos _
      | scripted yesNo numbers asked =>
          cases numbers with
          | nil =>
              cases hanswer
              exact absurd ⟨-1, by decide, rfl⟩ hskip
          | cons number later => exact Nat.succ_pos _
  | succ place ih =>
      have hlater := ih hanswer
      rw [numbersLeft_askNumber] at hlater
      omega

theorem afterCodes_succ (respondent : Respondent) (count : Nat) :
    respondent.afterCodes (count + 1) = (respondent.afterCodes count).afterCodes 1 := by
  induction count generalizing respondent with
  | zero => rfl
  | succ count ih => exact ih _

/-- Where a question for a code has no answer the input is at its end. -/
theorem ending?_of_codeAnswer {place : Nat} {stop : Stop}
    (hstop : respondent.codeAnswer place = .error stop) : respondent.ending? = some stop := by
  induction place generalizing respondent with
  | zero => exact (isPatient_askNumber codeQuestion respondent).2 stop hstop
  | succ place ih =>
      rw [← (isPatient_askNumber codeQuestion respondent).1]
      exact ih hstop

theorem codeAnswer_afterCodes (respondent : Respondent) (count place : Nat) :
    (respondent.afterCodes count).codeAnswer place = respondent.codeAnswer (count + place) := by
  induction count generalizing respondent with
  | zero => rw [afterCodes, Nat.zero_add]
  | succ count ih => rw [afterCodes, ih, Nat.succ_add, codeAnswer]

/-- At its end a console is left on a new line. -/
theorem printed_askNumber_of_stop {stop : Stop}
    (h : (askNumber codeQuestion respondent).outcome = .error stop) :
    (askNumber codeQuestion respondent).printed = respondent.codePrompt ++ closing stop := by
  cases respondent with
  | console lines atEnd =>
      cases lines with
      | nil =>
          cases h
          rfl
      | cons line rest => cases h
  | scripted yesNo numbers asked => cases numbers <;> cases h

end Respondent

namespace Enrollment

open Respondent (codeQuestion)
open SetupM (runOn)

variable {secret : String} {step : Int} {codes : List Nat} {code questions : Nat} {s t : Session}

/-! ### Misses -/

/-- An answer ends the check if it is a negative number or the present code. -/
def IsDecisive (answer : Option Int) (code : Nat) : Prop :=
  (∃ number < 0, answer = some number) ∨ answer = some (code : Int)

/-- What is printed with the answers that miss, each of which gives the present code away. -/
def missSheet (prompt : String) : List Nat → String
  | [] => ""
  | code :: later =>
      prompt ++ "Code incorrect (correct code " ++ Hotp.display code ++ "). Try again.\n" ++
        missSheet prompt later

/-- The session after answers that missed the given codes: the clock was read for each of them. -/
def afterMisses (s : Session) (codes : List Nat) : Session :=
  { s with
    respondent := s.respondent.afterCodes codes.length
    clock := { s.clock with taken := s.clock.taken + codes.length }
    printed := s.printed ++ missSheet s.respondent.codePrompt codes
    journal := s.journal ++ List.replicate codes.length (.debug "Code mismatch, asking again") }

theorem afterMisses_nil (s : Session) : afterMisses s [] = s := by
  simp [afterMisses, missSheet, Respondent.afterCodes]

theorem afterMisses_cons (s : Session) (code : Nat) (codes : List Nat) :
    afterMisses s (code :: codes) = afterMisses (afterMisses s [code]) codes := by
  have hprompt : (Respondent.askNumber codeQuestion s.respondent).respondent.codePrompt =
      s.respondent.codePrompt :=
    Respondent.codePrompt_of_isPatient (Respondent.isPatient_askNumber _) s.respondent
  simp [afterMisses, missSheet, Respondent.afterCodes, hprompt, String.append_assoc,
    List.replicate_succ, Nat.add_assoc, Nat.add_comm 1]

theorem upcoming_afterMisses (s : Session) (codes : List Nat) (place : Nat) :
    (afterMisses s codes).clock.upcoming place = s.clock.upcoming (codes.length + place) := by
  simp [afterMisses, Clock.upcoming, Nat.add_assoc]

theorem codePrompt_afterMisses (s : Session) (codes : List Nat) :
    (afterMisses s codes).respondent.codePrompt = s.respondent.codePrompt := by
  induction codes generalizing s with
  | nil => rw [afterMisses_nil]
  | cons code codes ih =>
      rw [afterMisses_cons, ih]
      exact Respondent.codePrompt_of_isPatient (Respondent.isPatient_askNumber _) s.respondent

theorem runOn_presentCode (hcode : IsCodeAt secret step (s.clock.upcoming 0) code) :
    runOn (presentCode secret step) s = (.ok code, { s with clock := s.clock.read.2 }) := by
  obtain ⟨counter, hcounter, hvalue⟩ := hcode
  have hread : runOn readClock s = (.ok (s.clock.upcoming 0), { s with clock := s.clock.read.2 }) :=
    rfl
  rw [presentCode, SetupM.runOn_bind_of_ok hread, hcounter,
    SetupM.runOn_bind_of_ok (SetupM.runOn_orFail_ok _ _ _), hvalue, SetupM.runOn_orFail_ok]

/-- The session after a question for a code. -/
def afterQuestion (s : Session) : Session :=
  { s with
    respondent := s.respondent.afterCodes 1
    printed := s.printed ++ s.respondent.codePrompt }

theorem runOn_askNumber {answer : Option Int} (hanswer : s.respondent.codeAnswer 0 = .ok answer) :
    runOn (askNumber codeQuestion) s = (.ok answer, afterQuestion s) := by
  have houtcome : (Respondent.askNumber codeQuestion s.respondent).outcome = .ok answer := hanswer
  rw [askNumber, SetupM.runOn_ask, houtcome, SetupM.runOn_orFail_ok,
    Respondent.printed_askNumber houtcome]
  rfl

/-- An answer that does not decide the check is followed by the next question. -/
theorem runOn_confirmWithin_of_miss {answer : Option Int}
    (hcode : IsCodeAt secret step (s.clock.upcoming 0) code)
    (hanswer : s.respondent.codeAnswer 0 = .ok answer) (hmiss : ¬ IsDecisive answer code) :
    runOn (confirmWithin secret step (questions + 1)) s =
      runOn (confirmWithin secret step questions) (afterMisses s [code]) := by
  obtain ⟨hskip, hwrong⟩ := not_or.mp hmiss
  have hskip : ¬ answer.any (· < 0) := by
    cases answer with
    | none => simp
    | some number => simpa using hskip
  rw [confirmWithin]
  change runOn (askNumber codeQuestion >>= _) s = _
  rw [SetupM.runOn_bind_of_ok (runOn_askNumber hanswer), if_neg hskip,
    SetupM.runOn_bind_of_ok (runOn_presentCode (s := afterQuestion s) hcode), if_neg hwrong,
    SetupM.runOn_bind_of_ok (SetupM.runOn_note _ _),
    SetupM.runOn_bind_of_ok (SetupM.runOn_printLine _ _)]
  congr 1
  simp [afterQuestion, afterMisses, missSheet, Clock.read, String.append_assoc]

/-- Answers that do not decide the check only take it on. -/
theorem runOn_confirmWithin_of_misses
    (hmisses : ∀ place code, codes[place]? = some code →
      IsCodeAt secret step (s.clock.upcoming place) code ∧
        ∃ answer, s.respondent.codeAnswer place = .ok answer ∧ ¬ IsDecisive answer code) :
    runOn (confirmWithin secret step (codes.length + questions)) s =
      runOn (confirmWithin secret step questions) (afterMisses s codes) := by
  induction codes generalizing s with
  | nil => rw [afterMisses_nil, List.length_nil, Nat.zero_add]
  | cons code codes ih =>
      obtain ⟨hcode, answer, hanswer, hmiss⟩ := hmisses 0 code rfl
      rw [List.length_cons, Nat.add_right_comm, runOn_confirmWithin_of_miss hcode hanswer hmiss,
        afterMisses_cons s code codes]
      apply ih
      intro place other hother
      have hlater := hmisses (place + 1) other hother
      rw [upcoming_afterMisses, List.length_singleton, Nat.add_comm 1]
      exact hlater

/-! ### The decision -/

/-- What a check has done that ends behind answers which missed the given codes: it has asked one
question more, has taken this many readings of the clock, and has printed this text at last. -/
structure Concluded (s : Session) (codes : List Nat) (readings : Nat) (last : String) (t : Session) :
    Prop where
  respondent : t.respondent = s.respondent.afterCodes (codes.length + 1)
  clock : t.clock = { s.clock with taken := s.clock.taken + readings }
  printed : t.printed = s.printed ++ missSheet s.respondent.codePrompt codes ++
    s.respondent.codePrompt ++ last
  files : t.files = s.files
  random : t.random = s.random

/-- A check goes on from where the answers before have taken it. -/
theorem Concluded.of_afterMisses {readings : Nat} {last : String}
    (concluded : Concluded (afterMisses s codes) [] readings last t) :
    Concluded s codes (codes.length + readings) last t where
  respondent := by
    rw [concluded.respondent]
    exact (Respondent.afterCodes_succ s.respondent codes.length).symm
  clock := by
    rw [concluded.clock]
    simp [afterMisses, Nat.add_assoc]
  printed := by
    rw [concluded.printed, codePrompt_afterMisses]
    simp [afterMisses, missSheet]
  files := concluded.files
  random := concluded.random

/-- A negative number is enough: the clock is not read for it. -/
theorem exists_runOn_of_skip {number : Int} (hnumber : number < 0)
    (hanswer : s.respondent.codeAnswer 0 = .ok (some number)) :
    ∃ t, runOn (confirmWithin secret step (questions + 1)) s = (.ok false, t) ∧
      Concluded s [] 0 "Code confirmation skipped\n" t := by
  have hskip : (some number).any (· < 0) = true := by simpa using hnumber
  rw [confirmWithin]
  change ∃ t, runOn (askNumber codeQuestion >>= _) s = _ ∧ _
  rw [SetupM.runOn_bind_of_ok (runOn_askNumber hanswer), if_pos hskip,
    SetupM.runOn_bind_of_ok (SetupM.runOn_printLine _ _)]
  exact ⟨_, rfl, rfl, rfl, by simp [afterQuestion, missSheet], rfl, rfl⟩

theorem exists_runOn_of_match (hcode : IsCodeAt secret step (s.clock.upcoming 0) code)
    (hanswer : s.respondent.codeAnswer 0 = .ok (some (code : Int))) :
    ∃ t, runOn (confirmWithin secret step (questions + 1)) s = (.ok true, t) ∧
      Concluded s [] 1 "Code confirmed\n" t := by
  have hskip : ¬ (some (code : Int)).any (· < 0) = true := by simp
  rw [confirmWithin]
  change ∃ t, runOn (askNumber codeQuestion >>= _) s = _ ∧ _
  rw [SetupM.runOn_bind_of_ok (runOn_askNumber hanswer), if_neg hskip,
    SetupM.runOn_bind_of_ok (runOn_presentCode (s := afterQuestion s) hcode), if_pos rfl,
    SetupM.runOn_bind_of_ok (SetupM.runOn_printLine _ _)]
  exact ⟨_, rfl, rfl, rfl, by simp [afterQuestion, missSheet], rfl, rfl⟩

theorem exists_runOn_of_stop {stop : Respondent.Stop}
    (hanswer : s.respondent.codeAnswer 0 = .error stop) :
    ∃ t, runOn (confirmWithin secret step (questions + 1)) s = (.error (.unanswered stop), t) ∧
      Concluded s [] 0 (Respondent.closing stop) t := by
  have houtcome : (Respondent.askNumber codeQuestion s.respondent).outcome = .error stop := hanswer
  obtain ⟨t, hask, concluded⟩ : ∃ t,
      runOn (askNumber codeQuestion) s = (.error (.unanswered stop), t) ∧
        Concluded s [] 0 (Respondent.closing stop) t := by
    rw [askNumber, SetupM.runOn_ask, houtcome, SetupM.runOn_orFail_error]
    exact ⟨_, rfl, rfl, rfl, by simp [missSheet, Respondent.printed_askNumber_of_stop houtcome,
      String.append_assoc], rfl, rfl⟩
  rw [confirmWithin]
  exact ⟨t, SetupM.runOn_bind_of_error hask, concluded⟩

/-- Whatever is answered, one answer is the first that decides the check, or else the input ends
before. -/
theorem exists_misses (respondent : Respondent) (code : Nat → Nat) :
    ∃ misses ≤ respondent.numbersLeft,
      (∀ place < misses, ∃ answer, respondent.codeAnswer place = .ok answer ∧
        ¬ IsDecisive answer (code place)) ∧
      ∀ answer, respondent.codeAnswer misses = .ok answer → IsDecisive answer (code misses) := by
  classical
  have hlast : ∀ answer, respondent.codeAnswer respondent.numbersLeft = .ok answer →
      IsDecisive answer (code respondent.numbersLeft) := by
    intro answer hanswer
    by_contra hmiss
    exact absurd (Respondent.lt_numbersLeft hanswer (not_or.mp hmiss).1) (Nat.lt_irrefl _)
  have hsome : ∃ place, ∀ answer, respondent.codeAnswer place = .ok answer →
      IsDecisive answer (code place) := ⟨_, hlast⟩
  refine ⟨Nat.find hsome, Nat.find_min' hsome hlast, ?_, Nat.find_spec hsome⟩
  intro place hplace
  simpa only [not_forall, exists_prop] using Nat.find_min hsome hplace

/-- A reading has one code at most. -/
theorem IsCodeAt.unique {reading : Timestamp} {other : Nat}
    (hcode : IsCodeAt secret step reading code) (hother : IsCodeAt secret step reading other) :
    code = other := by
  obtain ⟨counter, hcounter, hvalue⟩ := hcode
  obtain ⟨counter', hcounter', hvalue'⟩ := hother
  obtain rfl : counter = counter' := Except.ok.inj (hcounter.symm.trans hcounter')
  exact Except.ok.inj (hvalue.symm.trans hvalue')

/-- A key and counters of 64 bits make codes, and these have six digits. -/
theorem exists_isCodeAt {key : Bytes} (hkey : Base32.key secret = .ok key) {reading : Timestamp}
    (hreading : ∃ counter, Totp.stepNumber reading step = .ok counter ∧ 0 ≤ counter ∧
      counter < 2 ^ 64) :
    ∃ code, IsCodeAt secret step reading code ∧ (Hotp.display code).length = 6 ∧
      ∀ c ∈ (Hotp.display code).toList, c.isDigit = true := by
  obtain ⟨counter, hcounter, hrange⟩ := hreading
  obtain ⟨code, hcode⟩ : ∃ code, Hotp.codeOfSecret secret counter = .ok code := by
    rw [Hotp.codeOfSecret, hkey]
    simp only [Hotp.code, Hotp.challenge_of_range hrange, Except.map]
    exact ⟨_, rfl⟩
  obtain ⟨hlength, hdigits, -⟩ := codeOfSecret_readable hcode
  exact ⟨code, ⟨counter, hcounter, hcode⟩, hlength, hdigits⟩

/-- The check of an app ends with the first answer that decides it. A key that can be read and a clock
that stays within 64 bits have a code for each reading. Answers that are neither negative numbers nor
the code of the present reading are each followed by that code and by the next question; behind them
stands the answer that decides, and a negative one is taken without a look at the clock, or the input
is at its end. -/
theorem confirmApp_decided {key : Bytes} (hkey : Base32.key secret = .ok key)
    (hclock : ∀ place, ∃ counter, Totp.stepNumber (s.clock.upcoming place) step = .ok counter ∧
      0 ≤ counter ∧ counter < 2 ^ 64) :
    ∃ code : Nat → Nat,
      (∀ place, IsCodeAt secret step (s.clock.upcoming place) (code place) ∧
        (Hotp.display (code place)).length = 6 ∧
        ∀ c ∈ (Hotp.display (code place)).toList, c.isDigit = true) ∧
      ∃ misses,
        (∀ place < misses, ∃ answer, s.respondent.codeAnswer place = .ok answer ∧
          ¬ IsDecisive answer (code place)) ∧
        match s.respondent.codeAnswer misses with
        | .ok answer =>
            ((∃ number < 0, answer = some number) ∧
              ∃ t, runOn (confirmApp secret step) s = (.ok false, t) ∧
                Concluded s ((List.range misses).map code) misses "Code confirmation skipped\n" t) ∨
            (answer = some (code misses : Int) ∧
              ∃ t, runOn (confirmApp secret step) s = (.ok true, t) ∧
                Concluded s ((List.range misses).map code) (misses + 1) "Code confirmed\n" t)
        | .error stop =>
            s.respondent.ending? = some stop ∧
              ∃ t, runOn (confirmApp secret step) s = (.error (.unanswered stop), t) ∧
                Concluded s ((List.range misses).map code) misses (Respondent.closing stop) t := by
  choose code hcode using fun place => exists_isCodeAt hkey (hclock place)
  obtain ⟨misses, hwithin, hmisses, hdecisive⟩ := exists_misses s.respondent code
  refine ⟨code, hcode, misses, hmisses, ?_⟩
  let codes := (List.range misses).map code
  have hlength : codes.length = misses := by simp [codes]
  -- the check is at the question behind the misses
  have hcheck : runOn (confirmApp secret step) s =
      runOn (confirmWithin secret step (s.respondent.numbersLeft - misses + 1))
        (afterMisses s codes) := by
    have hquestions : s.respondent.numbersLeft + 1 =
        codes.length + (s.respondent.numbersLeft - misses + 1) := by omega
    rw [confirmApp, SetupM.runOn_bind_of_ok (SetupM.runOn_get _), hquestions]
    apply runOn_confirmWithin_of_misses
    intro place other hother
    obtain ⟨hplace, rfl⟩ : place < misses ∧ code place = other := by
      simpa [codes, List.getElem?_eq_some_iff] using hother
    exact ⟨(hcode place).1, hmisses place hplace⟩
  have hanswer : (afterMisses s codes).respondent.codeAnswer 0 = s.respondent.codeAnswer misses := by
    rw [afterMisses, hlength, Respondent.codeAnswer_afterCodes, Nat.add_zero]
  have hpresent : IsCodeAt secret step ((afterMisses s codes).clock.upcoming 0) (code misses) := by
    rw [upcoming_afterMisses, hlength, Nat.add_zero]
    exact (hcode misses).1
  rw [hcheck]
  have hended {readings : Nat} {last : String} {t : Session}
      (concluded : Concluded (afterMisses s codes) [] readings last t) :
      Concluded s codes (misses + readings) last t := hlength ▸ concluded.of_afterMisses
  cases hreply : s.respondent.codeAnswer misses with
  | ok answer =>
      rw [hreply] at hanswer
      rcases hdecisive answer hreply with ⟨number, hnumber, rfl⟩ | rfl
      · obtain ⟨t, hrun, concluded⟩ := exists_runOn_of_skip hnumber hanswer
        exact .inl ⟨⟨number, hnumber, rfl⟩, t, hrun, hended concluded⟩
      · obtain ⟨t, hrun, concluded⟩ := exists_runOn_of_match hpresent hanswer
        exact .inr ⟨rfl, t, hrun, hended concluded⟩
  | error stop =>
      obtain ⟨t, hrun, concluded⟩ := exists_runOn_of_stop (hanswer.trans hreply)
      exact ⟨Respondent.ending?_of_codeAnswer hreply, t, hrun, hended concluded⟩

/-- No number and the code of the reading before do not end a check, the code of its own reading
does. -/
theorem confirmApp_decided_of_stale_code :
    let secret := "GEZDGNBVGY3TQOJQGEZDGNBVGY3TQOJQ"
    let session : Session :=
      { random := { name := "", device := .stream [] true }
        respondent := .scripted (.always false) [none, some 287082, some 338314] []
        clock := .ofList (.seconds 59) [.seconds 100, .seconds 125]
        files := { entries := [] } }
    ∃ final, runOn (confirmApp secret 30) session = (.ok true, final) ∧
      final.respondent.questions? = some [codeQuestion, codeQuestion, codeQuestion] ∧
      final.clock.taken = 3 ∧
      final.printed = "Code incorrect (correct code 287082). Try again.\n" ++
        "Code incorrect (correct code 969429). Try again.\n" ++ "Code confirmed\n" := by
  intro secret session
  have hkey : Base32.key secret =
      .ok [49, 50, 51, 52, 53, 54, 55, 56, 57, 48, 49, 50, 51, 52, 53, 54, 55, 56, 57, 48] := by
    decide +kernel
  have hclock (place : Nat) : ∃ counter,
      Totp.stepNumber (session.clock.upcoming place) 30 = .ok counter ∧ 0 ≤ counter ∧
        counter < 2 ^ 64 := by
    obtain rfl | rfl | hlate : place = 0 ∨ place = 1 ∨ 2 ≤ place := by omega
    · exact ⟨1, by decide +kernel⟩
    · exact ⟨3, by decide +kernel⟩
    · have hlast : session.clock.upcoming place = .seconds 125 := by
        obtain ⟨more, rfl⟩ := Nat.exists_eq_add_of_le' hlate
        cases more <;> simp [session, Clock.upcoming, Clock.ofList]
      rw [hlast]
      exact ⟨4, by decide +kernel⟩
  obtain ⟨code, hcode, misses, hmisses, hcheck⟩ := confirmApp_decided hkey hclock
  have hfirst : code 0 = 287082 := (hcode 0).1.unique ⟨1, by decide +kernel, by decide +kernel⟩
  have hsecond : code 1 = 969429 := (hcode 1).1.unique ⟨3, by decide +kernel, by decide +kernel⟩
  have hthird : code 2 = 338314 := (hcode 2).1.unique ⟨4, by decide +kernel, by decide +kernel⟩
  have hcodes : (List.range 2).map code = [287082, 969429] := by
    simp [List.range_succ, hfirst, hsecond]
  obtain rfl | rfl | rfl | hlate : misses = 0 ∨ misses = 1 ∨ misses = 2 ∨ 2 < misses := by omega
  · rcases hcheck with ⟨⟨number, -, hnumber⟩, -⟩ | ⟨hnumber, -⟩ <;> cases hnumber
  · rcases hcheck with ⟨⟨number, hneg, hnumber⟩, -⟩ | ⟨hnumber, -⟩
    · cases hnumber
      omega
    · rw [hsecond] at hnumber
      cases hnumber
  · rcases hcheck with ⟨⟨number, hneg, hnumber⟩, -⟩ | ⟨-, final, hrun, concluded⟩
    · cases hnumber
      omega
    · refine ⟨final, hrun, ?_, ?_, ?_⟩
      · rw [concluded.respondent]
        rfl
      · rw [concluded.clock]
        rfl
      · rw [concluded.printed, hcodes]
        decide +kernel
  · obtain ⟨answer, hanswer, hmiss⟩ := hmisses 2 hlate
    cases hanswer
    rw [hthird] at hmiss
    exact absurd (.inr rfl) hmiss

end Enrollment

end OneTimePassword
