/-
Module: OneTimePassword.Proofs.Session.Frame
Purpose: What the steps of a run leave alone: those that talk to people touch neither the supply of
  random bytes nor the files, and those that read random bytes take them off the front of a stream.
Main exports: Session.Talks, Session.SameFiles, Session.Consumes, Session.Silent,
  SetupM.conversational_talks, SetupM.preparatory_sameFiles, SetupM.showing_unasked,
  SetupM.drawing_silent, readRandom_eq_ok
-/
import OneTimePassword.Proofs.RandomBytes
import OneTimePassword.Proofs.Session.Compositional

namespace OneTimePassword

open SetupM (runOn Keeps Showing Drawing Conversational Preparatory)

namespace Session

variable {s t u : Session}

/-- The later session differs in what was asked, shown and noted down; what was printed before is
still there. -/
def Talks (s t : Session) : Prop :=
  t.random = s.random ∧ t.files = s.files ∧ ∃ text, t.printed = s.printed ++ text

theorem Talks.refl (s : Session) : Talks s s := ⟨rfl, rfl, "", by simp⟩

theorem Talks.trans (hst : Talks s t) (htu : Talks t u) : Talks s u := by
  rcases hst with ⟨hrandom, hfiles, text, hprinted⟩
  rcases htu with ⟨hrandom', hfiles', more, hprinted'⟩
  exact ⟨hrandom'.trans hrandom, hfiles'.trans hfiles, text ++ more, by
    rw [hprinted', hprinted, String.append_assoc]⟩

/-- The files are as they were. -/
def SameFiles (s t : Session) : Prop := t.files = s.files

theorem SameFiles.trans (hst : SameFiles s t) (htu : SameFiles t u) : SameFiles s u :=
  Eq.trans htu hst

theorem Talks.sameFiles (hst : Talks s t) : SameFiles s t := hst.2.1

/-- Bytes are taken off the front of a stream, and neither files nor output change. -/
def Consumes (used : Bytes) (s t : Session) : Prop :=
  t.files = s.files ∧ t.printed = s.printed ∧
    ∃ left, s.random.device = .stream (used ++ left) true ∧ t.random.device = .stream left true

theorem Consumes.exists_left {used : Bytes} (hst : Consumes used s t) :
    ∃ left, t.random.device = .stream left true := by
  rcases hst with ⟨-, -, left, -, ht⟩
  exact ⟨left, ht⟩

theorem Consumes.trans {used more : Bytes} (hst : Consumes used s t) (htu : Consumes more t u) :
    Consumes (used ++ more) s u := by
  rcases hst with ⟨hfiles, hprinted, left, hs, ht⟩
  rcases htu with ⟨hfiles', hprinted', left', ht', hu⟩
  refine ⟨hfiles'.trans hfiles, hprinted'.trans hprinted, left', ?_, hu⟩
  rw [ht] at ht'
  obtain ⟨rfl, -⟩ := RandomBytes.Device.stream.inj ht'
  rw [hs, List.append_assoc]

/-- Nobody was asked, and nobody looked at the clock. -/
def Unasked (s t : Session) : Prop := t.respondent = s.respondent ∧ t.clock = s.clock

theorem Unasked.trans (hst : Unasked s t) (htu : Unasked t u) : Unasked s u :=
  ⟨htu.1.trans hst.1, htu.2.trans hst.2⟩

/-- Besides, nothing was printed. -/
def Silent (s t : Session) : Prop := Unasked s t ∧ t.printed = s.printed

theorem Silent.trans (hst : Silent s t) (htu : Silent t u) : Silent s u :=
  ⟨hst.1.trans htu.1, htu.2.trans hst.2⟩

end Session

open Session (Talks SameFiles Consumes Unasked Silent)

namespace SetupM

/-! ### Talking -/

theorem Keeps.talks_ask {α : Type} (question : Respondent → Respondent.Reply α) :
    Keeps Talks (ask question) := by
  intro s
  rw [runOn_ask]
  have hprinted : Talks s { s with
      respondent := (question s.respondent).respondent
      printed := s.printed ++ (question s.respondent).printed } := ⟨rfl, rfl, _, rfl⟩
  exact hprinted.trans (Keeps.orFail Talks.refl _ _ _)

/-- Those who talk do no more than that. -/
theorem conversational_talks : Conversational fun x => Keeps Talks x where
  toCompositional := .keeps Talks.refl fun _ _ _ => Talks.trans
  print text := fun _ => ⟨rfl, rfl, text, rfl⟩
  note _ := fun _ => ⟨rfl, rfl, "", by simp⟩
  remember _ := fun _ => ⟨rfl, rfl, "", by simp⟩
  askWhether _ := Keeps.talks_ask (Respondent.askWhether _)
  askNumber message := Keeps.talks_ask (Respondent.askNumber message)
  numbersLeft := Talks.refl
  readClock := fun _ => ⟨rfl, rfl, "", by rw [String.append_empty]; rfl⟩

end SetupM

/-! ### Reading random bytes -/

theorem runOn_readRandom (wanted : Int) (s : Session) :
    runOn (readRandom wanted) s =
      match s.random.read wanted with
      | (.ok data, random) =>
          (.ok data, { s with
            random
            journal := s.journal ++ [.debug ("Read " ++ Text.decimal wanted ++ " bytes of entropy")] })
      | (.error e, random) => (.error (.random e), { s with random }) := by
  simp only [readRandom, SetupM.runOn_bind, SetupM.runOn_get, SetupM.runOn_set]
  rcases s.random.read wanted with ⟨e | data, random⟩
  · rfl
  · rfl

theorem keepsSameFiles_readRandom (wanted : Int) : Keeps SameFiles (readRandom wanted) := by
  intro s
  rw [runOn_readRandom]
  rcases s.random.read wanted with ⟨e | data, random⟩
  · rfl
  · rfl

/-- The files are left alone by those who talk, and by those who take random bytes as well. -/
theorem SetupM.preparatory_sameFiles : Preparatory fun x => Keeps SameFiles x where
  toCompositional := .keeps (fun _ => rfl) fun _ _ _ => SameFiles.trans
  print text := (conversational_talks.print text).mono fun _ _ => Talks.sameFiles
  note record := (conversational_talks.note record).mono fun _ _ => Talks.sameFiles
  remember text := (conversational_talks.remember text).mono fun _ _ => Talks.sameFiles
  askWhether h := (conversational_talks.askWhether h).mono fun _ _ => Talks.sameFiles
  askNumber message := (conversational_talks.askNumber message).mono fun _ _ => Talks.sameFiles
  numbersLeft := conversational_talks.numbersLeft.mono fun _ _ => Talks.sameFiles
  readClock := conversational_talks.readClock.mono fun _ _ => Talks.sameFiles
  readRandom := keepsSameFiles_readRandom
  readingsLeft := fun _ => rfl

/-! ### Without questions -/

/-- To show something is to ask nobody. -/
theorem SetupM.showing_unasked : Showing fun x => Keeps Unasked x where
  toCompositional := .keeps (fun _ => ⟨rfl, rfl⟩) fun _ _ _ => Unasked.trans
  note _ := fun _ => ⟨rfl, rfl⟩
  print _ := fun _ => ⟨rfl, rfl⟩
  remember _ := fun _ => ⟨rfl, rfl⟩

/-- Who is left to answer is settled before a step that asks nobody. -/
theorem SetupM.respondent_bind {α β : Type} {f : α → SetupM β} (hf : ∀ a, Keeps Unasked (f a))
    (x : SetupM α) (s : Session) :
    (runOn (x >>= f) s).2.respondent = (runOn x s).2.respondent := by
  rcases hrun : runOn x s with ⟨e | a, middle⟩
  · rw [runOn_bind_of_error hrun]
  · rw [runOn_bind_of_ok hrun]
    exact (hf a middle).1

/-- To take random bytes is to say nothing. -/
theorem SetupM.drawing_silent : Drawing fun x => Keeps Silent x where
  toCompositional := .keeps (fun _ => ⟨⟨rfl, rfl⟩, rfl⟩) fun _ _ _ => Silent.trans
  note _ := fun _ => ⟨⟨rfl, rfl⟩, rfl⟩
  readRandom wanted := by
    intro s
    rw [runOn_readRandom]
    rcases s.random.read wanted with ⟨e | data, random⟩
    · exact ⟨⟨rfl, rfl⟩, rfl⟩
    · exact ⟨⟨rfl, rfl⟩, rfl⟩
  readingsLeft := fun _ => ⟨⟨rfl, rfl⟩, rfl⟩

/-! ### Reading from a stream -/

/-- What is read is the front of the stream, and has the length that was asked for. -/
theorem readRandom_eq_ok {wanted : Nat} {left data : Bytes} {s t : Session}
    (hdevice : s.random.device = .stream left true)
    (h : runOn (readRandom wanted) s = (.ok data, t)) :
    data.length = wanted ∧ Consumes data s t := by
  rw [runOn_readRandom, RandomBytes.Supply.read_stream wanted hdevice] at h
  by_cases hle : wanted ≤ left.length
  · simp only [hle, if_true] at h
    obtain ⟨hdata, rfl⟩ := Prod.mk.inj h
    obtain rfl := Except.ok.inj hdata
    exact ⟨by simp [hle], rfl, rfl, left.drop wanted, by rw [hdevice, List.take_append_drop], rfl⟩
  · simp [hle] at h

end OneTimePassword
