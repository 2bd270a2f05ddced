/-
Module: OneTimePassword.Proofs.ScratchCode.Outcomes
Purpose: Scratch codes drawn from whatever readings bring: which codes these are, how many readings it
  takes, and when it fails.
Main exports: ScratchCode.leadingBlocks, ScratchCode.codesOf, ScratchCode.scan, ScratchCode.Scans,
  ScratchCode.scans_drawMany, ScratchCode.drawChecked_of_outcomes
-/
import OneTimePassword.Proofs.ScratchCode.Draw
import OneTimePassword.Proofs.Settings.Validation

namespace OneTimePassword.ScratchCode

open RandomBytes (Outcome Error)
open SetupM (runOn)

variable {count tries : Nat} {name : String} {outcome : Outcome} {outcomes later : List Outcome}
  {block : Bytes} {s t : Session}

/-! ### Outcomes -/

/-- The block that a reading brings, if it brings one. -/
def blockOf? : Outcome → Option Bytes
  | .bytes data => if data.length = blockLength then some data else none
  | .nothing | .fails _ => none

/-- The blocks that readings bring before the first one that brings none. -/
def leadingBlocks : List Outcome → List Bytes
  | [] => []
  | outcome :: later =>
      match blockOf? outcome with
      | some block => block :: leadingBlocks later
      | none => []

/-- The codes among the numbers that blocks stand for. -/
def codesOf (blocks : List Bytes) : List Nat := (blocks.map ofBlock).filter (IsAccepted ·)

/-- The report of a reading that brings no block. Behind the last outcome there is no data. -/
def readingError (name : String) : Option Outcome → Error
  | some (.bytes data) => .wrongCount name blockLength data.length
  | some .nothing | none => .wrongCount name blockLength 0
  | some (.fails e) => .cannotRead name e

/-- Codes taken off the outcomes of readings, one outcome after another, and the outcomes that are
left. -/
def scan (name : String) : (count : Nat) → List Outcome → Except Error (List Nat) × List Outcome
  | 0, outcomes => (.ok [], outcomes)
  | _ + 1, [] => (.error (readingError name none), [])
  | count + 1, outcome :: later =>
      match blockOf? outcome with
      | none => (.error (readingError name (some outcome)), later)
      | some block =>
          if IsAccepted (ofBlock block) then
            ((scan name count later).1.map (ofBlock block :: ·), (scan name count later).2)
          else scan name (count + 1) later

theorem blockOf?_eq_some_iff :
    blockOf? outcome = some block ↔ outcome = .bytes block ∧ block.length = blockLength := by
  cases outcome with
  | bytes data =>
      simp only [blockOf?, Option.ite_none_right_eq_some, Option.some.injEq, Outcome.bytes.injEq]
      constructor
      · rintro ⟨hlength, rfl⟩
        exact ⟨rfl, hlength⟩
      · rintro ⟨rfl, hlength⟩
        exact ⟨hlength, rfl⟩
  | nothing | fails e => simp [blockOf?]

theorem leadingBlocks_of_some (h : blockOf? outcome = some block) :
    leadingBlocks (outcome :: later) = block :: leadingBlocks later := by
  rw [leadingBlocks, h]

theorem leadingBlocks_of_none (h : blockOf? outcome = none) :
    leadingBlocks (outcome :: later) = [] := by
  rw [leadingBlocks, h]

theorem codesOf_of_isAccepted (blocks : List Bytes) (h : IsAccepted (ofBlock block)) :
    codesOf (block :: blocks) = ofBlock block :: codesOf blocks := by
  simp [codesOf, h]

theorem codesOf_of_not_isAccepted (blocks : List Bytes) (h : ¬ IsAccepted (ofBlock block)) :
    codesOf (block :: blocks) = codesOf blocks := by
  simp [codesOf, h]

/-! ### What a scan comes to -/

/-- Where there are codes enough, a scan ends at the last one that is wanted. -/
theorem scan_of_le (name : String) (h : count ≤ (codesOf (leadingBlocks outcomes)).length) :
    ∃ drawn rest, outcomes = drawn.map .bytes ++ rest ∧
      IsDrawn drawn ((codesOf (leadingBlocks outcomes)).take count) ∧
      scan name count outcomes = (.ok ((codesOf (leadingBlocks outcomes)).take count), rest) := by
  induction outcomes generalizing count with
  | nil =>
      obtain rfl : count = 0 := Nat.le_zero.mp h
      exact ⟨[], [], rfl, .nil, rfl⟩
  | cons outcome later ih =>
      cases count with
      | zero => exact ⟨[], outcome :: later, rfl, .nil, rfl⟩
      | succ count =>
          cases hblock : blockOf? outcome with
          | none => simp [leadingBlocks_of_none hblock, codesOf] at h
          | some block =>
              obtain ⟨rfl, hlength⟩ := blockOf?_eq_some_iff.mp hblock
              rw [leadingBlocks_of_some hblock] at h ⊢
              rw [scan, hblock]
              by_cases haccepted : IsAccepted (ofBlock block)
              · rw [codesOf_of_isAccepted _ haccepted, List.length_cons] at h
                obtain ⟨drawn, rest, hsplit, isDrawn, hscan⟩ := ih (Nat.le_of_succ_le_succ h)
                rw [codesOf_of_isAccepted _ haccepted, List.take_succ_cons]
                refine ⟨block :: drawn, rest, by simp [hsplit],
                  (IsDrawn.single hlength haccepted).append isDrawn, ?_⟩
                simp only [haccepted, if_true, hscan, Except.map]
              · rw [codesOf_of_not_isAccepted _ haccepted] at h ⊢
                obtain ⟨drawn, rest, hsplit, isDrawn, hscan⟩ := ih h
                refine ⟨block :: drawn, rest, by simp [hsplit], ?_, by simp [haccepted, hscan]⟩
                obtain ⟨code, codes, hcodes⟩ := List.exists_cons_of_length_pos
                  (Nat.lt_of_lt_of_le count.succ_pos h)
                rw [hcodes, List.take_succ_cons] at isDrawn ⊢
                exact isDrawn.skip hlength haccepted

/-- Where there are too few codes, a scan ends behind the first outcome that is no block. -/
theorem scan_of_lt (name : String) (h : (codesOf (leadingBlocks outcomes)).length < count) :
    scan name count outcomes =
      (.error (readingError name outcomes[(leadingBlocks outcomes).length]?),
        outcomes.drop ((leadingBlocks outcomes).length + 1)) := by
  induction outcomes generalizing count with
  | nil =>
      cases count with
      | zero => cases h
      | succ count => rfl
  | cons outcome later ih =>
      cases count with
      | zero => cases h
      | succ count =>
          rw [scan]
          cases hblock : blockOf? outcome with
          | none => simp [leadingBlocks_of_none hblock]
          | some block =>
              rw [leadingBlocks_of_some hblock] at h ⊢
              by_cases haccepted : IsAccepted (ofBlock block)
              · rw [codesOf_of_isAccepted _ haccepted, List.length_cons] at h
                simp [haccepted, ih (Nat.lt_of_succ_lt_succ h), Except.map]
              · rw [codesOf_of_not_isAccepted _ haccepted] at h
                simp [haccepted, ih h]

/-! ### Draws are scans -/

theorem runOn_readRandom_of_block (hdevice : s.random.device = .outcomes (.bytes block :: later))
    (hlength : block.length = blockLength) :
    ∃ text, runOn (readRandom blockLength) s =
      (.ok block, { s with
        random := { s.random with device := .outcomes later }
        journal := s.journal ++ [.debug text] }) := by
  rw [runOn_readRandom, RandomBytes.Supply.read_of_length_eq hdevice hlength]
  exact ⟨_, rfl⟩

theorem runOn_readRandom_of_no_block (hdevice : s.random.device = .outcomes outcomes)
    (hblock : outcomes.head?.bind blockOf? = none) :
    runOn (readRandom blockLength) s =
      (.error (.random (readingError s.random.name outcomes.head?)),
        { s with random := { s.random with device := .outcomes outcomes.tail } }) := by
  have hread : s.random.read blockLength =
      (.error (readingError s.random.name outcomes.head?),
        { s.random with device := .outcomes outcomes.tail }) := by
    cases outcomes with
    | nil => simp [RandomBytes.Supply.read, hdevice, readingError, blockLength]
    | cons outcome later =>
        cases outcome with
        | nothing | fails e =>
            simp [RandomBytes.Supply.read, hdevice, readingError]
        | bytes data =>
            have hlength : ¬ (data.length : Int) = blockLength := by
              simpa [blockOf?, Int.ofNat_inj] using hblock
            simp [RandomBytes.Supply.read, hdevice, readingError, hlength]
  rw [runOn_readRandom, hread]

/-- Draw a code from at most so many blocks, and others after it. -/
def drawFrom (tries count : Nat) : SetupM (List Nat) := do
  let code ← drawWithin tries
  let codes ← drawAll count
  pure (code :: codes)

/-- A step does to the outcomes of readings what a scan for a number of codes does, and nothing else
but to note it down. -/
def Scans (x : SetupM (List Nat)) (count : Nat) (outcomes : List Outcome) : Prop :=
  ∀ s : Session, s.random.device = .outcomes outcomes → ∃ notes,
    runOn x s =
      ((scan s.random.name count outcomes).1.mapError .random, { s with
        random := { s.random with device := .outcomes (scan s.random.name count outcomes).2 }
        journal := s.journal ++ notes })

namespace Scans

theorem zero (outcomes : List Outcome) : Scans (drawAll 0) 0 outcomes := by
  intro s hdevice
  refine ⟨[], ?_⟩
  simp only [scan, ← hdevice, List.append_nil]
  rfl

/-- A reading that brings no block ends a scan. -/
theorem of_no_block {f : Bytes → SetupM (List Nat)} (hblock : outcomes.head?.bind blockOf? = none) :
    Scans (readRandom blockLength >>= f) (count + 1) outcomes := by
  intro s hdevice
  rw [SetupM.runOn_bind_of_error (runOn_readRandom_of_no_block hdevice hblock)]
  refine ⟨[], ?_⟩
  rw [List.append_nil]
  cases outcomes with
  | nil => rfl
  | cons outcome later =>
      have hnone : blockOf? outcome = none := by simpa using hblock
      simp only [scan, hnone]
      rfl

/-- A block that is accepted makes a code, and the scan goes on for the others. -/
theorem accept {f : Bytes → SetupM (List Nat)} {x : SetupM (List Nat)}
    (hlength : block.length = blockLength) (haccepted : IsAccepted (ofBlock block))
    (hf : f block = x >>= fun codes => pure (ofBlock block :: codes)) (scans : Scans x count later) :
    Scans (readRandom blockLength >>= f) (count + 1) (.bytes block :: later) := by
  intro s hdevice
  obtain ⟨text, hread⟩ := runOn_readRandom_of_block hdevice hlength
  have hblock : blockOf? (.bytes block) = some block := blockOf?_eq_some_iff.mpr ⟨rfl, hlength⟩
  rw [SetupM.runOn_bind_of_ok hread, hf]
  obtain ⟨notes, hrun⟩ := scans
    { s with
      random := { s.random with device := .outcomes later }
      journal := s.journal ++ [.debug text] } rfl
  refine ⟨.debug text :: notes, ?_⟩
  rw [SetupM.runOn_bind, hrun]
  simp only [scan, hblock, haccepted, if_true]
  cases (scan s.random.name count later).1 with
  | error e =>
      simp only [List.append_assoc]
      rfl
  | ok codes =>
      simp only [List.append_assoc]
      rfl

/-- A block that is turned down leaves the scan where it is. -/
theorem reject {f : Bytes → SetupM (List Nat)} {x : SetupM (List Nat)}
    (hlength : block.length = blockLength) (hrejected : ¬ IsAccepted (ofBlock block))
    (hf : ∃ record, f block = note record >>= fun _ => x) (scans : Scans x (count + 1) later) :
    Scans (readRandom blockLength >>= f) (count + 1) (.bytes block :: later) := by
  intro s hdevice
  obtain ⟨record, hf⟩ := hf
  obtain ⟨text, hread⟩ := runOn_readRandom_of_block hdevice hlength
  have hblock : blockOf? (.bytes block) = some block := blockOf?_eq_some_iff.mpr ⟨rfl, hlength⟩
  rw [SetupM.runOn_bind_of_ok hread, hf, SetupM.runOn_bind_of_ok (SetupM.runOn_note _ _)]
  obtain ⟨notes, hrun⟩ := scans
    { s with
      random := { s.random with device := .outcomes later }
      journal := s.journal ++ [.debug text] ++ [record] } rfl
  refine ⟨.debug text :: record :: notes, ?_⟩
  rw [hrun]
  simp [scan, hblock, hrejected]

end Scans

theorem scans_drawAll_succ (h : Scans (drawFrom (outcomes.length + 1) count) (count + 1) outcomes) :
    Scans (drawAll (count + 1)) (count + 1) outcomes := by
  intro s hdevice
  have hreadings : s.random.device.readingsLeft = outcomes.length := by rw [hdevice]; rfl
  have hdraw : runOn (drawAll (count + 1)) s = runOn (drawFrom (outcomes.length + 1) count) s := by
    rw [drawAll, draw, bind_assoc, SetupM.runOn_bind_of_ok (SetupM.runOn_get s), hreadings]
    rfl
  rw [hdraw]
  exact h s hdevice

/-- As long as there are more tries than outcomes, they never run out. -/
theorem scans_drawFrom (htries : outcomes.length < tries) :
    Scans (drawFrom tries count) (count + 1) outcomes := by
  -- on the outcomes, as both loops go along them: the one for a code and the one for all codes
  induction outcomes generalizing tries count with
  | nil =>
      obtain ⟨tries, rfl⟩ := Nat.exists_eq_succ_of_ne_zero (Nat.ne_of_gt htries)
      rw [drawFrom, drawWithin, bind_assoc]
      exact .of_no_block rfl
  | cons outcome later ih =>
      obtain ⟨tries, rfl⟩ := Nat.exists_eq_succ_of_ne_zero (Nat.ne_of_gt (Nat.zero_lt_of_lt htries))
      rw [drawFrom, drawWithin, bind_assoc]
      cases hblock : blockOf? outcome with
      | none => exact .of_no_block (by simpa using hblock)
      | some block =>
          obtain ⟨rfl, hlength⟩ := blockOf?_eq_some_iff.mp hblock
          by_cases haccepted : IsAccepted (ofBlock block)
          · have scans : Scans (drawAll count) count later := by
              cases count with
              | zero => exact .zero later
              | succ count => exact scans_drawAll_succ (ih (Nat.lt_succ_self _))
            refine .accept hlength haccepted ?_ scans
            simp [haccepted]
          · refine .reject hlength haccepted ?_ (ih (Nat.lt_of_succ_lt_succ htries))
            simp only [haccepted, if_false, bind_assoc]
            exact ⟨_, rfl⟩

/-- A run's codes are scanned from the outcomes. -/
theorem scans_drawMany (count : Nat) (outcomes : List Outcome) :
    Scans (drawMany count) count outcomes := by
  have hall : Scans (drawAll count) count outcomes := by
    cases count with
    | zero => exact .zero outcomes
    | succ count => exact scans_drawAll_succ (scans_drawFrom (Nat.lt_succ_self _))
  intro s hdevice
  obtain ⟨notes, hrun⟩ := hall s hdevice
  rw [drawMany, SetupM.runOn_bind, hrun]
  cases (scan s.random.name count outcomes).1 with
  | error e => exact ⟨notes, rfl⟩
  | ok codes =>
      change ∃ notes', runOn (note _ >>= fun _ => pure codes) _ = _
      rw [SetupM.runOn_bind_of_ok (SetupM.runOn_note _ _), SetupM.runOn_pure]
      simp only [List.append_assoc]
      exact ⟨_, rfl⟩

/-! ### Display -/

/-- A code is shown in eight digits, and the first one is no zero. -/
theorem display_of_isAccepted {code : Nat} (haccepted : IsAccepted code) (hcode : code < modulus) :
    (display code).length = 8 ∧ (∀ c ∈ (display code).toList, c.isDigit = true) ∧
      (display code).toList.head? ≠ some '0' := by
  have hpos : 0 < code := Nat.lt_of_lt_of_le (by decide) haccepted
  rw [display_eq_decimalNat haccepted hcode]
  exact ⟨length_decimalNat_of_isAccepted haccepted hcode, fun c => Text.isDigit_of_mem_decimalNat,
    Text.head?_decimalNat_ne_zero hpos⟩

/-! ### The codes of a run -/

/-- Whatever readings bring, the codes of a run are the first ones of those that the numbers of the
leading blocks make, and nothing is read behind the last of them. Where there are too few, the run
ends with the reading that brings no block, be it that it fails, that it has nothing or another number
of bytes, or that the data is at its end. A number of codes that is not admitted is refused before
anything is read. All codes have eight digits, and the first digit is no zero. -/
theorem drawChecked_of_outcomes (count : Int) (hdevice : s.random.device = .outcomes outcomes) :
    (¬ (0 ≤ count ∧ count ≤ 10) →
      runOn (drawChecked count) s = (.error (.conflict (.outOfRange .emergencyCodes)), s) ∧
        (Conflict.outOfRange .emergencyCodes).message =
          "Number of emergency codes must be in the range 0..10") ∧
    (0 ≤ count ∧ count ≤ 10 →
      let blocks := leadingBlocks outcomes
      let codes := (codesOf blocks).take count.toNat
      if count ≤ (codesOf blocks).length then
        ∃ drawn rest notes, outcomes = drawn.map .bytes ++ rest ∧ IsDrawn drawn codes ∧
          codes.length = count ∧
          runOn (drawChecked count) s =
            (.ok codes, { s with
              random := { s.random with device := .outcomes rest }
              journal := s.journal ++ notes })
      else
        ∃ notes, runOn (drawChecked count) s =
          (.error (.random (readingError s.random.name outcomes[blocks.length]?)), { s with
            random := { s.random with device := .outcomes (outcomes.drop (blocks.length + 1)) }
            journal := s.journal ++ notes })) ∧
    ∀ code ∈ codesOf (leadingBlocks outcomes), 10000000 ≤ code ∧ code ≤ 99999999 ∧
      (display code).length = 8 ∧ (∀ c ∈ (display code).toList, c.isDigit = true) ∧
      (display code).toList.head? ≠ some '0' := by
  refine ⟨?_, ?_, ?_⟩
  · intro hcount
    have hcheck : Quantity.emergencyCodes.check count = .error (.outOfRange .emergencyCodes) :=
      if_neg hcount
    rw [drawChecked, hcheck]
    exact ⟨rfl, by decide⟩
  · rintro ⟨hleast, hgreatest⟩
    obtain ⟨count, rfl⟩ := Int.eq_ofNat_of_zero_le hleast
    have hcheck : Quantity.emergencyCodes.check count = .ok count :=
      Quantity.check_eq_ok_iff.mpr ⟨rfl, Nat.zero_le _, Int.ofNat_le.mp hgreatest⟩
    obtain ⟨notes, hrun⟩ := scans_drawMany count outcomes s hdevice
    have hdraw : runOn (drawChecked count) s = runOn (drawMany count) s := by
      rw [drawChecked, hcheck, SetupM.runOn_bind_of_ok (SetupM.runOn_orFail_ok _ _ _)]
    simp only [Int.toNat_natCast, Int.ofNat_le]
    rw [hdraw, hrun]
    split
    · rename_i henough
      obtain ⟨drawn, rest, hsplit, isDrawn, hscan⟩ := scan_of_le s.random.name henough
      rw [hscan]
      exact ⟨drawn, rest, notes, hsplit, isDrawn,
        by rw [List.length_take, Nat.min_eq_left henough], rfl⟩
    · rename_i hfew
      rw [scan_of_lt s.random.name (Nat.lt_of_not_le hfew)]
      exact ⟨notes, rfl⟩
  · intro code hcode
    obtain ⟨hcode, haccepted⟩ := List.mem_filter.mp hcode
    obtain ⟨block, -, rfl⟩ := List.mem_map.mp hcode
    have haccepted : IsAccepted (ofBlock block) := by simpa using haccepted
    have hlt := ofBlock_lt_modulus block
    exact ⟨haccepted, Nat.le_of_lt_succ hlt, display_of_isAccepted haccepted hlt⟩

/-- The first of three blocks is turned down. Two codes can be had of them; for a third one a reading
has nothing, and what the next would bring is not looked at. -/
theorem drawChecked_of_outcomes_of_rejected_block :
    let outcomes : List Outcome :=
      [.bytes [0, 0, 0, 1], .bytes [1, 2, 3, 4], .bytes [255, 255, 255, 255], .nothing,
        .bytes [1, 2, 3, 4]]
    let session : Session :=
      { random := { name := "", device := .outcomes outcomes }
        respondent := .scripted (.always false) [] []
        clock := .ofList (.seconds 0) []
        files := .empty }
    session.random.device = .outcomes outcomes ∧ (0 ≤ (2 : Int) ∧ (2 : Int) ≤ 10) ∧
      (∃ drawn rest notes, outcomes = drawn.map .bytes ++ rest ∧
        IsDrawn drawn [16909060, 47483647] ∧
        runOn (drawChecked 2) session = (.ok [16909060, 47483647], { session with
          random := { name := "", device := .outcomes rest }, journal := notes })) ∧
      (0 ≤ (3 : Int) ∧ (3 : Int) ≤ 10) ∧
      (∃ notes, runOn (drawChecked 3) session =
        (.error (.random (.wrongCount "" 4 0)), { session with
          random := { name := "", device := .outcomes [.bytes [1, 2, 3, 4]] }, journal := notes })) ∧
      ¬ (0 ≤ (11 : Int) ∧ (11 : Int) ≤ 10) ∧
      runOn (drawChecked 11) session = (.error (.conflict (.outOfRange .emergencyCodes)), session) := by
  intro outcomes session
  have hdevice : session.random.device = .outcomes outcomes := rfl
  have hcodes : codesOf (leadingBlocks outcomes) = [16909060, 47483647] := by decide
  have htwo := (drawChecked_of_outcomes 2 hdevice).2.1 (by decide)
  have hthree := (drawChecked_of_outcomes 3 hdevice).2.1 (by decide)
  have hrefused := (drawChecked_of_outcomes 11 hdevice).1 (by decide)
  simp only [hcodes] at htwo hthree
  rw [if_pos (by decide)] at htwo
  rw [if_neg (by decide)] at hthree
  obtain ⟨drawn, rest, notes, hsplit, isDrawn, -, hrun⟩ := htwo
  exact ⟨hdevice, by decide, ⟨drawn, rest, notes, hsplit, isDrawn, hrun⟩, by decide, hthree,
    by decide, hrefused.1⟩

end OneTimePassword.ScratchCode
