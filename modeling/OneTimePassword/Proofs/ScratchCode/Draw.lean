/-
Module: OneTimePassword.Proofs.ScratchCode.Draw
Purpose: Scratch codes drawn from a stream, with an account of the blocks that they take off it.
Main exports: ScratchCode.IsDrawn, ScratchCode.drawWithin_eq_ok, ScratchCode.drawAll_eq_ok,
  ScratchCode.drawMany_eq_ok, ScratchCode.ensures_drawMany, SetupM.Drawing.drawMany
-/
import OneTimePassword.Proofs.Session.Ensures
import OneTimePassword.Proofs.Session.Frame
import OneTimePassword.Proofs.Text.Decimal
import OneTimePassword.ScratchCode.Draw

namespace OneTimePassword.ScratchCode

open Session (Consumes)
open SetupM (runOn runOn_bind_eq_ok_iff Ensures)

variable {codes : List Nat} {code : Nat} {blocks : List Bytes} {s t : Session}

theorem ofBlock_lt_modulus (block : Bytes) : ofBlock block < modulus := Nat.mod_lt _ (by decide)

/-- The codes are what blocks of the right length stand for, less the numbers that are turned down,
and no block is behind the one of the last code. -/
structure IsDrawn (blocks : List Bytes) (codes : List Nat) : Prop where
  length : ∀ block ∈ blocks, block.length = blockLength
  codes : codes = (blocks.map ofBlock).filter (IsAccepted ·)
  last : ∀ block, blocks.getLast? = some block → IsAccepted (ofBlock block)

namespace IsDrawn

theorem nil : IsDrawn [] [] := ⟨by simp, rfl, by simp⟩

theorem single {block : Bytes} (hlength : block.length = blockLength)
    (haccepted : IsAccepted (ofBlock block)) : IsDrawn [block] [ofBlock block] :=
  ⟨by simpa using hlength, by simp [haccepted], by simpa using haccepted⟩

/-- A block that is turned down can stand before others. -/
theorem skip {block : Bytes} (hlength : block.length = blockLength)
    (hrejected : ¬ IsAccepted (ofBlock block)) (drawn : IsDrawn blocks (code :: codes)) :
    IsDrawn (block :: blocks) (code :: codes) := by
  have hsome : blocks ≠ [] := by
    rintro rfl
    exact absurd drawn.codes (by simp)
  constructor
  · intro other hother
    rcases List.mem_cons.mp hother with rfl | hother
    · exact hlength
    · exact drawn.length other hother
  · simpa [hrejected] using drawn.codes
  · intro last hlast
    rw [List.getLast?_cons_of_ne_nil hsome] at hlast
    exact drawn.last last hlast

theorem append {more : List Bytes} {later : List Nat} (drawn : IsDrawn blocks codes)
    (drawnLater : IsDrawn more later) : IsDrawn (blocks ++ more) (codes ++ later) := by
  constructor
  · intro block hblock
    rcases List.mem_append.mp hblock with hblock | hblock
    · exact drawn.length block hblock
    · exact drawnLater.length block hblock
  · rw [List.map_append, List.filter_append, ← drawn.codes, ← drawnLater.codes]
  · intro block hblock
    rw [List.getLast?_append] at hblock
    cases hmore : more.getLast? with
    | none => exact drawn.last block (by simpa [hmore] using hblock)
    | some last => exact drawnLater.last block (by simpa [hmore] using hblock)

/-- Every code has eight digits. -/
theorem isAccepted (drawn : IsDrawn blocks codes) (hcode : code ∈ codes) :
    IsAccepted code ∧ code < modulus := by
  rw [drawn.codes, List.mem_filter] at hcode
  rcases hcode with ⟨hblock, haccepted⟩
  obtain ⟨block, -, rfl⟩ := List.mem_map.mp hblock
  exact ⟨by simpa using haccepted, ofBlock_lt_modulus block⟩

/-- Such a code is written without zeros in front of it. -/
theorem display_eq_decimalNat (drawn : IsDrawn blocks codes) (hcode : code ∈ codes) :
    display code = Text.decimalNat code := by
  obtain ⟨haccepted, hlt⟩ := drawn.isAccepted hcode
  exact ScratchCode.display_eq_decimalNat haccepted hlt

end IsDrawn

/-- A draw takes blocks off the stream until one is accepted. -/
theorem drawWithin_eq_ok {tries : Nat} {left : Bytes}
    (hdevice : s.random.device = .stream left true)
    (h : runOn (drawWithin tries) s = (.ok code, t)) :
    ∃ blocks, IsDrawn blocks [code] ∧ Consumes blocks.flatten s t := by
  induction tries generalizing s left with
  | zero => cases h
  | succ tries ih =>
      obtain ⟨block, middle, hread, hrest⟩ := runOn_bind_eq_ok_iff.mp h
      obtain ⟨hlength, consumed⟩ := readRandom_eq_ok hdevice hread
      by_cases haccepted : IsAccepted (ofBlock block)
      · simp only [haccepted, if_true] at hrest
        cases hrest
        exact ⟨[block], .single hlength haccepted, by simpa using consumed⟩
      · simp only [haccepted, if_false, SetupM.runOn_bind_of_ok (SetupM.runOn_note _ _)] at hrest
        rcases consumed.exists_left with ⟨rest, hmiddle⟩
        obtain ⟨blocks, drawn, later⟩ := ih (by exact hmiddle) hrest
        exact ⟨block :: blocks, drawn.skip hlength haccepted, consumed.trans later⟩

/-- Codes are drawn from one end of the stream to the other, each from where the last one ended. -/
theorem drawAll_eq_ok {count : Nat} {left : Bytes} (hdevice : s.random.device = .stream left true)
    (h : runOn (drawAll count) s = (.ok codes, t)) :
    codes.length = count ∧ ∃ blocks, IsDrawn blocks codes ∧ Consumes blocks.flatten s t := by
  induction count generalizing s left codes with
  | zero =>
      cases h
      exact ⟨rfl, [], .nil, rfl, rfl, left, hdevice, hdevice⟩
  | succ count ih =>
      obtain ⟨code, middle, hdraw, hrest⟩ := runOn_bind_eq_ok_iff.mp h
      obtain ⟨later, final, hlater, hend⟩ := runOn_bind_eq_ok_iff.mp hrest
      cases hend
      rw [draw, SetupM.runOn_bind_of_ok (SetupM.runOn_get s)] at hdraw
      obtain ⟨blocks, drawn, consumed⟩ := drawWithin_eq_ok hdevice hdraw
      rcases consumed.exists_left with ⟨rest, hmiddle⟩
      obtain ⟨hcount, more, drawnLater, consumedLater⟩ := ih hmiddle hlater
      refine ⟨by simp [hcount], blocks ++ more, drawn.append drawnLater, ?_⟩
      rw [List.flatten_append]
      exact consumed.trans consumedLater

theorem drawMany_eq_ok {count : Nat} {left : Bytes} (hdevice : s.random.device = .stream left true)
    (h : runOn (drawMany count) s = (.ok codes, t)) :
    codes.length = count ∧ ∃ blocks, IsDrawn blocks codes ∧ Consumes blocks.flatten s t := by
  obtain ⟨all, middle, hdraw, hrest⟩ := runOn_bind_eq_ok_iff.mp h
  rw [SetupM.runOn_bind_of_ok (SetupM.runOn_note _ _)] at hrest
  cases hrest
  obtain ⟨hcount, blocks, drawn, consumed⟩ := drawAll_eq_ok hdevice hdraw
  exact ⟨hcount, blocks, drawn, consumed⟩

/-! ### From any source -/

section Sources

variable {P : Session → Prop} {E : Failure → Prop}

/-- What can be said of one draw can be said of a row of them. -/
theorem ensures_drawAll
    (hdraw : Ensures P draw (fun code t => (IsAccepted code ∧ code < modulus) ∧ P t) E)
    (count : Nat) :
    Ensures P (drawAll count) (fun codes t =>
      (codes.length = count ∧ ∀ code ∈ codes, IsAccepted code ∧ code < modulus) ∧ P t) E := by
  induction count with
  | zero => exact .pure fun _ ht => ⟨⟨rfl, by simp⟩, ht⟩
  | succ count ih =>
      apply hdraw.bind
      intro code
      apply Ensures.assume
      intro hcode
      apply ih.bind
      intro codes
      apply Ensures.assume
      intro hcodes
      exact .pure fun _ ht => ⟨⟨by simp [hcodes.1], List.forall_mem_cons.mpr ⟨hcode, hcodes.2⟩⟩, ht⟩

theorem ensures_drawMany
    (hdraw : Ensures P draw (fun code t => (IsAccepted code ∧ code < modulus) ∧ P t) E)
    (hnote : ∀ text, Ensures P (note (.debug text)) (fun _ => P) E) (count : Nat) :
    Ensures P (drawMany count) (fun codes t =>
      (codes.length = count ∧ ∀ code ∈ codes, IsAccepted code ∧ code < modulus) ∧ P t) E := by
  apply (ensures_drawAll hdraw count).bind
  intro codes
  apply Ensures.assume
  intro hcodes
  exact (hnote _).bind fun _ => .pure fun _ ht => ⟨hcodes, ht⟩

end Sources

end OneTimePassword.ScratchCode

namespace OneTimePassword.SetupM.Drawing

variable {Φ : ∀ {α : Type}, SetupM α → Prop} (hΦ : Drawing Φ)

include hΦ

theorem drawWithin (blocks : Nat) : Φ (ScratchCode.drawWithin blocks) := by
  induction blocks with
  | zero => exact hΦ.throw _
  | succ blocks ih =>
      apply hΦ.bind (hΦ.readRandom _)
      intro block
      dsimp only
      split
      · exact hΦ.pure _
      · exact hΦ.bind (hΦ.note _) fun _ => ih

theorem drawAll (count : Nat) : Φ (ScratchCode.drawAll count) := by
  induction count with
  | zero => exact hΦ.pure _
  | succ count ih =>
      have hdraw := hΦ.of_gets hΦ.readingsLeft fun readings => hΦ.drawWithin (readings + 1)
      exact hΦ.bind hdraw fun _ => hΦ.bind ih fun _ => hΦ.pure _

/-- Codes are drawn by taking random bytes and noting things down. -/
theorem drawMany (count : Nat) : Φ (ScratchCode.drawMany count) :=
  hΦ.bind (hΦ.drawAll count) fun _ => hΦ.bind (hΦ.note _) fun _ => hΦ.pure _

end OneTimePassword.SetupM.Drawing
