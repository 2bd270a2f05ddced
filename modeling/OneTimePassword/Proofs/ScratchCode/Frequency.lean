/-
Module: OneTimePassword.Proofs.ScratchCode.Frequency
Purpose: How many blocks stand for each scratch code, and how likely the codes are by that.
Main exports: ScratchCode.Block, ScratchCode.blocksOf, ScratchCode.card_blocksOf,
  ScratchCode.distribution, ScratchCode.frequency_of_codes
-/
import Mathlib.Data.FinEnum
import Mathlib.Data.Fintype.Vector
import Mathlib.Data.Int.CardIntervalMod
import Mathlib.Data.List.Induction
import Mathlib.Probability.Distributions.Uniform
import OneTimePassword.Proofs.ScratchCode.Draw

namespace OneTimePassword

/-! ### Blocks and numbers -/

namespace BigEndian

theorem read_concat (bytes : Bytes) (byte : UInt8) :
    read (bytes ++ [byte]) = 256 * read bytes + byte.toNat := by
  rw [read, List.foldl_append]
  rfl

theorem read_lt (bytes : Bytes) : read bytes < 256 ^ bytes.length := by
  induction bytes using List.reverseRecOn with
  | nil => exact Nat.one_pos
  | append_singleton bytes byte ih =>
      have hbyte := byte.toNat_lt
      rw [read_concat, List.length_append, List.length_singleton, Nat.pow_succ]
      omega

/-- Bytes are found again in the number that they stand for. -/
theorem write_read (bytes : Bytes) : write bytes.length (read bytes) = bytes := by
  induction bytes using List.reverseRecOn with
  | nil => rfl
  | append_singleton bytes byte ih =>
      have hbyte := byte.toNat_lt
      have hbefore : (256 * read bytes + byte.toNat) / 256 = read bytes := by omega
      have hlast : UInt8.ofNat (256 * read bytes + byte.toNat) = byte := by
        apply UInt8.toNat_inj.mp
        rw [UInt8.toNat_ofNat']
        omega
      rw [List.length_append, List.length_singleton, read_concat, write, hbefore, hlast, ih]

/-- A number is found again in its bytes if it is small enough for them. -/
theorem read_write {width n : Nat} (h : n < 256 ^ width) : read (write width n) = n := by
  induction width generalizing n with
  | zero => exact (Nat.lt_one_iff.mp h).symm
  | succ width ih =>
      have hbefore : n / 256 < 256 ^ width := by
        rw [Nat.pow_succ] at h
        omega
      rw [write, read_concat, ih hbefore, UInt8.toNat_ofNat']
      omega

end BigEndian

namespace ScratchCode

open SetupM (runOn)

/-! ### Counting blocks -/

/-- The bytes that are read for one code. -/
abbrev Block := { bytes : Bytes // bytes.length = blockLength }

instance : Finite Block := inferInstanceAs (Finite (List.Vector UInt8 blockLength))

-- not by a list of all blocks, which is too long to be looked at
noncomputable instance : Fintype Block := Fintype.ofFinite Block

namespace Block

/-- The number that a block stands for as a whole. -/
def toNat (block : Block) : Nat := BigEndian.read block.val

/-- The block of a number. -/
def ofNat (n : Nat) : Block := ⟨BigEndian.write blockLength n, BigEndian.length_write blockLength n⟩

theorem toNat_lt (block : Block) : block.toNat < 256 ^ blockLength := by
  have hlt := BigEndian.read_lt block.val
  rw [block.property] at hlt
  exact hlt

theorem ofNat_toNat (block : Block) : ofNat block.toNat = block := by
  rcases block with ⟨bytes, hlength⟩
  apply Subtype.ext
  have hwrite := BigEndian.write_read bytes
  rw [hlength] at hwrite
  exact hwrite

theorem toNat_ofNat {n : Nat} (h : n < 256 ^ blockLength) : (ofNat n).toNat = n :=
  BigEndian.read_write h

end Block

/-- There are as many blocks as numbers of a kind. -/
theorem card_filter_toNat (p : Nat → Prop) [DecidablePred p] :
    (Finset.univ.filter fun block : Block => p block.toNat).card =
      Nat.count p (256 ^ blockLength) := by
  rw [Nat.count_eq_card_filter_range]
  apply Finset.card_bij' (fun block _ => block.toNat) fun n _ => Block.ofNat n
  · intro block hblock
    rw [Finset.mem_filter] at hblock ⊢
    exact ⟨Finset.mem_range.mpr block.toNat_lt, hblock.2⟩
  · intro n hn
    rw [Finset.mem_filter, Finset.mem_range] at hn
    rw [Finset.mem_filter, Block.toNat_ofNat hn.1]
    exact ⟨Finset.mem_univ _, hn.2⟩
  · exact fun block _ => block.ofNat_toNat
  · intro n hn
    rw [Finset.mem_filter, Finset.mem_range] at hn
    exact Block.toNat_ofNat hn.1

/-- What depends on a remainder only happens as often in one turn as in the next. -/
theorem count_two_turns (p : Nat → Prop) [DecidablePred p] (turn : Nat) :
    Nat.count (fun n => p (n % turn)) (turn + turn) = 2 * Nat.count p turn := by
  have hfirst : Nat.count (fun n => p (n % turn)) turn = Nat.count p turn := by
    rw [Nat.count_eq_card_filter_range, Nat.count_eq_card_filter_range]
    congr 1
    apply Finset.filter_congr
    intro n hn
    rw [Nat.mod_eq_of_lt (Finset.mem_range.mp hn)]
  rw [Nat.count_add]
  simp only [Nat.add_mod_left]
  rw [hfirst, Nat.two_mul]

/-- The remainders of the numbers of 31 bits. -/
theorem count_mod_modulus {code : Nat} (hcode : code < modulus) :
    Nat.count (· % modulus = code) BigEndian.range31 = if code < 47483648 then 22 else 21 := by
  have hcount := Nat.count_modEq_card BigEndian.range31 (r := modulus) (by decide) code
  have hwhole : BigEndian.range31 / modulus = 21 := by decide
  have hrest : BigEndian.range31 % modulus = 47483648 := by decide
  simp only [Nat.ModEq, Nat.mod_eq_of_lt hcode, hwhole, hrest] at hcount
  rw [hcount]
  split
  · rfl
  · rfl

/-- The blocks that stand for a number. -/
noncomputable def blocksOf (value : Nat) : Finset Block :=
  Finset.univ.filter fun block => ofBlock block.val = value

theorem mem_blocksOf {value : Nat} {block : Block} :
    block ∈ blocksOf value ↔ ofBlock block.val = value := by
  simp [blocksOf]

/-- The top bit of a block does not count, so that twice as many blocks as numbers of 31 bits stand
for a code. -/
theorem card_blocksOf {code : Nat} (hcode : code < modulus) :
    (blocksOf code).card = if code < 47483648 then 44 else 42 := by
  have hall : 256 ^ blockLength = BigEndian.range31 + BigEndian.range31 := by decide
  have hcount := card_filter_toNat fun n => n % BigEndian.range31 % modulus = code
  rw [hall, count_two_turns (· % modulus = code), count_mod_modulus hcode] at hcount
  calc (blocksOf code).card = 2 * if code < 47483648 then 22 else 21 := hcount
    _ = if code < 47483648 then 44 else 42 := by split <;> rfl

/-! ### The first block -/

variable {s t : Session} {block : Bytes} {supply : RandomBytes.Supply} {code tries : Nat}

/-- A block that is accepted ends the draw. -/
theorem runOn_draw_of_isAccepted (hread : s.random.read blockLength = (.ok block, supply))
    (haccepted : IsAccepted (ofBlock block)) :
    ∃ journal, runOn draw s = (.ok (ofBlock block), { s with random := supply, journal }) := by
  have hblock := runOn_readRandom blockLength s
  rw [hread] at hblock
  rw [draw, SetupM.runOn_bind_of_ok (SetupM.runOn_get s), drawWithin,
    SetupM.runOn_bind_of_ok hblock, if_pos haccepted]
  exact ⟨_, rfl⟩

/-- Whatever is read, a draw ends with a code of eight digits. -/
theorem isAccepted_of_drawWithin (h : runOn (drawWithin tries) s = (.ok code, t)) :
    IsAccepted code ∧ code < modulus := by
  induction tries generalizing s with
  | zero => cases h
  | succ tries ih =>
      obtain ⟨block, middle, -, hrest⟩ := SetupM.runOn_bind_eq_ok_iff.mp h
      by_cases haccepted : IsAccepted (ofBlock block)
      · simp only [haccepted, if_true] at hrest
        cases hrest
        exact ⟨haccepted, ofBlock_lt_modulus block⟩
      · simp only [haccepted, if_false, SetupM.runOn_bind_of_ok (SetupM.runOn_note _ _)] at hrest
        exact ih hrest

/-- A code that a draw can end with at its first block. -/
def IsFirst (code : Nat) : Prop :=
  ∃ (s t : Session) (block : Bytes), s.random.read blockLength = (.ok block, t.random) ∧
    runOn draw s = (.ok code, t)

theorem isFirst_iff : IsFirst code ↔ IsAccepted code ∧ code < modulus := by
  constructor
  · rintro ⟨s, t, block, -, hdraw⟩
    rw [draw, SetupM.runOn_bind_of_ok (SetupM.runOn_get s)] at hdraw
    exact isAccepted_of_drawWithin hdraw
  · rintro ⟨haccepted, hlt⟩
    have hsome : (blocksOf code).Nonempty := by
      rw [← Finset.card_pos, card_blocksOf hlt]
      split <;> decide
    obtain ⟨⟨block, hlength⟩, hblock⟩ := hsome
    obtain rfl : ofBlock block = code := mem_blocksOf.mp hblock
    let session : Session :=
      { random := { name := "", device := .outcomes [.bytes block] }
        respondent := .scripted (.always false) [] []
        clock := .ofList (.seconds 0) []
        files := .empty }
    have hread : session.random.read blockLength =
        (.ok block, { session.random with device := .outcomes [] }) :=
      RandomBytes.Supply.read_of_length_eq rfl hlength
    obtain ⟨journal, hdraw⟩ := runOn_draw_of_isAccepted hread haccepted
    exact ⟨session, _, block, hread, hdraw⟩

/-! ### Likelihood -/

/-- The blocks that make a code. -/
noncomputable def acceptedBlocks : Finset Block :=
  Finset.univ.filter fun block => IsAccepted (ofBlock block.val)

theorem mem_acceptedBlocks {block : Block} :
    block ∈ acceptedBlocks ↔ IsAccepted (ofBlock block.val) := by
  simp [acceptedBlocks]

theorem acceptedBlocks_nonempty : acceptedBlocks.Nonempty := by
  have haccepted : IsAccepted (ofBlock [1, 2, 3, 4]) := by decide
  exact ⟨⟨[1, 2, 3, 4], rfl⟩, mem_acceptedBlocks.mpr haccepted⟩

/-- How likely the codes are where all accepted blocks are equally likely. -/
noncomputable def distribution : PMF Nat :=
  (PMF.uniformOfFinset acceptedBlocks acceptedBlocks_nonempty).map fun block => ofBlock block.val

/-- The likelihood of a code is its share of the accepted blocks. -/
theorem distribution_apply (haccepted : IsAccepted code) :
    distribution code = ((blocksOf code).card : ENNReal) / acceptedBlocks.card := by
  rw [distribution, ← PMF.toOuterMeasure_apply_singleton, PMF.toOuterMeasure_map_apply,
    PMF.toOuterMeasure_uniformOfFinset_apply]
  congr 3
  ext block
  simp only [Finset.mem_filter, mem_acceptedBlocks, mem_blocksOf, Set.mem_preimage,
    Set.mem_singleton_iff]
  constructor
  · exact fun h => h.2
  · exact fun h => ⟨h ▸ haccepted, h⟩

/-- The code that the most blocks stand for has 44 of them where the least has 42. -/
theorem distribution_le {other : Nat} (hcode : IsAccepted code ∧ code < modulus)
    (hother : IsAccepted other ∧ other < modulus) :
    distribution code ≤ 22 / 21 * distribution other := by
  have hmost : (blocksOf code).card ≤ 44 := by
    rw [card_blocksOf hcode.2]
    split <;> decide
  have hleast : 42 ≤ (blocksOf other).card := by
    rw [card_blocksOf hother.2]
    split <;> decide
  have hcards : (blocksOf code).card * 21 ≤ 22 * (blocksOf other).card := by omega
  have hshares : ((blocksOf code).card : ENNReal) ≤ 22 / 21 * (blocksOf other).card := by
    rw [← ENNReal.mul_div_right_comm, ENNReal.le_div_iff_mul_le (by simp) (by simp)]
    exact_mod_cast hcards
  rw [distribution_apply hcode.1, distribution_apply hother.1, ← mul_div_assoc]
  exact ENNReal.div_le_div_right hshares _

/-- Every number of eight digits without a zero in front can be drawn, and with its first block. There
are 44 blocks for it if it is among the lowest, those that 31 bits reach once more than the others,
and 42 if not. Hence of equally likely blocks that make codes, none makes a code more than 22/21 times
as likely as another. -/
theorem frequency_of_codes :
    (∀ code ∈ Set.Icc 10000000 99999999,
      (blocksOf code).card = if code < 47483648 then 44 else 42) ∧
    {code | IsFirst code} = Set.Icc 10000000 99999999 ∧
    ∀ code ∈ Set.Icc 10000000 99999999, ∀ other ∈ Set.Icc 10000000 99999999,
      distribution code ≤ 22 / 21 * distribution other := by
  have hcodes (code : Nat) : code ∈ Set.Icc 10000000 99999999 ↔ IsAccepted code ∧ code < modulus := by
    rw [Set.mem_Icc]
    exact and_congr_right fun _ => Nat.lt_succ_iff.symm
  refine ⟨?_, ?_, ?_⟩
  · intro code hcode
    exact card_blocksOf ((hcodes code).mp hcode).2
  · ext code
    exact isFirst_iff.trans (hcodes code).symm
  · intro code hcode other hother
    exact distribution_le ((hcodes code).mp hcode) ((hcodes other).mp hother)

/-- The codes to both sides of the step in the number of blocks. -/
theorem frequency_of_codes_at_step :
    (47483647 ∈ Set.Icc 10000000 99999999 ∧ 47483648 ∈ Set.Icc 10000000 99999999) ∧
      (blocksOf 47483647).card = 44 ∧ (blocksOf 47483648).card = 42 ∧
      IsFirst 47483647 ∧ IsFirst 47483648 ∧
      distribution 47483647 ≤ 22 / 21 * distribution 47483648 := by
  obtain ⟨hcards, hfirst, hlikely⟩ := frequency_of_codes
  have hbelow : 47483647 ∈ Set.Icc 10000000 99999999 := Set.mem_Icc.mpr (by decide)
  have habove : 47483648 ∈ Set.Icc 10000000 99999999 := Set.mem_Icc.mpr (by decide)
  have hbelowFirst : 47483647 ∈ {code | IsFirst code} := hfirst ▸ hbelow
  have haboveFirst : 47483648 ∈ {code | IsFirst code} := hfirst ▸ habove
  exact ⟨⟨hbelow, habove⟩, hcards _ hbelow, hcards _ habove, hbelowFirst, haboveFirst,
    hlikely _ hbelow _ habove⟩

end ScratchCode

end OneTimePassword
