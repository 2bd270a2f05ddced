/-
Module: OneTimePassword.Proofs.Text.Numeral
Purpose: The grammar of the lines that are read as a number.
Main exports: Text.IsDigitRun, Text.IsInteger, Text.IsNumeral, Text.IsSpacedInteger,
  Text.readInteger?_eq_some_iff, Text.readInteger?_eq_some_iff_isSpacedInteger
-/
import Mathlib.Algebra.GroupWithZero.Nat
import OneTimePassword.Proofs.Text.Integer

namespace OneTimePassword.Text

/-! ### The grammar -/

/-- Digits of any script, how many they are, and the number they stand for. A single underscore may
stand between two of them. -/
inductive IsDigitRun : List Char → Nat → Nat → Prop where
  | last {c : Char} {digit : Nat} (hdigit : digitValue? c = some digit) : IsDigitRun [c] 1 digit
  | next {c : Char} {digit : Nat} {rest : List Char} {count value : Nat}
      (hdigit : digitValue? c = some digit) (hrest : IsDigitRun rest count value) :
      IsDigitRun (c :: rest) (count + 1) (digit * 10 ^ count + value)
  | gap {c : Char} {digit : Nat} {rest : List Char} {count value : Nat}
      (hdigit : digitValue? c = some digit) (hrest : IsDigitRun rest count value) :
      IsDigitRun (c :: '_' :: rest) (count + 1) (digit * 10 ^ count + value)

/-- A sign may stand in front of the digits, which are not too many. -/
inductive IsInteger : List Char → Int → Prop where
  | unsigned {s : List Char} {count value : Nat} (hdigits : IsDigitRun s count value)
      (hcount : count ≤ maxIntegerDigits) : IsInteger s value
  | plus {s : List Char} {count value : Nat} (hdigits : IsDigitRun s count value)
      (hcount : count ≤ maxIntegerDigits) : IsInteger ('+' :: s) value
  | minus {s : List Char} {count value : Nat} (hdigits : IsDigitRun s count value)
      (hcount : count ≤ maxIntegerDigits) : IsInteger ('-' :: s) (-value)

/-- An integer with nothing but blanks around it. -/
def IsNumeral (line : List Char) (n : Int) : Prop :=
  ∃ before body after, line = before ++ body ++ after ∧ (∀ c ∈ before, isBlank c = true) ∧
    (∀ c ∈ after, isBlank c = true) ∧ IsInteger body n

/-- An integer with nothing around it but the blanks that may stand at the margins of one. -/
def IsSpacedInteger (text : List Char) (n : Int) : Prop :=
  ∃ before body after, text = before ++ body ++ after ∧ (∀ c ∈ before, isMargin c = true) ∧
    (∀ c ∈ after, isMargin c = true) ∧ IsInteger body n

variable {c : Char} {s line body before after : List Char} {count value : Nat} {n : Int}

/-! ### Digits -/

/-- No digit of any script is taken for a blank, a sign or an underscore. -/
theorem digit_ne_mark {digit : Nat} (h : digitValue? c = some digit) :
    isBlank c = false ∧ c ∉ ['_', '+', '-'] := by
  have hall : ∀ first ∈ digitZeros, ∀ digit < 10, isBlank (Char.ofNat (first + digit)) = false ∧
      Char.ofNat (first + digit) ∉ ['_', '+', '-'] := by
    decide +kernel
  obtain ⟨first, hfound, -⟩ := Option.map_eq_some_iff.mp h
  have hrange := List.find?_some hfound
  rw [Bool.and_eq_true, decide_eq_true_eq, decide_eq_true_eq] at hrange
  obtain ⟨digit, hdigit⟩ := Nat.exists_eq_add_of_le hrange.1
  have hc : c = Char.ofNat (first + digit) := by
    rw [← hdigit, Char.ofNat_toNat]
  rw [hc]
  exact hall first (List.mem_of_find?_eq_some hfound) digit (by omega)

/-- The first digit counts as many tens as digits follow. -/
theorem ofDigits_cons (digit : Nat) (digits : List Nat) :
    ofDigits (digit :: digits) = digit * 10 ^ digits.length + ofDigits digits := by
  have hstart (start : Nat) : digits.foldl (fun n digit => 10 * n + digit) start =
      start * 10 ^ digits.length + ofDigits digits := by
    unfold ofDigits
    induction digits generalizing start with
    | nil => simp
    | cons digit digits ih =>
        rw [List.foldl_cons, List.foldl_cons, ih, ih (10 * 0 + digit), List.length_cons,
          Nat.pow_succ]
        grind
  rw [ofDigits, List.foldl_cons, Nat.mul_zero, Nat.zero_add]
  exact hstart digit

theorem IsDigitRun.exists_first (h : IsDigitRun s count value) :
    ∃ c rest digit, s = c :: rest ∧ digitValue? c = some digit := by
  cases h with
  | last hdigit => exact ⟨_, _, _, rfl, hdigit⟩
  | next hdigit hrest => exact ⟨_, _, _, rfl, hdigit⟩
  | gap hdigit hrest => exact ⟨_, _, _, rfl, hdigit⟩

/-- A run is read digit by digit. -/
theorem readDigits?_of_isDigitRun (h : IsDigitRun s count value) :
    ∃ digits, readDigits? s = some digits ∧ digits.length = count ∧ ofDigits digits = value := by
  induction h with
  | @last c digit hdigit =>
      refine ⟨[digit], ?_, rfl, ?_⟩
      · rw [readDigits?, hdigit]
        rfl
      · simp [ofDigits]
  | @next c digit rest count value hdigit hrest ih =>
      obtain ⟨digits, hread, hlength, hvalue⟩ := ih
      -- a digit follows, so this is not the case of an underscore
      obtain ⟨first, later, _, rfl, hfirst⟩ := hrest.exists_first
      refine ⟨digit :: digits, ?_, congrArg Nat.succ hlength, ?_⟩
      · rw [readDigits?, hdigit, hread]
        · rfl
        · simp
        · rintro other hother
          obtain ⟨rfl, -⟩ := List.cons.inj hother
          exact absurd (by decide) (digit_ne_mark hfirst).2
      · rw [ofDigits_cons, hlength, hvalue]
  | @gap c digit rest count value hdigit hrest ih =>
      obtain ⟨digits, hread, hlength, hvalue⟩ := ih
      refine ⟨digit :: digits, ?_, congrArg Nat.succ hlength, ?_⟩
      · rw [readDigits?, hdigit, hread]
        rfl
      · rw [ofDigits_cons, hlength, hvalue]

/-- Nothing but a run is read. -/
theorem isDigitRun_of_readDigits? {digits : List Nat} (h : readDigits? s = some digits) :
    IsDigitRun s digits.length (ofDigits digits) := by
  fun_induction readDigits? s generalizing digits with
  | case1 => exact absurd h nofun
  | case2 c =>
      obtain ⟨digit, hdigit, rfl⟩ := Option.map_eq_some_iff.mp h
      have hvalue : ofDigits [digit] = digit := by
        simp [ofDigits]
      rw [hvalue]
      exact .last hdigit
  | case3 c rest ih =>
      obtain ⟨digit, hdigit, hread⟩ := Option.bind_eq_some_iff.mp h
      obtain ⟨later, hlater, hdigits⟩ := Option.bind_eq_some_iff.mp hread
      obtain rfl := Option.some.inj hdigits
      rw [ofDigits_cons]
      exact .gap hdigit (ih hlater)
  | case4 c rest _ _ ih =>
      obtain ⟨digit, hdigit, hread⟩ := Option.bind_eq_some_iff.mp h
      obtain ⟨later, hlater, hdigits⟩ := Option.bind_eq_some_iff.mp hread
      obtain rfl := Option.some.inj hdigits
      rw [ofDigits_cons]
      exact .next hdigit (ih hlater)

theorem readNatural?_eq_some_iff :
    readNatural? s = some value ↔ ∃ count, IsDigitRun s count value ∧ count ≤ maxIntegerDigits := by
  constructor
  · intro h
    obtain ⟨digits, hread, hvalue⟩ := Option.bind_eq_some_iff.mp h
    obtain ⟨hcount, hsome⟩ := Option.ite_none_right_eq_some.mp hvalue
    obtain rfl := Option.some.inj hsome
    exact ⟨_, isDigitRun_of_readDigits? hread, hcount⟩
  · rintro ⟨count, hrun, hcount⟩
    obtain ⟨digits, hread, rfl, rfl⟩ := readDigits?_of_isDigitRun hrun
    rw [readNatural?, hread]
    exact if_pos hcount

/-! ### Signs -/

/-- There is no blank inside of an integer. -/
theorem IsDigitRun.isBlank_eq_false (h : IsDigitRun s count value) :
    ∀ c ∈ s, isBlank c = false := by
  induction h with
  | last hdigit =>
      intro c hc
      obtain rfl := List.mem_singleton.mp hc
      exact (digit_ne_mark hdigit).1
  | next hdigit hrest ih => exact List.forall_mem_cons.mpr ⟨(digit_ne_mark hdigit).1, ih⟩
  | gap hdigit hrest ih =>
      refine List.forall_mem_cons.mpr ⟨(digit_ne_mark hdigit).1, ?_⟩
      exact List.forall_mem_cons.mpr ⟨by decide, ih⟩

theorem IsInteger.isBlank_eq_false (h : IsInteger s n) : ∀ c ∈ s, isBlank c = false := by
  cases h with
  | unsigned hdigits hcount => exact hdigits.isBlank_eq_false
  | plus hdigits hcount => exact List.forall_mem_cons.mpr ⟨by decide, hdigits.isBlank_eq_false⟩
  | minus hdigits hcount => exact List.forall_mem_cons.mpr ⟨by decide, hdigits.isBlank_eq_false⟩

theorem IsInteger.ne_nil (h : IsInteger s n) : s ≠ [] := by
  cases h with
  | unsigned hdigits hcount =>
      obtain ⟨c, rest, digit, rfl, -⟩ := hdigits.exists_first
      exact List.cons_ne_nil c rest
  | plus hdigits hcount => exact List.cons_ne_nil _ _
  | minus hdigits hcount => exact List.cons_ne_nil _ _

/-- With no blanks around it, an integer is read as what it stands for. -/
theorem readInteger?_of_isInteger (h : IsInteger s n) : readInteger? s = some n := by
  have htrim : trim isMargin s = s := by
    apply trim_of_forall
    intro c hc
    rw [isMargin, h.isBlank_eq_false c hc, Bool.false_and]
  rw [readInteger?, htrim]
  cases h with
  | plus hdigits hcount =>
      simp only [readNatural?_eq_some_iff.mpr ⟨_, hdigits, hcount⟩]
      rfl
  | minus hdigits hcount =>
      simp only [readNatural?_eq_some_iff.mpr ⟨_, hdigits, hcount⟩]
      rfl
  | unsigned hdigits hcount =>
      obtain ⟨first, rest, digit, rfl, hfirst⟩ := hdigits.exists_first
      have hsign := (digit_ne_mark hfirst).2
      split
      · rename_i hplus
        obtain ⟨rfl, -⟩ := List.cons.inj hplus
        exact absurd (by decide) hsign
      · rename_i hminus
        obtain ⟨rfl, -⟩ := List.cons.inj hminus
        exact absurd (by decide) hsign
      · rw [readNatural?_eq_some_iff.mpr ⟨_, hdigits, hcount⟩]
        rfl

theorem isInteger_of_readInteger? (h : readInteger? s = some n) : IsInteger (trim isMargin s) n := by
  unfold readInteger? at h
  split at h
  · rename_i rest hplus
    obtain ⟨value, hread, rfl⟩ := Option.map_eq_some_iff.mp h
    obtain ⟨count, hdigits, hcount⟩ := readNatural?_eq_some_iff.mp hread
    rw [hplus]
    exact .plus hdigits hcount
  · rename_i rest hminus
    obtain ⟨magnitude, hmagnitude, rfl⟩ := Option.map_eq_some_iff.mp h
    obtain ⟨value, hread, hcast⟩ := Option.bind_eq_some_iff.mp hmagnitude
    obtain rfl := Option.some.inj hcast
    obtain ⟨count, hdigits, hcount⟩ := readNatural?_eq_some_iff.mp hread
    rw [hminus]
    exact .minus hdigits hcount
  · obtain ⟨value, hread, rfl⟩ := Option.map_eq_some_iff.mp h
    obtain ⟨count, hdigits, hcount⟩ := readNatural?_eq_some_iff.mp hread
    exact .unsigned hdigits hcount

/-! ### Blanks -/

/-- What is taken off the ends of a text satisfies `p`. -/
theorem exists_trim (p : Char → Bool) (s : List Char) :
    ∃ before after, s = before ++ trim p s ++ after ∧ (∀ c ∈ before, p c = true) ∧
      ∀ c ∈ after, p c = true := by
  have hpassed (t : List Char) : ∀ c ∈ t.takeWhile p, p c = true :=
    List.all_eq_true.mp List.all_takeWhile
  refine ⟨s.takeWhile p, ((s.dropWhile p).reverse.takeWhile p).reverse, ?_, hpassed s, ?_⟩
  · rw [trim, List.append_assoc, ← List.reverse_append, List.takeWhile_append_dropWhile,
      List.reverse_reverse, List.takeWhile_append_dropWhile]
  · intro c hc
    exact hpassed _ c (List.mem_reverse.mp hc)

/-- A text without such characters is what is left between them. -/
theorem trim_append {p : Char → Bool} (hbefore : ∀ c ∈ before, p c = true)
    (hafter : ∀ c ∈ after, p c = true) (hnil : body ≠ []) (hbody : ∀ c ∈ body, p c = false) :
    trim p (before ++ body ++ after) = body := by
  have hkept {s t : List Char} (hnil : s ≠ []) (hs : ∀ c ∈ s, p c = false) :
      (s ++ t).dropWhile p = s ++ t := by
    cases s with
    | nil => exact absurd rfl hnil
    | cons c rest => exact List.dropWhile_cons_of_neg (by simp [hs c List.mem_cons_self])
  have hreverse : ∀ c ∈ body.reverse, p c = false := fun c hc => hbody c (List.mem_reverse.mp hc)
  rw [trim, List.append_assoc, List.dropWhile_append_of_pos hbefore, hkept hnil hbody,
    List.reverse_append,
    List.dropWhile_append_of_pos fun c hc => hafter c (List.mem_reverse.mp hc)]
  rw [← List.append_nil body.reverse, hkept (by simpa using hnil) hreverse, List.append_nil,
    List.reverse_reverse]

/-- A line is read as a number if and only if it holds one. -/
theorem readInteger?_eq_some_iff :
    readInteger? (trim isBlank line) = some n ↔ IsNumeral line n := by
  constructor
  · intro h
    -- what counts as a margin is blank, so the second trimming takes off blanks as well
    have hblank (c : Char) (hc : isMargin c = true) : isBlank c = true :=
      (Bool.and_eq_true_iff.mp hc).1
    obtain ⟨before, after, hline, hbefore, hafter⟩ := exists_trim isBlank line
    obtain ⟨start, rest, hbody, hstart, hrest⟩ := exists_trim isMargin (trim isBlank line)
    refine ⟨before ++ start, trim isMargin (trim isBlank line), rest ++ after, ?_, ?_, ?_,
      isInteger_of_readInteger? h⟩
    · calc
        line = before ++ trim isBlank line ++ after := hline
        _ = before ++ (start ++ trim isMargin (trim isBlank line) ++ rest) ++ after := by
          rw [← hbody]
        _ = before ++ start ++ trim isMargin (trim isBlank line) ++ (rest ++ after) := by
          simp only [List.append_assoc]
    · exact List.forall_mem_append.mpr ⟨hbefore, fun c hc => hblank c (hstart c hc)⟩
    · exact List.forall_mem_append.mpr ⟨fun c hc => hblank c (hrest c hc), hafter⟩
  · rintro ⟨before, body, after, rfl, hbefore, hafter, hinteger⟩
    rw [trim_append hbefore hafter hinteger.ne_nil hinteger.isBlank_eq_false]
    exact readInteger?_of_isInteger hinteger

/-- Where a text is read as it is, only margins are passed over. -/
theorem readInteger?_eq_some_iff_isSpacedInteger :
    readInteger? s = some n ↔ IsSpacedInteger s n := by
  constructor
  · intro h
    obtain ⟨before, after, hs, hbefore, hafter⟩ := exists_trim isMargin s
    exact ⟨before, trim isMargin s, after, hs, hbefore, hafter, isInteger_of_readInteger? h⟩
  · rintro ⟨before, body, after, rfl, hbefore, hafter, hinteger⟩
    have hbody : ∀ c ∈ body, isMargin c = false := by
      intro c hc
      rw [isMargin, hinteger.isBlank_eq_false c hc, Bool.false_and]
    have hinside : trim isMargin (before ++ body ++ after) = trim isMargin body := by
      rw [trim_append hbefore hafter hinteger.ne_nil hbody, trim_of_forall hbody]
    rw [readInteger?, hinside, ← readInteger?]
    exact readInteger?_of_isInteger hinteger

end OneTimePassword.Text
