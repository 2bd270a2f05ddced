/-
Module: OneTimePassword.Proofs.CommandLine.Spelling
Purpose: Command lines on which each word is a switch by its full name with its value attached.
  Reading such words is letting their items take effect.
Main exports: CommandLine.Item.IsSpelledOut, CommandLine.Item.word, CommandLine.parse_words
-/
import OneTimePassword.CommandLine.Parse
import OneTimePassword.Proofs.Settings.Validation

namespace OneTimePassword.CommandLine

/-! ### Names -/

namespace Switch

variable {switch : Switch} {name : String}

theorem mem_all (switch : Switch) : switch ∈ all := by
  cases switch <;> decide

/-- A name belongs to one switch only. -/
theorem ofName?_of_mem_names (h : name ∈ switch.names) : ofName? name = some switch := by
  have hall : ∀ switch ∈ all, ∀ name ∈ switch.names, ofName? name = some switch := by
    decide +kernel
  exact hall switch (mem_all switch) name h

theorem head?_of_mem_names (h : name ∈ switch.names) : name.toList.head? = some '-' := by
  have hall : ∀ switch ∈ all, ∀ name ∈ switch.names, name.toList.head? = some '-' := by
    decide +kernel
  exact hall switch (mem_all switch) name h

theorem equalsSign_notMem_of_mem_names (h : name ∈ switch.names) : '=' ∉ name.toList := by
  have hall : ∀ switch ∈ all, ∀ name ∈ switch.names, '=' ∉ name.toList := by
    decide +kernel
  exact hall switch (mem_all switch) name h

theorem ne_terminator_of_mem_names (h : name ∈ switch.names) : name ≠ terminator := by
  have hall : ∀ switch ∈ all, ∀ name ∈ switch.names, name ≠ terminator := by
    decide +kernel
  exact hall switch (mem_all switch) name h

/-- What has an equals sign in it is no name. -/
theorem ofName?_of_equalsSign (h : '=' ∈ name.toList) : ofName? name = none := by
  rw [ofName?, List.lookup_eq_none_iff]
  rintro ⟨other, owner⟩ hentry
  obtain ⟨switch, -, hother⟩ := List.mem_flatMap.mp hentry
  obtain ⟨_, hname, hpair⟩ := List.mem_map.mp hother
  obtain ⟨rfl, rfl⟩ := Prod.mk.inj hpair
  rw [bne_iff_ne]
  rintro rfl
  exact equalsSign_notMem_of_mem_names hname h

end Switch

/-! ### Items that are spelled out -/

namespace Item

/-- An item with nothing abbreviated or left to the next word: a switch that takes no value by any
of its names, or one that takes a value by its long name together with the value. It asks neither
for help nor for the version, and the value is not the one that is dropped. -/
structure IsSpelledOut (item : Item) : Prop where
  asks : item.switch ≠ .help ∧ item.switch ≠ .version
  name : item.name ∈ item.switch.names
  flag : item.switch.takesValue = false → item.value? = none
  setting : item.switch.takesValue = true →
    "--".toList.isPrefixOf item.name.toList = true ∧
      ∃ value, item.value? = some value ∧ value ≠ terminator

instance (item : Item) : Decidable item.IsSpelledOut :=
  decidable_of_iff
    ((item.switch ≠ .help ∧ item.switch ≠ .version) ∧ item.name ∈ item.switch.names ∧
      (item.switch.takesValue = false → item.value? = none) ∧
      (item.switch.takesValue = true → "--".toList.isPrefixOf item.name.toList = true ∧
        ∃ value, value ∈ item.value? ∧ value ≠ terminator))
    ⟨fun ⟨asks, name, flag, setting⟩ => ⟨asks, name, flag, setting⟩,
      fun spelled => ⟨spelled.asks, spelled.name, spelled.flag, spelled.setting⟩⟩

/-- The word that an item is given by. A value follows its name behind an equals sign. -/
def word (item : Item) : String :=
  match item.value? with
  | none => item.name
  | some value => item.name ++ "=" ++ value

end Item

/-! ### Reading the words -/

variable {item : Item} {items : List Item}

theorem Word.splitAtEquals_append {name : List Char} (value : List Char) (h : '=' ∉ name) :
    splitAtEquals (name ++ '=' :: value) = (name, some value) := by
  have hname : ∀ c ∈ name, decide (c ≠ '=') = true := by
    intro c hc
    rw [decide_eq_true_eq]
    rintro rfl
    exact h hc
  have hdrop : (name ++ '=' :: value).dropWhile (· ≠ '=') = '=' :: value := by
    rw [List.dropWhile_append_of_pos hname]
    rfl
  have htake : (name ++ '=' :: value).takeWhile (· ≠ '=') = name := by
    rw [List.takeWhile_append_of_pos hname]
    exact List.append_nil name
  rw [splitAtEquals, hdrop, htake]

namespace Item.IsSpelledOut

theorem ne_terminator (h : item.IsSpelledOut) : item.word ≠ terminator := by
  unfold word
  split
  case h_1 => exact Switch.ne_terminator_of_mem_names h.name
  case h_2 value hvalue =>
    intro hword
    have hequals : '=' ∈ (item.name ++ "=" ++ value).toList := by simp
    rw [hword] at hequals
    exact absurd hequals (by decide)

/-- A word is cut at its first equals sign, so it does not matter which characters are in the
value. -/
theorem read_word (h : item.IsSpelledOut) :
    Word.read item.word = .ok (.switch item.switch item.name item.value?) := by
  have hfound := Switch.ofName?_of_mem_names h.name
  have hhead := Switch.head?_of_mem_names h.name
  unfold word
  cases item.value? with
  | none => simp [Word.read, hfound, hhead]
  | some value =>
      have hword : (item.name ++ "=" ++ value).toList =
          item.name.toList ++ '=' :: value.toList := by
        simp
      have hnone : Switch.ofName? (item.name ++ "=" ++ value) = none := by
        apply Switch.ofName?_of_equalsSign
        simp [hword]
      have hdash : item.name ++ "=" ++ value ≠ "-" := by
        intro hdash
        rw [hdash] at hword
        have hequals : '=' ∈ "-".toList := by simp [hword]
        exact absurd hequals (by decide)
      have hcut := Word.splitAtEquals_append value.toList
        (Switch.equalsSign_notMem_of_mem_names h.name)
      simp [Word.read, hnone, hdash, hcut, hfound, hhead]

/-- What a spelled-out word comes to does not hang on the next one. -/
theorem itemsOf_word (h : item.IsSpelledOut) :
    itemsOf item.switch item.name item.value? = .ok ([item], none) := by
  rcases item with ⟨switch, name, value?⟩
  cases htakes : switch.takesValue with
  | false =>
      obtain rfl : value? = none := h.flag htakes
      simp [itemsOf, htakes]
  | true =>
      obtain ⟨-, value, hvalue, hterminator⟩ := h.setting htakes
      obtain rfl : value? = some value := hvalue
      cases hchars : value.toList with
      | nil =>
          obtain rfl : value = "" := by simpa using hchars
          simp [itemsOf, attach, htakes]
      | cons c rest =>
          have hvalue : String.ofList (c :: rest) = value := by rw [← hchars, String.ofList_toList]
          simp [itemsOf, attach, attachedValue?, htakes, hchars, hvalue, hterminator]

end Item.IsSpelledOut

theorem wordsOf_words (h : ∀ item ∈ items, item.IsSpelledOut) :
    wordsOf (items.map Item.word) =
      .ok (items.map fun item => .switch item.switch item.name item.value?) := by
  induction items with
  | nil => rfl
  | cons item rest ih =>
      obtain ⟨hfirst, hrest⟩ := List.forall_mem_cons.mp h
      rw [List.map_cons, wordsOf, if_neg hfirst.ne_terminator, hfirst.read_word, ih hrest]
      rfl

/-- Words that are spelled out take effect one by one. -/
theorem follow_words (h : ∀ item ∈ items, item.IsSpelledOut) (state : State) :
    follow (items.map fun item => .switch item.switch item.name item.value?) state =
      Item.applyAll items state := by
  induction items generalizing state with
  | nil =>
      rw [List.map_nil, follow]
      rfl
  | cons item rest ih =>
      obtain ⟨hfirst, hrest⟩ := List.forall_mem_cons.mp h
      rw [List.map_cons, follow, hfirst.itemsOf_word]
      change Item.applyAll [item] state >>= _ = item.apply state >>= Item.applyAll rest
      rw [Item.applyAll, List.foldlM_cons]
      cases item.apply state with
      | error stop => rfl
      | ok later => exact ih hrest later

/-- Nothing is left over from an item. -/
theorem Item.strays_apply {state later : State} (h : item.apply state = .ok later) :
    later.strays = state.strays := by
  unfold apply at h
  split at h
  case h_1 => cases h
  case h_2 => cases h
  case h_3 =>
    obtain rfl := Except.ok.inj h
    rfl
  case h_4 =>
    obtain ⟨request, -, hrequest⟩ := Settings.bind_eq_ok_iff.mp h
    obtain ⟨seen, -, hseen⟩ := Settings.bind_eq_ok_iff.mp hrequest
    obtain rfl := Settings.pure_eq_ok_iff.mp hseen
    rfl

theorem Item.strays_applyAll {state final : State} (h : Item.applyAll items state = .ok final) :
    final.strays = state.strays := by
  induction items generalizing state with
  | nil =>
      obtain rfl := Except.ok.inj h
      rfl
  | cons item rest ih =>
      rw [applyAll, List.foldlM_cons] at h
      obtain ⟨later, hfirst, hrest⟩ := Settings.bind_eq_ok_iff.mp h
      exact (ih hrest).trans (strays_apply hfirst)

/-- A command line that is spelled out is refused, or understood, as its items are. -/
theorem parse_words (h : ∀ item ∈ items, item.IsSpelledOut) :
    parse (items.map Item.word) = (Item.applyAll items {}).map State.request := by
  rw [parse, wordsOf_words h]
  change (follow _ {} >>= _) = _
  rw [follow_words h]
  cases happly : Item.applyAll items {} with
  | error stop => rfl
  | ok final =>
      have hstrays : final.strays = [] := Item.strays_applyAll happly
      change (if final.strays ≠ [] then _ else _) = _
      rw [if_neg (not_not_intro hstrays)]
      rfl

end OneTimePassword.CommandLine
