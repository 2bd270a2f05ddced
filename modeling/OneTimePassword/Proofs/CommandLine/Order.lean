/-
Module: OneTimePassword.Proofs.CommandLine.Order
Purpose: Which command lines are understood that are spelled out, and that the order of their words
  does not matter.
Main exports: CommandLine.Switch.Excludes, CommandLine.Told, CommandLine.applyAll_cases,
  CommandLine.parse_words_cases, CommandLine.parse_in_any_order
-/
import Mathlib.Data.List.Induction
import Mathlib.Data.List.Pairwise
import OneTimePassword.CommandLine.Run
import OneTimePassword.Proofs.CommandLine.Spelling
import OneTimePassword.Proofs.CommandLine.Telling
import OneTimePassword.Proofs.Text.Numeral

namespace OneTimePassword.CommandLine

/-! ### Switches that do not go together -/

namespace Switch

/-- The pairs of switches that say two things about the same. -/
def opposites : List (Switch × Switch) :=
  [(.counterBased, .timeBased), (.disallowReuse, .allowReuse), (.windowSize, .minimalWindow)]

/-- Two switches of which a command line has one only. No switch is given twice, by whichever of
its names, but the one that asks for details. -/
def Excludes (a b : Switch) : Prop :=
  (a = b ∧ a ≠ .verbose) ∨ (a, b) ∈ opposites ∨ (b, a) ∈ opposites

instance (a b : Switch) : Decidable (a.Excludes b) :=
  inferInstanceAs (Decidable ((a = b ∧ a ≠ .verbose) ∨ (a, b) ∈ opposites ∨ (b, a) ∈ opposites))

variable {a b : Switch}

theorem Excludes.symm (h : a.Excludes b) : b.Excludes a := by
  rcases h with ⟨rfl, hverbose⟩ | h | h
  · exact .inl ⟨rfl, hverbose⟩
  · exact .inr (.inr h)
  · exact .inr (.inl h)

/-- Switches exclude one another if and only if they speak about the same. -/
theorem excludes_iff (ha : a ≠ .help ∧ a ≠ .version) :
    a.Excludes b ↔ ∃ topic, a.topic = some topic ∧ b.topic = some topic := by
  have hall : ∀ a ∈ all, ∀ b ∈ all, a ≠ .help ∧ a ≠ .version →
      (a.Excludes b ↔ a.topic ≠ none ∧ b.topic = a.topic) := by
    decide +kernel
  rw [hall a (mem_all a) b (mem_all b) ha]
  constructor
  · rintro ⟨hsome, hsame⟩
    obtain ⟨topic, htopic⟩ := Option.ne_none_iff_exists'.mp hsome
    exact ⟨topic, htopic, hsame.trans htopic⟩
  · rintro ⟨topic, ha, hb⟩
    exact ⟨by simp [ha], hb.trans ha.symm⟩

end Switch

variable {item : Item} {items : List Item} {state : State} {topic : Topic}

/-! ### One item by itself -/

namespace Item

/-- If it takes a number, its value is one. -/
def IsReadable (item : Item) : Prop :=
  ∀ quantity, item.switch = Switch.ofQuantity quantity →
    ∃ value n, item.value? = some value ∧ Text.IsSpacedInteger value.toList n

/-- The two items cannot stand on one command line. -/
def Excludes (a b : Item) : Prop := a.switch.Excludes b.switch

instance (a b : Item) : Decidable (a.Excludes b) :=
  inferInstanceAs (Decidable (a.switch.Excludes b.switch))

namespace IsSpelledOut

theorem isBlank_eq_false (spelled : item.IsSpelledOut) : item.isBlank = false := by
  cases htakes : item.switch.takesValue with
  | false => rw [isBlank, htakes, Bool.false_and]
  | true =>
      obtain ⟨-, value, hvalue, -⟩ := spelled.setting htakes
      rw [isBlank, hvalue, Option.isNone_some, Bool.and_false]

/-- All that is said about nothing is that details are wanted. -/
theorem verbose_or_topic (spelled : item.IsSpelledOut) :
    item.switch = .verbose ∨ ∃ topic, item.switch.topic = some topic := by
  obtain ⟨hhelp, hversion⟩ := spelled.asks
  cases hswitch : item.switch
  case help => exact absurd hswitch hhelp
  case version => exact absurd hswitch hversion
  case verbose => exact .inl rfl
  all_goals exact .inr ⟨_, rfl⟩

theorem integer_eq_ok_iff {quantity : Quantity} {n : Int} (spelled : item.IsSpelledOut)
    (hswitch : item.switch = Switch.ofQuantity quantity) :
    item.integer = .ok n ↔
      ∃ value, item.value? = some value ∧ Text.IsSpacedInteger value.toList n := by
  have htakes : item.switch.takesValue = true := by
    rw [hswitch]
    cases quantity <;> rfl
  obtain ⟨-, value, hvalue, -⟩ := spelled.setting htakes
  simp only [integer, hvalue, Option.some.injEq, exists_eq_left',
    ← Text.readInteger?_eq_some_iff_isSpacedInteger]
  cases Text.readInteger? value.toList with
  | none => simp
  | some m => simp

/-- An item can be carried in if and only if it can be read. What was said before is no matter. -/
theorem exists_enter_iff (spelled : item.IsSpelledOut) (settings : Settings) :
    (∃ later, item.enter settings = .ok later) ↔ item.IsReadable := by
  have hnumber (quantity : Quantity) (hswitch : item.switch = Switch.ofQuantity quantity)
      (f : Int → Settings) : (∃ later, item.integer.map f = .ok later) ↔ item.IsReadable := by
    constructor
    · rintro ⟨later, h⟩ _ _
      obtain ⟨n, hn, -⟩ := map_eq_ok_iff.mp h
      obtain ⟨value, hvalue, hinteger⟩ := (spelled.integer_eq_ok_iff hswitch).mp hn
      exact ⟨value, n, hvalue, hinteger⟩
    · intro readable
      obtain ⟨value, n, hvalue, hinteger⟩ := readable quantity hswitch
      have hn := (spelled.integer_eq_ok_iff hswitch).mpr ⟨value, hvalue, hinteger⟩
      exact ⟨f n, map_eq_ok_iff.mpr ⟨n, hn, rfl⟩⟩
  cases hswitch : item.switch
  case rateLimit => simpa only [enter, hswitch] using hnumber .rateLimit hswitch _
  case rateTime => simpa only [enter, hswitch] using hnumber .rateTime hswitch _
  case stepSize => simpa only [enter, hswitch] using hnumber .stepSize hswitch _
  case windowSize => simpa only [enter, hswitch] using hnumber .windowSize hswitch _
  case emergencyCodes => simpa only [enter, hswitch] using hnumber .emergencyCodes hswitch _
  all_goals
    refine iff_of_true (by simp [enter, hswitch]) ?_
    intro quantity hquantity
    rw [hswitch] at hquantity
    cases quantity <;> cases hquantity

end IsSpelledOut

end Item

/-! ### One item after another -/

/-- What was understood so far is what items tell. Each topic that they speak about is noted down,
and no value is blank. -/
structure Told (items : List Item) (state : State) : Prop where
  settings : Tells items state.request.settings
  verbose : state.request.verbose = true ↔ ∃ item ∈ items, item.switch = .verbose
  blank : state.request.blank = []
  seen : ∀ topic, state.seen.lookup topic ≠ none ↔ ∃ item ∈ items, item.switch.topic = some topic

/-- Items that can stand together in any order: none excludes another, and all can be read. -/
structure IsSound (items : List Item) : Prop where
  once : items.Pairwise fun a b => ¬ a.Excludes b
  readable : ∀ item ∈ items, item.IsReadable

theorem isSound_concat_iff :
    IsSound (items ++ [item]) ↔
      IsSound items ∧ item.IsReadable ∧ ∀ earlier ∈ items, ¬ earlier.Excludes item := by
  have honce : (items ++ [item]).Pairwise (fun a b => ¬ a.Excludes b) ↔
      items.Pairwise (fun a b => ¬ a.Excludes b) ∧ ∀ earlier ∈ items, ¬ earlier.Excludes item := by
    simp [List.pairwise_append]
  constructor
  · rintro ⟨once, readable⟩
    obtain ⟨hitems, hitem⟩ := List.forall_mem_append.mp readable
    obtain ⟨hearlier, hlast⟩ := honce.mp once
    exact ⟨⟨hearlier, hitems⟩, List.forall_mem_singleton.mp hitem, hlast⟩
  · rintro ⟨⟨once, readable⟩, hitem, hlast⟩
    exact ⟨honce.mpr ⟨once, hlast⟩,
      List.forall_mem_append.mpr ⟨readable, List.forall_mem_singleton.mpr hitem⟩⟩

theorem IsSound.perm {items' : List Item} (sound : IsSound items) (h : items.Perm items') :
    IsSound items' where
  once := (h.pairwise_iff fun hnot hback => hnot (Switch.Excludes.symm hback)).mp sound.once
  readable item hitem := sound.readable item (h.mem_iff.mpr hitem)

theorem Item.apply_of_topic (htopic : item.switch.topic = some topic) (state : State) :
    item.apply state = (do
      let request ← (item.extend state.request).mapError .usage
      let seen ← (item.register state.seen).mapError .usage
      pure { state with request, seen }) := by
  rcases item with ⟨switch, name, value?⟩
  cases switch <;> cases htopic <;> rfl

namespace Told

theorem nil : Told [] {} where
  settings := .nil
  verbose := by simp
  blank := rfl
  seen topic := by simp

/-- The wish for details changes nothing else. -/
theorem details (told : Told items state) (hverbose : item.switch = .verbose) :
    ∃ later, item.apply state = .ok later ∧ Told (items ++ [item]) later := by
  have htopic : item.switch.topic = none := by rw [hverbose]; rfl
  refine ⟨{ state with request := { state.request with verbose := true } }, ?_, ?_⟩
  · simp [Item.apply, hverbose]
  · refine ⟨told.settings.skip htopic, by simp [hverbose], told.blank, ?_⟩
    intro topic
    rw [told.seen topic]
    simp [or_and_right, exists_or, htopic]

theorem lookup_eq_none_iff (told : Told items state) :
    state.seen.lookup topic = none ↔ ∀ earlier ∈ items, earlier.switch.topic ≠ some topic := by
  rw [← not_iff_not, ← ne_eq, told.seen topic]
  simp

/-- An item about something new is taken if it can be read. -/
theorem next (told : Told items state) (spelled : item.IsSpelledOut) (readable : item.IsReadable)
    (htopic : item.switch.topic = some topic)
    (hnew : ∀ earlier ∈ items, earlier.switch.topic ≠ some topic) :
    ∃ later, item.apply state = .ok later ∧ Told (items ++ [item]) later := by
  obtain ⟨settings, hsettings⟩ := (spelled.exists_enter_iff state.request.settings).mpr readable
  have hlookup := told.lookup_eq_none_iff.mpr hnew
  have hverbose : item.switch ≠ .verbose := by
    intro hverbose
    rw [hverbose] at htopic
    cases htopic
  refine ⟨{ state with
    request := { state.request with settings }, seen := (topic, item.name) :: state.seen }, ?_, ?_⟩
  · rw [Item.apply_of_topic htopic, Item.extend, hsettings, spelled.isBlank_eq_false, Item.register,
      htopic]
    simp only [hlookup]
    rfl
  · refine ⟨told.settings.next htopic hnew hsettings, ?_, told.blank, ?_⟩
    · rw [told.verbose]
      simp [or_and_right, exists_or, hverbose]
    · intro other
      simp only [List.lookup_cons, List.mem_append, List.mem_singleton, or_and_right, exists_or,
        exists_eq_left, htopic, Option.some.injEq]
      by_cases hother : other = topic
      · simp [hother]
      · simp [told.seen other, Ne.symm hother, beq_false_of_ne hother]

/-- An item is refused if it speaks about what another one did, and if it cannot be read. -/
theorem refuse (told : Told items state) (spelled : item.IsSpelledOut)
    (htopic : item.switch.topic = some topic)
    (h : item.IsReadable → ∃ earlier ∈ items, earlier.switch.topic = some topic) :
    ∃ error, item.apply state = .error (.usage error) := by
  rw [Item.apply_of_topic htopic, Item.extend]
  -- the value is read first, so what cannot be read is refused for that in any case
  cases hsettings : item.enter state.request.settings with
  | error error => exact ⟨error, rfl⟩
  | ok settings =>
      have hseen := h ((spelled.exists_enter_iff _).mp ⟨settings, hsettings⟩)
      obtain ⟨earlier, hearlier⟩ := Option.ne_none_iff_exists'.mp ((told.seen topic).mpr hseen)
      refine ⟨.repeated earlier item.name, ?_⟩
      simp only [Item.register, htopic, hearlier]
      rfl

/-- What comes of one more item behind sound ones. -/
theorem step (told : Told items state) (sound : IsSound items)
    (spelled : ∀ item ∈ items, item.IsSpelledOut) (spelledItem : item.IsSpelledOut) :
    (IsSound (items ++ [item]) →
      ∃ later, item.apply state = .ok later ∧ Told (items ++ [item]) later) ∧
      (¬ IsSound (items ++ [item]) → ∃ error, item.apply state = .error (.usage error)) := by
  have hexcludes {earlier : Item} (hearlier : earlier ∈ items) :=
    Switch.excludes_iff (b := item.switch) (spelled earlier hearlier).asks
  rw [isSound_concat_iff]
  rcases spelledItem.verbose_or_topic with hverbose | ⟨topic, htopic⟩
  · -- the wish for details is always taken, and nothing excludes it
    refine ⟨fun _ => told.details hverbose, fun unsound => absurd ⟨sound, ?_, ?_⟩ unsound⟩
    · apply (spelledItem.exists_enter_iff {}).mp
      exact ⟨{}, by rw [Item.enter, hverbose]⟩
    · intro earlier hearlier hboth
      obtain ⟨topic, -, htopic⟩ := (hexcludes hearlier).mp hboth
      rw [hverbose] at htopic
      cases htopic
  · constructor
    · rintro ⟨-, readable, hlast⟩
      refine told.next spelledItem readable htopic fun earlier hearlier hsame => ?_
      exact hlast earlier hearlier ((hexcludes hearlier).mpr ⟨topic, hsame, htopic⟩)
    · intro unsound
      refine told.refuse spelledItem htopic fun readable => ?_
      by_contra hnew
      refine unsound ⟨sound, readable, fun earlier hearlier hboth => hnew ?_⟩
      obtain ⟨other, hother, hitem⟩ := (hexcludes hearlier).mp hboth
      obtain rfl := Option.some.inj (htopic.symm.trans hitem)
      exact ⟨earlier, hearlier, hother⟩

end Told

/-! ### All items -/

theorem Item.applyAll_concat (items : List Item) (item : Item) (state : State) :
    applyAll (items ++ [item]) state = (do
      let state ← applyAll items state
      item.apply state) := by
  rw [applyAll, List.foldlM_append]
  refine congrArg (applyAll items state >>= ·) ?_
  funext later
  exact bind_pure _

/-- Items that are sound are understood as what they tell, and items that are not are refused. -/
theorem applyAll_cases (spelled : ∀ item ∈ items, item.IsSpelledOut) :
    (IsSound items → ∃ state, Item.applyAll items {} = .ok state ∧ Told items state) ∧
      (¬ IsSound items → ∃ error, Item.applyAll items {} = .error (.usage error)) := by
  induction items using List.reverseRecOn with
  | nil =>
      refine ⟨fun _ => ⟨{}, rfl, .nil⟩, fun unsound => absurd ⟨.nil, ?_⟩ unsound⟩
      exact List.forall_mem_nil _
  | append_singleton items item ih =>
      obtain ⟨hitems, hitem⟩ := List.forall_mem_append.mp spelled
      obtain ⟨understood, refused⟩ := ih hitems
      rw [Item.applyAll_concat]
      by_cases sound : IsSound items
      · obtain ⟨state, hstate, told⟩ := understood sound
        rw [hstate]
        exact told.step sound hitems (List.forall_mem_singleton.mp hitem)
      · obtain ⟨error, herror⟩ := refused sound
        rw [herror]
        exact ⟨fun whole => absurd (isSound_concat_iff.mp whole).1 sound, fun _ => ⟨error, rfl⟩⟩

/-! ### Command lines -/

/-- A command line is refused. Whatever it is started in, the program ends at once with the status
for that. -/
def IsRefused (args : List String) : Prop :=
  ∃ error, parse args = .error (.usage error) ∧
    ∀ setting session, (run setting args session).ending = .exit 2 ∧
      (run setting args session).session = session

theorem isRefused_of_parse {args : List String} {error : UsageError}
    (h : parse args = .error (.usage error)) : IsRefused args := by
  refine ⟨error, h, fun setting session => ?_⟩
  rw [run, h]
  exact ⟨rfl, rfl⟩

/-- The items of a command line that is spelled out are understood if and only if they are sound. -/
theorem parse_words_cases (spelled : ∀ item ∈ items, item.IsSpelledOut) :
    (IsSound items → ∃ state, parse (items.map Item.word) = .ok state.request ∧ Told items state) ∧
      (¬ IsSound items → IsRefused (items.map Item.word)) := by
  obtain ⟨understood, refused⟩ := applyAll_cases spelled
  constructor
  · intro sound
    obtain ⟨state, hstate, told⟩ := understood sound
    refine ⟨state, ?_, told⟩
    rw [parse_words spelled, hstate]
    rfl
  · intro unsound
    obtain ⟨error, herror⟩ := refused unsound
    apply isRefused_of_parse
    rw [parse_words spelled, herror]
    rfl

/-- What is understood does not hang on the order of the items. -/
theorem Told.request_eq {items' : List Item} {later : State} (first : Told items state)
    (second : Told items' later) (h : items.Perm items') : state.request = later.request := by
  have hsettings := (first.settings.perm h).unique second.settings
  have hverbose : state.request.verbose = later.request.verbose := by
    rw [Bool.eq_iff_iff, first.verbose, second.verbose]
    simp only [h.mem_iff]
  have hblank := first.blank.trans second.blank.symm
  calc
    state.request = ⟨state.request.settings, state.request.verbose, state.request.blank⟩ := rfl
    _ = ⟨later.request.settings, later.request.verbose, later.request.blank⟩ := by
      rw [hsettings, hverbose, hblank]
    _ = later.request := rfl

/-- If no value is blank, settings come to options or to a conflict. -/
theorem Request.options_cases {request : Request} (h : request.blank = []) :
    (∃ options, request.options = .ok options) ∨
      ∃ conflict, request.options = .error (.conflict conflict) := by
  have hblame (conflict : Conflict) : request.blame conflict = .conflict conflict := by
    cases conflict <;> simp [blame, isBlank, h]
  rw [options]
  cases request.settings.validate with
  | ok options => exact .inl ⟨options, rfl⟩
  | error conflict => exact .inr ⟨conflict, congrArg Except.error (hblame conflict)⟩

/-- Take a command line on which each word is a switch by its full name, those that take a value
having it attached. If two of the switches exclude each other it is refused, and otherwise it is
understood if each value that has to be an integer is one. With the words in any other order it is
refused as well, or understood as the same request, which comes to the same options or the same
conflict. -/
theorem parse_in_any_order (items : List Item) (spelled : ∀ item ∈ items, item.IsSpelledOut) :
    (¬ (items.Pairwise fun a b => ¬ a.Excludes b) → IsRefused (items.map Item.word)) ∧
    ((items.Pairwise fun a b => ¬ a.Excludes b) → (∀ item ∈ items, item.IsReadable) →
      ∃ request, parse (items.map Item.word) = .ok request) ∧
    ∀ items' : List Item, items.Perm items' →
      (IsRefused (items.map Item.word) ∧ IsRefused (items'.map Item.word)) ∨
      ∃ request, parse (items.map Item.word) = .ok request ∧
        parse (items'.map Item.word) = .ok request ∧
        ((∃ options, request.options = .ok options) ∨
          ∃ conflict, request.options = .error (.conflict conflict)) := by
  obtain ⟨understood, refused⟩ := parse_words_cases spelled
  refine ⟨fun hrepeated => refused fun sound => hrepeated sound.once, fun once readable => ?_, ?_⟩
  · obtain ⟨state, hstate, -⟩ := understood ⟨once, readable⟩
    exact ⟨state.request, hstate⟩
  · intro items' hperm
    have spelled' : ∀ item ∈ items', item.IsSpelledOut :=
      fun item hitem => spelled item (hperm.mem_iff.mpr hitem)
    obtain ⟨understood', refused'⟩ := parse_words_cases spelled'
    by_cases sound : IsSound items
    · obtain ⟨state, hstate, told⟩ := understood sound
      obtain ⟨state', hstate', told'⟩ := understood' (sound.perm hperm)
      rw [← told.request_eq told' hperm] at hstate'
      exact .inr ⟨state.request, hstate, hstate', Request.options_cases told.blank⟩
    · exact .inl ⟨refused sound, refused' fun sound' => sound (sound'.perm hperm.symm)⟩

/-- The window by its size and as the least one go together in no order. A step with blanks and an
underscore in it is read, wherever it stands. -/
theorem parse_in_any_order_of_window :
    IsRefused ["--window-size=3", "--issuer=a=b", "-W"] ∧
      ∃ request, parse ["-v", "--step-size= 4_5", "-t", "--verbose"] = .ok request ∧
        parse ["-t", "-v", "--verbose", "--step-size= 4_5"] = .ok request := by
  let repeated : List Item :=
    [{ switch := .windowSize, name := "--window-size", value? := some "3" },
      { switch := .issuer, name := "--issuer", value? := some "a=b" },
      { switch := .minimalWindow, name := "-W" }]
  let details : Item := { switch := .verbose, name := "-v" }
  let details' : Item := { switch := .verbose, name := "--verbose" }
  let mode : Item := { switch := .timeBased, name := "-t" }
  let step : Item := { switch := .stepSize, name := "--step-size", value? := some " 4_5" }
  have spelled : ∀ item ∈ [details, step, mode, details'], item.IsSpelledOut := by decide
  have readable : ∀ item ∈ [details, step, mode, details'], item.IsReadable := by
    intro item hitem
    apply ((spelled item hitem).exists_enter_iff {}).mp
    simp only [List.mem_cons, List.not_mem_nil, or_false] at hitem
    rcases hitem with rfl | rfl | rfl | rfl
    · exact ⟨_, rfl⟩
    · exact ⟨{ stepSize := some 45 }, by decide +kernel⟩
    · exact ⟨_, rfl⟩
    · exact ⟨_, rfl⟩
  obtain ⟨hrepeated, -⟩ := parse_in_any_order repeated (by decide)
  obtain ⟨-, understood, hperm⟩ := parse_in_any_order [details, step, mode, details'] spelled
  refine ⟨hrepeated (by decide), ?_⟩
  obtain ⟨request, hrequest⟩ := understood (by decide) readable
  rcases hperm [mode, details, details', step] (by decide) with ⟨⟨error, hrefused, -⟩, -⟩ | h
  · exact absurd (hrequest.symm.trans hrefused) nofun
  · obtain ⟨request, hfirst, hsecond, -⟩ := h
    exact ⟨request, hfirst, hsecond⟩

end OneTimePassword.CommandLine
