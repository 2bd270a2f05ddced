/-
Module: OneTimePassword.Proofs.CommandLine.Rendering
Purpose: Settings told on a command line, which is understood as just these settings.
Main exports: CommandLine.Switch.telling?, CommandLine.telling, CommandLine.parse_telling
-/
import OneTimePassword.Proofs.CommandLine.Order
import OneTimePassword.Proofs.Settings.Consistency
import OneTimePassword.Proofs.Text.Decimal

namespace OneTimePassword

/-- The number that is told about settings, if one is. -/
def Quantity.told? (quantity : Quantity) (settings : Settings) : Option Int :=
  match quantity with
  | .stepSize => settings.stepSize
  | .windowSize => settings.windowSize
  | .rateLimit => settings.rateLimit
  | .rateTime => settings.rateTime
  | .emergencyCodes =>
      if settings.emergencyCodes = ScratchCode.defaultCount then none
      else some settings.emergencyCodes

namespace CommandLine

/-! ### Settings as items -/

namespace Switch

/-- Whether settings are told with the help of a switch, and with which value. Nothing is told that
is so anyway. -/
def telling? (switch : Switch) (settings : Settings) : Option (Option String) :=
  match switch with
  | .help | .version | .verbose => none
  | .counterBased => if settings.mode = some Mode.counterBased.name then some none else none
  | .timeBased => if settings.mode = some Mode.timeBased.name then some none else none
  | .noConfirm => if settings.confirm then none else some none
  | .disallowReuse => if settings.disallowReuse = some true then some none else none
  | .allowReuse => if settings.disallowReuse = some false then some none else none
  | .force => if settings.force then some none else none
  | .label => settings.label.map some
  | .issuer => settings.issuer.map some
  | .quiet => if settings.quiet then some none else none
  | .qrMode =>
      if settings.qrMode = QrCode.Mode.default.name then none else some (some settings.qrMode)
  | .rateLimit => (Quantity.rateLimit.told? settings).map fun n => some (Text.decimal n)
  | .rateTime => (Quantity.rateTime.told? settings).map fun n => some (Text.decimal n)
  | .noRateLimit => if settings.noRateLimit then some none else none
  | .secret => settings.secretPath.map some
  | .stepSize => (Quantity.stepSize.told? settings).map fun n => some (Text.decimal n)
  | .windowSize => (Quantity.windowSize.told? settings).map fun n => some (Text.decimal n)
  | .minimalWindow => if settings.minimalWindow then some none else none
  | .emergencyCodes => (Quantity.emergencyCodes.told? settings).map fun n => some (Text.decimal n)

/-- A name that is spelled out: any of a switch that takes no value, and the long one of a switch
that takes one. -/
def IsFullName (switch : Switch) (name : String) : Prop :=
  name ∈ switch.names ∧
    (switch.takesValue = true → "--".toList.isPrefixOf name.toList = true)

end Switch

/-- What settings are, told by items, with names of the switches to choose. -/
def telling (names : Switch → String) (settings : Settings) : List Item :=
  Switch.all.filterMap fun switch =>
    (switch.telling? settings).map fun value? => { switch, name := names switch, value? }

/-- Where all is as it is anyway, nothing is told. -/
example (names : Switch → String) : telling names {} = [] := rfl

variable {switch : Switch} {settings : Settings} {options : Options} {value? : Option String}
  {names : Switch → String} {item : Item} {items : List Item}

theorem mem_telling_iff :
    item ∈ telling names settings ↔
      item.name = names item.switch ∧ item.switch.telling? settings = some item.value? := by
  rw [telling, List.mem_filterMap]
  constructor
  · rintro ⟨switch, -, h⟩
    obtain ⟨value?, hvalue, rfl⟩ := Option.map_eq_some_iff.mp h
    exact ⟨rfl, hvalue⟩
  · rintro ⟨hname, hvalue⟩
    refine ⟨item.switch, Switch.mem_all _, Option.map_eq_some_iff.mpr ⟨item.value?, hvalue, ?_⟩⟩
    rw [← hname]

/-! ### What the items are like -/

namespace Switch

/-- Only what can be settled is told. -/
theorem asks_of_telling? (h : switch.telling? settings = some value?) :
    switch ≠ .help ∧ switch ≠ .version := by
  constructor
  · rintro rfl
    cases h
  · rintro rfl
    cases h

theorem value?_eq_none (h : switch.telling? settings = some value?)
    (hflag : switch.takesValue = false) : value? = none := by
  cases switch
  case help | version | verbose => cases h
  case label | issuer | qrMode | rateLimit | rateTime | secret | stepSize | windowSize
      | emergencyCodes => cases hflag
  all_goals
    simp only [telling?] at h
    split at h <;> cases h
    rfl

theorem telling?_ofQuantity (quantity : Quantity) (settings : Settings) :
    (ofQuantity quantity).telling? settings =
      (quantity.told? settings).map fun n => some (Text.decimal n) := by
  cases quantity <;> rfl

/-- A number of settings that keep the rules is written with digits only, and with few. -/
theorem bounds_of_told? (consistent : settings.IsConsistent) {quantity : Quantity} {n : Int}
    (h : quantity.told? settings = some n) : 0 ≤ n ∧ n ≤ 600 := by
  cases quantity
  case stepSize =>
    obtain ⟨hleast, hgreatest, -⟩ := consistent.step n h
    omega
  case windowSize =>
    obtain ⟨hleast, hgreatest, -⟩ := consistent.window n h
    omega
  case rateLimit =>
    obtain ⟨hnone, -⟩ | ⟨attempts, seconds, hlimit, -, hleast, hgreatest, -⟩ := consistent.rate
    · exact absurd (h.symm.trans hnone) nofun
    · obtain rfl := Option.some.inj (hlimit.symm.trans h)
      omega
  case rateTime =>
    obtain ⟨-, hnone⟩ | ⟨attempts, seconds, -, htime, -, -, hleast, hgreatest, -⟩ :=
      consistent.rate
    · exact absurd (h.symm.trans hnone) nofun
    · obtain rfl := Option.some.inj (htime.symm.trans h)
      omega
  case emergencyCodes =>
    obtain ⟨-, hcount⟩ := Option.ite_none_left_eq_some.mp h
    obtain rfl := Option.some.inj hcount
    obtain ⟨hleast, hgreatest⟩ := consistent.emergencyCodes
    omega

end Switch

/-- No text of settings is the one that is dropped where it stands for a value. -/
structure LacksTerminator (settings : Settings) : Prop where
  label : settings.label ≠ some terminator
  issuer : settings.issuer ≠ some terminator
  secretPath : settings.secretPath ≠ some terminator

theorem decimal_ne_terminator {n : Int} (h : 0 ≤ n) : Text.decimal n ≠ terminator := by
  intro hdecimal
  obtain ⟨count, rfl⟩ := Int.eq_ofNat_of_zero_le h
  rw [Text.decimal_natCast] at hdecimal
  have hdash : '-' ∈ (Text.decimalNat count).toList := by
    rw [hdecimal]
    decide
  exact absurd (Text.isDigit_of_mem_decimalNat hdash) (by decide)

theorem Switch.exists_value (consistent : settings.IsConsistent) (lacks : LacksTerminator settings)
    (h : switch.telling? settings = some value?) (htakes : switch.takesValue = true) :
    ∃ value, value? = some value ∧ value ≠ terminator := by
  have hnumber (quantity : Quantity)
      (h : (ofQuantity quantity).telling? settings = some value?) :
      ∃ value, value? = some value ∧ value ≠ terminator := by
    rw [telling?_ofQuantity] at h
    obtain ⟨n, hn, rfl⟩ := Option.map_eq_some_iff.mp h
    exact ⟨Text.decimal n, rfl, decimal_ne_terminator (bounds_of_told? consistent hn).1⟩
  have htext (text? : Option String) (hlacks : text? ≠ some terminator)
      (h : text?.map some = some value?) : ∃ value, value? = some value ∧ value ≠ terminator := by
    obtain ⟨text, rfl, rfl⟩ := Option.map_eq_some_iff.mp h
    exact ⟨text, rfl, fun hterminator => hlacks (congrArg some hterminator)⟩
  cases switch
  case stepSize => exact hnumber .stepSize h
  case windowSize => exact hnumber .windowSize h
  case rateLimit => exact hnumber .rateLimit h
  case rateTime => exact hnumber .rateTime h
  case emergencyCodes => exact hnumber .emergencyCodes h
  case label => exact htext settings.label lacks.label h
  case issuer => exact htext settings.issuer lacks.issuer h
  case secret => exact htext settings.secretPath lacks.secretPath h
  case qrMode =>
    obtain ⟨-, hvalue⟩ := Option.ite_none_left_eq_some.mp h
    refine ⟨settings.qrMode, (Option.some.inj hvalue).symm, fun hterminator => ?_⟩
    have hname := consistent.qrMode
    rw [hterminator] at hname
    exact absurd hname (by decide +kernel)
  all_goals cases htakes

theorem isSpelledOut_of_mem_telling (consistent : settings.IsConsistent)
    (lacks : LacksTerminator settings) (named : ∀ switch : Switch, switch.IsFullName (names switch))
    (h : item ∈ telling names settings) : item.IsSpelledOut := by
  obtain ⟨hname, hvalue⟩ := mem_telling_iff.mp h
  obtain ⟨hnames, hlong⟩ := named item.switch
  rw [← hname] at hnames hlong
  exact ⟨Switch.asks_of_telling? hvalue, hnames, Switch.value?_eq_none hvalue,
    fun htakes => ⟨hlong htakes, Switch.exists_value consistent lacks hvalue htakes⟩⟩

theorem readInteger?_decimal_of_told? (consistent : settings.IsConsistent) {quantity : Quantity}
    {n : Int} (h : quantity.told? settings = some n) :
    Text.readInteger? (Text.decimal n).toList = some n := by
  have hbounds := Switch.bounds_of_told? consistent h
  apply Text.readInteger?_decimal
  calc
    (Text.decimalNat n.natAbs).length ≤ (Text.decimalNat 600).length :=
      Text.length_decimalNat_mono (by omega)
    _ ≤ Text.maxIntegerDigits := by decide

theorem isReadable_of_mem_telling (consistent : settings.IsConsistent)
    (h : item ∈ telling names settings) : item.IsReadable := by
  obtain ⟨-, hvalue⟩ := mem_telling_iff.mp h
  intro quantity hquantity
  rw [hquantity, Switch.telling?_ofQuantity] at hvalue
  obtain ⟨n, hn, hdecimal⟩ := Option.map_eq_some_iff.mp hvalue
  refine ⟨Text.decimal n, n, hdecimal.symm, ?_⟩
  rw [← Text.readInteger?_eq_some_iff_isSpacedInteger]
  exact readInteger?_decimal_of_told? consistent hn

/-- Of two switches with opposite meanings, settings that keep the rules need one at most. -/
theorem Switch.telling?_eq_none (consistent : settings.IsConsistent) {a b : Switch}
    (h : (a, b) ∈ opposites) (ha : a.telling? settings = some value?) :
    b.telling? settings = none := by
  simp only [opposites, List.mem_cons, List.not_mem_nil, or_false, Prod.mk.injEq] at h
  rcases h with ⟨rfl, rfl⟩ | ⟨rfl, rfl⟩ | ⟨rfl, rfl⟩
  · obtain ⟨hmode, -⟩ := Option.ite_none_right_eq_some.mp ha
    rw [telling?, hmode]
    rfl
  · obtain ⟨hreuse, -⟩ := Option.ite_none_right_eq_some.mp ha
    rw [telling?, hreuse]
    rfl
  · obtain ⟨codes, hcodes, -⟩ := Option.map_eq_some_iff.mp ha
    obtain ⟨-, -, hminimal, -⟩ := consistent.window codes hcodes
    rw [telling?, hminimal]
    rfl

theorem isSound_telling (consistent : settings.IsConsistent) :
    IsSound (telling names settings) := by
  refine ⟨?_, fun item hitem => isReadable_of_mem_telling consistent hitem⟩
  -- a switch is told once, so that only opposites could exclude each other
  have hall : Switch.all.Pairwise (· ≠ ·) := by decide
  rw [telling, List.pairwise_filterMap]
  refine hall.imp fun hne first hfirst second hsecond => ?_
  obtain ⟨a, ha, rfl⟩ := Option.map_eq_some_iff.mp hfirst
  obtain ⟨b, hb, rfl⟩ := Option.map_eq_some_iff.mp hsecond
  rintro (⟨hsame, -⟩ | h | h)
  · exact hne hsame
  · exact absurd (hb.symm.trans (Switch.telling?_eq_none consistent h ha)) nofun
  · exact absurd (ha.symm.trans (Switch.telling?_eq_none consistent h hb)) nofun

/-! ### What the items tell -/

/-- A number that is told is carried in as it is. -/
theorem map_integer_of_told? (consistent : settings.IsConsistent) {quantity : Quantity}
    (h : (quantity.told? settings).map (fun n => some (Text.decimal n)) = some item.value?) :
    ∃ n, quantity.told? settings = some n ∧ item.integer = .ok n := by
  obtain ⟨n, hn, hvalue⟩ := Option.map_eq_some_iff.mp h
  refine ⟨n, hn, ?_⟩
  simp only [Item.integer, ← hvalue, readInteger?_decimal_of_told? consistent hn]

/-- An item tells its topic as settings have it. -/
theorem enter_of_mem_telling (consistent : settings.IsConsistent) {topic : Topic}
    (h : item ∈ telling names settings) (htopic : item.switch.topic = some topic) :
    item.enter {} = .ok (topic.part settings) := by
  obtain ⟨-, hvalue⟩ := mem_telling_iff.mp h
  rcases item with ⟨switch, name, value?⟩
  cases switch
  case help | version | verbose => cases htopic
  case label | issuer | secret =>
    obtain ⟨text, htext, rfl⟩ := Option.map_eq_some_iff.mp hvalue
    obtain rfl := Option.some.inj htopic
    simp [Item.enter, Item.text, Topic.part, htext]
  case qrMode =>
    obtain ⟨-, hname⟩ := Option.ite_none_left_eq_some.mp hvalue
    obtain rfl := Option.some.inj hname
    obtain rfl := Option.some.inj htopic
    rfl
  case stepSize | rateLimit | rateTime =>
    obtain ⟨n, hn, hinteger⟩ := map_integer_of_told? consistent hvalue
    obtain rfl := Option.some.inj htopic
    simp only [Quantity.told?] at hn
    simp [Item.enter, hinteger, Except.map, Topic.part, hn]
  case emergencyCodes =>
    obtain ⟨n, hn, hinteger⟩ := map_integer_of_told? consistent hvalue
    obtain ⟨-, hcount⟩ := Option.ite_none_left_eq_some.mp hn
    obtain rfl := Option.some.inj htopic
    simp [Item.enter, hinteger, Except.map, Topic.part, Option.some.inj hcount]
  case windowSize =>
    obtain ⟨n, hn, hinteger⟩ := map_integer_of_told? consistent hvalue
    have hsize : settings.windowSize = some n := hn
    -- the topic has two settings, and the other one is as it is anyway
    obtain ⟨-, -, hminimal, -⟩ := consistent.window n hsize
    obtain rfl := Option.some.inj htopic
    simp [Item.enter, hinteger, Except.map, Topic.part, hsize, hminimal]
  case minimalWindow =>
    obtain ⟨hminimal, -⟩ := Option.ite_none_right_eq_some.mp hvalue
    have hsize : settings.windowSize = none := by
      rw [Option.eq_none_iff_forall_ne_some]
      intro n hn
      obtain ⟨-, -, hunwanted, -⟩ := consistent.window n hn
      rw [hminimal] at hunwanted
      cases hunwanted
    obtain rfl := Option.some.inj htopic
    simp [Item.enter, Topic.part, hsize, hminimal]
  case noConfirm =>
    obtain ⟨hconfirm, -⟩ := Option.ite_none_left_eq_some.mp hvalue
    obtain rfl := Option.some.inj htopic
    simp [Item.enter, Topic.part, hconfirm]
  all_goals
    obtain ⟨hgiven, -⟩ := Option.ite_none_right_eq_some.mp hvalue
    obtain rfl := Option.some.inj htopic
    simp [Item.enter, Topic.part, hgiven]

/-- What no item tells is as it is where nothing is said. -/
theorem part_eq_of_untold (consistent : settings.IsConsistent) {topic : Topic}
    (h : ∀ switch : Switch, switch.topic = some topic → switch.telling? settings = none) :
    topic.part settings = {} := by
  cases topic
  case mode =>
    have hcounter := h .counterBased rfl
    have htime := h .timeBased rfl
    -- the rules leave two modes, and either would have been told
    obtain ⟨mode, hmode⟩ := consistent.exists_mode
    cases mode with
    | none => simpa [Topic.part] using hmode
    | some mode =>
        cases mode with
        | timeBased => simp [Switch.telling?, hmode] at htime
        | counterBased => simp [Switch.telling?, hmode] at hcounter
  case reuse =>
    have hdisallow := h .disallowReuse rfl
    have hallow := h .allowReuse rfl
    cases hreuse : settings.disallowReuse with
    | none => simp [Topic.part, hreuse]
    | some disallow =>
        cases disallow with
        | true => simp [Switch.telling?, hreuse] at hdisallow
        | false => simp [Switch.telling?, hreuse] at hallow
  case window =>
    have hsize : settings.windowSize = none := Option.map_eq_none_iff.mp (h .windowSize rfl)
    have hminimal : settings.minimalWindow = false := by
      simpa [Switch.telling?] using h .minimalWindow rfl
    simp [Topic.part, hsize, hminimal]
  case confirmation => simpa [Switch.telling?, Topic.part] using h .noConfirm rfl
  case force => simpa [Switch.telling?, Topic.part] using h .force rfl
  case quiet => simpa [Switch.telling?, Topic.part] using h .quiet rfl
  case noRateLimit => simpa [Switch.telling?, Topic.part] using h .noRateLimit rfl
  case label => simpa [Switch.telling?, Topic.part] using h .label rfl
  case issuer => simpa [Switch.telling?, Topic.part] using h .issuer rfl
  case secret => simpa [Switch.telling?, Topic.part] using h .secret rfl
  case qrMode => simpa [Switch.telling?, Topic.part] using h .qrMode rfl
  case stepSize =>
    simpa [Switch.telling?, Quantity.told?, Topic.part] using h .stepSize rfl
  case rateLimit =>
    simpa [Switch.telling?, Quantity.told?, Topic.part] using h .rateLimit rfl
  case rateTime =>
    simpa [Switch.telling?, Quantity.told?, Topic.part] using h .rateTime rfl
  case emergencyCodes =>
    simpa [Switch.telling?, Quantity.told?, Topic.part] using h .emergencyCodes rfl

/-- The items tell the settings that they were made from. -/
theorem tells_telling (consistent : settings.IsConsistent) :
    Tells (telling names settings) settings := by
  constructor
  · intro item hitem topic htopic
    exact enter_of_mem_telling consistent hitem htopic
  · intro topic hunsaid
    apply part_eq_of_untold consistent
    intro switch htopic
    by_contra htold
    obtain ⟨value?, hvalue⟩ := Option.ne_none_iff_exists'.mp htold
    refine hunsaid { switch, name := names switch, value? } ?_ htopic
    exact mem_telling_iff.mpr ⟨rfl, hvalue⟩

/-! ### Command lines -/

/-- Options of which no text is the one that gets lost can be asked for on the command line. Tell
each of their settings that is not so anyway with a word of its own, a value attached to the long
name of its switch, and put these words in any order: they are understood, and the options that
they come to are the given ones. -/
theorem parse_telling (valid : settings.validate = .ok options)
    (lacks : LacksTerminator options.toSettings)
    (named : ∀ switch : Switch, switch.IsFullName (names switch))
    (h : items.Perm (telling names options.toSettings)) :
    ∃ request, parse (items.map Item.word) = .ok request ∧ request.options = .ok options := by
  obtain ⟨hoptions, -⟩ := Settings.validate_eq_ok_iff.mp valid
  have consistent := Settings.isConsistent_toSettings hoptions
  have spelled : ∀ item ∈ items, item.IsSpelledOut := fun item hitem =>
    isSpelledOut_of_mem_telling consistent lacks named (h.mem_iff.mp hitem)
  have sound : IsSound items := (isSound_telling consistent).perm h.symm
  obtain ⟨state, hstate, told⟩ := (parse_words_cases spelled).1 sound
  refine ⟨state.request, hstate, ?_⟩
  have hsettings : state.request.settings = options.toSettings :=
    told.settings.unique ((tells_telling consistent).perm h.symm)
  rw [Request.options, hsettings, Settings.validate_toSettings hoptions]
  rfl

/-- Options with an empty label and an issuer that looks like a switch. -/
theorem parse_telling_of_odd_texts :
    let options : Options :=
      { mode := some .timeBased, disallowReuse := some false, stepSize := none
        window := .minimal, rate := .limit 3 30, emergencyCodes := 0, confirm := false
        force := false, quiet := false, label := some "", issuer := some "-i=a b"
        secretPath := none, qrMode := .drawn ⟨.utf8, .grey⟩ }
    ∃ request, parse ["--label=", "-W", "--issuer=-i=a b", "--emergency-codes=0", "-t", "-C",
        "--rate-time=30", "--qr-mode=UTF8_GREY", "--rate-limit=3", "-D"] = .ok request ∧
      request.options = .ok options := by
  intro options
  let settings : Settings :=
    { mode := some "totp", disallowReuse := some false, minimalWindow := true
      rateLimit := some 3, rateTime := some 30, emergencyCodes := 0, confirm := false
      label := some "", issuer := some "-i=a b", qrMode := "utf8-grey" }
  let names (switch : Switch) : String :=
    if switch.takesValue then switch.names.getLastD "" else switch.names.headD ""
  let items : List Item :=
    [⟨.label, "--label", some ""⟩, ⟨.minimalWindow, "-W", none⟩,
      ⟨.issuer, "--issuer", some "-i=a b"⟩, ⟨.emergencyCodes, "--emergency-codes", some "0"⟩,
      ⟨.timeBased, "-t", none⟩, ⟨.noConfirm, "-C", none⟩, ⟨.rateTime, "--rate-time", some "30"⟩,
      ⟨.qrMode, "--qr-mode", some "UTF8_GREY"⟩, ⟨.rateLimit, "--rate-limit", some "3"⟩,
      ⟨.allowReuse, "-D", none⟩]
  have valid : settings.validate = .ok options := by decide +kernel
  have named (switch : Switch) : switch.IsFullName (names switch) := by
    cases switch <;> constructor <;> decide
  have told : items.Perm (telling names options.toSettings) := by decide +kernel
  exact parse_telling valid ⟨by decide, by decide, by decide⟩ named told

end CommandLine

end OneTimePassword
