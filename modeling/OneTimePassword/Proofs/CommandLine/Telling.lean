/-
Module: OneTimePassword.Proofs.CommandLine.Telling
Purpose: What items tell about settings, each by itself and in no order.
Main exports: CommandLine.Topic.part, CommandLine.Tells, CommandLine.Tells.unique
-/
import OneTimePassword.CommandLine.Parse

namespace OneTimePassword.CommandLine

/-! ### Settings by topics -/

namespace Topic

/-- Of settings, what a topic is about. All else is as it is where nothing is said. -/
def part (topic : Topic) (settings : Settings) : Settings :=
  match topic with
  | .mode => { mode := settings.mode }
  | .confirmation => { confirm := settings.confirm }
  | .reuse => { disallowReuse := settings.disallowReuse }
  | .force => { force := settings.force }
  | .label => { label := settings.label }
  | .issuer => { issuer := settings.issuer }
  | .quiet => { quiet := settings.quiet }
  | .qrMode => { qrMode := settings.qrMode }
  | .rateLimit => { rateLimit := settings.rateLimit }
  | .rateTime => { rateTime := settings.rateTime }
  | .noRateLimit => { noRateLimit := settings.noRateLimit }
  | .secret => { secretPath := settings.secretPath }
  | .stepSize => { stepSize := settings.stepSize }
  | .window => { windowSize := settings.windowSize, minimalWindow := settings.minimalWindow }
  | .emergencyCodes => { emergencyCodes := settings.emergencyCodes }

/-- The topics leave nothing out. -/
theorem eq_of_part {a b : Settings} (h : ∀ topic : Topic, topic.part a = topic.part b) : a = b := by
  have hmode := congrArg Settings.mode (h .mode)
  have hconfirm := congrArg Settings.confirm (h .confirmation)
  have hreuse := congrArg Settings.disallowReuse (h .reuse)
  have hforce := congrArg Settings.force (h .force)
  have hlabel := congrArg Settings.label (h .label)
  have hissuer := congrArg Settings.issuer (h .issuer)
  have hquiet := congrArg Settings.quiet (h .quiet)
  have hqrMode := congrArg Settings.qrMode (h .qrMode)
  have hlimit := congrArg Settings.rateLimit (h .rateLimit)
  have htime := congrArg Settings.rateTime (h .rateTime)
  have hnone := congrArg Settings.noRateLimit (h .noRateLimit)
  have hpath := congrArg Settings.secretPath (h .secret)
  have hstep := congrArg Settings.stepSize (h .stepSize)
  have hsize := congrArg Settings.windowSize (h .window)
  have hminimal := congrArg Settings.minimalWindow (h .window)
  have hcodes := congrArg Settings.emergencyCodes (h .emergencyCodes)
  rcases a with ⟨⟩
  rcases b with ⟨⟩
  simp only [part] at *
  subst_vars
  rfl

end Topic

variable {item : Item} {items : List Item} {settings later : Settings} {topic other : Topic}

/-! ### What an item does to settings -/

theorem map_eq_ok_iff {ε α β : Type} {x : Except ε α} {f : α → β} {b : β} :
    x.map f = .ok b ↔ ∃ a, x = .ok a ∧ f a = b := by
  cases x with
  | error e => simp [Except.map]
  | ok a => simp [Except.map]

namespace Item

/-- An item leaves alone what it does not speak about. -/
theorem part_enter_of_ne (htopic : item.switch.topic = some topic)
    (h : item.enter settings = .ok later) (hne : other ≠ topic) :
    other.part later = other.part settings := by
  rcases item with ⟨switch, name, value?⟩
  cases switch
  case help | version | verbose => cases htopic
  case rateLimit | rateTime | stepSize | windowSize | emergencyCodes =>
    obtain ⟨n, -, rfl⟩ := map_eq_ok_iff.mp h
    obtain rfl := Option.some.inj htopic
    cases other <;> first | rfl | exact absurd rfl hne
  all_goals
    obtain rfl := Except.ok.inj h
    obtain rfl := Option.some.inj htopic
    cases other <;> first | rfl | exact absurd rfl hne

/-- Where nothing was said before, an item does to its topic what it does by itself. -/
theorem enter_default (htopic : item.switch.topic = some topic)
    (h : item.enter settings = .ok later) (hunsaid : topic.part settings = {}) :
    item.enter {} = .ok (topic.part later) := by
  have hsize : topic = .window → settings.windowSize = none ∧ settings.minimalWindow = false := by
    rintro rfl
    exact ⟨congrArg Settings.windowSize hunsaid, congrArg Settings.minimalWindow hunsaid⟩
  rcases item with ⟨switch, name, value?⟩
  cases switch
  case help | version | verbose => cases htopic
  case rateLimit | rateTime | stepSize | emergencyCodes =>
    obtain ⟨n, hn, rfl⟩ := map_eq_ok_iff.mp h
    obtain rfl := Option.some.inj htopic
    exact map_eq_ok_iff.mpr ⟨n, hn, rfl⟩
  case windowSize =>
    obtain ⟨n, hn, rfl⟩ := map_eq_ok_iff.mp h
    obtain rfl := Option.some.inj htopic
    refine map_eq_ok_iff.mpr ⟨n, hn, ?_⟩
    simp [Topic.part, hsize rfl]
  case minimalWindow =>
    obtain rfl := Except.ok.inj h
    obtain rfl := Option.some.inj htopic
    simp [enter, Topic.part, hsize rfl]
  all_goals
    obtain rfl := Except.ok.inj h
    obtain rfl := Option.some.inj htopic
    rfl

end Item

/-! ### What items tell -/

/-- Settings are as items tell. What an item speaks about is as the item by itself has it, and
what none speaks about is as it is where nothing is said. -/
structure Tells (items : List Item) (settings : Settings) : Prop where
  said : ∀ item ∈ items, ∀ topic, item.switch.topic = some topic →
    item.enter {} = .ok (topic.part settings)
  unsaid : ∀ topic, (∀ item ∈ items, item.switch.topic ≠ some topic) → topic.part settings = {}

namespace Tells

theorem nil : Tells [] {} := by
  constructor
  · intro item hitem
    cases hitem
  · intro topic _
    cases topic <;> rfl

/-- One more item, about something new. -/
theorem next (tells : Tells items settings) (htopic : item.switch.topic = some topic)
    (hnew : ∀ earlier ∈ items, earlier.switch.topic ≠ some topic)
    (h : item.enter settings = .ok later) : Tells (items ++ [item]) later := by
  constructor
  · intro teller hteller other hother
    rcases List.mem_append.mp hteller with hearlier | hlast
    · have hne : other ≠ topic := by
        rintro rfl
        exact hnew teller hearlier hother
      rw [Item.part_enter_of_ne htopic h hne]
      exact tells.said teller hearlier other hother
    · obtain rfl := List.mem_singleton.mp hlast
      obtain rfl := Option.some.inj (htopic.symm.trans hother)
      exact Item.enter_default htopic h (tells.unsaid topic hnew)
  · intro other hother
    obtain ⟨hearlier, hlast⟩ := List.forall_mem_append.mp hother
    have hne : other ≠ topic := by
      rintro rfl
      exact hlast item (List.mem_singleton_self item) htopic
    rw [Item.part_enter_of_ne htopic h hne]
    exact tells.unsaid other hearlier

/-- Items that speak about nothing tell nothing. -/
theorem skip (tells : Tells items settings) (htopic : item.switch.topic = none) :
    Tells (items ++ [item]) settings := by
  constructor
  · intro teller hteller topic hother
    rcases List.mem_append.mp hteller with hearlier | hlast
    · exact tells.said teller hearlier topic hother
    · obtain rfl := List.mem_singleton.mp hlast
      rw [htopic] at hother
      cases hother
  · intro topic hother
    exact tells.unsaid topic (List.forall_mem_append.mp hother).1

/-- There is at most one way for settings to be as they are told. -/
theorem unique {a b : Settings} (first : Tells items a) (second : Tells items b) : a = b := by
  apply Topic.eq_of_part
  intro topic
  by_cases hsaid : ∃ item ∈ items, item.switch.topic = some topic
  · obtain ⟨item, hitem, htopic⟩ := hsaid
    have h := (first.said item hitem topic htopic).symm.trans (second.said item hitem topic htopic)
    exact Except.ok.inj h
  · have hunsaid : ∀ item ∈ items, item.switch.topic ≠ some topic :=
      fun item hitem htopic => hsaid ⟨item, hitem, htopic⟩
    rw [first.unsaid topic hunsaid, second.unsaid topic hunsaid]

/-- The order in which items stand tells nothing. -/
theorem perm {items' : List Item} (tells : Tells items settings) (h : items.Perm items') :
    Tells items' settings where
  said item hitem := tells.said item (h.mem_iff.mpr hitem)
  unsaid topic hunsaid := tells.unsaid topic fun item hitem => hunsaid item (h.mem_iff.mp hitem)

end Tells

end OneTimePassword.CommandLine
