/-
Module: OneTimePassword.CommandLine.Parse
Purpose: Command lines as settings.
Main exports: CommandLine.Stop, CommandLine.Item, CommandLine.parse
-/
import OneTimePassword.CommandLine.Request
import OneTimePassword.CommandLine.Word

namespace OneTimePassword.CommandLine

/-- Why a command line asks for no run. -/
inductive Stop where
  | help
  | version
  | usage (error : UsageError)
deriving Repr, DecidableEq

/-- A switch with the name that was used for it, and the value that it was given. -/
structure Item where
  switch : Switch
  name : String
  value? : Option String := none
deriving Repr, DecidableEq

/-- What was understood so far. -/
structure State where
  request : Request := {}
  /-- The topics that were spoken about, with the names of the switches. -/
  seen : List (Topic × String) := []
  /-- The words that nothing could be made of. -/
  strays : List String := []
deriving Repr, DecidableEq

namespace Item

/-- Whether there is no value where one belongs. -/
def isBlank (item : Item) : Bool := item.switch.takesValue && item.value?.isNone

/-- The value as text, which is empty if there is none. -/
def text (item : Item) : String := item.value?.getD ""

/-- The value as an integer, with a stand-in if there is none. -/
def integer (item : Item) : Except UsageError Int :=
  match item.value? with
  | none => .ok blankNumber
  | some value =>
      match Text.readInteger? value.toList with
      | some n => .ok n
      | none => .error (.notInteger item.switch value)

/-- Settings with the item carried in. -/
def enter (item : Item) (settings : Settings) : Except UsageError Settings :=
  match item.switch with
  | .help | .version | .verbose => .ok settings
  | .counterBased => .ok { settings with mode := some Mode.counterBased.name }
  | .timeBased => .ok { settings with mode := some Mode.timeBased.name }
  | .noConfirm => .ok { settings with confirm := false }
  | .disallowReuse => .ok { settings with disallowReuse := some true }
  | .allowReuse => .ok { settings with disallowReuse := some false }
  | .force => .ok { settings with force := true }
  | .label => .ok { settings with label := some item.text }
  | .issuer => .ok { settings with issuer := some item.text }
  | .quiet => .ok { settings with quiet := true }
  | .qrMode => .ok { settings with qrMode := item.text }
  | .rateLimit => item.integer.map fun n => { settings with rateLimit := some n }
  | .rateTime => item.integer.map fun n => { settings with rateTime := some n }
  | .noRateLimit => .ok { settings with noRateLimit := true }
  | .secret => .ok { settings with secretPath := some item.text }
  | .stepSize => item.integer.map fun n => { settings with stepSize := some n }
  | .windowSize => item.integer.map fun n => { settings with windowSize := some n }
  | .minimalWindow => .ok { settings with minimalWindow := true }
  | .emergencyCodes => item.integer.map fun n => { settings with emergencyCodes := n }

/-- A request with the item carried in. -/
def extend (item : Item) (request : Request) : Except UsageError Request := do
  let settings ← item.enter request.settings
  let blank := if item.isBlank then item.switch :: request.blank else request.blank
  pure { request with settings, blank }

/-- Note down what an item speaks about, unless another one spoke about it before. -/
def register (item : Item) (seen : List (Topic × String)) :
    Except UsageError (List (Topic × String)) :=
  match item.switch.topic with
  | none => .ok seen
  | some topic =>
      match seen.lookup topic with
      | some earlier => .error (.repeated earlier item.name)
      | none => .ok ((topic, item.name) :: seen)

/-- Let an item take effect. Its value is read before it is asked whether the item is repeated. -/
def apply (item : Item) (state : State) : Except Stop State :=
  match item.switch with
  | .help => .error .help
  | .version => .error .version
  | .verbose => .ok { state with request := { state.request with verbose := true } }
  | _ => do
      let request ← (item.extend state.request).mapError .usage
      let seen ← (item.register state.seen).mapError .usage
      pure { state with request, seen }

/-- Let items take effect in order. -/
def applyAll (items : List Item) (state : State) : Except Stop State :=
  items.foldlM (fun state item => item.apply state) state

end Item

/-- The value that a text attached to its switch is. The terminator leaves it blank. -/
def attachedValue? (text : String) : Option String := if text = terminator then none else some text

/-- A switch that waits for its value. -/
structure Pending where
  switch : Switch
  name : String

/-- What a switch comes to with the text attached to it: its value, or more short switches. Of these
the last may wait for its value. -/
def attach (switch : Switch) (name : String) :
    List Char → Except UsageError (List Item × Option Pending)
  | [] =>
      if switch.takesValue then .ok ([{ switch, name, value? := some "" }], none)
      else .error (.needlessValue switch "")
  | c :: rest =>
      let text := String.ofList (c :: rest)
      if switch.takesValue then .ok ([{ switch, name, value? := attachedValue? text }], none)
      else if name.length ≠ 2 then .error (.needlessValue switch text)
      else
        let nextName := String.ofList ['-', c]
        match Switch.ofName? nextName, rest with
        | none, _ => .error (.needlessValue switch text)
        | some next, [] =>
            if next.takesValue then .ok ([{ switch, name }], some ⟨next, nextName⟩)
            else .ok ([{ switch, name }, { switch := next, name := nextName }], none)
        | some next, _ :: _ => do
            let (items, pending?) ← attach next nextName rest
            pure ({ switch, name } :: items, pending?)

/-- What a switch comes to before the words behind it are looked at. -/
def itemsOf (switch : Switch) (name : String) (attached? : Option String) :
    Except UsageError (List Item × Option Pending) :=
  match attached? with
  | some text => attach switch name text.toList
  | none =>
      if switch.takesValue then .ok ([], some ⟨switch, name⟩) else .ok ([{ switch, name }], none)

/-- The value that a switch waits for is the next word, if it can be one. -/
def Pending.resolve (pending : Pending) : List Word → Except UsageError (Item × List Word)
  | .plain text :: rest =>
      .ok ({ switch := pending.switch, name := pending.name, value? := some text }, rest)
  | _ => .error (.noValue pending.switch)

theorem Pending.length_resolve_lt {pending : Pending} {words : List Word} {item : Item}
    {rest : List Word} (h : pending.resolve words = .ok (item, rest)) :
    rest.length < words.length := by
  cases words with
  | nil => simp [resolve] at h
  | cons word words =>
      cases word with
      | plain text =>
          simp only [resolve, Except.ok.injEq, Prod.mk.injEq] at h
          simp [← h.2]
      | _ => simp [resolve] at h

/-- Let the words take effect from left to right. The switches of one word take effect together,
once all of them are understood. -/
def follow (words : List Word) (state : State) : Except Stop State :=
  match words with
  | [] => .ok state
  | .plain text :: rest => follow rest { state with strays := state.strays ++ [text] }
  | .stray text :: rest => follow rest { state with strays := state.strays ++ [text] }
  | .switch switch name attached? :: rest =>
      match itemsOf switch name attached? with
      | .error e => .error (.usage e)
      | .ok (items, none) => do
          let state ← Item.applyAll items state
          follow rest state
      | .ok (items, some pending) =>
          match h : pending.resolve rest with
          | .error e => .error (.usage e)
          | .ok (item, rest') => do
              let state ← Item.applyAll (items ++ [item]) state
              have := Pending.length_resolve_lt h
              follow rest' state
termination_by words.length

/-- Read a command line. -/
def parse (args : List String) : Except Stop Request := do
  let words ← (wordsOf args).mapError .usage
  let state ← follow words {}
  if state.strays ≠ [] then throw (.usage (.unrecognized state.strays))
  pure state.request

end OneTimePassword.CommandLine
