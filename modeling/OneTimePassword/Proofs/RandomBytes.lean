/-
Module: OneTimePassword.Proofs.RandomBytes
Purpose: What the readings of a source of random bytes come to, and what they leave of it.
Main exports: RandomBytes.Device.isOpen, RandomBytes.Device.isEndless, RandomBytes.Device.IsLike,
  RandomBytes.Device.readingsLeft_pull_lt, RandomBytes.Supply.read_cases,
  RandomBytes.Supply.read_of_length_eq, RandomBytes.Supply.read_stream
-/
import OneTimePassword.RandomBytes

namespace OneTimePassword.RandomBytes

namespace Device

@[simp] theorem pull_stream (wanted : Int) (left : Bytes) :
    (stream left true).pull wanted =
      (some (.bytes (left.take (share wanted left.length))),
        stream (left.drop (share wanted left.length)) true) := rfl

@[simp] theorem pull_outcomes_nil (wanted : Int) :
    (outcomes []).pull wanted = (some (.bytes []), outcomes []) := rfl

@[simp] theorem pull_outcomes_cons (wanted : Int) (first : Outcome) (later : List Outcome) :
    (outcomes (first :: later)).pull wanted = (some first, outcomes later) := rfl

def isOpen : Device → Bool
  | .stream _ isOpen => isOpen
  | .node _ isOpen => isOpen
  | .outcomes _ => true

/-- Whether a device goes on forever. -/
def isEndless : Device → Bool
  | .node _ _ => true
  | .stream _ _ | .outcomes _ => false

/-- The devices differ at most in what they bring: they are of one kind, and both are open or both are
closed. -/
def IsLike : Device → Device → Prop
  | .stream _ isOpen, .stream _ isOpen' | .node _ isOpen, .node _ isOpen' => isOpen' = isOpen
  | .outcomes _, .outcomes _ => True
  | _, _ => False

theorem IsLike.isOpen_eq {device device' : Device} (h : device.IsLike device') :
    device'.isOpen = device.isOpen := by
  cases device <;> cases device' <;> first | exact h | exact h.elim | rfl

theorem IsLike.closedError_eq {device device' : Device} (h : device.IsLike device') :
    device'.closedError = device.closedError := by
  cases device <;> cases device' <;> first | rfl | exact h.elim

theorem isOpen_pull (wanted : Int) (device : Device) :
    (device.pull wanted).2.isOpen = device.isOpen := by
  cases device with
  | stream left isOpen => cases isOpen <;> rfl
  | node fill isOpen => cases isOpen <;> rfl
  | outcomes next => cases next <;> rfl

theorem isEndless_pull (wanted : Int) (device : Device) :
    (device.pull wanted).2.isEndless = device.isEndless := by
  cases device with
  | stream left isOpen => cases isOpen <;> rfl
  | node fill isOpen => cases isOpen <;> rfl
  | outcomes next => cases next <;> rfl

/-- Only a closed device brings nothing at all. -/
theorem isOpen_of_pull {wanted : Int} {device : Device} (h : (device.pull wanted).1 = none) :
    device.isOpen = false := by
  cases device with
  | stream left isOpen =>
      cases isOpen with
      | false => rfl
      | true => cases h
  | node fill isOpen =>
      cases isOpen with
      | false => rfl
      | true => cases h
  | outcomes next => cases next <;> cases h

/-- What is brought is gone, unless there is no end to it. -/
theorem readingsLeft_pull_lt {wanted : Int} {device : Device} {data : Bytes}
    (h : (device.pull wanted).1 = some (.bytes data)) (hsome : data ≠ [])
    (hend : device.isEndless = false) :
    (device.pull wanted).2.readingsLeft < device.readingsLeft := by
  cases device with
  | stream left isOpen =>
      cases isOpen with
      | false => cases h
      | true =>
          obtain rfl : left.take (share wanted left.length) = data :=
            Outcome.bytes.inj (Option.some.inj h)
          simp only [ne_eq, List.take_eq_nil_iff, not_or] at hsome
          have := List.length_pos_iff.mpr hsome.2
          simp only [pull_stream, readingsLeft, List.length_drop]
          omega
  | node fill isOpen => cases hend
  | outcomes next =>
      cases next with
      | nil =>
          obtain rfl : [] = data := Outcome.bytes.inj (Option.some.inj h)
          exact absurd rfl hsome
      | cons first later => exact Nat.lt_succ_self _

end Device

/-- What the readings of a supply come to. -/
theorem Supply.read_cases (supply : Supply) (wanted : Int) :
    (∃ data, (data.length : Int) = wanted ∧
        (supply.device.pull wanted).1 = some (.bytes data) ∧
        supply.read wanted = (.ok data, { supply with device := (supply.device.pull wanted).2 })) ∨
      ∃ e, ((∃ cause, e = .cannotRead supply.name cause) ∨
          (∃ got, e = .wrongCount supply.name wanted got) ∨
          (supply.device.pull wanted).1 = none ∧ (e = .closedStream ∨ e = .closedNode)) ∧
        supply.read wanted = (.error e, { supply with device := (supply.device.pull wanted).2 }) := by
  unfold read
  rcases supply.device.pull wanted with ⟨outcome, device⟩
  rcases outcome with _ | outcome
  · refine .inr ⟨_, .inr (.inr ⟨rfl, ?_⟩), rfl⟩
    cases device with
    | stream left isOpen => exact .inl rfl
    | node fill isOpen | outcomes next => exact .inr rfl
  · cases outcome with
    | nothing => exact .inr ⟨_, .inr (.inl ⟨0, rfl⟩), rfl⟩
    | fails e => exact .inr ⟨_, .inl ⟨e, rfl⟩, rfl⟩
    | bytes data =>
        by_cases hcount : (data.length : Int) = wanted
        · exact .inl ⟨data, hcount, rfl, by simp [hcount]⟩
        · exact .inr ⟨_, .inr (.inl ⟨data.length, rfl⟩), by simp [hcount]⟩

/-- A device that is closed stays as it is. -/
theorem Supply.read_of_closed {supply : Supply} (hclosed : supply.device.isOpen = false)
    (wanted : Int) : supply.read wanted = (.error supply.device.closedError, supply) := by
  rcases supply with ⟨name, device⟩
  cases device with
  | stream left isOpen =>
      cases isOpen with
      | false => rfl
      | true => cases hclosed
  | node fill isOpen =>
      cases isOpen with
      | false => rfl
      | true => cases hclosed
  | outcomes next => cases hclosed

/-- An outcome of the right length is what a reading gives. -/
theorem Supply.read_of_length_eq {supply : Supply} {data : Bytes} {later : List Outcome} {wanted : Nat}
    (hdevice : supply.device = .outcomes (.bytes data :: later)) (hlength : data.length = wanted) :
    supply.read wanted = (.ok data, { supply with device := .outcomes later }) := by
  simp [read, hdevice, hlength]

/-- A stream gives what is asked for as long as it has that much. Where it has less, the rest is
lost. -/
theorem Supply.read_stream {supply : Supply} {left : Bytes} (wanted : Nat)
    (hdevice : supply.device = .stream left true) :
    supply.read wanted =
      if wanted ≤ left.length then
        (.ok (left.take wanted), { supply with device := .stream (left.drop wanted) true })
      else
        (.error (.wrongCount supply.name wanted left.length),
          { supply with device := .stream [] true }) := by
  have hshare : share wanted left.length = min wanted left.length := by
    simp [share, show ¬ ((wanted : Int) < 0) by omega]
  by_cases hle : wanted ≤ left.length
  · have hlength : (left.take wanted).length = wanted := by simp [hle]
    simp [read, hdevice, hshare, hle, hlength]
  · have hlength : ¬ (left.length : Int) = wanted := by omega
    have hall : min wanted left.length = left.length := Nat.min_eq_right (by omega)
    simp [read, hdevice, hshare, hle, hall, hlength]

end OneTimePassword.RandomBytes
