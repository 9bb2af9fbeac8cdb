import Mathlib.Data.List.Basic

/-!
# Bounded channels

A channel holds at most as many values as its capacity, for one receiver. A sender does not wait: a
value that finds no room is dropped. What has been received is kept as history, so that `accepted` is
every value that ever found room, the first one first; receiving a value leaves it alone.
-/

universe u

/-- A channel with the values in it and those received from it, the first one first. -/
structure Channel (α : Type u) where
  capacity : ℕ
  received : List α := []
  queue : List α := []
  isOpen : Bool := true
  bounded : queue.length ≤ capacity

namespace Channel

variable {α : Type u}

/-- A channel with nothing in it. -/
def new (capacity : ℕ) : Channel α where
  capacity := capacity
  queue := []
  bounded := Nat.zero_le capacity

variable (channel : Channel α) (value : α)

/-- Whether a value that is sent would be held. -/
def hasRoom : Bool :=
  channel.isOpen && decide (channel.queue.length < channel.capacity)

theorem length_append_le {channel : Channel α} (h : channel.hasRoom = true) (value : α) :
    (channel.queue ++ [value]).length ≤ channel.capacity := by
  simp only [hasRoom, Bool.and_eq_true, decide_eq_true_eq] at h
  simp only [List.length_append, List.length_singleton]
  omega

/-- Send a value without waiting. -/
def trySend : Channel α :=
  if h : channel.hasRoom = true then
    { channel with queue := channel.queue ++ [value], bounded := length_append_le h value }
  else channel

/-- Receive the first value. -/
def receive : Option (Channel α) :=
  match h : channel.queue with
  | [] => none
  | value :: rest =>
    some
      { channel with
        received := channel.received ++ [value]
        queue := rest
        bounded := by
          have hbounded := channel.bounded
          rw [h, List.length_cons] at hbounded
          omega }

/-- Close the channel. What is in it is dropped. -/
def close : Channel α :=
  { channel with queue := [], isOpen := false, bounded := Nat.zero_le _ }

/-- Every value that was held, the first one first. -/
def accepted : List α :=
  channel.received ++ channel.queue

variable {channel value} {next : Channel α}

theorem accepted_try_send (channel : Channel α) (value : α) :
    (channel.trySend value).accepted =
      if channel.hasRoom = true then channel.accepted ++ [value] else channel.accepted := by
  unfold trySend accepted
  split
  next => simp
  next => rfl

theorem mem_accepted_try_send {other : α} (h : other ∈ channel.accepted) (value : α) :
    other ∈ (channel.trySend value).accepted := by
  rw [accepted_try_send]
  split
  next => exact List.mem_append_left _ h
  next => exact h

@[simp] theorem is_open_try_send (channel : Channel α) (value : α) :
    (channel.trySend value).isOpen = channel.isOpen := by
  unfold trySend
  split <;> rfl

theorem accepted_of_receive (h : channel.receive = some next) :
    next.accepted = channel.accepted ∧ next.isOpen = channel.isOpen := by
  unfold receive at h
  split at h
  next => cases h
  next value rest hqueue =>
    cases h
    exact ⟨by simp [accepted, hqueue], rfl⟩

@[simp] theorem accepted_close (channel : Channel α) : channel.close.accepted = channel.received := by
  simp [accepted, close]

theorem mem_accepted_of_received (h : value ∈ channel.received) : value ∈ channel.accepted :=
  List.mem_append_left _ h

end Channel
