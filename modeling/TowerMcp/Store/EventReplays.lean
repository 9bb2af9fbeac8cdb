import Mathlib.Data.List.DropRight
import TowerMcp.Store.Events

/-!
# What the memory store replays

Over any run of appends and purges the buffer of a session is an end of what was appended to the
session since it was last purged. A full buffer evicts before it takes an event, so the buffer of a
store whose capacity is zero holds one event.
-/

namespace TowerMcp

namespace MemoryEventStore

inductive Change where
  | append (session : String) (event : EventRecord)
  | purgeSession (session : String)

def withCapacity (maxEventsPerSession : ℕ) : MemoryEventStore :=
  { maxEventsPerSession }

def apply (store : MemoryEventStore) : Change → MemoryEventStore
  | .append session event => store.append session event
  | .purgeSession session => store.purgeSession session

def after (capacity : ℕ) (changes : List Change) : MemoryEventStore :=
  changes.foldl apply (withCapacity capacity)

def appendedNext (session : String) (events : List EventRecord) : Change → List EventRecord
  | .append other event => if other = session then events ++ [event] else events
  | .purgeSession other => if other = session then [] else events

def appended (changes : List Change) (session : String) : List EventRecord :=
  changes.foldl (appendedNext session) []

/-- Every replay is the one of the last `capacity` events of the session that were appended since it
was last purged, and no session has more than `capacity` events. -/
def ReplaysExact (capacity : ℕ) (changes : List Change) : Prop :=
  ∀ session, ((after capacity changes).buffer session).length ≤ capacity ∧
    ∀ afterId, (after capacity changes).replayAfter session afterId =
      ((appended changes session).rtake capacity).filter fun event => decide (event.id > afterId)

/-! ## Buffers -/

theorem capacity_apply (store : MemoryEventStore) (change : Change) :
    (store.apply change).maxEventsPerSession = store.maxEventsPerSession := by
  cases change <;> rfl

theorem capacity_after (capacity : ℕ) (changes : List Change) :
    (after capacity changes).maxEventsPerSession = capacity := by
  induction changes using List.reverseRecOn with
  | nil => rfl
  | append_singleton changes change ih =>
    rw [after, List.foldl_concat, capacity_apply]
    exact ih

theorem buffer_append (store : MemoryEventStore) (session : String) (event : EventRecord) :
    (store.append session event).buffer session =
      (if (store.buffer session).length ≥ store.maxEventsPerSession then
        (store.buffer session).tail else store.buffer session) ++ [event] := by
  simp [append, buffer]

theorem rtake_concat {α : Type*} (capacity : ℕ) (events : List α) (event : α) :
    (if (events.rtake (max capacity 1)).length ≥ capacity then
        (events.rtake (max capacity 1)).tail else events.rtake (max capacity 1)) ++ [event] =
      (events ++ [event]).rtake (max capacity 1) := by
  have hlength : (events.rtake (max capacity 1)).length = min events.length (max capacity 1) := by
    rw [List.rtake, List.length_drop]
    omega
  have hconcat : (events ++ [event]).rtake (max capacity 1) =
      events.drop (events.length + 1 - max capacity 1) ++ [event] := by
    rw [List.rtake, List.length_append, List.length_singleton,
      List.drop_append_of_le_length (by omega)]
  rw [hconcat, hlength, List.rtake, List.tail_drop]
  split
  next hfull =>
    by_cases hempty : events.length = 0
    · obtain rfl := List.length_eq_zero_iff.1 hempty
      simp
    · have hindex : events.length - max capacity 1 + 1 = events.length + 1 - max capacity 1 := by
        omega
      rw [hindex]
  next hroom =>
    have hindex : events.length - max capacity 1 = events.length + 1 - max capacity 1 := by omega
    rw [hindex]

theorem buffer_after (capacity : ℕ) (changes : List Change) (session : String) :
    (after capacity changes).buffer session =
      (appended changes session).rtake (max capacity 1) := by
  induction changes using List.reverseRecOn with
  | nil => exact (List.rtake_nil _).symm
  | append_singleton changes change ih =>
    rw [after, appended, List.foldl_concat, List.foldl_concat]
    rw [after, appended] at ih
    cases change with
    | append other event =>
      by_cases hother : other = session
      · subst hother
        have hcapacity := capacity_after capacity changes
        rw [after] at hcapacity
        rw [apply, buffer_append, ih, hcapacity, appendedNext, if_pos rfl]
        exact rtake_concat capacity _ event
      · rw [apply, buffer_append_of_ne (Ne.symm hother), appendedNext, if_neg hother]
        exact ih
    | purgeSession other =>
      rw [apply, buffer_purge_session, appendedNext]
      by_cases hother : other = session
      · rw [if_pos hother.symm, if_pos hother, List.rtake_nil]
      · rw [if_neg (Ne.symm hother), if_neg hother]
        exact ih

/-! ## Replays -/

/-- Over every run the replays are exact and within the capacity exactly when the capacity is not
zero, or no session has an event that was appended since it was last purged. -/
theorem replays_exact_iff (capacity : ℕ) (changes : List Change) :
    ReplaysExact capacity changes ↔
      0 < capacity ∨ ∀ session, appended changes session = [] := by
  constructor
  · intro hexact
    by_contra hnot
    obtain ⟨hcapacity, hevents⟩ := not_or.1 hnot
    obtain ⟨session, hsession⟩ := not_forall.1 hevents
    obtain ⟨hbound, -⟩ := hexact session
    rw [buffer_after, List.rtake, List.length_drop] at hbound
    have hlength := List.length_pos_iff.2 hsession
    omega
  · intro hcondition session
    have hbuffer : (after capacity changes).buffer session =
        (appended changes session).rtake capacity := by
      rw [buffer_after]
      rcases hcondition with hcapacity | hempty
      · rw [Nat.max_eq_left hcapacity]
      · rw [hempty session, List.rtake_nil, List.rtake_nil]
    refine ⟨?_, fun afterId => ?_⟩
    · rw [hbuffer, List.rtake, List.length_drop]
      omega
    · rw [replayAfter, hbuffer]

/-- A store whose capacity is zero keeps one event. -/
theorem zero_capacity_keeps_one : ¬ ReplaysExact 0 [.append "s" ⟨1, "e1", 0⟩] := by
  intro hexact
  have hbound := (hexact "s").1
  rw [buffer_after] at hbound
  simp [appended, appendedNext, List.rtake] at hbound

end MemoryEventStore

end TowerMcp
