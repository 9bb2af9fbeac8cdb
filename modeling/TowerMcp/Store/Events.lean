import Mathlib.Data.List.Perm.Basic
import TowerMcp.Lib.Fallible
import TowerMcp.Lib.FinMap

/-!
# Event stores

The in-memory event store keeps the last events of each session in a ring buffer. The transport
appends the events of a session with increasing identifiers, so every buffer is `Increasing`, and a
replay is a piece of the buffer.
-/

namespace TowerMcp

open Fallible

structure EventRecord where
  id : ℕ
  data : String
  timestamp : ℕ
deriving DecidableEq

inductive EventStoreError where
  | encode (message : String)
  | decode (message : String)
  | backend (message : String)
deriving DecidableEq

structure MemoryEventStore where
  inner : FinMap String (List EventRecord) := ∅
  maxEventsPerSession : ℕ := 1000

namespace MemoryEventStore

def buffer (store : MemoryEventStore) (session : String) : List EventRecord :=
  (store.inner.lookup session).getD []

def append (store : MemoryEventStore) (session : String) (event : EventRecord) :
    MemoryEventStore :=
  let buf := store.buffer session
  let kept := if buf.length ≥ store.maxEventsPerSession then buf.tail else buf
  { store with inner := store.inner.insert session (kept ++ [event]) }

/-- The buffered events with an identifier above `afterId`, in order. -/
def replayAfter (store : MemoryEventStore) (session : String) (afterId : ℕ) : List EventRecord :=
  (store.buffer session).filter fun event => decide (event.id > afterId)

def purgeSession (store : MemoryEventStore) (session : String) : MemoryEventStore :=
  { store with inner := store.inner.erase session }

variable {store : MemoryEventStore} {session other : String} {event : EventRecord} {afterId : ℕ}

theorem buffer_append_self (store : MemoryEventStore) (session : String) (event : EventRecord) :
    ∃ kept, kept.Sublist (store.buffer session) ∧
      (store.append session event).buffer session = kept ++ [event] := by
  refine ⟨if (store.buffer session).length ≥ store.maxEventsPerSession then
    (store.buffer session).tail else store.buffer session, ?_, ?_⟩
  · split
    · exact List.tail_sublist _
    · exact List.Sublist.refl _
  · unfold append buffer
    simp

theorem buffer_append_of_ne (h : other ≠ session) :
    (store.append session event).buffer other = store.buffer other := by
  unfold append buffer
  simp only [FinMap.lookup_insert_eq_ite, if_neg h]

theorem buffer_purge_session :
    (store.purgeSession session).buffer other =
      if other = session then [] else store.buffer other := by
  unfold purgeSession buffer
  rw [FinMap.lookup_erase_eq_ite]
  split
  · rfl
  · rfl

theorem mem_replay_after_iff :
    event ∈ store.replayAfter session afterId ↔
      event ∈ store.buffer session ∧ afterId < event.id := by
  simp [replayAfter]

theorem replay_after_eq_nil_iff :
    store.replayAfter session afterId = [] ↔
      ∀ event ∈ store.buffer session, event.id ≤ afterId := by
  simp [replayAfter, List.filter_eq_nil_iff]

def Increasing (store : MemoryEventStore) : Prop :=
  ∀ session, (store.buffer session).Pairwise fun a b => a.id < b.id

theorem increasing_empty (capacity : ℕ) :
    Increasing { inner := ∅, maxEventsPerSession := capacity } := by
  intro session
  exact List.Pairwise.nil

theorem Increasing.append (h : store.Increasing)
    (hnew : ∀ e ∈ store.buffer session, e.id < event.id) :
    (store.append session event).Increasing := by
  intro other
  by_cases hother : other = session
  · subst hother
    obtain ⟨kept, hkept, hbuffer⟩ := buffer_append_self store other event
    rw [hbuffer, List.pairwise_append]
    refine ⟨(h other).sublist hkept, List.pairwise_singleton _ _, ?_⟩
    intro a ha b hb
    rw [List.mem_singleton.1 hb]
    exact hnew a (hkept.subset ha)
  · rw [buffer_append_of_ne hother]
    exact h other

theorem Increasing.purge_session (h : store.Increasing) (session : String) :
    (store.purgeSession session).Increasing := by
  intro other
  rw [buffer_purge_session]
  split
  · exact List.Pairwise.nil
  · exact h other

theorem Increasing.replay_after (h : store.Increasing) (session : String) (afterId : ℕ) :
    (store.replayAfter session afterId).Pairwise fun a b => a.id < b.id :=
  (h session).sublist List.filter_sublist

end MemoryEventStore

theorem eq_of_increasing {first second : List EventRecord}
    (hfirst : first.Pairwise fun a b => a.id < b.id)
    (hsecond : second.Pairwise fun a b => a.id < b.id)
    (hmem : ∀ event, event ∈ first ↔ event ∈ second) : first = second := by
  have hnodup : ∀ {events : List EventRecord}, (events.Pairwise fun a b => a.id < b.id) →
      events.Nodup := by
    intro events h
    refine h.imp ?_
    rintro a b hlt rfl
    exact lt_irrefl _ hlt
  have hperm : first.Perm second :=
    (List.perm_ext_iff_of_nodup (hnodup hfirst) (hnodup hsecond)).2 hmem
  refine hperm.eq_of_pairwise ?_ hfirst hsecond
  intro a b _ _ hab hba
  exact absurd (lt_trans hab hba) (lt_irrefl _)

end TowerMcp
