import TowerMcp.Lib.Execution
import TowerMcp.Store.Events

/-!
# A caching event store

`CachingEventStore` writes to its backend and then to its cache, and replays from the cache as soon
as the cache has any event above the bound. The two tiers evict, fail and are purged apart from each
other, so what the cache has may be a part of what the backend has.
-/

namespace TowerMcp

open Execution Fallible

structure CachingEventStore where
  cache : MemoryEventStore
  store : MemoryEventStore

namespace CachingEventStore

def append (tiers : CachingEventStore) (session : String) (event : EventRecord)
    (storeWrite cacheWrite : Outcome EventStoreError) :
    Except EventStoreError Unit × CachingEventStore :=
  let store := storeWrite.write (·.append session event) tiers.store
  match storeWrite.result with
  | .error e => (.error e, { tiers with store })
  | .ok () =>
    (cacheWrite.result,
      { cache := cacheWrite.write (·.append session event) tiers.cache, store })

def warm (session : String) :
    MemoryEventStore → List EventRecord → List (Outcome EventStoreError) → MemoryEventStore
  | cache, [], _ => cache
  | cache, event :: rest, writes =>
    warm session ((writes.headD .done).write (·.append session event) cache) rest writes.tail

def backendReplay (tiers : CachingEventStore) (session : String) (afterId : ℕ)
    (storeRead : Option EventStoreError) : Except EventStoreError (List EventRecord) :=
  match storeRead with
  | some e => .error e
  | none => .ok (tiers.store.replayAfter session afterId)

def replayAfter (tiers : CachingEventStore) (session : String) (afterId : ℕ)
    (cacheRead storeRead : Option EventStoreError) (warmWrites : List (Outcome EventStoreError)) :
    Except EventStoreError (List EventRecord) × CachingEventStore :=
  match cacheRead with
  | some e => (.error e, tiers)
  | none =>
    let cached := tiers.cache.replayAfter session afterId
    if cached ≠ [] then (.ok cached, tiers)
    else
      match tiers.backendReplay session afterId storeRead with
      | .error e => (.error e, tiers)
      | .ok fromStore =>
        (.ok fromStore, { tiers with cache := warm session tiers.cache fromStore warmWrites })

def purgeSession (tiers : CachingEventStore) (session : String)
    (cacheWrite storeWrite : Outcome EventStoreError) :
    Except EventStoreError Unit × CachingEventStore :=
  (do cacheWrite.result
      storeWrite.result,
    { cache := cacheWrite.write (·.purgeSession session) tiers.cache
      store := storeWrite.write (·.purgeSession session) tiers.store })

inductive Call where
  | append (session : String) (event : EventRecord) (storeWrite cacheWrite : Outcome EventStoreError)
  | replayAfter (session : String) (afterId : ℕ) (cacheRead storeRead : Option EventStoreError)
      (warmWrites : List (Outcome EventStoreError))
  | purgeSession (session : String) (cacheWrite storeWrite : Outcome EventStoreError)

def step (tiers : CachingEventStore) : Call → Option CachingEventStore
  | .append session event storeWrite cacheWrite =>
    some (tiers.append session event storeWrite cacheWrite).2
  | .replayAfter session afterId cacheRead storeRead warmWrites =>
    some (tiers.replayAfter session afterId cacheRead storeRead warmWrites).2
  | .purgeSession session cacheWrite storeWrite =>
    some (tiers.purgeSession session cacheWrite storeWrite).2

structure Increasing (tiers : CachingEventStore) : Prop where
  cache : tiers.cache.Increasing
  store : tiers.store.Increasing

def AppendsIncrease (tiers : CachingEventStore) : Call → Prop
  | .append session event _ _ =>
    (∀ e ∈ tiers.cache.buffer session, e.id < event.id) ∧
      ∀ e ∈ tiers.store.buffer session, e.id < event.id
  | _ => True

def ReplayExact (tiers : CachingEventStore) : Call → Prop
  | .replayAfter session afterId cacheRead storeRead warmWrites =>
    (tiers.replayAfter session afterId cacheRead storeRead warmWrites).1 =
      tiers.backendReplay session afterId storeRead
  | _ => True

def SameAbove (tiers : CachingEventStore) (session : String) (afterId : ℕ) : Prop :=
  (∀ event ∈ tiers.cache.buffer session, afterId < event.id →
      event ∈ tiers.store.buffer session) ∧
    ∀ event ∈ tiers.store.buffer session, afterId < event.id →
      event ∈ tiers.cache.buffer session

/-- A replay finds the cache readable and either without any event above the bound or, with the
backend readable too, holding the same events above the bound as the backend. An unreadable cache is
harmless only where the backend fails the same way. -/
def ReplayFaithful (tiers : CachingEventStore) : Call → Prop
  | .replayAfter session afterId cacheRead storeRead _ =>
    match cacheRead with
    | some e => storeRead = some e
    | none =>
      (∀ event ∈ tiers.cache.buffer session, event.id ≤ afterId) ∨
        storeRead = none ∧ tiers.SameAbove session afterId
  | _ => True

/-! ## One call -/

theorem increasing_warm (session : String) {cache : MemoryEventStore} {events : List EventRecord}
    (hcache : cache.Increasing) (hevents : events.Pairwise fun a b => a.id < b.id)
    (habove : ∀ e ∈ cache.buffer session, ∀ event ∈ events, e.id < event.id)
    (writes : List (Outcome EventStoreError)) : (warm session cache events writes).Increasing := by
  induction events generalizing cache writes with
  | nil => exact hcache
  | cons event rest ih =>
    obtain ⟨hfirst, hrest⟩ := List.pairwise_cons.1 hevents
    unfold warm
    rcases (writes.headD .done).write_cases (·.append session event) cache with
      ⟨_, hwrite⟩ | ⟨_, hwrite⟩
    · rw [hwrite]
      refine ih ?_ hrest ?_ writes.tail
      · exact hcache.append fun e he => habove e he event List.mem_cons_self
      · intro e he later hlater
        obtain ⟨kept, hkept, hbuffer⟩ := cache.buffer_append_self session event
        rw [hbuffer, List.mem_append, List.mem_singleton] at he
        rcases he with he | rfl
        · exact habove e (hkept.subset he) later (List.mem_cons_of_mem event hlater)
        · exact hfirst later hlater
    · rw [hwrite]
      refine ih hcache hrest ?_ writes.tail
      exact fun e he later hlater => habove e he later (List.mem_cons_of_mem event hlater)

variable {call : Call}

theorem increasing_step {tiers next : CachingEventStore} (h : tiers.Increasing)
    (happend : tiers.AppendsIncrease call) (hstep : tiers.step call = some next) :
    next.Increasing := by
  obtain ⟨hcache, hstore⟩ := h
  cases call with
  | append session event storeWrite cacheWrite =>
    obtain ⟨hnewCache, hnewStore⟩ := happend
    cases hstep
    have hstore' : (storeWrite.write (·.append session event) tiers.store).Increasing := by
      rcases storeWrite.write_cases (·.append session event) tiers.store with
        ⟨_, hwrite⟩ | ⟨_, hwrite⟩
      · rw [hwrite]
        exact hstore.append hnewStore
      · rw [hwrite]
        exact hstore
    have hcache' : (cacheWrite.write (·.append session event) tiers.cache).Increasing := by
      rcases cacheWrite.write_cases (·.append session event) tiers.cache with
        ⟨_, hwrite⟩ | ⟨_, hwrite⟩
      · rw [hwrite]
        exact hcache.append hnewCache
      · rw [hwrite]
        exact hcache
    unfold append
    dsimp only
    split
    · exact ⟨hcache, hstore'⟩
    · exact ⟨hcache', hstore'⟩
  | replayAfter session afterId cacheRead storeRead warmWrites =>
    cases hstep
    unfold replayAfter
    split
    · exact ⟨hcache, hstore⟩
    · dsimp only
      split
      · exact ⟨hcache, hstore⟩
      · rename_i hmiss
        split
        · exact ⟨hcache, hstore⟩
        · rename_i fromStore hread
          -- a miss leaves only events up to the bound in the cache, and the backend replayed
          -- events above it
          have hnone := MemoryEventStore.replay_after_eq_nil_iff.1 (not_not.1 hmiss)
          have hreplay : fromStore = tiers.store.replayAfter session afterId := by
            cases storeRead with
            | none => exact (Except.ok.inj hread).symm
            | some e => cases hread
          subst hreplay
          refine ⟨increasing_warm session hcache (hstore.replay_after session afterId) ?_ _,
            hstore⟩
          intro e he event hevent
          exact lt_of_le_of_lt (hnone e he)
            (MemoryEventStore.mem_replay_after_iff.1 hevent).2
  | purgeSession session cacheWrite storeWrite =>
    cases hstep
    constructor
    · show (cacheWrite.write (·.purgeSession session) tiers.cache).Increasing
      rcases cacheWrite.write_cases (·.purgeSession session) tiers.cache with
        ⟨_, hwrite⟩ | ⟨_, hwrite⟩
      · rw [hwrite]
        exact hcache.purge_session session
      · rw [hwrite]
        exact hcache
    · show (storeWrite.write (·.purgeSession session) tiers.store).Increasing
      rcases storeWrite.write_cases (·.purgeSession session) tiers.store with
        ⟨_, hwrite⟩ | ⟨_, hwrite⟩
      · rw [hwrite]
        exact hstore.purge_session session
      · rw [hwrite]
        exact hstore

variable {tiers : CachingEventStore}

theorem replay_after_eq_iff (h : tiers.Increasing) {session : String} {afterId : ℕ} :
    tiers.cache.replayAfter session afterId = tiers.store.replayAfter session afterId ↔
      tiers.SameAbove session afterId := by
  constructor
  · intro heq
    have hmem : ∀ event, event ∈ tiers.cache.replayAfter session afterId ↔
        event ∈ tiers.store.replayAfter session afterId := by
      intro event
      rw [heq]
    simp only [MemoryEventStore.mem_replay_after_iff] at hmem
    exact ⟨fun event hcache hid => ((hmem event).1 ⟨hcache, hid⟩).1,
      fun event hstore hid => ((hmem event).2 ⟨hstore, hid⟩).1⟩
  · rintro ⟨hcacheStore, hstoreCache⟩
    refine eq_of_increasing (h.cache.replay_after session afterId)
      (h.store.replay_after session afterId) ?_
    intro event
    rw [MemoryEventStore.mem_replay_after_iff, MemoryEventStore.mem_replay_after_iff]
    constructor
    · rintro ⟨hmem, hid⟩
      exact ⟨hcacheStore event hmem hid, hid⟩
    · rintro ⟨hmem, hid⟩
      exact ⟨hstoreCache event hmem hid, hid⟩

theorem replay_exact_iff (h : tiers.Increasing) (call : Call) :
    tiers.ReplayExact call ↔ tiers.ReplayFaithful call := by
  cases call with
  | append session event storeWrite cacheWrite => exact Iff.rfl
  | purgeSession session cacheWrite storeWrite => exact Iff.rfl
  | replayAfter session afterId cacheRead storeRead warmWrites =>
    unfold ReplayExact ReplayFaithful replayAfter
    cases cacheRead with
    | some e =>
      cases storeRead with
      | none => simp [backendReplay]
      | some e' => simp [backendReplay, eq_comm]
    | none =>
      dsimp only
      rw [← MemoryEventStore.replay_after_eq_nil_iff, ← replay_after_eq_iff h]
      by_cases hmiss : tiers.cache.replayAfter session afterId = []
      · -- on a miss the answer is the backend's, an error included
        simp only [hmiss, ne_eq, not_true_eq_false, if_false, true_or, iff_true]
        split
        · rename_i e hread
          exact hread.symm
        · rename_i fromStore hread
          exact hread.symm
      · simp only [ne_eq, hmiss, not_false_eq_true, if_true, false_or]
        cases storeRead with
        | none => simp [backendReplay]
        | some e => simp [backendReplay]

/-! ## Runs -/

instance (tiers : CachingEventStore) (call : Call) : Decidable (tiers.AppendsIncrease call) := by
  cases call <;> unfold AppendsIncrease <;> infer_instance

instance (tiers : CachingEventStore) (call : Call) : Decidable (tiers.ReplayExact call) := by
  cases call <;> unfold ReplayExact <;> infer_instance

instance (tiers : CachingEventStore) (session : String) (afterId : ℕ) :
    Decidable (tiers.SameAbove session afterId) := by
  unfold SameAbove
  infer_instance

instance (tiers : CachingEventStore) (call : Call) : Decidable (tiers.ReplayFaithful call) := by
  cases call with
  | append session event storeWrite cacheWrite => exact .isTrue trivial
  | purgeSession session cacheWrite storeWrite => exact .isTrue trivial
  | replayAfter session afterId cacheRead storeRead warmWrites =>
    unfold ReplayFaithful
    cases cacheRead <;> infer_instance

def smallCache : CachingEventStore where
  cache := { maxEventsPerSession := 1 }
  store := { maxEventsPerSession := 2 }

theorem increasing_small_cache : smallCache.Increasing :=
  ⟨MemoryEventStore.increasing_empty 1, MemoryEventStore.increasing_empty 2⟩

/-- The calls that buffer the events 1 and 2 of a session and replay it from `afterId`. -/
def twoEventsThenReplay (afterId : ℕ) : List Call :=
  [.append "s" { id := 1, data := "a", timestamp := 0 } .done .done,
    .append "s" { id := 2, data := "b", timestamp := 0 } .done .done,
    .replayAfter "s" afterId none none []]

/-- A cache of one event answers a replay of two with the last of them. -/
theorem small_cache_replays_suffix :
    ¬ ∀ (tiers : CachingEventStore) (calls : List Call), tiers.Increasing →
      Along step AppendsIncrease tiers calls →
      Along step ReplayExact tiers calls := by
  intro h
  have hexact := h smallCache (twoEventsThenReplay 0) increasing_small_cache (by decide +kernel)
  revert hexact
  decide +kernel

/-- Along a run that appends with increasing identifiers, every replay is the backend's exactly when
every replay is made faithfully. -/
theorem replays_exact_iff_faithful {tiers : CachingEventStore} {calls : List Call}
    (h : tiers.Increasing) (happend : Along step AppendsIncrease tiers calls) :
    Along step ReplayExact tiers calls ↔
      Along step ReplayFaithful tiers calls :=
  along_congr (fun _ _ _ hI hD hstep => increasing_step hI hD hstep)
    (fun _ call hI _ => replay_exact_iff hI call) h happend

theorem small_cache_replays_rest :
    Along step ReplayExact smallCache (twoEventsThenReplay 1) :=
  (replays_exact_iff_faithful increasing_small_cache (by decide +kernel)).2 (by decide +kernel)

end CachingEventStore

end TowerMcp
