import TowerMcp.Store.Sessions

/-!
# A caching session store

`CachingSessionStore` writes to its backend and then to its cache, deletes from its cache and then
from its backend, and loads from the cache first. A call on a tier may fail before or after its
effect.
-/

namespace TowerMcp

open Execution Fallible

structure CachingSessionStore where
  cache : MemorySessionStore := ∅
  store : MemorySessionStore := ∅

namespace CachingSessionStore

def save (tiers : CachingSessionStore) (record : SessionRecord)
    (storeWrite cacheWrite : Outcome SessionStoreError) :
    Except SessionStoreError Unit × CachingSessionStore :=
  let store := storeWrite.write (MemorySessionStore.save · record) tiers.store
  match storeWrite.result with
  | .error e => (.error e, { tiers with store })
  | .ok () => (cacheWrite.result, { cache := cacheWrite.write (MemorySessionStore.save · record) tiers.cache, store })

def create (tiers : CachingSessionStore) (record : SessionRecord) (generated : List String)
    (storeWrite cacheWrite : Outcome SessionStoreError) :
    Option (Except SessionStoreError SessionRecord × CachingSessionStore) :=
  (MemorySessionStore.create tiers.store record generated).map fun (record, created) =>
    let store := storeWrite.write (fun _ => created) tiers.store
    match storeWrite.result with
    | .error e => (.error e, { tiers with store })
    | .ok () =>
      (cacheWrite.result.map fun _ => record,
        { cache := cacheWrite.write (MemorySessionStore.save · record) tiers.cache, store })

def load (tiers : CachingSessionStore) (id : String) (cacheClock storeClock : ℕ)
    (cacheRead storeRead : Option SessionStoreError) (cacheWrite : Outcome SessionStoreError) :
    Except SessionStoreError (Option SessionRecord) × CachingSessionStore :=
  match cacheRead with
  | some e => (.error e, tiers)
  | none =>
    match MemorySessionStore.load tiers.cache id cacheClock with
    | some record => (.ok (some record), tiers)
    | none =>
      match storeRead with
      | some e => (.error e, tiers)
      | none =>
        match MemorySessionStore.load tiers.store id storeClock with
        | some record =>
          (.ok (some record),
            { tiers with cache := cacheWrite.write (MemorySessionStore.save · record) tiers.cache })
        | none => (.ok none, tiers)

def delete (tiers : CachingSessionStore) (id : String)
    (cacheWrite storeWrite : Outcome SessionStoreError) :
    Except SessionStoreError Unit × CachingSessionStore :=
  (do cacheWrite.result
      storeWrite.result,
    { cache := cacheWrite.write (MemorySessionStore.delete · id) tiers.cache
      store := storeWrite.write (MemorySessionStore.delete · id) tiers.store })

structure World where
  tiers : CachingSessionStore := {}
  cleaned : ℕ := 0

inductive Call where
  | create (record : SessionRecord) (generated : List String)
      (storeWrite cacheWrite : Outcome SessionStoreError)
  | save (record : SessionRecord) (storeWrite cacheWrite : Outcome SessionStoreError)
  | load (id : String) (cacheClock storeClock : ℕ) (cacheRead storeRead : Option SessionStoreError)
      (cacheWrite : Outcome SessionStoreError)
  | delete (id : String) (cacheWrite storeWrite : Outcome SessionStoreError)
  | cleanupCache (now : ℕ)
  | cleanupStore (now : ℕ)

def step (world : World) : Call → Option World
  | .create record generated storeWrite cacheWrite =>
    (world.tiers.create record generated storeWrite cacheWrite).map fun (_, tiers) =>
      { world with tiers }
  | .save record storeWrite cacheWrite =>
    some { world with tiers := (world.tiers.save record storeWrite cacheWrite).2 }
  | .load id cacheClock storeClock cacheRead storeRead cacheWrite =>
    some { world with
      tiers := (world.tiers.load id cacheClock storeClock cacheRead storeRead cacheWrite).2 }
  | .delete id cacheWrite storeWrite =>
    some { world with tiers := (world.tiers.delete id cacheWrite storeWrite).2 }
  | .cleanupCache now =>
    some { world with
      tiers := { world.tiers with
        cache := MemorySessionStore.cleanupExpired world.tiers.cache now } }
  | .cleanupStore now =>
    some
      { tiers := { world.tiers with
          store := MemorySessionStore.cleanupExpired world.tiers.store now }
        cleaned := max world.cleaned now }

/-- No load made now returns anything but the backend's current record: nothing the backend has
deleted and nothing it has replaced. The clock does not go back behind a cleanup. -/
def LoadsCurrent (world : World) : Prop :=
  ∀ id cacheClock storeClock cacheRead storeRead cacheWrite record,
    world.cleaned ≤ cacheClock →
    (world.tiers.load id cacheClock storeClock cacheRead storeRead cacheWrite).1 =
        .ok (some record) →
      world.tiers.store.get id = some record

/-- The cache holds nothing live under an identifier but possibly `record`. -/
def CacheClearBut (world : World) (id : String) (record : Option SessionRecord) : Prop :=
  ∀ cached, world.tiers.cache.get id = some cached →
    record = some cached ∨ cached.expiresAt ≤ world.cleaned

def WritesReach (world : World) : Call → Prop
  | .create record generated storeWrite cacheWrite =>
    ∀ created after,
      MemorySessionStore.create world.tiers.store record generated = some (created, after) →
        storeWrite.applies = true → storeWrite = .done ∧ cacheWrite.applies = true ∨
          CacheClearBut world created.id (some created)
  | .save record storeWrite cacheWrite =>
    storeWrite.applies = true → storeWrite = .done ∧ cacheWrite.applies = true ∨
      CacheClearBut world record.id (some record)
  | .delete id cacheWrite storeWrite =>
    storeWrite.applies = true → cacheWrite.applies = true ∨ CacheClearBut world id none
  | _ => True

/-! ## What a load trusts -/

def Coherent (world : World) : Prop :=
  ∀ id cached, world.tiers.cache.get id = some cached →
    world.tiers.store.get id = some cached ∨ cached.expiresAt ≤ world.cleaned

variable {world : World}

theorem loads_current_iff_coherent : LoadsCurrent world ↔ Coherent world := by
  constructor
  · intro h id cached hcached
    by_contra hnot
    obtain ⟨hstale, hlive⟩ := not_or.1 hnot
    have hload : MemorySessionStore.load world.tiers.cache id world.cleaned = some cached :=
      MemorySessionStore.load_eq_some_iff.2 ⟨hcached, not_le.1 hlive⟩
    refine hstale (h id world.cleaned 0 none none .done cached le_rfl ?_)
    simp only [load, hload]
  · intro h id cacheClock storeClock cacheRead storeRead cacheWrite record hclock hload
    unfold load at hload
    split at hload
    · cases hload
    · split at hload
      · rename_i cached hcached
        obtain rfl : cached = record := by simpa using hload
        obtain ⟨hget, hlive⟩ := MemorySessionStore.load_eq_some_iff.1 hcached
        rcases h id cached hget with hstore | hexpired
        · exact hstore
        · omega
      · split at hload
        · cases hload
        · split at hload
          · rename_i found hfound
            obtain rfl : found = record := by simpa using hload
            exact (MemorySessionStore.load_eq_some_iff.1 hfound).1
          · cases hload

/-! ## One call -/

theorem coherent_iff_at (h : Coherent world) (tiers : CachingSessionStore) (id : String)
    (hcache : ∀ other, other ≠ id → tiers.cache.get other = world.tiers.cache.get other)
    (hstore : ∀ other, other ≠ id → tiers.store.get other = world.tiers.store.get other) :
    Coherent { world with tiers } ↔ ∀ cached, tiers.cache.get id = some cached →
      tiers.store.get id = some cached ∨ cached.expiresAt ≤ world.cleaned := by
  constructor
  · intro hnext cached
    exact hnext id cached
  · intro hid other cached hcached
    by_cases hother : other = id
    · subst hother
      exact hid cached hcached
    · show tiers.store.get other = some cached ∨ cached.expiresAt ≤ world.cleaned
      have hcached' : tiers.cache.get other = some cached := hcached
      rw [hstore other hother]
      rw [hcache other hother] at hcached'
      exact h other cached hcached'

theorem get_save_tiers (tiers : CachingSessionStore) (record : SessionRecord)
    (storeWrite cacheWrite : Outcome SessionStoreError) (id : String) :
    (tiers.save record storeWrite cacheWrite).2.store.get id =
        (if storeWrite.applies = true ∧ id = record.id then some record
          else tiers.store.get id) ∧
      (tiers.save record storeWrite cacheWrite).2.cache.get id =
        if (storeWrite = .done ∧ cacheWrite.applies = true) ∧ id = record.id then some record
          else tiers.cache.get id := by
  unfold save
  cases storeWrite with
  | refused e => simp
  | lost e => simp [MemorySessionStore.get_save]
  | done =>
    simp only [Outcome.result_done, Outcome.write_done, Outcome.applies_done, true_and,
      MemorySessionStore.get_save]
    rcases cacheWrite.write_cases (MemorySessionStore.save · record) tiers.cache with
      ⟨happlies, hwrite⟩ | ⟨happlies, hwrite⟩
    · simp [hwrite, happlies, MemorySessionStore.get_save]
    · simp [hwrite, happlies]

theorem coherent_save_iff (h : Coherent world) (record : SessionRecord)
    (storeWrite cacheWrite : Outcome SessionStoreError) :
    Coherent { world with tiers := (world.tiers.save record storeWrite cacheWrite).2 } ↔
      (storeWrite.applies = true → storeWrite = .done ∧ cacheWrite.applies = true ∨
        CacheClearBut world record.id (some record)) := by
  have hget := get_save_tiers world.tiers record storeWrite cacheWrite
  refine (coherent_iff_at h _ record.id (fun other hother => ?_)
    (fun other hother => ?_)).trans ?_
  · rw [(hget other).2, if_neg fun hboth => hother hboth.2]
  · rw [(hget other).1, if_neg fun hboth => hother hboth.2]
  rw [(hget record.id).1, (hget record.id).2]
  simp only [and_true]
  by_cases hstore : storeWrite.applies = true
  · by_cases hcache : storeWrite = .done ∧ cacheWrite.applies = true
    · simp [hcache]
    · simp only [hstore, hcache, if_true, if_false, true_implies, false_or]
      rfl
  · simp only [hstore, Bool.false_eq_true, if_false, false_implies, iff_true]
    have hnot : ¬ (storeWrite = .done ∧ cacheWrite.applies = true) := by
      rintro ⟨rfl, _⟩
      exact hstore rfl
    intro cached hcached
    rw [if_neg hnot] at hcached
    exact h record.id cached hcached

theorem get_delete_tiers (tiers : CachingSessionStore) (removed : String)
    (cacheWrite storeWrite : Outcome SessionStoreError) (id : String) :
    (tiers.delete removed cacheWrite storeWrite).2.store.get id =
        (if storeWrite.applies = true ∧ id = removed then none else tiers.store.get id) ∧
      (tiers.delete removed cacheWrite storeWrite).2.cache.get id =
        if cacheWrite.applies = true ∧ id = removed then none else tiers.cache.get id := by
  unfold delete
  constructor
  · rcases storeWrite.write_cases (MemorySessionStore.delete · removed) tiers.store with
      ⟨happlies, hwrite⟩ | ⟨happlies, hwrite⟩
    · simp [hwrite, happlies, MemorySessionStore.get_delete]
    · simp [hwrite, happlies]
  · rcases cacheWrite.write_cases (MemorySessionStore.delete · removed) tiers.cache with
      ⟨happlies, hwrite⟩ | ⟨happlies, hwrite⟩
    · simp [hwrite, happlies, MemorySessionStore.get_delete]
    · simp [hwrite, happlies]

theorem coherent_delete_iff (h : Coherent world) (id : String)
    (cacheWrite storeWrite : Outcome SessionStoreError) :
    Coherent { world with tiers := (world.tiers.delete id cacheWrite storeWrite).2 } ↔
      (storeWrite.applies = true → cacheWrite.applies = true ∨ CacheClearBut world id none) := by
  have hget := get_delete_tiers world.tiers id cacheWrite storeWrite
  refine (coherent_iff_at h _ id (fun other hother => ?_)
    (fun other hother => ?_)).trans ?_
  · rw [(hget other).2, if_neg fun hboth => hother hboth.2]
  · rw [(hget other).1, if_neg fun hboth => hother hboth.2]
  rw [(hget id).1, (hget id).2]
  simp only [and_true]
  by_cases hcache : cacheWrite.applies = true
  · simp [hcache]
  · by_cases hstore : storeWrite.applies = true
    · simp only [hstore, hcache, Bool.false_eq_true, if_true, if_false, true_implies, false_or]
      rfl
    · simp only [hstore, hcache, Bool.false_eq_true, if_false, false_implies, iff_true]
      exact h id

theorem create_eq_save {tiers next : CachingSessionStore} {record : SessionRecord}
    {generated : List String} {storeWrite cacheWrite : Outcome SessionStoreError}
    {answer : Except SessionStoreError SessionRecord}
    (h : tiers.create record generated storeWrite cacheWrite = some (answer, next)) :
    ∃ created after,
      MemorySessionStore.create tiers.store record generated = some (created, after) ∧
        next = (tiers.save created storeWrite cacheWrite).2 := by
  obtain ⟨⟨created, after⟩, hcreate, heq⟩ := Option.map_eq_some_iff.1 h
  refine ⟨created, after, hcreate, ?_⟩
  obtain rfl := MemorySessionStore.create_eq_save hcreate
  cases storeWrite with
  | done => exact (congrArg Prod.snd heq).symm
  | refused e => exact (congrArg Prod.snd heq).symm
  | lost e => exact (congrArg Prod.snd heq).symm

theorem coherent_load (h : Coherent world) (id : String) (cacheClock storeClock : ℕ)
    (cacheRead storeRead : Option SessionStoreError) (cacheWrite : Outcome SessionStoreError) :
    Coherent { world with
      tiers := (world.tiers.load id cacheClock storeClock cacheRead storeRead cacheWrite).2 } := by
  unfold load
  split
  · exact h
  · split
    · exact h
    · split
      · exact h
      · split
        · rename_i record hrecord
          have hstored := (MemorySessionStore.load_eq_some_iff.1 hrecord).1
          rcases cacheWrite.write_cases (MemorySessionStore.save · record) world.tiers.cache with
            ⟨_, hwrite⟩ | ⟨_, hwrite⟩
          · intro other cached hcached
            dsimp only at hcached ⊢
            rw [hwrite, MemorySessionStore.get_save] at hcached
            split at hcached
            · rename_i hother
              cases hcached
              rw [hother, Registry.key_of_get hstored]
              exact Or.inl hstored
            · exact h other cached hcached
          · rw [hwrite]
            exact h
        · exact h

theorem coherent_cleanup_cache (h : Coherent world) (now : ℕ) :
    Coherent { world with
      tiers := { world.tiers with
        cache := MemorySessionStore.cleanupExpired world.tiers.cache now } } := by
  intro id cached hcached
  exact h id cached (MemorySessionStore.get_cleanup_expired.1 hcached).1

theorem coherent_cleanup_store (h : Coherent world) (now : ℕ) :
    Coherent
      { tiers := { world.tiers with
          store := MemorySessionStore.cleanupExpired world.tiers.store now }
        cleaned := max world.cleaned now } := by
  intro id cached hcached
  rcases h id cached hcached with hstored | hexpired
  · by_cases hlive : now < cached.expiresAt
    · exact Or.inl (MemorySessionStore.get_cleanup_expired.2 ⟨hstored, hlive⟩)
    · right
      show cached.expiresAt ≤ max world.cleaned now
      omega
  · right
    show cached.expiresAt ≤ max world.cleaned now
    omega

theorem coherent_step_iff {world next : World} {call : Call} (h : Coherent world)
    (hstep : step world call = some next) : Coherent next ↔ WritesReach world call := by
  cases call with
  | create record generated storeWrite cacheWrite =>
    obtain ⟨⟨answer, tiers⟩, hcreate, rfl⟩ := Option.map_eq_some_iff.1 hstep
    obtain ⟨created, after, hstored, rfl⟩ := create_eq_save hcreate
    refine (coherent_save_iff h created storeWrite cacheWrite).trans ?_
    constructor
    · intro hreach created' after' hstored'
      rw [hstored] at hstored'
      cases hstored'
      exact hreach
    · intro hreach
      exact hreach created after hstored
  | save record storeWrite cacheWrite =>
    cases hstep
    exact coherent_save_iff h record storeWrite cacheWrite
  | load id cacheClock storeClock cacheRead storeRead cacheWrite =>
    cases hstep
    exact iff_of_true (coherent_load h id cacheClock storeClock cacheRead storeRead cacheWrite)
      trivial
  | delete id cacheWrite storeWrite =>
    cases hstep
    exact coherent_delete_iff h id cacheWrite storeWrite
  | cleanupCache now =>
    cases hstep
    exact iff_of_true (coherent_cleanup_cache h now) trivial
  | cleanupStore now =>
    cases hstep
    exact iff_of_true (coherent_cleanup_store h now) trivial

/-! ## Runs -/

theorem loads_current_empty : LoadsCurrent {} :=
  loads_current_iff_coherent.2 fun id cached hcached => by cases hcached

/-- The saves of two records of one session after each other; the cache takes the second as
`cacheWrite` says. -/
def twoSaves (cacheWrite : Outcome SessionStoreError) : List Call :=
  [.save { id := "s", protocolVersion := "2025-06-18", expiresAt := 10 } .done .done,
    .save { id := "s", protocolVersion := "2025-11-25", expiresAt := 10 } .done cacheWrite]

/-- A save that fails in the cache leaves the old record there, and the next load returns it. -/
theorem failed_cache_save_stays_stale :
    ¬ ∀ (world : World) (calls : List Call), LoadsCurrent world →
      Throughout step LoadsCurrent world calls := by
  intro h
  have hall := h {} (twoSaves (.refused (.backend "unreachable"))) loads_current_empty
  obtain ⟨final, hrun⟩ := Option.isSome_iff_exists.1 (show
    (run step {} (twoSaves (.refused (.backend "unreachable")))).isSome = true from rfl)
  have hcurrent := hall.last hrun "s" 0 0 none none .done
    { id := "s", protocolVersion := "2025-06-18", expiresAt := 10 }
  cases hrun
  exact absurd (hcurrent (by decide) rfl) (by decide)

/-- In every state a run visits, no load can return a record that the backend has replaced or
deleted, exactly when every write of the run reaches the cache. -/
theorem loads_current_iff_writes_reach {world : World} (hstart : LoadsCurrent world)
    (calls : List Call) :
    Throughout step LoadsCurrent world calls ↔
      Along step WritesReach world calls := by
  refine throughout_iff_along (I := fun _ => True) (fun _ _ _ _ _ => trivial) ?_ ?_
    trivial hstart calls
  · intro world call next _ hcurrent hstep
    rw [loads_current_iff_coherent] at hcurrent ⊢
    exact coherent_step_iff hcurrent hstep
  · intro world call hrefused
    cases call with
    | create record generated storeWrite cacheWrite =>
      intro created after hstored
      simp [step, create, hstored] at hrefused
    | _ => simp [step] at hrefused

theorem saved_twice_stays_current :
    Throughout step LoadsCurrent {} (twoSaves .done) := by
  refine (loads_current_iff_writes_reach loads_current_empty (twoSaves .done)).2 ?_
  refine ⟨fun _ => Or.inl ⟨rfl, rfl⟩, ?_⟩
  exact ⟨fun _ => Or.inl ⟨rfl, rfl⟩, trivial⟩

end CachingSessionStore

end TowerMcp
