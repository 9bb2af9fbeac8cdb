import TowerMcp.Lib.FinMap
import TowerMcp.Lib.Json

/-!
# The response cache of the client

Results of the final protocol that may be cached are kept under the method and the parameters of the
request and the partition they may be used in. A request that is in flight holds a generation slot,
and what invalidates its result while it is in flight moves the generation of the slot on, so that
the result is not written. Every operation is one section under the lock of the cache.
-/

namespace TowerMcp

/-- The requests whose results may be cached: `server/discover`, `tools/list`, `resources/list`,
`resources/templates/list`, `prompts/list` and `resources/read`. -/
inductive CacheableMethod where
  | serverDiscover
  | toolsList
  | resourcesList
  | resourceTemplatesList
  | promptsList
  | resourcesRead
deriving DecidableEq

inductive CacheScope where
  | publicScope
  | privateScope
deriving DecidableEq

inductive CachePartition where
  | publicPartition
  | privatePartition (partition : String)
deriving DecidableEq

structure CacheKey where
  method : CacheableMethod
  params : String
  partition : CachePartition
deriving DecidableEq

/-- A cached result. The field `since` is its history: how many invalidations had finished when the
request that brought it took its slot. -/
structure CacheEntry where
  value : Json
  expiresAt : ℕ
  scope : CacheScope
  since : ℕ

inductive CacheLookup where
  | fresh (value : Json)
  | stale (value : Json)
  | miss

structure LogicalKey where
  method : CacheableMethod
  params : Option String
deriving DecidableEq

structure GenerationSlot where
  generation : ℕ := 0
  inFlight : ℕ := 0

structure ClientCacheConfig where
  enabled : Bool := true
  defaultTtl : ℕ := 0
  maxTtl : ℕ := 24 * 60 * 60 * 10 ^ 9
  maxResourceEntries : ℕ := 512
  serveStaleOnError : Bool := false
  partition : String := ""

structure CacheState where
  entries : FinMap CacheKey CacheEntry := ∅
  resourceOrder : List CacheKey := []
  generations : FinMap LogicalKey GenerationSlot := ∅
  partition : String

def generationKey (method : CacheableMethod) (params : String) : LogicalKey :=
  { method, params := if method = .resourcesRead then some params else none }

def GenerationSlot.bump (slot : GenerationSlot) : GenerationSlot :=
  { slot with generation := slot.generation + 1 }

namespace CacheState

def new (config : ClientCacheConfig) : CacheState :=
  { partition := config.partition }

variable (self : CacheState)

/-- Keep the entries whose key satisfies `p`. -/
def retain (p : CacheKey → Bool) : CacheState :=
  { self with entries := self.entries.filterKeys p, resourceOrder := self.resourceOrder.filter p }

def bumpAll : CacheState :=
  { self with generations := self.generations.mapValues GenerationSlot.bump }

def bump (key : LogicalKey) : CacheState :=
  match self.generations.lookup key with
  | some slot => { self with generations := self.generations.insert key slot.bump }
  | none => self

def setPartition (partition : String) : CacheState :=
  if self.partition = partition then self
  else
    { self.bumpAll.retain fun key => decide (key.partition = .publicPartition) with partition }

def clear : CacheState :=
  { self.bumpAll with entries := ∅, resourceOrder := [] }

def captureGeneration (method : CacheableMethod) (params : String) : ℕ × CacheState :=
  let key := generationKey method params
  let slot := (self.generations.lookup key).getD {}
  (slot.generation,
    { self with
      generations := self.generations.insert key { slot with inFlight := slot.inFlight + 1 } })

def finishGeneration (key : LogicalKey) (captured : Option ℕ) : Bool × CacheState :=
  match self.generations.lookup key with
  | none => (false, self)
  | some slot =>
    (captured.all fun captured => decide (slot.generation = captured),
      if slot.inFlight - 1 = 0 then { self with generations := self.generations.erase key }
      else
        { self with
          generations :=
            self.generations.insert key { slot with inFlight := slot.inFlight - 1 } })

def releaseGeneration (method : CacheableMethod) (params : String) : CacheState :=
  (self.finishGeneration (generationKey method params) none).2

def findEntry (config : ClientCacheConfig) (method : CacheableMethod) (params : String) :
    Option (CacheKey × CacheEntry) :=
  let privateKey := { method, params, partition := .privatePartition self.partition }
  let publicKey := { method, params, partition := .publicPartition }
  if config.enabled then
    match self.entries.lookup privateKey with
    | some entry => some (privateKey, entry)
    | none =>
      match self.entries.lookup publicKey with
      | some entry => if entry.scope = .publicScope then some (publicKey, entry) else none
      | none => none
  else none

def lookup (config : ClientCacheConfig) (now : ℕ) (method : CacheableMethod) (params : String) :
    CacheLookup :=
  match self.findEntry config method params with
  | some (_, entry) =>
    if entry.expiresAt > now then .fresh entry.value else .stale entry.value
  | none => .miss

def removeLogicalEntries (method : CacheableMethod) (params : String) : CacheState :=
  self.retain fun key => decide (key.method ≠ method ∨ key.params ≠ params)

/-- Drop the oldest resources until no more than `bound` are kept. -/
def enforceResourceBound (bound : ℕ) : CacheState :=
  if bound = 0 then self
  else
    let excess := self.resourceOrder.length - bound
    { self with
      entries := (self.resourceOrder.take excess).foldl (fun entries key => entries.erase key)
        self.entries
      resourceOrder := self.resourceOrder.drop excess }

def timeToLive (config : ClientCacheConfig) (ttlMs : Option ℕ) : ℕ :=
  min (ttlMs.getD (min (config.defaultTtl / 10 ^ 6) (2 ^ 64 - 1)) * 10 ^ 6) config.maxTtl

def keep (config : ClientCacheConfig) (key : CacheKey) (entry : CacheEntry) : CacheState :=
  let kept := { self with entries := self.entries.insert key entry }
  if key.method = .resourcesRead then
    { kept with
      resourceOrder := (kept.resourceOrder.filter fun existing => existing ≠ key) ++
        [key] }.enforceResourceBound config.maxResourceEntries
  else kept

/-- Keep a result, when its generation is still the one captured. `clockRange` is the last instant
the clock can represent. -/
def write (config : ClientCacheConfig) (clockRange now : ℕ) (method : CacheableMethod)
    (params : String) (captured : ℕ) (value : Json) (ttlMs : Option ℕ) (scope : Option CacheScope)
    (since : ℕ) : CacheState :=
  if config.enabled then
    match self.finishGeneration (generationKey method params) (some captured) with
    | (false, finished) => finished
    | (true, finished) =>
      let removed := finished.removeLogicalEntries method params
      let ttl := timeToLive config ttlMs
      if ttl = 0 then removed
      else
        let scope := scope.getD .privateScope
        let partition :=
          match scope with
          | .publicScope => .publicPartition
          | .privateScope => .privatePartition removed.partition
        if now + ttl > clockRange then removed
        else
          removed.keep config { method, params, partition }
            { value, expiresAt := now + ttl, scope, since }
  else self

def evictMethod (method : CacheableMethod) : CacheState :=
  (self.bump (generationKey method "")).retain fun key => decide (key.method ≠ method)

def evictResource (uri : String) : CacheState :=
  (self.bump (generationKey .resourcesRead uri)).removeLogicalEntries .resourcesRead uri

/-! ## What the operations keep -/

variable {self} {key : CacheKey} {entry : CacheEntry}

theorem lookup_retain {p : CacheKey → Bool} (h : (self.retain p).entries.lookup key = some entry) :
    self.entries.lookup key = some entry ∧ p key = true := by
  have hmem := AList.mem_lookup_iff.1 h
  obtain ⟨hin, hp⟩ := List.mem_filter.1 hmem
  exact ⟨AList.mem_lookup_iff.2 hin, hp⟩

@[simp] theorem retain_generations (p : CacheKey → Bool) :
    (self.retain p).generations = self.generations := rfl

@[simp] theorem bump_entries (slot : LogicalKey) : (self.bump slot).entries = self.entries := by
  unfold bump
  split <;> rfl

theorem lookup_bump (slot other : LogicalKey) :
    (self.bump slot).generations.lookup other =
      if other = slot then (self.generations.lookup other).map GenerationSlot.bump
      else self.generations.lookup other := by
  by_cases hother : other = slot
  · subst hother
    rw [if_pos rfl, bump]
    cases hslot : self.generations.lookup other with
    | none => exact hslot
    | some held => exact AList.lookup_insert _
  · rw [if_neg hother, bump]
    cases self.generations.lookup slot with
    | none => rfl
    | some held => exact AList.lookup_insert_ne hother

theorem lookup_capture (method : CacheableMethod) (params : String) (other : LogicalKey) :
    (self.captureGeneration method params).2.generations.lookup other =
      if other = generationKey method params then
        some { (self.generations.lookup other).getD {} with
          inFlight := ((self.generations.lookup other).getD {}).inFlight + 1 }
      else self.generations.lookup other := by
  by_cases hother : other = generationKey method params
  · subst hother
    rw [if_pos rfl]
    exact AList.lookup_insert _
  · rw [if_neg hother]
    exact AList.lookup_insert_ne hother

@[simp] theorem finish_entries (slot : LogicalKey) (captured : Option ℕ) :
    (self.finishGeneration slot captured).2.entries = self.entries := by
  unfold finishGeneration
  split
  · rfl
  · simp only
    split <;> rfl

theorem generation_of_finish {slot : LogicalKey} {captured : ℕ}
    (h : (self.finishGeneration slot (some captured)).1 = true) :
    ∃ held, self.generations.lookup slot = some held ∧ held.generation = captured := by
  unfold finishGeneration at h
  split at h
  next => cases h
  next held hslot => exact ⟨held, hslot, of_decide_eq_true h⟩

theorem lookup_finish (slot other : LogicalKey) (captured : Option ℕ) :
    (self.finishGeneration slot captured).2.generations.lookup other =
      if other = slot then
        (self.generations.lookup other).bind fun held =>
          if held.inFlight - 1 = 0 then none else some { held with inFlight := held.inFlight - 1 }
      else self.generations.lookup other := by
  by_cases hother : other = slot
  · subst hother
    rw [if_pos rfl, finishGeneration]
    cases hslot : self.generations.lookup other with
    | none => exact hslot
    | some held =>
      simp only [Option.bind_some]
      split
      · exact AList.lookup_erase other self.generations
      · exact AList.lookup_insert _
  · rw [if_neg hother, finishGeneration]
    cases self.generations.lookup slot with
    | none => rfl
    | some held =>
      simp only
      split
      · exact AList.lookup_erase_ne hother
      · exact AList.lookup_insert_ne hother

theorem lookup_of_erased {keys : List CacheKey} {entries : FinMap CacheKey CacheEntry}
    (h : (keys.foldl (fun entries key => entries.erase key) entries).lookup key = some entry) :
    entries.lookup key = some entry := by
  induction keys generalizing entries with
  | nil => exact h
  | cons first rest ih =>
    have hrest := ih h
    rw [FinMap.lookup_erase_eq_ite] at hrest
    split at hrest
    · cases hrest
    · exact hrest

theorem lookup_enforce {bound : ℕ}
    (h : (self.enforceResourceBound bound).entries.lookup key = some entry) :
    self.entries.lookup key = some entry := by
  unfold enforceResourceBound at h
  split at h
  · exact h
  · exact lookup_of_erased h

@[simp] theorem enforce_generations (bound : ℕ) :
    (self.enforceResourceBound bound).generations = self.generations := by
  unfold enforceResourceBound
  split <;> rfl

theorem lookup_keep {config : ClientCacheConfig} {added : CacheKey} {value : CacheEntry}
    (h : (self.keep config added value).entries.lookup key = some entry) :
    self.entries.lookup key = some entry ∨ key = added ∧ entry = value := by
  have hinserted (hin : (self.entries.insert added value).lookup key = some entry) :
      self.entries.lookup key = some entry ∨ key = added ∧ entry = value := by
    rw [FinMap.lookup_insert_eq_ite] at hin
    split at hin
    next hkey => exact .inr ⟨hkey, (Option.some.inj hin).symm⟩
    next => exact .inl hin
  unfold keep at h
  simp only at h
  split at h
  · exact hinserted (lookup_enforce h)
  · exact hinserted h

@[simp] theorem keep_generations (config : ClientCacheConfig) (added : CacheKey)
    (value : CacheEntry) : (self.keep config added value).generations = self.generations := by
  unfold keep
  simp only
  split
  · exact enforce_generations _
  · rfl

theorem find_entry_some {config : ClientCacheConfig} {method : CacheableMethod} {params : String}
    (h : self.findEntry config method params = some (key, entry)) :
    self.entries.lookup key = some entry ∧ key.method = method ∧ key.params = params := by
  obtain ⟨_, h⟩ := Option.ite_none_right_eq_some.1 h
  split at h
  next held hheld =>
    cases h
    exact ⟨hheld, rfl, rfl⟩
  next =>
    split at h
    next held hheld =>
      obtain ⟨_, h⟩ := Option.ite_none_right_eq_some.1 h
      cases h
      exact ⟨hheld, rfl, rfl⟩
    next => cases h

section Write

variable {config : ClientCacheConfig} {clockRange now captured since : ℕ}
  {method : CacheableMethod} {params : String} {value : Json} {ttlMs : Option ℕ}
  {scope : Option CacheScope}

theorem lookup_write
    (h : (self.write config clockRange now method params captured value ttlMs scope
      since).entries.lookup key = some entry) :
    self.entries.lookup key = some entry ∨
      ((self.finishGeneration (generationKey method params) (some captured)).1 = true ∧
        key.method = method ∧ key.params = params ∧ entry.since = since ∧ entry.value = value ∧
          entry.expiresAt = now + timeToLive config ttlMs) := by
  unfold write at h
  split at h
  next =>
    have hentries : (self.finishGeneration (generationKey method params)
        (some captured)).2.entries = self.entries := finish_entries _ _
    split at h
    next finished hfinish =>
      rw [hfinish] at hentries
      exact .inl (hentries ▸ h)
    next finished hfinish =>
      rw [hfinish] at hentries
      have hremoved
          (hin : (finished.removeLogicalEntries method params).entries.lookup key = some entry) :
          self.entries.lookup key = some entry := hentries ▸ (lookup_retain hin).1
      simp only at h
      split at h
      · exact .inl (hremoved h)
      · split at h
        · exact .inl (hremoved h)
        · rcases lookup_keep h with hearlier | ⟨rfl, rfl⟩
          · exact .inl (hremoved hearlier)
          · exact .inr ⟨by rw [hfinish], rfl, rfl, rfl, rfl, rfl⟩
  next => exact .inl h

theorem write_disabled (henabled : config.enabled = false) :
    self.write config clockRange now method params captured value ttlMs scope since = self :=
  if_neg (by simp [henabled])

theorem write_generations (henabled : config.enabled = true) :
    (self.write config clockRange now method params captured value ttlMs scope since).generations =
      (self.finishGeneration (generationKey method params) (some captured)).2.generations := by
  unfold write
  rw [if_pos henabled]
  split
  next finished hfinish => rw [hfinish]
  next finished hfinish =>
    rw [hfinish]
    simp only
    split
    · rfl
    · split
      · rfl
      · exact keep_generations _ _ _

end Write

end CacheState

end TowerMcp
