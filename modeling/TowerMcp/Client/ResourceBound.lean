import TowerMcp.Client.Generations

/-!
# The bound of the response cache

How many results of `resources/read` the client keeps. The keys of these results stand in a queue
beside the map of the entries, and what exceeds the bound is dropped from the front of the queue.
-/

namespace TowerMcp

open Execution

inductive CacheOperation where
  | setPartition (partition : String)
  | clear
  | captureGeneration (method : CacheableMethod) (params : String)
  | releaseGeneration (method : CacheableMethod) (params : String)
  | write (now : ℕ) (method : CacheableMethod) (params : String) (captured : ℕ) (value : Json)
      (ttlMs : Option ℕ) (scope : Option CacheScope)
  | evictMethod (method : CacheableMethod)
  | evictResource (uri : String)

def ClientCacheConfig.bounded (config : ClientCacheConfig) (bound : ℕ) : ClientCacheConfig :=
  { config with maxResourceEntries := bound }

namespace CacheState

variable (self : CacheState)

def apply (config : ClientCacheConfig) (clockRange : ℕ) : CacheOperation → CacheState
  | .setPartition partition => (self.setPartition partition).wrapped
  | .clear => self.clear.wrapped
  | .captureGeneration method params => (self.captureGeneration method params).2
  | .releaseGeneration method params => self.releaseGeneration method params
  | .write now method params captured value ttlMs scope =>
    self.write config clockRange now method params captured value ttlMs scope 0
  | .evictMethod method => (self.evictMethod method).wrapped
  | .evictResource uri => (self.evictResource uri).wrapped

/-- One turn of the loop of `enforce_resource_bound`, or none when it is left. -/
def evictTurn (bound : ℕ) (self : CacheState) (_ : Unit) : Option CacheState :=
  if self.resourceOrder.length > bound then
    match self.resourceOrder with
    | oldest :: rest =>
      some { self with entries := self.entries.erase oldest, resourceOrder := rest }
    | [] => some self
  else none

structure InStep (cache : CacheState) : Prop where
  mem_iff : ∀ key, key ∈ cache.resourceOrder ↔
    key.method = .resourcesRead ∧ (cache.entries.lookup key).isSome = true
  nodup : cache.resourceOrder.Nodup

def Bounded (config : ClientCacheConfig) (cache : CacheState) : Prop :=
  0 < config.maxResourceEntries → cache.resourceOrder.length ≤ config.maxResourceEntries

variable {self} {config : ClientCacheConfig} {clockRange : ℕ} {key : CacheKey} {entry : CacheEntry}

theorem lookup_erased (keys : List CacheKey) (entries : FinMap CacheKey CacheEntry) :
    (keys.foldl (fun entries key => entries.erase key) entries).lookup key =
      if key ∈ keys then none else entries.lookup key := by
  induction keys generalizing entries with
  | nil => simp
  | cons first rest ih =>
    rw [List.foldl_cons, ih, FinMap.lookup_erase_eq_ite]
    by_cases hrest : key ∈ rest
    · simp [hrest]
    · simp [hrest]

theorem evict_turns (bound : ℕ) (hbound : 0 < bound) (self : CacheState) :
    run (evictTurn bound) self (List.replicate (self.resourceOrder.length - bound) ()) =
        some (self.enforceResourceBound bound) ∧
      evictTurn bound (self.enforceResourceBound bound) () = none := by
  constructor
  · unfold enforceResourceBound
    rw [if_neg hbound.ne']
    generalize hcount : self.resourceOrder.length - bound = count
    induction count generalizing self with
    | zero => simp
    | succ count ih =>
      cases horder : self.resourceOrder with
      | nil => simp [horder] at hcount
      | cons oldest rest =>
        rw [horder, List.length_cons] at hcount
        have hturn : evictTurn bound self () =
            some { self with entries := self.entries.erase oldest, resourceOrder := rest } := by
          unfold evictTurn
          rw [horder, if_pos (by rw [List.length_cons]; omega)]
        rw [List.replicate_succ, run, hturn]
        exact ih { self with entries := self.entries.erase oldest, resourceOrder := rest }
          (by dsimp only; omega)
  · unfold evictTurn enforceResourceBound
    rw [if_neg hbound.ne']
    refine if_neg ?_
    rw [List.length_drop]
    omega

/-! ## What the operations keep -/

theorem InStep.of_same {next : CacheState} (h : self.InStep)
    (hentries : next.entries = self.entries) (horder : next.resourceOrder = self.resourceOrder) :
    next.InStep := by
  refine ⟨fun key => ?_, horder ▸ h.nodup⟩
  rw [horder, hentries]
  exact h.mem_iff key

theorem InStep.retain (h : self.InStep) (p : CacheKey → Bool) : (self.retain p).InStep := by
  refine ⟨fun key => ?_, h.nodup.filter _⟩
  show key ∈ self.resourceOrder.filter p ↔
    _ ∧ ((self.entries.filterKeys p).lookup key).isSome = true
  rw [List.mem_filter, h.mem_iff, FinMap.lookup_filter_keys]
  cases p key with
  | true => simp
  | false => simp

theorem InStep.enforce (h : self.InStep) (bound : ℕ) :
    (self.enforceResourceBound bound).InStep := by
  unfold enforceResourceBound
  split
  next => exact h
  next =>
    refine ⟨fun key => ?_, h.nodup.sublist (List.drop_sublist _ _)⟩
    dsimp only
    rw [lookup_erased]
    have hsplit := List.take_append_drop (self.resourceOrder.length - bound) self.resourceOrder
    have hdisjoint := (List.nodup_append.1 (hsplit ▸ h.nodup)).2.2
    by_cases hdropped : key ∈ self.resourceOrder.take (self.resourceOrder.length - bound)
    · rw [if_pos hdropped]
      simpa using fun hmem => hdisjoint key hdropped key hmem rfl
    · rw [if_neg hdropped, ← h.mem_iff]
      exact ⟨fun hmem => List.mem_of_mem_drop hmem, fun hmem =>
        (List.mem_append.1 (hsplit.symm ▸ hmem)).resolve_left hdropped⟩

theorem order_finish (slot : LogicalKey) (captured : Option ℕ) :
    (self.finishGeneration slot captured).2.resourceOrder = self.resourceOrder := by
  unfold finishGeneration
  split
  · rfl
  · dsimp only
    split <;> rfl

theorem order_bump (slot : LogicalKey) : (self.bump slot).resourceOrder = self.resourceOrder := by
  unfold bump
  split <;> rfl

theorem length_enforce_le {bound : ℕ} (hbound : 0 < bound) :
    (self.enforceResourceBound bound).resourceOrder.length ≤ bound := by
  unfold enforceResourceBound
  rw [if_neg hbound.ne', List.length_drop]
  omega

theorem InStep.keep (h : self.InStep) (config : ClientCacheConfig) (key : CacheKey)
    (entry : CacheEntry) : (self.keep config key entry).InStep := by
  unfold CacheState.keep
  dsimp only
  split
  next hread =>
    refine InStep.enforce ⟨fun other => ?_, ?_⟩ _
    · dsimp only
      rw [FinMap.lookup_insert_eq_ite, List.mem_append, List.mem_filter, List.mem_singleton,
        h.mem_iff]
      by_cases hother : other = key
      · simp [hother, hread]
      · simp [hother]
    · dsimp only
      refine List.nodup_append.2 ⟨h.nodup.filter _, List.nodup_singleton _, ?_⟩
      rintro other hmem _ hkey rfl
      simp [List.mem_singleton.1 hkey] at hmem
  next hread =>
    refine ⟨fun other => ?_, h.nodup⟩
    dsimp only
    rw [FinMap.lookup_insert_eq_ite, h.mem_iff]
    by_cases hother : other = key
    · simp [hother, hread]
    · simp [hother]

theorem Bounded.keep (h : Bounded config self) (key : CacheKey) (entry : CacheEntry) :
    Bounded config (self.keep config key entry) := by
  unfold CacheState.keep
  dsimp only
  split
  next => exact length_enforce_le
  next => exact h

theorem lookup_enforce_list (h : self.InStep) (bound : ℕ) (hlist : key.method ≠ .resourcesRead) :
    (self.enforceResourceBound bound).entries.lookup key = self.entries.lookup key := by
  unfold enforceResourceBound
  split
  next => rfl
  next =>
    dsimp only
    rw [lookup_erased, if_neg]
    exact fun hmem => hlist ((h.mem_iff key).1 (List.mem_of_mem_take hmem)).1

theorem lookup_keep_list (h : self.InStep) (added : CacheKey)
    (hlist : key.method ≠ .resourcesRead) :
    (self.keep config added entry).entries.lookup key =
      (self.entries.insert added entry).lookup key := by
  unfold CacheState.keep
  dsimp only
  split
  next hread =>
    have hkept := h.keep { config with maxResourceEntries := 0 } added entry
    unfold CacheState.keep at hkept
    dsimp only at hkept
    rw [if_pos hread] at hkept
    exact lookup_enforce_list hkept config.maxResourceEntries hlist
  next => rfl

theorem write_cases (self : CacheState) (config : ClientCacheConfig) (clockRange now : ℕ)
    (method : CacheableMethod) (params : String) (captured : ℕ) (value : Json) (ttlMs : Option ℕ)
    (scope : Option CacheScope) :
    ∃ moved : CacheState, (self.InStep → moved.InStep) ∧
      moved.resourceOrder.length ≤ self.resourceOrder.length ∧
      ((∀ bound, self.write (config.bounded bound) clockRange now method params captured value ttlMs
          scope 0 = moved) ∨
        ∃ key entry, ∀ bound, self.write (config.bounded bound) clockRange now method params
          captured value ttlMs scope 0 = moved.keep (config.bounded bound) key entry) := by
  unfold write
  cases henabled : config.enabled with
  | false =>
    refine ⟨self, id, le_rfl, .inl fun bound => if_neg ?_⟩
    show config.enabled ≠ true
    simp [henabled]
  | true =>
    have hentries := @finish_entries self (generationKey method params) (some captured)
    have horder := @order_finish self (generationKey method params) (some captured)
    have hon (bound : ℕ) : (config.bounded bound).enabled = true := henabled
    simp only [hon, if_true]
    generalize self.finishGeneration (generationKey method params) (some captured) = finish at *
    obtain ⟨valid, finished⟩ := finish
    cases valid with
    | false =>
      exact ⟨finished, fun h => h.of_same hentries horder, horder ▸ le_rfl, .inl fun _ => rfl⟩
    | true =>
      refine ⟨finished.removeLogicalEntries method params,
        fun h => (h.of_same hentries horder).retain _, horder ▸ List.length_filter_le _ _, ?_⟩
      have httl (bound : ℕ) :
          timeToLive (config.bounded bound) ttlMs = timeToLive config ttlMs := rfl
      simp only [httl]
      by_cases hzero : timeToLive config ttlMs = 0
      · exact .inl fun _ => if_pos hzero
      · simp only [if_neg hzero]
        by_cases hlate : now + timeToLive config ttlMs > clockRange
        · exact .inl fun _ => if_pos hlate
        · exact .inr ⟨_, _, fun _ => if_neg hlate⟩

variable {operation : CacheOperation}

theorem InStep.apply (h : self.InStep) (config : ClientCacheConfig) (clockRange : ℕ)
    (operation : CacheOperation) : (self.apply config clockRange operation).InStep := by
  cases operation with
  | setPartition partition =>
    show (self.setPartition partition).wrapped.InStep
    unfold setPartition
    split
    next => exact h.of_same rfl rfl
    next => exact (h.retain _).of_same rfl rfl
  | clear => exact ⟨fun key => by simp [CacheState.apply, clear, wrapped], List.nodup_nil⟩
  | captureGeneration method params => exact h.of_same rfl rfl
  | releaseGeneration method params => exact h.of_same (finish_entries _ _) (order_finish _ _)
  | write now method params captured value ttlMs scope =>
    obtain ⟨moved, hmoved, -, hsame | ⟨key, entry, hkeep⟩⟩ :=
      write_cases self config clockRange now method params captured value ttlMs scope
    · exact Eq.subst (hsame config.maxResourceEntries).symm (hmoved h)
    · exact Eq.subst (hkeep config.maxResourceEntries).symm ((hmoved h).keep config key entry)
  | evictMethod method =>
    exact ((h.of_same (bump_entries _) (order_bump _)).retain _).of_same rfl rfl
  | evictResource uri =>
    exact ((h.of_same (bump_entries _) (order_bump _)).retain _).of_same rfl rfl

theorem Bounded.apply (h : Bounded config self) (clockRange : ℕ) (operation : CacheOperation) :
    Bounded config (self.apply config clockRange operation) := by
  have hshorter {next : CacheState}
      (hle : next.resourceOrder.length ≤ self.resourceOrder.length) : Bounded config next :=
    fun hpositive => hle.trans (h hpositive)
  cases operation with
  | setPartition partition =>
    refine hshorter ?_
    show (self.setPartition partition).resourceOrder.length ≤ _
    unfold setPartition
    split
    next => exact le_rfl
    next => exact List.length_filter_le _ _
  | clear => exact hshorter (Nat.zero_le _)
  | captureGeneration method params => exact hshorter le_rfl
  | releaseGeneration method params => exact hshorter (congrArg _ (order_finish _ _)).le
  | write now method params captured value ttlMs scope =>
    obtain ⟨moved, -, hle, hsame | ⟨key, entry, hkeep⟩⟩ :=
      write_cases self config clockRange now method params captured value ttlMs scope
    · exact Eq.subst (hsame config.maxResourceEntries).symm (hshorter hle)
    · exact Eq.subst (hkeep config.maxResourceEntries).symm ((hshorter hle).keep key entry)
  | evictMethod method =>
    exact hshorter ((List.length_filter_le _ _).trans (congrArg _ (order_bump _)).le)
  | evictResource uri =>
    exact hshorter ((List.length_filter_le _ _).trans (congrArg _ (order_bump _)).le)

theorem lookup_apply_list (h : self.InStep) (config : ClientCacheConfig) (clockRange : ℕ)
    (operation : CacheOperation) (hlist : key.method ≠ .resourcesRead) :
    (self.apply config clockRange operation).entries.lookup key =
      (self.apply (config.bounded 0) clockRange operation).entries.lookup key := by
  cases operation with
  | write now method params captured value ttlMs scope =>
    obtain ⟨moved, hmoved, -, hsame | ⟨added, entry, hkeep⟩⟩ :=
      write_cases self config clockRange now method params captured value ttlMs scope
    · have hwritten := (hsame config.maxResourceEntries).trans (hsame 0).symm
      exact congrArg (fun cache : CacheState => cache.entries.lookup key) hwritten
    · show (self.write (config.bounded config.maxResourceEntries) _ _ _ _ _ _ _ _
          0).entries.lookup key =
        (self.write (config.bounded 0) _ _ _ _ _ _ _ _ 0).entries.lookup key
      rw [hkeep, hkeep, lookup_keep_list (hmoved h) added hlist,
        lookup_keep_list (hmoved h) added hlist]
  | _ => rfl

theorem resource_bound (config : ClientCacheConfig) (clockRange : ℕ)
    (operations : List CacheOperation) :
    let cache := operations.foldl (fun cache => cache.apply config clockRange) (new config)
    InStep cache ∧ Bounded config cache ∧
      (∀ operation key, key.method ≠ .resourcesRead →
        (cache.apply config clockRange operation).entries.lookup key =
          (cache.apply (config.bounded 0) clockRange operation).entries.lookup key) ∧
      ∀ self bound, 0 < bound → ∃ turns,
        run (evictTurn bound) self (List.replicate turns ()) =
            some (self.enforceResourceBound bound) ∧
          evictTurn bound (self.enforceResourceBound bound) () = none := by
  intro cache
  have hnew : InStep (new config) ∧ Bounded config (new config) :=
    ⟨⟨fun key => by simp [new], List.nodup_nil⟩, fun _ => Nat.zero_le _⟩
  have hkept : InStep cache ∧ Bounded config cache :=
    List.foldlRecOn (motive := fun cache => InStep cache ∧ Bounded config cache) operations _ hnew
      fun cache h operation _ =>
        ⟨h.1.apply config clockRange operation, h.2.apply clockRange operation⟩
  exact ⟨hkept.1, hkept.2,
    fun operation key => lookup_apply_list hkept.1 config clockRange operation,
    fun self bound hbound => ⟨_, evict_turns bound hbound self⟩⟩

/-! ## What is served as fresh -/

def Wrote (config : ClientCacheConfig) (key : CacheKey) (entry : CacheEntry)
    (operation : CacheOperation) : Prop :=
  ∃ now captured ttlMs scope,
    operation = .write now key.method key.params captured entry.value ttlMs scope ∧
      entry.expiresAt = now + timeToLive config ttlMs

def AllWrote (config : ClientCacheConfig) (operations : List CacheOperation) (cache : CacheState) :
    Prop :=
  ∀ key entry, cache.entries.lookup key = some entry →
    ∃ operation ∈ operations, Wrote config key entry operation

theorem entry_of_apply
    (h : (self.apply config clockRange operation).entries.lookup key = some entry) :
    self.entries.lookup key = some entry ∨ Wrote config key entry operation := by
  cases operation with
  | setPartition partition =>
    have hlookup : (self.setPartition partition).entries.lookup key = some entry := h
    unfold setPartition at hlookup
    split at hlookup
    · exact .inl hlookup
    · exact .inl (lookup_retain hlookup).1
  | clear => cases h
  | captureGeneration method params => exact .inl h
  | releaseGeneration method params => exact .inl (@finish_entries self _ _ ▸ h)
  | write now method params captured value ttlMs scope =>
    rcases lookup_write h with hearlier | ⟨-, rfl, rfl, -, rfl, hexpires⟩
    · exact .inl hearlier
    · exact .inr ⟨now, captured, ttlMs, scope, rfl, hexpires⟩
  | evictMethod | evictResource =>
    exact .inl (@bump_entries self _ ▸ (@lookup_retain (self.bump _) _ _ _ h).1)

/-- After whatever operations, a result that is served as fresh was written for the same method and
parameters, and less than its time to live ago. -/
theorem fresh_results_current {operations : List CacheOperation} {now : ℕ}
    {method : CacheableMethod} {params : String} {value : Json}
    (h : (operations.foldl (fun cache => cache.apply config clockRange) (new config)).lookup config
      now method params = .fresh value) :
    ∃ written captured ttlMs scope,
      .write written method params captured value ttlMs scope ∈ operations ∧
        now < written + timeToLive config ttlMs := by
  have hwrote : (operations.foldl (fun cache => cache.apply config clockRange)
      (new config)).AllWrote config operations :=
    List.foldlRecOn operations _ (fun key entry h => by cases h)
      fun cache hcache operation hmem key entry hlookup =>
        (entry_of_apply hlookup).elim (hcache key entry) fun hwrote => ⟨operation, hmem, hwrote⟩
  unfold lookup at h
  split at h
  next key entry hfound =>
    obtain ⟨hlookup, rfl, rfl⟩ := find_entry_some hfound
    obtain ⟨_, hmem, written, captured, ttlMs, scope, rfl, hexpires⟩ := hwrote key entry hlookup
    split at h
    next hfresh =>
      cases h
      exact ⟨written, captured, ttlMs, scope, hmem, hexpires ▸ hfresh⟩
    next => cases h
  next => cases h

theorem fresh_results_current_tools :
    ∃ written captured ttlMs scope, CacheOperation.write written .toolsList "" captured .null ttlMs
        scope ∈ [.captureGeneration .toolsList "", .write 0 .toolsList "" 0 .null (some 1) none] ∧
      10 ^ 6 - 1 < written + timeToLive {} ttlMs :=
  @fresh_results_current {} (2 ^ 64) _ _ _ _ _ (by rfl)

end CacheState

end TowerMcp
