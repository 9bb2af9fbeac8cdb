import TowerMcp.Client.StaleFallback

/-!
# Generations of requests in flight

The generations of slots are 64 bits wide and wrap. While fewer than `2 ^ 64` invalidations have
finished none has wrapped, so a late result is written only when nothing was about it, and a private
result is found only under the partition its request was sent under.
-/

namespace TowerMcp

open Execution

def CacheState.wrapped (self : CacheState) : CacheState :=
  { self with
    generations := self.generations.mapValues fun slot =>
      { slot with generation := slot.generation % 2 ^ 64 } }

/-- No generation has moved on more often than `bound`. -/
def CacheState.Within (bound : ℕ) (cache : CacheState) : Prop :=
  ∀ key slot, cache.generations.lookup key = some slot → slot.generation ≤ bound

namespace StaleFallback

variable {ρ : Type}

def World.wrapped (self : World ρ) : World ρ :=
  { self with cache := self.cache.wrapped }

def wrappingStep (codec : Codec ρ) (config : ClientCacheConfig) (clockRange maxMrtrRounds : ℕ)
    (world : World ρ) (event : Event ρ) : Option (World ρ) :=
  (step codec config clockRange maxMrtrRounds world event).map World.wrapped

def finishes (world : World ρ) : Event ρ → Option ℕ
  | .write ticket _ => some ticket
  | .release ticket => (world.calls.get ticket).bind fun call =>
    if call.active then some ticket else none
  | _ => none

def finished (step : World ρ → Event ρ → Option (World ρ)) : World ρ → List (Event ρ) → List ℕ
  | _, [] => []
  | world, event :: rest =>
    (finishes world event).toList ++
      match step world event with
      | some next => finished step next rest
      | none => []

def partitionAfter (config : ClientCacheConfig) (log : List Invalidation) : String :=
  log.foldl
    (fun partition invalidation =>
      match invalidation with
      | .setPartition next => next
      | _ => partition)
    config.partition

/-! ## What a step does -/

def Call.Done (call : Call ρ) : Prop :=
  call.active = false ∧ call.point ≠ .capturing

/-- How a step changes the cache and the log: an invalidation finishes, or the log and the partition
stay and every slot is one that was there or a new one. -/
inductive CacheMoved (world next : World ρ) : Prop where
  | invalidated (invalidation : Invalidation)
      (cache : next.cache = (world.invalidate invalidation).cache)
      (log : next.log = (world.invalidate invalidation).log)
  | kept (log : next.log = world.log) (partition : next.cache.partition = world.cache.partition)
      (slots : ∀ key slot, next.cache.generations.lookup key = some slot →
        slot.generation = 0 ∨ ∃ held, world.cache.generations.lookup key = some held ∧
          slot.generation = held.generation)

inductive CallsMoved (world next : World ρ) : Prop where
  | same (calls : next.calls = world.calls)
  | started (call : Call ρ) (calls : next.calls = world.calls.start call)
  | moved (ticket : ℕ) (call moved : Call ρ) (held : world.calls.get ticket = some call)
      (calls : next.calls = world.calls.become ticket moved) (done : call.Done → moved.Done)
  | ended (ticket : ℕ) (calls : next.calls = world.calls.finish ticket)

section Steps

variable {codec : Codec ρ} {config : ClientCacheConfig} {clockRange maxMrtrRounds : ℕ}
  {world next : World ρ} {ticket : ℕ} {call : Call ρ}

theorem cache_moved_of_same (hcache : next.cache = world.cache) (hlog : next.log = world.log) :
    CacheMoved world next :=
  .kept hlog (congrArg CacheState.partition hcache) fun _ slot hslot =>
    .inr ⟨slot, hcache ▸ hslot, rfl⟩

variable {cache : CacheState}

theorem generation_of_lookup_finish {slot key : LogicalKey} {captured : Option ℕ}
    {left : GenerationSlot}
    (h : (cache.finishGeneration slot captured).2.generations.lookup key = some left) :
    ∃ held, cache.generations.lookup key = some held ∧ left.generation = held.generation := by
  rw [CacheState.lookup_finish] at h
  split at h
  next =>
    obtain ⟨held, hheld, hleft⟩ := Option.bind_eq_some_iff.1 h
    obtain ⟨_, hleft⟩ := Option.ite_none_left_eq_some.1 hleft
    cases hleft
    exact ⟨held, hheld, rfl⟩
  next => exact ⟨left, h, rfl⟩

theorem partition_finish (cache : CacheState) (slot : LogicalKey) (captured : Option ℕ) :
    (cache.finishGeneration slot captured).2.partition = cache.partition := by
  unfold CacheState.finishGeneration
  split
  next => rfl
  next =>
    simp only
    split <;> rfl

theorem partition_write (cache : CacheState) (clockRange now : ℕ) (request : Request)
    (captured : ℕ) (value : Json) (ttlMs : Option ℕ) (scope : Option CacheScope) (since : ℕ) :
    (cache.write config clockRange now request.method request.params captured value ttlMs scope
      since).partition = cache.partition := by
  have hfinish := partition_finish cache (generationKey request.method request.params)
    (some captured)
  unfold CacheState.write
  split
  next =>
    split
    next finished hfinished =>
      rw [hfinished] at hfinish
      exact hfinish
    next finished hfinished =>
      rw [hfinished] at hfinish
      simp only
      split
      next => exact hfinish
      next =>
        split
        next => exact hfinish
        next =>
          unfold CacheState.keep CacheState.enforceResourceBound
          simp only
          split
          next => split <;> exact hfinish
          next => exact hfinish
  next => rfl

theorem cache_moved_release (world : World ρ) (call : Call ρ) :
    CacheMoved world (world.releaseSlot call) := by
  unfold World.releaseSlot
  split
  next =>
    exact .kept rfl (partition_finish _ _ _) fun _ _ hslot => .inr (generation_of_lookup_finish hslot)
  next => exact cache_moved_of_same rfl rfl

theorem cache_moved_write {now : ℕ}
    (hnext : world.write codec config clockRange ticket now call = some next) :
    CacheMoved world next := by
  unfold World.write at hnext
  split at hnext
  next result _ =>
    cases hnext
    cases hvalue : codec.toValue result with
    | error message =>
      exact .kept rfl (partition_finish _ _ _) fun _ _ hslot =>
        .inr (generation_of_lookup_finish hslot)
    | ok value =>
      refine .kept rfl (partition_write _ _ _ _ _ _ _ _ _) fun _ _ hslot => .inr ?_
      simp only [World.answer] at hslot
      cases henabled : config.enabled with
      | true =>
        rw [CacheState.write_generations henabled] at hslot
        exact generation_of_lookup_finish hslot
      | false =>
        rw [CacheState.write_disabled henabled] at hslot
        exact ⟨_, hslot, rfl⟩
  next => cases hnext

theorem moved_respond (hget : world.calls.get ticket = some call)
    {outcome : Except String (RequestOutcome ρ)}
    (hnext : world.respond ticket call outcome = some next) :
    CacheMoved world next ∧ CallsMoved world next := by
  unfold World.respond at hnext
  split at hnext
  next result _ =>
    split at hnext
    next =>
      cases hnext
      exact ⟨cache_moved_of_same rfl rfl, .moved ticket call _ hget rfl fun h => ⟨h.1, nofun⟩⟩
    next =>
      cases hnext
      exact ⟨cache_moved_of_same rfl rfl, .ended ticket rfl⟩
  next =>
    obtain ⟨_, hnext⟩ := Option.ite_none_right_eq_some.1 hnext
    cases hnext
    exact ⟨cache_moved_of_same rfl rfl, .moved ticket call _ hget rfl fun h => ⟨h.1, nofun⟩⟩
  next =>
    cases hnext
    exact ⟨cache_moved_of_same rfl rfl, .moved ticket call _ hget rfl fun h => ⟨h.1, nofun⟩⟩
  next => cases hnext

theorem moved_resolve (hget : world.calls.get ticket = some call) {resolved : Except String Unit}
    (hnext : world.resolve maxMrtrRounds ticket call resolved = some next) :
    CacheMoved world next ∧ CallsMoved world next := by
  unfold World.resolve at hnext
  split at hnext
  next =>
    simp only at hnext
    split at hnext
    next =>
      cases hnext
      exact ⟨cache_moved_of_same rfl rfl, .ended ticket rfl⟩
    next =>
      split at hnext
      next =>
        cases hnext
        exact ⟨cache_moved_of_same rfl rfl, .ended ticket rfl⟩
      next =>
        split at hnext
        next =>
          cases hnext
          exact ⟨cache_moved_of_same rfl rfl, .ended ticket rfl⟩
        next =>
          cases hnext
          exact ⟨cache_moved_of_same rfl rfl, .moved ticket call _ hget rfl fun h => ⟨h.1, nofun⟩⟩
  next => cases hnext

theorem moved_release (hget : world.calls.get ticket = some call)
    (hnext : world.release codec config ticket call = some next) :
    CacheMoved world next ∧ CallsMoved world next := by
  have hreleased := cache_moved_release world call
  have hpool := (release_slot_frame world call).2.1
  have hcache {after : World ρ} (hcache : after.cache = (world.releaseSlot call).cache)
      (hlog : after.log = (world.releaseSlot call).log) : CacheMoved world after := by
    cases hreleased with
    | invalidated invalidation cache log =>
      exact .invalidated invalidation (hcache.trans cache) (hlog.trans log)
    | kept log partition slots =>
      exact .kept (hlog.trans log) ((congrArg _ hcache).trans partition) fun key slot hslot =>
        slots key slot (hcache ▸ hslot)
  unfold World.release at hnext
  split at hnext
  next =>
    cases hnext
    exact ⟨hcache rfl rfl, .ended ticket (congrArg (Pool.finish · ticket) hpool)⟩
  next =>
    cases hnext
    exact ⟨hcache rfl rfl, .ended ticket (congrArg (Pool.finish · ticket) hpool)⟩
  next stale requests _ =>
    cases hnext
    exact ⟨hcache rfl rfl, .moved ticket call
      { call with point := .resolving stale requests, active := false } hget
      (congrArg (Pool.become · ticket _) hpool) fun _ => ⟨rfl, nofun⟩⟩
  next => cases hnext

variable {event : Event ρ}

theorem moved_of_step (hnext : step codec config clockRange maxMrtrRounds world event = some next) :
    CacheMoved world next ∧ CallsMoved world next := by
  cases event with
  | start request cacheAllowed =>
    cases hnext
    exact ⟨cache_moved_of_same rfl rfl, .started _ rfl⟩
  | capture ticket =>
    obtain ⟨call, hget, hnext⟩ := Option.bind_eq_some_iff.1 hnext
    unfold World.capture at hnext
    split at hnext
    next hpoint =>
      cases hnext
      refine ⟨.kept rfl rfl fun key slot hslot => ?_,
        .moved ticket call _ hget rfl fun h => absurd hpoint h.2⟩
      have hslot : (world.cache.captureGeneration call.request.method
        call.request.params).2.generations.lookup key = some slot := hslot
      rw [CacheState.lookup_capture] at hslot
      split at hslot
      next =>
        cases hslot
        cases hheld : world.cache.generations.lookup key with
        | none => exact .inl rfl
        | some held => exact .inr ⟨held, rfl, rfl⟩
      next => exact .inr ⟨slot, hslot, rfl⟩
    next => cases hnext
  | lookUp ticket now =>
    obtain ⟨call, hget, hnext⟩ := Option.bind_eq_some_iff.1 hnext
    obtain ⟨point, rfl, _, _, _, hcapturing⟩ := World.look_up_cases hnext
    exact ⟨cache_moved_of_same rfl rfl, .moved ticket call _ hget rfl fun h => ⟨h.1, hcapturing⟩⟩
  | evict ticket =>
    obtain ⟨call, hget, hnext⟩ := Option.bind_eq_some_iff.1 hnext
    unfold World.evict at hnext
    split at hnext
    next =>
      cases hnext
      exact ⟨.invalidated call.request.eviction rfl rfl,
        .moved ticket call _ hget rfl fun h => ⟨h.1, nofun⟩⟩
    next => cases hnext
  | respond ticket outcome =>
    obtain ⟨call, hget, hnext⟩ := Option.bind_eq_some_iff.1 hnext
    exact moved_respond hget hnext
  | resolve ticket resolved =>
    obtain ⟨call, hget, hnext⟩ := Option.bind_eq_some_iff.1 hnext
    exact moved_resolve hget hnext
  | write ticket now =>
    obtain ⟨call, hget, hnext⟩ := Option.bind_eq_some_iff.1 hnext
    refine ⟨cache_moved_write hnext, .ended ticket ?_⟩
    unfold World.write at hnext
    split at hnext
    next => cases hnext; rfl
    next => cases hnext
  | release ticket =>
    obtain ⟨call, hget, hnext⟩ := Option.bind_eq_some_iff.1 hnext
    exact moved_release hget hnext
  | drop ticket =>
    cases hnext
    exact ⟨cache_moved_of_same rfl rfl, .ended ticket rfl⟩
  | invalidate invalidation =>
    obtain ⟨_, hnext⟩ := Option.ite_none_right_eq_some.1 hnext
    cases hnext
    exact ⟨.invalidated invalidation rfl rfl, .same rfl⟩

/-! ## What runs keep -/

structure Tracked (config : ClientCacheConfig) (world : World ρ) : Prop where
  sound : Sound world
  within : world.cache.Within world.log.length
  partition : world.cache.partition = partitionAfter config world.log
  numbered : world.calls.Numbered

theorem partition_after_append (log : List Invalidation) (invalidation : Invalidation) :
    partitionAfter config (log ++ [invalidation]) =
      match invalidation with
      | .setPartition next => next
      | _ => partitionAfter config log :=
  List.foldl_concat _ _ _ _

theorem within_bump {bound : ℕ} (h : cache.Within bound) (slot : LogicalKey) :
    (cache.bump slot).Within (bound + 1) := by
  intro key held hheld
  rw [CacheState.lookup_bump] at hheld
  split at hheld
  next =>
    obtain ⟨old, hold, rfl⟩ := Option.map_eq_some_iff.1 hheld
    exact Nat.succ_le_succ (h key old hold)
  next => exact Nat.le_succ_of_le (h key held hheld)

theorem within_bump_all {bound : ℕ} (h : cache.Within bound) :
    cache.bumpAll.Within (bound + 1) := by
  intro key held hheld
  have hheld : (cache.generations.mapValues GenerationSlot.bump).lookup key = some held := hheld
  rw [FinMap.lookup_map_values] at hheld
  obtain ⟨old, hold, rfl⟩ := Option.map_eq_some_iff.1 hheld
  exact Nat.succ_le_succ (h key old hold)

theorem partition_bump (cache : CacheState) (slot : LogicalKey) :
    (cache.bump slot).partition = cache.partition := by
  unfold CacheState.bump
  split <;> rfl

theorem tracked_invalidate (hwithin : world.cache.Within world.log.length)
    (hpartition : world.cache.partition = partitionAfter config world.log)
    (invalidation : Invalidation) :
    (world.invalidate invalidation).cache.Within (world.invalidate invalidation).log.length ∧
      (world.invalidate invalidation).cache.partition =
        partitionAfter config (world.invalidate invalidation).log := by
  have hlength : (world.log ++ [invalidation]).length = world.log.length + 1 := List.length_append
  have hafter : partitionAfter config (world.log ++ [invalidation]) = _ :=
    partition_after_append world.log invalidation
  cases invalidation with
  | evictMethod method =>
    simp only [World.invalidate, Invalidation.changes, if_true, hlength, hafter, ← hpartition]
    exact ⟨within_bump hwithin _, partition_bump _ _⟩
  | evictResource uri =>
    simp only [World.invalidate, Invalidation.changes, if_true, hlength, hafter, ← hpartition]
    exact ⟨within_bump hwithin _, partition_bump _ _⟩
  | clear =>
    simp only [World.invalidate, Invalidation.changes, if_true, hlength, hafter, ← hpartition]
    exact ⟨within_bump_all hwithin, rfl⟩
  | setPartition partition =>
    by_cases hsame : world.cache.partition = partition
    · simp only [World.invalidate, Invalidation.changes, Invalidation.apply,
        CacheState.setPartition, hsame, ne_eq, not_true_eq_false, decide_false, if_true,
        Bool.false_eq_true, if_false]
      exact ⟨hwithin, hsame ▸ hpartition⟩
    · simp only [World.invalidate, Invalidation.changes, Invalidation.apply,
        CacheState.setPartition, hsame, ne_eq, not_false_eq_true, decide_true, if_true,
        if_false, hlength, hafter]
      exact ⟨within_bump_all hwithin, trivial⟩

theorem Tracked.step (h : Tracked config world)
    (hnext : step codec config clockRange maxMrtrRounds world event = some next) :
    Tracked config next := by
  obtain ⟨hcache, hcalls⟩ := moved_of_step hnext
  refine ⟨h.sound.step hnext, ?_, ?_, ?_⟩
  · cases hcache with
    | invalidated invalidation cache log =>
      rw [cache, log]
      exact (tracked_invalidate h.within h.partition invalidation).1
    | kept log _ slots =>
      intro key slot hslot
      rw [log]
      rcases slots key slot hslot with hnew | ⟨held, hheld, hsame⟩
      · exact hnew ▸ Nat.zero_le _
      · exact hsame ▸ h.within key held hheld
  · cases hcache with
    | invalidated invalidation cache log =>
      rw [cache, log]
      exact (tracked_invalidate h.within h.partition invalidation).2
    | kept log partition _ => rw [partition, log, h.partition]
  · cases hcalls with
    | same calls => exact calls ▸ h.numbered
    | started call calls => exact calls ▸ h.numbered.start call
    | moved ticket call moved held calls _ => exact calls ▸ h.numbered.become held moved
    | ended ticket calls => exact calls ▸ h.numbered.finish ticket

theorem tracked_new (config : ClientCacheConfig) : Tracked config (World.new (ρ := ρ) config) where
  sound := sound_new config
  within := nofun
  partition := rfl
  numbered := Pool.numbered_empty

theorem log_length_le_step
    (hnext : step codec config clockRange maxMrtrRounds world event = some next) :
    world.log.length ≤ next.log.length := by
  cases (moved_of_step hnext).1 with
  | invalidated invalidation _ log =>
    obtain ⟨later, hlog⟩ := world.log_invalidate invalidation
    rw [log, hlog, List.length_append]
    exact Nat.le_add_right _ _
  | kept log _ _ => exact (congrArg List.length log).ge

theorem wrapped_eq_self (hwithin : world.cache.Within world.log.length)
    (hfew : world.log.length < 2 ^ 64) : world.wrapped = world := by
  have hslots : world.cache.generations.mapValues
      (fun slot => { slot with generation := slot.generation % 2 ^ 64 }) =
        world.cache.generations := by
    refine FinMap.map_values_eq_self fun slot hmem => ?_
    obtain ⟨key, hkey⟩ := FinMap.exists_lookup_of_mem_values hmem
    rw [Nat.mod_eq_of_lt (Nat.lt_of_le_of_lt (hwithin key slot hkey) hfew)]
  unfold World.wrapped CacheState.wrapped
  rw [hslots]

variable {events : List (Event ρ)} {final : World ρ}

theorem log_length_le_run
    (hrun : run (wrappingStep codec config clockRange maxMrtrRounds) world events =
      some final) : world.log.length ≤ final.log.length := by
  refine run_invariant (I := fun later => world.log.length ≤ later.log.length) ?_
    (Nat.le_refl _) hrun
  intro before event after hbefore hstep
  obtain ⟨next, hnext, rfl⟩ := Option.map_eq_some_iff.1 hstep
  have hlater : before.log.length ≤ next.log.length := log_length_le_step hnext
  exact hbefore.trans hlater

theorem run_of_wrapping (h : Tracked config world)
    (hrun : run (wrappingStep codec config clockRange maxMrtrRounds) world events =
      some final) (hfew : final.log.length < 2 ^ 64) :
    run (step codec config clockRange maxMrtrRounds) world events = some final := by
  induction events generalizing world with
  | nil => exact hrun
  | cons event rest ih =>
    obtain ⟨after, hafter, hrest⟩ := run_cons.1 hrun
    obtain ⟨next, hnext, rfl⟩ := Option.map_eq_some_iff.1 hafter
    have htracked := h.step hnext
    have hlater : next.log.length < 2 ^ 64 := (log_length_le_run hrest).trans_lt hfew
    rw [wrapped_eq_self htracked.within hlater] at hrest
    exact run_cons.2 ⟨next, hnext, ih htracked hrest⟩

theorem tracked_of_run
    (hrun : run (wrappingStep codec config clockRange maxMrtrRounds) (.new config)
      events = some world) (hfew : world.log.length < 2 ^ 64) : Tracked config world :=
  run_invariant (fun _ _ _ h hnext => h.step hnext) (tracked_new config)
    (run_of_wrapping (tracked_new config) hrun hfew)

/-! ## Slots are given back once -/

def Spent (ticket : ℕ) (world : World ρ) : Prop :=
  ticket < world.calls.next ∧ ∀ call, world.calls.get ticket = some call → call.Done

theorem Spent.step (h : Spent ticket world)
    (hnext : step codec config clockRange maxMrtrRounds world event = some next) :
    Spent ticket next := by
  obtain ⟨hlt, hdone⟩ := h
  cases (moved_of_step hnext).2 with
  | same calls =>
    unfold Spent
    rw [calls]
    exact ⟨hlt, hdone⟩
  | started call calls =>
    unfold Spent
    rw [calls]
    refine ⟨Nat.lt_succ_of_lt hlt, fun held hheld => hdone held ?_⟩
    rwa [Pool.get_start_eq_ite, if_neg hlt.ne] at hheld
  | moved other call moved held calls done =>
    unfold Spent
    rw [calls]
    refine ⟨hlt, fun left hleft => ?_⟩
    rw [Pool.get_become_eq_ite] at hleft
    split at hleft
    next hsame =>
      cases hleft
      exact done (hdone call (hsame ▸ held))
    next => exact hdone left hleft
  | ended other calls =>
    unfold Spent
    rw [calls]
    refine ⟨hlt, fun left hleft => hdone left ?_⟩
    rw [Pool.get_finish_eq_ite] at hleft
    exact (Option.ite_none_left_eq_some.1 hleft).2

theorem spent_of_finishes (h : Tracked config world)
    (hfinishes : finishes world event = some ticket)
    (hnext : step codec config clockRange maxMrtrRounds world event = some next) :
    (∃ call, world.calls.get ticket = some call ∧ call.active = true) ∧ Spent ticket next := by
  cases event with
  | write other now =>
    cases hfinishes
    obtain ⟨call, hget, hnext⟩ := Option.bind_eq_some_iff.1 hnext
    have hlt := h.numbered ticket call hget
    unfold World.write at hnext
    split at hnext
    next result hpoint =>
      cases hnext
      refine ⟨⟨call, hget, (h.sound.calls.of_get hget).writing result hpoint⟩, hlt, ?_⟩
      intro held hheld
      exact absurd rfl (others_of_finish hheld).1
    next => cases hnext
  | release other =>
    obtain ⟨call, hget, hholds⟩ := Option.bind_eq_some_iff.1 hfinishes
    obtain ⟨hactive, hsame⟩ := Option.ite_none_right_eq_some.1 hholds
    cases hsame
    obtain ⟨_, hother, hnext⟩ := Option.bind_eq_some_iff.1 hnext
    cases hget.symm.trans hother
    have hlt : ticket < (world.releaseSlot call).calls.next := by
      rw [(release_slot_frame world call).2.1]
      exact h.numbered ticket call hget
    refine ⟨⟨call, hget, hactive⟩, ?_⟩
    unfold World.release at hnext
    split at hnext
    next =>
      cases hnext
      exact ⟨hlt, fun held hheld => absurd rfl (others_of_finish hheld).1⟩
    next =>
      cases hnext
      exact ⟨hlt, fun held hheld => absurd rfl (others_of_finish hheld).1⟩
    next =>
      cases hnext
      refine ⟨hlt, fun held hheld => ?_⟩
      cases (Pool.get_become_self _ _ _).symm.trans hheld
      exact ⟨rfl, nofun⟩
    next => cases hnext
  | _ => cases hfinishes

theorem not_mem_finished_of_spent (h : Tracked config world) (hspent : Spent ticket world)
    (hrun : run (step codec config clockRange maxMrtrRounds) world events = some final) :
    ticket ∉ finished (step codec config clockRange maxMrtrRounds) world events := by
  induction events generalizing world with
  | nil => exact List.not_mem_nil
  | cons event rest ih =>
    obtain ⟨next, hnext, hrest⟩ := run_cons.1 hrun
    intro hmem
    unfold finished at hmem
    rw [hnext] at hmem
    rcases List.mem_append.1 hmem with hhere | hlater
    · have hfinishes := Option.mem_toList.1 hhere
      obtain ⟨⟨call, hget, hactive⟩, _⟩ := spent_of_finishes h hfinishes hnext
      cases (hspent.2 call hget).1.symm.trans hactive
    · exact ih (h.step hnext) (hspent.step hnext) hrest hlater

theorem finished_nodup (h : Tracked config world)
    (hrun : run (step codec config clockRange maxMrtrRounds) world events = some final) :
    (finished (step codec config clockRange maxMrtrRounds) world events).Nodup := by
  induction events generalizing world with
  | nil => exact List.nodup_nil
  | cons event rest ih =>
    obtain ⟨next, hnext, hrest⟩ := run_cons.1 hrun
    have htail := ih (h.step hnext) hrest
    unfold finished
    rw [hnext]
    cases hfinishes : finishes world event with
    | none => exact htail
    | some ticket =>
      have hspent := (spent_of_finishes h hfinishes hnext).2
      exact List.nodup_cons.2 ⟨not_mem_finished_of_spent (h.step hnext) hspent hrest, htail⟩

theorem finished_wrapping (h : Tracked config world)
    (hrun : run (wrappingStep codec config clockRange maxMrtrRounds) world events =
      some final) (hfew : final.log.length < 2 ^ 64) :
    finished (wrappingStep codec config clockRange maxMrtrRounds) world events =
      finished (step codec config clockRange maxMrtrRounds) world events := by
  induction events generalizing world with
  | nil => rfl
  | cons event rest ih =>
    obtain ⟨after, hafter, hrest⟩ := run_cons.1 hrun
    obtain ⟨next, hnext, rfl⟩ := Option.map_eq_some_iff.1 hafter
    have htracked := h.step hnext
    have hlater : next.log.length < 2 ^ 64 := (log_length_le_run hrest).trans_lt hfew
    have hsame := wrapped_eq_self htracked.within hlater
    rw [hsame] at hrest hafter
    simp only [finished, hafter, hnext, ih htracked hrest]

theorem entries_of_late_write (h : Tracked config world)
    (hget : world.calls.get ticket = some call) {now : ℕ}
    (hstep : wrappingStep codec config clockRange maxMrtrRounds world (.write ticket now) =
      some next) (hlate : ¬Untouched world.log call.since call.request true) {key : CacheKey}
    {entry : CacheEntry} (hentry : next.cache.entries.lookup key = some entry) :
    world.cache.entries.lookup key = some entry := by
  obtain ⟨after, hafter, rfl⟩ := Option.map_eq_some_iff.1 hstep
  obtain ⟨_, hsame, hnext⟩ := Option.bind_eq_some_iff.1 hafter
  cases hget.symm.trans hsame
  unfold World.write at hnext
  split at hnext
  next result hpoint =>
    cases hnext
    have hcall := h.sound.calls.of_get hget
    obtain ⟨_, slot, hslot, _, huntouched⟩ := hcall.slotted (hcall.writing result hpoint)
    cases hvalue : codec.toValue result with
    | error message =>
      simp only [World.wrapped, World.answer, CacheState.wrapped, hvalue,
        CacheState.releaseGeneration, CacheState.finish_entries] at hentry
      exact hentry
    | ok value =>
      simp only [World.wrapped, World.answer, CacheState.wrapped, hvalue] at hentry
      rcases CacheState.lookup_write hentry with hbefore | ⟨hvalid, _⟩
      · exact hbefore
      · obtain ⟨held, hheld, hgeneration⟩ := CacheState.generation_of_finish hvalid
        cases hslot.symm.trans hheld
        exact absurd (huntouched hgeneration) hlate
  next => cases hnext

theorem partition_after_take {log : List Invalidation} {since : ℕ} {request : Request}
    (h : Untouched log since request true) :
    partitionAfter config (log.take since) = partitionAfter config log := by
  conv_rhs => rw [← List.take_append_drop since log]
  unfold partitionAfter
  rw [List.foldl_append]
  unfold Untouched at h
  generalize log.drop since = later at h
  induction later with
  | nil => rfl
  | cons first rest ih =>
    obtain ⟨hfirst, hrest⟩ := List.forall_mem_cons.1 h
    cases first with
    | setPartition partition => cases hfirst
    | _ => exact ih hrest

theorem personal_of_find_entry {method : CacheableMethod} {params : String} {key : CacheKey}
    {entry : CacheEntry} (h : cache.findEntry config method params = some (key, entry))
    (hprivate : entry.scope = .privateScope) : key.partition ≠ .publicPartition := by
  unfold CacheState.findEntry at h
  obtain ⟨_, h⟩ := Option.ite_none_right_eq_some.1 h
  split at h
  next =>
    cases h
    exact nofun
  next =>
    split at h
    next =>
      obtain ⟨hpublic, hsame⟩ := Option.ite_none_right_eq_some.1 h
      cases hsame
      cases hprivate.symm.trans hpublic
    next => cases h

end Steps

variable (codec : Codec ρ) (config : ClientCacheConfig) (clockRange maxMrtrRounds : ℕ)

/-- In every run of the code in which fewer than `2 ^ 64` invalidations finish, no slot is given back
twice by one call, a result whose request was sent before something was about it is not written,
and a call that holds a slot finds it there, with its own generation only when nothing was about its
result since it took the slot. -/
theorem invalidation_beats_late_results {events : List (Event ρ)} {world : World ρ}
    (hrun : run (wrappingStep codec config clockRange maxMrtrRounds) (.new config)
      events = some world) (hfew : world.log.length < 2 ^ 64) :
    (finished (wrappingStep codec config clockRange maxMrtrRounds) (.new config) events).Nodup ∧
      (∀ ticket now call next, world.calls.get ticket = some call →
        wrappingStep codec config clockRange maxMrtrRounds world (.write ticket now) = some next →
        ¬Untouched world.log call.since call.request true →
        ∀ key entry, next.cache.entries.lookup key = some entry →
          world.cache.entries.lookup key = some entry) ∧
      ∀ ticket call, world.calls.get ticket = some call → call.active = true →
        ∃ slot, world.cache.generations.lookup call.request.key = some slot ∧
          (slot.generation = call.generation →
            Untouched world.log call.since call.request true) := by
  have htracked := tracked_of_run hrun hfew
  refine ⟨?_, ?_, ?_⟩
  · rw [finished_wrapping (tracked_new config) hrun hfew]
    exact finished_nodup (tracked_new config) (run_of_wrapping (tracked_new config) hrun hfew)
  · intro ticket now call next hget hnext hlate key entry hentry
    exact entries_of_late_write htracked hget hnext hlate hentry
  · intro ticket call hget hactive
    obtain ⟨_, slot, hslot, _, huntouched⟩ := (htracked.sound.calls.of_get hget).slotted hactive
    exact ⟨slot, hslot, huntouched⟩

def lateEvents : List (Event Json) :=
  [.start ⟨.toolsList, ""⟩ true, .capture 0, .lookUp 0 0, .invalidate .clear,
    .respond 0 (.ok (.complete (.string "old")))]

theorem invalidation_beats_late_results_cleared :
    ∃ world, run (wrappingStep plainCodec {} (10 ^ 12) 8) (.new {}) lateEvents =
        some world ∧
      (world.calls.get 0).isSome = true ∧
      ∀ ticket call, world.calls.get ticket = some call → call.active = true →
        ∃ slot, world.cache.generations.lookup call.request.key = some slot ∧
          (slot.generation = call.generation →
            Untouched world.log call.since call.request true) :=
  have hrun : run (wrappingStep plainCodec {} (10 ^ 12) 8) (.new {}) lateEvents = some _ :=
    rfl
  ⟨_, hrun, rfl, (invalidation_beats_late_results plainCodec {} (10 ^ 12) 8 hrun (by decide)).2.2⟩

/-- In every run of the code in which fewer than `2 ^ 64` invalidations finish, a private result that a
lookup finds was brought by a request that was sent under the partition that is current. -/
theorem private_results_keep_to_partition {events : List (Event ρ)} {world : World ρ}
    (hrun : run (wrappingStep codec config clockRange maxMrtrRounds) (.new config)
      events = some world) (hfew : world.log.length < 2 ^ 64) {now : ℕ} {method : CacheableMethod}
    {params : String} {value : Json}
    (hfound : world.cache.lookup config now method params = .fresh value ∨
      world.cache.lookup config now method params = .stale value) :
    ∃ key entry, world.cache.findEntry config method params = some (key, entry) ∧
      entry.value = value ∧ (entry.scope = .privateScope →
        partitionAfter config (world.log.take entry.since) = world.cache.partition) := by
  have htracked := tracked_of_run hrun hfew
  unfold CacheState.lookup at hfound
  split at hfound
  next key entry hentry =>
    refine ⟨key, entry, hentry, ?_, fun hprivate => ?_⟩
    · split at hfound
      next => rcases hfound with h | h <;> cases h; rfl
      next => rcases hfound with h | h <;> cases h; rfl
    · have hlookup := (CacheState.find_entry_some hentry).1
      have hpersonal := decide_eq_true (personal_of_find_entry hentry hprivate)
      obtain ⟨_, huntouched⟩ := htracked.sound.entries key entry hlookup
      rw [hpersonal] at huntouched
      rw [partition_after_take huntouched, htracked.partition]
  next => rcases hfound with h | h <;> cases h

def keptEvents : List (Event Json) :=
  [.invalidate (.setPartition "a"), .start ⟨.toolsList, ""⟩ true, .capture 0, .lookUp 0 0,
    .respond 0 (.ok (.complete (.string "secret"))), .write 0 0]

theorem private_results_keep_to_partition_changed :
    ∃ world, run (wrappingStep plainCodec {} (10 ^ 12) 8) (.new {}) keptEvents =
        some world ∧
      ∃ key entry, world.cache.findEntry {} .toolsList "" = some (key, entry) ∧
        entry.value = .string "secret" ∧ (entry.scope = .privateScope →
          partitionAfter {} (world.log.take entry.since) = world.cache.partition) := by
  obtain ⟨world, hrun, hfew, hfound⟩ : ∃ world,
      run (wrappingStep plainCodec {} (10 ^ 12) 8) (.new {}) keptEvents = some world ∧
        world.log.length < 2 ^ 64 ∧
        (match world.cache.lookup {} 0 .toolsList "" with
        | .fresh value => decide (value = .string "secret")
        | _ => false) = true := by
    decide +kernel
  have hfresh : world.cache.lookup {} 0 .toolsList "" = .fresh (.string "secret") := by
    split at hfound
    next value hfresh => rw [hfresh, of_decide_eq_true hfound]
    next => cases hfound
  exact ⟨world, hrun, private_results_keep_to_partition plainCodec {} (10 ^ 12) 8 hrun
    hfew (.inl hfresh)⟩

/-! ## A generation that wraps -/

/-- The partition that change number `count` sets. -/
def alternate (count : ℕ) : String :=
  if count % 2 = 0 then "b" else "c"

def changes (count : ℕ) : List (Event Json) :=
  (List.range count).map fun number => .invalidate (.setPartition (alternate number))

def flooded (partition : String) (generation : ℕ) (log : List Invalidation) : World Json where
  cache :=
    { generations := (∅ : FinMap LogicalKey GenerationSlot).insert ⟨.toolsList, none⟩
        { generation, inFlight := 1 }
      partition }
  log
  calls := (({} : Pool (Call Json)).start
    { request := ⟨.toolsList, ""⟩, point := .capturing }).become 0
      { request := ⟨.toolsList, ""⟩, point := .sending none, active := true }

theorem flooded_change {partition after : String} (hne : partition ≠ after) (generation : ℕ)
    (log : List Invalidation) :
    wrappingStep plainCodec {} (10 ^ 12) 8 (flooded partition generation log)
        (.invalidate (.setPartition after)) =
      some (flooded after ((generation + 1) % 2 ^ 64) (log ++ [.setPartition after])) := by
  simp only [wrappingStep, step, Invalidation.issued, if_true, Option.map_some, World.invalidate,
    Invalidation.apply, Invalidation.changes, CacheState.setPartition, flooded, hne, ne_eq,
    not_false_eq_true, decide_true, if_false]
  rfl

theorem changes_succ (count : ℕ) :
    changes (count + 1) = changes count ++ [.invalidate (.setPartition (alternate count))] := by
  simp [changes, List.range_succ]

theorem alternate_ne (count : ℕ) : alternate count ≠ alternate (count + 1) := by
  unfold alternate
  rcases Nat.mod_two_eq_zero_or_one count with heven | hodd
  · have hnext : ¬(count + 1) % 2 = 0 := by omega
    rw [if_pos heven, if_neg hnext]
    decide
  · have hnext : (count + 1) % 2 = 0 := by omega
    have hthis : ¬count % 2 = 0 := by omega
    rw [if_neg hthis, if_pos hnext]
    decide

theorem flooded_changes (count : ℕ) :
    ∃ log, run (wrappingStep plainCodec {} (10 ^ 12) 8) (flooded "" 0 [])
      (changes (count + 1)) = some (flooded (alternate count) ((count + 1) % 2 ^ 64) log) := by
  induction count with
  | zero =>
    refine ⟨[.setPartition "b"], ?_⟩
    exact run_cons.2 ⟨_, flooded_change (by decide) 0 [], rfl⟩
  | succ count ih =>
    obtain ⟨log, hrun⟩ := ih
    refine ⟨log ++ [.setPartition (alternate (count + 1))], ?_⟩
    rw [changes_succ, run_append, hrun, Option.bind_eq_bind, Option.bind_some]
    refine run_cons.2 ⟨_, flooded_change (alternate_ne count) _ log, ?_⟩
    rw [Nat.mod_add_mod]
    rfl

/-- A generation that wraps lets a result be kept that was brought for another partition: a private
list is asked for under one partition, the partition changes `2 ^ 64` times before the answer
arrives, and the answer is found under the partition that is current then. -/
theorem wrapped_generation_crosses_partitions :
    ∃ events world key entry, run (wrappingStep plainCodec {} (10 ^ 12) 8) (.new {})
        events = some world ∧
      world.cache.findEntry {} .toolsList "" = some (key, entry) ∧
      world.cache.lookup {} 0 .toolsList "" = .fresh (.string "secret") ∧
      entry.scope = .privateScope ∧
      partitionAfter {} (world.log.take entry.since) ≠ world.cache.partition := by
  obtain ⟨log, hchanges⟩ := flooded_changes (2 ^ 64 - 1)
  have hstart : run (wrappingStep plainCodec {} (10 ^ 12) 8) (.new {})
      [.start ⟨.toolsList, ""⟩ true, .capture 0, .lookUp 0 0] = some (flooded "" 0 []) := rfl
  have hanswer : ∃ world key entry, run (wrappingStep plainCodec {} (10 ^ 12) 8)
      (flooded "c" 0 log) [.respond 0 (.ok (.complete (.string "secret"))), .write 0 0] =
        some world ∧
      world.cache.findEntry {} .toolsList "" = some (key, entry) ∧
      entry.expiresAt = 0 + CacheState.timeToLive {} (some 1) ∧ entry.value = .string "secret" ∧
      entry.scope = .privateScope ∧ entry.since = 0 ∧ world.cache.partition = "c" :=
    ⟨_, _, _, rfl, rfl, rfl, rfl, rfl, rfl, rfl⟩
  obtain ⟨world, key, entry, hrun, hfound, hexpires, hvalue, hscope, hsince, hpartition⟩ := hanswer
  have hfresh : world.cache.lookup {} 0 .toolsList "" = .fresh (.string "secret") := by
    unfold CacheState.lookup
    rw [hfound, ← hvalue]
    refine if_pos ?_
    rw [hexpires]
    decide
  refine ⟨_, world, key, entry, run_append_some.2 ⟨_, hstart,
    run_append_some.2 ⟨_, hchanges, hrun⟩⟩, hfound, hfresh, hscope, ?_⟩
  rw [hsince, hpartition, List.take_zero]
  decide

end StaleFallback

end TowerMcp
