import TowerMcp.Client.ResponseCache
import TowerMcp.Lib.Execution
import TowerMcp.Lib.Pool
import TowerMcp.Types.JsonRpc

/-!
# Stale results after a failed refresh

A cacheable request looks its result up, asks the server when there is none that is fresh, and, where
the client is configured so, falls back to the expired result when the server fails. The expired
result was copied out of the cache at the lookup. What invalidates it in the cache while the server
is asked does not reach the copy.
-/

namespace TowerMcp

open Execution

namespace StaleFallback

/-- What the cache does with the results of a type: read a cached value, make a value of a result,
and the caching fields of a result. -/
structure Codec (ρ : Type) where
  decodeCached : CacheableMethod → Json → Option ρ
  toValue : ρ → Except String Json
  ttlMs : ρ → Option ℕ
  cacheScope : ρ → Option CacheScope

structure Request where
  method : CacheableMethod
  params : String
deriving DecidableEq

inductive Invalidation where
  | evictMethod (method : CacheableMethod)
  | evictResource (uri : String)
  | clear
  | setPartition (partition : String)

def invalidateResponseCache (method : String) (params : Option Json) : List Invalidation :=
  if method = "notifications/tools/list_changed" then [.evictMethod .toolsList]
  else if method = "notifications/prompts/list_changed" then [.evictMethod .promptsList]
  else if method = "notifications/resources/list_changed" then
    [.evictMethod .resourcesList, .evictMethod .resourceTemplatesList]
  else if method = "notifications/resources/updated" then
    ((params.bind fun value => value.get "uri").bind Json.asStr).toList.map .evictResource
  else []

namespace Invalidation

def apply (cache : CacheState) : Invalidation → CacheState
  | .evictMethod method => cache.evictMethod method
  | .evictResource uri => cache.evictResource uri
  | .clear => cache.clear
  | .setPartition partition => cache.setPartition partition

def changes (cache : CacheState) : Invalidation → Bool
  | .setPartition partition => decide (cache.partition ≠ partition)
  | _ => true

/-- Whether an invalidation is about the result of a request. A change of the partition is about the
private results. -/
def covers (request : Request) (personal : Bool) : Invalidation → Bool
  | .evictMethod method => decide (request.method = method)
  | .evictResource uri => decide (request.method = .resourcesRead ∧ request.params = uri)
  | .clear => true
  | .setPartition _ => personal

def issued : Invalidation → Bool
  | .evictMethod method => decide (method ≠ .resourcesRead)
  | _ => true

end Invalidation

def Request.eviction (request : Request) : Invalidation :=
  if request.method = .resourcesRead then .evictResource request.params
  else .evictMethod request.method

/-- A value that was copied out of the cache, with its history: whether it was private, `since` of
its entry, and how many invalidations had finished when it was copied. -/
structure Held where
  value : Json
  personal : Bool
  since : ℕ
  foundAt : ℕ

inductive RequestOutcome (ρ : Type) where
  | complete (result : ρ)
  | inputRequired (requests : Bool)

inductive Point (ρ : Type) where
  | capturing
  | lookingUp
  | hit (result : ρ) (held : Held)
  | evicting
  | sending (stale : Option Held)
  | asking (stale : Option Held) (requests : Bool)
  | resolving (stale : Option Held) (requests : Bool)
  | writing (result : ρ)
  | failing (stale : Option Held) (error : String) (observed : ℕ)

/-- A call in flight. `active` says whether it holds a generation slot, `since` how many
invalidations had finished when it took it. -/
structure Call (ρ : Type) where
  request : Request
  point : Point ρ
  active : Bool := false
  generation : ℕ := 0
  since : ℕ := 0
  round : ℕ := 0

/-- What a call returned. For a cached value it has the value and how many invalidations had finished
when the call decided to use it. -/
structure Answer (ρ : Type) where
  request : Request
  result : Except String ρ
  cached : Option (Held × ℕ) := none

structure World (ρ : Type) where
  cache : CacheState
  log : List Invalidation := []
  calls : Pool (Call ρ) := {}
  answers : List (Answer ρ) := []

/-- What happens: a call starts; a call takes its slot, looks its result up, evicts what it could not
read, gives its slot back or writes its result; the server answers a call or the handler the inputs
it asked for; a call is dropped; or something else invalidates. -/
inductive Event (ρ : Type) where
  | start (request : Request) (cacheAllowed : Bool)
  | capture (ticket : ℕ)
  | lookUp (ticket now : ℕ)
  | evict (ticket : ℕ)
  | respond (ticket : ℕ) (outcome : Except String (RequestOutcome ρ))
  | resolve (ticket : ℕ) (resolved : Except String Unit)
  | write (ticket now : ℕ)
  | release (ticket : ℕ)
  | drop (ticket : ℕ)
  | invalidate (invalidation : Invalidation)

variable {ρ : Type}

def Request.key (request : Request) : LogicalKey :=
  generationKey request.method request.params

namespace World

variable (codec : Codec ρ) (config : ClientCacheConfig) (clockRange maxMrtrRounds : ℕ)
  (self : World ρ)

def new : World ρ :=
  { cache := .new config }

def become (ticket : ℕ) (call : Call ρ) : World ρ :=
  { self with calls := self.calls.become ticket call }

def answer (ticket : ℕ) (answer : Answer ρ) : World ρ :=
  { self with calls := self.calls.finish ticket, answers := self.answers ++ [answer] }

def invalidate (invalidation : Invalidation) : World ρ :=
  { self with
    cache := invalidation.apply self.cache
    log :=
      if invalidation.changes self.cache then self.log ++ [invalidation] else self.log }

def start (request : Request) (cacheAllowed : Bool) : World ρ :=
  { self with
    calls := self.calls.start
      { request, point := if cacheAllowed ∧ config.enabled then .capturing else .sending none } }

def captured (call : Call ρ) (generation since : ℕ) : Call ρ :=
  { call with point := .lookingUp, active := true, generation, since }

def capture (ticket : ℕ) (call : Call ρ) : Option (World ρ) :=
  match call.point with
  | .capturing =>
    let (generation, cache) :=
      self.cache.captureGeneration call.request.method call.request.params
    some ({ self with cache }.become ticket (captured call generation self.log.length))
  | _ => none

def lookUp (ticket now : ℕ) (call : Call ρ) : Option (World ρ) :=
  match call.point with
  | .lookingUp =>
    let held := (self.cache.findEntry config call.request.method call.request.params).map
      fun (key, entry) =>
        { value := entry.value, personal := decide (key.partition ≠ .publicPartition)
          since := entry.since, foundAt := self.log.length : Held }
    match self.cache.lookup config now call.request.method call.request.params, held with
    | .fresh value, some held =>
      match codec.decodeCached call.request.method value with
      | some result => some (self.become ticket { call with point := .hit result held })
      | none => some (self.become ticket { call with point := .evicting })
    | .stale _, some held =>
      some (self.become ticket { call with point := .sending (some held) })
    | _, _ => some (self.become ticket { call with point := .sending none })
  | _ => none

def evict (ticket : ℕ) (call : Call ρ) : Option (World ρ) :=
  match call.point with
  | .evicting =>
    some ((self.invalidate call.request.eviction).become ticket
      { call with point := .sending none })
  | _ => none

def respond (ticket : ℕ) (call : Call ρ) (outcome : Except String (RequestOutcome ρ)) :
    Option (World ρ) :=
  match call.point, outcome with
  | .sending _, .ok (.complete result) =>
    if call.active then some (self.become ticket { call with point := .writing result })
    else some (self.answer ticket { request := call.request, result := .ok result })
  | .sending stale, .ok (.inputRequired requests) =>
    if call.request.method = .resourcesRead then
      some (self.become ticket { call with point := .asking stale requests })
    else none
  | .sending stale, .error error =>
    some (self.become ticket { call with point := .failing stale error self.log.length })
  | _, _ => none

def releaseSlot (call : Call ρ) : World ρ :=
  if call.active then
    { self with cache := self.cache.releaseGeneration call.request.method call.request.params }
  else self

def resolve (ticket : ℕ) (call : Call ρ) (resolved : Except String Unit) : Option (World ρ) :=
  match call.point with
  | .resolving stale requests =>
    let failed (error : String) : World ρ :=
      self.answer ticket { request := call.request, result := .error error }
    if call.round = maxMrtrRounds then
      some (failed ("MRTR round limit (" ++ toString maxMrtrRounds ++ ") exceeded for resources/read"))
    else if requests = false then
      some (failed "input_required result has no requests the client can fulfil")
    else
      match resolved with
      | .error error => some (failed error)
      | .ok () =>
        some (self.become ticket
          { call with point := .sending stale, round := call.round + 1 })
  | _ => none

def write (ticket now : ℕ) (call : Call ρ) : Option (World ρ) :=
  match call.point with
  | .writing result =>
    let cache :=
      match codec.toValue result with
      | .ok value =>
        self.cache.write config clockRange now call.request.method call.request.params
          call.generation value (codec.ttlMs result) (codec.cacheScope result) call.since
      | .error _ => self.cache.releaseGeneration call.request.method call.request.params
    some ({ self with cache }.answer ticket { request := call.request, result := .ok result })
  | _ => none

def fallback (call : Call ρ) (stale : Option Held) (error : String) (observed : ℕ) : Answer ρ :=
  let served := stale.bind fun held =>
    if config.serveStaleOnError then
      (codec.decodeCached call.request.method held.value).map fun result => (result, held)
    else none
  match served with
  | some (result, held) =>
    { request := call.request, result := .ok result, cached := some (held, observed) }
  | none => { request := call.request, result := .error error }

def release (ticket : ℕ) (call : Call ρ) : Option (World ρ) :=
  match call.point with
  | .hit result held =>
    some ((self.releaseSlot call).answer ticket
      { request := call.request, result := .ok result, cached := some (held, held.foundAt) })
  | .failing stale error observed =>
    some ((self.releaseSlot call).answer ticket
      (fallback codec config call stale error observed))
  | .asking stale requests =>
    some ((self.releaseSlot call).become ticket
      { call with point := .resolving stale requests, active := false })
  | _ => none

end World

def step (codec : Codec ρ) (config : ClientCacheConfig) (clockRange maxMrtrRounds : ℕ)
    (world : World ρ) : Event ρ → Option (World ρ)
  | .start request cacheAllowed => some (world.start config request cacheAllowed)
  | .capture ticket => world.calls.get ticket >>= world.capture ticket
  | .lookUp ticket now => world.calls.get ticket >>= world.lookUp codec config ticket now
  | .evict ticket => world.calls.get ticket >>= world.evict ticket
  | .respond ticket outcome =>
    world.calls.get ticket >>= fun call => world.respond ticket call outcome
  | .resolve ticket resolved =>
    world.calls.get ticket >>= fun call => world.resolve maxMrtrRounds ticket call resolved
  | .write ticket now => world.calls.get ticket >>= world.write codec config clockRange ticket now
  | .release ticket => world.calls.get ticket >>= world.release codec config ticket
  | .drop ticket => some { world with calls := world.calls.finish ticket }
  | .invalidate invalidation =>
    if invalidation.issued then some (world.invalidate invalidation) else none

def Untouched (log : List Invalidation) (since : ℕ) (request : Request) (personal : Bool) : Prop :=
  ∀ invalidation ∈ log.drop since, invalidation.covers request personal = false

/-- An answer from the cache is a value that no invalidation was about between the request that
brought it and the decision to return it. -/
def Answer.Current (log : List Invalidation) (answer : Answer ρ) : Prop :=
  ∀ held observed, answer.cached = some (held, observed) →
    Untouched (log.take observed) held.since answer.request held.personal

def Current (world : World ρ) : Prop :=
  ∀ answer ∈ world.answers, answer.Current world.log

/-- The condition under which a fallback is current: from the lookup that copied the value to the
failure of the refresh, no invalidation that is about the value has finished. -/
def FallbackInTime (codec : Codec ρ) (config : ClientCacheConfig) (world : World ρ) :
    Event ρ → Prop
  | .release ticket => ∀ call held error observed, world.calls.get ticket = some call →
      call.point = .failing (some held) error observed → config.serveStaleOnError = true →
      codec.decodeCached call.request.method held.value ≠ none →
      Untouched (world.log.take observed) held.foundAt call.request held.personal
  | _ => True

/-! ## What is not touched -/

variable {invalidation : Invalidation} {request : Request} {personal : Bool}

theorem Invalidation.covers_mono (h : invalidation.covers request true = false) :
    invalidation.covers request personal = false := by
  cases invalidation with
  | setPartition partition => cases h
  | _ => exact h

variable {log : List Invalidation}

variable {since : ℕ}

theorem Untouched.mono (h : Untouched log since request true) :
    Untouched log since request personal :=
  fun invalidation hmem => Invalidation.covers_mono (h invalidation hmem)

theorem untouched_length (log : List Invalidation) (request : Request) (personal : Bool) :
    Untouched log log.length request personal := by
  simp [Untouched]

theorem Untouched.append (h : Untouched log since request personal)
    (hsince : since ≤ log.length) (hcovers : invalidation.covers request personal = false) :
    Untouched (log ++ [invalidation]) since request personal := by
  intro other hmem
  rw [List.drop_append_of_le_length hsince] at hmem
  rcases List.mem_append.1 hmem with hearlier | hlast
  · exact h other hearlier
  · exact List.mem_singleton.1 hlast ▸ hcovers

variable {observed : ℕ}

theorem take_append_eq (h : observed ≤ log.length) (later : List Invalidation) :
    (log ++ later).take observed = log.take observed :=
  List.take_append_of_le_length h

theorem untouched_iff_after {found : ℕ} (hsince : since ≤ found)
    (hbefore : Untouched (log.take found) since request personal) :
    Untouched log since request personal ↔ Untouched log found request personal := by
  have hsplit : log.drop since = (log.take found).drop since ++ log.drop found := by
    conv_lhs => rw [← List.take_append_drop found log]
    by_cases hfound : found ≤ log.length
    · rw [List.drop_append_of_le_length (by simp; omega)]
    · have hall : log.drop found = [] := List.drop_of_length_le (by omega)
      simp [hall]
  constructor
  · intro h invalidation hmem
    exact h invalidation (hsplit ▸ List.mem_append_right _ hmem)
  · intro h invalidation hmem
    rw [hsplit] at hmem
    rcases List.mem_append.1 hmem with hearlier | hlater
    · exact hbefore invalidation hearlier
    · exact h invalidation hlater

/-! ## The invariant -/

def Point.held : Point ρ → Option Held
  | .hit _ held => some held
  | .sending stale | .asking stale _ | .resolving stale _ | .failing stale _ _ => stale
  | .capturing | .lookingUp | .evicting | .writing _ => none

structure Held.Sound (log : List Invalidation) (request : Request) (held : Held) : Prop where
  since_le : held.since ≤ held.foundAt
  found_le : held.foundAt ≤ log.length
  untouched : Untouched (log.take held.foundAt) held.since request held.personal

/-- A call holds a slot of the cache whose generation moves on when something is about the result
of the call. -/
structure Call.Slotted (cache : CacheState) (log : List Invalidation) (call : Call ρ) : Prop where
  since_le : call.since ≤ log.length
  slot : ∃ slot, cache.generations.lookup call.request.key = some slot ∧
    call.generation ≤ slot.generation ∧
      (slot.generation = call.generation → Untouched log call.since call.request true)

structure Call.Sound (cache : CacheState) (log : List Invalidation) (call : Call ρ) : Prop where
  slotted : call.active = true → call.Slotted cache log
  held : ∀ held, call.point.held = some held → held.Sound log call.request
  observed : ∀ stale error observed, call.point = .failing stale error observed →
    observed ≤ log.length ∧ ∀ held, stale = some held → held.foundAt ≤ observed
  writing : ∀ result, call.point = .writing result → call.active = true

def holders (calls : Pool (Call ρ)) (key : LogicalKey) : ℕ :=
  calls.calls.total fun call => if call.active = true ∧ call.request.key = key then 1 else 0

def inFlight (cache : CacheState) (key : LogicalKey) : ℕ :=
  ((cache.generations.lookup key).map (·.inFlight)).getD 0

def EntriesUntouched (cache : CacheState) (log : List Invalidation) : Prop :=
  ∀ key entry, cache.entries.lookup key = some entry → entry.since ≤ log.length ∧
    Untouched log entry.since ⟨key.method, key.params⟩ (decide (key.partition ≠ .publicPartition))

structure Sound (world : World ρ) : Prop where
  entries : EntriesUntouched world.cache world.log
  calls : world.calls.Holds (Call.Sound world.cache world.log)
  counted : ∀ key, holders world.calls key ≤ inFlight world.cache key
  answers : ∀ answer ∈ world.answers, ∀ held observed,
    answer.cached = some (held, observed) → observed ≤ world.log.length

/-! ## Invalidations -/

variable {cache : CacheState}

theorem Invalidation.lookup_apply {key : CacheKey} {entry : CacheEntry}
    (h : (invalidation.apply cache).entries.lookup key = some entry) :
    cache.entries.lookup key = some entry ∧ (invalidation.changes cache = true →
      invalidation.covers ⟨key.method, key.params⟩ (decide (key.partition ≠ .publicPartition)) =
        false) := by
  cases invalidation with
  | evictMethod method =>
    obtain ⟨hbefore, hkept⟩ := CacheState.lookup_retain h
    rw [CacheState.bump_entries] at hbefore
    exact ⟨hbefore, fun _ => decide_eq_false (of_decide_eq_true hkept)⟩
  | evictResource uri =>
    obtain ⟨hbefore, hkept⟩ := CacheState.lookup_retain h
    rw [CacheState.bump_entries] at hbefore
    refine ⟨hbefore, fun _ => decide_eq_false ?_⟩
    rintro ⟨hmethod, huri⟩
    exact (of_decide_eq_true hkept).elim (absurd hmethod) (absurd huri)
  | clear => cases h
  | setPartition partition =>
    by_cases hsame : cache.partition = partition
    · rw [apply, CacheState.setPartition, if_pos hsame] at h
      exact ⟨h, fun hchanges => absurd hsame (of_decide_eq_true hchanges)⟩
    · rw [apply, CacheState.setPartition, if_neg hsame] at h
      obtain ⟨hbefore, hkept⟩ := CacheState.lookup_retain h
      exact ⟨hbefore, fun _ => decide_eq_false (not_not.2 (of_decide_eq_true hkept))⟩

theorem Invalidation.generations_apply (cache : CacheState) (hissued : invalidation.issued = true)
    (request : Request) :
    (invalidation.apply cache).generations.lookup request.key =
      (cache.generations.lookup request.key).map fun slot =>
        if invalidation.changes cache = true ∧ invalidation.covers request true = true then slot.bump
        else slot := by
  cases invalidation with
  | evictMethod method =>
    have hmethod : method ≠ .resourcesRead := of_decide_eq_true hissued
    have hkey : request.key = generationKey method "" ↔ request.method = method := by
      simp only [Request.key, generationKey, LogicalKey.mk.injEq, if_neg hmethod]
      exact ⟨fun h => h.1, fun h => ⟨h, if_neg (h ▸ hmethod)⟩⟩
    simp only [apply, CacheState.evictMethod, CacheState.retain_generations,
      CacheState.lookup_bump, hkey, changes, covers, true_and, decide_eq_true_eq]
    split
    · rfl
    · exact Option.map_id'.symm
  | evictResource uri =>
    have hkey : request.key = generationKey .resourcesRead uri ↔
        request.method = .resourcesRead ∧ request.params = uri := by
      simp only [Request.key, generationKey, LogicalKey.mk.injEq, if_true]
      constructor
      · rintro ⟨hmethod, hparams⟩
        rw [if_pos hmethod] at hparams
        exact ⟨hmethod, Option.some.inj hparams⟩
      · rintro ⟨hmethod, rfl⟩
        exact ⟨hmethod, if_pos hmethod⟩
    simp only [apply, CacheState.evictResource, CacheState.removeLogicalEntries,
      CacheState.retain_generations, CacheState.lookup_bump, hkey, changes, covers, true_and,
      decide_eq_true_eq]
    split
    · rfl
    · exact Option.map_id'.symm
  | clear =>
    simp only [apply, CacheState.clear, CacheState.bumpAll, FinMap.lookup_map_values, changes,
      covers, and_self, if_true]
  | setPartition partition =>
    by_cases hsame : cache.partition = partition
    · have hchanges : ¬(setPartition partition).changes cache = true :=
        fun h => of_decide_eq_true h hsame
      simp only [hchanges, Bool.false_eq_true, false_and, if_false, Option.map_id']
      rw [apply, CacheState.setPartition, if_pos hsame]
    · have hchanges : (setPartition partition).changes cache = true := decide_eq_true hsame
      have hcovers : (setPartition partition).covers request true = true := rfl
      simp only [hchanges, hcovers, and_self, if_true]
      rw [apply, CacheState.setPartition, if_neg hsame]
      exact FinMap.lookup_map_values _ _ _

theorem Invalidation.in_flight_apply (cache : CacheState) (invalidation : Invalidation)
    (key : LogicalKey) : inFlight (invalidation.apply cache) key = inFlight cache key := by
  have hbump (slot : LogicalKey) : inFlight (cache.bump slot) key = inFlight cache key := by
    unfold inFlight
    rw [CacheState.lookup_bump]
    split
    · rw [Option.map_map]
      rfl
    · rfl
  have hall : (((cache.generations.mapValues GenerationSlot.bump).lookup key).map
      (·.inFlight)).getD 0 = inFlight cache key := by
    rw [FinMap.lookup_map_values, Option.map_map]
    rfl
  cases invalidation with
  | evictMethod method => exact hbump _
  | evictResource uri => exact hbump _
  | clear => exact hall
  | setPartition partition =>
    by_cases hsame : cache.partition = partition
    · rw [apply, CacheState.setPartition, if_pos hsame]
    · rw [apply, CacheState.setPartition, if_neg hsame]
      exact hall

theorem World.log_invalidate (world : World ρ) (invalidation : Invalidation) :
    ∃ later, (world.invalidate invalidation).log = world.log ++ later := by
  unfold World.invalidate
  simp only
  split
  · exact ⟨[invalidation], rfl⟩
  · exact ⟨[], (List.append_nil _).symm⟩

theorem Held.Sound.append {held : Held} (hsound : held.Sound log request)
    (later : List Invalidation) : held.Sound (log ++ later) request := by
  refine ⟨hsound.since_le, ?_, ?_⟩
  · rw [List.length_append]
    exact Nat.le_add_right_of_le hsound.found_le
  · rw [take_append_eq hsound.found_le]
    exact hsound.untouched

variable {world : World ρ} {call : Call ρ}

theorem Call.Slotted.invalidate (hslotted : call.Slotted world.cache world.log)
    (hissued : invalidation.issued = true) :
    call.Slotted (world.invalidate invalidation).cache (world.invalidate invalidation).log := by
  obtain ⟨hsince, slot, hslot, hle, huntouched⟩ := hslotted
  have hlookup := Invalidation.generations_apply world.cache hissued call.request
  rw [hslot, Option.map_some] at hlookup
  simp only [World.invalidate]
  by_cases hchanges : invalidation.changes world.cache = true
  · refine ⟨?_, _, hlookup, ?_, ?_⟩
    · rw [if_pos hchanges, List.length_append]
      exact Nat.le_add_right_of_le hsince
    · split
      · exact Nat.le_succ_of_le hle
      · exact hle
    · split
      next =>
        intro hsame
        exact absurd (hsame.le.trans hle) (Nat.not_succ_le_self slot.generation)
      next hcovers =>
        intro hsame
        refine (huntouched hsame).append hsince ?_
        exact Bool.eq_false_iff.2 fun h => hcovers ⟨hchanges, h⟩
  · refine ⟨?_, _, hlookup, ?_, ?_⟩
    · rwa [if_neg hchanges]
    · rwa [if_neg fun h => hchanges h.1]
    · rw [if_neg fun h => hchanges h.1, if_neg hchanges]
      exact huntouched

theorem Call.Sound.invalidate (hsound : call.Sound world.cache world.log)
    (hissued : invalidation.issued = true) :
    call.Sound (world.invalidate invalidation).cache (world.invalidate invalidation).log := by
  obtain ⟨later, hlog⟩ := world.log_invalidate invalidation
  refine ⟨fun hactive => (hsound.slotted hactive).invalidate hissued, ?_, ?_, hsound.writing⟩
  · intro held hheld
    rw [hlog]
    exact (hsound.held held hheld).append later
  · intro stale error observed hpoint
    obtain ⟨hobserved, hfound⟩ := hsound.observed stale error observed hpoint
    rw [hlog, List.length_append]
    exact ⟨Nat.le_add_right_of_le hobserved, hfound⟩

theorem Sound.invalidate (hsound : Sound world) (hissued : invalidation.issued = true) :
    Sound (world.invalidate invalidation) := by
  obtain ⟨later, hlog⟩ := world.log_invalidate invalidation
  refine ⟨?_, ?_, ?_, ?_⟩
  · intro key entry hlookup
    obtain ⟨hbefore, hcovers⟩ := Invalidation.lookup_apply hlookup
    obtain ⟨hsince, huntouched⟩ := hsound.entries key entry hbefore
    simp only [World.invalidate]
    split
    next hchanges =>
      rw [List.length_append]
      exact ⟨Nat.le_add_right_of_le hsince, huntouched.append hsince (hcovers hchanges)⟩
    next => exact ⟨hsince, huntouched⟩
  · exact hsound.calls.mono fun call hcall => hcall.invalidate hissued
  · intro key
    exact (Invalidation.in_flight_apply world.cache invalidation key).symm ▸ hsound.counted key
  · intro answer hanswer held observed hcached
    rw [hlog, List.length_append]
    exact Nat.le_add_right_of_le (hsound.answers answer hanswer held observed hcached)

/-! ## Slots -/

def Call.weight (key : LogicalKey) (call : Call ρ) : ℕ :=
  if call.active = true ∧ call.request.key = key then 1 else 0

variable {calls : Pool (Call ρ)}

theorem holders_become {ticket : ℕ} (hget : calls.get ticket = some call) (moved : Call ρ)
    (key : LogicalKey) :
    holders (calls.become ticket moved) key + call.weight key =
      moved.weight key + holders calls key :=
  FinMap.total_insert_of_lookup hget

theorem holders_finish {ticket : ℕ} (hget : calls.get ticket = some call) (key : LogicalKey) :
    holders (calls.finish ticket) key + call.weight key = holders calls key :=
  FinMap.total_erase hget

theorem holders_finish_le (calls : Pool (Call ρ)) (ticket : ℕ) (key : LogicalKey) :
    holders (calls.finish ticket) key ≤ holders calls key := by
  cases hget : calls.get ticket with
  | none =>
    have herase : calls.calls.erase ticket = calls.calls := FinMap.erase_eq_self hget
    simp only [holders, Pool.finish, herase, Nat.le_refl]
  | some call =>
    have hholders := holders_finish hget key
    omega

variable {ticket other : ℕ}

theorem two_le_holders {held : Call ρ} (hget : calls.get ticket = some call)
    (hactive : call.active = true) (hother : calls.get other = some held)
    (hheld : held.active = true) (hne : other ≠ ticket) (hkey : held.request.key = call.request.key)
    : 2 ≤ holders calls call.request.key := by
  have hfirst : call.weight call.request.key = 1 := if_pos ⟨hactive, rfl⟩
  have hrest : held.weight call.request.key ≤ holders (calls.finish ticket) call.request.key := by
    refine FinMap.le_total_of_lookup (k := other) ?_
    exact (AList.lookup_erase_ne hne).trans hother
  have hsecond : held.weight call.request.key = 1 := if_pos ⟨hheld, hkey⟩
  have hsum := holders_finish hget call.request.key
  omega

theorem in_flight_capture (cache : CacheState) (method : CacheableMethod) (params : String)
    (key : LogicalKey) :
    inFlight (cache.captureGeneration method params).2 key =
      inFlight cache key + if key = generationKey method params then 1 else 0 := by
  unfold inFlight
  rw [CacheState.lookup_capture]
  by_cases hkey : key = generationKey method params
  · rw [if_pos hkey, if_pos hkey]
    cases cache.generations.lookup key with
    | none => rfl
    | some slot => rfl
  · rw [if_neg hkey, if_neg hkey]
    rfl

theorem in_flight_finish (cache : CacheState) (slot key : LogicalKey) (captured : Option ℕ) :
    inFlight (cache.finishGeneration slot captured).2 key =
      inFlight cache key - if key = slot then 1 else 0 := by
  unfold inFlight
  rw [CacheState.lookup_finish]
  split
  next hkey =>
    cases cache.generations.lookup key with
    | none => rfl
    | some held =>
      simp only [Option.bind_some, Option.map_some, Option.getD_some]
      split
      next hlast => simp [hlast]
      next => rfl
  next => rfl

theorem Call.Slotted.finish {held : Call ρ}
    (hcounted : ∀ key, holders calls key ≤ inFlight cache key) (hget : calls.get ticket = some call)
    (hactive : call.active = true) (hother : calls.get other = some held)
    (hheld : held.active = true) (hne : other ≠ ticket) (captured : Option ℕ)
    (hslotted : held.Slotted cache log) :
    held.Slotted (cache.finishGeneration call.request.key captured).2 log := by
  obtain ⟨hsince, slot, hslot, hle, huntouched⟩ := hslotted
  refine ⟨hsince, ?_⟩
  rw [CacheState.lookup_finish]
  split
  next hkey =>
    have htwo := two_le_holders hget hactive hother hheld hne hkey
    have hcount := hcounted call.request.key
    have hflight : inFlight cache call.request.key = slot.inFlight := by
      rw [inFlight, ← hkey, hslot]
      rfl
    have hmore : ¬slot.inFlight - 1 = 0 := by omega
    refine ⟨{ slot with inFlight := slot.inFlight - 1 }, ?_, hle, huntouched⟩
    rw [hslot, Option.bind_some, if_neg hmore]
  next => exact ⟨slot, hslot, hle, huntouched⟩

theorem Call.Sound.finish {held : Call ρ}
    (hcounted : ∀ key, holders calls key ≤ inFlight cache key) (hget : calls.get ticket = some call)
    (hactive : call.active = true) (hother : calls.get other = some held) (hne : other ≠ ticket)
    (captured : Option ℕ) (hsound : held.Sound cache log) :
    held.Sound (cache.finishGeneration call.request.key captured).2 log :=
  ⟨fun hheld =>
      (hsound.slotted hheld).finish hcounted hget hactive hother hheld hne captured,
    hsound.held, hsound.observed, hsound.writing⟩

theorem Call.Sound.of_generations {other : CacheState} (hsound : call.Sound cache log)
    (hgenerations : other.generations = cache.generations) : call.Sound other log := by
  refine ⟨fun hactive => ?_, hsound.held, hsound.observed, hsound.writing⟩
  obtain ⟨hsince, hslot⟩ := hsound.slotted hactive
  exact ⟨hsince, hgenerations ▸ hslot⟩

theorem counted_finish {left : Pool (Call ρ)}
    (hcounted : ∀ key, holders calls key ≤ inFlight cache key) (hactive : call.active = true)
    (hleft : ∀ key, holders left key + call.weight key ≤ holders calls key) (captured : Option ℕ)
    (key : LogicalKey) :
    holders left key ≤ inFlight (cache.finishGeneration call.request.key captured).2 key := by
  have hcount := hcounted key
  have hless := hleft key
  rw [in_flight_finish]
  by_cases hkey : key = call.request.key
  · have hweight : call.weight key = 1 := if_pos ⟨hactive, hkey.symm⟩
    rw [if_pos hkey]
    omega
  · rw [if_neg hkey]
    omega

/-! ## Steps -/

variable {codec : Codec ρ} {config : ClientCacheConfig} {clockRange maxMrtrRounds : ℕ}
  {world next : World ρ} {ticket : ℕ} {call : Call ρ}

theorem Sound.become (hsound : Sound world) (hget : world.calls.get ticket = some call)
    {moved : Call ρ} (hactive : moved.active = call.active) (hrequest : moved.request = call.request)
    (hmoved : moved.Sound world.cache world.log) : Sound (world.become ticket moved) := by
  refine ⟨hsound.entries, hsound.calls.become hmoved, fun key => ?_, hsound.answers⟩
  have hholders := holders_become hget moved key
  have hweight : moved.weight key = call.weight key := by
    rw [Call.weight, Call.weight, hactive, hrequest]
  have hcounted := hsound.counted key
  show holders (world.calls.become ticket moved) key ≤ inFlight world.cache key
  omega

theorem Sound.moveTo (hsound : Sound world) (hget : world.calls.get ticket = some call)
    (point : Point ρ) (round : ℕ)
    (hheld : ∀ held, point.held = some held → held.Sound world.log call.request)
    (hobserved : ∀ stale error observed, point = .failing stale error observed →
      observed ≤ world.log.length ∧ ∀ held, stale = some held → held.foundAt ≤ observed)
    (hwriting : ∀ result, point = .writing result → call.active = true) :
    Sound (world.become ticket { call with point, round }) := by
  refine hsound.become hget rfl rfl ⟨fun hactive => ?_, hheld, hobserved, hwriting⟩
  have hslotted := (hsound.calls.of_get hget).slotted hactive
  exact ⟨hslotted.since_le, hslotted.slot⟩

theorem Sound.capture (hsound : Sound world) (hget : world.calls.get ticket = some call)
    (hnext : world.capture ticket call = some next) : Sound next := by
  unfold World.capture at hnext
  split at hnext
  next hpoint =>
    cases hnext
    have hlookup := @CacheState.lookup_capture world.cache call.request.method call.request.params
    have hentries := hsound.entries
    refine ⟨hentries, ?_, ?_, hsound.answers⟩
    · have hothers : world.calls.Holds (Call.Sound (world.cache.captureGeneration
          call.request.method call.request.params).2 world.log) := by
        refine hsound.calls.mono fun held hheld => ⟨fun hactive => ?_, hheld.held, hheld.observed,
          hheld.writing⟩
        obtain ⟨hsince, slot, hslot, hle, huntouched⟩ := hheld.slotted hactive
        refine ⟨hsince, ?_⟩
        rw [hlookup]
        split
        next => exact ⟨_, rfl, by simp only [hslot, Option.getD_some]; exact ⟨hle, huntouched⟩⟩
        next => exact ⟨slot, hslot, hle, huntouched⟩
      refine hothers.become ⟨fun _ => ⟨Nat.le_refl _, ?_⟩, ?_, ?_, ?_⟩
      · refine ⟨_, (hlookup call.request.key).trans (if_pos rfl), ?_, ?_⟩
        · exact Nat.le_refl _
        · exact fun _ => untouched_length world.log call.request true
      · intro held hheld
        cases hheld
      · intro stale error observed hfailing
        cases hfailing
      · intro result hwriting
        cases hwriting
    · intro key
      have hholders := holders_become hget (World.captured call (world.cache.captureGeneration
        call.request.method call.request.params).1 world.log.length) key
      have hcounted := hsound.counted key
      have hflight := in_flight_capture world.cache call.request.method call.request.params key
      have hweight (generation since : ℕ) : (World.captured call generation since).weight key =
          if key = generationKey call.request.method call.request.params then 1 else 0 := by
        by_cases hkey : key = generationKey call.request.method call.request.params
        · rw [if_pos hkey]
          exact if_pos ⟨rfl, hkey.symm⟩
        · rw [if_neg hkey]
          exact if_neg fun h => hkey h.2.symm
      rw [hweight] at hholders
      have hle := Nat.le_of_add_right_le hholders.le
      exact hle.trans (le_trans (by omega) hflight.symm.le)
  next => cases hnext

variable {now : ℕ}

theorem World.look_up_cases (hnext : world.lookUp codec config ticket now call = some next) :
    ∃ point : Point ρ, next = world.become ticket { call with point } ∧
      (∀ held, point.held = some held → ∃ key entry,
        world.cache.findEntry config call.request.method call.request.params = some (key, entry) ∧
          held = { value := entry.value, personal := decide (key.partition ≠ .publicPartition)
                   since := entry.since, foundAt := world.log.length }) ∧
      (∀ stale error observed, point ≠ .failing stale error observed) ∧
      (∀ result, point ≠ .writing result) ∧ point ≠ .capturing := by
  unfold World.lookUp at hnext
  split at hnext
  next =>
    simp only at hnext
    have hheld (held : Held) (h : (world.cache.findEntry config call.request.method
        call.request.params).map (fun (key, entry) =>
          ({ value := entry.value, personal := decide (key.partition ≠ .publicPartition)
             since := entry.since, foundAt := world.log.length } : Held)) = some held) :
        ∃ key entry, world.cache.findEntry config call.request.method call.request.params =
          some (key, entry) ∧ held =
            { value := entry.value, personal := decide (key.partition ≠ .publicPartition)
              since := entry.since, foundAt := world.log.length } := by
      obtain ⟨⟨key, entry⟩, hfound, rfl⟩ := Option.map_eq_some_iff.1 h
      exact ⟨key, entry, hfound, rfl⟩
    split at hnext
    next value held _ hfound =>
      split at hnext
      next result _ =>
        refine ⟨.hit result held, (Option.some.inj hnext).symm, fun other hother => ?_, by simp,
          by simp, nofun⟩
        cases hother
        exact hheld _ hfound
      next =>
        refine ⟨.evicting, (Option.some.inj hnext).symm, fun held h => ?_, by simp, by simp, nofun⟩
        cases h
    next value held _ hfound =>
      refine ⟨.sending (some held), (Option.some.inj hnext).symm, fun other hother => ?_, by simp,
        by simp, nofun⟩
      cases hother
      exact hheld _ hfound
    next =>
      refine ⟨.sending none, (Option.some.inj hnext).symm, fun held h => ?_, by simp, by simp, nofun⟩
      cases h
  next => cases hnext

theorem Sound.lookUp (hsound : Sound world) (hget : world.calls.get ticket = some call)
    (hnext : world.lookUp codec config ticket now call = some next) : Sound next := by
  obtain ⟨point, rfl, hheld, hfailing, hwriting, _⟩ := World.look_up_cases hnext
  refine hsound.moveTo hget point call.round (fun held hpoint => ?_)
    (fun stale error observed h => absurd h (hfailing stale error observed))
    fun result h => absurd h (hwriting result)
  obtain ⟨key, entry, hfound, rfl⟩ := hheld held hpoint
  obtain ⟨hlookup, hmethod, hparams⟩ := CacheState.find_entry_some hfound
  obtain ⟨hsince, huntouched⟩ := hsound.entries key entry hlookup
  refine ⟨hsince, Nat.le_refl _, ?_⟩
  rw [List.take_length]
  rw [hmethod, hparams] at huntouched
  exact huntouched

theorem Sound.evict (hsound : Sound world) (hget : world.calls.get ticket = some call)
    (hnext : world.evict ticket call = some next) : Sound next := by
  unfold World.evict at hnext
  split at hnext
  next =>
    cases hnext
    have hissued : call.request.eviction.issued = true := by
      unfold Request.eviction
      split
      next => rfl
      next hmethod => exact decide_eq_true hmethod
    exact (hsound.invalidate hissued).moveTo hget (.sending none) call.round nofun nofun nofun
  next => cases hnext

theorem Sound.answer (hsound : Sound world) (answer : Answer ρ)
    (hcached : ∀ held observed, answer.cached = some (held, observed) →
      observed ≤ world.log.length) : Sound (world.answer ticket answer) := by
  refine ⟨hsound.entries, hsound.calls.finish, fun key => ?_, ?_⟩
  · exact (holders_finish_le world.calls ticket key).trans (hsound.counted key)
  · intro other hother held observed hheld
    rcases List.mem_append.1 hother with hearlier | hlast
    · exact hsound.answers other hearlier held observed hheld
    · obtain rfl := List.mem_singleton.1 hlast
      exact hcached held observed hheld

variable {outcome : Except String (RequestOutcome ρ)}

theorem Sound.respond (hsound : Sound world) (hget : world.calls.get ticket = some call)
    (hnext : world.respond ticket call outcome = some next) : Sound next := by
  have hcall := hsound.calls.of_get hget
  unfold World.respond at hnext
  split at hnext
  next held result hpoint =>
    split at hnext
    next hactive =>
      cases hnext
      exact hsound.moveTo hget (.writing result) call.round nofun nofun fun _ _ => hactive
    next =>
      cases hnext
      exact hsound.answer _ fun held observed hcached => by cases hcached
  next stale requests hpoint =>
    obtain ⟨_, hnext⟩ := Option.ite_none_right_eq_some.1 hnext
    cases hnext
    exact hsound.moveTo hget (.asking stale requests) call.round
      (fun held hheld => hcall.held held (hpoint ▸ hheld)) nofun nofun
  next stale error hpoint =>
    cases hnext
    refine hsound.moveTo hget (.failing stale error _) call.round
      (fun held hheld => hcall.held held (hpoint ▸ hheld)) (fun other text observed hfailing => ?_)
      nofun
    cases hfailing
    exact ⟨Nat.le_refl _, fun held hheld => (hcall.held held (hpoint ▸ hheld)).found_le⟩
  next => cases hnext

variable {resolved : Except String Unit}

theorem Sound.resolve (hsound : Sound world) (hget : world.calls.get ticket = some call)
    (hnext : world.resolve maxMrtrRounds ticket call resolved = some next) : Sound next := by
  have hcall := hsound.calls.of_get hget
  have hfailed (error : String) : Sound (world.answer ticket
      { request := call.request, result := .error error }) :=
    hsound.answer _ fun held observed hcached => by cases hcached
  unfold World.resolve at hnext
  split at hnext
  next stale requests hpoint =>
    split at hnext
    · exact Option.some.inj hnext ▸ hfailed _
    · split at hnext
      · exact Option.some.inj hnext ▸ hfailed _
      · split at hnext
        next => exact Option.some.inj hnext ▸ hfailed _
        next =>
          cases hnext
          exact hsound.moveTo hget (.sending stale) (call.round + 1)
            (fun held hheld => hcall.held held (hpoint ▸ hheld)) nofun nofun
  next => cases hnext

theorem Sound.leave (hsound : Sound world) (hget : world.calls.get ticket = some call)
    (hgenerations : cache.generations = world.cache.generations ∨ call.active = true ∧
      ∃ captured, cache.generations =
        (world.cache.finishGeneration call.request.key captured).2.generations)
    (left : Pool (Call ρ)) (hothers : ∀ other held, left.get other = some held →
      other ≠ ticket ∧ world.calls.get other = some held ∨
        held.active = false ∧ held.Sound world.cache world.log)
    (hleft : ∀ key, holders left key + call.weight key ≤ holders world.calls key) :
    left.Holds (Call.Sound cache world.log) ∧ ∀ key, holders left key ≤ inFlight cache key := by
  rcases hgenerations with hkept | ⟨hactive, captured, hfinished⟩
  · refine ⟨fun other held hheld => ?_, fun key => ?_⟩
    · rcases hothers other held hheld with ⟨_, hbefore⟩ | ⟨_, hinactive⟩
      · exact (hsound.calls.of_get hbefore).of_generations hkept
      · exact hinactive.of_generations hkept
    · have hcounted := hsound.counted key
      have hless := hleft key
      rw [inFlight, hkept]
      exact (Nat.le_of_add_right_le hless).trans hcounted
  · refine ⟨fun other held hheld => ?_, fun key => ?_⟩
    · rcases hothers other held hheld with ⟨hne, hbefore⟩ | ⟨hinactive, hheld⟩
      · exact ((hsound.calls.of_get hbefore).finish hsound.counted hget hactive hbefore hne
          captured).of_generations hfinished
      · exact ⟨fun h => absurd (hinactive.symm.trans h) Bool.false_ne_true, hheld.held,
          hheld.observed, hheld.writing⟩
    · rw [inFlight, hfinished]
      exact counted_finish hsound.counted hactive hleft captured key

theorem others_of_finish {held : Call ρ}
    (hheld : (calls.finish ticket).get other = some held) :
    other ≠ ticket ∧ calls.get other = some held := by
  rw [Pool.get_finish_eq_ite] at hheld
  split at hheld
  next => cases hheld
  next hne => exact ⟨hne, hheld⟩

theorem Sound.answerWith (hsound : Sound world) (hget : world.calls.get ticket = some call)
    (hentries : EntriesUntouched cache world.log)
    (hgenerations : cache.generations = world.cache.generations ∨ call.active = true ∧
      ∃ captured, cache.generations =
        (world.cache.finishGeneration call.request.key captured).2.generations)
    (answer : Answer ρ) (hcached : ∀ held observed, answer.cached = some (held, observed) →
      observed ≤ world.log.length) : Sound ({ world with cache }.answer ticket answer) := by
  obtain ⟨hcalls, hcounted⟩ := hsound.leave hget hgenerations
    (world.calls.finish ticket) (fun other held hheld => .inl (others_of_finish hheld))
    fun key => (holders_finish hget key).le
  have hanswered : Sound (world.answer ticket answer) := hsound.answer answer hcached
  exact ⟨hentries, hcalls, hcounted, hanswered.answers⟩

theorem Sound.write (hsound : Sound world) (hget : world.calls.get ticket = some call)
    (hnext : world.write codec config clockRange ticket now call = some next) : Sound next := by
  have hcall := hsound.calls.of_get hget
  unfold World.write at hnext
  split at hnext
  next result hpoint =>
    have hactive : call.active = true := hcall.writing result hpoint
    obtain ⟨hsince, slot, hslot, _, huntouched⟩ := hcall.slotted hactive
    simp only [Option.some.injEq] at hnext
    subst hnext
    cases hvalue : codec.toValue result with
    | error message =>
      refine hsound.answerWith hget ?_ (.inr ⟨hactive, none, rfl⟩) _ nofun
      intro key entry hlookup
      refine hsound.entries key entry ?_
      rwa [CacheState.finish_entries] at hlookup
    | ok value =>
      refine hsound.answerWith hget ?_ ?_ _ nofun
      · intro key entry hlookup
        rcases CacheState.lookup_write hlookup with hbefore |
          ⟨hvalid, hmethod, hparams, hentry, -⟩
        · exact hsound.entries key entry hbefore
        · obtain ⟨held, hheld, hgeneration⟩ := CacheState.generation_of_finish hvalid
          obtain rfl := Option.some.inj (hslot.symm.trans hheld)
          rw [hmethod, hparams, hentry]
          exact ⟨hsince, (huntouched hgeneration).mono⟩
      · cases henabled : config.enabled with
        | true =>
          exact .inr ⟨hactive, some call.generation, CacheState.write_generations henabled⟩
        | false =>
          exact .inl (congrArg CacheState.generations (CacheState.write_disabled henabled))
  next => cases hnext

theorem entries_release_slot (world : World ρ) (call : Call ρ) :
    (world.releaseSlot call).cache.entries = world.cache.entries := by
  unfold World.releaseSlot
  split
  · exact CacheState.finish_entries _ _
  · rfl

theorem generations_release_slot (world : World ρ) (call : Call ρ) :
    (world.releaseSlot call).cache.generations = world.cache.generations ∨ call.active = true ∧
      ∃ captured, (world.releaseSlot call).cache.generations =
        (world.cache.finishGeneration call.request.key captured).2.generations := by
  unfold World.releaseSlot
  split
  next hactive => exact .inr ⟨hactive, none, rfl⟩
  next => exact .inl rfl

theorem release_slot_eq (world : World ρ) (call : Call ρ) :
    world.releaseSlot call = { world with cache := (world.releaseSlot call).cache } := by
  unfold World.releaseSlot
  split <;> rfl

theorem release_slot_frame (world : World ρ) (call : Call ρ) :
    (world.releaseSlot call).log = world.log ∧ (world.releaseSlot call).calls = world.calls ∧
      (world.releaseSlot call).answers = world.answers := by
  rw [release_slot_eq]
  exact ⟨rfl, rfl, rfl⟩

theorem Sound.entries_released (hsound : Sound world) (call : Call ρ) :
    EntriesUntouched (world.releaseSlot call).cache world.log := by
  unfold EntriesUntouched
  rw [entries_release_slot]
  exact hsound.entries

theorem Sound.releaseAnswer (hsound : Sound world) (hget : world.calls.get ticket = some call)
    (answer : Answer ρ) (hcached : ∀ held observed, answer.cached = some (held, observed) →
      observed ≤ world.log.length) :
    Sound ((world.releaseSlot call).answer ticket answer) := by
  rw [release_slot_eq]
  exact hsound.answerWith hget (hsound.entries_released call) (generations_release_slot world call)
    answer hcached

theorem fallback_cached {stale : Option Held} {error : String} {held : Held} {decided : ℕ}
    (h : (World.fallback codec config call stale error observed).cached = some (held, decided)) :
    stale = some held ∧ decided = observed ∧ config.serveStaleOnError = true ∧
      codec.decodeCached call.request.method held.value ≠ none := by
  unfold World.fallback at h
  simp only at h
  split at h
  next result served hserved =>
    cases h
    obtain ⟨copy, hstale, hcopy⟩ := Option.bind_eq_some_iff.1 hserved
    obtain ⟨hserve, hdecoded⟩ := Option.ite_none_right_eq_some.1 hcopy
    obtain ⟨decoded, hdecode, hpair⟩ := Option.map_eq_some_iff.1 hdecoded
    cases hpair
    exact ⟨hstale, rfl, hserve, by simp [hdecode]⟩
  next => cases h

theorem Sound.release (hsound : Sound world) (hget : world.calls.get ticket = some call)
    (hnext : world.release codec config ticket call = some next) : Sound next := by
  have hcall := hsound.calls.of_get hget
  unfold World.release at hnext
  split at hnext
  next result held hpoint =>
    cases hnext
    refine hsound.releaseAnswer hget _ fun other observed hcached => ?_
    cases hcached
    exact (hcall.held held (hpoint ▸ rfl)).found_le
  next stale error observed hpoint =>
    cases hnext
    refine hsound.releaseAnswer hget _ fun other decided hcached => ?_
    obtain ⟨_, rfl, _⟩ := fallback_cached hcached
    exact (hcall.observed stale error decided hpoint).1
  next stale requests hpoint =>
    cases hnext
    have hmoved : Call.Sound (ρ := ρ) world.cache world.log
        { call with point := .resolving stale requests, active := false } := by
      refine ⟨fun h => (by cases h), fun held hheld => hcall.held held (hpoint ▸ hheld), ?_, ?_⟩
      · intro other text observed hfailing
        cases hfailing
      · intro result hwriting
        cases hwriting
    obtain ⟨hcalls, hcounted⟩ := hsound.leave hget (generations_release_slot world call)
      (world.calls.become ticket
        { call with point := .resolving stale requests, active := false })
      (fun other held hheld => by
        rw [Pool.get_become_eq_ite] at hheld
        split at hheld
        next => exact .inr (Option.some.inj hheld ▸ ⟨rfl, hmoved⟩)
        next hne => exact .inl ⟨hne, hheld⟩)
      fun key => by
        rw [holders_become hget]
        simp [Call.weight]
    rw [release_slot_eq]
    exact ⟨hsound.entries_released call, hcalls, hcounted, hsound.answers⟩
  next => cases hnext

theorem Sound.start (hsound : Sound world) (request : Request) (cacheAllowed : Bool) :
    Sound (world.start config request cacheAllowed) := by
  refine ⟨hsound.entries, hsound.calls.start ⟨fun h => (by cases h), ?_, ?_, ?_⟩, fun key => ?_,
    hsound.answers⟩
  · intro held hheld
    split at hheld
    · cases hheld
    · cases hheld
  · intro stale error observed hfailing
    split at hfailing
    · cases hfailing
    · cases hfailing
  · intro result hwriting
    split at hwriting
    · cases hwriting
    · cases hwriting
  · have hnone : Call.weight (ρ := ρ) key
        { request, point := if cacheAllowed ∧ config.enabled then .capturing else .sending none } =
          0 := if_neg fun h => by cases h.1
    have hstart : holders (world.start config request cacheAllowed).calls key =
        _ + holders (world.calls.finish world.calls.next) key :=
      FinMap.total_insert (Call.weight key) world.calls.calls world.calls.next _
    rw [hstart, hnone, Nat.zero_add]
    exact (holders_finish_le world.calls world.calls.next key).trans (hsound.counted key)

variable {event : Event ρ}

theorem Sound.step (hsound : Sound world)
    (hnext : step codec config clockRange maxMrtrRounds world event = some next) : Sound next := by
  cases event with
  | start request cacheAllowed => exact Option.some.inj hnext ▸ hsound.start request cacheAllowed
  | capture ticket =>
    obtain ⟨call, hget, hnext⟩ := Option.bind_eq_some_iff.1 hnext
    exact hsound.capture hget hnext
  | lookUp ticket now =>
    obtain ⟨call, hget, hnext⟩ := Option.bind_eq_some_iff.1 hnext
    exact hsound.lookUp hget hnext
  | evict ticket =>
    obtain ⟨call, hget, hnext⟩ := Option.bind_eq_some_iff.1 hnext
    exact hsound.evict hget hnext
  | respond ticket outcome =>
    obtain ⟨call, hget, hnext⟩ := Option.bind_eq_some_iff.1 hnext
    exact hsound.respond hget hnext
  | resolve ticket resolved =>
    obtain ⟨call, hget, hnext⟩ := Option.bind_eq_some_iff.1 hnext
    exact hsound.resolve hget hnext
  | write ticket now =>
    obtain ⟨call, hget, hnext⟩ := Option.bind_eq_some_iff.1 hnext
    exact hsound.write hget hnext
  | release ticket =>
    obtain ⟨call, hget, hnext⟩ := Option.bind_eq_some_iff.1 hnext
    exact hsound.release hget hnext
  | drop ticket =>
    cases hnext
    exact ⟨hsound.entries, hsound.calls.finish,
      fun key => (holders_finish_le world.calls ticket key).trans (hsound.counted key),
      hsound.answers⟩
  | invalidate invalidation =>
    obtain ⟨hissued, hnext⟩ := Option.ite_none_right_eq_some.1 hnext
    exact Option.some.inj hnext ▸ hsound.invalidate hissued

/-! ## Answers -/

variable {answer : Answer ρ}

theorem Answer.Current.append (hcurrent : answer.Current log)
    (hobserved : ∀ held observed, answer.cached = some (held, observed) → observed ≤ log.length)
    (later : List Invalidation) : answer.Current (log ++ later) := by
  intro held observed hcached
  rw [take_append_eq (hobserved held observed hcached)]
  exact hcurrent held observed hcached

theorem Current.of_answers (hsound : Sound world) (hcurrent : Current world)
    (hanswers : next.answers = world.answers) (later : List Invalidation)
    (hlog : next.log = world.log ++ later) : Current next := by
  intro answer hmem
  rw [hanswers] at hmem
  rw [hlog]
  exact (hcurrent answer hmem).append (hsound.answers answer hmem) later

theorem current_answer_iff (hcurrent : Current world) {answered : World ρ}
    (hlog : answered.log = world.log) (hanswers : answered.answers = world.answers) :
    Current (answered.answer ticket answer) ↔ answer.Current world.log := by
  simp only [Current, World.answer, hlog, hanswers]
  constructor
  · intro h
    exact h answer (List.mem_append_right _ (List.mem_singleton_self answer))
  · intro h other hmem
    rcases List.mem_append.1 hmem with hearlier | hlast
    · exact hcurrent other hearlier
    · exact List.mem_singleton.1 hlast ▸ h

theorem Answer.current_of_uncached (h : answer.cached = none) : answer.Current log := by
  intro held observed hcached
  rw [h] at hcached
  cases hcached

theorem Held.Sound.current_iff {held : Held} (hheld : held.Sound log request)
    (hobserved : held.foundAt ≤ observed) :
    Untouched (log.take observed) held.since request held.personal ↔
      Untouched (log.take observed) held.foundAt request held.personal := by
  refine untouched_iff_after hheld.since_le ?_
  rw [List.take_take, Nat.min_eq_left hobserved]
  exact hheld.untouched

theorem current_release_iff (hsound : Sound world) (hcurrent : Current world)
    (hget : world.calls.get ticket = some call)
    (hnext : world.release codec config ticket call = some next) :
    Current next ↔ FallbackInTime codec config world (.release ticket) := by
  have hcall := hsound.calls.of_get hget
  obtain ⟨hlog, _, hanswers⟩ := release_slot_frame world call
  unfold World.release at hnext
  split at hnext
  next result held hpoint =>
    cases hnext
    refine iff_of_true ((current_answer_iff hcurrent hlog hanswers).2 ?_) ?_
    · intro other observed hcached
      cases hcached
      exact (hcall.held held (hpoint ▸ rfl)).untouched
    · intro other stale error observed hother hfailing
      obtain rfl := Option.some.inj (hget.symm.trans hother)
      cases hpoint.symm.trans hfailing
  next stale error observed hpoint =>
    cases hnext
    rw [current_answer_iff hcurrent hlog hanswers]
    have hlater := (hcall.observed stale error observed hpoint).2
    constructor
    · intro hanswer other held text decided hother hfailing hserve hdecode
      obtain rfl := Option.some.inj (hget.symm.trans hother)
      obtain ⟨rfl, rfl, rfl⟩ := Point.failing.inj (hpoint.symm.trans hfailing)
      obtain ⟨decoded, hdecoded⟩ := Option.ne_none_iff_exists'.1 hdecode
      have hheld := hcall.held held (hpoint ▸ rfl)
      refine (hheld.current_iff (hlater held rfl)).1 ?_
      have hserved : (World.fallback codec config call (some held) error observed).cached =
          some (held, observed) := by
        simp [World.fallback, hserve, hdecoded]
      have hrequest : (World.fallback codec config call (some held) error observed).request =
          call.request := by
        simp [World.fallback, hserve, hdecoded]
      exact hrequest ▸ hanswer held observed hserved
    · intro hcondition held decided hcached
      obtain ⟨rfl, rfl, hserve, hdecode⟩ := fallback_cached hcached
      have hheld := hcall.held held (hpoint ▸ rfl)
      obtain ⟨decoded, hdecoded⟩ := Option.ne_none_iff_exists'.1 hdecode
      have hrequest : (World.fallback codec config call (some held) error decided).request =
          call.request := by
        simp [World.fallback, hserve, hdecoded]
      rw [hrequest]
      exact (hheld.current_iff (hlater held rfl)).2
        (hcondition call held error decided hget hpoint hserve hdecode)
  next stale requests hpoint =>
    cases hnext
    refine iff_of_true (hcurrent.of_answers hsound hanswers [] ?_) ?_
    · rw [List.append_nil]
      exact hlog
    · intro other held error observed hother hfailing
      obtain rfl := Option.some.inj (hget.symm.trans hother)
      cases hpoint.symm.trans hfailing
  next => cases hnext

inductive Uncached (world next : World ρ) : Prop where
  | kept (later : List Invalidation) (answers : next.answers = world.answers)
      (log : next.log = world.log ++ later)
  | answered (before : World ρ) (ticket : ℕ) (answer : Answer ρ)
      (next : next = before.answer ticket answer) (answers : before.answers = world.answers)
      (log : before.log = world.log) (uncached : answer.cached = none)

theorem Uncached.current (h : Uncached world next) (hsound : Sound world)
    (hcurrent : Current world) : Current next := by
  cases h with
  | kept later hanswers hlog => exact hcurrent.of_answers hsound hanswers later hlog
  | answered before ticket answer hnext hanswers hlog huncached =>
    rw [hnext, current_answer_iff hcurrent hlog hanswers]
    exact Answer.current_of_uncached huncached

theorem uncached_of_same (hanswers : next.answers = world.answers) (hlog : next.log = world.log) :
    Uncached world next :=
  .kept [] hanswers (hlog.trans (List.append_nil _).symm)

theorem uncached_respond (hnext : world.respond ticket call outcome = some next) :
    Uncached world next := by
  unfold World.respond at hnext
  split at hnext
  next =>
    split at hnext
    next => exact Option.some.inj hnext ▸ uncached_of_same rfl rfl
    next => exact .answered world ticket _ (Option.some.inj hnext).symm rfl rfl rfl
  next =>
    obtain ⟨_, hnext⟩ := Option.ite_none_right_eq_some.1 hnext
    exact Option.some.inj hnext ▸ uncached_of_same rfl rfl
  next => exact Option.some.inj hnext ▸ uncached_of_same rfl rfl
  next => cases hnext

theorem uncached_resolve (hnext : world.resolve maxMrtrRounds ticket call resolved = some next) :
    Uncached world next := by
  unfold World.resolve at hnext
  split at hnext
  next =>
    split at hnext
    · exact .answered world ticket _ (Option.some.inj hnext).symm rfl rfl rfl
    · split at hnext
      · exact .answered world ticket _ (Option.some.inj hnext).symm rfl rfl rfl
      · split at hnext
        next => exact .answered world ticket _ (Option.some.inj hnext).symm rfl rfl rfl
        next => exact Option.some.inj hnext ▸ uncached_of_same rfl rfl
  next => cases hnext

theorem uncached_step (hevent : ∀ ticket, event ≠ .release ticket)
    (hnext : step codec config clockRange maxMrtrRounds world event = some next) :
    Uncached world next := by
  cases event with
  | start request cacheAllowed => exact Option.some.inj hnext ▸ uncached_of_same rfl rfl
  | capture ticket =>
    obtain ⟨call, _, hnext⟩ := Option.bind_eq_some_iff.1 hnext
    unfold World.capture at hnext
    split at hnext
    next => exact Option.some.inj hnext ▸ uncached_of_same rfl rfl
    next => cases hnext
  | lookUp ticket now =>
    obtain ⟨call, _, hnext⟩ := Option.bind_eq_some_iff.1 hnext
    obtain ⟨point, rfl, _⟩ := World.look_up_cases hnext
    exact uncached_of_same rfl rfl
  | evict ticket =>
    obtain ⟨call, _, hnext⟩ := Option.bind_eq_some_iff.1 hnext
    unfold World.evict at hnext
    split at hnext
    next =>
      obtain ⟨later, hlog⟩ := world.log_invalidate call.request.eviction
      exact Option.some.inj hnext ▸ .kept later rfl hlog
    next => cases hnext
  | respond ticket outcome =>
    obtain ⟨call, _, hnext⟩ := Option.bind_eq_some_iff.1 hnext
    exact uncached_respond hnext
  | resolve ticket resolved =>
    obtain ⟨call, _, hnext⟩ := Option.bind_eq_some_iff.1 hnext
    exact uncached_resolve hnext
  | write ticket now =>
    obtain ⟨call, _, hnext⟩ := Option.bind_eq_some_iff.1 hnext
    unfold World.write at hnext
    split at hnext
    next =>
      cases hnext
      exact .answered _ ticket _ rfl rfl rfl rfl
    next => cases hnext
  | release ticket => exact absurd rfl (hevent ticket)
  | drop ticket => exact Option.some.inj hnext ▸ uncached_of_same rfl rfl
  | invalidate invalidation =>
    obtain ⟨_, hnext⟩ := Option.ite_none_right_eq_some.1 hnext
    obtain ⟨later, hlog⟩ := world.log_invalidate invalidation
    exact Option.some.inj hnext ▸ .kept later rfl hlog

theorem current_step_iff (hsound : Sound world) (hcurrent : Current world)
    (hnext : step codec config clockRange maxMrtrRounds world event = some next) :
    Current next ↔ FallbackInTime codec config world event := by
  cases event with
  | release ticket =>
    obtain ⟨call, hget, hnext⟩ := Option.bind_eq_some_iff.1 hnext
    exact current_release_iff hsound hcurrent hget hnext
  | _ => exact iff_of_true ((uncached_step (by simp) hnext).current hsound hcurrent) trivial

theorem fallback_in_time_of_refused
    (hrefused : step codec config clockRange maxMrtrRounds world event = none) :
    FallbackInTime codec config world event := by
  cases event with
  | release ticket =>
    intro call held error observed hget hpoint
    simp [step, hget, World.release, hpoint] at hrefused
  | _ => trivial

theorem sound_new (config : ClientCacheConfig) : Sound (World.new (ρ := ρ) config) where
  entries := nofun
  calls := Pool.holds_empty
  counted _ := Nat.le_refl 0
  answers := nofun

def plainCodec : Codec Json where
  decodeCached _ value := some value
  toValue result := .ok result
  ttlMs _ := some 1
  cacheScope _ := some .privateScope

end StaleFallback

end TowerMcp
