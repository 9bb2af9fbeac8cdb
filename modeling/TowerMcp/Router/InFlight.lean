import TowerMcp.Lib.Execution
import TowerMcp.Lib.Pool
import TowerMcp.Router.Dispatch
import TowerMcp.Task.Store

/-!
# The registry of requests in flight

How `McpRouter` tracks the requests it dispatches, after `router.rs`. `Service::call` names a dispatch
and makes a future; its first poll makes the guard that untracks the dispatch however the future ends;
the handler of the request tracks it when it builds its context. A client may use one identifier for
several requests at a time, so a registry entry names its dispatch, which is a `u64` that is counted
up and comes round.
-/

namespace TowerMcp

open FinMap Pool Execution

namespace InFlight

/-- One tracked dispatch. The cancellation token and the mark it holds are those of the call under
the ticket. -/
structure InFlightDispatch where
  dispatch : ℕ
  call : ℕ
deriving DecidableEq

inductive Phase where
  | created
  | entered
  | tracked
deriving DecidableEq

structure RequestCall where
  requestId : RequestId
  dispatch : ℕ
  phase : Phase := .created
  cancelled : Bool := false
  peerCancelled : Option Bool := none
deriving DecidableEq

def RequestCall.cancel (call : RequestCall) : RequestCall :=
  { call with
    cancelled := true
    peerCancelled := call.peerCancelled.map fun _ => true }

structure World where
  inFlight : FinMap RequestId (List InFlightDispatch) := ∅
  nextDispatch : ℕ := 0
  calls : Pool RequestCall := {}

inductive Event where
  | call (requestId : RequestId) (offersMark : Bool)
  | enter (ticket : ℕ)
  | track (ticket : ℕ)
  | finish (ticket : ℕ)
  | cancelled (requestId : Option RequestId)
deriving DecidableEq

namespace World

def tracked (world : World) (requestId : RequestId) : List InFlightDispatch :=
  (world.inFlight.lookup requestId).getD []

def serviceCall (world : World) (requestId : RequestId) (offersMark : Bool) : World :=
  { world with
    nextDispatch := (world.nextDispatch + 1) % (u64Max + 1)
    calls := world.calls.start
      { requestId
        dispatch := world.nextDispatch
        peerCancelled := if offersMark then some false else none } }

def registerInFlight (world : World) (requestId : RequestId) (entry : InFlightDispatch) : World :=
  { world with
    inFlight := world.inFlight.insert requestId (world.tracked requestId ++ [entry]) }

def completeDispatch (world : World) (requestId : RequestId) (dispatch : ℕ) : World :=
  match world.inFlight.lookup requestId with
  | none => world
  | some entries =>
    let entries := entries.filter fun entry => entry.dispatch != dispatch
    if entries.isEmpty then { world with inFlight := world.inFlight.erase requestId }
    else { world with inFlight := world.inFlight.insert requestId entries }

def cancelEntry (calls : Pool RequestCall) (entry : InFlightDispatch) : Pool RequestCall :=
  match calls.get entry.call with
  | some call => calls.become entry.call call.cancel
  | none => calls

def cancelRequest (world : World) (requestId : RequestId) : World :=
  { world with calls := (world.tracked requestId).foldl cancelEntry world.calls }

def finish (world : World) (ticket : ℕ) (call : RequestCall) : World :=
  let world :=
    if call.phase = .created then world else world.completeDispatch call.requestId call.dispatch
  { world with calls := world.calls.finish ticket }

end World

def step (world : World) : Event → Option World
  | .call requestId offersMark => some (world.serviceCall requestId offersMark)
  | .enter ticket =>
    match world.calls.get ticket with
    | some call =>
      if call.phase = .created then
        some { world with calls := world.calls.become ticket { call with phase := .entered } }
      else none
    | none => none
  | .track ticket =>
    match world.calls.get ticket with
    | some call =>
      if call.phase = .entered then
        let world := world.registerInFlight call.requestId ⟨call.dispatch, ticket⟩
        some { world with calls := world.calls.become ticket { call with phase := .tracked } }
      else none
    | none => none
  | .finish ticket => (world.calls.get ticket).map (world.finish ticket)
  | .cancelled requestId =>
    match requestId with
    | some requestId => some (world.cancelRequest requestId)
    | none => some world

def FreshDispatch (world : World) (event : Event) : Prop :=
  match event with
  | .call .. => world.calls.Holds fun call => call.dispatch ≠ world.nextDispatch
  | _ => True

instance (world : World) (event : Event) : Decidable (FreshDispatch world event) :=
  match event with
  | .call .. => inferInstanceAs (Decidable (Pool.Holds _ _))
  | .enter _ | .track _ | .finish _ | .cancelled _ => .isTrue trivial

/-- The registry holds exactly the futures that were tracked and have not ended, each once and under
its request identifier. -/
structure Exact (world : World) : Prop where
  entries : ∀ requestId entry, entry ∈ world.tracked requestId ↔
    ∃ call, world.calls.get entry.call = some call ∧ call.requestId = requestId ∧
      call.dispatch = entry.dispatch ∧ call.phase = .tracked
  once : ∀ requestId, (world.tracked requestId).Nodup
  nonempty : ∀ requestId, world.inFlight.lookup requestId ≠ some []

def Distinct (world : World) : Prop :=
  ∀ ticket other call held, world.calls.get ticket = some call →
    world.calls.get other = some held → call.dispatch = held.dispatch → ticket = other

structure Sound (world : World) : Prop where
  exact : Exact world
  distinct : Distinct world
  numbered : world.calls.Numbered

theorem sound_init : Sound {} where
  exact :=
    { entries := by
        intro requestId entry
        constructor
        · intro h
          cases h
        · rintro ⟨call, hget, _⟩
          exact absurd hget (by simp [Pool.get])
      once := fun _ => List.nodup_nil
      nonempty := by
        intro requestId h
        simp at h }
  distinct := by
    intro ticket other call held hget
    exact absurd hget (by simp [Pool.get])
  numbered := numbered_empty

section Registry

variable {world : World} {requestId other : RequestId}

theorem tracked_register_in_flight (entry : InFlightDispatch) :
    (world.registerInFlight requestId entry).tracked other =
      if other = requestId then world.tracked requestId ++ [entry] else world.tracked other := by
  unfold World.registerInFlight World.tracked
  rw [lookup_insert_eq_ite]
  split <;> rfl

theorem tracked_complete_dispatch (dispatch : ℕ) :
    (world.completeDispatch requestId dispatch).tracked other =
      if other = requestId then
        (world.tracked requestId).filter fun entry => entry.dispatch != dispatch
      else world.tracked other := by
  unfold World.completeDispatch World.tracked
  cases hlookup : world.inFlight.lookup requestId with
  | none =>
    by_cases h : other = requestId
    · rw [if_pos h, h, hlookup]
      rfl
    · rw [if_neg h]
  | some entries =>
    dsimp only
    split
    next hempty =>
      rw [lookup_erase_eq_ite]
      split
      next => rw [Option.getD_some, List.isEmpty_iff.1 hempty, Option.getD_none]
      next => rfl
    next =>
      rw [lookup_insert_eq_ite]
      split <;> rfl

theorem nonempty_complete_dispatch (h : world.inFlight.lookup other ≠ some []) (dispatch : ℕ) :
    (world.completeDispatch requestId dispatch).inFlight.lookup other ≠ some [] := by
  unfold World.completeDispatch
  split
  next => exact h
  next entries _ =>
    dsimp only
    split
    next =>
      rw [lookup_erase_eq_ite]
      split
      next => exact nofun
      next => exact h
    next hnonempty =>
      rw [lookup_insert_eq_ite]
      split
      next =>
        intro hnil
        rw [Option.some.inj hnil] at hnonempty
        exact hnonempty rfl
      next => exact h

theorem calls_complete_dispatch (dispatch : ℕ) :
    (world.completeDispatch requestId dispatch).calls = world.calls := by
  unfold World.completeDispatch
  split
  next => rfl
  next =>
    dsimp only
    split <;> rfl

theorem cancel_cancel (call : RequestCall) : call.cancel.cancel = call.cancel := by
  unfold RequestCall.cancel
  cases call.peerCancelled <;> rfl

theorem get_cancel_entry (calls : Pool RequestCall) (entry : InFlightDispatch) (ticket : ℕ) :
    (World.cancelEntry calls entry).get ticket =
      if ticket = entry.call then (calls.get ticket).map RequestCall.cancel
      else calls.get ticket := by
  unfold World.cancelEntry
  cases hget : calls.get entry.call with
  | none =>
    by_cases h : ticket = entry.call
    · rw [if_pos h, h, hget]
      rfl
    · rw [if_neg h]
  | some call =>
    dsimp only
    rw [get_become_eq_ite]
    by_cases h : ticket = entry.call
    · rw [if_pos h, if_pos h, h, hget]
      rfl
    · rw [if_neg h, if_neg h]

theorem get_cancel_entries (entries : List InFlightDispatch) (calls : Pool RequestCall)
    (ticket : ℕ) :
    (entries.foldl World.cancelEntry calls).get ticket =
      if ticket ∈ entries.map (·.call) then (calls.get ticket).map RequestCall.cancel
      else calls.get ticket := by
  induction entries generalizing calls with
  | nil => rfl
  | cons entry rest ih =>
    rw [List.foldl_cons, ih, get_cancel_entry, List.map_cons]
    by_cases hentry : ticket = entry.call
    · rw [if_pos hentry, if_pos (List.mem_cons.2 (.inl hentry))]
      split
      · rw [Option.map_map]
        exact congrArg (fun f => (calls.get ticket).map f) (funext cancel_cancel)
      · rfl
    · rw [if_neg hentry]
      have hmem : ticket ∈ entry.call :: rest.map (·.call) ↔ ticket ∈ rest.map (·.call) := by
        rw [List.mem_cons]
        exact or_iff_right hentry
      simp only [hmem]

theorem next_cancel_entries (entries : List InFlightDispatch) (calls : Pool RequestCall) :
    (entries.foldl World.cancelEntry calls).next = calls.next := by
  induction entries generalizing calls with
  | nil => rfl
  | cons entry rest ih =>
    rw [List.foldl_cons, ih]
    unfold World.cancelEntry
    split <;> rfl

end Registry

section Step

variable {world next : World} {requestId : RequestId} {ticket : ℕ} {call : RequestCall}

theorem Exact.mem_calls (h : Exact world) (hget : world.calls.get ticket = some call) :
    ticket ∈ (world.tracked requestId).map (·.call) ↔
      call.requestId = requestId ∧ call.phase = .tracked := by
  constructor
  · intro hmem
    obtain ⟨entry, hentry, rfl⟩ := List.mem_map.1 hmem
    obtain ⟨held, hheld, hid, _, hphase⟩ := (h.entries requestId entry).1 hentry
    obtain rfl := Option.some.inj (hheld.symm.trans hget)
    exact ⟨hid, hphase⟩
  · rintro ⟨hid, hphase⟩
    have hentry : (⟨call.dispatch, ticket⟩ : InFlightDispatch) ∈ world.tracked requestId :=
      (h.entries requestId _).2 ⟨call, hget, hid, rfl, hphase⟩
    exact List.mem_map_of_mem hentry

theorem get_cancel_request (h : Exact world) (hget : world.calls.get ticket = some call) :
    (world.cancelRequest requestId).calls.get ticket =
      some (if call.requestId = requestId ∧ call.phase = .tracked then call.cancel else call) := by
  show ((world.tracked requestId).foldl World.cancelEntry world.calls).get ticket = _
  rw [get_cancel_entries, hget]
  simp only [h.mem_calls hget]
  split <;> rfl

theorem Sound.service_call (h : Sound world) (offersMark : Bool)
    (hfresh : world.calls.Holds fun call => call.dispatch ≠ world.nextDispatch) :
    Sound (world.serviceCall requestId offersMark) := by
  have hnew := h.numbered.get_next
  refine ⟨⟨?_, h.exact.once, h.exact.nonempty⟩, ?_, h.numbered.start _⟩
  · intro other entry
    show entry ∈ world.tracked other ↔ ∃ call, (world.calls.start _).get entry.call = _ ∧ _
    rw [h.exact.entries, get_start_eq_ite]
    by_cases hentry : entry.call = world.calls.next
    · rw [if_pos hentry, hentry, hnew]
      constructor
      · rintro ⟨call, hnone, _⟩
        cases hnone
      · rintro ⟨call, hcall, _, _, hphase⟩
        cases hcall
        cases hphase
    · rw [if_neg hentry]
  · intro first second call held hfirst hsecond hdispatch
    change (world.calls.start _).get first = _ at hfirst
    change (world.calls.start _).get second = _ at hsecond
    rw [get_start_eq_ite] at hfirst hsecond
    split at hfirst
    next hnext =>
      cases hfirst
      split at hsecond
      next hother => rw [hnext, hother]
      next => exact absurd hdispatch.symm (hfresh second held hsecond)
    next =>
      split at hsecond
      next =>
        cases hsecond
        exact absurd hdispatch (hfresh first call hfirst)
      next => exact h.distinct first second call held hfirst hsecond hdispatch

theorem Distinct.become (h : Distinct world) (hget : world.calls.get ticket = some call)
    {moved : RequestCall} (hmoved : moved.dispatch = call.dispatch) :
    Distinct { world with calls := world.calls.become ticket moved } := by
  intro first second one two hfirst hsecond hdispatch
  change (world.calls.become ticket moved).get first = _ at hfirst
  change (world.calls.become ticket moved).get second = _ at hsecond
  rw [get_become_eq_ite] at hfirst hsecond
  have hone : ∃ held, world.calls.get first = some held ∧ held.dispatch = one.dispatch := by
    split at hfirst
    next heq =>
      rw [heq, ← Option.some.inj hfirst, hmoved]
      exact ⟨call, hget, rfl⟩
    next => exact ⟨one, hfirst, rfl⟩
  have htwo : ∃ held, world.calls.get second = some held ∧ held.dispatch = two.dispatch := by
    split at hsecond
    next heq =>
      rw [heq, ← Option.some.inj hsecond, hmoved]
      exact ⟨call, hget, rfl⟩
    next => exact ⟨two, hsecond, rfl⟩
  obtain ⟨left, hleft, hleftDispatch⟩ := hone
  obtain ⟨right, hright, hrightDispatch⟩ := htwo
  refine h first second left right hleft hright ?_
  rw [hleftDispatch, hrightDispatch]
  exact hdispatch

theorem Sound.enter (h : Sound world) (hget : world.calls.get ticket = some call)
    (hphase : call.phase = .created) :
    Sound { world with calls := world.calls.become ticket { call with phase := .entered } } := by
  refine ⟨⟨?_, h.exact.once, h.exact.nonempty⟩, h.distinct.become hget rfl,
    h.numbered.become hget _⟩
  intro other entry
  show entry ∈ world.tracked other ↔ ∃ call, (world.calls.become ticket _).get entry.call = _ ∧ _
  rw [h.exact.entries, get_become_eq_ite]
  by_cases hentry : entry.call = ticket
  · rw [if_pos hentry, hentry, hget]
    constructor
    · rintro ⟨held, hheld, _, _, htracked⟩
      rw [← Option.some.inj hheld, hphase] at htracked
      cases htracked
    · rintro ⟨held, hheld, _, _, htracked⟩
      rw [← Option.some.inj hheld] at htracked
      cases htracked
  · rw [if_neg hentry]

theorem Sound.track (h : Sound world) (hget : world.calls.get ticket = some call)
    (hphase : call.phase = .entered) :
    Sound { world.registerInFlight call.requestId ⟨call.dispatch, ticket⟩ with
      calls := world.calls.become ticket { call with phase := .tracked } } := by
  have huntracked : ∀ other entry, entry ∈ world.tracked other → entry.call ≠ ticket := by
    rintro other entry hmem rfl
    obtain ⟨held, hheld, _, _, htracked⟩ := (h.exact.entries other _).1 hmem
    rw [hget] at hheld
    rw [← Option.some.inj hheld, hphase] at htracked
    cases htracked
  refine ⟨⟨?_, ?_, ?_⟩, h.distinct.become hget rfl, h.numbered.become hget _⟩
  · intro other entry
    show entry ∈ (world.registerInFlight call.requestId ⟨call.dispatch, ticket⟩).tracked other ↔
      ∃ call, (world.calls.become ticket _).get entry.call = _ ∧ _
    have hentries := h.exact.entries other entry
    rw [tracked_register_in_flight, get_become_eq_ite]
    by_cases hentry : entry.call = ticket
    · have hold : entry ∉ world.tracked other := fun hmem => huntracked other entry hmem hentry
      rw [if_pos hentry]
      constructor
      · intro hmem
        split at hmem
        next hother =>
          rw [List.mem_append, List.mem_singleton, ← hother] at hmem
          obtain rfl := hmem.resolve_left hold
          exact ⟨_, rfl, hother.symm, rfl, rfl⟩
        next => exact absurd hmem hold
      · rintro ⟨held, hheld, hid, hdispatch, _⟩
        cases hheld
        rw [if_pos hid.symm, List.mem_append, List.mem_singleton]
        obtain ⟨dispatch, number⟩ := entry
        obtain rfl : call.dispatch = dispatch := hdispatch
        obtain rfl : number = ticket := hentry
        exact .inr rfl
    · rw [if_neg hentry, ← hentries]
      split
      next hother =>
        rw [List.mem_append, List.mem_singleton, hother]
        refine or_iff_left ?_
        rintro rfl
        exact hentry rfl
      next => exact Iff.rfl
  · intro other
    show ((world.registerInFlight call.requestId ⟨call.dispatch, ticket⟩).tracked other).Nodup
    rw [tracked_register_in_flight]
    split
    next =>
      refine List.nodup_append.2 ⟨h.exact.once _, List.nodup_singleton _, ?_⟩
      rintro entry hmem last hlast rfl
      rw [List.mem_singleton.1 hlast] at hmem
      exact huntracked _ _ hmem rfl
    next => exact h.exact.once other
  · intro other hnil
    change (world.inFlight.insert call.requestId _).lookup other = some [] at hnil
    rw [lookup_insert_eq_ite] at hnil
    split at hnil
    next => exact absurd (Option.some.inj hnil) (by simp)
    next => exact h.exact.nonempty other hnil

theorem tracked_finish (h : Sound world) (hget : world.calls.get ticket = some call)
    (entry : InFlightDispatch) (other : RequestId) :
    entry ∈ (world.finish ticket call).tracked other ↔
      entry ∈ world.tracked other ∧ entry.call ≠ ticket := by
  have hown : entry ∈ world.tracked other → entry.call = ticket →
      call.requestId = other ∧ call.dispatch = entry.dispatch ∧ call.phase = .tracked := by
    rintro hmem rfl
    obtain ⟨held, hheld, hid, hdispatch, hphase⟩ := (h.exact.entries other entry).1 hmem
    obtain rfl := Option.some.inj (hheld.symm.trans hget)
    exact ⟨hid, hdispatch, hphase⟩
  have htwin : entry ∈ world.tracked other → entry.dispatch = call.dispatch →
      entry.call = ticket := by
    intro hmem hdispatch
    obtain ⟨held, hheld, _, hsame, _⟩ := (h.exact.entries other entry).1 hmem
    exact h.distinct _ _ held call hheld hget (hsame.trans hdispatch)
  by_cases hphase : call.phase = .created
  · have hfinish : (world.finish ticket call).tracked other = world.tracked other := by
      unfold World.finish
      rw [if_pos hphase]
      rfl
    rw [hfinish]
    refine (and_iff_left_of_imp fun hmem heq => ?_).symm
    have htracked := (hown hmem heq).2.2
    rw [hphase] at htracked
    cases htracked
  · have hfinish : (world.finish ticket call).tracked other =
        (world.completeDispatch call.requestId call.dispatch).tracked other := by
      unfold World.finish
      rw [if_neg hphase]
      rfl
    rw [hfinish, tracked_complete_dispatch]
    split
    next hother =>
      rw [List.mem_filter, ← hother, bne_iff_ne]
      refine and_congr_right fun hmem => not_congr ⟨htwin hmem, fun heq => ?_⟩
      exact (hown hmem heq).2.1.symm
    next hother =>
      refine (and_iff_left_of_imp fun hmem heq => ?_).symm
      exact hother (hown hmem heq).1.symm

theorem get_finish (world : World) (ticket : ℕ) (call : RequestCall) (other : ℕ) :
    (world.finish ticket call).calls.get other =
      if other = ticket then none else world.calls.get other := by
  have hcalls : (world.finish ticket call).calls = world.calls.finish ticket := by
    unfold World.finish
    split
    next => rfl
    next =>
      show (world.completeDispatch _ _).calls.finish ticket = _
      rw [calls_complete_dispatch]
  rw [hcalls, get_finish_eq_ite]

theorem Sound.finish (h : Sound world) (hget : world.calls.get ticket = some call) :
    Sound (world.finish ticket call) := by
  have hkept : ∀ other held, (world.finish ticket call).calls.get other = some held →
      other ≠ ticket ∧ world.calls.get other = some held := by
    intro other held hother
    rw [get_finish] at hother
    exact Option.ite_none_left_eq_some.1 hother
  refine ⟨⟨?_, ?_, ?_⟩, ?_, ?_⟩
  · intro other entry
    rw [tracked_finish h hget, h.exact.entries, get_finish]
    by_cases hentry : entry.call = ticket
    · rw [if_pos hentry]
      constructor
      · rintro ⟨_, hne⟩
        exact absurd hentry hne
      · rintro ⟨held, hnone, _⟩
        cases hnone
    · rw [if_neg hentry]
      exact and_iff_left hentry
  · intro other
    have honce := h.exact.once
    unfold World.finish
    split
    next => exact honce other
    next =>
      show ((world.completeDispatch call.requestId call.dispatch).tracked other).Nodup
      rw [tracked_complete_dispatch]
      split
      next => exact (honce _).filter _
      next => exact honce other
  · intro other
    unfold World.finish
    split
    next => exact h.exact.nonempty other
    next => exact nonempty_complete_dispatch (h.exact.nonempty other) call.dispatch
  · intro first second one two hfirst hsecond hdispatch
    exact h.distinct first second one two (hkept first one hfirst).2 (hkept second two hsecond).2
      hdispatch
  · intro other held hother
    have hnext : (world.finish ticket call).calls.next = world.calls.next := by
      unfold World.finish
      split
      next => rfl
      next =>
        show (world.completeDispatch _ _).calls.next = _
        rw [calls_complete_dispatch]
    rw [hnext]
    exact h.numbered other held (hkept other held hother).2

theorem exists_before_cancel {held : RequestCall}
    (hget : (world.cancelRequest requestId).calls.get ticket = some held) :
    ∃ call, world.calls.get ticket = some call ∧ call.requestId = held.requestId ∧
      call.dispatch = held.dispatch ∧ call.phase = held.phase := by
  change ((world.tracked requestId).foldl World.cancelEntry world.calls).get ticket = _ at hget
  rw [get_cancel_entries] at hget
  split at hget
  next =>
    obtain ⟨call, hcall, rfl⟩ := Option.map_eq_some_iff.1 hget
    exact ⟨call, hcall, rfl, rfl, rfl⟩
  next => exact ⟨held, hget, rfl, rfl, rfl⟩

theorem Sound.cancel_request (h : Sound world) : Sound (world.cancelRequest requestId) := by
  refine ⟨⟨?_, h.exact.once, h.exact.nonempty⟩, ?_, ?_⟩
  · intro other entry
    show entry ∈ world.tracked other ↔ _
    rw [h.exact.entries]
    constructor
    · rintro ⟨call, hget, hid, hdispatch, hphase⟩
      refine ⟨_, get_cancel_request h.exact hget, ?_⟩
      split
      next => exact ⟨hid, hdispatch, hphase⟩
      next => exact ⟨hid, hdispatch, hphase⟩
    · rintro ⟨held, hget, hid, hdispatch, hphase⟩
      obtain ⟨call, hcall, hsameId, hsameDispatch, hsamePhase⟩ := exists_before_cancel hget
      exact ⟨call, hcall, hsameId.trans hid, hsameDispatch.trans hdispatch, hsamePhase.trans hphase⟩
  · intro first second one two hfirst hsecond hdispatch
    obtain ⟨left, hleft, _, hleftDispatch, _⟩ := exists_before_cancel hfirst
    obtain ⟨right, hright, _, hrightDispatch, _⟩ := exists_before_cancel hsecond
    refine h.distinct first second left right hleft hright ?_
    rw [hleftDispatch, hrightDispatch]
    exact hdispatch
  · intro other held hget
    obtain ⟨call, hcall, _⟩ := exists_before_cancel hget
    show other < ((world.tracked requestId).foldl World.cancelEntry world.calls).next
    rw [next_cancel_entries]
    exact h.numbered other call hcall

theorem sound_step {event : Event} (h : Sound world) (hfresh : FreshDispatch world event)
    (hstep : step world event = some next) : Sound next := by
  cases event with
  | call requestId offersMark =>
    cases hstep
    exact h.service_call offersMark hfresh
  | enter ticket =>
    dsimp only [step] at hstep
    split at hstep
    next call hget =>
      obtain ⟨hphase, hnext⟩ := Option.ite_none_right_eq_some.1 hstep
      cases hnext
      exact h.enter hget hphase
    next => cases hstep
  | track ticket =>
    dsimp only [step] at hstep
    split at hstep
    next call hget =>
      obtain ⟨hphase, hnext⟩ := Option.ite_none_right_eq_some.1 hstep
      cases hnext
      exact h.track hget hphase
    next => cases hstep
  | finish ticket =>
    obtain ⟨call, hget, rfl⟩ := Option.map_eq_some_iff.1 hstep
    exact h.finish hget
  | cancelled requestId =>
    cases requestId with
    | none =>
      cases hstep
      exact h
    | some requestId =>
      cases hstep
      exact h.cancel_request

end Step

/-- In every state of a run whose calls draw fresh numbers, the registry holds exactly the futures that
were tracked and have not ended; the end of one leaves every other as it is and tracked as it was;
and a cancellation cancels the futures that are tracked under the identifier and no other. -/
theorem registry_holds_tracked_dispatches (events : List Event) (world : World)
    (hfresh : Along step FreshDispatch {} events)
    (hrun : run step {} events = some world) :
    Exact world ∧
      (∀ ticket next, step world (.finish ticket) = some next →
        ∀ other call, other ≠ ticket → world.calls.get other = some call →
          next.calls.get other = some call ∧
            ∀ entry, entry.call = other →
              (entry ∈ next.tracked call.requestId ↔ entry ∈ world.tracked call.requestId)) ∧
      ∀ requestId next, step world (.cancelled (some requestId)) = some next →
        ∀ ticket call, world.calls.get ticket = some call →
          next.calls.get ticket =
            some (if call.requestId = requestId ∧ call.phase = .tracked then call.cancel
              else call) := by
  have hstep : ∀ world event next, Sound world → FreshDispatch world event →
      step world event = some next → Sound next :=
    fun _ _ _ h hfresh hnext => sound_step h hfresh hnext
  have h : Sound world := along_invariant hstep sound_init hfresh hrun
  refine ⟨h.exact, ?_, ?_⟩
  · intro ticket next hnext other call hother hget
    obtain ⟨ended, hended, rfl⟩ := Option.map_eq_some_iff.1 hnext
    refine ⟨?_, ?_⟩
    · rw [get_finish, if_neg hother]
      exact hget
    · intro entry hentry
      rw [tracked_finish h hended]
      exact and_iff_left fun heq => hother (hentry.symm.trans heq)
  · intro requestId next hnext ticket call hget
    cases hnext
    exact get_cancel_request h.exact hget

variable {world : World} {call : RequestCall}

variable {ticket : ℕ}

theorem step_enter (hget : world.calls.get ticket = some call)
    (hphase : call.phase = .created) :
    step world (.enter ticket) =
      some { world with calls := world.calls.become ticket { call with phase := .entered } } := by
  dsimp only [step]
  rw [hget]
  exact if_pos hphase

theorem step_track (hget : world.calls.get ticket = some call)
    (hphase : call.phase = .entered) :
    step world (.track ticket) =
      some { world.registerInFlight call.requestId ⟨call.dispatch, ticket⟩ with
        calls := world.calls.become ticket { call with phase := .tracked } } := by
  dsimp only [step]
  rw [hget]
  exact if_pos hphase

theorem step_finish (hget : world.calls.get ticket = some call) :
    step world (.finish ticket) = some (world.finish ticket call) := by
  dsimp only [step]
  rw [hget]
  rfl

def twinEvents : List Event :=
  [.call (.number 0) true, .call (.number 0) false, .enter 0, .track 0, .enter 1, .track 1]

theorem registry_holds_tracked_dispatches_twin :
    ∃ world next call, run step {} twinEvents = some world ∧
      step world (.finish 0) = some next ∧ world.calls.get 1 = some call ∧
      next.calls.get 1 = some call ∧
      ∀ entry, entry.call = 1 →
        (entry ∈ next.tracked call.requestId ↔ entry ∈ world.tracked call.requestId) := by
  obtain ⟨world, hrun, ⟨next, hnext⟩, call, hcall⟩ : ∃ world,
      run step {} twinEvents = some world ∧
        (∃ next, step world (.finish 0) = some next) ∧
        ∃ call, world.calls.get 1 = some call := by
    decide +kernel
  obtain ⟨_, hfinish, _⟩ := registry_holds_tracked_dispatches twinEvents world (by decide +kernel) hrun
  exact ⟨world, next, call, hrun, hnext, hcall, hfinish 0 next hnext 1 call (by decide) hcall⟩

/-! ## Requests that are not tracked, and numbers that come round -/

def spin (ticket : ℕ) : List Event :=
  [.call (.number 1) false, .finish ticket]

def spins : ℕ → List Event
  | 0 => [.call (.number 0) false, .enter 0, .track 0]
  | n + 1 => spins n ++ spin (n + 1)

/-- The first request of `spins`, once it is tracked. -/
def firstCall : RequestCall where
  requestId := .number 0
  dispatch := 0
  phase := .tracked

structure Spun (n : ℕ) (world : World) : Prop where
  inFlight : world.inFlight =
    (AList.insert (.number 0) [⟨0, 0⟩] ∅ : FinMap RequestId (List InFlightDispatch))
  drawn : world.nextDispatch = (n + 1) % (u64Max + 1)
  calls : world.calls.calls = AList.insert 0 firstCall ∅
  next : world.calls.next = n + 1

theorem run_spins (n : ℕ) : ∃ world, run step {} (spins n) = some world ∧ Spun n world := by
  induction n with
  | zero => exact ⟨_, rfl, rfl, rfl, rfl, rfl⟩
  | succ n ih =>
    obtain ⟨world, hrun, h⟩ := ih
    have hguard : world.calls.calls.lookup world.calls.next = none := by
      rw [h.calls, h.next, lookup_insert_eq_ite, if_neg (Nat.succ_ne_zero n)]
      rfl
    have hstarted : (world.serviceCall (.number 1) false).calls.get (n + 1) =
        some { requestId := .number 1, dispatch := world.nextDispatch } := by
      rw [← h.next]
      exact get_start_self _ _
    have hfinish : step (world.serviceCall (.number 1) false) (.finish (n + 1)) =
        some ((world.serviceCall (.number 1) false).finish (n + 1)
          { requestId := .number 1, dispatch := world.nextDispatch }) := step_finish hstarted
    refine ⟨_, run_append_some.2 ⟨world, hrun, run_cons.2 ⟨_, rfl,
      run_cons.2 ⟨_, hfinish, rfl⟩⟩⟩, h.inFlight, ?_, ?_, ?_⟩
    · show (world.nextDispatch + 1) % (u64Max + 1) = _
      rw [h.drawn, Nat.mod_add_mod]
    · show (world.calls.calls.insert world.calls.next _).erase (n + 1) = _
      rw [← h.next, erase_insert_of_lookup_none hguard]
      exact h.calls
    · show world.calls.next + 1 = _
      rw [h.next]

/-- A request whose handler has not built its context is in flight but not tracked, and a
cancellation of its identifier does not reach it. And when the numbers have come round, the end of a
request untracks a twin that is still in flight. -/
theorem live_dispatch_untracked :
    (∃ world next call, run step {} [.call (.number 0) true, .enter 0] = some world ∧
      world.calls.get 0 = some call ∧ call.requestId = .number 0 ∧
      world.tracked (.number 0) = [] ∧
      step world (.cancelled (some (.number 0))) = some next ∧
      next.calls.get 0 = some call ∧ call.cancelled = false) ∧
    ∃ events world next twin call, run step {} events = some world ∧
      world.calls.get 0 = some call ∧ call.requestId = .number 0 ∧ call.phase = .tracked ∧
      twin ≠ 0 ∧ step world (.finish twin) = some next ∧
      next.calls.get 0 = some call ∧ next.tracked (.number 0) = [] := by
  constructor
  · exact ⟨_, _, _, rfl, rfl, rfl, rfl, rfl, rfl, rfl⟩
  · obtain ⟨world, hrun, h⟩ := run_spins u64Max
    have hdrawn : world.nextDispatch = 0 := by rw [h.drawn, Nat.mod_self]
    have hne : (0 : ℕ) ≠ world.calls.next := by
      rw [h.next]
      exact (Nat.succ_ne_zero u64Max).symm
    obtain ⟨twin, htwin⟩ : ∃ twin, world.calls.next = twin := ⟨_, rfl⟩
    have hmade : (world.serviceCall (.number 0) false).calls.get twin =
        some { requestId := .number 0, dispatch := 0 } := by
      rw [← htwin, ← hdrawn]
      exact get_start_self _ _
    have hfirst : (world.serviceCall (.number 0) false).calls.get 0 = some firstCall := by
      show (world.calls.start _).get 0 = _
      rw [get_start_eq_ite, if_neg hne, Pool.get, h.calls, AList.lookup_insert]
    have hkept : ∀ entered tracked : RequestCall,
        (((world.serviceCall (.number 0) false).calls.become twin entered).become twin tracked).get
          0 = some firstCall := by
      intro entered tracked
      have hother : (0 : ℕ) ≠ twin := htwin ▸ hne
      rw [get_become_eq_ite, if_neg hother, get_become_eq_ite, if_neg hother]
      exact hfirst
    refine ⟨spins u64Max ++ [.call (.number 0) false, .enter twin, .track twin], _, _, twin,
      firstCall, run_append_some.2 ⟨world, hrun, run_cons.2 ⟨_, rfl,
        run_cons.2 ⟨_, step_enter hmade rfl, run_cons.2
          ⟨_, step_track (get_become_self _ _ _) rfl, rfl⟩⟩⟩⟩,
      hkept _ _, rfl, rfl, htwin ▸ hne.symm, step_finish (get_become_self _ _ _), ?_, ?_⟩
    · rw [get_finish, if_neg (htwin ▸ hne)]
      exact hkept _ _
    · -- both entries have the number that has come round
      have hentries : world.tracked (.number 0) = [⟨0, 0⟩] := by
        unfold World.tracked
        rw [h.inFlight, AList.lookup_insert]
        rfl
      unfold World.finish
      rw [if_neg (by decide)]
      show (World.completeDispatch _ (.number 0) 0).tracked (.number 0) = []
      rw [tracked_complete_dispatch, if_pos rfl]
      show ((World.registerInFlight _ (.number 0) ⟨0, twin⟩).tracked (.number 0)).filter _ = []
      rw [tracked_register_in_flight, if_pos rfl]
      show (world.tracked (.number 0) ++ [(⟨0, twin⟩ : InFlightDispatch)]).filter _ = []
      rw [hentries]
      rfl

end InFlight

end TowerMcp
