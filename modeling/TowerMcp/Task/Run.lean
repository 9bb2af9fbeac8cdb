import TowerMcp.Lib.Execution
import TowerMcp.Task.Operations

/-!
# Runs of the task store

The store as a machine: an event is a call with what the clocks show when it gets the write lock. The
machine refuses a clock that runs backwards and, once a call has panicked, every further call, since
the lock is poisoned then. `Sound` is the invariant of every run in which the drawn identifiers
differ; `task_store_accounting` reads the bookkeeping off it.
-/

namespace TowerMcp

open Execution MemoryTaskStore

namespace TaskStore

structure Event where
  now : Moment
  call : StoreCall

structure World where
  data : MemoryTaskStoreData := {}
  clock : Instant := 0
  log : List (Event × Reply) := []
  fault : Option Panic := none

def step (store : MemoryTaskStore) (world : World) (event : Event) : Option World :=
  if event.now.instant < world.clock ∨ world.fault.isSome then none
  else
    match store.perform event.now event.call world.data with
    | .ok (data, reply) =>
      some
        { data := data
          clock := event.now.instant
          log := (event, reply) :: world.log
          fault := none }
    | .error panic =>
      some { world with clock := event.now.instant, fault := some panic }

def drawnIds (events : List Event) : List String :=
  events.filterMap fun event => event.call.drawnId

def World.events (world : World) : List Event :=
  world.log.map (·.1)

def FreshDraw (world : World) (event : Event) : Prop :=
  ∀ id, event.call.drawnId = some id → id ∉ drawnIds world.events

structure Sound (store : MemoryTaskStore) (world : World) : Prop where
  accounted : Accounted store.retentionLimits world.data
  signalled : SignalledExpired world.clock world.data
  drawn : ∀ id stored, world.data.tasks.lookup id = some stored → id ∈ drawnIds world.events
  fault : world.fault = none

theorem sound_init (store : MemoryTaskStore) : Sound store {} where
  accounted := .empty
  signalled := by
    intro id stored h
    simp at h
  drawn := by
    intro id stored h
    simp at h
  fault := rfl

theorem Sound.advance {store : MemoryTaskStore} {world : World} {now : Instant}
    (h : Sound store world) (hnow : world.clock ≤ now) :
    Sound store { world with clock := now } where
  accounted := h.accounted
  signalled := fun id stored hlookup hflag =>
    Task.is_expired_at_mono hnow (h.signalled id stored hlookup hflag)
  drawn := h.drawn
  fault := h.fault

/-- What a step comes to: the call returns, and every key changes as `KeyChange` says. -/
structure Stepped (store : MemoryTaskStore) (world : World) (event : Event) (next : World)
    (reply : Reply) : Prop where
  sound : Sound store next
  clock : next.clock = event.now.instant
  later : world.clock ≤ event.now.instant
  log : next.log = (event, reply) :: world.log
  changes : ∀ key, KeyChange store event.now event.call reply key
    (world.data.tasks.lookup key) (next.data.tasks.lookup key)

section Step

variable {store : MemoryTaskStore} {world next : World} {event : Event}

variable {reply : Reply}

theorem KeyChange.exists_before {now : Moment} {call : StoreCall} {key : String}
    {before : Option StoredTask} {stored : StoredTask}
    (h : KeyChange store now call reply key before (some stored)) :
    call.drawnId = some key ∨ ∃ old, before = some old := by
  cases h with
  | kept _ _ => exact .inr ⟨stored, rfl⟩
  | admitted _ _ _ _ _ _ _ drawn _ _ =>
    subst drawn
    exact .inl rfl
  | changed old _ _ _ _ _ => exact .inr ⟨old, rfl⟩
  | retired _ old _ _ => exact .inr ⟨old, rfl⟩

theorem KeyChange.signalled_expired {now : Moment} {call : StoreCall} {key : String}
    {before : Option StoredTask} {stored : StoredTask}
    (h : KeyChange store now call reply key before (some stored))
    (hbefore : ∀ old, before = some old → old.expirySignalled = true →
      old.task.isExpiredAt now.instant = true) (hsignalled : stored.expirySignalled = true) :
    stored.task.isExpiredAt now.instant = true := by
  cases h with
  | kept _ _ => exact hbefore stored rfl hsignalled
  | admitted _ _ _ _ _ _ _ _ _ unsignalled =>
    rw [unsignalled] at hsignalled
    cases hsignalled
  | changed _ _ _ _ unsignalled _ =>
    rw [unsignalled.2] at hsignalled
    cases hsignalled
  | retired _ old _ retiring =>
    rw [is_expired_at_retired_record]
    exact (is_retiring_iff.1 retiring).1

theorem step_sound (h : Sound store world) (hfresh : FreshDraw world event)
    (hstep : step store world event = some next) :
    ∃ reply, Stepped store world event next reply := by
  unfold step at hstep
  split at hstep
  next => cases hstep
  next hclock =>
    have hlater : world.clock ≤ event.now.instant :=
      Nat.le_of_not_lt fun hlt => hclock (.inl hlt)
    have hsignalled : SignalledExpired event.now.instant world.data :=
      fun id stored hlookup hflag =>
        Task.is_expired_at_mono hlater (h.signalled id stored hlookup hflag)
    have hunused : Fresh event.call world.data := by
      intro id hdraw
      cases hlookup : world.data.tasks.lookup id with
      | none => rfl
      | some stored => exact absurd (h.drawn id stored hlookup) (hfresh id hdraw)
    obtain ⟨final, reply, hrun, hsettled⟩ :=
      perform_ok store event.now event.call h.accounted hsignalled hunused
    rw [hrun] at hstep
    cases hstep
    refine ⟨reply, ⟨hsettled.accounted, ?_, ?_, rfl⟩, rfl, hlater, rfl, hsettled.changes⟩
    · intro id stored hlookup hflag
      have hchange := hsettled.changes id
      rw [hlookup] at hchange
      exact KeyChange.signalled_expired hchange (fun old hold => hsignalled id old hold) hflag
    · intro id stored hlookup
      have hchange := hsettled.changes id
      rw [hlookup] at hchange
      rcases KeyChange.exists_before hchange with hdraw | ⟨old, hold⟩
      · exact List.mem_filterMap.2 ⟨event, List.mem_cons_self, hdraw⟩
      · obtain ⟨earlier, hmem, hdraw⟩ := List.mem_filterMap.1 (h.drawn id old hold)
        exact List.mem_filterMap.2 ⟨earlier, List.mem_cons_of_mem event hmem, hdraw⟩

theorem perform_of_stepped (hstep : step store world event = some next)
    (hstepped : Stepped store world event next reply) :
    store.perform event.now event.call world.data = .ok (next.data, reply) := by
  have hlog := hstepped.log
  have hfault := hstepped.sound.fault
  unfold step at hstep
  split at hstep
  next => cases hstep
  next =>
    split at hstep
    next data returned hrun =>
      cases hstep
      obtain ⟨hhead, _⟩ := List.cons.inj hlog
      rw [hrun, (Prod.mk.inj hhead).2]
    next panic _ =>
      cases hstep
      cases hfault

theorem drawn_of_stepped {id : String} (hstep : Stepped store world event next reply)
    (hdrawn : id ∈ drawnIds world.events) : id ∈ drawnIds next.events := by
  obtain ⟨earlier, hmem, hdraw⟩ := List.mem_filterMap.1 hdrawn
  refine List.mem_filterMap.2 ⟨earlier, ?_, hdraw⟩
  unfold World.events
  rw [hstep.log]
  exact List.mem_cons_of_mem event hmem

theorem events_of_step (hstep : step store world event = some next) :
    ∀ id, id ∈ drawnIds next.events → id ∈ drawnIds world.events ∨ event.call.drawnId = some id := by
  intro id hmem
  unfold step at hstep
  split at hstep
  next => cases hstep
  next =>
    split at hstep
    next =>
      cases hstep
      obtain ⟨earlier, hevent, hdraw⟩ := List.mem_filterMap.1 hmem
      rcases List.mem_cons.1 hevent with rfl | hevent
      · exact .inr hdraw
      · exact .inl (List.mem_filterMap.2 ⟨earlier, hevent, hdraw⟩)
    next =>
      cases hstep
      exact .inl hmem

theorem along_fresh_draw {events : List Event} (hnodup : (drawnIds events).Nodup)
    (hunused : ∀ id ∈ drawnIds events, id ∉ drawnIds world.events) :
    Along (step store) FreshDraw world events := by
  have hadds : ∀ (state : World) (event : Event) (next : World), step store state event = some next →
      ∀ id, id ∈ drawnIds next.events →
        id ∈ drawnIds state.events ∨ event.call.drawnId = some id :=
    fun state event next hstep => events_of_step hstep
  exact along_fresh hadds hnodup hunused

theorem run_sound {events : List Event} {final : World} (hfresh : (drawnIds events).Nodup)
    (hrun : run (step store) {} events = some final) : Sound store final := by
  have halong : Along (step store) FreshDraw {} events :=
    along_fresh_draw hfresh fun id _ hmem => by simp [World.events, drawnIds] at hmem
  refine along_invariant ?_ (sound_init store) halong hrun
  intro state event next hsound hdraw hstep
  obtain ⟨reply, hstepped⟩ := step_sound hsound hdraw hstep
  exact hstepped.sound

end Step

/-- In every state the store reaches, its totals are the sums over its records, the bytes and the
records stay within their limits, and no call has panicked: the reservation made at creation pays
for every fallback. -/
theorem task_store_accounting (store : MemoryTaskStore) (events : List Event) (world : World)
    (hfresh : (drawnIds events).Nodup)
    (hrun : run (step store) {} events = some world) :
    world.data.retainedBytes = FinMap.total StoredTask.retainedBytes world.data.tasks ∧
      world.data.reservedBytes = FinMap.total StoredTask.reservedBytes world.data.tasks ∧
      world.data.retainedBytes + world.data.reservedBytes ≤
        store.retentionLimits.maxRetainedBytes ∧
      FinMap.count world.data.tasks ≤ store.retentionLimits.maxTasks ∧
      world.fault = none := by
  have hsound := run_sound hfresh hrun
  have haccounted := hsound.accounted
  exact ⟨haccounted.retained, haccounted.reserved, haccounted.bounded, haccounted.count,
    hsound.fault⟩

def tightStore : MemoryTaskStore where
  config := { defaultTtlMillis := 300000 }
  retentionLimits :=
    { maxTasks := 1
      maxPayloadBytes := 64
      maxRetainedBytes := 400
      maxTasks_le := by unfold usizeMax; omega
      maxPayloadBytes_le := by unfold usizeMax; omega
      maxRetainedBytes_le := by unfold usizeMax; omega }

def tightEvents : List Event :=
  [⟨⟨0, "t0"⟩, .createTask ⟨0, "t0"⟩ "a" "report" .null none none⟩,
    ⟨⟨1, "t1"⟩, .completeTask "a"
      { content := [.ok (.string "a result of more than sixty-four bytes in its compact encoding")] }⟩,
    ⟨⟨2, "t2"⟩, .cancelTask "a" none⟩,
    ⟨⟨300000000000, "t3"⟩, .retireExpired true⟩,
    ⟨⟨300000000000, "t3"⟩, .createTask ⟨0, "t0"⟩ "b" "report" .null (some 5) none⟩]

theorem task_store_accounting_tight :
    ∃ world, run (step tightStore) {} tightEvents = some world ∧
      world.data.retainedBytes = FinMap.total StoredTask.retainedBytes world.data.tasks ∧
      world.data.reservedBytes = FinMap.total StoredTask.reservedBytes world.data.tasks ∧
      world.data.retainedBytes + world.data.reservedBytes ≤ 400 ∧
      FinMap.count world.data.tasks ≤ 1 ∧ world.fault = none := by
  obtain ⟨world, hrun⟩ : ∃ world,
      run (step tightStore) {} tightEvents = some world := by
    decide +kernel
  exact ⟨world, hrun, task_store_accounting tightStore tightEvents world (by decide) hrun⟩

end TaskStore

end TowerMcp
