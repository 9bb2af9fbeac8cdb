import TowerMcp.Lib.Pool
import TowerMcp.Task.Run

/-!
# The expiry worker

The background thread of `MemoryTaskStore` over the runs of the store, after `async_task.rs`. The
worker reads the signal generation, retires what has expired, reads the earliest deadline, computes a
timeout and waits on the signal, each as a step of its own. A call that creates a task or changes its
time to live has two sections: it writes the data under the store's lock, and wakes the worker once
the lock is free.

`Armed` is the invariant: a worker on its way into the wait, or in it, has a timeout that covers every
deadline in the store, or the generation it read is out of date. A deadline that is not covered was set
by a call that has yet to wake the worker.
-/

namespace TowerMcp

open Execution MemoryTaskStore

structure WorkerSignal where
  generation : ℕ := 0
  shutdown : Bool := false

namespace WorkerSignal

def read (signal : WorkerSignal) : Option ℕ :=
  if signal.shutdown then none else some signal.generation

def wake (signal : WorkerSignal) : WorkerSignal :=
  { signal with generation := signal.generation + 1 }

def shutDown (signal : WorkerSignal) : WorkerSignal where
  generation := signal.generation + 1
  shutdown := true

end WorkerSignal

/-- `Instant::checked_add` of a duration in nanoseconds. -/
def checkedAddNanos (instant : Instant) (nanos : ℕ) : Option Instant :=
  if instant + nanos ≤ instantMax then some (instant + nanos) else none

def maxSleep : ℕ := 60 * 60 * 1000000000

def nextDeadline : Option Instant → Option Instant → Option Instant
  | some a, some b => some (min a b)
  | some deadline, none | none, some deadline => some deadline
  | none, none => none

def StoredTask.pendingDeadline (stored : StoredTask) : Option Instant :=
  if stored.expirySignalled then none else stored.task.expiresAt

def MemoryTaskStoreData.nextExpiry (data : MemoryTaskStoreData) : Option Instant :=
  (data.tasks.values.filterMap StoredTask.pendingDeadline).min?

def waitTimeout (deadline : Option Instant) (now : Instant) : ℕ :=
  min ((deadline.map fun deadline => deadline - now).getD maxSleep) maxSleep

namespace ExpiryWorker

/-- Where the worker is, with its live variables. `looping` is the top of the loop and `upgraded` the
point at which it holds the store; it then reads the generation, retires, reads the earliest deadline,
computes its timeout and takes the signal's lock. `blocked` is the wait itself, with whether the worker
has been notified in it. -/
inductive Phase where
  | unstarted
  | looping
  | upgraded
  | retiring (generation : ℕ)
  | computing (generation : ℕ)
  | timing (generation : ℕ) (deadline : Option Instant)
  | entering (generation timeout : ℕ) (computedAt : Instant)
  | blocked (generation timeout : ℕ) (computedAt : Instant) (notified : Bool)
  | stopped

def Phase.holdsStore : Phase → Bool
  | .upgraded | .retiring _ | .computing _ | .timing _ _ => true
  | _ => false

def Phase.notify : Phase → Phase
  | .blocked generation timeout computedAt _ => .blocked generation timeout computedAt true
  | phase => phase

structure World where
  store : TaskStore.World := {}
  signal : WorkerSignal := {}
  owed : Pool String := {}
  phase : Phase := .unstarted
  cleanupAt : Option Instant := none
  cloned : Bool := true

/-- A section of a call or a step of the worker. `release` drops the last clone of the store, and
`resume` returns from the wait: notified, timed out or spuriously. -/
inductive Event where
  | call (event : TaskStore.Event)
  | wake (ticket : ℕ)
  | spawn (now : Instant)
  | upgrade
  | readGeneration
  | retire (checked : Instant) (now : Moment) (finished : Instant)
  | readExpiry
  | computeTimeout (now : Instant)
  | enter
  | resume
  | release

def owes (call : StoreCall) (reply : Reply) : Option String :=
  match call, reply with
  | .createTask _ id _ _ _ _, .created (.ok _) => some id
  | .setTtl id _, .done (.ok true) => some id
  | _, _ => none

def owedAfter (store : MemoryTaskStore) (event : TaskStore.Event) (world : World) : Pool String :=
  match store.perform event.now event.call world.store.data with
  | .ok (_, reply) =>
    match owes event.call reply with
    | some id => world.owed.start id
    | none => world.owed
  | .error _ => world.owed

def World.dropHold (world : World) : WorkerSignal :=
  if world.cloned then world.signal else world.signal.shutDown

def step (store : MemoryTaskStore) (cleanupInterval : ℕ) (world : World) (event : Event) :
    Option World :=
  match event with
  | .call event =>
    if world.cloned then do
      let next ← TaskStore.step store world.store event
      pure { world with store := next, owed := owedAfter store event world }
    else none
  | .wake ticket => do
    let _ ← world.owed.get ticket
    pure { world with
      owed := world.owed.finish ticket
      signal := world.signal.wake
      phase := world.phase.notify }
  | .spawn now =>
    match world.phase with
    | .unstarted =>
      some { world with
        phase := .looping
        cleanupAt := checkedAddNanos now (if cleanupInterval = 0 then 1000000
          else cleanupInterval) }
    | _ => none
  | .upgrade =>
    match world.phase with
    | .looping => some { world with phase := if world.cloned then .upgraded else .stopped }
    | _ => none
  | .readGeneration =>
    match world.phase with
    | .upgraded =>
      match world.signal.read with
      | some generation => some { world with phase := .retiring generation }
      | none => some { world with phase := .stopped }
    | _ => none
  | .retire checked now finished =>
    match world.phase with
    | .retiring generation =>
      if checked ≤ now.instant ∧ now.instant ≤ finished then do
        let due := world.cleanupAt.any fun deadline => deadline ≤ checked
        let next ← TaskStore.step store world.store ⟨now, .retireExpired due⟩
        pure { world with
          store := next
          phase := .computing generation
          cleanupAt := if due then checkedAddNanos finished (if cleanupInterval = 0 then 1000000
            else cleanupInterval) else world.cleanupAt }
      else none
    | _ => none
  | .readExpiry =>
    match world.phase with
    | .computing generation =>
      some { world with
        phase := .timing generation (nextDeadline world.cleanupAt world.store.data.nextExpiry) }
    | _ => none
  | .computeTimeout now =>
    match world.phase with
    | .timing generation deadline =>
      some { world with
        phase := .entering generation (waitTimeout deadline now) now
        signal := world.dropHold }
    | _ => none
  | .enter =>
    match world.phase with
    | .entering generation timeout computedAt =>
      if world.signal.shutdown then some { world with phase := .stopped }
      else if world.signal.generation ≠ generation then some { world with phase := .looping }
      else some { world with phase := .blocked generation timeout computedAt false }
    | _ => none
  | .resume =>
    match world.phase with
    | .blocked _ _ _ _ =>
      some { world with phase := if world.signal.shutdown then .stopped else .looping }
    | _ => none
  | .release =>
    if world.cloned ∧ world.owed.calls.entries.isEmpty then
      some { world with
        cloned := false
        signal := if world.phase.holdsStore then world.signal else world.signal.shutDown
        phase := if world.phase.holdsStore then world.phase else world.phase.notify }
    else none

def Owed (world : World) (id : String) : Prop :=
  ∃ ticket, world.owed.get ticket = some id

/-- Every deadline in the store that has not been signalled satisfies `P`, or is owed a wake-up. -/
def Covered (world : World) (P : Instant → Prop) : Prop :=
  ∀ id stored deadline, world.store.data.tasks.lookup id = some stored →
    stored.pendingDeadline = some deadline → P deadline ∨ Owed world id

def Armed (world : World) : Prop :=
  match world.phase with
  | .unstarted | .looping | .upgraded | .stopped => True
  | .retiring generation | .computing generation => generation ≤ world.signal.generation
  | .timing generation deadline =>
    generation < world.signal.generation ∨ generation = world.signal.generation ∧
      Covered world fun pending => ∃ earliest, deadline = some earliest ∧ earliest ≤ pending
  | .entering generation timeout computedAt =>
    generation < world.signal.generation ∨ generation = world.signal.generation ∧
      Covered world fun pending => timeout ≤ pending - computedAt
  | .blocked generation timeout computedAt notified =>
    generation < world.signal.generation ∧ notified = true ∨
      generation = world.signal.generation ∧
        Covered world fun pending => timeout ≤ pending - computedAt

section Call

variable {store : MemoryTaskStore} {world : World} {next : TaskStore.World}
  {event : TaskStore.Event} {reply : Reply} {P : Instant → Prop} {id : String}

theorem owed_after_eq (hrun : store.perform event.now event.call world.store.data =
      .ok (next.data, reply)) :
    owedAfter store event world =
      match owes event.call reply with
      | some id => world.owed.start id
      | none => world.owed := by
  unfold owedAfter
  rw [hrun]

theorem owed_of_owed_before (hnumbered : world.owed.Numbered) (h : Owed world id) :
    ∃ ticket, (owedAfter store event world).get ticket = some id := by
  obtain ⟨ticket, hget⟩ := h
  refine ⟨ticket, ?_⟩
  unfold owedAfter
  split
  next reply _ =>
    split
    next other _ => exact hnumbered.get_start hget other
    next => exact hget
  next => exact hget

theorem owed_of_owes (hrun : store.perform event.now event.call world.store.data =
      .ok (next.data, reply)) (howes : owes event.call reply = some id) :
    ∃ ticket, (owedAfter store event world).get ticket = some id := by
  rw [owed_after_eq hrun, howes]
  exact ⟨world.owed.next, Pool.get_start_self world.owed id⟩

theorem pending_deadline_of_stepped {stored : StoredTask} {deadline : Instant}
    (hstepped : TaskStore.Stepped store world.store event next reply)
    (hrun : store.perform event.now event.call world.store.data = .ok (next.data, reply))
    (hlookup : next.data.tasks.lookup id = some stored)
    (hpending : stored.pendingDeadline = some deadline) :
    owes event.call reply = some id ∨
      ∃ old, world.store.data.tasks.lookup id = some old ∧
        old.pendingDeadline = some deadline := by
  have hchange := hstepped.changes id
  rw [hlookup] at hchange
  generalize hbefore : world.store.data.tasks.lookup id = held at hchange
  cases hchange with
  | kept _ _ => exact .inr ⟨stored, rfl, hpending⟩
  | admitted created toolName arguments ttl ttlMs owner _ drawn _ _ =>
    left
    rw [drawn] at hrun ⊢
    unfold perform settle at hrun
    dsimp only at hrun
    split at hrun
    next data value hcreate =>
      obtain ⟨_, rfl⟩ := Prod.mk.inj (Except.ok.inj hrun)
      rfl
    next =>
      -- a refused creation leaves the data alone
      obtain ⟨hdata, _⟩ := Prod.mk.inj (Except.ok.inj hrun)
      rw [← hdata, hbefore] at hlookup
      cases hlookup
  | changed old _ named _ unsignalled task =>
    rcases ttl_of_task_change task with ⟨other, ttlMs, hcall, hreply⟩ | httl
    · left
      rw [hcall] at named ⊢
      obtain rfl := Option.some.inj named
      rw [hreply]
      rfl
    · right
      refine ⟨old, rfl, ?_⟩
      have hdeadline : stored.task.expiresAt = old.task.expiresAt := by
        rw [Task.expiresAt, Task.expiresAt, (same_origin_of_task_change task).createdAt, httl]
      rw [StoredTask.pendingDeadline, unsignalled.2, hdeadline] at hpending
      rw [StoredTask.pendingDeadline, unsignalled.1]
      exact hpending
  | retired _ old _ _ =>
    rw [StoredTask.pendingDeadline, expiry_signalled_retired_record] at hpending
    cases hpending

theorem covered_of_call (hsound : TaskStore.Sound store world.store)
    (hnumbered : world.owed.Numbered) (hfresh : TaskStore.FreshDraw world.store event)
    (hnext : TaskStore.step store world.store event = some next) (h : Covered world P)
    {after : World} (hstore : after.store = next) (howed : after.owed = owedAfter store event world) :
    Covered after P := by
  obtain ⟨reply, hstepped⟩ := TaskStore.step_sound hsound hfresh hnext
  have hrun := TaskStore.perform_of_stepped hnext hstepped
  intro id stored deadline hlookup hpending
  rw [hstore] at hlookup
  unfold Owed
  rw [howed]
  rcases pending_deadline_of_stepped hstepped hrun hlookup hpending with howes | ⟨old, hold, hsame⟩
  · exact .inr (owed_of_owes hrun howes)
  · rcases h id old deadline hold hsame with hcovered | howed
    · exact .inl hcovered
    · exact .inr (owed_of_owed_before hnumbered howed)

end Call

section Step

variable {store : MemoryTaskStore} {cleanupInterval : ℕ} {world next : World} {event : Event}

theorem next_expiry_le {data : MemoryTaskStoreData} {id : String} {stored : StoredTask}
    {deadline : Instant} (hlookup : data.tasks.lookup id = some stored)
    (hpending : stored.pendingDeadline = some deadline) :
    ∃ earliest, data.nextExpiry = some earliest ∧ earliest ≤ deadline := by
  have hmem : deadline ∈ data.tasks.values.filterMap StoredTask.pendingDeadline :=
    List.mem_filterMap.2 ⟨stored, FinMap.mem_values_of_lookup hlookup, hpending⟩
  obtain ⟨earliest, hearliest⟩ := Option.isSome_iff_exists.1 (List.isSome_min?_of_mem hmem)
  exact ⟨earliest, hearliest, (List.min?_eq_some_iff.1 hearliest).2 deadline hmem⟩

theorem next_deadline_le (a : Option Instant) {b : Instant} :
    ∃ earliest, nextDeadline a (some b) = some earliest ∧ earliest ≤ b := by
  cases a with
  | none => exact ⟨b, rfl, le_rfl⟩
  | some a => exact ⟨min a b, rfl, min_le_right a b⟩

theorem wait_timeout_le {earliest deadline now : Instant} (h : earliest ≤ deadline) :
    waitTimeout (some earliest) now ≤ deadline - now := by
  have hle : waitTimeout (some earliest) now ≤ earliest - now := min_le_left _ _
  exact hle.trans (Nat.sub_le_sub_right h now)

variable {after : World}

theorem Covered.transfer {P Q : Instant → Prop} (h : Covered world P)
    (hstore : after.store.data = world.store.data) (howed : after.owed = world.owed)
    (hmono : ∀ deadline, P deadline → Q deadline) : Covered after Q := by
  intro id stored deadline hlookup hpending
  rw [hstore] at hlookup
  unfold Owed
  rw [howed]
  exact (h id stored deadline hlookup hpending).imp_left (hmono deadline)

structure Ready (store : MemoryTaskStore) (world : World) : Prop where
  sound : TaskStore.Sound store world.store
  numbered : world.owed.Numbered
  armed : Armed world

theorem armed_of_covered (h : Armed world) (hphase : after.phase = world.phase)
    (hsignal : after.signal = world.signal)
    (hcovered : ∀ P, Covered world P → Covered after P) : Armed after := by
  unfold Armed at h ⊢
  rw [hphase, hsignal]
  cases hworld : world.phase with
  | unstarted | looping | upgraded | stopped => trivial
  | retiring | computing =>
    rw [hworld] at h
    exact h
  | timing | entering | blocked =>
    rw [hworld] at h
    exact h.imp_right fun hcurrent => ⟨hcurrent.1, hcovered _ hcurrent.2⟩

theorem armed_of_moved (h : Armed world) (hphase : after.phase = world.phase.notify)
    (hmoved : after.signal.generation = world.signal.generation + 1) : Armed after := by
  unfold Armed at h ⊢
  rw [hphase]
  cases hworld : world.phase with
  | unstarted | looping | upgraded | stopped => trivial
  | retiring | computing =>
    rw [hworld] at h
    dsimp only [Phase.notify] at h ⊢
    omega
  | timing | entering =>
    rw [hworld] at h
    dsimp only [Phase.notify] at h ⊢
    left
    rcases h with hlt | ⟨heq, _⟩
    · omega
    · omega
  | blocked =>
    rw [hworld] at h
    dsimp only [Phase.notify] at h ⊢
    left
    refine ⟨?_, rfl⟩
    rcases h with ⟨hlt, _⟩ | ⟨heq, _⟩
    · omega
    · omega

def Event.drawnId : Event → Option String
  | .call event => event.call.drawnId
  | _ => none

def FreshDraw (world : World) (event : Event) : Prop :=
  ∀ id, event.drawnId = some id → id ∉ TaskStore.drawnIds world.store.events

theorem ready_of_call {call : TaskStore.Event} (h : Ready store world)
    (hfresh : TaskStore.FreshDraw world.store call)
    (hstep : step store cleanupInterval world (.call call) = some next) : Ready store next := by
  obtain ⟨_, hrest⟩ := Option.ite_none_right_eq_some.1 hstep
  obtain ⟨nextStore, hnext, hworld⟩ := Option.bind_eq_some_iff.1 hrest
  cases hworld
  obtain ⟨reply, hstepped⟩ := TaskStore.step_sound h.sound hfresh hnext
  refine ⟨hstepped.sound, ?_, ?_⟩
  · show (owedAfter store call world).Numbered
    rw [owed_after_eq (TaskStore.perform_of_stepped hnext hstepped)]
    split
    next id _ => exact h.numbered.start id
    next => exact h.numbered
  · exact armed_of_covered h.armed rfl rfl fun P hcovered =>
      covered_of_call h.sound h.numbered hfresh hnext hcovered rfl rfl

theorem ready_of_retire {checked finished : Instant} {now : Moment} (h : Ready store world)
    (hstep : step store cleanupInterval world (.retire checked now finished) = some next) :
    Ready store next := by
  dsimp only [step] at hstep
  split at hstep
  next generation hphase =>
    obtain ⟨_, hrest⟩ := Option.ite_none_right_eq_some.1 hstep
    obtain ⟨nextStore, hnext, hworld⟩ := Option.bind_eq_some_iff.1 hrest
    cases hworld
    have hdraw : TaskStore.FreshDraw world.store
        ⟨now, .retireExpired (world.cleanupAt.any fun deadline => deadline ≤ checked)⟩ :=
      fun id hdrawn => by cases hdrawn
    obtain ⟨reply, hstepped⟩ := TaskStore.step_sound h.sound hdraw hnext
    have harmed := h.armed
    unfold Armed at harmed
    rw [hphase] at harmed
    exact ⟨hstepped.sound, h.numbered, harmed⟩
  next => cases hstep

theorem ready_of_plan (h : Ready store world)
    (hevent : event = .readGeneration ∨ event = .readExpiry ∨
      (∃ now, event = .computeTimeout now) ∨ event = .enter)
    (hstep : step store cleanupInterval world event = some next) : Ready store next := by
  have harmed := h.armed
  unfold Armed at harmed
  rcases hevent with rfl | rfl | ⟨now, rfl⟩ | rfl
  · dsimp only [step] at hstep
    split at hstep
    next hphase =>
      split at hstep
      next generation hread =>
        cases hstep
        obtain ⟨_, hcurrent⟩ := Option.ite_none_left_eq_some.1 hread
        exact ⟨h.sound, h.numbered, (Option.some.inj hcurrent).ge⟩
      next =>
        cases hstep
        exact ⟨h.sound, h.numbered, trivial⟩
    next => cases hstep
  · dsimp only [step] at hstep
    split at hstep
    next generation hphase =>
      cases hstep
      rw [hphase] at harmed
      refine ⟨h.sound, h.numbered, ?_⟩
      rcases Nat.lt_or_eq_of_le harmed with hlt | heq
      · exact .inl hlt
      · refine .inr ⟨heq, fun id stored pending hlookup hpending => .inl ?_⟩
        obtain ⟨earliest, hearliest, hle⟩ := next_expiry_le hlookup hpending
        obtain ⟨first, hfirst, hfirstLe⟩ := next_deadline_le world.cleanupAt (b := earliest)
        refine ⟨first, ?_, hfirstLe.trans hle⟩
        rw [hearliest]
        exact hfirst
    next => cases hstep
  · dsimp only [step] at hstep
    split at hstep
    next generation deadline hphase =>
      cases hstep
      rw [hphase] at harmed
      refine ⟨h.sound, h.numbered, ?_⟩
      show generation < world.dropHold.generation ∨ generation = world.dropHold.generation ∧ _
      unfold World.dropHold
      split
      next =>
        refine harmed.imp_right fun hcurrent => ⟨hcurrent.1, hcurrent.2.transfer rfl rfl ?_⟩
        rintro pending ⟨earliest, rfl, hle⟩
        exact wait_timeout_le hle
      next =>
        -- the store is gone: the worker is told to stop
        left
        show generation < world.signal.generation + 1
        rcases harmed with hlt | ⟨heq, _⟩
        · omega
        · omega
    next => cases hstep
  · dsimp only [step] at hstep
    split at hstep
    next generation timeout computedAt hphase =>
      rw [hphase] at harmed
      split at hstep
      next =>
        cases hstep
        exact ⟨h.sound, h.numbered, trivial⟩
      next =>
        split at hstep
        next =>
          cases hstep
          exact ⟨h.sound, h.numbered, trivial⟩
        next hcurrent =>
          cases hstep
          refine ⟨h.sound, h.numbered, ?_⟩
          have heq : world.signal.generation = generation := not_not.1 hcurrent
          rcases harmed with hlt | hcovered
          · omega
          · exact .inr hcovered
    next => cases hstep

theorem ready_step (h : Ready store world) (hfresh : FreshDraw world event)
    (hstep : step store cleanupInterval world event = some next) : Ready store next := by
  cases event with
  | call call => exact ready_of_call h hfresh hstep
  | wake ticket =>
    obtain ⟨id, _, hworld⟩ := Option.bind_eq_some_iff.1 hstep
    cases hworld
    exact ⟨h.sound, h.numbered.finish ticket, armed_of_moved h.armed rfl rfl⟩
  | spawn now =>
    dsimp only [step] at hstep
    split at hstep
    next =>
      cases hstep
      exact ⟨h.sound, h.numbered, trivial⟩
    next => cases hstep
  | upgrade =>
    dsimp only [step] at hstep
    split at hstep
    next =>
      cases hstep
      refine ⟨h.sound, h.numbered, ?_⟩
      cases world.cloned <;> trivial
    next => cases hstep
  | readGeneration => exact ready_of_plan h (.inl rfl) hstep
  | retire checked now finished => exact ready_of_retire h hstep
  | readExpiry => exact ready_of_plan h (.inr (.inl rfl)) hstep
  | computeTimeout now => exact ready_of_plan h (.inr (.inr (.inl ⟨now, rfl⟩))) hstep
  | enter => exact ready_of_plan h (.inr (.inr (.inr rfl))) hstep
  | resume =>
    dsimp only [step] at hstep
    split at hstep
    next =>
      cases hstep
      refine ⟨h.sound, h.numbered, ?_⟩
      cases world.signal.shutdown <;> trivial
    next => cases hstep
  | release =>
    obtain ⟨_, hworld⟩ := Option.ite_none_right_eq_some.1 hstep
    cases hworld
    refine ⟨h.sound, h.numbered, ?_⟩
    cases hholds : world.phase.holdsStore with
    | true =>
      exact armed_of_covered h.armed rfl rfl fun P hcovered =>
        hcovered.transfer rfl rfl fun _ hP => hP
    | false => exact armed_of_moved h.armed rfl rfl

theorem drawn_of_step (hstep : step store cleanupInterval world event = some next) (id : String)
    (hdrawn : id ∈ TaskStore.drawnIds next.store.events) :
    id ∈ TaskStore.drawnIds world.store.events ∨ event.drawnId = some id := by
  cases event with
  | call call =>
    obtain ⟨_, hrest⟩ := Option.ite_none_right_eq_some.1 hstep
    obtain ⟨nextStore, hnext, hworld⟩ := Option.bind_eq_some_iff.1 hrest
    cases hworld
    exact TaskStore.events_of_step hnext id hdrawn
  | retire checked now finished =>
    dsimp only [step] at hstep
    split at hstep
    next =>
      obtain ⟨_, hrest⟩ := Option.ite_none_right_eq_some.1 hstep
      obtain ⟨nextStore, hnext, hworld⟩ := Option.bind_eq_some_iff.1 hrest
      cases hworld
      exact TaskStore.events_of_step hnext id hdrawn
    next => cases hstep
  | wake ticket =>
    obtain ⟨_, _, hworld⟩ := Option.bind_eq_some_iff.1 hstep
    cases hworld
    exact .inl hdrawn
  | release =>
    obtain ⟨_, hworld⟩ := Option.ite_none_right_eq_some.1 hstep
    cases hworld
    exact .inl hdrawn
  | spawn | upgrade | readGeneration | readExpiry | computeTimeout | enter | resume =>
    left
    dsimp only [step] at hstep
    repeat' split at hstep
    all_goals cases hstep
    all_goals exact hdrawn

end Step

theorem ready_init (store : MemoryTaskStore) : Ready store {} where
  sound := TaskStore.sound_init store
  numbered := Pool.numbered_empty
  armed := trivial

/-- A task is created while the worker is between reading the generation and its wait, and the worker
blocks again once it was woken. -/
def shortenedEvents : List Event :=
  [.spawn 0, .upgrade, .readGeneration, .retire 0 ⟨0, "t0"⟩ 0, .readExpiry,
    .call ⟨⟨0, "t0"⟩, .createTask ⟨0, "t0"⟩ "a" "report" .null (some 5) none⟩,
    .computeTimeout 0, .wake 0, .enter,
    .upgrade, .readGeneration, .retire 0 ⟨0, "t0"⟩ 0, .readExpiry, .computeTimeout 1000000, .enter]

end ExpiryWorker

end TowerMcp
