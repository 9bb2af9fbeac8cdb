import TowerMcp.Lib.Pool
import TowerMcp.Task.Outstanding

/-!
# Waiters for the completion of a task

`wait_for_completion` of `MemoryTaskStore` over the runs of the store, after `async_task.rs`. A waiter
registers with the notifier of its task under the read lock, waits for the notifier or the
cancellation token, and reads the task again when one of them fires. The notifier and the token
belong to the task and not to its record: they outlive a record that is removed.

Completion, failure, cancellation and expiry all wake the waiters of the task, so the only waiters
that are left behind are those of a task that is discarded under them.
-/

namespace TowerMcp

open Execution MemoryTaskStore Fallible

namespace TaskWaiters

/-- What the waiters of a task share with its record: how often the notifier has woken its waiters,
and whether the cancellation token is raised. -/
structure Handle where
  notified : ℕ := 0
  raised : Bool := false

def Handle.follow (handle : Handle) (stored : StoredTask) : Handle where
  notified := stored.task.completionNotify
  raised := handle.raised || stored.task.cancellationToken

/-- The next step of a waiter: wait for the notifier or the token, read the task because the token
was raised, wait for the notifier alone, or read the task because the notifier fired. -/
inductive Stage where
  | selecting
  | checking
  | awaiting
  | reading
deriving DecidableEq

/-- A call to `wait_for_completion` that has registered. -/
structure Waiter where
  taskId : String
  seen : ℕ
  stage : Stage

def Waiter.isReleased (waiter : Waiter) (handle : Handle) : Bool :=
  match waiter.stage with
  | .selecting => decide (waiter.seen < handle.notified) || handle.raised
  | .awaiting => decide (waiter.seen < handle.notified)
  | .checking | .reading => true

structure World where
  store : TaskStore.World := {}
  handles : String → Handle := fun _ => {}
  waiters : Pool Waiter := {}
  returned : List (String × Option TaskSnapshot) := []

/-- A section of the store or a step of a waiter. The token of a task may be raised by whoever
holds a copy of it, and a waiter may be dropped at any time. -/
inductive Event where
  | call (event : TaskStore.Event)
  | wait (now : Instant) (taskId : String)
  | wake (ticket : ℕ) (byToken : Bool)
  | read (now : Instant) (ticket : ℕ)
  | raise (taskId : String)
  | drop (ticket : ℕ)

/-- The handles after a call on the store. A record that a retirement removes was signalled first,
and one that is discarded leaves its handle as it is. -/
def handlesAfter (event : TaskStore.Event) (before after : MemoryTaskStoreData)
    (handles : String → Handle) (taskId : String) : Handle :=
  match after.tasks.lookup taskId, before.tasks.lookup taskId with
  | some stored, _ => (handles taskId).follow stored
  | none, some stored =>
    match event.call with
    | .retireExpired _ => (handles taskId).follow (retireRecord event.now.instant stored)
    | _ => handles taskId
  | none, none => handles taskId

def World.advance (world : World) (now : Instant) : World :=
  { world with store := { world.store with clock := now } }

def World.register (world : World) (now : Instant) (taskId : String) : World :=
  match readable world.store.data now taskId with
  | none => { world with returned := (taskId, none) :: world.returned }
  | some stored =>
    if stored.task.status.isTerminal then
      { world with
        returned := (taskId, getTaskResult world.store.data now taskId) :: world.returned }
    else
      { world with
        waiters := world.waiters.start
          { taskId := taskId, seen := stored.task.completionNotify, stage := .selecting } }

def World.answer (world : World) (now : Instant) (ticket : ℕ) (waiter : Waiter) : World :=
  { world with
    waiters := world.waiters.finish ticket
    returned := (waiter.taskId, getTaskResult world.store.data now waiter.taskId) ::
      world.returned }

/-- Read the task. A waiter that was woken by the token goes on waiting for the notifier while the
task is live: its handler holds the token too and has yet to confirm. -/
def World.readResult (world : World) (now : Instant) (ticket : ℕ) (waiter : Waiter) :
    Option World :=
  match waiter.stage with
  | .checking =>
    match getTaskResult world.store.data now waiter.taskId with
    | some (task, _, _) =>
      if task.status.isTerminal then some (world.answer now ticket waiter)
      else
        some { world with
          waiters := world.waiters.become ticket { waiter with stage := .awaiting } }
    | none => some (world.answer now ticket waiter)
  | .reading => some (world.answer now ticket waiter)
  | .selecting | .awaiting => none

def Waiter.wake (waiter : Waiter) (handle : Handle) (byToken : Bool) : Option Waiter :=
  match waiter.stage, byToken with
  | .selecting, true => if handle.raised then some { waiter with stage := .checking } else none
  | .selecting, false | .awaiting, false =>
    if waiter.seen < handle.notified then some { waiter with stage := .reading } else none
  | _, _ => none

def step (store : MemoryTaskStore) (world : World) (event : Event) : Option World :=
  match event with
  | .call event => do
    let next ← TaskStore.step store world.store event
    pure { world with
      store := next
      handles := handlesAfter event world.store.data next.data world.handles }
  | .wait now taskId =>
    if now < world.store.clock then none else some ((world.advance now).register now taskId)
  | .wake ticket byToken => do
    let waiter ← world.waiters.get ticket
    let woken ← waiter.wake (world.handles waiter.taskId) byToken
    pure { world with waiters := world.waiters.become ticket woken }
  | .read now ticket =>
    if now < world.store.clock then none
    else do
      let waiter ← world.waiters.get ticket
      (world.advance now).readResult now ticket waiter
  | .raise taskId =>
    some { world with
      handles := Function.update world.handles taskId
        { world.handles taskId with raised := true } }
  | .drop ticket => some { world with waiters := world.waiters.finish ticket }

def Waitable (data : MemoryTaskStoreData) (taskId : String) : Prop :=
  ∃ stored, data.tasks.lookup taskId = some stored ∧ stored.task.status.isTerminal = false ∧
    stored.expirySignalled = false

def NoneStranded (world : World) : Prop :=
  world.waiters.Holds fun waiter =>
    waiter.isReleased (world.handles waiter.taskId) = false →
      Waitable world.store.data waiter.taskId

def DiscardsUnwaited (world : World) (event : Event) : Prop :=
  match event with
  | .call ⟨_, .discardTask taskId⟩ =>
    world.waiters.Holds fun waiter =>
      waiter.taskId = taskId → waiter.isReleased (world.handles waiter.taskId) = true
  | _ => True

instance decidableDiscardsUnwaited (world : World) (event : Event) :
    Decidable (DiscardsUnwaited world event) := by
  unfold DiscardsUnwaited
  split
  · exact Pool.decidableHolds
  · exact .isTrue trivial

def RetirementReleases (store : MemoryTaskStore) (world : World) (event : Event) : Prop :=
  ∀ now remove next, event = .call ⟨now, .retireExpired remove⟩ →
    step store world event = some next →
    next.waiters.Holds fun waiter =>
      waiter.isReleased (next.handles waiter.taskId) = false →
        ∃ stored, next.store.data.tasks.lookup waiter.taskId = some stored ∧
          stored.task.isExpiredAt now.instant = false

def Event.drawnId : Event → Option String
  | .call event => event.call.drawnId
  | _ => none

def FreshDraw (world : World) (event : Event) : Prop :=
  ∀ id, event.drawnId = some id → id ∉ TaskStore.drawnIds world.store.events

/-- What holds in every state of a run: the handles follow the records, and a waiter has seen no
more wake-ups than there were. -/
structure Tracked (store : MemoryTaskStore) (world : World) : Prop where
  sound : TaskStore.Sound store world.store
  handles : ∀ id stored, world.store.data.tasks.lookup id = some stored →
    (world.handles id).notified = stored.task.completionNotify
  waiters : world.waiters.Holds fun waiter =>
    waiter.seen ≤ (world.handles waiter.taskId).notified ∧
      waiter.taskId ∈ TaskStore.drawnIds world.store.events

section Record

variable {store : MemoryTaskStore} {now : Moment} {call : StoreCall} {reply : Reply}
  {before after : Task}

theorem wakes_of_task_change (h : TaskChange store now call reply before after) :
    after.completionNotify = before.completionNotify + 1 ∨
      after.completionNotify = before.completionNotify ∧
        after.status.isTerminal = before.status.isTerminal := by
  cases h with
  | described _ _ _ | extended _ _ _ | signalled _ _ _ _ => exact .inr ⟨rfl, rfl⟩
  | parked _ _ _ _ live _ _ => exact .inr ⟨rfl, live.symm⟩
  | progressed _ _ _ _ live progress => exact .inr ⟨rfl, progress.trans live.symm⟩
  | answered _ responses _ live =>
    refine .inr ⟨apply_input_responses_frame Task.completionNotify (fun _ _ _ _ => rfl)
      (fun _ _ _ _ => rfl) now before responses, ?_⟩
    rw [live]
    apply is_terminal_after_responses
    show (before.consumeResponses responses).1.status.isTerminal = false
    rw [status_consume_responses]
    exact live
  | completed _ _ _ _ | failed _ _ _ _ | completionRejected _ _ _ _ _
  | failureRejected _ _ _ _ _ => exact .inl rfl
  | cancelled _ reason _ final _ outcome =>
    left
    show final.completionNotify + 1 = before.completionNotify + 1
    have hsame : final.completionNotify = before.raiseToken.completionNotify :=
      cancelled_frame Task.completionNotify (fun _ _ => rfl) (fun _ => rfl) outcome
    rw [hsame]
    rfl

theorem completion_notify_retired_record {stored : StoredTask}
    (hunsignalled : stored.expirySignalled = false) :
    (retiredRecord stored).task.completionNotify = stored.task.completionNotify + 1 := by
  unfold retiredRecord StoredTask.signalExpiry
  rw [hunsignalled]
  rfl

end Record

section Call

variable {store : MemoryTaskStore} {world : World} {next : TaskStore.World}
  {event : TaskStore.Event} {reply : Reply} {id : String}

variable {before after : MemoryTaskStoreData}

theorem handles_after_held {handles : String → Handle} {stored : StoredTask}
    (h : after.tasks.lookup id = some stored) :
    handlesAfter event before after handles id = (handles id).follow stored := by
  unfold handlesAfter
  rw [h]

theorem handles_after_discarded {stored : StoredTask} (now : Moment)
    (hbefore : before.tasks.lookup id = some stored) (hafter : after.tasks.lookup id = none)
    (handles : String → Handle) :
    handlesAfter ⟨now, .discardTask id⟩ before after handles id = handles id := by
  unfold handlesAfter
  rw [hafter, hbefore]

theorem lookup_of_discard {now : Moment} {data final : MemoryTaskStoreData}
    (h : store.perform now (.discardTask id) data = .ok (final, reply)) :
    final.tasks.lookup id = none := by
  obtain ⟨⟨after, found⟩, hrun, hpure⟩ := bind_eq_ok.1 h
  obtain ⟨rfl, _⟩ := Prod.mk.inj (pure_eq_ok.1 hpure)
  unfold discardTask at hrun
  split at hrun
  next hlookup =>
    cases hrun
    exact hlookup
  next =>
    obtain ⟨_, _, hrun⟩ := bind_eq_ok.1 hrun
    obtain ⟨_, _, hrun⟩ := bind_eq_ok.1 hrun
    obtain ⟨rfl, _⟩ := Prod.mk.inj (pure_eq_ok.1 hrun)
    exact AList.lookup_erase id data.tasks

structure HandleMoved (event : TaskStore.Event) (before after : MemoryTaskStoreData)
    (old new : Handle) (id : String) : Prop where
  notified : old.notified ≤ new.notified
  raised : old.raised = true → new.raised = true
  woken : Waitable before id → Waitable after id ∨ old.notified < new.notified ∨
    event.call = .discardTask id ∧ new = old

theorem handle_moved_of_follow {handle : Handle} {old new : StoredTask}
    (hhandle : handle.notified = old.task.completionNotify)
    (hwoken : new.task.completionNotify = old.task.completionNotify + 1 ∨
      new.task.completionNotify = old.task.completionNotify ∧
        (Waitable before id → Waitable after id)) :
    HandleMoved event before after handle (handle.follow new) id := by
  refine ⟨?_, fun hraised => by simp [Handle.follow, hraised], ?_⟩
  · show handle.notified ≤ new.task.completionNotify
    rcases hwoken with hmore | ⟨hsame, _⟩
    · omega
    · omega
  · intro hwaitable
    show _ ∨ handle.notified < new.task.completionNotify ∨ _
    rcases hwoken with hmore | ⟨_, hkeeps⟩
    · right
      left
      omega
    · exact .inl (hkeeps hwaitable)

theorem handle_moved (h : Tracked store world)
    (hstepped : TaskStore.Stepped store world.store event next reply)
    (hfresh : TaskStore.FreshDraw world.store event)
    (hdrawn : id ∈ TaskStore.drawnIds world.store.events) :
    HandleMoved event world.store.data next.data (world.handles id)
      (handlesAfter event world.store.data next.data world.handles id) id := by
  obtain ⟨now, call⟩ := event
  have hchange := hstepped.changes id
  have hhandle := h.handles id
  have hretired : ∀ stored, world.store.data.tasks.lookup id = some stored →
      RecordRetired now.instant stored := fun stored hlookup =>
    record_retired (h.sound.accounted.wellFormed id stored hlookup)
      (le_trans (h.sound.accounted.charge_le hlookup) store.retentionLimits.maxRetainedBytes_le)
  generalize hbefore : world.store.data.tasks.lookup id = old at hchange
  generalize hafter : next.data.tasks.lookup id = new at hchange
  have hwaitable : ∀ stored, old = some stored → Waitable world.store.data id →
      stored.task.status.isTerminal = false ∧ stored.expirySignalled = false := by
    rintro stored rfl ⟨held, hheld, hlive, hunsignalled⟩
    obtain rfl := Option.some.inj (hbefore.symm.trans hheld)
    exact ⟨hlive, hunsignalled⟩
  cases hchange with
  | absent _ =>
    simp only [handlesAfter, hbefore, hafter]
    refine ⟨le_rfl, fun hraised => hraised, ?_⟩
    rintro ⟨held, hheld, _⟩
    rw [hbefore] at hheld
    cases hheld
  | kept stored _ =>
    simp only [handlesAfter, hafter]
    refine handle_moved_of_follow (hhandle stored hbefore) (.inr ⟨rfl, fun hwait => ?_⟩)
    exact ⟨stored, hafter, hwaitable stored rfl hwait⟩
  | admitted _ _ _ _ _ _ _ drawn _ _ =>
    refine absurd hdrawn (hfresh id ?_)
    rw [drawn]
    rfl
  | changed old new _ _ unsignalled task =>
    simp only [handlesAfter, hafter]
    refine handle_moved_of_follow (hhandle old hbefore) ?_
    rcases wakes_of_task_change task with hmore | ⟨hsame, hterminal⟩
    · exact .inl hmore
    · refine .inr ⟨hsame, fun hwait => ⟨new, hafter, ?_, unsignalled.2⟩⟩
      rw [hterminal]
      exact (hwaitable old rfl hwait).1
  | retired _ stored _ retiring =>
    simp only [handlesAfter, hafter]
    exact handle_moved_of_follow (hhandle stored hbefore)
      (.inl (completion_notify_retired_record (is_retiring_iff.1 retiring).2))
  | removed stored gone =>
    rcases gone with rfl | ⟨rfl, hexpired⟩
    · simp only [handlesAfter, hbefore, hafter]
      exact ⟨le_rfl, fun hraised => hraised, fun _ => .inr (.inr ⟨rfl, rfl⟩)⟩
    · simp only [handlesAfter, hbefore, hafter]
      refine handle_moved_of_follow (hhandle stored hbefore) ?_
      rw [(hretired stored hbefore).record]
      cases hsignalled : stored.expirySignalled with
      | false =>
        have hretiring := is_retiring_iff.2 ⟨hexpired, hsignalled⟩
        rw [if_pos hretiring]
        exact .inl (completion_notify_retired_record hsignalled)
      | true =>
        have hretiring : ¬isRetiring now.instant stored = true := by
          rw [is_retiring_iff, hsignalled]
          simp
        rw [if_neg hretiring]
        refine .inr ⟨rfl, fun hwait => ?_⟩
        rw [(hwaitable stored rfl hwait).2] at hsignalled
        cases hsignalled

end Call

section Step

variable {store : MemoryTaskStore} {world next : World} {event : Event}

variable {waiter : Waiter}

theorem is_released_mono {old new : Handle} (hnotified : old.notified ≤ new.notified)
    (hraised : old.raised = true → new.raised = true) (h : waiter.isReleased old = true) :
    waiter.isReleased new = true := by
  unfold Waiter.isReleased at h ⊢
  cases hstage : waiter.stage with
  | selecting =>
    rw [hstage] at h
    simp only [Bool.or_eq_true, decide_eq_true_eq] at h ⊢
    rcases h with hseen | hold
    · exact .inl (lt_of_lt_of_le hseen hnotified)
    · exact .inr (hraised hold)
  | awaiting =>
    rw [hstage] at h
    simp only [decide_eq_true_eq] at h ⊢
    exact lt_of_lt_of_le h hnotified
  | checking | reading => rfl

theorem notified_le_of_blocked {handle : Handle} (h : waiter.isReleased handle = false) :
    handle.notified ≤ waiter.seen := by
  unfold Waiter.isReleased at h
  cases hstage : waiter.stage with
  | selecting =>
    rw [hstage] at h
    simp only [Bool.or_eq_false_iff, decide_eq_false_iff_not] at h
    omega
  | awaiting =>
    rw [hstage] at h
    simp only [decide_eq_false_iff_not] at h
    omega
  | checking | reading =>
    rw [hstage] at h
    cases h

theorem wake_facts {woken : Waiter} {handle : Handle} {byToken : Bool}
    (h : waiter.wake handle byToken = some woken) :
    woken.taskId = waiter.taskId ∧ woken.seen = waiter.seen ∧
      ∀ later, woken.isReleased later = true := by
  unfold Waiter.wake at h
  split at h
  next =>
    obtain ⟨_, hwoken⟩ := Option.ite_none_right_eq_some.1 h
    cases hwoken
    exact ⟨rfl, rfl, fun _ => rfl⟩
  all_goals first
    | cases h
    | obtain ⟨_, hwoken⟩ := Option.ite_none_right_eq_some.1 h
      cases hwoken
      exact ⟨rfl, rfl, fun _ => rfl⟩

variable {now : Instant}

theorem waitable_of_readable {id : String} {stored : StoredTask}
    (h : TaskStore.Sound store world.store) (hnow : world.store.clock ≤ now)
    (hread : readable world.store.data now id = some stored)
    (hlive : stored.task.status.isTerminal = false) : Waitable world.store.data id := by
  obtain ⟨hlookup, hunexpired⟩ := readable_eq_some.1 hread
  have hearlier := Task.unexpired_earlier hnow hunexpired
  exact ⟨stored, hlookup, hlive, h.signalled.unsignalled hlookup hearlier⟩

theorem tracked_advance (h : Tracked store world) (hnow : world.store.clock ≤ now) :
    Tracked store (world.advance now) where
  sound := h.sound.advance hnow
  handles := h.handles
  waiters := h.waiters

theorem register_store (now : Instant) (id : String) :
    (world.register now id).store = world.store := by
  unfold World.register
  cases readable world.store.data now id with
  | none => rfl
  | some stored =>
    dsimp only
    split <;> rfl

theorem read_result_cases {ticket : ℕ} (h : world.readResult now ticket waiter = some next) :
    next = world.answer now ticket waiter ∨
      ∃ stored, readable world.store.data now waiter.taskId = some stored ∧
        stored.task.status.isTerminal = false ∧
        next = { world with
          waiters := world.waiters.become ticket { waiter with stage := .awaiting } } := by
  unfold World.readResult at h
  split at h
  next =>
    split at h
    next task result error hsnapshot =>
      obtain ⟨stored, hread, hstored⟩ := Option.map_eq_some_iff.1 hsnapshot
      split at h
      next => exact .inl (Option.some.inj h).symm
      next hlive =>
        refine .inr ⟨stored, hread, ?_, (Option.some.inj h).symm⟩
        rw [← (Prod.mk.inj hstored).1] at hlive
        exact (Bool.not_eq_true _).mp hlive
    next => exact .inl (Option.some.inj h).symm
  next => exact .inl (Option.some.inj h).symm
  next => cases h
  next => cases h

theorem register_facts (id : String) (h : Tracked store world) (hnow : world.store.clock ≤ now) :
    Tracked store (world.register now id) ∧
      (NoneStranded world → NoneStranded (world.register now id)) := by
  unfold World.register
  cases hread : readable world.store.data now id with
  | none => exact ⟨⟨h.sound, h.handles, h.waiters⟩, fun hnone => hnone⟩
  | some stored =>
    dsimp only
    split
    next => exact ⟨⟨h.sound, h.handles, h.waiters⟩, fun hnone => hnone⟩
    next hlive =>
      obtain ⟨hlookup, _⟩ := readable_eq_some.1 hread
      have hhandle := h.handles id stored hlookup
      have hdrawn := h.sound.drawn id stored hlookup
      refine ⟨⟨h.sound, h.handles, h.waiters.start ⟨hhandle.ge, hdrawn⟩⟩, fun hnone => ?_⟩
      refine Pool.Holds.start hnone fun _ => ?_
      exact waitable_of_readable h.sound hnow hread (by simpa using hlive)

theorem read_facts {ticket : ℕ} (h : Tracked store world) (hnow : world.store.clock ≤ now)
    (hget : world.waiters.get ticket = some waiter)
    (hread : world.readResult now ticket waiter = some next) :
    Tracked store next ∧ (NoneStranded world → NoneStranded next) := by
  rcases read_result_cases hread with rfl | ⟨stored, hstored, hlive, rfl⟩
  · exact ⟨⟨h.sound, h.handles, h.waiters.finish⟩, fun hnone => Pool.Holds.finish hnone⟩
  · have hwaiting := h.waiters.of_get hget
    refine ⟨⟨h.sound, h.handles, h.waiters.become hwaiting⟩, fun hnone => ?_⟩
    refine Pool.Holds.become hnone fun _ => ?_
    exact waitable_of_readable h.sound hnow hstored hlive

theorem call_facts {call : TaskStore.Event} {nextStore : TaskStore.World} (h : Tracked store world)
    (hfresh : TaskStore.FreshDraw world.store call)
    (hnext : TaskStore.step store world.store call = some nextStore) :
    Tracked store { world with
        store := nextStore
        handles := handlesAfter call world.store.data nextStore.data world.handles } ∧
      (NoneStranded world → (NoneStranded { world with
        store := nextStore
        handles := handlesAfter call world.store.data nextStore.data world.handles } ↔
        DiscardsUnwaited world (.call call))) := by
  obtain ⟨reply, hstepped⟩ := TaskStore.step_sound h.sound hfresh hnext
  have hmoved : ∀ id, id ∈ TaskStore.drawnIds world.store.events →
      HandleMoved call world.store.data nextStore.data (world.handles id)
        (handlesAfter call world.store.data nextStore.data world.handles id) id :=
    fun id hdrawn => handle_moved h hstepped hfresh hdrawn
  refine ⟨⟨hstepped.sound, ?_, ?_⟩, fun hnone => ⟨fun hafter => ?_, fun hunwaited => ?_⟩⟩
  · intro id stored hlookup
    exact congrArg Handle.notified (handles_after_held hlookup)
  · refine h.waiters.mono fun waiter hwaiting => ⟨?_, ?_⟩
    · exact hwaiting.1.trans (hmoved waiter.taskId hwaiting.2).notified
    · exact TaskStore.drawn_of_stepped hstepped hwaiting.2
  · have hrun := TaskStore.perform_of_stepped hnext hstepped
    obtain ⟨now, call⟩ := call
    cases call with
    | discardTask id =>
      rintro ticket waiter hget rfl
      cases hreleased : waiter.isReleased (world.handles waiter.taskId) with
      | true => rfl
      | false =>
        -- the discard leaves the waiter blocked on a task that is gone
        obtain ⟨stored, hlookup, _⟩ := hnone.of_get hget hreleased
        have hgone := lookup_of_discard hrun
        have hsame := handles_after_discarded now hlookup hgone world.handles
        obtain ⟨_, hheld, _⟩ := hafter.of_get hget (by
          show waiter.isReleased (handlesAfter _ _ _ _ waiter.taskId) = false
          rw [hsame]
          exact hreleased)
        rw [hgone] at hheld
        cases hheld
    | createTask | setTaskMeta | requireInput | applyInputResponses | setStatus | setTtl
    | completeTask | failTask | cancelTask | retireExpired => trivial
  · intro ticket waiter hget hblocked
    obtain ⟨hseen, hdrawn⟩ := h.waiters.of_get hget
    have hmove := hmoved waiter.taskId hdrawn
    have hbefore : waiter.isReleased (world.handles waiter.taskId) = false := by
      cases hreleased : waiter.isReleased (world.handles waiter.taskId) with
      | false => rfl
      | true =>
        have hstill := is_released_mono hmove.notified hmove.raised hreleased
        rw [hstill] at hblocked
        cases hblocked
    rcases hmove.woken (hnone.of_get hget hbefore) with hwaitable | hwoken | ⟨hdiscard, _⟩
    · exact hwaitable
    · have hle := notified_le_of_blocked hblocked
      exact absurd hwoken (not_lt.2 (hle.trans hseen))
    · obtain ⟨now, call⟩ := call
      subst hdiscard
      have hreleased := hunwaited.of_get hget rfl
      rw [hbefore] at hreleased
      cases hreleased

theorem step_facts (h : Tracked store world) (hfresh : FreshDraw world event)
    (hstep : step store world event = some next) :
    Tracked store next ∧
      (NoneStranded world → (NoneStranded next ↔ DiscardsUnwaited world event)) := by
  cases event with
  | call call =>
    obtain ⟨nextStore, hnext, hworld⟩ := Option.bind_eq_some_iff.1 hstep
    cases hworld
    exact call_facts h hfresh hnext
  | wait now id =>
    obtain ⟨hclock, hworld⟩ := Option.ite_none_left_eq_some.1 hstep
    cases hworld
    have hadvanced := tracked_advance h (Nat.le_of_not_lt hclock)
    obtain ⟨htracked, hnone⟩ := register_facts id hadvanced (le_refl now)
    exact ⟨htracked, fun hbefore => iff_of_true (hnone hbefore) trivial⟩
  | wake ticket byToken =>
    obtain ⟨waiter, hget, hrest⟩ := Option.bind_eq_some_iff.1 hstep
    obtain ⟨woken, hwoken, hworld⟩ := Option.bind_eq_some_iff.1 hrest
    cases hworld
    obtain ⟨hid, hseen, hreleased⟩ := wake_facts hwoken
    obtain ⟨hle, hdrawn⟩ := h.waiters.of_get hget
    refine ⟨⟨h.sound, h.handles, h.waiters.become ?_⟩, fun hnone => iff_of_true ?_ trivial⟩
    · rw [hid, hseen]
      exact ⟨hle, hdrawn⟩
    · refine Pool.Holds.become hnone fun hblocked => ?_
      rw [hreleased] at hblocked
      cases hblocked
  | read now ticket =>
    obtain ⟨hclock, hrest⟩ := Option.ite_none_left_eq_some.1 hstep
    obtain ⟨waiter, hget, hread⟩ := Option.bind_eq_some_iff.1 hrest
    have hadvanced := tracked_advance h (Nat.le_of_not_lt hclock)
    obtain ⟨htracked, hnone⟩ := read_facts hadvanced (le_refl now) hget hread
    exact ⟨htracked, fun hbefore => iff_of_true (hnone hbefore) trivial⟩
  | raise id =>
    cases hstep
    have hnotified : ∀ other, (Function.update world.handles id
        { world.handles id with raised := true } other).notified =
          (world.handles other).notified := by
      intro other
      by_cases hother : other = id
      · rw [hother, Function.update_self]
      · rw [Function.update_of_ne hother]
    have hraised : ∀ other, (world.handles other).raised = true →
        (Function.update world.handles id
          { world.handles id with raised := true } other).raised = true := by
      intro other hbefore
      by_cases hother : other = id
      · rw [hother, Function.update_self]
      · rw [Function.update_of_ne hother]
        exact hbefore
    refine ⟨⟨h.sound, ?_, ?_⟩, fun hnone => iff_of_true ?_ trivial⟩
    · intro other stored hlookup
      exact (hnotified other).trans (h.handles other stored hlookup)
    · refine h.waiters.mono fun waiter hwaiting => ⟨?_, hwaiting.2⟩
      exact hwaiting.1.trans (hnotified waiter.taskId).ge
    · refine Pool.Holds.mono hnone fun waiter hwaits hblocked => hwaits ?_
      cases hreleased : waiter.isReleased (world.handles waiter.taskId) with
      | false => rfl
      | true =>
        have hstill := is_released_mono (hnotified waiter.taskId).ge (hraised waiter.taskId)
          hreleased
        rw [hstill] at hblocked
        cases hblocked
  | drop ticket =>
    cases hstep
    exact ⟨⟨h.sound, h.handles, h.waiters.finish⟩,
      fun hnone => iff_of_true (Pool.Holds.finish hnone) trivial⟩

theorem retirement_releases_of_none_stranded (h : Tracked store world)
    (hfresh : FreshDraw world event) (hnone : NoneStranded next)
    (hstep : step store world event = some next) : RetirementReleases store world event := by
  intro now remove other hevent hother ticket waiter hget hblocked
  obtain rfl := Option.some.inj (hstep.symm.trans hother)
  subst hevent
  obtain ⟨nextStore, hnext, hworld⟩ := Option.bind_eq_some_iff.1 hstep
  cases hworld
  obtain ⟨stored, hlookup, _, hunsignalled⟩ := hnone.of_get hget hblocked
  refine ⟨stored, hlookup, ?_⟩
  have hdraw : TaskStore.FreshDraw world.store ⟨now, .retireExpired remove⟩ := hfresh
  obtain ⟨reply, hstepped⟩ := TaskStore.step_sound h.sound hdraw hnext
  obtain ⟨⟨final, retirement⟩, hrun, hpure⟩ :=
    bind_eq_ok.1 (TaskStore.perform_of_stepped hnext hstepped)
  obtain ⟨rfl, _⟩ := Prod.mk.inj (pure_eq_ok.1 hpure)
  cases hexpired : stored.task.isExpiredAt now.instant with
  | false => rfl
  | true =>
    have hsignalled := signalled_of_retire_expired store now h.sound.accounted hrun hlookup hexpired
    rw [hunsignalled] at hsignalled
    cases hsignalled

theorem drawn_of_step (hstep : step store world event = some next) (id : String)
    (hdrawn : id ∈ TaskStore.drawnIds next.store.events) :
    id ∈ TaskStore.drawnIds world.store.events ∨ event.drawnId = some id := by
  cases event with
  | call call =>
    obtain ⟨nextStore, hnext, hworld⟩ := Option.bind_eq_some_iff.1 hstep
    cases hworld
    exact TaskStore.events_of_step hnext id hdrawn
  | wait now taskId =>
    obtain ⟨_, hworld⟩ := Option.ite_none_left_eq_some.1 hstep
    cases hworld
    rw [register_store] at hdrawn
    exact .inl hdrawn
  | wake ticket byToken =>
    obtain ⟨waiter, _, hrest⟩ := Option.bind_eq_some_iff.1 hstep
    obtain ⟨woken, _, hworld⟩ := Option.bind_eq_some_iff.1 hrest
    cases hworld
    exact .inl hdrawn
  | read now ticket =>
    obtain ⟨_, hrest⟩ := Option.ite_none_left_eq_some.1 hstep
    obtain ⟨waiter, _, hread⟩ := Option.bind_eq_some_iff.1 hrest
    rcases read_result_cases hread with rfl | ⟨_, _, _, rfl⟩
    · exact .inl hdrawn
    · exact .inl hdrawn
  | raise taskId | drop ticket =>
    cases hstep
    exact .inl hdrawn

theorem store_invariant {J : TaskStore.World → Prop} (h : Tracked store world)
    (hfresh : FreshDraw world event) (hstep : step store world event = some next)
    (hcall : ∀ call nextStore reply, TaskStore.FreshDraw world.store call → J world.store →
      TaskStore.Stepped store world.store call nextStore reply → J nextStore)
    (hadvance : ∀ now, world.store.clock ≤ now → J world.store → J (world.advance now).store)
    (hinit : J world.store) : J next.store := by
  cases event with
  | call call =>
    obtain ⟨nextStore, hnext, hworld⟩ := Option.bind_eq_some_iff.1 hstep
    cases hworld
    have hdraw : TaskStore.FreshDraw world.store call := hfresh
    obtain ⟨reply, hstepped⟩ := TaskStore.step_sound h.sound hdraw hnext
    exact hcall call nextStore reply hdraw hinit hstepped
  | wait now taskId =>
    obtain ⟨hclock, hworld⟩ := Option.ite_none_left_eq_some.1 hstep
    cases hworld
    rw [register_store]
    exact hadvance now (Nat.le_of_not_lt hclock) hinit
  | wake ticket byToken =>
    obtain ⟨waiter, _, hrest⟩ := Option.bind_eq_some_iff.1 hstep
    obtain ⟨woken, _, hworld⟩ := Option.bind_eq_some_iff.1 hrest
    cases hworld
    exact hinit
  | read now ticket =>
    obtain ⟨hclock, hrest⟩ := Option.ite_none_left_eq_some.1 hstep
    obtain ⟨waiter, _, hread⟩ := Option.bind_eq_some_iff.1 hrest
    have hlater := hadvance now (Nat.le_of_not_lt hclock) hinit
    rcases read_result_cases hread with rfl | ⟨_, _, _, rfl⟩
    · exact hlater
    · exact hlater
  | raise taskId | drop ticket =>
    cases hstep
    exact hinit

end Step

theorem tracked_init (store : MemoryTaskStore) : Tracked store {} where
  sound := TaskStore.sound_init store
  handles := by
    intro id stored hlookup
    simp at hlookup
  waiters := Pool.holds_empty

/-- In every run in which the created identifiers differ, a waiter that is still blocked always has
its task present, live and not signalled as expired, if and only if no task is discarded while a
waiter is blocked on it; every other way in which a task stops being waitable releases its waiters.
In such a run, no waiter stays blocked on a task that a retirement found expired. -/
theorem none_stranded_iff_discards_unwaited (store : MemoryTaskStore) (events : List Event)
    (final : World) (hfresh : (events.filterMap Event.drawnId).Nodup)
    (hrun : run (step store) {} events = some final) :
    (Throughout (step store) NoneStranded {} events ↔
      Along (step store) DiscardsUnwaited {} events) ∧
    (Throughout (step store) NoneStranded {} events →
      Along (step store) (RetirementReleases store) {} events) := by
  have hadds : ∀ (state : World) (event : Event) (next : World), step store state event = some next →
      ∀ id, id ∈ TaskStore.drawnIds next.store.events →
        id ∈ TaskStore.drawnIds state.store.events ∨ event.drawnId = some id :=
    fun _ _ _ hstep => drawn_of_step hstep
  have halong : Along (step store) FreshDraw {} events :=
    along_fresh hadds hfresh fun id _ hmem => by
      simp [TaskStore.World.events, TaskStore.drawnIds] at hmem
  have hinvariant : ∀ (state : World) (event : Event) (next : World), Tracked store state →
      FreshDraw state event → step store state event = some next → Tracked store next :=
    fun _ _ _ htracked hdraw hstep => (step_facts htracked hdraw hstep).1
  constructor
  · refine throughout_iff_along_of_run hinvariant ?_ (tracked_init store)
      Pool.holds_empty halong hrun
    intro state event next htracked hdraw hnone hstep
    exact (step_facts htracked hdraw hstep).2 hnone
  · refine along_of_throughout hinvariant ?_ (tracked_init store) halong hrun
    intro state event next htracked hdraw hnone hstep
    exact retirement_releases_of_none_stranded htracked hdraw hnone hstep

/-- One waiter is woken by the completion of its task, another by the expiry of its task, and a third
task is discarded once its waiter is gone. -/
def releasedEvents : List Event :=
  [.call ⟨⟨0, "t0"⟩, .createTask ⟨0, "t0"⟩ "a" "report" .null none none⟩,
    .call ⟨⟨0, "t0"⟩, .createTask ⟨0, "t0"⟩ "b" "report" .null (some 1) none⟩,
    .call ⟨⟨0, "t0"⟩, .createTask ⟨0, "t0"⟩ "c" "report" .null none none⟩,
    .wait 1 "a", .wait 1 "b", .wait 1 "c",
    .call ⟨⟨2, "t2"⟩, .completeTask "a" { content := [] }⟩, .wake 0 false, .read 3 0,
    .call ⟨⟨1000000, "t3"⟩, .retireExpired false⟩, .wake 1 true, .read 1000000 1,
    .drop 2, .call ⟨⟨1000001, "t4"⟩, .discardTask "c"⟩]

theorem none_stranded_released :
    (∃ final, run (step TaskStore.defaultStore) {} releasedEvents = some final) ∧
      Throughout (step TaskStore.defaultStore) NoneStranded {} releasedEvents := by
  obtain ⟨final, hrun⟩ : ∃ final,
      run (step TaskStore.defaultStore) {} releasedEvents = some final := by
    decide +kernel
  exact ⟨⟨final, hrun⟩, (none_stranded_iff_discards_unwaited TaskStore.defaultStore releasedEvents
    final (by decide) hrun).1.2 (by decide +kernel)⟩

def strandingEvents : List Event :=
  [.call ⟨⟨0, "t0"⟩, .createTask ⟨0, "t0"⟩ "a" "report" .null none none⟩,
    .wait 1 "a",
    .call ⟨⟨2, "t2"⟩, .discardTask "a"⟩]

/-- The discarded task is gone, and its waiter is still blocked. -/
theorem discard_strands_waiter :
    ∃ world waiter, run (step TaskStore.defaultStore) {} strandingEvents = some world ∧
      world.waiters.get 0 = some waiter ∧ waiter.taskId = "a" ∧
      waiter.isReleased (world.handles "a") = false ∧
      world.store.data.tasks.lookup "a" = none := by
  obtain ⟨world, hrun, waiter, hstranded⟩ : ∃ world,
      run (step TaskStore.defaultStore) {} strandingEvents = some world ∧
        ∃ waiter, world.waiters.get 0 = some waiter ∧ waiter.taskId = "a" ∧
          waiter.isReleased (world.handles "a") = false ∧
          world.store.data.tasks.lookup "a" = none := by
    decide +kernel
  exact ⟨world, waiter, hrun, hstranded⟩

end TaskWaiters

end TowerMcp
