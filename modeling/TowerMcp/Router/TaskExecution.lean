import TowerMcp.Router.TaskAccess
import TowerMcp.Task.Progress

/-!
# The execution of tasks

What the router does with a task over its life, after the task branch of `tools/call`, `tasks/update`
and `tasks/cancel` in `router.rs`, `router/task_ops.rs` and `tool/task.rs`. A request and a spawned
execution is a future that waits at a program point; between two points it makes at most one access to
the store, and the futures take their steps in any order.

The handler of an ordinary task returns to ask for input: the task is parked, and the update that
answers the last request replays the handler from the top. A live handler keeps its future while it
waits, is registered under its task, and is woken. A future takes its steps to the end; what becomes
of one that is dropped or that panics is left out.
-/

namespace TowerMcp

open MemoryTaskStore

namespace TaskExecution

abbrev AskedRequests := { requests : InputRequests // requests.entries.isEmpty = false }

inductive RequestOutcome where
  | complete (result : CallToolResult)
  | inputRequired (requests : InputRequests) (requestState : Option String)

/-- What a live handler ends with. An error it returns has been turned into a failure, or into the
cancellation it propagates. -/
inductive TaskOutcome where
  | completed (result : CallToolResult)
  | failed (error : JsonRpcError)
  | cancelled (message : Option String)

/-- Where a future waits. `preparing` to `starting` belong to `tools/call`; `running` is the handler of
an ordinary task and `parking` to `failing` record what it returned; `live` is a live handler,
`asking` and `reporting` its own accesses, and `closing` and `leaving` its end; `updated` to `located`
belong to `tasks/update` and `checking` and `cancelling` to `tasks/cancel`. -/
inductive Point where
  | preparing (taskId : String) (live : Bool)
  | describing (taskId : String) (live : Bool) (metadata : Json)
  | discarding (taskId : String)
  | abandoning (taskId : String)
  | starting (taskId : String)
  | running (taskId : String) (replay : Bool)
  | parking (taskId : String) (requests : AskedRequests) (requestState : Option String)
  | finishing (taskId : String) (result : CallToolResult)
  | completing (taskId : String) (result : CallToolResult)
  | failing (taskId : String) (error : JsonRpcError)
  | live (taskId : String)
  | asking (taskId : String) (requests : AskedRequests) (message : Option String)
  | reporting (taskId : String) (message : String)
  | closing (taskId : String) (outcome : TaskOutcome)
  | leaving (taskId : String)
  | updated (taskId : String) (final : Bool) (resumes : Bool)
  | resuming (taskId : String)
  | located (taskId : String)
  | checking (taskId : String) (reason : Option String)
  | cancelling (taskId : String) (reason : Option String)

inductive Choice where
  | proceed
  | stopped
  | prepared (preparation : Except JsonRpcError (Option Json))
  | returned (outcome : Except String RequestOutcome)
  | asked (requests : AskedRequests) (message : Option String)
  | reported (message : String)
  | ended (outcome : TaskOutcome)
  | found (registered : Bool)

/-- How an update continued the task it moved: it woke the live handler, it replayed the handler, or
it failed a task that could not be resumed. -/
inductive Continuation where
  | woken
  | replayed
  | ended
deriving DecidableEq

/-- What is noted of an update that the store applied: whether it moved its task from waiting for
input to working, and how it continued the task, the latest first. -/
structure UpdateNote where
  taskId : String
  moved : Bool
  continuations : List Continuation := []

/-- The store, the futures and the registry of live executions. `liveTasks` are the tasks created for
live handlers, `updates` the updates by the tickets of their futures, and `writes` the tasks that a
call has made terminal, the latest first. -/
structure World where
  store : TaskStore.World := {}
  futures : Pool Point := {}
  executions : KeySet := ∅
  liveTasks : List String := []
  updates : FinMap ℕ UpdateNote := ∅
  writes : List String := []

/-- A step: a request arrives, a future accesses the store or goes on with a choice, or the store
retires what has expired. -/
inductive Action where
  | create (live : Bool) (created : Moment) (id toolName : String) (arguments : Json)
      (ttl : Option ℕ) (owner : TaskOwner)
  | update (final : Bool) (taskId : String) (responses : InputResponses)
  | cancel (final : Bool) (taskId : String) (reason : Option String)
  | access (ticket : ℕ)
  | choose (ticket : ℕ) (choice : Choice)
  | retire (remove : Bool)

structure Event where
  now : Moment
  action : Action

def launched (taskId : String) (live : Bool) : Point :=
  if live then .live taskId else .starting taskId

def noRequests : TaskFailure :=
  .internal ("handler asked for input without naming any requests, so the task has " ++
    "nothing to wait for")

def noResumeContext : TaskFailure :=
  .internal ("this task store cannot resume a task after input was provided; " ++
    "implement TaskStore::resume_context to support handlers that ask for input")

def noTool : TaskFailure :=
  .internal "the task cannot resume because its tool is no longer registered"

def tookEffect : Reply → Bool
  | .done (.ok value) => value
  | _ => false

def refusal : Reply → Option TaskStoreError
  | .done (.error error) => some error
  | _ => none

namespace Point

def call : Point → Option StoreCall
  | .describing taskId _ metadata => some (.setTaskMeta taskId metadata)
  | .discarding taskId => some (.discardTask taskId)
  | .abandoning taskId => some (.cancelTask taskId (some "task preparation failed"))
  | .parking taskId requests requestState => some (.requireInput taskId requests.1 requestState)
  | .completing taskId result => some (.completeTask taskId result)
  | .failing taskId error => some (.failTask taskId error)
  | .asking taskId requests message => some (.requireInput taskId requests.1 message)
  | .reporting taskId message => some (.setStatus taskId .working (some message))
  | .closing taskId (.completed result) => some (.completeTask taskId result)
  | .closing taskId (.failed error) => some (.failTask taskId error)
  | .closing taskId (.cancelled message) => some (.cancelTask taskId message)
  | .cancelling taskId reason => some (.cancelTask taskId reason)
  | _ => none

def answered {E : Type} (router : TaskRouter E) (point : Point) (reply : Reply) : Option Point :=
  match point with
  | .describing taskId isLive _ =>
    some (if tookEffect reply then launched taskId isLive else .discarding taskId)
  | .discarding taskId => if tookEffect reply then none else some (.abandoning taskId)
  | .parking taskId _ _ =>
    (refusal reply).map fun error =>
      .failing taskId (router.taskError .parkInput taskId (.store error))
  | .completing taskId _ =>
    (refusal reply).map fun error =>
      .failing taskId (router.taskError .finalize taskId (.store error))
  | .asking taskId _ _ | .reporting taskId _ => some (.live taskId)
  | .closing taskId (.completed _) =>
    match refusal reply with
    | some error =>
      some (.closing taskId (.failed (router.taskError .finalize taskId (.store error))))
    | none => some (.leaving taskId)
  | .closing taskId _ => some (.leaving taskId)
  | _ => none

def concluded (taskId : String) (replay : Bool) (result : CallToolResult) : Point :=
  if replay then .completing taskId result else .finishing taskId result

def returned {E : Type} (router : TaskRouter E) (taskId : String) (replay : Bool) :
    Except String RequestOutcome → Point
  | .error message => concluded taskId replay (.fromError message)
  | .ok (.complete result) => concluded taskId replay result
  | .ok (.inputRequired requests requestState) =>
    if h : requests.entries.isEmpty = false then .parking taskId ⟨requests, h⟩ requestState
    else
      .failing taskId (router.taskError .parkInput taskId noRequests)

end Point

namespace World

variable (world : World)

def tokenRaised (taskId : String) : Bool :=
  match world.store.data.tasks.lookup taskId with
  | some stored => stored.task.cancellationToken
  | none => true

def isLive (taskId : String) : Bool :=
  (world.executions.lookup taskId).isSome

/-- Where a future goes with a choice, if the choice is one it has: on to a point, or to its end. An
update says how it continues its task. -/
def choose {E : Type} (router : TaskRouter E) (now : Instant) (point : Point) (choice : Choice) :
    Option (Option Point × Option Continuation) :=
  match point, choice with
  | .preparing taskId _, .stopped =>
    if world.tokenRaised taskId then some (some (.discarding taskId), none) else none
  | .preparing taskId live, .prepared (.ok none) => some (some (launched taskId live), none)
  | .preparing taskId live, .prepared (.ok (some metadata)) =>
    some (some (.describing taskId live metadata), none)
  | .preparing taskId _, .prepared (.error _) => some (some (.discarding taskId), none)
  | .starting taskId, .proceed =>
    some (if world.tokenRaised taskId then none else some (.running taskId false), none)
  | .running taskId _, .stopped => if world.tokenRaised taskId then some (none, none) else none
  | .running taskId replay, .returned outcome =>
    some (some (Point.returned router taskId replay outcome), none)
  | .finishing taskId result, .proceed =>
    some (if world.tokenRaised taskId then none else some (.completing taskId result), none)
  | .live taskId, .asked requests message => some (some (.asking taskId requests message), none)
  | .live taskId, .reported message => some (some (.reporting taskId message), none)
  | .live taskId, .ended outcome => some (some (.closing taskId outcome), none)
  | .leaving _, .proceed => some (none, none)
  | .updated taskId final resumes, .proceed =>
    if resumes then
      if world.isLive taskId then some (none, some .woken)
      else some (if final then some (.resuming taskId) else none, none)
    else some (none, none)
  | .resuming taskId, .proceed =>
    match resumeContext world.store.data now taskId with
    | some _ => some (some (.located taskId), none)
    | none =>
      some (some (.failing taskId (router.taskError .resume taskId noResumeContext)),
        some .ended)
  | .located taskId, .found true => some (some (.running taskId true), some .replayed)
  | .located taskId, .found false =>
    some (some (.failing taskId (router.taskError .resume taskId noTool)), some .ended)
  | .checking taskId reason, .proceed =>
    match getTask world.store.data now taskId with
    | some current =>
      some (if current.status.isTerminal then none else some (.cancelling taskId reason), none)
    | none => some (none, none)
  | _, _ => none

def registered (executions : KeySet) : Point → Option Point → KeySet
  | .leaving taskId, _ => executions.erase taskId
  | _, some (.live taskId) => executions.insert taskId ()
  | _, _ => executions

def move (ticket : ℕ) (point : Point) (next : Option Point) : World :=
  { world with
    futures := match next with
      | some next => world.futures.become ticket next
      | none => world.futures.finish ticket
    executions := registered world.executions point next }

def advance (now : Instant) : World :=
  { world with store := { world.store with clock := now } }

def note (ticket : ℕ) (continuation : Option Continuation) : World :=
  match continuation, world.updates.lookup ticket with
  | some continuation, some noted =>
    { world with
      updates := world.updates.insert ticket
        { noted with continuations := continuation :: noted.continuations } }
  | _, _ => world

def start (point : Point) : World :=
  { world with futures := world.futures.start point }

def terminalWrite (before after : MemoryTaskStoreData) (call : StoreCall) : Option String :=
  call.target.filter fun taskId =>
    (before.tasks.lookup taskId).any (fun stored => !stored.task.status.isTerminal) &&
      (after.tasks.lookup taskId).any fun stored => stored.task.status.isTerminal

def call (store : MemoryTaskStore) (now : Moment) (call : StoreCall) : Option (World × Reply) := do
  let next ← TaskStore.step store world.store { now, call }
  let (_, reply) ← (store.perform now call world.store.data).toOption
  pure ({ world with
          store := next
          writes := (terminalWrite world.store.data next.data call).toList ++ world.writes }, reply)

end World

def step {E : Type} (router : TaskRouter E) (world : World) (event : Event) : Option World :=
  let now := event.now
  match event.action with
  | .create live created id toolName arguments ttl owner => do
    let arguments := if live then .null else arguments
    let (next, reply) ←
      world.call router.store now (.createTask created id toolName arguments ttl owner)
    match reply with
    | .created (.ok _) =>
      pure { next.start (.preparing id live) with
        liveTasks := if live then id :: world.liveTasks else world.liveTasks }
    | _ => pure next
  | .update final taskId responses => do
    let (next, reply) ← world.call router.store now (.applyInputResponses taskId responses)
    match reply with
    | .applied (.ok (some applied)) =>
      let moved := world.store.data.status taskId == some .inputRequired &&
        next.store.data.status taskId == some .working
      pure { next.start (.updated taskId final (TaskRouter.resumes applied)) with
        updates := world.updates.insert world.futures.next { taskId, moved } }
    | _ => pure next
  | .cancel final taskId reason =>
    if world.isLive taskId then some world
    else some (world.start (if final then .cancelling taskId reason else .checking taskId reason))
  | .access ticket => do
    let point ← world.futures.get ticket
    let call ← point.call
    let (next, reply) ← world.call router.store now call
    pure (next.move ticket point (point.answered router reply))
  | .choose ticket choice =>
    if now.instant < world.store.clock then none
    else do
      let point ← world.futures.get ticket
      let (next, continuation) ← world.choose router now.instant point choice
      pure (((world.advance now.instant).move ticket point next).note ticket continuation)
  | .retire remove => do
    let (next, _) ← world.call router.store now (.retireExpired remove)
    pure next

/-! ## What a step can do -/

namespace Point

/-- The task that a future carries on, or is about to. An update carries a task on while it has yet to
continue it. -/
def owner : Point → Option String
  | .preparing taskId _ | .describing taskId _ _ | .discarding taskId | .abandoning taskId
  | .starting taskId | .running taskId _ | .parking taskId _ _ | .finishing taskId _
  | .completing taskId _ | .failing taskId _ | .live taskId | .asking taskId _ _
  | .reporting taskId _ | .closing taskId _ | .resuming taskId | .located taskId => some taskId
  | .updated taskId _ resumes => if resumes then some taskId else none
  | .leaving _ | .checking _ _ | .cancelling _ _ => none

def host : Point → Option String
  | .preparing taskId true | .describing taskId true _ | .discarding taskId | .abandoning taskId
  | .live taskId | .asking taskId _ _ | .reporting taskId _ | .closing taskId _ => some taskId
  | _ => none

def liveTask : Point → Option String
  | .preparing taskId true | .describing taskId true _ | .live taskId | .asking taskId _ _
  | .reporting taskId _ | .closing taskId _ | .leaving taskId => some taskId
  | _ => none

variable {E : Type} {router : TaskRouter E} {point next : Point} {call : StoreCall} {reply : Reply}
  {id : String}

theorem asked_requests_ne_empty (requests : AskedRequests) : requests.1 ≠ ∅ := by
  intro hnone
  have hsome := requests.2
  rw [hnone] at hsome
  cases hsome

theorem call_routed (h : point.call = some call) : call.IsRouted := by
  cases point with
  | parking _ requests _ | asking _ requests _ =>
    cases h
    exact asked_requests_ne_empty requests
  | reporting _ _ =>
    cases h
    rfl
  | describing _ _ _ | discarding _ | abandoning _ | completing _ _ | failing _ _ | cancelling _ _ =>
    cases h
    trivial
  | closing _ outcome =>
    cases outcome <;>
      · cases h
        trivial
  | preparing _ _ | starting _ | running _ _ | finishing _ _ | live _ | leaving _ | updated _ _ _
  | resuming _ | located _ | checking _ _ => cases h

theorem drawn_id_of_call (h : point.call = some call) : call.drawnId = none := by
  cases point with
  | describing _ _ _ | discarding _ | abandoning _ | parking _ _ _ | completing _ _ | failing _ _
  | asking _ _ _ | reporting _ _ | cancelling _ _ =>
    cases h
    rfl
  | closing _ outcome =>
    cases outcome <;>
      · cases h
        rfl
  | preparing _ _ | starting _ | running _ _ | finishing _ _ | live _ | leaving _ | updated _ _ _
  | resuming _ | located _ | checking _ _ => cases h

theorem live_task_of_report {status : TaskStatus} {message : Option String}
    (h : point.call = some (.setStatus id status message)) : point.liveTask = some id := by
  cases point with
  | reporting _ _ =>
    cases h
    rfl
  | closing _ outcome => cases outcome <;> cases h
  | _ => cases h

theorem parks_of_call {requests : InputRequests} {message : Option String}
    (h : point.call = some (.requireInput id requests message)) :
    (∃ asked, point = .parking id asked message) ∨ point.liveTask = some id := by
  cases point with
  | parking _ asked _ =>
    cases h
    exact .inl ⟨asked, rfl⟩
  | asking _ _ _ =>
    cases h
    exact .inr rfl
  | closing _ outcome => cases outcome <;> cases h
  | _ => cases h

/-- What is kept of a future from before its call or its choice: the task it carries on, and the task
whose live handler it belongs to. -/
structure Follows (point next : Point) : Prop where
  owner : ∀ id, next.owner = some id → point.owner = some id
  liveTask : ∀ id, next.liveTask = some id → point.liveTask = some id

theorem Follows.of_eq (howner : next.owner = none ∨ next.owner = point.owner)
    (hlive : next.liveTask = none ∨ next.liveTask = point.liveTask) : Follows point next where
  owner := by
    intro id hid
    rcases howner with hnone | hsame
    · rw [hnone] at hid
      cases hid
    · rw [← hsame]
      exact hid
  liveTask := by
    intro id hid
    rcases hlive with hnone | hsame
    · rw [hnone] at hid
      cases hid
    · rw [← hsame]
      exact hid

theorem follows_launched (taskId : String) (isLive : Bool) (metadata : Json) :
    Follows (.preparing taskId isLive) (launched taskId isLive) ∧
      Follows (.describing taskId isLive metadata) (launched taskId isLive) := by
  cases isLive with
  | true => exact ⟨.of_eq (.inr rfl) (.inr rfl), .of_eq (.inr rfl) (.inr rfl)⟩
  | false => exact ⟨.of_eq (.inr rfl) (.inl rfl), .of_eq (.inr rfl) (.inl rfl)⟩

theorem follows_of_answered (h : point.answered router reply = some next) :
    Follows point next := by
  cases point with
  | describing taskId isLive metadata =>
    cases h
    split
    next => exact (follows_launched taskId isLive metadata).2
    next => exact .of_eq (.inr rfl) (.inl rfl)
  | discarding taskId =>
    obtain ⟨_, h⟩ := Option.ite_none_left_eq_some.1 h
    cases h
    exact .of_eq (.inr rfl) (.inl rfl)
  | parking taskId _ _ | completing taskId _ =>
    obtain ⟨_, _, rfl⟩ := Option.map_eq_some_iff.1 h
    exact .of_eq (.inr rfl) (.inl rfl)
  | asking taskId _ _ | reporting taskId _ =>
    cases h
    exact .of_eq (.inr rfl) (.inr rfl)
  | closing taskId outcome =>
    cases outcome with
    | completed result =>
      unfold answered at h
      dsimp only at h
      split at h <;> cases h
      next => exact .of_eq (.inr rfl) (.inr rfl)
      next => exact .of_eq (.inl rfl) (.inr rfl)
    | failed | cancelled =>
      cases h
      exact .of_eq (.inl rfl) (.inr rfl)
  | abandoning _ | failing _ _ | cancelling _ _ | preparing _ _ | starting _ | running _ _
  | finishing _ _ | live _ | leaving _ | updated _ _ _ | resuming _ | located _ | checking _ _ =>
    cases h

theorem follows_returned (taskId : String) (replay : Bool)
    (outcome : Except String RequestOutcome) :
    Follows (.running taskId replay) (returned router taskId replay outcome) := by
  have hconcluded : ∀ result, Follows (.running taskId replay) (concluded taskId replay result) := by
    intro result
    cases replay <;> exact .of_eq (.inr rfl) (.inl rfl)
  unfold returned
  split
  next => exact hconcluded _
  next => exact hconcluded _
  next =>
    split
    all_goals exact .of_eq (.inr rfl) (.inl rfl)

theorem follows_of_choose {world : World} {now : Instant} {choice : Choice}
    {continuation : Option Continuation}
    (h : world.choose router now point choice = some (some next, continuation)) :
    Follows point next := by
  unfold World.choose at h
  split at h
  next =>
    -- `preparing` finds the token raised
    obtain ⟨_, h⟩ := Option.ite_none_right_eq_some.1 h
    cases h
    exact .of_eq (.inr rfl) (.inl rfl)
  next taskId isLive =>
    cases h
    exact (follows_launched taskId isLive .null).1
  next taskId isLive metadata =>
    cases h
    refine ⟨fun _ howner => howner, fun _ hlive => ?_⟩
    cases isLive with
    | true => exact hlive
    | false => cases hlive
  next =>
    cases h
    exact .of_eq (.inr rfl) (.inl rfl)
  next =>
    -- `starting` does not find it raised
    obtain ⟨hnext, _⟩ := Prod.mk.inj (Option.some.inj h)
    obtain ⟨_, hnext⟩ := Option.ite_none_left_eq_some.1 hnext
    cases hnext
    exact .of_eq (.inr rfl) (.inl rfl)
  next =>
    obtain ⟨_, h⟩ := Option.ite_none_right_eq_some.1 h
    cases h
  next taskId replay outcome =>
    cases h
    exact follows_returned taskId replay outcome
  next =>
    -- `finishing` does not find it raised
    obtain ⟨hnext, _⟩ := Prod.mk.inj (Option.some.inj h)
    obtain ⟨_, hnext⟩ := Option.ite_none_left_eq_some.1 hnext
    cases hnext
    exact .of_eq (.inr rfl) (.inl rfl)
  next =>
    cases h
    exact .of_eq (.inr rfl) (.inr rfl)
  next =>
    cases h
    exact .of_eq (.inr rfl) (.inr rfl)
  next =>
    cases h
    exact .of_eq (.inr rfl) (.inr rfl)
  next => cases h
  next taskId final resumes =>
    cases resumes with
    | false => cases h
    | true =>
      obtain ⟨_, h⟩ | ⟨_, h⟩ := ite_eq_iff.1 (if_pos rfl ▸ h)
      · cases h
      · cases final with
        | false => cases h
        | true =>
          cases h
          exact .of_eq (.inr rfl) (.inl rfl)
  next =>
    split at h <;> cases h
    all_goals exact .of_eq (.inr rfl) (.inl rfl)
  next =>
    cases h
    exact .of_eq (.inr rfl) (.inl rfl)
  next =>
    cases h
    exact .of_eq (.inr rfl) (.inl rfl)
  next =>
    split at h
    next =>
      obtain ⟨hnext, _⟩ := Prod.mk.inj (Option.some.inj h)
      obtain ⟨_, hnext⟩ := Option.ite_none_left_eq_some.1 hnext
      cases hnext
      exact .of_eq (.inl rfl) (.inl rfl)
    next => cases h
  next => cases h

end Point

def Event.drawnId (event : Event) : Option String :=
  match event.action with
  | .create _ _ id _ _ _ _ => some id
  | _ => none

def drawnIds (events : List Event) : List String :=
  events.filterMap Event.drawnId

def FreshDraw (world : World) (event : Event) : Prop :=
  ∀ id, event.drawnId = some id → id ∉ TaskStore.drawnIds world.store.events

/-- What a call on the store comes to: the store has taken its step, and of the rest only the writes
have changed. -/
structure Called {E : Type} (router : TaskRouter E) (world : World) (now : Moment)
    (call : StoreCall) (next : World) (reply : Reply) : Prop where
  stepped : TaskStore.Stepped router.store world.store { now, call } next.store reply
  ran : router.store.perform now call world.store.data = .ok (next.store.data, reply)
  rest : next = { world with
    store := next.store
    writes := (World.terminalWrite world.store.data next.store.data call).toList ++ world.writes }

/-- What a step does. A creation that is refused and an update that finds nothing leave the records
alone, and a cancellation of a live task touches nothing at all. -/
inductive Transition {E : Type} (router : TaskRouter E) (world : World) (now : Moment) :
    Action → World → Prop where
  | created (live : Bool) (created : Moment) (id toolName : String) (arguments : Json)
      (ttl : Option ℕ) (owner : TaskOwner) (middle : World) (answer : String)
      (called : Called router world now
        (.createTask created id toolName (if live then .null else arguments) ttl owner) middle
        (.created (.ok answer))) :
      Transition router world now (.create live created id toolName arguments ttl owner)
        { middle.start (.preparing id live) with
          liveTasks := if live then id :: world.liveTasks else world.liveTasks }
  | refused (action : Action) (call : StoreCall) (middle : World) (reply : Reply)
      (called : Called router world now call middle reply)
      (same : ∀ key, middle.store.data.tasks.lookup key = world.store.data.tasks.lookup key)
      (request : ∀ ticket choice, action ≠ .choose ticket choice) :
      Transition router world now action middle
  | updated (final : Bool) (taskId : String) (responses : InputResponses) (middle : World)
      (applied : AppliedInputResponses)
      (called : Called router world now (.applyInputResponses taskId responses) middle
        (.applied (.ok (some applied)))) :
      Transition router world now (.update final taskId responses)
        { middle.start (.updated taskId final (TaskRouter.resumes applied)) with
          updates := world.updates.insert world.futures.next
            { taskId
              moved := world.store.data.status taskId == some .inputRequired &&
                middle.store.data.status taskId == some .working } }
  | signalled (final : Bool) (taskId : String) (reason : Option String) :
      Transition router world now (.cancel final taskId reason) world
  | cancelling (final : Bool) (taskId : String) (reason : Option String) (point : Point)
      (starts : point = .cancelling taskId reason ∨ point = .checking taskId reason) :
      Transition router world now (.cancel final taskId reason) (world.start point)
  | accessed (ticket : ℕ) (point : Point) (call : StoreCall) (middle : World) (reply : Reply)
      (held : world.futures.get ticket = some point) (makes : point.call = some call)
      (called : Called router world now call middle reply) :
      Transition router world now (.access ticket)
        (middle.move ticket point (point.answered router reply))
  | chosen (ticket : ℕ) (choice : Choice) (point : Point) (next : Option Point)
      (continuation : Option Continuation) (held : world.futures.get ticket = some point)
      (later : world.store.clock ≤ now.instant)
      (chooses : world.choose router now.instant point choice = some (next, continuation)) :
      Transition router world now (.choose ticket choice)
        (((world.advance now.instant).move ticket point next).note ticket continuation)
  | retired (remove : Bool) (middle : World) (reply : Reply)
      (called : Called router world now (.retireExpired remove) middle reply) :
      Transition router world now (.retire remove) middle

section Transition

variable {E : Type} {router : TaskRouter E} {world next : World} {event : Event}

variable {now : Moment} {reply : Reply}

theorem called_of_call {call : StoreCall} (hsound : TaskStore.Sound router.store world.store)
    (hcall : world.call router.store now call = some (next, reply))
    (hfresh : TaskStore.FreshDraw world.store { now, call }) :
    Called router world now call next reply := by
  obtain ⟨stepped, hstep, hcall⟩ := Option.bind_eq_some_iff.1 hcall
  obtain ⟨⟨data, answer⟩, hrun, hcall⟩ := Option.bind_eq_some_iff.1 hcall
  cases hcall
  obtain ⟨other, hstepped⟩ := TaskStore.step_sound hsound hfresh hstep
  have hperform := TaskStore.perform_of_stepped hstep hstepped
  rw [Fallible.to_option_eq_some.1 hrun] at hperform
  cases hperform
  exact ⟨hstepped, Fallible.to_option_eq_some.1 hrun, rfl⟩

theorem same_of_refused_creation {created : Moment} {id toolName : String} {arguments : Json}
    {ttl : Option ℕ} {owner : TaskOwner} (hcalled : Called router world now
      (.createTask created id toolName arguments ttl owner) next reply)
    (hrefused : ∀ answer, reply ≠ .created (.ok answer)) (key : String) :
    next.store.data.tasks.lookup key = world.store.data.tasks.lookup key := by
  have hran := Except.ok.inj hcalled.ran
  cases houtcome : router.store.createTask created id toolName arguments ttl owner
      world.store.data with
  | error error =>
    rw [houtcome] at hran
    rw [← (Prod.mk.inj hran).1]
  | ok outcome =>
    rw [houtcome] at hran
    exact absurd (Prod.mk.inj hran).2.symm (hrefused outcome.2)

variable {responses : InputResponses}

theorem same_of_refused_update {taskId : String}
    (hcalled : Called router world now (.applyInputResponses taskId responses) next reply)
    (hrefused : ∀ applied, reply ≠ .applied (.ok (some applied))) (key : String) :
    next.store.data.tasks.lookup key = world.store.data.tasks.lookup key := by
  have hchange := hcalled.stepped.changes key
  generalize world.store.data.tasks.lookup key = before,
    next.store.data.tasks.lookup key = after at hchange
  cases hchange with
  | absent _ | kept _ _ => rfl
  | admitted _ _ _ _ _ _ _ drawn _ _ => cases drawn
  | changed old new _ _ _ task =>
    obtain ⟨_, hreply, _⟩ := answered_of_task_change task
    exact absurd hreply (hrefused _)
  | retired _ _ retirement _ => cases retirement
  | removed _ gone =>
    rcases gone with hdiscard | ⟨hretire, _⟩
    · cases hdiscard
    · cases hretire

theorem drawn_of_called {call : StoreCall} {id : String}
    (hcalled : Called router world now call next reply) (hdraw : call.drawnId = some id) :
    id ∈ TaskStore.drawnIds next.store.events := by
  refine List.mem_filterMap.2 ⟨{ now, call }, ?_, hdraw⟩
  unfold TaskStore.World.events
  rw [hcalled.stepped.log]
  exact List.mem_cons_self

theorem answered_of_called {taskId : String} {applied : AppliedInputResponses}
    (hcalled : Called router world now (.applyInputResponses taskId responses) next
      (.applied (.ok (some applied)))) :
    ∃ old new, world.store.data.tasks.lookup taskId = some old ∧
      next.store.data.tasks.lookup taskId = some new ∧ old.expirySignalled = false ∧
      applied = (old.task.applyInputResponses now responses).2 ∧
      new.task = (old.task.applyInputResponses now responses).1 := by
  obtain ⟨old, new, hold, hnew, -, hunsignalled, hchange⟩ :=
    changed_of_loud (hcalled.stepped.changes taskId) rfl rfl nofun
  obtain ⟨_, hreply, hafter⟩ := answered_of_task_change hchange
  refine ⟨old, new, hold, hnew, hunsignalled, ?_, hafter⟩
  cases hreply
  rfl

theorem moved_of_resumes {task : Task} (hbelongs : task.Belongs)
    (hresumes : TaskRouter.resumes (task.applyInputResponses now responses).2 = true) :
    task.status = .inputRequired ∧
      (task.applyInputResponses now responses).1.status = .working := by
  unfold TaskRouter.resumes at hresumes
  rw [Bool.and_eq_true, Bool.not_eq_true'] at hresumes
  exact moved_of_answers hbelongs hresumes.1 hresumes.2

theorem transition_of_step (hsound : TaskStore.Sound router.store world.store)
    (hfresh : FreshDraw world event) (hstep : step router world event = some next) :
    Transition router world event.now event.action next := by
  obtain ⟨now, action⟩ := event
  cases action with
  | create live created id toolName arguments ttl owner =>
    obtain ⟨⟨middle, reply⟩, hcall, hrest⟩ := Option.bind_eq_some_iff.1 hstep
    have hcalled := called_of_call hsound hcall hfresh
    dsimp only at hrest
    split at hrest
    next answer =>
      cases hrest
      exact .created live created id toolName arguments ttl owner middle answer hcalled
    next hrefused =>
      cases hrest
      exact .refused _ _ _ _ hcalled (same_of_refused_creation hcalled hrefused) nofun
  | update final taskId responses =>
    obtain ⟨⟨middle, reply⟩, hcall, hrest⟩ := Option.bind_eq_some_iff.1 hstep
    have hcalled := called_of_call hsound hcall fun drawn hdrawn => by cases hdrawn
    dsimp only at hrest
    split at hrest
    next applied =>
      cases hrest
      exact .updated final taskId responses middle applied hcalled
    next hrefused =>
      cases hrest
      exact .refused _ _ _ _ hcalled (same_of_refused_update hcalled hrefused) nofun
  | cancel final taskId reason =>
    unfold step at hstep
    dsimp only at hstep
    split at hstep
    next =>
      cases hstep
      exact .signalled final taskId reason
    next =>
      cases hstep
      cases final with
      | true => exact .cancelling true taskId reason _ (.inl rfl)
      | false => exact .cancelling false taskId reason _ (.inr rfl)
  | access ticket =>
    obtain ⟨point, hheld, hrest⟩ := Option.bind_eq_some_iff.1 hstep
    obtain ⟨call, hmakes, hrest⟩ := Option.bind_eq_some_iff.1 hrest
    obtain ⟨⟨middle, reply⟩, hcall, hrest⟩ := Option.bind_eq_some_iff.1 hrest
    cases hrest
    have hcalled := called_of_call hsound hcall fun drawn hdrawn => by
      rw [Point.drawn_id_of_call hmakes] at hdrawn
      cases hdrawn
    exact .accessed ticket point call middle reply hheld hmakes hcalled
  | choose ticket choice =>
    unfold step at hstep
    dsimp only at hstep
    split at hstep
    next => cases hstep
    next hclock =>
      obtain ⟨point, hheld, hrest⟩ := Option.bind_eq_some_iff.1 hstep
      obtain ⟨⟨following, continuation⟩, hchoose, hrest⟩ := Option.bind_eq_some_iff.1 hrest
      cases hrest
      exact .chosen ticket choice point following continuation hheld (Nat.le_of_not_lt hclock)
        hchoose
  | retire remove =>
    obtain ⟨⟨middle, reply⟩, hcall, hrest⟩ := Option.bind_eq_some_iff.1 hstep
    obtain rfl := Option.some.inj hrest
    exact .retired remove middle reply
      (called_of_call hsound hcall fun drawn hdrawn => by cases hdrawn)

end Transition

end TaskExecution

end TowerMcp
