import TowerMcp.Router.Capability
import TowerMcp.Task.Atomicity
import TowerMcp.Types.Subscriptions
import TowerMcp.Types.Text

/-!
# Access to tasks

The task requests of `McpRouter`, after `router.rs`, `router/task_ops.rs`, `router/policy.rs` and
`router/capabilities.rs`: who a request acts for, how a failure is told, and what `tasks/get`,
`tasks/update`, `tasks/cancel` and a task subscription do. Every access of a request to the store is a
retirement and then the operation itself, at clock readings of its own. A task that the caller does
not own is answered for as a task that was never created.
-/

namespace TowerMcp

open Execution Fallible

/-! ## Owners -/

def isBlank (text : String) : Bool :=
  text.toList.all isWhitespace

/-- The result of resolving the caller of a request. A broken resolver is not an anonymous caller. -/
inductive TaskOwnerResolution where
  | resolved (owner : TaskOwner)
  | invalid
deriving DecidableEq

namespace TaskOwnerResolution

def intoOwner : TaskOwnerResolution → Option TaskOwner
  | .resolved owner => some owner
  | .invalid => none

/-- Whether the caller owns what belongs to `owner`. -/
def matchesOwner (self : TaskOwnerResolution) (owner : TaskOwner) : Bool :=
  match self with
  | .resolved principal => ownerMatches owner principal
  | .invalid => false

end TaskOwnerResolution

def defaultTaskOwnerResolver {E : Type} (oauthTaskOwner : E → Option String) (extensions : E) :
    TaskOwnerResolution :=
  .resolved (oauthTaskOwner extensions)

def customTaskOwnerResolver {E : Type} (resolver : E → Except Panic (Option String))
    (extensions : E) : TaskOwnerResolution :=
  match resolver extensions with
  | .ok (some owner) => if isBlank owner then .invalid else .resolved (some owner)
  | .ok none => .resolved none
  | .error _ => .invalid

/-! ## Failures -/

inductive TaskOperation where
  | create
  | get
  | update
  | cancel
  | parkInput
  | execute
  | resume
  | finalize
deriving DecidableEq

inductive TaskFailure where
  | notFound
  | expired
  | store (error : TaskStoreError)
  | internal (message : String)
  | invalidArguments (message : String)
  | handler
deriving DecidableEq

structure TaskErrorContext where
  operation : TaskOperation
  taskId : Option String
  failure : TaskFailure
deriving DecidableEq

def defaultTaskError (context : TaskErrorContext) : JsonRpcError :=
  match context.failure with
  | .notFound => .invalidParams ("Task not found: " ++ context.taskId.getD "<unknown>")
  | .expired =>
    (JsonRpcError.invalidParams ("Task expired: " ++ context.taskId.getD "<unknown>")).withData
      (.object [("reason", .string "task_expired")])
  | .store _ => .internalError "Task store operation failed"
  | .internal message => .internalError message
  | .invalidArguments message => .invalidParams message
  | .handler => .internalError "Task handler failed"

structure TaskErrorPolicy where
  mapper : TaskErrorContext → Except Panic JsonRpcError

def TaskErrorPolicy.map (policy : TaskErrorPolicy) (context : TaskErrorContext) : JsonRpcError :=
  match policy.mapper context with
  | .ok error => error
  | .error _ => .internalError "Task error policy failed"

def TaskErrorPolicy.default : TaskErrorPolicy where
  mapper context := .ok (defaultTaskError context)

def methodNotFound (method : String) : JsonRpcError :=
  .new .methodNotFound ("Method not found: " ++ method)

def missingTasksCapability : JsonRpcError where
  code := -32021
  message := "Client is missing a capability required by this request"
  data := some (.object [("requiredCapabilities",
    .object [("extensions", .object [(tasksExtensionId, .object [])])])])

/-! ## The router -/

/-- What the task requests of a router depend on, for requests with extensions `E`. How the
extensions are read and how a response is decoded are parameters. -/
structure TaskRouter (E : Type) where
  store : MemoryTaskStore
  finalTasksEnabled : Bool
  taskOwnerResolver : E → TaskOwnerResolution
  taskErrorPolicy : TaskErrorPolicy
  isFinalProtocolRequest : E → Bool
  clientDeclaresTasks : E → Bool
  decodeInputResponse : Json → Option InputResponse

/-- What a request asks of the rest of the router: to tell the subscribers of a task, to wake or to
signal its live handler, or to replay its handler. -/
inductive TaskEffect where
  | notified (taskId : String)
  | woken (taskId : String)
  | resumed (taskId : String)
  | signalled (taskId : String) (reason : Option String)
deriving DecidableEq

/-- What a request acts on: the data of the store, the tasks with a live handler, and the effects so
far, the latest first. -/
structure RouterState where
  data : MemoryTaskStoreData
  liveTasks : KeySet
  effects : List TaskEffect

abbrev TaskHandler (α : Type) := Handler Panic JsonRpcError RouterState α

structure TaskMetadata where
  taskId : String
  statusMessage : Option String
  createdAt : String
  lastUpdatedAt : String
  ttlMs : Option ℕ
  pollIntervalMs : Option ℕ

inductive DetailedTask where
  | working (metadata : TaskMetadata)
  | inputRequired (metadata : TaskMetadata) (inputRequests : InputRequests)
  | completed (metadata : TaskMetadata) (result : List (String × Json))
  | failed (metadata : TaskMetadata) (error : JsonRpcError)
  | cancelled (metadata : TaskMetadata)

inductive TaskRequest where
  | get (taskId : String)
  | update (taskId : String) (inputResponses : FinMap String Json)
  | cancel (taskId : String) (reason : Option String)
  | listen (notifications : Option SubscriptionFilter)

inductive TaskResponse where
  | getTaskInfo (task : TaskObject)
  | finalGetTask (task : DetailedTask) (metadata : Option (List (String × Json)))
  | updateTask
  | cancelTask
  | finalTaskAck
  | subscriptionsAccepted (notifications : SubscriptionFilter)

def TaskPresence.owner : TaskPresence → Option TaskOwner
  | .present owner | .expired owner => some owner
  | .missing => none

namespace TaskRouter

variable {E : Type} (router : TaskRouter E)

def taskError (operation : TaskOperation) (taskId : String) (failure : TaskFailure) :
    JsonRpcError :=
  router.taskErrorPolicy.map { operation, taskId := some taskId, failure }

/-! ## Access to the store -/

def effect (effect : TaskEffect) : TaskHandler Unit :=
  modify fun state => { state with effects := effect :: state.effects }

def onStore {α : Type}
    (access : MemoryTaskStoreData → Except Panic (MemoryTaskStoreData × Except JsonRpcError α)) :
    TaskHandler α :=
  ExceptT.mk fun state => do
    let (data, result) ← access state.data
    pure (result, { state with data := data })

def read {α : Type} (sections : Sections) (reading : MemoryTaskStoreData → Instant → α) :
    TaskHandler α :=
  onStore fun data => do
    let (data, _) ← router.store.retireExpired sections.retired false data
    pure (data, .ok (reading data sections.now.instant))

def applyInputResponses (sections : Sections) (taskId : String) (responses : InputResponses) :
    TaskHandler (Option AppliedInputResponses) :=
  onStore fun data => do
    let (data, _) ← router.store.retireExpired sections.retired false data
    match router.store.applyInputResponses sections.now taskId responses data with
    | .ok (data, applied) => pure (data, .ok applied)
    | .error error => pure (data, .error (router.taskError .update taskId (.store error)))

def cancelTask (sections : Sections) (taskId : String) (reason : Option String) :
    TaskHandler (Option TaskObject) :=
  onStore fun data => do
    let (data, _) ← router.store.retireExpired sections.retired false data
    let swept := MemoryTaskStore.sweeps sections.now.instant (.cancelTask taskId reason) data
    let (data, task) ← router.store.cancelTask sections.now taskId reason data
    let data ← router.store.retireAfter sections.swept swept data
    pure (data, .ok task)

/-! ## Authorization -/

def classifyAbsentPresence (operation : TaskOperation) (taskId : String) (extensions : E)
    (presence : TaskPresence) : JsonRpcError :=
  let owns := presence.owner.any (router.taskOwnerResolver extensions).matchesOwner
  match presence with
  | .expired _ =>
    if owns then router.taskError operation taskId .expired
    else router.taskError operation taskId .notFound
  | _ => router.taskError operation taskId .notFound

def classifyAbsentTask {α : Type} (sections : Sections) (operation : TaskOperation)
    (taskId : String) (extensions : E) : TaskHandler α := do
  let presence ← router.read sections fun data now => MemoryTaskStore.taskPresence data now taskId
  throw (router.classifyAbsentPresence operation taskId extensions presence)

def requireNegotiatedTasks (extensions : E) (method : String) : TaskHandler Unit :=
  if router.finalTasksEnabled then
    if router.clientDeclaresTasks extensions then pure () else throw missingTasksCapability
  else throw (methodNotFound method)

def authorizeTask (sections : Sections) (operation : TaskOperation) (taskId : String)
    (extensions : E) : TaskHandler Unit := do
  let presence ← router.read sections fun data now => MemoryTaskStore.taskPresence data now taskId
  match presence.owner with
  | none => throw (router.taskError operation taskId .notFound)
  | some owner =>
    if (router.taskOwnerResolver extensions).matchesOwner owner then
      match presence with
      | .expired _ => throw (router.taskError operation taskId .expired)
      | _ => pure ()
    else throw (router.taskError operation taskId .notFound)

def authorizeTaskSubscription (sections : Sections) (taskId : String) (extensions : E) :
    TaskHandler Unit := do
  let owner ← router.read sections fun data now => MemoryTaskStore.taskOwner data now taskId
  if owner.any (router.taskOwnerResolver extensions).matchesOwner then pure ()
  else throw (router.taskError .get taskId .notFound)

/-! ## Requests -/

def asObject : Json → Option (List (String × Json))
  | .object fields => some fields
  | _ => none

def insertField (fields : List (String × Json)) (key : String) (value : Json) :
    List (String × Json) :=
  if fields.any fun field => field.1 == key then
    fields.map fun field => if field.1 == key then (key, value) else field
  else fields ++ [(key, value)]

def taskMetadata (task : TaskObject) : TaskMetadata where
  taskId := task.taskId
  statusMessage := task.statusMessage
  createdAt := task.createdAt
  lastUpdatedAt := task.lastUpdatedAt
  ttlMs := task.ttl
  pollIntervalMs := task.pollInterval

def completedResult (taskId : String) (result : Option CallToolResult) :
    Except JsonRpcError (List (String × Json)) := do
  let fields ← match result with
    | none => pure []
    | some result =>
      match serialize result with
      | .ok value => pure ((asObject value).getD [])
      | .error _ => .error (router.taskError .get taskId (.internal "failed to encode task result"))
  pure (insertField fields "resultType" (.string "complete"))

/-- The view of a task in the final protocol. An update between the two reads of a waiting task may
leave it without requests; then the task is read again, if an attempt is left. -/
def detailedTask (clock : ℕ → Sections) (taskId : String) :
    ℕ → TaskHandler (Option (DetailedTask × Option (List (String × Json))))
  | 0 => pure none
  | attempts + 1 => do
    let snapshot ← router.read (clock (2 * attempts + 1)) fun data now =>
      MemoryTaskStore.getTaskResult data now taskId
    match snapshot with
    | none => pure none
    | some (task, result, error) =>
      let metadata := taskMetadata task
      let shared := task.metadata.bind asObject
      match task.status with
      | .working => pure (some (.working metadata, shared))
      | .inputRequired => do
        let outstanding ← router.read (clock (2 * attempts)) fun data now =>
          MemoryTaskStore.outstandingInputRequests data now taskId
        match outstanding with
        | none => pure none
        | some outstanding =>
          if outstanding.entries.isEmpty then
            if attempts = 0 then
              throw (router.taskError .get taskId (.internal
                "task store returned input_required without outstanding requests"))
            else detailedTask clock taskId attempts
          else pure (some (.inputRequired metadata outstanding, shared))
      | .completed => do
        let fields ← ExceptT.mk (pure (router.completedResult taskId result))
        pure (some (.completed metadata fields, shared))
      | .failed =>
        pure (some (.failed metadata (error.getD (.internalError "Task failed")), shared))
      | .cancelled => pure (some (.cancelled metadata, shared))

/-- Serve `tasks/get`. The first section authorizes, and the sections of a read count down from the
fourth. -/
def handleGet (clock : ℕ → Sections) (extensions : E) (taskId : String) :
    TaskHandler TaskResponse := do
  if router.isFinalProtocolRequest extensions then
    router.requireNegotiatedTasks extensions "tasks/get"
    router.authorizeTask (clock 0) .get taskId extensions
    match ← router.detailedTask (fun index => clock (4 - index)) taskId 2 with
    | some (detailed, metadata) => pure (.finalGetTask detailed metadata)
    | none => router.classifyAbsentTask (clock 5) .get taskId extensions
  else
    router.authorizeTask (clock 0) .get taskId extensions
    match ← router.read (clock 1) fun data now => MemoryTaskStore.getTaskResult data now taskId with
    | none => router.classifyAbsentTask (clock 2) .get taskId extensions
    | some (task, result, error) =>
      pure (.getTaskInfo (match task.status with
        | .completed => { task with result := result }
        | .failed => { task with error := some (error.getD (.internalError "Task failed")) }
        | _ => task))

def decodeInputResponses (taskId : String) (responses : FinMap String Json) :
    Except JsonRpcError InputResponses :=
  responses.toPairs.foldlM
    (fun decoded (key, value) =>
      match router.decodeInputResponse value with
      | some response => .ok (decoded.insert key response)
      | none =>
        .error (router.taskError .update taskId
          (.invalidArguments "inputResponses contains a malformed value")))
    ∅

def wakeLiveTask (taskId : String) : TaskHandler Bool := do
  let state ← get
  if (state.liveTasks.lookup taskId).isSome then
    effect (.woken taskId)
    pure true
  else pure false

def resumes (applied : AppliedInputResponses) : Bool :=
  !applied.accepted.entries.isEmpty && applied.isComplete

/-- Serve `tasks/update`. Of the two protocols, only the final one replays a task that has no live
handler. -/
def handleUpdate (clock : ℕ → Sections) (extensions : E) (taskId : String)
    (inputResponses : FinMap String Json) : TaskHandler TaskResponse := do
  let final := router.isFinalProtocolRequest extensions
  let acknowledged := if final then TaskResponse.finalTaskAck else .updateTask
  if final then router.requireNegotiatedTasks extensions "tasks/update"
  router.authorizeTask (clock 0) .update taskId extensions
  let responses ← ExceptT.mk (pure (router.decodeInputResponses taskId inputResponses))
  match ← router.applyInputResponses (clock 1) taskId responses with
  | none =>
    let presence ← router.read (clock 2) fun data now =>
      MemoryTaskStore.taskPresence data now taskId
    match presence with
    | .present _ => pure acknowledged
    | absent => throw (router.classifyAbsentPresence .update taskId extensions absent)
  | some applied =>
    effect (.notified taskId)
    if resumes applied then
      let woken ← wakeLiveTask taskId
      if final && !woken then effect (.resumed taskId)
    pure acknowledged

def signalLiveCancellation (taskId : String) (reason : Option String) : TaskHandler Bool := do
  let state ← get
  if (state.liveTasks.lookup taskId).isSome then
    effect (.signalled taskId reason)
    pure true
  else pure false

def displayStatus : TaskStatus → String
  | .working => "working"
  | .inputRequired => "input_required"
  | .completed => "completed"
  | .failed => "failed"
  | .cancelled => "cancelled"

/-- Serve `tasks/cancel`. Only the older protocol refuses a task that is over. -/
def handleCancel (clock : ℕ → Sections) (extensions : E) (taskId : String)
    (reason : Option String) : TaskHandler TaskResponse := do
  let final := router.isFinalProtocolRequest extensions
  let acknowledged := if final then TaskResponse.finalTaskAck else .cancelTask
  if final then router.requireNegotiatedTasks extensions "tasks/cancel"
  router.authorizeTask (clock 0) .cancel taskId extensions
  if ← signalLiveCancellation taskId reason then
    effect (.notified taskId)
    pure acknowledged
  else
    if !final then
      match ← router.read (clock 1) fun data now => MemoryTaskStore.getTask data now taskId with
      | none => router.classifyAbsentTask (clock 2) .cancel taskId extensions
      | some current =>
        if current.status.isTerminal then
          throw (.invalidParams ("Task " ++ taskId ++ " is already in terminal state: " ++
            displayStatus current.status))
    match ← router.cancelTask (clock 3) taskId reason with
    | none => router.classifyAbsentTask (clock 4) .cancel taskId extensions
    | some _ =>
      if final then effect (.notified taskId)
      pure acknowledged

def acceptedSubscriptionFilter (requested : SubscriptionFilter) (tasksEnabled : Bool) :
    SubscriptionFilter where
  toolsListChanged := requested.toolsListChanged.filter id
  promptsListChanged := requested.promptsListChanged.filter id
  resourcesListChanged := requested.resourcesListChanged.filter id
  resourceSubscriptions := requested.resourceSubscriptions
  taskIds := requested.taskIds.filter fun _ => tasksEnabled

def authorizeTaskSubscriptions (extensions : E) :
    (clock : ℕ → Sections) → List String → TaskHandler Unit
  | _, [] => pure ()
  | clock, taskId :: rest => do
    router.authorizeTaskSubscription (clock 0) taskId extensions
    authorizeTaskSubscriptions extensions (fun index => clock (index + 1)) rest

/-- Serve `subscriptions/listen`. -/
def handleListen (clock : ℕ → Sections) (extensions : E)
    (notifications : Option SubscriptionFilter) : TaskHandler TaskResponse := do
  if router.isFinalProtocolRequest extensions then
    match notifications with
    | none => throw (.invalidParams "subscriptions/listen requires a notifications filter")
    | some requested =>
      if requested.taskIds.isSome && !router.clientDeclaresTasks extensions then
        throw missingTasksCapability
      else
        if router.finalTasksEnabled then
          router.authorizeTaskSubscriptions extensions clock (requested.taskIds.getD [])
        pure (.subscriptionsAccepted
          (acceptedSubscriptionFilter requested router.finalTasksEnabled))
  else throw (methodNotFound "subscriptions/listen")

def handle (clock : ℕ → Sections) (extensions : E) : TaskRequest → TaskHandler TaskResponse
  | .get taskId => router.handleGet clock extensions taskId
  | .update taskId inputResponses => router.handleUpdate clock extensions taskId inputResponses
  | .cancel taskId reason => router.handleCancel clock extensions taskId reason
  | .listen notifications => router.handleListen clock extensions notifications

end TaskRouter

/-! ## Tasks of other callers -/

/-- The readings of a request's sections, none of whose retirements is later than `limit`. -/
structure RequestClock where
  sections : ℕ → Sections
  limit : Instant
  retired_le : ∀ index, (sections index).retired ≤ limit

def RequestClock.tail (clock : RequestClock) : RequestClock where
  sections index := clock.sections (index + 1)
  limit := clock.limit
  retired_le index := clock.retired_le (index + 1)

/-- A record is as it was, or it had expired by `limit` and is as a retirement leaves it. -/
def RetiredInPlace (limit : Instant) (before after : MemoryTaskStoreData) : Prop :=
  ∀ id, after.tasks.lookup id = before.tasks.lookup id ∨
    ∃ stored, before.tasks.lookup id = some stored ∧ stored.task.isExpiredAt limit = true ∧
      after.tasks.lookup id = some (MemoryTaskStore.retireRecord limit stored)

theorem retired_in_place_of_retire_expired {store : MemoryTaskStore} {instant limit : Instant}
    {data final : MemoryTaskStoreData} {retirement : MemoryTaskStore.Retirement}
    (h : Accounted store.retentionLimits data) (hle : instant ≤ limit)
    (hrun : store.retireExpired instant false data = .ok (final, retirement)) :
    RetiredInPlace limit data final := by
  obtain ⟨_, other, hother, htasks, _⟩ :=
    MemoryTaskStore.retire_expired_ok store instant h false
  obtain ⟨rfl, _⟩ := Prod.mk.inj (Except.ok.inj (hrun.symm.trans hother))
  intro id
  cases hlookup : data.tasks.lookup id with
  | none =>
    left
    rw [htasks, MemoryTaskStore.lookup_retired_tasks, hlookup]
    rfl
  | some stored =>
    have hfinal : final.tasks.lookup id =
        some (MemoryTaskStore.retireRecord instant stored) := by
      rw [htasks, MemoryTaskStore.lookup_retired_tasks, hlookup]
      rfl
    rw [hfinal]
    rcases retire_record_earlier hle stored with hsame | hlater
    · exact .inl (congrArg some hsame)
    · rw [hlater]
      cases hexpired : stored.task.isExpiredAt limit with
      | false => exact .inl (congrArg some (retire_record_of_unexpired hexpired))
      | true => exact .inr ⟨stored, rfl, hexpired, rfl⟩

theorem RetiredInPlace.refl (limit : Instant) (data : MemoryTaskStoreData) :
    RetiredInPlace limit data data :=
  fun _ => .inl rfl

theorem RetiredInPlace.trans {limit : Instant} {before middle after : MemoryTaskStoreData}
    (hfirst : RetiredInPlace limit before middle) (hsecond : RetiredInPlace limit middle after) :
    RetiredInPlace limit before after := by
  intro id
  rcases hsecond id with hsame | ⟨between, hbetween, hexpired, hafter⟩
  · rw [hsame]
    exact hfirst id
  · rcases hfirst id with hsame | ⟨old, hold, hold_expired, hmiddle⟩
    · exact .inr ⟨between, hsame ▸ hbetween, hexpired, hafter⟩
    · obtain rfl := Option.some.inj (hbetween.symm.trans hmiddle)
      rw [retire_record_idem] at hafter
      exact .inr ⟨old, hold, hold_expired, hafter⟩

namespace TaskRequest

def taskIds : TaskRequest → List String
  | .get taskId | .update taskId _ | .cancel taskId _ => [taskId]
  | .listen notifications => (notifications.bind fun requested => requested.taskIds).getD []

def rename (name : String → String) : TaskRequest → TaskRequest
  | .get taskId => .get (name taskId)
  | .update taskId inputResponses => .update (name taskId) inputResponses
  | .cancel taskId reason => .cancel (name taskId) reason
  | .listen notifications =>
    .listen (notifications.map fun requested =>
      { requested with taskIds := requested.taskIds.map (List.map name) })

end TaskRequest

def replacing (id unknown name : String) : String :=
  if name = id then unknown else name

namespace TaskRouter

variable {E : Type} (router : TaskRouter E)

def Unowned (extensions : E) (data : MemoryTaskStoreData) (id : String) : Prop :=
  ∀ stored, data.tasks.lookup id = some stored →
    (router.taskOwnerResolver extensions).matchesOwner stored.task.owner = false

def unownedAnswer (extensions : E) (named : String) : TaskRequest → Except JsonRpcError TaskResponse
  | .get _ => negotiated "tasks/get" (router.taskError .get named .notFound)
  | .update _ _ => negotiated "tasks/update" (router.taskError .update named .notFound)
  | .cancel _ _ => negotiated "tasks/cancel" (router.taskError .cancel named .notFound)
  | .listen notifications =>
    if router.isFinalProtocolRequest extensions then
      match notifications with
      | none => .error (.invalidParams "subscriptions/listen requires a notifications filter")
      | some requested =>
        if requested.taskIds.isSome && !router.clientDeclaresTasks extensions then
          .error missingTasksCapability
        else if router.finalTasksEnabled then .error (router.taskError .get named .notFound)
        else .ok (.subscriptionsAccepted (acceptedSubscriptionFilter requested false))
    else .error (methodNotFound "subscriptions/listen")
where
  /-- The error of a method of the extension, or why the method is not served. -/
  negotiated (method : String) (error : JsonRpcError) : Except JsonRpcError TaskResponse :=
    if router.isFinalProtocolRequest extensions then
      if router.finalTasksEnabled then
        if router.clientDeclaresTasks extensions then .error error
        else .error missingTasksCapability
      else .error (methodNotFound method)
    else .error error

def refusesMethod (extensions : E) : Bool :=
  router.isFinalProtocolRequest extensions &&
    !(router.finalTasksEnabled && router.clientDeclaresTasks extensions)

def leaves (extensions : E) (data after : MemoryTaskStoreData) : MemoryTaskStoreData :=
  if router.refusesMethod extensions then data else after

section Unowned

variable {router : TaskRouter E} {extensions : E} {sections : Sections} {clock : RequestClock}
  {state : RouterState} {after : MemoryTaskStoreData} {retirement : MemoryTaskStore.Retirement}
  {id unknown : String}

theorem unowned_of_invalid (h : router.taskOwnerResolver extensions = .invalid)
    (data : MemoryTaskStoreData) (id : String) : router.Unowned extensions data id := by
  intro stored _
  rw [h]
  rfl

theorem Unowned.of_retired_in_place {data : MemoryTaskStoreData} {limit : Instant}
    (hretired : RetiredInPlace limit data after) (h : router.Unowned extensions data id) :
    router.Unowned extensions after id := by
  intro stored hlookup
  rcases hretired id with hsame | ⟨old, hold, _, hafter⟩
  · exact h stored (hsame ▸ hlookup)
  · rw [hafter] at hlookup
    cases hlookup
    rw [owner_retire_record]
    exact h old hold

theorem outcome_read {α : Type} (reading : MemoryTaskStoreData → Instant → α)
    (hretire : router.store.retireExpired sections.retired false state.data =
      .ok (after, retirement)) :
    Handler.outcome (router.read sections reading) state =
      .ok (.ok (reading after sections.now.instant), { state with data := after }) := by
  show (do
      let (data, result) ← (do
        let (data, _) ← router.store.retireExpired sections.retired false state.data
        pure (data, (.ok (reading data sections.now.instant) : Except JsonRpcError α)))
      pure (result, { state with data := data }) : Except Panic _) = _
  rw [hretire]
  rfl

theorem outcome_authorize_task_of_unowned (operation : TaskOperation)
    (hunowned : router.Unowned extensions after id)
    (hretire : router.store.retireExpired sections.retired false state.data =
      .ok (after, retirement)) :
    Handler.outcome (router.authorizeTask sections operation id extensions) state =
      .ok (.error (router.taskError operation id .notFound), { state with data := after }) := by
  unfold authorizeTask
  rw [Handler.outcome_bind_ok (outcome_read _ hretire)]
  cases hlookup : after.tasks.lookup id with
  | none =>
    simp only [MemoryTaskStore.taskPresence, hlookup, TaskPresence.owner]
    exact Handler.outcome_throw _ _
  | some stored =>
    have hforeign := hunowned stored hlookup
    have howner : (MemoryTaskStore.taskPresence after sections.now.instant id).owner =
        some stored.task.owner := by
      unfold MemoryTaskStore.taskPresence
      rw [hlookup]
      dsimp only
      split <;> rfl
    simp only [howner, hforeign, Bool.false_eq_true, if_false]
    exact Handler.outcome_throw _ _

theorem outcome_authorize_task_subscription
    (hretire : router.store.retireExpired sections.retired false state.data =
      .ok (after, retirement)) :
    Handler.outcome (router.authorizeTaskSubscription sections id extensions) state =
      .ok (if (MemoryTaskStore.taskOwner after sections.now.instant id).any
            (router.taskOwnerResolver extensions).matchesOwner then .ok ()
          else .error (router.taskError .get id .notFound), { state with data := after }) := by
  unfold authorizeTaskSubscription
  rw [Handler.outcome_bind_ok (outcome_read _ hretire)]
  split
  next => exact Handler.outcome_pure _ _
  next => exact Handler.outcome_throw _ _

theorem outcome_authorize_task_subscription_of_unowned
    (hunowned : router.Unowned extensions after id)
    (hretire : router.store.retireExpired sections.retired false state.data =
      .ok (after, retirement)) :
    Handler.outcome (router.authorizeTaskSubscription sections id extensions) state =
      .ok (.error (router.taskError .get id .notFound), { state with data := after }) := by
  have hnone : ¬((MemoryTaskStore.taskOwner after sections.now.instant id).any
      (router.taskOwnerResolver extensions).matchesOwner) = true := by
    unfold MemoryTaskStore.taskOwner
    cases hreadable : MemoryTaskStore.readable after sections.now.instant id with
    | none => exact Bool.false_ne_true
    | some stored =>
      have hforeign := hunowned stored (readable_eq_some.1 hreadable).1
      simp [hforeign]
  rw [outcome_authorize_task_subscription hretire, if_neg hnone]

theorem outcome_require_negotiated_tasks (method : String) :
    Handler.outcome (router.requireNegotiatedTasks extensions method) state =
      .ok (if router.finalTasksEnabled then
          if router.clientDeclaresTasks extensions then .ok () else .error missingTasksCapability
        else .error (methodNotFound method), state) := by
  unfold requireNegotiatedTasks
  cases router.finalTasksEnabled <;> cases router.clientDeclaresTasks extensions <;> rfl

theorem outcome_negotiated_of_refused {final legacy : TaskHandler TaskResponse} (method : String)
    {error : JsonRpcError}
    (hfinal : Handler.outcome final state = .ok (.error error, { state with data := after }))
    (hlegacy : Handler.outcome legacy state = .ok (.error error, { state with data := after })) :
    Handler.outcome
        (if router.isFinalProtocolRequest extensions = true then
          router.requireNegotiatedTasks extensions method >>= fun _ => final
        else legacy) state =
      .ok (unownedAnswer.negotiated router extensions method error,
        { state with data := router.leaves extensions state.data after }) := by
  have hnegotiated : Handler.outcome (router.requireNegotiatedTasks extensions method) state = _ :=
    outcome_require_negotiated_tasks method
  unfold leaves refusesMethod unownedAnswer.negotiated
  cases router.isFinalProtocolRequest extensions with
  | false => exact hlegacy
  | true =>
    cases henabled : router.finalTasksEnabled with
    | false =>
      rw [henabled] at hnegotiated
      exact Handler.outcome_bind_error hnegotiated
    | true =>
      cases hdeclared : router.clientDeclaresTasks extensions with
      | false =>
        rw [henabled, hdeclared] at hnegotiated
        exact Handler.outcome_bind_error hnegotiated
      | true =>
        rw [henabled, hdeclared] at hnegotiated
        exact (Handler.outcome_bind_ok hnegotiated).trans hfinal

theorem outcome_handle_of_named (request : TaskRequest)
    (hlisten : ∀ notifications, request ≠ .listen notifications) (hnamed : id ∈ request.taskIds)
    (hunowned : router.Unowned extensions after id)
    (hretire : router.store.retireExpired (clock.sections 0).retired false state.data =
      .ok (after, retirement)) :
    Handler.outcome (router.handle clock.sections extensions request) state =
      .ok (router.unownedAnswer extensions id request,
        { state with data := router.leaves extensions state.data after }) := by
  have hauthorize := fun operation => outcome_authorize_task_of_unowned operation hunowned hretire
  cases request with
  | listen notifications => exact absurd rfl (hlisten notifications)
  | get taskId =>
    obtain rfl := List.mem_singleton.1 hnamed
    exact outcome_negotiated_of_refused "tasks/get" (Handler.outcome_bind_error (hauthorize .get))
      (Handler.outcome_bind_error (hauthorize .get))
  | update taskId inputResponses =>
    obtain rfl := List.mem_singleton.1 hnamed
    exact outcome_negotiated_of_refused "tasks/update"
      (Handler.outcome_bind_error (hauthorize .update))
      (Handler.outcome_bind_error (hauthorize .update))
  | cancel taskId reason =>
    obtain rfl := List.mem_singleton.1 hnamed
    exact outcome_negotiated_of_refused "tasks/cancel"
      (Handler.outcome_bind_error (hauthorize .cancel))
      (Handler.outcome_bind_error (hauthorize .cancel))

theorem outcome_authorize_task_subscriptions_of_unowned (taskIds : List String)
    (hmem : id ∈ taskIds) (haccounted : Accounted router.store.retentionLimits state.data)
    (hunowned : router.Unowned extensions state.data id)
    (hunknown : router.Unowned extensions state.data unknown) :
    ∃ after named, RetiredInPlace clock.limit state.data after ∧
      Handler.outcome (router.authorizeTaskSubscriptions extensions clock.sections taskIds) state =
        .ok (.error (router.taskError .get named .notFound), { state with data := after }) ∧
      Handler.outcome (router.authorizeTaskSubscriptions extensions clock.sections
          (taskIds.map (replacing id unknown))) state =
        .ok (.error (router.taskError .get (replacing id unknown named) .notFound),
          { state with data := after }) := by
  induction taskIds generalizing clock state with
  | nil => cases hmem
  | cons head rest ih =>
    obtain ⟨retirement, middle, hretire, _, hmiddle⟩ :=
      MemoryTaskStore.retire_expired_ok router.store (clock.sections 0).retired haccounted false
    have hfirst : RetiredInPlace clock.limit state.data middle :=
      retired_in_place_of_retire_expired haccounted (clock.retired_le 0) hretire
    by_cases hhead : head = id
    · have hrefused := outcome_authorize_task_subscription_of_unowned
        (hunowned.of_retired_in_place hfirst) hretire
      have hmissing := outcome_authorize_task_subscription_of_unowned
        (hunknown.of_retired_in_place hfirst) hretire
      subst hhead
      refine ⟨middle, head, hfirst, Handler.outcome_bind_error hrefused, ?_⟩
      rw [List.map_cons, replacing, if_pos rfl]
      exact Handler.outcome_bind_error hmissing
    · have hsame : replacing id unknown head = head := if_neg hhead
      rw [List.map_cons, hsame]
      have hhere : Handler.outcome
          (router.authorizeTaskSubscription (clock.sections 0) head extensions) state = _ :=
        outcome_authorize_task_subscription hretire
      by_cases howned : ((MemoryTaskStore.taskOwner middle (clock.sections 0).now.instant head).any
          (router.taskOwnerResolver extensions).matchesOwner) = true
      · rw [if_pos howned] at hhere
        have hrest : id ∈ rest := (List.mem_cons.1 hmem).resolve_left (Ne.symm hhead)
        obtain ⟨after, named, hlater, hforeign, hrenamed⟩ :=
          @ih clock.tail { state with data := middle } hrest hmiddle
            (hunowned.of_retired_in_place hfirst) (hunknown.of_retired_in_place hfirst)
        exact ⟨after, named, hfirst.trans hlater, (Handler.outcome_bind_ok hhere).trans hforeign,
          (Handler.outcome_bind_ok hhere).trans hrenamed⟩
      · rw [if_neg howned] at hhere
        refine ⟨middle, head, hfirst, Handler.outcome_bind_error hhere, ?_⟩
        rw [hsame]
        exact Handler.outcome_bind_error hhere

theorem accepted_subscription_filter_disabled (requested : SubscriptionFilter)
    (taskIds : Option (List String)) :
    acceptedSubscriptionFilter { requested with taskIds := taskIds } false =
      acceptedSubscriptionFilter requested false := by
  unfold acceptedSubscriptionFilter
  cases taskIds <;> cases requested.taskIds <;> rfl

/-- A request is answered as the one with another name in it: by one function of the name that was
refused, and with the same state left. -/
def AnsweredAlike (router : TaskRouter E) (clock : RequestClock) (extensions : E)
    (state : RouterState) (id unknown : String) (request : TaskRequest) : Prop :=
  ∃ after named, RetiredInPlace clock.limit state.data after ∧
    Handler.outcome (router.handle clock.sections extensions request) state =
      .ok (router.unownedAnswer extensions named request, { state with data := after }) ∧
    Handler.outcome (router.handle clock.sections extensions
        (request.rename (replacing id unknown))) state =
      .ok (router.unownedAnswer extensions (replacing id unknown named) request,
        { state with data := after })

theorem outcome_handle_listen_of_unowned (notifications : Option SubscriptionFilter)
    (hnamed : id ∈ (TaskRequest.listen notifications).taskIds)
    (haccounted : Accounted router.store.retentionLimits state.data)
    (hunowned : router.Unowned extensions state.data id)
    (hunknown : router.Unowned extensions state.data unknown) :
    AnsweredAlike router clock extensions state id unknown (.listen notifications) := by
  cases notifications with
  | none => cases hnamed
  | some requested =>
    unfold AnsweredAlike handle TaskRequest.rename handleListen unownedAnswer
    dsimp only [Option.map_some]
    cases router.isFinalProtocolRequest extensions with
    | false => exact ⟨state.data, id, .refl _ _, rfl, rfl⟩
    | true =>
      have hsome : (requested.taskIds.map (List.map (replacing id unknown))).isSome =
          requested.taskIds.isSome := by
        cases requested.taskIds <;> rfl
      have hids : (requested.taskIds.map (List.map (replacing id unknown))).getD [] =
          (requested.taskIds.getD []).map (replacing id unknown) := by
        cases requested.taskIds <;> rfl
      simp only [if_true, hsome, hids]
      split
      next => exact ⟨state.data, id, .refl _ _, rfl, rfl⟩
      next =>
        cases router.finalTasksEnabled with
        | false =>
          refine ⟨state.data, id, .refl _ _, rfl, ?_⟩
          rw [accepted_subscription_filter_disabled]
          exact Handler.outcome_pure _ _
        | true =>
          obtain ⟨after, named, hretired, hforeign, hrenamed⟩ :=
            outcome_authorize_task_subscriptions_of_unowned (requested.taskIds.getD []) hnamed
              haccounted hunowned hunknown
          exact ⟨after, named, hretired, Handler.outcome_bind_error hforeign,
            Handler.outcome_bind_error hrenamed⟩

theorem retired_in_place_leaves {limit : Instant} (h : RetiredInPlace limit state.data after) :
    RetiredInPlace limit state.data (router.leaves extensions state.data after) := by
  unfold leaves
  split
  next => exact .refl limit state.data
  next => exact h

theorem outcome_handle_of_unowned (request : TaskRequest) (hnamed : id ∈ request.taskIds)
    (haccounted : Accounted router.store.retentionLimits state.data)
    (hunowned : router.Unowned extensions state.data id)
    (hunknown : router.Unowned extensions state.data unknown) :
    AnsweredAlike router clock extensions state id unknown request := by
  obtain ⟨retirement, after, hretire, _, _⟩ :=
    MemoryTaskStore.retire_expired_ok router.store (clock.sections 0).retired haccounted false
  have hretired : RetiredInPlace clock.limit state.data after :=
    retired_in_place_of_retire_expired haccounted (clock.retired_le 0) hretire
  have hafter := hunowned.of_retired_in_place hretired
  have hmissing := hunknown.of_retired_in_place hretired
  have hreplaced : replacing id unknown id = unknown := if_pos rfl
  cases request with
  | get taskId | update taskId inputResponses | cancel taskId reason =>
    obtain rfl := List.mem_singleton.1 hnamed
    refine ⟨_, id, retired_in_place_leaves hretired,
      outcome_handle_of_named _ nofun hnamed hafter hretire, ?_⟩
    rw [TaskRequest.rename, hreplaced]
    exact outcome_handle_of_named _ nofun (List.mem_singleton_self unknown) hmissing hretire
  | listen notifications =>
    exact outcome_handle_listen_of_unowned notifications hnamed haccounted hunowned hunknown

end Unowned

open TaskStore in
/-- In every reachable store, a task request that names a task of another caller is answered as the
same request would be under an identifier that was never created: both answers are one function of
the name that was refused, and both leave the same state. No record changes but by a retirement that
was due, nobody is told and no handler is touched. A caller whose owner is invalid owns nothing. -/
theorem foreign_task_answered_as_unknown (router : TaskRouter E) (events : List Event)
    (world : World) (hfresh : (drawnIds events).Nodup)
    (hrun : run (step router.store) {} events = some world) (clock : RequestClock)
    (extensions : E) (request : TaskRequest) (liveTasks : KeySet) (effects : List TaskEffect)
    (id unknown : String) (hnamed : id ∈ request.taskIds)
    (hunknown : unknown ∉ drawnIds world.events) :
    let state : RouterState := { data := world.data, liveTasks, effects }
    (router.Unowned extensions world.data id →
      ∃ after named, RetiredInPlace clock.limit world.data after ∧
        Handler.outcome (router.handle clock.sections extensions request) state =
          .ok (router.unownedAnswer extensions named request, { state with data := after }) ∧
        Handler.outcome (router.handle clock.sections extensions
            (request.rename (replacing id unknown))) state =
          .ok (router.unownedAnswer extensions (replacing id unknown named) request,
            { state with data := after })) ∧
      (router.taskOwnerResolver extensions = .invalid → router.Unowned extensions world.data id) := by
  intro state
  have hsound : Sound router.store world := run_sound hfresh hrun
  refine ⟨fun hunowned => ?_, fun hinvalid => unowned_of_invalid hinvalid world.data id⟩
  have hmissing : router.Unowned extensions state.data unknown := by
    intro stored hlookup
    exact absurd (hsound.drawn unknown stored hlookup) hunknown
  exact outcome_handle_of_unowned request hnamed hsound.accounted hunowned hmissing

/-- A router whose requests carry nothing but the subject of their token, and which has negotiated
the extension with everybody. -/
def subjectRouter : TaskRouter (Option String) where
  store := TaskStore.narrowStore
  finalTasksEnabled := true
  taskOwnerResolver := defaultTaskOwnerResolver id
  taskErrorPolicy := .default
  isFinalProtocolRequest _ := true
  clientDeclaresTasks _ := true
  decodeInputResponse _ := none

def lateClock : RequestClock where
  sections _ := TaskStore.lateSections
  limit := 1000000
  retired_le _ := by decide

def ownedEvents : List TaskStore.Event :=
  [⟨⟨0, "t0"⟩, .createTask ⟨0, "t0"⟩ "a" "report" .null none (some "alice")⟩,
    ⟨⟨0, "t0"⟩, .createTask ⟨0, "t0"⟩ "b" "report" .null (some 1) (some "alice")⟩]

def foreignListen : TaskRequest :=
  .listen (some { taskIds := some ["z", "b"] })

open TaskStore in
theorem foreign_task_answered_as_unknown_subscription :
    ∃ world, run (step subjectRouter.store) {} ownedEvents = some world ∧
      ∃ after named, RetiredInPlace lateClock.limit world.data after ∧
        Handler.outcome (subjectRouter.handle lateClock.sections (some "mallory") foreignListen)
            { data := world.data, liveTasks := ∅, effects := [] } =
          .ok (subjectRouter.unownedAnswer (some "mallory") named foreignListen,
            { data := after, liveTasks := ∅, effects := [] }) ∧
        Handler.outcome (subjectRouter.handle lateClock.sections (some "mallory")
            (foreignListen.rename (replacing "b" "y")))
            { data := world.data, liveTasks := ∅, effects := [] } =
          .ok (subjectRouter.unownedAnswer (some "mallory") (replacing "b" "y" named) foreignListen,
            { data := after, liveTasks := ∅, effects := [] }) := by
  obtain ⟨world, hrun, hunknown, owned, howned, howner⟩ : ∃ world,
      run (step subjectRouter.store) {} ownedEvents = some world ∧
        "y" ∉ drawnIds world.events ∧
        ∃ stored, world.data.tasks.lookup "b" = some stored ∧
          stored.task.owner = some "alice" := by
    decide +kernel
  have hunowned : subjectRouter.Unowned (some "mallory") world.data "b" := by
    intro stored hlookup
    obtain rfl := Option.some.inj (howned.symm.trans hlookup)
    rw [howner]
    decide
  exact ⟨world, hrun,
    (foreign_task_answered_as_unknown subjectRouter ownedEvents world (by decide) hrun lateClock
      (some "mallory") foreignListen ∅ [] "b" "y" (by decide) hunknown).1 hunowned⟩

open TaskStore in
/-- A `tasks/get` for a task of another caller that has expired scrubs that task. -/
theorem foreign_get_retires_task :
    ∃ world outcome, run (step subjectRouter.store) {} ownedEvents = some world ∧
      Handler.outcome (subjectRouter.handle lateClock.sections (some "mallory") (.get "b"))
          { data := world.data, liveTasks := ∅, effects := [] } = .ok outcome ∧
      (world.data.tasks.lookup "b").map (fun stored => stored.task.owner) = some (some "alice") ∧
      (world.data.tasks.lookup "b").map (fun stored => stored.task.toolName) = some "report" ∧
      (outcome.2.data.tasks.lookup "b").map (fun stored => stored.task.toolName) = some "" := by
  obtain ⟨world, hrun, outcome, hserved, hheld⟩ : ∃ world,
      run (step subjectRouter.store) {} ownedEvents = some world ∧
        ∃ outcome,
          (Handler.outcome (subjectRouter.handle lateClock.sections (some "mallory") (.get "b"))
              { data := world.data, liveTasks := ∅, effects := [] }).toOption = some outcome ∧
            (world.data.tasks.lookup "b").map (fun stored => stored.task.owner) =
              some (some "alice") ∧
            (world.data.tasks.lookup "b").map (fun stored => stored.task.toolName) =
              some "report" ∧
            (outcome.2.data.tasks.lookup "b").map (fun stored => stored.task.toolName) =
              some "" := by
    decide +kernel
  exact ⟨world, outcome, hrun, Fallible.to_option_eq_some.1 hserved, hheld⟩

end TaskRouter

end TowerMcp
