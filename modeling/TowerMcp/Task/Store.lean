import TowerMcp.Task.Retention

/-!
# Operations of the memory task store

The mutating operations of `MemoryTaskStore`, after `async_task.rs`. Each definition is what the
operation does while it holds the write lock once, as a function of what the clocks show there.
An operation that may fail with an error leaves the data as it is on that path, except for
`completeTask` and `failTask`, which commit the retention failure first; an operation with an
`expect` on its path may panic instead. The changes an operation makes to the task itself are
definitions of their own.
-/

namespace TowerMcp

/-- Lifecycle policy of the store. The cleanup interval only paces `retireExpired`. -/
structure MemoryTaskStoreConfig where
  defaultTtlMillis : ℕ

/-- The largest `u64`. -/
def u64Max : ℕ := 2 ^ 64 - 1

/-- The milliseconds of a duration as a `u64`, saturated. -/
def durationMillisSaturated (millis : ℕ) : ℕ :=
  min millis u64Max

structure MemoryTaskStore where
  config : MemoryTaskStoreConfig
  retentionLimits : TaskRetentionLimits

/-- `Option::expect`. -/
def expectSome {α : Type} (value : Option α) (message : Panic) : Except Panic α :=
  match value with
  | some value => .ok value
  | none => .error message

def sameInputRequest (a b : InputRequest) : Bool :=
  match serialize a, serialize b with
  | .ok a, .ok b => decide (Json.SameValue a b)
  | _, _ => false

/-! ## Changes to a task -/

namespace Task

def reusesInputKey (task : Task) (key : String) (request : InputRequest) : Bool :=
  if (task.answeredInputKeys.lookup key).isSome || (task.supersededInputKeys.lookup key).isSome then
    true
  else
    match task.inputRequests.lookup key with
    | some current => !sameInputRequest current request
    | none => false

/-- The keys of `requests` that the task has already used. -/
def reusedInputKeys (task : Task) (requests : InputRequests) : List String :=
  (requests.sortedPairs.filter fun (key, request) => task.reusesInputKey key request).map (·.1)

def supersedeInputKeys (task : Task) (requests : InputRequests) : KeySet :=
  task.inputRequests.sortedKeys.foldl
    (fun superseded key =>
      if (requests.lookup key).isSome then superseded else superseded.insert key ())
    task.supersededInputKeys

def awaitInput (now : Moment) (task : Task) (requests : InputRequests) (message : Option String) :
    Task :=
  { task with
    supersededInputKeys := task.supersedeInputKeys requests
    inputRequests := requests
    status := .inputRequired
    statusMessage := some (message.getD "Awaiting client input")
    lastUpdatedAtStr := now.iso }

def applyInputResponse (state : Task × AppliedInputResponses) (answer : String × InputResponse) :
    Task × AppliedInputResponses :=
  let (task, applied) := state
  let (key, response) := answer
  match task.inputRequests.lookup key with
  | some _ =>
    ({ task with
        inputRequests := task.inputRequests.erase key
        answeredInputKeys := task.answeredInputKeys.insert key ()
        inputResponses := task.inputResponses.insert key response },
      { applied with accepted := applied.accepted.insert key () })
  | none => (task, { applied with ignored := applied.ignored.insert key () })

def consumeResponses (task : Task) (responses : InputResponses) : Task × AppliedInputResponses :=
  responses.sortedPairs.foldl applyInputResponse (task, {})

def afterResponses (now : Moment) (task : Task) (applied : AppliedInputResponses) : Task :=
  let task :=
    if applied.accepted.entries.isEmpty then task else { task with lastUpdatedAtStr := now.iso }
  if applied.isComplete && task.status == .inputRequired then
    { task with status := .working, statusMessage := some "Task resumed" }
  else task

def applyInputResponses (now : Moment) (task : Task) (responses : InputResponses) :
    Task × AppliedInputResponses :=
  let (task, applied) := task.consumeResponses responses
  let applied := { applied with stillOutstanding := task.inputRequests.mapValues fun _ => () }
  (task.afterResponses now applied, applied)

def setStatus (now : Moment) (task : Task) (status : TaskStatus) (message : Option String) : Task :=
  { task with
    status := status
    statusMessage := match message with
      | some message => some message
      | none => task.statusMessage
    lastUpdatedAtStr := now.iso }

def complete (now : Moment) (task : Task) (result : CallToolResult) : Task :=
  { task with
    status := .completed
    statusMessage := some "Task completed"
    result := some result
    inputRequests := ∅
    completedAt := some now.instant
    lastUpdatedAtStr := now.iso }

def fail (now : Moment) (task : Task) (error : JsonRpcError) : Task :=
  { task with
    status := .failed
    statusMessage := some ("Task failed: " ++ error.message)
    error := some error
    inputRequests := ∅
    completedAt := some now.instant
    lastUpdatedAtStr := now.iso }

end Task

namespace MemoryTaskStore

variable (store : MemoryTaskStore)

/-! ## Operations that replace a record or leave the data alone -/

def readable (data : MemoryTaskStoreData) (now : Instant) (taskId : String) : Option StoredTask :=
  (data.tasks.lookup taskId).filter fun stored => !stored.task.isExpiredAt now

/-- The record `create_task` prepares before it takes the lock. -/
def newStoredTask (created : Moment) (id toolName : String) (arguments : Json) (ttl : Option ℕ)
    (owner : TaskOwner) : Except TaskStoreError StoredTask := do
  let limits := store.retentionLimits
  let _ ← validatePayload toolName limits
  let _ ← validatePayload arguments limits
  let _ ← validatePayload owner limits
  let ttl := ttl.getD (durationMillisSaturated store.config.defaultTtlMillis)
  prepareStoredTask created (Task.new created id toolName arguments ttl owner) limits

def admitTask (id : String) (stored : StoredTask) (data : MemoryTaskStoreData) :
    Except TaskStoreError MemoryTaskStoreData :=
  let limits := store.retentionLimits
  let exceeded : Except TaskStoreError MemoryTaskStoreData :=
    .error (.retentionLimitExceeded .aggregateBytes limits.maxRetainedBytes)
  if limits.maxTasks ≤ FinMap.count data.tasks then
    .error (.retentionLimitExceeded .taskCount limits.maxTasks)
  else
    match checkedAdd data.retainedBytes stored.retainedBytes with
    | none => exceeded
    | some retainedBytes =>
      match checkedAdd data.reservedBytes stored.reservedBytes with
      | none => exceeded
      | some reservedBytes => do
        let _ ← chargedBytes retainedBytes reservedBytes limits.maxRetainedBytes
        pure (data.commit id stored (retainedBytes, reservedBytes))

/-- Create a task that was prepared at `created` and return its identifier. -/
def createTask (created : Moment) (id toolName : String) (arguments : Json) (ttl : Option ℕ)
    (owner : TaskOwner) (data : MemoryTaskStoreData) :
    Except TaskStoreError (MemoryTaskStoreData × String) := do
  let stored ← store.newStoredTask created id toolName arguments ttl owner
  let data ← store.admitTask id stored data
  pure (data, id)

def setTaskMeta (now : Moment) (taskId : String) (metadata : Json) (data : MemoryTaskStoreData) :
    Except TaskStoreError (MemoryTaskStoreData × Bool) :=
  match readable data now.instant taskId with
  | none => .ok (data, false)
  | some current => do
    let limits := store.retentionLimits
    let _ ← validatePayload metadata limits
    let task := { current.task with metadata := some metadata }
    let replacement ← prepareStoredTask now task limits
    replaceStoredTask data taskId replacement limits.maxRetainedBytes

/-- The error of a `require_input` that reuses keys. -/
def reusedInputKeysError (reused : List String) : TaskStoreError :=
  .invalidTransition
    ("input request keys must be unique over a task's lifetime, but " ++
      String.intercalate ", " reused ++ " already " ++
      (if reused.length == 1 then "was" else "were") ++
      " used by this task; use a new key to ask again")

def requireInput (now : Moment) (taskId : String) (requests : InputRequests)
    (message : Option String) (data : MemoryTaskStoreData) :
    Except TaskStoreError (MemoryTaskStoreData × Bool) :=
  match readable data now.instant taskId with
  | none => .ok (data, false)
  | some current =>
    if current.task.status.isTerminal then .ok (data, false)
    else do
      let limits := store.retentionLimits
      let _ ← validatePayload requests limits
      let _ ← (match message with
        | none => pure 0
        | some message => validatePayload message limits)
      let reused := current.task.reusedInputKeys requests
      if reused.isEmpty then do
        let task := current.task.awaitInput now requests message
        let replacement ← prepareStoredTask now task limits
        replaceStoredTask data taskId replacement limits.maxRetainedBytes
      else .error (reusedInputKeysError reused)

def applyInputResponses (now : Moment) (taskId : String) (responses : InputResponses)
    (data : MemoryTaskStoreData) :
    Except TaskStoreError (MemoryTaskStoreData × Option AppliedInputResponses) :=
  match readable data now.instant taskId with
  | none => .ok (data, none)
  | some current =>
    if current.task.status.isTerminal then .ok (data, none)
    else do
      let limits := store.retentionLimits
      let acceptedPayload :=
        responses.filterKeys fun key => (current.task.inputRequests.lookup key).isSome
      let _ ← (if acceptedPayload.entries.isEmpty then pure 0
        else validatePayload acceptedPayload limits)
      let (task, applied) := current.task.applyInputResponses now responses
      let replacement ← prepareStoredTask now task limits
      let (data, replaced) ←
        replaceStoredTask data taskId replacement limits.maxRetainedBytes
      pure (data, if replaced then some applied else none)

def setStatus (now : Moment) (taskId : String) (status : TaskStatus) (message : Option String)
    (data : MemoryTaskStoreData) : Except TaskStoreError (MemoryTaskStoreData × Bool) :=
  if status.isTerminal then
    .error (.invalidTransition
      ("set_status is for non-terminal progress; use complete_task, fail_task, or cancel_task " ++
        "to reach " ++ status.debug))
  else
    match readable data now.instant taskId with
    | none => .ok (data, false)
    | some current =>
      if current.task.status.isTerminal then .ok (data, false)
      else do
        let limits := store.retentionLimits
        let _ ← (match message with
          | none => pure 0
          | some message => validatePayload message limits)
        let task := current.task.setStatus now status message
        let replacement ← prepareStoredTask now task limits
        replaceStoredTask data taskId replacement limits.maxRetainedBytes

def setTtl (now : Moment) (taskId : String) (ttlMs : ℕ) (data : MemoryTaskStoreData) :
    MemoryTaskStoreData × Bool :=
  match data.tasks.lookup taskId with
  | none => (data, false)
  | some stored =>
    if stored.task.isExpiredAt now.instant then (data, false)
    else
      let task := { stored.task with ttl := ttlMs, lastUpdatedAtStr := now.iso }
      ({ data with tasks := data.tasks.insert taskId { stored with task := task } }, true)

/-! ## Operations with an `expect` on their path -/

def discardTask (taskId : String) (data : MemoryTaskStoreData) :
    Except Panic (MemoryTaskStoreData × Bool) :=
  match data.tasks.lookup taskId with
  | none => .ok (data, false)
  | some removed => do
    let retainedBytes ← expectSome (checkedSub data.retainedBytes removed.retainedBytes)
      "task-store retained-byte accounting invariant violated"
    let reservedBytes ← expectSome (checkedSub data.reservedBytes removed.reservedBytes)
      "task-store reserved-byte accounting invariant violated"
    pure ({ tasks := data.tasks.erase taskId
            retainedBytes := retainedBytes
            reservedBytes := reservedBytes }, true)

def takeOut (data : MemoryTaskStoreData) (taskId : String) : MemoryTaskStoreData :=
  { data with tasks := data.tasks.erase taskId }

def putBack (data : MemoryTaskStoreData) (taskId : String) (stored : StoredTask) :
    MemoryTaskStoreData :=
  { data with tasks := data.tasks.insert taskId stored }

def failWith (now : Moment) (taskId : String) (stored : StoredTask) (oldRetained oldReserved : ℕ)
    (error : TaskStoreError) (data : MemoryTaskStoreData) :
    Except Panic (MemoryTaskStoreData × Except TaskStoreError Bool) := do
  let data ← commitRetentionFailure now data taskId stored oldRetained oldReserved
    store.retentionLimits
  pure (data, .error error)

def finishTask (now : Moment) (taskId : String) (stored : StoredTask)
    (oldRetained oldReserved : ℕ) (data : MemoryTaskStoreData) :
    Except Panic (MemoryTaskStoreData × Except TaskStoreError Bool) :=
  let limit := store.retentionLimits.maxRetainedBytes
  match retainedPayloadSize stored.task limit with
  | .error error => store.failWith now taskId stored oldRetained oldReserved error data
  | .ok bytes =>
    let stored := { stored with retainedBytes := bytes, reservedBytes := 0 }
    match replacementTotals data oldRetained oldReserved stored.retainedBytes 0 limit with
    | .error error => store.failWith now taskId stored oldRetained oldReserved error data
    | .ok totals =>
      let stored := { stored with task := stored.task.notifyWaiters }
      .ok (data.commit taskId stored totals, .ok true)

def completeTask (now : Moment) (taskId : String) (result : CallToolResult)
    (data : MemoryTaskStoreData) :
    Except Panic (MemoryTaskStoreData × Except TaskStoreError Bool) :=
  match data.tasks.lookup taskId with
  | none => .ok (data, .ok false)
  | some stored =>
    let data := takeOut data taskId
    if stored.task.status.isTerminal then .ok (putBack data taskId stored, .ok false)
    else if stored.task.isExpiredAt now.instant then .ok (putBack data taskId stored, .ok false)
    else
      let oldRetained := stored.retainedBytes
      let oldReserved := stored.reservedBytes
      match validatePayload result store.retentionLimits with
      | .error error => store.failWith now taskId stored oldRetained oldReserved error data
      | .ok _ =>
        let stored := { stored with task := stored.task.complete now result }
        store.finishTask now taskId stored oldRetained oldReserved data

def failTask (now : Moment) (taskId : String) (error : JsonRpcError) (data : MemoryTaskStoreData) :
    Except Panic (MemoryTaskStoreData × Except TaskStoreError Bool) :=
  match data.tasks.lookup taskId with
  | none => .ok (data, .ok false)
  | some stored =>
    let data := takeOut data taskId
    if stored.task.status.isTerminal then .ok (putBack data taskId stored, .ok false)
    else if stored.task.isExpiredAt now.instant then .ok (putBack data taskId stored, .ok false)
    else
      let oldRetained := stored.retainedBytes
      let oldReserved := stored.reservedBytes
      let limits := store.retentionLimits
      match validatePayload error limits with
      | .error retentionError =>
        store.failWith now taskId stored oldRetained oldReserved retentionError data
      | .ok _ =>
        match validatePrefixedString error.message "Task failed: " limits with
        | .error retentionError =>
          store.failWith now taskId stored oldRetained oldReserved retentionError data
        | .ok _ =>
          let stored := { stored with task := stored.task.fail now error }
          store.finishTask now taskId stored oldRetained oldReserved data

/-- What completing and failing a task have in common: a live task is finished when its payload
passes a check. -/
def finishLive (now : Moment) (taskId : String) (checked : Except TaskStoreError ℕ)
    (finish : Task → Task) (data : MemoryTaskStoreData) :
    Except Panic (MemoryTaskStoreData × Except TaskStoreError Bool) :=
  match data.tasks.lookup taskId with
  | none => .ok (data, .ok false)
  | some stored =>
    if stored.task.status.isTerminal ∨ stored.task.isExpiredAt now.instant then
      .ok (putBack (takeOut data taskId) taskId stored, .ok false)
    else
      match checked with
      | .error error =>
        store.failWith now taskId stored stored.retainedBytes stored.reservedBytes error
          (takeOut data taskId)
      | .ok _ =>
        store.finishTask now taskId { stored with task := finish stored.task }
          stored.retainedBytes stored.reservedBytes (takeOut data taskId)

theorem complete_task_eq (now : Moment) (taskId : String) (result : CallToolResult)
    (data : MemoryTaskStoreData) :
    store.completeTask now taskId result data =
      store.finishLive now taskId (validatePayload result store.retentionLimits)
        (Task.complete now · result) data := by
  unfold completeTask finishLive
  cases data.tasks.lookup taskId with
  | none => rfl
  | some stored =>
    dsimp only
    cases stored.task.status.isTerminal
    all_goals cases stored.task.isExpiredAt now.instant
    all_goals cases validatePayload result store.retentionLimits
    all_goals rfl

theorem fail_task_eq (now : Moment) (taskId : String) (error : JsonRpcError)
    (data : MemoryTaskStoreData) :
    store.failTask now taskId error data =
      store.finishLive now taskId
        (do
          let _ ← validatePayload error store.retentionLimits
          validatePrefixedString error.message "Task failed: " store.retentionLimits)
        (Task.fail now · error) data := by
  unfold failTask finishLive
  cases data.tasks.lookup taskId with
  | none => rfl
  | some stored =>
    dsimp only
    cases stored.task.status.isTerminal
    all_goals cases stored.task.isExpiredAt now.instant
    all_goals cases validatePayload error store.retentionLimits
    all_goals cases validatePrefixedString error.message "Task failed: " store.retentionLimits
    all_goals rfl

def boundedReason (reason : Option String) : Bool :=
  match reason with
  | some reason =>
    (validatePrefixedString reason "Cancelled: " store.retentionLimits).toBool
  | none => (validatePayload "Task cancelled" store.retentionLimits).toBool

def cancelledTask (now : Moment) (task : Task) (reason : Option String) : Task :=
  if store.boundedReason reason then
    let requestedStatus := match reason with
      | some reason => "Cancelled: " ++ reason
      | none => "Task cancelled"
    { task with
      inputRequests := ∅
      status := .cancelled
      statusMessage := some requestedStatus
      completedAt := some now.instant
      lastUpdatedAtStr := now.iso }
  else task.cancelWithBoundedStatus now boundedCancellationStatus true

def priceCancellation (now : Moment) (task : Task) (oldRetained oldReserved : ℕ)
    (data : MemoryTaskStoreData) : Except Panic (Task × ℕ × ℕ × ℕ) :=
  let limit := store.retentionLimits.maxRetainedBytes
  let candidate : Except TaskStoreError (ℕ × ℕ × ℕ) := do
    let bytes ← retainedPayloadSize task limit
    let totals ← replacementTotals data oldRetained oldReserved bytes 0 limit
    pure (bytes, totals)
  match candidate with
  | .ok totals => .ok (task, totals)
  | .error _ => do
    let task := task.cancelWithBoundedStatus now boundedCancellationStatus true
    let bytes ← expect (retainedPayloadSize task limit)
      "bounded cancellation must fit the aggregate byte limit"
    let totals ← expect (replacementTotals data oldRetained oldReserved bytes 0 limit)
      "bounded cancellation must fit reserved global accounting"
    pure (task, bytes, totals)

def cancelTask (now : Moment) (taskId : String) (reason : Option String)
    (data : MemoryTaskStoreData) :
    Except Panic (MemoryTaskStoreData × Option TaskObject) :=
  match data.tasks.lookup taskId with
  | none => .ok (data, none)
  | some stored =>
    let data := takeOut data taskId
    if stored.task.isExpiredAt now.instant then .ok (putBack data taskId stored, none)
    else
      let oldRetained := stored.retainedBytes
      let oldReserved := stored.reservedBytes
      let task := stored.task.raiseToken
      if task.status.isTerminal then
        .ok (putBack data taskId { stored with task := task }, some task.toTaskObject)
      else do
        let task := store.cancelledTask now task reason
        let (task, bytes, totals) ←
          store.priceCancellation now task oldRetained oldReserved data
        let stored :=
          { stored with
            task := task.notifyWaiters
            retainedBytes := bytes
            reservedBytes := 0 }
        pure (data.commit taskId stored totals, some task.toTaskObject)

/-! ## Expiry -/

structure Retirement where
  signalled : ℕ
  removed : ℕ
deriving DecidableEq

structure RetiredTotals where
  signalled : ℕ := 0
  oldRetained : ℕ := 0
  newRetained : ℕ := 0
  oldReserved : ℕ := 0

def isRetiring (now : Instant) (stored : StoredTask) : Bool :=
  stored.task.isExpiredAt now && stored.signalExpiry.2

def retireTask (stored : StoredTask) : Except Panic StoredTask := do
  let scrubbed := stored.signalExpiry.1.scrubExpiredPayload
  let retainedBytes ← expect (retainedPayloadSize scrubbed.task usizeMax)
    "built-in task payload serialization is infallible"
  pure { scrubbed with retainedBytes := retainedBytes }

def retireVisit (now : Instant) (totals : RetiredTotals) (stored : StoredTask) :
    Except Panic RetiredTotals :=
  if isRetiring now stored then do
    let retired ← retireTask stored
    let oldRetained ← expectSome (checkedAdd totals.oldRetained stored.retainedBytes)
      "task-store retained-byte accounting overflowed"
    let newRetained ← expectSome (checkedAdd totals.newRetained retired.retainedBytes)
      "task-store retained-byte accounting overflowed"
    let oldReserved ← expectSome (checkedAdd totals.oldReserved stored.reservedBytes)
      "task-store reserved-byte accounting overflowed"
    pure { signalled := totals.signalled + 1
           oldRetained := oldRetained
           newRetained := newRetained
           oldReserved := oldReserved }
  else pure totals

/-- One visit of the retirement loop, with what it leaves in the map. A panic of `retireTask` has
ended the loop in `retireVisit` already. -/
def retireRecord (now : Instant) (stored : StoredTask) : StoredTask :=
  if isRetiring now stored then
    match retireTask stored with
    | .ok retired => retired
    | .error _ => stored
  else stored

def removeVisit (now : Instant) (totals : ℕ × ℕ) (stored : StoredTask) : Except Panic (ℕ × ℕ) :=
  if stored.task.isExpiredAt now then do
    let retained ← expectSome (checkedAdd totals.1 stored.retainedBytes)
      "task-store retained-byte accounting overflowed"
    let reserved ← expectSome (checkedAdd totals.2 stored.reservedBytes)
      "task-store reserved-byte accounting overflowed"
    pure (retained, reserved)
  else pure totals

def removeExpired (now : Instant) (data : MemoryTaskStoreData) :
    Except Panic (MemoryTaskStoreData × ℕ) := do
  let removed ← data.tasks.values.foldlM (removeVisit now) (0, 0)
  let retainedBytes ← expectSome (checkedSub data.retainedBytes removed.1)
    "task-store retained-byte accounting invariant violated"
  let reservedBytes ← expectSome (checkedSub data.reservedBytes removed.2)
    "task-store reserved-byte accounting invariant violated"
  let tasks := data.tasks.retain fun stored => !stored.task.isExpiredAt now
  pure ({ tasks := tasks
          retainedBytes := retainedBytes
          reservedBytes := reservedBytes },
    FinMap.count data.tasks - FinMap.count tasks)

/-- Signal and scrub the tasks that have expired, and remove them when `remove` is set. -/
def retireExpired (now : Instant) (remove : Bool) (data : MemoryTaskStoreData) :
    Except Panic (MemoryTaskStoreData × Retirement) := do
  let retired ← data.tasks.values.foldlM (retireVisit now) {}
  let retainedBytes ←
    expectSome ((checkedSub data.retainedBytes retired.oldRetained).bind
      fun bytes => checkedAdd bytes retired.newRetained)
    "task-store retained-byte accounting invariant violated"
  let reservedBytes ← expectSome (checkedSub data.reservedBytes retired.oldReserved)
    "task-store reserved-byte accounting invariant violated"
  let _ ← expect (chargedBytes retainedBytes reservedBytes store.retentionLimits.maxRetainedBytes)
    "expiry scrubbing exceeded the task-store aggregate-byte invariant"
  let data :=
    { tasks := data.tasks.mapValues (retireRecord now)
      retainedBytes := retainedBytes
      reservedBytes := reservedBytes }
  let (data, removed) ← (if remove then removeExpired now data else pure (data, 0))
  pure (data, { signalled := retired.signalled, removed := removed })

end MemoryTaskStore

end TowerMcp
