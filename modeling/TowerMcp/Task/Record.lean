import TowerMcp.Types.Protocol

/-!
# Task records

The record `MemoryTaskStore` keeps for one task, after `async_task.rs`: the public `Task`, the
`StoredTask` around it with its byte charges, the retention limits, and the errors of the store.
Clock readings are arguments: a `Moment` is what the clocks show at one point of an operation. The
completion notifier of a task is the number of times its waiters have been woken, and its
cancellation token is whether the signal has been raised.
-/

namespace TowerMcp

/-- The largest `usize`. -/
def usizeMax : ℕ := 2 ^ 64 - 1

/-- `usize::checked_add`. -/
def checkedAdd (a b : ℕ) : Option ℕ :=
  if a + b ≤ usizeMax then some (a + b) else none

/-- `usize::checked_sub`. -/
def checkedSub (a b : ℕ) : Option ℕ :=
  if b ≤ a then some (a - b) else none

abbrev Instant := ℕ

def instantMax : Instant := (2 ^ 63 - 1) * 1000000000 + 999999999

/-- `Instant::checked_add` of a number of milliseconds. -/
def checkedAddMillis (instant : Instant) (millis : ℕ) : Option Instant :=
  if instant + 1000000 * millis ≤ instantMax then some (instant + 1000000 * millis) else none

/-- What the clocks show at one point of an operation: the monotone reading and the timestamp text
that `chrono_now_iso8601` returns there. -/
structure Moment where
  instant : Instant
  iso : String
deriving DecidableEq

/-- Byte and record limits of the store. Each is a `usize`. -/
structure TaskRetentionLimits where
  maxTasks : ℕ
  maxPayloadBytes : ℕ
  maxRetainedBytes : ℕ
  maxTasks_le : maxTasks ≤ usizeMax
  maxPayloadBytes_le : maxPayloadBytes ≤ usizeMax
  maxRetainedBytes_le : maxRetainedBytes ≤ usizeMax

def TaskRetentionLimits.default : TaskRetentionLimits where
  maxTasks := 1024
  maxPayloadBytes := 4 * 1024 * 1024
  maxRetainedBytes := 64 * 1024 * 1024
  maxTasks_le := by unfold usizeMax; omega
  maxPayloadBytes_le := by unfold usizeMax; omega
  maxRetainedBytes_le := by unfold usizeMax; omega

inductive TaskRetentionLimitKind where
  | taskCount
  | payloadBytes
  | aggregateBytes
deriving DecidableEq

/-- The errors `MemoryTaskStore` returns. -/
inductive TaskStoreError where
  | encode (message : String)
  | invalidTransition (message : String)
  | retentionLimitExceeded (kind : TaskRetentionLimitKind) (limit : ℕ)
deriving DecidableEq

abbrev TaskOwner := Option String

/-- Whether `principal` may act on what belongs to `owner`. -/
def ownerMatches (owner : TaskOwner) (principal : Option String) : Bool :=
  owner == principal

def defaultPollIntervalMs : ℕ := 2000

structure Task where
  id : String
  toolName : String
  arguments : Json
  status : TaskStatus
  createdAt : Instant
  createdAtStr : String
  lastUpdatedAtStr : String
  ttl : ℕ
  pollInterval : ℕ
  statusMessage : Option String
  metadata : Option Json
  result : Option CallToolResult
  error : Option JsonRpcError
  owner : TaskOwner
  inputRequests : InputRequests
  answeredInputKeys : KeySet
  inputResponses : InputResponses
  supersededInputKeys : KeySet
  cancellationToken : Bool
  completedAt : Option Instant
  completionNotify : ℕ

def retentionFailureMessage : String := "Task payload exceeded configured retention limits"

def retentionFailureStatus : String := "Task failed: retention limit exceeded"

def boundedCancellationStatus : String := "Task cancelled: retention limit exceeded"

namespace Task

def new (now : Moment) (id toolName : String) (arguments : Json) (ttl : ℕ) (owner : TaskOwner) :
    Task where
  id := id
  toolName := toolName
  arguments := arguments
  status := .working
  createdAt := now.instant
  createdAtStr := now.iso
  lastUpdatedAtStr := now.iso
  ttl := ttl
  pollInterval := defaultPollIntervalMs
  statusMessage := some "Task started"
  metadata := none
  result := none
  error := none
  owner := owner
  inputRequests := ∅
  answeredInputKeys := ∅
  inputResponses := ∅
  supersededInputKeys := ∅
  cancellationToken := false
  completedAt := none
  completionNotify := 0

def toTaskObject (task : Task) : TaskObject where
  taskId := task.id
  status := task.status
  statusMessage := task.statusMessage
  createdAt := task.createdAtStr
  lastUpdatedAt := task.lastUpdatedAtStr
  ttl := some task.ttl
  pollInterval := some task.pollInterval
  result := none
  error := none
  metadata := task.metadata

def expiresAt (task : Task) : Option Instant :=
  checkedAddMillis task.createdAt task.ttl

def isExpiredAt (task : Task) (now : Instant) : Bool :=
  task.expiresAt.any fun deadline => deadline ≤ now

def failRetentionLimit (now : Moment) (task : Task) : Task :=
  { task with
    arguments := .null
    status := .failed
    statusMessage := some retentionFailureStatus
    metadata := none
    result := none
    error := some (JsonRpcError.internalError retentionFailureMessage)
    inputRequests := ∅
    answeredInputKeys := ∅
    inputResponses := ∅
    supersededInputKeys := ∅
    completedAt := some now.instant
    lastUpdatedAtStr := now.iso }

/-- Mark the task cancelled with a fixed status message, dropping its payload when `scrub` is
set. -/
def cancelWithBoundedStatus (now : Moment) (task : Task) (status : String) (scrub : Bool) : Task :=
  let task := if scrub then
    { task with
      arguments := .null
      metadata := none
      result := none
      error := none
      answeredInputKeys := ∅
      inputResponses := ∅
      supersededInputKeys := ∅ }
  else task
  { task with
    inputRequests := ∅
    status := .cancelled
    statusMessage := some status
    completedAt := some now.instant
    lastUpdatedAtStr := now.iso }

def raiseToken (task : Task) : Task :=
  { task with cancellationToken := true }

def notifyWaiters (task : Task) : Task :=
  { task with completionNotify := task.completionNotify + 1 }

variable {task : Task}

theorem is_expired_at_iff {now : Instant} :
    task.isExpiredAt now = true ↔ ∃ deadline, task.expiresAt = some deadline ∧ deadline ≤ now := by
  unfold isExpiredAt
  rw [Option.any_eq_true]
  simp only [decide_eq_true_eq]

theorem is_expired_at_mono {earlier later : Instant} (hle : earlier ≤ later)
    (h : task.isExpiredAt earlier = true) : task.isExpiredAt later = true := by
  rw [is_expired_at_iff] at h ⊢
  obtain ⟨deadline, hdeadline, hreached⟩ := h
  exact ⟨deadline, hdeadline, le_trans hreached hle⟩

theorem unexpired_earlier {earlier later : Instant} (hle : earlier ≤ later)
    (h : task.isExpiredAt later = false) : task.isExpiredAt earlier = false := by
  cases hexpired : task.isExpiredAt earlier with
  | false => rfl
  | true =>
    rw [is_expired_at_mono hle hexpired] at h
    cases h

end Task

structure StoredTask where
  task : Task
  expirySignalled : Bool
  retainedBytes : ℕ
  reservedBytes : ℕ

namespace StoredTask

def new (task : Task) (retainedBytes reservedBytes : ℕ) : StoredTask where
  task := task
  expirySignalled := false
  retainedBytes := retainedBytes
  reservedBytes := reservedBytes

def signalExpiry (stored : StoredTask) : StoredTask × Bool :=
  if stored.expirySignalled then (stored, false)
  else
    ({ stored with
        expirySignalled := true
        task := stored.task.raiseToken.notifyWaiters }, true)

def scrubExpiredPayload (stored : StoredTask) : StoredTask :=
  { stored with
    task := { stored.task with
      toolName := ""
      arguments := .null
      statusMessage := none
      metadata := none
      result := none
      error := none
      inputRequests := ∅
      answeredInputKeys := ∅
      inputResponses := ∅
      supersededInputKeys := ∅ }
    reservedBytes := 0 }

def charge (stored : StoredTask) : ℕ :=
  stored.retainedBytes + stored.reservedBytes

end StoredTask

/-- The outcome of applying the responses of a `tasks/update`. -/
structure AppliedInputResponses where
  accepted : KeySet := ∅
  ignored : KeySet := ∅
  stillOutstanding : KeySet := ∅

def AppliedInputResponses.isComplete (applied : AppliedInputResponses) : Bool :=
  applied.stillOutstanding.entries.isEmpty

end TowerMcp
