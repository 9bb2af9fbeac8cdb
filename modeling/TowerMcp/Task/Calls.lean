import TowerMcp.Task.Store

/-!
# Calls on the task store

The mutating operations as one type of calls with one type of replies. `perform` is what a call does
under the write lock. An operation of the source is its call after a `retireExpired false`, with a
further `retireExpired false` where it finds the task expired or changes its deadline, and
`createTask` follows a `retireExpired true`; the lock is free in between, so a sequence of calls is
any interleaving of any operations.
-/

namespace TowerMcp

/-- A mutating operation with its arguments. The identifier of `createTask` is the one
`generate_task_id` draws, and `created` is when its record was prepared. -/
inductive StoreCall where
  | createTask (created : Moment) (id toolName : String) (arguments : Json) (ttl : Option ℕ)
      (owner : TaskOwner)
  | setTaskMeta (taskId : String) (metadata : Json)
  | discardTask (taskId : String)
  | requireInput (taskId : String) (requests : InputRequests) (message : Option String)
  | applyInputResponses (taskId : String) (responses : InputResponses)
  | setStatus (taskId : String) (status : TaskStatus) (message : Option String)
  | setTtl (taskId : String) (ttlMs : ℕ)
  | completeTask (taskId : String) (result : CallToolResult)
  | failTask (taskId : String) (error : JsonRpcError)
  | cancelTask (taskId : String) (reason : Option String)
  | retireExpired (remove : Bool)

namespace StoreCall

def target : StoreCall → Option String
  | .createTask .. | .retireExpired _ => none
  | .setTaskMeta taskId _ | .discardTask taskId | .requireInput taskId _ _
  | .applyInputResponses taskId _ | .setStatus taskId _ _ | .setTtl taskId _
  | .completeTask taskId _ | .failTask taskId _ | .cancelTask taskId _ => some taskId

def drawnId : StoreCall → Option String
  | .createTask _ id _ _ _ _ => some id
  | _ => none

end StoreCall

inductive Reply where
  | created (id : Except TaskStoreError String)
  | done (result : Except TaskStoreError Bool)
  | applied (result : Except TaskStoreError (Option AppliedInputResponses))
  | object (task : Option TaskObject)
  | retired (retirement : MemoryTaskStore.Retirement)

def Reply.isQuiet : Reply → Bool
  | .done (.ok true) => false
  | .applied (.ok (some _)) => false
  | _ => true

namespace MemoryTaskStore

def settle {α : Type} (data : MemoryTaskStoreData) (reply : Except TaskStoreError α → Reply)
    (outcome : Except TaskStoreError (MemoryTaskStoreData × α)) : MemoryTaskStoreData × Reply :=
  match outcome with
  | .ok (data, value) => (data, reply (.ok value))
  | .error error => (data, reply (.error error))

def perform (store : MemoryTaskStore) (now : Moment) (call : StoreCall)
    (data : MemoryTaskStoreData) : Except Panic (MemoryTaskStoreData × Reply) :=
  match call with
  | .createTask created id toolName arguments ttl owner =>
    .ok (settle data .created
      (store.createTask created id toolName arguments ttl owner data))
  | .setTaskMeta taskId metadata =>
    .ok (settle data .done (store.setTaskMeta now taskId metadata data))
  | .discardTask taskId => do
    let (data, found) ← discardTask taskId data
    pure (data, .done (.ok found))
  | .requireInput taskId requests message =>
    .ok (settle data .done (store.requireInput now taskId requests message data))
  | .applyInputResponses taskId responses =>
    .ok (settle data .applied (store.applyInputResponses now taskId responses data))
  | .setStatus taskId status message =>
    .ok (settle data .done (store.setStatus now taskId status message data))
  | .setTtl taskId ttlMs =>
    let (data, found) := setTtl now taskId ttlMs data
    .ok (data, .done (.ok found))
  | .completeTask taskId result => do
    let (data, result) ← store.completeTask now taskId result data
    pure (data, .done result)
  | .failTask taskId error => do
    let (data, result) ← store.failTask now taskId error data
    pure (data, .done result)
  | .cancelTask taskId reason => do
    let (data, task) ← store.cancelTask now taskId reason data
    pure (data, .object task)
  | .retireExpired remove => do
    let (data, retirement) ← store.retireExpired now.instant remove data
    pure (data, .retired retirement)

end MemoryTaskStore

end TowerMcp
