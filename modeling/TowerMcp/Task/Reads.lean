import TowerMcp.Task.Changes

/-!
# Reads of the memory task store

The operations of `MemoryTaskStore` that read the data, after `async_task.rs`. Each is what the
operation returns under the read lock, which it takes after a `retireExpired false`. A read filters
expired records out by the clock, whether or not a retirement has reached them.
-/

namespace TowerMcp

abbrev TaskSnapshot := TaskObject × Option CallToolResult × Option JsonRpcError

inductive TaskPresence where
  | present (owner : TaskOwner)
  | expired (owner : TaskOwner)
  | missing
deriving DecidableEq

structure TaskResumeContext where
  toolName : String
  arguments : Json
  inputResponses : InputResponses
  cancellationToken : Bool

namespace MemoryTaskStore

variable (data : MemoryTaskStoreData) (now : Instant)

def getTask (taskId : String) : Option TaskObject :=
  (readable data now taskId).map fun stored => stored.task.toTaskObject

def taskOwner (taskId : String) : Option TaskOwner :=
  (readable data now taskId).map fun stored => stored.task.owner

def taskPresence (taskId : String) : TaskPresence :=
  match data.tasks.lookup taskId with
  | some stored =>
    if stored.task.isExpiredAt now then .expired stored.task.owner
    else .present stored.task.owner
  | none => .missing

def getTaskResult (taskId : String) : Option TaskSnapshot :=
  (readable data now taskId).map fun stored =>
    (stored.task.toTaskObject, stored.task.result, stored.task.error)

def listTasks (statusFilter : Option TaskStatus) : List TaskObject :=
  ((data.tasks.values.filter fun stored => !stored.task.isExpiredAt now).filter
    fun stored => statusFilter.isNone || statusFilter == some stored.task.status).map
    fun stored => stored.task.toTaskObject

def outstandingInputRequests (taskId : String) : Option InputRequests :=
  (readable data now taskId).map fun stored => stored.task.inputRequests

def resumeContext (taskId : String) : Option TaskResumeContext :=
  (readable data now taskId).map fun stored =>
    { toolName := stored.task.toolName
      arguments := stored.task.arguments
      inputResponses := stored.task.inputResponses
      cancellationToken := stored.task.cancellationToken }

def inputResponses (taskId : String) : Option InputResponses :=
  (resumeContext data now taskId).map fun resume => resume.inputResponses

variable {data : MemoryTaskStoreData} {now : Instant}

theorem readable_of_lookup_none {id : String} (h : data.tasks.lookup id = none) :
    readable data now id = none := by
  unfold readable
  rw [h]
  rfl

theorem readable_of_expired {id : String} {stored : StoredTask}
    (h : data.tasks.lookup id = some stored) (hexpired : stored.task.isExpiredAt now = true) :
    readable data now id = none := by
  unfold readable
  rw [h]
  simp [hexpired]

theorem mem_list_tasks_iff {statusFilter : Option TaskStatus} {object : TaskObject} :
    object ∈ listTasks data now statusFilter ↔
      ∃ id stored, readable data now id = some stored ∧ stored.task.toTaskObject = object ∧
        (statusFilter = none ∨ statusFilter = some stored.task.status) := by
  simp only [listTasks, List.mem_map, List.mem_filter, Bool.or_eq_true, Option.isNone_iff_eq_none,
    beq_iff_eq, Bool.not_eq_true', readable_eq_some]
  constructor
  · rintro ⟨stored, ⟨⟨hmem, hunexpired⟩, hfilter⟩, hobject⟩
    obtain ⟨id, hlookup⟩ := FinMap.exists_lookup_of_mem_values hmem
    exact ⟨id, stored, ⟨hlookup, hunexpired⟩, hobject, hfilter⟩
  · rintro ⟨id, stored, ⟨hlookup, hunexpired⟩, hobject, hfilter⟩
    exact ⟨stored, ⟨⟨FinMap.mem_values_of_lookup hlookup, hunexpired⟩, hfilter⟩, hobject⟩

end MemoryTaskStore

end TowerMcp
