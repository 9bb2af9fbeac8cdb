import TowerMcp.Task.Record

/-!
# Byte accounting of the task store

How `MemoryTaskStore` prices a record and moves its two global totals, after `async_task.rs`: the
compact-JSON size of what a record retains, the headroom a live record reserves for its content-free
failure, and the checked arithmetic of a replacement. A failed `expect` is a `Panic`. The second
half of the module compares the prices: whatever a live record holds, it is charged enough for the
failure, the bounded cancellation and the expiry scrub that may replace it.
-/

namespace TowerMcp

/-- The message a failed `expect` panics with. -/
abbrev Panic := String

structure CountingWriter where
  written : ℕ
  limit : ℕ
  exceeded : Bool

namespace CountingWriter

def new (limit : ℕ) : CountingWriter where
  written := 0
  limit := limit
  exceeded := false

def write (writer : CountingWriter) (bytes : ℕ) : CountingWriter :=
  match checkedAdd writer.written bytes with
  | none => { writer with exceeded := true }
  | some next =>
    if next > writer.limit then { writer with exceeded := true }
    else { writer with written := next }

end CountingWriter

def writtenBytes : Serialized → ℕ
  | .ok json => json.size
  | .error failure => failure.written

def encodedSize {α : Type} [Serialize α] (value : α) (limit : ℕ) (kind : TaskRetentionLimitKind) :
    Except TaskStoreError ℕ :=
  let writer := (CountingWriter.new limit).write (writtenBytes (serialize value))
  if writer.exceeded then .error (.retentionLimitExceeded kind limit)
  else
    match serialize value with
    | .ok _ => .ok writer.written
    | .error failure => .error (.encode failure.message)

structure RetainedTaskPayload where
  task : Task

def RetainedTaskPayload.fields (payload : RetainedTaskPayload) : List (String × Serialized) :=
  let task := payload.task
  [("tool_name", serialize task.toolName),
    ("arguments", serialize task.arguments),
    ("status_message", serialize task.statusMessage),
    ("meta", serialize task.metadata),
    ("result", serialize task.result),
    ("error", serialize task.error),
    ("owner", serialize task.owner),
    ("input_requests", serialize task.inputRequests),
    ("answered_input_keys", serialize task.answeredInputKeys),
    ("input_responses", serialize task.inputResponses),
    ("superseded_input_keys", serialize task.supersededInputKeys)]

instance : Serialize RetainedTaskPayload := ⟨fun payload => serializeObject payload.fields⟩

def retainedPayloadSize (task : Task) (limit : ℕ) : Except TaskStoreError ℕ :=
  encodedSize (RetainedTaskPayload.mk task) limit .aggregateBytes

def payloadLimit (limits : TaskRetentionLimits) : ℕ × TaskRetentionLimitKind :=
  if limits.maxPayloadBytes ≤ limits.maxRetainedBytes then (limits.maxPayloadBytes, .payloadBytes)
  else (limits.maxRetainedBytes, .aggregateBytes)

def validatePayload {α : Type} [Serialize α] (payload : α) (limits : TaskRetentionLimits) :
    Except TaskStoreError ℕ :=
  encodedSize payload (payloadLimit limits).1 (payloadLimit limits).2

def validatePrefixedString (value prefixText : String) (limits : TaskRetentionLimits) :
    Except TaskStoreError ℕ :=
  let limit := (payloadLimit limits).1
  let kind := (payloadLimit limits).2
  match checkedSub limit prefixText.utf8ByteSize with
  | none => .error (.retentionLimitExceeded kind limit)
  | some valueLimit => do
    let size ← encodedSize value valueLimit kind
    match checkedAdd size prefixText.utf8ByteSize with
    | none => .error (.retentionLimitExceeded kind limit)
    | some total => pure total

def chargedBytes (retained reserved limit : ℕ) : Except TaskStoreError ℕ :=
  match (checkedAdd retained reserved).filter (· ≤ limit) with
  | none => .error (.retentionLimitExceeded .aggregateBytes limit)
  | some charged => .ok charged

def prepareStoredTask (now : Moment) (task : Task) (limits : TaskRetentionLimits) :
    Except TaskStoreError StoredTask := do
  let retainedBytes ← retainedPayloadSize task limits.maxRetainedBytes
  let reservedBytes ←
    (if task.status.isTerminal then pure 0
    else do
      let fallbackBytes ←
        retainedPayloadSize (task.failRetentionLimit now) limits.maxRetainedBytes
      pure (fallbackBytes - retainedBytes))
  let _ ← chargedBytes retainedBytes reservedBytes limits.maxRetainedBytes
  pure (StoredTask.new task retainedBytes reservedBytes)

structure MemoryTaskStoreData where
  tasks : FinMap String StoredTask := ∅
  retainedBytes : ℕ := 0
  reservedBytes : ℕ := 0

def replacementTotals (data : MemoryTaskStoreData)
    (oldRetained oldReserved newRetained newReserved limit : ℕ) :
    Except TaskStoreError (ℕ × ℕ) := do
  let retainedBytes ←
    match checkedSub data.retainedBytes oldRetained >>= fun bytes => checkedAdd bytes newRetained with
    | none => .error (.retentionLimitExceeded .aggregateBytes limit)
    | some bytes => .ok bytes
  let reservedBytes ←
    match checkedSub data.reservedBytes oldReserved >>= fun bytes => checkedAdd bytes newReserved with
    | none => .error (.retentionLimitExceeded .aggregateBytes limit)
    | some bytes => .ok bytes
  let _ ← chargedBytes retainedBytes reservedBytes limit
  pure (retainedBytes, reservedBytes)

def MemoryTaskStoreData.commit (data : MemoryTaskStoreData) (taskId : String) (stored : StoredTask)
    (totals : ℕ × ℕ) : MemoryTaskStoreData where
  tasks := data.tasks.insert taskId stored
  retainedBytes := totals.1
  reservedBytes := totals.2

def replaceStoredTask (data : MemoryTaskStoreData) (taskId : String) (replacement : StoredTask)
    (limit : ℕ) : Except TaskStoreError (MemoryTaskStoreData × Bool) :=
  match data.tasks.lookup taskId with
  | none => .ok (data, false)
  | some current => do
    let totals ← replacementTotals data current.retainedBytes current.reservedBytes
      replacement.retainedBytes replacement.reservedBytes limit
    pure (data.commit taskId replacement totals, true)

def commitRemovedTask (data : MemoryTaskStoreData) (taskId : String) (replacement : StoredTask)
    (oldRetained oldReserved limit : ℕ) : Except TaskStoreError MemoryTaskStoreData := do
  let totals ← replacementTotals data oldRetained oldReserved replacement.retainedBytes
    replacement.reservedBytes limit
  pure (data.commit taskId replacement totals)

/-- `Result::expect`. -/
def expect {α : Type} (result : Except TaskStoreError α) (message : Panic) : Except Panic α :=
  match result with
  | .ok value => .ok value
  | .error _ => .error message

def commitRetentionFailure (now : Moment) (data : MemoryTaskStoreData) (taskId : String)
    (stored : StoredTask) (oldRetained oldReserved : ℕ) (limits : TaskRetentionLimits) :
    Except Panic MemoryTaskStoreData := do
  let task := stored.task.failRetentionLimit now
  let retainedBytes ← expect (retainedPayloadSize task limits.maxRetainedBytes)
    "reserved retention failure must fit the aggregate byte limit"
  -- the waiters hold the notifier itself, so waking them shows in the record put back
  expect (commitRemovedTask data taskId
      { stored with
        task := task.notifyWaiters
        retainedBytes := retainedBytes
        reservedBytes := 0 }
      oldRetained oldReserved limits.maxRetainedBytes)
    "reserved retention failure must fit global task-store accounting"

/-! ## What the encoder says about sizes -/

variable {kind : TaskRetentionLimitKind}

theorem encoded_size_eq_ok {α : Type} [Serialize α] {value : α} {limit size : ℕ} :
    encodedSize value limit kind = .ok size ↔
      ∃ json, serialize value = .ok json ∧ json.size = size ∧ size ≤ limit ∧ size ≤ usizeMax := by
  unfold encodedSize CountingWriter.write CountingWriter.new checkedAdd
  cases hvalue : serialize value with
  | error failure =>
    simp only [writtenBytes]
    split <;> split <;> simp_all
  | ok json =>
    simp only [writtenBytes, Nat.zero_add]
    constructor
    · intro h
      split at h
      · simp at h
      · refine ⟨json, rfl, ?_⟩
        split at h
        · simp_all
        · split at h <;> simp_all
    · rintro ⟨_, hjson, rfl, hlimit, husize⟩
      cases hjson
      have hle : ¬ json.size > limit := by omega
      simp [husize, hle]

theorem serialize_of_encoded_size {α : Type} [Serialize α] {value : α} {limit size : ℕ}
    (h : encodedSize value limit kind = .ok size) : ∃ json, serialize value = .ok json := by
  obtain ⟨json, hjson, _⟩ := encoded_size_eq_ok.1 h
  exact ⟨json, hjson⟩

namespace Task

def payloadSize (task : Task) : ℕ :=
  fieldsLength (RetainedTaskPayload.mk task).fields + 1

def Serializable (task : Task) : Prop :=
  ∃ json, serialize (RetainedTaskPayload.mk task) = .ok json

theorem retained_payload_size_eq_ok {task : Task} {limit size : ℕ} :
    retainedPayloadSize task limit = .ok size ↔
      task.Serializable ∧ task.payloadSize = size ∧ size ≤ limit ∧ size ≤ usizeMax := by
  unfold retainedPayloadSize
  rw [encoded_size_eq_ok]
  constructor
  · rintro ⟨json, hjson, hsize, hbounds⟩
    refine ⟨⟨json, hjson⟩, ?_, hbounds⟩
    rw [← hsize]
    exact (size_of_serialize_object hjson).symm
  · rintro ⟨⟨json, hjson⟩, hsize, hbounds⟩
    refine ⟨json, hjson, ?_, hbounds⟩
    rw [← hsize]
    exact size_of_serialize_object hjson

theorem serializable_iff {task : Task} :
    task.Serializable ↔ (∃ json, serialize task.result = .ok json) ∧
      (∃ json, serialize task.inputRequests = .ok json) ∧
      ∃ json, serialize task.inputResponses = .ok json := by
  have hstring : ∀ text : Option String, ∃ json, serialize text = .ok json := by
    intro text
    cases text with
    | none => exact ⟨_, rfl⟩
    | some text => exact ⟨_, rfl⟩
  have hjson : ∃ json, serialize task.metadata = .ok json := by
    cases task.metadata with
    | none => exact ⟨_, rfl⟩
    | some value => exact ⟨_, rfl⟩
  have herror : ∃ json, serialize task.error = .ok json := by
    cases task.error with
    | none => exact ⟨_, rfl⟩
    | some error => exact ⟨_, rfl⟩
  have hkeys : ∀ keys : KeySet, ∃ json, serialize keys = .ok json := fun keys => ⟨_, rfl⟩
  have hname : ∃ json, serialize task.toolName = .ok json := ⟨_, rfl⟩
  have harguments : ∃ json, serialize task.arguments = .ok json := ⟨_, rfl⟩
  show (∃ json, serializeObject _ = .ok json) ↔ _
  rw [serialize_object_ok_iff]
  simp [RetainedTaskPayload.fields, hstring, hjson, herror, hkeys, hname, harguments]

end Task

/-! ## What the totals do -/

theorem charged_bytes_of_le {retained reserved limit : ℕ} (hlimit : limit ≤ usizeMax)
    (hfits : retained + reserved ≤ limit) :
    chargedBytes retained reserved limit = .ok (retained + reserved) := by
  have husize : retained + reserved ≤ usizeMax := le_trans hfits hlimit
  simp [chargedBytes, checkedAdd, Option.filter, husize, hfits]

theorem le_of_charged_bytes {retained reserved limit charged : ℕ}
    (h : chargedBytes retained reserved limit = .ok charged) : retained + reserved ≤ limit := by
  unfold chargedBytes checkedAdd at h
  by_cases husize : retained + reserved ≤ usizeMax
  · by_cases hfits : retained + reserved ≤ limit
    · exact hfits
    · simp [Option.filter, husize, hfits] at h
  · simp [husize] at h

structure TotalsMoved (data : MemoryTaskStoreData)
    (oldRetained oldReserved newRetained newReserved limit : ℕ) (totals : ℕ × ℕ) : Prop where
  retained : totals.1 + oldRetained = data.retainedBytes + newRetained
  reserved : totals.2 + oldReserved = data.reservedBytes + newReserved
  bounded : totals.1 + totals.2 ≤ limit

variable {oldRetained oldReserved newRetained newReserved limit : ℕ}

theorem totals_moved_of_replacement_totals {data : MemoryTaskStoreData} {totals : ℕ × ℕ}
    (h : replacementTotals data oldRetained oldReserved newRetained newReserved limit =
      .ok totals) :
    TotalsMoved data oldRetained oldReserved newRetained newReserved limit totals := by
  unfold replacementTotals checkedSub checkedAdd at h
  by_cases hretained : oldRetained ≤ data.retainedBytes
  · by_cases hnewRetained : data.retainedBytes - oldRetained + newRetained ≤ usizeMax
    · by_cases hreserved : oldReserved ≤ data.reservedBytes
      · by_cases hnewReserved : data.reservedBytes - oldReserved + newReserved ≤ usizeMax
        · simp only [hretained, hnewRetained, hreserved, hnewReserved, if_true,
            Option.bind_some, bind, Except.bind] at h
          cases hcharged : chargedBytes (data.retainedBytes - oldRetained + newRetained)
              (data.reservedBytes - oldReserved + newReserved) limit with
          | error error => simp [hcharged] at h
          | ok charged =>
            have hle := le_of_charged_bytes hcharged
            obtain rfl : (_, _) = totals := by simpa [hcharged, pure, Except.pure] using h
            refine ⟨?_, ?_, hle⟩
            · show data.retainedBytes - oldRetained + newRetained + oldRetained = _
              omega
            · show data.reservedBytes - oldReserved + newReserved + oldReserved = _
              omega
        · simp [hretained, hnewRetained, hreserved, hnewReserved, bind, Except.bind] at h
      · simp [hretained, hnewRetained, hreserved, bind, Except.bind] at h
    · simp [hretained, hnewRetained, bind, Except.bind] at h
  · simp [hretained, bind, Except.bind] at h

theorem replacement_totals_of_le {data : MemoryTaskStoreData} (hlimit : limit ≤ usizeMax)
    (hbounded : data.retainedBytes + data.reservedBytes ≤ limit)
    (hretained : oldRetained ≤ data.retainedBytes) (hreserved : oldReserved ≤ data.reservedBytes)
    (hcharge : newRetained + newReserved ≤ oldRetained + oldReserved) :
    ∃ totals, replacementTotals data oldRetained oldReserved newRetained newReserved limit =
      .ok totals := by
  have hfits : data.retainedBytes - oldRetained + newRetained +
      (data.reservedBytes - oldReserved + newReserved) ≤ limit := by omega
  have hnewRetained : data.retainedBytes - oldRetained + newRetained ≤ usizeMax := by omega
  have hnewReserved : data.reservedBytes - oldReserved + newReserved ≤ usizeMax := by omega
  unfold replacementTotals checkedSub checkedAdd
  simp [hretained, hreserved, hnewRetained, hnewReserved, charged_bytes_of_le hlimit hfits, bind,
    Except.bind, pure, Except.pure]

end TowerMcp
