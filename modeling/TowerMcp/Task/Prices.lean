import TowerMcp.Lib.Fallible
import TowerMcp.Task.Retention

/-!
# What replaces a record is cheaper than the record

Three contents may replace that of a live record when it does not fit any more: the retention
failure, the bounded cancellation and, after the deadline, the expiry scrub. `fallbackSize` is the
price of the first. A live record is charged at least that much, and the other two never cost more;
a terminal record is charged what it retains, and its status message is long enough to pay for the
scrub. `StoredTask.WellFormed` is the invariant these comparisons need.
-/

namespace TowerMcp

open Fallible

namespace Task

def fallbackSize (task : Task) : ℕ :=
  (task.failRetentionLimit ⟨0, ""⟩).payloadSize

@[simp] theorem payload_size_fail_retention_limit (now : Moment) (task : Task) :
    (task.failRetentionLimit now).payloadSize = task.fallbackSize := rfl

theorem serializable_of_no_payload {task : Task} (hresult : task.result = none)
    (hrequests : task.inputRequests = ∅) (hresponses : task.inputResponses = ∅) :
    task.Serializable := by
  rw [serializable_iff, hresult, hrequests, hresponses]
  exact ⟨⟨_, rfl⟩, ⟨_, rfl⟩, ⟨_, rfl⟩⟩

theorem serializable_fail_retention_limit (now : Moment) (task : Task) :
    (task.failRetentionLimit now).Serializable :=
  serializable_of_no_payload rfl rfl rfl

theorem payload_size_eq (task : Task) :
    task.payloadSize =
      keyLength "tool_name" + (Json.escapedLength task.toolName + 2) +
      (keyLength "arguments" + task.arguments.size) +
      (keyLength "status_message" + serializedSize (serialize task.statusMessage)) +
      (keyLength "meta" + serializedSize (serialize task.metadata)) +
      (keyLength "result" + serializedSize (serialize task.result)) +
      (keyLength "error" + serializedSize (serialize task.error)) +
      (keyLength "owner" + serializedSize (serialize task.owner)) +
      (keyLength "input_requests" + serializedSize (serialize task.inputRequests)) +
      (keyLength "answered_input_keys" + serializedSize (serialize task.answeredInputKeys)) +
      (keyLength "input_responses" + serializedSize (serialize task.inputResponses)) +
      (keyLength "superseded_input_keys" + serializedSize (serialize task.supersededInputKeys)) +
      1 := by
  simp only [payloadSize, RetainedTaskPayload.fields, fields_length_cons, fields_length_nil,
    serialized_size_string, serialized_size_json]
  omega

theorem fallback_size_congr {first second : Task} (hname : first.toolName = second.toolName)
    (howner : first.owner = second.owner) : first.fallbackSize = second.fallbackSize := by
  unfold fallbackSize
  rw [payload_size_eq, payload_size_eq]
  simp only [failRetentionLimit, hname, howner]

def scrubbed (task : Task) : Task :=
  (StoredTask.new task 0 0).scrubExpiredPayload.task

theorem payload_size_scrubbed_le (task : Task) :
    task.scrubbed.payloadSize ≤ task.fallbackSize := by
  have herror :=
    (JsonRpcError.internalError retentionFailureMessage).le_serialized_size
  unfold fallbackSize
  rw [payload_size_eq, payload_size_eq]
  simp only [scrubbed, StoredTask.scrubExpiredPayload, StoredTask.new, failRetentionLimit,
    serialized_size_none, serialized_size_some, serialized_size_string]
  have hempty : Json.escapedLength "" = 0 := rfl
  have hstatus : Json.escapedLength retentionFailureStatus = 37 := by decide
  omega

theorem payload_size_bounded_cancellation_le (now : Moment) (task : Task) :
    (task.cancelWithBoundedStatus now boundedCancellationStatus true).payloadSize ≤
      task.fallbackSize := by
  have herror :=
    (JsonRpcError.internalError retentionFailureMessage).le_serialized_size
  unfold fallbackSize
  rw [payload_size_eq, payload_size_eq]
  simp only [cancelWithBoundedStatus, failRetentionLimit, if_true, serialized_size_none,
    serialized_size_some, serialized_size_string]
  have hfailed : Json.escapedLength retentionFailureStatus = 37 := by decide
  have hcancelled : Json.escapedLength boundedCancellationStatus = 40 := by decide
  omega

theorem serializable_bounded_cancellation (now : Moment) (task : Task) (status : String) :
    (task.cancelWithBoundedStatus now status true).Serializable :=
  serializable_of_no_payload rfl rfl rfl

def HasLongStatus (task : Task) : Prop :=
  ∃ message, task.statusMessage = some message ∧ 11 ≤ Json.escapedLength message

theorem payload_size_scrubbed_le_payload_size {task : Task} (hserializable : task.Serializable)
    (hstatus : task.HasLongStatus) : task.scrubbed.payloadSize ≤ task.payloadSize := by
  obtain ⟨message, hmessage, hlength⟩ := hstatus
  obtain ⟨hresult, hrequests, hresponses⟩ := serializable_iff.1 hserializable
  have harguments := Json.size_pos task.arguments
  -- the three parts below may be smaller than the `null` that takes their place
  have hmeta : 1 ≤ serializedSize (serialize task.metadata) := by
    cases task.metadata with
    | none => decide
    | some value => exact Json.size_pos value
  have hresultSize : 4 ≤ serializedSize (serialize task.result) := by
    cases hcase : task.result with
    | none => decide
    | some result =>
      rw [hcase] at hresult
      have hfive := CallToolResult.le_serialized_size hresult
      rw [serialized_size_some]
      omega
  have herrorSize : 4 ≤ serializedSize (serialize task.error) := by
    cases task.error with
    | none => decide
    | some error =>
      have heleven := error.le_serialized_size
      rw [serialized_size_some]
      omega
  have hrequestsSize := two_le_serialized_size_map hrequests
  have hresponsesSize := two_le_serialized_size_map hresponses
  have hansweredSize := two_le_serialized_size_keys task.answeredInputKeys
  have hsupersededSize := two_le_serialized_size_keys task.supersededInputKeys
  have hempty : Json.escapedLength "" = 0 := rfl
  rw [payload_size_eq, payload_size_eq task, hmessage]
  simp only [scrubbed, StoredTask.scrubExpiredPayload, StoredTask.new, serialized_size_none,
    serialized_size_some, serialized_size_string, serialized_size_empty_keys,
    serialized_size_empty_map, Json.size_null]
  omega

end Task

/-! ## Well-formed records -/

/-- A record is charged for what it retains, and reserves the rest of its failure while it is live
and has not been signalled. -/
structure StoredTask.WellFormed (stored : StoredTask) : Prop where
  serializable : stored.task.Serializable
  retained : stored.retainedBytes = stored.task.payloadSize
  reserved : stored.reservedBytes =
    if stored.expirySignalled || stored.task.status.isTerminal then 0
    else stored.task.fallbackSize - stored.task.payloadSize
  status : stored.expirySignalled = false → stored.task.status.isTerminal = true →
    stored.task.HasLongStatus

namespace StoredTask

theorem WellFormed.fallback_size_le {stored : StoredTask} (h : stored.WellFormed)
    (hsignal : stored.expirySignalled = false) (hlive : stored.task.status.isTerminal = false) :
    stored.task.fallbackSize ≤ stored.retainedBytes + stored.reservedBytes := by
  have hretained := h.retained
  have hreserved := h.reserved
  simp only [hsignal, hlive, Bool.or_self, Bool.false_eq_true, if_false] at hreserved
  omega

theorem WellFormed.scrubbed_le {stored : StoredTask} (h : stored.WellFormed)
    (hsignal : stored.expirySignalled = false) :
    stored.task.scrubbed.payloadSize ≤ stored.retainedBytes + stored.reservedBytes := by
  cases hterminal : stored.task.status.isTerminal with
  | false =>
    have hfallback := h.fallback_size_le hsignal hterminal
    exact le_trans stored.task.payload_size_scrubbed_le hfallback
  | true =>
    have hscrub := Task.payload_size_scrubbed_le_payload_size h.serializable
      (h.status hsignal hterminal)
    have hretained := h.retained
    omega

end StoredTask

theorem well_formed_of_prepare_stored_task {now : Moment} {task : Task}
    {limits : TaskRetentionLimits} {stored : StoredTask}
    (h : prepareStoredTask now task limits = .ok stored)
    (hstatus : task.status.isTerminal = true → task.HasLongStatus) :
    stored.task = task ∧ stored.expirySignalled = false ∧ stored.WellFormed := by
  obtain ⟨retainedBytes, hretained, h⟩ := bind_eq_ok.1 h
  obtain ⟨reservedBytes, hreserved, h⟩ := bind_eq_ok.1 h
  obtain ⟨charged, _, h⟩ := bind_eq_ok.1 h
  obtain rfl := pure_eq_ok.1 h
  obtain ⟨hserializable, hsize, _⟩ := Task.retained_payload_size_eq_ok.1 hretained
  refine ⟨rfl, rfl, hserializable, hsize.symm, ?_, fun _ => hstatus⟩
  show reservedBytes = if false || task.status.isTerminal then 0 else _
  cases hterminal : task.status.isTerminal with
  | true =>
    rw [hterminal, if_pos rfl] at hreserved
    exact (pure_eq_ok.1 hreserved).symm
  | false =>
    rw [hterminal, if_neg Bool.false_ne_true] at hreserved
    obtain ⟨fallbackBytes, hfallback, hreserved⟩ := bind_eq_ok.1 hreserved
    obtain ⟨_, hfallbackSize, _⟩ := Task.retained_payload_size_eq_ok.1 hfallback
    obtain rfl := pure_eq_ok.1 hreserved
    rw [← hsize, ← hfallbackSize]
    rfl

end TowerMcp
