import TowerMcp.Task.Expiry

/-!
# Failed operations

An operation of the source with all its sections: the retirement it starts with, the call itself, and
the retirement it ends with when it found its task expired. An operation that reports an error leaves
the data as that first retirement left them, except for `complete_task` and `fail_task`, which put the
content-free failure of the one task they name in its place. The retirement changes no unexpired
record, but it scrubs or removes expired ones, so the totals may move even when the call fails.
-/

namespace TowerMcp

open Execution Fallible

/-- The clock readings of the sections of an operation, in their order: its first retirement, the
call, and its last retirement. -/
structure Sections where
  retired : Instant
  now : Moment
  swept : Instant
  retired_le : retired ≤ now.instant
  le_swept : now.instant ≤ swept

def Reply.isError : Reply → Bool
  | .created (.error _) | .done (.error _) | .applied (.error _) => true
  | _ => false

def StoreCall.failsTask : StoreCall → Bool
  | .completeTask .. | .failTask .. => true
  | _ => false

namespace MemoryTaskStore

variable (store : MemoryTaskStore)

/-- Whether an operation retires once more after its call: it found its task expired, or it has moved
a deadline. -/
def sweeps (now : Instant) (call : StoreCall) (data : MemoryTaskStoreData) : Bool :=
  match call with
  | .completeTask taskId _ | .failTask taskId _ =>
    (data.tasks.lookup taskId).any fun stored =>
      !stored.task.status.isTerminal && stored.task.isExpiredAt now
  | .cancelTask taskId _ => (data.tasks.lookup taskId).any fun stored => stored.task.isExpiredAt now
  | .setTtl taskId _ => (data.tasks.lookup taskId).isSome
  | _ => false

def refusesEarly (call : StoreCall) : Option Reply :=
  match call with
  | .createTask created id toolName arguments ttl owner =>
    match store.newStoredTask created id toolName arguments ttl owner with
    | .error error => some (.created (.error error))
    | .ok _ => none
  | _ => none

def retiresFirst (call : StoreCall) : Option Bool :=
  match call with
  | .createTask .. => some true
  | .setStatus _ status _ => if status.isTerminal then none else some false
  | .discardTask _ | .setTtl _ _ | .retireExpired _ => none
  | _ => some false

def retireBefore (now : Instant) (call : StoreCall) (data : MemoryTaskStoreData) :
    Except Panic MemoryTaskStoreData :=
  match retiresFirst call with
  | some remove => (store.retireExpired now remove data).map (·.1)
  | none => .ok data

def retireAfter (now : Instant) (swept : Bool) (data : MemoryTaskStoreData) :
    Except Panic MemoryTaskStoreData :=
  if swept then (store.retireExpired now false data).map (·.1) else .ok data

def operate (sections : Sections) (call : StoreCall) (data : MemoryTaskStoreData) :
    Except Panic (MemoryTaskStoreData × Reply) :=
  match store.refusesEarly call with
  | some reply => .ok (data, reply)
  | none => do
    let data ← store.retireBefore sections.retired call data
    let (after, reply) ← store.perform sections.now call data
    let after ← store.retireAfter sections.swept (sweeps sections.now.instant call data) after
    pure (after, reply)

end MemoryTaskStore

open MemoryTaskStore

/-- Nothing but a retirement has happened to the data: an unexpired record is as it was, no record is
new, and when nothing has expired the records and the totals are as they were. -/
structure OnlyRetired (instant : Instant) (before after : MemoryTaskStoreData) : Prop where
  unexpired : ∀ id stored, before.tasks.lookup id = some stored →
    stored.task.isExpiredAt instant = false → after.tasks.lookup id = some stored
  retired : ∀ id stored, after.tasks.lookup id = some stored →
    ∃ old, before.tasks.lookup id = some old ∧ (stored = old ∨ stored = retireRecord instant old)
  quiet : (∀ id stored, before.tasks.lookup id = some stored →
    stored.task.isExpiredAt instant = false) → SameData before after

/-- One task was put down as its content-free failure and its waiters were woken, and nothing else has
changed but the charges of that task. -/
structure FailedInPlace (now : Moment) (id : String) (old : StoredTask)
    (before after : MemoryTaskStoreData) : Prop where
  failed : ∃ bytes, after.tasks.lookup id = some { old with
      task := (old.task.failRetentionLimit now).notifyWaiters
      retainedBytes := bytes
      reservedBytes := 0 } ∧
    after.retainedBytes + old.retainedBytes = before.retainedBytes + bytes
  reserved : after.reservedBytes + old.reservedBytes = before.reservedBytes
  others : ∀ other, other ≠ id → after.tasks.lookup other = before.tasks.lookup other

section Retire

variable {store : MemoryTaskStore} {data final : MemoryTaskStoreData} {instant : Instant}

theorem retire_record_of_unexpired {stored : StoredTask}
    (h : stored.task.isExpiredAt instant = false) : retireRecord instant stored = stored := by
  have hretiring : ¬isRetiring instant stored = true := by
    rw [is_retiring_iff, h]
    simp
  rw [retireRecord, if_neg hretiring]

theorem retire_record_keeps {β : Type} (field : Task → β)
    (hsignalled : ∀ task : Task, field task.raiseToken.notifyWaiters = field task)
    (hscrubbed : ∀ task : Task, field task.scrubbed = field task) (stored : StoredTask) :
    field (retireRecord instant stored).task = field stored.task := by
  unfold retireRecord
  split
  next =>
    split
    next retired hretire =>
      obtain ⟨_, _, hpure⟩ := bind_eq_ok.1 hretire
      obtain rfl := pure_eq_ok.1 hpure
      show field stored.signalExpiry.1.task.scrubbed = field stored.task
      rw [hscrubbed]
      unfold StoredTask.signalExpiry
      cases stored.expirySignalled with
      | true => rfl
      | false => exact hsignalled stored.task
    next => rfl
  next => rfl

theorem is_expired_at_retire_record (now : Instant) (stored : StoredTask) :
    (retireRecord instant stored).task.isExpiredAt now = stored.task.isExpiredAt now :=
  retire_record_keeps (fun task => task.isExpiredAt now) (fun _ => rfl) (fun _ => rfl) stored

theorem owner_retire_record (stored : StoredTask) :
    (retireRecord instant stored).task.owner = stored.task.owner :=
  retire_record_keeps Task.owner (fun _ => rfl) (fun _ => rfl) stored

theorem same_data_of_tasks (hbefore : Accounted store.retentionLimits data)
    (hafter : Accounted store.retentionLimits final) (h : final.tasks = data.tasks) :
    SameData data final where
  tasks := fun key => by rw [h]
  retained := by rw [hafter.retained, hbefore.retained, h]
  reserved := by rw [hafter.reserved, hbefore.reserved, h]

theorem only_retired_of_retire_expired (h : Accounted store.retentionLimits data) {remove : Bool}
    {retirement : Retirement}
    (hrun : store.retireExpired instant remove data = .ok (final, retirement)) :
    OnlyRetired instant data final := by
  obtain ⟨_, other, hother, htasks, hfinal⟩ := retire_expired_ok store instant h remove
  obtain ⟨rfl, _⟩ := Prod.mk.inj (Except.ok.inj (hrun.symm.trans hother))
  refine ⟨?_, ?_, ?_⟩
  · intro id stored hlookup hunexpired
    rw [htasks, lookup_retired_tasks, hlookup, Option.map_some,
      retire_record_of_unexpired hunexpired, Option.filter, hunexpired, Bool.and_false]
    rfl
  · intro id stored hlookup
    rw [htasks, lookup_retired_tasks, Option.filter_eq_some_iff] at hlookup
    obtain ⟨old, hold, rfl⟩ := Option.map_eq_some_iff.1 hlookup.1
    exact ⟨old, hold, .inr rfl⟩
  · intro hquiet
    have hvalues : ∀ stored ∈ data.tasks.values, stored.task.isExpiredAt instant = false := by
      intro stored hmem
      obtain ⟨id, hlookup⟩ := FinMap.exists_lookup_of_mem_values hmem
      exact hquiet id stored hlookup
    have hmapped : data.tasks.mapValues (retireRecord instant) = data.tasks :=
      FinMap.map_values_eq_self fun stored hmem => retire_record_of_unexpired (hvalues stored hmem)
    refine same_data_of_tasks h hfinal ?_
    rw [htasks]
    unfold retiredTasks
    rw [hmapped]
    cases remove with
    | false => rfl
    | true =>
      show data.tasks.retain (fun stored => !stored.task.isExpiredAt instant) = data.tasks
      exact FinMap.retain_eq_self fun stored hmem => by simp [hvalues stored hmem]

theorem only_retired_refl (instant : Instant) (data : MemoryTaskStoreData) :
    OnlyRetired instant data data where
  unexpired := fun _ _ hlookup _ => hlookup
  retired := fun _ stored hlookup => ⟨stored, hlookup, .inl rfl⟩
  quiet := fun _ => .refl data

theorem expiry_signalled_signal_expiry (stored : StoredTask) :
    (stored.signalExpiry.1).expirySignalled = true := by
  unfold StoredTask.signalExpiry
  cases hsignalled : stored.expirySignalled <;> simp [hsignalled]

theorem retire_record_idem (stored : StoredTask) :
    retireRecord instant (retireRecord instant stored) = retireRecord instant stored := by
  cases hretiring : isRetiring instant stored with
  | false =>
    have hrecord : retireRecord instant stored = stored := by simp [retireRecord, hretiring]
    rw [hrecord, hrecord]
  | true =>
    cases hretire : retireTask stored with
    | error message =>
      have hrecord : retireRecord instant stored = stored := by
        simp [retireRecord, hretiring, hretire]
      rw [hrecord, hrecord]
    | ok retired =>
      have hrecord : retireRecord instant stored = retired := by
        simp [retireRecord, hretiring, hretire]
      have hsignalled : retired.expirySignalled = true := by
        obtain ⟨_, _, hpure⟩ := bind_eq_ok.1 hretire
        obtain rfl := pure_eq_ok.1 hpure
        exact expiry_signalled_signal_expiry stored
      have hspent : ¬isRetiring instant retired = true := by
        simp [is_retiring_iff, hsignalled]
      rw [hrecord, retireRecord, if_neg hspent]

theorem retire_record_earlier {later : Instant} (hle : instant ≤ later) (stored : StoredTask) :
    retireRecord instant stored = stored ∨
      retireRecord instant stored = retireRecord later stored := by
  by_cases hretiring : isRetiring instant stored = true
  · obtain ⟨hexpired, hfresh⟩ := is_retiring_iff.1 hretiring
    have hlater : isRetiring later stored = true :=
      is_retiring_iff.2 ⟨Task.is_expired_at_mono hle hexpired, hfresh⟩
    right
    rw [retireRecord, retireRecord, if_pos hretiring, if_pos hlater]
  · left
    rw [retireRecord, if_neg hretiring]

end Retire

section Reject

variable {store : MemoryTaskStore} {now : Moment} {id : String} {old : StoredTask}
  {data final : MemoryTaskStoreData} {error : TaskStoreError}

theorem ok_of_expect {α : Type} {result : Except TaskStoreError α} {message : Panic} {value : α}
    (h : expect result message = .ok value) : result = .ok value := by
  cases result with
  | error error => cases h
  | ok other => exact congrArg Except.ok (Except.ok.inj h)

theorem failed_in_place_of_fail_with (stored : StoredTask) {reason : TaskStoreError}
    {result : Except TaskStoreError Bool}
    (hsame : stored.expirySignalled = old.expirySignalled ∧
      stored.task.failRetentionLimit now = old.task.failRetentionLimit now)
    (hrun : store.failWith now id stored old.retainedBytes old.reservedBytes reason
      (takeOut data id) = .ok (final, result)) : FailedInPlace now id old data final := by
  obtain ⟨committed, hcommit, hpure⟩ := bind_eq_ok.1 hrun
  obtain ⟨rfl, _⟩ := Prod.mk.inj (pure_eq_ok.1 hpure)
  obtain ⟨bytes, _, hremoved⟩ := bind_eq_ok.1 hcommit
  have hremoved := ok_of_expect hremoved
  obtain ⟨totals, htotals, hcommitted⟩ := bind_eq_ok.1 hremoved
  obtain rfl := pure_eq_ok.1 hcommitted
  have hmoved := totals_moved_of_replacement_totals htotals
  rw [commit_take_out, hsame.2]
  refine ⟨⟨bytes, ?_, hmoved.retained⟩, hmoved.reserved, fun other hother => ?_⟩
  · show (data.tasks.insert id _).lookup id = _
    rw [AList.lookup_insert, hsame.1]
  · exact AList.lookup_insert_ne hother

theorem failed_in_place_of_finish (stored : StoredTask)
    (hsame : stored.expirySignalled = old.expirySignalled ∧
      stored.task.failRetentionLimit now = old.task.failRetentionLimit now)
    (hrun : store.finishTask now id stored old.retainedBytes old.reservedBytes (takeOut data id) =
      .ok (final, .error error)) : FailedInPlace now id old data final := by
  unfold finishTask at hrun
  dsimp only at hrun
  split at hrun
  next reason _ => exact failed_in_place_of_fail_with stored hsame hrun
  next bytes _ =>
    split at hrun
    next reason _ =>
      exact failed_in_place_of_fail_with { stored with retainedBytes := bytes, reservedBytes := 0 }
        hsame hrun
    next => cases hrun

theorem rejected_of_finish_live {checked : Except TaskStoreError ℕ} {finish : Task → Task}
    (hfail : ∀ task, (finish task).failRetentionLimit now = task.failRetentionLimit now)
    (hrun : store.finishLive now id checked finish data = .ok (final, .error error)) :
    ∃ old, data.tasks.lookup id = some old ∧ old.task.status.isTerminal = false ∧
      old.task.isExpiredAt now.instant = false ∧ FailedInPlace now id old data final := by
  unfold finishLive at hrun
  split at hrun
  next => cases hrun
  next old hlookup =>
    split at hrun
    next => cases hrun
    next hopen =>
      obtain ⟨hlive, hunexpired⟩ : old.task.status.isTerminal = false ∧
          old.task.isExpiredAt now.instant = false := by simpa using hopen
      refine ⟨old, hlookup, hlive, hunexpired, ?_⟩
      split at hrun
      next reason => exact failed_in_place_of_fail_with old ⟨rfl, rfl⟩ hrun
      next =>
        exact failed_in_place_of_finish { old with task := finish old.task }
          ⟨rfl, hfail old.task⟩ hrun

theorem rejected_of_complete_task {result : CallToolResult}
    (hrun : store.completeTask now id result data = .ok (final, .error error)) :
    ∃ old, data.tasks.lookup id = some old ∧ old.task.status.isTerminal = false ∧
      old.task.isExpiredAt now.instant = false ∧ FailedInPlace now id old data final := by
  rw [complete_task_eq] at hrun
  refine rejected_of_finish_live ?_ hrun
  exact fun _ => rfl

theorem rejected_of_fail_task {failure : JsonRpcError}
    (hrun : store.failTask now id failure data = .ok (final, .error error)) :
    ∃ old, data.tasks.lookup id = some old ∧ old.task.status.isTerminal = false ∧
      old.task.isExpiredAt now.instant = false ∧ FailedInPlace now id old data final := by
  rw [fail_task_eq] at hrun
  refine rejected_of_finish_live ?_ hrun
  exact fun _ => rfl

end Reject

section Operate

variable {store : MemoryTaskStore} {sections : Sections} {call : StoreCall} {reply : Reply}
  {data final : MemoryTaskStoreData}

theorem settle_error {α : Type} {reply : Except TaskStoreError α → Reply}
    {outcome : Except TaskStoreError (MemoryTaskStoreData × α)} {result : Reply}
    (hquiet : ∀ value, (reply (.ok value)).isError = false)
    (h : settle data reply outcome = (final, result)) (herror : result.isError = true) :
    final = data := by
  cases outcome with
  | ok pair =>
    obtain ⟨_, rfl⟩ := Prod.mk.inj h
    rw [hquiet] at herror
    cases herror
  | error error => exact (Prod.mk.inj h).1.symm

theorem rejected_of_perform {now : Moment} (hrun : store.perform now call data = .ok (final, reply))
    (herror : reply.isError = true) :
    (call.failsTask = false → final = data) ∧
      (call.failsTask = true → ∃ id old, call.target = some id ∧
        data.tasks.lookup id = some old ∧ old.task.status.isTerminal = false ∧
        old.task.isExpiredAt now.instant = false ∧ FailedInPlace now id old data final) := by
  cases call with
  | createTask | setTaskMeta | requireInput | applyInputResponses | setStatus =>
    refine ⟨fun _ => ?_, nofun⟩
    exact settle_error (fun _ => rfl) (Except.ok.inj hrun) herror
  | setTtl taskId ttlMs =>
    obtain ⟨_, rfl⟩ := Prod.mk.inj (Except.ok.inj hrun)
    cases herror
  | discardTask taskId =>
    obtain ⟨_, _, hpure⟩ := bind_eq_ok.1 hrun
    obtain ⟨_, rfl⟩ := Prod.mk.inj (pure_eq_ok.1 hpure)
    cases herror
  | cancelTask taskId reason =>
    obtain ⟨_, _, hpure⟩ := bind_eq_ok.1 hrun
    obtain ⟨_, rfl⟩ := Prod.mk.inj (pure_eq_ok.1 hpure)
    cases herror
  | retireExpired remove =>
    obtain ⟨_, _, hpure⟩ := bind_eq_ok.1 hrun
    obtain ⟨_, rfl⟩ := Prod.mk.inj (pure_eq_ok.1 hpure)
    cases herror
  | completeTask taskId result =>
    refine ⟨nofun, fun _ => ?_⟩
    obtain ⟨⟨other, outcome⟩, hcomplete, hpure⟩ := bind_eq_ok.1 hrun
    obtain ⟨rfl, rfl⟩ := Prod.mk.inj (pure_eq_ok.1 hpure)
    cases outcome with
    | ok value => cases herror
    | error error =>
      obtain ⟨old, hold⟩ := rejected_of_complete_task hcomplete
      exact ⟨taskId, old, rfl, hold⟩
  | failTask taskId failure =>
    refine ⟨nofun, fun _ => ?_⟩
    obtain ⟨⟨other, outcome⟩, hfail, hpure⟩ := bind_eq_ok.1 hrun
    obtain ⟨rfl, rfl⟩ := Prod.mk.inj (pure_eq_ok.1 hpure)
    cases outcome with
    | ok value => cases herror
    | error error =>
      obtain ⟨old, hold⟩ := rejected_of_fail_task hfail
      exact ⟨taskId, old, rfl, hold⟩

theorem sweeps_of_rejected {now : Moment} (hrun : store.perform now call data = .ok (final, reply))
    (herror : reply.isError = true) : sweeps now.instant call data = false := by
  cases call with
  | createTask | setTaskMeta | requireInput | applyInputResponses | setStatus | discardTask
  | retireExpired => rfl
  | setTtl taskId ttlMs =>
    obtain ⟨_, rfl⟩ := Prod.mk.inj (Except.ok.inj hrun)
    cases herror
  | cancelTask taskId reason =>
    obtain ⟨_, _, hpure⟩ := bind_eq_ok.1 hrun
    obtain ⟨_, rfl⟩ := Prod.mk.inj (pure_eq_ok.1 hpure)
    cases herror
  | completeTask taskId _ | failTask taskId _ =>
    obtain ⟨id, old, htarget, hlookup, hlive, hunexpired, _⟩ :=
      (rejected_of_perform hrun herror).2 rfl
    cases htarget
    simp only [sweeps, hlookup, Option.any_some, hlive, hunexpired, Bool.and_false]

theorem only_retired_of_retire_before {instant : Instant}
    (h : Accounted store.retentionLimits data)
    (hrun : store.retireBefore instant call data = .ok final) :
    OnlyRetired instant data final := by
  unfold retireBefore at hrun
  split at hrun
  next remove _ =>
    cases hretire : store.retireExpired instant remove data with
    | error panic =>
      rw [hretire] at hrun
      cases hrun
    | ok pair =>
      rw [hretire] at hrun
      cases hrun
      exact only_retired_of_retire_expired h hretire
  next =>
    cases hrun
    exact only_retired_refl _ _

theorem OnlyRetired.lookup_before {instant now : Instant} (h : OnlyRetired instant data final)
    (hle : instant ≤ now) {id : String} {old : StoredTask}
    (hlookup : final.tasks.lookup id = some old) (hunexpired : old.task.isExpiredAt now = false) :
    data.tasks.lookup id = some old := by
  obtain ⟨before, hbefore, rfl | rfl⟩ := h.retired id old hlookup
  · exact hbefore
  · cases hexpired : before.task.isExpiredAt instant with
    | false => rw [retire_record_of_unexpired hexpired, hbefore]
    | true =>
      have hretired : (retireRecord instant before).task.isExpiredAt now = true := by
        rw [is_expired_at_retire_record now before]
        exact Task.is_expired_at_mono hle hexpired
      rw [hretired] at hunexpired
      cases hunexpired

end Operate

namespace TaskStore

def narrowStore : MemoryTaskStore where
  config := { defaultTtlMillis := 300000 }
  retentionLimits :=
    { TaskRetentionLimits.default with
      maxPayloadBytes := 64
      maxPayloadBytes_le := tightStore.retentionLimits.maxPayloadBytes_le }

def besideEvents : List Event :=
  [⟨⟨0, "t0"⟩, .createTask ⟨0, "t0"⟩ "a" "report" .null none none⟩,
    ⟨⟨0, "t0"⟩, .createTask ⟨0, "t0"⟩ "b" "report" .null (some 1) none⟩]

def lateSections : Sections where
  retired := 1000000
  now := ⟨1000000, "t1"⟩
  swept := 1000000
  retired_le := by decide
  le_swept := by decide

def longFailure : StoreCall :=
  .failTask "a" { code := -32603, message := String.ofList (List.replicate 80 'x'), data := none }

def longMetadata : StoreCall :=
  .setTaskMeta "a" (.string (String.ofList (List.replicate 80 'x')))

end TaskStore

end TowerMcp
