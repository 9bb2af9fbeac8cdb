import TowerMcp.Task.Accounting
import TowerMcp.Task.Calls

/-!
# What a call can do to a record

`TaskChange` lists what a call can do to the task of a record that has not expired, and `KeyChange`
what it can do to what the map holds under one key. `Settled` says that a call on accounted data has
left accounted data and changed each key in one of these ways; the lemmas below establish it for the
ways an operation writes the map.
-/

namespace TowerMcp

open MemoryTaskStore

inductive TaskChange (store : MemoryTaskStore) (now : Moment) :
    StoreCall → Reply → Task → Task → Prop where
  | described (id : String) (metadata : Json) (task : Task) :
      TaskChange store now (.setTaskMeta id metadata) (.done (.ok true)) task
        { task with metadata := some metadata }
  | parked (id : String) (requests : InputRequests) (message : Option String) (task : Task)
      (live : task.status.isTerminal = false)
      (serializable : ∃ json, serialize requests = .ok json)
      (unused : task.reusedInputKeys requests = []) :
      TaskChange store now (.requireInput id requests message) (.done (.ok true)) task
        (task.awaitInput now requests message)
  | answered (id : String) (responses : InputResponses) (task : Task)
      (live : task.status.isTerminal = false) :
      TaskChange store now (.applyInputResponses id responses)
        (.applied (.ok (some (task.applyInputResponses now responses).2))) task
        (task.applyInputResponses now responses).1
  | progressed (id : String) (status : TaskStatus) (message : Option String) (task : Task)
      (live : task.status.isTerminal = false) (progress : status.isTerminal = false) :
      TaskChange store now (.setStatus id status message) (.done (.ok true)) task
        (task.setStatus now status message)
  | extended (id : String) (ttlMs : ℕ) (task : Task) :
      TaskChange store now (.setTtl id ttlMs) (.done (.ok true)) task
        { task with ttl := ttlMs, lastUpdatedAtStr := now.iso }
  | completed (id : String) (result : CallToolResult) (task : Task)
      (live : task.status.isTerminal = false) :
      TaskChange store now (.completeTask id result) (.done (.ok true)) task
        (task.complete now result).notifyWaiters
  | failed (id : String) (error : JsonRpcError) (task : Task)
      (live : task.status.isTerminal = false) :
      TaskChange store now (.failTask id error) (.done (.ok true)) task
        (task.fail now error).notifyWaiters
  | completionRejected (id : String) (result : CallToolResult) (error : TaskStoreError)
      (task : Task) (live : task.status.isTerminal = false) :
      TaskChange store now (.completeTask id result) (.done (.error error)) task
        (task.failRetentionLimit now).notifyWaiters
  | failureRejected (id : String) (failure : JsonRpcError) (error : TaskStoreError) (task : Task)
      (live : task.status.isTerminal = false) :
      TaskChange store now (.failTask id failure) (.done (.error error)) task
        (task.failRetentionLimit now).notifyWaiters
  | cancelled (id : String) (reason : Option String) (task final : Task)
      (live : task.status.isTerminal = false)
      (outcome : final = store.cancelledTask now task.raiseToken reason ∨
        final = (store.cancelledTask now task.raiseToken reason).cancelWithBoundedStatus now boundedCancellationStatus true) :
      TaskChange store now (.cancelTask id reason) (.object (some final.notifyWaiters.toTaskObject))
        task final.notifyWaiters
  | signalled (id : String) (reason : Option String) (task : Task)
      (terminal : task.status.isTerminal = true) :
      TaskChange store now (.cancelTask id reason)
        (.object (some task.raiseToken.toTaskObject)) task task.raiseToken

variable {store : MemoryTaskStore} {reply : Reply} {before after : Task}

variable {now : Moment} {id : String}

theorem parked_of_task_change {requests : InputRequests}
    {message : Option String}
    (h : TaskChange store now (.requireInput id requests message) reply before after) :
    before.status.isTerminal = false ∧ (∃ json, serialize requests = .ok json) ∧
      before.reusedInputKeys requests = [] ∧ after = before.awaitInput now requests message ∧
      reply = .done (.ok true) := by
  cases h with
  | parked _ _ _ _ live serializable unused => exact ⟨live, serializable, unused, rfl, rfl⟩

theorem answered_of_task_change {responses : InputResponses}
    (h : TaskChange store now (.applyInputResponses id responses) reply before after) :
    before.status.isTerminal = false ∧
      reply = .applied (.ok (some (before.applyInputResponses now responses).2)) ∧
      after = (before.applyInputResponses now responses).1 := by
  cases h with
  | answered _ _ _ live => exact ⟨live, rfl, rfl⟩

theorem progressed_of_task_change {status : TaskStatus}
    {message : Option String}
    (h : TaskChange store now (.setStatus id status message) reply before after) :
    reply = .done (.ok true) ∧ after = before.setStatus now status message := by
  cases h with
  | progressed _ _ _ _ _ _ => exact ⟨rfl, rfl⟩

/-- What a call can do to what the map holds under `key`. A call that names the key and leaves it
alone has a quiet reply. -/
inductive KeyChange (store : MemoryTaskStore) (now : Moment) (call : StoreCall) (reply : Reply)
    (key : String) : Option StoredTask → Option StoredTask → Prop where
  | absent (quiet : call.target = some key → reply.isQuiet = true) :
      KeyChange store now call reply key none none
  | kept (stored : StoredTask) (quiet : call.target = some key → reply.isQuiet = true) :
      KeyChange store now call reply key (some stored) (some stored)
  | admitted (created : Moment) (toolName : String) (arguments : Json) (ttl : Option ℕ)
      (ttlMs : ℕ) (owner : TaskOwner) (stored : StoredTask)
      (drawn : call = .createTask created key toolName arguments ttl owner)
      (task : stored.task = Task.new created key toolName arguments ttlMs owner)
      (unsignalled : stored.expirySignalled = false) :
      KeyChange store now call reply key none (some stored)
  | changed (old new : StoredTask) (named : call.target = some key)
      (unexpired : old.task.isExpiredAt now.instant = false)
      (unsignalled : old.expirySignalled = false ∧ new.expirySignalled = false)
      (task : TaskChange store now call reply old.task new.task) :
      KeyChange store now call reply key (some old) (some new)
  | retired (remove : Bool) (stored : StoredTask) (retirement : call = .retireExpired remove)
      (retiring : isRetiring now.instant stored = true) :
      KeyChange store now call reply key (some stored) (some (retiredRecord stored))
  | removed (stored : StoredTask)
      (gone : call = .discardTask key ∨
        call = .retireExpired true ∧ stored.task.isExpiredAt now.instant = true) :
      KeyChange store now call reply key (some stored) none

def SignalledExpired (now : Instant) (data : MemoryTaskStoreData) : Prop :=
  ∀ id stored, data.tasks.lookup id = some stored → stored.expirySignalled = true →
    stored.task.isExpiredAt now = true

structure Settled (store : MemoryTaskStore) (now : Moment) (call : StoreCall)
    (data final : MemoryTaskStoreData) (reply : Reply) : Prop where
  accounted : Accounted store.retentionLimits final
  changes : ∀ key, KeyChange store now call reply key (data.tasks.lookup key)
    (final.tasks.lookup key)

section Settled

variable {store : MemoryTaskStore} {now : Moment} {call : StoreCall}
  {data : MemoryTaskStoreData} {reply : Reply}

theorem changed_of_loud {key : String} {before after : Option StoredTask}
    (h : KeyChange store now call reply key before after) (htarget : call.target = some key)
    (hloud : reply.isQuiet = false) (hkeeps : call ≠ .discardTask key) :
    ∃ old new, before = some old ∧ after = some new ∧
      old.task.isExpiredAt now.instant = false ∧ old.expirySignalled = false ∧
      TaskChange store now call reply old.task new.task := by
  cases h with
  | absent quiet | kept _ quiet =>
    rw [quiet htarget] at hloud
    cases hloud
  | admitted _ _ _ _ _ _ _ drawn _ _ =>
    rw [drawn] at htarget
    cases htarget
  | changed old new _ unexpired unsignalled task =>
    exact ⟨old, new, rfl, rfl, unexpired, unsignalled.1, task⟩
  | retired _ _ retirement _ =>
    rw [retirement] at htarget
    cases htarget
  | removed _ gone =>
    rcases gone with hdiscard | ⟨hretire, _⟩
    · exact absurd hdiscard hkeeps
    · rw [hretire] at htarget
      cases htarget

theorem KeyChange.same {key : String} (held : Option StoredTask)
    (hquiet : call.target = some key → reply.isQuiet = true) :
    KeyChange store now call reply key held held := by
  cases held with
  | none => exact .absent hquiet
  | some stored => exact .kept stored hquiet

theorem Settled.unchanged (h : Accounted store.retentionLimits data)
    (hquiet : reply.isQuiet = true) : Settled store now call data data reply where
  accounted := h
  changes := fun key => .same (data.tasks.lookup key) fun _ => hquiet

variable {id : String}

theorem Settled.commit (h : Accounted store.retentionLimits data) {old new : StoredTask}
    {totals : ℕ × ℕ} (hlookup : data.tasks.lookup id = some old) (hnew : new.WellFormed)
    (hmoved : TotalsMoved data old.retainedBytes old.reservedBytes new.retainedBytes
      new.reservedBytes store.retentionLimits.maxRetainedBytes totals)
    (hchange : KeyChange store now call reply id (some old) (some new))
    (htarget : call.target = some id) :
    Settled store now call data (data.commit id new totals) reply := by
  refine ⟨h.commit hlookup hnew hmoved, ?_⟩
  intro key
  show KeyChange store now call reply key _ ((data.tasks.insert id new).lookup key)
  rw [FinMap.lookup_insert_eq_ite]
  split
  next hkey =>
    subst hkey
    rw [hlookup]
    exact hchange
  next hkey =>
    refine .same _ fun hother => ?_
    rw [htarget] at hother
    exact absurd (Option.some.inj hother).symm hkey

theorem Settled.insert (h : Accounted store.retentionLimits data) {old new : StoredTask}
    (hlookup : data.tasks.lookup id = some old) (hnew : new.WellFormed)
    (hretained : new.retainedBytes = old.retainedBytes)
    (hreserved : new.reservedBytes = old.reservedBytes)
    (hchange : KeyChange store now call reply id (some old) (some new))
    (htarget : call.target = some id) :
    Settled store now call data { data with tasks := data.tasks.insert id new } reply := by
  have hmoved : TotalsMoved data old.retainedBytes old.reservedBytes new.retainedBytes
      new.reservedBytes store.retentionLimits.maxRetainedBytes
      (data.retainedBytes, data.reservedBytes) := by
    refine ⟨?_, ?_, h.bounded⟩
    · rw [hretained]
    · rw [hreserved]
  exact Settled.commit h hlookup hnew hmoved hchange htarget

theorem Settled.put_back (h : Accounted store.retentionLimits data) {stored : StoredTask}
    (hlookup : data.tasks.lookup id = some stored) (hquiet : reply.isQuiet = true)
    (htarget : call.target = some id) :
    Settled store now call data (putBack (takeOut data id) id stored) reply := by
  have hfinal : putBack (takeOut data id) id stored =
      { data with tasks := data.tasks.insert id stored } := by
    simp [putBack, takeOut]
  rw [hfinal]
  exact Settled.insert h hlookup (h.wellFormed id stored hlookup) rfl rfl
    (.kept stored fun _ => hquiet) htarget

variable {current : StoredTask}

theorem readable_eq_some {now : Instant} :
    readable data now id = some current ↔
      data.tasks.lookup id = some current ∧ current.task.isExpiredAt now = false := by
  simp [readable, Option.filter_eq_some_iff]

theorem SignalledExpired.unsignalled {now : Instant} (hsignalled : SignalledExpired now data)
    (hlookup : data.tasks.lookup id = some current)
    (hunexpired : current.task.isExpiredAt now = false) : current.expirySignalled = false := by
  cases hflag : current.expirySignalled with
  | false => rfl
  | true =>
    have hexpired := hsignalled id current hlookup hflag
    rw [hunexpired] at hexpired
    cases hexpired

theorem Settled.replace (h : Accounted store.retentionLimits data)
    (hsignalled : SignalledExpired now.instant data) {task : Task} {final : MemoryTaskStoreData}
    {replaced : Bool} (hread : readable data now.instant id = some current)
    (hrun : (prepareStoredTask now task store.retentionLimits >>= fun replacement =>
      replaceStoredTask data id replacement store.retentionLimits.maxRetainedBytes) =
        .ok (final, replaced)) (hstatus : task.status.isTerminal = true → task.HasLongStatus)
    (hchange : TaskChange store now call reply current.task task) (htarget : call.target = some id)
    : replaced = true ∧ Settled store now call data final reply := by
  obtain ⟨hlookup, hunexpired⟩ := readable_eq_some.1 hread
  obtain ⟨replacement, hprepare, hreplace⟩ := Fallible.bind_eq_ok.1 hrun
  obtain ⟨rfl, hunsignalled, hnew⟩ := well_formed_of_prepare_stored_task hprepare hstatus
  unfold replaceStoredTask at hreplace
  rw [hlookup] at hreplace
  obtain ⟨totals, htotals, hreplace⟩ := Fallible.bind_eq_ok.1 hreplace
  obtain ⟨rfl, rfl⟩ := Prod.mk.inj (Fallible.pure_eq_ok.1 hreplace)
  refine ⟨rfl, Settled.commit h hlookup hnew (totals_moved_of_replacement_totals htotals) ?_
    htarget⟩
  exact .changed current replacement htarget hunexpired
    ⟨hsignalled.unsignalled hlookup hunexpired, hunsignalled⟩ hchange

end Settled

end TowerMcp
