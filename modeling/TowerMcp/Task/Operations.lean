import TowerMcp.Task.Changes

/-!
# Every call settles

Each operation of the store, on accounted data and with a freshly drawn identifier, returns without
a panic and settles. `perform_ok` says so once for all calls; the invariants of the store are derived
from it without going back to the operations.
-/

namespace TowerMcp

open MemoryTaskStore Fallible

section Operations

variable (store : MemoryTaskStore) (now : Moment) {data : MemoryTaskStoreData}

def Fresh (call : StoreCall) (data : MemoryTaskStoreData) : Prop :=
  ∀ id, call.drawnId = some id → data.tasks.lookup id = none

variable {id : String}

theorem long_status_of_readable (h : Accounted store.retentionLimits data)
    (hsignalled : SignalledExpired now.instant data) {current : StoredTask}
    (hread : readable data now.instant id = some current)
    (hterminal : current.task.status.isTerminal = true) : current.task.HasLongStatus := by
  obtain ⟨hlookup, hunexpired⟩ := readable_eq_some.1 hread
  exact (h.wellFormed id current hlookup).status
    (hsignalled.unsignalled hlookup hunexpired) hterminal

theorem set_task_meta_settled (h : Accounted store.retentionLimits data)
    (hsignalled : SignalledExpired now.instant data) (id : String) (metadata : Json) :
    Settled store now (.setTaskMeta id metadata) data
      (settle data .done (store.setTaskMeta now id metadata data)).1
      (settle data .done (store.setTaskMeta now id metadata data)).2 := by
  cases hrun : store.setTaskMeta now id metadata data with
  | error error => exact .unchanged h rfl
  | ok outcome =>
    obtain ⟨final, replaced⟩ := outcome
    unfold setTaskMeta at hrun
    cases hread : readable data now.instant id with
    | none =>
      rw [hread] at hrun
      cases hrun
      exact .unchanged h rfl
    | some current =>
      rw [hread] at hrun
      obtain ⟨_, _, hrun⟩ := bind_eq_ok.1 hrun
      have hstatus := long_status_of_readable store now h hsignalled hread
      obtain ⟨rfl, hsettled⟩ := Settled.replace h hsignalled hread hrun hstatus
        (.described id metadata current.task) rfl
      exact hsettled

theorem require_input_settled (h : Accounted store.retentionLimits data)
    (hsignalled : SignalledExpired now.instant data) (id : String) (requests : InputRequests)
    (message : Option String) :
    Settled store now (.requireInput id requests message) data
      (settle data .done (store.requireInput now id requests message data)).1
      (settle data .done (store.requireInput now id requests message data)).2 := by
  cases hrun : store.requireInput now id requests message data with
  | error error => exact .unchanged h rfl
  | ok outcome =>
    obtain ⟨final, replaced⟩ := outcome
    unfold requireInput at hrun
    cases hread : readable data now.instant id with
    | none =>
      rw [hread] at hrun
      cases hrun
      exact .unchanged h rfl
    | some current =>
      rw [hread] at hrun
      dsimp only at hrun
      split at hrun
      next =>
        cases hrun
        exact .unchanged h rfl
      next hlive =>
        obtain ⟨_, hvalid, hrun⟩ := bind_eq_ok.1 hrun
        obtain ⟨_, _, hrun⟩ := bind_eq_ok.1 hrun
        split at hrun
        next hunused =>
          have hstatus : (current.task.awaitInput now requests message).status.isTerminal =
              true → (current.task.awaitInput now requests message).HasLongStatus :=
            fun hterminal => absurd hterminal Bool.false_ne_true
          obtain ⟨rfl, hsettled⟩ := Settled.replace h hsignalled hread hrun hstatus
            (.parked id requests message current.task (by simpa using hlive)
              (serialize_of_encoded_size hvalid) (List.isEmpty_iff.1 hunused)) rfl
          exact hsettled
        next => cases hrun

theorem consume_responses_frame {α : Type} (read : Task → α)
    (hread : ∀ (task : Task) requests answered responses,
      read { task with
        inputRequests := requests
        answeredInputKeys := answered
        inputResponses := responses } = read task)
    (task : Task) (responses : InputResponses) :
    read (task.consumeResponses responses).1 = read task := by
  have hfold : ∀ (answers : List (String × InputResponse)) (state : Task × AppliedInputResponses),
      read (answers.foldl Task.applyInputResponse state).1 = read state.1 := by
    intro answers
    induction answers with
    | nil => exact fun _ => rfl
    | cons answer rest ih =>
      intro state
      rw [List.foldl_cons, ih]
      unfold Task.applyInputResponse
      dsimp only
      split
      next => exact hread _ _ _ _
      next => rfl
  exact hfold responses.sortedPairs (task, {})

theorem apply_input_responses_frame {α : Type} (read : Task → α)
    (hread : ∀ (task : Task) requests answered responses,
      read { task with
        inputRequests := requests
        answeredInputKeys := answered
        inputResponses := responses } = read task)
    (hnoted : ∀ (task : Task) status message updated,
      read { task with
        status := status
        statusMessage := message
        lastUpdatedAtStr := updated } = read task)
    (now : Moment) (task : Task) (responses : InputResponses) :
    read (task.applyInputResponses now responses).1 = read task := by
  have hafter : ∀ (applied : AppliedInputResponses) (consumed : Task),
      read (consumed.afterResponses now applied) = read consumed := by
    intro applied consumed
    unfold Task.afterResponses
    dsimp only
    split
    all_goals split
    all_goals exact hnoted consumed _ _ _
  exact (hafter _ _).trans (consume_responses_frame read hread task responses)

theorem status_consume_responses (task : Task) (responses : InputResponses) :
    (task.consumeResponses responses).1.status = task.status :=
  consume_responses_frame Task.status (fun _ _ _ _ => rfl) task responses

theorem is_terminal_after_responses {task : Task} (applied : AppliedInputResponses)
    (hlive : task.status.isTerminal = false) :
    (task.afterResponses now applied).status.isTerminal = false := by
  unfold Task.afterResponses
  dsimp only
  split
  all_goals split
  all_goals first | rfl | exact hlive

theorem apply_input_responses_settled (h : Accounted store.retentionLimits data)
    (hsignalled : SignalledExpired now.instant data) (id : String) (responses : InputResponses) :
    Settled store now (.applyInputResponses id responses) data
      (settle data .applied (store.applyInputResponses now id responses data)).1
      (settle data .applied (store.applyInputResponses now id responses data)).2 := by
  cases hrun : store.applyInputResponses now id responses data with
  | error error => exact .unchanged h rfl
  | ok outcome =>
    obtain ⟨final, result⟩ := outcome
    unfold applyInputResponses at hrun
    cases hread : readable data now.instant id with
    | none =>
      rw [hread] at hrun
      cases hrun
      exact .unchanged h rfl
    | some current =>
      rw [hread] at hrun
      dsimp only at hrun
      split at hrun
      next =>
        cases hrun
        exact .unchanged h rfl
      next hlive =>
        have hlive : current.task.status.isTerminal = false := by simpa using hlive
        obtain ⟨_, _, hrun⟩ := bind_eq_ok.1 hrun
        obtain ⟨replacement, hprepare, hrun⟩ := bind_eq_ok.1 hrun
        obtain ⟨⟨middle, replaced⟩, hreplace, hrun⟩ := bind_eq_ok.1 hrun
        obtain ⟨rfl, rfl⟩ := Prod.mk.inj (pure_eq_ok.1 hrun)
        have hafter : (current.task.applyInputResponses now responses).1.status.isTerminal =
            false := by
          apply is_terminal_after_responses
          show (current.task.consumeResponses responses).1.status.isTerminal = false
          rw [status_consume_responses]
          exact hlive
        have hstatus : (current.task.applyInputResponses now responses).1.status.isTerminal =
            true → (current.task.applyInputResponses now responses).1.HasLongStatus := by
          intro hterminal
          rw [hafter] at hterminal
          cases hterminal
        obtain ⟨rfl, hsettled⟩ := Settled.replace h hsignalled hread
          (bind_eq_ok.2 ⟨replacement, hprepare, hreplace⟩) hstatus
          (.answered id responses current.task hlive) rfl
        exact hsettled

theorem set_status_settled (h : Accounted store.retentionLimits data)
    (hsignalled : SignalledExpired now.instant data) (id : String) (status : TaskStatus)
    (message : Option String) :
    Settled store now (.setStatus id status message) data
      (settle data .done (store.setStatus now id status message data)).1
      (settle data .done (store.setStatus now id status message data)).2 := by
  cases hrun : store.setStatus now id status message data with
  | error error => exact .unchanged h rfl
  | ok outcome =>
    obtain ⟨final, replaced⟩ := outcome
    unfold setStatus at hrun
    split at hrun
    next => cases hrun
    next hprogress =>
      have hprogress : status.isTerminal = false := by simpa using hprogress
      cases hread : readable data now.instant id with
      | none =>
        rw [hread] at hrun
        cases hrun
        exact .unchanged h rfl
      | some current =>
        rw [hread] at hrun
        dsimp only at hrun
        split at hrun
        next =>
          cases hrun
          exact .unchanged h rfl
        next hlive =>
          obtain ⟨_, _, hrun⟩ := bind_eq_ok.1 hrun
          have hstatus : (current.task.setStatus now status message).status.isTerminal =
              true → (current.task.setStatus now status message).HasLongStatus := by
            intro hterminal
            change status.isTerminal = true at hterminal
            rw [hprogress] at hterminal
            cases hterminal
          obtain ⟨rfl, hsettled⟩ := Settled.replace h hsignalled hread hrun hstatus
            (.progressed id status message current.task (by simpa using hlive) hprogress) rfl
          exact hsettled

theorem set_ttl_settled (h : Accounted store.retentionLimits data)
    (hsignalled : SignalledExpired now.instant data) (id : String) (ttlMs : ℕ) :
    Settled store now (.setTtl id ttlMs) data (setTtl now id ttlMs data).1
      (.done (.ok (setTtl now id ttlMs data).2)) := by
  unfold setTtl
  cases hlookup : data.tasks.lookup id with
  | none => exact .unchanged h rfl
  | some stored =>
    dsimp only
    split
    next => exact .unchanged h rfl
    next hunexpired =>
      have hunexpired : stored.task.isExpiredAt now.instant = false := by
        simpa using hunexpired
      have hunsignalled := hsignalled.unsignalled hlookup hunexpired
      have hold := h.wellFormed id stored hlookup
      -- the payload does not mention the deadline, so the charges stand
      have hnew : StoredTask.WellFormed { stored with
          task := { stored.task with ttl := ttlMs, lastUpdatedAtStr := now.iso } } :=
        ⟨hold.serializable, hold.retained, hold.reserved, hold.status⟩
      exact Settled.insert h hlookup hnew rfl rfl (.changed stored _ rfl hunexpired
        ⟨hunsignalled, hunsignalled⟩ (.extended id ttlMs stored.task)) rfl

theorem discard_task_settled (h : Accounted store.retentionLimits data) (id : String) :
    ∃ final found, discardTask id data = .ok (final, found) ∧
      Settled store now (.discardTask id) data final (.done (.ok found)) := by
  unfold discardTask
  cases hlookup : data.tasks.lookup id with
  | none => exact ⟨data, false, rfl, .unchanged h rfl⟩
  | some removed =>
    obtain ⟨hretained, hreserved⟩ := h.charges_le hlookup
    refine ⟨_, true, by simp [checkedSub, expectSome, hretained, hreserved, pure, Except.pure]; rfl,
      ⟨?_, ?_⟩⟩
    · exact h.erase hlookup
    · intro key
      show KeyChange store now _ _ key _ ((data.tasks.erase id).lookup key)
      rw [FinMap.lookup_erase_eq_ite]
      split
      next hkey =>
        subst hkey
        rw [hlookup]
        exact .removed removed (.inl rfl)
      next hkey =>
        refine .same _ fun hother => ?_
        exact absurd (Option.some.inj hother).symm hkey

theorem commit_take_out (id : String) (stored : StoredTask) (totals : ℕ × ℕ) :
    (takeOut data id).commit id stored totals = data.commit id stored totals := by
  simp [MemoryTaskStoreData.commit, takeOut]

section Terminal

variable {store now} {call : StoreCall} {id : String} {old stored : StoredTask}

theorem fail_with_settled (h : Accounted store.retentionLimits data)
    (hlookup : data.tasks.lookup id = some old)
    (hunexpired : old.task.isExpiredAt now.instant = false)
    (hunsignalled : old.expirySignalled = false) (hlive : old.task.status.isTerminal = false)
    (hsame : stored.expirySignalled = old.expirySignalled ∧
      stored.task.failRetentionLimit now = old.task.failRetentionLimit now)
    (error : TaskStoreError)
    (hchange : TaskChange store now call (.done (.error error)) old.task
      (old.task.failRetentionLimit now).notifyWaiters)
    (htarget : call.target = some id) :
    ∃ final, store.failWith now id stored old.retainedBytes old.reservedBytes error
        (takeOut data id) = .ok (final, .error error) ∧
      Settled store now call data final (.done (.error error)) := by
  obtain ⟨hsignal, hfail⟩ := hsame
  have hfallback := (h.wellFormed id old hlookup).fallback_size_le hunsignalled hlive
  have hlimit := le_trans hfallback (h.charge_le hlookup)
  have hprice : retainedPayloadSize (old.task.failRetentionLimit now)
      store.retentionLimits.maxRetainedBytes = .ok old.task.fallbackSize :=
    Task.retained_payload_size_eq_ok.2
      ⟨Task.serializable_fail_retention_limit now old.task, rfl, hlimit,
        le_trans hlimit store.retentionLimits.maxRetainedBytes_le⟩
  obtain ⟨totals, htotals⟩ :=
    h.replacement_totals_ok hlookup old.task.fallbackSize 0 hfallback
  have htaken : replacementTotals (takeOut data id) old.retainedBytes old.reservedBytes
      old.task.fallbackSize 0 store.retentionLimits.maxRetainedBytes = .ok totals := htotals
  have hnew : StoredTask.WellFormed { stored with
      task := (old.task.failRetentionLimit now).notifyWaiters
      retainedBytes := old.task.fallbackSize
      reservedBytes := 0 } := by
    refine ⟨Task.serializable_fail_retention_limit now old.task, rfl, ?_, ?_⟩
    · show 0 = if stored.expirySignalled || true then 0 else _
      rw [Bool.or_true, if_pos rfl]
    · exact fun _ _ => ⟨retentionFailureStatus, rfl, by decide⟩
  refine ⟨_, ?_, Settled.commit h hlookup hnew (totals_moved_of_replacement_totals htotals)
    (.changed old _ htarget hunexpired ⟨hunsignalled, hsignal.trans hunsignalled⟩ hchange)
    htarget⟩
  unfold failWith commitRetentionFailure commitRemovedTask
  dsimp only
  rw [hfail, hprice]
  simp only [expect, ok_bind, htaken, pure, Except.pure, commit_take_out]

theorem finish_task_settled (h : Accounted store.retentionLimits data)
    (hlookup : data.tasks.lookup id = some old)
    (hunexpired : old.task.isExpiredAt now.instant = false)
    (hunsignalled : old.expirySignalled = false) (hlive : old.task.status.isTerminal = false)
    (hsame : stored.expirySignalled = old.expirySignalled ∧
      stored.task.failRetentionLimit now = old.task.failRetentionLimit now)
    (hterminal : stored.task.status.isTerminal = true) (hstatus : stored.task.HasLongStatus)
    (hdone : TaskChange store now call (.done (.ok true)) old.task stored.task.notifyWaiters)
    (hrejected : ∀ error, TaskChange store now call (.done (.error error)) old.task
      (old.task.failRetentionLimit now).notifyWaiters)
    (htarget : call.target = some id) :
    ∃ final result, store.finishTask now id stored old.retainedBytes old.reservedBytes
        (takeOut data id) = .ok (final, result) ∧
      Settled store now call data final (.done result) := by
  have hfallback := fun error => fail_with_settled h hlookup hunexpired hunsignalled hlive hsame
    error (hrejected error) htarget
  unfold finishTask
  dsimp only
  cases hprice : retainedPayloadSize stored.task store.retentionLimits.maxRetainedBytes with
  | error error =>
    obtain ⟨final, hfinal⟩ := hfallback error
    exact ⟨final, _, hfinal⟩
  | ok bytes =>
    dsimp only
    cases htotals : replacementTotals (takeOut data id) old.retainedBytes old.reservedBytes
        bytes 0 store.retentionLimits.maxRetainedBytes with
    | error error =>
      -- the failure replaces every field that pricing has touched
      obtain ⟨final, hfinal⟩ := hfallback error
      exact ⟨final, _, hfinal⟩
    | ok totals =>
      obtain ⟨hserializable, hsize, _⟩ := Task.retained_payload_size_eq_ok.1 hprice
      have hnew : StoredTask.WellFormed { stored with
          task := stored.task.notifyWaiters
          retainedBytes := bytes
          reservedBytes := 0 } := by
        refine ⟨hserializable, hsize.symm, ?_, fun _ _ => hstatus⟩
        show 0 = if stored.expirySignalled || stored.task.status.isTerminal then 0 else _
        rw [hterminal, Bool.or_true, if_pos rfl]
      have htotals : replacementTotals data old.retainedBytes old.reservedBytes bytes 0
          store.retentionLimits.maxRetainedBytes = .ok totals := htotals
      have hmoved := totals_moved_of_replacement_totals htotals
      refine ⟨_, _, rfl, ?_⟩
      rw [commit_take_out]
      exact Settled.commit h hlookup hnew hmoved
        (.changed old _ htarget hunexpired ⟨hunsignalled, hsame.1.trans hunsignalled⟩ hdone)
        htarget

theorem finish_live_settled (h : Accounted store.retentionLimits data)
    (hsignalled : SignalledExpired now.instant data) (checked : Except TaskStoreError ℕ)
    {finish : Task → Task} (hterminal : ∀ task, (finish task).status.isTerminal = true)
    (hstatus : ∀ task, (finish task).HasLongStatus)
    (hfail : ∀ task, (finish task).failRetentionLimit now = task.failRetentionLimit now)
    (hdone : ∀ task, task.status.isTerminal = false →
      TaskChange store now call (.done (.ok true)) task (finish task).notifyWaiters)
    (hrejected : ∀ error task, task.status.isTerminal = false →
      TaskChange store now call (.done (.error error)) task
        (task.failRetentionLimit now).notifyWaiters)
    (htarget : call.target = some id) :
    ∃ final reply, store.finishLive now id checked finish data = .ok (final, reply) ∧
      Settled store now call data final (.done reply) := by
  unfold finishLive
  cases hlookup : data.tasks.lookup id with
  | none => exact ⟨data, _, rfl, .unchanged h rfl⟩
  | some stored =>
    dsimp only
    split
    next => exact ⟨_, _, rfl, .put_back h hlookup rfl htarget⟩
    next hopen =>
      obtain ⟨hlive, hunexpired⟩ : stored.task.status.isTerminal = false ∧
          stored.task.isExpiredAt now.instant = false := by simpa using hopen
      have hunsignalled := hsignalled.unsignalled hlookup hunexpired
      have hrejected := fun error => hrejected error stored.task hlive
      split
      next error =>
        obtain ⟨final, hfinal⟩ := fail_with_settled h hlookup hunexpired hunsignalled hlive
          (And.intro (Eq.refl stored.expirySignalled) rfl) error (hrejected error) htarget
        exact ⟨final, _, hfinal⟩
      next =>
        exact finish_task_settled h hlookup hunexpired hunsignalled hlive
          ⟨rfl, hfail stored.task⟩ (hterminal stored.task) (hstatus stored.task)
          (hdone stored.task hlive) hrejected htarget

end Terminal

theorem complete_task_settled (h : Accounted store.retentionLimits data)
    (hsignalled : SignalledExpired now.instant data) (id : String) (result : CallToolResult) :
    ∃ final reply, store.completeTask now id result data = .ok (final, reply) ∧
      Settled store now (.completeTask id result) data final (.done reply) := by
  rw [complete_task_eq]
  exact finish_live_settled h hsignalled _ (fun _ => rfl)
    (fun _ => ⟨"Task completed", rfl, by decide⟩) (fun _ => rfl) (.completed id result)
    (.completionRejected id result) rfl

theorem fail_task_settled (h : Accounted store.retentionLimits data)
    (hsignalled : SignalledExpired now.instant data) (id : String) (error : JsonRpcError) :
    ∃ final reply, store.failTask now id error data = .ok (final, reply) ∧
      Settled store now (.failTask id error) data final (.done reply) := by
  rw [fail_task_eq]
  refine finish_live_settled h hsignalled _ (fun _ => rfl) (fun _ => ⟨_, rfl, ?_⟩) (fun _ => rfl)
    (.failed id error) (.failureRejected id error) rfl
  rw [Json.escaped_length_append]
  have hlabel : Json.escapedLength "Task failed: " = 13 := by decide
  omega

theorem cancelled_task_cases (task : Task) (reason : Option String) :
    (∃ message, 11 ≤ Json.escapedLength message ∧
      store.cancelledTask now task reason =
        { task with
          inputRequests := ∅
          status := .cancelled
          statusMessage := some message
          completedAt := some now.instant
          lastUpdatedAtStr := now.iso }) ∨
      store.cancelledTask now task reason =
        task.cancelWithBoundedStatus now boundedCancellationStatus true := by
  unfold cancelledTask
  split
  next =>
    left
    cases reason with
    | none => exact ⟨"Task cancelled", by decide, rfl⟩
    | some reason =>
      refine ⟨"Cancelled: " ++ reason, ?_, rfl⟩
      rw [Json.escaped_length_append]
      have hlabel : Json.escapedLength "Cancelled: " = 11 := by decide
      omega
  next => exact .inr rfl

theorem cancelled_task_facts (task : Task) (reason : Option String) :
    (store.cancelledTask now task reason).status = .cancelled ∧
      (store.cancelledTask now task reason).toolName = task.toolName ∧
      (store.cancelledTask now task reason).owner = task.owner ∧
      (store.cancelledTask now task reason).HasLongStatus := by
  rcases cancelled_task_cases store now task reason with ⟨message, hlength, heq⟩ | heq
  · rw [heq]
    exact ⟨rfl, rfl, rfl, message, rfl, hlength⟩
  · rw [heq]
    exact ⟨rfl, rfl, rfl, boundedCancellationStatus, rfl, by decide⟩

theorem price_cancellation_ok (h : Accounted store.retentionLimits data) {old : StoredTask}
    {task : Task} (hlookup : data.tasks.lookup id = some old)
    (hfallback : task.fallbackSize ≤ old.retainedBytes + old.reservedBytes) :
    ∃ final bytes totals, store.priceCancellation now task old.retainedBytes old.reservedBytes
        (takeOut data id) = .ok (final, bytes, totals) ∧
      (final = task ∨ final = task.cancelWithBoundedStatus now boundedCancellationStatus true) ∧
      final.Serializable ∧ bytes = final.payloadSize ∧
      TotalsMoved data old.retainedBytes old.reservedBytes bytes 0
        store.retentionLimits.maxRetainedBytes totals := by
  unfold priceCancellation
  dsimp only
  split
  next totals hcandidate =>
    obtain ⟨bytes, hprice, hcandidate⟩ := bind_eq_ok.1 hcandidate
    obtain ⟨moved, htotals, hcandidate⟩ := bind_eq_ok.1 hcandidate
    obtain rfl := pure_eq_ok.1 hcandidate
    obtain ⟨hserializable, hsize, _⟩ := Task.retained_payload_size_eq_ok.1 hprice
    have htotals : replacementTotals data old.retainedBytes old.reservedBytes bytes 0
        store.retentionLimits.maxRetainedBytes = .ok moved := htotals
    exact ⟨task, bytes, moved, rfl, .inl rfl, hserializable, hsize.symm,
      totals_moved_of_replacement_totals htotals⟩
  next =>
    have hbounded := le_trans (task.payload_size_bounded_cancellation_le now) hfallback
    have hlimit := le_trans hbounded (h.charge_le hlookup)
    have hprice := Task.retained_payload_size_eq_ok.2
      ⟨task.serializable_bounded_cancellation now boundedCancellationStatus, rfl, hlimit,
        le_trans hlimit store.retentionLimits.maxRetainedBytes_le⟩
    obtain ⟨totals, htotals⟩ := h.replacement_totals_ok hlookup
      (task.cancelWithBoundedStatus now boundedCancellationStatus true).payloadSize 0 hbounded
    have htaken : replacementTotals (takeOut data id) old.retainedBytes old.reservedBytes
        (task.cancelWithBoundedStatus now boundedCancellationStatus true).payloadSize 0
        store.retentionLimits.maxRetainedBytes = .ok totals := htotals
    refine ⟨_, _, totals, ?_, .inr rfl,
      task.serializable_bounded_cancellation now boundedCancellationStatus, rfl,
      totals_moved_of_replacement_totals htotals⟩
    rw [hprice]
    simp only [expect, ok_bind, htaken, pure, Except.pure]

theorem cancel_task_settled (h : Accounted store.retentionLimits data)
    (hsignalled : SignalledExpired now.instant data) (id : String) (reason : Option String) :
    ∃ final object, store.cancelTask now id reason data = .ok (final, object) ∧
      Settled store now (.cancelTask id reason) data final (.object object) := by
  unfold cancelTask
  cases hlookup : data.tasks.lookup id with
  | none => exact ⟨data, none, rfl, .unchanged h rfl⟩
  | some stored =>
    dsimp only
    split
    next => exact ⟨_, _, rfl, .put_back h hlookup rfl rfl⟩
    next hunexpired =>
      have hunexpired : stored.task.isExpiredAt now.instant = false := by
        simpa using hunexpired
      have hunsignalled := hsignalled.unsignalled hlookup hunexpired
      have hold := h.wellFormed id stored hlookup
      split
      next hterminal =>
        -- only the token of a terminal task changes, and it is not part of the payload
        have hnew : StoredTask.WellFormed { stored with task := stored.task.raiseToken } :=
          ⟨hold.serializable, hold.retained, hold.reserved, hold.status⟩
        refine ⟨_, _, rfl, ?_⟩
        have hfinal : ∀ raised : StoredTask, putBack (takeOut data id) id raised =
            { data with tasks := data.tasks.insert id raised } := by
          intro raised
          simp [putBack, takeOut]
        rw [hfinal]
        exact Settled.insert h hlookup hnew rfl rfl (.changed stored _ rfl hunexpired
          ⟨hunsignalled, hunsignalled⟩ (.signalled id reason stored.task hterminal)) rfl
      next hlive =>
        have hlive : stored.task.status.isTerminal = false := Bool.eq_false_of_not_eq_true hlive
        obtain ⟨hcancelled, hname, howner, hlong⟩ := cancelled_task_facts store now
          stored.task.raiseToken reason
        have hfallback := le_of_eq_of_le (Task.fallback_size_congr hname howner)
          (hold.fallback_size_le hunsignalled hlive)
        obtain ⟨final, bytes, totals, hprice, houtcome, hserializable, hsize, hmoved⟩ :=
          price_cancellation_ok store now h hlookup hfallback
        have hfinal : final.status = .cancelled ∧ final.HasLongStatus := by
          rcases houtcome with rfl | rfl
          · exact ⟨hcancelled, hlong⟩
          · exact ⟨rfl, boundedCancellationStatus, rfl, by decide⟩
        have hnew : StoredTask.WellFormed { stored with
            task := final.notifyWaiters
            retainedBytes := bytes
            reservedBytes := 0 } := by
          refine ⟨hserializable, hsize, ?_, fun _ _ => hfinal.2⟩
          show 0 = if stored.expirySignalled || final.status.isTerminal then 0 else _
          rw [hfinal.1]
          simp [TaskStatus.isTerminal]
        rw [hprice]
        refine ⟨_, _, rfl, ?_⟩
        rw [commit_take_out]
        exact Settled.commit h hlookup hnew hmoved (.changed stored _ rfl hunexpired
          ⟨hunsignalled, hunsignalled⟩ (.cancelled id reason stored.task final hlive houtcome))
          rfl

theorem admit_task_eq_ok {stored : StoredTask} {final : MemoryTaskStoreData}
    (hadmitted : store.admitTask id stored data = .ok final) :
    final = data.commit id stored (data.retainedBytes + stored.retainedBytes,
        data.reservedBytes + stored.reservedBytes) ∧
      FinMap.count data.tasks < store.retentionLimits.maxTasks ∧
      data.retainedBytes + stored.retainedBytes + (data.reservedBytes + stored.reservedBytes) ≤
        store.retentionLimits.maxRetainedBytes := by
  unfold admitTask checkedAdd at hadmitted
  dsimp only at hadmitted
  split at hadmitted
  next => cases hadmitted
  next hcount =>
    split at hadmitted
    next => cases hadmitted
    next retainedBytes hretained =>
      split at hadmitted
      next => cases hadmitted
      next reservedBytes hreserved =>
        obtain ⟨_, hcharged, hadmitted⟩ := bind_eq_ok.1 hadmitted
        obtain rfl := pure_eq_ok.1 hadmitted
        have hfits := le_of_charged_bytes hcharged
        rw [Option.ite_none_right_eq_some] at hretained hreserved
        obtain ⟨_, hretained⟩ := hretained
        obtain ⟨_, hreserved⟩ := hreserved
        cases hretained
        cases hreserved
        exact ⟨rfl, by omega, hfits⟩

theorem create_task_settled (h : Accounted store.retentionLimits data) (created : Moment)
    (id toolName : String) (arguments : Json) (ttl : Option ℕ) (owner : TaskOwner)
    (hfresh : data.tasks.lookup id = none) :
    Settled store now (.createTask created id toolName arguments ttl owner) data
      (settle data .created (store.createTask created id toolName arguments ttl owner data)).1
      (settle data .created
        (store.createTask created id toolName arguments ttl owner data)).2 := by
  cases hrun : store.createTask created id toolName arguments ttl owner data with
  | error error => exact .unchanged h rfl
  | ok outcome =>
    obtain ⟨stored, hstored, hrun⟩ := bind_eq_ok.1 hrun
    obtain ⟨final, hadmitted, hrun⟩ := bind_eq_ok.1 hrun
    obtain rfl := pure_eq_ok.1 hrun
    obtain ⟨_, _, hstored⟩ := bind_eq_ok.1 hstored
    obtain ⟨_, _, hstored⟩ := bind_eq_ok.1 hstored
    obtain ⟨_, _, hstored⟩ := bind_eq_ok.1 hstored
    obtain ⟨htask, hunsignalled, hnew⟩ := well_formed_of_prepare_stored_task hstored
      fun hterminal => absurd hterminal Bool.false_ne_true
    obtain ⟨rfl, hcount, hfits⟩ := admit_task_eq_ok store hadmitted
    refine ⟨h.admitted hfresh hnew hcount hfits, ?_⟩
    intro key
    show KeyChange store now _ _ key _ ((data.tasks.insert id stored).lookup key)
    rw [FinMap.lookup_insert_eq_ite]
    split
    next hkey =>
      subst hkey
      rw [hfresh]
      exact .admitted created toolName arguments ttl _ owner stored rfl htask hunsignalled
    next => exact .same _ fun hother => by cases hother

theorem retire_expired_settled (h : Accounted store.retentionLimits data) (remove : Bool) :
    ∃ final retirement, store.retireExpired now.instant remove data = .ok (final, retirement) ∧
      Settled store now (.retireExpired remove) data final (.retired retirement) := by
  obtain ⟨retirement, final, hrun, htasks, hfinal⟩ :=
    retire_expired_ok store now.instant h remove
  refine ⟨final, retirement, hrun, hfinal, ?_⟩
  intro key
  rw [htasks]
  have hrecord : ∀ stored, data.tasks.lookup key = some stored →
      RecordRetired now.instant stored := by
    intro stored hlookup
    exact record_retired (h.wellFormed key stored hlookup)
      (le_trans (h.charge_le hlookup) store.retentionLimits.maxRetainedBytes_le)
  have hvisited : ∀ stored, data.tasks.lookup key = some stored →
      KeyChange store now (.retireExpired remove) (.retired retirement) key (some stored)
        (some (retireRecord now.instant stored)) := by
    intro stored hlookup
    rw [(hrecord stored hlookup).record]
    split
    next hretiring => exact .retired remove stored rfl hretiring
    next => exact .kept stored fun hother => by cases hother
  unfold retiredTasks
  dsimp only
  cases hlookup : data.tasks.lookup key with
  | none =>
    have hnone : ∀ removing : Bool, (if removing then (data.tasks.mapValues
        (retireRecord now.instant)).retain fun stored => !stored.task.isExpiredAt now.instant
        else data.tasks.mapValues (retireRecord now.instant)).lookup key = none := by
      intro removing
      cases removing <;> simp [FinMap.lookup_retain, hlookup]
    rw [hnone remove]
    exact .absent fun hother => by cases hother
  | some stored =>
    cases remove with
    | false =>
      rw [if_neg Bool.false_ne_true, FinMap.lookup_map_values, hlookup]
      exact hvisited stored hlookup
    | true =>
      rw [if_pos rfl, FinMap.lookup_retain, FinMap.lookup_map_values, hlookup, Option.map_some]
      -- a retirement does not move the deadline, so what it signals it also removes
      have hdeadline : (retireRecord now.instant stored).task.isExpiredAt now.instant =
          stored.task.isExpiredAt now.instant := by
        rw [(hrecord stored hlookup).record]
        split
        · exact is_expired_at_retired_record now.instant stored
        · rfl
      cases hexpired : stored.task.isExpiredAt now.instant with
      | true =>
        simp only [Option.filter, hdeadline, hexpired]
        exact .removed stored (.inr ⟨rfl, hexpired⟩)
      | false =>
        simp only [Option.filter, hdeadline, hexpired]
        exact hvisited stored hlookup

theorem signalled_of_retire_expired (h : Accounted store.retentionLimits data) {remove : Bool}
    {final : MemoryTaskStoreData} {retirement : Retirement} {stored : StoredTask}
    (hrun : store.retireExpired now.instant remove data = .ok (final, retirement))
    (hlookup : final.tasks.lookup id = some stored)
    (hexpired : stored.task.isExpiredAt now.instant = true) : stored.expirySignalled = true := by
  obtain ⟨_, other, hother, htasks, _⟩ := retire_expired_ok store now.instant h remove
  obtain ⟨rfl, _⟩ := Prod.mk.inj (Except.ok.inj (hrun.symm.trans hother))
  rw [htasks, lookup_retired_tasks, Option.filter_eq_some_iff] at hlookup
  obtain ⟨old, hold, rfl⟩ := Option.map_eq_some_iff.1 hlookup.1
  have hretired : RecordRetired now.instant old := record_retired (h.wellFormed id old hold)
    (le_trans (h.charge_le hold) store.retentionLimits.maxRetainedBytes_le)
  rw [hretired.record] at hexpired ⊢
  split at hexpired
  next hretiring =>
    rw [if_pos hretiring]
    exact expiry_signalled_retired_record old
  next hretiring =>
    rw [if_neg hretiring]
    cases hsignalled : old.expirySignalled with
    | true => rfl
    | false => exact absurd (is_retiring_iff.2 ⟨hexpired, hsignalled⟩) hretiring

theorem perform_ok (call : StoreCall) (h : Accounted store.retentionLimits data)
    (hsignalled : SignalledExpired now.instant data) (hfresh : Fresh call data) :
    ∃ final reply, store.perform now call data = .ok (final, reply) ∧
      Settled store now call data final reply := by
  cases call with
  | createTask created id toolName arguments ttl owner =>
    exact ⟨_, _, rfl, create_task_settled store now h created id toolName arguments ttl owner
      (hfresh id rfl)⟩
  | setTaskMeta id metadata =>
    exact ⟨_, _, rfl, set_task_meta_settled store now h hsignalled id metadata⟩
  | discardTask id =>
    obtain ⟨final, found, hrun, hsettled⟩ := discard_task_settled store now h id
    refine ⟨final, _, ?_, hsettled⟩
    rw [perform, hrun]
    rfl
  | requireInput id requests message =>
    exact ⟨_, _, rfl, require_input_settled store now h hsignalled id requests message⟩
  | applyInputResponses id responses =>
    exact ⟨_, _, rfl, apply_input_responses_settled store now h hsignalled id responses⟩
  | setStatus id status message =>
    exact ⟨_, _, rfl, set_status_settled store now h hsignalled id status message⟩
  | setTtl id ttlMs => exact ⟨_, _, rfl, set_ttl_settled store now h hsignalled id ttlMs⟩
  | completeTask id result =>
    obtain ⟨final, reply, hrun, hsettled⟩ := complete_task_settled store now h hsignalled id result
    refine ⟨final, _, ?_, hsettled⟩
    rw [perform, hrun]
    rfl
  | failTask id error =>
    obtain ⟨final, reply, hrun, hsettled⟩ := fail_task_settled store now h hsignalled id error
    refine ⟨final, _, ?_, hsettled⟩
    rw [perform, hrun]
    rfl
  | cancelTask id reason =>
    obtain ⟨final, object, hrun, hsettled⟩ := cancel_task_settled store now h hsignalled id reason
    refine ⟨final, _, ?_, hsettled⟩
    rw [perform, hrun]
    rfl
  | retireExpired remove =>
    obtain ⟨final, retirement, hrun, hsettled⟩ := retire_expired_settled store now h remove
    refine ⟨final, _, ?_, hsettled⟩
    rw [perform, hrun]
    rfl

end Operations

/-! ## What no call changes -/

structure Task.SameOrigin (before after : Task) : Prop where
  id : after.id = before.id
  owner : after.owner = before.owner
  createdAt : after.createdAt = before.createdAt

section Origin

variable {store : MemoryTaskStore} {now : Moment} {call : StoreCall} {reply : Reply}
  {before after : Task}

theorem cancelled_frame {α : Type} (read : Task → α)
    (hread : ∀ (task : Task) message, read { task with
      inputRequests := ∅
      status := .cancelled
      statusMessage := some message
      completedAt := some now.instant
      lastUpdatedAtStr := now.iso } = read task)
    (hbounded : ∀ (task : Task),
      read (task.cancelWithBoundedStatus now boundedCancellationStatus true) = read task)
    {task final : Task} {reason : Option String}
    (houtcome : final = store.cancelledTask now task reason ∨
      final = (store.cancelledTask now task reason).cancelWithBoundedStatus now
        boundedCancellationStatus true) : read final = read task := by
  have hrequested : read (store.cancelledTask now task reason) = read task := by
    rcases cancelled_task_cases store now task reason with ⟨message, _, heq⟩ | heq
    · rw [heq]
      exact hread task message
    · rw [heq]
      exact hbounded task
  rcases houtcome with rfl | rfl
  · exact hrequested
  · exact (hbounded _).trans hrequested

theorem same_origin_of_task_change (h : TaskChange store now call reply before after) :
    before.SameOrigin after := by
  cases h with
  | described _ _ _ | extended _ _ _ | signalled _ _ _ _ | parked _ _ _ _ _ _ _
  | progressed _ _ _ _ _ _ | completed _ _ _ _ | failed _ _ _ _ | completionRejected _ _ _ _ _
  | failureRejected _ _ _ _ _ => exact ⟨rfl, rfl, rfl⟩
  | answered _ responses _ _ =>
    have hframe := apply_input_responses_frame (fun task => (task.id, task.owner, task.createdAt))
      (fun _ _ _ _ => rfl) (fun _ _ _ _ => rfl) now before responses
    obtain ⟨hid, hrest⟩ := Prod.mk.inj hframe
    obtain ⟨howner, hcreated⟩ := Prod.mk.inj hrest
    exact ⟨hid, howner, hcreated⟩
  | cancelled _ reason _ final _ outcome =>
    have hframe := cancelled_frame (fun task => (task.id, task.owner, task.createdAt))
      (fun _ _ => rfl) (fun _ => rfl) outcome
    obtain ⟨hid, hrest⟩ := Prod.mk.inj hframe
    obtain ⟨howner, hcreated⟩ := Prod.mk.inj hrest
    exact ⟨hid, howner, hcreated⟩

theorem ttl_of_task_change (h : TaskChange store now call reply before after) :
    (∃ id ttlMs, call = .setTtl id ttlMs ∧ reply = .done (.ok true)) ∨ after.ttl = before.ttl := by
  cases h with
  | extended id ttlMs _ => exact .inl ⟨id, ttlMs, rfl, rfl⟩
  | described _ _ _ | signalled _ _ _ _ | parked _ _ _ _ _ _ _ | progressed _ _ _ _ _ _
  | completed _ _ _ _ | failed _ _ _ _ | completionRejected _ _ _ _ _
  | failureRejected _ _ _ _ _ => exact .inr rfl
  | answered _ responses _ _ =>
    exact .inr (apply_input_responses_frame Task.ttl (fun _ _ _ _ => rfl) (fun _ _ _ _ => rfl) now
      before responses)
  | cancelled _ reason _ final _ outcome =>
    have hsame : final.ttl = before.raiseToken.ttl :=
      cancelled_frame Task.ttl (fun _ _ => rfl) (fun _ => rfl) outcome
    exact .inr hsame

end Origin

end TowerMcp
