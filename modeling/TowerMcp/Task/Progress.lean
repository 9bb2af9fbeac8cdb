import TowerMcp.Task.Atomicity

/-!
# The progress of a task

What the calls that the router makes do to the status of a task: which of them end it, which of them
park it, and when an update resumes it. A task is `Finished` when nothing of it can be read but a
terminal status; once a completion that succeeds, a failure, a cancellation or a removal has returned,
its task is finished.
-/

namespace TowerMcp

open MemoryTaskStore FinMap Fallible

def Finished (data : MemoryTaskStoreData) (now : Instant) (id : String) : Prop :=
  ∀ stored, readable data now id = some stored → stored.task.status.isTerminal = true

section Endings

variable {store : MemoryTaskStore} {now : Moment} {id : String} {data final : MemoryTaskStoreData}

theorem finished_of_lookup_none {instant : Instant} (h : data.tasks.lookup id = none) :
    Finished data instant id := by
  intro stored hread
  rw [readable_of_lookup_none h] at hread
  cases hread

theorem finished_of_lookup {instant : Instant} {held : StoredTask}
    (h : data.tasks.lookup id = some held)
    (hover : held.task.isExpiredAt instant = false → held.task.status.isTerminal = true) :
    Finished data instant id := by
  intro stored hread
  obtain ⟨hlookup, hunexpired⟩ := readable_eq_some.1 hread
  obtain rfl := Option.some.inj (h.symm.trans hlookup)
  exact hover hunexpired

theorem lookup_put_back (data : MemoryTaskStoreData) (id : String) (stored : StoredTask) :
    (putBack (takeOut data id) id stored).tasks.lookup id = some stored :=
  AList.lookup_insert _

variable {value : Bool}

theorem finished_of_finish_task {stored : StoredTask} {oldRetained oldReserved : ℕ}
    (hterminal : stored.task.status.isTerminal = true)
    (hrun : store.finishTask now id stored oldRetained oldReserved data = .ok (final, .ok value)) :
    Finished final now.instant id := by
  unfold finishTask at hrun
  dsimp only at hrun
  split at hrun
  next =>
    obtain ⟨_, _, hpure⟩ := bind_eq_ok.1 hrun
    cases hpure
  next =>
    split at hrun
    next =>
      obtain ⟨_, _, hpure⟩ := bind_eq_ok.1 hrun
      cases hpure
    next =>
      cases hrun
      exact finished_of_lookup (AList.lookup_insert _) fun _ => hterminal

theorem finished_of_finish_live {checked : Except TaskStoreError ℕ} {finish : Task → Task}
    (hterminal : ∀ task, (finish task).status.isTerminal = true)
    (hrun : store.finishLive now id checked finish data = .ok (final, .ok value)) :
    Finished final now.instant id := by
  unfold finishLive at hrun
  split at hrun
  next hlookup =>
    cases hrun
    exact finished_of_lookup_none hlookup
  next old hlookup =>
    split at hrun
    next hover =>
      cases hrun
      refine finished_of_lookup (lookup_put_back data id old) fun hunexpired => ?_
      exact hover.resolve_right (by simp [hunexpired])
    next =>
      split at hrun
      next =>
        obtain ⟨_, _, hpure⟩ := bind_eq_ok.1 hrun
        cases hpure
      next => exact finished_of_finish_task (hterminal old.task) hrun

theorem finished_of_complete_task {result : CallToolResult}
    (hrun : store.completeTask now id result data = .ok (final, .ok value)) :
    Finished final now.instant id := by
  rw [complete_task_eq] at hrun
  exact finished_of_finish_live (fun _ => rfl) hrun

theorem finished_of_fail_task {failure : JsonRpcError} {outcome : Except TaskStoreError Bool}
    (hrun : store.failTask now id failure data = .ok (final, outcome)) :
    Finished final now.instant id := by
  cases outcome with
  | error error =>
    obtain ⟨old, _, _, _, hplace⟩ := rejected_of_fail_task hrun
    obtain ⟨bytes, hlookup, _⟩ := hplace.failed
    exact finished_of_lookup hlookup fun _ => rfl
  | ok value =>
    rw [fail_task_eq] at hrun
    exact finished_of_finish_live (fun _ => rfl) hrun

theorem status_of_price_cancellation {task priced : Task} {oldRetained oldReserved : ℕ}
    {charges : ℕ × ℕ × ℕ} (hstatus : task.status = .cancelled)
    (hrun : store.priceCancellation now task oldRetained oldReserved data = .ok (priced, charges)) :
    priced.status = .cancelled := by
  unfold priceCancellation at hrun
  dsimp only at hrun
  split at hrun
  next =>
    cases hrun
    exact hstatus
  next =>
    obtain ⟨_, _, hrest⟩ := bind_eq_ok.1 hrun
    obtain ⟨_, _, hpure⟩ := bind_eq_ok.1 hrest
    obtain ⟨rfl, _⟩ := Prod.mk.inj (pure_eq_ok.1 hpure)
    rfl

theorem finished_of_cancel_task {reason : Option String} {object : Option TaskObject}
    (hrun : store.cancelTask now id reason data = .ok (final, object)) :
    Finished final now.instant id := by
  unfold cancelTask at hrun
  split at hrun
  next hlookup =>
    cases hrun
    exact finished_of_lookup_none hlookup
  next old hlookup =>
    dsimp only at hrun
    split at hrun
    next hexpired =>
      cases hrun
      exact finished_of_lookup (lookup_put_back data id old) fun hunexpired =>
        absurd hexpired (by simp [hunexpired])
    next =>
      split at hrun
      next hterminal =>
        cases hrun
        exact finished_of_lookup (AList.lookup_insert _) fun _ => hterminal
      next =>
        obtain ⟨⟨task, bytes, totals⟩, hprice, hpure⟩ := bind_eq_ok.1 hrun
        obtain ⟨rfl, _⟩ := Prod.mk.inj (pure_eq_ok.1 hpure)
        refine finished_of_lookup (AList.lookup_insert _) fun _ => ?_
        show task.status.isTerminal = true
        rw [status_of_price_cancellation (cancelled_task_facts store now old.task.raiseToken reason).1
          hprice]
        rfl

theorem waits_of_require_input {requests : InputRequests} {message : Option String}
    (hrun : store.requireInput now id requests message data = .ok (final, value)) :
    ∀ stored, readable final now.instant id = some stored →
      stored.task.status = .inputRequired ∨ stored.task.status.isTerminal = true := by
  intro stored hread
  unfold requireInput at hrun
  split at hrun
  next hnone =>
    cases hrun
    rw [hnone] at hread
    cases hread
  next current hcurrent =>
    split at hrun
    next hterminal =>
      cases hrun
      obtain rfl := Option.some.inj (hcurrent.symm.trans hread)
      exact .inr hterminal
    next =>
      obtain ⟨_, _, hrun⟩ := bind_eq_ok.1 hrun
      obtain ⟨_, _, hrun⟩ := bind_eq_ok.1 hrun
      dsimp only at hrun
      split at hrun
      next =>
        obtain ⟨replacement, hprepare, hreplace⟩ := bind_eq_ok.1 hrun
        obtain ⟨htask, _, _⟩ := well_formed_of_prepare_stored_task hprepare nofun
        unfold replaceStoredTask at hreplace
        rw [(readable_eq_some.1 hcurrent).1] at hreplace
        obtain ⟨totals, _, hcommit⟩ := bind_eq_ok.1 hreplace
        obtain ⟨rfl, _⟩ := Prod.mk.inj (pure_eq_ok.1 hcommit)
        have hheld := (readable_eq_some.1 hread).1
        obtain rfl := Option.some.inj ((AList.lookup_insert data.tasks).symm.trans hheld)
        left
        rw [htask]
        rfl
      next => cases hrun

end Endings

section Answers

variable {now : Moment} {task : Task} {responses : InputResponses}

def Task.Waits (task : Task) : Prop :=
  task.status = .inputRequired → task.inputRequests ≠ ∅

theorem is_complete_apply_input_responses (now : Moment) (task : Task)
    (responses : InputResponses) :
    (task.applyInputResponses now responses).2.isComplete =
      (task.applyInputResponses now responses).1.inputRequests.entries.isEmpty := by
  obtain ⟨hrequests, _⟩ := after_responses_facts now (task.consumeResponses responses).1
    { (task.consumeResponses responses).2 with
      stillOutstanding :=
        (task.consumeResponses responses).1.inputRequests.mapValues fun _ => () }
  unfold Task.applyInputResponses
  dsimp only
  rw [hrequests, AppliedInputResponses.isComplete, is_empty_entries_map_values]

theorem answers_of_moved (hwaits : task.Waits) (hbefore : task.status = .inputRequired)
    (hafter : (task.applyInputResponses now responses).1.status = .working) :
    (task.applyInputResponses now responses).2.accepted.entries.isEmpty = false ∧
      (task.applyInputResponses now responses).2.isComplete = true := by
  have hstatus := status_apply_input_responses now task responses
  have hanswered := Task.answered_apply_input_responses now task responses
  rw [hafter] at hstatus
  split at hstatus
  next hleft =>
    rw [Bool.and_eq_true] at hleft
    refine ⟨?_, (is_complete_apply_input_responses now task responses).trans hleft.1⟩
    cases haccepted : (task.applyInputResponses now responses).2.accepted.entries.isEmpty with
    | false => rfl
    | true =>
      -- nothing was accepted, so nothing that was asked is gone
      have hsame : ∀ key, task.inputRequests.lookup key = none := by
        intro key
        cases hlookup : task.inputRequests.lookup key with
        | none => rfl
        | some request =>
          have hgone := hanswered.outstanding key
          rw [is_empty_entries_iff.1 hleft.1, hlookup] at hgone
          split at hgone
          next hgiven =>
            have hasked : key ∈ task.inputRequests :=
              mem_iff_lookup.2 ⟨request, hlookup⟩
            have haccept := (hanswered.accepted key).2 ⟨hgiven, hasked⟩
            rw [is_empty_entries_iff.1 haccepted] at haccept
            exact absurd haccept (AList.notMem_empty key)
          next => cases hgone
      exact absurd (eq_empty_of_lookup_none hsame) (hwaits hbefore)
  next =>
    rw [hbefore] at hstatus
    cases hstatus

theorem moved_of_answers (hbelongs : task.Belongs)
    (haccepted : (task.applyInputResponses now responses).2.accepted.entries.isEmpty = false)
    (hcomplete : (task.applyInputResponses now responses).2.isComplete = true) :
    task.status = .inputRequired ∧
      (task.applyInputResponses now responses).1.status = .working := by
  have hasked : task.inputRequests ≠ ∅ := by
    intro hnone
    have hempty : (task.applyInputResponses now responses).2.accepted = ∅ := by
      apply eq_empty_of_lookup_none
      intro key
      cases hlookup : (task.applyInputResponses now responses).2.accepted.lookup key with
      | none => rfl
      | some entry =>
        have haccept := mem_iff_lookup.2 ⟨entry, hlookup⟩
        have hopen := ((Task.answered_apply_input_responses now task responses).accepted key).1
          haccept
        rw [hnone] at hopen
        exact absurd hopen.2 (AList.notMem_empty key)
    rw [hempty] at haccepted
    cases haccepted
  have hwaiting := hbelongs.1 hasked
  refine ⟨hwaiting, ?_⟩
  rw [status_apply_input_responses, hwaiting,
    ← is_complete_apply_input_responses now task responses, hcomplete]
  rfl

end Answers

def StoreCall.IsRouted : StoreCall → Prop
  | .requireInput _ requests _ => requests ≠ ∅
  | .setStatus _ status _ => status = .working
  | .setTtl _ _ => False
  | _ => True

section Moves

variable {store : MemoryTaskStore} {world next : TaskStore.World} {event : TaskStore.Event}
  {reply : Reply} {id : String}

def MemoryTaskStoreData.status (data : MemoryTaskStoreData) (id : String) : Option TaskStatus :=
  (data.tasks.lookup id).map fun stored => stored.task.status

def ReadsWorking (world : TaskStore.World) (id : String) : Prop :=
  ∃ stored, readable world.data world.clock id = some stored ∧ stored.task.status = .working

variable {now : Moment} {before : Task}

theorem status_of_cancelled {final : Task} {reason : Option String}
    (outcome : final = store.cancelledTask now before.raiseToken reason ∨
      final = (store.cancelledTask now before.raiseToken reason).cancelWithBoundedStatus now
        boundedCancellationStatus true) :
    final.status = .cancelled := by
  rcases outcome with rfl | rfl
  · exact (cancelled_task_facts store now before.raiseToken reason).1
  · rfl

theorem status_retired_record (stored : StoredTask) :
    (retiredRecord stored).task.status = stored.task.status := by
  unfold retiredRecord StoredTask.signalExpiry
  cases stored.expirySignalled <;> rfl

theorem input_required_of_task_change {call : StoreCall} {after : Task}
    (hrouted : call.IsRouted) (h : TaskChange store now call reply before after)
    (hafter : after.status = .inputRequired) :
    before.status = .inputRequired ∨
      ∃ id requests message, call = .requireInput id requests message ∧
        reply = .done (.ok true) := by
  cases h with
  | described _ _ _ | signalled _ _ _ _ => exact .inl hafter
  | parked id requests message _ _ _ _ => exact .inr ⟨id, requests, message, rfl, rfl⟩
  | answered _ responses _ _ =>
    rw [status_apply_input_responses] at hafter
    split at hafter
    next => cases hafter
    next => exact .inl hafter
  | progressed _ status message _ _ _ =>
    obtain rfl : status = .working := hrouted
    cases hafter
  | extended _ _ _ => exact hrouted.elim
  | completed _ _ _ _ | failed _ _ _ _ | completionRejected _ _ _ _ _
  | failureRejected _ _ _ _ _ => cases hafter
  | cancelled _ _ _ final _ outcome =>
    have hcancelled : final.status = .inputRequired := hafter
    rw [status_of_cancelled outcome] at hcancelled
    cases hcancelled

theorem working_of_task_change {call : StoreCall} {after : Task}
    (h : TaskChange store now call reply before after) (hafter : after.status = .working) :
    before.status = .working ∨
      (∃ id responses applied, call = .applyInputResponses id responses ∧
        reply = .applied (.ok (some applied)) ∧ before.status = .inputRequired) ∨
      ∃ id message, call = .setStatus id .working message := by
  cases h with
  | described _ _ _ | signalled _ _ _ _ | extended _ _ _ => exact .inl hafter
  | parked _ _ _ _ _ _ _ => cases hafter
  | answered id responses _ live =>
    cases hstatus : before.status with
    | working => exact .inl rfl
    | inputRequired => exact .inr (.inl ⟨id, responses, _, rfl, rfl, rfl⟩)
    | completed | failed | cancelled =>
      rw [hstatus] at live
      cases live
  | progressed id status message _ _ _ =>
    obtain rfl : status = .working := hafter
    exact .inr (.inr ⟨id, message, rfl⟩)
  | completed _ _ _ _ | failed _ _ _ _ | completionRejected _ _ _ _ _
  | failureRejected _ _ _ _ _ => cases hafter
  | cancelled _ _ _ final _ outcome =>
    have hcancelled : final.status = .working := hafter
    rw [status_of_cancelled outcome] at hcancelled
    cases hcancelled

theorem input_required_before (hrouted : event.call.IsRouted)
    (hstepped : TaskStore.Stepped store world event next reply)
    (hafter : next.data.status id = some .inputRequired) :
    world.data.status id = some .inputRequired ∨
      ∃ requests message, event.call = .requireInput id requests message ∧
        reply = .done (.ok true) := by
  obtain ⟨stored, hlookup, hstatus⟩ := Option.map_eq_some_iff.1 hafter
  have hchange := hstepped.changes id
  rw [hlookup] at hchange
  unfold MemoryTaskStoreData.status
  generalize world.data.tasks.lookup id = held at hchange
  cases hchange with
  | kept _ _ => exact .inl (congrArg some hstatus)
  | admitted _ _ _ _ _ _ _ _ task _ =>
    rw [task] at hstatus
    cases hstatus
  | changed old _ named _ _ task =>
    rcases input_required_of_task_change hrouted task hstatus with
      hsame | ⟨other, requests, message, hcall, hreply⟩
    · exact .inl (congrArg some hsame)
    · rw [hcall] at named
      obtain rfl := Option.some.inj named
      exact .inr ⟨requests, message, hcall, hreply⟩
  | retired _ old _ _ =>
    rw [status_retired_record] at hstatus
    exact .inl (congrArg some hstatus)

theorem reads_working_before (hstepped : TaskStore.Stepped store world event next reply)
    (hafter : ReadsWorking next id) :
    ReadsWorking world id ∨ event.call.drawnId = some id ∨
      (∃ responses applied, event.call = .applyInputResponses id responses ∧
        reply = .applied (.ok (some applied)) ∧
        world.data.status id = some .inputRequired) ∨
      ∃ message, event.call = .setStatus id .working message := by
  obtain ⟨stored, hread, hstatus⟩ := hafter
  obtain ⟨hlookup, hunexpired⟩ := readable_eq_some.1 hread
  rw [hstepped.clock] at hunexpired
  have hchange := hstepped.changes id
  rw [hlookup] at hchange
  generalize hbefore : world.data.tasks.lookup id = held at hchange
  cases hchange with
  | kept _ _ =>
    have hearlier := Task.unexpired_earlier hstepped.later hunexpired
    exact .inl ⟨stored, readable_eq_some.2 ⟨hbefore, hearlier⟩, hstatus⟩
  | admitted _ _ _ _ _ _ _ drawn _ _ =>
    rw [drawn]
    exact .inr (.inl rfl)
  | changed old _ named unexpired _ task =>
    rcases working_of_task_change task hstatus with
      hworking | ⟨other, responses, applied, hcall, hreply, hwaiting⟩ | ⟨other, message, hcall⟩
    · have hearlier := Task.unexpired_earlier hstepped.later unexpired
      exact .inl ⟨old, readable_eq_some.2 ⟨hbefore, hearlier⟩, hworking⟩
    · rw [hcall] at named
      obtain rfl := Option.some.inj named
      refine .inr (.inr (.inl ⟨responses, applied, hcall, hreply, ?_⟩))
      rw [MemoryTaskStoreData.status, hbefore, ← hwaiting]
      rfl
    · rw [hcall] at named
      obtain rfl := Option.some.inj named
      exact .inr (.inr (.inr ⟨message, hcall⟩))
  | retired _ old _ retiring =>
    rw [is_expired_at_retired_record, (is_retiring_iff.1 retiring).1] at hunexpired
    cases hunexpired

theorem finished_after (hstepped : TaskStore.Stepped store world event next reply)
    (hbefore : Finished world.data world.clock id) (hdraw : event.call.drawnId ≠ some id) :
    Finished next.data next.clock id := by
  intro stored hread
  obtain ⟨hlookup, hunexpired⟩ := readable_eq_some.1 hread
  rw [hstepped.clock] at hunexpired
  have hchange := hstepped.changes id
  rw [hlookup] at hchange
  generalize hheld : world.data.tasks.lookup id = held at hchange
  cases hchange with
  | kept _ _ =>
    have hearlier := Task.unexpired_earlier hstepped.later hunexpired
    exact hbefore stored (readable_eq_some.2 ⟨hheld, hearlier⟩)
  | admitted _ _ _ _ _ _ _ drawn _ _ =>
    rw [drawn] at hdraw
    exact absurd rfl hdraw
  | changed old _ _ unexpired _ task =>
    have hearlier := Task.unexpired_earlier hstepped.later unexpired
    have hterminal := hbefore old (readable_eq_some.2 ⟨hheld, hearlier⟩)
    rw [(TaskStore.same_outcome_of_task_change hterminal task).status]
    exact hterminal
  | retired _ old _ retiring =>
    rw [is_expired_at_retired_record, (is_retiring_iff.1 retiring).1] at hunexpired
    cases hunexpired

end Moves

/-- What holds of a record of the router until it is signalled: a task that waits for input has asked
for something, requests that are outstanding say that their task waits unless a live handler may
report otherwise, and a token that is raised belongs to a terminal task. -/
structure StoredTask.InStep (live : Prop) (stored : StoredTask) : Prop where
  waits : stored.task.Waits
  belongs : ¬live → stored.task.Belongs
  raised : stored.task.cancellationToken = true → stored.task.status.isTerminal = true

def RecordsInStep (liveTasks : List String) (data : MemoryTaskStoreData) : Prop :=
  ∀ id stored, data.tasks.lookup id = some stored → stored.expirySignalled = false →
    stored.InStep (id ∈ liveTasks)

section InStep

variable {store : MemoryTaskStore} {now : Moment} {call : StoreCall} {reply : Reply}
  {before after : Task}

theorem waits_of_task_change (hrouted : call.IsRouted) (hwaits : before.Waits)
    (h : TaskChange store now call reply before after) : after.Waits := by
  cases h with
  | described _ _ _ | signalled _ _ _ _ => exact hwaits
  | parked _ _ _ _ _ _ _ => exact fun _ => hrouted
  | answered _ responses _ _ =>
    intro hafter hnone
    have hempty : (before.applyInputResponses now responses).1.inputRequests.entries.isEmpty =
        true := by
      rw [hnone]
      rfl
    rw [status_apply_input_responses, hempty] at hafter
    split at hafter
    next => cases hafter
    next hother => exact hother (by rw [hafter]; rfl)
  | progressed _ status _ _ _ _ =>
    intro hafter
    obtain rfl : status = .working := hrouted
    cases hafter
  | extended _ _ _ => exact hrouted.elim
  | completed _ _ _ _ | failed _ _ _ _ | completionRejected _ _ _ _ _
  | failureRejected _ _ _ _ _ => exact fun hafter => by cases hafter
  | cancelled _ _ _ final _ outcome =>
    intro hafter
    have hcancelled : final.status = .inputRequired := hafter
    rw [status_of_cancelled outcome] at hcancelled
    cases hcancelled

theorem raised_of_task_change
    (hraised : before.cancellationToken = true → before.status.isTerminal = true)
    (h : TaskChange store now call reply before after) :
    after.cancellationToken = true → after.status.isTerminal = true := by
  cases h with
  | described _ _ _ | extended _ _ _ => exact hraised
  | parked _ _ _ _ live _ _ | progressed _ _ _ _ live _ =>
    intro hafter
    have hterminal := hraised hafter
    rw [live] at hterminal
    cases hterminal
  | answered _ responses _ live =>
    intro hafter
    have hsame : (before.applyInputResponses now responses).1.cancellationToken =
        before.cancellationToken :=
      apply_input_responses_frame Task.cancellationToken (fun _ _ _ _ => rfl)
        (fun _ _ _ _ => rfl) now before responses
    have hterminal := hraised (hsame.symm.trans hafter)
    rw [live] at hterminal
    cases hterminal
  | completed _ _ _ _ | failed _ _ _ _ | completionRejected _ _ _ _ _
  | failureRejected _ _ _ _ _ => exact fun _ => rfl
  | cancelled _ _ _ final _ outcome =>
    intro _
    show final.status.isTerminal = true
    rw [status_of_cancelled outcome]
    rfl
  | signalled _ _ _ terminal => exact fun _ => terminal

theorem status_agrees_of_routed (hrouted : call.IsRouted)
    (hreports : ∀ id status message, call ≠ .setStatus id status message) :
    before.StatusAgrees call := by
  cases call with
  | requireInput id requests message => exact hrouted
  | setStatus id status message => exact absurd rfl (hreports id status message)
  | createTask | setTaskMeta | discardTask | applyInputResponses | setTtl | completeTask | failTask
  | cancelTask | retireExpired => trivial

theorem RecordsInStep.step {liveTasks : List String} {world next : TaskStore.World}
    {event : TaskStore.Event} (h : RecordsInStep liveTasks world.data)
    (hrouted : event.call.IsRouted)
    (hreports : ∀ id status message, event.call = .setStatus id status message → id ∈ liveTasks)
    (hstepped : TaskStore.Stepped store world event next reply) :
    RecordsInStep liveTasks next.data := by
  intro id stored hlookup hunsignalled
  have hchange := hstepped.changes id
  rw [hlookup] at hchange
  generalize hbefore : world.data.tasks.lookup id = held at hchange
  cases hchange with
  | kept _ _ => exact h id stored hbefore hunsignalled
  | admitted _ _ _ _ _ _ _ _ task _ =>
    refine ⟨?_, fun _ => ?_, ?_⟩
    · rw [task]
      exact fun hwaiting => by cases hwaiting
    · rw [task]
      exact belongs_of_empty rfl TaskStatus.noConfusion
    · rw [task]
      exact fun hraised => by cases hraised
  | changed old _ named _ unsignalled task =>
    have hold := h id old hbefore unsignalled.1
    refine ⟨waits_of_task_change hrouted hold.waits task, fun hordinary => ?_,
      raised_of_task_change hold.raised task⟩
    refine (belongs_iff_of_task_change (hold.belongs hordinary) task).2
      (status_agrees_of_routed hrouted fun other status message hcall => ?_)
    rw [hcall] at named
    obtain rfl := Option.some.inj named
    exact hordinary (hreports other status message hcall)
  | retired _ old _ _ =>
    rw [expiry_signalled_retired_record] at hunsignalled
    cases hunsignalled

end InStep

end TowerMcp
