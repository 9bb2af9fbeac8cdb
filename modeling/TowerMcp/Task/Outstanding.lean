import TowerMcp.Task.InputHistory
import TowerMcp.Task.Reads

/-!
# Outstanding requests and the status of a task

A task that waits for input has outstanding requests and no other task has any, as long as progress
reports keep the status in step with the requests and no task is parked on nothing. `set_status`
writes the status alone: reporting progress on a parked task leaves its requests behind.
-/

namespace TowerMcp

open Execution MemoryTaskStore Fallible

def Task.Belongs (task : Task) : Prop :=
  task.inputRequests ≠ ∅ ↔ task.status = .inputRequired

namespace MemoryTaskStore

variable (store : MemoryTaskStore)

def hasRoom (now : Moment) (taskId : String) (task : Task) (data : MemoryTaskStoreData) : Bool :=
  (prepareStoredTask now task store.retentionLimits >>= fun replacement =>
    replaceStoredTask data taskId replacement store.retentionLimits.maxRetainedBytes).toBool

def textFits (message : Option String) : Bool :=
  message.all fun message => (validatePayload message store.retentionLimits).toBool

def acceptsRequests (now : Moment) (taskId : String) (requests : InputRequests)
    (message : Option String) (data : MemoryTaskStoreData) : Bool :=
  (readable data now.instant taskId).any fun current =>
    !current.task.status.isTerminal &&
      (validatePayload requests store.retentionLimits).toBool && store.textFits message &&
      (current.task.reusedInputKeys requests).isEmpty &&
      store.hasRoom now taskId (current.task.awaitInput now requests message) data

def acceptsStatus (now : Moment) (taskId : String) (status : TaskStatus)
    (message : Option String) (data : MemoryTaskStoreData) : Bool :=
  (readable data now.instant taskId).any fun current =>
    !status.isTerminal && !current.task.status.isTerminal && store.textFits message &&
      store.hasRoom now taskId (current.task.setStatus now status message) data

end MemoryTaskStore

section Accepts

variable {store : MemoryTaskStore} {now : Moment} {id : String} {message : Option String}
  {data : MemoryTaskStoreData}

theorem to_bool_iff {α : Type} {outcome : Except TaskStoreError α} :
    outcome.toBool = true ↔ ∃ value, outcome = .ok value := by
  cases outcome with
  | error error => simp [Except.toBool]
  | ok value => simp [Except.toBool]

theorem has_room_iff {task : Task} {current : StoredTask}
    (hread : readable data now.instant id = some current) :
    store.hasRoom now id task data = true ↔
      ∃ final, (prepareStoredTask now task store.retentionLimits >>= fun replacement =>
        replaceStoredTask data id replacement store.retentionLimits.maxRetainedBytes) =
          .ok (final, true) := by
  obtain ⟨hlookup, _⟩ := readable_eq_some.1 hread
  unfold hasRoom
  rw [to_bool_iff]
  constructor
  · rintro ⟨⟨final, replaced⟩, hrun⟩
    obtain ⟨replacement, _, hreplace⟩ := bind_eq_ok.1 hrun
    have hreplaced : replaced = true := by
      unfold replaceStoredTask at hreplace
      rw [hlookup] at hreplace
      obtain ⟨totals, _, hpure⟩ := bind_eq_ok.1 hreplace
      exact (Prod.mk.inj (pure_eq_ok.1 hpure)).2.symm
    rw [hreplaced] at hrun
    exact ⟨final, hrun⟩
  · rintro ⟨final, hrun⟩
    exact ⟨(final, true), hrun⟩

theorem require_input_accepted_iff {requests : InputRequests} :
    store.acceptsRequests now id requests message data = true ↔
      ∃ final, store.requireInput now id requests message data = .ok (final, true) := by
  unfold acceptsRequests requireInput
  cases hread : readable data now.instant id with
  | none => simp
  | some current =>
    have hroom (task : Task) : store.hasRoom now id task data = true ↔ _ := has_room_iff hread
    simp only [Option.any_some, Bool.and_eq_true, Bool.not_eq_true', hroom, to_bool_iff]
    cases hterminal : current.task.status.isTerminal with
    | true => simp
    | false =>
      cases message with
      | none =>
        cases hreused : (current.task.reusedInputKeys requests).isEmpty with
        | false => simp [bind_eq_ok]
        | true => simp [bind_eq_ok, textFits, pure, Except.pure]
      | some message =>
        cases hreused : (current.task.reusedInputKeys requests).isEmpty with
        | false => simp [bind_eq_ok]
        | true => simp [bind_eq_ok, textFits, to_bool_iff, and_assoc]

theorem set_status_accepted_iff {status : TaskStatus} :
    store.acceptsStatus now id status message data = true ↔
      ∃ final, store.setStatus now id status message data = .ok (final, true) := by
  unfold acceptsStatus setStatus
  cases hprogress : status.isTerminal with
  | true =>
    rw [if_pos rfl]
    constructor
    · intro haccepted
      obtain ⟨current, _, hcurrent⟩ := (Option.any_eq_true _ _).1 haccepted
      simp at hcurrent
    · rintro ⟨final, hfinal⟩
      cases hfinal
  | false =>
    rw [if_neg Bool.false_ne_true]
    cases hread : readable data now.instant id with
    | none => simp
    | some current =>
      have hroom (task : Task) : store.hasRoom now id task data = true ↔ _ := has_room_iff hread
      simp only [Option.any_some, Bool.and_eq_true, Bool.not_eq_true', hroom]
      cases hterminal : current.task.status.isTerminal with
      | true => simp
      | false =>
        cases message with
        | none => simp [bind_eq_ok, textFits, pure, Except.pure]
        | some message => simp [bind_eq_ok, textFits, to_bool_iff]

end Accepts

section Record

variable {store : MemoryTaskStore} {now : Moment} {call : StoreCall} {reply : Reply}
  {before after : Task}

theorem belongs_of_empty {task : Task} (hrequests : task.inputRequests = ∅)
    (hstatus : task.status ≠ .inputRequired) : task.Belongs := by
  simp [Task.Belongs, hrequests, hstatus]

theorem after_responses_facts (now : Moment) (task : Task) (applied : AppliedInputResponses) :
    (task.afterResponses now applied).inputRequests = task.inputRequests ∧
      (task.afterResponses now applied).status =
        if applied.isComplete && task.status == .inputRequired then .working else task.status := by
  unfold Task.afterResponses
  dsimp only
  cases applied.accepted.entries.isEmpty with
  | true =>
    simp only [if_true]
    split <;> exact ⟨rfl, rfl⟩
  | false =>
    simp only [Bool.false_eq_true, if_false]
    split <;> exact ⟨rfl, rfl⟩

theorem status_apply_input_responses (now : Moment) (task : Task) (responses : InputResponses) :
    (task.applyInputResponses now responses).1.status =
      if (task.applyInputResponses now responses).1.inputRequests.entries.isEmpty &&
          task.status == .inputRequired then .working else task.status := by
  obtain ⟨hrequests, hstatus⟩ := after_responses_facts now (task.consumeResponses responses).1
    { (task.consumeResponses responses).2 with
      stillOutstanding :=
        (task.consumeResponses responses).1.inputRequests.mapValues fun _ => () }
  unfold Task.applyInputResponses
  dsimp only
  rw [hstatus, hrequests, status_consume_responses, AppliedInputResponses.isComplete,
    FinMap.is_empty_entries_map_values]

theorem Task.Belongs.apply_input_responses {task : Task} (h : task.Belongs) (now : Moment)
    (responses : InputResponses) : (task.applyInputResponses now responses).1.Belongs := by
  have hstatus := status_apply_input_responses now task responses
  unfold Task.Belongs at h ⊢
  cases hleft : (task.applyInputResponses now responses).1.inputRequests.entries.isEmpty with
  | true =>
    rw [FinMap.is_empty_entries_iff.1 hleft]
    rw [hleft, Bool.true_and] at hstatus
    refine iff_of_false (fun hnone => hnone rfl) fun hwaiting => ?_
    rw [hwaiting] at hstatus
    split at hstatus
    next => cases hstatus
    next hother => exact hother (by rw [← hstatus]; rfl)
  | false =>
    have hsome : (task.applyInputResponses now responses).1.inputRequests ≠ ∅ := by
      intro hnone
      rw [hnone] at hleft
      cases hleft
    -- an update adds no request
    have hbefore : task.inputRequests ≠ ∅ := by
      intro hnone
      apply hsome
      apply FinMap.eq_empty_of_lookup_none
      intro key
      rw [(Task.answered_apply_input_responses now task responses).outstanding key, hnone]
      split <;> rfl
    rw [hleft, Bool.false_and] at hstatus
    exact iff_of_true hsome (hstatus.trans (h.1 hbefore))

def Task.StatusAgrees (task : Task) : StoreCall → Prop
  | .requireInput _ requests _ => requests ≠ ∅
  | .setStatus _ status _ => status = .inputRequired ↔ task.inputRequests ≠ ∅
  | _ => True

theorem belongs_iff_of_task_change (h : before.Belongs)
    (hchange : TaskChange store now call reply before after) :
    after.Belongs ↔ before.StatusAgrees call := by
  cases hchange with
  | described _ _ _ | extended _ _ _ | signalled _ _ _ _ => exact iff_of_true h trivial
  | parked _ requests _ _ _ _ _ =>
    show (requests ≠ ∅ ↔ TaskStatus.inputRequired = .inputRequired) ↔ requests ≠ ∅
    simp
  | answered _ responses _ _ => exact iff_of_true (h.apply_input_responses now responses) trivial
  | progressed _ status _ _ _ _ =>
    show (before.inputRequests ≠ ∅ ↔ status = .inputRequired) ↔
      (status = .inputRequired ↔ before.inputRequests ≠ ∅)
    exact iff_comm
  | completed _ _ _ _ | failed _ _ _ _ | completionRejected _ _ _ _ _
  | failureRejected _ _ _ _ _ =>
    exact iff_of_true (belongs_of_empty rfl TaskStatus.noConfusion) trivial
  | cancelled _ reason _ final _ outcome =>
    obtain ⟨hstatus, hrequests⟩ :
        final.status = .cancelled ∧ final.inputRequests = ∅ := by
      rcases outcome with rfl | rfl
      · rcases cancelled_task_cases store now before.raiseToken reason with ⟨_, _, heq⟩ | heq
        · rw [heq]
          exact ⟨rfl, rfl⟩
        · rw [heq]
          exact ⟨rfl, rfl⟩
      · exact ⟨rfl, rfl⟩
    refine iff_of_true (belongs_of_empty hrequests ?_) trivial
    show final.status ≠ .inputRequired
    rw [hstatus]
    decide

end Record

namespace TaskStore

/-- Whenever a client reads a task from here on, the task has outstanding requests exactly when it
waits for input. -/
def OutstandingBelongs (world : World) : Prop :=
  ∀ now, world.clock ≤ now → ∀ id requests object,
    outstandingInputRequests world.data now id = some requests →
    getTask world.data now id = some object →
    (requests ≠ ∅ ↔ object.status = .inputRequired)

/-- A task that is parked is parked on some request, and a progress report that is recorded says
that the task waits for input exactly when it has outstanding requests. -/
def RequestsAgree (store : MemoryTaskStore) (world : World) (event : Event) : Prop :=
  match event.call with
  | .requireInput id requests message =>
    store.acceptsRequests event.now id requests message world.data = true → requests ≠ ∅
  | .setStatus id status message =>
    store.acceptsStatus event.now id status message world.data = true →
      ∀ requests ∈ outstandingInputRequests world.data event.now.instant id,
        (status = .inputRequired ↔ requests ≠ ∅)
  | _ => True

instance decidableRequestsAgree (store : MemoryTaskStore) (world : World) (event : Event) :
    Decidable (RequestsAgree store world event) := by
  obtain ⟨now, call⟩ := event
  cases call <;> unfold RequestsAgree <;> infer_instance

section Run

variable {store : MemoryTaskStore} {world next : World} {event : Event} {reply : Reply}

theorem outstanding_belongs_iff :
    OutstandingBelongs world ↔ ∀ id stored, world.data.tasks.lookup id = some stored →
      stored.task.isExpiredAt world.clock = false → stored.task.Belongs := by
  constructor
  · intro h id stored hlookup hunexpired
    have hread := readable_eq_some.2 ⟨hlookup, hunexpired⟩
    refine h world.clock le_rfl id stored.task.inputRequests stored.task.toTaskObject ?_ ?_
    · rw [outstandingInputRequests, hread]
      rfl
    · rw [getTask, hread]
      rfl
  · intro h now hnow id requests object hrequests hobject
    obtain ⟨stored, hread, rfl⟩ := Option.map_eq_some_iff.1 hrequests
    rw [getTask, hread] at hobject
    cases hobject
    obtain ⟨hlookup, hunexpired⟩ := readable_eq_some.1 hread
    exact h id stored hlookup (Task.unexpired_earlier hnow hunexpired)

variable {key : String}

theorem ok_of_settle_done {data final : MemoryTaskStoreData} {value : Bool}
    {outcome : Except TaskStoreError (MemoryTaskStoreData × Bool)}
    (h : settle data .done outcome = (final, .done (.ok value))) : outcome = .ok (final, value) := by
  cases outcome with
  | error error => cases h
  | ok pair =>
    cases h
    rfl

theorem status_agrees_of_requests_agree {old new : StoredTask}
    (hagree : RequestsAgree store world event)
    (hrun : store.perform event.now event.call world.data = .ok (next.data, reply))
    (hnamed : event.call.target = some key)
    (hread : readable world.data event.now.instant key = some old)
    (hchange : TaskChange store event.now event.call reply old.task new.task) :
    old.task.StatusAgrees event.call := by
  obtain ⟨now, call⟩ := event
  cases call with
  | requireInput id requests message =>
    obtain ⟨_, _, _, _, rfl⟩ := parked_of_task_change hchange
    have haccepted := ok_of_settle_done (Except.ok.inj hrun)
    exact hagree (require_input_accepted_iff.2 ⟨_, haccepted⟩)
  | setStatus id status message =>
    obtain rfl := Option.some.inj hnamed
    obtain ⟨rfl, _⟩ := progressed_of_task_change hchange
    have haccepted := ok_of_settle_done (Except.ok.inj hrun)
    refine hagree (set_status_accepted_iff.2 ⟨_, haccepted⟩) old.task.inputRequests ?_
    show outstandingInputRequests world.data _ id = some old.task.inputRequests
    rw [outstandingInputRequests, hread]
    rfl
  | createTask | setTaskMeta | discardTask | applyInputResponses | setTtl | completeTask | failTask
  | cancelTask | retireExpired => trivial

theorem status_agrees_of_belongs (h : OutstandingBelongs world) (hnext : OutstandingBelongs next)
    (hstepped : Stepped store world event next reply) (htarget : event.call.target = some key)
    (hloud : reply.isQuiet = false) (hkeeps : event.call ≠ .discardTask key)
    (hdeadline : ∀ before after, TaskChange store event.now event.call reply before after →
      after.isExpiredAt event.now.instant = before.isExpiredAt event.now.instant) :
    ∃ old, readable world.data event.now.instant key = some old ∧
      old.task.StatusAgrees event.call := by
  obtain ⟨old, new, hold, hnew, hunexpired, -, hchange⟩ :=
    changed_of_loud (hstepped.changes key) htarget hloud hkeeps
  have hread := readable_eq_some.2 ⟨hold, hunexpired⟩
  have hbefore : old.task.Belongs := by
    exact outstanding_belongs_iff.1 h key old hold
      (Task.unexpired_earlier hstepped.later hunexpired)
  have hafter : new.task.Belongs := by
    refine outstanding_belongs_iff.1 hnext key new hnew ?_
    rw [hstepped.clock, hdeadline _ _ hchange]
    exact hunexpired
  exact ⟨old, hread, (belongs_iff_of_task_change hbefore hchange).1 hafter⟩

theorem belongs_of_stepped {stored : StoredTask}
    (hstepped : Stepped store world event next reply)
    (hrun : store.perform event.now event.call world.data = .ok (next.data, reply))
    (h : ∀ old, world.data.tasks.lookup key = some old →
      old.task.isExpiredAt world.clock = false → old.task.Belongs)
    (hagree : event.call.target = some key → RequestsAgree store world event)
    (hlookup : next.data.tasks.lookup key = some stored)
    (hunexpired : stored.task.isExpiredAt next.clock = false) : stored.task.Belongs := by
  rw [hstepped.clock] at hunexpired
  have hearlier : ∀ old, world.data.tasks.lookup key = some old →
      old.task.isExpiredAt event.now.instant = false → old.task.Belongs :=
    fun old hold hlive => h old hold (Task.unexpired_earlier hstepped.later hlive)
  have hchange := hstepped.changes key
  rw [hlookup] at hchange
  generalize hbefore : world.data.tasks.lookup key = held at hchange
  cases hchange with
  | kept _ _ => exact hearlier stored hbefore hunexpired
  | admitted _ _ _ _ _ _ _ _ task _ =>
    rw [task]
    exact belongs_of_empty rfl TaskStatus.noConfusion
  | changed old _ named unexpired _ task =>
    have hread := readable_eq_some.2 ⟨hbefore, unexpired⟩
    exact (belongs_iff_of_task_change (hearlier old hbefore unexpired) task).2
      (status_agrees_of_requests_agree (hagree named) hrun named hread task)
  | retired _ old _ retiring =>
    rw [is_expired_at_retired_record, (is_retiring_iff.1 retiring).1] at hunexpired
    cases hunexpired

theorem outstanding_belongs_step (hsound : Sound store world) (hfresh : FreshDraw world event)
    (h : OutstandingBelongs world) (hstep : step store world event = some next) :
    OutstandingBelongs next ↔ RequestsAgree store world event := by
  obtain ⟨reply, hstepped⟩ := step_sound hsound hfresh hstep
  have hrun := perform_of_stepped hstep hstepped
  constructor
  · intro hnext
    obtain ⟨now, call⟩ := event
    cases call with
    | requireInput id requests message =>
      intro haccepted
      obtain ⟨final, hfinal⟩ := require_input_accepted_iff.1 haccepted
      have hreply : reply = .done (.ok true) := by
        simp only [perform, hfinal] at hrun
        exact (Prod.mk.inj (Except.ok.inj hrun)).2.symm
      obtain ⟨old, _, hagrees⟩ := status_agrees_of_belongs h hnext hstepped rfl
        (by rw [hreply]; rfl) StoreCall.noConfusion fun before after hchange => by
          rw [(parked_of_task_change hchange).2.2.2.1]
          rfl
      exact hagrees
    | setStatus id status message =>
      intro haccepted requests hrequests
      obtain ⟨final, hfinal⟩ := set_status_accepted_iff.1 haccepted
      have hreply : reply = .done (.ok true) := by
        simp only [perform, hfinal] at hrun
        exact (Prod.mk.inj (Except.ok.inj hrun)).2.symm
      obtain ⟨old, hread, hagrees⟩ := status_agrees_of_belongs h hnext hstepped rfl
        (by rw [hreply]; rfl) StoreCall.noConfusion fun before after hchange => by
          rw [(progressed_of_task_change hchange).2]
          rfl
      obtain ⟨stored, hstored, rfl⟩ := Option.map_eq_some_iff.1 hrequests
      obtain rfl := Option.some.inj (hread.symm.trans hstored)
      exact hagrees
    | createTask | setTaskMeta | discardTask | applyInputResponses | setTtl | completeTask
    | failTask | cancelTask | retireExpired => trivial
  · intro hagree
    rw [outstanding_belongs_iff]
    intro key stored hlookup hunexpired
    exact belongs_of_stepped hstepped hrun (outstanding_belongs_iff.1 h key) (fun _ => hagree) hlookup
      hunexpired

end Run

/-- In a run whose created identifiers differ, every task that can be read has outstanding requests
exactly when it waits for input, at every moment of the run, if and only if every task that is
parked is parked on some request and every progress report that is recorded names the waiting status
exactly for a task with outstanding requests. -/
theorem outstanding_belongs_iff_requests_agree (store : MemoryTaskStore) (events : List Event)
    (final : World) (hfresh : (drawnIds events).Nodup)
    (hrun : run (step store) {} events = some final) :
    Throughout (step store) OutstandingBelongs {} events ↔
      Along (step store) (RequestsAgree store) {} events := by
  have halong : Along (step store) FreshDraw {} events :=
    along_fresh_draw hfresh fun id _ hmem => by simp [World.events, drawnIds] at hmem
  have hstart : OutstandingBelongs {} := by
    rw [outstanding_belongs_iff]
    intro id stored hlookup
    simp at hlookup
  refine throughout_iff_along_of_run ?_ ?_ (sound_init store) hstart halong hrun
  · intro world event next hsound hdraw hstep
    obtain ⟨reply, hstepped⟩ := step_sound hsound hdraw hstep
    exact hstepped.sound
  · intro world event next hsound hdraw hbelongs hstep
    exact outstanding_belongs_step hsound hdraw hbelongs hstep

theorem outstanding_belongs_parked :
    (∃ final, run (step defaultStore) {} parkedEvents = some final) ∧
      Throughout (step defaultStore) OutstandingBelongs {} parkedEvents := by
  obtain ⟨final, hrun⟩ : ∃ final,
      run (step defaultStore) {} parkedEvents = some final := by
    decide +kernel
  exact ⟨⟨final, hrun⟩, (outstanding_belongs_iff_requests_agree defaultStore parkedEvents final
    (by decide) hrun).2 (by decide +kernel)⟩

def progressEvents : List Event :=
  [⟨⟨0, "t0"⟩, .createTask ⟨0, "t0"⟩ "a" "report" .null none none⟩,
    ⟨⟨1, "t1"⟩, .requireInput "a" (AList.insert "k" question ∅) none⟩,
    ⟨⟨2, "t2"⟩, .setStatus "a" .working (some "still going")⟩]

def idleEvents : List Event :=
  [⟨⟨0, "t0"⟩, .createTask ⟨0, "t0"⟩ "a" "report" .null none none⟩,
    ⟨⟨1, "t1"⟩, .requireInput "a" ∅ none⟩]

/-- A working task is read with outstanding requests after a progress report, and a waiting task
without any after it was parked on nothing. -/
theorem outstanding_of_working_task :
    (∃ world requests object,
      run (step defaultStore) {} progressEvents = some world ∧
      outstandingInputRequests world.data world.clock "a" = some requests ∧
      getTask world.data world.clock "a" = some object ∧
      requests ≠ ∅ ∧ object.status = .working) ∧
    ∃ world object,
      run (step defaultStore) {} idleEvents = some world ∧
      outstandingInputRequests world.data world.clock "a" = some ∅ ∧
      getTask world.data world.clock "a" = some object ∧ object.status = .inputRequired := by
  obtain ⟨world, hworld, stored, hread, hasked, hworking⟩ : ∃ world,
      run (step defaultStore) {} progressEvents = some world ∧
        ∃ stored, world.readable "a" = some stored ∧ stored.task.inputRequests ≠ ∅ ∧
          stored.task.status = .working := by
    decide +kernel
  obtain ⟨idleWorld, hidleWorld, idle, hidleRead, hnone, hwaiting⟩ : ∃ world,
      run (step defaultStore) {} idleEvents = some world ∧
        ∃ stored, world.readable "a" = some stored ∧ stored.task.inputRequests = ∅ ∧
          stored.task.status = .inputRequired := by
    decide +kernel
  refine ⟨⟨world, stored.task.inputRequests, stored.task.toTaskObject, hworld, ?_, ?_, hasked,
    hworking⟩, idleWorld, idle.task.toTaskObject, hidleWorld, ?_, ?_, hwaiting⟩
  · exact congrArg (Option.map _) hread
  · exact congrArg (Option.map _) hread
  · rw [← hnone]
    exact congrArg (Option.map _) hidleRead
  · exact congrArg (Option.map _) hidleRead

end TaskStore

end TowerMcp
