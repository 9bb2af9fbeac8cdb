import TowerMcp.Task.Waiters

/-!
# Expiry is permanent

Once the clock has reached the deadline of a task, the task reads as one that was never created, in
every state of every later run: whether or not a retirement has reached its record, no call brings it
back, and every call that names it answers what it answers for an unknown identifier. The next
retirement scrubs the record and raises the token.

Two operations tell an expired record that is still held from an absent one, by design:
`task_presence`, so that its owner can be told that the task expired, and `discard_task`, which
removes a record whatever its state.
-/

namespace TowerMcp

open MemoryTaskStore Execution

def StoreCall.naming (other : String) : StoreCall → StoreCall
  | .createTask created id toolName arguments ttl owner =>
    .createTask created id toolName arguments ttl owner
  | .setTaskMeta _ metadata => .setTaskMeta other metadata
  | .discardTask _ => .discardTask other
  | .requireInput _ requests message => .requireInput other requests message
  | .applyInputResponses _ responses => .applyInputResponses other responses
  | .setStatus _ status message => .setStatus other status message
  | .setTtl _ ttlMs => .setTtl other ttlMs
  | .completeTask _ result => .completeTask other result
  | .failTask _ error => .failTask other error
  | .cancelTask _ reason => .cancelTask other reason
  | .retireExpired remove => .retireExpired remove

structure SameData (before after : MemoryTaskStoreData) : Prop where
  tasks : ∀ key, after.tasks.lookup key = before.tasks.lookup key
  retained : after.retainedBytes = before.retainedBytes
  reserved : after.reservedBytes = before.reservedBytes

theorem SameData.refl (data : MemoryTaskStoreData) : SameData data data where
  tasks := fun _ => rfl
  retained := rfl
  reserved := rfl

variable {id : String}

theorem SameData.put_back {data : MemoryTaskStoreData} {stored : StoredTask}
    (h : data.tasks.lookup id = some stored) :
    SameData data (putBack (takeOut data id) id stored) where
  tasks := by
    intro key
    show ((data.tasks.erase id).insert id stored).lookup key = data.tasks.lookup key
    rw [FinMap.insert_erase, FinMap.lookup_insert_eq_ite]
    split
    next hkey => rw [hkey, h]
    next => rfl
  retained := rfl
  reserved := rfl

theorem perform_unreadable (store : MemoryTaskStore) (now : Moment) {call : StoreCall}
    {data : MemoryTaskStoreData} {unknown : String}
    (hread : readable data now.instant id = none) (htarget : call.target = some id)
    (hkeeps : call ≠ .discardTask id) (hunknown : data.tasks.lookup unknown = none) :
    ∃ final reply, store.perform now call data = .ok (final, reply) ∧
      store.perform now (call.naming unknown) data = .ok (data, reply) ∧
      reply.isQuiet = true ∧ SameData data final := by
  have hreadUnknown : readable data now.instant unknown = none := readable_of_lookup_none hunknown
  have hexpired : ∀ stored, data.tasks.lookup id = some stored →
      stored.task.isExpiredAt now.instant = true := by
    intro stored hlookup
    cases hexpired : stored.task.isExpiredAt now.instant with
    | true => rfl
    | false =>
      rw [readable_eq_some.2 ⟨hlookup, hexpired⟩] at hread
      cases hread
  have hfinish : ∀ checked finish, ∃ final,
      store.finishLive now id checked finish data = .ok (final, .ok false) ∧
        SameData data final := by
    intro checked finish
    unfold finishLive
    cases hlookup : data.tasks.lookup id with
    | none => exact ⟨data, rfl, .refl data⟩
    | some stored =>
      refine ⟨_, ?_, .put_back hlookup⟩
      dsimp only
      rw [if_pos (.inr (hexpired stored hlookup))]
  cases call with
  | createTask | retireExpired => cases htarget
  | discardTask other =>
    obtain rfl := Option.some.inj htarget
    exact absurd rfl hkeeps
  | setTaskMeta other metadata =>
    obtain rfl := Option.some.inj htarget
    refine ⟨data, .done (.ok false), ?_, ?_, rfl, .refl data⟩
    · simp only [perform, setTaskMeta, hread, settle]
    · simp only [StoreCall.naming, perform, setTaskMeta, hreadUnknown, settle]
  | requireInput other requests message =>
    obtain rfl := Option.some.inj htarget
    refine ⟨data, .done (.ok false), ?_, ?_, rfl, .refl data⟩
    · simp only [perform, requireInput, hread, settle]
    · simp only [StoreCall.naming, perform, requireInput, hreadUnknown, settle]
  | applyInputResponses other responses =>
    obtain rfl := Option.some.inj htarget
    refine ⟨data, .applied (.ok none), ?_, ?_, rfl, .refl data⟩
    · simp only [perform, applyInputResponses, hread, settle]
    · simp only [StoreCall.naming, perform, applyInputResponses, hreadUnknown, settle]
  | setStatus other status message =>
    obtain rfl := Option.some.inj htarget
    cases hterminal : status.isTerminal with
    | true =>
      -- the status is refused before the task is looked up
      obtain ⟨error, herror⟩ : ∃ error, ∀ id,
          store.setStatus now id status message data = .error error :=
        ⟨_, fun id => by rw [setStatus, if_pos hterminal]⟩
      refine ⟨data, .done (.error error), ?_, ?_, rfl, .refl data⟩
      · rw [perform, herror, settle]
      · rw [StoreCall.naming, perform, herror, settle]
    | false =>
      refine ⟨data, .done (.ok false), ?_, ?_, rfl, .refl data⟩
      · rw [perform, setStatus, hterminal, if_neg Bool.false_ne_true, hread, settle]
      · rw [StoreCall.naming, perform, setStatus, hterminal, if_neg Bool.false_ne_true,
          hreadUnknown, settle]
  | setTtl other ttlMs =>
    obtain rfl := Option.some.inj htarget
    refine ⟨data, .done (.ok false), ?_, ?_, rfl, .refl data⟩
    · cases hlookup : data.tasks.lookup other with
      | none => simp only [perform, setTtl, hlookup]
      | some stored => simp only [perform, setTtl, hlookup, hexpired stored hlookup, if_true]
    · simp only [StoreCall.naming, perform, setTtl, hunknown]
  | completeTask other result =>
    obtain rfl := Option.some.inj htarget
    obtain ⟨final, hrun, hsame⟩ := hfinish (validatePayload result store.retentionLimits)
      (Task.complete now · result)
    refine ⟨final, .done (.ok false), ?_, ?_, rfl, hsame⟩
    · rw [perform, complete_task_eq, hrun]
      rfl
    · rw [StoreCall.naming, perform, completeTask, hunknown]
      rfl
  | failTask other error =>
    obtain rfl := Option.some.inj htarget
    obtain ⟨final, hrun, hsame⟩ := hfinish
      (do
        let _ ← validatePayload error store.retentionLimits
        validatePrefixedString error.message "Task failed: " store.retentionLimits)
      (Task.fail now · error)
    refine ⟨final, .done (.ok false), ?_, ?_, rfl, hsame⟩
    · rw [perform, fail_task_eq, hrun]
      rfl
    · rw [StoreCall.naming, perform, failTask, hunknown]
      rfl
  | cancelTask other reason =>
    obtain rfl := Option.some.inj htarget
    have hnaming : store.perform now (.cancelTask unknown reason) data =
        .ok (data, .object none) := by
      rw [perform, cancelTask, hunknown]
      rfl
    cases hlookup : data.tasks.lookup other with
    | none =>
      refine ⟨data, .object none, ?_, hnaming, rfl, .refl data⟩
      rw [perform, cancelTask, hlookup]
      rfl
    | some stored =>
      refine ⟨_, .object none, ?_, hnaming, rfl, .put_back hlookup⟩
      rw [perform, cancelTask, hlookup]
      dsimp only
      rw [hexpired stored hlookup, if_pos rfl]
      rfl

/-! ## What the records of a run keep -/

structure StoredTask.Spent (stored : StoredTask) : Prop where
  scrubbed : stored.scrubExpiredPayload = stored
  raised : stored.task.cancellationToken = true

theorem spent_retired_record {stored : StoredTask} (h : stored.expirySignalled = false) :
    (retiredRecord stored).Spent := by
  unfold retiredRecord StoredTask.signalExpiry
  rw [h]
  exact ⟨rfl, rfl⟩

structure Marked (world : TaskStore.World) : Prop where
  named : ∀ id stored, world.data.tasks.lookup id = some stored → stored.task.id = id
  spent : ∀ id stored, world.data.tasks.lookup id = some stored → stored.expirySignalled = true →
    stored.Spent

theorem marked_init : Marked {} where
  named := by
    intro id stored h
    simp at h
  spent := by
    intro id stored h
    simp at h

theorem Marked.step {store : MemoryTaskStore} {world next : TaskStore.World}
    {event : TaskStore.Event} {reply : Reply} (h : Marked world)
    (hstep : TaskStore.Stepped store world event next reply) : Marked next := by
  have hboth : ∀ id stored, next.data.tasks.lookup id = some stored →
      stored.task.id = id ∧ (stored.expirySignalled = true → stored.Spent) := by
    intro id stored hlookup
    have hchange := hstep.changes id
    rw [hlookup] at hchange
    generalize hbefore : world.data.tasks.lookup id = held at hchange
    cases hchange with
    | kept _ _ => exact ⟨h.named id stored hbefore, h.spent id stored hbefore⟩
    | admitted _ _ _ _ _ _ _ _ task unsignalled =>
      refine ⟨by rw [task]; rfl, fun hsignalled => ?_⟩
      rw [unsignalled] at hsignalled
      cases hsignalled
    | changed old _ _ _ unsignalled task =>
      refine ⟨(same_origin_of_task_change task).id.trans (h.named id old hbefore), fun hsignalled => ?_⟩
      rw [unsignalled.2] at hsignalled
      cases hsignalled
    | retired _ old _ retiring =>
      have hunsignalled := (is_retiring_iff.1 retiring).2
      refine ⟨?_, fun _ => spent_retired_record hunsignalled⟩
      have hsame : (retiredRecord old).task.id = old.task.id := by
        unfold retiredRecord StoredTask.signalExpiry
        rw [hunsignalled]
        rfl
      exact hsame.trans (h.named id old hbefore)
  exact ⟨fun id stored hlookup => (hboth id stored hlookup).1,
    fun id stored hlookup => (hboth id stored hlookup).2⟩

def Over (id : String) (world : TaskStore.World) : Prop :=
  id ∈ TaskStore.drawnIds world.events ∧
    ∀ stored, world.data.tasks.lookup id = some stored →
      stored.task.isExpiredAt world.clock = true

theorem over_step {store : MemoryTaskStore} {world next : TaskStore.World}
    {event : TaskStore.Event} {reply : Reply} (h : Over id world)
    (hfresh : TaskStore.FreshDraw world event)
    (hstep : TaskStore.Stepped store world event next reply) : Over id next := by
  refine ⟨TaskStore.drawn_of_stepped hstep h.1, ?_⟩
  intro stored hlookup
  rw [hstep.clock]
  have hexpired : ∀ old, world.data.tasks.lookup id = some old →
      old.task.isExpiredAt event.now.instant = true :=
    fun old hold => Task.is_expired_at_mono hstep.later (h.2 old hold)
  have hchange := hstep.changes id
  rw [hlookup] at hchange
  generalize hbefore : world.data.tasks.lookup id = held at hchange
  cases hchange with
  | kept _ _ => exact hexpired stored hbefore
  | admitted _ _ _ _ _ _ _ drawn _ _ =>
    refine absurd h.1 (hfresh id ?_)
    rw [drawn]
    rfl
  | changed old _ _ unexpired _ _ =>
    -- set_ttl included: no call changes a record that has expired
    rw [hexpired old hbefore] at unexpired
    cases unexpired
  | retired _ old _ _ =>
    rw [is_expired_at_retired_record]
    exact hexpired old hbefore

namespace TaskWaiters

/-- Every read of a task by its identifier answers what it answers for another identifier, and
waiting for it returns at once. -/
structure ReadsLike (world : World) (now : Instant) (id unknown : String) : Prop where
  task : getTask world.store.data now id = getTask world.store.data now unknown
  owner : taskOwner world.store.data now id = taskOwner world.store.data now unknown
  snapshot : getTaskResult world.store.data now id = getTaskResult world.store.data now unknown
  requests : outstandingInputRequests world.store.data now id =
    outstandingInputRequests world.store.data now unknown
  resume : resumeContext world.store.data now id = resumeContext world.store.data now unknown
  responses : inputResponses world.store.data now id = inputResponses world.store.data now unknown
  waited : ∃ answer,
    world.register now id = { world with returned := (id, answer) :: world.returned } ∧
    world.register now unknown = { world with returned := (unknown, answer) :: world.returned }

section Run

variable {store : MemoryTaskStore} {world next : World} {id unknown : String}

variable {now : Instant}

theorem unreadable_of_over (h : Over id world.store)
    (hnow : world.store.clock ≤ now) : readable world.store.data now id = none := by
  cases hlookup : world.store.data.tasks.lookup id with
  | none => exact readable_of_lookup_none hlookup
  | some stored =>
    exact readable_of_expired hlookup (Task.is_expired_at_mono hnow (h.2 stored hlookup))

theorem reads_like_of_unreadable
    (hid : readable world.store.data now id = none)
    (hunknown : readable world.store.data now unknown = none) :
    ReadsLike world now id unknown where
  task := by rw [getTask, getTask, hid, hunknown]
  owner := by rw [taskOwner, taskOwner, hid, hunknown]
  snapshot := by rw [getTaskResult, getTaskResult, hid, hunknown]
  requests := by rw [outstandingInputRequests, outstandingInputRequests, hid, hunknown]
  resume := by rw [resumeContext, resumeContext, hid, hunknown]
  responses := by rw [inputResponses, inputResponses, resumeContext, resumeContext, hid, hunknown]
  waited := by
    refine ⟨none, ?_, ?_⟩
    · rw [World.register, hid]
    · rw [World.register, hunknown]

theorem not_listed_of_over (h : Over id world.store)
    (hmarked : Marked world.store) (hnow : world.store.clock ≤ now)
    (statusFilter : Option TaskStatus) :
    ∀ object ∈ listTasks world.store.data now statusFilter, object.taskId ≠ id := by
  intro object hmem hobject
  obtain ⟨key, stored, hread, rfl, _⟩ := mem_list_tasks_iff.1 hmem
  have hname : stored.task.id = key := hmarked.named key stored (readable_eq_some.1 hread).1
  have hkey : key = id := hname.symm.trans hobject
  rw [hkey, unreadable_of_over h hnow] at hread
  cases hread

theorem retirement_of_over (hsound : TaskStore.Sound store world.store)
    (hmarked : Marked world.store) (h : Over id world.store) {moment : Moment}
    (hmoment : world.store.clock ≤ moment.instant) (remove : Bool) :
    ∃ data retirement,
      store.retireExpired moment.instant remove world.store.data = .ok (data, retirement) ∧
      (∀ stored, data.tasks.lookup id = some stored → stored.scrubExpiredPayload = stored) ∧
      ((world.store.data.tasks.lookup id).isSome → (handlesAfter ⟨moment, .retireExpired remove⟩
        world.store.data data world.handles id).raised = true) := by
  obtain ⟨data, retirement, hrun, hsettled⟩ :=
    retire_expired_settled store moment hsound.accounted remove
  have hspent : ∀ old, world.store.data.tasks.lookup id = some old →
      (retireRecord moment.instant old).Spent := by
    intro old hold
    have hexpired := Task.is_expired_at_mono hmoment (h.2 old hold)
    have hretired : RecordRetired moment.instant old :=
      record_retired (hsound.accounted.wellFormed id old hold)
        (le_trans (hsound.accounted.charge_le hold) store.retentionLimits.maxRetainedBytes_le)
    rw [hretired.record]
    cases hsignalled : old.expirySignalled with
    | false =>
      rw [if_pos (is_retiring_iff.2 ⟨hexpired, hsignalled⟩)]
      exact spent_retired_record hsignalled
    | true =>
      have hspent := hmarked.spent id old hold hsignalled
      split
      next hretiring =>
        have hfresh := (is_retiring_iff.1 hretiring).2
        rw [hsignalled] at hfresh
        cases hfresh
      next => exact hspent
  have hafter : ∀ stored, data.tasks.lookup id = some stored →
      ∃ old, world.store.data.tasks.lookup id = some old ∧
        stored = retireRecord moment.instant old := by
    intro stored hlookup
    obtain ⟨_, other, hother, htasks, _⟩ :=
      retire_expired_ok store moment.instant hsound.accounted remove
    obtain ⟨rfl, _⟩ := Prod.mk.inj (Except.ok.inj (hrun.symm.trans hother))
    rw [htasks, lookup_retired_tasks, Option.filter_eq_some_iff] at hlookup
    obtain ⟨old, hold, rfl⟩ := Option.map_eq_some_iff.1 hlookup.1
    exact ⟨old, hold, rfl⟩
  refine ⟨data, retirement, hrun, ?_, ?_⟩
  · intro stored hlookup
    obtain ⟨old, hold, rfl⟩ := hafter stored hlookup
    exact (hspent old hold).scrubbed
  · intro hheld
    obtain ⟨old, hold⟩ := Option.isSome_iff_exists.1 hheld
    cases hlookup : data.tasks.lookup id with
    | none =>
      simp only [handlesAfter, hlookup, hold]
      simp [Handle.follow, (hspent old hold).raised]
    | some stored =>
      obtain ⟨same, hsame, rfl⟩ := hafter stored hlookup
      rw [handles_after_held hlookup]
      simp [Handle.follow, (hspent same hsame).raised]

end Run

/-- Once the clock has reached the deadline of a task, then in every state of every later run and at
every later moment: each read of the task answers what it answers for an identifier the store does not
hold; each call that names it, other than a discard, answers what it answers for such an identifier
and changes nothing; no list shows it; and a retirement leaves no payload in its record, if it is
still held, and its token raised. -/
theorem expiry_is_permanent (store : MemoryTaskStore) (earlier later : List Event)
    (middle final : World) (now : Instant) (moment : Moment) (id : String)
    (hfresh : ((earlier ++ later).filterMap Event.drawnId).Nodup)
    (hearlier : run (step store) {} earlier = some middle)
    (hcreated : id ∈ TaskStore.drawnIds middle.store.events)
    (hnow : middle.store.clock ≤ now)
    (hexpired : ∀ stored, middle.store.data.tasks.lookup id = some stored →
      stored.task.isExpiredAt now = true)
    (hlater : run (step store) (middle.advance now) later = some final)
    (hmoment : final.store.clock ≤ moment.instant) :
    (∀ unknown, final.store.data.tasks.lookup unknown = none →
      ReadsLike final moment.instant id unknown ∧
      ∀ call : StoreCall, call.target = some id → call ≠ .discardTask id →
        ∃ data reply, store.perform moment call final.store.data = .ok (data, reply) ∧
          store.perform moment (call.naming unknown) final.store.data =
            .ok (final.store.data, reply) ∧
          reply.isQuiet = true ∧ SameData final.store.data data) ∧
    (∀ statusFilter, ∀ object ∈ listTasks final.store.data moment.instant statusFilter,
      object.taskId ≠ id) ∧
    ∀ remove, ∃ data retirement,
      store.retireExpired moment.instant remove final.store.data = .ok (data, retirement) ∧
      (∀ stored, data.tasks.lookup id = some stored → stored.scrubExpiredPayload = stored) ∧
      ((final.store.data.tasks.lookup id).isSome → (handlesAfter ⟨moment, .retireExpired remove⟩
        final.store.data data final.handles id).raised = true) := by
  have hadds : ∀ (state : World) (event : Event) (next : World), step store state event = some next →
      ∀ other, other ∈ TaskStore.drawnIds next.store.events →
        other ∈ TaskStore.drawnIds state.store.events ∨ event.drawnId = some other :=
    fun _ _ _ hstep => drawn_of_step hstep
  rw [List.filterMap_append] at hfresh
  obtain ⟨hfirst, hsecond, hapart⟩ := List.nodup_append.1 hfresh
  have hnone : ∀ other, other ∉ TaskStore.drawnIds ({} : World).store.events := by
    intro other hmem
    simp [TaskStore.World.events, TaskStore.drawnIds] at hmem
  have hbefore : Along (step store) FreshDraw {} earlier :=
    along_fresh hadds hfirst fun other _ => hnone other
  have hafter : Along (step store) FreshDraw (middle.advance now) later := by
    refine along_fresh hadds hsecond fun other hother hdrawn => ?_
    rcases drawn_of_run hadds hearlier other hdrawn with hstart | hmem
    · exact hnone other hstart
    · exact hapart other hmem other hother rfl
  have hmiddle : Tracked store middle ∧ Marked middle.store := by
    refine along_invariant (I := fun world => Tracked store world ∧ Marked world.store) ?_
      ⟨tracked_init store, marked_init⟩ hbefore hearlier
    intro state event next hstate hdraw hstep
    refine ⟨(step_facts hstate.1 hdraw hstep).1, ?_⟩
    exact store_invariant hstate.1 hdraw hstep (fun _ _ _ _ hmarked hcall => hmarked.step hcall)
      (fun _ _ hmarked => ⟨hmarked.named, hmarked.spent⟩) hstate.2
  have hadvanced : Tracked store (middle.advance now) ∧ Marked (middle.advance now).store ∧
      Over id (middle.advance now).store :=
    ⟨tracked_advance hmiddle.1 hnow, ⟨hmiddle.2.named, hmiddle.2.spent⟩, hcreated, hexpired⟩
  have hfinal : Tracked store final ∧ Marked final.store ∧ Over id final.store := by
    refine along_invariant
      (I := fun world => Tracked store world ∧ Marked world.store ∧ Over id world.store) ?_
      hadvanced hafter hlater
    intro state event next hstate hdraw hstep
    refine ⟨(step_facts hstate.1 hdraw hstep).1, ?_, ?_⟩
    · exact store_invariant hstate.1 hdraw hstep (fun _ _ _ _ hmarked hcall => hmarked.step hcall)
        (fun _ _ hmarked => ⟨hmarked.named, hmarked.spent⟩) hstate.2.1
    · refine store_invariant hstate.1 hdraw hstep
        (fun _ _ _ hcallDraw hover hcall => over_step hover hcallDraw hcall) ?_ hstate.2.2
      intro later hle hover
      exact ⟨hover.1, fun stored hlookup => Task.is_expired_at_mono hle (hover.2 stored hlookup)⟩
  obtain ⟨htracked, hmarked, hover⟩ := hfinal
  have hread := unreadable_of_over hover hmoment
  refine ⟨fun unknown hunknown => ⟨?_, fun call htarget hkeeps => ?_⟩, ?_, ?_⟩
  · exact reads_like_of_unreadable hread (readable_of_lookup_none hunknown)
  · exact perform_unreadable store moment hread htarget hkeeps hunknown
  · exact not_listed_of_over hover hmarked hmoment
  · exact retirement_of_over htracked.sound hmarked hover hmoment

def briefEvents : List Event :=
  [.call ⟨⟨0, "t0"⟩, .createTask ⟨0, "t0"⟩ "a" "report" .null (some 1) none⟩]

def extendingEvents : List Event :=
  [.call ⟨⟨1000000, "t1"⟩, .setTtl "a" 300000⟩, .raise "a", .wait 1000001 "a"]

theorem expiry_is_permanent_extended :
    ∃ middle final, run (step TaskStore.defaultStore) {} briefEvents = some middle ∧
      run (step TaskStore.defaultStore) (middle.advance 1000000) extendingEvents =
        some final ∧
      ReadsLike final 2000000 "a" "b" := by
  obtain ⟨middle, hmiddle, hcreated, hnow, hexpired, final, hrun, hmoment, hunknown⟩ : ∃ middle,
      run (step TaskStore.defaultStore) {} briefEvents = some middle ∧
        "a" ∈ TaskStore.drawnIds middle.store.events ∧ middle.store.clock ≤ 1000000 ∧
        (∀ stored ∈ middle.store.data.tasks.lookup "a",
          stored.task.isExpiredAt 1000000 = true) ∧
        ∃ final, run (step TaskStore.defaultStore) (middle.advance 1000000)
            extendingEvents = some final ∧
          final.store.clock ≤ 2000000 ∧ final.store.data.tasks.lookup "b" = none := by
    decide +kernel
  exact ⟨middle, final, hmiddle, hrun,
    ((expiry_is_permanent TaskStore.defaultStore briefEvents extendingEvents middle final 1000000
      ⟨2000000, "t2"⟩ "a" (by decide) hmiddle hcreated hnow hexpired hrun hmoment).1 "b"
      hunknown).1⟩

def discards (data : MemoryTaskStoreData) (id : String) : Bool :=
  match discardTask id data with
  | .ok (_, found) => found
  | .error _ => false

/-- The presence of an expired task that is still held differs from that of an unknown one, and so
does the reply to a discard. -/
theorem expired_task_told_from_unknown :
    ∃ world, run (step TaskStore.defaultStore) {} briefEvents = some world ∧
      world.store.data.tasks.lookup "b" = none ∧
      taskPresence world.store.data 1000000 "a" = .expired none ∧
      taskPresence world.store.data 1000000 "b" = .missing ∧
      (∃ data, TaskStore.defaultStore.perform ⟨1000000, "t1"⟩ (.discardTask "a") world.store.data =
        .ok (data, .done (.ok true))) ∧
      TaskStore.defaultStore.perform ⟨1000000, "t1"⟩ (.discardTask "b") world.store.data =
        .ok (world.store.data, .done (.ok false)) := by
  obtain ⟨world, hrun, hunknown, hexpired, hmissing, hdiscards⟩ : ∃ world,
      run (step TaskStore.defaultStore) {} briefEvents = some world ∧
        world.store.data.tasks.lookup "b" = none ∧
        taskPresence world.store.data 1000000 "a" = .expired none ∧
        taskPresence world.store.data 1000000 "b" = .missing ∧
        discards world.store.data "a" = true := by
    decide +kernel
  refine ⟨world, hrun, hunknown, hexpired, hmissing, ?_, ?_⟩
  · unfold discards at hdiscards
    split at hdiscards
    next data found hdiscard =>
      refine ⟨data, ?_⟩
      rw [perform, hdiscard, hdiscards]
      rfl
    next => cases hdiscards
  · rw [perform, discardTask, hunknown]
    rfl

end TaskWaiters

end TowerMcp
