import TowerMcp.Router.TaskAccess

/-!
# Input requests of a live task

`TaskContext::park_input` and `PendingInput::wait`, after `tool/task.rs`, for one live task with
everything that runs beside them. Clones of the context park through one store, one notifier and one
cancellation flag. A call of `park_input` is three steps: its checks, the commit in the store, and
the return of a `PendingInput`. A `wait` checks the flag, and then arms, reads the outstanding
requests and suspends until it is woken, over and over; once none of its keys is outstanding it reads
the responses. A `tasks/update` commits first and wakes the task in a later step, unless the
execution has been unregistered in between.
-/

namespace TowerMcp

open Pool

/-- The errors of `park_input` and `wait`. The error policy of the task maps the last two. -/
inductive InputError where
  | taskCancelled
  | internal (detail : String)
  | store (error : TaskStoreError)

/-- Where a `park_input` and the wait on what it returns stand. `looping` is the top of the loop of
`wait`, `selecting` the place between its read and its `select!`, `suspended` and `woken` are inside
the `select!`, and `answered` is behind the loop. -/
inductive ParkPoint where
  | asking (requests : InputRequests) (message : Option String)
  | parked
  | looping
  | selecting
  | suspended
  | woken
  | answered
  | returned (result : Except InputError InputResponses)

/-- A call of `park_input` with the keys it asks about. -/
structure PendingInput where
  asked : List String
  point : ParkPoint

/-- A live task in its surroundings. `token` is the flag of the execution's own cancellation and
`lifecycle` the token of the store; `permit` and `waiters` are the notifier, with the waiters in the
order they came; `due` counts the updates that have committed and not reached their wake-up. The
handler is `running`, and the registry knows the execution for somewhat longer. -/
structure LiveTask where
  world : TaskStore.World := {}
  token : Bool := false
  lifecycle : Bool := false
  permit : Bool := false
  waiters : List ℕ := []
  parks : Pool PendingInput := {}
  due : ℕ := 0
  running : Bool := true
  registered : Bool := true

namespace LiveTask

/-- What happens around a live task. The tickets name the calls of `park_input`. -/
inductive Event where
  | call (event : TaskStore.Event)
  | ask (requests : InputRequests) (message : Option String)
  | park (ticket : ℕ) (now : Moment)
  | update (now : Moment) (responses : InputResponses)
  | wake
  | cancel
  | wait (ticket : ℕ)
  | look (ticket : ℕ) (now : Instant)
  | poll (ticket : ℕ) (cancelledFirst : Bool)
  | read (ticket : ℕ) (now : Instant)
  | drop (ticket : ℕ)
  | leave
  | unregister

def isCancelled (live : LiveTask) : Bool :=
  live.token || live.lifecycle

def become (live : LiveTask) (ticket : ℕ) (call : PendingInput) (point : ParkPoint) : LiveTask :=
  { live with parks := live.parks.become ticket { call with point := point } }

/-- `Notify::notify_one`: wake the waiter that has waited longest, or leave a permit. -/
def notifyOne (live : LiveTask) : LiveTask :=
  match live.waiters with
  | [] => { live with permit := true }
  | ticket :: rest =>
    match live.parks.get ticket with
    | some call => { live with waiters := rest }.become ticket call .woken
    | none => { live with waiters := rest }

/-- Whether a call raises the token of the task: the record holds it raised afterwards, or the call
has retired the record, which raises the token before it removes anything. -/
def raises (id : String) (event : TaskStore.Event) (before after : MemoryTaskStoreData) : Bool :=
  (after.tasks.lookup id).any (fun stored => stored.task.cancellationToken) ||
    match event.call with
    | .retireExpired _ =>
      (before.tasks.lookup id).any fun stored => stored.task.isExpiredAt event.now.instant
    | _ => false

def storeCall (store : MemoryTaskStore) (id : String) (live : LiveTask) (event : TaskStore.Event) :
    Option (LiveTask × Reply) :=
  match TaskStore.step store live.world event with
  | none => none
  | some world =>
    if world.fault.isSome then none
    else
      match world.log with
      | [] => none
      | (_, reply) :: _ =>
        some
          ({ live with
              world := world
              lifecycle := live.lifecycle || raises id event live.world.data world.data },
            reply)

def readAt (live : LiveTask) (now : Instant) : Option LiveTask :=
  if now < live.world.clock then none
  else some { live with world := { live.world with clock := now } }

/-- The calls on the task that this model makes at other events, or only after the handler: no one
else parks or answers the task, and the router ends it once its handler has returned. -/
def reserved (id : String) (running : Bool) : StoreCall → Bool
  | .requireInput taskId _ _ | .applyInputResponses taskId _ => taskId == id
  | .completeTask taskId _ | .failTask taskId _ | .discardTask taskId => running && taskId == id
  | _ => false

/-- Where `park_input` gets to by its checks. -/
def asking (live : LiveTask) (requests : InputRequests) (message : Option String) : ParkPoint :=
  if requests.entries.isEmpty then
    .returned (.error (.internal ("require_input needs at least one request, or the task would " ++
      "wait for something that can never arrive")))
  else if live.isCancelled then .returned (.error .taskCancelled)
  else .asking requests message

/-- Where `park_input` gets to by the reply of the store. -/
def parkedBy : Reply → ParkPoint
  | .done (.ok true) => .parked
  | .done (.error error) => .returned (.error (.store error))
  | _ => .returned (.error (.internal
      "the task is already terminal, so it cannot ask for input"))

def goneError (live : LiveTask) (detail : String) : InputError :=
  if live.isCancelled then .taskCancelled else .internal detail

def looked (live : LiveTask) (id : String) (asked : List String) (now : Instant) : ParkPoint :=
  match MemoryTaskStore.outstandingInputRequests live.world.data now id with
  | none => .returned (.error (live.goneError "the task disappeared while waiting for input"))
  | some outstanding =>
    if outstanding.sortedKeys.any fun key => asked.contains key then .selecting else .answered

def responsesRead (live : LiveTask) (id : String) (asked : List String) (now : Instant) :
    Except InputError InputResponses :=
  match MemoryTaskStore.inputResponses live.world.data now id with
  | none => .error (live.goneError
      "the task disappeared before its input responses could be read")
  | some all => .ok (all.filterKeys fun key => asked.contains key)

/-- The first poll of the `select!`. Its branches are polled in either order; the notifier's takes
the permit, or else the wait suspends. -/
def select (live : LiveTask) (ticket : ℕ) (call : PendingInput) (cancelledFirst : Bool) :
    LiveTask :=
  if cancelledFirst && live.isCancelled then
    live.become ticket call (.returned (.error .taskCancelled))
  else if live.permit then { live with permit := false }.become ticket call .looping
  else if live.isCancelled then live.become ticket call (.returned (.error .taskCancelled))
  else { live with waiters := live.waiters ++ [ticket] }.become ticket call .suspended

/-- A later poll of the `select!`. A waiter that was notified and returns for another reason passes
the notification on. -/
def resume (live : LiveTask) (ticket : ℕ) (call : PendingInput) (cancelledFirst : Bool) :
    Option LiveTask :=
  match call.point with
  | .suspended =>
    if live.isCancelled then
      some ({ live with waiters := live.waiters.erase ticket }.become ticket call
        (.returned (.error .taskCancelled)))
    else none
  | .woken =>
    if cancelledFirst && live.isCancelled then
      some (live.become ticket call (.returned (.error .taskCancelled))).notifyOne
    else some (live.become ticket call .looping)
  | _ => none

/-- Drop a `PendingInput`, or the future that parks or waits. -/
def dropCall (live : LiveTask) (ticket : ℕ) (call : PendingInput) : Option LiveTask :=
  let dropped : LiveTask :=
    { live with
      parks := live.parks.finish ticket
      waiters := live.waiters.erase ticket }
  match call.point with
  | .returned _ => none
  | .woken => some dropped.notifyOne
  | _ => some dropped

/-- One event around the live task `id`. -/
def step (store : MemoryTaskStore) (id : String) (live : LiveTask) : Event → Option LiveTask
  | .call event =>
    if reserved id live.running event.call then none
    else (storeCall store id live event).map (·.1)
  | .ask requests message =>
    some { live with
      parks := live.parks.start ⟨requests.sortedKeys, live.asking requests message⟩ }
  | .park ticket now =>
    match live.parks.get ticket with
    | some ⟨asked, .asking requests message⟩ => do
      let (live, reply) ← storeCall store id live ⟨now, .requireInput id requests message⟩
      some (live.become ticket ⟨asked, .asking requests message⟩ (parkedBy reply))
    | _ => none
  | .update now responses => do
    let (live, reply) ← storeCall store id live ⟨now, .applyInputResponses id responses⟩
    match reply with
    | .applied (.ok (some applied)) =>
      some (if TaskRouter.resumes applied then { live with due := live.due + 1 } else live)
    | _ => some live
  | .wake =>
    if live.due = 0 then none
    else
      let live := { live with due := live.due - 1 }
      some (if live.registered then live.notifyOne else live)
  | .cancel => some { live with token := true }
  | .wait ticket =>
    match live.parks.get ticket with
    | some ⟨asked, .parked⟩ =>
      some (live.become ticket ⟨asked, .parked⟩
        (if live.isCancelled then .returned (.error .taskCancelled) else .looping))
    | _ => none
  | .look ticket now =>
    match live.parks.get ticket with
    | some ⟨asked, .looping⟩ =>
      (live.readAt now).map fun live =>
        live.become ticket ⟨asked, .looping⟩ (live.looked id asked now)
    | _ => none
  | .poll ticket cancelledFirst =>
    match live.parks.get ticket with
    | some ⟨asked, .selecting⟩ =>
      some (live.select ticket ⟨asked, .selecting⟩ cancelledFirst)
    | some call => live.resume ticket call cancelledFirst
    | none => none
  | .read ticket now =>
    match live.parks.get ticket with
    | some ⟨asked, .answered⟩ =>
      (live.readAt now).map fun live =>
        live.become ticket ⟨asked, .answered⟩ (.returned (live.responsesRead id asked now))
    | _ => none
  | .drop ticket =>
    match live.parks.get ticket with
    | some call => live.dropCall ticket call
    | none => none
  | .leave => if live.running then some { live with running := false } else none
  | .unregister =>
    if !live.running && live.registered then some { live with registered := false } else none

/-! ## The notifier -/

structure Queued (live : LiveTask) : Prop where
  numbered : live.parks.Numbered
  nodup : live.waiters.Nodup
  suspended : ∀ ticket, ticket ∈ live.waiters ↔
    ∃ asked, live.parks.get ticket = some ⟨asked, .suspended⟩
  permit : live.permit = true → live.waiters = []

variable {store : MemoryTaskStore} {id : String} {live next : LiveTask} {ticket : ℕ}
  {call : PendingInput} {point : ParkPoint}

theorem queued_init : Queued {} where
  numbered := numbered_empty
  nodup := List.nodup_nil
  suspended := by
    intro ticket
    simp [Pool.get]
  permit := fun h => by cases h

theorem get_become (live : LiveTask) (ticket : ℕ) (call : PendingInput) (point : ParkPoint)
    (other : ℕ) :
    (live.become ticket call point).parks.get other =
      if other = ticket then some { call with point := point } else live.parks.get other :=
  get_become_eq_ite live.parks ticket _ other

theorem Queued.become (h : live.Queued) (hget : live.parks.get ticket = some call)
    (hbefore : call.point ≠ .suspended) (hafter : point ≠ .suspended) :
    (live.become ticket call point).Queued where
  numbered := h.numbered.become hget _
  nodup := h.nodup
  suspended := by
    intro other
    show other ∈ live.waiters ↔ _
    rw [h.suspended, get_become]
    split
    next hother =>
      subst hother
      constructor
      · rintro ⟨asked, hsuspended⟩
        rw [hget] at hsuspended
        exact absurd (congrArg PendingInput.point (Option.some.inj hsuspended)) hbefore
      · rintro ⟨asked, hsuspended⟩
        exact absurd (congrArg PendingInput.point (Option.some.inj hsuspended)) hafter
    next => exact Iff.rfl
  permit := h.permit

theorem Queued.start (h : live.Queued) {asked : List String} (hpoint : point ≠ .suspended) :
    Queued { live with parks := live.parks.start ⟨asked, point⟩ } where
  numbered := h.numbered.start _
  nodup := h.nodup
  suspended := by
    intro other
    show other ∈ live.waiters ↔ ∃ asked', (live.parks.start ⟨asked, point⟩).get other = _
    rw [h.suspended, get_start_eq_ite]
    split
    next hother =>
      subst hother
      rw [h.numbered.get_next]
      constructor
      · rintro ⟨asked', hnone⟩
        cases hnone
      · rintro ⟨asked', hsuspended⟩
        exact absurd (congrArg PendingInput.point (Option.some.inj hsuspended)) hpoint
    next => exact Iff.rfl
  permit := h.permit

theorem notify_one_cases (h : live.Queued) :
    (live.waiters = [] ∧ live.notifyOne = { live with permit := true }) ∨
      ∃ ticket rest asked, live.waiters = ticket :: rest ∧
        live.parks.get ticket = some ⟨asked, .suspended⟩ ∧
        live.notifyOne =
          { live with waiters := rest }.become ticket ⟨asked, .suspended⟩ .woken := by
  unfold notifyOne
  cases hwaiters : live.waiters with
  | nil => exact .inl ⟨rfl, rfl⟩
  | cons ticket rest =>
    obtain ⟨asked, hget⟩ := (h.suspended ticket).1 (by rw [hwaiters]; exact List.mem_cons_self)
    refine .inr ⟨ticket, rest, asked, rfl, hget, ?_⟩
    dsimp only
    rw [hget]

theorem Queued.notify_one (h : live.Queued) : live.notifyOne.Queued := by
  obtain ⟨hnone, heq⟩ | ⟨ticket, rest, asked, hwaiters, hget, heq⟩ := notify_one_cases h
  · rw [heq]
    exact ⟨h.numbered, h.nodup, h.suspended, fun _ => hnone⟩
  · have hnodup := h.nodup
    rw [hwaiters, List.nodup_cons] at hnodup
    rw [heq]
    refine ⟨h.numbered.become hget _, hnodup.2, ?_, ?_⟩
    · intro other
      show other ∈ rest ↔ _
      have hother := h.suspended other
      rw [hwaiters, List.mem_cons] at hother
      rw [get_become]
      split
      next heq =>
        subst heq
        constructor
        · exact fun hmem => absurd hmem hnodup.1
        · rintro ⟨asked', hsuspended⟩
          cases hsuspended
      next hne => exact ⟨fun hmem => hother.1 (.inr hmem),
          fun hsuspended => (hother.2 hsuspended).resolve_left hne⟩
    · intro hpermit
      rw [h.permit hpermit] at hwaiters
      cases hwaiters

theorem Queued.erase (h : live.Queued) {parks : Pool PendingInput} (hnumbered : parks.Numbered)
    (hgone : ∀ asked, parks.get ticket ≠ some ⟨asked, .suspended⟩)
    (hother : ∀ other, other ≠ ticket → parks.get other = live.parks.get other) :
    Queued { live with parks := parks, waiters := live.waiters.erase ticket } where
  numbered := hnumbered
  nodup := h.nodup.erase _
  suspended := by
    intro other
    show other ∈ live.waiters.erase ticket ↔ ∃ asked, parks.get other = _
    rw [h.nodup.mem_erase_iff]
    by_cases heq : other = ticket
    · subst heq
      exact ⟨fun hmem => absurd rfl hmem.1, fun ⟨asked, hget⟩ => absurd hget (hgone asked)⟩
    · rw [hother other heq, h.suspended]
      exact ⟨fun hmem => hmem.2, fun hget => ⟨heq, hget⟩⟩
  permit := by
    intro hpermit
    show live.waiters.erase ticket = []
    rw [h.permit hpermit]
    rfl

theorem Queued.suspend (h : live.Queued) (hget : live.parks.get ticket = some call)
    (hbefore : call.point ≠ .suspended) (hpermit : live.permit = false) :
    ({ live with waiters := live.waiters ++ [ticket] }.become ticket call .suspended).Queued where
  numbered := h.numbered.become hget _
  nodup := by
    have hnot : ticket ∉ live.waiters := by
      intro hmem
      obtain ⟨asked, hsuspended⟩ := (h.suspended ticket).1 hmem
      rw [hget] at hsuspended
      exact hbefore (congrArg PendingInput.point (Option.some.inj hsuspended))
    show (live.waiters ++ [ticket]).Nodup
    rw [List.nodup_append]
    refine ⟨h.nodup, List.nodup_singleton ticket, ?_⟩
    intro other hmem last hlast
    rw [List.mem_singleton] at hlast
    rintro rfl
    exact hnot (hlast ▸ hmem)
  suspended := by
    intro other
    show other ∈ live.waiters ++ [ticket] ↔ _
    rw [List.mem_append, List.mem_singleton, h.suspended, get_become]
    split
    next hother => exact ⟨fun _ => ⟨call.asked, rfl⟩, fun _ => .inr hother⟩
    next hother => exact or_iff_left hother
  permit := by
    intro hpermit'
    exact absurd (hpermit.symm.trans hpermit') Bool.false_ne_true

theorem Queued.drop (h : live.Queued) (ticket : ℕ) :
    Queued { live with
      parks := live.parks.finish ticket, waiters := live.waiters.erase ticket } := by
  refine h.erase (h.numbered.finish ticket) ?_ ?_
  · intro asked hsuspended
    rw [get_finish_eq_ite, if_pos rfl] at hsuspended
    cases hsuspended
  · intro other hother
    rw [get_finish_eq_ite, if_neg hother]

theorem select_cases (live : LiveTask) (ticket : ℕ) (call : PendingInput) (cancelledFirst : Bool) :
    (live.isCancelled = true ∧ live.select ticket call cancelledFirst =
        live.become ticket call (.returned (.error .taskCancelled))) ∨
      (live.permit = true ∧ live.select ticket call cancelledFirst =
        { live with permit := false }.become ticket call .looping) ∨
      (live.permit = false ∧ live.isCancelled = false ∧
        live.select ticket call cancelledFirst =
          { live with waiters := live.waiters ++ [ticket] }.become ticket call .suspended) := by
  unfold select
  split
  next hfirst =>
    rw [Bool.and_eq_true] at hfirst
    exact .inl ⟨hfirst.2, rfl⟩
  next =>
    split
    next hpermit => exact .inr (.inl ⟨hpermit, rfl⟩)
    next hpermit =>
      split
      next hcancelled => exact .inl ⟨hcancelled, rfl⟩
      next hcancelled =>
        exact .inr (.inr ⟨Bool.eq_false_iff.2 hpermit, Bool.eq_false_iff.2 hcancelled, rfl⟩)

theorem resume_cases {cancelledFirst : Bool}
    (h : live.resume ticket call cancelledFirst = some next) :
    (call.point = .suspended ∧ live.isCancelled = true ∧
        next = { live with waiters := live.waiters.erase ticket }.become ticket call
          (.returned (.error .taskCancelled))) ∨
      (call.point = .woken ∧ live.isCancelled = true ∧
        next = (live.become ticket call (.returned (.error .taskCancelled))).notifyOne) ∨
      (call.point = .woken ∧ next = live.become ticket call .looping) := by
  unfold resume at h
  split at h
  next hpoint =>
    split at h
    next hcancelled => exact .inl ⟨hpoint, hcancelled, (Option.some.inj h).symm⟩
    next => cases h
  next hpoint =>
    split at h
    next hfirst =>
      rw [Bool.and_eq_true] at hfirst
      exact .inr (.inl ⟨hpoint, hfirst.2, (Option.some.inj h).symm⟩)
    next => exact .inr (.inr ⟨hpoint, (Option.some.inj h).symm⟩)
  next => cases h

theorem drop_call_cases (h : live.dropCall ticket call = some next) :
    next = { live with
        parks := live.parks.finish ticket, waiters := live.waiters.erase ticket } ∨
      next = { live with
        parks := live.parks.finish ticket, waiters := live.waiters.erase ticket }.notifyOne := by
  unfold dropCall at h
  dsimp only at h
  split at h
  · cases h
  · exact .inr (Option.some.inj h).symm
  · exact .inl (Option.some.inj h).symm

/-! ## What a step does -/

def laterAt (live : LiveTask) (now : Instant) : LiveTask :=
  { live with world := { live.world with clock := now } }

inductive Taken (store : MemoryTaskStore) (id : String) (live : LiveTask) : Event → LiveTask → Prop
    where
  | called (event : TaskStore.Event) (next : LiveTask) (reply : Reply)
      (free : reserved id live.running event.call = false)
      (returned : storeCall store id live event = some (next, reply)) :
      Taken store id live (.call event) next
  | asked (requests : InputRequests) (message : Option String) :
      Taken store id live (.ask requests message) { live with
        parks := live.parks.start ⟨requests.sortedKeys, live.asking requests message⟩ }
  | parked (ticket : ℕ) (now : Moment) (asked : List String) (requests : InputRequests)
      (message : Option String) (middle : LiveTask) (reply : Reply)
      (held : live.parks.get ticket = some ⟨asked, .asking requests message⟩)
      (returned : storeCall store id live ⟨now, .requireInput id requests message⟩ =
        some (middle, reply)) :
      Taken store id live (.park ticket now)
        (middle.become ticket ⟨asked, .asking requests message⟩ (parkedBy reply))
  | updated (now : Moment) (responses : InputResponses) (middle : LiveTask) (reply : Reply)
      (due : ℕ)
      (returned : storeCall store id live ⟨now, .applyInputResponses id responses⟩ =
        some (middle, reply))
      (counted : live.due ≤ due)
      (resumed : ∀ applied, reply = .applied (.ok (some applied)) →
        TaskRouter.resumes applied = true → 0 < due) :
      Taken store id live (.update now responses) { middle with due := due }
  | wokenUp (pending : 0 < live.due) (next : LiveTask)
      (woken : next = { live with due := live.due - 1 }.notifyOne ∨
        live.registered = false ∧ next = { live with due := live.due - 1 }) :
      Taken store id live .wake next
  | cancelled : Taken store id live .cancel { live with token := true }
  | waited (ticket : ℕ) (asked : List String)
      (held : live.parks.get ticket = some ⟨asked, .parked⟩) :
      Taken store id live (.wait ticket) (live.become ticket ⟨asked, .parked⟩
        (if live.isCancelled then .returned (.error .taskCancelled) else .looping))
  | looked (ticket : ℕ) (now : Instant) (asked : List String)
      (held : live.parks.get ticket = some ⟨asked, .looping⟩) (later : live.world.clock ≤ now) :
      Taken store id live (.look ticket now) ((live.laterAt now).become ticket ⟨asked, .looping⟩
        ((live.laterAt now).looked id asked now))
  | selected (ticket : ℕ) (cancelledFirst : Bool) (asked : List String)
      (held : live.parks.get ticket = some ⟨asked, .selecting⟩) :
      Taken store id live (.poll ticket cancelledFirst)
        (live.select ticket ⟨asked, .selecting⟩ cancelledFirst)
  | resumed (ticket : ℕ) (cancelledFirst : Bool) (call : PendingInput) (next : LiveTask)
      (held : live.parks.get ticket = some call)
      (polled : live.resume ticket call cancelledFirst = some next) :
      Taken store id live (.poll ticket cancelledFirst) next
  | wasRead (ticket : ℕ) (now : Instant) (asked : List String)
      (held : live.parks.get ticket = some ⟨asked, .answered⟩) (later : live.world.clock ≤ now) :
      Taken store id live (.read ticket now) ((live.laterAt now).become ticket ⟨asked, .answered⟩
        (.returned ((live.laterAt now).responsesRead id asked now)))
  | dropped (ticket : ℕ) (call : PendingInput) (next : LiveTask)
      (held : live.parks.get ticket = some call)
      (gone : live.dropCall ticket call = some next) :
      Taken store id live (.drop ticket) next
  | left (running : live.running = true) :
      Taken store id live .leave { live with running := false }
  | unregistered (returned : live.running = false) :
      Taken store id live .unregister { live with registered := false }

theorem Queued.later_at (h : live.Queued) (now : Instant) : (live.laterAt now).Queued :=
  ⟨h.numbered, h.nodup, h.suspended, h.permit⟩

theorem Queued.with_due (h : live.Queued) (due : ℕ) : Queued { live with due := due } :=
  ⟨h.numbered, h.nodup, h.suspended, h.permit⟩

theorem read_at_eq_some {now : Instant} :
    live.readAt now = some next ↔ live.world.clock ≤ now ∧ next = live.laterAt now := by
  unfold readAt
  split
  next hearly => simp [Nat.not_le.2 hearly]
  next hlater =>
    rw [Option.some.injEq]
    exact ⟨fun h => ⟨Nat.not_lt.1 hlater, h.symm⟩, fun h => h.2.symm⟩

variable {reply : Reply}

theorem store_call_frame {event : TaskStore.Event}
    (h : storeCall store id live event = some (next, reply)) :
    TaskStore.step store live.world event = some next.world ∧ next.world.fault = none ∧
      (∃ rest earlier, next.world.log = (earlier, reply) :: rest) ∧
      next = { live with
        world := next.world
        lifecycle := live.lifecycle || raises id event live.world.data next.world.data } := by
  unfold storeCall at h
  split at h
  next => cases h
  next world hstep =>
    split at h
    next => cases h
    next hfault =>
      split at h
      next => cases h
      next earlier reply' rest hlog =>
        cases h
        exact ⟨hstep, Option.not_isSome_iff_eq_none.1 hfault, ⟨rest, earlier, hlog⟩, rfl⟩

variable {event : Event}

theorem taken_of_step (h : step store id live event = some next) :
    Taken store id live event next := by
  cases event with
  | call event =>
    unfold step at h
    dsimp only at h
    split at h
    next => cases h
    next hfree =>
      obtain ⟨⟨after, reply⟩, hcall, rfl⟩ := Option.map_eq_some_iff.1 h
      exact .called event after reply (Bool.eq_false_iff.2 hfree) hcall
  | ask requests message =>
    cases h
    exact .asked requests message
  | park ticket now =>
    unfold step at h
    dsimp only at h
    split at h
    next asked requests message hget =>
      obtain ⟨⟨middle, reply⟩, hcall, hnext⟩ := Option.bind_eq_some_iff.1 h
      cases hnext
      exact .parked ticket now asked requests message middle reply hget hcall
    next => cases h
  | update now responses =>
    obtain ⟨⟨middle, reply⟩, hcall, hnext⟩ := Option.bind_eq_some_iff.1 h
    have hdue : middle.due = live.due := by
      rw [(store_call_frame hcall).2.2.2]
    dsimp only at hnext
    split at hnext
    next applied =>
      cases hnext
      split
      next hresumes =>
        rw [hdue]
        exact .updated now responses middle _ (live.due + 1) hcall (Nat.le_succ _)
          fun _ _ _ => Nat.succ_pos _
      next hidle =>
        refine .updated now responses middle _ middle.due hcall (Nat.le_of_eq hdue.symm) ?_
        intro other hother hresumes
        cases hother
        exact absurd hresumes hidle
    next hother =>
      cases hnext
      exact .updated now responses _ reply _ hcall (Nat.le_of_eq hdue.symm)
        fun applied happlied => absurd happlied (hother applied)
  | wake =>
    unfold step at h
    dsimp only at h
    split at h
    next => cases h
    next hpending =>
      have hpending := Nat.pos_of_ne_zero hpending
      split at h
      next =>
        cases h
        exact .wokenUp hpending _ (.inl rfl)
      next hregistered =>
        cases h
        exact .wokenUp hpending _ (.inr ⟨Bool.eq_false_iff.2 hregistered, rfl⟩)
  | cancel =>
    cases h
    exact .cancelled
  | wait ticket =>
    unfold step at h
    dsimp only at h
    split at h
    next asked hget =>
      cases h
      exact .waited ticket asked hget
    next => cases h
  | look ticket now =>
    unfold step at h
    dsimp only at h
    split at h
    next asked hget =>
      obtain ⟨later, hread, rfl⟩ := Option.map_eq_some_iff.1 h
      obtain ⟨hlater, rfl⟩ := read_at_eq_some.1 hread
      exact .looked ticket now asked hget hlater
    next => cases h
  | poll ticket cancelledFirst =>
    unfold step at h
    dsimp only at h
    split at h
    next asked hget =>
      cases h
      exact .selected ticket cancelledFirst asked hget
    next call _ hget => exact .resumed ticket cancelledFirst call next hget h
    next => cases h
  | read ticket now =>
    unfold step at h
    dsimp only at h
    split at h
    next asked hget =>
      obtain ⟨later, hread, rfl⟩ := Option.map_eq_some_iff.1 h
      obtain ⟨hlater, rfl⟩ := read_at_eq_some.1 hread
      exact .wasRead ticket now asked hget hlater
    next => cases h
  | drop ticket =>
    unfold step at h
    dsimp only at h
    split at h
    next call hget => exact .dropped ticket call next hget h
    next => cases h
  | leave =>
    unfold step at h
    dsimp only at h
    split at h
    next hrunning =>
      cases h
      exact .left hrunning
    next => cases h
  | unregister =>
    unfold step at h
    dsimp only at h
    split at h
    next hgone =>
      cases h
      rw [Bool.and_eq_true, Bool.not_eq_true'] at hgone
      exact .unregistered hgone.1
    next => cases h

theorem parked_by_ne_suspended (reply : Reply) : parkedBy reply ≠ .suspended := by
  unfold parkedBy
  split <;> exact nofun

theorem Queued.store_call {event : TaskStore.Event} (h : live.Queued)
    (hcall : storeCall store id live event = some (next, reply)) : next.Queued := by
  rw [(store_call_frame hcall).2.2.2]
  exact ⟨h.numbered, h.nodup, h.suspended, h.permit⟩

theorem queued_step (h : live.Queued) (hstep : step store id live event = some next) :
    next.Queued := by
  cases taken_of_step hstep with
  | called event _ reply free returned => exact h.store_call returned
  | asked requests message =>
    refine h.start ?_
    unfold asking
    split
    · exact nofun
    · split <;> exact nofun
  | parked ticket now asked requests message middle reply held returned =>
    have hmiddle := h.store_call returned
    have hheld : middle.parks.get ticket = some ⟨asked, .asking requests message⟩ := by
      rw [(store_call_frame returned).2.2.2]
      exact held
    exact hmiddle.become hheld nofun (parked_by_ne_suspended reply)
  | updated now responses middle reply due returned counted resumed =>
    exact (h.store_call returned).with_due due
  | wokenUp pending _ woken =>
    obtain rfl | ⟨_, rfl⟩ := woken
    · exact (h.with_due _).notify_one
    · exact h.with_due _
  | cancelled => exact ⟨h.numbered, h.nodup, h.suspended, h.permit⟩
  | waited ticket asked held =>
    refine h.become held nofun ?_
    split <;> exact nofun
  | looked ticket now asked held later =>
    refine (h.later_at now).become held nofun ?_
    unfold looked
    split
    · exact nofun
    · split <;> exact nofun
  | selected ticket cancelledFirst asked held =>
    obtain ⟨_, heq⟩ | ⟨_, heq⟩ | ⟨hpermit, _, heq⟩ :=
      select_cases live ticket ⟨asked, .selecting⟩ cancelledFirst
    · rw [heq]
      exact h.become held nofun nofun
    · have hspent : Queued { live with permit := false } :=
        ⟨h.numbered, h.nodup, h.suspended, fun h => by cases h⟩
      rw [heq]
      exact hspent.become held nofun
        nofun
    · rw [heq]
      exact h.suspend held nofun hpermit
  | resumed ticket cancelledFirst call _ held polled =>
    obtain ⟨_, _, rfl⟩ | ⟨hpoint, _, rfl⟩ | ⟨hpoint, rfl⟩ := resume_cases polled
    · refine h.erase (h.numbered.become held _) ?_ ?_
      · intro asked hsuspended
        rw [get_become_self] at hsuspended
        cases hsuspended
      · intro other hother
        rw [get_become_eq_ite, if_neg hother]
    · refine Queued.notify_one (h.become held ?_ nofun)
      rw [hpoint]
      exact nofun
    · refine h.become held ?_ nofun
      rw [hpoint]
      exact nofun
  | wasRead ticket now asked held later =>
    exact (h.later_at now).become held nofun
      nofun
  | dropped ticket call _ held gone =>
    obtain rfl | rfl := drop_call_cases gone
    · exact h.drop ticket
    · exact (h.drop ticket).notify_one
  | left running => exact ⟨h.numbered, h.nodup, h.suspended, h.permit⟩
  | unregistered returned => exact ⟨h.numbered, h.nodup, h.suspended, h.permit⟩

/-! ## The store of a live task -/

theorem notify_one_frame (live : LiveTask) :
    ∃ permit waiters parks, live.notifyOne =
      { live with permit := permit, waiters := waiters, parks := parks } := by
  unfold notifyOne
  split
  · exact ⟨_, _, _, rfl⟩
  · split
    · exact ⟨_, _, _, rfl⟩
    · exact ⟨_, _, _, rfl⟩

theorem notify_one_world (live : LiveTask) : live.notifyOne.world = live.world := by
  obtain ⟨_, _, _, heq⟩ := notify_one_frame live
  rw [heq]

theorem select_frame (live : LiveTask) (ticket : ℕ) (call : PendingInput) (cancelledFirst : Bool) :
    ∃ permit waiters parks, live.select ticket call cancelledFirst =
      { live with permit := permit, waiters := waiters, parks := parks } := by
  obtain ⟨_, heq⟩ | ⟨_, heq⟩ | ⟨_, _, heq⟩ := select_cases live ticket call cancelledFirst
  all_goals
    rw [heq]
    exact ⟨_, _, _, rfl⟩

theorem resume_frame {cancelledFirst : Bool}
    (h : live.resume ticket call cancelledFirst = some next) :
    ∃ permit waiters parks,
      next = { live with permit := permit, waiters := waiters, parks := parks } := by
  obtain ⟨_, _, rfl⟩ | ⟨_, _, rfl⟩ | ⟨_, rfl⟩ := resume_cases h
  · exact ⟨_, _, _, rfl⟩
  · obtain ⟨_, _, _, heq⟩ :=
      notify_one_frame (live.become ticket call (.returned (.error .taskCancelled)))
    exact ⟨_, _, _, heq⟩
  · exact ⟨_, _, _, rfl⟩

theorem drop_call_frame (h : live.dropCall ticket call = some next) :
    ∃ permit waiters parks,
      next = { live with permit := permit, waiters := waiters, parks := parks } := by
  obtain rfl | rfl := drop_call_cases h
  · exact ⟨_, _, _, rfl⟩
  · obtain ⟨_, _, _, heq⟩ := notify_one_frame { live with
      parks := live.parks.finish ticket, waiters := live.waiters.erase ticket }
    exact ⟨_, _, _, heq⟩

def makes (id : String) (live : LiveTask) : Event → Option TaskStore.Event
  | .call event => some event
  | .park ticket now =>
    match live.parks.get ticket with
    | some ⟨_, .asking requests message⟩ => some ⟨now, .requireInput id requests message⟩
    | _ => none
  | .update now responses => some ⟨now, .applyInputResponses id responses⟩
  | _ => none

theorem world_cases (h : step store id live event = some next) :
    (∃ made middle reply, live.makes id event = some made ∧
        storeCall store id live made = some (middle, reply) ∧ next.world = middle.world) ∨
      (∃ now, live.world.clock ≤ now ∧ next.world = (live.laterAt now).world) ∨
      next.world = live.world := by
  cases taken_of_step h with
  | called event _ reply free returned => exact .inl ⟨event, _, reply, rfl, returned, rfl⟩
  | parked ticket now asked requests message middle reply held returned =>
    refine .inl ⟨_, middle, reply, ?_, returned, rfl⟩
    unfold makes
    dsimp only
    rw [held]
  | updated now responses middle reply due returned counted resumed =>
    exact .inl ⟨_, middle, reply, rfl, returned, rfl⟩
  | looked ticket now asked held later => exact .inr (.inl ⟨now, later, rfl⟩)
  | wasRead ticket now asked held later => exact .inr (.inl ⟨now, later, rfl⟩)
  | wokenUp pending _ woken =>
    obtain rfl | ⟨_, rfl⟩ := woken
    · exact .inr (.inr (notify_one_world _))
    · exact .inr (.inr rfl)
  | selected ticket cancelledFirst asked held =>
    obtain ⟨_, _, _, heq⟩ := select_frame live ticket ⟨asked, .selecting⟩ cancelledFirst
    exact .inr (.inr (by rw [heq]))
  | resumed ticket cancelledFirst call _ held polled =>
    obtain ⟨_, _, _, rfl⟩ := resume_frame polled
    exact .inr (.inr rfl)
  | dropped ticket call _ held gone =>
    obtain ⟨_, _, _, rfl⟩ := drop_call_frame gone
    exact .inr (.inr rfl)
  | asked requests message => exact .inr (.inr rfl)
  | cancelled => exact .inr (.inr rfl)
  | waited ticket asked held => exact .inr (.inr rfl)
  | left running => exact .inr (.inr rfl)
  | unregistered returned => exact .inr (.inr rfl)

def drawn : Event → Option String
  | .call event => event.call.drawnId
  | _ => none

def FreshEvent (live : LiveTask) (event : Event) : Prop :=
  ∀ name, drawn event = some name → name ∉ TaskStore.drawnIds live.world.events

theorem drawn_of_makes {made : TaskStore.Event} {name : String}
    (hmakes : live.makes id event = some made) (hdraw : made.call.drawnId = some name) :
    drawn event = some name := by
  unfold makes at hmakes
  split at hmakes
  next => rwa [Option.some.inj hmakes]
  next =>
    split at hmakes
    next =>
      rw [← Option.some.inj hmakes] at hdraw
      cases hdraw
    next => cases hmakes
  next =>
    rw [← Option.some.inj hmakes] at hdraw
    cases hdraw
  next => cases hmakes

structure Consistent (store : MemoryTaskStore) (live : LiveTask) : Prop where
  sound : TaskStore.Sound store live.world
  history : TaskStore.InputHistory live.world
  queued : live.Queued

theorem store_call_stepped {made : TaskStore.Event} (h : TaskStore.Sound store live.world)
    (hfresh : TaskStore.FreshDraw live.world made)
    (hcall : storeCall store id live made = some (next, reply)) :
    TaskStore.Stepped store live.world made next.world reply := by
  obtain ⟨hstep, _, ⟨rest, earlier, hlog⟩, _⟩ := store_call_frame hcall
  obtain ⟨other, hstepped⟩ := TaskStore.step_sound h hfresh hstep
  have hsame := (List.cons.inj (hlog.symm.trans hstepped.log)).1
  rw [(Prod.mk.inj hsame).2]
  exact hstepped

theorem input_history_later (h : TaskStore.InputHistory live.world) (now : Instant) :
    TaskStore.InputHistory (live.laterAt now).world :=
  ⟨h.live, h.unique, h.once, h.askedDrawn, h.acceptedDrawn⟩

theorem consistent_step (h : Consistent store live) (hfresh : FreshEvent live event)
    (hstep : step store id live event = some next) : Consistent store next := by
  have hqueued := queued_step h.queued hstep
  obtain ⟨made, middle, reply, hmakes, hcall, hworld⟩ | ⟨now, hnow, hworld⟩ | hworld :=
    world_cases hstep
  · have hdraw : TaskStore.FreshDraw live.world made :=
      fun name hname => hfresh name (drawn_of_makes hmakes hname)
    have hstepped := store_call_stepped h.sound hdraw hcall
    rw [← hworld] at hstepped
    exact ⟨hstepped.sound, TaskStore.input_history_step h.history h.sound hdraw hstepped, hqueued⟩
  · refine ⟨?_, ?_, hqueued⟩
    · rw [hworld]
      exact h.sound.advance hnow
    · rw [hworld]
      exact input_history_later h.history now
  · refine ⟨?_, ?_, hqueued⟩
    · rw [hworld]
      exact h.sound
    · rw [hworld]
      exact h.history

theorem consistent_init (store : MemoryTaskStore) : Consistent store {} where
  sound := TaskStore.sound_init store
  history := TaskStore.input_history_init
  queued := queued_init

theorem along_fresh_event (store : MemoryTaskStore) (id : String) {events : List Event} (hnodup : (events.filterMap drawn).Nodup) :
    Execution.Along (step store id) FreshEvent {} events := by
  have hadds : ∀ (live : LiveTask) (event : Event) (next : LiveTask),
      step store id live event = some next →
      ∀ name, name ∈ TaskStore.drawnIds next.world.events →
        name ∈ TaskStore.drawnIds live.world.events ∨ drawn event = some name := by
    intro live event next hstep name hname
    obtain ⟨made, middle, reply, hmakes, hcall, hworld⟩ | ⟨now, _, hworld⟩ | hworld :=
      world_cases hstep
    · rw [hworld] at hname
      obtain hearlier | hdraw :=
        TaskStore.events_of_step (store_call_frame hcall).1 name hname
      · exact .inl hearlier
      · exact .inr (drawn_of_makes hmakes hdraw)
    · rw [hworld] at hname
      exact .inl hname
    · rw [hworld] at hname
      exact .inl hname
  refine Execution.along_fresh hadds hnodup fun name _ hmem => ?_
  simp [TaskStore.World.events, TaskStore.drawnIds] at hmem

end LiveTask

end TowerMcp
