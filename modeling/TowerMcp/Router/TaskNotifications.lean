import TowerMcp.Lib.Pool
import TowerMcp.Task.Outstanding

/-!
# Notifications of one task

What the subscribers of a task are told, after `notify_task_state`, `park_task_for_input` and
`resume_task` of `router/task_ops.rs` and the task branches of `router.rs`. An operation on the task
is a future; between two of its points it makes one access to the store or hands one notification to
the sink, which accepts it. The Tasks extension is enabled.

A notification is rendered from a state that was read before, so another operation may come between.
-/

namespace TowerMcp

open Execution MemoryTaskStore Pool

namespace TaskNotifications

/-! ## The store -/

structure Snapshot where
  version : ℕ := 0
  status : TaskStatus := .working
deriving DecidableEq

inductive Write where
  | completeTask
  | failTask
  | cancelTask
  | requireInput
  | applyInputResponses
deriving DecidableEq

/-- The reply to a write: it was applied, refused for a task that is absent or terminal, or failed.
A result that does not fit is replaced by a failure of the task when it fails. For input responses,
`answered` says that one was accepted and none is outstanding any more. -/
inductive Reply where
  | applied (answered : Bool)
  | refused
  | failed (committed : Bool)
deriving DecidableEq

def Reply.isApplied : Reply → Bool
  | .applied _ => true
  | _ => false

def Write.status (write : Write) (status : TaskStatus) : Reply → Option TaskStatus
  | .refused | .failed false => some status
  | .failed true =>
    match write with
    | .completeTask | .failTask => if status.isTerminal then none else some .failed
    | _ => none
  | .applied answered =>
    match write with
    | .cancelTask => some (if status.isTerminal then status else .cancelled)
    | .completeTask => if status.isTerminal then none else some .completed
    | .failTask => if status.isTerminal then none else some .failed
    | .requireInput => if status.isTerminal then none else some .inputRequired
    | .applyInputResponses =>
      if status.isTerminal then none
      else some (if answered && status == .inputRequired then .working else status)

def writeOf : StoreCall → Option Write
  | .completeTask _ _ => some .completeTask
  | .failTask _ _ => some .failTask
  | .cancelTask _ _ => some .cancelTask
  | .requireInput _ _ _ => some .requireInput
  | .applyInputResponses _ _ => some .applyInputResponses
  | _ => none

/-! ## Operations -/

inductive After where
  | finished
  | resuming
deriving DecidableEq

/-- Where an operation waits. `running` is the handler of an ordinary task, at its first run or at a
replay, and `live` a live handler; `completing` to `closing` record what they returned. `updating`
belongs to `tasks/update`, and `checking` and `cancelling` to `tasks/cancel`, of the final lifecycle
or of an older one. `notifying` reads the status, `listing` the requests of a task that waits for
input, and `publishing` hands the notification to the sink; `resuming` goes on with an update. -/
inductive Point where
  | running (replay : Bool)
  | live
  | completing
  | failing
  | parking
  | closing
  | updating (final : Bool)
  | checking
  | cancelling (final : Bool)
  | notifying (first : Bool) (after : After)
  | listing (first : Bool) (snapshot : Snapshot) (after : After)
  | publishing (snapshot : Snapshot) (after : After)
  | resuming
deriving DecidableEq

inductive HandlerEnd where
  | completed
  | failed
  | cancelled
  | asked (isEmpty : Bool)
  | stopped
deriving DecidableEq

def Point.write : Point → Option Write
  | .completing => some .completeTask
  | .failing => some .failTask
  | .parking => some .requireInput
  | .closing | .cancelling _ => some .cancelTask
  | .updating _ => some .applyInputResponses
  | _ => none

def Point.afterWrite : Point → Reply → Option Point
  | .completing, .failed _ | .parking, .failed _ => some .failing
  | .completing, _ | .parking, _ | .failing, _ | .closing, _ => some (.notifying true .finished)
  | .updating final, .applied answered =>
    some (.notifying true (if final && answered then .resuming else .finished))
  | .cancelling true, .applied _ => some (.notifying true .finished)
  | _, _ => none

/-- Where a handler goes on when it ends. `isRaised` says that the token of the task is raised. -/
def Point.afterHandler (isRaised : Bool) : Point → HandlerEnd → Option Point
  | .running replay, .completed =>
    some (if !replay && isRaised then .notifying true .finished else .completing)
  | .running _, .asked isEmpty => some (if isEmpty then .failing else .parking)
  | .running _, .stopped => if isRaised then some (.notifying true .finished) else none
  | .live, .completed => some .completing
  | .live, .failed => some .failing
  | .live, .cancelled => some .closing
  | _, _ => none

def After.point : After → Option Point
  | .finished => none
  | .resuming => some .resuming

def Point.leaves : Point → Bool
  | .completing | .failing | .closing => true
  | _ => false

/-! ## The machine -/

/-- What the subscribers depend on: the last state of the task, the operations under way, the
notifications published so far, the latest first, and the changes that operations of the router have
committed. -/
structure View where
  latest : Snapshot := {}
  futures : Pool Point := {}
  published : List Snapshot := []
  changes : List ℕ := []

structure World extends View where
  isCreated : Bool := false
  isPresent : Bool := false
  isRegistered : Bool := false
  isRaised : Bool := false

/-- What happens next: a request, a step of an operation, a write that a handler makes itself, or
the expiry of the record. -/
inductive Event where
  | createTask (isLive : Bool)
  | updateTask (final : Bool)
  | cancelTask (final : Bool)
  | notifyTaskStatusChanged
  | handlerEnds (ticket : ℕ) (ending : HandlerEnd)
  | write (ticket : ℕ) (reply : Reply)
  | check (ticket : ℕ) (found : Bool)
  | read (ticket : ℕ) (found : Bool)
  | list (ticket : ℕ) (empty : Option Bool)
  | publish (ticket : ℕ)
  | resume (ticket : ℕ) (found : Bool)
  | drive (status : TaskStatus)
  | expire
deriving DecidableEq

namespace View

variable (view : View)

def become (status : TaskStatus) (byRouter : Bool) : View :=
  if status = view.latest.status then view
  else
    { view with
      latest := { version := view.latest.version + 1, status }
      changes :=
        if byRouter then (view.latest.version + 1) :: view.changes else view.changes }

def start (point : Point) : View :=
  { view with futures := view.futures.start point }

def goOn (ticket : ℕ) : Option Point → View
  | some point => { view with futures := view.futures.become ticket point }
  | none => { view with futures := view.futures.finish ticket }

def publish (snapshot : Snapshot) : View :=
  { view with published := snapshot :: view.published }

end View

def step (world : World) : Event → Option World
  | .createTask isLive =>
    if world.isCreated then none
    else
      some
        { toView := world.start (if isLive then .live else .running false)
          isCreated := true
          isPresent := true
          isRegistered := isLive
          isRaised := false }
  | .updateTask final => some { world with toView := world.start (.updating final) }
  | .cancelTask final =>
    if world.isRegistered then
      some { world with toView := world.start (.notifying true .finished) }
    else
      some { world with toView := world.start (if final then .cancelling true else .checking) }
  | .notifyTaskStatusChanged =>
    some { world with toView := world.start (.notifying true .finished) }
  | .handlerEnds ticket ending => do
    let point ← world.futures.get ticket
    let next ← point.afterHandler world.isRaised ending
    pure { world with toView := world.goOn ticket (some next) }
  | .write ticket reply => do
    let point ← world.futures.get ticket
    let write ← point.write
    let status ← write.status world.latest.status reply
    if world.isPresent || reply == .refused || reply == .failed false then
      pure { world with
        toView := (world.become status true).goOn ticket (point.afterWrite reply)
        isRegistered := world.isRegistered && !point.leaves
        isRaised := world.isRaised || write == .cancelTask && reply.isApplied }
    else none
  | .check ticket found => do
    match ← world.futures.get ticket with
    | .checking =>
      let cancels := found && world.isPresent && !world.latest.status.isTerminal
      pure { world with
        toView := world.goOn ticket (if cancels then some (.cancelling false) else none) }
    | _ => none
  | .read ticket found => do
    match ← world.futures.get ticket with
    | .notifying first after =>
      if found then
        if world.isPresent then
          pure { world with
            toView := world.goOn ticket (some
              (if world.latest.status = .inputRequired then
                .listing first world.latest after
              else .publishing world.latest after)) }
        else none
      else pure { world with toView := world.goOn ticket after.point }
    | _ => none
  | .list ticket empty => do
    match ← world.futures.get ticket with
    | .listing first snapshot after =>
      match empty with
      | some false =>
        pure { world with toView := world.goOn ticket (some (.publishing snapshot after)) }
      | some true =>
        -- an update has come between the two reads, so the task is read once more
        if first then
          pure { world with toView := world.goOn ticket (some (.notifying false after)) }
        else pure { world with toView := world.goOn ticket after.point }
      | none => pure { world with toView := world.goOn ticket after.point }
    | _ => none
  | .publish ticket => do
    match ← world.futures.get ticket with
    | .publishing snapshot after =>
      pure { world with toView := (world.publish snapshot).goOn ticket after.point }
    | _ => none
  | .resume ticket found => do
    match ← world.futures.get ticket with
    | .resuming =>
      -- a live handler is woken, an ordinary one is replayed
      pure { world with
        toView := world.goOn ticket
          (if world.isRegistered then none
          else if found then some (.running true) else some .failing) }
    | _ => none
  | .drive status =>
    if world.isPresent && !world.latest.status.isTerminal then
      some { world with toView := world.become status false }
    else none
  | .expire => some { world with isPresent := false, isRaised := true }

/-! ## Following the task -/

def Point.isBound : Point → Bool
  | .running _ | .live | .completing | .failing | .parking | .closing | .notifying _ _ => true
  | _ => false

def Point.covers (version : ℕ) : Point → Bool
  | .listing _ snapshot _ | .publishing snapshot _ => decide (version ≤ snapshot.version)
  | point => point.isBound

def Told (view : View) (isLeft : ℕ → Prop) (version : ℕ) : Prop :=
  (∃ snapshot ∈ view.published, version ≤ snapshot.version) ∨
    ∃ ticket point, isLeft ticket ∧ view.futures.get ticket = some point ∧
      point.covers version = true

/-- The subscribers follow the task: every change that the router has committed was published or is
going to be, and what was published never goes back, nor on from a terminal status. -/
structure Follows (view : View) : Prop where
  told : ∀ version ∈ view.changes, Told view (fun _ => True) version
  ordered : view.published.Pairwise fun later earlier => earlier.version ≤ later.version ∧
    (earlier.status.isTerminal = true → later.status = earlier.status)

/-- The step loses no change and publishes no state after a newer one: a cancellation of an older
lifecycle that ends a task, and a read that finds nothing, leave another operation to tell the
subscribers. -/
def Meets (world : World) : Event → Prop
  | .write ticket (.applied _) =>
    match world.futures.get ticket with
    | some (.cancelling false) =>
      world.isPresent = true → world.latest.status.isTerminal = false →
        ∃ other point, other ≠ ticket ∧ world.futures.get other = some point ∧
          point.isBound = true
    | _ => True
  | .read ticket false =>
    match world.futures.get ticket with
    | some (.notifying _ _) => ∀ version ∈ world.changes, Told world.toView (· ≠ ticket) version
    | _ => True
  | .list ticket empty =>
    match world.futures.get ticket, empty with
    | some (.listing _ _ _), none | some (.listing false _ _), some true =>
      ∀ version ∈ world.changes, Told world.toView (· ≠ ticket) version
    | _, _ => True
  | .publish ticket =>
    match world.futures.get ticket with
    | some (.publishing snapshot _) =>
      ∀ earlier ∈ world.published, earlier.version ≤ snapshot.version
    | _ => True
  | _ => True

/-! ## What one step does -/

def Event.isQuiet (world : World) : Event → Bool
  | .write ticket (.applied _) => world.futures.get ticket != some (.cancelling false)
  | .read _ found => found
  | .list ticket empty =>
    match world.futures.get ticket, empty with
    | some (.listing _ _ _), none | some (.listing false _ _), some true => false
    | _, _ => true
  | .publish _ => false
  | _ => true

def Point.snapshot : Point → Option Snapshot
  | .listing _ snapshot _ | .publishing snapshot _ => some snapshot
  | _ => none

inductive Transition (world : World) : Event → View → Prop where
  | started (event : Event) (point : Point) (quiet : event.isQuiet world = true)
      (fresh : point.snapshot = none) : Transition world event (world.start point)
  | moved (event : Event) (ticket : ℕ) (old new : Point) (quiet : event.isQuiet world = true)
      (get : world.futures.get ticket = some old)
      (covers : ∀ version ≤ world.latest.version,
        old.covers version = true → new.covers version = true)
      (known : ∀ snapshot, new.snapshot = some snapshot →
        snapshot = world.latest ∨ old.snapshot = some snapshot) :
      Transition world event (world.goOn ticket (some new))
  | ended (event : Event) (ticket : ℕ) (old : Point) (next : Option Point)
      (quiet : event.isQuiet world = true) (get : world.futures.get ticket = some old)
      (uncovering : ∀ version, old.covers version = false)
      (fresh : ∀ point, next = some point → point.snapshot = none) :
      Transition world event (world.goOn ticket next)
  | written (event : Event) (ticket : ℕ) (old new : Point) (status : TaskStatus)
      (quiet : event.isQuiet world = true) (get : world.futures.get ticket = some old)
      (bound : new.isBound = true) (fresh : new.snapshot = none)
      (unfinished : world.latest.status.isTerminal = true → status = world.latest.status) :
      Transition world event ((world.become status true).goOn ticket (some new))
  | unannounced (ticket : ℕ) (answered : Bool) (isPresent : world.isPresent = true)
      (get : world.futures.get ticket = some (.cancelling false)) :
      Transition world (.write ticket (.applied answered))
        ((world.become
          (if world.latest.status.isTerminal then world.latest.status else .cancelled)
          true).goOn ticket none)
  | unread (event : Event) (ticket : ℕ) (old : Point) (after : After)
      (get : world.futures.get ticket = some old)
      (meets : Meets world event ↔
        ∀ version ∈ world.changes, Told world.toView (· ≠ ticket) version) :
      Transition world event (world.goOn ticket after.point)
  | published (ticket : ℕ) (snapshot : Snapshot) (after : After)
      (get : world.futures.get ticket = some (.publishing snapshot after)) :
      Transition world (.publish ticket) ((world.publish snapshot).goOn ticket after.point)
  | driven (event : Event) (status : TaskStatus) (quiet : event.isQuiet world = true)
      (unfinished : world.latest.status.isTerminal = false) :
      Transition world event (world.become status false)
  | kept (event : Event) (quiet : event.isQuiet world = true) :
      Transition world event world.toView

variable {world : World}

theorem meets_of_quiet {event : Event} (h : event.isQuiet world = true) :
    Meets world event := by
  cases event with
  | write ticket reply =>
    cases reply with
    | applied answered =>
      simp only [Event.isQuiet, bne_iff_ne] at h
      unfold Meets
      dsimp only
      split
      · contradiction
      · trivial
    | refused | failed _ => trivial
  | read ticket found =>
    cases found with
    | true => trivial
    | false => cases h
  | list ticket empty =>
    simp only [Event.isQuiet] at h
    simp only [Meets]
    split <;> simp_all
  | publish ticket => cases h
  | createTask _ | updateTask _ | cancelTask _ | notifyTaskStatusChanged | handlerEnds _ _
  | check _ _ | resume _ _ | drive _ | expire => trivial

variable {point : Point}

theorem Point.covers_of_bound (h : point.isBound = true) (version : ℕ) :
    point.covers version = true := by
  cases point <;> first | exact h | cases h

theorem bound_after_handler {new : Point} {isRaised : Bool} {ending : HandlerEnd}
    (h : point.afterHandler isRaised ending = some new) :
    point.snapshot = none ∧ new.isBound = true ∧ new.snapshot = none := by
  cases point with
  | running replay =>
    cases ending with
    | completed =>
      cases h
      refine ⟨rfl, ?_⟩
      split <;> exact ⟨rfl, rfl⟩
    | asked isEmpty =>
      cases h
      cases isEmpty <;> exact ⟨rfl, rfl, rfl⟩
    | stopped =>
      simp only [Point.afterHandler, Option.ite_none_right_eq_some, Option.some.injEq] at h
      obtain ⟨_, rfl⟩ := h
      exact ⟨rfl, rfl, rfl⟩
    | failed | cancelled => cases h
  | live =>
    cases ending with
    | completed | failed | cancelled =>
      cases h
      exact ⟨rfl, rfl, rfl⟩
    | asked _ | stopped => cases h
  | completing | failing | parking | closing | updating _ | checking | cancelling _ | notifying _ _
  | listing _ _ _ | publishing _ _ | resuming => cases h

variable {write : Write} {reply : Reply}

theorem status_of_terminal {status left : TaskStatus} (h : write.status status reply = some left)
    (hterminal : status.isTerminal = true) : left = status := by
  cases reply with
  | refused => exact (Option.some.inj h).symm
  | failed committed =>
    cases committed with
    | false => exact (Option.some.inj h).symm
    | true => cases write <;> simp [Write.status, hterminal] at h
  | applied answered => cases write <;> simp [Write.status, hterminal] at h ⊢; exact h.symm

theorem bound_after_write {new : Point} (h : point.afterWrite reply = some new) :
    point ≠ .cancelling false ∧ new.isBound = true ∧ new.snapshot = none := by
  cases point with
  | completing | parking =>
    cases reply <;> obtain rfl := Option.some.inj h <;> exact ⟨nofun, rfl, rfl⟩
  | failing | closing =>
    cases h
    exact ⟨nofun, rfl, rfl⟩
  | updating final =>
    cases reply with
    | applied answered =>
      cases h
      exact ⟨nofun, rfl, rfl⟩
    | refused | failed _ => cases h
  | cancelling final =>
    cases final with
    | true =>
      cases reply with
      | applied answered =>
        cases h
        exact ⟨nofun, rfl, rfl⟩
      | refused | failed _ => cases h
    | false => cases h
  | running _ | live | checking | notifying _ _ | listing _ _ _ | publishing _ _ | resuming =>
    cases h

theorem ended_after_write (hwrite : point.write = some write) (h : point.afterWrite reply = none) :
    (∀ version, point.covers version = false) ∧
      (write = .applyInputResponses ∨ write = .cancelTask) ∧
      (reply.isApplied = true → point = .cancelling false) := by
  cases point with
  | completing | parking => cases reply <;> cases h
  | failing | closing => cases h
  | updating final =>
    cases hwrite
    refine ⟨fun _ => rfl, .inl rfl, fun happlied => ?_⟩
    cases reply with
    | applied _ => cases h
    | refused | failed _ => cases happlied
  | cancelling final =>
    cases hwrite
    refine ⟨fun _ => rfl, .inr rfl, fun happlied => ?_⟩
    cases final with
    | false => rfl
    | true =>
      cases reply with
      | applied _ => cases h
      | refused | failed _ => cases happlied
  | running _ | live | checking | notifying _ _ | listing _ _ _ | publishing _ _ | resuming =>
    cases hwrite

theorem status_of_not_applied {status left : TaskStatus}
    (hwrite : write = .applyInputResponses ∨ write = .cancelTask)
    (happlied : reply.isApplied = false) (h : write.status status reply = some left) :
    left = status := by
  cases reply with
  | applied _ => cases happlied
  | refused => exact (Option.some.inj h).symm
  | failed committed =>
    cases committed with
    | false => exact (Option.some.inj h).symm
    | true => rcases hwrite with rfl | rfl <;> cases h

theorem quiet_write {ticket : ℕ} (hget : world.futures.get ticket = some point)
    (h : reply.isApplied = true → point ≠ .cancelling false) :
    (Event.write ticket reply).isQuiet world = true := by
  cases reply with
  | applied answered => simpa [Event.isQuiet, hget] using h rfl
  | refused | failed _ => rfl

theorem transition_of_step {next : World} {event : Event}
    (h : step world event = some next) : Transition world event next.toView := by
  cases event with
  | createTask isLive =>
    simp only [step, Option.ite_none_left_eq_some, Option.some.injEq] at h
    obtain ⟨_, rfl⟩ := h
    exact .started _ _ rfl (by cases isLive <;> rfl)
  | updateTask final =>
    cases h
    exact .started _ _ rfl rfl
  | cancelTask final =>
    simp only [step] at h
    split at h
    · cases h
      exact .started _ _ rfl rfl
    · cases h
      exact .started _ _ rfl (by cases final <;> rfl)
  | notifyTaskStatusChanged =>
    cases h
    exact .started _ _ rfl rfl
  | handlerEnds ticket ending =>
    obtain ⟨point, hget, h⟩ := Option.bind_eq_some_iff.1 h
    obtain ⟨new, hnew, h⟩ := Option.bind_eq_some_iff.1 h
    cases h
    obtain ⟨_, hbound, hfresh⟩ := bound_after_handler hnew
    exact .moved _ ticket point new rfl hget
      (fun version _ _ => Point.covers_of_bound hbound version) (by simp [hfresh])
  | write ticket reply =>
    obtain ⟨point, hget, h⟩ := Option.bind_eq_some_iff.1 h
    obtain ⟨write, hwrite, h⟩ := Option.bind_eq_some_iff.1 h
    obtain ⟨status, hstatus, h⟩ := Option.bind_eq_some_iff.1 h
    simp only [Option.ite_none_right_eq_some] at h
    obtain ⟨hpresent, h⟩ := h
    cases h
    cases hafter : point.afterWrite reply with
    | some new =>
      obtain ⟨hother, hbound, hfresh⟩ := bound_after_write hafter
      exact .written _ ticket point new status (quiet_write hget fun _ => hother) hget hbound
        hfresh (status_of_terminal hstatus)
    | none =>
      obtain ⟨hcovers, hclient, hcancels⟩ := ended_after_write hwrite hafter
      cases happlied : reply.isApplied with
      | false =>
        obtain rfl := status_of_not_applied hclient happlied hstatus
        simp only [View.become, if_true]
        exact .ended _ ticket point none (quiet_write hget (by simp [happlied])) hget hcovers
          nofun
      | true =>
        obtain rfl := hcancels happlied
        cases reply with
        | applied answered =>
          cases hwrite
          cases hstatus
          exact .unannounced ticket answered (by simpa using hpresent) hget
        | refused | failed _ => cases happlied
  | check ticket found =>
    obtain ⟨point, hget, h⟩ := Option.bind_eq_some_iff.1 h
    cases point with
    | checking =>
      cases h
      refine .ended _ ticket _ _ rfl hget (fun _ => rfl) fun point hpoint => ?_
      simp only [Option.ite_none_right_eq_some, Option.some.injEq] at hpoint
      obtain ⟨_, rfl⟩ := hpoint
      rfl
    | _ => cases h
  | read ticket found =>
    obtain ⟨point, hget, h⟩ := Option.bind_eq_some_iff.1 h
    cases point with
    | notifying first after =>
      cases found with
      | true =>
        simp only [if_true, Option.ite_none_right_eq_some] at h
        obtain ⟨_, h⟩ := h
        cases h
        split
        · refine .moved _ ticket _ _ rfl hget ?_ ?_
          · intro version hversion _
            exact decide_eq_true hversion
          · intro snapshot hsnapshot
            exact .inl (Option.some.inj hsnapshot).symm
        · refine .moved _ ticket _ _ rfl hget ?_ ?_
          · intro version hversion _
            exact decide_eq_true hversion
          · intro snapshot hsnapshot
            exact .inl (Option.some.inj hsnapshot).symm
      | false =>
        cases h
        exact .unread _ ticket _ after hget (by simp [Meets, hget])
    | _ => cases h
  | list ticket empty =>
    obtain ⟨point, hget, h⟩ := Option.bind_eq_some_iff.1 h
    cases point with
    | listing first snapshot after =>
      cases empty with
      | none =>
        cases h
        exact .unread _ ticket _ after hget (by simp [Meets, hget])
      | some isEmpty =>
        cases isEmpty with
        | false =>
          cases h
          exact .moved _ ticket _ _ (by simp [Event.isQuiet, hget]) hget
            (fun _ _ hcovers => hcovers) fun _ hsnapshot => .inr hsnapshot
        | true =>
          cases first with
          | true =>
            cases h
            exact .moved _ ticket _ _ (by simp [Event.isQuiet, hget]) hget
              (fun _ _ _ => rfl) nofun
          | false =>
            cases h
            exact .unread _ ticket _ after hget (by simp [Meets, hget])
    | _ => cases h
  | publish ticket =>
    obtain ⟨point, hget, h⟩ := Option.bind_eq_some_iff.1 h
    cases point with
    | publishing snapshot after =>
      cases h
      exact .published ticket snapshot after hget
    | _ => cases h
  | resume ticket found =>
    obtain ⟨point, hget, h⟩ := Option.bind_eq_some_iff.1 h
    cases point with
    | resuming =>
      cases h
      refine .ended _ ticket _ _ rfl hget (fun _ => rfl) fun point hpoint => ?_
      split at hpoint
      · cases hpoint
      · split at hpoint <;> cases hpoint <;> rfl
    | _ => cases h
  | drive status =>
    simp only [step, Option.ite_none_right_eq_some, Option.some.injEq, Bool.and_eq_true,
      Bool.not_eq_true'] at h
    obtain ⟨⟨_, hlive⟩, rfl⟩ := h
    exact .driven _ status rfl hlive
  | expire =>
    cases h
    exact .kept _ rfl

/-! ## What holds at any time -/

structure Known (latest snapshot : Snapshot) : Prop where
  past : snapshot.version ≤ latest.version
  last : snapshot.version = latest.version → snapshot = latest
  terminal : snapshot.status.isTerminal = true → snapshot = latest

structure Sound (view : View) : Prop where
  changes : ∀ version ∈ view.changes, version ≤ view.latest.version
  published : ∀ snapshot ∈ view.published, Known view.latest snapshot
  held : view.futures.Holds fun point => ∀ snapshot, point.snapshot = some snapshot →
    Known view.latest snapshot
  numbered : view.futures.Numbered

section Steps

variable {view : View} {world next : World} {event : Event} {ticket : ℕ} {snapshot : Snapshot}

theorem sound_init : Sound {} where
  changes := List.forall_mem_nil _
  published := List.forall_mem_nil _
  held := holds_empty
  numbered := numbered_empty

theorem known_latest (latest : Snapshot) : Known latest latest :=
  ⟨le_rfl, fun _ => rfl, fun _ => rfl⟩

theorem become_cases {status : TaskStatus} (byRouter : Bool)
    (hunfinished : view.latest.status.isTerminal = true → status = view.latest.status) :
    view.become status byRouter = view ∨
      (view.latest.status.isTerminal = false ∧
        view.become status byRouter =
          { view with
            latest := { version := view.latest.version + 1, status }
            changes :=
              if byRouter then (view.latest.version + 1) :: view.changes else view.changes }) := by
  unfold View.become
  split
  · exact .inl rfl
  next hchanged =>
    refine .inr ⟨?_, rfl⟩
    cases hterminal : view.latest.status.isTerminal with
    | false => rfl
    | true => exact absurd (hunfinished hterminal) hchanged

theorem Known.succ {latest : Snapshot} (h : Known latest snapshot)
    (hlive : latest.status.isTerminal = false) (status : TaskStatus) :
    Known { version := latest.version + 1, status } snapshot := by
  have hpast := h.past
  refine ⟨?_, ?_, ?_⟩
  · show snapshot.version ≤ latest.version + 1
    omega
  · intro heq
    have heq : snapshot.version = latest.version + 1 := heq
    omega
  · intro hterminal
    rw [h.terminal hterminal, hlive] at hterminal
    cases hterminal

theorem Sound.become (h : Sound view) {status : TaskStatus} (byRouter : Bool)
    (hunfinished : view.latest.status.isTerminal = true → status = view.latest.status) :
    Sound (view.become status byRouter) := by
  rcases become_cases byRouter hunfinished with heq | ⟨hlive, heq⟩
  · rw [heq]
    exact h
  · rw [heq]
    refine ⟨?_, ?_, ?_, h.numbered⟩
    · intro version hversion
      show version ≤ view.latest.version + 1
      cases byRouter with
      | false =>
        have hold := h.changes version hversion
        omega
      | true =>
        rcases List.mem_cons.1 hversion with rfl | hversion
        · exact le_rfl
        · have hold := h.changes version hversion
          omega
    · exact fun snapshot hsnapshot => (h.published snapshot hsnapshot).succ hlive status
    · exact h.held.mono fun point hknown snapshot hsnapshot =>
        (hknown snapshot hsnapshot).succ hlive status

theorem Sound.go_on (h : Sound view) {old : Point} (hget : view.futures.get ticket = some old)
    (next : Option Point)
    (hknown : ∀ point, next = some point → ∀ snapshot, point.snapshot = some snapshot →
      Known view.latest snapshot) : Sound (view.goOn ticket next) := by
  cases next with
  | none => exact ⟨h.changes, h.published, h.held.finish, h.numbered.finish ticket⟩
  | some point =>
    exact ⟨h.changes, h.published, h.held.become (hknown point rfl),
      h.numbered.become hget point⟩

@[simp] theorem futures_become (status : TaskStatus) (byRouter : Bool) :
    (view.become status byRouter).futures = view.futures := by
  unfold View.become
  split <;> rfl

@[simp] theorem published_become (status : TaskStatus) (byRouter : Bool) :
    (view.become status byRouter).published = view.published := by
  unfold View.become
  split <;> rfl

@[simp] theorem published_go_on (next : Option Point) :
    (view.goOn ticket next).published = view.published := by
  cases next <;> rfl

@[simp] theorem changes_go_on (next : Option Point) :
    (view.goOn ticket next).changes = view.changes := by
  cases next <;> rfl

theorem after_notification {after : After} (h : after.point = some point) :
    point.snapshot = none ∧ ∀ version, point.covers version = false := by
  cases after <;> cases h
  exact ⟨rfl, fun _ => rfl⟩

variable {after : View}

theorem sound_of_transition (h : Sound world.toView)
    (htransition : Transition world event after) : Sound after := by
  cases htransition with
  | started _ point _ hfresh =>
    exact ⟨h.changes, h.published, h.held.start (by simp [hfresh]), h.numbered.start point⟩
  | moved _ ticket old new _ hget _ hknown =>
    refine h.go_on hget _ fun point hpoint snapshot hsnapshot => ?_
    cases hpoint
    rcases hknown snapshot hsnapshot with rfl | hold
    · exact known_latest _
    · exact h.held.of_get hget snapshot hold
  | ended _ ticket old next _ hget _ hfresh =>
    exact h.go_on hget next fun point hpoint => by simp [hfresh point hpoint]
  | written _ ticket old new status _ hget _ hfresh hunfinished =>
    refine (h.become true hunfinished).go_on (by simpa using hget) _ fun point hpoint => ?_
    cases hpoint
    simp [hfresh]
  | unannounced ticket _ _ hget =>
    refine (h.become true fun hterminal => ?_).go_on (by simpa using hget) none nofun
    rw [if_pos hterminal]
  | unread _ ticket old after hget _ =>
    exact h.go_on hget after.point fun point hpoint => by
      simp [(after_notification hpoint).1]
  | published ticket snapshot after hget =>
    have hsnapshot := h.held.of_get hget snapshot rfl
    have hpublished : Sound (world.publish snapshot) :=
      ⟨h.changes, List.forall_mem_cons.2 ⟨hsnapshot, h.published⟩, h.held, h.numbered⟩
    exact hpublished.go_on hget after.point fun point hpoint => by
      simp [(after_notification hpoint).1]
  | driven _ status _ hunfinished =>
    exact h.become false fun hterminal => by simp [hunfinished] at hterminal
  | kept _ _ => exact h

/-! ### Who tells of a change -/

variable {version : ℕ} {isLeft : ℕ → Prop}

theorem told_iff_of_get {old : Point} (hget : view.futures.get ticket = some old) :
    Told view (fun _ => True) version ↔
      Told view (· ≠ ticket) version ∨ old.covers version = true := by
  constructor
  · rintro (hpublished | ⟨other, point, _, hother, hcovers⟩)
    · exact .inl (.inl hpublished)
    · by_cases hsame : other = ticket
      · subst hsame
        obtain rfl := Option.some.inj (hget.symm.trans hother)
        exact .inr hcovers
      · exact .inl (.inr ⟨other, point, hsame, hother, hcovers⟩)
  · rintro ((hpublished | ⟨other, point, _, hother, hcovers⟩) | hcovers)
    · exact .inl hpublished
    · exact .inr ⟨other, point, trivial, hother, hcovers⟩
    · exact .inr ⟨ticket, old, trivial, hget, hcovers⟩

theorem told_go_on_iff (next : Option Point) :
    Told (view.goOn ticket next) (fun _ => True) version ↔
      Told view (· ≠ ticket) version ∨
        ∃ point, next = some point ∧ point.covers version = true := by
  have hothers : ∀ other, other ≠ ticket →
      (view.goOn ticket next).futures.get other = view.futures.get other := by
    intro other hother
    cases next with
    | none => exact (get_finish_eq_ite _ _ _).trans (if_neg hother)
    | some point => exact (get_become_eq_ite _ _ _ _).trans (if_neg hother)
  have hself : (view.goOn ticket next).futures.get ticket = next := by
    cases next with
    | none => exact (get_finish_eq_ite _ _ _).trans (if_pos rfl)
    | some point => exact (get_become_eq_ite _ _ _ _).trans (if_pos rfl)
  have hpublished : (view.goOn ticket next).published = view.published := published_go_on next
  constructor
  · rintro (htold | ⟨other, point, _, hother, hcovers⟩)
    · rw [hpublished] at htold
      exact .inl (.inl htold)
    · by_cases hsame : other = ticket
      · subst hsame
        rw [hself] at hother
        exact .inr ⟨point, hother, hcovers⟩
      · rw [hothers other hsame] at hother
        exact .inl (.inr ⟨other, point, hsame, hother, hcovers⟩)
  · rintro ((htold | ⟨other, point, hother, hget, hcovers⟩) | ⟨point, rfl, hcovers⟩)
    · rw [← hpublished] at htold
      exact .inl htold
    · rw [← hothers other hother] at hget
      exact .inr ⟨other, point, trivial, hget, hcovers⟩
    · exact .inr ⟨ticket, point, trivial, hself, hcovers⟩

theorem Told.mono (h : Told view isLeft version)
    (hpublished : ∀ snapshot ∈ view.published, snapshot ∈ after.published)
    (hfutures : ∀ ticket point, view.futures.get ticket = some point →
      after.futures.get ticket = some point) : Told after isLeft version := by
  rcases h with ⟨snapshot, hsnapshot, hle⟩ | ⟨ticket, point, hleft, hget, hcovers⟩
  · exact .inl ⟨snapshot, hpublished snapshot hsnapshot, hle⟩
  · exact .inr ⟨ticket, point, hleft, hfutures ticket point hget, hcovers⟩

theorem told_succ_iff (h : Sound view) :
    Told view isLeft (view.latest.version + 1) ↔
      ∃ ticket point, isLeft ticket ∧ view.futures.get ticket = some point ∧
        point.isBound = true := by
  constructor
  · rintro (⟨snapshot, hsnapshot, hle⟩ | ⟨ticket, point, hleft, hget, hcovers⟩)
    · have hpast := (h.published snapshot hsnapshot).past
      omega
    · refine ⟨ticket, point, hleft, hget, ?_⟩
      have hknown := h.held.of_get hget
      cases point with
      | listing _ snapshot _ | publishing snapshot _ =>
        have hpast := (hknown snapshot rfl).past
        have hle := of_decide_eq_true hcovers
        omega
      | _ => exact hcovers
  · rintro ⟨ticket, point, hleft, hget, hbound⟩
    exact .inr ⟨ticket, point, hleft, hget, Point.covers_of_bound hbound _⟩

theorem follows_of_transition (hsound : Sound world.toView)
    (h : Follows world.toView) (htransition : Transition world event after) :
    Follows after ↔ Meets world event := by
  cases htransition with
  | started _ point hquiet _ =>
    refine iff_of_true ⟨fun version hversion => ?_, h.ordered⟩ (meets_of_quiet hquiet)
    exact (h.told version hversion).mono (fun _ hsnapshot => hsnapshot) fun ticket held hget =>
      hsound.numbered.get_start hget point
  | moved _ ticket old new hquiet hget hcovers _ =>
    refine iff_of_true ⟨fun version hversion => ?_, h.ordered⟩ (meets_of_quiet hquiet)
    rw [told_go_on_iff]
    rcases (told_iff_of_get hget).1 (h.told version hversion) with htold | hold
    · exact .inl htold
    · exact .inr ⟨new, rfl, hcovers version (hsound.changes version hversion) hold⟩
  | ended _ ticket old next hquiet hget huncovering _ =>
    refine iff_of_true ⟨fun version hversion => ?_, ?_⟩ (meets_of_quiet hquiet)
    · rw [changes_go_on] at hversion
      have htold := (told_iff_of_get hget).1 (h.told version hversion)
      exact (told_go_on_iff next).2 (.inl (htold.resolve_right (by simp [huncovering version])))
    · rw [published_go_on]
      exact h.ordered
  | written _ ticket old new status hquiet hget hbound _ hunfinished =>
    refine iff_of_true ⟨fun version _ => ?_, ?_⟩ (meets_of_quiet hquiet)
    · exact (told_go_on_iff _).2 (.inr ⟨new, rfl, Point.covers_of_bound hbound version⟩)
    · rw [published_go_on, published_become]
      exact h.ordered
  | unannounced ticket answered hpresent hget =>
    have hothers : ∀ version ∈ world.changes, Told world.toView (· ≠ ticket) version := by
      intro version hversion
      have htold := (told_iff_of_get hget).1 (h.told version hversion)
      exact htold.resolve_right (by simp [Point.covers, Point.isBound])
    cases hterminal : world.latest.status.isTerminal with
    | true =>
      have hmeets : Meets world (.write ticket (.applied answered)) := by
        simp [Meets, hget, hterminal]
      refine iff_of_true ?_ hmeets
      simp only [if_true, View.become]
      exact ⟨fun version hversion => (told_go_on_iff none).2 (.inl (hothers version hversion)),
        h.ordered⟩
    | false =>
      have hmeets : Meets world (.write ticket (.applied answered)) ↔
          Told world.toView (· ≠ ticket) (world.latest.version + 1) := by
        rw [told_succ_iff hsound]
        simp [Meets, hget, hpresent, hterminal]
      have hchanged : TaskStatus.cancelled ≠ world.latest.status := by
        intro heq
        rw [← heq] at hterminal
        cases hterminal
      simp only [Bool.false_eq_true, if_false, View.become, if_neg hchanged, if_true]
      rw [hmeets]
      constructor
      · intro hfollows
        have htold := hfollows.told _ List.mem_cons_self
        exact ((told_go_on_iff none).1 htold).resolve_right (by simp)
      · intro htold
        refine ⟨fun version hversion => (told_go_on_iff none).2 (.inl ?_), h.ordered⟩
        rcases List.mem_cons.1 hversion with rfl | hversion
        · exact htold
        · exact hothers version hversion
  | unread _ ticket old after hget hmeets =>
    rw [hmeets]
    have htold : ∀ version, Told (world.goOn ticket after.point) (fun _ => True) version ↔
        Told world.toView (· ≠ ticket) version := by
      intro version
      rw [told_go_on_iff]
      refine or_iff_left ?_
      rintro ⟨point, hpoint, hcovers⟩
      rw [(after_notification hpoint).2 version] at hcovers
      cases hcovers
    constructor
    · intro hfollows version hversion
      rw [← htold]
      exact hfollows.told version (by simpa using hversion)
    · intro hleft
      refine ⟨fun version hversion => ?_, ?_⟩
      · rw [changes_go_on] at hversion
        exact (htold version).2 (hleft version hversion)
      · rw [published_go_on]
        exact h.ordered
  | published ticket snapshot after hget =>
    have hmeets : Meets world (.publish ticket) ↔
        ∀ earlier ∈ world.published, earlier.version ≤ snapshot.version := by
      simp [Meets, hget]
    rw [hmeets]
    constructor
    · intro hfollows earlier hearlier
      have hordered := hfollows.ordered
      rw [published_go_on] at hordered
      exact ((List.pairwise_cons.1 hordered).1 earlier hearlier).1
    · intro hnewer
      refine ⟨fun version hversion => ?_, ?_⟩
      · rw [changes_go_on] at hversion
        refine (told_go_on_iff _).2 (.inl ?_)
        rcases (told_iff_of_get hget).1 (h.told version hversion) with htold | hcovers
        · exact htold.mono (fun _ hold => List.mem_cons_of_mem snapshot hold)
            fun _ _ hother => hother
        · exact .inl ⟨snapshot, List.mem_cons_self, of_decide_eq_true hcovers⟩
      · rw [published_go_on]
        refine List.pairwise_cons.2 ⟨fun earlier hearlier => ?_, h.ordered⟩
        refine ⟨hnewer earlier hearlier, fun hterminal => ?_⟩
        -- a terminal state is the last one, so what is not older is that state
        have hlast := (hsound.published earlier hearlier).terminal hterminal
        have hknown := hsound.held.of_get hget snapshot rfl
        have hle := hnewer earlier hearlier
        rw [hlast] at hle ⊢
        rw [hknown.last (le_antisymm hknown.past hle)]
  | driven _ status hquiet hunfinished =>
    refine iff_of_true ?_ (meets_of_quiet hquiet)
    unfold View.become
    split
    · exact h
    · exact ⟨fun version hversion => h.told version hversion, h.ordered⟩
  | kept _ hquiet => exact iff_of_true h (meets_of_quiet hquiet)

theorem Follows.published (h : Follows view) (hquiet : ∀ ticket, view.futures.get ticket = none) :
    ∀ version ∈ view.changes, ∃ snapshot ∈ view.published, version ≤ snapshot.version := by
  intro version hversion
  refine (h.told version hversion).resolve_right ?_
  rintro ⟨ticket, point, _, hget, _⟩
  rw [hquiet ticket] at hget
  cases hget

theorem meets_of_refused (hrefused : step world event = none) : Meets world event := by
  cases hquiet : event.isQuiet world with
  | true => exact meets_of_quiet hquiet
  | false =>
    cases event with
    | write ticket reply =>
      cases reply with
      | applied answered =>
        have hget : world.futures.get ticket = some (.cancelling false) := by
          simpa [Event.isQuiet] using hquiet
        simp only [Meets, hget]
        intro hpresent
        simp [step, hget, Point.write, Write.status, hpresent] at hrefused
      | refused | failed _ => cases hquiet
    | read ticket found =>
      simp only [Event.isQuiet] at hquiet
      subst hquiet
      cases hget : world.futures.get ticket with
      | none => simp [Meets, hget]
      | some point =>
        cases point with
        | notifying first after => simp [step, hget] at hrefused
        | _ => simp [Meets, hget]
    | list ticket empty =>
      cases hget : world.futures.get ticket with
      | none => simp [Meets, hget]
      | some point =>
        cases point with
        | listing first snapshot after =>
          rcases empty with _ | _ | _ <;> cases first <;> simp [step, hget] at hrefused
        | _ => simp [Meets, hget]
    | publish ticket =>
      cases hget : world.futures.get ticket with
      | none => simp [Meets, hget]
      | some point =>
        cases point with
        | publishing snapshot after => simp [step, hget] at hrefused
        | _ => simp [Meets, hget]
    | createTask _ | updateTask _ | cancelTask _ | notifyTaskStatusChanged | handlerEnds _ _
    | check _ _ | resume _ _ | drive _ | expire => cases hquiet

end Steps

/-- The subscribers follow the task at any time of a run exactly when no step of it loses a change
or publishes a state after a newer one: a cancellation of an older lifecycle ends only a task for
which another operation is still going to notify, a notification that finds nothing to read leaves
another operation to tell of every change, and nothing is published after a state that was read
later. -/
theorem subscribers_follow (events : List Event) :
    Throughout step (fun world => Follows world.toView) {} events ↔
      Along step Meets {} events := by
  have hinit : Follows {} := ⟨List.forall_mem_nil _, List.Pairwise.nil⟩
  refine throughout_iff_along (I := fun world : World => Sound world.toView) ?_ ?_ ?_
    sound_init hinit events
  · intro world event next hsound hstep
    exact sound_of_transition hsound (transition_of_step hstep)
  · intro world event next hsound hfollows hstep
    exact follows_of_transition hsound hfollows (transition_of_step hstep)
  · intro world event hrefused
    exact meets_of_refused hrefused

def olderCancelEvents : List Event :=
  [.createTask false, .handlerEnds 0 (.asked false), .write 0 (.applied false), .read 0 true,
    .list 0 (some false), .publish 0, .cancelTask false, .check 1 true, .write 1 (.applied false)]

def overtakenEvents : List Event :=
  [.createTask false, .updateTask true, .write 1 (.applied false), .read 1 true, .cancelTask true,
    .write 2 (.applied false), .read 2 true, .publish 2, .publish 1]

/-- An older client cancels a task that waits for input, and the subscribers are left with
`input_required`; and an update that is overtaken tells them that a cancelled task works. -/
theorem subscribers_left_behind :
    (∃ final, run step {} olderCancelEvents = some final ∧
      final.latest.status = .cancelled ∧ (∀ ticket, final.futures.get ticket = none) ∧
      final.published.map Snapshot.status = [.inputRequired] ∧ ¬Follows final.toView) ∧
    ∃ final, run step {} overtakenEvents = some final ∧
      final.published.map Snapshot.status = [.working, .cancelled] ∧ ¬Follows final.toView := by
  constructor
  · obtain ⟨final, hfinal, hstatus, hkeys, hpublished, hchanges⟩ : ∃ final,
        run step {} olderCancelEvents = some final ∧
          final.latest.status = .cancelled ∧ final.futures.calls.keys = [] ∧
          final.published = [{ version := 1, status := .inputRequired }] ∧
          final.changes = [2, 1] := by
      decide +kernel
    have hquiet : ∀ ticket, final.futures.get ticket = none := by
      intro ticket
      refine AList.lookup_eq_none.2 fun hmem => ?_
      rw [AList.mem_keys, hkeys] at hmem
      cases hmem
    refine ⟨final, hfinal, hstatus, hquiet, by rw [hpublished]; rfl, fun hfollows => ?_⟩
    have htold := hfollows.published hquiet 2 (by rw [hchanges]; exact List.mem_cons_self)
    rw [hpublished] at htold
    simp at htold
  · obtain ⟨final, hfinal, hpublished⟩ : ∃ final,
        run step {} overtakenEvents = some final ∧ final.published =
          [{ version := 0, status := .working }, { version := 1, status := .cancelled }] := by
      decide +kernel
    refine ⟨final, hfinal, by rw [hpublished]; rfl, fun hfollows => ?_⟩
    have hordered := hfollows.ordered
    rw [hpublished] at hordered
    have hback := ((List.pairwise_cons.1 hordered).1 _ List.mem_cons_self).1
    cases hback

end TaskNotifications

end TowerMcp
