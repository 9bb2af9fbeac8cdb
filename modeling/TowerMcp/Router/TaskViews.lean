import TowerMcp.Router.TaskAccess

/-!
# Views of a task

`detailed_task` of `router/task_ops.rs` beside everything that is done to the store meanwhile. A view
reads the snapshot of the task and then, for a task that waits for input, the outstanding requests;
when there are none it starts over once. Each read and each call of the store is a step of its own,
and the retirement in front of a read is such a call.
-/

namespace TowerMcp

open Execution MemoryTaskStore TaskRouter

namespace TaskViews

abbrev Detailed := DetailedTask × Option (List (String × Json))

inductive Point where
  | reading (attempt : ℕ)
  | listing (attempt : ℕ) (metadata : TaskMetadata) (shared : Option (List (String × Json)))
  | returned (result : Except JsonRpcError (Option Detailed))

structure World where
  store : TaskStore.World := {}
  view : Option Point := none
  seen : List Task := []

inductive Event where
  | call (event : TaskStore.Event)
  | detailedTask
  | read (now : Instant)

def Event.drawnId : Event → Option String
  | .call event => event.call.drawnId
  | _ => none

variable {E : Type} (router : TaskRouter E) (taskId : String)

def readSnapshot (attempt : ℕ) : Option TaskSnapshot → Point
  | none => .returned (.ok none)
  | some (task, result, error) =>
    let metadata := taskMetadata task
    let shared := task.metadata.bind asObject
    match task.status with
    | .working => .returned (.ok (some (.working metadata, shared)))
    | .inputRequired => .listing attempt metadata shared
    | .completed =>
      .returned ((router.completedResult taskId result).map fun fields =>
        some (.completed metadata fields, shared))
    | .failed =>
      .returned (.ok (some (.failed metadata (error.getD (.internalError "Task failed")), shared)))
    | .cancelled => .returned (.ok (some (.cancelled metadata, shared)))

def readRequests (attempt : ℕ) (metadata : TaskMetadata)
    (shared : Option (List (String × Json))) : Option InputRequests → Point
  | none => .returned (.ok none)
  | some outstanding =>
    if outstanding.entries.isEmpty then
      -- an update has come between the two reads, so the task is read once more
      if attempt = 0 then .reading 1
      else
        .returned (.error (router.taskError .get taskId
          (.internal "task store returned input_required without outstanding requests")))
    else .returned (.ok (some (.inputRequired metadata outstanding, shared)))

def held (world : TaskStore.World) : List Task :=
  ((world.data.tasks.lookup taskId).map fun stored => stored.task).toList

def nextRead (world : World) (now : Instant) : Option Point :=
  match world.view with
  | some (.reading attempt) =>
    some (readSnapshot router taskId attempt (getTaskResult world.store.data now taskId))
  | some (.listing attempt metadata shared) =>
    some (readRequests router taskId attempt metadata shared
      (outstandingInputRequests world.store.data now taskId))
  | _ => none

def step (world : World) : Event → Option World
  | .call event =>
    (TaskStore.step router.store world.store event).map fun store =>
      { world with store, seen := held taskId store ++ world.seen }
  | .detailedTask =>
    if world.view.isSome then none
    else some { world with view := some (.reading 0), seen := held taskId world.store }
  | .read now =>
    if now < world.store.clock then none
    else
      (nextRead router taskId world now).map fun point =>
        { world with store := { world.store with clock := now }, view := some point }

/-! ## Snapshots -/

structure TaskView where
  status : TaskStatus
  message : Option String
  requests : InputRequests := ∅
  result : Option (List (String × Json)) := none
  error : Option JsonRpcError := none

def shown : DetailedTask → TaskView
  | .working metadata => { status := .working, message := metadata.statusMessage }
  | .inputRequired metadata requests =>
    { status := .inputRequired, message := metadata.statusMessage, requests }
  | .completed metadata result =>
    { status := .completed, message := metadata.statusMessage, result := some result }
  | .failed metadata error =>
    { status := .failed, message := metadata.statusMessage, error := some error }
  | .cancelled metadata => { status := .cancelled, message := metadata.statusMessage }

def viewOf (task : Task) : TaskView where
  status := task.status
  message := task.statusMessage
  requests := task.inputRequests
  result :=
    if task.status = .completed then (router.completedResult taskId task.result).toOption else none
  error :=
    if task.status = .failed then some (task.error.getD (.internalError "Task failed")) else none

def Point.IsSnapshot (seen : List Task) : Point → Prop
  | .returned (.ok (some (detailed, _))) =>
    ∃ task ∈ seen, shown detailed = viewOf router taskId task
  | .returned (.error _) => False
  | _ => True

def Snapshotted (world : World) : Prop :=
  ∀ point ∈ world.view, point.IsSnapshot router taskId world.seen

/-- Requests are read under the message that was read before them, and in the second attempt there
are some. -/
def readsInStep (world : World) (now : Instant) : Bool :=
  match world.view, readable world.store.data now taskId with
  | some (.listing attempt metadata _), some stored =>
    if stored.task.inputRequests.entries.isEmpty then attempt == 0
    else stored.task.statusMessage == metadata.statusMessage
  | _, _ => true

/-- The reads are in step. The task is parked on some request, and a report of its progress says that
it waits exactly when it has requests. -/
def Meets (world : World) : Event → Prop
  | .call event =>
    event.call.target = some taskId → TaskStore.RequestsAgree router.store world.store event
  | .detailedTask => True
  | .read now => readsInStep taskId world now = true

instance decidableMeets (world : World) (event : Event) :
    Decidable (Meets router taskId world event) := by
  cases event <;> unfold Meets <;> infer_instance

/-! ## Runs -/

section Run

variable {router taskId} {world next : World} {event : Event} {seen : List Task}

theorem mem_held {store : TaskStore.World} {stored : StoredTask}
    (hlookup : store.data.tasks.lookup taskId = some stored) : stored.task ∈ held taskId store := by
  simp [held, hlookup]

theorem Point.IsSnapshot.mono {point : Point} {later : List Task}
    (h : point.IsSnapshot router taskId seen) (hsubset : seen ⊆ later) :
    point.IsSnapshot router taskId later := by
  cases point with
  | returned result =>
    cases result with
    | error error => exact h
    | ok view =>
      cases view with
      | none => trivial
      | some detailed =>
        obtain ⟨task, hmem, hview⟩ := h
        exact ⟨task, hsubset hmem, hview⟩
  | reading attempt => trivial
  | listing attempt metadata shared => trivial

variable {task : Task}

theorem completed_result_ok (router : TaskRouter E) (taskId : String) (h : task.Serializable) :
    ∃ fields, router.completedResult taskId task.result = .ok fields := by
  obtain ⟨⟨json, hjson⟩, -⟩ := Task.serializable_iff.1 h
  cases hresult : task.result with
  | none => exact ⟨_, rfl⟩
  | some result =>
    rw [hresult] at hjson
    have hvalue : serialize result = .ok json := hjson
    refine ⟨insertField ((asObject json).getD []) "resultType" (.string "complete"), ?_⟩
    simp only [completedResult, hvalue]
    rfl

theorem snapshot_of_read_snapshot (hmem : task ∈ seen) (hbelongs : task.Belongs)
    (hserializable : task.Serializable) (attempt : ℕ) :
    (readSnapshot router taskId attempt
      (some (task.toTaskObject, task.result, task.error))).IsSnapshot router taskId seen := by
  have hnone (hstatus : task.status ≠ .inputRequired) : task.inputRequests = ∅ :=
    not_not.1 fun hsome => hstatus (hbelongs.1 hsome)
  have hmessage : (taskMetadata task.toTaskObject).statusMessage = task.statusMessage := rfl
  unfold readSnapshot
  dsimp only
  rw [show task.toTaskObject.status = task.status from rfl]
  cases hstatus : task.status with
  | working =>
    exact ⟨task, hmem, by simp [shown, viewOf, hstatus, hnone, hmessage]⟩
  | inputRequired => trivial
  | completed =>
    obtain ⟨fields, hfields⟩ := completed_result_ok router taskId hserializable
    simp only [hfields]
    exact ⟨task, hmem, by simp [shown, viewOf, hstatus, hnone, hmessage, hfields, Except.toOption]⟩
  | failed =>
    exact ⟨task, hmem, by simp [shown, viewOf, hstatus, hnone, hmessage]⟩
  | cancelled =>
    exact ⟨task, hmem, by simp [shown, viewOf, hstatus, hnone, hmessage]⟩

theorem snapshot_of_read_requests (hmem : task ∈ seen) (hbelongs : task.Belongs) {attempt : ℕ}
    {metadata : TaskMetadata} (shared : Option (List (String × Json)))
    (hmeets : (if task.inputRequests.entries.isEmpty then attempt == 0
      else task.statusMessage == metadata.statusMessage) = true) :
    (readRequests router taskId attempt metadata shared (some task.inputRequests)).IsSnapshot
      router taskId seen := by
  unfold readRequests
  dsimp only
  cases hempty : task.inputRequests.entries.isEmpty with
  | true =>
    rw [hempty, if_pos rfl, beq_iff_eq] at hmeets
    rw [if_pos rfl, if_pos hmeets]
    trivial
  | false =>
    rw [hempty, if_neg Bool.false_ne_true, beq_iff_eq] at hmeets
    have hsome : task.inputRequests ≠ ∅ := by
      intro hnone
      rw [hnone] at hempty
      cases hempty
    rw [if_neg Bool.false_ne_true]
    exact ⟨task, hmem, by simp [shown, viewOf, hbelongs.1 hsome, hmeets]⟩

structure Fits (router : TaskRouter E) (taskId : String) (world : World) : Prop where
  sound : TaskStore.Sound router.store world.store
  belongs : ∀ stored, world.store.data.tasks.lookup taskId = some stored →
    stored.task.isExpiredAt world.store.clock = false → stored.task.Belongs
  held : world.view.isSome = true →
    ∀ stored, world.store.data.tasks.lookup taskId = some stored → stored.task ∈ world.seen
  snapshotted : Snapshotted router taskId world

theorem fits_init : Fits router taskId {} where
  sound := TaskStore.sound_init router.store
  belongs := by
    intro stored hlookup
    simp at hlookup
  held := nofun
  snapshotted := nofun

theorem Fits.call {call : TaskStore.Event} (h : Fits router taskId world)
    (hfresh : TaskStore.FreshDraw world.store call)
    (hmeets : Meets router taskId world (.call call))
    (hstep : step router taskId world (.call call) = some next) : Fits router taskId next := by
  obtain ⟨store, hstore, rfl⟩ := Option.map_eq_some_iff.1 hstep
  obtain ⟨reply, hstepped⟩ := TaskStore.step_sound h.sound hfresh hstore
  have hrun := TaskStore.perform_of_stepped hstore hstepped
  exact
    { sound := hstepped.sound
      belongs := fun _ => TaskStore.belongs_of_stepped hstepped hrun h.belongs hmeets
      held := fun _ _ hlookup => List.mem_append_left _ (mem_held hlookup)
      snapshotted := fun point hpoint =>
        (h.snapshotted point hpoint).mono (List.subset_append_right _ _) }

theorem Fits.read {now : Instant} (h : Fits router taskId world)
    (hmeets : Meets router taskId world (.read now))
    (hstep : step router taskId world (.read now) = some next) : Fits router taskId next := by
  obtain ⟨hnow, hstep⟩ := Option.ite_none_left_eq_some.1 hstep
  obtain ⟨point, hpoint, rfl⟩ := Option.map_eq_some_iff.1 hstep
  have hlater : world.store.clock ≤ now := Nat.le_of_not_lt hnow
  have hview : world.view.isSome = true := by
    cases hview : world.view with
    | none =>
      rw [nextRead, hview] at hpoint
      cases hpoint
    | some _ => rfl
  refine
    { sound := h.sound.advance hlater
      belongs := fun stored hlookup hunexpired =>
        h.belongs stored hlookup (Task.unexpired_earlier hlater hunexpired)
      held := fun _ => h.held hview
      snapshotted := ?_ }
  rintro _ ⟨⟩
  show point.IsSnapshot router taskId world.seen
  have hread : ∀ stored, readable world.store.data now taskId = some stored →
      stored.task ∈ world.seen ∧ stored.task.Belongs ∧ stored.task.Serializable := by
    intro stored hread
    obtain ⟨hlookup, hunexpired⟩ := readable_eq_some.1 hread
    exact ⟨h.held hview stored hlookup,
      h.belongs stored hlookup (Task.unexpired_earlier hlater hunexpired),
      (h.sound.accounted.wellFormed taskId stored hlookup).serializable⟩
  unfold nextRead at hpoint
  split at hpoint
  next attempt _ =>
    cases hpoint
    unfold getTaskResult
    cases hstored : readable world.store.data now taskId with
    | none => trivial
    | some stored =>
      obtain ⟨hmem, hbelongs, hserializable⟩ := hread stored hstored
      exact snapshot_of_read_snapshot hmem hbelongs hserializable attempt
  next attempt metadata shared hlisting =>
    cases hpoint
    unfold outstandingInputRequests
    cases hstored : readable world.store.data now taskId with
    | none => trivial
    | some stored =>
      obtain ⟨hmem, hbelongs, -⟩ := hread stored hstored
      refine snapshot_of_read_requests hmem hbelongs shared ?_
      have hinstep : readsInStep taskId world now = true := hmeets
      rwa [readsInStep, hlisting, hstored] at hinstep
  next => cases hpoint

theorem Fits.step (h : Fits router taskId world)
    (hfresh : ∀ name, event.drawnId = some name → name ∉ TaskStore.drawnIds world.store.events)
    (hmeets : Meets router taskId world event)
    (hstep : step router taskId world event = some next) : Fits router taskId next := by
  cases event with
  | call event => exact h.call hfresh hmeets hstep
  | detailedTask =>
    obtain ⟨-, hnext⟩ := Option.ite_none_left_eq_some.1 hstep
    cases hnext
    refine ⟨h.sound, h.belongs, fun _ _ hlookup => mem_held hlookup, ?_⟩
    rintro _ ⟨⟩
    trivial
  | read now => exact h.read hmeets hstep

theorem drawn_of_step (hstep : step router taskId world event = some next) (name : String)
    (hname : name ∈ TaskStore.drawnIds next.store.events) :
    name ∈ TaskStore.drawnIds world.store.events ∨ event.drawnId = some name := by
  cases event with
  | call event =>
    obtain ⟨store, hstore, rfl⟩ := Option.map_eq_some_iff.1 hstep
    exact TaskStore.events_of_step hstore name hname
  | detailedTask =>
    obtain ⟨-, hnext⟩ := Option.ite_none_left_eq_some.1 hstep
    cases hnext
    exact .inl hname
  | read now =>
    obtain ⟨-, hstep⟩ := Option.ite_none_left_eq_some.1 hstep
    obtain ⟨point, -, rfl⟩ := Option.map_eq_some_iff.1 hstep
    exact .inl hname

end Run

/-- In a run whose created identifiers differ and whose steps meet the condition, a view that has
returned is always a snapshot. -/
theorem views_are_snapshots (router : TaskRouter E) (taskId : String) (events : List Event)
    (hfresh : (events.filterMap Event.drawnId).Nodup)
    (hmeets : Along (step router taskId) (Meets router taskId) {} events) :
    Throughout (step router taskId) (Snapshotted router taskId) {} events := by
  have hadds : ∀ world event next, step router taskId world event = some next →
      ∀ name, name ∈ TaskStore.drawnIds next.store.events →
        name ∈ TaskStore.drawnIds world.store.events ∨ event.drawnId = some name :=
    fun _ _ _ hstep => drawn_of_step hstep
  have hdrawn : Along (step router taskId) (fun world event => ∀ name,
      event.drawnId = some name → name ∉ TaskStore.drawnIds world.store.events) {} events :=
    along_fresh hadds hfresh fun name _ hmem => by
      simp [TaskStore.World.events, TaskStore.drawnIds] at hmem
  have hkeeps : ∀ world event next, Fits router taskId world →
      ((∀ name, event.drawnId = some name → name ∉ TaskStore.drawnIds world.store.events) ∧
        Meets router taskId world event) →
      step router taskId world event = some next → Fits router taskId next :=
    fun _ _ _ h hcondition hstep => h.step hcondition.1 hcondition.2 hstep
  exact (throughout_of_along hkeeps fits_init (hdrawn.and hmeets)).mono
    fun _ h => h.snapshotted

open TaskStore in
def waitingEvents : List Event :=
  [.call ⟨⟨0, "t0"⟩, .createTask ⟨0, "t0"⟩ "a" "report" .null none none⟩,
    .call ⟨⟨1, "t1"⟩, .requireInput "a" (AList.insert "k" question ∅) (some "first")⟩,
    .detailedTask, .read 2]

theorem waiting_task_shown :
    Throughout (step subjectRouter "a") (Snapshotted subjectRouter "a") {}
      (waitingEvents ++ [.read 3]) :=
  views_are_snapshots subjectRouter "a" _ (by decide) (by decide +kernel)

open TaskStore in
def tornEvents : List Event :=
  waitingEvents ++
    [.call ⟨⟨3, "t3"⟩, .applyInputResponses "a" (AList.insert "k" (.elicit (.ok .null)) ∅)⟩,
      .call ⟨⟨4, "t4"⟩, .requireInput "a" (AList.insert "l" question ∅) (some "second")⟩, .read 5]

def isTorn (world : World) : Bool :=
  match world.view with
  | some (.returned (.ok (some (.inputRequired metadata requests, _)))) =>
    world.seen.all fun task => task.statusMessage != metadata.statusMessage ||
      (task.inputRequests.lookup "l").isSome != (requests.lookup "l").isSome
  | _ => false

/-- A message is shown with the requests of another state. -/
theorem torn_view_shown :
    ¬∀ events : List Event, (events.filterMap Event.drawnId).Nodup →
      Throughout (step subjectRouter "a") (Snapshotted subjectRouter "a") {} events := by
  intro h
  obtain ⟨world, hrun, htorn⟩ : ∃ world,
      run (step subjectRouter "a") {} tornEvents = some world ∧ isTorn world = true := by
    decide +kernel
  have hsnapshot := (h tornEvents (by decide)).last hrun
  unfold isTorn at htorn
  split at htorn
  next metadata requests shared hview =>
    obtain ⟨task, hmem, hshown⟩ := hsnapshot _ hview
    have hmessage : metadata.statusMessage = task.statusMessage := congrArg TaskView.message hshown
    have hrequests : requests = task.inputRequests := congrArg TaskView.requests hshown
    have hdiffers := List.all_eq_true.1 htorn task hmem
    simp [hmessage, hrequests] at hdiffers
  next => cases htorn

end TaskViews

end TowerMcp
