import TowerMcp.Router.InputRequired
import TowerMcp.Router.SingleExecution

/-!
# Who is asked for input

The exits through which a handler's requests for input leave the router. `tools/call`, `prompts/get`
and `resources/read` in `router.rs` check them against the request they answer. The runs and the
replays of a task park it on them with `park_task_for_input` of `router/task_ops.rs`, and they are
shown by every later reading of its outstanding requests, in `tasks/get` and in notifications.
-/

namespace TowerMcp

open Execution

namespace AskedClients

open TaskExecution (Point AskedRequests)

/-! ## Synchronous requests -/

inductive RequestOutcome (R : Type) where
  | complete (result : R)
  | inputRequired (required : InputRequiredResult)

def respond {R : Type} (params : InputParams) (lifecycle : Option RequestLifecycle) :
    Except Error (RequestOutcome R) → Except Error (RequestOutcome R)
  | .error error => .error error
  | .ok (.complete result) => .ok (.complete result)
  | .ok (.inputRequired required) =>
    match validateInputRequiredResult params lifecycle required with
    | .error error => .error error
    | .ok _ => .ok (.inputRequired required)

structure Asked (R : Type) where
  lifecycle : Option RequestLifecycle
  required : InputRequiredResult
  answer : Except Error (RequestOutcome R)

def Asked.of {R : Type} (params : InputParams) (lifecycle : Option RequestLifecycle) :
    Except Error (RequestOutcome R) → Option (Asked R)
  | .ok (.inputRequired required) =>
    some
      { lifecycle
        required
        answer := respond params lifecycle (.ok (.inputRequired required)) }
  | _ => none

/-! ## Tasks -/

/-- The execution of tasks, with the lifecycle of the request that created each, and the synchronous
requests that asked for input. -/
structure World (R : Type) where
  execution : TaskExecution.World := {}
  origins : FinMap String (Option RequestLifecycle) := ∅
  asked : List (Asked R) := []

/-- A synchronous request is answered, or a step of the execution of tasks is taken, for a request
of some lifecycle. -/
inductive Event (R : Type) where
  | respond (lifecycle : Option RequestLifecycle) (outcome : Except Error (RequestOutcome R))
  | execute (lifecycle : Option RequestLifecycle) (event : TaskExecution.Event)

variable {R : Type}

def Event.drawnId : Event R → Option String
  | .respond _ _ => none
  | .execute _ event => event.drawnId

def World.origin (world : World R) (id : String) : Option RequestLifecycle :=
  (world.origins.lookup id).join

def World.outstanding (world : World R) (id : String) : Option InputRequests :=
  (world.execution.store.data.tasks.lookup id).map fun stored => stored.task.inputRequests

def step {E : Type} (params : InputParams) (router : TaskRouter E) (world : World R) :
    Event R → Option (World R)
  | .respond lifecycle outcome =>
    some { world with asked := (Asked.of params lifecycle outcome).toList ++ world.asked }
  | .execute lifecycle event =>
    (TaskExecution.step router world.execution event).map fun next =>
      { world with
        execution := next
        origins := match event.drawnId with
          | some id => world.origins.insert id lifecycle
          | none => world.origins }

def Shown (params : InputParams) (world : World R) : Prop :=
  ∀ id requests, id ∉ world.execution.liveTasks → world.outstanding id = some requests →
    requests ≠ ∅ → Answerable params (world.origin id) { inputRequests := some requests }

/-- Input is asked of clients that can give it, and any other request for it is answered with an
error. -/
structure Served (params : InputParams) (world : World R) : Prop where
  tasks : Shown params world
  requests : ∀ asked ∈ world.asked,
    (Answerable params asked.lifecycle asked.required →
      asked.answer = .ok (.inputRequired asked.required)) ∧
    (¬Answerable params asked.lifecycle asked.required → ∃ error, asked.answer = .error error)

/-- What the handler of a task asks for at a step, with the lifecycle of the request that created
the task. -/
def World.asks (world : World R) : Event R → Option (Option RequestLifecycle × InputRequests)
  | .respond _ _ => none
  | .execute _ event =>
    match event.action with
    | .choose ticket (.returned (.ok (.inputRequired requests _))) =>
      match world.execution.futures.get ticket with
      | some (.running id _) =>
        if requests.entries.isEmpty then none else some (world.origin id, requests)
      | _ => none
    | _ => none

/-- What is asked of a step: the client of a task can give what a run or a replay of the handler
asks for. -/
def Meets (params : InputParams) (world : World R) (event : Event R) : Prop :=
  ∀ lifecycle requests, world.asks event = some (lifecycle, requests) →
    Answerable params lifecycle { inputRequests := some requests }

instance (params : InputParams) (world : World R) (event : Event R) :
    Decidable (Meets params world event) :=
  decidable_of_iff
    ((world.asks event).all fun asked =>
      (validateInputRequiredResult params asked.1 { inputRequests := some asked.2 }).toBool) <| by
    have hvalid : ∀ lifecycle requests,
        (validateInputRequiredResult params lifecycle { inputRequests := some requests }).toBool =
            true ↔ Answerable params lifecycle { inputRequests := some requests } := by
      intro lifecycle requests
      rw [← validate_input_required_ok_iff]
      cases validateInputRequiredResult params lifecycle { inputRequests := some requests } with
      | ok valid => exact ⟨fun _ => rfl, fun _ => rfl⟩
      | error error => exact ⟨nofun, nofun⟩
    unfold Meets
    cases world.asks event with
    | none => exact ⟨fun _ => nofun, fun _ => rfl⟩
    | some asked =>
      rw [Option.all_some, hvalid]
      exact ⟨fun h _ _ heq => by cases heq; exact h, fun h => h _ _ rfl⟩

/-! ## Single requests -/

def Supports (params : InputParams) (lifecycle : Option RequestLifecycle)
    (request : InputRequest) : Prop :=
  ∃ declared actual, lifecycle = some declared ∧ declared.isFinal = true ∧
    declared.clientCapabilities = some actual ∧ request.supportedBy params actual = true

def SupportsAll (params : InputParams) (lifecycle : Option RequestLifecycle)
    (requests : InputRequests) : Prop :=
  ∀ key request, requests.lookup key = some request → Supports params lifecycle request

variable {lifecycle : Option RequestLifecycle}

theorem answerable_iff {params : InputParams} {requests : InputRequests} (hrequests : requests ≠ ∅)
    :
    Answerable params lifecycle { inputRequests := some requests } ↔
      SupportsAll params lifecycle requests := by
  constructor
  · intro h key request hrequest
    obtain ⟨declared, actual, hdeclared, hfinal, hactual, hall⟩ := h.supported
    exact ⟨declared, actual, hdeclared, hfinal, hactual, hall key request hrequest⟩
  · intro h
    obtain ⟨key, request, hrequest⟩ : ∃ key request, requests.lookup key = some request := by
      by_contra hnone
      refine hrequests (FinMap.eq_empty_of_lookup_none fun key => ?_)
      cases hlookup : requests.lookup key with
      | none => rfl
      | some request => exact absurd ⟨key, request, hlookup⟩ hnone
    obtain ⟨declared, actual, hdeclared, hfinal, hactual, -⟩ := h key request hrequest
    refine ⟨.inl nofun, declared, actual, hdeclared, hfinal, hactual, ?_⟩
    intro other asked hasked
    obtain ⟨same, found, hsame, -, hfound, hsupported⟩ := h other asked hasked
    obtain rfl := Option.some.inj (hdeclared.symm.trans hsame)
    obtain rfl := Option.some.inj (hactual.symm.trans hfound)
    exact hsupported

theorem respond_input_required {params : InputParams} {required : InputRequiredResult} :
    (Answerable params lifecycle required →
      respond (R := R) params lifecycle (.ok (.inputRequired required)) =
        .ok (.inputRequired required)) ∧
    (¬Answerable params lifecycle required → ∃ error,
      respond (R := R) params lifecycle (.ok (.inputRequired required)) = .error error) := by
  have hiff : validateInputRequiredResult params lifecycle required = .ok () ↔
      Answerable params lifecycle required := validate_input_required_ok_iff
  unfold respond
  dsimp only
  cases hvalid : validateInputRequiredResult params lifecycle required with
  | ok valid =>
    have hanswerable := hiff.1 hvalid
    exact ⟨fun _ => rfl, fun hnot => absurd hanswerable hnot⟩
  | error error =>
    rw [hvalid] at hiff
    refine ⟨fun hanswerable => ?_, fun _ => ⟨error, rfl⟩⟩
    cases hiff.2 hanswerable

/-! ## Records -/

section Records

variable {store : MemoryTaskStore} {now : Moment} {call : StoreCall} {reply : Reply}

theorem requests_of_task_change {before after : Task}
    (h : TaskChange store now call reply before after) :
    (∀ key request, after.inputRequests.lookup key = some request →
      before.inputRequests.lookup key = some request) ∨
    ∃ id requests message, call = .requireInput id requests message ∧
      after.inputRequests = requests := by
  have hnone : after.inputRequests = ∅ → ∀ key request,
      after.inputRequests.lookup key = some request →
        before.inputRequests.lookup key = some request := by
    intro hempty key request hrequest
    rw [hempty] at hrequest
    cases hrequest
  cases h with
  | parked id requests message _ _ _ _ => exact .inr ⟨id, requests, message, rfl, rfl⟩
  | described | progressed | extended | signalled => exact .inl fun _ _ hrequest => hrequest
  | answered id responses _ _ =>
    refine .inl fun key request hrequest => ?_
    have hopen := (before.answered_apply_input_responses now responses).outstanding key
    rw [hopen] at hrequest
    split at hrequest
    · cases hrequest
    · exact hrequest
  | completed | failed | completionRejected | failureRejected => exact .inl (hnone rfl)
  | cancelled _ reason _ final _ outcome =>
    refine .inl (hnone ?_)
    show final.inputRequests = ∅
    obtain rfl | rfl := outcome
    · obtain ⟨message, -, heq⟩ | heq :=
        cancelled_task_cases store now before.raiseToken reason
      · rw [heq]
      · rw [heq]
        rfl
    · rfl

theorem requests_of_key_change {id : String} {held : Option StoredTask} {new : StoredTask}
    (h : KeyChange store now call reply id held (some new)) :
    (∀ key request, new.task.inputRequests.lookup key = some request →
      ∃ old, held = some old ∧ old.task.inputRequests.lookup key = some request) ∨
    ∃ requests message, call = .requireInput id requests message ∧
      new.task.inputRequests = requests := by
  cases h with
  | kept _ _ => exact .inl fun _ _ hrequest => ⟨new, rfl, hrequest⟩
  | admitted _ _ _ _ _ _ _ _ task _ =>
    refine .inl fun key request hrequest => ?_
    rw [task] at hrequest
    cases hrequest
  | changed old _ named _ _ task =>
    obtain hkept | ⟨other, requests, message, rfl, hrequests⟩ := requests_of_task_change task
    · exact .inl fun key request hrequest => ⟨old, rfl, hkept key request hrequest⟩
    · obtain rfl := Option.some.inj named
      exact .inr ⟨requests, message, rfl, hrequests⟩
  | retired _ stored _ _ =>
    refine .inl fun key request hrequest => ?_
    cases hrequest

end Records

/-! ## Futures -/

section Futures

variable {E : Type} {router : TaskRouter E} {execution : TaskExecution.World} {point : Point}
  {id : String} {requests : AskedRequests} {state : Option String}

theorem not_parking_of_answered {reply : Reply}
    (h : point.answered router reply = some (.parking id requests state)) : False := by
  cases point with
  | describing taskId isLive metadata =>
    have hnext := Option.some.inj h
    split at hnext
    · cases isLive <;> cases hnext
    · cases hnext
  | discarding taskId =>
    obtain ⟨-, h⟩ := Option.ite_none_left_eq_some.1 h
    cases h
  | parking _ _ _ | completing _ _ =>
    obtain ⟨_, _, h⟩ := Option.map_eq_some_iff.1 h
    cases h
  | closing taskId outcome =>
    cases outcome with
    | completed result =>
      unfold Point.answered at h
      dsimp only at h
      split at h <;> cases h
    | failed | cancelled => cases h
  | _ => cases h

theorem returned_of_parking {now : Instant} {choice : TaskExecution.Choice}
    {continuation : Option TaskExecution.Continuation}
    (h : execution.choose router now point choice =
      some (some (.parking id requests state), continuation)) :
    ∃ replay, point = .running id replay ∧
      choice = .returned (.ok (.inputRequired requests.1 state)) := by
  unfold TaskExecution.World.choose at h
  split at h
  next =>
    obtain ⟨-, h⟩ := Option.ite_none_right_eq_some.1 h
    cases h
  next taskId isLive => cases isLive <;> cases h
  next => cases h
  next => cases h
  next =>
    have hnext := (Prod.mk.inj (Option.some.inj h)).1
    split at hnext <;> cases hnext
  next =>
    obtain ⟨-, h⟩ := Option.ite_none_right_eq_some.1 h
    cases h
  next taskId replay outcome =>
    have hnext := (Prod.mk.inj (Option.some.inj h)).1
    replace hnext := Option.some.inj hnext
    unfold Point.returned at hnext
    split at hnext
    · cases replay <;> cases hnext
    · cases replay <;> cases hnext
    · split at hnext
      · cases hnext
        exact ⟨replay, rfl, rfl⟩
      · cases hnext
  next =>
    have hnext := (Prod.mk.inj (Option.some.inj h)).1
    split at hnext <;> cases hnext
  next => cases h
  next => cases h
  next => cases h
  next => cases h
  next taskId final resumes =>
    -- an update goes on to resume its task, or ends
    split at h
    · split at h
      · cases h
      · cases final <;> cases h
    · cases h
  next => split at h <;> cases h
  next => cases h
  next => cases h
  next =>
    split at h
    · have hnext := (Prod.mk.inj (Option.some.inj h)).1
      split at hnext <;> cases hnext
    · cases h
  next => cases h

end Futures

/-! ## Steps -/

section Steps

variable {E : Type} {router : TaskRouter E} {execution next : TaskExecution.World} {now : Moment}
  {action : TaskExecution.Action} {id : String}

theorem requests_of_transition (horderly : TaskExecution.Orderly router execution)
    (h : TaskExecution.Transition router execution now action next)
    (hlive : id ∉ execution.liveTasks) {new : StoredTask}
    (hnew : next.store.data.tasks.lookup id = some new) :
    (∀ key request, new.task.inputRequests.lookup key = some request →
      ∃ old, execution.store.data.tasks.lookup id = some old ∧
        old.task.inputRequests.lookup key = some request) ∨
    ∃ ticket requests state, execution.futures.get ticket = some (.parking id requests state) ∧
      new.task.inputRequests = requests.1 := by
  -- What holds of the calls that park nothing.
  have hcalled : ∀ {call : StoreCall} {middle : TaskExecution.World} {reply : Reply},
      TaskExecution.Called router execution now call middle reply →
      middle.store.data.tasks.lookup id = some new →
      (∀ requests message, call ≠ .requireInput id requests message) →
      ∀ key request, new.task.inputRequests.lookup key = some request →
        ∃ old, execution.store.data.tasks.lookup id = some old ∧
          old.task.inputRequests.lookup key = some request := by
    intro call middle reply called hmiddle hcall
    have hchange := called.stepped.changes id
    rw [hmiddle] at hchange
    obtain hkept | ⟨requests, message, hparks, -⟩ := requests_of_key_change hchange
    · exact hkept
    · exact absurd hparks (hcall requests message)
  cases h with
  | created _ _ _ _ _ _ _ middle _ called =>
    refine .inl (hcalled called hnew ?_)
    intro requests message heq
    cases heq
  | refused _ _ _ _ _ same _ =>
    rw [same id] at hnew
    exact .inl fun key request hrequest => ⟨new, hnew, hrequest⟩
  | updated _ _ _ middle _ called =>
    refine .inl (hcalled called hnew ?_)
    intro requests message heq
    cases heq
  | signalled | cancelling =>
    exact .inl fun key request hrequest => ⟨new, hnew, hrequest⟩
  | accessed ticket point call middle reply held makes called =>
    have hchange := called.stepped.changes id
    rw [show middle.store.data.tasks.lookup id = some new from hnew] at hchange
    obtain hkept | ⟨requests, message, rfl, hrequests⟩ := requests_of_key_change hchange
    · exact .inl hkept
    · obtain ⟨asked, rfl⟩ | hhost := Point.parks_of_call makes
      · cases makes
        exact .inr ⟨ticket, asked, message, held, hrequests⟩
      · exact absurd (horderly.live ticket point held id hhost) hlive
  | chosen _ _ _ _ continuation _ _ _ =>
    rw [(TaskExecution.note_frame _ _ continuation).2.1] at hnew
    exact .inl fun key request hrequest => ⟨new, hnew, hrequest⟩
  | retired _ middle _ called =>
    refine .inl (hcalled called hnew ?_)
    intro requests message heq
    cases heq

theorem parking_of_transition (h : TaskExecution.Transition router execution now action next)
    {ticket : ℕ} {requests : AskedRequests} {state : Option String}
    (hparking : next.futures.get ticket = some (.parking id requests state)) :
    execution.futures.get ticket = some (.parking id requests state) ∨
      ∃ replay, execution.futures.get ticket = some (.running id replay) ∧
        action = .choose ticket (.returned (.ok (.inputRequired requests.1 state))) := by
  cases h with
  | created _ _ _ _ _ _ _ middle _ called =>
    have hget : (middle.futures.start _).get ticket =
      some (.parking id requests state) := hparking
    rw [Pool.get_start_eq_ite, called.same.1] at hget
    split at hget
    · cases hget
    · exact .inl hget
  | refused _ _ _ _ called _ _ | retired _ _ _ called =>
    rw [called.same.1] at hparking
    exact .inl hparking
  | updated _ _ _ middle _ called =>
    have hget : (middle.futures.start _).get ticket =
      some (.parking id requests state) := hparking
    rw [Pool.get_start_eq_ite, called.same.1] at hget
    split at hget
    · cases hget
    · exact .inl hget
  | signalled => exact .inl hparking
  | cancelling _ _ _ point starts =>
    have hget : (execution.futures.start point).get ticket =
      some (.parking id requests state) := hparking
    rw [Pool.get_start_eq_ite] at hget
    split at hget
    · obtain rfl | rfl := starts <;> cases hget
    · exact .inl hget
  | accessed other point call middle reply held makes called =>
    rw [TaskExecution.get_move, called.same.1] at hparking
    split at hparking
    · exact (not_parking_of_answered hparking).elim
    · exact .inl hparking
  | chosen other choice point following continuation held _ chooses =>
    rw [(TaskExecution.note_frame _ _ continuation).1, TaskExecution.get_move] at hparking
    split at hparking
    next hsame =>
      subst hsame
      rw [hparking] at chooses
      obtain ⟨replay, rfl, rfl⟩ := returned_of_parking chooses
      exact .inr ⟨replay, held, rfl⟩
    next => exact .inl hparking

theorem live_of_transition (h : TaskExecution.Transition router execution now action next)
    (hlive : id ∈ execution.liveTasks) : id ∈ next.liveTasks := by
  cases h with
  | created live _ drawn _ _ _ _ _ _ _ =>
    show id ∈ if live then drawn :: execution.liveTasks else execution.liveTasks
    split
    · exact List.mem_cons_of_mem drawn hlive
    · exact hlive
  | refused _ _ _ _ called _ _ | retired _ _ _ called =>
    rw [called.same.2.1]
    exact hlive
  | updated _ _ _ middle _ called =>
    show id ∈ middle.liveTasks
    rw [called.same.2.1]
    exact hlive
  | signalled | cancelling => exact hlive
  | accessed _ point _ middle _ _ _ called =>
    show id ∈ middle.liveTasks
    rw [called.same.2.1]
    exact hlive
  | chosen _ _ _ _ continuation _ _ _ =>
    rw [(TaskExecution.note_frame _ _ continuation).2.2.2]
    exact hlive

/-! ## Runs -/

structure Guarded (params : InputParams) (router : TaskRouter E) (world : World R) : Prop where
  orderly : TaskExecution.Orderly router world.execution
  tasks : ∀ id stored, id ∉ world.execution.liveTasks →
    world.execution.store.data.tasks.lookup id = some stored →
      SupportsAll params (world.origin id) stored.task.inputRequests
  parking : ∀ ticket id requests state,
    world.execution.futures.get ticket = some (.parking id requests state) →
      id ∉ world.execution.liveTasks → SupportsAll params (world.origin id) requests.1
  requests : ∀ asked ∈ world.asked,
    (Answerable params asked.lifecycle asked.required →
      asked.answer = .ok (.inputRequired asked.required)) ∧
    (¬Answerable params asked.lifecycle asked.required → ∃ error, asked.answer = .error error)

variable {params : InputParams}

variable {world : World R}

theorem Guarded.served (h : Guarded params router world) :
    Served params world where
  tasks := by
    intro id requests hlive hshown hrequests
    obtain ⟨stored, hstored, rfl⟩ := Option.map_eq_some_iff.1 hshown
    exact (answerable_iff hrequests).2 (h.tasks id stored hlive hstored)
  requests := h.requests

theorem guarded_init (params : InputParams) (router : TaskRouter E) :
    Guarded (R := R) params router {} where
  orderly := TaskExecution.orderly_init router
  tasks := by
    intro id stored _ hstored
    cases hstored
  parking := by
    intro ticket id requests state hget
    cases hget
  requests := List.forall_mem_nil _

def FreshDraw (world : World R) (event : Event R) : Prop :=
  ∀ id, event.drawnId = some id →
    id ∉ TaskStore.drawnIds world.execution.store.events

theorem origin_of_drawn {after : World R}
    {event : TaskExecution.Event} (hfresh : FreshDraw world (.execute lifecycle event))
    (horigins : after.origins = match event.drawnId with
      | some id => world.origins.insert id lifecycle
      | none => world.origins)
    (hdrawn : id ∈ TaskStore.drawnIds world.execution.store.events) :
    after.origin id = world.origin id := by
  unfold World.origin
  rw [horigins]
  cases hdraw : event.drawnId with
  | none => rfl
  | some other =>
    have hne : id ≠ other := fun heq => hfresh other hdraw (heq ▸ hdrawn)
    rw [AList.lookup_insert_ne hne]

theorem Guarded.step {after : World R} {event : Event R} (h : Guarded params router world)
    (hfresh : FreshDraw world event) (hmeets : Meets params world event)
    (hstep : step params router world event = some after) : Guarded params router after := by
  cases event with
  | respond lifecycle outcome =>
    cases hstep
    refine ⟨h.orderly, h.tasks, h.parking, ?_⟩
    intro asked hasked
    obtain hnew | hold := List.mem_append.1 hasked
    · have hof := Option.mem_toList.1 hnew
      unfold Asked.of at hof
      split at hof
      · cases hof
        exact respond_input_required
      · cases hof
    · exact h.requests asked hold
  | execute lifecycle event =>
    obtain ⟨next, hnext, rfl⟩ := Option.map_eq_some_iff.1 hstep
    have htransition : TaskExecution.Transition router world.execution event.now event.action
        next := TaskExecution.transition_of_step h.orderly.sound hfresh hnext
    have hlive : ∀ {id}, id ∉ next.liveTasks → id ∉ world.execution.liveTasks :=
      fun hid hold => hid (live_of_transition htransition hold)
    constructor
    case orderly => exact h.orderly.step hfresh hnext
    case tasks =>
      intro id new hid hnew key request hrequest
      obtain hkept | ⟨ticket, requests, state, hheld, hrequests⟩ :=
        requests_of_transition h.orderly htransition (hlive hid) hnew
      · obtain ⟨old, hold, hasked⟩ := hkept key request hrequest
        rw [origin_of_drawn hfresh rfl (h.orderly.sound.drawn id old hold)]
        exact h.tasks id old (hlive hid) hold key request hasked
      · rw [origin_of_drawn hfresh rfl (h.orderly.drawn ticket _ hheld id rfl)]
        rw [hrequests] at hrequest
        exact h.parking ticket id requests state hheld (hlive hid) key request hrequest
    case parking =>
      intro ticket id requests state hget hid
      obtain hheld | ⟨replay, hheld, haction⟩ := parking_of_transition htransition hget
      · rw [origin_of_drawn hfresh rfl (h.orderly.drawn ticket _ hheld id rfl)]
        exact h.parking ticket id requests state hheld (hlive hid)
      · rw [origin_of_drawn hfresh rfl (h.orderly.drawn ticket _ hheld id rfl)]
        have hasks : world.asks (.execute lifecycle event) =
            some (world.origin id, requests.1) := by
          unfold World.asks
          dsimp only
          rw [haction]
          dsimp only
          rw [hheld]
          rw [requests.2]
          rfl
        exact (answerable_iff (Point.asked_requests_ne_empty requests)).1 (hmeets _ _ hasks)
    case requests => exact h.requests

end Steps

def drawnIds (events : List (Event R)) : List String :=
  events.filterMap Event.drawnId

/-- In every run whose created identifiers differ, and in which the runs and replays of tasks ask
only for input that the clients of the tasks can give, no client is asked for what it cannot give,
and every synchronous request for such input is answered with an error. A task that asks for nothing
fails. -/
theorem clients_can_answer {E : Type} (params : InputParams) (router : TaskRouter E)
    (events : List (Event R)) (hfresh : (drawnIds events).Nodup)
    (hmeets : Along (step params router) (Meets params) {} events) :
    Throughout (step params router) (Served params) {} events ∧
      ∀ id replay state, Point.returned router id replay (.ok (.inputRequired ∅ state)) =
        .failing id (router.taskError .parkInput id TaskExecution.noRequests) := by
  have hdraws : Along (step params router) FreshDraw {} events := by
    have hadds : ∀ (world : World R) (event : Event R) (after : World R),
        step params router world event = some after →
        ∀ id, id ∈ TaskStore.drawnIds after.execution.store.events →
          id ∈ TaskStore.drawnIds world.execution.store.events ∨ event.drawnId = some id := by
      intro world event after hstep id hmem
      cases event with
      | respond lifecycle outcome =>
        cases hstep
        exact .inl hmem
      | execute lifecycle event =>
        obtain ⟨next, hnext, rfl⟩ := Option.map_eq_some_iff.1 hstep
        exact TaskExecution.drawn_of_step hnext hmem
    exact along_fresh hadds hfresh fun id _ hmem => by
      simp [TaskStore.World.events, TaskStore.drawnIds] at hmem
  have hall : Throughout (step params router) (Guarded params router) {} events := by
    refine throughout_of_along ?_ (guarded_init params router) (hdraws.and hmeets)
    rintro world event after hguarded ⟨hdraw, hmeet⟩ hstep
    exact hguarded.step hdraw hmeet hstep
  exact ⟨hall.mono fun world hguarded => hguarded.served, fun _ _ _ => rfl⟩

def sampleParams : InputParams where
  requiresTools _ := false
  includeContext _ := none
  elicitMode _ := .form

def rootsEvents (lifecycle : Option RequestLifecycle) : List (Event Unit) :=
  TaskExecution.parkingEvents.map fun event => .execute lifecycle event

def rootsLifecycle : Option RequestLifecycle :=
  some { protocolVersion := some protocolVersion20260728
         clientCapabilities := some { roots := true } }

theorem clients_can_answer_roots :
    ((run (step sampleParams TaskRouter.subjectRouter) {}
        (rootsEvents rootsLifecycle)).map fun world =>
          (world.outstanding "a").map FinMap.sortedKeys) = some (some ["roots"]) ∧
    Throughout (step sampleParams TaskRouter.subjectRouter) (Served sampleParams) {}
      (rootsEvents rootsLifecycle) :=
  ⟨by decide +kernel,
    (clients_can_answer sampleParams TaskRouter.subjectRouter (rootsEvents rootsLifecycle)
      (by decide) (by decide +kernel)).1⟩

/-- A task of the older protocol is shown to be waiting for the roots of its client. -/
theorem older_client_is_asked :
    ¬∀ (params : InputParams) (router : TaskRouter (Option String)) (events : List (Event Unit)),
      (drawnIds events).Nodup →
        Throughout (step params router) (Served params) {} events := by
  intro hall
  have hserved := hall sampleParams TaskRouter.subjectRouter (rootsEvents none) (by decide)
  obtain ⟨world, hrun, hlive, horigin, requests, hrequests, hne⟩ : ∃ world,
      run (step sampleParams TaskRouter.subjectRouter) {} (rootsEvents none) =
          some world ∧
        world.execution.liveTasks = [] ∧ world.origin "a" = none ∧
        ∃ requests, world.outstanding "a" = some requests ∧ requests ≠ ∅ := by
    decide +kernel
  have hlast : Served sampleParams world := hserved.last hrun
  have hanswerable := hlast.tasks "a" requests (by simp [hlive]) hrequests hne
  obtain ⟨declared, _, hdeclared, -⟩ := hanswerable.supported
  rw [horigin] at hdeclared
  cases hdeclared

end AskedClients

end TowerMcp
