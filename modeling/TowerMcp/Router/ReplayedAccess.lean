import TowerMcp.Router.Listing
import TowerMcp.Router.SingleExecution
import TowerMcp.Tool.OutputChecks

/-!
# Access at replay

What stands between a task that was answered and the handler that is run again for it, after
`tools/call` and `tasks/update` in `router.rs` and `resume_task` of `router/task_ops.rs`. A call is
admitted when its tool is enabled and the filter shows it to the caller, and its handler runs when
the guards accept the context of the request. A replay resolves the tool by its name alone, and its
context is made anew from the store.

The registries, the disabled tools and the filters may be others at every step.
-/

namespace TowerMcp

open Execution Fallible

namespace McpRouter

/-- The admission of `tools/call`: the tool is enabled, it is registered, and the filter shows it.
-/
def admitTool (router : McpRouter) (extensions : Extensions) (name : String) : Except Error Tool :=
  if name ∈ router.disabledTools then .error (toolNotFound name)
  else
    match router.findTool name with
    | none => .error (toolNotFound name)
    | some tool =>
      let context := router.capabilityFilterContext extensions (.access name)
      match router.toolFilter.filter fun f => !f.isVisibleWithContext context tool with
      | some filter => .error (filter.denialErrorOrNotFound name fun _ => toolNotFound name)
      | none => .ok tool

variable {router : McpRouter} {extensions : Extensions} {name : String} {tool : Tool}

theorem admit_tool_iff :
    router.admitTool extensions name = .ok tool ↔
      name ∉ router.disabledTools ∧ router.findTool name = some tool ∧
        filterShows router.toolFilter (router.capabilityFilterContext extensions (.access name))
          tool = true := by
  unfold admitTool
  by_cases hdisabled : name ∈ router.disabledTools
  · simp [hdisabled]
  · rw [if_neg hdisabled]
    cases hfound : router.findTool name with
    | none => simp
    | some found =>
      cases hfilter : router.toolFilter with
      | none => simp [filterShows, hdisabled]
      | some filter =>
        cases hshown : filter.isVisibleWithContext
            (router.capabilityFilterContext extensions (.access name)) found with
        | true =>
          simp only [Option.filter_some, hshown, Bool.not_true, Bool.false_eq_true, if_false,
            filterShows, Option.all_some, hdisabled, not_false_eq_true, true_and,
            Except.ok.injEq, Option.some.injEq]
          constructor
          · rintro rfl
            exact ⟨rfl, hshown⟩
          · exact And.left
        | false =>
          simp only [Option.filter_some, hshown, Bool.not_false, if_true, filterShows,
            Option.all_some, reduceCtorEq, false_iff, not_and, Option.some.injEq]
          rintro _ rfl
          simp [hshown]

end McpRouter

namespace ReplayedAccess

open TaskExecution ToolValidation

variable {S : Type}

/-! ## Tools -/

/-- What a registered tool is made of: the handlers its builder leaves, the checks of its arguments
and results, and the guards put around it, the first one first. -/
structure ToolParts (S : Type) where
  handlers : ToolHandlers S
  checks : ToolChecks
  guards : List (Guard S) := []

namespace ToolParts

variable (parts : ToolParts S) (surroundings : S) (request : ToolRequest)

def wrapped : ToolHandlers S :=
  parts.guards.foldl ToolHandlers.withGuard (parts.handlers.withSchemaValidation parts.checks)

def accepts : Bool :=
  parts.guards.all fun guard => (guard surroundings request).isOk

def reaches : Bool :=
  parts.accepts surroundings request && (parts.checks.checkInput request.args).isNone &&
    (parts.handlers.mrtrHandler.isSome || parts.handlers.service.isSome)

variable {parts surroundings request}

end ToolParts

/-! ## Contexts -/

def mrtrRequest (inputResponses : InputResponses) : Json :=
  .object (inputResponses.toPairs.map fun (key, response) =>
    (key, (serialize response).toOption.getD .null))

def replayContext (taskId : String) (inputResponses : InputResponses) : Extensions where
  replayedFinalRequest := true
  values := AList.insert "MrtrRequest" (mrtrRequest inputResponses)
    (AList.insert "TaskContext" (.string taskId) ∅)

/-- The tasks of the router, what its tools are made of, and the extensions that a router and a
request have negotiated. -/
structure System (S : Type) where
  tasks : TaskRouter Extensions
  parts : Tool → ToolParts S
  negotiatedExtensions : McpRouter → Extensions → Json

def System.callContext (system : System S) (router : McpRouter) (extensions : Extensions)
    (taskId : String) : Extensions :=
  let merged := router.extensions.merge extensions
  { merged with
    values := AList.insert "TaskContext" (.string taskId)
      (AList.insert "NegotiatedExtensions" (system.negotiatedExtensions router extensions)
        merged.values) }

/-! ## The machine -/

structure Caller where
  extensions : Extensions
  resume : Option TaskResumeContext := none

/-- A handler that was run again: for which task of which owner and at whose update, what the store
had kept for it, what the router and its surroundings were, and the tool that was resolved. -/
structure Replay (S : Type) where
  taskId : String
  owner : TaskOwner
  caller : Extensions
  resume : TaskResumeContext
  router : McpRouter
  surroundings : S
  tool : Tool

/-- The tasks with their futures, the requests the futures work for, and the replays, the latest
first. -/
structure World (S : Type) where
  tasks : TaskExecution.World := {}
  callers : FinMap ℕ Caller := ∅
  replays : List (Replay S) := []

/-- What happens: a tool call, an update or a cancellation arrives, a future or the store takes a
step, or a future that resumes a task resolves its tool and runs it. -/
inductive Event (S : Type) where
  | callTool (now : Moment) (router : McpRouter) (extensions : Extensions)
      (params : McpRouter.CallToolParams) (arguments : Json) (created : Moment) (id : String)
  | updateTask (now : Moment) (sections : Sections) (extensions : Extensions) (taskId : String)
      (inputResponses : FinMap String Json)
  | cancelTask (now : Moment) (final : Bool) (taskId : String) (reason : Option String)
  | work (event : TaskExecution.Event)
  | resumeTask (now : Moment) (ticket : ℕ) (router : McpRouter) (surroundings : S)

namespace World

variable (system : System S) (world : World S)

def start (now : Moment) (action : Action) (extensions : Extensions) : Option (World S) :=
  (TaskExecution.step system.tasks world.tasks ⟨now, action⟩).map fun tasks =>
    { world with
      tasks
      callers := world.callers.insert world.tasks.futures.next { extensions } }

def routerState : RouterState where
  data := world.tasks.store.data
  liveTasks := world.tasks.executions
  effects := []

def authorizes (sections : Sections) (extensions : Extensions) (taskId : String) : Bool :=
  let authorize : TaskHandler Unit := do
    if system.tasks.isFinalProtocolRequest extensions then
      system.tasks.requireNegotiatedTasks extensions "tasks/update"
    system.tasks.authorizeTask sections .update taskId extensions
  match Handler.outcome authorize world.routerState with
  | .ok (.ok (), _) => true
  | _ => false

def resumed (now : Instant) (ticket : ℕ) : FinMap ℕ Caller :=
  match world.tasks.futures.get ticket, world.callers.lookup ticket with
  | some (.resuming taskId), some caller =>
    world.callers.insert ticket
      { caller with
        resume := MemoryTaskStore.resumeContext world.tasks.store.data now taskId }
  | _, _ => world.callers

/-- The handler that a future runs again once it has resolved its tool. It is not polled when the
token of the task is raised. -/
def replay (now : Instant) (ticket : ℕ) (router : McpRouter) (surroundings : S) :
    Option (Replay S) := do
  match world.tasks.futures.get ticket with
  | some (.located taskId) =>
    let caller ← world.callers.lookup ticket
    let resume ← caller.resume
    let tool ← router.findTool resume.toolName
    let stored ← world.tasks.store.data.tasks.lookup taskId
    if world.tasks.store.clock ≤ now ∧ stored.task.cancellationToken = false ∧
        (system.parts tool).reaches surroundings
          { extensions := replayContext taskId resume.inputResponses
            args := resume.arguments } = true then
      pure
        { taskId, owner := stored.task.owner, caller := caller.extensions, resume, router
          surroundings, tool }
    else none
  | _ => none

end World

def step (system : System S) (world : World S) : Event S → Option (World S)
  | .callTool now router extensions params arguments created id =>
    match router.callTool extensions params with
    | .ok (tool, some ttl) =>
      match (system.tasks.taskOwnerResolver extensions).intoOwner with
      | none => some world
      | some owner =>
        if id ∈ TaskStore.drawnIds world.tasks.store.events then none
        else
          world.start system now
            (.create (system.parts tool).handlers.liveHandler.isSome created id params.name
              arguments ttl owner) extensions
    -- a call that is refused, or answered at once
    | _ => some world
  | .updateTask now sections extensions taskId inputResponses =>
    if world.authorizes system sections extensions taskId then
      match system.tasks.decodeInputResponses taskId inputResponses with
      | .error _ => some world
      | .ok responses =>
        world.start system now
          (.update (system.tasks.isFinalProtocolRequest extensions) taskId responses) extensions
    else some world
  | .cancelTask now final taskId reason =>
    (TaskExecution.step system.tasks world.tasks ⟨now, .cancel final taskId reason⟩).map
      fun tasks => { world with tasks }
  | .work event =>
    match event.action with
    | .access _ | .retire _ =>
      (TaskExecution.step system.tasks world.tasks event).map fun tasks => { world with tasks }
    | .choose _ (.found _) => none
    | .choose ticket _ =>
      (TaskExecution.step system.tasks world.tasks event).map fun tasks =>
        { world with tasks, callers := world.resumed event.now.instant ticket }
    | _ => none
  | .resumeTask now ticket router surroundings => do
    let caller ← world.callers.lookup ticket
    let resume ← caller.resume
    let found := (router.findTool resume.toolName).isSome
    let tasks ← TaskExecution.step system.tasks world.tasks ⟨now, .choose ticket (.found found)⟩
    let replay := world.replay system now.instant ticket router surroundings
    pure { world with tasks, replays := replay.toList ++ world.replays }

/-! ## What holds at a replay -/

/-- What a replay runs is what a call of the owner would have run at that moment: the caller of the
update owns the task, the tool is the one that a call of it resolves, enabled and shown to it, and
the guards accept the context of that call. -/
structure Replay.Admitted (system : System S) (replay : Replay S) : Prop where
  owned : (system.tasks.taskOwnerResolver replay.caller).matchesOwner replay.owner = true
  resolved : replay.router.admitTool replay.caller replay.resume.toolName = .ok replay.tool
  accepted : (system.parts replay.tool).accepts replay.surroundings
    { extensions := system.callContext replay.router replay.caller replay.taskId
      args := replay.resume.arguments } = true

def AccessHolds (system : System S) (world : World S) : Prop :=
  ∀ replay ∈ world.replays, replay.Admitted system

/-- A future that is about to run a handler again finds its tool enabled and shown to the caller of
the update, and the guards of the tool accept the context of a call of that caller. -/
def Meets (system : System S) (world : World S) : Event S → Prop
  | .resumeTask now ticket router surroundings =>
    ∀ replay, world.replay system now.instant ticket router surroundings = some replay →
      replay.resume.toolName ∉ router.disabledTools ∧
      filterShows router.toolFilter
        (router.capabilityFilterContext replay.caller (.access replay.resume.toolName))
        replay.tool = true ∧
      (system.parts replay.tool).accepts surroundings
        { extensions := system.callContext router replay.caller replay.taskId
          args := replay.resume.arguments } = true
  | _ => True

/-! ## Futures work for the owner of their task -/

def Owns (system : System S) (data : MemoryTaskStoreData) (caller : Extensions) (id : String) :
    Prop :=
  ∀ stored, data.tasks.lookup id = some stored →
    (system.tasks.taskOwnerResolver caller).matchesOwner stored.task.owner = true

def ActsFor (system : System S) (data : MemoryTaskStoreData) (caller : Extensions) : Action → Prop
  | .create _ _ _ _ _ _ owner =>
    (system.tasks.taskOwnerResolver caller).matchesOwner owner = true
  | .update _ taskId _ => Owns system data caller taskId
  | _ => True

def startsFuture : Action → Bool
  | .create _ _ _ _ _ _ _ | .update _ _ _ => true
  | _ => false

/-- What holds in every state of a run: every future that carries on a task works for a caller who
owns the task. -/
structure Backed (system : System S) (world : World S) : Prop where
  orderly : Orderly system.tasks world.tasks
  owned : ∀ ticket point id, world.tasks.futures.get ticket = some point → point.owner = some id →
    ∃ caller, world.callers.lookup ticket = some caller ∧
      Owns system world.tasks.store.data caller.extensions id

section Owners

variable {system : System S} {world next : World S} {before middle tasks : TaskExecution.World}
  {now : Moment} {call : StoreCall} {reply : Reply} {caller : Extensions} {id : String}

theorem owner_before (hcalled : Called system.tasks before now call middle reply)
    {stored : StoredTask} (hlookup : middle.store.data.tasks.lookup id = some stored) :
    call.drawnId = some id ∨ ∃ old, before.store.data.tasks.lookup id = some old ∧
      stored.task.owner = old.task.owner := by
  have hchange := hcalled.stepped.changes id
  rw [hlookup] at hchange
  generalize before.store.data.tasks.lookup id = held at hchange
  cases hchange with
  | kept _ _ => exact .inr ⟨stored, rfl, rfl⟩
  | admitted _ _ _ _ _ _ _ drawn _ _ =>
    subst drawn
    exact .inl rfl
  | changed old _ _ _ _ task => exact .inr ⟨old, rfl, (same_origin_of_task_change task).owner⟩
  | retired _ old _ retiring =>
    refine .inr ⟨old, rfl, ?_⟩
    unfold MemoryTaskStore.retiredRecord StoredTask.signalExpiry
    cases old.expirySignalled <;> rfl

theorem Owns.called (h : Owns system before.store.data caller id)
    (hcalled : Called system.tasks before now call middle reply) (hdraw : call.drawnId ≠ some id) :
    Owns system middle.store.data caller id := by
  intro stored hlookup
  obtain ⟨old, hold, howner⟩ := (owner_before hcalled hlookup).resolve_left hdraw
  rw [howner]
  exact h old hold

theorem owns_of_authorizes {sections : Sections} (h : Backed system world)
    (hauthorizes : world.authorizes system sections caller id = true) :
    Owns system world.tasks.store.data caller id := by
  intro stored hlookup
  by_contra hforeign
  have hunowned : system.tasks.Unowned caller world.tasks.store.data id := by
    intro other hother
    obtain rfl := Option.some.inj (hlookup.symm.trans hother)
    simpa using hforeign
  have haccounted := h.orderly.sound.accounted
  obtain ⟨retirement, after, hretire, _⟩ :=
    MemoryTaskStore.retire_expired_ok system.tasks.store sections.retired haccounted false
  have hafter : system.tasks.Unowned caller after id :=
    hunowned.of_retired_in_place
      (retired_in_place_of_retire_expired haccounted (le_refl _) hretire)
  have hdata : system.tasks.store.retireExpired sections.retired false world.routerState.data =
      .ok (after, retirement) := hretire
  have hrefused := TaskRouter.outcome_authorize_task_of_unowned .update hafter hdata
  have hnegotiated : Handler.outcome (system.tasks.requireNegotiatedTasks caller "tasks/update")
      world.routerState = _ := TaskRouter.outcome_require_negotiated_tasks "tasks/update"
  unfold World.authorizes at hauthorizes
  cases hfinal : system.tasks.isFinalProtocolRequest caller with
  | false =>
    simp only [hfinal, Bool.false_eq_true, if_false, hrefused] at hauthorizes
  | true =>
    simp only [hfinal, if_true] at hauthorizes
    by_cases hserved : system.tasks.finalTasksEnabled = true ∧
        system.tasks.clientDeclaresTasks caller = true
    · rw [hserved.1, hserved.2] at hnegotiated
      rw [Handler.outcome_bind_ok hnegotiated, hrefused] at hauthorizes
      cases hauthorizes
    · have hnot : ∃ error, Handler.outcome
          (system.tasks.requireNegotiatedTasks caller "tasks/update") world.routerState =
            .ok (.error error, world.routerState) := by
        rw [hnegotiated]
        cases henabled : system.tasks.finalTasksEnabled with
        | false => exact ⟨_, rfl⟩
        | true =>
          cases hdeclares : system.tasks.clientDeclaresTasks caller with
          | false => exact ⟨_, rfl⟩
          | true => exact absurd ⟨henabled, hdeclares⟩ hserved
      obtain ⟨error, hnot⟩ := hnot
      rw [Handler.outcome_bind_error hnot] at hauthorizes
      cases hauthorizes

theorem Backed.stepped (h : Backed system world) {event : TaskExecution.Event}
    (hfresh : FreshDraw world.tasks event)
    (hstep : TaskExecution.step system.tasks world.tasks event = some tasks)
    {callers : FinMap ℕ Caller} (replays : List (Replay S))
    (hkept : ∀ ticket point caller, world.tasks.futures.get ticket = some point →
      world.callers.lookup ticket = some caller →
        ∃ later, callers.lookup ticket = some later ∧ later.extensions = caller.extensions)
    (hstarts : startsFuture event.action = true →
      ∃ caller, callers.lookup world.tasks.futures.next = some caller ∧
        ActsFor system world.tasks.store.data caller.extensions event.action) :
    Backed system { tasks, callers, replays } := by
  refine ⟨h.orderly.step hfresh hstep, ?_⟩
  obtain ⟨now, action⟩ := event
  -- a future that was there before works for the same caller, who still owns the task
  have hearlier : ∀ (middle : TaskExecution.World) call reply,
      Called system.tasks world.tasks now call middle reply →
        (∀ id, call.drawnId = some id → id ∉ TaskStore.drawnIds world.tasks.store.events) →
          ∀ ticket point id, world.tasks.futures.get ticket = some point →
            point.owner = some id → ∃ caller, callers.lookup ticket = some caller ∧
              Owns system middle.store.data caller.extensions id := by
    intro middle call reply hcalled hdraw ticket point id hget howner
    obtain ⟨caller, hcaller, howns⟩ := h.owned ticket point id hget howner
    obtain ⟨later, hlater, hsame⟩ := hkept ticket point caller hget hcaller
    refine ⟨later, hlater, ?_⟩
    rw [hsame]
    refine howns.called hcalled fun hdrawn => ?_
    exact hdraw id hdrawn (h.orderly.drawn ticket point hget id howner)
  intro ticket point id hget howner
  cases transition_of_step h.orderly.sound hfresh hstep with
  | created live created drawn toolName arguments ttl owner middle answer called =>
    have hget : (world.tasks.futures.start (.preparing drawn live)).get ticket = some point := by
      rw [← called.same.1]
      exact hget
    rw [Pool.get_start_eq_ite] at hget
    split at hget
    next hticket =>
      -- the record of the new task has the owner that the request was resolved to
      obtain rfl := Option.some.inj hget
      obtain rfl := Option.some.inj howner
      obtain ⟨caller, hcaller, hacts⟩ := hstarts rfl
      refine ⟨caller, hticket ▸ hcaller, fun stored hlookup => ?_⟩
      have hlookup : middle.store.data.tasks.lookup drawn = some stored := hlookup
      have hchange := called.stepped.changes drawn
      rw [hlookup] at hchange
      have hnone : world.tasks.store.data.tasks.lookup drawn = none := by
        cases hheld : world.tasks.store.data.tasks.lookup drawn with
        | none => rfl
        | some old => exact absurd (h.orderly.sound.drawn drawn old hheld) (hfresh drawn rfl)
      rw [hnone] at hchange
      cases hchange with
      | admitted _ _ _ _ _ named _ drew task _ =>
        rw [task]
        obtain ⟨_, _, _, _, _, rfl⟩ := StoreCall.createTask.inj drew
        exact hacts
    next =>
      exact hearlier middle _ _ called (fun id hdrawn => hfresh id hdrawn) ticket point id hget
        howner
  | refused _ _ _ _ called same _ =>
    rw [called.same.1] at hget
    obtain ⟨caller, hcaller, howns⟩ := h.owned ticket point id hget howner
    obtain ⟨later, hlater, hsame⟩ := hkept ticket point caller hget hcaller
    refine ⟨later, hlater, fun stored hlookup => ?_⟩
    rw [hsame]
    rw [same] at hlookup
    exact howns stored hlookup
  | updated final taskId responses middle applied called =>
    have hget : (world.tasks.futures.start
        (.updated taskId final (TaskRouter.resumes applied))).get ticket = some point := by
      rw [← called.same.1]
      exact hget
    rw [Pool.get_start_eq_ite] at hget
    split at hget
    next hticket =>
      obtain rfl := Option.some.inj hget
      obtain ⟨_, hid⟩ := Option.ite_none_right_eq_some.1 howner
      obtain rfl := Option.some.inj hid
      obtain ⟨caller, hcaller, howns⟩ := hstarts rfl
      have howns : Owns system middle.store.data caller.extensions taskId :=
        Owns.called howns called fun hdrawn => by cases hdrawn
      exact ⟨caller, hticket ▸ hcaller, howns⟩
    next =>
      exact hearlier middle _ _ called (fun _ hdrawn => by cases hdrawn) ticket point id hget
        howner
  | signalled _ _ _ =>
    obtain ⟨caller, hcaller, howns⟩ := h.owned ticket point id hget howner
    obtain ⟨later, hlater, hsame⟩ := hkept ticket point caller hget hcaller
    exact ⟨later, hlater, hsame ▸ howns⟩
  | cancelling _ _ _ start starts =>
    have hget : (world.tasks.futures.start start).get ticket = some point := hget
    rw [Pool.get_start_eq_ite] at hget
    split at hget
    next =>
      cases hget
      rcases starts with rfl | rfl <;> cases howner
    next =>
      obtain ⟨caller, hcaller, howns⟩ := h.owned ticket point id hget howner
      obtain ⟨later, hlater, hsame⟩ := hkept ticket point caller hget hcaller
      exact ⟨later, hlater, hsame ▸ howns⟩
  | accessed moved old call middle reply held makes called =>
    have hdraw : ∀ id, call.drawnId = some id →
        id ∉ TaskStore.drawnIds world.tasks.store.events := by
      intro id hdrawn
      rw [Point.drawn_id_of_call makes] at hdrawn
      cases hdrawn
    rw [get_move, called.same.1] at hget
    split at hget
    next hticket =>
      rw [hticket]
      exact hearlier middle call reply called hdraw moved old id held
        ((Point.follows_of_answered hget).owner id howner)
    next => exact hearlier middle call reply called hdraw ticket point id hget howner
  | chosen moved choice old following continuation held later chooses =>
    obtain ⟨hfutures, hstore, -⟩ := note_frame
      ((world.tasks.advance now.instant).move moved old following) moved continuation
    rw [hfutures, get_move] at hget
    rw [hstore]
    have hold : ∃ before, world.tasks.futures.get ticket = some before ∧
        before.owner = some id := by
      split at hget
      next hticket =>
        subst hget
        exact ⟨old, hticket ▸ held, (Point.follows_of_choose chooses).owner id howner⟩
      next => exact ⟨point, hget, howner⟩
    obtain ⟨before, hbefore, hid⟩ := hold
    obtain ⟨caller, hcaller, howns⟩ := h.owned ticket before id hbefore hid
    obtain ⟨kept, hkept, hsame⟩ := hkept ticket before caller hbefore hcaller
    exact ⟨kept, hkept, hsame ▸ howns⟩
  | retired _ middle reply called =>
    rw [called.same.1] at hget
    exact hearlier _ _ reply called (fun _ hdrawn => by cases hdrawn) ticket point id hget howner

theorem Backed.start (h : Backed system world) {action : Action}
    (hstart : world.start system now action caller = some next)
    (hfresh : FreshDraw world.tasks ⟨now, action⟩)
    (hacts : ActsFor system world.tasks.store.data caller action) : Backed system next := by
  obtain ⟨tasks, hstep, rfl⟩ := Option.map_eq_some_iff.1 hstart
  refine h.stepped hfresh hstep world.replays ?_ ?_
  · intro ticket point held hget hheld
    have hticket : ticket ≠ world.tasks.futures.next := by
      rintro rfl
      rw [h.orderly.numbered.get_next] at hget
      cases hget
    refine ⟨held, ?_, rfl⟩
    rw [FinMap.lookup_insert_eq_ite, if_neg hticket]
    exact hheld
  · intro _
    refine ⟨{ extensions := caller }, ?_, hacts⟩
    rw [FinMap.lookup_insert_eq_ite, if_pos rfl]

theorem Backed.kept (h : Backed system world) {event : TaskExecution.Event}
    (hstep : TaskExecution.step system.tasks world.tasks event = some tasks)
    (hstarts : startsFuture event.action = false) {callers : FinMap ℕ Caller}
    (replays : List (Replay S))
    (hkept : ∀ ticket point caller, world.tasks.futures.get ticket = some point →
      world.callers.lookup ticket = some caller →
        ∃ later, callers.lookup ticket = some later ∧ later.extensions = caller.extensions) :
    Backed system { tasks, callers, replays } := by
  refine h.stepped ?_ hstep replays hkept fun hrequest => ?_
  · obtain ⟨now, action⟩ := event
    intro id hdrawn
    cases action with
    | create _ _ _ _ _ _ _ => cases hstarts
    | update _ _ _ | cancel _ _ _ | access _ | choose _ _ | retire _ => cases hdrawn
  · rw [hstarts] at hrequest
    cases hrequest

theorem callers_resumed (world : World S) (now : Instant) (moved ticket : ℕ) (caller : Caller)
    (hcaller : world.callers.lookup ticket = some caller) :
    ∃ later, (world.resumed now moved).lookup ticket = some later ∧
      later.extensions = caller.extensions := by
  unfold World.resumed
  split
  next taskId held _ hheld =>
    rw [FinMap.lookup_insert_eq_ite]
    split
    next hticket =>
      rw [hticket, hheld] at hcaller
      cases hcaller
      exact ⟨_, rfl, rfl⟩
    next => exact ⟨caller, hcaller, rfl⟩
  next => exact ⟨caller, hcaller, rfl⟩

theorem backed_step {event : Event S} (h : Backed system world)
    (hstep : step system world event = some next) : Backed system next := by
  cases event with
  | callTool now router extensions params arguments created id =>
    unfold step at hstep
    dsimp only at hstep
    split at hstep
    next tool ttl _ =>
      cases howner : (system.tasks.taskOwnerResolver extensions).intoOwner with
      | none =>
        rw [howner] at hstep
        cases hstep
        exact h
      | some owner =>
        rw [howner] at hstep
        obtain ⟨hnew, hstart⟩ := Option.ite_none_left_eq_some.1 hstep
        refine h.start hstart ?_ ?_
        · intro drawn hdrawn
          cases hdrawn
          exact hnew
        · show (system.tasks.taskOwnerResolver extensions).matchesOwner owner = true
          cases hresolved : system.tasks.taskOwnerResolver extensions with
          | resolved principal =>
            rw [hresolved] at howner
            cases howner
            simp [TaskOwnerResolution.matchesOwner, ownerMatches]
          | invalid =>
            rw [hresolved] at howner
            cases howner
    next =>
      cases hstep
      exact h
  | updateTask now sections extensions taskId inputResponses =>
    unfold step at hstep
    dsimp only at hstep
    cases hauthorizes : world.authorizes system sections extensions taskId with
    | false =>
      rw [hauthorizes] at hstep
      cases hstep
      exact h
    | true =>
      rw [hauthorizes, if_pos rfl] at hstep
      split at hstep
      next =>
        cases hstep
        exact h
      next responses _ =>
        exact h.start hstep (fun _ hdrawn => by cases hdrawn) (owns_of_authorizes h hauthorizes)
  | cancelTask now final taskId reason =>
    obtain ⟨tasks, htasks, rfl⟩ := Option.map_eq_some_iff.1 hstep
    exact h.kept htasks rfl world.replays fun _ _ caller _ hcaller => ⟨caller, hcaller, rfl⟩
  | work event =>
    obtain ⟨now, action⟩ := event
    cases action with
    | create _ _ _ _ _ _ _ | update _ _ _ | cancel _ _ _ => cases hstep
    | access ticket | retire remove =>
      obtain ⟨tasks, htasks, rfl⟩ := Option.map_eq_some_iff.1 hstep
      exact h.kept htasks rfl world.replays fun _ _ caller _ hcaller => ⟨caller, hcaller, rfl⟩
    | choose ticket choice =>
      cases choice with
      | found _ => cases hstep
      | proceed | stopped | prepared _ | returned _ | asked _ _ | reported _ | ended _ =>
        obtain ⟨tasks, htasks, rfl⟩ := Option.map_eq_some_iff.1 hstep
        exact h.kept htasks rfl world.replays fun other _ caller _ hcaller =>
          callers_resumed world now.instant ticket other caller hcaller
  | resumeTask now ticket router surroundings =>
    obtain ⟨caller, _, hstep⟩ := Option.bind_eq_some_iff.1 hstep
    obtain ⟨resume, _, hstep⟩ := Option.bind_eq_some_iff.1 hstep
    obtain ⟨tasks, htasks, hstep⟩ := Option.bind_eq_some_iff.1 hstep
    cases hstep
    exact h.kept htasks rfl _ fun _ _ caller _ hcaller => ⟨caller, hcaller, rfl⟩

end Owners

/-! ## Replays -/

section Replays

variable {system : System S} {world next : World S} {event : Event S} {now : Instant} {ticket : ℕ}
  {router : McpRouter} {surroundings : S} {replay : Replay S}

/-- What a replay is made of: the future that resumes its task, what that has read, the record of
the task, and the tool that the name stands for. -/
structure Replay.Resolved (replay : Replay S) (world : World S) (now : Instant) (ticket : ℕ)
    (router : McpRouter) (surroundings : S) : Prop where
  located : world.tasks.futures.get ticket = some (.located replay.taskId)
  works : ∃ caller, world.callers.lookup ticket = some caller ∧
    caller.extensions = replay.caller ∧ caller.resume = some replay.resume
  found : router.findTool replay.resume.toolName = some replay.tool
  held : ∃ stored, world.tasks.store.data.tasks.lookup replay.taskId = some stored ∧
    stored.task.owner = replay.owner
  later : world.tasks.store.clock ≤ now
  router_eq : replay.router = router
  surroundings_eq : replay.surroundings = surroundings

theorem resolved_of_replay
    (h : world.replay system now ticket router surroundings = some replay) :
    replay.Resolved world now ticket router surroundings := by
  unfold World.replay at h
  split at h
  next taskId hlocated =>
    obtain ⟨caller, hcaller, h⟩ := Option.bind_eq_some_iff.1 h
    obtain ⟨resume, hresume, h⟩ := Option.bind_eq_some_iff.1 h
    obtain ⟨tool, htool, h⟩ := Option.bind_eq_some_iff.1 h
    obtain ⟨stored, hstored, h⟩ := Option.bind_eq_some_iff.1 h
    obtain ⟨⟨hlater, _, _⟩, h⟩ := Option.ite_none_right_eq_some.1 h
    cases h
    exact
      { located := hlocated
        works := ⟨caller, hcaller, rfl, hresume⟩
        found := htool
        held := ⟨stored, hstored, rfl⟩
        later := hlater
        router_eq := rfl
        surroundings_eq := rfl }
  next => cases h

theorem Replay.Resolved.owned (h : replay.Resolved world now ticket router surroundings)
    (hbacked : Backed system world) :
    (system.tasks.taskOwnerResolver replay.caller).matchesOwner replay.owner = true := by
  obtain ⟨stored, hstored, howner⟩ := h.held
  obtain ⟨caller, hcaller, hextensions, _⟩ := h.works
  obtain ⟨other, hother, howns⟩ := hbacked.owned ticket _ replay.taskId h.located rfl
  obtain rfl := Option.some.inj (hcaller.symm.trans hother)
  rw [← hextensions, ← howner]
  exact howns stored hstored

theorem Replay.Resolved.admitted_iff (h : replay.Resolved world now ticket router surroundings)
    (hbacked : Backed system world) :
    replay.Admitted system ↔
      replay.resume.toolName ∉ router.disabledTools ∧
        filterShows router.toolFilter
          (router.capabilityFilterContext replay.caller (.access replay.resume.toolName))
          replay.tool = true ∧
        (system.parts replay.tool).accepts surroundings
          { extensions := system.callContext router replay.caller replay.taskId
            args := replay.resume.arguments } = true := by
  have hrouter := h.router_eq
  have hsurroundings := h.surroundings_eq
  subst hrouter hsurroundings
  constructor
  · rintro ⟨_, hresolved, haccepted⟩
    obtain ⟨henabled, _, hshown⟩ := McpRouter.admit_tool_iff.1 hresolved
    exact ⟨henabled, hshown, haccepted⟩
  · rintro ⟨henabled, hshown, haccepted⟩
    exact
      { owned := h.owned hbacked
        resolved := McpRouter.admit_tool_iff.2 ⟨henabled, h.found, hshown⟩
        accepted := haccepted }

theorem replays_of_step (hstep : step system world event = some next) :
    (Meets system world event ∧ next.replays = world.replays) ∨
      ∃ now ticket router surroundings, event = .resumeTask now ticket router surroundings ∧
        next.replays = (world.replay system now.instant ticket router surroundings).toList ++
          world.replays := by
  cases event with
  | callTool now router extensions params arguments created id =>
    left
    unfold step at hstep
    dsimp only at hstep
    split at hstep
    next tool ttl _ =>
      split at hstep
      next =>
        cases hstep
        exact ⟨trivial, rfl⟩
      next =>
        obtain ⟨_, hstart⟩ := Option.ite_none_left_eq_some.1 hstep
        obtain ⟨tasks, _, rfl⟩ := Option.map_eq_some_iff.1 hstart
        exact ⟨trivial, rfl⟩
    next =>
      cases hstep
      exact ⟨trivial, rfl⟩
  | updateTask now sections extensions taskId inputResponses =>
    left
    unfold step at hstep
    dsimp only at hstep
    split at hstep
    next =>
      split at hstep
      next =>
        cases hstep
        exact ⟨trivial, rfl⟩
      next =>
        obtain ⟨tasks, _, rfl⟩ := Option.map_eq_some_iff.1 hstep
        exact ⟨trivial, rfl⟩
    next =>
      cases hstep
      exact ⟨trivial, rfl⟩
  | cancelTask now final taskId reason =>
    obtain ⟨tasks, _, rfl⟩ := Option.map_eq_some_iff.1 hstep
    exact .inl ⟨trivial, rfl⟩
  | work event =>
    left
    obtain ⟨now, action⟩ := event
    cases action with
    | create _ _ _ _ _ _ _ | update _ _ _ | cancel _ _ _ => cases hstep
    | access ticket | retire remove =>
      obtain ⟨tasks, _, rfl⟩ := Option.map_eq_some_iff.1 hstep
      exact ⟨trivial, rfl⟩
    | choose ticket choice =>
      cases choice with
      | found _ => cases hstep
      | proceed | stopped | prepared _ | returned _ | asked _ _ | reported _ | ended _ =>
        obtain ⟨tasks, _, rfl⟩ := Option.map_eq_some_iff.1 hstep
        exact ⟨trivial, rfl⟩
  | resumeTask now ticket router surroundings =>
    obtain ⟨caller, _, hstep⟩ := Option.bind_eq_some_iff.1 hstep
    obtain ⟨resume, _, hstep⟩ := Option.bind_eq_some_iff.1 hstep
    obtain ⟨tasks, _, hstep⟩ := Option.bind_eq_some_iff.1 hstep
    cases hstep
    exact .inr ⟨now, ticket, router, surroundings, rfl, rfl⟩

theorem access_holds_step (hbacked : Backed system world) (h : AccessHolds system world)
    (hstep : step system world event = some next) :
    AccessHolds system next ↔ Meets system world event := by
  obtain ⟨hmeets, hsame⟩ | ⟨now, ticket, router, surroundings, rfl, hreplays⟩ :=
    replays_of_step hstep
  · refine iff_of_true ?_ hmeets
    unfold AccessHolds
    rw [hsame]
    exact h
  · unfold AccessHolds Meets
    rw [hreplays]
    constructor
    · intro hall replay hreplay
      have hadmitted : replay.Admitted system := by
        refine hall replay (List.mem_append_left _ ?_)
        rw [hreplay]
        exact List.mem_singleton_self replay
      exact ((resolved_of_replay hreplay).admitted_iff hbacked).1 hadmitted
    · intro hmeets replay hmem
      rcases List.mem_append.1 hmem with hnew | hold
      · have hreplay := Option.mem_toList.1 hnew
        exact ((resolved_of_replay hreplay).admitted_iff hbacked).2 (hmeets replay hreplay)
      · exact h replay hold

theorem meets_of_refused (hrefused : step system world event = none) :
    Meets system world event := by
  cases event with
  | resumeTask now ticket router surroundings =>
    intro replay hreplay
    exfalso
    obtain ⟨hlocated, ⟨caller, hcaller, _, hresume⟩, hfound, _, hlater, _, _⟩ :=
      resolved_of_replay hreplay
    have hclock : ¬now.instant < world.tasks.store.clock := Nat.not_lt.2 hlater
    simp [step, hcaller, hresume, hfound, TaskExecution.step, hclock, hlocated,
      TaskExecution.World.choose] at hrefused
  | callTool _ _ _ _ _ _ _ | updateTask _ _ _ _ _ | cancelTask _ _ _ _ | work _ => trivial

end Replays

/-- Access decisions hold at every replay of a run exactly when every future that is about to run a
handler again finds the tool enabled and shown to the caller of the update, and guards that accept
the context of a call of that caller. The tool that a replay runs is then, as at any replay, the one
that the call would have resolved, and the caller owns the task. -/
theorem access_holds_at_replay (system : System S) (events : List (Event S)) :
    Throughout (step system) (AccessHolds system) {} events ↔
      Along (step system) (Meets system) {} events := by
  have hinit : Backed system ({} : World S) := by
    refine ⟨orderly_init system.tasks, ?_⟩
    intro ticket point id hget
    simp [Pool.get] at hget
  refine throughout_iff_along (I := Backed system) ?_ ?_ ?_ hinit
    (List.forall_mem_nil _) events
  · intro world event next hbacked hstep
    exact backed_step hbacked hstep
  · intro world event next hbacked hholds hstep
    exact access_holds_step hbacked hholds hstep
  · intro world event hrefused
    exact meets_of_refused hrefused

def subject (extensions : Extensions) : Option String :=
  match extensions.values.lookup "subject" with
  | some (.string name) => some name
  | _ => none

def suspendingSystem : System Unit where
  tasks :=
    { store := TaskStore.narrowStore
      finalTasksEnabled := true
      taskOwnerResolver := defaultTaskOwnerResolver subject
      taskErrorPolicy := .default
      isFinalProtocolRequest := isFinalProtocolRequest
      clientDeclaresTasks := clientDeclaresTasks
      decodeInputResponse := fun value => some (.listRoots (.ok value)) }
  parts _ :=
    { handlers :=
        { mrtrHandler := some fun _ _ => .ok (.inputRequired {})
          callable := rfl }
      checks := { tool := "report", checkShape := true, schemas := none }
      guards := [fun _ request =>
        if "suspended" ∈ request.extensions.values then .error "suspended" else .ok ()] }
  negotiatedExtensions _ _ := .null

def reportRouter : McpRouter where
  tools := Registry.empty.register { name := "report", taskSupport := .optional, handler := 0 }
  protocolExtensions := AList.insert tasksExtensionId .null ∅

def hideFromSuspended : CapabilityFilter Tool where
  filter context _ := !decide ("suspended" ∈ context.extensions.values)

def aliceExtensions (noted : FinMap String Json) : Extensions where
  statelessMeta := some
    { protocolVersion := some protocolVersion20260728
      clientCapabilities := some { extensions := some (AList.insert tasksExtensionId .null ∅) } }
  values := AList.insert "subject" (.string "alice") noted

/-- Alice makes a task that asks for the roots, and answers when more is noted about her; the
handler is run again with the router as it is then. -/
def answeredEvents (noted : FinMap String Json) (router : McpRouter) : List (Event Unit) :=
  [.callTool ⟨0, "now"⟩ reportRouter (aliceExtensions ∅) { name := "report" } .null
      ⟨0, "then"⟩ "a",
    .work (eventAt 0 (.choose 0 (.prepared (.ok none)))),
    .work (eventAt 0 (.choose 0 .proceed)),
    .work (eventAt 1 (.choose 0 (.returned (.ok (.inputRequired rootsRequest none))))),
    .work (eventAt 1 (.access 0)),
    .updateTask ⟨1000000, "now"⟩ TaskStore.lateSections (aliceExtensions noted) "a"
      (AList.insert "roots" .null ∅),
    .work (eventAt 1000000 (.choose 1 .proceed)),
    .work (eventAt 1000000 (.choose 1 .proceed)),
    .resumeTask ⟨1000000, "now"⟩ 1 router ()]

def Replay.callIsAdmitted (system : System S) (replay : Replay S) : Bool :=
  (replay.router.admitTool replay.caller replay.resume.toolName).isOk &&
    (system.parts replay.tool).accepts replay.surroundings
      { extensions := system.callContext replay.router replay.caller replay.taskId
        args := replay.resume.arguments }

theorem not_access_holds_of_run {system : System S} {events : List (Event S)}
    (hrun : (run (step system) {} events).map (fun world =>
      world.replays.map (Replay.callIsAdmitted system)) = some [false]) :
    ∃ final, run (step system) {} events = some final ∧ ¬AccessHolds system final := by
  obtain ⟨final, hfinal, hreplays⟩ := Option.map_eq_some_iff.1 hrun
  refine ⟨final, hfinal, fun hholds => ?_⟩
  obtain ⟨replay, hmem, hrefused⟩ : ∃ replay ∈ final.replays,
      replay.callIsAdmitted system = false := by
    rw [← List.mem_map, hreplays]
    exact List.mem_singleton_self false
  obtain ⟨_, hresolved, haccepted⟩ := hholds replay hmem
  rw [Replay.callIsAdmitted, hresolved, haccepted] at hrefused
  cases hrefused

/-- A handler is run again although its tool was disabled, although the filter hides it from the
caller, and although its guard rejects the caller. -/
theorem replay_runs_what_no_call_would :
    (∃ final, run (step suspendingSystem) {}
        (answeredEvents ∅ { reportRouter with disabledTools := AList.insert "report" () ∅ }) =
          some final ∧ ¬AccessHolds suspendingSystem final) ∧
    (∃ final, run (step suspendingSystem) {}
        (answeredEvents (AList.insert "suspended" .null ∅)
          { reportRouter with toolFilter := some hideFromSuspended }) =
          some final ∧ ¬AccessHolds suspendingSystem final) ∧
    ∃ final, run (step suspendingSystem) {}
        (answeredEvents (AList.insert "suspended" .null ∅) reportRouter) =
          some final ∧ ¬AccessHolds suspendingSystem final :=
  ⟨not_access_holds_of_run (by decide +kernel), not_access_holds_of_run (by decide +kernel),
    not_access_holds_of_run (by decide +kernel)⟩

end ReplayedAccess

end TowerMcp
