import TowerMcp.OAuth.Scopes
import TowerMcp.Router.SingleExecution

/-!
# A router behind the scope layer

The scope layer composed with the router: a request is refused by the layer, or it accesses a
capability, creates a task, or updates one, and the futures of the tasks take their steps. The log
says for every access and for every start of a handler which request it answers. A handler is replayed
in answer to an update, so its tool was asked for by an earlier call; `scopes_respected` says what the
tokens of both are good for.
-/

namespace TowerMcp

open TaskExecution

/-- What was done in answer to a request with these claims. A task runs its handler for the call that
created it, and replays it for an update. -/
inductive Occurrence where
  | accessed (claims : Option TokenClaims) (request : AccessRequest) (reached : Reached)
  | listened (claims : Option TokenClaims) (notifications : SubscriptionFilter)
  | ran (claims : Option TokenClaims) (taskId toolName : String) (replay : Bool)

structure Caller where
  claims : Option TokenClaims
  toolName : Option String
deriving DecidableEq

structure ScopedRouter where
  service : ScopeEnforcementService
  tasks : TaskRouter RequestExtensions
  isLive : Tool → Bool

/-- A request as it arrives: the clocks, the registries it finds, and what is drawn and kept for a
task it may create. -/
structure Arrival where
  now : Moment
  clock : ℕ → Sections
  router : McpRouter
  completionHandler : Option ℕ := none
  request : RouterRequest
  created : Moment
  id : String
  arguments : Json := .null

/-- The tasks with their futures, the requests the futures work for, and what was done, the latest
first. -/
structure ScopedServer where
  world : World := {}
  callers : FinMap ℕ Caller := ∅
  log : List Occurrence := []

namespace ScopedServer

inductive Event where
  | arrive (arrival : Arrival)
  | work (event : TaskExecution.Event)

variable (router : ScopedRouter) (self : ScopedServer)

def note (occurrence : Occurrence) : ScopedServer :=
  { self with log := occurrence :: self.log }

def start (now : Moment) (action : Action) (caller : Caller) : Option ScopedServer :=
  (TaskExecution.step router.tasks self.world ⟨now, action⟩).map fun world =>
    { self with world, callers := self.callers.insert self.world.futures.next caller }

def createTask (arrival : Arrival) (params : McpRouter.CallToolParams) (tool : Tool)
    (ttl : Option ℕ) : Option ScopedServer :=
  match (router.tasks.taskOwnerResolver arrival.request.extensions).intoOwner with
  | none => some self
  | some owner =>
    if arrival.id ∈ TaskStore.drawnIds self.world.store.events then none
    else
      self.start router arrival.now
        (.create (router.isLive tool) arrival.created arrival.id params.name arrival.arguments ttl
          owner)
        ⟨arrival.request.extensions.claims, some params.name⟩

def access (arrival : Arrival) (request : AccessRequest) : Option ScopedServer :=
  match arrival.router.answer arrival.completionHandler arrival.request.extensions.values request with
  | .error _ => some self
  | .ok reached =>
    let noted := self.note (.accessed arrival.request.extensions.claims request reached)
    match request, reached with
    | .callTool params, .tool tool (some ttl) => noted.createTask router arrival params tool ttl
    | _, _ => some noted

def served (arrival : Arrival) (request : TaskRequest) : Option TaskResponse :=
  match Fallible.Handler.outcome
      (router.tasks.handle arrival.clock arrival.request.extensions request)
      { data := self.world.store.data, liveTasks := self.world.executions, effects := [] } with
  | .ok (.ok response, _) => some response
  | _ => none

def serve (arrival : Arrival) (request : TaskRequest) : Option ScopedServer :=
  let extensions := arrival.request.extensions
  let final := router.tasks.isFinalProtocolRequest extensions
  match request, self.served router arrival request with
  | .listen _, some (.subscriptionsAccepted notifications) =>
    some (self.note (.listened extensions.claims notifications))
  | .update taskId inputResponses, some _ =>
    match router.tasks.decodeInputResponses taskId inputResponses with
    | .error _ => some self
    | .ok responses =>
      self.start router arrival.now (.update final taskId responses) ⟨extensions.claims, none⟩
  | .cancel taskId reason, some _ =>
    self.start router arrival.now (.cancel final taskId reason) ⟨extensions.claims, none⟩
  | _, _ => some self

def dispatch (arrival : Arrival) : Option ScopedServer :=
  match arrival.request.inner with
  | .access request => self.access router arrival request
  | .task request => self.serve router arrival request
  | .other => some self

def startsHandler : Point → Point → Option (String × Bool)
  | .preparing taskId _, .live _ | .describing taskId _ _, .live _ | .starting taskId, .running _ _ =>
    some (taskId, false)
  | .located taskId, .running _ _ => some (taskId, true)
  | _, _ => none

def resumed (now : Moment) (point : Point) (caller : Caller) : Caller :=
  match point with
  | .resuming taskId =>
    match MemoryTaskStore.resumeContext self.world.store.data now.instant taskId with
    | some resume => { caller with toolName := some resume.toolName }
    | none => caller
  | _ => caller

def started (caller : Caller) (before after : Point) : List Occurrence :=
  match startsHandler before after, caller.toolName with
  | some (taskId, replay), some toolName => [.ran caller.claims taskId toolName replay]
  | _, _ => []

def moved (ticket : ℕ) (now : Moment) (world : World) : ScopedServer :=
  match self.world.futures.get ticket, self.callers.lookup ticket, world.futures.get ticket with
  | some before, some caller, some after =>
    { world
      callers := self.callers.insert ticket (self.resumed now before caller)
      log := started caller before after ++ self.log }
  | _, _, _ => { self with world }

def work (event : TaskExecution.Event) : Option ScopedServer :=
  let next := TaskExecution.step router.tasks self.world event
  match event.action with
  | .access ticket | .choose ticket _ => next.map (self.moved ticket event.now)
  | .retire _ => next.map fun world => { self with world }
  | _ => none

def step : Event → Option ScopedServer
  | .arrive arrival =>
    match router.service.authorize arrival.request with
    | .error _ => some self
    | .ok _ => self.dispatch router arrival
  | .work event => self.work router event

end ScopedServer

end TowerMcp
