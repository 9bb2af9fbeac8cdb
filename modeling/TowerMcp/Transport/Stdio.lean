import TowerMcp.Router.InFlight

/-!
# The stdio transport

The loop of `StdioTransport::run_with_streams` with the dispatcher and the tasks it starts, after
`transport/stdio.rs`, for one connection. The loop reads a frame and hands its work on: a frame with
requests goes to the queue of the dispatcher, which starts one after the other as permits come free,
and a cancellation is a task of its own, which needs no permit. An `initialize` request is awaited in
the loop. A request is answered unless the mark of its dispatch was set before its future ended, and
the responses of a frame go through a channel to the loop, which writes them.
-/

namespace TowerMcp

/-- Where a request stands that was read: its frame has not come to it, its future is that of a call
on the router, or it has ended, with an answer or without. -/
inductive RequestPoint where
  | queued
  | called (call : ℕ)
  | ended (answered : Bool)
deriving DecidableEq

structure StdioRequest where
  frame : ℕ
  requestId : RequestId
  method : String
  point : RequestPoint := .queued
deriving DecidableEq

/-- The work of a frame. It is `unwinding` when its task was aborted or a handler in it panicked. -/
structure QueuedWork where
  requests : List ℕ
  started : Bool := false
  unwinding : Bool := false

/-- A frame from the client that matters here. A `batch` is answered in one frame. -/
inductive StdioInput where
  | single (requestId : RequestId) (method : String)
  | batch (requests : List (RequestId × String))
  | cancelled (requestId : Option RequestId)
  | listen (requestId : RequestId)

/-- A connection. `permits` are those that are free, when there is a bound; `dispatching` is the work
that waits for one, and `barrier` the work that the loop awaits itself. The calls on the router and
the requests have their own tickets; `outbound` and `written` are the responses in frames. -/
structure StdioConnection where
  permits : Option ℕ
  works : Pool QueuedWork := {}
  queue : List ℕ := []
  dispatching : Option ℕ := none
  barrier : Option ℕ := none
  requests : Pool StdioRequest := {}
  router : InFlight.World := {}
  notices : Pool (Option RequestId) := {}
  subscriptions : List RequestId := []
  outbound : List (List ℕ) := []
  written : List (List ℕ) := []

namespace StdioConnection

/-- What the client, the loop, the dispatcher and the tasks do. The tickets are those of a request,
of the work of a frame and of the task that handles a cancellation. -/
inductive Event where
  | read (frame : StdioInput)
  | closeSubscription (requestId : RequestId)
  | receive
  | spawn
  | refuse (ticket : ℕ)
  | call (ticket : ℕ)
  | enter (ticket : ℕ)
  | track (ticket : ℕ)
  | finish (ticket : ℕ)
  | unwind (work : ℕ)
  | drop (ticket : ℕ)
  | complete (work : ℕ)
  | notify (notice : ℕ)
  | write

def start (maxConcurrentRequests : Option ℕ) : StdioConnection where
  permits := maxConcurrentRequests.map fun limit => max limit 1

def buildsContext (method : String) : Bool :=
  method == "tools/call" || method == "resources/read" || method == "prompts/get" ||
    method == "completion/complete"

def takeIn (conn : StdioConnection) (requests : List (RequestId × String)) (started : Bool) :
    StdioConnection :=
  { conn with
    works := conn.works.start
      { requests := List.range' conn.requests.next requests.length, started }
    requests := conn.requests.startAll
      (requests.map fun (requestId, method) => { frame := conn.works.next, requestId, method }) }

def enqueue (conn : StdioConnection) (requests : List (RequestId × String)) : StdioConnection :=
  { conn.takeIn requests false with queue := conn.queue ++ [conn.works.next] }

def readFrame (conn : StdioConnection) : StdioInput → StdioConnection
  | .single requestId method =>
    if method = "initialize" then
      { conn.takeIn [(requestId, method)] true with barrier := some conn.works.next }
    else conn.enqueue [(requestId, method)]
  | .batch requests => conn.enqueue requests
  | .cancelled requestId =>
    if requestId.any fun requestId => conn.subscriptions.contains requestId then
      { conn with
        subscriptions := conn.subscriptions.filter fun active => some active != requestId }
    else { conn with notices := conn.notices.start requestId }
  | .listen requestId =>
    if conn.subscriptions.contains requestId then conn
    else { conn with subscriptions := requestId :: conn.subscriptions }

def spawnRequest (conn : StdioConnection) (work : ℕ) (queued : QueuedWork) :
    Option StdioConnection :=
  let spawned : StdioConnection :=
    { conn with
      dispatching := none
      works := conn.works.become work { queued with started := true } }
  match conn.permits with
  | none => some spawned
  | some 0 => none
  | some (free + 1) => some { spawned with permits := some free }

def isRunning (conn : StdioConnection) (request : StdioRequest) : Bool :=
  (conn.works.get request.frame).any fun work => work.started && !work.unwinding

def isUnwinding (conn : StdioConnection) (request : StdioRequest) : Bool :=
  (conn.works.get request.frame).any fun work => work.unwinding

def become (conn : StdioConnection) (ticket : ℕ) (request : StdioRequest) (point : RequestPoint) :
    StdioConnection :=
  { conn with requests := conn.requests.become ticket { request with point } }

def hasEnded (conn : StdioConnection) (ticket : ℕ) : Bool :=
  (conn.requests.get ticket).any fun request =>
    match request.point with
    | .ended _ => true
    | _ => false

def isAnswered (conn : StdioConnection) (ticket : ℕ) : Bool :=
  (conn.requests.get ticket).any fun request => decide (request.point = .ended true)

def completeWork (conn : StdioConnection) (work : ℕ) (queued : QueuedWork) : StdioConnection :=
  let answers := if queued.unwinding then [] else queued.requests.filter conn.isAnswered
  let frames := if answers.isEmpty then [] else [answers]
  let ended : StdioConnection := { conn with works := conn.works.finish work }
  if conn.barrier = some work then
    { ended with barrier := none, written := conn.written ++ frames }
  else
    { ended with
      permits := conn.permits.map fun free => free + 1
      outbound := conn.outbound ++ frames }

def step (conn : StdioConnection) : Event → Option StdioConnection
  | .read frame => if conn.barrier.isSome then none else some (conn.readFrame frame)
  | .closeSubscription requestId =>
    some { conn with
      subscriptions := conn.subscriptions.filter fun active => active != requestId }
  | .receive =>
    match conn.dispatching, conn.queue with
    | none, work :: rest => some { conn with dispatching := some work, queue := rest }
    | _, _ => none
  | .spawn => do
    let work ← conn.dispatching
    let queued ← conn.works.get work
    conn.spawnRequest work queued
  | .refuse ticket => do
    let request ← conn.requests.get ticket
    if request.point = .queued ∧ conn.isRunning request then
      some (conn.become ticket request (.ended true))
    else none
  | .call ticket => do
    let request ← conn.requests.get ticket
    if request.point = .queued ∧ conn.isRunning request then
      let router := conn.router.serviceCall request.requestId (request.method != "initialize")
      some ({ conn with router }.become ticket request (.called conn.router.calls.next))
    else none
  | .enter ticket => do
    let request ← conn.requests.get ticket
    match request.point with
    | .called call =>
      if conn.isRunning request then
        (InFlight.step conn.router (.enter call)).map fun router => { conn with router }
      else none
    | _ => none
  | .track ticket => do
    let request ← conn.requests.get ticket
    match request.point with
    | .called call =>
      if conn.isRunning request && buildsContext request.method then
        (InFlight.step conn.router (.track call)).map fun router => { conn with router }
      else none
    | _ => none
  | .finish ticket => do
    let request ← conn.requests.get ticket
    match request.point with
    | .called call => do
      let future ← conn.router.calls.get call
      if conn.isRunning request ∧ future.phase ≠ .created then
        -- the mark is read once the future has ended and untracked its dispatch
        let answered := future.peerCancelled != some true
        some ({ conn with router := conn.router.finish call future }.become ticket request
          (.ended answered))
      else none
    | _ => none
  | .unwind work => do
    let queued ← conn.works.get work
    if queued.started ∧ conn.barrier ≠ some work then
      some { conn with works := conn.works.become work { queued with unwinding := true } }
    else none
  | .drop ticket => do
    let request ← conn.requests.get ticket
    if conn.isUnwinding request then
      match request.point with
      | .queued => some (conn.become ticket request (.ended false))
      | .called call => do
        let future ← conn.router.calls.get call
        some ({ conn with router := conn.router.finish call future }.become ticket request
          (.ended false))
      | .ended _ => none
    else none
  | .complete work => do
    let queued ← conn.works.get work
    if queued.started ∧ queued.requests.all conn.hasEnded then
      some (conn.completeWork work queued)
    else none
  | .notify notice => do
    let requestId ← conn.notices.get notice
    (InFlight.step conn.router (.cancelled requestId)).map fun router =>
      { conn with router, notices := conn.notices.finish notice }
  | .write =>
    if conn.barrier.isSome then none
    else
      match conn.outbound with
      | [] => none
      | frame :: rest => some { conn with outbound := rest, written := conn.written ++ [frame] }

/-! ## What a step does to the requests -/

inductive Changed (conn : StdioConnection) : Pool StdioRequest → InFlight.World → Prop where
  | kept : Changed conn conn.requests conn.router
  | takenIn (requests : List StdioRequest)
      (queued : ∀ request ∈ requests, request.point = .queued) :
      Changed conn (conn.requests.startAll requests) conn.router
  | refused (ticket : ℕ) (request : StdioRequest) (answered : Bool)
      (held : conn.requests.get ticket = some request) (queued : request.point = .queued) :
      Changed conn (conn.requests.become ticket { request with point := .ended answered })
        conn.router
  | called (ticket : ℕ) (request : StdioRequest)
      (held : conn.requests.get ticket = some request) (queued : request.point = .queued) :
      Changed conn
        (conn.requests.become ticket { request with point := .called conn.router.calls.next })
        (conn.router.serviceCall request.requestId (request.method != "initialize"))
  | entered (ticket call : ℕ) (request : StdioRequest) (future : InFlight.RequestCall)
      (held : conn.requests.get ticket = some request) (point : request.point = .called call)
      (future_held : conn.router.calls.get call = some future) :
      Changed conn conn.requests { conn.router with
        calls := conn.router.calls.become call { future with phase := .entered } }
  | tracked (ticket call : ℕ) (request : StdioRequest) (future : InFlight.RequestCall)
      (held : conn.requests.get ticket = some request) (point : request.point = .called call)
      (builds : buildsContext request.method = true)
      (future_held : conn.router.calls.get call = some future) :
      Changed conn conn.requests
        { conn.router.registerInFlight future.requestId ⟨future.dispatch, call⟩ with
          calls := conn.router.calls.become call { future with phase := .tracked } }
  | ended (ticket call : ℕ) (request : StdioRequest) (future : InFlight.RequestCall)
      (answered : Bool) (held : conn.requests.get ticket = some request)
      (point : request.point = .called call)
      (future_held : conn.router.calls.get call = some future)
      (unmarked : answered = true → future.peerCancelled ≠ some true) :
      Changed conn (conn.requests.become ticket { request with point := .ended answered })
        (conn.router.finish call future)
  | cancelled (requestId : RequestId) :
      Changed conn conn.requests (conn.router.cancelRequest requestId)

variable {conn next : StdioConnection} {ticket : ℕ} {request : StdioRequest}

theorem changed_of_read (frame : StdioInput) :
    Changed conn (conn.readFrame frame).requests (conn.readFrame frame).router := by
  have htakes : ∀ (requests : List (RequestId × String)) (started : Bool),
      Changed conn (conn.takeIn requests started).requests (conn.takeIn requests started).router := by
    intro requests started
    refine .takenIn _ fun request hmem => ?_
    obtain ⟨member, _, rfl⟩ := List.mem_map.1 hmem
    rfl
  unfold readFrame
  split
  next requestId method =>
    split
    next => exact htakes [(requestId, method)] true
    next => exact htakes [(requestId, method)] false
  next requests => exact htakes requests false
  next =>
    split
    next => exact .kept
    next => exact .kept
  next =>
    split
    next => exact .kept
    next => exact .kept

theorem spawn_request_frame {work : ℕ} {queued : QueuedWork}
    (h : conn.spawnRequest work queued = some next) :
    next.requests = conn.requests ∧ next.router = conn.router ∧ next.outbound = conn.outbound ∧
      next.written = conn.written := by
  unfold spawnRequest at h
  dsimp only at h
  split at h
  · cases h
    exact ⟨rfl, rfl, rfl, rfl⟩
  · cases h
  · cases h
    exact ⟨rfl, rfl, rfl, rfl⟩

def Sends (conn next : StdioConnection) : Prop :=
  ∀ frame ∈ next.outbound ++ next.written,
    frame ∈ conn.outbound ++ conn.written ∨ ∀ ticket ∈ frame, conn.isAnswered ticket = true

theorem sends_of_same (houtbound : next.outbound = conn.outbound)
    (hwritten : next.written = conn.written) : Sends conn next := by
  intro frame hmem
  rw [houtbound, hwritten] at hmem
  exact .inl hmem

theorem read_frame_sends (conn : StdioConnection) (frame : StdioInput) :
    (conn.readFrame frame).outbound = conn.outbound ∧
      (conn.readFrame frame).written = conn.written := by
  unfold readFrame
  split
  next => split <;> exact ⟨rfl, rfl⟩
  next => exact ⟨rfl, rfl⟩
  next => split <;> exact ⟨rfl, rfl⟩
  next => split <;> exact ⟨rfl, rfl⟩

theorem sends_complete_work (work : ℕ) (queued : QueuedWork) :
    Sends conn (conn.completeWork work queued) := by
  intro frame h
  have hanswers : ∀ (answers : List ℕ) (frames : List (List ℕ)),
      answers = (if queued.unwinding then [] else queued.requests.filter conn.isAnswered) →
      frames = (if answers.isEmpty then [] else [answers]) → frame ∈ frames →
      ∀ ticket ∈ frame, conn.isAnswered ticket = true := by
    rintro answers frames hanswers rfl hframe ticket hticket
    split at hframe
    next => cases hframe
    next =>
      obtain rfl := List.mem_singleton.1 hframe
      rw [hanswers] at hticket
      split at hticket
      next => cases hticket
      next => exact (List.mem_filter.1 hticket).2
  unfold completeWork at h
  dsimp only at h
  split at h
  next =>
    rw [← List.append_assoc] at h
    obtain hearlier | hnew := List.mem_append.1 h
    · exact .inl hearlier
    · exact .inr (hanswers _ _ rfl rfl hnew)
  next =>
    rw [List.mem_append, List.mem_append] at h
    obtain (hearlier | hnew) | hearlier := h
    · exact .inl (List.mem_append.2 (.inl hearlier))
    · exact .inr (hanswers _ _ rfl rfl hnew)
    · exact .inl (List.mem_append.2 (.inr hearlier))

/-- What a step comes to: it does one of these things to the requests and the router, and sends only
answers. -/
structure Taken (conn next : StdioConnection) : Prop where
  changed : Changed conn next.requests next.router
  sends : Sends conn next

theorem taken_of_step {event : Event} (h : step conn event = some next) : Taken conn next := by
  cases event with
  | read frame =>
    unfold step at h
    dsimp only at h
    obtain ⟨_, h⟩ := Option.ite_none_left_eq_some.1 h
    cases h
    obtain ⟨houtbound, hwritten⟩ := read_frame_sends conn frame
    exact ⟨changed_of_read frame, sends_of_same houtbound hwritten⟩
  | closeSubscription requestId =>
    cases h
    exact ⟨.kept, sends_of_same rfl rfl⟩
  | receive =>
    unfold step at h
    dsimp only at h
    split at h
    next =>
      cases h
      exact ⟨.kept, sends_of_same rfl rfl⟩
    next => cases h
  | spawn =>
    obtain ⟨work, _, h⟩ := Option.bind_eq_some_iff.1 h
    obtain ⟨queued, _, h⟩ := Option.bind_eq_some_iff.1 h
    obtain ⟨hrequests, hrouter, houtbound, hwritten⟩ := spawn_request_frame h
    refine ⟨?_, sends_of_same houtbound hwritten⟩
    rw [hrequests, hrouter]
    exact .kept
  | refuse ticket =>
    obtain ⟨request, hget, h⟩ := Option.bind_eq_some_iff.1 h
    obtain ⟨⟨hqueued, _⟩, h⟩ := Option.ite_none_right_eq_some.1 h
    cases h
    exact ⟨.refused ticket request true hget hqueued, sends_of_same rfl rfl⟩
  | call ticket =>
    obtain ⟨request, hget, h⟩ := Option.bind_eq_some_iff.1 h
    obtain ⟨⟨hqueued, _⟩, h⟩ := Option.ite_none_right_eq_some.1 h
    cases h
    exact ⟨.called ticket request hget hqueued, sends_of_same rfl rfl⟩
  | enter ticket =>
    obtain ⟨request, hget, h⟩ := Option.bind_eq_some_iff.1 h
    split at h
    next call hpoint =>
      obtain ⟨_, h⟩ := Option.ite_none_right_eq_some.1 h
      obtain ⟨router, hstep, rfl⟩ := Option.map_eq_some_iff.1 h
      unfold InFlight.step at hstep
      dsimp only at hstep
      split at hstep
      next future hfuture =>
        obtain ⟨_, hstep⟩ := Option.ite_none_right_eq_some.1 hstep
        cases hstep
        exact ⟨.entered ticket call request future hget hpoint hfuture, sends_of_same rfl rfl⟩
      next => cases hstep
    next => cases h
  | track ticket =>
    obtain ⟨request, hget, h⟩ := Option.bind_eq_some_iff.1 h
    split at h
    next call hpoint =>
      obtain ⟨hbuilds, h⟩ := Option.ite_none_right_eq_some.1 h
      obtain ⟨router, hstep, rfl⟩ := Option.map_eq_some_iff.1 h
      rw [Bool.and_eq_true] at hbuilds
      unfold InFlight.step at hstep
      dsimp only at hstep
      split at hstep
      next future hfuture =>
        obtain ⟨_, hstep⟩ := Option.ite_none_right_eq_some.1 hstep
        cases hstep
        exact ⟨.tracked ticket call request future hget hpoint hbuilds.2 hfuture,
          sends_of_same rfl rfl⟩
      next => cases hstep
    next => cases h
  | finish ticket =>
    obtain ⟨request, hget, h⟩ := Option.bind_eq_some_iff.1 h
    dsimp only at h
    split at h
    next call hpoint =>
      obtain ⟨future, hfuture, h⟩ := Option.bind_eq_some_iff.1 h
      obtain ⟨_, h⟩ := Option.ite_none_right_eq_some.1 h
      cases h
      refine ⟨.ended ticket call request future _ hget hpoint hfuture fun hanswered => ?_,
        sends_of_same rfl rfl⟩
      exact bne_iff_ne.1 hanswered
    next => cases h
  | unwind work =>
    obtain ⟨queued, _, h⟩ := Option.bind_eq_some_iff.1 h
    obtain ⟨_, h⟩ := Option.ite_none_right_eq_some.1 h
    cases h
    exact ⟨.kept, sends_of_same rfl rfl⟩
  | drop ticket =>
    obtain ⟨request, hget, h⟩ := Option.bind_eq_some_iff.1 h
    obtain ⟨_, h⟩ := Option.ite_none_right_eq_some.1 h
    split at h
    next hqueued =>
      cases h
      exact ⟨.refused ticket request false hget hqueued, sends_of_same rfl rfl⟩
    next call hpoint =>
      obtain ⟨future, hfuture, h⟩ := Option.bind_eq_some_iff.1 h
      cases h
      exact ⟨.ended ticket call request future false hget hpoint hfuture nofun,
        sends_of_same rfl rfl⟩
    next => cases h
  | complete work =>
    obtain ⟨queued, _, h⟩ := Option.bind_eq_some_iff.1 h
    obtain ⟨_, h⟩ := Option.ite_none_right_eq_some.1 h
    cases h
    refine ⟨?_, sends_complete_work work queued⟩
    unfold completeWork
    dsimp only
    split
    · exact .kept
    · exact .kept
  | notify notice =>
    obtain ⟨requestId, _, h⟩ := Option.bind_eq_some_iff.1 h
    obtain ⟨router, hstep, rfl⟩ := Option.map_eq_some_iff.1 h
    refine ⟨?_, sends_of_same rfl rfl⟩
    cases requestId with
    | some requestId =>
      cases hstep
      exact .cancelled requestId
    | none =>
      cases hstep
      exact .kept
  | write =>
    obtain ⟨_, h⟩ := Option.ite_none_left_eq_some.1 h
    split at h
    next => cases h
    next first rest houtbound =>
      cases h
      refine ⟨.kept, fun frame hmem => .inl ?_⟩
      rw [houtbound]
      simp only [List.mem_append, List.mem_cons, List.not_mem_nil, or_false] at hmem ⊢
      tauto

end StdioConnection

end TowerMcp
