import TowerMcp.Client.Frames
import TowerMcp.Lib.Execution
import TowerMcp.Lib.Pool
import TowerMcp.Types.Subscriptions

/-!
# The message loop of the client

One task owns the transport. It takes the commands of the callers, the frames of the server and the
outcomes of the requests the server has made, one at a time, and keeps the requests that wait for a
response in one map and the cancellation tokens of the server's requests in another. A caller is
known by a ticket, a request of the server by the number of its task. What the loop tells callers
and the handler is recorded in `Loop.log`, the newest first.
-/

namespace TowerMcp

namespace MessageLoop

inductive ServerNotification where
  | subscriptionAcknowledged (subscriptionId : RequestId) (notifications : SubscriptionFilter)
  | subscriptionCancelled (subscriptionId : RequestId) (reason : Option String)
  | subscription (subscriptionId : RequestId) (method : String) (params : Option Json)
  | plain (method : String) (params : Option Json)

def parseServerNotification (method : String) (params : Option Json) : ServerNotification :=
  if method = "notifications/subscriptions/acknowledged" then
    match params.bind SubscriptionsAcknowledgedParams.fromJson with
    | some { subscriptionId := some subscriptionId, notifications } =>
      .subscriptionAcknowledged subscriptionId notifications
    | _ => .plain method params
  else if method = "notifications/cancelled" then
    match params.bind CancelledParams.fromJson with
    | some { requestId := some subscriptionId, reason } =>
      .subscriptionCancelled subscriptionId reason
    | _ => .plain method params
  else
    match (params.bind fun params => params.pointer ["_meta", subscriptionIdKey]).bind
        RequestId.fromJson with
    | some subscriptionId => .subscription subscriptionId method params
    | none => .plain method params

def listenMethod : String := "subscriptions/listen"

inductive Error where
  | transport (message : String)
  | sessionExpired
  | jsonRpc (error : JsonRpcError)
  | failed (display : String)
deriving DecidableEq

/-- A request that waits for its response. The ticket stands for `response_tx`, the flag for
whether `acknowledgment_tx` is still there. -/
structure PendingRequest where
  method : String
  responseTx : ℕ
  acknowledgmentTx : Bool := false

inductive LoopCommand where
  | request (id : RequestId) (method : String) (params : Json)
  | startSubscription (params : Json)
  | cancelRequest (requestId : RequestId)
  | notify (method : String) (params : Json)
  | resolveInputs (requests : Json)
  | resetSession
  | endSession
  | shutdown

/-- What a caller is told. A sender that is dropped tells its caller that the connection is
closed. -/
inductive Outcome where
  | response (result : Except Error Json)
  | done (result : Except Error Unit)
  | inputs (result : Except Error Json)
  | dropped

inductive Observation where
  | opened (ticket : ℕ) (id : RequestId)
  | acknowledged (ticket : ℕ) (filter : SubscriptionFilter)
  | notified (ticket : Option ℕ) (notification : ServerNotification)
  | given (ticket : ℕ) (outcome : Outcome)

/-- A request of the server, run on a task of its own. The token, the response that is kept and
whether the loop has taken it are those of the program. The other flags are its history: a
cancellation was processed before a reply was sent, the handler has cancelled its own token, a
reply was sent. -/
structure ServerRequest where
  id : RequestId
  token : Bool := false
  outcome : Option (Option Json) := none
  relayed : Bool := false
  asked : Bool := false
  withdrawn : Bool := false
  replied : Bool := false

/-- Whether the loop runs, has left its `select!` and closes the transport, or is gone. -/
inductive Phase where
  | running
  | closing
  | closed
deriving DecidableEq

structure Loop where
  phase : Phase := .running
  commands : List (ℕ × LoopCommand) := []
  submitted : ℕ := 0
  nextId : Int64 := 1
  pendingRequests : FinMap RequestId PendingRequest := ∅
  pendingServerRequests : FinMap RequestId ℕ := ∅
  tasks : Pool ServerRequest := {}
  log : List Observation := []

def cancelToken (tasks : Pool ServerRequest) (task : ℕ) : Pool ServerRequest :=
  match tasks.get task with
  | none => tasks
  | some request => tasks.become task { request with token := true }

namespace Loop

variable (self : Loop)

/-! ## Telling callers -/

def give (ticket : ℕ) (outcome : Outcome) : Loop :=
  { self with log := .given ticket outcome :: self.log }

def note (observation : Observation) : Loop :=
  { self with log := observation :: self.log }

def drainPending (outcome : Outcome) : Loop :=
  { self with
    pendingRequests := ∅
    log := (self.pendingRequests.values.map fun pending => .given pending.responseTx outcome) ++
      self.log }

def failAllPending (reason : String) : Loop :=
  self.drainPending (.response (.error (.transport reason)))

def removePending (id : RequestId) : Loop :=
  { self with pendingRequests := self.pendingRequests.erase id }

def insertPending (id : RequestId) (pending : PendingRequest) : Loop :=
  let kept := { self with pendingRequests := self.pendingRequests.insert id pending }
  match self.pendingRequests.lookup id with
  | none => kept
  | some before => kept.give before.responseTx .dropped

def takeAcknowledgment (id : RequestId) (pending : PendingRequest) : Loop :=
  { self with
    pendingRequests := self.pendingRequests.insert id { pending with acknowledgmentTx := false } }

/-! ## The requests of the server -/

def noteCancellation (id : RequestId) : Loop :=
  { self with
    tasks := self.tasks.map fun request =>
      if request.id = id ∧ request.replied = false then { request with asked := true }
      else request }

/-- Leave the `select!`: fail what is pending and stop the tasks of the server's requests. -/
def stop : Loop :=
  let failed := { self with phase := .closing }.failAllPending "Connection closed"
  { failed with
    tasks := self.pendingServerRequests.values.foldl cancelToken self.tasks
    pendingServerRequests := ∅ }

/-- Leave the `select!` because a frame was not sent. -/
def stopAfter (failure : String) : Loop :=
  (self.failAllPending ("Transport error: " ++ failure)).stop

def spawn (id : RequestId) : Loop :=
  { self with
    tasks := self.tasks.start { id }
    pendingServerRequests := self.pendingServerRequests.insert id self.tasks.next }

/-! ## Frames -/

def responseOutcome (pending : PendingRequest) (parsed : Json) : Except Error Json :=
  match (parsed.get "error").filter fun error => !error.isNull with
  | some error =>
    if (parsed.get "result").any fun result => !result.isNull then
      .error (.transport "Response has both result and error")
    else if toI32 (((error.get "code").bind Json.asI64).getD (-1)) = -32005 then
      .error .sessionExpired
    else
      .error (.jsonRpc {
        code := toI32 (((error.get "code").bind Json.asI64).getD (-1))
        message := ((error.get "message").bind Json.asStr).getD "Unknown error"
        data := error.get "data" })
  | none =>
    match parsed.get "result" with
    | some result =>
      if pending.method = listenMethod ∧ pending.acknowledgmentTx = true then
        .error (.transport "subscriptions/listen completed before acknowledgment")
      else .ok result
    | none => .error (.transport "Invalid response")

def handleResponse (parsed : Json) : Loop :=
  match TowerMcp.handleResponse self.pendingRequests.keys parsed with
  | none => self
  | some id =>
    match self.pendingRequests.lookup id with
    | none => self
    | some pending =>
      (self.removePending id).give pending.responseTx
        (.response (responseOutcome pending parsed))

def requestIdsMatch (left right : RequestId) : Bool :=
  decide (left = right) ||
    match left, right with
    | .number number, .string value | .string value, .number number =>
      decide (parseI64 value.toList = some number)
    | _, _ => false

def matchingSubscriptionId (id : RequestId) : Option RequestId :=
  if (self.pendingRequests.lookup id).any fun pending => decide (pending.method = listenMethod) then
    some id
  else
    (self.pendingRequests.toPairs.find? fun entry =>
      decide (entry.2.method = listenMethod) && requestIdsMatch entry.1 id).map (·.1)

def handleSubscription (notification : ServerNotification) : Loop :=
  match notification with
  | .subscriptionAcknowledged subscriptionId notifications =>
    match self.matchingSubscriptionId subscriptionId with
    | none => self
    | some key =>
      match self.pendingRequests.lookup key with
      | none => self
      | some pending =>
        if pending.acknowledgmentTx = true then
          ((self.takeAcknowledgment key pending).note
            (.acknowledged pending.responseTx notifications)).note
              (.notified (some pending.responseTx) notification)
        else self
  | .subscription subscriptionId _ _ =>
    match self.matchingSubscriptionId subscriptionId with
    | none => self
    | some key =>
      match self.pendingRequests.lookup key with
      | none => self
      | some pending =>
        if pending.acknowledgmentTx = true then
          (self.removePending key).give pending.responseTx (.response (.error
            (.transport "subscription notification arrived before acknowledgment")))
        else self.note (.notified (some pending.responseTx) notification)
  | .subscriptionCancelled subscriptionId reason =>
    match self.matchingSubscriptionId subscriptionId with
    | none => self
    | some key =>
      match self.pendingRequests.lookup key with
      | none => self
      | some pending =>
        ((self.removePending key).give pending.responseTx (.response (.error
          (.transport (match reason with
            | none => "subscription cancelled by server"
            | some reason => "subscription cancelled by server: " ++ reason))))).note
          (.notified none notification)
  | .plain _ _ => self.note (.notified none notification)

def handleNotification (notification : ServerNotification) : Loop :=
  match notification with
  | .subscriptionCancelled id _ =>
    match self.pendingServerRequests.lookup id with
    | some task =>
      let noted := self.noteCancellation id
      { noted with tasks := cancelToken noted.tasks task }
    | none => (self.noteCancellation id).handleSubscription notification
  | _ => self.handleSubscription notification

def notificationOf (parsed : Json) : Option ServerNotification :=
  if isResponseFrame parsed then none
  else
    match parsed.get "method", parsed.get "id" with
    | some method, none =>
      some (parseServerNotification (method.asStr.getD "") (parsed.get "params"))
    | _, _ => none

def requestOf (parsed : Json) : Option RequestId :=
  if isResponseFrame parsed || (parsed.get "method").isNone then none else extractRequestId parsed

def handleIncoming (line : Option Json) : Loop :=
  match line with
  | none => self
  | some parsed =>
    if isResponseFrame parsed then
      if isSessionLevel parsed then self.drainPending (.response (.error .sessionExpired))
      else self.handleResponse parsed
    else
      match requestOf parsed with
      | some id => self.spawn id
      | none =>
        match notificationOf parsed with
        | some notification => self.handleNotification notification
        | none => self

/-! ## Commands -/

def startRequest (id : RequestId) (pending : PendingRequest) (sent : Except String Unit) : Loop :=
  let kept := self.insertPending id pending
  match sent with
  | .ok _ => kept
  | .error failure => kept.stopAfter failure

def handleCommand (ticket : ℕ) (command : LoopCommand) (encoded sent : Except String Unit)
    (resolved : Except Error Json) : Loop :=
  match command with
  | .request id method _ =>
    match encoded with
    | .error failure =>
      self.give ticket (.response (.error (.transport ("Serialization failed: " ++ failure))))
    | .ok _ => self.startRequest id { method, responseTx := ticket } sent
  | .startSubscription _ =>
    let id := RequestId.number self.nextId.toInt
    let drawn := { self with nextId := self.nextId + 1 }
    match encoded with
    | .error failure =>
      drawn.give ticket (.response (.error (.transport ("Serialization failed: " ++ failure))))
    | .ok _ =>
      (drawn.note (.opened ticket id)).startRequest id
        { method := listenMethod, responseTx := ticket, acknowledgmentTx := true } sent
  | .cancelRequest id =>
    match self.pendingRequests.lookup id with
    | none => self.give ticket (.done (.ok ()))
    | some pending =>
      match sent with
      | .ok _ =>
        ((self.removePending id).give pending.responseTx (.response (.error
          (.transport (if pending.method = listenMethod then "subscription cancelled"
            else "request cancelled"))))).give ticket (.done (.ok ()))
      | .error failure =>
        ((self.removePending id).insertPending id pending).give ticket
          (.done (.error (.failed failure)))
  | .notify _ _ =>
    match encoded, sent with
    | .error failure, _ =>
      self.give ticket
        (.done (.error (.transport ("Failed to serialize notification: " ++ failure))))
    | .ok _, .error failure => self.give ticket (.done (.error (.failed failure)))
    | .ok _, .ok _ => self.give ticket (.done (.ok ()))
  | .resolveInputs _ => self.give ticket (.inputs resolved)
  | .resetSession =>
    (self.drainPending (.response (.error .sessionExpired))).give ticket (.done (.ok ()))
  | .endSession => self.give ticket (.done (.ok ()))
  | .shutdown => (self.give ticket (.done (.ok ()))).stop

def release : Loop :=
  let drained := self.drainPending .dropped
  { drained with
    phase := .closed
    commands := []
    log := (self.commands.map fun entry => .given entry.1 .dropped) ++ drained.log }

end Loop

/-! ## Steps -/

/-- What happens to the loop. `draw` is another caller that takes an identifier, `hangUp` the end of
the last caller, `finish` and `withdraw` are what the handler of a server's request does. -/
inductive Event where
  | submit (command : LoopCommand)
  | draw
  | command (encoded sent : Except String Unit) (resolved : Except Error Json)
  | hangUp
  | incoming (line : Option Json)
  | transportClosed
  | finish (task : ℕ) (result : Except JsonRpcError Json)
  | withdraw (task : ℕ)
  | relay (task : ℕ) (sent : Except String Unit)
  | close
  | abort

def Loop.relay (self : Loop) (task : ℕ) (request : ServerRequest) (response : Option Json)
    (sent : Except String Unit) : Loop :=
  let taken :=
    { self with
      pendingServerRequests := self.pendingServerRequests.erase request.id
      tasks := self.tasks.become task
        { request with relayed := true, replied := response.isSome } }
  match response, sent with
  | some _, .error failure => taken.stopAfter failure
  | _, _ => taken

def step (s : Loop) (event : Event) : Option Loop :=
  match event with
  | .submit command =>
    if s.phase = .closed then
      some ({ s with submitted := s.submitted + 1 }.give s.submitted .dropped)
    else
      some { s with
        commands := s.commands ++ [(s.submitted, command)]
        submitted := s.submitted + 1 }
  | .draw => some { s with nextId := s.nextId + 1 }
  | .command encoded sent resolved =>
    match s.phase, s.commands with
    | .running, (ticket, command) :: rest =>
      some ({ s with commands := rest }.handleCommand ticket command encoded sent resolved)
    | _, _ => none
  | .hangUp => if s.phase = .running ∧ s.commands.isEmpty then some s.stop else none
  | .incoming line => if s.phase = .running then some (s.handleIncoming line) else none
  | .transportClosed => if s.phase = .running then some s.stop else none
  | .finish task result =>
    match s.tasks.get task with
    | some request =>
      if request.outcome.isSome then none
      else
        some { s with
          tasks := s.tasks.become task
            { request with
              outcome := some (if request.token then none
                else some (serverRequestResponse request.id result)) } }
    | none => none
  | .withdraw task =>
    match s.tasks.get task with
    | some request =>
      some { s with
        tasks := s.tasks.become task { request with token := true, withdrawn := true } }
    | none => none
  | .relay task sent =>
    match s.tasks.get task with
    | some request =>
      match request.outcome with
      | some response =>
        if s.phase = .running ∧ request.relayed = false then
          some (s.relay task request response sent)
        else none
      | none => none
    | none => none
  | .close => if s.phase = .closing then some s.release else none
  | .abort => if s.phase = .closed then none else some s.release

/-! ## What a step leaves alone -/

def TokensOnly (tasks tasks' : Pool ServerRequest) : Prop :=
  ∀ task request', tasks'.get task = some request' →
    ∃ request, tasks.get task = some request ∧ request' = { request with token := request'.token }

theorem tokens_only_refl (tasks : Pool ServerRequest) : TokensOnly tasks tasks :=
  fun _ request hget => ⟨request, hget, rfl⟩

theorem TokensOnly.trans {tasks₁ tasks₂ tasks₃ : Pool ServerRequest}
    (hfirst : TokensOnly tasks₁ tasks₂) (hsecond : TokensOnly tasks₂ tasks₃) :
    TokensOnly tasks₁ tasks₃ := by
  intro task request₃ hget
  obtain ⟨request₂, hget₂, heq₂⟩ := hsecond task request₃ hget
  obtain ⟨request₁, hget₁, heq₁⟩ := hfirst task request₂ hget₂
  refine ⟨request₁, hget₁, ?_⟩
  rw [heq₂, heq₁]

theorem tokens_only_cancel_token (tasks : Pool ServerRequest) (task : ℕ) :
    TokensOnly tasks (cancelToken tasks task) := by
  unfold cancelToken
  cases hget : tasks.get task with
  | none => exact tokens_only_refl tasks
  | some request =>
    intro other request' hother
    rw [Pool.get_become_eq_ite] at hother
    split at hother
    next heq =>
      cases hother
      exact ⟨request, heq ▸ hget, rfl⟩
    next => exact ⟨request', hother, rfl⟩

theorem tokens_only_foldl (numbers : List ℕ) (tasks : Pool ServerRequest) :
    TokensOnly tasks (numbers.foldl cancelToken tasks) := by
  induction numbers generalizing tasks with
  | nil => exact tokens_only_refl tasks
  | cons task rest ih => exact (tokens_only_cancel_token tasks task).trans (ih _)

namespace Loop

variable {s : Loop}

structure KeepsChannel (s s' : Loop) : Prop where
  commands : s'.commands = s.commands
  submitted : s'.submitted = s.submitted
  live : s.phase ≠ .closed → s'.phase ≠ .closed

/-- Of the requests of the server at most tokens are cancelled, and that only when the loop is
left. -/
structure Keeps (s s' : Loop) : Prop extends KeepsChannel s s' where
  running : s'.phase = .running → s.phase = .running ∧ s'.tasks = s.tasks ∧
    s'.pendingServerRequests = s.pendingServerRequests
  tokens : TokensOnly s.tasks s'.tasks

theorem Keeps.of_eq {s' : Loop} (hphase : s'.phase = s.phase) (hcommands : s'.commands = s.commands)
    (hsubmitted : s'.submitted = s.submitted) (htasks : s'.tasks = s.tasks)
    (hservers : s'.pendingServerRequests = s.pendingServerRequests) : Keeps s s' where
  commands := hcommands
  submitted := hsubmitted
  live hlive := hphase ▸ hlive
  running hrunning := ⟨hphase ▸ hrunning, htasks, hservers⟩
  tokens := htasks ▸ tokens_only_refl s.tasks

theorem Keeps.trans {s₁ s₂ s₃ : Loop} (hfirst : Keeps s₁ s₂) (hsecond : Keeps s₂ s₃) :
    Keeps s₁ s₃ where
  commands := hsecond.commands.trans hfirst.commands
  submitted := hsecond.submitted.trans hfirst.submitted
  live hlive := hsecond.live (hfirst.live hlive)
  running hrunning := by
    obtain ⟨hmiddle, htasks, hservers⟩ := hsecond.running hrunning
    obtain ⟨hstart, htasks', hservers'⟩ := hfirst.running hmiddle
    exact ⟨hstart, htasks.trans htasks', hservers.trans hservers'⟩
  tokens := hfirst.tokens.trans hsecond.tokens

theorem keeps_stop : Keeps s s.stop where
  commands := rfl
  submitted := rfl
  live _ hclosed := nomatch hclosed
  running hrunning := nomatch hrunning
  tokens := tokens_only_foldl s.pendingServerRequests.values s.tasks

theorem keeps_stop_after (failure : String) : Keeps s (s.stopAfter failure) := by
  have hfailed : Keeps s (s.failAllPending ("Transport error: " ++ failure)) :=
    .of_eq rfl rfl rfl rfl rfl
  exact hfailed.trans keeps_stop

theorem keeps_insert_pending (id : RequestId) (pending : PendingRequest) :
    Keeps s (s.insertPending id pending) := by
  unfold insertPending
  split
  next => exact .of_eq rfl rfl rfl rfl rfl
  next => exact .of_eq rfl rfl rfl rfl rfl

theorem keeps_start_request (id : RequestId) (pending : PendingRequest)
    (sent : Except String Unit) : Keeps s (s.startRequest id pending sent) := by
  have hinsert := keeps_insert_pending (s := s) id pending
  cases sent with
  | ok _ => exact hinsert
  | error failure => exact hinsert.trans (keeps_stop_after failure)

theorem keeps_handle_subscription (notification : ServerNotification) :
    Keeps s (s.handleSubscription notification) := by
  have hsame : Keeps s s := .of_eq rfl rfl rfl rfl rfl
  unfold handleSubscription
  cases notification with
  | plain method params => exact .of_eq rfl rfl rfl rfl rfl
  | subscriptionAcknowledged id filter =>
    dsimp only
    split
    next => exact hsame
    next =>
      split
      next => exact hsame
      next =>
        split
        next => exact .of_eq rfl rfl rfl rfl rfl
        next => exact hsame
  | subscription id method params =>
    dsimp only
    split
    next => exact hsame
    next =>
      split
      next => exact hsame
      next =>
        split
        next => exact .of_eq rfl rfl rfl rfl rfl
        next => exact .of_eq rfl rfl rfl rfl rfl
  | subscriptionCancelled id reason =>
    dsimp only
    split
    next => exact hsame
    next =>
      split
      next => exact hsame
      next => exact .of_eq rfl rfl rfl rfl rfl

theorem keeps_handle_response (parsed : Json) : Keeps s (s.handleResponse parsed) := by
  have hsame : Keeps s s := .of_eq rfl rfl rfl rfl rfl
  unfold handleResponse
  split
  next => exact hsame
  next =>
    split
    next => exact hsame
    next => exact .of_eq rfl rfl rfl rfl rfl

theorem keeps_channel_handle_incoming (line : Option Json) :
    KeepsChannel s (s.handleIncoming line) := by
  have hsame : KeepsChannel s s := ⟨rfl, rfl, fun hlive => hlive⟩
  unfold handleIncoming
  cases line with
  | none => exact hsame
  | some parsed =>
    dsimp only
    split
    next =>
      split
      next => exact ⟨rfl, rfl, fun hlive => hlive⟩
      next => exact (keeps_handle_response parsed).toKeepsChannel
    next =>
      split
      next => exact ⟨rfl, rfl, fun hlive => hlive⟩
      next =>
        split
        next notification _ =>
          unfold handleNotification
          split
          next id reason _ =>
            have hkept := keeps_handle_subscription (s := s.noteCancellation id)
              (.subscriptionCancelled id reason)
            split
            next => exact ⟨rfl, rfl, fun hlive => hlive⟩
            next => exact ⟨hkept.commands, hkept.submitted, hkept.live⟩
          next => exact (keeps_handle_subscription _).toKeepsChannel
        next => exact hsame

theorem keeps_handle_command (own : ℕ) (command : LoopCommand) (encoded sent : Except String Unit)
    (resolved : Except Error Json) :
    Keeps s (s.handleCommand own command encoded sent resolved) := by
  have hgiven : ∀ outcome, Keeps s (s.give own outcome) :=
    fun _ => .of_eq rfl rfl rfl rfl rfl
  unfold handleCommand
  cases command with
  | request id method params =>
    cases encoded with
    | error failure => exact hgiven _
    | ok _ => exact keeps_start_request _ _ _
  | startSubscription params =>
    cases encoded with
    | error failure => exact .of_eq rfl rfl rfl rfl rfl
    | ok _ =>
      have hopened : Keeps s ({ s with nextId := s.nextId + 1 }.note
          (.opened own (.number s.nextId.toInt))) := .of_eq rfl rfl rfl rfl rfl
      exact hopened.trans (keeps_start_request _ _ _)
  | cancelRequest id =>
    dsimp only
    split
    next => exact hgiven _
    next pending _ =>
      cases sent with
      | ok _ => exact .of_eq rfl rfl rfl rfl rfl
      | error failure =>
        have hremoved : Keeps s (s.removePending id) := .of_eq rfl rfl rfl rfl rfl
        have hkept := hremoved.trans (keeps_insert_pending id pending)
        exact hkept.trans (.of_eq rfl rfl rfl rfl rfl)
  | notify method params =>
    cases encoded with
    | error failure => exact hgiven _
    | ok _ =>
      cases sent with
      | error failure => exact hgiven _
      | ok _ => exact hgiven _
  | resolveInputs requests => exact hgiven _
  | resetSession => exact .of_eq rfl rfl rfl rfl rfl
  | endSession => exact hgiven _
  | shutdown => exact (hgiven _).trans keeps_stop

theorem keeps_channel_relay (task : ℕ) (request : ServerRequest) (response : Option Json)
    (sent : Except String Unit) : KeepsChannel s (s.relay task request response sent) := by
  unfold Loop.relay
  dsimp only
  split
  next =>
    refine ⟨rfl, rfl, fun _ hclosed => ?_⟩
    cases hclosed
  next => exact ⟨rfl, rfl, fun hlive => hlive⟩

end Loop

end MessageLoop

end TowerMcp
