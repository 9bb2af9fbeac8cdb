import TowerMcp.Tool.OutputChecks

/-!
# Retries of a tool call

One `call_tool` or `call_tool_once` of the client, with the server that runs the tool. The client
sends a round again in two cases: after an error that a stale tool schema can cause, once it has
listed the tools again, and after the expiry of its session, once it has recovered it. Whether the
handler has been started is not known to it.
-/

namespace TowerMcp

open Execution Pool

def Error.intoJsonRpcError : Error → JsonRpcError
  | .jsonRpc error => error
  | other => .internalError other.display

namespace ToolRetries

open ToolValidation (RequestOutcome)

/-! ## Errors -/

/-- The code of `McpErrorCode::HeaderMismatch`. -/
def headerMismatchCode : ℤ := -32020

/-- The code of `McpErrorCode::SessionNotFound`. -/
def sessionNotFoundCode : ℤ := -32005

def isStaleToolSchemaError : Error → Bool
  | .jsonRpc error =>
    error.code == headerMismatchCode || error.code == ErrorCode.methodNotFound.code ||
      error.code == ErrorCode.invalidParams.code
  | _ => false

def readError (error : JsonRpcError) : Error :=
  if error.code = sessionNotFoundCode then .sessionExpired else .jsonRpc error

/-! ## The server -/

structure RoundInput where
  inputResponses : Option InputResponses := none
  requestState : Option String := none

inductive ToolResponse where
  | callTool (result : CallToolResult)
  | inputRequired (required : InputRequiredResult)
  | createTask (taskId : String)

/-- What a started call comes to: the outcome of its handler, or for a task what the router makes of
the task it has created. -/
inductive Invocation where
  | synchronous (outcome : Except Error RequestOutcome)
  | task (created : Except Error String)

def Invocation.response (params : InputParams) (lifecycle : Option RequestLifecycle) :
    Invocation → Except Error ToolResponse
  | .synchronous (.error error) => .error error
  | .synchronous (.ok (.complete result)) => .ok (.callTool result)
  | .synchronous (.ok (.inputRequired required)) =>
    (validateInputRequiredResult params lifecycle required).map fun _ => .inputRequired required
  | .task created => created.map .createTask

abbrev Reply := Except JsonRpcError ToolResponse

inductive Progress where
  | inFlight
  | refused (error : JsonRpcError)
  | running
  | answered (reply : Reply)

/-- A request that was sent: its round, its continuation values, and what it says of its
lifecycle. -/
structure Attempt where
  round : ℕ
  input : RoundInput
  lifecycle : Option RequestLifecycle
  progress : Progress := .inFlight

namespace Attempt

variable (attempt : Attempt)

def isInFlight : Bool :=
  match attempt.progress with
  | .inFlight => true
  | _ => false

def isRunning : Bool :=
  match attempt.progress with
  | .running => true
  | _ => false

def started : Bool :=
  match attempt.progress with
  | .running | .answered _ => true
  | _ => false

def reply : Option Reply :=
  match attempt.progress with
  | .refused error => some (.error error)
  | .answered reply => some reply
  | _ => none

end Attempt

/-! ## The client -/

inductive Outcome where
  | complete (result : CallToolResult)
  | task (taskId : String)
  | inputRequired (required : InputRequiredResult)

inductive ToolCall where
  | callTool
  | callToolOnce (input : RoundInput)

structure Setting where
  capabilities : InputCapabilities := {}
  supportsSessionRecovery : Bool := true
  maxMrtrRounds : ℕ := 10
  call : ToolCall := .callTool
  decode : ToolResponse → Except String Outcome
  inputParams : InputParams

/-- The point the call is at. `again` is the request that is sent again, and `recovered` says that
it is so for a recovered session. -/
inductive Point where
  | sending (again : Option ℕ) (recovered : Bool)
  | waiting (ticket : ℕ) (recoverable : Bool)
  | recovering (ticket : ℕ)
  | refreshing (ticket : ℕ) (error : Error)
  | resolving (requests : InputRequests) (requestState : Option String)
  | followingTask (taskId : String)
  | returned (result : Except Error Outcome)

/-- The call with the requests it has sent. `final` says that the 2026-07-28 lifecycle has been
selected; `resent` records the requests that were sent again. -/
structure World where
  final : Bool
  point : Point := .sending none false
  retryAvailable : Bool
  round : ℕ := 0
  input : RoundInput
  attempts : Pool Attempt := {}
  resent : List ℕ := []

namespace Setting

variable (setting : Setting)

def start (final : Bool) : World where
  final := final
  retryAvailable := final
  input :=
    match setting.call with
    | .callTool => {}
    | .callToolOnce input => input

def lifecycle (final : Bool) : Option RequestLifecycle :=
  if final then
    some
      { protocolVersion := some protocolVersion20260728
        clientCapabilities := some setting.capabilities }
  else none

/-- What `send_request_once` returns for a response. -/
def read : Reply → Except Error Outcome
  | .error error => .error (readError error)
  | .ok response =>
    match setting.decode response with
    | .error message => .error (.transport ("Failed to deserialize response: " ++ message))
    | .ok outcome => .ok outcome

def declares : InputRequest → Bool
  | .createMessage _ => setting.capabilities.sampling.isSome
  | .listRoots _ => setting.capabilities.roots
  | .elicit _ => setting.capabilities.elicitation.isSome

def resolveInputRequests (final : Bool) (requests : InputRequests)
    (answers : Except Error InputResponses) : Except Error InputResponses :=
  if !final then
    .error (.transport "input_required results require the 2026-07-28 client lifecycle")
  else
    match requests.sortedPairs.find? fun request => !setting.declares request.2 with
    | some request => .error (.transport
        ("server requested undeclared MRTR input capability: " ++ request.2.methodName))
    | none => answers

end Setting

namespace World

variable (world : World)

def finish (result : Except Error Outcome) : World :=
  { world with point := .returned result }

def send (setting : Setting) (again : Option ℕ) (recovered : Bool) : World :=
  { world with
    point := .waiting world.attempts.next
      (!recovered && setting.supportsSessionRecovery && !world.final)
    attempts := world.attempts.start
      { round := world.round, input := world.input, lifecycle := setting.lifecycle world.final }
    resent := again.toList ++ world.resent }

def serve (ticket : ℕ) (attempt : Attempt) (progress : Progress) : World :=
  { world with attempts := world.attempts.become ticket { attempt with progress := progress } }

def follow (setting : Setting) : Outcome → World
  | .complete result => world.finish (.ok (.complete result))
  | .task taskId =>
    match setting.call with
    | .callTool => { world with point := .followingTask taskId }
    | .callToolOnce _ => world.finish (.error (.transport
        ("tools/call returned task '" ++ taskId ++
          "'; use call_tool_once_task_aware for direct task lifecycle control")))
  | .inputRequired required =>
    match setting.call with
    | .callToolOnce _ => world.finish (.ok (.inputRequired required))
    | .callTool =>
      if world.round = setting.maxMrtrRounds then
        world.finish (.error (.transport
          ("MRTR round limit (" ++ toString setting.maxMrtrRounds ++
            ") exceeded for tools/call")))
      else
        match required.inputRequests with
        | none => world.finish (.error (.transport
            "input_required result has no requests the client can fulfil"))
        | some requests =>
          { world with point := .resolving requests required.requestState }

def receive (setting : Setting) (ticket : ℕ) (recoverable : Bool) :
    Except Error Outcome → World
  | .error error =>
    if error = .sessionExpired ∧ recoverable = true then
      { world with point := .recovering ticket }
    else if world.retryAvailable && isStaleToolSchemaError error then
      { world with point := .refreshing ticket error, retryAvailable := false }
    else world.finish (.error error)
  | .ok outcome => world.follow setting outcome

def nextRound (responses : InputResponses) (requestState : Option String) : World :=
  { world with
    point := .sending none false
    round := world.round + 1
    input := { inputResponses := some responses, requestState := requestState } }

end World

/-! ## Runs -/

/-- What happens next. A request is refused before its handler, by whatever stands in front of it;
`expire` stands for every signal that fails the pending requests of a session, and `fail` for
everything else that ends the call. -/
inductive Event where
  | discovered
  | send
  | refuse (ticket : ℕ) (error : JsonRpcError)
  | start (ticket : ℕ)
  | finish (ticket : ℕ) (invocation : Invocation)
  | deliver
  | expire
  | recovered (result : Except Error Unit)
  | refreshed (result : Except Error Unit)
  | resolved (answers : Except Error InputResponses)
  | fail (error : Error)

def answer (setting : Setting) (attempt : Attempt) (invocation : Invocation) : Reply :=
  (invocation.response setting.inputParams attempt.lifecycle).mapError Error.intoJsonRpcError

def step (setting : Setting) (world : World) : Event → Option World
  | .discovered => some { world with final := true }
  | .send =>
    match world.point with
    | .sending again recovered => some (world.send setting again recovered)
    | _ => none
  | .refuse ticket error =>
    (world.attempts.get ticket).bind fun attempt =>
      if attempt.isInFlight then some (world.serve ticket attempt (.refused error)) else none
  | .start ticket =>
    (world.attempts.get ticket).bind fun attempt =>
      if attempt.isInFlight then some (world.serve ticket attempt .running) else none
  | .finish ticket invocation =>
    (world.attempts.get ticket).bind fun attempt =>
      if attempt.isRunning then
        some (world.serve ticket attempt (.answered (answer setting attempt invocation)))
      else none
  | .deliver =>
    match world.point with
    | .waiting ticket recoverable =>
      ((world.attempts.get ticket).bind Attempt.reply).map fun reply =>
        world.receive setting ticket recoverable (setting.read reply)
    | _ => none
  | .expire =>
    match world.point with
    | .waiting ticket recoverable =>
      some (world.receive setting ticket recoverable (.error .sessionExpired))
    | _ => none
  | .recovered result =>
    match world.point with
    | .recovering ticket =>
      match result with
      | .ok _ => some { world with point := .sending (some ticket) true }
      | .error error => some (world.finish (.error error))
    | _ => none
  | .refreshed result =>
    match world.point with
    | .refreshing ticket error =>
      match result with
      | .ok _ => some { world with point := .sending (some ticket) false }
      | .error _ => some (world.finish (.error error))
    | _ => none
  | .resolved answers =>
    match world.point with
    | .resolving requests requestState =>
      match setting.resolveInputRequests world.final requests answers with
      | .ok responses => some (world.nextRound responses requestState)
      | .error error => some (world.finish (.error error))
    | _ => none
  | .fail error =>
    match world.point with
    | .returned _ => none
    | _ => some (world.finish (.error error))

/-! ## What holds in a run -/

def Point.ticket : Point → Option ℕ
  | .sending again _ => again
  | .waiting ticket _ | .recovering ticket | .refreshing ticket _ => some ticket
  | _ => none

def Point.retries : Point → Option ℕ
  | .sending again _ => again
  | .recovering ticket | .refreshing ticket _ => some ticket
  | _ => none

def Point.isOpen : Point → Bool
  | .sending _ _ | .waiting _ _ | .recovering _ | .refreshing _ _ => true
  | _ => false

def World.retriesOn (world : World) (recoverable : Bool) : Except Error Outcome → Bool
  | .error error =>
    (decide (error = .sessionExpired) && recoverable) ||
      (world.retryAvailable && isStaleToolSchemaError error)
  | .ok _ => false

def World.OneRoundEach (world : World) : Prop :=
  ∀ i j first second, world.attempts.get i = some first → world.attempts.get j = some second →
    first.input = second.input → first.round = second.round

/-- The handler is started once in a round at most, and so once for each pair of continuation values
that belongs to one round. It is started for no request that was sent again. -/
structure StartsOnce (world : World) : Prop where
  perRound : ∀ i j first second, world.attempts.get i = some first →
    world.attempts.get j = some second → first.started = true → second.started = true →
      first.round = second.round → i = j
  perInput : world.OneRoundEach → ∀ i j first second, world.attempts.get i = some first →
    world.attempts.get j = some second → first.started = true → second.started = true →
      first.input = second.input → i = j
  spared : ∀ ticket ∈ world.resent, ∀ attempt, world.attempts.get ticket = some attempt →
    attempt.started = false

/-- The condition on an event. The server starts no request that the client has given up to send it
again; a call that was started does not come to an error for which the client, which waits for it,
sends it again; and the session of a started request does not expire while the client waits and
would recover it. -/
def Meets (setting : Setting) (world : World) : Event → Prop
  | .start ticket => ticket ∉ world.resent ∧ world.point.retries ≠ some ticket
  | .finish ticket invocation =>
    ∀ recoverable attempt, world.point = .waiting ticket recoverable →
      world.attempts.get ticket = some attempt →
        world.retriesOn recoverable (setting.read (answer setting attempt invocation)) = false
  | .expire =>
    ∀ ticket attempt, world.point = .waiting ticket true →
      world.attempts.get ticket = some attempt → attempt.started = false
  | _ => True

/-- The invariant of a run whose steps meet the condition. In each round one request at most has not
been sent again, and it is the one the point is about. -/
structure Sound (setting : Setting) (world : World) : Prop where
  unique : ∀ i j first second, world.attempts.get i = some first →
    world.attempts.get j = some second → i ∉ world.resent → j ∉ world.resent →
      first.round = second.round → i = j
  bounded : ∀ ticket attempt, world.attempts.get ticket = some attempt →
    attempt.round ≤ world.round
  covered : world.point.isOpen = true → ∀ ticket attempt, world.attempts.get ticket = some attempt →
    attempt.round = world.round → ticket ∈ world.resent ∨ world.point.ticket = some ticket
  spared : ∀ ticket ∈ world.resent, ∀ attempt, world.attempts.get ticket = some attempt →
    attempt.started = false
  unstarted : ∀ ticket, world.point.retries = some ticket → ∀ attempt,
    world.attempts.get ticket = some attempt → attempt.started = false
  kept : ∀ ticket recoverable attempt reply, world.point = .waiting ticket recoverable →
    world.attempts.get ticket = some attempt → attempt.started = true →
      attempt.reply = some reply → world.retriesOn recoverable (setting.read reply) = false

section Steps

variable {setting : Setting} {world next : World}

theorem Sound.starts_once (h : Sound setting world) : StartsOnce world := by
  have hperRound : ∀ i j first second, world.attempts.get i = some first →
      world.attempts.get j = some second → first.started = true → second.started = true →
        first.round = second.round → i = j := by
    intro i j first second hi hj hfirst hsecond hround
    have hleft : i ∉ world.resent := by
      intro hmem
      simp [h.spared i hmem first hi] at hfirst
    have hright : j ∉ world.resent := by
      intro hmem
      simp [h.spared j hmem second hj] at hsecond
    exact h.unique i j first second hi hj hleft hright hround
  refine ⟨hperRound, ?_, h.spared⟩
  intro heach i j first second hi hj hfirst hsecond hinput
  exact hperRound i j first second hi hj hfirst hsecond (heach i j first second hi hj hinput)

theorem sound_start (setting : Setting) (final : Bool) :
    Sound setting (setting.start final) := by
  constructor <;> simp [Setting.start, Pool.get, Point.retries]

theorem Sound.rest (h : Sound setting world) {point : Point} (hopen : point.isOpen = false)
    (hretries : point.retries = none) : Sound setting { world with point := point } where
  unique := h.unique
  bounded := h.bounded
  covered hpoint := by simp [hopen] at hpoint
  spared := h.spared
  unstarted ticket hticket := by simp [hretries] at hticket
  kept ticket recoverable attempt reply hpoint := by
    obtain rfl : point = _ := hpoint
    simp [Point.isOpen] at hopen

theorem Sound.finish (h : Sound setting world) (result : Except Error Outcome) :
    Sound setting (world.finish result) :=
  h.rest rfl rfl

variable {ticket : ℕ}

theorem Sound.retry (h : Sound setting world) {recoverable : Bool}
    (hpoint : world.point = .waiting ticket recoverable)
    (hunstarted : ∀ attempt, world.attempts.get ticket = some attempt → attempt.started = false)
    {point : Point} (hticket : point.ticket = some ticket) (hretries : point.retries = some ticket)
    (available : Bool) :
    Sound setting { world with point := point, retryAvailable := available } where
  unique := h.unique
  bounded := h.bounded
  covered _ other attempt hget hround := by
    have hcovered := h.covered (by simp [hpoint, Point.isOpen]) other attempt hget hround
    rw [hpoint] at hcovered
    exact hcovered.imp_right hticket.trans
  spared := h.spared
  unstarted other hother := by
    obtain rfl : ticket = other := Option.some.inj (hretries.symm.trans hother)
    exact hunstarted
  kept other recoverable attempt reply hwaiting := by
    obtain rfl : point = _ := hwaiting
    simp [Point.retries] at hretries

theorem Sound.follow (h : Sound setting world) (outcome : Outcome) :
    Sound setting (world.follow setting outcome) := by
  unfold World.follow
  cases outcome with
  | complete result => exact h.finish _
  | task taskId =>
    cases setting.call with
    | callTool => exact h.rest rfl rfl
    | callToolOnce input => exact h.finish _
  | inputRequired required =>
    cases setting.call with
    | callToolOnce input => exact h.finish _
    | callTool =>
      dsimp only
      split
      · exact h.finish _
      · cases required.inputRequests with
        | none => exact h.finish _
        | some requests => exact h.rest rfl rfl

theorem Sound.receive (h : Sound setting world) {recoverable : Bool} {result : Except Error Outcome}
    (hpoint : world.point = .waiting ticket recoverable)
    (hunstarted : world.retriesOn recoverable result = true → ∀ attempt,
      world.attempts.get ticket = some attempt → attempt.started = false) :
    Sound setting (world.receive setting ticket recoverable result) := by
  unfold World.receive
  cases result with
  | ok outcome => exact h.follow outcome
  | error error =>
    dsimp only
    split
    next hexpired =>
      refine h.retry hpoint (hunstarted ?_) rfl rfl _
      simp [World.retriesOn, hexpired]
    next hkept =>
      split
      next hstale =>
        refine h.retry hpoint (hunstarted ?_) rfl rfl _
        simp only [World.retriesOn, hstale, Bool.or_true]
      next => exact h.finish _

theorem Sound.serve (h : Sound setting world) {attempt : Attempt} {progress : Progress}
    (hget : world.attempts.get ticket = some attempt)
    (hspared : { attempt with progress := progress }.started = true →
      attempt.started = true ∨ ticket ∉ world.resent ∧ world.point.retries ≠ some ticket)
    (hkept : ∀ recoverable reply, world.point = .waiting ticket recoverable →
      { attempt with progress := progress }.started = true →
        { attempt with progress := progress }.reply = some reply →
          world.retriesOn recoverable (setting.read reply) = false) :
    Sound setting (world.serve ticket attempt progress) := by
  have hcases : ∀ other moved, (world.serve ticket attempt progress).attempts.get other =
      some moved → (other = ticket ∧ moved = { attempt with progress := progress }) ∨
        world.attempts.get other = some moved := by
    intro other moved hmoved
    simp only [World.serve, get_become_eq_ite] at hmoved
    split at hmoved
    next heq => exact .inl ⟨heq, (Option.some.inj hmoved).symm⟩
    next => exact .inr hmoved
  have hround : ∀ other moved, (world.serve ticket attempt progress).attempts.get other =
      some moved → ∃ old, world.attempts.get other = some old ∧ old.round = moved.round := by
    intro other moved hmoved
    rcases hcases other moved hmoved with ⟨rfl, rfl⟩ | hold
    · exact ⟨attempt, hget, rfl⟩
    · exact ⟨moved, hold, rfl⟩
  constructor
  · intro i j first second hi hj hleft hright heq
    obtain ⟨old, hold, hfirst⟩ := hround i first hi
    obtain ⟨other, hother, hsecond⟩ := hround j second hj
    exact h.unique i j old other hold hother hleft hright (hfirst.trans (heq.trans hsecond.symm))
  · intro other moved hmoved
    obtain ⟨old, hold, heq⟩ := hround other moved hmoved
    exact heq ▸ h.bounded other old hold
  · intro hopen other moved hmoved heq
    obtain ⟨old, hold, hsame⟩ := hround other moved hmoved
    exact h.covered hopen other old hold (hsame.trans heq)
  · intro other hmem moved hmoved
    rcases hcases other moved hmoved with ⟨rfl, rfl⟩ | hold
    · refine Bool.eq_false_iff.2 fun hstarted => ?_
      rcases hspared hstarted with hwas | ⟨hnot, -⟩
      · simp [h.spared other hmem attempt hget] at hwas
      · exact hnot hmem
    · exact h.spared other hmem moved hold
  · intro other hretries moved hmoved
    rcases hcases other moved hmoved with ⟨rfl, rfl⟩ | hold
    · refine Bool.eq_false_iff.2 fun hstarted => ?_
      rcases hspared hstarted with hwas | ⟨-, hnot⟩
      · simp [h.unstarted other hretries attempt hget] at hwas
      · exact hnot hretries
    · exact h.unstarted other hretries moved hold
  · intro other recoverable moved reply hpoint hmoved hstarted hreply
    rcases hcases other moved hmoved with ⟨rfl, rfl⟩ | hold
    · exact hkept recoverable reply hpoint hstarted hreply
    · exact h.kept other recoverable moved reply hpoint hold hstarted hreply

theorem Sound.send (h : Sound setting world) {again : Option ℕ} {recovered : Bool}
    (hpoint : world.point = .sending again recovered) :
    Sound setting (world.send setting again recovered) := by
  have hcases : ∀ other moved, (world.send setting again recovered).attempts.get other =
      some moved → (other = world.attempts.next ∧ moved.round = world.round ∧
        moved.progress = .inFlight) ∨ world.attempts.get other = some moved := by
    intro other moved hmoved
    simp only [World.send, get_start_eq_ite] at hmoved
    split at hmoved
    next heq =>
      cases hmoved
      exact .inl ⟨heq, rfl, rfl⟩
    next => exact .inr hmoved
  have hresent : ∀ other, other ∈ (world.send setting again recovered).resent ↔
      again = some other ∨ other ∈ world.resent := by
    intro other
    simp [World.send, Option.mem_toList]
  -- every other request of the round has been sent again by now
  have hcovered : ∀ other moved, world.attempts.get other = some moved →
      moved.round = world.round → other ∈ (world.send setting again recovered).resent := by
    intro other moved hmoved hround
    have hold := h.covered (by simp [hpoint, Point.isOpen]) other moved hmoved hround
    rw [hresent]
    simpa [hpoint, Point.ticket, or_comm] using hold
  constructor
  · intro i j first second hi hj hleft hright hround
    rcases hcases i first hi with ⟨rfl, hfirst, -⟩ | hfirst
    · rcases hcases j second hj with ⟨rfl, -, -⟩ | hsecond
      · rfl
      · exact absurd (hcovered j second hsecond (hround ▸ hfirst)) hright
    · rcases hcases j second hj with ⟨rfl, hsecond, -⟩ | hsecond
      · exact absurd (hcovered i first hfirst (hround.trans hsecond)) hleft
      · rw [hresent, not_or] at hleft hright
        exact h.unique i j first second hfirst hsecond hleft.2 hright.2 hround
  · intro other moved hmoved
    rcases hcases other moved hmoved with ⟨-, hround, -⟩ | hold
    · exact hround.le
    · exact h.bounded other moved hold
  · intro _ other moved hmoved hround
    rcases hcases other moved hmoved with ⟨rfl, -, -⟩ | hold
    · exact .inr rfl
    · exact .inl (hcovered other moved hold hround)
  · intro other hmem moved hmoved
    rcases hcases other moved hmoved with ⟨-, -, hprogress⟩ | hold
    · simp [Attempt.started, hprogress]
    · rcases (hresent other).1 hmem with hagain | hmem
      · exact h.unstarted other (by simp [hpoint, Point.retries, hagain]) moved hold
      · exact h.spared other hmem moved hold
  · intro other hretries
    simp [World.send, Point.retries] at hretries
  · intro other recoverable moved reply hwaiting hmoved hstarted
    obtain ⟨rfl, -⟩ : world.attempts.next = other ∧ _ := by
      simpa [World.send] using hwaiting
    simp only [World.send, get_start_self] at hmoved
    cases hmoved
    simp [Attempt.started] at hstarted

theorem Sound.again (h : Sound setting world) (hopen : world.point.isOpen = true)
    (hticket : world.point.ticket = some ticket) (hretries : world.point.retries = some ticket)
    (recovered : Bool) :
    Sound setting { world with point := .sending (some ticket) recovered } where
  unique := h.unique
  bounded := h.bounded
  covered _ other attempt hget hround :=
    (h.covered hopen other attempt hget hround).imp_right hticket.symm.trans
  spared := h.spared
  unstarted other hother := h.unstarted other (hretries.trans hother)
  kept _ _ _ _ hpoint := nomatch hpoint

theorem Sound.next_round (h : Sound setting world) (responses : InputResponses)
    (requestState : Option String) : Sound setting (world.nextRound responses requestState) where
  unique := h.unique
  bounded ticket attempt hget := (h.bounded ticket attempt hget).trans (Nat.le_succ _)
  covered _ ticket attempt hget hround := by
    have hbound := h.bounded ticket attempt hget
    simp only [World.nextRound] at hround
    omega
  spared := h.spared
  unstarted ticket hretries := by simp [World.nextRound, Point.retries] at hretries
  kept ticket recoverable attempt reply hpoint := by simp [World.nextRound] at hpoint

theorem sound_step {event : Event} (h : Sound setting world) (hmeets : Meets setting world event)
    (hstep : step setting world event = some next) : Sound setting next := by
  cases event with
  | discovered =>
    cases hstep
    exact ⟨h.unique, h.bounded, h.covered, h.spared, h.unstarted, h.kept⟩
  | send =>
    cases hpoint : world.point with
    | sending again recovered =>
      simp only [step, hpoint, Option.some.injEq] at hstep
      obtain rfl := hstep
      exact h.send hpoint
    | _ => simp [step, hpoint] at hstep
  | refuse ticket error =>
    obtain ⟨attempt, hget, hstep⟩ := Option.bind_eq_some_iff.1 hstep
    obtain ⟨-, hstep⟩ := Option.ite_none_right_eq_some.1 hstep
    cases hstep
    exact h.serve hget (fun hstarted => by cases hstarted)
      (fun _ _ _ hstarted => by cases hstarted)
  | start ticket =>
    obtain ⟨attempt, hget, hstep⟩ := Option.bind_eq_some_iff.1 hstep
    obtain ⟨-, hstep⟩ := Option.ite_none_right_eq_some.1 hstep
    cases hstep
    exact h.serve hget (fun _ => .inr hmeets) (fun _ _ _ _ hreply => by cases hreply)
  | finish ticket invocation =>
    obtain ⟨attempt, hget, hstep⟩ := Option.bind_eq_some_iff.1 hstep
    obtain ⟨hrunning, hstep⟩ := Option.ite_none_right_eq_some.1 hstep
    cases hstep
    refine h.serve hget (fun _ => .inl ?_) ?_
    · unfold Attempt.isRunning at hrunning
      unfold Attempt.started
      split at hrunning <;> simp_all
    · intro recoverable reply hpoint _ hreply
      obtain rfl : answer setting attempt invocation = reply := Option.some.inj hreply
      exact hmeets recoverable attempt hpoint hget
  | deliver =>
    cases hpoint : world.point with
    | waiting ticket recoverable =>
      simp only [step, hpoint, Option.map_eq_some_iff, Option.bind_eq_some_iff] at hstep
      obtain ⟨reply, ⟨attempt, hget, hreply⟩, rfl⟩ := hstep
      refine h.receive hpoint fun hretried other hother => ?_
      obtain rfl := Option.some.inj (hget.symm.trans hother)
      refine Bool.eq_false_iff.2 fun hstarted => ?_
      simp [h.kept ticket recoverable attempt reply hpoint hget hstarted hreply] at hretried
    | _ => simp [step, hpoint] at hstep
  | expire =>
    cases hpoint : world.point with
    | waiting ticket recoverable =>
      simp only [step, hpoint, Option.some.injEq] at hstep
      obtain rfl := hstep
      refine h.receive hpoint fun hretried other hother => ?_
      obtain rfl : recoverable = true := by
        simpa [World.retriesOn, isStaleToolSchemaError] using hretried
      exact hmeets ticket other hpoint hother
    | _ => simp [step, hpoint] at hstep
  | recovered result =>
    cases hpoint : world.point with
    | recovering ticket =>
      cases result with
      | ok done =>
        simp only [step, hpoint, Option.some.injEq] at hstep
        obtain rfl := hstep
        exact h.again (by rw [hpoint]; rfl) (by rw [hpoint]; rfl) (by rw [hpoint]; rfl) true
      | error error =>
        simp only [step, hpoint, Option.some.injEq] at hstep
        exact hstep ▸ h.finish _
    | _ => simp [step, hpoint] at hstep
  | refreshed result =>
    cases hpoint : world.point with
    | refreshing ticket error =>
      cases result with
      | ok done =>
        simp only [step, hpoint, Option.some.injEq] at hstep
        obtain rfl := hstep
        exact h.again (by rw [hpoint]; rfl) (by rw [hpoint]; rfl) (by rw [hpoint]; rfl) false
      | error failure =>
        simp only [step, hpoint, Option.some.injEq] at hstep
        exact hstep ▸ h.finish _
    | _ => simp [step, hpoint] at hstep
  | resolved answers =>
    cases hpoint : world.point with
    | resolving requests requestState =>
      simp only [step, hpoint] at hstep
      split at hstep
      next => exact Option.some.inj hstep ▸ h.next_round _ requestState
      next => exact Option.some.inj hstep ▸ h.finish _
    | _ => simp [step, hpoint] at hstep
  | fail error =>
    simp only [step] at hstep
    split at hstep
    next => cases hstep
    next => exact Option.some.inj hstep ▸ h.finish _

end Steps

/-! ## What breaks it -/

section Breaks

variable {setting : Setting} {world next : World}

variable {event : Event}

theorem numbered_step (h : world.attempts.Numbered) (hstep : step setting world event = some next) :
    next.attempts.Numbered := by
  have hreceive : ∀ ticket recoverable result,
      (world.receive setting ticket recoverable result).attempts = world.attempts := by
    intro ticket recoverable result
    unfold World.receive World.follow
    split
    · split
      · rfl
      · split <;> rfl
    · split
      · rfl
      · split <;> rfl
      · split
        · rfl
        · split
          · rfl
          · split <;> rfl
  cases event with
  | discovered => exact Option.some.inj hstep ▸ h
  | send =>
    simp only [step] at hstep
    split at hstep
    next => exact Option.some.inj hstep ▸ h.start _
    next => cases hstep
  | refuse ticket error =>
    obtain ⟨attempt, hget, hstep⟩ := Option.bind_eq_some_iff.1 hstep
    obtain ⟨-, hstep⟩ := Option.ite_none_right_eq_some.1 hstep
    exact Option.some.inj hstep ▸ h.become hget _
  | start ticket =>
    obtain ⟨attempt, hget, hstep⟩ := Option.bind_eq_some_iff.1 hstep
    obtain ⟨-, hstep⟩ := Option.ite_none_right_eq_some.1 hstep
    exact Option.some.inj hstep ▸ h.become hget _
  | finish ticket invocation =>
    obtain ⟨attempt, hget, hstep⟩ := Option.bind_eq_some_iff.1 hstep
    obtain ⟨-, hstep⟩ := Option.ite_none_right_eq_some.1 hstep
    exact Option.some.inj hstep ▸ h.become hget _
  | deliver =>
    simp only [step] at hstep
    split at hstep
    next ticket recoverable _ =>
      obtain ⟨reply, -, rfl⟩ := Option.map_eq_some_iff.1 hstep
      rwa [hreceive]
    next => cases hstep
  | expire =>
    simp only [step] at hstep
    split at hstep
    next ticket recoverable _ =>
      cases hstep
      rwa [hreceive]
    next => cases hstep
  | recovered result =>
    simp only [step] at hstep
    split at hstep
    next =>
      split at hstep <;> exact Option.some.inj hstep ▸ h
    next => cases hstep
  | refreshed result =>
    simp only [step] at hstep
    split at hstep
    next =>
      split at hstep <;> exact Option.some.inj hstep ▸ h
    next => cases hstep
  | resolved answers =>
    simp only [step] at hstep
    split at hstep
    next =>
      split at hstep <;> exact Option.some.inj hstep ▸ h
    next => cases hstep
  | fail error =>
    simp only [step] at hstep
    split at hstep
    next => cases hstep
    next => exact Option.some.inj hstep ▸ h

structure RetriesStarted (world : World) (ticket : ℕ) : Prop where
  retries : world.point.retries = some ticket
  started : ∃ attempt, world.attempts.get ticket = some attempt ∧ attempt.started = true
  sent : ticket < world.attempts.next

theorem not_throughout_cons {rest : List Event} (hstep : step setting world event = some next)
    (hnot : ¬ Throughout (step setting) StartsOnce next rest) :
    ¬ Throughout (step setting) StartsOnce world (event :: rest) := by
  rintro ⟨-, hafter⟩
  rw [hstep] at hafter
  exact hnot hafter

theorem RetriesStarted.breaks (setting : Setting) {ticket : ℕ}
    (h : RetriesStarted world ticket) :
    ∃ rest, ¬ Throughout (step setting) StartsOnce world rest := by
  obtain ⟨hretries, ⟨attempt, hget, hstarted⟩, hsent⟩ := h
  have hresent : ∀ recovered, ¬ Throughout (step setting) StartsOnce
      { world with point := .sending (some ticket) recovered } [.send] := by
    intro recovered
    refine not_throughout_cons rfl fun hafter => ?_
    have hspared := hafter.spared ticket (by simp [World.send]) attempt
    simp only [World.send, get_start_eq_ite, if_neg hsent.ne] at hspared
    exact Bool.noConfusion (hstarted.symm.trans (hspared hget))
  cases hpoint : world.point with
  | sending again recovered =>
    obtain rfl : again = some ticket := by simpa [hpoint, Point.retries] using hretries
    exact ⟨[.send], fun hafter => hresent recovered (by rwa [← hpoint])⟩
  | recovering other =>
    obtain rfl : other = ticket := by simpa [hpoint, Point.retries] using hretries
    exact ⟨[.recovered (.ok ()), .send],
      not_throughout_cons (by simp only [step, hpoint]) (hresent true)⟩
  | refreshing other error =>
    obtain rfl : other = ticket := by simpa [hpoint, Point.retries] using hretries
    exact ⟨[.refreshed (.ok ()), .send],
      not_throughout_cons (by simp only [step, hpoint]) (hresent false)⟩
  | _ => simp [hpoint, Point.retries] at hretries

theorem receive_retries (setting : Setting) (ticket : ℕ) {recoverable : Bool}
    {result : Except Error Outcome} (h : world.retriesOn recoverable result = true) :
    (world.receive setting ticket recoverable result).point.retries = some ticket ∧
      (world.receive setting ticket recoverable result).attempts = world.attempts := by
  cases result with
  | ok outcome => simp [World.retriesOn] at h
  | error error =>
    simp only [World.retriesOn, Bool.or_eq_true, Bool.and_eq_true, decide_eq_true_eq] at h
    unfold World.receive
    dsimp only
    split
    next => exact ⟨rfl, rfl⟩
    next hkept =>
      rw [if_pos (by simpa using h.resolve_left hkept)]
      exact ⟨rfl, rfl⟩

theorem breaks_of_not_meets (hnumbered : world.attempts.Numbered)
    (hstep : step setting world event = some next) (hmeets : ¬ Meets setting world event) :
    ∃ rest, ¬ Throughout (step setting) StartsOnce next rest := by
  cases event with
  | start ticket =>
    obtain ⟨attempt, hget, hstep⟩ := Option.bind_eq_some_iff.1 hstep
    obtain ⟨-, hstep⟩ := Option.ite_none_right_eq_some.1 hstep
    cases hstep
    have hstarted : (world.serve ticket attempt .running).attempts.get ticket =
        some { attempt with progress := .running } := get_become_self _ _ _
    by_cases hmem : ticket ∈ world.resent
    · refine ⟨[], fun hafter : StartsOnce _ => ?_⟩
      cases hafter.spared ticket hmem _ hstarted
    · have hretries : world.point.retries = some ticket := by
        by_contra hnot
        exact hmeets ⟨hmem, hnot⟩
      exact RetriesStarted.breaks setting
        ⟨hretries, ⟨_, hstarted, rfl⟩, hnumbered ticket attempt hget⟩
  | finish ticket invocation =>
    obtain ⟨attempt, hget, hstep⟩ := Option.bind_eq_some_iff.1 hstep
    obtain ⟨-, hstep⟩ := Option.ite_none_right_eq_some.1 hstep
    cases hstep
    simp only [Meets, not_forall, Bool.not_eq_false] at hmeets
    obtain ⟨recoverable, held, hpoint, hheld, hretried⟩ := hmeets
    obtain rfl := Option.some.inj (hget.symm.trans hheld)
    -- the answer reaches the client, which then sends the request again
    let served := world.serve ticket attempt (.answered (answer setting attempt invocation))
    have hanswered : served.attempts.get ticket =
        some { attempt with progress := .answered (answer setting attempt invocation) } :=
      get_become_self _ _ _
    obtain ⟨hretries, hattempts⟩ := receive_retries setting ticket
      (show served.retriesOn recoverable _ = true from hretried)
    have hdelivered : step setting served .deliver = some (served.receive setting ticket
        recoverable (setting.read (answer setting attempt invocation))) := by
      have hwaiting : served.point = .waiting ticket recoverable := hpoint
      simp only [step, hwaiting, hanswered]
      rfl
    obtain ⟨rest, hrest⟩ := RetriesStarted.breaks setting
      ⟨hretries, ⟨_, hattempts ▸ hanswered, rfl⟩, hattempts ▸ hnumbered ticket attempt hget⟩
    exact ⟨.deliver :: rest, not_throughout_cons hdelivered hrest⟩
  | expire =>
    simp only [Meets, not_forall, Bool.not_eq_false] at hmeets
    obtain ⟨ticket, attempt, hpoint, hget, hstarted⟩ := hmeets
    simp only [step, hpoint, Option.some.injEq] at hstep
    have hretried : world.retriesOn true (.error .sessionExpired) = true := rfl
    obtain ⟨hretries, hattempts⟩ := receive_retries setting ticket hretried
    rw [hstep] at hretries hattempts
    exact RetriesStarted.breaks setting
      ⟨hretries, ⟨attempt, hattempts ▸ hget, hstarted⟩, hattempts ▸ hnumbered ticket attempt hget⟩
  | _ => exact absurd trivial hmeets

/-- In a run whose steps meet the condition, the handler is started once in a round at most, and
only requests it was not started for are sent again. A step against the condition can be followed by
steps after which this is not so. -/
theorem retries_spare_started (setting : Setting) (final : Bool) :
    (∀ events, Along (step setting) (Meets setting) (setting.start final) events →
        Throughout (step setting) StartsOnce (setting.start final) events) ∧
      ∀ world event next, Reachable (step setting) (setting.start final) world →
        step setting world event = some next → ¬ Meets setting world event →
          ∃ rest, ¬ Throughout (step setting) StartsOnce next rest := by
  constructor
  · intro events hmeets
    refine (throughout_of_along ?_ (sound_start setting final) hmeets).mono
      fun _ hsound => hsound.starts_once
    intro world event next hsound hcondition hstep
    exact sound_step hsound hcondition hstep
  · rintro world event next ⟨events, hrun⟩ hstep hmeets
    refine breaks_of_not_meets ?_ hstep hmeets
    exact run_invariant (fun _ _ _ h hstep => numbered_step h hstep)
      numbered_empty hrun

end Breaks

/-! ## Handlers that are started again -/

def plainSetting : Setting where
  decode
    | .callTool result => .ok (.complete result)
    | .inputRequired required => .ok (.inputRequired required)
    | .createTask taskId => .ok (.task taskId)
  inputParams :=
    { requiresTools := fun _ => false
      includeContext := fun _ => none
      elicitMode := fun _ => .form }

def refreshEvents (outcome : Except Error RequestOutcome) : List Event :=
  [.send, .start 0, .finish 0 (.synchronous outcome), .deliver, .refreshed (.ok ()), .send,
    .start 1]

def expiryEvents : List Event :=
  [.send, .start 0, .expire, .recovered (.ok ()), .send, .start 1]

structure StartedTwice (world : World) : Prop where
  first : ∃ attempt, world.attempts.get 0 = some attempt ∧ attempt.started = true ∧
    attempt.round = 0 ∧ attempt.input = {}
  second : ∃ attempt, world.attempts.get 1 = some attempt ∧ attempt.started = true ∧
    attempt.round = 0 ∧ attempt.input = {}

/-- A handler is started twice in the first round when it fails for invalid parameters, when it asks
for input without a request, and when the session expires while it runs. -/
theorem handlers_started_twice :
    (∃ world, run (step plainSetting) (plainSetting.start true)
        (refreshEvents (.error (.jsonRpc (.invalidParams "no such order")))) = some world ∧
          StartedTwice world ∧ ¬ StartsOnce world) ∧
      (∃ world, run (step plainSetting) (plainSetting.start true)
        (refreshEvents (.ok (.inputRequired {}))) = some world ∧
          StartedTwice world ∧ ¬ StartsOnce world) ∧
      ∃ world, run (step plainSetting) (plainSetting.start false) expiryEvents =
        some world ∧ StartedTwice world ∧ ¬ StartsOnce world := by
  have hbroken : ∀ world, StartedTwice world → ¬ StartsOnce world := by
    rintro world ⟨⟨first, hfirst, hstarted, hround, -⟩, ⟨second, hsecond, hagain, hsame, -⟩⟩ honce
    have hequal := honce.perRound 0 1 first second hfirst hsecond hstarted hagain
      (hround.trans hsame.symm)
    cases hequal
  refine ⟨⟨_, rfl, ?_⟩, ⟨_, rfl, ?_⟩, ⟨_, rfl, ?_⟩⟩
  all_goals
    refine (fun htwice => ⟨htwice, hbroken _ htwice⟩) ?_
    exact ⟨⟨_, rfl, rfl, rfl, rfl⟩, ⟨_, rfl, rfl, rfl, rfl⟩⟩

end ToolRetries

end TowerMcp
