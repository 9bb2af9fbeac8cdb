import TowerMcp.Proxy.Forwarding

/-!
# What a proxy loses on the way

A proxy is transparent for a request when every request its backend's client issues is the
downstream one under the stripped name, and the response is what the backend answered.
`Following.transparent_iff` is the general fact about the rounds of a client, and
`transparent_iff_undiminished` says exactly which requests pass: those with nothing but a target and
arguments, that the backend completes.
-/

namespace TowerMcp

namespace Forwarding

/-! ## Transparency -/

section Transparency

variable {S R P A T α : Type}

/-- The response is what the backend answered last. Without an answer of the backend, a result is one
that the client holds. -/
def Relays (held : α → Prop) : Option (Except Error (Outcome T α)) → Except JsonRpcError α → Prop
  | some (.ok (.complete result)), response => response = .ok result
  | some (.ok _), _ => False
  | some (.error (.jsonRpc error)), response => response = .error error
  | _, response => ∀ result, response = .ok result → held result

structure Dispatched.Transparent (dispatched : Dispatched A T α) (expected : RoutedParams A)
    (held : α → Prop) : Prop where
  request : ∀ exchange ∈ dispatched.exchanges, exchange.params = expected
  answer : Relays held (dispatched.exchanges.getLast?.map Exchange.answer) dispatched.response

/-- The proxy is transparent for `tools/call`. -/
def McpProxy.CallToolTransparent (proxy : McpProxy R P) (params : CallToolParams)
    (extensions : Extensions) : Prop :=
  ∀ backend stripped,
    routedBackend proxy.entries (routeByPrefix proxy.entries params.target) =
        some (backend, stripped) →
      (proxy.callTool params extensions).Transparent { params with target := stripped } fun _ => False

def McpClient.Holds (client : McpClient R) (uri : String) (result : R) : Prop :=
  client.lookup uri = .fresh result ∨ client.lookup uri = .stale result

/-- The proxy is transparent for `resources/read`. -/
def McpProxy.ReadResourceTransparent (proxy : McpProxy R P) (params : ReadResourceParams) : Prop :=
  ∀ backend stripped,
    routedBackend proxy.entries (routeByUriPrefix proxy.entries params.target) =
        some (backend, stripped) →
      (proxy.readResource params).Transparent { params with target := stripped }
        ((proxy.clients backend).Holds stripped)

/-- The proxy is transparent for `prompts/get`. -/
def McpProxy.GetPromptTransparent (proxy : McpProxy R P) (params : GetPromptParams) : Prop :=
  ∀ backend stripped,
    routedBackend proxy.entries (routeByPrefix proxy.entries params.target) =
        some (backend, stripped) →
      (proxy.getPrompt params).Transparent { params with target := stripped } fun _ => False

/-! ## Undiminished requests -/

def RoutedParams.Bare (params : RoutedParams A) : Prop :=
  params.inputResponses = none ∧ params.requestState = none ∧ params.metadata = none

def Passes (last : α → α) : Except Error (Outcome T α) → Prop
  | .ok (.complete result) => last result = result
  | .ok _ => False
  | .error (.jsonRpc _) => False
  | .error _ => True

/-- What the backend answers to a tool call: to the second one where the first is rejected by a
schema that turns out to be stale. -/
def McpClient.toolAnswer (client : McpClient R) (answers : BackendAnswers R P)
    (params : CallToolParams) : Except Error (Outcome String CallToolResult) :=
  let id := client.nextRequestId
  match answers.callTool id params with
  | .ok outcome => .ok outcome
  | .error error =>
    if client.usesFinalProtocol && isStaleToolSchemaError error then
      match answers.listTools (id + 1) with
      | .error _ => .error error
      | .ok _ => answers.callTool (id + 2) params
    else .error error

/-- Nothing of a tool call is lost: if it is sent, it has no task, is bare, and its answer passes. -/
def CallToolUndiminished (client : McpClient R) (answers : BackendAnswers R P)
    (params : CallToolParams) (extensions : Extensions) : Prop :=
  client.connected = true →
    params.own.task = none ∧ params.Bare ∧
      Passes (omitNullContent (isFinalProtocolRequest extensions)) (client.toolAnswer answers params)

def ReadResourceUndiminished (client : McpClient R) (answers : BackendAnswers R P)
    (params : ReadResourceParams) : Prop :=
  client.initialized = true → client.connected = true →
    (∀ result, client.lookup params.target ≠ .fresh result) →
      params.Bare ∧ Passes id (answers.readResource client.nextRequestId params)

def GetPromptUndiminished (client : McpClient R) (answers : BackendAnswers R P)
    (params : GetPromptParams) : Prop :=
  client.initialized = true → client.connected = true →
    params.Bare ∧ Passes id (answers.getPrompt client.nextRequestId params)

/-! ## The rounds of a client -/

structure Attempt.Tells (attempt : Attempt S A T α) (params : RoutedParams A) : Prop where
  request : ∀ exchange ∈ attempt.exchanges, exchange.params = params
  outcome : ∀ exchange, attempt.exchanges.getLast? = some exchange →
    exchange.answer = attempt.outcome

def Told.passedOn (told : Told A T α) (last : α → α) : Dispatched A T α where
  exchanges := told.exchanges
  response := told.dispatched.response.map last

theorem Told.passed_on_id (told : Told A T α) : told.passedOn id = told.dispatched := by
  obtain ⟨exchanges, result⟩ := told
  cases result with
  | error error => rfl
  | ok result => rfl

theorem passed_on_error (exchanges : List (Exchange A T α)) (error : Error) (last : α → α) :
    (Told.passedOn ⟨exchanges, .error error⟩ last).response = .error (backendError error) :=
  rfl

theorem passed_on_ok (exchanges : List (Exchange A T α)) (result : α) (last : α → α) :
    (Told.passedOn ⟨exchanges, .ok result⟩ last).response = .ok (last result) :=
  rfl

theorem surrounded_ne {before : String} (h : before ≠ "") (between text after : String) :
    before ++ (between ++ (text ++ after)) ≠ text := by
  intro heq
  have hlength := congrArg String.length heq
  have hbefore : before.length ≠ 0 := fun hzero => h (String.length_eq_zero_iff.1 hzero)
  simp only [String.length_append] at hlength
  omega

theorem backend_error_ne (error : JsonRpcError) : backendError (.jsonRpc error) ≠ error := by
  intro heq
  have hmessage := congrArg JsonRpcError.message heq
  exact surrounded_ne (by decide) _ _ _ hmessage

theorem McpClient.send_request_tells (client : McpClient R)
    (answer : ℕ → RoutedParams A → Except Error (Outcome T α)) (id : ℕ) (params : RoutedParams A) :
    (client.sendRequest answer id params).Tells params := by
  unfold McpClient.sendRequest
  split
  next => exact ⟨by simp, by simp⟩
  next => exact ⟨by simp, by simp⟩

theorem McpClient.send_initialized_tells (client : McpClient R)
    (answer : ℕ → RoutedParams A → Except Error (Outcome T α)) (id : ℕ) (params : RoutedParams A) :
    (client.sendInitialized answer id params).Tells params := by
  unfold McpClient.sendInitialized
  split
  next => exact client.send_request_tells answer id params
  next => exact ⟨by simp, by simp⟩

inductive Following.Round (self : Following S A T α) (target : String) (own : A) (rounds : ℕ)
    (attempt : Attempt S A T α) : Told A T α → Prop where
  | failed (error : Error) (houtcome : attempt.outcome = .error error) :
      Round self target own rounds attempt ⟨attempt.exchanges, self.recover error⟩
  | completed (result : α) (houtcome : attempt.outcome = .ok (.complete result)) :
      Round self target own rounds attempt ⟨attempt.exchanges, .ok result⟩
  | tasked (created : T) (houtcome : attempt.outcome = .ok (.task created)) :
      Round self target own rounds attempt ⟨attempt.exchanges, self.finish created⟩
  | stuck (required : InputRequiredResult) (error : Error)
      (houtcome : attempt.outcome = .ok (.inputRequired required)) :
      Round self target own rounds attempt ⟨attempt.exchanges, .error error⟩
  | answered (required : InputRequiredResult) (left : ℕ) (responses : InputResponses)
      (houtcome : attempt.outcome = .ok (.inputRequired required)) (hleft : rounds = left + 1) :
      Round self target own rounds attempt
        ⟨attempt.exchanges ++ (self.follow target own left attempt.next (some responses)
            required.requestState).exchanges,
          (self.follow target own left attempt.next (some responses) required.requestState).result⟩

namespace Following

variable {self : Following S A T α} {target : String} {own : A} {state : S} {rounds : ℕ}
  {held : α → Prop} {last : α → α} {expected : RoutedParams A}

theorem round_of_follow (self : Following S A T α) (target : String) (own : A) (rounds : ℕ)
    (state : S) (inputResponses : Option InputResponses) (requestState : Option String) :
    self.Round target own rounds
      (self.issue state { target, own, inputResponses, requestState })
      (self.follow target own rounds state inputResponses requestState) := by
  rw [follow.eq_def]
  dsimp only
  generalize self.issue state { target, own, inputResponses, requestState } = attempt
  obtain ⟨exchanges, next, outcome⟩ := attempt
  cases outcome with
  | error error => exact .failed error rfl
  | ok outcome =>
    cases outcome with
    | complete result => exact .completed result rfl
    | task created => exact .tasked created rfl
    | inputRequired required =>
      cases rounds with
      | zero => exact .stuck required _ rfl
      | succ left =>
        obtain ⟨requests, state⟩ := required
        cases requests with
        | none => exact .stuck _ _ rfl
        | some requests =>
          dsimp only
          cases self.resolve requests with
          | error error => exact .stuck _ error rfl
          | ok responses =>
            refine .answered ⟨some requests, state⟩ left responses ?_ rfl
            rfl

theorem has_responses (self : Following S A T α)
    (hissue : ∀ state params, (self.issue state params).Tells params) (target : String) (own : A)
    (rounds : ℕ) (state : S) (responses : InputResponses) (requestState : Option String) :
    ∀ exchange ∈ (self.follow target own rounds state (some responses) requestState).exchanges,
      exchange.params.inputResponses.isSome = true := by
  induction rounds using Nat.strong_induction_on generalizing state responses requestState with
  | _ rounds ih =>
    intro exchange hexchange
    have hround := self.round_of_follow target own rounds state (some responses) requestState
    have hfirst : ∀ exchange ∈ (self.issue state
        { target, own, inputResponses := some responses, requestState }).exchanges,
        exchange.params.inputResponses.isSome = true := by
      intro exchange hexchange
      rw [(hissue _ _).request exchange hexchange]
      rfl
    generalize self.follow target own rounds state (some responses) requestState = told
      at hround hexchange
    cases hround with
    | failed | completed | tasked | stuck => exact hfirst exchange hexchange
    | answered required left again houtcome hleft =>
      rcases List.mem_append.1 hexchange with hin | hin
      · exact hfirst exchange hin
      · exact ih left (by omega) _ again _ exchange hin

theorem held_of_recovered (hrecover : ∀ error, self.recover error = .error error ∨
      ∃ result, self.recover error = .ok result ∧ held (last result)) (error : Error)
    (exchanges : List (Exchange A T α)) :
    ∀ result, (Told.passedOn ⟨exchanges, self.recover error⟩ last).response = .ok result →
      held result := by
  intro result hresult
  rcases hrecover error with herror | ⟨value, hvalue, hheld⟩
  · rw [herror, passed_on_error] at hresult
    cases hresult
  · rw [hvalue, passed_on_ok] at hresult
    cases hresult
    exact hheld

theorem ne_backend_error (hrecover : ∀ error, self.recover error = .error error ∨
      ∃ result, self.recover error = .ok result ∧ held (last result)) (error : JsonRpcError)
    (exchanges : List (Exchange A T α)) :
    (Told.passedOn ⟨exchanges, self.recover (.jsonRpc error)⟩ last).response ≠ .error error := by
  intro hresponse
  rcases hrecover (.jsonRpc error) with herror | ⟨value, hvalue, -⟩
  · rw [herror, passed_on_error] at hresponse
    exact backend_error_ne error (Except.error.inj hresponse)
  · rw [hvalue, passed_on_ok] at hresponse
    cases hresponse

theorem transparent_of_unsent {error : Error}
    (hrecover : ∀ error, self.recover error = .error error ∨
      ∃ result, self.recover error = .ok result ∧ held (last result))
    (hsent : (self.issue state { target, own }).exchanges = [])
    (hfailed : (self.issue state { target, own }).outcome = .error error) :
    ((self.follow target own rounds state none none).passedOn last).Transparent expected held := by
  have hround := self.round_of_follow target own rounds state none none
  generalize self.issue state { target, own } = attempt at hsent hfailed hround
  obtain ⟨exchanges, next, outcome⟩ := attempt
  obtain rfl : exchanges = [] := hsent
  obtain rfl : outcome = .error error := hfailed
  generalize self.follow target own rounds state none none = told at hround
  cases hround with
  | completed _ houtcome | tasked _ houtcome | stuck _ _ houtcome | answered _ _ _ houtcome =>
    cases houtcome
  | failed other houtcome =>
    have hunsent : ((⟨[], self.recover other⟩ : Told A T α).passedOn last).exchanges = [] := rfl
    refine ⟨?_, ?_⟩ <;> rw [hunsent]
    · exact List.forall_mem_nil _
    · exact held_of_recovered hrecover other []

theorem transparent_iff_relays {attempt : Attempt S A T α} {params : RoutedParams A}
    {dispatched : Dispatched A T α} (htells : attempt.Tells params) (hsent : attempt.exchanges ≠ [])
    (hexchanges : dispatched.exchanges = attempt.exchanges) :
    dispatched.Transparent expected held ↔
      params = expected ∧ Relays held (some attempt.outcome) dispatched.response := by
  have hlast := List.getLast?_eq_some_getLast hsent
  have hmem := List.getLast_mem hsent
  have hanswered : dispatched.exchanges.getLast?.map Exchange.answer = some attempt.outcome := by
    rw [hexchanges, hlast, Option.map_some, htells.outcome _ hlast]
  constructor
  · intro h
    have hanswer := h.answer
    rw [hanswered] at hanswer
    have hin : attempt.exchanges.getLast hsent ∈ dispatched.exchanges := by
      rw [hexchanges]
      exact hmem
    exact ⟨(htells.request _ hmem).symm.trans (h.request _ hin), hanswer⟩
  · rintro ⟨rfl, hanswer⟩
    refine ⟨?_, ?_⟩
    · rw [hexchanges]
      exact htells.request
    · rw [hanswered]
      exact hanswer

theorem transparent_iff (hissue : ∀ state params, (self.issue state params).Tells params)
    (hrecover : ∀ error, self.recover error = .error error ∨
      ∃ result, self.recover error = .ok result ∧ held (last result))
    (hsent : (self.issue state { target, own }).exchanges ≠ []) :
    ((self.follow target own rounds state none none).passedOn last).Transparent expected held ↔
      { target, own } = expected ∧ Passes last (self.issue state { target, own }).outcome := by
  have htells := hissue state { target, own }
  have hround := self.round_of_follow target own rounds state none none
  generalize self.follow target own rounds state none none = told at hround
  cases hround with
  | failed error houtcome =>
    rw [transparent_iff_relays htells hsent rfl, houtcome]
    refine and_congr_right fun _ => ?_
    cases error with
    | jsonRpc error => exact iff_of_false (ne_backend_error hrecover error _) id
    | _ => exact iff_of_true (held_of_recovered hrecover _ _) trivial
  | completed result houtcome =>
    rw [transparent_iff_relays htells hsent rfl, houtcome, passed_on_ok]
    simp [Relays, Passes]
  | tasked created houtcome | stuck required error houtcome =>
    rw [transparent_iff_relays htells hsent rfl, houtcome]
    exact Iff.rfl
  | answered required left responses houtcome hleft =>
    rw [houtcome]
    refine ⟨fun h => ?_, fun h => h.2.elim⟩
    have hresponses := self.has_responses hissue target own left
      (self.issue state { target, own }).next responses required.requestState
    generalize self.follow target own left (self.issue state { target, own }).next
      (some responses) required.requestState = later at h hresponses
    obtain ⟨exchanges, result⟩ := later
    cases exchanges with
    | nil =>
      -- the client gives up without a second request, and says something else
      have hrelays := ((transparent_iff_relays htells hsent (List.append_nil _)).1 h).2
      rw [houtcome] at hrelays
      exact hrelays.elim
    | cons exchange rest =>
      -- the second request has responses, which the first one has not
      obtain ⟨first, hfirst⟩ := List.exists_mem_of_ne_nil _ hsent
      have hbare := htells.request first hfirst
      rw [h.request first (List.mem_append_left _ hfirst)] at hbare
      have hsecond := hresponses exchange List.mem_cons_self
      rw [h.request exchange (List.mem_append_right _ List.mem_cons_self), hbare] at hsecond
      cases hsecond

end Following

/-! ## The three methods -/

theorem bare_eq_iff (target : String) (own : A) (params : RoutedParams A) :
    ({ target, own } : RoutedParams A) = { params with target } ↔ own = params.own ∧ params.Bare := by
  obtain ⟨other, fields, inputResponses, requestState, metadata⟩ := params
  simp [RoutedParams.Bare, eq_comm]

section Sending

variable (client : McpClient R) (answers : BackendAnswers R P)
  (answer : ℕ → RoutedParams A → Except Error (Outcome T α))

theorem McpClient.send_request_eq (hconnected : client.connected = true) (id : ℕ)
    (params : RoutedParams A) :
    client.sendRequest answer id params = ⟨[⟨params, answer id params⟩], id + 1, answer id params⟩ :=
  if_pos hconnected

theorem McpClient.send_request_unconnected (hconnected : client.connected = false) (id : ℕ)
    (params : RoutedParams A) :
    client.sendRequest answer id params = ⟨[], id, .error (.transport "Connection closed")⟩ :=
  if_neg (by simp [hconnected])

theorem McpClient.schema_retry_unconnected (hconnected : client.connected = false)
    (state : ℕ × Bool) (params : CallToolParams) :
    client.sendToolRequestWithSchemaRetry answers state params =
      ⟨[], state, .error (.transport "Connection closed")⟩ := by
  simp only [sendToolRequestWithSchemaRetry, isStaleToolSchemaError, Bool.and_false,
    client.send_request_unconnected answers.callTool hconnected]
  rfl

theorem McpClient.schema_retry_tells (state : ℕ × Bool) (params : CallToolParams) :
    (client.sendToolRequestWithSchemaRetry answers state params).Tells params := by
  cases hconnected : client.connected with
  | false =>
    rw [client.schema_retry_unconnected answers hconnected]
    exact ⟨List.forall_mem_nil _, by simp⟩
  | true =>
    simp only [sendToolRequestWithSchemaRetry,
      client.send_request_eq answers.callTool hconnected]
    cases hfirst : answers.callTool state.1 params with
    | ok outcome => exact ⟨by simp, by simp⟩
    | error error =>
      dsimp only
      split
      next =>
        cases answers.listTools (state.1 + 1) with
        | error refused => exact ⟨by simp, by simp⟩
        | ok listed => exact ⟨by simp, by simp⟩
      next => exact ⟨by simp, by simp⟩

theorem McpClient.schema_retry_outcome (hconnected : client.connected = true)
    (params : CallToolParams) :
    let attempt := client.sendToolRequestWithSchemaRetry answers
      (client.nextRequestId, client.usesFinalProtocol) params
    attempt.exchanges ≠ [] ∧ attempt.outcome = client.toolAnswer answers params := by
  simp only [sendToolRequestWithSchemaRetry, toolAnswer,
    client.send_request_eq answers.callTool hconnected]
  cases answers.callTool client.nextRequestId params with
  | ok outcome => simp
  | error error =>
    dsimp only
    split
    next =>
      cases answers.listTools (client.nextRequestId + 1) with
      | error refused => simp
      | ok listed => simp
    next => simp

end Sending

theorem handle_call_tool_transparent_iff (client : McpClient R) (answers : BackendAnswers R P)
    (stripped : String) (params : CallToolParams) (extensions : Extensions) :
    (handleCallTool client answers stripped params extensions).Transparent
        { params with target := stripped } (fun _ => False) ↔
      CallToolUndiminished client answers { params with target := stripped } extensions := by
  show ((client.callTool answers stripped params.own.arguments).passedOn
    (omitNullContent (isFinalProtocolRequest extensions))).Transparent _ _ ↔ _
  cases hconnected : client.connected with
  | false =>
    refine iff_of_true ?_ fun h => absurd (hconnected.symm.trans h) Bool.false_ne_true
    have hunsent := client.schema_retry_unconnected answers hconnected
      (client.nextRequestId, client.usesFinalProtocol)
      { target := stripped, own := { arguments := params.own.arguments } }
    exact Following.transparent_of_unsent (fun error => .inl rfl)
      (congrArg Attempt.exchanges hunsent) (congrArg Attempt.outcome hunsent)
  | true =>
    obtain ⟨hsent, houtcome⟩ := client.schema_retry_outcome answers hconnected
      { target := stripped, own := { arguments := params.own.arguments } }
    rw [McpClient.callTool, Following.transparent_iff (client.schema_retry_tells answers)
      (fun error => .inl rfl) hsent, houtcome]
    have hown : ({ arguments := params.own.arguments } : ToolFields) = params.own ↔
        params.own.task = none := by
      obtain ⟨arguments, task⟩ := params.own
      simp [eq_comm]
    constructor
    · rintro ⟨heq, hpasses⟩ -
      rw [heq] at hpasses
      obtain ⟨htask, hbare⟩ := (bare_eq_iff stripped _ params).1 heq
      exact ⟨hown.1 htask, hbare, hpasses⟩
    · intro h
      obtain ⟨htask, hbare, hpasses⟩ := h hconnected
      have heq := (bare_eq_iff stripped _ params).2 ⟨hown.2 htask, hbare⟩
      rw [heq]
      exact ⟨rfl, hpasses⟩

section Initialized

variable (client : McpClient R) (answer : ℕ → RoutedParams A → Except Error (Outcome T α))

theorem McpClient.send_initialized_unsent (h : ¬(client.initialized = true ∧ client.connected = true))
    (id : ℕ) (params : RoutedParams A) :
    (client.sendInitialized answer id params).exchanges = [] ∧
      ∃ error, (client.sendInitialized answer id params).outcome = .error error := by
  unfold sendInitialized sendRequest
  split
  next hinitialized =>
    rw [if_neg fun hconnected => h ⟨hinitialized, hconnected⟩]
    exact ⟨rfl, _, rfl⟩
  next => exact ⟨rfl, _, rfl⟩

theorem McpClient.send_initialized_eq (hinitialized : client.initialized = true)
    (hconnected : client.connected = true) (id : ℕ) (params : RoutedParams A) :
    client.sendInitialized answer id params =
      ⟨[⟨params, answer id params⟩], id + 1, answer id params⟩ :=
  (if_pos hinitialized).trans (client.send_request_eq answer hconnected id params)

theorem Following.initialized_transparent_iff {held : α → Prop} {self : Following ℕ A T α}
    (hissue : self.issue = client.sendInitialized answer)
    (hrecover : ∀ error, self.recover error = .error error ∨
      ∃ result, self.recover error = .ok result ∧ held result)
    (rounds : ℕ) (target : String) (params : RoutedParams A) :
    (self.follow target params.own rounds client.nextRequestId none none).dispatched.Transparent
        { params with target } held ↔
      (client.initialized = true → client.connected = true →
        ({ params with target } : RoutedParams A).Bare ∧
          Passes id (answer client.nextRequestId { params with target })) := by
  rw [← Told.passed_on_id]
  have hrecover : ∀ error, self.recover error = .error error ∨
      ∃ result, self.recover error = .ok result ∧ held (id result) := hrecover
  by_cases h : client.initialized = true ∧ client.connected = true
  · have hsent := client.send_initialized_eq answer h.1 h.2 client.nextRequestId
      { target, own := params.own }
    have htells : ∀ state params, (self.issue state params).Tells params := by
      rw [hissue]
      exact client.send_initialized_tells answer
    rw [Following.transparent_iff htells hrecover (by rw [hissue, hsent]; simp), hissue, hsent,
      bare_eq_iff, and_iff_right rfl]
    constructor
    · rintro ⟨hbare, hpasses⟩ - -
      rw [(bare_eq_iff target _ params).2 ⟨rfl, hbare⟩] at hpasses
      exact ⟨hbare, hpasses⟩
    · intro hall
      obtain ⟨hbare, hpasses⟩ := hall h.1 h.2
      rw [(bare_eq_iff target _ params).2 ⟨rfl, hbare⟩]
      exact ⟨hbare, hpasses⟩
  · obtain ⟨hunsent, error, hfailed⟩ := client.send_initialized_unsent answer h
      client.nextRequestId { target, own := params.own }
    refine iff_of_true ?_ fun hinitialized hconnected => absurd ⟨hinitialized, hconnected⟩ h
    rw [← hissue] at hunsent hfailed
    exact Following.transparent_of_unsent hrecover hunsent hfailed

end Initialized

theorem transparent_of_no_exchange {expected : RoutedParams A} {held : α → Prop}
    {response : Except JsonRpcError α} (h : ∀ result, response = .ok result → held result) :
    Dispatched.Transparent (T := T) ⟨[], response⟩ expected held :=
  ⟨List.forall_mem_nil _, h⟩

theorem handle_read_resource_transparent_iff (client : McpClient R) (answers : BackendAnswers R P)
    (stripped : String) (params : ReadResourceParams) :
    (handleReadResource client answers stripped params).Transparent
        { params with target := stripped } (client.Holds stripped) ↔
      ReadResourceUndiminished client answers { params with target := stripped } := by
  show (client.readResource answers stripped).dispatched.Transparent _ _ ↔ _
  unfold McpClient.readResource ReadResourceUndiminished
  cases hinitialized : client.initialized with
  | false => exact iff_of_true (transparent_of_no_exchange nofun) nofun
  | true =>
    simp only [Bool.not_true, Bool.false_eq_true, if_false]
    cases hlookup : client.lookup stripped with
    | fresh result =>
      refine iff_of_true (transparent_of_no_exchange ?_) fun _ _ h => absurd rfl (h result)
      intro other hother
      cases hother
      exact .inl hlookup
    | stale result =>
      rw [Following.initialized_transparent_iff client answers.readResource rfl ?_]
      · simp [hinitialized]
      · intro error
        cases hserve : client.serveStaleOnError with
        | false => exact .inl (by simp [McpClient.serveStale, hserve])
        | true => exact .inr ⟨result, by simp [McpClient.serveStale, hserve], .inr hlookup⟩
    | miss =>
      rw [Following.initialized_transparent_iff client answers.readResource rfl
        fun error => .inl rfl]
      simp [hinitialized]

theorem handle_get_prompt_transparent_iff (client : McpClient R) (answers : BackendAnswers R P)
    (stripped : String) (params : GetPromptParams) :
    (handleGetPrompt client answers stripped params).Transparent
        { params with target := stripped } (fun _ => False) ↔
      GetPromptUndiminished client answers { params with target := stripped } := by
  have harguments : (if params.own.entries.isEmpty then none else some params.own).getD ∅ =
      params.own := by
    split
    next hempty => exact (FinMap.is_empty_entries_iff.1 hempty).symm
    next => rfl
  unfold handleGetPrompt dispatchGetPrompt McpClient.getPrompt GetPromptUndiminished
  dsimp only
  rw [harguments]
  exact Following.initialized_transparent_iff client answers.getPrompt rfl (fun error => .inl rfl)
    _ stripped params

/-- The proxy is transparent for exactly those requests that nothing is lost of: a tool call, a read
or a prompt request is passed on as it is when, if the backend's client issues it at all, it has no
input responses, request state, `_meta` or task, and the backend completes it, with a result that an
older peer gets unchanged, or cannot be heard. -/
theorem transparent_iff_undiminished (proxy : McpProxy R P) :
    (∀ params extensions, proxy.CallToolTransparent params extensions ↔
      ∀ backend stripped,
        routedBackend proxy.entries (routeByPrefix proxy.entries params.target) =
            some (backend, stripped) →
          CallToolUndiminished (proxy.clients backend) (proxy.answers backend)
            { params with target := stripped } extensions) ∧
    (∀ params, proxy.ReadResourceTransparent params ↔
      ∀ backend stripped,
        routedBackend proxy.entries (routeByUriPrefix proxy.entries params.target) =
            some (backend, stripped) →
          ReadResourceUndiminished (proxy.clients backend) (proxy.answers backend)
            { params with target := stripped }) ∧
    ∀ params, proxy.GetPromptTransparent params ↔
      ∀ backend stripped,
        routedBackend proxy.entries (routeByPrefix proxy.entries params.target) =
            some (backend, stripped) →
          GetPromptUndiminished (proxy.clients backend) (proxy.answers backend)
            { params with target := stripped } := by
  refine ⟨fun params extensions => ?_, fun params => ?_, fun params => ?_⟩
  · refine forall₂_congr fun backend stripped => imp_congr_right fun hroute => ?_
    rw [McpProxy.callTool, hroute]
    exact handle_call_tool_transparent_iff _ _ stripped params extensions
  · refine forall₂_congr fun backend stripped => imp_congr_right fun hroute => ?_
    rw [McpProxy.readResource, hroute]
    exact handle_read_resource_transparent_iff _ _ stripped params
  · refine forall₂_congr fun backend stripped => imp_congr_right fun hroute => ?_
    rw [McpProxy.getPrompt, hroute]
    exact handle_get_prompt_transparent_iff _ _ stripped params

end Transparency

def databaseProxy : McpProxy Unit Unit where
  entries := [⟨"db", "_", 0⟩]
  clients _ := {}
  answers _ :=
    { callTool := fun _ _ => .ok (.complete { content := [] })
      readResource := fun _ _ => .ok (.complete ())
      getPrompt := fun _ _ => .ok (.complete ())
      listTools := fun _ => .ok ()
      finalTask := fun _ => .ok { content := [] }
      handler := fun _ => .ok ∅ }

def retriedQuery : CallToolParams where
  target := "db_query"
  own := {}
  requestState := some "cursor"
  metadata := some { progressToken := some (.number 1) }

/-- The client of the backend issues the retry without its state and its token. -/
theorem retry_loses_state : ¬databaseProxy.CallToolTransparent retriedQuery {} := by
  intro h
  have hroute : routedBackend databaseProxy.entries
      (routeByPrefix databaseProxy.entries retriedQuery.target) = some (0, "query") := by decide
  have htransparent := h 0 "query" hroute
  rw [McpProxy.callTool, hroute] at htransparent
  obtain ⟨-, hbare, -⟩ :=
    (handle_call_tool_transparent_iff _ _ "query" retriedQuery {}).1 htransparent rfl
  exact absurd hbare.2.1 (Option.some_ne_none "cursor")

end Forwarding

end TowerMcp
