import TowerMcp.Client.Lifecycle
import TowerMcp.Transport.Notifications
import TowerMcp.Types.Inspection

/-!
# What the stdio transports make of a frame

The three receive paths of `transport/stdio.rs` for a decoded value: `process_line` under the loop of
`StdioTransport`, `GenericStdioTransport::process_input` and the `handle_incoming_message` of
`BidirectionalStdioTransport`, with the inspection they share from `jsonrpc.rs` and the classification
of frames from `framing.rs`. A path takes a value for a notification, a response or a request, or
refuses it, and may have frames for the client. What the service answers to a request is a parameter.
-/

namespace TowerMcp

/-! ## Framing -/

inductive FrameClass where
  | notification
  | response
  | request
deriving DecidableEq

def classifyFrame (value : Json) : FrameClass :=
  if !value.isArray && (value.get "id").isNone then .notification
  else if isResponseFrame value then .response
  else .request

def correlatingId (value : Json) : Option RequestId :=
  (value.get "id").bind RequestId.fromJson

def errorResponseId (value : Json) (error : JsonRpcError) : Option RequestId :=
  if error.code = ErrorCode.invalidRequest.code then none else correlatingId value

def parseErrorResponse (message : String) : Json :=
  (JsonRpcResponse.error none (JsonRpcError.parseError message)).toJson

/-! ## Messages -/

def JsonRpcError.invalidRequest (message : String) : JsonRpcError :=
  new .invalidRequest message

inductive JsonRpcMessage where
  | single (request : JsonRpcRequest)
  | batch (requests : List JsonRpcRequest)

def JsonRpcMessage.fromJson (value : Json) : Option JsonRpcMessage :=
  match value with
  | .array items => (items.mapM JsonRpcRequest.fromJson).map .batch
  | _ => (JsonRpcRequest.fromJson value).map .single

inductive McpNotification where
  | initialized
  | cancelled (params : CancelledParams)
  | progress (params : ProgressParams)
  | rootsListChanged
  | unknown (method : String) (params : Option Json)

def McpNotification.fromJsonrpc (serde : Serde) (notif : JsonRpcNotification) :
    Except String McpNotification :=
  let params := paramsOrEmpty notif.params
  if notif.method = "notifications/initialized" then .ok .initialized
  else if notif.method = "notifications/cancelled" then
    match CancelledParams.fromJson params with
    | some parsed => .ok (.cancelled parsed)
    | none => .error ("Serialization error: " ++ serde.errorText "CancelledParams" params)
  else if notif.method = "notifications/progress" then
    match ProgressParams.fromJson params with
    | some parsed => .ok (.progress parsed)
    | none => .error ("Serialization error: " ++ serde.errorText "ProgressParams" params)
  else if notif.method = "notifications/roots/list_changed" then .ok .rootsListChanged
  else .ok (.unknown notif.method notif.params)

/-! ## The service -/

structure ProtocolSupport where
  versions : List String
  nonempty : versions ≠ []

def declaredVersion (value : Json) : Option String :=
  (value.pointer ["params", "_meta", "io.modelcontextprotocol/protocolVersion"]).bind Json.asStr

/-- The service of a transport. `selected` is the revision of its extensions or else the negotiated
one. `call` is what it answers to a message, `listen` to a `subscriptions/listen` request, and
`validateRequestProtocol` checks such a request beforehand. -/
structure JsonRpcService where
  serde : Serde
  protocolSupport : ProtocolSupport
  selected : Option McpProtocolRevision := none
  call : JsonRpcMessage → Except String (Option Json)
  listen : JsonRpcRequest → JsonRpcResponse
  validateRequestProtocol : JsonRpcRequest → Except JsonRpcError Unit

namespace JsonRpcService

def unsupported (service : JsonRpcService) (version : String) : JsonRpcError :=
  .unsupportedProtocolVersion version service.protocolSupport.versions

def allowedRevision (service : JsonRpcService) (version : String) :
    Except JsonRpcError McpProtocolRevision :=
  if version ∉ service.protocolSupport.versions then .error (service.unsupported version)
  else
    match McpProtocolRevision.fromStr version with
    | some revision => .ok revision
    | none => .error (service.unsupported version)

def declaredVersions (value : Json) : List String :=
  (value.asArray.getD []).filterMap declaredVersion

def undeclaredRevision (service : JsonRpcService) (value : Json) :
    Except JsonRpcError McpProtocolRevision :=
  match service.selected with
  | some revision =>
    if revision.asStr ∈ service.protocolSupport.versions then .ok revision
    else .error (service.unsupported revision.asStr)
  | none =>
    match service.protocolSupport.versions with
    | [only] => service.allowedRevision only
    | versions =>
      if value.isArray then
        .error (.invalidRequest
          "Cannot determine the exact MCP revision for a batch before protocol negotiation")
      else
        match versions.find? fun version => version ∈ supportedProtocolVersions with
        | some provisional => service.allowedRevision provisional
        | none => .error (.invalidRequest
            "Request does not declare an MCP revision and no legacy revision is enabled")

/-- The revision that an `initialize` request selects. -/
def initializeRevision (service : JsonRpcService) (value : Json) :
    Except JsonRpcError McpProtocolRevision :=
  let requested := (value.pointer ["params", "protocolVersion"]).bind Json.asStr
  let accepted := requested.filter fun version =>
    version ∈ supportedProtocolVersions ∧ version ∈ service.protocolSupport.versions
  let fallback := service.protocolSupport.versions.find? fun version =>
    version ∈ supportedProtocolVersions
  match accepted.or fallback with
  | some version => service.allowedRevision version
  | none => .error (service.unsupported (requested.getD "unknown"))

def resolveRevision (service : JsonRpcService) (value : Json) :
    Except JsonRpcError McpProtocolRevision :=
  match declaredVersions value with
  | version :: rest =>
    if rest.any fun candidate => candidate ≠ version then
      .error (.invalidRequest "A JSON-RPC batch cannot mix MCP protocol revisions")
    else service.allowedRevision version
  | [] =>
    match declaredVersion value with
    | some version => service.allowedRevision version
    | none =>
      if (value.get "method").bind Json.asStr = some "initialize" then
        service.initializeRevision value
      else service.undeclaredRevision value

def inspectionErrorToJsonRpc (error : McpInspectionError) : JsonRpcError :=
  match error.kind with
  | .missingParams | .invalidParams => .invalidParams error.detail
  | _ => .invalidRequest error.detail

def inspectRuntimeValue (serde : Serde) (support : List String) (value : Json)
    (revision : McpProtocolRevision) : Except JsonRpcError (List McpMethodInspection) :=
  if revision.asStr ∉ support then
    .error (.unsupportedProtocolVersion revision.asStr support)
  else
    (McpInspector.inspect serde revision value (some .clientToServer)).mapError
      inspectionErrorToJsonRpc

def inspectIncomingValue (service : JsonRpcService) (value : Json) :
    Except JsonRpcError (List McpMethodInspection) := do
  let revision ← service.resolveRevision value
  inspectRuntimeValue service.serde service.protocolSupport.versions value revision

end JsonRpcService

/-! ## Subscriptions -/

structure StdioSubscriptions where
  active : FinMap RequestId SubscriptionFilter := ∅

inductive Treatment where
  | notification
  | response
  | request
  | invalid
deriving DecidableEq

inductive StdioSubscriptionInput where
  | notHandled
  | handled (treatment : Treatment) (frames : List Json)
  | dispatch (request : JsonRpcRequest)

namespace StdioSubscriptions

def cancelledBy (self : StdioSubscriptions) (parsed : Json) : Option RequestId :=
  if (parsed.get "method").bind Json.asStr = some "notifications/cancelled" ∧
      parsed.get "id" = none then do
    let notification ← JsonRpcNotification.fromJson parsed
    let params ← CancelledParams.fromJson (paramsOrEmpty notification.params)
    params.requestId.filter fun requestId => (self.active.lookup requestId).isSome
  else none

/-- Whether a value is a `subscriptions/listen` request of the stateless revision. -/
def isModernListen (parsed : Json) : Bool :=
  (parsed.get "method").bind Json.asStr == some "subscriptions/listen" &&
    (parsed.get "id").isSome &&
    (parsed.pointer ["params", "_meta", "io.modelcontextprotocol/protocolVersion"]).isSome

/-- What a `subscriptions/listen` request comes to before it is dispatched. -/
def handleListen (self : StdioSubscriptions) (service : JsonRpcService) (parsed : Json) :
    StdioSubscriptionInput :=
  match JsonRpcRequest.fromJson parsed with
  | none =>
    .handled .invalid [parseErrorResponse (service.serde.errorText "JsonRpcRequest" parsed)]
  | some request =>
    match service.validateRequestProtocol request with
    | .error error => .handled .invalid [(JsonRpcResponse.error (some request.id) error).toJson]
    | .ok () =>
      if (self.active.lookup request.id).isSome then
        .handled .invalid [(JsonRpcResponse.error (some request.id)
          (.invalidRequest "subscription request id is already active")).toJson]
      else .dispatch request

def handleInput (self : StdioSubscriptions) (service : JsonRpcService) (parsed : Json) :
    StdioSubscriptionInput × StdioSubscriptions :=
  match self.cancelledBy parsed with
  | some requestId => (.handled .notification [], { active := self.active.erase requestId })
  | none =>
    if isModernListen parsed then (self.handleListen service parsed, self)
    else (.notHandled, self)

def completeListen (self : StdioSubscriptions) (requestId : RequestId)
    (response : JsonRpcResponse) : List Json × StdioSubscriptions :=
  match response with
  | .error _ _ => ([response.toJson], self)
  | .result _ result =>
    match (result.get "notifications").bind SubscriptionFilter.fromJson with
    | some accepted =>
      ([subscriptionAcknowledgment requestId accepted],
        { active := self.active.insert requestId accepted })
    | none =>
      ([(JsonRpcResponse.error (some requestId) (.internalError
        "subscriptions/listen produced an unrecognized service result")).toJson], self)

end StdioSubscriptions

/-! ## The receive paths -/

/-- What became of a value: what it was taken for, the frames for the client, and whether the loop is
left with an error. -/
structure Received where
  treatment : Treatment
  frames : List Json := []
  failed : Bool := false
  subscriptions : StdioSubscriptions

/-- A receive path. `process_input` looks for subscriptions when its transport has a receiver for
notifications. -/
inductive ReceivePath where
  | processLine
  | processInput (subscriptionsEnabled : Bool)
  | handleIncomingMessage

structure Processed where
  treatment : Treatment
  outcome : Except String (Option Json)

namespace JsonRpcService

def handleNotification (service : JsonRpcService) (notification : JsonRpcNotification) :
    Except String Unit :=
  (McpNotification.fromJsonrpc service.serde notification).map fun _ => ()

def inspectionFailure (parsed : Json) (error : JsonRpcError) : Json :=
  (JsonRpcResponse.error (errorResponseId parsed error) error).toJson

def answerFrames : Except String (Option Json) → List Json
  | .ok response => response.toList
  | .error error => [parseErrorResponse error]

def processLine (service : JsonRpcService) (parsed : Json) : Processed :=
  match classifyFrame parsed with
  | .notification =>
    match service.inspectIncomingValue parsed with
    | .error _ => ⟨.notification, .ok none⟩
    | .ok _ =>
      match JsonRpcNotification.fromJson parsed with
      | some notification =>
        ⟨.notification, (service.handleNotification notification).map fun _ => none⟩
      | none => ⟨.notification, .ok none⟩
  | .response => ⟨.response, .ok none⟩
  | .request =>
    match service.inspectIncomingValue parsed with
    | .error error => ⟨.invalid, .ok (some (inspectionFailure parsed error))⟩
    | .ok _ =>
      match JsonRpcMessage.fromJson parsed with
      | none => ⟨.invalid, .ok (some (parseErrorResponse "not a valid JSON-RPC request"))⟩
      | some message => ⟨.request, service.call message⟩

/-- What `process_line` comes to for the loop of `StdioTransport`. -/
def afterInput (service : JsonRpcService) (subscriptions : StdioSubscriptions) (parsed : Json) :
    Received :=
  let processed := service.processLine parsed
  { treatment := processed.treatment, frames := answerFrames processed.outcome, subscriptions }

/-- Process an input of `GenericStdioTransport`. -/
def processInput (service : JsonRpcService) (subscriptions : StdioSubscriptions) (parsed : Json) :
    Received :=
  match service.inspectIncomingValue parsed with
  | .error error =>
    { treatment := .invalid, frames := [inspectionFailure parsed error], subscriptions }
  | .ok _ =>
    if !parsed.isArray && (parsed.get "id").isNone then
      { treatment := .notification, subscriptions }
    else
      match JsonRpcMessage.fromJson parsed with
      | none =>
        { treatment := .invalid
          frames := [parseErrorResponse (service.serde.errorText "JsonRpcMessage" parsed)]
          subscriptions }
      | some message =>
        { treatment := .request, frames := answerFrames (service.call message), subscriptions }

/-- What `handle_incoming_message` does after the subscriptions. A notification that the router
refuses ends the loop. -/
def dispatchIncoming (service : JsonRpcService) (subscriptions : StdioSubscriptions)
    (parsed : Json) : Received :=
  if !parsed.isArray && (parsed.get "id").isNone then
    match JsonRpcNotification.fromJson parsed with
    | some notification =>
      { treatment := .notification
        failed := (service.handleNotification notification).toOption.isNone
        subscriptions }
    | none => { treatment := .notification, subscriptions }
  else
    match JsonRpcMessage.fromJson parsed with
    | none =>
      { treatment := .invalid
        frames := [parseErrorResponse (service.serde.errorText "JsonRpcMessage" parsed)]
        subscriptions }
    | some message =>
      { treatment := .request, frames := answerFrames (service.call message), subscriptions }

def withSubscriptions (service : JsonRpcService) (subscriptions : StdioSubscriptions)
    (parsed : Json) (process : StdioSubscriptions → Received) : Received :=
  match subscriptions.handleInput service parsed with
  | (.handled treatment frames, subscriptions) => { treatment, frames, subscriptions }
  | (.dispatch request, subscriptions) =>
    let completed := subscriptions.completeListen request.id (service.listen request)
    { treatment := .request, frames := completed.1, subscriptions := completed.2 }
  | (.notHandled, subscriptions) => process subscriptions

def receive (service : JsonRpcService) (path : ReceivePath) (subscriptions : StdioSubscriptions)
    (parsed : Json) : Received :=
  match path with
  | .processLine =>
    service.withSubscriptions subscriptions parsed fun subscriptions =>
      service.afterInput subscriptions parsed
  | .processInput true =>
    service.withSubscriptions subscriptions parsed fun subscriptions =>
      service.processInput subscriptions parsed
  | .processInput false => service.processInput subscriptions parsed
  | .handleIncomingMessage =>
    match service.inspectIncomingValue parsed with
    | .error error =>
      { treatment := .invalid, frames := [inspectionFailure parsed error], subscriptions }
    | .ok _ =>
      -- The response goes to the request of the server that waits for it.
      if isResponseFrame parsed then { treatment := .response, subscriptions }
      else
        service.withSubscriptions subscriptions parsed fun subscriptions =>
          service.dispatchIncoming subscriptions parsed

end JsonRpcService

/-! ## Which values are received well -/

def Treatment.Agrees : Treatment → FrameClass → Prop
  | .notification, kind => kind = .notification
  | .response, kind => kind = .response
  | .request, kind | .invalid, kind => kind = .request

/-- A value is received well when it is taken for what its shape says, and nothing is sent back for a
notification or a response. -/
structure Received.Meets (received : Received) (value : Json) : Prop where
  agrees : received.treatment.Agrees (classifyFrame value)
  silent : classifyFrame value ≠ .request → received.frames = []

namespace JsonRpcService

def inspected (service : JsonRpcService) (value : Json) : Bool :=
  (service.inspectIncomingValue value).toOption.isSome

/-- When a path receives a value well. Every path does with a request, and the one of
`StdioTransport` always does. -/
def Receives (service : JsonRpcService) (path : ReceivePath) (subscriptions : StdioSubscriptions)
    (value : Json) : Prop :=
  classifyFrame value = .request ∨
    match path with
    | .processLine => True
    | .processInput enabled =>
      classifyFrame value = .notification ∧
        (service.inspected value = true ∨
          enabled = true ∧ (subscriptions.cancelledBy value).isSome = true)
    | .handleIncomingMessage =>
      service.inspected value = true ∧
        ¬ (classifyFrame value = .notification ∧ isResponseFrame value = true)

variable {service : JsonRpcService} {subscriptions : StdioSubscriptions} {value : Json}

theorem classify_frame_eq_notification_iff :
    classifyFrame value = .notification ↔ (!value.isArray && (value.get "id").isNone) = true := by
  unfold classifyFrame
  split
  next h => simp [h]
  next h =>
    constructor
    · intro hclass
      split at hclass <;> cases hclass
    · intro hshape
      exact absurd hshape h

theorem classify_frame_of_not_notification (h : classifyFrame value ≠ .notification) :
    classifyFrame value = if isResponseFrame value then .response else .request := by
  unfold classifyFrame
  rw [if_neg fun hshape => h (classify_frame_eq_notification_iff.2 hshape)]

theorem not_is_array_of_get {key : String} {item : Json} (h : value.get key = some item) :
    value.isArray = false := by
  obtain ⟨fields, rfl⟩ := Json.eq_object_of_get h
  rfl

theorem classify_frame_of_modern_listen (h : StdioSubscriptions.isModernListen value = true) :
    classifyFrame value = .request := by
  unfold StdioSubscriptions.isModernListen at h
  simp only [Bool.and_eq_true, beq_iff_eq] at h
  obtain ⟨⟨hmethod, hid⟩, -⟩ := h
  obtain ⟨method, hget, -⟩ := Option.bind_eq_some_iff.1 hmethod
  obtain ⟨id, hid⟩ := Option.isSome_iff_exists.1 hid
  simp [classifyFrame, isResponseFrame, hget, hid]

theorem classify_frame_of_cancelled_by (h : (subscriptions.cancelledBy value).isSome = true) :
    classifyFrame value = .notification := by
  obtain ⟨requestId, h⟩ := Option.isSome_iff_exists.1 h
  obtain ⟨⟨hmethod, hid⟩, -⟩ := Option.ite_none_right_eq_some.1 h
  obtain ⟨method, hget, -⟩ := Option.bind_eq_some_iff.1 hmethod
  rw [classify_frame_eq_notification_iff, not_is_array_of_get hget, hid]
  rfl

theorem with_subscriptions_of_not_request (service : JsonRpcService)
    (subscriptions : StdioSubscriptions) (h : classifyFrame value ≠ .request)
    (process : StdioSubscriptions → Received) :
    (∃ requestId, subscriptions.cancelledBy value = some requestId ∧
      service.withSubscriptions subscriptions value process =
        { treatment := .notification
          subscriptions := { active := subscriptions.active.erase requestId } }) ∨
    (subscriptions.cancelledBy value = none ∧
      service.withSubscriptions subscriptions value process = process subscriptions) := by
  unfold withSubscriptions StdioSubscriptions.handleInput
  cases hcancelled : subscriptions.cancelledBy value with
  | some requestId => exact .inl ⟨requestId, rfl, rfl⟩
  | none =>
    have hlisten : StdioSubscriptions.isModernListen value = false := by
      cases hlisten : StdioSubscriptions.isModernListen value with
      | false => rfl
      | true => exact absurd (classify_frame_of_modern_listen hlisten) h
    exact .inr ⟨rfl, by simp [hlisten]⟩

theorem handle_listen_cases (service : JsonRpcService) (subscriptions : StdioSubscriptions)
    (value : Json) :
    (∃ frames, subscriptions.handleListen service value = .handled .invalid frames) ∨
      ∃ request, subscriptions.handleListen service value = .dispatch request := by
  unfold StdioSubscriptions.handleListen
  split
  next => exact .inl ⟨_, rfl⟩
  next request _ =>
    split
    next => exact .inl ⟨_, rfl⟩
    next =>
      split
      next => exact .inl ⟨_, rfl⟩
      next => exact .inr ⟨request, rfl⟩

variable {process : StdioSubscriptions → Received}

theorem with_subscriptions_of_request (h : classifyFrame value = .request)
    (hprocess : ∀ left, (process left).treatment.Agrees .request) :
    (service.withSubscriptions subscriptions value process).treatment.Agrees .request := by
  unfold withSubscriptions StdioSubscriptions.handleInput
  cases hcancelled : subscriptions.cancelledBy value with
  | some requestId =>
    have hclass := classify_frame_of_cancelled_by (Option.isSome_iff_exists.2 ⟨_, hcancelled⟩)
    cases h.symm.trans hclass
  | none =>
    cases hlisten : StdioSubscriptions.isModernListen value with
    | false => simpa using hprocess subscriptions
    | true =>
      simp only [if_true]
      obtain ⟨frames, hhandled⟩ | ⟨request, hdispatch⟩ :=
        handle_listen_cases service subscriptions value
      · simp only [hhandled]
        rfl
      · simp only [hdispatch]
        rfl

theorem meets_with_subscriptions_iff {P : Prop} (hprocess : ∀ left, (process left).Meets value ↔ P)
    (hrequest : classifyFrame value = .request → P) :
    (service.withSubscriptions subscriptions value process).Meets value ↔
      P ∨ (subscriptions.cancelledBy value).isSome = true := by
  by_cases hclass : classifyFrame value = .request
  · refine ⟨fun _ => .inl (hrequest hclass), fun _ => ⟨?_, fun hother => absurd hclass hother⟩⟩
    rw [hclass]
    refine with_subscriptions_of_request hclass fun left => ?_
    rw [← hclass]
    exact ((hprocess left).2 (hrequest hclass)).agrees
  · obtain ⟨requestId, hcancelled, hhandled⟩ | ⟨hcancelled, hhandled⟩ :=
      with_subscriptions_of_not_request service subscriptions hclass process
    · have hcancels : (subscriptions.cancelledBy value).isSome = true := by
        rw [hcancelled, Option.isSome_some]
      rw [hhandled]
      exact ⟨fun _ => .inr hcancels, fun _ => ⟨classify_frame_of_cancelled_by hcancels, fun _ => rfl⟩⟩
    · rw [hhandled, hprocess, hcancelled]
      simp

theorem inspected_cases (service : JsonRpcService) (value : Json) :
    (∃ methods, service.inspectIncomingValue value = .ok methods ∧
      service.inspected value = true) ∨
    ∃ error, service.inspectIncomingValue value = .error error ∧
      service.inspected value = false := by
  unfold inspected
  cases service.inspectIncomingValue value with
  | ok methods => exact .inl ⟨methods, rfl, rfl⟩
  | error error => exact .inr ⟨error, rfl, rfl⟩

theorem handle_notification_of_inspected {methods : List McpMethodInspection}
    {notification : JsonRpcNotification}
    (h : service.inspectIncomingValue value = .ok methods) (hid : value.get "id" = none)
    (hread : JsonRpcNotification.fromJson value = some notification) :
    service.handleNotification notification = .ok () := by
  obtain ⟨revision, -, h⟩ := Fallible.bind_eq_ok.1 h
  unfold inspectRuntimeValue at h
  split at h
  · cases h
  have hinspect := Fallible.map_error_eq_ok.1 h
  unfold McpInspector.inspect at hinspect
  split at hinspect
  next payload hpayload =>
    rw [inspect_eq_notification hpayload hid hread] at hinspect
    obtain ⟨call, hcall, -⟩ := Fallible.map_eq_ok.1 hinspect
    unfold handleNotification McpNotification.fromJsonrpc
    dsimp only
    split
    · rfl
    split
    next hmethod =>
      obtain ⟨params, hparams⟩ :=
        Option.isSome_iff_exists.1 (cancelled_params_of_inspected hcall hmethod)
      rw [hparams]
      rfl
    next =>
      split
      next hmethod =>
        obtain ⟨params, hparams⟩ :=
          Option.isSome_iff_exists.1 (progress_params_of_inspected hcall hmethod)
        rw [hparams]
        rfl
      next =>
        split <;> rfl
  next => cases hinspect

theorem meets_after_input (service : JsonRpcService) (subscriptions : StdioSubscriptions)
    (value : Json) : (service.afterInput subscriptions value).Meets value := by
  cases hclass : classifyFrame value with
  | notification =>
    have hid : value.get "id" = none := by
      have hshape := classify_frame_eq_notification_iff.1 hclass
      simp only [Bool.and_eq_true, Option.isNone_iff_eq_none] at hshape
      exact hshape.2
    have hsilent : service.processLine value = ⟨.notification, .ok none⟩ := by
      unfold processLine
      rw [hclass]
      cases hinspect : service.inspectIncomingValue value with
      | error error => rfl
      | ok methods =>
        cases hread : JsonRpcNotification.fromJson value with
        | none => rfl
        | some notification =>
          dsimp only
          rw [handle_notification_of_inspected hinspect hid hread]
          rfl
    unfold afterInput
    rw [hsilent]
    exact ⟨hclass, fun _ => rfl⟩
  | response =>
    unfold afterInput processLine
    rw [hclass]
    exact ⟨hclass, fun _ => rfl⟩
  | request =>
    refine ⟨?_, fun hother => absurd hclass hother⟩
    unfold afterInput processLine
    rw [hclass]
    cases service.inspectIncomingValue value with
    | error error => exact rfl
    | ok methods =>
      cases JsonRpcMessage.fromJson value with
      | none => exact rfl
      | some message => exact rfl

theorem meets_refused_iff {frame : Json} :
    Received.Meets { treatment := .invalid, frames := [frame], subscriptions } value ↔
      classifyFrame value = .request :=
  ⟨fun h => h.agrees, fun h => ⟨h, fun hother => absurd h hother⟩⟩

theorem message_of_response (h : classifyFrame value = .response) :
    JsonRpcMessage.fromJson value = none := by
  have hshape : isResponseFrame value = true := by
    have hother : classifyFrame value ≠ .notification := by simp [h]
    have hclass := classify_frame_of_not_notification hother
    rw [h] at hclass
    split at hclass
    next hshape => exact hshape
    next => cases hclass
  unfold isResponseFrame at hshape
  simp only [Bool.and_eq_true, Bool.not_eq_true', Option.isNone_iff_eq_none] at hshape
  obtain ⟨⟨harray, hmethod⟩, -⟩ := hshape
  have hread : JsonRpcRequest.fromJson value = none := by
    simp [JsonRpcRequest.fromJson, hmethod]
  cases value with
  | array items => cases harray
  | null | bool | number | string | object =>
    simp only [JsonRpcMessage.fromJson, hread, Option.map_none]

theorem meets_process_input_iff (service : JsonRpcService) (subscriptions : StdioSubscriptions)
    (value : Json) :
    (service.processInput subscriptions value).Meets value ↔
      classifyFrame value = .request ∨
        classifyFrame value = .notification ∧ service.inspected value = true := by
  unfold processInput
  obtain ⟨methods, hinspect, hinspected⟩ | ⟨error, hinspect, hinspected⟩ :=
    inspected_cases service value
  · rw [hinspect, hinspected]
    cases hclass : classifyFrame value with
    | notification =>
      rw [if_pos (classify_frame_eq_notification_iff.1 hclass)]
      exact ⟨fun _ => .inr ⟨rfl, rfl⟩, fun _ => ⟨hclass, fun _ => rfl⟩⟩
    | response =>
      have hshape := mt classify_frame_eq_notification_iff.2 (by rw [hclass]; nofun)
      rw [if_neg hshape, message_of_response hclass]
      dsimp only
      rw [meets_refused_iff, hclass]
      simp
    | request =>
      rw [if_neg (mt classify_frame_eq_notification_iff.2 (by rw [hclass]; nofun))]
      refine ⟨fun _ => .inl rfl, fun _ => ⟨?_, fun hother => absurd hclass hother⟩⟩
      cases JsonRpcMessage.fromJson value with
      | none => exact hclass
      | some message => exact hclass
  · rw [hinspect, hinspected]
    rw [meets_refused_iff]
    simp

theorem meets_dispatch_incoming (service : JsonRpcService) (subscriptions : StdioSubscriptions)
    (hshape : isResponseFrame value = false) :
    (service.dispatchIncoming subscriptions value).Meets value := by
  unfold dispatchIncoming
  cases hclass : classifyFrame value with
  | notification =>
    rw [if_pos (classify_frame_eq_notification_iff.1 hclass)]
    cases JsonRpcNotification.fromJson value with
    | none => exact ⟨hclass, fun _ => rfl⟩
    | some notification => exact ⟨hclass, fun _ => rfl⟩
  | response =>
    have hother : classifyFrame value ≠ .notification := by simp [hclass]
    have hresponse := classify_frame_of_not_notification hother
    rw [hshape, hclass] at hresponse
    cases hresponse
  | request =>
    rw [if_neg (mt classify_frame_eq_notification_iff.2 (by rw [hclass]; nofun))]
    cases JsonRpcMessage.fromJson value with
    | none => exact ⟨hclass, fun hother => absurd hclass hother⟩
    | some message => exact ⟨hclass, fun hother => absurd hclass hother⟩

theorem classify_frame_of_response_frame (hshape : isResponseFrame value = true)
    (hclass : classifyFrame value ≠ .notification) : classifyFrame value = .response := by
  rw [classify_frame_of_not_notification hclass, if_pos hshape]

/-- What every path makes of a value agrees with its class and leaves what is no request unanswered,
exactly when the path receives it. -/
theorem received_iff (service : JsonRpcService) (path : ReceivePath)
    (subscriptions : StdioSubscriptions) (value : Json) :
    (service.receive path subscriptions value).Meets value ↔
      service.Receives path subscriptions value := by
  cases path with
  | processLine =>
    unfold receive Receives
    rw [meets_with_subscriptions_iff (P := True)
      (fun left => iff_true_intro (meets_after_input service left value)) fun _ => trivial]
    simp
  | processInput enabled =>
    cases enabled with
    | true =>
      unfold receive Receives
      rw [meets_with_subscriptions_iff (fun left => meets_process_input_iff service left value)
        Or.inl]
      have hcancels : (subscriptions.cancelledBy value).isSome = true →
          classifyFrame value = .notification := classify_frame_of_cancelled_by
      tauto
    | false =>
      unfold receive Receives
      rw [meets_process_input_iff]
      simp
  | handleIncomingMessage =>
    unfold receive Receives
    obtain ⟨methods, hinspect, hinspected⟩ | ⟨error, hinspect, hinspected⟩ :=
      inspected_cases service value
    · rw [hinspect, hinspected]
      cases hshape : isResponseFrame value with
      | true =>
        simp only [if_true]
        constructor
        · intro hmeets
          have hclass : classifyFrame value = .response := hmeets.agrees
          exact .inr ⟨trivial, fun hother => by cases hclass.symm.trans hother.1⟩
        · intro hreceives
          refine ⟨classify_frame_of_response_frame hshape ?_, fun _ => rfl⟩
          intro hclass
          obtain hrequest | ⟨-, hother⟩ := hreceives
          · cases hclass.symm.trans hrequest
          · exact hother ⟨hclass, trivial⟩
      | false =>
        simp only [Bool.false_eq_true, if_false]
        rw [meets_with_subscriptions_iff (P := True)
          (fun left => iff_true_intro (meets_dispatch_incoming service left hshape))
          fun _ => trivial]
        simp
    · rw [hinspect, hinspected]
      rw [meets_refused_iff]
      simp

def answering : JsonRpcService where
  serde :=
    { decode := fun _ _ => .ok ()
      listenNotifications := fun _ => .ok none
      requestMeta := fun _ => .error "missing field"
      errorText := fun _ _ => "invalid type" }
  protocolSupport := ⟨supportedProtocolVersions, supported_protocol_versions_ne_nil⟩
  call := fun _ => .ok (some .null)
  listen := fun request => .result request.id .null
  validateRequestProtocol := fun _ => .ok ()

def listWithoutId : Json :=
  .object [("jsonrpc", .string "2.0"), ("method", .string "tools/list")]

def emptyResult : Json :=
  .object [("jsonrpc", .string "2.0"), ("id", .number (.posInt 1)), ("result", .object [])]

/-- Two of the paths answer a notification that is no such method, and one of them answers every
response. -/
theorem notification_and_response_answered :
    classifyFrame listWithoutId = .notification ∧
      (answering.receive (.processInput true) {} listWithoutId).frames ≠ [] ∧
      (answering.receive .handleIncomingMessage {} listWithoutId).frames ≠ [] ∧
      classifyFrame emptyResult = .response ∧
      (answering.receive (.processInput true) {} emptyResult).frames ≠ [] := by
  decide +kernel

end JsonRpcService

end TowerMcp
