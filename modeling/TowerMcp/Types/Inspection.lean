import TowerMcp.Lib.Fallible
import TowerMcp.Types.Subscriptions

/-!
# Inspection of JSON-RPC values

What the types crate makes of a decoded value, after `inspection.rs` and `inspection/mcp.rs`: first
whether it is one envelope or a batch of them, then whether one revision of the protocol allows its
methods and parameters. Serde is a parameter where the parameters of a request are only read to be
dropped. `cancelled_params_of_inspected` and `progress_params_of_inspected` say what an inspected
notification can be read as.
-/

namespace Json

def isString (value : Json) : Bool :=
  value.asStr.isSome

def isObject (value : Json) : Bool :=
  value.asObject.isSome

end Json

namespace TowerMcp

/-! ## Envelopes -/

def jsonrpcVersion : String := "2.0"

structure JsonRpcNotification where
  jsonrpc : String
  method : String
  params : Option Json := none

/-- Read a notification out of an object. Parameters that are `null` are absent. -/
def JsonRpcNotification.fromJson (value : Json) : Option JsonRpcNotification := do
  let jsonrpc ← (← value.get "jsonrpc").asStr
  let method ← (← value.get "method").asStr
  pure { jsonrpc, method, params := (value.get "params").filter fun params => !params.isNull }

def JsonRpcError.fromJson (value : Json) : Option JsonRpcError := do
  match ← value.structFields ["code", "message", "data"] 3 with
  | [code, message, data] =>
    let code ← (← code).asI64
    let message ← (← message).asStr
    let data ← Json.optionalField some data
    if -2 ^ 31 ≤ code ∧ code < 2 ^ 31 then pure { code, message, data } else none
  | _ => none

inductive JsonRpcEnvelope where
  | request (request : JsonRpcRequest)
  | notification (notification : JsonRpcNotification)
  | result (id : RequestId) (result : Json)
  | error (id : Option RequestId) (error : JsonRpcError)

inductive JsonRpcBatchKind where
  | calls
  | responses
deriving DecidableEq

def JsonRpcBatchKind.display : JsonRpcBatchKind → String
  | .calls => "calls"
  | .responses => "responses"

def JsonRpcEnvelope.batchKind : JsonRpcEnvelope → JsonRpcBatchKind
  | .request _ | .notification _ => .calls
  | .result _ _ | .error _ _ => .responses

inductive JsonRpcPayload where
  | single (envelope : JsonRpcEnvelope)
  | batch (messages : List JsonRpcEnvelope)

inductive JsonRpcInspectionErrorKind where
  | invalidTopLevel
  | invalidBatchMember
  | emptyBatch
  | mixedBatch
  | missingField
  | invalidField
  | invalidVersion
  | conflictingFields
  | invalidEnvelope
deriving DecidableEq

structure JsonRpcInspectionError where
  kind : JsonRpcInspectionErrorKind
  field : Option String
  detail : String
  batchIndex : Option ℕ := none

def JsonRpcInspectionError.atBatchIndex (error : JsonRpcInspectionError) (index : ℕ) :
    JsonRpcInspectionError :=
  { error with
    detail := "batch item " ++ toString index ++ ": " ++ error.detail
    batchIndex := some index }

/-- A `_meta` object of a request, as far as it is checked. -/
structure RequestMeta where
  protocolVersion : Option String
  clientCapabilities : Option Json

inductive ParamsType where
  | initializeParams
  | complete
  | setLogLevel
  | getPrompt
  | listPrompts
  | listResources
  | listResourceTemplates
  | readResource
  | subscribeResource
  | unsubscribeResource
  | callTool
  | listTools
  | createMessage
  | listRoots
  | elicitForm
  | elicitRequest
  | getTask
  | getTaskResult
  | listTasks
  | cancelTask
  | discover
  | loggingMessage
  | taskStatus
  | elicitationComplete
  | subscriptionsAcknowledged

/-- Serde on the types whose values are not looked into, and the text of its failure to read a value
as a type. -/
structure Serde where
  decode : ParamsType → Json → Except String Unit
  listenNotifications : Json → Except String (Option SubscriptionFilter)
  requestMeta : Json → Except String RequestMeta
  errorText : String → Json → String

section

variable (serde : Serde)

/-- The `params` of a call are an object or an array. -/
def inspectParams (value : Json) : Except JsonRpcInspectionError Unit :=
  match value.get "params" with
  | none | some (.object _) | some (.array _) => .ok ()
  | some _ => .error
      { kind := .invalidField, field := some "params"
        detail := "JSON-RPC `params` field must be an object or array when present" }

def inspectVersion (value : Json) : Except JsonRpcInspectionError Unit :=
  match value.get "jsonrpc" with
  | none => .error
      { kind := .missingField, field := some "jsonrpc"
        detail := "JSON-RPC envelope is missing `jsonrpc`" }
  | some (.string version) =>
    if version = jsonrpcVersion then .ok ()
    else .error
      { kind := .invalidVersion, field := some "jsonrpc"
        detail := "JSON-RPC version must be `" ++ jsonrpcVersion ++ "`, got `" ++ version ++ "`" }
  | some _ => .error
      { kind := .invalidField, field := some "jsonrpc"
        detail := "JSON-RPC `jsonrpc` field must be a string" }

def inspectMethod (value : Json) : Except JsonRpcInspectionError Unit :=
  match value.get "method" with
  | some (.string method) =>
    if method ≠ "" then .ok ()
    else .error
      { kind := .invalidField, field := some "method"
        detail := "JSON-RPC `method` field must not be empty" }
  | some _ => .error
      { kind := .invalidField, field := some "method"
        detail := "JSON-RPC `method` field must be a string" }
  | none => .error
      { kind := .missingField, field := some "method"
        detail := "JSON-RPC call is missing `method`" }

def inspectNonNullId (value : Json) (context : String) : Except JsonRpcInspectionError RequestId :=
  match value.get "id" with
  | none => .error
      { kind := .missingField, field := some "id"
        detail := "JSON-RPC " ++ context ++ " is missing `id`" }
  | some id =>
    match RequestId.fromJson id with
    | some id => .ok id
    | none => .error
        { kind := .invalidField, field := some "id"
          detail := "JSON-RPC " ++ context ++ " `id` must be a string or signed integer" }

def inspectOptionalErrorId (value : Json) :
    Except JsonRpcInspectionError (Option RequestId) :=
  match value.get "id" with
  | none | some .null => .ok none
  | some id =>
    match RequestId.fromJson id with
    | some id => .ok (some id)
    | none => .error
        { kind := .invalidField, field := some "id"
          detail :=
            "JSON-RPC error response `id` must be null, a string, or a signed integer" }

def decodeEnvelope {α : Type} (read : Option α) (value : Json) (context : String)
    (field : Option String) : Except JsonRpcInspectionError α :=
  match read with
  | some decoded => .ok decoded
  | none => .error
      { kind := .invalidField, field
        detail := "invalid JSON-RPC " ++ context ++ ": " ++ serde.errorText context value }

def inspectCallEnvelope (value : Json) : Except JsonRpcInspectionError JsonRpcEnvelope := do
  inspectMethod value
  inspectParams value
  if (value.get "id").isSome then
    let _ ← inspectNonNullId value "request"
    let request ← decodeEnvelope serde (JsonRpcRequest.fromJson value) value "request" none
    return .request request
  else
    let notification ←
      decodeEnvelope serde (JsonRpcNotification.fromJson value) value "notification" none
    return .notification notification

def inspectEnvelope (value : Json) : Except JsonRpcInspectionError JsonRpcEnvelope := do
  inspectVersion value
  let hasMethod := (value.get "method").isSome
  let hasResult := (value.get "result").isSome
  let hasError := (value.get "error").isSome
  if hasMethod && (hasResult || hasError) then
    .error
      { kind := .conflictingFields, field := some "method"
        detail := "JSON-RPC envelope cannot contain both `method` and `result`/`error`" }
  else if hasResult && hasError then
    .error
      { kind := .conflictingFields, field := some "result"
        detail := "JSON-RPC response cannot contain both `result` and `error`" }
  else if hasMethod then
    inspectCallEnvelope serde value
  else if hasResult then
    let id ← inspectNonNullId value "success response"
    let result ← decodeEnvelope serde (value.get "result") value "success response" none
    return .result id result
  else if hasError then
    let id ← inspectOptionalErrorId value
    let error ← decodeEnvelope serde ((value.get "error").bind JsonRpcError.fromJson) value
      "error response" (some "error")
    return .error id error
  else
    .error
      { kind := .invalidEnvelope, field := none
        detail := "JSON-RPC object must contain `method`, `result`, or `error`" }

def inspectMembers (index : ℕ) (kind : Option JsonRpcBatchKind) :
    List Json → Except JsonRpcInspectionError (List JsonRpcEnvelope)
  | [] => .ok []
  | item :: rest => do
    if !item.isObject then
      throw (JsonRpcInspectionError.atBatchIndex
        { kind := .invalidBatchMember, field := none
          detail := "JSON-RPC batch member must be an object" } index)
    let envelope ← (inspectEnvelope serde item).mapError fun error => error.atBatchIndex index
    match kind.filter fun expected => envelope.batchKind ≠ expected with
    | some expected =>
      throw (JsonRpcInspectionError.atBatchIndex
        { kind := .mixedBatch, field := none
          detail := "JSON-RPC batch cannot mix " ++ expected.display ++ " with " ++
            envelope.batchKind.display } index)
    | none =>
      let messages ← inspectMembers (index + 1) (some envelope.batchKind) rest
      return envelope :: messages

def inspectBatch (items : List Json) : Except JsonRpcInspectionError (List JsonRpcEnvelope) :=
  if items = [] then .error
    { kind := .emptyBatch, field := none
      detail := "JSON-RPC batch must contain at least one message" }
  else inspectMembers serde 0 none items

def JsonRpcPayload.inspect (value : Json) : Except JsonRpcInspectionError JsonRpcPayload :=
  match value with
  | .object _ => (inspectEnvelope serde value).map .single
  | .array items => (inspectBatch serde items).map .batch
  | _ => .error
      { kind := .invalidTopLevel, field := none
        detail := "JSON-RPC payload must be an object or array" }

end

/-! ## Revisions -/

inductive McpProtocolRevision where
  | v20250326
  | v20250618
  | v20251125
  | v20260728
deriving DecidableEq

namespace McpProtocolRevision

def asStr : McpProtocolRevision → String
  | .v20250326 => "2025-03-26"
  | .v20250618 => "2025-06-18"
  | .v20251125 => "2025-11-25"
  | .v20260728 => "2026-07-28"

def fromStr (revision : String) : Option McpProtocolRevision :=
  if revision = "2025-03-26" then some .v20250326
  else if revision = "2025-06-18" then some .v20250618
  else if revision = "2025-11-25" then some .v20251125
  else if revision = "2026-07-28" then some .v20260728
  else none

end McpProtocolRevision

/-- The revisions with an `initialize` handshake. -/
def legacyRevisions : List McpProtocolRevision := [.v20250326, .v20250618, .v20251125]

def allRevisions : List McpProtocolRevision := legacyRevisions ++ [.v20260728]

inductive McpDirection where
  | clientToServer
  | serverToClient
deriving DecidableEq

def McpDirection.display : McpDirection → String
  | .clientToServer => "client-to-server"
  | .serverToClient => "server-to-client"

inductive McpCallKind where
  | request
  | notification
deriving DecidableEq

def McpCallKind.display : McpCallKind → String
  | .request => "request"
  | .notification => "notification"

inductive ParamsValidator where
  | object
  | typed (type : ParamsType)
  | elicit
  | subscriptionsListen
  | cancelled
  | progress
  | loggingMessage
  | resourceUpdated

/-- What a revision says about a method: its kind, the revisions that know it in each direction, and
those that require parameters. -/
structure MethodRule where
  name : String
  kind : McpCallKind
  clientToServer : List McpProtocolRevision
  serverToClient : List McpProtocolRevision
  requiredParams : List McpProtocolRevision
  validator : ParamsValidator

namespace MethodRule

def availableIn (rule : MethodRule) (revision : McpProtocolRevision) : Bool :=
  decide (revision ∈ rule.clientToServer ∨ revision ∈ rule.serverToClient)

def allows (rule : MethodRule) (revision : McpProtocolRevision) : McpDirection → Bool
  | .clientToServer => decide (revision ∈ rule.clientToServer)
  | .serverToClient => decide (revision ∈ rule.serverToClient)

def requiresParams (rule : MethodRule) (revision : McpProtocolRevision) : Bool :=
  decide (revision ∈ rule.requiredParams)

end MethodRule

def requestRules : List MethodRule :=
  [⟨"initialize", .request, legacyRevisions, [], legacyRevisions, .typed .initializeParams⟩,
    ⟨"ping", .request, legacyRevisions, legacyRevisions, [], .object⟩,
    ⟨"completion/complete", .request, allRevisions, [], allRevisions, .typed .complete⟩,
    ⟨"logging/setLevel", .request, legacyRevisions, [], legacyRevisions, .typed .setLogLevel⟩,
    ⟨"prompts/get", .request, allRevisions, [], allRevisions, .typed .getPrompt⟩,
    ⟨"prompts/list", .request, allRevisions, [], [.v20260728], .typed .listPrompts⟩,
    ⟨"resources/list", .request, allRevisions, [], [.v20260728], .typed .listResources⟩,
    ⟨"resources/templates/list", .request, allRevisions, [], [.v20260728],
      .typed .listResourceTemplates⟩,
    ⟨"resources/read", .request, allRevisions, [], allRevisions, .typed .readResource⟩,
    ⟨"resources/subscribe", .request, legacyRevisions, [], legacyRevisions,
      .typed .subscribeResource⟩,
    ⟨"resources/unsubscribe", .request, legacyRevisions, [], legacyRevisions,
      .typed .unsubscribeResource⟩,
    ⟨"tools/call", .request, allRevisions, [], allRevisions, .typed .callTool⟩,
    ⟨"tools/list", .request, allRevisions, [], [.v20260728], .typed .listTools⟩,
    ⟨"sampling/createMessage", .request, [], legacyRevisions, legacyRevisions,
      .typed .createMessage⟩,
    ⟨"roots/list", .request, [], legacyRevisions, [], .typed .listRoots⟩,
    ⟨"elicitation/create", .request, [], [.v20250618, .v20251125], [.v20250618, .v20251125],
      .elicit⟩,
    ⟨"tasks/get", .request, [.v20251125], [.v20251125], [.v20251125], .typed .getTask⟩,
    ⟨"tasks/result", .request, [.v20251125], [.v20251125], [.v20251125], .typed .getTaskResult⟩,
    ⟨"tasks/list", .request, [.v20251125], [.v20251125], [], .typed .listTasks⟩,
    ⟨"tasks/cancel", .request, [.v20251125], [.v20251125], [.v20251125], .typed .cancelTask⟩,
    ⟨"tasks/update", .request, [], [], [], .object⟩,
    ⟨"server/discover", .request, [.v20260728], [], [.v20260728], .typed .discover⟩,
    ⟨"subscriptions/listen", .request, [.v20260728], [], [.v20260728], .subscriptionsListen⟩]

def notificationRules : List MethodRule :=
  [⟨"notifications/cancelled", .notification, allRevisions, allRevisions, allRevisions,
      .cancelled⟩,
    ⟨"notifications/progress", .notification, legacyRevisions, allRevisions, allRevisions,
      .progress⟩,
    ⟨"notifications/initialized", .notification, legacyRevisions, [], [], .object⟩,
    ⟨"notifications/roots/list_changed", .notification, legacyRevisions, [], [], .object⟩,
    ⟨"notifications/message", .notification, [], allRevisions, allRevisions, .loggingMessage⟩,
    ⟨"notifications/resources/updated", .notification, [], allRevisions, allRevisions,
      .resourceUpdated⟩,
    ⟨"notifications/resources/list_changed", .notification, [], allRevisions, [], .object⟩,
    ⟨"notifications/tools/list_changed", .notification, [], allRevisions, [], .object⟩,
    ⟨"notifications/prompts/list_changed", .notification, [], allRevisions, [], .object⟩,
    ⟨"notifications/elicitation/complete", .notification, [], [.v20251125], [.v20251125],
      .typed .elicitationComplete⟩,
    ⟨"notifications/tasks/status", .notification, [.v20251125], [.v20251125], [.v20251125],
      .typed .taskStatus⟩,
    ⟨"notifications/subscriptions/acknowledged", .notification, [], [.v20260728], [.v20260728],
      .typed .subscriptionsAcknowledged⟩]

def methodRule (method : String) : Option MethodRule :=
  (requestRules ++ notificationRules).find? fun rule => rule.name = method

/-! ## Parameters -/

structure ProgressParams where
  progressToken : RequestId
  progress : JsonNumber
  total : Option JsonNumber
  message : Option String

def readProgressToken : Json → Option RequestId
  | .string token => some (.string token)
  | value => value.asI64.map .number

def asNumber : Json → Option JsonNumber
  | .number value => some value
  | _ => none

def ProgressParams.fromJson (value : Json) : Option ProgressParams := do
  match ← value.structFields ["progressToken", "progress", "total", "message", "_meta"] 4 with
  | [token, progress, total, message, metadata] =>
    let progressToken ← readProgressToken (← token)
    let progress ← asNumber (← progress)
    let total ← Json.optionalField asNumber total
    let message ← Json.optionalField Json.asStr message
    let _ ← Json.optionalField Json.asObject metadata
    pure { progressToken, progress, total, message }
  | _ => none

inductive McpInspectionErrorKind where
  | jsonRpc
  | batchUnavailable
  | initializeInBatch
  | messageKindMismatch
  | directionMismatch
  | missingParams
  | invalidParams
deriving DecidableEq

structure ParamsFailure where
  kind : McpInspectionErrorKind
  detail : String

namespace ParamsFailure

def missing : ParamsFailure :=
  { kind := .missingParams, detail := "required `params` field is missing" }

def invalid (detail : String) : ParamsFailure :=
  { kind := .invalidParams, detail }

end ParamsFailure

def paramsOrEmpty (params : Option Json) : Json :=
  params.getD (.object [])

section

variable (serde : Serde)

def decodeParams {α : Type} (read : Option α) (type : String) (params : Json) :
    Except ParamsFailure α :=
  match read with
  | some decoded => .ok decoded
  | none => .error (.invalid (serde.errorText type params))

def validate2026RequestMeta (params : Json) : Except ParamsFailure Unit :=
  match params.get "_meta" with
  | none => .error (.invalid "required `_meta` field is missing")
  | some metadata => do
    let metadata ← (serde.requestMeta metadata).mapError .invalid
    let missingKey (key : String) : ParamsFailure :=
      .invalid ("missing required _meta key for the negotiated protocol version: " ++ key)
    if metadata.protocolVersion = none then
      .error (missingKey "io.modelcontextprotocol/protocolVersion")
    else if metadata.clientCapabilities = none then
      .error (missingKey "io.modelcontextprotocol/clientCapabilities")
    else if metadata.protocolVersion ≠ some "2026-07-28" then
      .error (.invalid
        "`_meta[\"io.modelcontextprotocol/protocolVersion\"]` must equal `2026-07-28`")
    else .ok ()

def ParamsValidator.check (revision : McpProtocolRevision) (params : Json) :
    ParamsValidator → Except ParamsFailure Unit
  | .object => .ok ()
  | .typed type => (serde.decode type params).mapError .invalid
  | .elicit =>
    (serde.decode (if revision = .v20250618 then .elicitForm else .elicitRequest) params).mapError
      .invalid
  | .subscriptionsListen => do
    let filter ← (serde.listenNotifications params).mapError .invalid
    if filter.isNone then .error (.invalid "required `notifications` field is missing")
    else .ok ()
  | .cancelled => do
    let parsed ← decodeParams serde (CancelledParams.fromJson params) "CancelledParams" params
    if parsed.requestId = none then
      .error (.invalid "required non-null `requestId` field is missing")
    else .ok ()
  | .progress => do
    let _ ← decodeParams serde (ProgressParams.fromJson params) "ProgressParams" params
  | .loggingMessage =>
    if (params.get "data").isNone then .error (.invalid "required `data` field is missing")
    else (serde.decode .loggingMessage params).mapError .invalid
  | .resourceUpdated =>
    if (params.get "uri").any Json.isString then .ok ()
    else .error (.invalid "required `uri` field must be a string")

def validateParams (rule : MethodRule) (revision : McpProtocolRevision) (params : Option Json) :
    Except ParamsFailure Unit :=
  if params.isNone && rule.requiresParams revision then .error .missing
  else if !(paramsOrEmpty params).isObject then
    .error (.invalid "MCP method params must be a JSON object")
  else do
    rule.validator.check serde revision (paramsOrEmpty params)
    if revision = .v20260728 ∧ rule.kind = .request then
      validate2026RequestMeta serde (paramsOrEmpty params)

end

/-! ## Inspection -/

structure McpInspectionError where
  kind : McpInspectionErrorKind
  revision : McpProtocolRevision
  method : Option String
  batchIndex : Option ℕ
  detail : String

inductive McpMethodClassification where
  | available
  | unavailable
  | extension
deriving DecidableEq

structure McpMethodInspection where
  method : String
  kind : McpCallKind
  classification : McpMethodClassification
  batchIndex : Option ℕ

namespace McpInspector

variable (serde : Serde)

def inspectAvailable (rule : MethodRule) (revision : McpProtocolRevision)
    (direction : Option McpDirection) (batchIndex : Option ℕ) (inBatch : Bool) (method : String)
    (params : Option Json) (kind : McpCallKind) :
    Except McpInspectionError McpMethodInspection :=
  let fail (error : McpInspectionErrorKind) (detail : String) : McpInspectionError :=
    { kind := error, revision, method := some method, batchIndex, detail }
  if kind ≠ rule.kind then
    .error (fail .messageKindMismatch ("MCP " ++ revision.asStr ++ " defines `" ++ method ++
      "` as a " ++ rule.kind.display ++ ", not a " ++ kind.display))
  else
    match direction.filter fun direction => !rule.allows revision direction with
    | some direction =>
      .error (fail .directionMismatch ("MCP " ++ revision.asStr ++ " does not permit `" ++
        method ++ "` in the " ++ direction.display ++ " direction"))
    | none =>
      if inBatch && method == "initialize" then
        .error (fail .initializeInBatch "MCP `initialize` must not be part of a JSON-RPC batch")
      else
        match validateParams serde rule revision params with
        | .ok () => .ok { method, kind, classification := .available, batchIndex }
        | .error failure =>
          .error (fail failure.kind ("invalid `" ++ method ++ "` params for MCP " ++
            revision.asStr ++ ": " ++ failure.detail))

def inspectCall (revision : McpProtocolRevision) (direction : Option McpDirection)
    (batchIndex : Option ℕ) (inBatch : Bool) (method : String) (params : Option Json)
    (kind : McpCallKind) : Except McpInspectionError McpMethodInspection :=
  match methodRule method with
  | none => .ok { method, kind, classification := .extension, batchIndex }
  | some rule =>
    if !rule.availableIn revision then
      .ok { method, kind, classification := .unavailable, batchIndex }
    else
      inspectAvailable serde rule revision direction batchIndex inBatch method params kind

def inspectEnvelope (revision : McpProtocolRevision) (direction : Option McpDirection)
    (batchIndex : Option ℕ) (inBatch : Bool) :
    JsonRpcEnvelope → Except McpInspectionError (Option McpMethodInspection)
  | .request request =>
    (inspectCall serde revision direction batchIndex inBatch request.method request.params
      .request).map some
  | .notification notification =>
    (inspectCall serde revision direction batchIndex inBatch notification.method
      notification.params .notification).map some
  | .result _ _ | .error _ _ => .ok none

def inspectMessages (revision : McpProtocolRevision) (direction : Option McpDirection)
    (index : ℕ) : List JsonRpcEnvelope → Except McpInspectionError (List McpMethodInspection)
  | [] => .ok []
  | envelope :: rest => do
    let method ← inspectEnvelope serde revision direction (some index) true envelope
    let methods ← inspectMessages revision direction (index + 1) rest
    return method.toList ++ methods

def inspectPayload (revision : McpProtocolRevision) (direction : Option McpDirection) :
    JsonRpcPayload → Except McpInspectionError (List McpMethodInspection)
  | .single envelope =>
    (inspectEnvelope serde revision direction none false envelope).map Option.toList
  | .batch messages =>
    if revision ≠ .v20250326 then .error
      { kind := .batchUnavailable, revision, method := none, batchIndex := none
        detail := "MCP " ++ revision.asStr ++ " does not permit top-level JSON-RPC batches" }
    else inspectMessages serde revision direction 0 messages

def inspect (revision : McpProtocolRevision) (value : Json) (direction : Option McpDirection) :
    Except McpInspectionError (List McpMethodInspection) :=
  match JsonRpcPayload.inspect serde value with
  | .ok payload => inspectPayload serde revision direction payload
  | .error source => .error
      { kind := .jsonRpc, revision, method := none, batchIndex := source.batchIndex
        detail := source.detail }

end McpInspector

/-! ## What an inspected notification can be read as -/

section

variable {serde : Serde} {value : Json} {revision : McpProtocolRevision}
  {direction : Option McpDirection} {notification : JsonRpcNotification}

theorem inspect_eq_notification {payload : JsonRpcPayload}
    (h : JsonRpcPayload.inspect serde value = .ok payload) (hid : value.get "id" = none)
    (hread : JsonRpcNotification.fromJson value = some notification) :
    payload = .single (.notification notification) := by
  have hmethod : (value.get "method").isSome = true := by
    unfold JsonRpcNotification.fromJson at hread
    cases hget : value.get "method" with
    | some method => rfl
    | none => simp [hget] at hread
  obtain ⟨method, hget⟩ := Option.isSome_iff_exists.1 hmethod
  obtain ⟨fields, rfl⟩ := Json.eq_object_of_get hget
  obtain ⟨envelope, henvelope, rfl⟩ := Fallible.map_eq_ok.1 h
  obtain ⟨-, -, henvelope⟩ := Fallible.bind_eq_ok.1 henvelope
  dsimp only at henvelope
  split at henvelope
  · cases henvelope
  split at henvelope
  · cases henvelope
  obtain ⟨-, -, henvelope⟩ := Fallible.bind_eq_ok.1 henvelope
  obtain ⟨-, -, henvelope⟩ := Fallible.bind_eq_ok.1 henvelope
  rw [if_neg (by simp [hid])] at henvelope
  obtain ⟨decoded, hdecoded, henvelope⟩ := Fallible.bind_eq_ok.1 henvelope
  rw [hread] at hdecoded
  cases hdecoded
  cases henvelope
  rfl

variable {rule : MethodRule} {batchIndex : Option ℕ} {inBatch : Bool} {params : Option Json}

theorem valid_of_inspected {method : String} {kind : McpCallKind} {inspected : McpMethodInspection}
    (hrule : methodRule method = some rule) (havailable : rule.availableIn revision = true)
    (h : McpInspector.inspectCall serde revision direction batchIndex inBatch method params kind =
      .ok inspected) : validateParams serde rule revision params = .ok () := by
  unfold McpInspector.inspectCall at h
  rw [hrule] at h
  dsimp only at h
  rw [if_neg (by simp [havailable])] at h
  unfold McpInspector.inspectAvailable at h
  dsimp only at h
  split at h
  · cases h
  split at h
  · cases h
  split at h
  · cases h
  split at h
  next hvalid => exact hvalid
  next => cases h

theorem validate_params_eq_ok (h : validateParams serde rule revision params = .ok ()) :
    (paramsOrEmpty params).isObject = true ∧
      rule.validator.check serde revision (paramsOrEmpty params) = .ok () := by
  unfold validateParams at h
  split at h
  · cases h
  split at h
  · cases h
  next hobject =>
    obtain ⟨_, hcheck, -⟩ := Fallible.bind_eq_ok.1 h
    exact ⟨by simpa using hobject, hcheck⟩

theorem check_of_inspected {method : String} {kind : McpCallKind} {inspected : McpMethodInspection}
    (hrule : methodRule method = some rule) (havailable : rule.availableIn revision = true)
    (h : McpInspector.inspectCall serde revision direction batchIndex inBatch method params kind =
      .ok inspected) : rule.validator.check serde revision (paramsOrEmpty params) = .ok () :=
  (validate_params_eq_ok (valid_of_inspected hrule havailable h)).2

theorem is_some_of_decoded {α β : Type} {read : Option α} {type : String} {value : Json}
    {next : α → Except ParamsFailure β} {result : β}
    (h : (decodeParams serde read type value >>= next) = .ok result) : read.isSome = true := by
  cases read with
  | none => cases h
  | some decoded => rfl

variable {inspected : Option McpMethodInspection}

theorem cancelled_params_of_inspected
    (h : McpInspector.inspectEnvelope serde revision direction batchIndex inBatch
      (.notification notification) = .ok inspected)
    (hmethod : notification.method = "notifications/cancelled") :
    (CancelledParams.fromJson (paramsOrEmpty notification.params)).isSome = true := by
  obtain ⟨call, hcall, -⟩ := Fallible.map_eq_ok.1 h
  rw [hmethod] at hcall
  have hrule : methodRule "notifications/cancelled" = some ⟨"notifications/cancelled",
      .notification, allRevisions, allRevisions, allRevisions, .cancelled⟩ := by
    rfl
  exact is_some_of_decoded (check_of_inspected hrule (by cases revision <;> rfl) hcall)

theorem progress_params_of_inspected
    (h : McpInspector.inspectEnvelope serde revision direction batchIndex inBatch
      (.notification notification) = .ok inspected)
    (hmethod : notification.method = "notifications/progress") :
    (ProgressParams.fromJson (paramsOrEmpty notification.params)).isSome = true := by
  obtain ⟨call, hcall, -⟩ := Fallible.map_eq_ok.1 h
  rw [hmethod] at hcall
  have hrule : methodRule "notifications/progress" = some ⟨"notifications/progress",
      .notification, legacyRevisions, allRevisions, allRevisions, .progress⟩ := by
    rfl
  exact is_some_of_decoded (check_of_inspected hrule (by cases revision <;> rfl) hcall)

end

end TowerMcp
