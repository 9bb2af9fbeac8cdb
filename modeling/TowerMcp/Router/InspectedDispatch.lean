import TowerMcp.Router.TaskCreation
import TowerMcp.Transport.EnvelopeReaders
import TowerMcp.Types.Requests

/-!
# Inspection and dispatch

The way of one request from its inspection to the handler of the router: `process_single_request` of
`jsonrpc.rs` with `prepare_modern_request`, and the checks of `McpRouter::handle` in `router.rs`
that stand before the handlers. The inspection refuses what a revision does not allow and only
classifies what it does not know, and `from_jsonrpc` reads the method again.
-/

namespace TowerMcp

open Fallible

namespace InspectedDispatch

/-! ## The way of a request -/

/-- The revision without an `initialize` handshake. -/
def protocolVersion20260728 : String := "2026-07-28"

def protocolVersionKey : String := "io.modelcontextprotocol/protocolVersion"

def clientCapabilitiesKey : String := "io.modelcontextprotocol/clientCapabilities"

/-- What a request meets on its way: the service with the types its serde reads, whether an object
can be read as capabilities, how the metadata of a request is read, the phase of the session, and
whether the tasks extension was negotiated, or else the error of a method that needs it. -/
structure Server (typed : TypedSerde) where
  service : JsonRpcService
  reads : service.serde = typed.serde
  debug : String → String
  readsCapabilities : Json → Bool
  statelessMeta : Json → Except String Unit
  phase : SessionPhase
  requireNegotiatedTasks : String → Except JsonRpcError Unit

def isRemovedModernMethod (method : String) : Bool :=
  ["initialize", "notifications/initialized", "ping", "logging/setLevel", "resources/subscribe",
    "resources/unsubscribe", "notifications/roots/list_changed"].contains method

def isRequestAllowed (phase : SessionPhase) (method : String) : Bool :=
  match phase with
  | .uninitialized => ["initialize", "ping", "server/discover"].contains method
  | .initializing | .initialized => true

def validate (request : JsonRpcRequest) : Except JsonRpcError Unit :=
  if request.jsonrpc = jsonrpcVersion then .ok ()
  else .error (.invalidRequest ("Invalid JSON-RPC version: expected '" ++ jsonrpcVersion ++
    "', got '" ++ request.jsonrpc ++ "'"))

section

variable {typed : TypedSerde} (server : Server typed)

def prepareModernRequest (request : JsonRpcRequest) : Except JsonRpcError (Option String) :=
  match request.params.bind fun params => params.get "_meta" with
  | none => .ok none
  | some metadata =>
    if (metadata.get protocolVersionKey).isNone then .ok none
    else
      match TaskCreation.validateMetaObject metadata with
      | .error error => .error (.invalidParams (error.display server.debug))
      | .ok () =>
        match (metadata.get protocolVersionKey).bind Json.asStr,
          metadata.get clientCapabilitiesKey with
        | none, _ => .error (.invalidParams
            "Missing or invalid _meta.io.modelcontextprotocol/protocolVersion")
        | some _, none => .error (.invalidParams
            "Missing _meta.io.modelcontextprotocol/clientCapabilities")
        | some version, some capabilities =>
          if !capabilities.isObject || !server.readsCapabilities capabilities then
            .error (.invalidParams
              "Invalid _meta.io.modelcontextprotocol/clientCapabilities")
          else if version ∉ server.service.protocolSupport.versions then
            .error (server.service.unsupported version)
          else if version = protocolVersion20260728 ∧
              isRemovedModernMethod request.method then
            .error (.methodNotFound request.method)
          else
            match server.statelessMeta metadata with
            | .error error => .error (.invalidParams error)
            | .ok () => .ok (some version)

/-- The request whose handler runs, when the router lets it. `isFinal` says that the request has
declared the revision without handshake. -/
def handle (isFinal : Bool) (request : McpRequest typed) : Except JsonRpcError (McpRequest typed) :=
  if !isFinal && !isRequestAllowed server.phase request.methodName then
    .error (.invalidRequest ("Session not initialized. Only 'initialize' and 'ping' are allowed " ++
      "before initialization. Got: " ++ request.methodName))
  else
    match request with
    | .getTaskInfo _ | .updateTask _ | .cancelTask _ =>
      if isFinal then
        (server.requireNegotiatedTasks request.methodName).map fun _ => request
      else .ok request
    | .subscriptionsListen _ =>
      if isFinal then .ok request else .error (.methodNotFound "subscriptions/listen")
    | .unknown method _ => .error (.methodNotFound method)
    | _ => .ok request

def processSingleRequest (request : JsonRpcRequest) : Except JsonRpcError (McpRequest typed) := do
  validate request
  let _ ← server.service.inspectIncomingValue request.toJson
  let version ← prepareModernRequest server request
  let parsed ← (McpRequest.fromJsonrpc typed request).mapError JsonRpcError.invalidParams
  handle server (version == some protocolVersion20260728) parsed

end

/-! ## What is read of an inspected request -/

section

variable {typed : TypedSerde} {server : Server typed} {revision : McpProtocolRevision}
  {value : Json} {request : JsonRpcRequest} {mcp handled : McpRequest typed}

variable {serde : Serde} {inspected : McpMethodInspection}

theorem inspect_call_of_inspect (hread : JsonRpcRequest.fromJson value = some request)
    (h : McpInspector.inspect serde revision value (some .clientToServer) = .ok [inspected]) :
    McpInspector.inspectCall serde revision (some .clientToServer) none false request.method
      request.params .request = .ok inspected := by
  obtain ⟨fields, rfl⟩ : ∃ fields, value = .object fields := by
    cases value with
    | object fields => exact ⟨fields, rfl⟩
    | null | bool | number | string | array => cases hread
  unfold McpInspector.inspect at h
  cases hpayload : JsonRpcPayload.inspect serde (.object fields) with
  | error source =>
    rw [hpayload] at h
    cases h
  | ok payload =>
    rw [hpayload] at h
    obtain ⟨envelope, henvelope, rfl⟩ := map_eq_ok.1 hpayload
    have hmessage := (read_alike_of_inspected (inspected_of_inspect henvelope)).message
    have hrequest : envelope.asRequest = some request := by
      have hsingle : (JsonRpcRequest.fromJson (.object fields)).map JsonRpcMessage.single =
          envelope.asRequest.map .single := hmessage
      rw [hread] at hsingle
      exact (Option.map_injective (fun _ _ heq => JsonRpcMessage.single.inj heq) hsingle).symm
    cases envelope with
    | request call =>
      cases hrequest
      obtain ⟨method, hmethod, hmethods⟩ := map_eq_ok.1 h
      obtain ⟨call, hcall, rfl⟩ := map_eq_ok.1 hmethod
      rw [hcall, List.singleton_inj.1 hmethods]
    | notification _ | result _ _ | error _ _ => cases hrequest

theorem rule_of_available
    (h : McpInspector.inspectCall serde revision (some .clientToServer) none false request.method
      request.params .request = .ok inspected)
    (havailable : inspected.classification = .available) :
    ∃ rule ∈ requestRules, rule.name = request.method ∧ revision ∈ rule.clientToServer ∧
      rule.validator.check serde revision (paramsOrEmpty request.params) = .ok () := by
  have h' := h
  unfold McpInspector.inspectCall at h
  cases hrule : methodRule request.method with
  | none =>
    rw [hrule] at h
    cases h
    cases havailable
  | some rule =>
    rw [hrule] at h
    dsimp only at h
    cases hin : rule.availableIn revision with
    | false =>
      rw [hin] at h
      cases h
      cases havailable
    | true =>
      have hcheck := check_of_inspected hrule hin h'
      have hname : rule.name = request.method := by
        simpa using List.find?_some hrule
      rw [hin, if_neg (by decide)] at h
      unfold McpInspector.inspectAvailable at h
      dsimp only at h
      split at h
      next => cases h
      next hkind =>
        split at h
        next => cases h
        next hdirection =>
          have hallows := Option.filter_eq_none_iff.1 hdirection .clientToServer rfl
          have hclient : revision ∈ rule.clientToServer := by
            simpa [MethodRule.allows] using hallows
          refine ⟨rule, ?_, hname, hclient, hcheck⟩
          rcases List.mem_append.1 (List.mem_of_find?_eq_some hrule) with hmem | hmem
          · exact hmem
          · have hall : ∀ rule ∈ notificationRules, rule.kind = .notification := by decide
            have hnotification := hall rule hmem
            rw [hnotification] at hkind
            exact absurd (fun heq => by cases heq) hkind

/-! ## Which handlers are reached -/

def handledMethods : List String :=
  ["initialize", "tools/list", "tools/call", "resources/list", "resources/templates/list",
    "resources/read", "resources/subscribe", "resources/unsubscribe", "prompts/list", "prompts/get",
    "tasks/get", "tasks/update", "tasks/cancel", "ping", "logging/setLevel", "completion/complete",
    "server/discover", "subscriptions/listen"]

theorem method_name_from_jsonrpc (h : McpRequest.fromJsonrpc typed request = .ok mcp) :
    mcp.methodName = request.method := by
  have hstrict : ∀ {α : Type} {read : Except String α} {make : α → McpRequest typed},
      McpRequest.strict read make = .ok mcp → ∃ held, make held = mcp := by
    intro α read make hread
    obtain ⟨held, -, rfl⟩ := map_eq_ok.1 hread
    exact ⟨held, rfl⟩
  have hlenient : ∀ {α : Type} {read : Except String α} {default : α} {make : α → McpRequest typed},
      McpRequest.lenient read default make = .ok mcp → ∃ held, make held = mcp := by
    intro α read default make hread
    exact ⟨_, Except.ok.inj hread⟩
  unfold McpRequest.fromJsonrpc at h
  dsimp only at h
  split at h
  case h_14 hmethod =>
    rw [hmethod, ← Except.ok.inj h]
    rfl
  case h_19 =>
    rw [← Except.ok.inj h]
    rfl
  all_goals
    rename_i hmethod
    rw [hmethod]
    first
      | obtain ⟨held, rfl⟩ := hstrict h
        rfl
      | obtain ⟨held, rfl⟩ := hlenient h
        rfl

theorem handle_eq_ok {isFinal : Bool} (h : handle server isFinal mcp = .ok handled) :
    handled = mcp ∧ mcp.methodName ∈ handledMethods ∧
      (isFinal = false → mcp.methodName ≠ "subscriptions/listen" ∧
        isRequestAllowed server.phase mcp.methodName = true) ∧
      (isFinal = true → mcp.methodName ∈ ["tasks/get", "tasks/update", "tasks/cancel"] →
        server.requireNegotiatedTasks mcp.methodName = .ok ()) := by
  unfold handle at h
  split at h
  next => cases h
  next hallowed =>
    have hphase : isFinal = false → isRequestAllowed server.phase mcp.methodName = true := by
      rintro rfl
      simpa using hallowed
    have htasks : (if isFinal then (server.requireNegotiatedTasks mcp.methodName).map fun _ => mcp
        else .ok mcp) = .ok handled →
        handled = mcp ∧
          (isFinal = true → server.requireNegotiatedTasks mcp.methodName = .ok ()) := by
      intro htasks
      cases isFinal with
      | true =>
        obtain ⟨⟨⟩, hnegotiated, rfl⟩ := map_eq_ok.1 htasks
        exact ⟨rfl, fun _ => hnegotiated⟩
      | false => exact ⟨(Except.ok.inj htasks).symm, nofun⟩
    cases mcp with
    | getTaskInfo _ | updateTask _ | cancelTask _ =>
      obtain ⟨rfl, hnegotiated⟩ := htasks h
      exact ⟨rfl, by simp [McpRequest.methodName, handledMethods],
        fun hlegacy => ⟨by simp [McpRequest.methodName], hphase hlegacy⟩,
        fun hfinal _ => hnegotiated hfinal⟩
    | subscriptionsListen params =>
      cases isFinal with
      | true =>
        cases h
        exact ⟨rfl, by simp [McpRequest.methodName, handledMethods], nofun,
          fun _ hmem => by simp [McpRequest.methodName] at hmem⟩
      | false => cases h
    | unknown _ _ => cases h
    | ping | initializeRequest _ | listTools _ | callTool _ | listResources _
    | listResourceTemplates _ | readResource _ | subscribeResource _ | unsubscribeResource _
    | listPrompts _ | getPrompt _ | setLoggingLevel _ | complete _ | discover _ =>
      cases h
      exact ⟨rfl, by simp [McpRequest.methodName, handledMethods],
        fun hlegacy => ⟨by simp [McpRequest.methodName], hphase hlegacy⟩,
        fun _ hmem => by simp [McpRequest.methodName] at hmem⟩

def isCoreIn (method : String) (revision : McpProtocolRevision) : Bool :=
  (methodRule method).any fun rule => rule.allows revision .clientToServer

def isUnavailableIn (method : String) (revision : McpProtocolRevision) : Bool :=
  (methodRule method).any fun rule => !rule.availableIn revision

theorem handled_elsewhere :
    ∀ method ∈ handledMethods, ∀ revision ∈ allRevisions, ∀ other ∈ allRevisions,
      isUnavailableIn method revision = true → isCoreIn method other = true →
        if revision = .v20260728 then
          method = "initialize" ∨ method ∈ ["ping", "logging/setLevel", "resources/subscribe",
            "resources/unsubscribe", "tasks/get", "tasks/cancel"]
        else
          method = "subscriptions/listen" ∨
            method ∈ ["server/discover", "tasks/get", "tasks/cancel"] := by
  decide +kernel

theorem mem_all_revisions (revision : McpProtocolRevision) : revision ∈ allRevisions := by
  cases revision <;> decide

theorem declared_version_to_json :
    declaredVersion request.toJson =
      (((request.params.bind fun params => params.get "_meta").bind fun metadata =>
        metadata.get protocolVersionKey).bind Json.asStr) := by
  obtain ⟨jsonrpc, id, method, params⟩ := request
  cases params with
  | none => rfl
  | some params =>
    show ((params.get "_meta").bind fun metadata =>
      (metadata.get protocolVersionKey).bind fun inner => some inner).bind Json.asStr = _
    simp only [Option.bind_some, Option.bind_fun_some]

theorem prepare_modern_request_eq_ok {version : Option String}
    (h : prepareModernRequest server request = .ok version) :
    declaredVersion request.toJson = version ∧
      (version = some protocolVersion20260728 → isRemovedModernMethod request.method = false) := by
  rw [declared_version_to_json]
  unfold prepareModernRequest at h
  cases hmeta : request.params.bind fun params => params.get "_meta" with
  | none =>
    rw [hmeta] at h
    rw [← Except.ok.inj h]
    exact ⟨rfl, nofun⟩
  | some metadata =>
    rw [hmeta] at h
    dsimp only at h
    split at h
    next hnone =>
      rw [Option.isNone_iff_eq_none] at hnone
      rw [← Except.ok.inj h, Option.bind_some, hnone]
      exact ⟨rfl, nofun⟩
    next =>
      split at h
      next => cases h
      next =>
        split at h
        next => cases h
        next => cases h
        next declared capabilities hdeclared hcapabilities =>
          split at h
          next => cases h
          next =>
            split at h
            next => cases h
            next =>
              split at h
              next => cases h
              next hremoved =>
                split at h
                next => cases h
                next =>
                  rw [← Except.ok.inj h, Option.bind_some, hdeclared]
                  refine ⟨rfl, fun hfinal => ?_⟩
                  have hversion := Option.some.inj hfinal
                  simpa [hversion] using hremoved

theorem as_str_of_from_str {version : String}
    (h : McpProtocolRevision.fromStr version = some revision) : revision.asStr = version := by
  unfold McpProtocolRevision.fromStr at h
  split_ifs at h <;> simp_all [McpProtocolRevision.asStr, ← Option.some.inj h]

theorem as_str_of_allowed {service : JsonRpcService} {version : String}
    (h : service.allowedRevision version = .ok revision) : revision.asStr = version := by
  unfold JsonRpcService.allowedRevision at h
  split at h
  next => cases h
  next =>
    cases hread : McpProtocolRevision.fromStr version with
    | none =>
      rw [hread] at h
      cases h
    | some read =>
      rw [hread] at h
      cases h
      exact as_str_of_from_str hread

theorem initialize_revision_ne {service : JsonRpcService}
    (h : service.initializeRevision value = .ok revision) : revision ≠ .v20260728 := by
  rintro rfl
  unfold JsonRpcService.initializeRevision at h
  dsimp only at h
  split at h
  next version hselected =>
    have hversion : version ∈ supportedProtocolVersions := by
      rcases Option.or_eq_some_iff.1 hselected with haccepted | ⟨-, hfallback⟩
      · have hboth := (Option.filter_eq_some_iff.1 haccepted).2
        simp only [decide_eq_true_eq] at hboth
        exact hboth.1
      · simpa using List.find?_some hfallback
    rw [← as_str_of_allowed h] at hversion
    exact absurd hversion (by decide)
  next => cases h

/-- How a request that its revision does not have reaches a handler: before the final revision as
one of three methods; in the final revision as a task method that was negotiated; or without a
declared version as it would in a session. -/
inductive Reached (server : Server typed) (revision : McpProtocolRevision)
    (request : JsonRpcRequest) : Prop
  | legacy (hrevision : revision ≠ .v20260728)
      (hmethod : request.method ∈ ["server/discover", "tasks/get", "tasks/cancel"])
      (hallowed : isRequestAllowed server.phase request.method = true)
  | negotiated (hrevision : revision = .v20260728)
      (hdeclared : declaredVersion request.toJson = some protocolVersion20260728)
      (hmethod : request.method ∈ ["tasks/get", "tasks/cancel"])
      (hnegotiated : server.requireNegotiatedTasks request.method = .ok ())
  | undeclared (hrevision : revision = .v20260728)
      (hdeclared : declaredVersion request.toJson = none)
      (hmethod : request.method ∈ ["ping", "logging/setLevel", "resources/subscribe",
        "resources/unsubscribe", "tasks/get", "tasks/cancel"])
      (hallowed : isRequestAllowed server.phase request.method = true)

theorem process_single_request_eq_ok (h : processSingleRequest server request = .ok handled) :
    ∃ version, prepareModernRequest server request = .ok version ∧
      handled.methodName = request.method ∧
      handle server (version == some protocolVersion20260728) handled = .ok handled := by
  obtain ⟨⟨⟩, -, h⟩ := bind_eq_ok.1 h
  obtain ⟨inspected, -, h⟩ := bind_eq_ok.1 h
  obtain ⟨version, hversion, h⟩ := bind_eq_ok.1 h
  obtain ⟨mcp, hparsed, h⟩ := bind_eq_ok.1 h
  obtain ⟨rfl, -⟩ := handle_eq_ok h
  exact ⟨version, hversion, method_name_from_jsonrpc (map_error_eq_ok.1 hparsed), h⟩

theorem unavailable_of_inspected
    (h : McpInspector.inspectCall serde revision (some .clientToServer) none false request.method
      request.params .request = .ok inspected)
    (hunavailable : inspected.classification = .unavailable) :
    isUnavailableIn request.method revision = true := by
  unfold McpInspector.inspectCall at h
  unfold isUnavailableIn
  cases hrule : methodRule request.method with
  | none =>
    rw [hrule] at h
    cases h
    cases hunavailable
  | some rule =>
    rw [hrule] at h
    dsimp only at h
    rw [Option.any_some]
    cases hin : rule.availableIn revision with
    | false => rfl
    | true =>
      -- A method that the revision has is available once it passes the checks.
      rw [hin, if_neg (by decide)] at h
      unfold McpInspector.inspectAvailable at h
      dsimp only at h
      split at h
      next => cases h
      next =>
        split at h
        next => cases h
        next =>
          split at h
          next => cases h
          next =>
            split at h
            next =>
              cases h
              cases hunavailable
            next => cases h

theorem reached_of_unavailable {other : McpProtocolRevision}
    (hresolved : server.service.resolveRevision request.toJson = .ok revision)
    (hunavailable : isUnavailableIn request.method revision = true)
    (hcore : isCoreIn request.method other = true)
    (h : processSingleRequest server request = .ok handled) : Reached server revision request := by
  obtain ⟨version, hprepared, hname, hhandle⟩ := process_single_request_eq_ok h
  obtain ⟨hdeclared, hremoved⟩ := prepare_modern_request_eq_ok hprepared
  obtain ⟨-, hmethod, hlegacy, hfinal⟩ := handle_eq_ok hhandle
  rw [hname] at hmethod hlegacy hfinal
  have hrow := handled_elsewhere request.method hmethod revision (mem_all_revisions revision) other
    (mem_all_revisions other) hunavailable hcore
  have hversion : ∀ declared, version = some declared → revision.asStr = declared := by
    rintro declared rfl
    unfold JsonRpcService.resolveRevision at hresolved
    rw [hdeclared] at hresolved
    exact as_str_of_allowed hresolved
  by_cases hrevision : revision = .v20260728
  · rw [if_pos hrevision] at hrow
    cases version with
    | none =>
      have hallowed := (hlegacy rfl).2
      refine .undeclared hrevision hdeclared ?_ hallowed
      refine hrow.resolve_left fun hnegotiates => ?_
      have hnone : JsonRpcService.declaredVersions request.toJson = [] := rfl
      have hsent : (request.toJson.get "method").bind Json.asStr = some "initialize" := by
        rw [← hnegotiates]
        rfl
      have hselected : server.service.initializeRevision request.toJson = .ok revision := by
        unfold JsonRpcService.resolveRevision at hresolved
        rw [hdeclared, hnone] at hresolved
        rwa [if_pos hsent] at hresolved
      exact initialize_revision_ne hselected hrevision
    | some declared =>
      have heq : protocolVersion20260728 = declared := by
        rw [← hversion declared rfl, hrevision]
        rfl
      subst heq
      have hkept := hremoved rfl
      have htasks : request.method ∈ ["tasks/get", "tasks/cancel"] := by
        simp only [List.mem_cons, List.not_mem_nil, or_false] at hrow
        rcases hrow with heq | heq | heq | heq | heq | heq | heq <;> rw [heq] at hkept ⊢ <;>
          first | exact absurd hkept (by decide) | decide
      refine .negotiated hrevision hdeclared htasks (hfinal rfl ?_)
      simp only [List.mem_cons, List.not_mem_nil, or_false] at htasks ⊢
      tauto
  · rw [if_neg hrevision] at hrow
    have hnotFinal : (version == some protocolVersion20260728) = false := by
      refine beq_eq_false_iff_ne.2 fun hdeclares => hrevision ?_
      have hfinal := hversion _ hdeclares
      cases revision with
      | v20260728 => rfl
      | v20250326 | v20250618 | v20251125 => exact absurd hfinal (by decide)
    obtain ⟨hlisten, hallowed⟩ := hlegacy hnotFinal
    exact .legacy hrevision (hrow.resolve_left hlisten) hallowed

/-- What becomes of a request that passes the inspection. One that is available is the request of
its method with the parameters that were sent, but for two methods that are not read. One that is
unavailable in the revision of its dispatch reaches the handler of another revision in three ways.
-/
theorem inspection_agrees_with_dispatch {inspected : McpMethodInspection}
    (hread : JsonRpcRequest.fromJson value = some request)
    (hinspected : McpInspector.inspect typed.serde revision value (some .clientToServer) =
      .ok [inspected]) :
    (inspected.classification = .available →
      request.method ∈ ["tasks/result", "tasks/list"] ∧ revision = .v20251125 ∧
          McpRequest.fromJsonrpc typed request = .ok (.unknown request.method request.params) ∨
        ∃ mcp, McpRequest.fromJsonrpc typed request = .ok mcp ∧ mcp.methodName = request.method ∧
          mcp.HoldsParams (paramsOrEmpty request.params)) ∧
      (inspected.classification = .unavailable →
        ∀ (server : Server typed) (other : McpProtocolRevision) (handled : McpRequest typed),
          isCoreIn request.method other = true →
            server.service.resolveRevision request.toJson = .ok revision →
              processSingleRequest server request = .ok handled →
                handled.methodName = request.method ∧ Reached server revision request) := by
  have hcall := inspect_call_of_inspect hread hinspected
  constructor
  · intro havailable
    obtain ⟨rule, hmem, hname, hclient, hcheck⟩ := rule_of_available hcall havailable
    refine (McpRequest.from_jsonrpc_of_checked hmem hname hclient hcheck).imp_left ?_
    rintro ⟨hmethod, hunknown⟩
    refine ⟨hmethod, ?_, hunknown⟩
    have hrules : ∀ rule ∈ requestRules, rule.name ∈ ["tasks/result", "tasks/list"] →
        rule.clientToServer = [.v20251125] := by decide +kernel
    rw [← hname] at hmethod
    rw [hrules rule hmem hmethod] at hclient
    exact List.mem_singleton.1 hclient
  · intro hclassified server other handled hcore hresolved hhandled
    obtain ⟨-, -, hname, -⟩ := process_single_request_eq_ok hhandled
    exact ⟨hname, reached_of_unavailable hresolved (unavailable_of_inspected hcall hclassified)
      hcore hhandled⟩

end

/-! ## Requests that part them -/

def keeping : TypedSerde where
  Params := fun _ => Json
  decode := fun _ params => .ok params
  default := fun _ => .object []
  UpdateTaskParams := Json
  updateTask := .ok
  SubscriptionsListenParams := Json
  listen := .ok
  notifications := fun _ => none
  defaultListen := .object []
  requestMeta := fun _ => .error "missing field"
  errorText := fun _ _ => "invalid type"

def legacyServer : Server keeping where
  service :=
    { serde := keeping.serde
      protocolSupport := ⟨supportedProtocolVersions, supported_protocol_versions_ne_nil⟩
      call := fun _ => .ok (some .null)
      listen := fun request => .result request.id .null
      validateRequestProtocol := fun _ => .ok () }
  reads := rfl
  debug := id
  readsCapabilities := fun _ => true
  statelessMeta := fun _ => .ok ()
  phase := .uninitialized
  requireNegotiatedTasks := fun method => .error (.methodNotFound method)

def pageRequest (method : String) : JsonRpcRequest where
  jsonrpc := "2.0"
  id := .number 1
  method := method
  params := some (.object [("cursor", .string "next")])

def pageInspection (method : String) (classification : McpMethodClassification) :
    McpMethodInspection where
  method := method
  kind := .request
  classification := classification
  batchIndex := none

theorem listing_holds_its_cursor :
    (∃ mcp, McpRequest.fromJsonrpc keeping (pageRequest "tools/list") = .ok mcp ∧
        mcp.methodName = "tools/list" ∧
        mcp.HoldsParams (.object [("cursor", .string "next")])) ∧
      Reached legacyServer .v20251125 (pageRequest "server/discover") := by
  have hlisting := inspection_agrees_with_dispatch
    (rfl : JsonRpcRequest.fromJson (pageRequest "tools/list").toJson =
      some (pageRequest "tools/list"))
    (rfl : McpInspector.inspect keeping.serde .v20251125 (pageRequest "tools/list").toJson
      (some .clientToServer) = .ok [pageInspection "tools/list" .available])
  have hdiscovery := inspection_agrees_with_dispatch
    (rfl : JsonRpcRequest.fromJson (pageRequest "server/discover").toJson =
      some (pageRequest "server/discover"))
    (rfl : McpInspector.inspect keeping.serde .v20251125 (pageRequest "server/discover").toJson
      (some .clientToServer) = .ok [pageInspection "server/discover" .unavailable])
  constructor
  · refine (hlisting.1 rfl).resolve_left fun hunread => ?_
    exact absurd hunread.1 (by decide)
  · exact (hdiscovery.2 rfl legacyServer .v20260728
      (.discover (.object [("cursor", .string "next")])) rfl rfl rfl).2

/-- A request that is available is read as an unknown one, and one that is unavailable reaches its
handler. -/
theorem inspected_requests_misread :
    (McpInspector.inspect keeping.serde .v20251125 (pageRequest "tasks/list").toJson
          (some .clientToServer) = .ok [pageInspection "tasks/list" .available] ∧
        McpRequest.fromJsonrpc keeping (pageRequest "tasks/list") =
          .ok (.unknown "tasks/list" (pageRequest "tasks/list").params)) ∧
      McpInspector.inspect keeping.serde .v20251125 (pageRequest "server/discover").toJson
          (some .clientToServer) = .ok [pageInspection "server/discover" .unavailable] ∧
        isCoreIn "server/discover" .v20260728 = true ∧
        legacyServer.service.resolveRevision (pageRequest "server/discover").toJson =
          .ok .v20251125 ∧
        processSingleRequest legacyServer (pageRequest "server/discover") =
          .ok (.discover (.object [("cursor", .string "next")])) :=
  ⟨⟨rfl, rfl⟩, rfl, rfl, rfl, rfl⟩

end InspectedDispatch

end TowerMcp
