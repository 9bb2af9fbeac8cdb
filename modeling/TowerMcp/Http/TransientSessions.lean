import TowerMcp.Http.Initialize
import TowerMcp.Transport.Receive

/-!
# Sessions created for a single request

Where sessions are optional, `handle_post` serves a legacy request without a session identifier
through a session of its own, after `transport/http/handlers.rs`. No client learns the identifier of
such a session, and nothing of the handler removes it: `discard_init_session` is for an `initialize`
alone. `discarded_iff` says which requests leave nothing behind.
-/

namespace TowerMcp

open Execution Fallible

/-- What the handler consults for a request without a session. `stateless` is the service that is
built for such a request where the stateless opt-in is configured. -/
structure LegacyState extends AppState where
  serde : Serde
  optionalSessions : Bool := true
  stateless : Option (JsonRpcRequest → Except String JsonRpcResponse) := none
  statelessVersion : Json → Option String

/-- How what the handler waits for ends. `asksClient` says whether the handler of the request asks
the client something before it ends. -/
structure LegacyReplies extends PostReplies where
  batch : Except String Json
  asksClient : Bool := false

inductive LegacyResponse where
  | single (response : HttpResponse)
  | batch (responses : Json) (protocolVersion : String)
  | stream (protocolVersion : Option String)

def subscriptionsListenMethod : String := "subscriptions/listen"

def JsonRpcError.sessionRequired : JsonRpcError where
  code := -32006
  message := "MCP-Session-Id header is required for this request."

namespace LegacyState

/-- Whether a `subscriptions/listen` request is for a session of this version. -/
def supportsSubscriptionsListen (state : LegacyState) (version : String) : Bool :=
  decide (version = protocolVersion20260728) && decide (version ∈ state.protocolSupport)

def screenBatch (state : LegacyState) (request : PostRequest) : Option HttpResponse :=
  if request.parsed.isArray then
    request.protocolVersion.bind fun version =>
      match McpProtocolRevision.fromStr version with
      | none => some (jsonRpcErrorResponse none
          (.unsupportedProtocolVersion version state.protocolSupport))
      | some revision =>
        match JsonRpcService.inspectRuntimeValue state.serde state.protocolSupport request.parsed
            revision with
        | .ok _ => none
        | .error error =>
          some { jsonRpcErrorResponse none error with
            status := if revision = .v20260728 then 400 else 200 }
  else none

def serveStateless (state : LegacyState) (request : PostRequest) : Option HttpResponse := do
  let dispatch ← state.stateless
  let version ← request.protocolVersion.or
    (state.statelessVersion ((request.parsed.get "params").getD request.parsed))
  if version ∉ supportedProtocolVersions then
    some (jsonRpcErrorResponse none
      (.unsupportedProtocolVersion version supportedProtocolVersions))
  else if (request.parsed.get "id").isNone || isResponseFrame request.parsed then
    some { status := 202 }
  else
    match JsonRpcRequest.fromJson request.parsed with
    | none => some (jsonRpcErrorResponse (extractRequestId request.parsed)
        (.parseError "not a valid JSON-RPC request"))
    | some typed =>
      match dispatch typed with
      | .error message => some (jsonRpcErrorResponse none (.internalError message))
      | .ok response =>
        some
          { body := .rpc (state.applyProtocolResultFields response typed.method version)
            protocolVersion := some version }

def screenVersion (state : LegacyState) (request : PostRequest) : Option HttpResponse :=
  (request.protocolVersion.filter fun version => version ∉ state.protocolSupport).map fun version =>
    jsonRpcErrorResponse (extractRequestId request.parsed)
      (.unsupportedProtocolVersion version state.protocolSupport)

def transientVersion (state : LegacyState) : String :=
  (state.protocolSupport.find? fun version => version ∈ supportedProtocolVersions).getD
    (state.protocolSupport.headD "")

def answerBatch (state : LegacyState) (replies : LegacyReplies) (version : String)
    (request : PostRequest) : LegacyResponse :=
  match JsonRpcMessage.fromJson request.parsed with
  | none => .single (jsonRpcErrorResponse none (.invalidRequest
      ("Invalid request batch: " ++ state.serde.errorText "JsonRpcMessage" request.parsed)))
  | some _ =>
    match replies.batch with
    | .error message => .single (jsonRpcErrorResponse none (.internalError message))
    | .ok responses => .batch responses version

def dispatchTransient (state : LegacyState) (replies : LegacyReplies) (version : String)
    (request : PostRequest) : LegacyResponse :=
  match JsonRpcRequest.fromJson request.parsed with
  | none => .single (jsonRpcErrorResponse (extractRequestId request.parsed)
      (.parseError "not a valid JSON-RPC request"))
  | some typed =>
    if replies.asksClient then .stream (some version)
    else
      match replies.call with
      | .error message => .single (jsonRpcErrorResponse (some typed.id) (.internalError message))
      | .ok response =>
        let shown :=
          if typed.method = "server/discover" ∧ protocolVersion20260728 ∈ state.protocolSupport
          then protocolVersion20260728 else version
        .single
          { body := .rpc (state.applyProtocolResultFields response typed.method shown)
            protocolVersion := some version }

/-- What a request is answered once it has a session, which has received `notifications/initialized`
from the start. None of this reaches the registry: what is discarded on a rejection is the session of
an `initialize`. -/
def answerTransient (state : LegacyState) (replies : LegacyReplies) (request : PostRequest) :
    LegacyResponse :=
  let version := state.transientVersion
  match McpProtocolRevision.fromStr version with
  | none => .single (jsonRpcErrorResponse (extractRequestId request.parsed)
      (.unsupportedProtocolVersion version state.protocolSupport))
  | some revision =>
    match JsonRpcService.inspectRuntimeValue state.serde state.protocolSupport request.parsed
        revision with
    | .error error =>
      .single (jsonRpcErrorResponse (extractRequestId request.parsed) error)
    | .ok _ =>
      if request.parsed.isArray then answerBatch state replies version request
      else if ((request.parsed.get "method").bind Json.asStr) = some subscriptionsListenMethod
      then
        if state.supportsSubscriptionsListen (request.protocolVersion.getD version) then
          .stream none
        else
          .single (jsonRpcErrorResponse (extractRequestId request.parsed)
            (.methodNotFound subscriptionsListenMethod))
      else
        match state.validateWithToolSchema request version with
        | some error =>
          .single { jsonRpcErrorResponse (extractRequestId request.parsed) error with
            status := 400 }
        | none =>
          if isResponseFrame request.parsed || (request.parsed.get "id").isNone then
            .single { status := 202 }
          else dispatchTransient state replies version request

def answeredEarly (state : LegacyState) (request : PostRequest) : Option HttpResponse :=
  (state.screen request).or ((state.screenBatch request).or
    ((state.serveStateless request).or (state.screenVersion request)))

end LegacyState

structure LegacyHandled where
  response : LegacyResponse
  registry : SessionRegistry
  created : Option CreatedSession := none

namespace LegacyState

/-- Handle the POST of a request without a session identifier. An `initialize` and a request of the
modern protocol are not for this path. -/
def handlePost (state : LegacyState) (replies : LegacyReplies) (registry : SessionRegistry)
    (request : PostRequest) : Option LegacyHandled :=
  if isInitializeRequest request.parsed ∨
      claimsModernProtocol request.protocolVersion request.parsed then none
  else
    match state.answeredEarly request with
    | some response => some { response := .single response, registry }
    | none =>
      if !state.optionalSessions then
        some
          { response := .single
              { jsonRpcErrorResponse none .sessionRequired with status := 400 }
            registry }
      else if registry.atCapacity then
        some
          { response := .single
              { status := 503, body := .text "Maximum session limit reached" }
            registry }
      else do
        let (session, storedAs, created) ← registry.createPersisted replies.uuid none replies.now
          replies.generated replies.create
        let cell := { created.cells session.cell with protocolVersion := state.transientVersion }
        some
          { response := answerTransient state replies request
            registry := { created with cells := Function.update created.cells session.cell cell }
            created := some { session, storedAs } }

/-! ## Sequences of requests -/

structure Served where
  registry : SessionRegistry
  transients : List CreatedSession := []

/-- What happens to the registry: a request is answered, or the cleanup task removes the sessions
whose time is over. -/
inductive Event where
  | post (request : PostRequest) (replies : LegacyReplies)
  | cleanup (now : ℕ) (delete : String → Outcome SessionStoreError)
      (purge : String → Outcome EventStoreError)

def deleteStored (registry : SessionRegistry) (delete : String → Outcome SessionStoreError)
    (purge : String → Outcome EventStoreError) (expired : List String) : SessionRegistry :=
  expired.foldl (fun registry id =>
    { registry with
      persistent := (delete id).write (MemorySessionStore.delete · id) registry.persistent
      events := (purge id).write (·.purgeSession id) registry.events }) registry

def cleanupExpired (registry : SessionRegistry) (now : ℕ)
    (delete : String → Outcome SessionStoreError) (purge : String → Outcome EventStoreError) :
    SessionRegistry :=
  deleteStored
    { registry with
      sessions := registry.sessions.retain fun session => !registry.isExpired session now }
    delete purge
    ((registry.sessions.list.filter fun session => registry.isExpired session now).map (·.id))

def step (state : LegacyState) (served : Served) : Event → Option Served
  | .post request replies =>
    (state.handlePost replies served.registry request).map fun handled =>
      { registry := handled.registry
        transients := handled.created.toList ++ served.transients }
  | .cleanup now delete purge =>
    some { served with registry := cleanupExpired served.registry now delete purge }

def Gone (registry : SessionRegistry) (created : CreatedSession) : Prop :=
  registry.sessions.get created.session.id ≠ some created.session ∧
    ∀ id, created.storedAs = some id → registry.persistent.get id = none

/-- No session is left of the requests that were answered, and no more are live than `bound`. -/
structure Discarded (bound : ℕ) (served : Served) : Prop where
  gone : ∀ created ∈ served.transients, Gone served.registry created
  few : served.registry.sessions.list.length ≤ bound

def CreatesTransient (state : LegacyState) (served : Served) : Event → Prop
  | .post request _ =>
    state.answeredEarly request = none ∧ state.optionalSessions = true ∧
      served.registry.atCapacity = false
  | .cleanup _ _ _ => False

variable {state : LegacyState} {served next : Served} {event : Event} {registry : SessionRegistry}
  {request : PostRequest} {replies : LegacyReplies} {handled : LegacyHandled}

theorem handle_post_cases (h : state.handlePost replies registry request = some handled) :
    ((state.answeredEarly request ≠ none ∨ state.optionalSessions = false ∨
        registry.atCapacity = true) ∧ handled.created = none ∧ handled.registry = registry) ∨
      ((state.answeredEarly request = none ∧ state.optionalSessions = true ∧
          registry.atCapacity = false) ∧ ∃ created, handled.created = some created ∧
        handled.registry.sessions.get created.session.id = some created.session) := by
  obtain ⟨-, h⟩ := Option.ite_none_left_eq_some.1 h
  cases hearly : state.answeredEarly request with
  | some response =>
    rw [hearly] at h
    cases h
    exact .inl ⟨.inl nofun, rfl, rfl⟩
  | none =>
    rw [hearly] at h
    dsimp only at h
    split at h
    next hoptional =>
      cases h
      exact .inl ⟨.inr (.inl (by simpa using hoptional)), rfl, rfl⟩
    next hoptional =>
      split at h
      next hfull =>
        cases h
        exact .inl ⟨.inr (.inr hfull), rfl, rfl⟩
      next hroom =>
        obtain ⟨⟨session, storedAs, created⟩, hcreated, h⟩ := Option.bind_eq_some_iff.1 h
        cases h
        obtain ⟨hid, hlive, -⟩ := SessionRegistry.created_persisted hcreated
        refine .inr ⟨⟨rfl, by simpa using hoptional, by simpa using hroom⟩, _, rfl, ?_⟩
        show created.sessions.get session.id = some session
        rw [hid]
        exact hlive

theorem sessions_delete_stored (registry : SessionRegistry)
    (delete : String → Outcome SessionStoreError) (purge : String → Outcome EventStoreError)
    (expired : List String) :
    (deleteStored registry delete purge expired).sessions = registry.sessions := by
  induction expired generalizing registry with
  | nil => rfl
  | cons id rest ih => exact ih _

theorem stored_delete_stored (registry : SessionRegistry)
    (delete : String → Outcome SessionStoreError) (purge : String → Outcome EventStoreError)
    (expired : List String) {id : String} (h : registry.persistent.get id = none) :
    (deleteStored registry delete purge expired).persistent.get id = none := by
  induction expired generalizing registry with
  | nil => exact h
  | cons removed rest ih =>
    refine ih _ ?_
    show ((delete removed).write (MemorySessionStore.delete · removed) registry.persistent).get id
      = none
    obtain ⟨-, hwrite⟩ | ⟨-, hwrite⟩ :=
      (delete removed).write_cases (MemorySessionStore.delete · removed) registry.persistent
    · rw [hwrite, MemorySessionStore.get_delete, h, ite_self]
    · rw [hwrite, h]

theorem Gone.cleanup_expired {created : CreatedSession} (h : Gone registry created) (now : ℕ)
    (delete : String → Outcome SessionStoreError) (purge : String → Outcome EventStoreError) :
    Gone (cleanupExpired registry now delete purge) created := by
  constructor
  · unfold cleanupExpired
    rw [sessions_delete_stored, Registry.get_retain]
    intro hget
    exact h.1 (Option.filter_eq_some_iff.1 hget).1
  · intro id hstored
    exact stored_delete_stored _ delete purge _ (h.2 id hstored)

theorem length_cleanup_expired_le (registry : SessionRegistry) (now : ℕ)
    (delete : String → Outcome SessionStoreError) (purge : String → Outcome EventStoreError) :
    (cleanupExpired registry now delete purge).sessions.list.length ≤
      registry.sessions.list.length := by
  unfold cleanupExpired
  rw [sessions_delete_stored]
  simpa [Registry.list, Registry.retain, FinMap.values, FinMap.count] using
    FinMap.count_retain_le (fun session => !registry.isExpired session now) registry.sessions.items

theorem Discarded.step_iff {bound : ℕ} (h : Discarded bound served)
    (hstep : state.step served event = some next) :
    Discarded bound next ↔ ¬CreatesTransient state served event := by
  cases event with
  | post request replies =>
    obtain ⟨handled, hhandled, rfl⟩ := Option.map_eq_some_iff.1 hstep
    obtain ⟨hearly, hnone, hregistry⟩ | ⟨hcreates, created, hcreated, hlive⟩ :=
      handle_post_cases hhandled
    · have hnot : ¬CreatesTransient state served (.post request replies) := by
        rintro ⟨hanswered, hoptional, hroom⟩
        obtain hanswers | hrequired | hfull := hearly
        · exact hanswers hanswered
        · cases hrequired.symm.trans hoptional
        · cases hfull.symm.trans hroom
      refine iff_of_true ?_ hnot
      rw [hnone, hregistry]
      exact ⟨h.gone, h.few⟩
    · refine iff_of_false (fun hdiscarded => ?_) (not_not_intro hcreates)
      refine (hdiscarded.gone created ?_).1 hlive
      rw [hcreated]
      exact List.mem_cons_self
  | cleanup now delete purge =>
    cases hstep
    refine iff_of_true ?_ id
    constructor
    · exact fun created hmem => (h.gone created hmem).cleanup_expired now delete purge
    · exact (length_cleanup_expired_le served.registry now delete purge).trans h.few

/-- In a sequence of requests nothing is left behind and no session is added, at any moment, exactly
when no session is created for any of them. -/
theorem discarded_iff (state : LegacyState) (registry : SessionRegistry) {events : List Event}
    {final : Served}
    (hrun : run state.step { registry } events = some final) :
    Throughout state.step (Discarded registry.sessions.list.length) { registry } events ↔
      Along state.step (fun served event => ¬CreatesTransient state served event)
        { registry } events := by
  refine throughout_iff_along_of_run (I := fun _ => True) (D := fun _ _ => True)
    (fun _ _ _ _ _ _ => trivial) (fun _ _ _ _ _ h hstep => h.step_iff hstep) trivial ?_
    (along_of_forall (fun _ _ => trivial) _ _) hrun
  exact ⟨nofun, Nat.le_refl _⟩

def lenient : LegacyState where
  toAppState := PostReplies.openServer
  serde := JsonRpcService.answering.serde
  statelessVersion := fun _ => none

def listTools (version : String) : PostRequest where
  protocolVersion := some version
  parsed := .object [("jsonrpc", .string "2.0"), ("id", .number (.posInt 1)),
    ("method", .string "tools/list")]

def listed (uuid : String) : LegacyReplies where
  uuid := uuid
  call := .ok (.result (.number 1) (.object []))
  batch := .error "no batch"

theorem unsupported_version_discarded :
    Throughout lenient.step (Discarded 0) { registry := {} }
      [.post (listTools "2024-11-05") (listed "a")] := by
  have hrun : run lenient.step { registry := {} }
      [.post (listTools "2024-11-05") (listed "a")] = some { registry := {} } := by
    rfl
  refine (discarded_iff lenient {} hrun).2 ⟨fun hcreates => ?_, trivial⟩
  cases hcreates.1

def roomForTwo : SessionRegistry where
  config := { maxSessions := some 2 }

/-- Two requests without a session fill it, both of their sessions stay live, and the third request
is refused. -/
theorem transient_sessions_fill_registry : ∃ served,
    run lenient.step { registry := roomForTwo }
        [.post (listTools "2025-11-25") (listed "a"), .post (listTools "2025-11-25") (listed "b")] =
      some served ∧
    (∀ bound, ¬Discarded bound served) ∧ served.registry.atCapacity = true ∧
      ∃ handled, lenient.handlePost (listed "c") served.registry (listTools "2025-11-25") =
          some handled ∧
        handled.response =
          .single { status := 503, body := .text "Maximum session limit reached" } := by
  obtain ⟨served, hserved, hfull, created, hmem, hlive⟩ : ∃ served,
      run lenient.step { registry := roomForTwo }
          [.post (listTools "2025-11-25") (listed "a"),
            .post (listTools "2025-11-25") (listed "b")] = some served ∧
        served.registry.atCapacity = true ∧ ∃ created ∈ served.transients,
          served.registry.sessions.get created.session.id = some created.session := by
    decide +kernel
  have hanswered : lenient.answeredEarly (listTools "2025-11-25") = none := by
    rfl
  refine ⟨served, hserved, fun bound hdiscarded => (hdiscarded.gone created hmem).1 hlive, hfull,
    { response := .single { status := 503, body := .text "Maximum session limit reached" }
      registry := served.registry }, ?_, rfl⟩
  unfold handlePost
  rw [if_neg (by decide), hanswered]
  rw [if_neg (by decide), if_pos hfull]

end LegacyState

end TowerMcp
