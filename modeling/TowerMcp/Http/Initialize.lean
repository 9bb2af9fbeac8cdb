import TowerMcp.Http.Sessions
import TowerMcp.Router.Capability
import TowerMcp.Types.JsonRpc

/-!
# Sessions created by `initialize`

`handle_post` creates the session of an `initialize` before it validates and dispatches the request,
so each refusal that follows has to discard it. One does not: an `initialize` without an identifier
is answered as a notification. `no_orphan_iff_cleans_up` says when a session is left behind.
-/

namespace TowerMcp

open Fallible

namespace SessionRegistry

def createPersisted (registry : SessionRegistry) (id : String) (principal : Option String)
    (now : ℕ) (generated : List String) (write : Outcome SessionStoreError) :
    Option (Session × Option String × SessionRegistry) :=
  let session := registry.newSession id principal now
  let live := registry.insert session { lastAccessed := now }
  (MemorySessionStore.create live.persistent (live.recordFor session) generated).map
    fun (created, after) =>
      (session, if write.applies then some created.id else none,
        { live with persistent := write.write (fun _ => after) live.persistent })

def removeNow (registry : SessionRegistry) (id : String) (write : Outcome SessionStoreError)
    (purge : Outcome EventStoreError) : SessionRegistry :=
  match registry.sessions.get id with
  | some _ =>
    { registry with
      sessions := registry.sessions.unregister id
      persistent := write.write (MemorySessionStore.delete · id) registry.persistent
      events := purge.write (·.purgeSession id) registry.events }
  | none => registry

theorem created_persisted {registry after : SessionRegistry} {id : String}
    {principal : Option String} {now : ℕ} {generated : List String}
    {write : Outcome SessionStoreError} {session : Session} {stored : Option String}
    (h : registry.createPersisted id principal now generated write =
      some (session, stored, after)) :
    session.id = id ∧ after.sessions.get id = some session ∧
      (after.cells session.cell).protocolVersion = "2025-11-25" ∧
      (write.applies = false → stored = none) ∧
      (write.applies = true → ∃ storedId, stored = some storedId ∧
        (storedId = id ↔ registry.persistent.get id = none) ∧
          after.persistent.get storedId ≠ none) := by
  obtain ⟨⟨created, store⟩, hcreate, heq⟩ := Option.map_eq_some_iff.1 h
  cases heq
  refine ⟨rfl, ?_, ?_, ?_, ?_⟩
  · exact (registry.sessions.get_register _ id).trans (if_pos rfl)
  · change (Function.update registry.cells _ _ _).protocolVersion = _
    rw [Function.update_self]
  · intro hrefused
    exact if_neg (by rw [hrefused]; exact Bool.false_ne_true)
  · intro happlies
    refine ⟨created.id, if_pos happlies, MemorySessionStore.id_of_create_iff hcreate, ?_⟩
    unfold Outcome.write
    dsimp only
    rw [if_pos happlies, MemorySessionStore.create_eq_save hcreate, MemorySessionStore.get_save,
      if_pos rfl]
    exact Option.some_ne_none _

end SessionRegistry

/-! ## The handler -/

inductive HttpBody where
  | empty
  | text (text : String)
  | rpc (response : JsonRpcResponse)

structure HttpResponse where
  status : ℕ := 200
  body : HttpBody := .empty
  sessionId : Option String := none
  protocolVersion : Option String := none

def jsonRpcErrorResponse (id : Option RequestId) (error : JsonRpcError) : HttpResponse :=
  { body := .rpc (.error id error) }

structure PostRequest where
  protocolVersion : Option String := none
  headers : List (String × String) := []
  parsed : Json

/-- What the handler consults and does not change. `screen` stands for the checks of the host, the
origin, the body and the two singleton headers, and `inspectModern` for those of a modern request up
to the methods that were removed. -/
structure AppState where
  protocolSupport : List String
  screen : PostRequest → Option HttpResponse
  inspectModern : PostRequest → Option HttpResponse
  resolveRequestPrincipal : PostRequest → SessionPrincipal
  validateWithToolSchema : PostRequest → String → Option JsonRpcError
  implementation : Json → Option Json
  clientCapabilities : Json → Option Json
  applyProtocolResultFields : JsonRpcResponse → String → String → JsonRpcResponse

/-- How what the handler waits for ends: the creation of the session and of its record, the dispatch
of the request, the save of the record, and the removal of the session. -/
structure PostReplies where
  uuid : String
  now : ℕ := 0
  generated : List String := []
  create : Outcome SessionStoreError := .done
  call : Except String JsonRpcResponse
  save : Outcome SessionStoreError := .done
  delete : Outcome SessionStoreError := .done
  purge : Outcome EventStoreError := .done

def isInitializeRequest (body : Json) : Bool :=
  decide ((body.get "method").bind Json.asStr = some "initialize")

/-- Whether a request claims the modern protocol, by its header or its `_meta`. -/
def claimsModernProtocol (protocolVersionHeader : Option String) (parsed : Json) : Bool :=
  decide (protocolVersionHeader = some protocolVersion20260728) ||
    (((parsed.get "params").bind fun params => params.get "_meta").bind fun metadata =>
      metadata.get "io.modelcontextprotocol/protocolVersion").isSome

def isRemovedModernMethod (method : String) : Bool :=
  decide (method ∈ ["initialize", "notifications/initialized", "ping", "logging/setLevel",
    "resources/subscribe", "resources/unsubscribe", "notifications/roots/list_changed"])

def protocolRevisions : List String :=
  ["2025-03-26", "2025-06-18", "2025-11-25", "2026-07-28"]

def SessionPrincipal.intoBound : SessionPrincipal → Option (Option String)
  | .resolved principal => some principal
  | .invalid => none

structure CreatedSession where
  session : Session
  storedAs : Option String

structure Handled where
  response : HttpResponse
  registry : SessionRegistry
  created : Option CreatedSession := none

namespace PostReplies

/-- Drop the session an `initialize` created when the request is rejected. -/
def discardInitSession (replies : PostReplies) (registry : SessionRegistry) (session : Session) :
    SessionRegistry :=
  registry.removeNow session.id replies.delete replies.purge

/-- What a successful `initialize` records of the session: the negotiated version and what the client
said of itself. -/
def recordInitialize (state : AppState) (replies : PostReplies) (registry : SessionRegistry)
    (session : Session) (params : Option Json) (result : Json) : SessionRegistry :=
  let cell := registry.cells session.cell
  let cell :=
    { cell with
      protocolVersion :=
        ((result.get "protocolVersion").bind Json.asStr).getD cell.protocolVersion
      clientInfo := (params.bind (·.get "clientInfo")).bind state.implementation
      clientCapabilities := (params.bind (·.get "capabilities")).bind state.clientCapabilities }
  let recorded := { registry with cells := Function.update registry.cells session.cell cell }
  { recorded with
    persistent :=
      replies.save.write (MemorySessionStore.save · (recorded.recordFor session))
        recorded.persistent }

/-- The dispatch of an `initialize` to its new session, and the response. -/
def dispatchInitialize (state : AppState) (replies : PostReplies) (registry : SessionRegistry)
    (session : Session) (parsed : Json) (request : JsonRpcRequest) :
    HttpResponse × SessionRegistry :=
  match replies.call with
  | .error message =>
    (jsonRpcErrorResponse (some request.id) (.internalError message),
      replies.discardInitSession registry session)
  | .ok response =>
    let (admitted, registry) :=
      match response with
      | .result _ result =>
        (true, recordInitialize state replies registry session (parsed.get "params") result)
      | .error _ _ => (false, replies.discardInitSession registry session)
    let version := (registry.cells session.cell).protocolVersion
    ({ body := .rpc (state.applyProtocolResultFields response "initialize" version)
       sessionId := if admitted then some session.id else none
       protocolVersion := some version }, registry)

/-- What follows the creation of a session: the checks of the request, and its dispatch. The answer
to a response completes a request of the session's own and leaves the registry as it is. -/
def admitInitialize (state : AppState) (replies : PostReplies) (registry : SessionRegistry)
    (session : Session) (request : PostRequest) : HttpResponse × SessionRegistry :=
  let version := (registry.cells session.cell).protocolVersion
  let id := extractRequestId request.parsed
  if version ∉ protocolRevisions then
    (jsonRpcErrorResponse id (.unsupportedProtocolVersion version state.protocolSupport),
      replies.discardInitSession registry session)
  else
    match state.validateWithToolSchema request version with
    | some error =>
      ({ jsonRpcErrorResponse id error with status := 400 },
        replies.discardInitSession registry session)
    | none =>
      if isResponseFrame request.parsed then ({ status := 202 }, registry)
      else if (request.parsed.get "id").isNone then ({ status := 202 }, registry)
      else
        match JsonRpcRequest.fromJson request.parsed with
        | none =>
          (jsonRpcErrorResponse id (.parseError "not a valid JSON-RPC request"),
            replies.discardInitSession registry session)
        | some typed => dispatchInitialize state replies registry session request.parsed typed

/-- Handle the POST of an `initialize`. A modern one is refused before it reaches a session. Without
a result, the identifiers that were drawn for the record did not suffice. -/
def handlePost (state : AppState) (replies : PostReplies) (registry : SessionRegistry)
    (request : PostRequest) : Option Handled :=
  match state.screen request with
  | some response => some { response, registry }
  | none =>
    if claimsModernProtocol request.protocolVersion request.parsed then
      match state.inspectModern request with
      | some response => some { response, registry }
      | none =>
        let method := ((request.parsed.get "method").bind Json.asStr).getD ""
        if isRemovedModernMethod method then
          some
            { response :=
                { jsonRpcErrorResponse (extractRequestId request.parsed)
                    (.methodNotFound method) with status := 404 }
              registry }
        else none
    else
      match (state.resolveRequestPrincipal request).intoBound with
      | none =>
        some
          { response := { status := 403, body := .text "Unable to resolve the session principal" }
            registry }
      | some principal =>
        if registry.atCapacity then
          some
            { response := { status := 503, body := .text "Maximum session limit reached" }
              registry }
        else do
          let (session, storedAs, created) ← registry.createPersisted replies.uuid principal
            replies.now replies.generated replies.create
          let (response, left) := admitInitialize state replies created session request
          some { response, registry := left, created := some { session, storedAs } }

/-! ## What is left behind -/

def NoOrphan (handled : Handled) : Prop :=
  ∀ created, handled.created = some created →
    handled.response.sessionId = some created.session.id ∨
      handled.registry.sessions.get created.session.id ≠ some created.session ∧
        ∀ id, created.storedAs = some id → handled.registry.persistent.get id = none

def Creates (state : AppState) (registry : SessionRegistry) (request : PostRequest) : Prop :=
  state.screen request = none ∧
    claimsModernProtocol request.protocolVersion request.parsed = false ∧
      state.resolveRequestPrincipal request ≠ .invalid ∧ registry.atCapacity = false

/-- Whether a request is refused once its session was created: by the validation of its headers,
because it is no JSON-RPC request, or because its dispatch has no result. -/
def Refused (state : AppState) (replies : PostReplies) (request : PostRequest) : Prop :=
  (state.validateWithToolSchema request "2025-11-25").isSome = true ∨
    (JsonRpcRequest.fromJson request.parsed).isNone = true ∨
      ∀ id result, replies.call ≠ .ok (.result id result)

def StoreLetsGo (replies : PostReplies) (registry : SessionRegistry) : Prop :=
  replies.create.applies = true →
    registry.persistent.get replies.uuid = none ∧ replies.delete.applies = true

/-- The condition on a request for which a session is created: it has an identifier, unless its
headers are refused, and if it is refused, the stores let the session go. -/
def CleansUp (state : AppState) (replies : PostReplies) (registry : SessionRegistry)
    (request : PostRequest) : Prop :=
  Creates state registry request →
    ((state.validateWithToolSchema request "2025-11-25").isSome = true ∨
      (request.parsed.get "id").isSome = true) ∧
    (Refused state replies request → StoreLetsGo replies registry)

variable {state : AppState} {replies : PostReplies} {registry : SessionRegistry}
  {session : Session} {request : PostRequest}

theorem is_response_frame_of_initialize (h : isInitializeRequest request.parsed = true) :
    isResponseFrame request.parsed = false := by
  unfold isInitializeRequest at h
  unfold isResponseFrame
  cases hmethod : request.parsed.get "method" with
  | none =>
    rw [hmethod] at h
    cases h
  | some method => rw [Option.isNone_some, Bool.and_false, Bool.false_and]

theorem admit_initialize_refused (hinit : isInitializeRequest request.parsed = true)
    (hversion : (registry.cells session.cell).protocolVersion = "2025-11-25")
    (hid : (state.validateWithToolSchema request "2025-11-25").isSome = true ∨
      (request.parsed.get "id").isSome = true)
    (h : Refused state replies request) :
    (admitInitialize state replies registry session request).1.sessionId = none ∧
      (admitInitialize state replies registry session request).2 =
        replies.discardInitSession registry session := by
  unfold admitInitialize
  dsimp only
  rw [hversion, if_neg (by decide), is_response_frame_of_initialize hinit]
  unfold Refused at h
  cases hheaders : state.validateWithToolSchema request "2025-11-25" with
  | some error => exact ⟨rfl, rfl⟩
  | none =>
    rw [hheaders, Option.isSome_none] at h hid
    have hpresent := hid.resolve_left Bool.false_ne_true
    have hrefused := h.resolve_left Bool.false_ne_true
    rw [if_neg Bool.false_ne_true, if_neg (by simp [Option.isSome_iff_ne_none.1 hpresent])]
    cases htyped : JsonRpcRequest.fromJson request.parsed with
    | none => exact ⟨rfl, rfl⟩
    | some typed =>
      rw [htyped, Option.isNone_some] at hrefused
      have hcall := hrefused.resolve_left Bool.false_ne_true
      unfold dispatchInitialize
      cases hreply : replies.call with
      | error message => exact ⟨rfl, rfl⟩
      | ok response =>
        cases response with
        | result id result => exact absurd hreply (hcall id result)
        | error id error => exact ⟨rfl, rfl⟩

theorem admit_initialize_admitted (hinit : isInitializeRequest request.parsed = true)
    (hversion : (registry.cells session.cell).protocolVersion = "2025-11-25")
    (hid : (request.parsed.get "id").isSome = true) (h : ¬Refused state replies request) :
    (admitInitialize state replies registry session request).1.sessionId = some session.id := by
  unfold Refused at h
  simp only [not_or, not_forall, not_not, Bool.not_eq_true, Option.isSome_eq_false_iff,
    Option.isNone_iff_eq_none] at h
  obtain ⟨hheaders, htyped, id, result, hcall⟩ := h
  obtain ⟨typed, htyped⟩ := Option.ne_none_iff_exists'.1 (by simpa using htyped)
  unfold admitInitialize dispatchInitialize
  rw [hversion, if_neg (by decide), is_response_frame_of_initialize hinit, hheaders]
  rw [if_neg Bool.false_ne_true, if_neg (by simp [Option.isSome_iff_ne_none.1 hid]), htyped, hcall]
  rfl

theorem admit_initialize_unidentified (hinit : isInitializeRequest request.parsed = true)
    (hversion : (registry.cells session.cell).protocolVersion = "2025-11-25")
    (hheaders : state.validateWithToolSchema request "2025-11-25" = none)
    (hid : request.parsed.get "id" = none) :
    admitInitialize state replies registry session request = ({ status := 202 }, registry) := by
  unfold admitInitialize
  dsimp only
  rw [hversion, if_neg (by decide), is_response_frame_of_initialize hinit, hheaders]
  rw [if_neg Bool.false_ne_true, hid]
  rfl

theorem session_discarded_iff {after : SessionRegistry} {principal : Option String}
    {stored : Option String}
    (h : registry.createPersisted replies.uuid principal replies.now replies.generated
      replies.create = some (session, stored, after)) :
    ((replies.discardInitSession after session).sessions.get session.id ≠ some session ∧
        ∀ id, stored = some id →
          (replies.discardInitSession after session).persistent.get id = none) ↔
      StoreLetsGo replies registry := by
  obtain ⟨hid, hlive, _, hrefused, hwritten⟩ := SessionRegistry.created_persisted h
  unfold discardInitSession SessionRegistry.removeNow
  rw [hid, hlive]
  rw [and_iff_right (by rw [Registry.get_unregister, if_pos rfl]; exact nofun)]
  unfold StoreLetsGo
  by_cases happlies : replies.create.applies = true
  · obtain ⟨storedId, rfl, hsame, hheld⟩ := hwritten happlies
    rw [forall_prop_of_true happlies, ← hsame]
    simp only [Option.some.injEq, forall_eq']
    obtain ⟨hdelete, hwrite⟩ | ⟨hdelete, hwrite⟩ :=
      replies.delete.write_cases (MemorySessionStore.delete · replies.uuid) after.persistent
    · rw [hwrite, MemorySessionStore.get_delete, and_iff_left hdelete]
      split
      next heq => exact iff_of_true rfl heq
      next hne => exact iff_of_false hheld hne
    · rw [hwrite]
      refine iff_of_false hheld fun hboth => ?_
      exact Bool.false_ne_true (hdelete.symm.trans hboth.2)
  · rw [hrefused (Bool.eq_false_iff.2 happlies)]
    exact iff_of_true nofun fun h => absurd h happlies

theorem no_orphan_of_none (response : HttpResponse) (registry : SessionRegistry) :
    NoOrphan { response, registry } :=
  nofun

theorem no_orphan_created_iff {after : SessionRegistry} {principal stored : Option String}
    (hinit : isInitializeRequest request.parsed = true)
    (h : registry.createPersisted replies.uuid principal replies.now replies.generated
      replies.create = some (session, stored, after)) :
    NoOrphan
        { response := (admitInitialize state replies after session request).1
          registry := (admitInitialize state replies after session request).2
          created := some { session, storedAs := stored } } ↔
      ((state.validateWithToolSchema request "2025-11-25").isSome = true ∨
          (request.parsed.get "id").isSome = true) ∧
        (Refused state replies request → StoreLetsGo replies registry) := by
  obtain ⟨hsession, hlive, hversion, _⟩ := SessionRegistry.created_persisted h
  unfold NoOrphan
  simp only [Option.some.injEq, forall_eq']
  by_cases hid : (state.validateWithToolSchema request "2025-11-25").isSome = true ∨
      (request.parsed.get "id").isSome = true
  · rw [and_iff_right hid]
    by_cases hrefused : Refused state replies request
    · obtain ⟨hresponse, hleft⟩ :=
        admit_initialize_refused hinit hversion hid hrefused
      rw [hresponse, hleft, forall_prop_of_true hrefused, ← session_discarded_iff h]
      exact or_iff_right nofun
    · have hheaders : ¬(state.validateWithToolSchema request "2025-11-25").isSome = true :=
        fun hsome => hrefused (Or.inl hsome)
      have hadmitted := admit_initialize_admitted hinit hversion (hid.resolve_left hheaders) hrefused
      exact iff_of_true (Or.inl hadmitted) fun h => absurd h hrefused
  · rw [not_or, Bool.not_eq_true, Bool.not_eq_true, Option.isSome_eq_false_iff,
      Option.isSome_eq_false_iff, Option.isNone_iff_eq_none, Option.isNone_iff_eq_none] at hid
    rw [admit_initialize_unidentified hinit hversion hid.1 hid.2, hid.1, hid.2]
    refine iff_of_false ?_ fun h => h.1.elim Bool.false_ne_true Bool.false_ne_true
    rintro (hsome | ⟨hgone, _⟩)
    · cases hsome
    · exact hgone ((congrArg after.sessions.get hsession).trans hlive)

/-- A session that is created for an `initialize` is handed to the client or gone exactly when the
request has an identifier or refused headers, and if it is refused, the stores let it go. -/
theorem no_orphan_iff_cleans_up {handled : Handled}
    (hinit : isInitializeRequest request.parsed = true)
    (h : handlePost state replies registry request = some handled) :
    NoOrphan handled ↔ CleansUp state replies registry request := by
  unfold handlePost at h
  split at h
  next response hscreen =>
    cases h
    exact iff_of_true (no_orphan_of_none _ _) fun hcreates => by cases hscreen.symm.trans hcreates.1
  next hscreen =>
    split at h
    next hmodern =>
      have hnone : handled.created = none := by
        split at h
        next => cases h; rfl
        next =>
          obtain ⟨_, heq⟩ := Option.ite_none_right_eq_some.1 h
          cases heq
          rfl
      refine iff_of_true (fun created hcreated => ?_) fun hcreates => ?_
      · cases hnone.symm.trans hcreated
      · cases hmodern.symm.trans hcreates.2.1
    next hmodern =>
      have hlegacy := Bool.eq_false_iff.2 hmodern
      cases hprincipal : state.resolveRequestPrincipal request with
      | invalid =>
        rw [hprincipal] at h
        cases h
        exact iff_of_true (no_orphan_of_none _ _) fun hcreates =>
          absurd hprincipal hcreates.2.2.1
      | resolved principal =>
        rw [hprincipal] at h
        dsimp only [SessionPrincipal.intoBound] at h
        split at h
        next hfull =>
          cases h
          refine iff_of_true (no_orphan_of_none _ _) fun hcreates => ?_
          cases hfull.symm.trans hcreates.2.2.2
        next hroom =>
          have hcreates : Creates state registry request :=
            ⟨hscreen, hlegacy, by rw [hprincipal]; exact nofun, Bool.eq_false_iff.2 hroom⟩
          obtain ⟨⟨session, storedAs, after⟩, hcreated, heq⟩ := Option.bind_eq_some_iff.1 h
          cases heq
          unfold CleansUp
          rw [forall_prop_of_true hcreates]
          exact no_orphan_created_iff hinit hcreated

def openServer : AppState :=
  { protocolSupport := ["2025-11-25"]
    screen := fun _ => none
    inspectModern := fun _ => none
    resolveRequestPrincipal := fun _ => .resolved none
    validateWithToolSchema := fun _ _ => none
    implementation := some
    clientCapabilities := some
    applyProtocolResultFields := fun response _ _ => response }

theorem no_orphan_iff_cleans_up_refused :
    ∃ handled, handlePost openServer { uuid := "u", call := .error "refused" } {}
      { parsed := .object [("jsonrpc", .string "2.0"), ("id", .number (.posInt 1)),
          ("method", .string "initialize")] } = some handled ∧ NoOrphan handled := by
  have hcleans : CleansUp openServer { uuid := "u", call := .error "refused" } {}
      { parsed := .object [("jsonrpc", .string "2.0"), ("id", .number (.posInt 1)),
          ("method", .string "initialize")] } :=
    fun _ => ⟨Or.inr rfl, fun _ _ => ⟨rfl, rfl⟩⟩
  exact ⟨_, rfl, (no_orphan_iff_cleans_up rfl rfl).2 hcleans⟩

/-- An `initialize` without an identifier is answered 202 and its session stays live. -/
theorem unidentified_initialize_orphans :
    ¬∀ (state : AppState) (replies : PostReplies) (registry : SessionRegistry)
      (request : PostRequest) (handled : Handled), isInitializeRequest request.parsed = true →
        handlePost state replies registry request = some handled → NoOrphan handled := by
  intro h
  have horphan := h openServer { uuid := "u", call := .error "refused" } {}
    { parsed := .object [("jsonrpc", .string "2.0"), ("method", .string "initialize")] } _ rfl rfl
  obtain hsome | ⟨hgone, _⟩ := horphan _ rfl
  · cases hsome
  · exact hgone rfl

end PostReplies

end TowerMcp
