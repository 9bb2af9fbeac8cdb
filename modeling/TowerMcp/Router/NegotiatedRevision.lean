import TowerMcp.Router.SessionPhases

/-!
# The negotiated revision of a connection

An `initialize` chooses a revision twice, in the resolver of `jsonrpc.rs` that it is inspected under
and in the handler of `router.rs`, and leaves it in three places: the session, whose extensions are
negotiated against it, the service, which inspects later requests under it, and its response.
`one_revision` says under which condition on the requests the three agree.
-/

namespace TowerMcp

open Pool Fallible Execution

namespace NegotiatedRevision

open InspectedDispatch (processSingleRequest protocolVersionKey clientCapabilitiesKey)

/-! ## The service and its requests -/

/-- A service over a router. The parameters of `initialize` are read as they are sent, and `pinned`
is the revision that the extensions of the service hold. -/
structure Negotiator (typed : TypedSerde) where
  server : InspectedDispatch.Server typed
  readParams : typed.Params .initializeParams → InitializeParams
  readsVersion : ∀ members held, typed.decode .initializeParams (.object members) = .ok held →
    (Json.object members).get "protocolVersion" =
      some (.string (readParams held).protocolVersion)
  pinned : Option McpProtocolRevision := none

/-- An `initialize` in progress: in the router, or before it stores its revision, or before it is
answered. `inspected` is the revision it was inspected under. -/
inductive Call where
  | handling (inspected : McpProtocolRevision) (handshake : Handshake)
  | storing (inspected : McpProtocolRevision) (version : String)
  | answering (inspected : McpProtocolRevision) (version : String)

/-- The version that an `initialize` is going to announce. -/
def Call.version : Call → String
  | .handling _ handshake => handshake.version
  | .storing _ version | .answering _ version => version

/-- The revision that an `initialize` was inspected under. -/
def Call.inspected : Call → McpProtocolRevision
  | .handling inspected _ | .storing inspected _ | .answering inspected _ => inspected

/-- An `initialize` that was answered. -/
structure Answered where
  inspected : McpProtocolRevision
  announced : String

/-- A connection. `negotiated` is the revision of its service and `announced` the version in the
last response to `initialize`. -/
structure World where
  session : LegacySession := {}
  negotiated : Option McpProtocolRevision := none
  announced : Option String := none
  calls : Pool Call := {}
  answered : List Answered := []

/-- What happens next: a request comes in, or an `initialize` goes on. -/
inductive Event where
  | request (request : JsonRpcRequest)
  | advance (ticket : ℕ)

section

variable {typed : TypedSerde} (negotiator : Negotiator typed)

def Negotiator.current (world : World) : InspectedDispatch.Server typed where
  service :=
    { negotiator.server.service with
      selected := negotiator.pinned.or world.negotiated }
  reads := negotiator.server.reads
  debug := negotiator.server.debug
  readsCapabilities := negotiator.server.readsCapabilities
  statelessMeta := negotiator.server.statelessMeta
  phase := world.session.state.phase
  requireNegotiatedTasks := negotiator.server.requireNegotiatedTasks

def Negotiator.support : ProtocolSupport :=
  negotiator.server.service.protocolSupport

/-- Take a request: an error that is answered, or an `initialize` to go on with. Other requests are
done. -/
def Negotiator.begin (world : World) (request : JsonRpcRequest) :
    Except JsonRpcError (Option Call) := do
  let inspected ← (negotiator.current world).service.resolveRevision request.toJson
  match ← processSingleRequest (negotiator.current world) request with
  | .initializeRequest held =>
    let params := negotiator.readParams held
    let version ← selectVersion (some negotiator.support) params.protocolVersion
    return some (.handling inspected { version := version, params := params })
  | _ => return none

/-- Go on with an `initialize`. -/
def Negotiator.advance (world : World) (ticket : ℕ) : Call → World
  | .handling inspected handshake =>
    { world with
      session := handshake.write world.session
      calls := world.calls.become ticket
        (match handshake.after with
        | some later => .handling inspected later
        | none => .storing inspected handshake.version) }
  | .storing inspected version =>
    { world with
      negotiated :=
        if version ∈ negotiator.support.versions then
          (McpProtocolRevision.fromStr version).or world.negotiated
        else world.negotiated
      calls := world.calls.become ticket (.answering inspected version) }
  | .answering inspected version =>
    { world with
      announced := some version
      calls := world.calls.finish ticket
      answered := { inspected := inspected, announced := version } :: world.answered }

def step (world : World) : Event → Option World
  | .request request =>
    match negotiator.begin world request with
    | .ok (some call) => some { world with calls := world.calls.start call }
    | _ => some world
  | .advance ticket => (world.calls.get ticket).map (negotiator.advance world ticket)

end

/-! ## What should agree -/

/-- Whether a value declares no revision and is no `initialize`. -/
def IsUndeclared (value : Json) : Prop :=
  JsonRpcService.declaredVersions value = [] ∧ declaredVersion value = none ∧
    (value.get "method").bind Json.asStr ≠ some "initialize"

/-- Each `initialize` was inspected under the revision that it announced. While none is in progress,
requests that declare no revision are inspected under the one announced last, and the extensions of
the session were negotiated against it. -/
structure OneRevision {typed : TypedSerde} (negotiator : Negotiator typed) (world : World) :
    Prop where
  inspected : ∀ answered ∈ world.answered, answered.inspected.asStr = answered.announced
  agree : (∀ ticket, world.calls.get ticket = none) → ∀ version, world.announced = some version →
    (∃ revision : McpProtocolRevision, revision.asStr = version ∧ ∀ value, IsUndeclared value →
      (negotiator.current world).service.resolveRevision value = .ok revision) ∧
      ∃ extensions, world.session.negotiatedExtensions = some extensions ∧
        extensions.against = version

/-- The condition on an event. An `initialize` that declares a revision in its metadata declares the
one it selects, the service has none or this one pinned, and every `initialize` in progress selects
the same. -/
def Meets {typed : TypedSerde} (negotiator : Negotiator typed) (world : World) : Event → Prop
  | .request request => ∀ call, negotiator.begin world request = .ok (some call) →
      (∀ declared, declaredVersion request.toJson = some declared → declared = call.version) ∧
        (∀ revision, negotiator.pinned = some revision → revision.asStr = call.version) ∧
          ∀ ticket other, world.calls.get ticket = some other → other.version = call.version
  | .advance _ => True

/-! ## What an `initialize` selects -/

section

variable {typed : TypedSerde} {negotiator : Negotiator typed} {world next : World}

theorem select_version_eq_ok {support : ProtocolSupport} {requested version : String}
    (h : selectVersion (some support) requested = .ok version) :
    ((some requested).filter fun version =>
        version ∈ supportedProtocolVersions ∧ version ∈ support.versions).or
          (support.versions.find? fun version => version ∈ supportedProtocolVersions) =
        some version ∧
      version ∈ supportedProtocolVersions ∧ version ∈ support.versions := by
  unfold selectVersion at h
  split at h
  next haccepted =>
    cases h
    have haccepts : requested ∈ supportedProtocolVersions ∧ requested ∈ support.versions := by
      simpa using haccepted
    simp [Option.filter, haccepts]
  next hrefused =>
    have hnone : ¬ (requested ∈ supportedProtocolVersions ∧ requested ∈ support.versions) := by
      simpa using hrefused
    dsimp only at h
    split at h
    next found hfound =>
      cases h
      refine ⟨?_, by simpa using List.find?_some hfound, List.mem_of_find?_eq_some hfound⟩
      simp only [Option.filter, hnone, decide_false, Bool.false_eq_true, if_false, Option.none_or,
        hfound]
    next => cases h

variable {request : JsonRpcRequest} {revision : McpProtocolRevision}

theorem object_of_inspected {service : JsonRpcService} {methods : List McpMethodInspection}
    (hmethod : request.method = "initialize") (hrevision : revision ≠ .v20260728)
    (hresolved : service.resolveRevision request.toJson = .ok revision)
    (h : service.inspectIncomingValue request.toJson = .ok methods) :
    (paramsOrEmpty request.params).isObject = true := by
  obtain ⟨held, hheld, h⟩ := bind_eq_ok.1 h
  obtain rfl := Except.ok.inj (hresolved.symm.trans hheld)
  unfold JsonRpcService.inspectRuntimeValue at h
  split at h
  · cases h
  have h := map_error_eq_ok.1 h
  unfold McpInspector.inspect at h
  cases hpayload : JsonRpcPayload.inspect service.serde request.toJson with
  | error source =>
    rw [hpayload] at h
    cases h
  | ok payload =>
    rw [hpayload] at h
    obtain ⟨envelope, henvelope, rfl⟩ := map_eq_ok.1 hpayload
    obtain ⟨method, hcall, -⟩ := map_eq_ok.1 h
    have hget : request.toJson.get "params" = request.params := by
      cases hparams : request.params <;> simp [JsonRpcRequest.toJson, Json.get, hparams]
    cases inspected_of_inspect henvelope with
    | request id name params version noResult noError identified called named given allowed =>
      obtain ⟨inspected, hinspected, -⟩ := map_eq_ok.1 hcall
      have hname : name = "initialize" := by
        have hsent : request.toJson.get "method" = some (.string request.method) := rfl
        rw [hsent, hmethod] at called
        exact (Json.string.inj (Option.some.inj called)).symm
      rw [hget] at given
      subst hname given
      have hlegacy : ∀ revision, revision ≠ McpProtocolRevision.v20260728 →
          revision ∈ legacyRevisions := by
        intro revision hne
        cases revision <;> first | decide | exact absurd rfl hne
      let rule : MethodRule := ⟨"initialize", .request, legacyRevisions, [], legacyRevisions,
        .typed .initializeParams⟩
      have havailable : rule.availableIn revision = true :=
        decide_eq_true (.inl (hlegacy revision hrevision))
      have hrule : methodRule "initialize" = some rule := rfl
      exact (validate_params_eq_ok (valid_of_inspected hrule havailable hinspected)).1
    | notification name params version noResult noError noId => cases noId
    | result id result version noMethod => cases noMethod
    | error id failure error version noMethod => cases noMethod

/-- What an `initialize` that the service goes on with selects and was inspected under. -/
structure Begun (negotiator : Negotiator typed) (request : JsonRpcRequest) (call : Call) :
    Prop where
  fresh : ∃ inspected handshake, call = .handling inspected handshake ∧ handshake.point = .phase
  supported : call.version ∈ supportedProtocolVersions
  accepted : call.version ∈ negotiator.support.versions
  declared : ∀ declared, declaredVersion request.toJson = some declared →
    call.inspected.asStr = declared
  undeclared : declaredVersion request.toJson = none → call.inspected.asStr = call.version

variable {server : InspectedDispatch.Server typed} {held : typed.Params .initializeParams}

theorem decoded_of_processed
    (h : processSingleRequest server request = .ok (.initializeRequest held)) :
    request.method = "initialize" ∧
      (∃ methods, server.service.inspectIncomingValue request.toJson = .ok methods) ∧
      typed.decode .initializeParams (paramsOrEmpty request.params) = .ok held := by
  obtain ⟨-, -, hname, -⟩ := InspectedDispatch.process_single_request_eq_ok h
  have hmethod : request.method = "initialize" := hname.symm
  obtain ⟨⟨⟩, -, h⟩ := bind_eq_ok.1 h
  obtain ⟨methods, hinspected, h⟩ := bind_eq_ok.1 h
  obtain ⟨prepared, -, h⟩ := bind_eq_ok.1 h
  obtain ⟨parsed, hparsed, hhandled⟩ := bind_eq_ok.1 h
  obtain ⟨rfl, -⟩ := InspectedDispatch.handle_eq_ok hhandled
  have hparsed := map_error_eq_ok.1 hparsed
  unfold McpRequest.fromJsonrpc at hparsed
  rw [hmethod] at hparsed
  obtain ⟨decoded, hread, heq⟩ := map_eq_ok.1 hparsed
  cases heq
  exact ⟨hmethod, ⟨methods, hinspected⟩, map_error_eq_ok.1 hread⟩

theorem requested_version (hobject : (paramsOrEmpty request.params).isObject = true)
    (hdecoded : typed.decode .initializeParams (paramsOrEmpty request.params) = .ok held) :
    (request.toJson.pointer ["params", "protocolVersion"]).bind Json.asStr =
      some (negotiator.readParams held).protocolVersion := by
  have hget : request.toJson.pointer ["params", "protocolVersion"] =
      (paramsOrEmpty request.params).get "protocolVersion" := by
    cases hgiven : request.params <;>
      simp [JsonRpcRequest.toJson, Json.pointer, Json.get, hgiven, paramsOrEmpty]
  cases hparams : paramsOrEmpty request.params with
  | object members =>
    rw [hparams] at hdecoded hget
    rw [hget, negotiator.readsVersion members held hdecoded]
    rfl
  | null | bool | number | string | array =>
    rw [hparams] at hobject
    cases hobject

variable {inspected : McpProtocolRevision}

theorem resolved_initialize {handled : McpRequest typed} (hmethod : request.method = "initialize")
    (hresolved : server.service.resolveRevision request.toJson = .ok inspected)
    (hprocessed : processSingleRequest server request = .ok handled) :
    (∀ declared, declaredVersion request.toJson = some declared → inspected.asStr = declared) ∧
      (declaredVersion request.toJson = none →
        server.service.initializeRevision request.toJson = .ok inspected) ∧
      inspected ≠ .v20260728 := by
  obtain ⟨prepared, hprepared, -, -⟩ := InspectedDispatch.process_single_request_eq_ok hprocessed
  obtain ⟨hdeclared, hremoved⟩ := InspectedDispatch.prepare_modern_request_eq_ok hprepared
  have hbatch : JsonRpcService.declaredVersions request.toJson = [] := rfl
  have hsent : (request.toJson.get "method").bind Json.asStr = some "initialize" := by
    rw [← hmethod]
    rfl
  unfold JsonRpcService.resolveRevision at hresolved
  rw [hbatch] at hresolved
  cases hversion : declaredVersion request.toJson with
  | none =>
    rw [hversion] at hresolved
    rw [if_pos hsent] at hresolved
    exact ⟨nofun, fun _ => hresolved, InspectedDispatch.initialize_revision_ne hresolved⟩
  | some declared =>
    rw [hversion] at hresolved
    have hstr := InspectedDispatch.as_str_of_allowed hresolved
    refine ⟨fun other hother => Option.some.inj hother ▸ hstr, nofun, ?_⟩
    rintro rfl
    -- the final revision has dropped the method
    have hkept := hremoved (by rw [← hdeclared, hversion, ← hstr]; rfl)
    rw [hmethod] at hkept
    cases hkept

variable {call : Call}

theorem begun_of_begin (h : negotiator.begin world request = .ok (some call)) :
    Begun negotiator request call := by
  obtain ⟨inspected, hresolved, h⟩ := bind_eq_ok.1 h
  obtain ⟨handled, hprocessed, h⟩ := bind_eq_ok.1 h
  cases handled with
  | initializeRequest held =>
    obtain ⟨version, hselected, h⟩ := bind_eq_ok.1 h
    obtain rfl := Option.some.inj (Except.ok.inj h)
    obtain ⟨hselects, hsupported, haccepted⟩ := select_version_eq_ok hselected
    obtain ⟨hmethod, ⟨methods, hinspected⟩, hdecoded⟩ := decoded_of_processed hprocessed
    obtain ⟨hdeclares, hnegotiates, hlegacy⟩ :=
      resolved_initialize hmethod hresolved hprocessed
    refine ⟨⟨_, _, rfl, rfl⟩, hsupported, haccepted, hdeclares, fun hnone => ?_⟩
    have hobject := object_of_inspected hmethod hlegacy hresolved hinspected
    have hresolves := hnegotiates hnone
    unfold JsonRpcService.initializeRevision at hresolves
    have hrequested := @requested_version typed negotiator request held hobject hdecoded
    rw [hrequested] at hresolves
    dsimp only at hresolves
    rw [show (negotiator.current world).service.protocolSupport = negotiator.support from rfl,
      hselects] at hresolves
    exact InspectedDispatch.as_str_of_allowed hresolves
  | _ => cases h

/-! ## What every step keeps -/

structure Fits (negotiator : Negotiator typed) (version : String) : Prop where
  supported : version ∈ supportedProtocolVersions
  accepted : version ∈ negotiator.support.versions
  pinned : ∀ revision, negotiator.pinned = some revision → revision.asStr = version

def Against (session : LegacySession) (version : String) : Prop :=
  ∃ extensions, session.negotiatedExtensions = some extensions ∧ extensions.against = version

def Stored (negotiated : Option McpProtocolRevision) (version : String) : Prop :=
  ∃ revision : McpProtocolRevision, negotiated = some revision ∧ revision.asStr = version

/-- Whether an `initialize` has written the extensions of its session. -/
def Call.hasWritten : Call → Bool
  | .handling _ _ => false
  | .storing _ _ | .answering _ _ => true

/-- Whether an `initialize` has stored its revision in the service. -/
def Call.hasStored : Call → Bool
  | .handling _ _ | .storing _ _ => false
  | .answering _ _ => true

/-- An `initialize` in progress of a version, with what it has left behind. -/
structure Call.Sound (negotiator : Negotiator typed) (world : World) (version : String)
    (call : Call) : Prop where
  selects : call.version = version
  inspected : call.inspected.asStr = version
  fits : Fits negotiator version
  written : call.hasWritten = true → Against world.session version
  stored : call.hasStored = true → Stored world.negotiated version

/-- Every `initialize` in progress is of one version. While there is none, the copies are of the
version announced last. -/
structure Sound (negotiator : Negotiator typed) (world : World) : Prop where
  calls : ∃ version, world.calls.Holds (Call.Sound negotiator world version)
  answered : ∀ answered ∈ world.answered, answered.inspected.asStr = answered.announced
  idle : (∀ ticket, world.calls.get ticket = none) → ∀ version, world.announced = some version →
    Fits negotiator version ∧ Against world.session version ∧ Stored world.negotiated version

variable {version : String}

theorem Call.Sound.carry (h : call.Sound negotiator world version)
    (hagainst : Against world.session version → Against next.session version)
    (hstored : Stored world.negotiated version → Stored next.negotiated version) :
    call.Sound negotiator next version where
  selects := h.selects
  inspected := h.inspected
  fits := h.fits
  written hwritten := hagainst (h.written hwritten)
  stored hheld := hstored (h.stored hheld)

variable {handshake : Handshake}

theorem against_write {session : LegacySession} (h : Against session handshake.version) :
    Against (handshake.write session) handshake.version := by
  unfold Handshake.write
  cases handshake.point with
  | phase | clientInfo | capabilities => exact h
  | extensions => exact ⟨_, rfl, rfl⟩

theorem after_cases (handshake : Handshake) (session : LegacySession) :
    (∃ later, handshake.after = some later ∧ later.version = handshake.version) ∨
      (handshake.after = none ∧ Against (handshake.write session) handshake.version) := by
  unfold Handshake.after Handshake.write
  cases handshake.point with
  | phase | clientInfo | capabilities => exact .inl ⟨_, rfl, rfl⟩
  | extensions => exact .inr ⟨rfl, _, rfl, rfl⟩

theorem from_str_of_supported (h : version ∈ supportedProtocolVersions) :
    ∃ revision, McpProtocolRevision.fromStr version = some revision := by
  simp only [supportedProtocolVersions, List.mem_cons, List.not_mem_nil, or_false] at h
  rcases h with rfl | rfl | rfl <;> exact ⟨_, rfl⟩

variable {ticket : ℕ}

theorem Sound.advance (h : Sound negotiator world) (hget : world.calls.get ticket = some call) :
    Sound negotiator (negotiator.advance world ticket call) := by
  obtain ⟨version, hcalls⟩ := h.calls
  have hcall := hcalls.of_get hget
  have hversion := hcall.selects
  -- a pool with a call that was moved on is not empty
  have hbusy : ∀ moved, ¬ ∀ other, (world.calls.become ticket moved).get other = none := by
    intro moved hnone
    have hmoved := hnone ticket
    rw [get_become_self] at hmoved
    cases hmoved
  cases call with
  | handling inspected handshake =>
    change handshake.version = version at hversion
    subst hversion
    have hcarried : world.calls.Holds (Call.Sound negotiator
        (negotiator.advance world ticket (.handling inspected handshake)) handshake.version) :=
      hcalls.mono fun other hother => hother.carry against_write id
    refine ⟨⟨handshake.version, hcarried.become ?_⟩, h.answered,
      fun hnone => absurd hnone (hbusy _)⟩
    obtain ⟨later, hafter, hlater⟩ | ⟨hafter, hagainst⟩ := after_cases handshake world.session
    · rw [hafter]
      exact ⟨hlater, hcall.inspected, hcall.fits, nofun, nofun⟩
    · rw [hafter]
      exact ⟨rfl, hcall.inspected, hcall.fits, fun _ => hagainst, nofun⟩
  | storing inspected settled =>
    change settled = version at hversion
    subst hversion
    obtain ⟨revision, hread⟩ := from_str_of_supported hcall.fits.supported
    have hstored : Stored
        (negotiator.advance world ticket (.storing inspected settled)).negotiated settled := by
      refine ⟨revision, ?_, InspectedDispatch.as_str_of_from_str hread⟩
      simp [Negotiator.advance, hcall.fits.accepted, hread]
    have hcarried : world.calls.Holds (Call.Sound negotiator
        (negotiator.advance world ticket (.storing inspected settled)) settled) :=
      hcalls.mono fun other hother => hother.carry id fun _ => hstored
    refine ⟨⟨settled, hcarried.become ?_⟩, h.answered, fun hnone => absurd hnone (hbusy _)⟩
    exact ⟨rfl, hcall.inspected, hcall.fits, fun _ => hcall.written rfl, fun _ => hstored⟩
  | answering inspected settled =>
    change settled = version at hversion
    subst hversion
    refine ⟨⟨settled, Pool.Holds.finish (hcalls.mono fun other hother => hother.carry id id)⟩,
      ?_, ?_⟩
    · intro answered hmem
      obtain rfl | hmem := List.mem_cons.1 hmem
      · exact hcall.inspected
      · exact h.answered answered hmem
    · intro _ announced hannounced
      cases hannounced
      exact ⟨hcall.fits, hcall.written rfl, hcall.stored rfl⟩

theorem Sound.start (h : Sound negotiator world)
    (hmeets : Meets negotiator world (.request request))
    (hbegin : negotiator.begin world request = .ok (some call)) :
    Sound negotiator { world with calls := world.calls.start call } := by
  obtain ⟨hdeclared, hpinned, hsame⟩ := hmeets call hbegin
  have hbegun := begun_of_begin hbegin
  obtain ⟨inspected, handshake, rfl, -⟩ := hbegun.fresh
  have hinspected : inspected.asStr = handshake.version := by
    cases hversion : declaredVersion request.toJson with
    | none => exact hbegun.undeclared hversion
    | some declared =>
      calc inspected.asStr = declared := hbegun.declared declared hversion
        _ = handshake.version := hdeclared declared hversion
  refine ⟨⟨handshake.version, Pool.Holds.start ?_ ?_⟩, h.answered, ?_⟩
  · intro ticket other hget
    obtain ⟨version, hcalls⟩ := h.calls
    have hother := hcalls.of_get hget
    obtain rfl : version = handshake.version := by
      rw [← hother.selects]
      exact hsame ticket other hget
    exact hother.carry id id
  · exact ⟨rfl, hinspected, ⟨hbegun.supported, hbegun.accepted, hpinned⟩, nofun, nofun⟩
  · intro hnone
    have hstarted := hnone world.calls.next
    rw [get_start_self] at hstarted
    cases hstarted

variable {event : Event}

theorem Sound.step (h : Sound negotiator world) (hmeets : Meets negotiator world event)
    (hstep : step negotiator world event = some next) : Sound negotiator next := by
  cases event with
  | request request =>
    simp only [NegotiatedRevision.step] at hstep
    split at hstep
    next call hbegin =>
      cases hstep
      exact h.start hmeets hbegin
    next =>
      cases hstep
      exact h
  | advance ticket =>
    obtain ⟨call, hget, rfl⟩ := Option.map_eq_some_iff.1 hstep
    exact h.advance hget

theorem selected_of_stored (hfits : Fits negotiator version)
    (hstored : Stored world.negotiated version) :
    ∃ revision : McpProtocolRevision, revision.asStr = version ∧
      (negotiator.current world).service.selected = some revision := by
  show ∃ revision : McpProtocolRevision, revision.asStr = version ∧
    negotiator.pinned.or world.negotiated = some revision
  cases hpinned : negotiator.pinned with
  | some revision => exact ⟨revision, hfits.pinned revision hpinned, rfl⟩
  | none =>
    obtain ⟨revision, hnegotiated, hversion⟩ := hstored
    exact ⟨revision, hversion, hnegotiated⟩

theorem resolve_undeclared {service : JsonRpcService} {value : Json} (hvalue : IsUndeclared value)
    (hselected : service.selected = some revision)
    (haccepted : revision.asStr ∈ service.protocolSupport.versions) :
    service.resolveRevision value = .ok revision := by
  obtain ⟨hbatch, hdeclares, hmethod⟩ := hvalue
  unfold JsonRpcService.resolveRevision
  rw [hbatch, hdeclares]
  rw [if_neg hmethod]
  unfold JsonRpcService.undeclaredRevision
  rw [hselected]
  exact if_pos haccepted

theorem Sound.holds (h : Sound negotiator world) : OneRevision negotiator world where
  inspected := h.answered
  agree hidle version hannounced := by
    obtain ⟨hfits, hagainst, hstored⟩ := h.idle hidle version hannounced
    obtain ⟨revision, rfl, hselected⟩ := selected_of_stored hfits hstored
    exact ⟨⟨revision, rfl, fun value hvalue =>
      resolve_undeclared hvalue hselected hfits.accepted⟩, hagainst⟩

/-! ## Requests that part the copies -/

def left (handshake : Handshake) : ℕ :=
  match handshake.point with
  | .phase => 3
  | .clientInfo => 2
  | .capabilities => 1
  | .extensions => 0

theorem left_after {later : Handshake} (h : handshake.after = some later) :
    left handshake = left later + 1 := by
  unfold Handshake.after at h
  cases hpoint : handshake.point with
  | phase | clientInfo | capabilities =>
    rw [hpoint] at h
    cases h
    simp [left, hpoint]
  | extensions =>
    rw [hpoint] at h
    cases h

variable (negotiator)

theorem written_of_handling (hget : world.calls.get ticket = some (.handling inspected handshake)) :
    ∃ final, Reachable (step negotiator) world final ∧
      final.calls.get ticket = some (.storing inspected handshake.version) ∧
      (∀ other, other ≠ ticket → final.calls.get other = world.calls.get other) ∧
      Against final.session handshake.version := by
  induction hleft : left handshake using Nat.strong_induction_on generalizing world handshake with
  | _ remaining ih =>
    have hstep : step negotiator world (.advance ticket) =
        some (negotiator.advance world ticket (.handling inspected handshake)) := by
      simp [step, hget]
    have hothers : ∀ moved other, other ≠ ticket →
        (world.calls.become ticket moved).get other = world.calls.get other := by
      intro moved other hother
      rw [get_become_eq_ite, if_neg hother]
    obtain ⟨later, hafter, hversion⟩ | ⟨hafter, hagainst⟩ := after_cases handshake world.session
    · have hfewer := left_after hafter
      obtain ⟨final, hreach, hstoring, hsame, hagainst⟩ :=
        @ih (left later) (by omega)
          (negotiator.advance world ticket (.handling inspected handshake)) later
          (by simp [Negotiator.advance, hafter, get_become_self]) rfl
      rw [hversion] at hstoring hagainst
      refine ⟨final, hreach.of_step hstep, hstoring, fun other hother => ?_, hagainst⟩
      rw [hsame other hother]
      exact hothers _ other hother
    · refine ⟨_, (reachable_refl _).of_step hstep, ?_, hothers _, hagainst⟩
      simp [Negotiator.advance, hafter, get_become_self]

theorem answered_of_written (hget : world.calls.get ticket = some call)
    (hwritten : call.hasWritten = true) :
    ∃ final, Reachable (step negotiator) world final ∧
      (∀ other, final.calls.get other = if other = ticket then none else world.calls.get other) ∧
      final.session = world.session ∧ final.announced = some call.version ∧
      { inspected := call.inspected, announced := call.version } ∈ final.answered := by
  cases call with
  | handling inspected handshake => cases hwritten
  | answering inspected version =>
    have hstep : step negotiator world (.advance ticket) =
        some (negotiator.advance world ticket (.answering inspected version)) := by
      simp [step, hget]
    exact ⟨_, (reachable_refl _).of_step hstep,
      fun other => get_finish_eq_ite world.calls ticket other, rfl, rfl,
      List.mem_cons_self⟩
  | storing inspected version =>
    have hstep : step negotiator world (.advance ticket) =
        some (negotiator.advance world ticket (.storing inspected version)) := by
      simp [step, hget]
    have hanswer : step negotiator (negotiator.advance world ticket (.storing inspected version))
          (.advance ticket) =
        some (negotiator.advance (negotiator.advance world ticket (.storing inspected version))
          ticket (.answering inspected version)) := by
      simp [step, Negotiator.advance, get_become_self]
    refine ⟨_, .of_step hstep ((reachable_refl _).of_step hanswer), fun other => ?_,
      rfl, rfl, List.mem_cons_self⟩
    simp only [Negotiator.advance, get_finish_eq_ite, get_become_eq_ite]
    split <;> rfl

theorem answered_of_get (hget : world.calls.get ticket = some call) :
    ∃ final, Reachable (step negotiator) world final ∧
      ∀ other, final.calls.get other = if other = ticket then none else world.calls.get other := by
  by_cases hwritten : call.hasWritten = true
  · obtain ⟨final, hreach, hcalls, -⟩ := answered_of_written negotiator hget hwritten
    exact ⟨final, hreach, hcalls⟩
  cases call with
  | storing inspected version | answering inspected version => exact absurd rfl hwritten
  | handling inspected handshake =>
    obtain ⟨middle, hfirst, hstoring, hsame, -⟩ := written_of_handling negotiator hget
    obtain ⟨final, hsecond, hcalls, -⟩ := answered_of_written negotiator hstoring rfl
    refine ⟨final, hfirst.trans hsecond, fun other => ?_⟩
    rw [hcalls other]
    split
    next => rfl
    next hother => exact hsame other hother

theorem answered_of_tickets (tickets : List ℕ) (world : World) :
    ∃ final, Reachable (step negotiator) world final ∧
      ∀ other, final.calls.get other = if other ∈ tickets then none else world.calls.get other := by
  induction tickets generalizing world with
  | nil => exact ⟨world, reachable_refl world, by simp⟩
  | cons ticket rest ih =>
    have hfirst : ∃ middle, Reachable (step negotiator) world middle ∧
        ∀ other, middle.calls.get other =
          if other = ticket then none else world.calls.get other := by
      cases hget : world.calls.get ticket with
      | some call => exact answered_of_get negotiator hget
      | none =>
        refine ⟨world, reachable_refl world, fun other => ?_⟩
        split
        next hother => rw [hother, hget]
        next => rfl
    obtain ⟨middle, hfirst, hmiddle⟩ := hfirst
    obtain ⟨final, hsecond, hfinal⟩ := ih middle
    refine ⟨final, hfirst.trans hsecond, fun other => ?_⟩
    rw [hfinal other, hmiddle other]
    by_cases hother : other = ticket <;> simp [hother]

theorem answered_but (kept : List ℕ) (world : World) :
    ∃ final, Reachable (step negotiator) world final ∧
      ∀ other, final.calls.get other = if other ∈ kept then world.calls.get other else none := by
  obtain ⟨final, hreach, hfinal⟩ := @answered_of_tickets _ negotiator
    (world.calls.calls.keys.filter fun ticket => ticket ∉ kept) world
  refine ⟨final, hreach, fun other => ?_⟩
  rw [hfinal other]
  cases hget : world.calls.get other with
  | none => simp
  | some call =>
    have hkey : other ∈ world.calls.calls.keys :=
      AList.lookup_isSome.1 (by simp [show world.calls.calls.lookup other = some call from hget])
    by_cases hkept : other ∈ kept <;> simp [hkept, hkey]

theorem numbered_step (h : world.calls.Numbered) (hstep : step negotiator world event = some next) :
    next.calls.Numbered := by
  cases event with
  | request request =>
    simp only [step] at hstep
    split at hstep
    next call hbegin =>
      cases hstep
      exact h.start call
    next =>
      cases hstep
      exact h
  | advance ticket =>
    obtain ⟨call, hget, rfl⟩ := Option.map_eq_some_iff.1 hstep
    cases call with
    | handling inspected handshake => exact h.become hget _
    | storing inspected version => exact h.become hget _
    | answering inspected version => exact h.finish ticket

theorem parted_of_against {version other : String}
    (hidle : ∀ ticket, world.calls.get ticket = none) (hannounced : world.announced = some version)
    (hagainst : Against world.session other) (hne : other ≠ version) :
    ¬ OneRevision negotiator world := by
  intro h
  obtain ⟨extensions, hheld, rfl⟩ := hagainst
  obtain ⟨-, agreed, hagreed, hversion⟩ := h.agree hidle version hannounced
  rw [hheld] at hagreed
  cases hagreed
  exact hne hversion

theorem parted_of_pinned (hidle : ∀ ticket, world.calls.get ticket = none)
    (hannounced : world.announced = some version) (hpinned : negotiator.pinned = some revision)
    (hne : revision.asStr ≠ version) : ¬ OneRevision negotiator world := by
  intro h
  obtain ⟨⟨resolved, hversion, hresolves⟩, -⟩ := h.agree hidle version hannounced
  have hselected : (negotiator.current world).service.selected = some revision := by
    simp [Negotiator.current, hpinned]
  have hnull := hresolves .null ⟨rfl, rfl, nofun⟩
  have hundeclared : (negotiator.current world).service.undeclaredRevision .null = .ok resolved :=
    hnull
  unfold JsonRpcService.undeclaredRevision at hundeclared
  rw [hselected] at hundeclared
  dsimp only at hundeclared
  split at hundeclared
  next =>
    cases hundeclared
    exact hne hversion
  next => cases hundeclared

theorem parted_of_two {new : ℕ} (hticket : ticket ≠ new)
    (hget : world.calls.get ticket = some call)
    (hnew : world.calls.get new = some (.handling inspected handshake))
    (honly : ∀ other, other ≠ ticket → other ≠ new → world.calls.get other = none)
    (hne : call.version ≠ handshake.version) :
    ∃ final, Reachable (step negotiator) world final ∧
      ¬ OneRevision negotiator final := by
  obtain ⟨first, hfirst, hstoring, hsame, hagainst⟩ :=
    written_of_handling negotiator hnew
  have hcall : first.calls.get ticket = some call := (hsame ticket hticket).trans hget
  by_cases hwritten : call.hasWritten = true
  · -- the new one writes last and is answered first
    obtain ⟨second, hsecond, hcalls, hsession, -⟩ :=
      answered_of_written negotiator hstoring rfl
    have hheld : second.calls.get ticket = some call := by
      rw [hcalls ticket, if_neg hticket, hcall]
    obtain ⟨final, hthird, hdone, hkept, hannounced, -⟩ :=
      answered_of_written negotiator hheld hwritten
    refine ⟨final, (hfirst.trans hsecond).trans hthird,
      parted_of_against negotiator (fun other => ?_) hannounced ?_ hne.symm⟩
    · rw [hdone other, hcalls other]
      split_ifs with hother hlast
      · rfl
      · rfl
      · rw [hsame other hlast, honly other hother hlast]
    · rw [hkept, hsession]
      exact hagainst
  cases call with
  | storing _ _ | answering _ _ => exact absurd rfl hwritten
  | handling before older =>
    -- the older one writes last and is answered first
    obtain ⟨second, hsecond, holder, hothers, hlater⟩ :=
      written_of_handling negotiator hcall
    obtain ⟨third, hthird, hcalls, hsession, -⟩ :=
      answered_of_written negotiator holder rfl
    have hheld : third.calls.get new = some (.storing inspected handshake.version) := by
      rw [hcalls new, if_neg hticket.symm, hothers new hticket.symm, hstoring]
    obtain ⟨final, hfourth, hdone, hkept, hannounced, -⟩ :=
      answered_of_written negotiator hheld rfl
    refine ⟨final, ((hfirst.trans hsecond).trans hthird).trans hfourth,
      parted_of_against negotiator (fun other => ?_) hannounced ?_ hne⟩
    · rw [hdone other, hcalls other]
      split_ifs with hlast hother
      · rfl
      · rfl
      · rw [hothers other hother, hsame other hlast, honly other hother hlast]
    · rw [hkept, hsession]
      exact hlater

theorem parted_of_not_meets (hnumbered : world.calls.Numbered)
    (hstep : step negotiator world event = some next) (hmeets : ¬ Meets negotiator world event) :
    ∃ final, Reachable (step negotiator) next final ∧
      ¬ OneRevision negotiator final := by
  cases event with
  | advance ticket => exact absurd trivial hmeets
  | request request =>
    simp only [Meets, not_forall] at hmeets
    obtain ⟨call, hbegin, hagainst⟩ := hmeets
    simp only [step, hbegin, Option.some.injEq] at hstep
    subst hstep
    have hbegun := begun_of_begin hbegin
    obtain ⟨inspected, handshake, rfl, -⟩ := hbegun.fresh
    have hstarted := world.calls.get_start_self (.handling inspected handshake)
    rw [not_and_or, not_and_or] at hagainst
    rcases hagainst with hdeclared | hpinned | hsame
    · simp only [not_forall] at hdeclared
      obtain ⟨declared, hdeclares, hne⟩ := hdeclared
      obtain ⟨first, hfirst, hstoring, -⟩ := @written_of_handling _ negotiator
        { world with calls := world.calls.start (.handling inspected handshake) } _ _ _ hstarted
      obtain ⟨final, hsecond, -, -, -, hanswered⟩ :=
        answered_of_written negotiator hstoring rfl
      refine ⟨final, hfirst.trans hsecond, fun h => hne ?_⟩
      have hannounced : inspected.asStr = handshake.version := h.inspected _ hanswered
      exact (hbegun.declared declared hdeclares).symm.trans hannounced
    · simp only [not_forall] at hpinned
      obtain ⟨revision, hpins, hne⟩ := hpinned
      obtain ⟨first, hfirst, hcalls⟩ := answered_but negotiator [world.calls.next]
        { world with calls := world.calls.start (.handling inspected handshake) }
      have hnew := hcalls world.calls.next
      rw [if_pos List.mem_cons_self] at hnew
      obtain ⟨second, hsecond, hstoring, hothers, -⟩ :=
        written_of_handling negotiator (hnew.trans hstarted)
      obtain ⟨final, hthird, hdone, -, hannounced, -⟩ :=
        answered_of_written negotiator hstoring rfl
      refine ⟨final, (hfirst.trans hsecond).trans hthird,
        parted_of_pinned negotiator (fun other => ?_) hannounced hpins hne⟩
      rw [hdone other]
      split
      next => rfl
      next hother =>
        rw [hothers other hother, hcalls other, if_neg (by simpa using hother)]
    · simp only [not_forall] at hsame
      obtain ⟨ticket, other, hget, hne⟩ := hsame
      have hticket : ticket ≠ world.calls.next := (hnumbered ticket other hget).ne
      obtain ⟨first, hfirst, hcalls⟩ := answered_but negotiator [ticket, world.calls.next]
        { world with calls := world.calls.start (.handling inspected handshake) }
      have hheld := hcalls ticket
      rw [if_pos List.mem_cons_self] at hheld
      have hnew := hcalls world.calls.next
      rw [if_pos (by simp)] at hnew
      obtain ⟨final, hsecond, hparted⟩ := parted_of_two negotiator hticket
        (hheld.trans (hnumbered.get_start hget _)) (hnew.trans hstarted)
        (fun older hfirst hsecond => by
          rw [hcalls older, if_neg (by simp [hfirst, hsecond])]) hne
      exact ⟨final, hfirst.trans hsecond, hparted⟩

/-! ## Runs -/

theorem sound_new (session : LegacySession) (negotiated : Option McpProtocolRevision) :
    Sound negotiator { session := session, negotiated := negotiated } where
  calls := ⟨"", holds_empty⟩
  answered answered hmem := by cases hmem
  idle _ version hannounced := by cases hannounced

/-- In a run whose requests meet the condition, each `initialize` was inspected under the revision
that it announced, and the three copies of the last one agree while none is in progress. After a
request against the condition they can part. A request that fails changes none of them. -/
theorem one_revision (session : LegacySession)
    (negotiated : Option McpProtocolRevision) :
    (∀ events, Along (step negotiator) (Meets negotiator)
        { session := session, negotiated := negotiated } events →
      Throughout (step negotiator) (OneRevision negotiator)
        { session := session, negotiated := negotiated } events) ∧
      (∀ world event next, Reachable (step negotiator)
          { session := session, negotiated := negotiated } world →
        step negotiator world event = some next → ¬ Meets negotiator world event →
          ∃ rest, ¬ Throughout (step negotiator) (OneRevision negotiator) next rest) ∧
      ∀ world request error, negotiator.begin world request = .error error →
        step negotiator world (.request request) = some world := by
  refine ⟨fun events hmeets => ?_, ?_, ?_⟩
  · have hsound := throughout_of_along
      (fun _ _ _ h hcondition hstep => Sound.step h hcondition hstep)
      (sound_new negotiator session negotiated) hmeets
    exact hsound.mono fun _ h => h.holds
  · rintro world event next ⟨events, hrun⟩ hstep hmeets
    have hnumbered := run_invariant (I := fun world => world.calls.Numbered)
      (fun _ _ _ h hstep => numbered_step negotiator h hstep) numbered_empty hrun
    obtain ⟨final, hreach, hparted⟩ := parted_of_not_meets negotiator hnumbered hstep hmeets
    exact hreach.breaks hparted
  · intro world request error hfails
    simp only [step, hfails]

end

/-! ## Requests whose copies part -/

/-- A reading of parameters that keeps them, where those of `initialize` have a version. -/
def versioned : TypedSerde where
  Params := fun _ => Json
  decode := fun type params =>
    match type with
    | .initializeParams =>
      if ((params.get "protocolVersion").bind Json.asStr).isSome then .ok params
      else .error "missing field protocolVersion"
    | _ => .ok params
  default := fun _ => .object []
  UpdateTaskParams := Json
  updateTask := .ok
  SubscriptionsListenParams := Json
  listen := .ok
  notifications := fun _ => none
  defaultListen := .object []
  requestMeta := fun _ => .error "missing field"
  errorText := fun _ _ => "invalid type"

def legacyNegotiator : Negotiator versioned where
  server :=
    { service :=
        { serde := versioned.serde
          protocolSupport := ⟨supportedProtocolVersions, supported_protocol_versions_ne_nil⟩
          call := fun _ => .ok (some .null)
          listen := fun request => .result request.id .null
          validateRequestProtocol := fun _ => .ok () }
      reads := rfl
      debug := id
      readsCapabilities := fun _ => true
      statelessMeta := fun _ => .ok ()
      phase := .uninitialized
      requireNegotiatedTasks := fun method => .error (.methodNotFound method) }
  readParams held :=
    { protocolVersion := ((Json.get held "protocolVersion").bind Json.asStr).getD ""
      capabilities := {}
      clientInfo := { name := "client", version := "1.0" } }
  readsVersion members held hdecoded := by
    change (if (((Json.object members).get "protocolVersion").bind Json.asStr).isSome then
      .ok (Json.object members) else .error "missing field protocolVersion") =
        Except.ok held at hdecoded
    split at hdecoded
    next hsome =>
      cases hdecoded
      obtain ⟨version, hversion⟩ := Option.isSome_iff_exists.1 hsome
      obtain ⟨value, hget, htext⟩ := Option.bind_eq_some_iff.1 hversion
      cases value with
      | string text =>
        rw [hget]
        rfl
      | null | bool | number | array | object => cases htext
    next => cases hdecoded

/-- An `initialize` for a version. -/
def initializeRequest (version : String) (metadata : List (String × Json)) : JsonRpcRequest where
  jsonrpc := "2.0"
  id := .number 1
  method := "initialize"
  params := some (.object [("protocolVersion", .string version), ("_meta", .object metadata)])

def otherVersion : List (String × Json) :=
  [(protocolVersionKey, .string "2025-06-18"), (clientCapabilitiesKey, .object [])]

/-- An `initialize` that declares another version than the one it requests. -/
def declaringEvents : List Event :=
  .request (initializeRequest "2025-11-25" otherVersion) :: List.replicate 6 (.advance 0)

/-- Two `initialize` for different versions, of which the first to write is the last to answer. -/
def overlappingEvents : List Event :=
  [.request (initializeRequest "2025-11-25" []), .request (initializeRequest "2025-06-18" [])] ++
    List.replicate 4 (.advance 0) ++ List.replicate 6 (.advance 1) ++ List.replicate 2 (.advance 0)

/-- An `initialize` is inspected under another revision than it announces, and two that overlap
leave the extensions of one and announce the other. -/
theorem revisions_part :
    (∃ world, run (step legacyNegotiator) {} declaringEvents = some world ∧
        ¬ OneRevision legacyNegotiator world) ∧
      ∃ world, run (step legacyNegotiator) {} overlappingEvents = some world ∧
        ¬ OneRevision legacyNegotiator world := by
  refine ⟨⟨_, rfl, fun h => ?_⟩, ⟨_, rfl, ?_⟩⟩
  · have hannounced := h.inspected _ List.mem_cons_self
    exact absurd hannounced (by decide)
  · exact parted_of_against legacyNegotiator (fun _ => rfl) rfl ⟨_, rfl, rfl⟩
      (show "2025-06-18" ≠ "2025-11-25" by decide)

end NegotiatedRevision

end TowerMcp
