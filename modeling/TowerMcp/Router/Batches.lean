import TowerMcp.Router.InspectedDispatch

/-!
# Batches of requests

`run_batch` of `jsonrpc.rs`: the futures of the members overlap, they share the negotiated revision,
the inner service answers them in any order, and the peer may cancel them meanwhile. `Member.Settled`
is what holds of a member in every state of a run.
-/

namespace TowerMcp.Batches

open Execution InspectedDispatch

/-- How far the future of a member has come: it has not been polled, it waits for the inner service, or
it has its output. -/
inductive Phase where
  | waiting
  | serving (protocolVersion : Option String)
  | done (output : Option JsonRpcResponse)

structure Member where
  request : JsonRpcRequest
  phase : Phase := .waiting
  cancelled : Bool := false

/-- The members in the order of the requests, and the revision that `initialize` has negotiated. -/
structure Batch where
  members : List Member
  negotiated : Option McpProtocolRevision

/-- What the futures meet: one is polled first, or its request is cancelled or answered by the inner
service, which keeps its identifier; and other calls of the service may negotiate a revision. -/
inductive Event where
  | poll (index : ℕ)
  | cancel (index : ℕ)
  | respond (index : ℕ) (inner : Except JsonRpcError (Except String Json))
  | negotiate (revision : McpProtocolRevision)

/-- The service that runs a batch: with `answerable` it leaves out what the peer has cancelled.
`toValue` and `batchToValue` serialize requests. -/
structure BatchService (typed : TypedSerde) where
  server : InspectedDispatch.Server typed
  extensionRevision : Option McpProtocolRevision
  answerable : Bool
  toValue : JsonRpcRequest → Except String Json
  batchToValue : List JsonRpcRequest → Except String Json

inductive BatchError where
  | jsonRpc (error : JsonRpcError)
  | serialization (message : String)

def serializationError (message : String) : JsonRpcError :=
  .internalError ("Serialization error: " ++ message)

/-- `RouterResponse::into_jsonrpc`. -/
def intoJsonrpc (id : RequestId) : Except JsonRpcError (Except String Json) → JsonRpcResponse
  | .ok (.ok result) => .result id result
  | .ok (.error message) => .error (some id) (serializationError message)
  | .error error => .error (some id) error

def orInsert (fields : List (String × Json)) (key : String) (value : Json) : List (String × Json) :=
  if fields.any fun field => field.1 == key then fields else fields ++ [(key, value)]

def isCacheableResultMethod (method : String) : Bool :=
  ["server/discover", "tools/list", "prompts/list", "resources/list", "resources/read",
    "resources/templates/list"].contains method

def applyProtocolResultFields (method version : String) : JsonRpcResponse → JsonRpcResponse
  | .result id (.object fields) =>
    if version ≠ protocolVersion20260728 then .result id (.object fields)
    else
      let fields := orInsert fields "resultType" (.string "complete")
      if isCacheableResultMethod method then
        .result id (.object (orInsert (orInsert fields "ttlMs" (.number (.posInt 0))) "cacheScope"
          (.string "private")))
      else .result id (.object fields)
  | response => response

def responseId : JsonRpcResponse → Option RequestId
  | .result id _ => some id
  | .error id _ => id

section

variable {typed : TypedSerde} (service : BatchService typed)

def BatchService.inspectIncomingValue (negotiated : Option McpProtocolRevision) (value : Json) :
    Except JsonRpcError Unit :=
  ({ service.server.service with selected := service.extensionRevision.or negotiated }.inspectIncomingValue
    value).map fun _ => ()

def BatchService.prepare (negotiated : Option McpProtocolRevision) (request : JsonRpcRequest) :
    Except JsonRpcError (Option String) := do
  validate request
  let value ← (service.toValue request).mapError serializationError
  service.inspectIncomingValue negotiated value
  let version ← prepareModernRequest service.server request
  let _ ← (McpRequest.fromJsonrpc typed request).mapError JsonRpcError.invalidParams
  return version

/-- Whether the mark of a member is set, which an `initialize` request has not. -/
def BatchService.isMarked (member : Member) : Bool :=
  service.answerable && member.request.method != "initialize" && member.cancelled

def BatchService.finish (member : Member) (response : JsonRpcResponse) : Member :=
  { member with phase := .done (if service.isMarked member then none else some response) }

def BatchService.negotiate (negotiated : Option McpProtocolRevision) (method : String) :
    JsonRpcResponse → Option McpProtocolRevision
  | .result _ result =>
    let version := (result.get "protocolVersion").bind Json.asStr
    if method = "initialize" then
      ((version.filter (· ∈ service.server.service.protocolSupport.versions)).bind
        McpProtocolRevision.fromStr).or negotiated
    else negotiated
  | .error _ _ => negotiated

def BatchService.advance (batch : Batch) (member : Member) :
    Event → Option (Member × Option McpProtocolRevision)
  | .poll _ =>
    match member.phase with
    | .waiting =>
      match service.prepare batch.negotiated member.request with
      | .error error =>
        some (service.finish member (.error (some member.request.id) error), batch.negotiated)
      | .ok version => some ({ member with phase := .serving version }, batch.negotiated)
    | _ => none
  | .cancel _ =>
    match member.phase with
    | .done _ => none
    | _ => some ({ member with cancelled := true }, batch.negotiated)
  | .respond _ inner =>
    match member.phase with
    | .serving version =>
      let response := intoJsonrpc member.request.id inner
      let stamped := (version.map fun version =>
        applyProtocolResultFields member.request.method version response).getD response
      some (service.finish member stamped,
        service.negotiate batch.negotiated member.request.method response)
    | _ => none
  | .negotiate _ => none

def Event.index : Event → Option ℕ
  | .poll index | .cancel index | .respond index _ => some index
  | .negotiate _ => none

def BatchService.step (batch : Batch) (event : Event) : Option Batch :=
  match event, event.index with
  | .negotiate revision, _ => some { batch with negotiated := some revision }
  | event, some index => do
    let member ← batch.members[index]?
    let (next, negotiated) ← service.advance batch member event
    return ⟨batch.members.set index next, negotiated⟩
  | _, none => none

def BatchService.start (negotiated : Option McpProtocolRevision) (requests : List JsonRpcRequest) :
    Except BatchError Batch :=
  if requests = [] then .error (.jsonRpc (.invalidRequest "Empty batch request"))
  else do
    let value ← (service.batchToValue requests).mapError BatchError.serialization
    (service.inspectIncomingValue negotiated value).mapError BatchError.jsonRpc
    return { members := requests.map fun request => { request }, negotiated }

end

def Phase.output : Phase → Option (Option JsonRpcResponse)
  | .done output => some output
  | _ => none

/-- `join_all`: the outputs once every future has one. -/
def Batch.joined (batch : Batch) : Option (List (Option JsonRpcResponse)) :=
  batch.members.mapM fun member => member.phase.output

/-! ## What a member ends with -/

variable {typed : TypedSerde} {service : BatchService typed} {batch next : Batch} {member after : Member}
  {event : Event} {events : List Event} {index : ℕ} {request : JsonRpcRequest}

def isCancelled (events : List Event) (index : ℕ) : Bool :=
  events.any fun
    | .cancel other => other == index
    | _ => false

/-- Whether a member is left out: it was cancelled and is no `initialize` request. -/
def BatchService.leavesOut (service : BatchService typed) (events : List Event) (request : JsonRpcRequest)
    (index : ℕ) : Bool :=
  service.answerable && request.method != "initialize" && isCancelled events index

structure Member.Settled (service : BatchService typed) (events : List Event) (index : ℕ)
    (request : JsonRpcRequest) (member : Member) : Prop where
  request_eq : member.request = request
  cancelled_eq : member.cancelled = isCancelled events index
  output_eq : ∀ output, member.phase = .done output →
    output.map responseId =
      if service.leavesOut events request index then none else some (some request.id)

theorem response_id_into_jsonrpc (id : RequestId) (inner : Except JsonRpcError (Except String Json)) :
    responseId (intoJsonrpc id inner) = some id := by
  cases inner with
  | error error => rfl
  | ok result => cases result <;> rfl

theorem response_id_apply_protocol_result_fields (method version : String)
    (response : JsonRpcResponse) :
    responseId (applyProtocolResultFields method version response) = responseId response := by
  unfold applyProtocolResultFields
  split
  next =>
    split
    next => rfl
    next => split <;> rfl
  next => rfl

theorem is_cancelled_concat :
    isCancelled (events ++ [event]) index = (isCancelled events index || isCancelled [event] index) :=
  List.any_append

theorem leaves_out_concat (h : isCancelled [event] index = false) :
    service.leavesOut (events ++ [event]) request index = service.leavesOut events request index := by
  unfold BatchService.leavesOut
  rw [is_cancelled_concat, h, Bool.or_false]

theorem Member.Settled.concat (h : member.Settled service events index request)
    (hcancel : isCancelled [event] index = false) :
    member.Settled service (events ++ [event]) index request where
  request_eq := h.request_eq
  cancelled_eq := by rw [is_cancelled_concat, hcancel, Bool.or_false, h.cancelled_eq]
  output_eq := by
    rw [leaves_out_concat hcancel]
    exact h.output_eq

theorem Member.Settled.finish (h : member.Settled service events index request)
    {response : JsonRpcResponse} (hid : responseId response = some request.id) :
    (service.finish member response).Settled service events index request where
  request_eq := h.request_eq
  cancelled_eq := h.cancelled_eq
  output_eq := by
    intro output houtput
    cases houtput
    have hmarked : service.isMarked member = service.leavesOut events request index := by
      unfold BatchService.isMarked BatchService.leavesOut
      rw [h.request_eq, h.cancelled_eq]
    rw [hmarked]
    split <;> simp [hid]

variable {negotiated : Option McpProtocolRevision}

theorem Member.Settled.advance (h : member.Settled service events index request) (hindex : event.index = some index)
    (hadvance : service.advance batch member event = some (after, negotiated)) :
    after.Settled service (events ++ [event]) index request := by
  unfold BatchService.advance at hadvance
  cases event with
  | poll other =>
    have hkept : member.Settled service (events ++ [.poll other]) index request := h.concat rfl
    cases hphase : member.phase with
    | waiting =>
      dsimp only at hadvance
      rw [hphase] at hadvance
      cases hprepare : service.prepare batch.negotiated member.request with
      | error error =>
        rw [hprepare] at hadvance
        cases hadvance
        exact hkept.finish (congrArg _ (congrArg _ h.request_eq))
      | ok version =>
        rw [hprepare] at hadvance
        cases hadvance
        exact { hkept with output_eq := nofun }
    | serving | done => simp [hphase] at hadvance
  | cancel other =>
    cases hindex
    have hcancelled : isCancelled (events ++ [.cancel index]) index = true := by
      rw [is_cancelled_concat]
      simp [isCancelled]
    dsimp only at hadvance
    split at hadvance
    next => cases hadvance
    next hopen =>
      cases hadvance
      exact ⟨h.request_eq, hcancelled.symm, fun output houtput => absurd houtput (hopen output)⟩
  | respond other inner =>
    have hkept : member.Settled service (events ++ [.respond other inner]) index request :=
      h.concat rfl
    cases hphase : member.phase with
    | serving version =>
      dsimp only at hadvance
      rw [hphase] at hadvance
      cases hadvance
      refine hkept.finish ?_
      cases version with
      | none => exact (response_id_into_jsonrpc _ _).trans (congrArg _ (congrArg _ h.request_eq))
      | some version =>
        exact (response_id_apply_protocol_result_fields _ _ _).trans
          ((response_id_into_jsonrpc _ _).trans (congrArg _ (congrArg _ h.request_eq)))
    | waiting | done => simp [hphase] at hadvance
  | negotiate revision => cases hindex

/-! ## Runs -/

structure Batch.Settled (service : BatchService typed) (requests : List JsonRpcRequest)
    (events : List Event) (batch : Batch) : Prop where
  length_eq : batch.members.length = requests.length
  settled : ∀ (index : ℕ) (request : JsonRpcRequest) (member : Member),
    requests[index]? = some request → batch.members[index]? = some member →
      member.Settled service events index request

theorem is_cancelled_of_ne (h : event.index ≠ some index) : isCancelled [event] index = false := by
  cases event with
  | cancel other =>
    have hne : other ≠ index := fun heq => h (congrArg some heq)
    simp [isCancelled, hne]
  | poll | respond | negotiate => rfl

theorem step_cases (h : service.step batch event = some next) :
    event.index = none ∧ next.members = batch.members ∨
      ∃ index member after negotiated, event.index = some index ∧
        batch.members[index]? = some member ∧
          service.advance batch member event = some (after, negotiated) ∧
            next = ⟨batch.members.set index after, negotiated⟩ := by
  have hone (index : ℕ) (heq : event.index = some index)
      (hnext : (do
        let member ← batch.members[index]?
        let (next, negotiated) ← service.advance batch member event
        return ⟨batch.members.set index next, negotiated⟩) = some next) :
      ∃ index member after negotiated, event.index = some index ∧
        batch.members[index]? = some member ∧
          service.advance batch member event = some (after, negotiated) ∧
            next = ⟨batch.members.set index after, negotiated⟩ := by
    obtain ⟨member, hmember, hrest⟩ := Option.bind_eq_some_iff.1 hnext
    obtain ⟨⟨after, negotiated⟩, hadvance, heq'⟩ := Option.bind_eq_some_iff.1 hrest
    exact ⟨index, member, after, negotiated, heq, hmember, hadvance, (Option.some.inj heq').symm⟩
  cases event with
  | negotiate revision =>
    cases h
    exact .inl ⟨rfl, rfl⟩
  | poll index => exact .inr (hone index rfl h)
  | cancel index => exact .inr (hone index rfl h)
  | respond index inner => exact .inr (hone index rfl h)

variable {requests : List JsonRpcRequest}

theorem Batch.Settled.step
    (h : Batch.Settled service requests events batch) (hstep : service.step batch event = some next) :
    Batch.Settled service requests (events ++ [event]) next := by
  rcases step_cases hstep with ⟨hindex, hmembers⟩ |
    ⟨moved, before, after, negotiated, hindex, hbefore, hadvance, rfl⟩
  · refine ⟨hmembers ▸ h.length_eq, fun index request member hrequest hmember => ?_⟩
    rw [hmembers] at hmember
    exact (h.settled _ _ _ hrequest hmember).concat (is_cancelled_of_ne (by simp [hindex]))
  · refine ⟨by simpa using h.length_eq, fun index request member hrequest hmember => ?_⟩
    by_cases hmoved : index = moved
    · subst hmoved
      have hlt : index < batch.members.length := (List.getElem?_eq_some_iff.1 hbefore).1
      rw [List.getElem?_set_self hlt] at hmember
      cases hmember
      exact (h.settled _ _ _ hrequest hbefore).advance hindex hadvance
    · rw [List.getElem?_set_ne (Ne.symm hmoved)] at hmember
      refine (h.settled _ _ _ hrequest hmember).concat (is_cancelled_of_ne fun heq => hmoved ?_)
      rw [hindex] at heq
      exact (Option.some.inj heq).symm

theorem start_eq_ok
    (h : service.start negotiated requests = .ok batch) :
    batch = { members := requests.map fun request => { request }, negotiated } := by
  unfold BatchService.start at h
  split at h
  next => cases h
  next =>
    obtain ⟨value, -, hinspect⟩ := Fallible.bind_eq_ok.1 h
    obtain ⟨-, -, hbatch⟩ := Fallible.bind_eq_ok.1 hinspect
    exact (Except.ok.inj hbatch).symm

theorem settled_of_run
    {final : Batch} (hstart : service.start negotiated requests = .ok batch)
    (hrun : run service.step batch events = some final) :
    Batch.Settled service requests events final := by
  induction events using List.reverseRecOn generalizing final with
  | nil =>
    cases hrun
    rw [start_eq_ok hstart]
    refine ⟨List.length_map _, fun index request member hrequest hmember => ?_⟩
    rw [List.getElem?_map, hrequest] at hmember
    cases hmember
    exact ⟨rfl, rfl, nofun⟩
  | append_singleton events event ih =>
    obtain ⟨middle, hmiddle, hstep⟩ := run_concat.1 hrun
    exact (ih hmiddle).step hstep

theorem joined_eq {outputs : List (Option JsonRpcResponse)} (h : batch.joined = some outputs) :
    batch.members.map (fun member => member.phase.output) = outputs.map some := by
  unfold Batch.joined at h
  generalize batch.members = members at h ⊢
  induction members generalizing outputs with
  | nil =>
    cases h
    rfl
  | cons member rest ih =>
    rw [List.mapM_cons] at h
    obtain ⟨output, houtput, hrest⟩ := Option.bind_eq_some_iff.1 h
    obtain ⟨others, hothers, heq⟩ := Option.bind_eq_some_iff.1 hrest
    cases heq
    rw [List.map_cons, List.map_cons, houtput, ih hothers]

theorem exists_of_joined_eq_none (h : batch.joined = none) :
    ∃ (index : ℕ) (member : Member), batch.members[index]? = some member ∧
      member.phase.output = none := by
  unfold Batch.joined at h
  generalize batch.members = members at h ⊢
  induction members with
  | nil => cases h
  | cons member rest ih =>
    cases houtput : member.phase.output with
    | none => exact ⟨0, member, rfl, houtput⟩
    | some output =>
      rw [List.mapM_cons, houtput] at h
      cases hrest : rest.mapM fun member => member.phase.output with
      | none =>
        obtain ⟨index, found, hfound⟩ := ih hrest
        exact ⟨index + 1, found, hfound⟩
      | some outputs =>
        rw [hrest] at h
        cases h

theorem progresses (hmember : batch.members[index]? = some member)
    (h : member.phase.output = none) :
    (service.step batch (.poll index)).isSome = true ∨
      ∀ inner, (service.step batch (.respond index inner)).isSome = true := by
  cases hphase : member.phase with
  | waiting =>
    left
    cases hprepare : service.prepare batch.negotiated member.request <;>
      simp [BatchService.step, Event.index, hmember, BatchService.advance, hphase, hprepare]
  | serving version =>
    right
    intro inner
    simp [BatchService.step, Event.index, hmember, BatchService.advance, hphase]
  | done output =>
    rw [hphase] at h
    cases h

/-- A batch that is not refused as a whole ends with one output for each request, in their order and
with their identifiers, which leaves out exactly what the peer has cancelled of the requests other
than `initialize` where that is asked for; and until then some member can go on. -/
theorem run_batch_answers_in_order {service : BatchService typed} {requests : List JsonRpcRequest}
    {negotiated : Option McpProtocolRevision} {batch final : Batch} {events : List Event}
    (hstart : service.start negotiated requests = .ok batch)
    (hrun : run service.step batch events = some final) :
    (∀ outputs, final.joined = some outputs →
      outputs.map (Option.map responseId) = requests.zipIdx.map fun (request, index) =>
        if service.leavesOut events request index then none else some (some request.id)) ∧
    (final.joined = none → ∃ index, (service.step final (.poll index)).isSome = true ∨
      ∀ inner, (service.step final (.respond index inner)).isSome = true) := by
  have hsettled := settled_of_run hstart hrun
  refine ⟨fun outputs houtputs => ?_, fun hnone => ?_⟩
  · have hjoined := joined_eq houtputs
    have hlength : outputs.length = requests.length := by
      have hlen := congrArg List.length hjoined
      rw [List.length_map, List.length_map, hsettled.length_eq] at hlen
      exact hlen.symm
    refine List.ext_getElem? fun index => ?_
    have hat := congrArg (fun list : List (Option (Option JsonRpcResponse)) => list[index]?) hjoined
    simp only [List.getElem?_map] at hat
    simp only [List.getElem?_map, List.getElem?_zipIdx, Nat.zero_add]
    cases hrequest : requests[index]? with
    | none =>
      have hnone : outputs[index]? = none := by
        rw [List.getElem?_eq_none_iff] at hrequest ⊢
        omega
      rw [hnone]
      rfl
    | some request =>
      have hlt : index < requests.length := (List.getElem?_eq_some_iff.1 hrequest).1
      obtain ⟨member, hmember⟩ : ∃ member, final.members[index]? = some member :=
        ⟨_, List.getElem?_eq_getElem (hsettled.length_eq ▸ hlt)⟩
      obtain ⟨output, houtput⟩ : ∃ output, outputs[index]? = some output :=
        ⟨_, List.getElem?_eq_getElem (hlength ▸ hlt)⟩
      rw [hmember, houtput] at hat
      have hdone : member.phase = .done output := by
        cases hphase : member.phase with
        | done found => simpa [hphase, Phase.output] using hat
        | waiting | serving => simp [hphase, Phase.output] at hat
      rw [houtput, Option.map_some,
        (hsettled.settled _ _ _ hrequest hmember).output_eq output hdone]
      rfl
  · obtain ⟨index, member, hmember, houtput⟩ := exists_of_joined_eq_none hnone
    exact ⟨index, progresses hmember houtput⟩

/-! ## Two batches -/

def pingService (extensionRevision : Option McpProtocolRevision) : BatchService keeping where
  server := legacyServer
  extensionRevision := extensionRevision
  answerable := true
  toValue := fun request => .ok request.toJson
  batchToValue := fun requests => .ok (.array (requests.map JsonRpcRequest.toJson))

def ping : JsonRpcRequest where
  jsonrpc := "2.0"
  id := .number 1
  method := "ping"

def pings : Batch where
  members := [{ request := ping, phase := .done none, cancelled := true },
    { request := ping, phase := .done (some (.result (.number 1) (.object []))) }]
  negotiated := none

theorem first_ping_left_out :
    [none, some (.result (.number 1) (.object []))].map (Option.map responseId) =
      [none, some (some (.number 1))] := by
  have hstart : (pingService (some .v20250326)).start none [ping, ping] =
      .ok { members := [{ request := ping }, { request := ping }], negotiated := none } := rfl
  have hrun : run (pingService (some .v20250326)).step
      { members := [{ request := ping }, { request := ping }], negotiated := none }
      [.poll 0, .poll 1, .cancel 0, .respond 1 (.ok (.ok (.object []))),
        .respond 0 (.ok (.ok (.object [])))] = some pings := rfl
  exact (run_batch_answers_in_order hstart hrun).1 _ rfl

/-- A batch is refused as a whole when no revision with batches is known. -/
theorem batch_refused_as_a_whole :
    ¬∀ (service : BatchService keeping) (requests : List JsonRpcRequest),
      ∃ batch, service.start none requests = .ok batch := by
  intro h
  obtain ⟨batch, hbatch⟩ := h (pingService none) [ping]
  cases hbatch

end TowerMcp.Batches
