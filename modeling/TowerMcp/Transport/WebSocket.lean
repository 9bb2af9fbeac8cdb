import TowerMcp.Router.InspectedDispatch

/-!
# The receive paths of a WebSocket

What `transport/websocket.rs` does with a text frame: `process_message` under the loop of
`handle_socket_simple`, and `handle_incoming_message` under that of `handle_socket_bidirectional`,
which also completes the requests of the server. Both call `call_message` of `jsonrpc.rs`. How serde
reads a text and what the handlers answer are parameters.
-/

namespace TowerMcp

namespace WebSocket

/-! ## Replies -/

inductive JsonRpcResponseMessage where
  | single (response : JsonRpcResponse)
  | batch (responses : List JsonRpcResponse)

def responseId : JsonRpcResponse → Option RequestId
  | .result id _ => some id
  | .error id _ => id

/-- How a text is read as a value, as a notification and as a message. A notification and a message
are those of the value. They may be refused where the value is not, as for a key that occurs twice.
-/
structure TextReader where
  value : String → Except String Json
  notification : String → Option JsonRpcNotification
  message : String → Option JsonRpcMessage
  notification_of_value : ∀ {text : String} {parsed : Json} {read : JsonRpcNotification},
    value text = .ok parsed → notification text = some read →
      JsonRpcNotification.fromJson parsed = some read
  message_of_value : ∀ {text : String} {parsed : Json} {read : JsonRpcMessage},
    value text = .ok parsed → message text = some read → JsonRpcMessage.fromJson parsed = some read

def cleanInputLine (text : String) : String :=
  String.ofList (trim (stripBom text.toList))

/-- What a connection has: the reader of its texts, the server behind it, what the handler of the
request at an index of a message answers, and how an error of the transport is told. -/
structure Session (typed : TypedSerde) where
  reader : TextReader
  server : InspectedDispatch.Server typed
  answer : ℕ → McpRequest typed → Except JsonRpcError Json
  transportInternalError : String → JsonRpcError

namespace Session

variable {typed : TypedSerde} (session : Session typed)

def callSingle (index : ℕ) (request : JsonRpcRequest) : JsonRpcResponse :=
  match InspectedDispatch.processSingleRequest session.server request with
  | .error error => .error (some request.id) error
  | .ok mcp =>
    match session.answer index mcp with
    | .ok result => .result request.id result
    | .error error => .error (some request.id) error

def callBatch (requests : List JsonRpcRequest) : Except JsonRpcError (List JsonRpcResponse) :=
  if requests = [] then .error (.invalidRequest "Empty batch request")
  else do
    let _ ← session.server.service.inspectIncomingValue
      (.array (requests.map JsonRpcRequest.toJson))
    return requests.mapIdx session.callSingle

def callMessage : JsonRpcMessage → Except String JsonRpcResponseMessage
  | .single request => .ok (.single (session.callSingle 0 request))
  | .batch requests =>
    match session.callBatch requests with
    | .ok responses => .ok (.batch responses)
    | .error error => .ok (.single (.error none error))

/-! ## The simple mode -/

def processMessage (text : String) : Except String (Option JsonRpcResponseMessage) := do
  let parsed ← session.reader.value text
  match classifyFrame parsed with
  | .notification =>
    match session.server.service.inspectIncomingValue parsed with
    | .error _ => return none
    | .ok _ =>
      match session.reader.notification text with
      | some notification =>
        session.server.service.handleNotification notification
        return none
      | none => return none
  | .response => return none
  | .request =>
    match session.server.service.inspectIncomingValue parsed with
    | .error error => return some (.single (.error (errorResponseId parsed error) error))
    | .ok _ =>
      match session.reader.message text with
      | none =>
        return some (.single (.error none (.parseError "not a valid JSON-RPC request")))
      | some message => (session.callMessage message).map some

def handleSocketSimple (text : String) : List JsonRpcResponseMessage :=
  match session.processMessage (cleanInputLine text) with
  | .ok response => response.toList
  | .error error => [.single (.error none (session.transportInternalError error))]

end Session

/-! ## The bidirectional mode -/

abbrev PendingRequests := FinMap RequestId ℕ

def responseOutcome (parsed : Json) : Except String Json :=
  match parsed.get "error" with
  | some error =>
    let code := ((error.get "code").bind Json.asI64).getD (-1)
    let message := ((error.get "message").bind Json.asStr).getD "Unknown error"
    .error ("Client error (" ++ toString code ++ "): " ++ message)
  | none =>
    match parsed.get "result" with
    | some result => .ok result
    | none => .error "Response has neither result nor error"

/-- What a text frame comes to: the replies, the caller that is woken up, and what is still pending.
-/
structure Handled where
  replies : List JsonRpcResponseMessage := []
  completed : Option (ℕ × Except String Json) := none
  pending : PendingRequests

def handleResponse (pending : PendingRequests) (parsed : Json) : Handled :=
  match correlatingId parsed with
  | none => { pending }
  | some id =>
    match pending.lookup id with
    | some ticket =>
      { completed := some (ticket, responseOutcome parsed), pending := pending.erase id }
    | none => { pending }

namespace Session

variable {typed : TypedSerde} (session : Session typed)

def handleIncomingMessage (pending : PendingRequests) (text : String) : Except String Handled := do
  let parsed ← session.reader.value text
  match classifyFrame parsed with
  | .notification =>
    match session.server.service.inspectIncomingValue parsed with
    | .error _ => return { pending }
    | .ok _ =>
      match session.reader.notification text with
      | some notification =>
        session.server.service.handleNotification notification
        return { pending }
      | none => return { pending }
  | .response => return handleResponse pending parsed
  | .request =>
    match session.server.service.inspectIncomingValue parsed with
    | .error error =>
      return { replies := [.single (.error (errorResponseId parsed error) error)], pending }
    | .ok _ =>
      match session.reader.message text with
      | none =>
        return { replies := [.single
          (.error none (.parseError "not a valid JSON-RPC request"))], pending }
      | some message =>
        match session.callMessage message with
        | .ok response => return { replies := [response], pending }
        | .error error =>
          let requestId :=
            match message with
            | .single request => some request.id
            | .batch _ => none
          return { replies := [.single
            (.error requestId (session.transportInternalError error))], pending }

def handleSocketBidirectional (pending : PendingRequests) (text : String) : Handled :=
  match session.handleIncomingMessage pending (cleanInputLine text) with
  | .ok handled => handled
  | .error _ => { pending }

end Session

/-! ## How the modes compare -/

/-- A reply answers a value: it carries the identifier of the value, or those of its members; or it
refuses the value as no request, without an identifier. -/
def JsonRpcResponseMessage.Answers (parsed : Json) : JsonRpcResponseMessage → Prop
  | .single response =>
    responseId response = correlatingId parsed ∨
      ∃ error, response = .error none error ∧
        (error.code = ErrorCode.invalidRequest.code ∨ error.code = ErrorCode.parseError.code)
  | .batch responses =>
    ∃ items, parsed = .array items ∧ responses.map responseId = items.map correlatingId

structure AnsweredAlike {typed : TypedSerde} (session : Session typed) (pending : PendingRequests)
    (text : String) (parsed : Json) : Prop where
  alike : (session.handleSocketBidirectional pending text).replies = session.handleSocketSimple text
  silent : classifyFrame parsed ≠ .request → session.handleSocketSimple text = []
  answered : classifyFrame parsed = .request →
    ∃ reply, session.handleSocketSimple text = [reply] ∧ reply.Answers parsed
  completes : classifyFrame parsed = .response →
    session.handleSocketBidirectional pending text = handleResponse pending parsed
  waits : classifyFrame parsed ≠ .response →
    (session.handleSocketBidirectional pending text).completed = none ∧
      (session.handleSocketBidirectional pending text).pending = pending

section

variable {typed : TypedSerde} {session : Session typed} {pending : PendingRequests}
  {text : String} {parsed : Json}

theorem response_id_call_single (session : Session typed) (index : ℕ) (request : JsonRpcRequest) :
    responseId (session.callSingle index request) = some request.id := by
  unfold Session.callSingle
  split
  next => rfl
  next => split <;> rfl

theorem correlating_id_of_request {request : JsonRpcRequest}
    (h : JsonRpcRequest.fromJson parsed = some request) :
    correlatingId parsed = some request.id := by
  simp only [JsonRpcRequest.fromJson, Option.bind_eq_bind, Option.bind_eq_some_iff] at h
  obtain ⟨jsonrpc, _, version, _, id, hget, read, hread, method, _, name, _, hrequest⟩ := h
  rw [← Option.some.inj hrequest]
  unfold correlatingId
  rw [hget, Option.bind_some, hread]

theorem correlating_ids_of_requests {items : List Json} {requests : List JsonRpcRequest}
    (h : items.mapM JsonRpcRequest.fromJson = some requests) :
    items.map correlatingId = requests.map fun request => some request.id := by
  induction items generalizing requests with
  | nil =>
    cases h
    rfl
  | cons item items ih =>
    rw [List.mapM_cons] at h
    obtain ⟨request, hrequest, h⟩ := Option.bind_eq_some_iff.1 h
    obtain ⟨rest, hrest, h⟩ := Option.bind_eq_some_iff.1 h
    cases h
    rw [List.map_cons, List.map_cons, correlating_id_of_request hrequest, ih hrest]

theorem get_id_of_notification (h : classifyFrame parsed = .notification) :
    parsed.get "id" = none := by
  have hshape := JsonRpcService.classify_frame_eq_notification_iff.1 h
  simp only [Bool.and_eq_true, Option.isNone_iff_eq_none] at hshape
  exact hshape.2

theorem request_of_single {request : JsonRpcRequest}
    (h : JsonRpcMessage.fromJson parsed = some (.single request)) :
    JsonRpcRequest.fromJson parsed = some request := by
  unfold JsonRpcMessage.fromJson at h
  split at h
  next items =>
    obtain ⟨requests, -, hbatch⟩ := Option.map_eq_some_iff.1 h
    cases hbatch
  next =>
    obtain ⟨read, hread, hsingle⟩ := Option.map_eq_some_iff.1 h
    rw [hread, JsonRpcMessage.single.inj hsingle]

theorem requests_of_batch {requests : List JsonRpcRequest}
    (h : JsonRpcMessage.fromJson parsed = some (.batch requests)) :
    ∃ items, parsed = .array items ∧ items.mapM JsonRpcRequest.fromJson = some requests := by
  unfold JsonRpcMessage.fromJson at h
  split at h
  next items =>
    obtain ⟨read, hread, hbatch⟩ := Option.map_eq_some_iff.1 h
    rw [JsonRpcMessage.batch.inj hbatch] at hread
    exact ⟨items, rfl, hread⟩
  next =>
    obtain ⟨read, -, hsingle⟩ := Option.map_eq_some_iff.1 h
    cases hsingle

theorem answers_call_message {message : JsonRpcMessage} (session : Session typed)
    (h : JsonRpcMessage.fromJson parsed = some message) :
    ∃ reply, session.callMessage message = .ok reply ∧ reply.Answers parsed := by
  cases message with
  | single request =>
    refine ⟨_, rfl, .inl ?_⟩
    rw [response_id_call_single, correlating_id_of_request (request_of_single h)]
  | batch requests =>
    obtain ⟨items, rfl, hread⟩ := requests_of_batch h
    cases hcall : session.callBatch requests with
    | error error =>
      refine ⟨.single (.error none error), ?_, .inl rfl⟩
      simp only [Session.callMessage, hcall]
    | ok responses =>
      refine ⟨.batch responses, ?_, items, rfl, ?_⟩
      · simp only [Session.callMessage, hcall]
      · unfold Session.callBatch at hcall
        split at hcall
        next => cases hcall
        next =>
          obtain ⟨inspected, -, hresponses⟩ := Fallible.bind_eq_ok.1 hcall
          rw [← Fallible.pure_eq_ok.1 hresponses, correlating_ids_of_requests hread]
          exact List.ext_getElem (by simp) (by simp [response_id_call_single])

theorem answers_inspection_failure (error : JsonRpcError) :
    (JsonRpcResponseMessage.single
      (.error (errorResponseId parsed error) error)).Answers parsed := by
  by_cases hcode : error.code = ErrorCode.invalidRequest.code
  · refine .inr ⟨error, ?_, .inl hcode⟩
    rw [errorResponseId, if_pos hcode]
  · refine .inl ?_
    rw [errorResponseId, if_neg hcode]
    rfl

theorem answers_unread {message : String} :
    (JsonRpcResponseMessage.single (.error none (.parseError message))).Answers parsed :=
  Or.inr ⟨_, rfl, .inr rfl⟩

theorem received_cases (session : Session typed)
    (hparsed : session.reader.value (cleanInputLine text) = .ok parsed) :
    (classifyFrame parsed ≠ .request ∧ session.handleSocketSimple text = [] ∧
        ∀ pending, session.handleSocketBidirectional pending text =
          if classifyFrame parsed = .response then handleResponse pending parsed else { pending }) ∨
      classifyFrame parsed = .request ∧ ∃ reply, reply.Answers parsed ∧
        session.handleSocketSimple text = [reply] ∧
          ∀ pending, session.handleSocketBidirectional pending text =
            { replies := [reply], pending } := by
  unfold Session.handleSocketSimple Session.handleSocketBidirectional Session.processMessage
    Session.handleIncomingMessage
  rw [hparsed]
  simp only [Fallible.ok_bind]
  cases hclass : classifyFrame parsed with
  | notification =>
    refine .inl ⟨nofun, ?_⟩
    cases hinspected : session.server.service.inspectIncomingValue parsed with
    | error error => exact ⟨rfl, fun pending => rfl⟩
    | ok methods =>
      cases hread : session.reader.notification (cleanInputLine text) with
      | none => exact ⟨rfl, fun pending => rfl⟩
      | some notification =>
        -- The router accepts what passed the inspection, so no error parts the modes.
        have haccepted := JsonRpcService.handle_notification_of_inspected hinspected
          (get_id_of_notification hclass)
          (session.reader.notification_of_value hparsed hread)
        simp only [haccepted]
        exact ⟨rfl, fun pending => rfl⟩
  | response => exact .inl ⟨nofun, rfl, fun pending => rfl⟩
  | request =>
    refine .inr ⟨rfl, ?_⟩
    cases hinspected : session.server.service.inspectIncomingValue parsed with
    | error error =>
      exact ⟨_, answers_inspection_failure error, rfl, fun pending => rfl⟩
    | ok methods =>
      cases hread : session.reader.message (cleanInputLine text) with
      | none => exact ⟨_, answers_unread, rfl, fun pending => rfl⟩
      | some message =>
        obtain ⟨reply, hreply, hanswers⟩ :=
          answers_call_message session (session.reader.message_of_value hparsed hread)
        simp only [hreply]
        exact ⟨reply, hanswers, rfl, fun pending => rfl⟩

theorem replies_handle_response (pending : PendingRequests) (parsed : Json) :
    (handleResponse pending parsed).replies = [] := by
  unfold handleResponse
  split
  next => rfl
  next => split <;> rfl

/-- The modes send the same for a text that is a JSON value: nothing for a notification or a
response, which completes the request that waits for it, and one reply for anything else. The reply
has the identifier of the value unless it refuses the value as no request. -/
theorem websocket_modes_answer_alike (session : Session typed) (pending : PendingRequests)
    (hparsed : session.reader.value (cleanInputLine text) = .ok parsed) :
    AnsweredAlike session pending text parsed := by
  rcases received_cases session hparsed with
    ⟨hclass, hsimple, hhandled⟩ | ⟨hclass, reply, hanswers, hsimple, hhandled⟩
  · constructor
    · rw [hhandled, hsimple]
      split
      next => exact replies_handle_response pending parsed
      next => rfl
    · exact fun _ => hsimple
    · exact fun hrequest => absurd hrequest hclass
    · intro hresponse
      rw [hhandled, if_pos hresponse]
    · intro hother
      rw [hhandled, if_neg hother]
      exact ⟨rfl, rfl⟩
  · constructor
    · rw [hhandled, hsimple]
    · exact fun hother => absurd hclass hother
    · exact fun _ => ⟨reply, hsimple, hanswers⟩
    · intro hresponse
      rw [hclass] at hresponse
      cases hresponse
    · intro
      rw [hhandled]
      exact ⟨rfl, rfl⟩

end

/-! ## Frames that part the modes -/

/-- A reader of texts without repeated keys, which reads a notification and a message off the value.
-/
def TextReader.ofValue (value : String → Except String Json) : TextReader where
  value := value
  notification := fun text => (value text).toOption.bind JsonRpcNotification.fromJson
  message := fun text => (value text).toOption.bind JsonRpcMessage.fromJson
  notification_of_value := by
    intro text parsed read hvalue hread
    rwa [hvalue] at hread
  message_of_value := by
    intro text parsed read hvalue hread
    rwa [hvalue] at hread

def unfinishedText : String := "\x7b"

def oldPingText : String := "\x7b\"jsonrpc\":\"1.0\",\"id\":7,\"method\":\"ping\"\x7d"

def oldPing : Json :=
  .object [("jsonrpc", .string "1.0"), ("id", .number (.posInt 7)), ("method", .string "ping")]

def readPing (text : String) : Except String Json :=
  if text = oldPingText then .ok oldPing else .error "EOF while parsing an object"

def answeringSession : Session InspectedDispatch.keeping where
  reader := .ofValue readPing
  server := InspectedDispatch.legacyServer
  answer := fun _ _ => .ok (.object [])
  transportInternalError := .internalError

theorem old_ping_read :
    answeringSession.reader.value (cleanInputLine oldPingText) = .ok oldPing := by
  have hclean : cleanInputLine oldPingText = oldPingText := by decide +kernel
  show readPing (cleanInputLine oldPingText) = _
  rw [hclean, readPing, if_pos rfl]

theorem old_ping_answered_alike : AnsweredAlike answeringSession ∅ oldPingText oldPing :=
  websocket_modes_answer_alike answeringSession ∅ old_ping_read

/-- A text that is no value is answered in one mode only, and a request with an identifier is
answered without it. -/
theorem websocket_modes_part :
    (answeringSession.handleSocketSimple unfinishedText).length = 1 ∧
      (answeringSession.handleSocketBidirectional ∅ unfinishedText).replies.length = 0 ∧
      classifyFrame oldPing = .request ∧ correlatingId oldPing = some (.number 7) ∧
      ∃ error, answeringSession.handleSocketSimple oldPingText = [.single (.error none error)] := by
  have hunread : answeringSession.reader.value (cleanInputLine unfinishedText) =
      .error "EOF while parsing an object" := by
    have hother : cleanInputLine unfinishedText ≠ oldPingText := by decide +kernel
    show readPing (cleanInputLine unfinishedText) = _
    rw [readPing, if_neg hother]
  refine ⟨?_, ?_, rfl, rfl, ?_⟩
  · unfold Session.handleSocketSimple Session.processMessage
    rw [hunread]
    rfl
  · unfold Session.handleSocketBidirectional Session.handleIncomingMessage
    rw [hunread]
    rfl
  · unfold Session.handleSocketSimple Session.processMessage
    rw [old_ping_read]
    exact ⟨_, rfl⟩

end WebSocket

end TowerMcp
