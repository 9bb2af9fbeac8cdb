import TowerMcp.Client.Frames
import TowerMcp.Client.Sse

/-!
# Background requests over HTTP

A request of the client is sent in the background while its caller waits on the identifier, so the
task has to queue a frame that completes it, however the server responds. A reply to a request of the
server takes the same path, and its task should queue nothing that completes a request of the client.
-/

namespace TowerMcp

open Utf8

namespace HttpClient

inductive Frame where
  | value (json : Json)
  | text (line : String)

def Frame.read (parse : String → Except String Json) : Frame → Option Json
  | .value json => some json
  | .text line => (parse line).toOption

/-- A response, with the headers the client reads, as far as they are readable. The body comes in
chunks, and its end may be a failure. `statusError` is the text for a status that is no success. -/
structure HttpResponse where
  status : ℕ
  contentType : Option String := none
  contentLength : Option ℕ := none
  retryAfter : Option String := none
  wwwAuthenticate : Option String := none
  statusError : String
  chunks : List (List UInt8)
  failure : Option String := none

inductive SendResult where
  | failed (message : String) (connectionFailed : Bool)
  | responded (response : HttpResponse)

structure HttpClientTransport where
  sessionId : Option String
  sessionRecovery : Bool
  maxSseEventSize : ℕ
  maxResponseBodySize : ℕ

/-- What a background task is given. A reply to a request of the server has no `replyId`. -/
structure PostContext where
  replyId : Option Json
  isSubscription : Bool
  isModernRequest : Bool
  sessionExpiryOn404 : Bool
  maxSseEventSize : ℕ
  maxResponseBodySize : ℕ

/-- What a background task leaves: the frames it has queued, whether the transport is still
connected, and whether the notification stream was told to reconnect. -/
structure Posted where
  frames : List Frame := []
  connected : Bool := true
  signalled : Bool := false

def protocolVersionKey : String := "io.modelcontextprotocol/protocolVersion"

def subscriptionIdKey : String := "io.modelcontextprotocol/subscriptionId"

def HttpClientTransport.postContext (self : HttpClientTransport) (message : Json) : PostContext :=
  let replyId := if (message.get "method").isSome then message.get "id" else none
  let isModernRequest :=
    decide ((message.pointer ["params", "_meta", protocolVersionKey]).bind Json.asStr =
      some "2026-07-28")
  { replyId
    isSubscription := decide ((message.get "method").bind Json.asStr = some "subscriptions/listen")
    isModernRequest
    sessionExpiryOn404 :=
      !isModernRequest && self.sessionId.isSome && self.sessionRecovery && replyId.isSome
    maxSseEventSize := self.maxSseEventSize
    maxResponseBodySize := self.maxResponseBodySize }

/-! ## The frames a task makes -/

def errorFrame (id : Json) (error : List (String × Json)) : Json :=
  .object [("jsonrpc", .string "2.0"), ("id", id), ("error", .object error)]

def transportErrorFrame (id : Json) (message : String) : Json :=
  errorFrame id [("code", .number (.negInt 31999)), ("message", .string message)]

def transportErrorFrameWithData (id : Json) (message : String) (data : Json) : Json :=
  errorFrame id [("code", .number (.negInt 31999)), ("message", .string message), ("data", data)]

def sessionExpiredFrame (id : Json) : Json :=
  errorFrame id
    [("code", .number (.negInt 32004)), ("message", .string "Session not found (HTTP 404)")]

namespace PostContext

def wake (self : PostContext) (frame : Json → Json) : Posted :=
  { frames := self.replyId.toList.map fun id => .value (frame id) }

def wakeWith (self : PostContext) (message : String) : Posted :=
  self.wake fun id => transportErrorFrame id message

end PostContext

/-! ## Responses that are no success -/

def maxErrorBodySize : ℕ := 64 * 1024

def readErrorBody (buf : List UInt8) : List (List UInt8) → List UInt8
  | [] => buf
  | chunk :: rest =>
    if (buf ++ chunk).length > maxErrorBodySize then (buf ++ chunk).take maxErrorBodySize
    else readErrorBody (buf ++ chunk) rest

def isJsonrpcErrorResponse (value : Json) : Bool :=
  ((value.get "error").bind Json.asObject).isSome && (value.pointer ["error", "code"]).isSome &&
    (value.pointer ["error", "message"]).isSome

def isSessionSignal (value : Json) : Bool :=
  decide ((value.pointer ["error", "code"]).bind Json.asI64 = some (-32005))

def statusEndsTransport (status : ℕ) : Bool :=
  decide (status = 404 ∨ status = 410)

def statusAnnotatesJsonrpcError (status : ℕ) : Bool :=
  decide (status = 401 ∨ status = 403 ∨ status = 429)

def statusErrorData (response : HttpResponse) : List (String × Json) :=
  [("httpStatus", .number (.posInt response.status))] ++
    response.retryAfter.toList.map (fun raw => ("retryAfter", .string raw)) ++
      response.wwwAuthenticate.toList.map fun challenge => ("wwwAuthenticate", .string challenge)

def mergeData (data : Json) (statusData : List (String × Json)) : Json :=
  match data with
  | .null => .object statusData
  | .object existing =>
    .object (existing ++ statusData.filter fun field => ((Json.object existing).get field.1).isNone)
  | other => .object (statusData ++ [("serverData", other)])

def mergeStatusIntoError (frame : Json) (statusData : List (String × Json)) : Json :=
  match (frame.get "error").bind Json.asObject with
  | some error =>
    let data := ((Json.object error).get "data").getD .null
    frame.set "error" ((Json.object error).set "data" (mergeData data statusData))
  | none => frame

def errorBody (parse : String → Except String Json) (response : HttpResponse) : Option Json :=
  let body := lossy (readErrorBody [] response.chunks)
  if body = [] then none
  else (parse (String.ofList body)).toOption.filter isJsonrpcErrorResponse

namespace PostContext

def injectId (self : PostContext) (value : Json) : Json :=
  match self.replyId with
  | some id =>
    if (value.get "id").any fun actual => jsonRequestIdsMatch actual id then value
    else value.set "id" id
  | none => value

def forwardError (self : PostContext) (response : HttpResponse) (value : Json) : Posted :=
  if isSessionSignal value then { frames := [.value value] }
  else if self.replyId.isNone then {}
  else
    let value := self.injectId value
    let value :=
      if statusAnnotatesJsonrpcError response.status then
        mergeStatusIntoError value (statusErrorData response)
      else value
    { frames := [.value value] }

def handleStatus (self : PostContext) (parse : String → Except String Json)
    (response : HttpResponse) : Posted :=
  if response.status = 404 ∧ self.sessionExpiryOn404 = true ∧ self.replyId.isSome = true then
    self.wake sessionExpiredFrame
  else
    match errorBody parse response with
    | some value => self.forwardError response value
    | none =>
      { self.wake fun id =>
          transportErrorFrameWithData id response.statusError (.object (statusErrorData response))
        with connected := !statusEndsTransport response.status }

end PostContext

/-! ## JSON bodies -/

inductive BoundedBodyError where
  | tooLarge (message : String)
  | io (message : String)

def readBody (limit : ℕ) (failure : Option String) (buf : List UInt8) :
    List (List UInt8) → Except BoundedBodyError (List UInt8)
  | [] =>
    match failure with
    | some message => .error (.io message)
    | none => .ok buf
  | chunk :: rest =>
    if (buf ++ chunk).length > limit then
      .error (.tooLarge s!"response body exceeds the {limit}-byte limit")
    else readBody limit failure (buf ++ chunk) rest

def readBoundedBody (limit : ℕ) (response : HttpResponse) :
    Except BoundedBodyError (List Char) :=
  match response.contentLength with
  | some len =>
    if len > limit then
      .error (.tooLarge s!"response body of {len} bytes exceeds the {limit}-byte limit")
    else (readBody limit response.failure [] response.chunks).map lossy
  | none => (readBody limit response.failure [] response.chunks).map lossy

def looksLikeSse (text : List Char) : Bool :=
  "event:".toList.isPrefixOf text || "data:".toList.isPrefixOf text ||
    "id:".toList.isPrefixOf text || ":".toList.isPrefixOf text

def extractJsonMessages (body : List Char) : List String :=
  let trimmed := trim (stripBom body)
  if trimmed = [] then []
  else if looksLikeSse trimmed then
    match (SseParser.withLimit (2 ^ 64 - 1)).feed body with
    | .ok (_, events) => events.map (·.data)
    | .error _ => []
  else [String.ofList trimmed]

def answersRequest (value id : Json) : Bool :=
  ((value.get "id").any fun actual => jsonRequestIdsMatch actual id) && hasOutcome value

def framesAnswerRequest (parse : String → Except String Json) (messages : List String) (id : Json) :
    Bool :=
  messages.any fun message => (parse message).toOption.any fun value => answersRequest value id

namespace PostContext

def handleBody (self : PostContext) (parse : String → Except String Json)
    (response : HttpResponse) : Posted :=
  match readBoundedBody self.maxResponseBodySize response with
  | .ok [] => self.wakeWith "server returned an empty response body"
  | .ok body =>
    let messages := extractJsonMessages body
    if messages = [] then self.wakeWith "server returned an unparseable response body"
    else
      let answered := self.replyId.all fun id => framesAnswerRequest parse messages id
      { frames := messages.map .text ++
          if answered then []
          else
            (self.wakeWith "server response did not contain a reply to this request").frames }
  | .error (.tooLarge message) => self.wakeWith message
  | .error (.io message) =>
    { self.wakeWith ("failed to read response body: " ++ message) with connected := false }

end PostContext

/-! ## Streams of events -/

structure StreamState where
  hadRetry : Bool := false
  hadData : Bool := false
  acknowledged : Bool := false

namespace PostContext

def isTerminal (self : PostContext) (value : Json) : Bool :=
  self.replyId.any fun id => answersRequest value id

def correlated (self : PostContext) (value : Json) (field : String) : Bool :=
  (value.pointer [field, "_meta", subscriptionIdKey]).any fun actual =>
    self.replyId.any fun id => jsonRequestIdsMatch actual id

def checkSubscription (self : PostContext) (acknowledged : Bool) (value : Json) :
    Except String Bool :=
  if self.isTerminal value then
    if (value.get "error").isSome then .ok acknowledged
    else if !acknowledged then .error "subscriptions/listen completed before acknowledgment"
    else if !self.correlated value "result" then
      .error "subscriptions/listen result carried a missing or mismatched subscription ID"
    else .ok acknowledged
  else if hasMethod value && (value.get "id").isNone then
    let isAcknowledgment :=
      decide ((value.get "method").bind Json.asStr =
        some "notifications/subscriptions/acknowledged")
    if !self.correlated value "params" then
      .error "subscription notification carried a missing or mismatched subscription ID"
    else if !acknowledged && !isAcknowledgment then
      .error "subscription notification arrived before acknowledgment"
    else if acknowledged && isAcknowledgment then
      .error "subscription stream sent a duplicate acknowledgment"
    else .ok (acknowledged || isAcknowledgment)
  else .error "subscription stream returned an unrelated JSON-RPC message"

def errorFrames (self : PostContext) (message : String) : List Frame :=
  (self.wakeWith message).frames

def pumpEvent (self : PostContext) (parse : String → Except String Json) (state : StreamState)
    (event : SseEvent) : List Frame × Option StreamState :=
  let state := { state with hadRetry := state.hadRetry || event.retry.isSome }
  if event.data = "" then ([], some state)
  else
    let state := { state with hadData := true }
    match parse event.data with
    | .error error =>
      if self.isSubscription then
        (self.errorFrames ("subscription stream returned invalid JSON: " ++ error), none)
      else ([.text event.data], some state)
    | .ok value =>
      let checked :=
        if self.isSubscription then self.checkSubscription state.acknowledged value
        else .ok state.acknowledged
      match checked with
      | .error message => (self.errorFrames message, none)
      | .ok acknowledged =>
        ([.text event.data],
          if self.isTerminal value then none else some { state with acknowledged })

def pumpEvents (self : PostContext) (parse : String → Except String Json) (state : StreamState) :
    List SseEvent → List Frame × Option StreamState
  | [] => ([], some state)
  | event :: rest =>
    match self.pumpEvent parse state event with
    | (frames, none) => (frames, none)
    | (frames, some next) =>
      let (later, last) := self.pumpEvents parse next rest
      (frames ++ later, last)

def closeStream (self : PostContext) (state : StreamState) : Posted :=
  if !self.isModernRequest && state.hadRetry && !state.hadData then { signalled := true }
  else if state.hadData then
    self.wakeWith "server closed the response stream before the final reply"
  else self.wakeWith "server closed the response stream without a reply"

def pumpPostSse (self : PostContext) (parse : String → Except String Json) (parser : SseParser)
    (state : StreamState) : List (List UInt8) → Posted
  | [] => self.closeStream state
  | chunk :: rest =>
    match parser.feed (lossy chunk) with
    | .error _ => { connected := false }
    | .ok (parser, events) =>
      match self.pumpEvents parse state events with
      | (frames, none) => { frames }
      | (frames, some state) =>
        let later := self.pumpPostSse parse parser state rest
        { later with frames := frames ++ later.frames }

def post (self : PostContext) (parse : String → Except String Json) : SendResult → Posted
  | .failed message connectionFailed =>
    { self.wakeWith message with connected := !connectionFailed }
  | .responded response =>
    if response.status = 202 then
      self.wakeWith "server answered the request with 202 Accepted instead of a response"
    else if ¬(200 ≤ response.status ∧ response.status < 300) then self.handleStatus parse response
    else if response.contentType.any fun ct =>
        decide ("text/event-stream".toList <:+: ct.toList) then
      self.pumpPostSse parse (SseParser.withLimit self.maxSseEventSize) {} response.chunks
    else self.handleBody parse response

end PostContext

end HttpClient

end TowerMcp
