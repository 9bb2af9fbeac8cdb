import TowerMcp.Proxy.Routing
import TowerMcp.Router.Dispatch
import TowerMcp.Router.Listing

/-!
# Requests that a proxy forwards

What becomes of `tools/call`, `resources/read` and `prompts/get` behind the proxy: the handlers of
`proxy/service.rs` rebuild the parameters under the stripped name, `dispatch_to_client` of
`proxy/backend.rs` turns them into a method call of the backend's client, and that method of
`client/mod.rs` builds the parameters it issues and follows what the backend asks for. The parameters
are kept as they are handed to `send_request`; what that adds to `_meta` for the connection of the
client itself, and its retry after a lost session, are below this model.
-/

namespace TowerMcp

namespace Forwarding

/-! ## Parameters and outcomes -/

inductive ProgressToken where
  | string (token : String)
  | number (token : ℤ)
deriving DecidableEq

structure RequestMeta where
  progressToken : Option ProgressToken := none
  protocolVersion : Option String := none
  clientInfo : Option Json := none
  clientCapabilities : Option Json := none
  logLevel : Option LogLevel := none
deriving DecidableEq

/-- The parameters of a request for a named target. `own` is what only its method has. -/
structure RoutedParams (A : Type) where
  target : String
  own : A
  inputResponses : Option InputResponses := none
  requestState : Option String := none
  metadata : Option RequestMeta := none

/-- What only `tools/call` has. -/
structure ToolFields where
  arguments : Json := .null
  task : Option McpRouter.TaskRequestParams := none

/-- The parameters of `tools/call`. -/
abbrev CallToolParams := RoutedParams ToolFields

/-- The parameters of `resources/read`. -/
abbrev ReadResourceParams := RoutedParams Unit

/-- The parameters of `prompts/get`, with the arguments of the template. -/
abbrev GetPromptParams := RoutedParams (FinMap String String)

structure InputRequiredResult where
  inputRequests : Option InputRequests := none
  requestState : Option String := none

/-- What a request comes to. A task is known by a handle of type `T`. -/
inductive Outcome (T α : Type) where
  | complete (result : α)
  | inputRequired (required : InputRequiredResult)
  | task (created : T)

structure Exchange (A T α : Type) where
  params : RoutedParams A
  answer : Except Error (Outcome T α)

structure Attempt (S A T α : Type) where
  exchanges : List (Exchange A T α)
  next : S
  outcome : Except Error (Outcome T α)

structure Told (A T α : Type) where
  exchanges : List (Exchange A T α)
  result : Except Error α

/-! ## The client of a backend -/

/-- What a backend answers over its connection to the request with a given number, what following
one of its tasks comes to, and what the client's handler makes of its input requests. Results of
resources and prompts are of types `R` and `P`. -/
structure BackendAnswers (R P : Type) where
  callTool : ℕ → CallToolParams → Except Error (Outcome String CallToolResult)
  readResource : ℕ → ReadResourceParams → Except Error (Outcome Empty R)
  getPrompt : ℕ → GetPromptParams → Except Error (Outcome Empty P)
  listTools : ℕ → Except Error Unit
  finalTask : String → Except Error CallToolResult
  handler : InputRequests → Except Error InputResponses

inductive CacheLookup (R : Type) where
  | fresh (result : R)
  | stale (result : R)
  | miss

structure McpClient (R : Type) where
  connected : Bool := true
  initialized : Bool := true
  selectedProtocolVersion : Option String := none
  nextRequestId : ℕ := 0
  maxMrtrRounds : ℕ := 10
  sampling : Bool := false
  roots : Bool := false
  elicitation : Bool := false
  cacheEnabled : Bool := false
  serveStaleOnError : Bool := false
  cached : String → CacheLookup R := fun _ => .miss

def isStaleToolSchemaError : Error → Bool
  | .jsonRpc error =>
    error.code == -32020 || error.code == ErrorCode.methodNotFound.code ||
      error.code == ErrorCode.invalidParams.code
  | _ => false

/-- How a method of a client sends, and what it makes of a task, of input requests and of a failed
attempt. -/
structure Following (S A T α : Type) where
  issue : S → RoutedParams A → Attempt S A T α
  finish : T → Except Error α
  resolve : InputRequests → Except Error InputResponses
  recover : Error → Except Error α
  method : String
  maxRounds : ℕ

/-- Send until the request is complete, answering what the backend asks for, for a number of rounds
after this one. -/
def Following.follow {S A T α : Type} (self : Following S A T α) (target : String) (own : A) :
    ℕ → S → Option InputResponses → Option String → Told A T α
  | rounds, state, inputResponses, requestState =>
    let attempt := self.issue state { target, own, inputResponses, requestState }
    match attempt.outcome with
    | .error error => ⟨attempt.exchanges, self.recover error⟩
    | .ok (.complete result) => ⟨attempt.exchanges, .ok result⟩
    | .ok (.task created) => ⟨attempt.exchanges, self.finish created⟩
    | .ok (.inputRequired required) =>
      match rounds with
      | 0 => ⟨attempt.exchanges, .error (.transport ("MRTR round limit (" ++
          toString self.maxRounds ++ ") exceeded for " ++ self.method))⟩
      | rounds + 1 =>
        match required.inputRequests with
        | none => ⟨attempt.exchanges, .error (.transport
            "input_required result has no requests the client can fulfil")⟩
        | some requests =>
          match self.resolve requests with
          | .error error => ⟨attempt.exchanges, .error error⟩
          | .ok responses =>
            let rest := self.follow target own rounds attempt.next (some responses)
              required.requestState
            ⟨attempt.exchanges ++ rest.exchanges, rest.result⟩

namespace McpClient

variable {R P A T α : Type} (self : McpClient R) (answers : BackendAnswers R P)

def usesFinalProtocol : Bool :=
  self.selectedProtocolVersion == some protocolVersion20260728

def sendRequest (answer : ℕ → RoutedParams A → Except Error (Outcome T α)) (id : ℕ)
    (params : RoutedParams A) : Attempt ℕ A T α :=
  if self.connected then ⟨[⟨params, answer id params⟩], id + 1, answer id params⟩
  else ⟨[], id, .error (.transport "Connection closed")⟩

def sendToolRequestWithSchemaRetry (state : ℕ × Bool) (params : CallToolParams) :
    Attempt (ℕ × Bool) ToolFields String CallToolResult :=
  let first := self.sendRequest answers.callTool state.1 params
  match first.outcome with
  | .ok outcome => ⟨first.exchanges, (first.next, state.2), .ok outcome⟩
  | .error error =>
    if state.2 && isStaleToolSchemaError error then
      match answers.listTools first.next with
      | .error _ => ⟨first.exchanges, (first.next + 1, false), .error error⟩
      | .ok _ =>
        let second := self.sendRequest answers.callTool (first.next + 1) params
        ⟨first.exchanges ++ second.exchanges, (second.next, false), second.outcome⟩
    else ⟨first.exchanges, (first.next, state.2), .error error⟩

def sendInitialized (answer : ℕ → RoutedParams A → Except Error (Outcome T α)) (id : ℕ)
    (params : RoutedParams A) : Attempt ℕ A T α :=
  if self.initialized then self.sendRequest answer id params
  else ⟨[], id, .error (.transport "Client not initialized")⟩

def declares : InputRequest → Bool
  | .createMessage _ => self.sampling
  | .listRoots _ => self.roots
  | .elicit _ => self.elicitation

def resolveInputRequests (requests : InputRequests) : Except Error InputResponses :=
  if !self.usesFinalProtocol then .error (.transport
    "input_required results require the 2026-07-28 client lifecycle")
  else
    match requests.entries.find? fun entry => !self.declares entry.2 with
    | some entry => .error (.transport
        ("server requested undeclared MRTR input capability: " ++ entry.2.methodName))
    | none => answers.handler requests

def callTool (name : String) (arguments : Json) : Told ToolFields String CallToolResult :=
  Following.follow
    { issue := self.sendToolRequestWithSchemaRetry answers
      finish := answers.finalTask
      resolve := self.resolveInputRequests answers
      recover := .error
      method := "tools/call"
      maxRounds := self.maxMrtrRounds }
    name { arguments } self.maxMrtrRounds (self.nextRequestId, self.usesFinalProtocol) none none

def lookup (uri : String) : CacheLookup R :=
  if self.usesFinalProtocol && self.cacheEnabled then self.cached uri else .miss

def serveStale (lookup : CacheLookup R) (error : Error) : Except Error R :=
  match lookup with
  | .stale result => if self.serveStaleOnError then .ok result else .error error
  | _ => .error error

def readResource (uri : String) : Told Unit Empty R :=
  if !self.initialized then ⟨[], .error (.transport "Client not initialized")⟩
  else
    match self.lookup uri with
    | .fresh result => ⟨[], .ok result⟩
    | lookup =>
      Following.follow
        { issue := self.sendInitialized answers.readResource
          finish := nofun
          resolve := self.resolveInputRequests answers
          recover := self.serveStale lookup
          method := "resources/read"
          maxRounds := self.maxMrtrRounds }
        uri () self.maxMrtrRounds self.nextRequestId none none

def getPrompt (name : String) (arguments : Option (FinMap String String)) :
    Told (FinMap String String) Empty P :=
  Following.follow
    { issue := self.sendInitialized answers.getPrompt
      finish := nofun
      resolve := self.resolveInputRequests answers
      recover := .error
      method := "prompts/get"
      maxRounds := self.maxMrtrRounds }
    name (arguments.getD ∅) self.maxMrtrRounds self.nextRequestId none none

end McpClient

/-! ## The proxy -/

structure Dispatched (A T α : Type) where
  exchanges : List (Exchange A T α)
  response : Except JsonRpcError α

def backendError (error : Error) : JsonRpcError :=
  .internalError ("Backend error: " ++ error.display)

def Told.dispatched {A T α : Type} (told : Told A T α) : Dispatched A T α where
  exchanges := told.exchanges
  response := told.result.mapError backendError

section Dispatch

variable {R P : Type} (client : McpClient R) (answers : BackendAnswers R P)

/-- Dispatch `tools/call` to the client. -/
def dispatchCallTool (params : CallToolParams) : Dispatched ToolFields String CallToolResult :=
  (client.callTool answers params.target params.own.arguments).dispatched

/-- Dispatch `resources/read` to the client. -/
def dispatchReadResource (params : ReadResourceParams) : Dispatched Unit Empty R :=
  (client.readResource answers params.target).dispatched

/-- Dispatch `prompts/get` to the client. -/
def dispatchGetPrompt (params : GetPromptParams) : Dispatched (FinMap String String) Empty P :=
  let arguments := if params.own.entries.isEmpty then none else some params.own
  (client.getPrompt answers params.target arguments).dispatched

def omitNullContent (finalProtocol : Bool) (call : CallToolResult) : CallToolResult :=
  if !finalProtocol && call.structuredContent.any Json.isNull then
    { call with structuredContent := none }
  else call

/-- Forward `tools/call` under the stripped name. -/
def handleCallTool (strippedName : String) (params : CallToolParams) (extensions : Extensions) :
    Dispatched ToolFields String CallToolResult :=
  let dispatched := dispatchCallTool client answers { params with target := strippedName }
  { dispatched with
    response := dispatched.response.map (omitNullContent (isFinalProtocolRequest extensions)) }

/-- Forward `resources/read` under the stripped URI. -/
def handleReadResource (strippedUri : String) (params : ReadResourceParams) :
    Dispatched Unit Empty R :=
  dispatchReadResource client answers { params with target := strippedUri }

/-- Forward `prompts/get` under the stripped name. -/
def handleGetPrompt (strippedName : String) (params : GetPromptParams) :
    Dispatched (FinMap String String) Empty P :=
  dispatchGetPrompt client answers { params with target := strippedName }

end Dispatch

/-- A proxy over backends without middleware: its entries, and the client and the answers of each
backend. -/
structure McpProxy (R P : Type) where
  entries : List BackendEntry
  clients : ℕ → McpClient R
  answers : ℕ → BackendAnswers R P

def routedBackend (entries : List BackendEntry) (route : Option (ℕ × String)) :
    Option (ℕ × String) :=
  route.bind fun (i, stripped) => entries[i]?.map fun entry => (entry.client, stripped)

namespace McpProxy

variable {R P : Type} (self : McpProxy R P)

/-- The answer to `tools/call`. -/
def callTool (params : CallToolParams) (extensions : Extensions) :
    Dispatched ToolFields String CallToolResult :=
  match routedBackend self.entries (routeByPrefix self.entries params.target) with
  | some (backend, stripped) =>
    handleCallTool (self.clients backend) (self.answers backend) stripped params extensions
  | none => ⟨[], .error (.invalidParams ("Unknown tool: " ++ params.target))⟩

/-- The answer to `resources/read`. -/
def readResource (params : ReadResourceParams) : Dispatched Unit Empty R :=
  match routedBackend self.entries (routeByUriPrefix self.entries params.target) with
  | some (backend, stripped) =>
    handleReadResource (self.clients backend) (self.answers backend) stripped params
  | none => ⟨[], .error (.invalidParams ("Unknown resource: " ++ params.target))⟩

/-- The answer to `prompts/get`. -/
def getPrompt (params : GetPromptParams) : Dispatched (FinMap String String) Empty P :=
  match routedBackend self.entries (routeByPrefix self.entries params.target) with
  | some (backend, stripped) =>
    handleGetPrompt (self.clients backend) (self.answers backend) stripped params
  | none => ⟨[], .error (.invalidParams ("Unknown prompt: " ++ params.target))⟩

end McpProxy

end Forwarding

end TowerMcp
