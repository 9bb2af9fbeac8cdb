import TowerMcp.Types.Inspection

/-!
# Requests of the client

`McpRequest::from_jsonrpc` of `protocol.rs`: which request a JSON-RPC request is, by its method.
Most methods need parameters of their type; the listing methods, `server/discover` and
`subscriptions/listen` fall back to default parameters. Serde is a parameter that reads the types of
the parameters. `from_jsonrpc_of_checked` says that the parameters which a revision's rule has
accepted are the ones that the request holds.
-/

namespace TowerMcp

open Fallible

/-- Serde on the types of parameters: how each is read, the default of those that have one, and the
text of a failure. -/
structure TypedSerde where
  Params : ParamsType → Type
  decode : (type : ParamsType) → Json → Except String (Params type)
  default : (type : ParamsType) → Params type
  UpdateTaskParams : Type
  updateTask : Json → Except String UpdateTaskParams
  SubscriptionsListenParams : Type
  listen : Json → Except String SubscriptionsListenParams
  notifications : SubscriptionsListenParams → Option SubscriptionFilter
  defaultListen : SubscriptionsListenParams
  requestMeta : Json → Except String RequestMeta
  errorText : String → Json → String

def TypedSerde.serde (typed : TypedSerde) : Serde where
  decode type params := (typed.decode type params).map fun _ => ()
  listenNotifications params := (typed.listen params).map typed.notifications
  requestMeta := typed.requestMeta
  errorText := typed.errorText

inductive McpRequest (typed : TypedSerde) where
  | initializeRequest (params : typed.Params .initializeParams)
  | listTools (params : typed.Params .listTools)
  | callTool (params : typed.Params .callTool)
  | listResources (params : typed.Params .listResources)
  | listResourceTemplates (params : typed.Params .listResourceTemplates)
  | readResource (params : typed.Params .readResource)
  | subscribeResource (params : typed.Params .subscribeResource)
  | unsubscribeResource (params : typed.Params .unsubscribeResource)
  | listPrompts (params : typed.Params .listPrompts)
  | getPrompt (params : typed.Params .getPrompt)
  | getTaskInfo (params : typed.Params .getTask)
  | updateTask (params : typed.UpdateTaskParams)
  | cancelTask (params : typed.Params .cancelTask)
  | ping
  | setLoggingLevel (params : typed.Params .setLogLevel)
  | complete (params : typed.Params .complete)
  | discover (params : typed.Params .discover)
  | subscriptionsListen (params : typed.SubscriptionsListenParams)
  | unknown (method : String) (params : Option Json)

namespace McpRequest

variable {typed : TypedSerde}

def methodName : McpRequest typed → String
  | .initializeRequest _ => "initialize"
  | .listTools _ => "tools/list"
  | .callTool _ => "tools/call"
  | .listResources _ => "resources/list"
  | .listResourceTemplates _ => "resources/templates/list"
  | .readResource _ => "resources/read"
  | .subscribeResource _ => "resources/subscribe"
  | .unsubscribeResource _ => "resources/unsubscribe"
  | .listPrompts _ => "prompts/list"
  | .getPrompt _ => "prompts/get"
  | .getTaskInfo _ => "tasks/get"
  | .updateTask _ => "tasks/update"
  | .cancelTask _ => "tasks/cancel"
  | .ping => "ping"
  | .setLoggingLevel _ => "logging/setLevel"
  | .complete _ => "completion/complete"
  | .discover _ => "server/discover"
  | .subscriptionsListen _ => "subscriptions/listen"
  | .unknown method _ => method

def strict {α : Type} (read : Except String α) (make : α → McpRequest typed) :
    Except String (McpRequest typed) :=
  (read.mapError ("Serialization error: " ++ ·)).map make

def lenient {α : Type} (read : Except String α) (default : α) (make : α → McpRequest typed) :
    Except String (McpRequest typed) :=
  .ok (make (read.toOption.getD default))

def fromJsonrpc (typed : TypedSerde) (request : JsonRpcRequest) :
    Except String (McpRequest typed) :=
  let params := paramsOrEmpty request.params
  match request.method with
  | "initialize" => strict (typed.decode _ params) .initializeRequest
  | "tools/list" => lenient (typed.decode _ params) (typed.default _) .listTools
  | "tools/call" => strict (typed.decode _ params) .callTool
  | "resources/list" => lenient (typed.decode _ params) (typed.default _) .listResources
  | "resources/templates/list" =>
    lenient (typed.decode _ params) (typed.default _) .listResourceTemplates
  | "resources/read" => strict (typed.decode _ params) .readResource
  | "resources/subscribe" => strict (typed.decode _ params) .subscribeResource
  | "resources/unsubscribe" => strict (typed.decode _ params) .unsubscribeResource
  | "prompts/list" => lenient (typed.decode _ params) (typed.default _) .listPrompts
  | "prompts/get" => strict (typed.decode _ params) .getPrompt
  | "tasks/get" => strict (typed.decode _ params) .getTaskInfo
  | "tasks/update" => strict (typed.updateTask params) .updateTask
  | "tasks/cancel" => strict (typed.decode _ params) .cancelTask
  | "ping" => .ok .ping
  | "logging/setLevel" => strict (typed.decode _ params) .setLoggingLevel
  | "completion/complete" => strict (typed.decode _ params) .complete
  | "server/discover" => lenient (typed.decode _ params) (typed.default _) .discover
  | "subscriptions/listen" => lenient (typed.listen params) typed.defaultListen .subscriptionsListen
  | method => .ok (.unknown method request.params)

def HoldsParams (params : Json) : McpRequest typed → Prop
  | .initializeRequest held => typed.decode _ params = .ok held
  | .listTools held => typed.decode _ params = .ok held
  | .callTool held => typed.decode _ params = .ok held
  | .listResources held => typed.decode _ params = .ok held
  | .listResourceTemplates held => typed.decode _ params = .ok held
  | .readResource held => typed.decode _ params = .ok held
  | .subscribeResource held => typed.decode _ params = .ok held
  | .unsubscribeResource held => typed.decode _ params = .ok held
  | .listPrompts held => typed.decode _ params = .ok held
  | .getPrompt held => typed.decode _ params = .ok held
  | .getTaskInfo held => typed.decode _ params = .ok held
  | .updateTask held => typed.updateTask params = .ok held
  | .cancelTask held => typed.decode _ params = .ok held
  | .ping => True
  | .setLoggingLevel held => typed.decode _ params = .ok held
  | .complete held => typed.decode _ params = .ok held
  | .discover held => typed.decode _ params = .ok held
  | .subscriptionsListen held => typed.listen params = .ok held
  | .unknown _ _ => False

/-! ## What was checked is what is held -/

section

variable {revision : McpProtocolRevision} {request : JsonRpcRequest} {params : Json}

theorem exists_of_checked {type : ParamsType}
    (h : ParamsValidator.check typed.serde revision params (.typed type) = .ok ()) :
    ∃ held, typed.decode type params = .ok held := by
  obtain ⟨held, hheld, -⟩ := map_eq_ok.1 (map_error_eq_ok.1 h)
  exact ⟨held, hheld⟩

theorem strict_of_ok {α : Type} {read : Except String α} {held : α} (h : read = .ok held)
    (make : α → McpRequest typed) : strict read make = .ok (make held) := by
  rw [h]
  rfl

theorem lenient_of_ok {α : Type} {read : Except String α} {held : α} (h : read = .ok held)
    (default : α) (make : α → McpRequest typed) : lenient read default make = .ok (make held) := by
  rw [h]
  rfl

theorem from_jsonrpc_of_checked {rule : MethodRule} (hmem : rule ∈ requestRules)
    (hname : rule.name = request.method) (hclient : revision ∈ rule.clientToServer)
    (hcheck : rule.validator.check typed.serde revision (paramsOrEmpty request.params) = .ok ()) :
    request.method ∈ ["tasks/result", "tasks/list"] ∧
        fromJsonrpc typed request = .ok (.unknown request.method request.params) ∨
      ∃ mcp, fromJsonrpc typed request = .ok mcp ∧ mcp.methodName = request.method ∧
        mcp.HoldsParams (paramsOrEmpty request.params) := by
  obtain ⟨jsonrpc, id, method, given⟩ := request
  dsimp only at hname hcheck ⊢
  subst hname
  simp only [requestRules, List.mem_cons, List.not_mem_nil, or_false] at hmem
  rcases hmem with rfl | rfl | rfl | rfl | rfl | rfl | rfl | rfl | rfl | rfl | rfl | rfl | rfl |
    rfl | rfl | rfl | rfl | rfl | rfl | rfl | rfl | rfl | rfl
  · obtain ⟨held, hheld⟩ := exists_of_checked hcheck
    exact .inr ⟨_, strict_of_ok hheld _, rfl, hheld⟩
  · exact .inr ⟨.ping, rfl, rfl, trivial⟩
  · obtain ⟨held, hheld⟩ := exists_of_checked hcheck
    exact .inr ⟨_, strict_of_ok hheld _, rfl, hheld⟩
  · obtain ⟨held, hheld⟩ := exists_of_checked hcheck
    exact .inr ⟨_, strict_of_ok hheld _, rfl, hheld⟩
  · obtain ⟨held, hheld⟩ := exists_of_checked hcheck
    exact .inr ⟨_, strict_of_ok hheld _, rfl, hheld⟩
  · obtain ⟨held, hheld⟩ := exists_of_checked hcheck
    exact .inr ⟨_, lenient_of_ok hheld _ _, rfl, hheld⟩
  · obtain ⟨held, hheld⟩ := exists_of_checked hcheck
    exact .inr ⟨_, lenient_of_ok hheld _ _, rfl, hheld⟩
  · obtain ⟨held, hheld⟩ := exists_of_checked hcheck
    exact .inr ⟨_, lenient_of_ok hheld _ _, rfl, hheld⟩
  · obtain ⟨held, hheld⟩ := exists_of_checked hcheck
    exact .inr ⟨_, strict_of_ok hheld _, rfl, hheld⟩
  · obtain ⟨held, hheld⟩ := exists_of_checked hcheck
    exact .inr ⟨_, strict_of_ok hheld _, rfl, hheld⟩
  · obtain ⟨held, hheld⟩ := exists_of_checked hcheck
    exact .inr ⟨_, strict_of_ok hheld _, rfl, hheld⟩
  · obtain ⟨held, hheld⟩ := exists_of_checked hcheck
    exact .inr ⟨_, strict_of_ok hheld _, rfl, hheld⟩
  · obtain ⟨held, hheld⟩ := exists_of_checked hcheck
    exact .inr ⟨_, lenient_of_ok hheld _ _, rfl, hheld⟩
  · exact absurd hclient List.not_mem_nil
  · exact absurd hclient List.not_mem_nil
  · exact absurd hclient List.not_mem_nil
  · obtain ⟨held, hheld⟩ := exists_of_checked hcheck
    exact .inr ⟨_, strict_of_ok hheld _, rfl, hheld⟩
  · exact .inl ⟨by simp, rfl⟩
  · exact .inl ⟨by simp, rfl⟩
  · obtain ⟨held, hheld⟩ := exists_of_checked hcheck
    exact .inr ⟨_, strict_of_ok hheld _, rfl, hheld⟩
  · exact absurd hclient List.not_mem_nil
  · obtain ⟨held, hheld⟩ := exists_of_checked hcheck
    exact .inr ⟨_, lenient_of_ok hheld _ _, rfl, hheld⟩
  · obtain ⟨filter, hlisten, -⟩ := bind_eq_ok.1 hcheck
    obtain ⟨held, hheld, -⟩ := map_eq_ok.1 (map_error_eq_ok.1 hlisten)
    exact .inr ⟨_, lenient_of_ok hheld _ _, rfl, hheld⟩

end

end McpRequest

end TowerMcp
