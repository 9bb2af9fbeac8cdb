import TowerMcp.Lib.Records
import TowerMcp.Router.TaskCreation

/-!
# Responses without a tag

`McpResponse` of `protocol.rs` and the task results of `tasks.rs`, as serde reads and writes them:
the variants of an untagged enumeration are tried in the order of their declaration, and so are a
complete result and an `InputRequiredResult` in a `RequestOutcome`. The members of each result are
those of its struct; what is inside of them is left open, but for its being readable once it is
written.
-/

namespace TowerMcp

namespace UntaggedResponses

open Record

/-! ## Results -/

inductive NestedType where
  | serverCapabilities
  | implementation
  | requestMeta
  | resultMeta
  | toolDefinitions
  | content
  | inputRequests
  | resourceDefinitions
  | resourceTemplateDefinitions
  | resourceContents
  | promptDefinitions
  | promptMessages
  | completion
  | supportedVersions
  | subscriptionFilter
  | requestId
  | jsonRpcError

/-- Whether a key of `_meta` is kept. -/
def acceptsMetaKey (key : String) : Bool :=
  (TaskCreation.validateMetaKey key).toOption.isSome

/-- The member `_meta` with the check of its keys. -/
def metaField (type : WireType) : Field :=
  .filtered "_meta" acceptsMetaKey type

def anyResultType (default : String) : Field :=
  .tag "resultType" (some default) fun _ => true

def fixedResultType (expected : String) : Field :=
  .tag "resultType" none fun text => text == expected

def cacheScope : Field :=
  .lenient "cacheScope" (.oneOf ["public", "private"])

def ttlMs : Field :=
  .lenient "ttlMs" .unsigned

def taskStatus : Field :=
  .required "status" (.oneOf ["working", "input_required", "completed", "failed", "cancelled"])

section

variable (nested : NestedType → WireType)

/-- The members of an `InitializeResult`. -/
def initializeResult : List Field :=
  [.required "protocolVersion" .string,
    .required "capabilities" (nested .serverCapabilities),
    .required "serverInfo" (nested .implementation),
    .optional "instructions" .string,
    metaField .map]

/-- The members of a `ListToolsResult`. -/
def listToolsResult : List Field :=
  [.required "tools" (nested .toolDefinitions), .optional "nextCursor" .string, ttlMs, cacheScope,
    metaField .map]

/-- The members of a `CallToolResult`. -/
def callToolResult : List Field :=
  [.required "content" (nested .content), .flag "isError", .verbatim "structuredContent",
    metaField .map]

theorem nodup_call_tool_result : ((callToolResult nested).map Field.key).Nodup := by
  show ["content", "isError", "structuredContent", "_meta"].Nodup
  decide

/-- The members of an `InputRequiredResult`. -/
def inputRequiredResult : List Field :=
  [anyResultType "input_required", .optional "inputRequests" (nested .inputRequests),
    .optional "requestState" .string, metaField .map]

/-- The members of a `ListResourcesResult`. -/
def listResourcesResult : List Field :=
  [.required "resources" (nested .resourceDefinitions), .optional "nextCursor" .string, ttlMs,
    cacheScope, metaField .map]

/-- The members of a `ListResourceTemplatesResult`. -/
def listResourceTemplatesResult : List Field :=
  [.required "resourceTemplates" (nested .resourceTemplateDefinitions),
    .optional "nextCursor" .string, ttlMs, cacheScope, metaField .map]

/-- The members of a `ReadResourceResult`. -/
def readResourceResult : List Field :=
  [.required "contents" (nested .resourceContents), metaField (nested .requestMeta)]

/-- The members of a `ListPromptsResult`. -/
def listPromptsResult : List Field :=
  [.required "prompts" (nested .promptDefinitions), .optional "nextCursor" .string, ttlMs,
    cacheScope, metaField .map]

/-- The members of a `GetPromptResult`. -/
def getPromptResult : List Field :=
  [.optional "description" .string, .required "messages" (nested .promptMessages), metaField .map]

def taskMetadata : List Field :=
  [.required "taskId" .string, .optional "statusMessage" .string, .required "createdAt" .string,
    .required "lastUpdatedAt" .string, .nullable "ttlMs" .unsigned,
    .optional "pollIntervalMs" .unsigned]

/-- The members of a final `CreateTaskResult`. -/
def finalCreateTaskResult : List Field :=
  fixedResultType "task" :: taskMetadata ++ [taskStatus, .optional "_meta" .map]

def taskDetail : TaskStatus → List Field
  | .inputRequired => [.required "inputRequests" (nested .inputRequests)]
  | .completed => [.required "result" .map]
  | .failed => [.required "error" (nested .jsonRpcError)]
  | .working | .cancelled => []

/-- The members of a final `GetTaskResult` with a task in a status. -/
def getTaskResult (status : TaskStatus) : List Field :=
  fixedResultType "complete" ::
    .tag "status" none (fun text => text == TaskRouter.displayStatus status) ::
      taskMetadata ++ taskDetail nested status ++ [.optional "_meta" .map]

/-- The members of a `TaskAcknowledgement`. -/
def taskAcknowledgement : List Field :=
  [fixedResultType "complete", .optional "_meta" .map]

/-- The members of a `TaskObject`. -/
def taskObject : List Field :=
  [.required "taskId" .string, taskStatus, .optional "statusMessage" .string,
    .required "createdAt" .string, .required "lastUpdatedAt" .string, .nullable "ttl" .unsigned,
    .optional "pollInterval" .unsigned,
    .optional "result" (.record (callToolResult nested) (nodup_call_tool_result nested)),
    .optional "error" (nested .jsonRpcError), metaField .map]

/-- The members that a legacy `CreateTaskResult` writes: the task, its discriminator, and the task
once more. -/
def createTaskResult : List Field :=
  taskObject nested ++ [fixedResultType "task", .required "task" .map]

/-- The members of a `CompleteResult`. -/
def completeResult : List Field :=
  [.required "completion" (nested .completion), metaField .map]

/-- The members of a `DiscoverResult`. -/
def discoverResult : List Field :=
  [.required "supportedVersions" (nested .supportedVersions),
    .required "capabilities" (nested .serverCapabilities), ttlMs, cacheScope,
    .optional "instructions" .string, metaField (nested .resultMeta)]

/-- The members of a `SubscriptionsAcceptedResult`. -/
def subscriptionsAcceptedResult : List Field :=
  [.required "notifications" (nested .subscriptionFilter)]

/-- The members of a `SubscriptionsListenResultMeta`. -/
def subscriptionsListenResultMeta : List Field :=
  [.required "io.modelcontextprotocol/subscriptionId" (nested .requestId),
    .optional "io.modelcontextprotocol/serverInfo" (nested .implementation)]

theorem nodup_subscriptions_listen_result_meta :
    ((subscriptionsListenResultMeta nested).map Field.key).Nodup := by
  show ["io.modelcontextprotocol/subscriptionId", "io.modelcontextprotocol/serverInfo"].Nodup
  decide

/-- The members of a `SubscriptionsListenResult`. -/
def subscriptionsListenResult : List Field :=
  [anyResultType "complete",
    .required "_meta" (.record (subscriptionsListenResultMeta nested)
      (nodup_subscriptions_listen_result_meta nested))]

/-! ## Responses -/

/-- The variants of a response that the router makes, with the status of the task in a final task
result. The variant `Raw` is not one of them. -/
inductive Variant where
  | initializeResponse
  | listTools
  | callTool
  | inputRequired
  | listResources
  | listResourceTemplates
  | readResource
  | subscribeResource
  | unsubscribeResource
  | listPrompts
  | getPrompt
  | finalCreateTask
  | finalGetTask (status : TaskStatus)
  | finalTaskAck
  | createTask
  | getTaskInfo
  | updateTask
  | cancelTask
  | setLoggingLevel
  | complete
  | pong
  | discover
  | subscriptionsAccepted
  | subscriptionsListen
  | empty

def Variant.fields : Variant → List Field
  | .initializeResponse => initializeResult nested
  | .listTools => listToolsResult nested
  | .callTool => callToolResult nested
  | .inputRequired => inputRequiredResult nested
  | .listResources => listResourcesResult nested
  | .listResourceTemplates => listResourceTemplatesResult nested
  | .readResource => readResourceResult nested
  | .listPrompts => listPromptsResult nested
  | .getPrompt => getPromptResult nested
  | .finalCreateTask => finalCreateTaskResult
  | .finalGetTask status => getTaskResult nested status
  | .finalTaskAck => taskAcknowledgement
  | .createTask => createTaskResult nested
  | .getTaskInfo => taskObject nested
  | .complete => completeResult nested
  | .discover => discoverResult nested
  | .subscriptionsAccepted => subscriptionsAcceptedResult nested
  | .subscriptionsListen => subscriptionsListenResult nested
  | .subscribeResource | .unsubscribeResource | .updateTask | .cancelTask | .setLoggingLevel | .pong
  | .empty => []

structure McpResponse where
  variant : Variant
  members : List (String × Json)
  written : Written (variant.fields nested) members

/-- Read a final `GetTaskResult` by the status of its task, and write it again. -/
def rewriteGetTask (value : Json) : Option Json :=
  [TaskStatus.working, .inputRequired, .completed, .failed, .cancelled].findSome? fun status =>
    rewrite (getTaskResult nested status) value

/-- Read a legacy `CreateTaskResult`, from the nested task when it has an identifier or else from
the object itself, and write it again. -/
def rewriteCreateTask (value : Json) : Option Json :=
  let metadata := (value.get "_meta").filter fun metadata => !metadata.isNull
  if metadata.all fun metadata => (TaskCreation.validateMetaObject metadata).toOption.isSome then
    let source :=
      match value.get "task" with
      | some (.object task) =>
        if ((Json.object task).get "taskId").isSome then .object task else value
      | _ => value
    (rewrite (taskObject nested) source).map fun task =>
      let tagged := (task.set "resultType" (.string "task")).set "task" task
      (metadata.map fun metadata => tagged.set "_meta" metadata).getD tagged
  else none

/-- The variants of a response in the order they are tried, each as what a value is written as once
it is read. -/
def readers : List (Json → Option Json) :=
  [rewrite (initializeResult nested), rewrite (listToolsResult nested),
    rewrite (callToolResult nested), rewrite (inputRequiredResult nested),
    rewrite (listResourcesResult nested), rewrite (listResourceTemplatesResult nested),
    rewrite (readResourceResult nested), rewrite [], rewrite [],
    rewrite (listPromptsResult nested), rewrite (getPromptResult nested),
    rewrite finalCreateTaskResult, rewriteGetTask nested, rewrite taskAcknowledgement,
    rewriteCreateTask nested, rewrite (taskObject nested), rewrite [], rewrite [], rewrite [],
    rewrite (completeResult nested), rewrite [], rewrite (discoverResult nested),
    rewrite (subscriptionsAcceptedResult nested), rewrite (subscriptionsListenResult nested),
    rewrite [], some]

def rewriteResponse (value : Json) : Option Json :=
  (readers nested).findSome? fun reader => reader value

/-! ## Outcomes -/

inductive OutcomeType where
  | callTool
  | readResource
  | getPrompt

def OutcomeType.fields : OutcomeType → List Field
  | .callTool => callToolResult nested
  | .readResource => readResourceResult nested
  | .getPrompt => getPromptResult nested

inductive RequestOutcome where
  | complete (result : Json)
  | inputRequired (result : Json)

def readOutcome (kind : OutcomeType) (value : Json) : Option RequestOutcome :=
  match rewrite (kind.fields nested) value with
  | some result => some (.complete result)
  | none => (rewrite (inputRequiredResult nested) value).map .inputRequired

/-! ## What is asked of them -/

def McpResponse.RoundTrips (response : McpResponse nested) : Prop :=
  rewriteResponse nested (.object response.members) = some (.object response.members)

def AsksRightly (kind : OutcomeType) (members : List (String × Json)) : Prop :=
  ∀ result, readOutcome nested kind (.object members) = some (.inputRequired result) →
    (Json.object members).get "resultType" = some (.string "input_required")

def Reproduced (fields : List Field) (members : List (String × Json)) : Prop :=
  ∀ field ∈ fields, field.rewrite ((Json.object members).get field.key) =
    some ((Json.object members).get field.key)

/-- The response is one of the first four variants, and reproduced by its type, or it has no members
but those that a request for input reproduces. -/
def McpResponse.Kept (response : McpResponse nested) : Prop :=
  match response.variant with
  | .initializeResponse | .listTools | .callTool | .inputRequired =>
    Reproduced (response.variant.fields nested) response.members
  | .finalTaskAck | .subscriptionsListen =>
    Reproduced [metaField .map] response.members
  | _ => False

/-- An object has no member that keeps it from being read as an `InputRequiredResult`. -/
structure LooksLikeInput (members : List (String × Json)) : Prop where
  resultType : (Json.object members).get "resultType" = none ∨
    ∃ text, (Json.object members).get "resultType" = some (.string text)
  inputRequests : ∀ value, (Json.object members).get "inputRequests" = some value →
    value = .null ∨ ((nested .inputRequests).rewrite value).isSome = true
  requestState : ∀ value, (Json.object members).get "requestState" = some value →
    value = .null ∨ ∃ text, value = .string text
  metadata : ∀ value, (Json.object members).get "_meta" = some value →
    value = .null ∨ ∃ entries, value = .object entries

def RightlyRead (kind : OutcomeType) (members : List (String × Json)) : Prop :=
  (rewrite (kind.fields nested) (.object members)).isSome = true ∨
    (Json.object members).get "resultType" = some (.string "input_required") ∨
    ¬ LooksLikeInput nested members

/-! ## The keys of the variants -/

def Variant.keys (variant : Variant) : List String :=
  (variant.fields fun _ => .string).map Field.key

theorem map_key_fields (variant : Variant) :
    (variant.fields nested).map Field.key = variant.keys := by
  cases variant with
  | finalGetTask status => cases status <;> rfl
  | _ => rfl

theorem nodup_fields (variant : Variant) : ((variant.fields nested).map Field.key).Nodup := by
  rw [map_key_fields]
  cases variant with
  | finalGetTask status => cases status <;> decide
  | _ => decide

theorem nodup_input_required_result : ((inputRequiredResult nested).map Field.key).Nodup :=
  nodup_fields nested .inputRequired

variable {variant : Variant}

theorem protocol_version_not_mem (h : variant ≠ .initializeResponse) :
    "protocolVersion" ∉ variant.keys := by
  cases variant with
  | initializeResponse => exact absurd rfl h
  | finalGetTask status => cases status <;> decide
  | _ => decide

theorem tools_not_mem (h : variant ≠ .listTools) : "tools" ∉ variant.keys := by
  cases variant with
  | listTools => exact absurd rfl h
  | finalGetTask status => cases status <;> decide
  | _ => decide

theorem content_not_mem (h : variant ≠ .callTool) : "content" ∉ variant.keys := by
  cases variant with
  | callTool => exact absurd rfl h
  | finalGetTask status => cases status <;> decide
  | _ => decide

variable {nested} (response : McpResponse nested)

theorem get_of_not_mem {key : String} (h : key ∉ response.variant.keys) :
    (Json.object response.members).get key = none := by
  refine get_of_not_key response.written ?_
  rwa [map_key_fields]

theorem writes_of_mem {field : Field} (h : field ∈ response.variant.fields nested) :
    field.Writes ((Json.object response.members).get field.key) :=
  writes_of_written response.written (nodup_fields nested _) h

/-! ## Which variant reads a response -/

theorem initialize_refuses (h : response.variant ≠ .initializeResponse) :
    rewrite (initializeResult nested) (.object response.members) = none := by
  refine rewrite_of_missing (List.mem_cons_self) ?_
  show (Field.required "protocolVersion" .string).rewrite
    ((Json.object response.members).get "protocolVersion") = none
  rw [get_of_not_mem response (protocol_version_not_mem h)]
  rfl

theorem list_tools_refuses (h : response.variant ≠ .listTools) :
    rewrite (listToolsResult nested) (.object response.members) = none := by
  refine rewrite_of_missing (List.mem_cons_self) ?_
  show (Field.required "tools" (nested .toolDefinitions)).rewrite
    ((Json.object response.members).get "tools") = none
  rw [get_of_not_mem response (tools_not_mem h)]
  rfl

theorem call_tool_refuses (h : response.variant ≠ .callTool) :
    rewrite (callToolResult nested) (.object response.members) = none := by
  refine rewrite_of_missing (List.mem_cons_self) ?_
  show (Field.required "content" (nested .content)).rewrite
    ((Json.object response.members).get "content") = none
  rw [get_of_not_mem response (content_not_mem h)]
  rfl

theorem string_reads_iff (value : Json) :
    (WireType.string.rewrite value).isSome = true ↔ ∃ text, value = .string text := by
  cases value <;> simp [WireType.string]

theorem input_required_reads_iff (members : List (String × Json)) :
    (rewrite (inputRequiredResult nested) (.object members)).isSome = true ↔
      LooksLikeInput nested members := by
  rw [rewrite_is_some_iff (nodup_input_required_result nested)]
  simp only [inputRequiredResult, List.forall_mem_cons, List.not_mem_nil, false_implies,
    implies_true, and_true]
  show ((Field.tag "resultType" (some "input_required") fun _ => true).rewrite
      ((Json.object members).get "resultType")).isSome = true ∧
    ((Field.optional "inputRequests" (nested .inputRequests)).rewrite
      ((Json.object members).get "inputRequests")).isSome = true ∧
    ((Field.optional "requestState" .string).rewrite
      ((Json.object members).get "requestState")).isSome = true ∧
    ((Field.filtered "_meta" acceptsMetaKey .map).rewrite
      ((Json.object members).get "_meta")).isSome = true ↔ _
  rw [Field.tag_reads_iff, Field.optional_reads_iff, Field.optional_reads_iff,
    Field.filtered_map_reads_iff]
  simp only [string_reads_iff, true_and]
  exact ⟨fun ⟨tagged, requests, state, metadata⟩ => ⟨tagged, requests, state, metadata⟩,
    fun ⟨tagged, requests, state, metadata⟩ => ⟨tagged, requests, state, metadata⟩⟩

theorem text_of_tag {default : Option String} {allowed : String → Bool}
    (h : Field.tag "resultType" default allowed ∈ response.variant.fields nested) :
    ∃ text, allowed text = true ∧
      (Json.object response.members).get "resultType" = some (.string text) :=
  writes_of_mem response h

theorem result_type_of_response :
    (Json.object response.members).get "resultType" = none ∨
      ∃ text, (Json.object response.members).get "resultType" = some (.string text) := by
  have htag : ∀ default allowed,
      Field.tag "resultType" default allowed ∈ response.variant.fields nested →
        ∃ text, (Json.object response.members).get "resultType" = some (.string text) := by
    intro default allowed hmem
    obtain ⟨text, -, hget⟩ := text_of_tag response hmem
    exact ⟨text, hget⟩
  have hfirst : ∀ default allowed rest,
      response.variant.fields nested = Field.tag "resultType" default allowed :: rest →
        ∃ text, (Json.object response.members).get "resultType" = some (.string text) := by
    intro default allowed rest hfields
    exact htag default allowed (hfields ▸ List.mem_cons_self)
  cases hvariant : response.variant with
  | inputRequired | finalCreateTask | finalTaskAck | subscriptionsListen | finalGetTask =>
    exact .inr (hfirst _ _ _ (by rw [hvariant]; rfl))
  | createTask =>
    refine .inr (htag none (fun text => text == "task") ?_)
    rw [hvariant]
    exact List.mem_append_right _ List.mem_cons_self
  | initializeResponse | listTools | callTool | listResources | listResourceTemplates | readResource
  | subscribeResource | unsubscribeResource | listPrompts | getPrompt | getTaskInfo | updateTask
  | cancelTask | setLoggingLevel | complete | pong | discover | subscriptionsAccepted | empty =>
    exact .inl (get_of_not_mem response (by rw [hvariant]; decide))

theorem input_requests_of_response (value : Json)
    (hget : (Json.object response.members).get "inputRequests" = some value) :
    value = .null ∨ ((nested .inputRequests).rewrite value).isSome = true := by
  have hnone : "inputRequests" ∉ response.variant.keys →
      value = .null ∨ ((nested .inputRequests).rewrite value).isSome = true := by
    intro hkey
    rw [get_of_not_mem response hkey] at hget
    cases hget
  cases hvariant : response.variant with
  | inputRequired =>
    have hmem : Field.optional "inputRequests" (nested .inputRequests) ∈
        response.variant.fields nested := by
      rw [hvariant]
      simp [Variant.fields, inputRequiredResult]
    rcases writes_of_mem response hmem with habsent | ⟨written, hwritten, -, hwrites⟩
    · cases hget.symm.trans habsent
    · cases hget.symm.trans hwritten
      exact .inr ((nested .inputRequests).reads hwrites)
  | finalGetTask status =>
    cases status with
    | inputRequired =>
      have hmem : Field.required "inputRequests" (nested .inputRequests) ∈
          response.variant.fields nested := by
        rw [hvariant]
        simp [Variant.fields, getTaskResult, taskDetail]
      obtain ⟨written, hwritten, hwrites⟩ := writes_of_mem response hmem
      cases hget.symm.trans hwritten
      exact .inr ((nested .inputRequests).reads hwrites)
    | working | completed | failed | cancelled => exact hnone (by rw [hvariant]; decide)
  | initializeResponse | listTools | callTool | listResources | listResourceTemplates | readResource
  | subscribeResource | unsubscribeResource | listPrompts | getPrompt | finalCreateTask
  | finalTaskAck | createTask | getTaskInfo | updateTask | cancelTask | setLoggingLevel | complete
  | pong | discover | subscriptionsAccepted | subscriptionsListen | empty =>
    exact hnone (by rw [hvariant]; decide)

theorem request_state_not_mem (h : variant ≠ .inputRequired) : "requestState" ∉ variant.keys := by
  cases variant with
  | inputRequired => exact absurd rfl h
  | finalGetTask status => cases status <;> decide
  | _ => decide

theorem request_state_of_response (value : Json)
    (hget : (Json.object response.members).get "requestState" = some value) :
    value = .null ∨ ∃ text, value = .string text := by
  by_cases hvariant : response.variant = .inputRequired
  · have hmem : Field.optional "requestState" .string ∈ response.variant.fields nested := by
      rw [hvariant]
      simp [Variant.fields, inputRequiredResult]
    rcases writes_of_mem response hmem with habsent | ⟨written, hwritten, -, hwrites⟩
    · cases hget.symm.trans habsent
    · cases hget.symm.trans hwritten
      exact .inr hwrites
  · rw [get_of_not_mem response (request_state_not_mem hvariant)] at hget
    cases hget

theorem metadata_of_response (value : Json)
    (hget : (Json.object response.members).get "_meta" = some value) :
    value = .null ∨ ∃ entries, value = .object entries := by
  have hfiltered : ∀ type, metaField type ∈ response.variant.fields nested →
      value = .null ∨ ∃ entries, value = .object entries := by
    intro type hmem
    rcases writes_of_mem response hmem with habsent | ⟨entries, hwritten, -⟩
    · cases hget.symm.trans habsent
    · cases hget.symm.trans hwritten
      exact .inr ⟨entries, rfl⟩
  have hmap : Field.optional "_meta" .map ∈ response.variant.fields nested →
      value = .null ∨ ∃ entries, value = .object entries := by
    intro hmem
    rcases writes_of_mem response hmem with habsent | ⟨written, hwritten, -, hwrites⟩
    · cases hget.symm.trans habsent
    · cases hget.symm.trans hwritten
      exact .inr hwrites
  have hnone : "_meta" ∉ response.variant.keys →
      value = .null ∨ ∃ entries, value = .object entries := by
    intro hkey
    rw [get_of_not_mem response hkey] at hget
    cases hget
  cases hvariant : response.variant with
  | initializeResponse | listTools | callTool | inputRequired | listResources
  | listResourceTemplates | listPrompts | getPrompt | complete | getTaskInfo | createTask =>
    refine hfiltered .map ?_
    rw [hvariant]
    simp [Variant.fields, initializeResult, listToolsResult, callToolResult, inputRequiredResult,
      listResourcesResult, listResourceTemplatesResult, listPromptsResult, getPromptResult,
      completeResult, taskObject, createTaskResult]
  | readResource =>
    refine hfiltered (nested .requestMeta) ?_
    rw [hvariant]
    simp [Variant.fields, readResourceResult]
  | discover =>
    refine hfiltered (nested .resultMeta) ?_
    rw [hvariant]
    simp [Variant.fields, discoverResult]
  | finalCreateTask | finalGetTask | finalTaskAck =>
    refine hmap ?_
    rw [hvariant]
    simp [Variant.fields, finalCreateTaskResult, getTaskResult, taskAcknowledgement]
  | subscriptionsListen =>
    have hmem : Field.required "_meta" (.record (subscriptionsListenResultMeta nested)
        (nodup_subscriptions_listen_result_meta nested)) ∈ response.variant.fields nested := by
      rw [hvariant]
      simp [Variant.fields, subscriptionsListenResult]
    obtain ⟨written, hwritten, entries, -, hentries⟩ := writes_of_mem response hmem
    cases hget.symm.trans hwritten
    exact .inr ⟨entries, hentries⟩
  | subscribeResource | unsubscribeResource | updateTask | cancelTask | setLoggingLevel | pong
  | subscriptionsAccepted | empty => exact hnone (by rw [hvariant]; decide)

theorem looks_like_input : LooksLikeInput nested response.members where
  resultType := result_type_of_response response
  inputRequests := input_requests_of_response response
  requestState := request_state_of_response response
  metadata := metadata_of_response response

theorem read_as_input_required (hopening : response.variant ≠ .initializeResponse)
    (htools : response.variant ≠ .listTools) (hcall : response.variant ≠ .callTool) :
    ∃ result, rewrite (inputRequiredResult nested) (.object response.members) = some result ∧
      rewriteResponse nested (.object response.members) = some result := by
  obtain ⟨result, hresult⟩ := Option.isSome_iff_exists.1
    ((input_required_reads_iff response.members).2 (looks_like_input response))
  refine ⟨result, hresult, ?_⟩
  simp only [rewriteResponse, readers, List.findSome?_cons, initialize_refuses response hopening,
    list_tools_refuses response htools, call_tool_refuses response hcall, hresult]

theorem not_round_trips_of_untagged (hopening : response.variant ≠ .initializeResponse)
    (htools : response.variant ≠ .listTools) (hcall : response.variant ≠ .callTool)
    (hkey : "resultType" ∉ response.variant.keys) : ¬ response.RoundTrips := by
  intro hsame
  obtain ⟨result, hread, hresponse⟩ := read_as_input_required response hopening htools hcall
  rw [Option.some.inj (hresponse.symm.trans hsame)] at hread
  have hfield := (get_of_rewrite (nodup_input_required_result nested) hread).1
    (anyResultType "input_required") List.mem_cons_self
  have habsent := get_of_not_mem response hkey
  rw [show (anyResultType "input_required").key = "resultType" from rfl, habsent] at hfield
  cases hfield

theorem not_round_trips_of_task (hopening : response.variant ≠ .initializeResponse)
    (htools : response.variant ≠ .listTools) (hcall : response.variant ≠ .callTool)
    (hmem : Field.required "taskId" .string ∈ response.variant.fields nested) :
    ¬ response.RoundTrips := by
  intro hsame
  obtain ⟨result, hread, hresponse⟩ := read_as_input_required response hopening htools hcall
  rw [Option.some.inj (hresponse.symm.trans hsame)] at hread
  have hnone : (Json.object response.members).get "taskId" = none := by
    refine (get_of_rewrite (nodup_input_required_result nested) hread).2 "taskId" ?_
    intro field hfield
    have hkey : field.key ∈ (inputRequiredResult nested).map Field.key :=
      List.mem_map_of_mem hfield
    rintro heq
    rw [heq] at hkey
    exact absurd hkey (by simp [inputRequiredResult, anyResultType, Field.tag, Field.optional,
      metaField, Field.filtered])
  obtain ⟨value, hvalue, -⟩ := writes_of_mem response hmem
  cases hnone.symm.trans hvalue

theorem round_trips_iff_reproduced
    (hread : rewriteResponse nested (.object response.members) =
      rewrite (response.variant.fields nested) (.object response.members)) :
    response.RoundTrips ↔ Reproduced (response.variant.fields nested) response.members := by
  unfold McpResponse.RoundTrips
  rw [hread]
  exact rewrite_eq_self_iff (nodup_fields nested _) (keys_of_written response.written)

theorem any_result_type_reproduces (text : String) :
    (anyResultType "input_required").rewrite (some (.string text)) = some (some (.string text)) :=
  rfl

theorem round_trips_iff_metadata {text : String}
    (hread : rewriteResponse nested (.object response.members) =
      rewrite (inputRequiredResult nested) (.object response.members))
    (hkeys : response.variant.keys = ["resultType", "_meta"])
    (htext : (Json.object response.members).get "resultType" = some (.string text)) :
    response.RoundTrips ↔ Reproduced [metaField .map] response.members := by
  unfold McpResponse.RoundTrips
  have hordered : (response.members.map Prod.fst).Sublist
      ((inputRequiredResult nested).map Field.key) := by
    have hown := keys_of_written response.written
    rw [map_key_fields, hkeys] at hown
    refine hown.trans ?_
    show ["resultType", "_meta"].Sublist ["resultType", "inputRequests", "requestState", "_meta"]
    decide
  rw [hread, rewrite_eq_self_iff (nodup_input_required_result nested) hordered]
  have hrequests : (Json.object response.members).get "inputRequests" = none :=
    get_of_not_mem response (by rw [hkeys]; decide)
  have hstate : (Json.object response.members).get "requestState" = none :=
    get_of_not_mem response (by rw [hkeys]; decide)
  simp only [inputRequiredResult, Reproduced, List.forall_mem_cons, List.not_mem_nil,
    false_implies, implies_true, and_true]
  constructor
  · rintro ⟨-, -, -, hmetadata⟩
    exact hmetadata
  · intro hmetadata
    refine ⟨?_, ?_, ?_, hmetadata⟩
    · show (anyResultType "input_required").rewrite
        ((Json.object response.members).get "resultType") = _
      rw [htext, any_result_type_reproduces]
      exact congrArg some htext.symm
    · show (Field.optional "inputRequests" _).rewrite
        ((Json.object response.members).get "inputRequests") =
          some ((Json.object response.members).get "inputRequests")
      rw [hrequests]
      rfl
    · show (Field.optional "requestState" _).rewrite
        ((Json.object response.members).get "requestState") =
          some ((Json.object response.members).get "requestState")
      rw [hstate]
      rfl

theorem round_trips_iff_kept : response.RoundTrips ↔ response.Kept := by
  have hinput (hopening : response.variant ≠ .initializeResponse)
      (htools : response.variant ≠ .listTools) (hcall : response.variant ≠ .callTool) :
      rewriteResponse nested (.object response.members) =
        rewrite (inputRequiredResult nested) (.object response.members) := by
    obtain ⟨result, hread, hresponse⟩ := read_as_input_required response hopening htools hcall
    rw [hread, hresponse]
  have hown : ∃ result,
      rewrite (response.variant.fields nested) (.object response.members) = some result :=
    Option.isSome_iff_exists.1 (rewrite_of_written response.written (nodup_fields nested _))
  obtain ⟨own, hown⟩ := hown
  unfold McpResponse.Kept
  cases hvariant : response.variant with
  | initializeResponse =>
    dsimp only
    rw [← hvariant]
    refine round_trips_iff_reproduced response ?_
    rw [hown]
    rw [hvariant] at hown
    have hfirst : rewrite (initializeResult nested) (.object response.members) = some own := hown
    simp only [rewriteResponse, readers, List.findSome?_cons, hfirst]
  | listTools =>
    dsimp only
    rw [← hvariant]
    refine round_trips_iff_reproduced response ?_
    have hopening := initialize_refuses response (by simp [hvariant])
    rw [hown]
    rw [hvariant] at hown
    have htools : rewrite (listToolsResult nested) (.object response.members) = some own := hown
    simp only [rewriteResponse, readers, List.findSome?_cons, hopening, htools]
  | callTool =>
    dsimp only
    rw [← hvariant]
    refine round_trips_iff_reproduced response ?_
    have hopening := initialize_refuses response (by simp [hvariant])
    have htools := list_tools_refuses response (by simp [hvariant])
    rw [hown]
    rw [hvariant] at hown
    have hcall : rewrite (callToolResult nested) (.object response.members) = some own := hown
    simp only [rewriteResponse, readers, List.findSome?_cons, hopening, htools, hcall]
  | inputRequired =>
    dsimp only
    rw [← hvariant]
    refine round_trips_iff_reproduced response ?_
    rw [hinput (by simp [hvariant]) (by simp [hvariant]) (by simp [hvariant]), hvariant]
    rfl
  | finalTaskAck | subscriptionsListen =>
    have htext := result_type_of_response response
    rcases htext with habsent | ⟨text, htext⟩
    · have hmem : ∃ default allowed rest, response.variant.fields nested =
          Field.tag "resultType" default allowed :: rest := by
        rw [hvariant]
        exact ⟨_, _, _, rfl⟩
      obtain ⟨default, allowed, rest, hfields⟩ := hmem
      obtain ⟨text, -, htext⟩ := text_of_tag response (hfields ▸ List.mem_cons_self)
      cases habsent.symm.trans htext
    · exact round_trips_iff_metadata response
        (hinput (by simp [hvariant]) (by simp [hvariant]) (by simp [hvariant]))
        (by rw [hvariant]; rfl) htext
  | finalCreateTask | finalGetTask | createTask =>
    refine iff_of_false (not_round_trips_of_task response (by simp [hvariant])
      (by simp [hvariant]) (by simp [hvariant]) ?_) id
    rw [hvariant]
    simp [Variant.fields, finalCreateTaskResult, getTaskResult, createTaskResult, taskMetadata,
      taskObject]
  | listResources | listResourceTemplates | readResource | subscribeResource | unsubscribeResource
  | listPrompts | getPrompt | getTaskInfo | updateTask | cancelTask | setLoggingLevel | complete
  | pong | discover | subscriptionsAccepted | empty =>
    exact iff_of_false (not_round_trips_of_untagged response (by simp [hvariant])
      (by simp [hvariant]) (by simp [hvariant]) (by rw [hvariant]; decide)) id

theorem asks_rightly_iff (kind : OutcomeType) (members : List (String × Json)) :
    AsksRightly nested kind members ↔ RightlyRead nested kind members := by
  unfold AsksRightly RightlyRead readOutcome
  rw [← input_required_reads_iff]
  cases hcomplete : rewrite (kind.fields nested) (.object members) with
  | some result => simp
  | none =>
    cases hinput : rewrite (inputRequiredResult nested) (.object members) with
    | none => simp
    | some result => simp

end

/-! ## Responses that are lost -/

def anything (_ : NestedType) : WireType where
  rewrite := some
  Writes := fun _ => True
  reads := fun _ => rfl

def noResources : McpResponse anything where
  variant := .listResources
  members := [("resources", .array [])]
  written :=
    .written ⟨_, rfl, trivial⟩ (.omitted (.inl rfl) (.omitted (.inl rfl) (.omitted (.inl rfl)
      (.omitted (.inl rfl) .nil))))

def taskResult : List (String × Json) :=
  [("resultType", .string "task"), ("taskId", .string "t-1")]

end UntaggedResponses

end TowerMcp
