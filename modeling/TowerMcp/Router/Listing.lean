import TowerMcp.Lib.Overlay
import TowerMcp.Router.Capability

/-!
# The list and access methods of a router

`tools/list`, `resources/list`, `resources/templates/list` and `prompts/list` before they are cut
into pages, and `tools/call`, `resources/read` and `prompts/get` up to where the capability they
found is handed to its handler. All of them merge the static registry with the dynamic one, the
disabled set and the filter, each in its own way.
-/

namespace TowerMcp

abbrev PromptInitializer := Registry Prompt Prompt.name → Except Error (Registry Prompt Prompt.name)

structure McpRouter where
  session : SessionState := {}
  tools : Registry Tool Tool.name := .empty
  resources : Registry Resource Resource.uri := .empty
  resourceTemplates : List ResourceTemplate := []
  prompts : Registry Prompt Prompt.name := .empty
  toolFilter : Option (CapabilityFilter Tool) := none
  resourceFilter : Option (CapabilityFilter Resource) := none
  resourceTemplateFilter : Option (CapabilityFilter ResourceTemplate) := none
  promptFilter : Option (CapabilityFilter Prompt) := none
  extensions : Extensions := {}
  protocolExtensions : FinMap String Json := ∅
  disabledTools : KeySet := ∅
  disabledResources : KeySet := ∅
  disabledPrompts : KeySet := ∅
  dynamicTools : Option (Registry Tool Tool.name) := none
  dynamicResources : Option (Registry Resource Resource.uri) := none
  dynamicResourceTemplates : Option (List ResourceTemplate) := none
  dynamicPrompts : Option (Registry Prompt Prompt.name) := none
  promptInitializer : Option PromptInitializer := none

def filterShows {α : Type} [Filterable α] (filter : Option (CapabilityFilter α))
    (context : CapabilityFilterContext) (capability : α) : Bool :=
  filter.all fun f => f.isVisibleWithContext context capability

namespace McpRouter

def capabilityFilterContext (router : McpRouter) (requestExtensions : Extensions)
    (operation : CapabilityOperation) : CapabilityFilterContext :=
  .new router.session router.extensions requestExtensions operation

def finalTasksEnabled (router : McpRouter) : Bool :=
  decide (tasksExtensionId ∈ router.protocolExtensions)

/-! ## Tools -/

/-- Whether `tools/list` shows a tool. -/
def toolIsVisible (router : McpRouter) (extensions : Extensions) (tool : Tool) : Bool :=
  let finalProtocol := isFinalProtocolRequest extensions
  let finalTasksNegotiated :=
    finalProtocol && router.finalTasksEnabled && clientDeclaresTasks extensions
  !decide (tool.name ∈ router.disabledTools) &&
    !(finalProtocol && tool.taskSupport == .required && !finalTasksNegotiated) &&
    filterShows router.toolFilter (router.capabilityFilterContext extensions .list) tool

def isObjectSchema : Json → Bool
  | .object fields => (fields.find? (·.1 == "type")).map (·.2) == some (.string "object")
  | _ => false

/-- The definition `tools/list` publishes to a request. -/
def toolDefinition (extensions : Extensions) (tool : Tool) : ToolDefinition :=
  let definition := tool.definition
  if isFinalProtocolRequest extensions then
    { definition with execution := none }
  else if definition.outputSchema.any fun schema => !isObjectSchema schema then
    { definition with outputSchema := none }
  else
    definition

/-- The handler of `tools/list`. -/
def listTools (router : McpRouter) (extensions : Extensions) : List ToolDefinition :=
  Overlay.listing Tool.name ToolDefinition.name (router.toolIsVisible extensions)
    (toolDefinition extensions) router.tools.list (router.dynamicTools.getD .empty).list

structure TaskRequestParams where
  ttl : Option ℕ := none
deriving DecidableEq

/-- The parameters of `tools/call` that choose the tool and how it runs. -/
structure CallToolParams where
  name : String
  task : Option TaskRequestParams := none

/-- Whether the call becomes a task: `some` with the TTL asked for, or none. -/
def taskTtl (router : McpRouter) (extensions : Extensions) (params : CallToolParams) (tool : Tool) :
    Except Error (Option (Option ℕ)) :=
  if isFinalProtocolRequest extensions then
    if params.task.isSome then
      .error (.jsonRpc (.invalidParams
        "The final Tasks extension does not allow a 'task' request parameter"))
    else
      let serverEnabled := router.finalTasksEnabled
      let tasksNegotiated := serverEnabled && clientDeclaresTasks extensions
      match tool.taskSupport with
      | .required =>
        -- a task-only tool is not part of the surface until the server opts in
        if !serverEnabled then .error (toolNotFound params.name)
        else if !tasksNegotiated then
          .error (.jsonRpc (.missingRequiredClientCapability tasksClientCapabilities))
        else .ok (some none)
      | .optional => .ok (if tasksNegotiated then some none else none)
      | .forbidden => .ok none
  else
    match params.task, tool.taskSupport with
    | some _, .forbidden => .error (.jsonRpc (.invalidParams
        ("Tool '" ++ params.name ++ "' does not support async tasks")))
    | none, .required => .error (.jsonRpc (.invalidParams
        ("Tool '" ++ params.name ++
          "' requires async task execution (include 'task' in params)")))
    | some task, _ => .ok (some task.ttl)
    | none, _ => .ok none

def findTool (router : McpRouter) (name : String) : Option Tool :=
  (router.tools.get name).or (router.dynamicTools.bind (·.get name))

/-- The handler of `tools/call`, up to the tool it runs and whether it runs as a task. -/
def callTool (router : McpRouter) (extensions : Extensions) (params : CallToolParams) :
    Except Error (Tool × Option (Option ℕ)) :=
  if params.name ∈ router.disabledTools then
    .error (toolNotFound params.name)
  else
    match router.findTool params.name with
    | none => .error (toolNotFound params.name)
    | some tool =>
      let context := router.capabilityFilterContext extensions (.access params.name)
      match router.toolFilter.filter fun f => !f.isVisibleWithContext context tool with
      | some filter =>
        .error (filter.denialErrorOrNotFound params.name fun _ => toolNotFound params.name)
      | none => do
        let ttl ← router.taskTtl extensions params tool
        pure (tool, ttl)

/-! ## Resources -/

/-- Whether `resources/list` shows a resource. -/
def resourceIsVisible (router : McpRouter) (extensions : Extensions) (resource : Resource) : Bool :=
  !decide (resource.uri ∈ router.disabledResources) &&
    filterShows router.resourceFilter (router.capabilityFilterContext extensions .list) resource

/-- The handler of `resources/list`. -/
def listResources (router : McpRouter) (extensions : Extensions) : List ResourceDefinition :=
  Overlay.listing Resource.uri ResourceDefinition.uri (router.resourceIsVisible extensions)
    Resource.definition router.resources.list (router.dynamicResources.getD .empty).list

def resourceTemplateIsVisible (router : McpRouter) (context : CapabilityFilterContext)
    (template : ResourceTemplate) : Bool :=
  match router.resourceTemplateFilter with
  | some filter => filter.isVisibleWithContext context template
  | none => router.resourceFilter.isNone

/-- The handler of `resources/templates/list`. A hidden static template still shadows a dynamic one
with the same pattern. -/
def listResourceTemplates (router : McpRouter) (extensions : Extensions) :
    List ResourceTemplateDefinition :=
  Overlay.precedenceListing ResourceTemplate.uriTemplate ResourceTemplateDefinition.uriTemplate
    (router.resourceTemplateIsVisible (router.capabilityFilterContext extensions .list))
    ResourceTemplate.definition router.resourceTemplates
    (router.dynamicResourceTemplates.getD [])

def authorizeResourceTemplate (router : McpRouter) (context : CapabilityFilterContext)
    (template : ResourceTemplate) (concreteUri : String) : Except Error Unit :=
  match router.resourceTemplateFilter with
  | some filter =>
    if !filter.isVisibleWithContext context template then .error (filter.denialError concreteUri)
    else .ok ()
  | none =>
    match router.resourceFilter with
    | some filter => .error (filter.denialError concreteUri)
    | none => .ok ()

/-- What `resources/read` reads: a resource, or a template with the variables of the URI. -/
inductive ReadTarget where
  | resource (resource : Resource)
  | template (template : ResourceTemplate) (bound : TemplateVariables)

def authorizeResource (router : McpRouter) (context : CapabilityFilterContext) (uri : String)
    (resource : Resource) : Except Error ReadTarget :=
  match router.resourceFilter.filter fun f => !f.isVisibleWithContext context resource with
  | some filter => .error (filter.denialError uri)
  | none => .ok (.resource resource)

def matchTemplate (templates : List ResourceTemplate) (uri : String) :
    Option (ResourceTemplate × TemplateVariables) :=
  templates.findSome? fun template => (template.matchUri uri).map fun bound =>
    (template, bound)

/-- The handler of `resources/read`, up to what it reads. -/
def readResource (router : McpRouter) (extensions : Extensions) (uri : String) :
    Except Error ReadTarget :=
  if uri ∈ router.disabledResources then
    .error (resourceNotFound uri)
  else
    let context := router.capabilityFilterContext extensions (.access uri)
    match router.resources.get uri with
    | some resource => router.authorizeResource context uri resource
    | none =>
      match router.dynamicResources.bind (·.get uri) with
      | some resource => router.authorizeResource context uri resource
      | none =>
        match (matchTemplate router.resourceTemplates uri).or
            (router.dynamicResourceTemplates.bind (matchTemplate · uri)) with
        | some (template, bound) => do
          router.authorizeResourceTemplate context template uri
          pure (.template template bound)
        | none => .error (resourceNotFound uri)

/-! ## Prompts -/

def initializePrompts (router : McpRouter) : Except Error McpRouter :=
  match router.promptInitializer with
  | none => .ok router
  | some initializer => do
    let populated ← initializer (router.dynamicPrompts.getD .empty)
    pure { router with dynamicPrompts := router.dynamicPrompts.map fun _ => populated }

/-- Whether `prompts/list` shows a prompt. -/
def promptIsVisible (router : McpRouter) (extensions : Extensions) (prompt : Prompt) : Bool :=
  !decide (prompt.name ∈ router.disabledPrompts) &&
    filterShows router.promptFilter (router.capabilityFilterContext extensions .list) prompt

/-- The handler of `prompts/list`. -/
def listPrompts (router : McpRouter) (extensions : Extensions) :
    Except Error (List PromptDefinition) := do
  let router ← router.initializePrompts
  pure (Overlay.listing Prompt.name PromptDefinition.name (router.promptIsVisible extensions)
    Prompt.definition router.prompts.list (router.dynamicPrompts.getD .empty).list)

/-- The parameters of `prompts/get`. -/
structure GetPromptParams where
  name : String
  arguments : FinMap String String := ∅

def missingRequiredArguments (declared : List PromptArgument) (supplied : FinMap String String) :
    List String :=
  ((declared.filter fun argument => argument.required && !decide (argument.name ∈ supplied)).map
    (·.name)).insertionSort (· ≤ ·)

def missingArgumentsError (name : String) (missing : List String) : JsonRpcError :=
  (JsonRpcError.invalidParams
    ("prompt '" ++ name ++ "' is missing required argument" ++
      (if missing.length = 1 then "" else "s") ++ ": " ++ ", ".intercalate missing)).withData
    (.object [("missingArguments", .array (missing.map .string))])

def findPrompt (router : McpRouter) (name : String) : Option Prompt :=
  (router.prompts.get name).or (router.dynamicPrompts.bind (·.get name))

def resolvePrompt (router : McpRouter) (extensions : Extensions) (params : GetPromptParams) :
    Except Error Prompt :=
  if params.name ∈ router.disabledPrompts then
    .error (promptNotFound params.name)
  else
    match router.findPrompt params.name with
    | none => .error (promptNotFound params.name)
    | some prompt =>
      let context := router.capabilityFilterContext extensions (.access params.name)
      match router.promptFilter.filter fun f => !f.isVisibleWithContext context prompt with
      | some filter =>
        .error (filter.denialErrorOrNotFound params.name fun _ => promptNotFound params.name)
      | none =>
        let missing := missingRequiredArguments prompt.arguments params.arguments
        if missing ≠ [] then
          .error (.jsonRpc (missingArgumentsError params.name missing))
        else
          .ok prompt

/-- The handler of `prompts/get`, up to the prompt it renders. -/
def getPrompt (router : McpRouter) (extensions : Extensions) (params : GetPromptParams) :
    Except Error Prompt := do
  let router ← router.initializePrompts
  router.resolvePrompt extensions params

end McpRouter

end TowerMcp
