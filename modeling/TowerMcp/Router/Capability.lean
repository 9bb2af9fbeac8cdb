import TowerMcp.Lib.Registry
import TowerMcp.Types.Protocol

/-!
# Capabilities of a router and their filters

Tools, resources, resource templates and prompts with the definitions the list methods publish, the
errors a lookup fails with, and the filters that hide a capability from a session. A handler is
known by a number: nothing here runs it, but two capabilities with one definition may differ in it.
-/

namespace TowerMcp

/-! ## Definitions -/

def tasksExtensionId : String := "io.modelcontextprotocol/tasks"

def protocolVersion20260728 : String := "2026-07-28"

inductive TaskSupportMode where
  | required
  | optional
  | forbidden
deriving DecidableEq

/-- What `tools/list` publishes. -/
structure ToolDefinition where
  name : String
  title : Option String := none
  description : Option String := none
  inputSchema : Json := .null
  outputSchema : Option Json := none
  icons : Option Json := none
  annotations : Option Json := none
  execution : Option (Option TaskSupportMode) := none
  metadata : Option Json := none
deriving DecidableEq

structure Tool where
  name : String
  title : Option String := none
  description : Option String := none
  inputSchema : Json := .null
  outputSchema : Option Json := none
  icons : Option Json := none
  annotations : Option Json := none
  metadata : Option Json := none
  taskSupport : TaskSupportMode := .forbidden
  handler : ℕ
deriving DecidableEq

/-- The tool definition for `tools/list`. -/
def Tool.definition (tool : Tool) : ToolDefinition where
  name := tool.name
  title := tool.title
  description := tool.description
  inputSchema := tool.inputSchema
  outputSchema := tool.outputSchema
  icons := tool.icons
  annotations := tool.annotations
  execution :=
    match tool.taskSupport with
    | .forbidden => none
    | mode => some (some mode)
  metadata := tool.metadata

/-- What `resources/list` publishes. -/
structure ResourceDefinition where
  uri : String
  name : String
  title : Option String := none
  description : Option String := none
  mimeType : Option String := none
  icons : Option Json := none
  size : Option ℕ := none
  annotations : Option Json := none
  metadata : Option Json := none
deriving DecidableEq

structure Resource where
  uri : String
  name : String
  title : Option String := none
  description : Option String := none
  mimeType : Option String := none
  icons : Option Json := none
  size : Option ℕ := none
  annotations : Option Json := none
  metadata : Option Json := none
  handler : ℕ
deriving DecidableEq

/-- The resource definition for `resources/list`. -/
def Resource.definition (resource : Resource) : ResourceDefinition where
  uri := resource.uri
  name := resource.name
  title := resource.title
  description := resource.description
  mimeType := resource.mimeType
  icons := resource.icons
  size := resource.size
  annotations := resource.annotations
  metadata := resource.metadata

structure PromptArgument where
  name : String
  description : Option String := none
  required : Bool := false
deriving DecidableEq

/-- What `resources/templates/list` publishes. -/
structure ResourceTemplateDefinition where
  uriTemplate : String
  name : String
  title : Option String := none
  description : Option String := none
  mimeType : Option String := none
  icons : Option Json := none
  annotations : Option Json := none
  arguments : List PromptArgument := []
  metadata : Option Json := none
deriving DecidableEq

abbrev TemplateVariables := List (String × String)

/-- A resource template. `matchUri` is its compiled pattern. -/
structure ResourceTemplate where
  uriTemplate : String
  name : String
  title : Option String := none
  description : Option String := none
  mimeType : Option String := none
  icons : Option Json := none
  annotations : Option Json := none
  arguments : List PromptArgument := []
  metadata : Option Json := none
  matchUri : String → Option TemplateVariables
  handler : ℕ

/-- The template definition for `resources/templates/list`. -/
def ResourceTemplate.definition (template : ResourceTemplate) : ResourceTemplateDefinition where
  uriTemplate := template.uriTemplate
  name := template.name
  title := template.title
  description := template.description
  mimeType := template.mimeType
  icons := template.icons
  annotations := template.annotations
  arguments := template.arguments
  metadata := template.metadata

/-- What `prompts/list` publishes. -/
structure PromptDefinition where
  name : String
  title : Option String := none
  description : Option String := none
  icons : Option Json := none
  arguments : List PromptArgument := []
  metadata : Option Json := none
deriving DecidableEq

structure Prompt where
  name : String
  title : Option String := none
  description : Option String := none
  icons : Option Json := none
  arguments : List PromptArgument := []
  handler : ℕ
deriving DecidableEq

/-- The prompt definition for `prompts/list`. -/
def Prompt.definition (prompt : Prompt) : PromptDefinition where
  name := prompt.name
  title := prompt.title
  description := prompt.description
  icons := prompt.icons
  arguments := prompt.arguments
  metadata := none

/-! ## Errors -/

inductive McpErrorCode where
  | forbidden
  | missingRequiredClientCapability
deriving DecidableEq

def McpErrorCode.code : McpErrorCode → ℤ
  | .forbidden => -32007
  | .missingRequiredClientCapability => -32021

namespace JsonRpcError

def mcpError (code : McpErrorCode) (message : String) : JsonRpcError :=
  { code := code.code, message := message }

def forbidden (message : String) : JsonRpcError :=
  mcpError .forbidden message

def resourceNotFound (uri : String) : JsonRpcError :=
  (invalidParams ("Resource not found: " ++ uri)).withData (.object [("uri", .string uri)])

def missingRequiredClientCapability (requiredCapabilities : Json) : JsonRpcError :=
  { code := McpErrorCode.missingRequiredClientCapability.code
    message := "Client is missing a capability required by this request"
    data := some (.object [("requiredCapabilities", requiredCapabilities)]) }

end JsonRpcError

inductive Error where
  | jsonRpc (error : JsonRpcError)
  | serialization (message : String)
  | tool (message : String)
  | transport (message : String)
  | taskCancelled
  | sessionExpired
  | sseEventTooLarge (size limit : ℕ)
  | frameTooLarge (size limit : ℕ)
  | internal (message : String)
deriving DecidableEq

def Error.display : Error → String
  | .jsonRpc error =>
    "JSON-RPC error: " ++ (error.message ++ (" (code " ++ toString error.code ++ ")" ++
      match error.data with
      | some data => ": " ++ String.ofList data.compact
      | none => ""))
  | .serialization message => "Serialization error: " ++ message
  | .tool message => message
  | .transport message => "Transport error: " ++ message
  | .taskCancelled => "Task cancelled"
  | .sessionExpired => "Session expired"
  | .sseEventTooLarge size limit =>
    "SSE event too large: " ++ toString size ++ " bytes buffered, limit is " ++ toString limit ++
      " bytes"
  | .frameTooLarge size limit =>
    "frame too large: " ++ toString size ++ " bytes buffered, limit is " ++ toString limit ++
      " bytes"
  | .internal message => "Internal error: " ++ message

def toolNotFound (name : String) : Error :=
  .jsonRpc (.invalidParams ("Unknown tool: " ++ name))

def promptNotFound (name : String) : Error :=
  .jsonRpc (.invalidParams ("Prompt not found: " ++ name))

def resourceNotFound (uri : String) : Error :=
  .jsonRpc (.resourceNotFound uri)

def tasksClientCapabilities : Json :=
  .object [("extensions", .object [(tasksExtensionId, .object [])])]

/-! ## Requests and sessions -/

structure ClientCapabilities where
  extensions : Option (FinMap String Json) := none

structure StatelessRequestMeta where
  protocolVersion : Option String := none
  clientCapabilities : Option ClientCapabilities := none

/-- A type-keyed map of extensions: the two types the router reads itself, and the application's own
by the name of their type. -/
structure Extensions where
  statelessMeta : Option StatelessRequestMeta := none
  replayedFinalRequest : Bool := false
  values : FinMap String Json := ∅

def Extensions.merge (self other : Extensions) : Extensions where
  statelessMeta := other.statelessMeta.or self.statelessMeta
  replayedFinalRequest := other.replayedFinalRequest || self.replayedFinalRequest
  values := other.values ∪ self.values

def isFinalProtocolRequest (extensions : Extensions) : Bool :=
  extensions.replayedFinalRequest ||
    (extensions.statelessMeta.bind (·.protocolVersion)) == some protocolVersion20260728

def finalClientCapabilities (extensions : Extensions) : Option ClientCapabilities :=
  extensions.statelessMeta.bind (·.clientCapabilities)

def clientDeclaresTasks (extensions : Extensions) : Bool :=
  (finalClientCapabilities extensions).any fun capabilities =>
    capabilities.extensions.any fun declared => decide (tasksExtensionId ∈ declared)

inductive SessionPhase where
  | uninitialized
  | initializing
  | initialized
deriving DecidableEq

structure SessionState where
  phase : SessionPhase := .uninitialized
  handshakeStarted : Bool := false
  extensions : Extensions := {}

/-! ## Filters -/

/-- Capabilities that a filter can name. -/
class Filterable (α : Type) where
  name : α → String

instance : Filterable Tool := ⟨Tool.name⟩

instance : Filterable Resource := ⟨Resource.name⟩

instance : Filterable ResourceTemplate := ⟨ResourceTemplate.name⟩

instance : Filterable Prompt := ⟨Prompt.name⟩

inductive DenialBehavior where
  | notFound
  | unauthorized
  | custom (generate : String → Error)

def DenialBehavior.toError : DenialBehavior → String → Error
  | .notFound, name => .jsonRpc (.invalidParams ("Not found: " ++ name))
  | .unauthorized, name => .jsonRpc (.forbidden ("Unauthorized: " ++ name))
  | .custom generate, name => generate name

inductive CapabilityOperation where
  | list
  | access (target : String)

structure CapabilityFilterContext where
  session : SessionState
  extensions : Extensions
  operation : CapabilityOperation

def CapabilityFilterContext.new (session : SessionState)
    (routerExtensions requestExtensions : Extensions) (operation : CapabilityOperation) :
    CapabilityFilterContext :=
  { session, extensions := routerExtensions.merge requestExtensions, operation }

structure CapabilityFilter (α : Type) [Filterable α] where
  filter : CapabilityFilterContext → α → Bool
  denial : DenialBehavior := .notFound

namespace CapabilityFilter

variable {α : Type} [Filterable α]

def new (filter : SessionState → α → Bool) : CapabilityFilter α :=
  { filter := fun context capability => filter context.session capability }

def allowList (names : List String) : CapabilityFilter α :=
  new fun _ capability => names.contains (Filterable.name capability)

def denyList (names : List String) : CapabilityFilter α :=
  new fun _ capability => !names.contains (Filterable.name capability)

def isVisibleWithContext (self : CapabilityFilter α) (context : CapabilityFilterContext)
    (capability : α) : Bool :=
  self.filter context capability

def denialError (self : CapabilityFilter α) (name : String) : Error :=
  self.denial.toError name

def denialErrorOrNotFound (self : CapabilityFilter α) (name : String) (notFound : Unit → Error) :
    Error :=
  match self.denial with
  | .notFound => notFound ()
  | _ => self.denial.toError name

def SessionOnly (self : CapabilityFilter α) : Prop :=
  ∀ context context' capability, context.session = context'.session →
    self.filter context capability = self.filter context' capability

theorem session_only_new (filter : SessionState → α → Bool) : (new filter).SessionOnly := by
  intro context context' capability hsession
  show filter context.session capability = filter context'.session capability
  rw [hsession]

end CapabilityFilter

end TowerMcp
