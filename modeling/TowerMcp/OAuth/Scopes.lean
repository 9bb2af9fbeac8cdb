import TowerMcp.Router.Hidden
import TowerMcp.Router.TaskExecution

/-!
# Scopes of a token

The scope policy of `oauth/scope.rs` and the layer that enforces it in front of a router. The layer
decides by the type of the request: `tools/call`, `resources/read` and `prompts/get` need what is set
for the name or URI they ask for, and every other request needs the default alone.
-/

namespace TowerMcp

structure TokenClaims where
  sub : Option String := none
  scope : Option String := none
deriving DecidableEq

def splitWhitespace (text : String) : List String :=
  ((text.toList.splitOnP isWhitespace).filter fun part => !part.isEmpty).map String.ofList

def TokenClaims.scopes (claims : TokenClaims) : List String :=
  splitWhitespace (claims.scope.getD "")

inductive OAuthError where
  | insufficientScope (required provided : List String)
deriving DecidableEq

def OAuthError.display : OAuthError → String
  | .insufficientScope required provided =>
    "insufficient scope: required [" ++ ", ".intercalate required ++ "], provided [" ++
      ", ".intercalate provided ++ "]"

abbrev ScopeMatcher := String → String → Bool

def exactScopeMatcher : ScopeMatcher :=
  fun granted required => granted == required

structure ScopeRequirement where
  required : List String := []

def ScopeRequirement.checkWith (self : ScopeRequirement) (claims : TokenClaims)
    (scopeMatcher : ScopeMatcher) : Except OAuthError Unit :=
  if self.required.isEmpty then .ok ()
  else if self.required.all fun required =>
      claims.scopes.any fun granted => scopeMatcher granted required then .ok ()
  else .error (.insufficientScope self.required claims.scopes)

structure ScopePolicy where
  defaultScopes : ScopeRequirement := {}
  toolScopes : FinMap String ScopeRequirement := ∅
  resourceScopes : FinMap String ScopeRequirement := ∅
  promptScopes : FinMap String ScopeRequirement := ∅
  scopeMatcher : ScopeMatcher := exactScopeMatcher

namespace ScopePolicy

variable (self : ScopePolicy)

def checkDefault (claims : TokenClaims) : Except OAuthError Unit :=
  self.defaultScopes.checkWith claims self.scopeMatcher

def checkBoth (requirement : Option ScopeRequirement) (claims : TokenClaims) :
    Except OAuthError Unit := do
  self.defaultScopes.checkWith claims self.scopeMatcher
  match requirement with
  | some requirement => requirement.checkWith claims self.scopeMatcher
  | none => .ok ()

def checkTool (toolName : String) (claims : TokenClaims) : Except OAuthError Unit :=
  self.checkBoth (self.toolScopes.lookup toolName) claims

def checkResource (resourceUri : String) (claims : TokenClaims) : Except OAuthError Unit :=
  self.checkBoth (self.resourceScopes.lookup resourceUri) claims

def checkPrompt (promptName : String) (claims : TokenClaims) : Except OAuthError Unit :=
  self.checkBoth (self.promptScopes.lookup promptName) claims

end ScopePolicy

/-- A request, by what it does in the router: it accesses a capability, it is about tasks, or it runs
no handler of an item. -/
inductive ScopedRequest where
  | access (request : AccessRequest)
  | task (request : TaskRequest)
  | other

structure RequestExtensions where
  claims : Option TokenClaims := none
  values : Extensions := {}

structure RouterRequest where
  extensions : RequestExtensions := {}
  inner : ScopedRequest

structure ScopeEnforcementService where
  policy : ScopePolicy
  requireClaims : Bool := true

namespace ScopeEnforcementService

variable (self : ScopeEnforcementService)

def check (claims : TokenClaims) : ScopedRequest → Except OAuthError Unit
  | .access (.callTool params) => self.policy.checkTool params.name claims
  | .access (.readResource uri) => self.policy.checkResource uri claims
  | .access (.getPrompt params) => self.policy.checkPrompt params.name claims
  | _ => self.policy.checkDefault claims

def authorize (request : RouterRequest) : Except JsonRpcError Unit :=
  match request.extensions.claims with
  | none =>
    if self.requireClaims then .error (.forbidden "authenticated token claims are required")
    else .ok ()
  | some claims =>
    (self.check claims request.inner).mapError fun error => .forbidden error.display

end ScopeEnforcementService

/-! ## What a token is good for -/

inductive ProtectedItem where
  | tool (name : String)
  | resource (uri : String)
  | prompt (name : String)
deriving DecidableEq

def ScopePolicy.checkItem (self : ScopePolicy) (claims : TokenClaims) :
    ProtectedItem → Except OAuthError Unit
  | .tool name => self.checkTool name claims
  | .resource uri => self.checkResource uri claims
  | .prompt name => self.checkPrompt name claims

def AccessRequest.item : AccessRequest → Option ProtectedItem
  | .callTool params => some (.tool params.name)
  | .readResource uri | .subscribeResource uri | .unsubscribeResource uri => some (.resource uri)
  | .getPrompt params => some (.prompt params.name)
  | .complete (.prompt name) => some (.prompt name)
  | .complete (.resource uri) => some (.resource uri)
  | .complete .unsupported => none

def AccessRequest.checkedItem : AccessRequest → Option ProtectedItem
  | .callTool params => some (.tool params.name)
  | .readResource uri => some (.resource uri)
  | .getPrompt params => some (.prompt params.name)
  | _ => none

namespace ScopeEnforcementService

variable {self : ScopeEnforcementService}

/-- The claims satisfy the default requirement, and that of an item where one is given. A permissive
service asks nothing of a request without claims. -/
def Grants (self : ScopeEnforcementService) (claims : Option TokenClaims)
    (item : Option ProtectedItem) : Prop :=
  match claims with
  | none => self.requireClaims = false
  | some claims =>
    self.policy.checkDefault claims = .ok () ∧
      ∀ named, item = some named → self.policy.checkItem claims named = .ok ()

theorem Grants.default {claims : Option TokenClaims} {item : Option ProtectedItem}
    (h : self.Grants claims item) : self.Grants claims none := by
  cases claims with
  | none => exact h
  | some claims => exact ⟨h.1, nofun⟩

theorem check_default_of_check_both {policy : ScopePolicy} {claims : TokenClaims}
    {requirement : Option ScopeRequirement} (h : policy.checkBoth requirement claims = .ok ()) :
    policy.checkDefault claims = .ok () := by
  obtain ⟨passed, hdefault, -⟩ := Fallible.bind_eq_ok.1 h
  exact hdefault

theorem check_default_of_check_item {policy : ScopePolicy} {claims : TokenClaims}
    {item : ProtectedItem} (h : policy.checkItem claims item = .ok ()) :
    policy.checkDefault claims = .ok () := by
  cases item with
  | tool _ | resource _ | prompt _ => exact check_default_of_check_both h

theorem grants_of_authorized {extensions : RequestExtensions} {request : AccessRequest}
    (h : self.authorize ⟨extensions, .access request⟩ = .ok ()) :
    self.Grants extensions.claims request.checkedItem := by
  unfold authorize at h
  unfold Grants
  cases hclaims : extensions.claims with
  | none =>
    simp only [hclaims] at h ⊢
    cases hrequire : self.requireClaims with
    | false => rfl
    | true => simp [hrequire] at h
  | some claims =>
    simp only [hclaims] at h ⊢
    have hcheck := Fallible.map_error_eq_ok.1 h
    have hdefault : request.checkedItem = none → self.policy.checkDefault claims = .ok () := by
      cases request with
      | callTool _ | readResource _ | getPrompt _ => nofun
      | subscribeResource _ | unsubscribeResource _ | complete _ => exact fun _ => hcheck
    have hitem : ∀ named, request.checkedItem = some named →
        self.policy.checkItem claims named = .ok () := by
      intro named hnamed
      cases request with
      | callTool _ | readResource _ | getPrompt _ =>
        cases hnamed
        exact hcheck
      | subscribeResource _ | unsubscribeResource _ | complete _ => cases hnamed
    refine ⟨?_, hitem⟩
    cases hchecked : request.checkedItem with
    | none => exact hdefault hchecked
    | some named => exact check_default_of_check_item (hitem named hchecked)

theorem grants_of_authorized_task {extensions : RequestExtensions} {request : TaskRequest}
    (h : self.authorize ⟨extensions, .task request⟩ = .ok ()) :
    self.Grants extensions.claims none := by
  unfold authorize at h
  unfold Grants
  cases hclaims : extensions.claims with
  | none =>
    simp only [hclaims] at h ⊢
    cases hrequire : self.requireClaims with
    | false => rfl
    | true => simp [hrequire] at h
  | some claims =>
    simp only [hclaims] at h ⊢
    exact ⟨Fallible.map_error_eq_ok.1 h, nofun⟩

end ScopeEnforcementService

end TowerMcp
