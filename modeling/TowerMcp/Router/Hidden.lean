import TowerMcp.Router.Agreement

/-!
# Accesses to hidden capabilities

The access methods look their target up, ask the filter about what they found, and refuse it in the
words of the filter or in their own words for a target that is not there. A registration that the
filter hides keeps its place: what lies under it stays out of reach. So a hidden target and an absent
one are answered alike, by the methods that use their own words, where removing the registration
uncovers nothing that the filters show.
-/

namespace TowerMcp

inductive CompletionReference where
  | prompt (name : String)
  | resource (uri : String)
  | unsupported

inductive Registration where
  | staticTool (name : String)
  | dynamicTool (name : String)
  | staticResource (uri : String)
  | dynamicResource (uri : String)
  | staticTemplate (index : ℕ)
  | dynamicTemplate (index : ℕ)
  | staticPrompt (name : String)
  | dynamicPrompt (name : String)
deriving DecidableEq

inductive Capability where
  | tool (tool : Tool)
  | resource (resource : Resource)
  | template (template : ResourceTemplate)
  | prompt (prompt : Prompt)

inductive AccessRequest where
  | callTool (params : McpRouter.CallToolParams)
  | readResource (uri : String)
  | subscribeResource (uri : String)
  | unsubscribeResource (uri : String)
  | getPrompt (params : McpRouter.GetPromptParams)
  | complete (reference : CompletionReference)

namespace AccessRequest

def target : AccessRequest → String
  | .callTool params => params.name
  | .readResource uri | .subscribeResource uri | .unsubscribeResource uri => uri
  | .getPrompt params => params.name
  | .complete (.prompt name) => name
  | .complete (.resource uri) => uri
  | .complete .unsupported => ""

def notFound : AccessRequest → Error
  | .callTool params => toolNotFound params.name
  | .readResource uri | .subscribeResource uri | .unsubscribeResource uri => resourceNotFound uri
  | .getPrompt params => promptNotFound params.name
  | .complete (.prompt name) => promptNotFound name
  | .complete (.resource uri) => resourceNotFound uri
  | .complete .unsupported => .jsonRpc (.invalidParams "Unsupported completion reference")

def filterWords : AccessRequest → Bool
  | .readResource _ | .subscribeResource _ | .unsubscribeResource _ => true
  | .callTool _ | .getPrompt _ | .complete _ => false

def refusal (request : AccessRequest) (denial : DenialBehavior) : Error :=
  if request.filterWords then denial.toError request.target
  else
    match denial with
    | .notFound => request.notFound
    | _ => denial.toError request.target

def looksUp (completionHandler : Option ℕ) : AccessRequest → Bool
  | .complete _ => completionHandler.isSome
  | _ => true

end AccessRequest

inductive Reached where
  | tool (tool : Tool) (ttl : Option (Option ℕ))
  | read (target : McpRouter.ReadTarget)
  | subscribed (uri : String)
  | unsubscribed (uri : String)
  | prompt (prompt : Prompt)
  | completion (handler : Option ℕ)

namespace McpRouter

variable (router : McpRouter)

/-! ## Access methods -/

def authorizeCompletionResourceTemplate (context : CapabilityFilterContext)
    (template : ResourceTemplate) (target : String) : Except Error Unit :=
  match router.resourceTemplateFilter with
  | some filter =>
    if !filter.isVisibleWithContext context template then
      .error (filter.denialErrorOrNotFound target fun _ => resourceNotFound target)
    else .ok ()
  | none =>
    match router.resourceFilter with
    | some filter =>
      .error (filter.denialErrorOrNotFound target fun _ => resourceNotFound target)
    | none => .ok ()

def authorizeStaticResourceSubscription (requestExtensions : Extensions) (uri : String) :
    Except Error Unit :=
  if uri ∈ router.disabledResources then .error (resourceNotFound uri)
  else
    match router.resources.get uri with
    | none => .error (resourceNotFound uri)
    | some resource =>
      let context := router.capabilityFilterContext requestExtensions (.access uri)
      match router.resourceFilter.filter fun f => !f.isVisibleWithContext context resource with
      | some filter => .error (filter.denialError uri)
      | none => .ok ()

def authorizeCompletionResource (context : CapabilityFilterContext) (uri : String)
    (resource : Resource) : Except Error Unit :=
  match router.resourceFilter.filter fun f => !f.isVisibleWithContext context resource with
  | some filter => .error (filter.denialErrorOrNotFound uri fun _ => resourceNotFound uri)
  | none => .ok ()

def authorizeCompletionPrompt (requestExtensions : Extensions) (name : String) :
    Except Error Unit :=
  if name ∈ router.disabledPrompts then .error (promptNotFound name)
  else
    match router.findPrompt name with
    | none => .error (promptNotFound name)
    | some prompt =>
      let context := router.capabilityFilterContext requestExtensions (.access name)
      match router.promptFilter.filter fun f => !f.isVisibleWithContext context prompt with
      | some filter => .error (filter.denialErrorOrNotFound name fun _ => promptNotFound name)
      | none => .ok ()

def authorizeCompletionReference (requestExtensions : Extensions) :
    CompletionReference → Except Error Unit
  | .prompt name => do
    let router ← router.initializePrompts
    router.authorizeCompletionPrompt requestExtensions name
  | .resource uri =>
    if uri ∈ router.disabledResources then .error (resourceNotFound uri)
    else
      let context := router.capabilityFilterContext requestExtensions (.access uri)
      let dynamicTemplates := router.dynamicResourceTemplates.getD []
      match router.resources.get uri with
      | some resource => router.authorizeCompletionResource context uri resource
      | none =>
        match router.dynamicResources.bind (·.get uri) with
        | some resource => router.authorizeCompletionResource context uri resource
        | none =>
          match ((router.resourceTemplates.find? (·.uriTemplate = uri)).or
              (dynamicTemplates.find? (·.uriTemplate = uri))).or
            ((router.resourceTemplates.find? fun t => (t.matchUri uri).isSome).or
              (dynamicTemplates.find? fun t => (t.matchUri uri).isSome)) with
          | some template =>
            router.authorizeCompletionResourceTemplate context template uri
          | none => .error (resourceNotFound uri)
  | .unsupported => .error (.jsonRpc (.invalidParams "Unsupported completion reference"))

def answer (completionHandler : Option ℕ) (extensions : Extensions) :
    AccessRequest → Except Error Reached
  | .callTool params =>
    (router.callTool extensions params).map fun (tool, ttl) => .tool tool ttl
  | .readResource uri => (router.readResource extensions uri).map .read
  | .subscribeResource uri =>
    (router.authorizeStaticResourceSubscription extensions uri).map fun _ => .subscribed uri
  | .unsubscribeResource uri =>
    (router.authorizeStaticResourceSubscription extensions uri).map fun _ => .unsubscribed uri
  | .getPrompt params => (router.getPrompt extensions params).map .prompt
  | .complete reference =>
    match completionHandler with
    | some handler =>
      (router.authorizeCompletionReference extensions reference).map fun _ =>
        .completion (some handler)
    | none => .ok (.completion none)

/-! ## Registrations -/

def remove : Registration → McpRouter
  | .staticTool name => { router with tools := router.tools.unregister name }
  | .dynamicTool name =>
    { router with dynamicTools := router.dynamicTools.map (·.unregister name) }
  | .staticResource uri => { router with resources := router.resources.unregister uri }
  | .dynamicResource uri =>
    { router with dynamicResources := router.dynamicResources.map (·.unregister uri) }
  | .staticTemplate index =>
    { router with resourceTemplates := router.resourceTemplates.eraseIdx index }
  | .dynamicTemplate index =>
    { router with
      dynamicResourceTemplates := router.dynamicResourceTemplates.map (·.eraseIdx index) }
  | .staticPrompt name => { router with prompts := router.prompts.unregister name }
  | .dynamicPrompt name =>
    { router with dynamicPrompts := router.dynamicPrompts.map (·.unregister name) }

/-- The first template that satisfies `p`, with its place. -/
def firstTemplate (p : ResourceTemplate → Bool) (templates : List ResourceTemplate) :
    Option (ℕ × ResourceTemplate) :=
  (templates.findIdx? p).bind fun index => templates[index]?.map fun template => (index, template)

/-- The first template that satisfies `p`, the static ones first. -/
def findTemplate (p : ResourceTemplate → Bool) : Option (Registration × Capability) :=
  ((firstTemplate p router.resourceTemplates).map fun (index, template) =>
      (.staticTemplate index, .template template)).or
    ((firstTemplate p (router.dynamicResourceTemplates.getD [])).map fun (index, template) =>
      (.dynamicTemplate index, .template template))

def findResource (uri : String) : Option (Registration × Capability) :=
  ((router.resources.get uri).map fun resource =>
      (.staticResource uri, .resource resource)).or
    ((router.dynamicResources.bind (·.get uri)).map fun resource =>
      (.dynamicResource uri, .resource resource))

def promptRegistration (name : String) : Option (Registration × Capability) :=
  ((router.prompts.get name).map fun prompt => (.staticPrompt name, .prompt prompt)).or
    ((router.dynamicPrompts.bind (·.get name)).map fun prompt =>
      (.dynamicPrompt name, .prompt prompt))

def registration : AccessRequest → Option (Registration × Capability)
  | .callTool params =>
    ((router.tools.get params.name).map fun tool =>
        (.staticTool params.name, .tool tool)).or
      ((router.dynamicTools.bind (·.get params.name)).map fun tool =>
        (.dynamicTool params.name, .tool tool))
  | .readResource uri =>
    (router.findResource uri).or (router.findTemplate fun t => (t.matchUri uri).isSome)
  | .subscribeResource uri | .unsubscribeResource uri =>
    (router.resources.get uri).map fun resource => (.staticResource uri, .resource resource)
  | .getPrompt params => router.promptRegistration params.name
  | .complete (.prompt name) => router.promptRegistration name
  | .complete (.resource uri) =>
    ((router.findResource uri).or (router.findTemplate fun t => decide (t.uriTemplate = uri))).or
      (router.findTemplate fun t => (t.matchUri uri).isSome)
  | .complete .unsupported => none

def denial (context : CapabilityFilterContext) : Capability → Option DenialBehavior
  | .tool tool =>
    (router.toolFilter.filter fun f => !f.isVisibleWithContext context tool).map (·.denial)
  | .resource resource =>
    (router.resourceFilter.filter fun f => !f.isVisibleWithContext context resource).map
      (·.denial)
  | .template template =>
    match router.resourceTemplateFilter with
    | some filter =>
      if filter.isVisibleWithContext context template then none else some filter.denial
    | none => router.resourceFilter.map (·.denial)
  | .prompt prompt =>
    (router.promptFilter.filter fun f => !f.isVisibleWithContext context prompt).map (·.denial)

def accessContext (extensions : Extensions) (request : AccessRequest) : CapabilityFilterContext :=
  router.capabilityFilterContext extensions (.access request.target)

def ready (completionHandler : Option ℕ) : AccessRequest → Except Error McpRouter
  | .getPrompt _ => do
    let router ← router.initializePrompts
    pure { router with promptInitializer := none }
  | .complete (.prompt _) =>
    if completionHandler.isSome then do
      let router ← router.initializePrompts
      pure { router with promptInitializer := none }
    else .ok router
  | _ => .ok router

def answerWithout (registration : Registration) (completionHandler : Option ℕ)
    (extensions : Extensions) (request : AccessRequest) : Except Error Reached := do
  let ready ← router.ready completionHandler request
  (ready.remove registration).answer completionHandler extensions request

structure DefaultDenial : Prop where
  tools : ∀ filter, router.toolFilter = some filter → filter.denial = .notFound
  resources : ∀ filter, router.resourceFilter = some filter → filter.denial = .notFound
  templates : ∀ filter, router.resourceTemplateFilter = some filter → filter.denial = .notFound
  prompts : ∀ filter, router.promptFilter = some filter → filter.denial = .notFound

/-- The request comes to a registration that a filter hides, and without that registration to
nothing that the filters show. -/
structure Concealed (extensions : Extensions) (request : AccessRequest)
    (registration : Registration) : Prop where
  hidden : ∃ capability, router.registration request = some (registration, capability) ∧
    (router.denial (router.accessContext extensions request) capability).isSome
  uncovered : ∀ next capability,
    (router.remove registration).registration request = some (next, capability) →
      (router.denial (router.accessContext extensions request) capability).isSome

/-! ## What a request comes to -/

variable {router : McpRouter} {completionHandler : Option ℕ} {extensions : Extensions}
  {request : AccessRequest}

theorem map_first_template (p : ResourceTemplate → Bool) (templates : List ResourceTemplate) :
    (firstTemplate p templates).map (·.2) = templates.find? p := by
  unfold firstTemplate
  induction templates with
  | nil => rfl
  | cons template rest ih =>
    rw [List.findIdx?_cons, List.find?_cons]
    cases htemplate : p template with
    | true => simp
    | false =>
      rw [← ih]
      cases hfound : rest.findIdx? p with
      | none => simp
      | some index => cases hget : rest[index]? <;> simp [hget]

theorem map_match_template (templates : List ResourceTemplate) (uri : String) :
    (matchTemplate templates uri).map (·.1) = templates.find? fun t => (t.matchUri uri).isSome := by
  unfold matchTemplate
  induction templates with
  | nil => rfl
  | cons template rest ih =>
    rw [List.findSome?_cons, List.find?_cons, ← ih]
    cases hmatch : template.matchUri uri <;> simp

def ReadTarget.capability : ReadTarget → Capability
  | .resource held => .resource held
  | .template held _ => .template held

def accessed (router : McpRouter) (request : AccessRequest) : Option Capability :=
  (router.registration request).map (·.2)

theorem map_find_template (p : ResourceTemplate → Bool) :
    (router.findTemplate p).map (·.2) =
      ((router.resourceTemplates.find? p).or
        ((router.dynamicResourceTemplates.getD []).find? p)).map .template := by
  rw [← map_first_template, ← map_first_template]
  unfold findTemplate
  cases firstTemplate p router.resourceTemplates with
  | none => cases firstTemplate p (router.dynamicResourceTemplates.getD []) <;> rfl
  | some found => rfl

theorem map_or_snd {α : Type} (upper lower : Registration) (capability : α → Capability)
    (first second : Option α) :
    ((first.map fun a => (upper, capability a)).or (second.map fun a => (lower, capability a))).map
      (·.2) = (first.or second).map capability := by
  cases first with
  | none => cases second <;> rfl
  | some a => rfl

theorem map_find_resource (uri : String) :
    (router.findResource uri).map (·.2) =
      ((router.resources.get uri).or (router.dynamicResources.bind (·.get uri))).map .resource :=
  map_or_snd _ _ _ _ _

theorem map_prompt_registration (name : String) :
    (router.promptRegistration name).map (·.2) = (router.findPrompt name).map .prompt :=
  map_or_snd _ _ _ _ _

theorem accessed_call_tool (params : CallToolParams) :
    router.accessed (.callTool params) = (router.findTool params.name).map .tool :=
  map_or_snd _ _ _ _ _

theorem accessed_read_resource (uri : String) :
    router.accessed (.readResource uri) =
      (((router.resources.get uri).or (router.dynamicResources.bind (·.get uri))).map
          Capability.resource).or
        (((router.resourceTemplates.find? fun t => (t.matchUri uri).isSome).or
          ((router.dynamicResourceTemplates.getD []).find? fun t =>
            (t.matchUri uri).isSome)).map Capability.template) := by
  unfold accessed registration
  rw [Option.map_or, map_find_resource, map_find_template]

theorem accessed_complete_resource (uri : String) :
    router.accessed (.complete (.resource uri)) =
      ((((router.resources.get uri).or (router.dynamicResources.bind (·.get uri))).map
          Capability.resource).or
        (((router.resourceTemplates.find? (·.uriTemplate = uri)).or
          ((router.dynamicResourceTemplates.getD []).find? (·.uriTemplate = uri))).map
            Capability.template)).or
        (((router.resourceTemplates.find? fun t => (t.matchUri uri).isSome).or
          ((router.dynamicResourceTemplates.getD []).find? fun t =>
            (t.matchUri uri).isSome)).map Capability.template) := by
  unfold accessed registration
  rw [Option.map_or, Option.map_or, map_find_resource, map_find_template, map_find_template]

theorem accessed_subscription (uri : String) :
    router.accessed (.subscribeResource uri) = (router.resources.get uri).map .resource := by
  show Option.map _ (Option.map _ _) = _
  rw [Option.map_map]
  rfl

theorem accessed_complete_prompt (name : String) :
    router.accessed (.complete (.prompt name)) = (router.findPrompt name).map .prompt :=
  map_prompt_registration name

/-! ## The answer to a request that finds nothing -/

def disables (router : McpRouter) : AccessRequest → Bool
  | .callTool params => decide (params.name ∈ router.disabledTools)
  | .readResource uri | .subscribeResource uri | .unsubscribeResource uri =>
    decide (uri ∈ router.disabledResources)
  | .getPrompt params => decide (params.name ∈ router.disabledPrompts)
  | .complete (.prompt name) => decide (name ∈ router.disabledPrompts)
  | .complete (.resource uri) => decide (uri ∈ router.disabledResources)
  | .complete .unsupported => false

def resolve (router : McpRouter) (completionHandler : Option ℕ) (extensions : Extensions) :
    AccessRequest → Except Error Reached
  | .getPrompt params => (router.resolvePrompt extensions params).map .prompt
  | .complete (.prompt name) =>
    match completionHandler with
    | some handler =>
      (router.authorizeCompletionPrompt extensions name).map fun _ =>
        .completion (some handler)
    | none => .ok (.completion none)
  | request => router.answer completionHandler extensions request

theorem answer_eq :
    router.answer completionHandler extensions request =
      (router.ready completionHandler request >>= fun ready =>
        ready.resolve completionHandler extensions request) := by
  cases request with
  | getPrompt params =>
    show (router.initializePrompts >>= _).map _ = _
    unfold ready
    cases router.initializePrompts <;> rfl
  | complete reference =>
    cases reference with
    | prompt name =>
      cases completionHandler with
      | none => rfl
      | some handler =>
        show (router.initializePrompts >>= _).map _ = _
        unfold ready
        cases router.initializePrompts <;> rfl
    | resource uri => rfl
    | unsupported => rfl
  | _ => rfl

theorem ready_of_none (hnone : router.promptInitializer = none) :
    router.ready completionHandler request = .ok router := by
  have hpopulated : router.initializePrompts = .ok router := by
    unfold initializePrompts
    rw [hnone]
  have hself : { router with promptInitializer := none } = router := by
    cases router
    cases hnone
    rfl
  unfold ready
  split
  · rw [hpopulated, Fallible.ok_bind, hself]
    rfl
  · rw [hpopulated, Fallible.ok_bind, hself]
    split <;> rfl
  · rfl

theorem ready_cases {ready : McpRouter} (h : router.ready completionHandler request = .ok ready) :
    (ready.promptInitializer = none ∧
        ∃ populated, ready = { router with
          dynamicPrompts := populated, promptInitializer := none }) ∨
      (ready = router ∧ ∀ other : McpRouter, other.ready completionHandler request = .ok other) := by
  have hpopulated : (do
        let router ← router.initializePrompts
        pure { router with promptInitializer := none }) = .ok ready →
      ready.promptInitializer = none ∧
        ∃ populated, ready = { router with
          dynamicPrompts := populated, promptInitializer := none } := by
    intro h
    obtain ⟨populated, hinit, hready⟩ := Fallible.bind_eq_ok.1 h
    cases hready
    refine ⟨rfl, ?_⟩
    unfold initializePrompts at hinit
    split at hinit
    · cases hinit
      exact ⟨_, rfl⟩
    · obtain ⟨dynamic, -, hinit⟩ := Fallible.bind_eq_ok.1 hinit
      cases hinit
      exact ⟨_, rfl⟩
  unfold McpRouter.ready at h
  split at h
  · exact .inl (hpopulated h)
  · split at h
    · exact .inl (hpopulated h)
    · next hhandler =>
        cases h
        refine .inr ⟨rfl, fun other => ?_⟩
        unfold McpRouter.ready
        rw [if_neg hhandler]
  · next hprompt hreference =>
      cases h
      refine .inr ⟨rfl, fun other => ?_⟩
      unfold McpRouter.ready
      split
      · exact absurd rfl (hprompt _)
      · exact absurd rfl (hreference _)
      · rfl

def refused (router : McpRouter) (extensions : Extensions) (request : AccessRequest) :
    Option Error :=
  if router.disables request then some request.notFound
  else
    match router.accessed request with
    | none => some request.notFound
    | some capability =>
      (router.denial (router.accessContext extensions request) capability).map request.refusal

theorem denial_error_or_not_found (request : AccessRequest) {α : Type} [Filterable α]
    (filter : CapabilityFilter α) (hwords : request.filterWords = false) :
    filter.denialErrorOrNotFound request.target (fun _ => request.notFound) =
      request.refusal filter.denial := by
  unfold CapabilityFilter.denialErrorOrNotFound AccessRequest.refusal
  rw [hwords]
  cases filter.denial <;> rfl

variable {e : Error}

/-- A method answers with the refusal of the request or, where there is none, as granted. -/
def Gated {β : Type} (refusal : Option Error) (granted : Except Error β → Prop)
    (answer : Except Error β) : Prop :=
  match refusal with
  | some e => answer = .error e
  | none => granted answer

section Gates

variable {β : Type} {granted : Except Error β → Prop} {answer : Except Error β}
  {denied : Option DenialBehavior} {refusal : Option Error}

theorem Gated.of_some (h : Gated refusal granted answer) (hrefused : refusal = some e) :
    answer = .error e := by
  rw [hrefused] at h
  exact h

theorem Gated.of_none (h : Gated refusal granted answer) (hnone : refusal = none) :
    granted answer := by
  rw [hnone] at h
  exact h

theorem Gated.mono {weaker : Except Error β → Prop} (h : Gated refusal granted answer)
    (hweaker : ∀ answer, granted answer → weaker answer) : Gated refusal weaker answer := by
  cases refusal with
  | some e => exact h
  | none => exact hweaker answer h

theorem Gated.bind {answer : Except Error Unit} (h : Gated refusal (· = .ok ()) answer) (b : β) :
    Gated refusal (· = .ok b) (answer >>= fun _ => pure b) := by
  cases refusal with
  | some e =>
    rw [h.of_some rfl]
    rfl
  | none =>
    rw [h.of_none rfl]
    rfl

theorem gated_denied {α : Type} [Filterable α] {held : Option (CapabilityFilter α)}
    {filter : CapabilityFilter α} {words : Error} (hheld : held = some filter)
    (hdenied : denied = held.map (·.denial)) (hwords : words = request.refusal filter.denial) :
    Gated (denied.map request.refusal) granted (.error words) := by
  rw [hdenied, hheld, hwords]
  rfl

theorem gated_shown {α : Type} [Filterable α] {held : Option (CapabilityFilter α)}
    (hheld : held = none) (hdenied : denied = held.map (·.denial)) (hgranted : granted answer) :
    Gated (denied.map request.refusal) granted answer := by
  rw [hdenied, hheld]
  exact hgranted

theorem gated_enabled {disabled : Prop} [Decidable disabled]
    (hdisabled : router.disables request = decide disabled)
    (h : Gated (match router.accessed request with
      | none => some request.notFound
      | some capability =>
        (router.denial (router.accessContext extensions request) capability).map request.refusal)
      granted answer) :
    Gated (router.refused extensions request) granted
      (if disabled then .error request.notFound else answer) := by
  unfold refused
  rw [hdisabled]
  by_cases hdis : disabled
  · rw [if_pos hdis, if_pos (decide_eq_true hdis)]
    rfl
  · rw [if_neg hdis, if_neg (mt of_decide_eq_true hdis)]
    exact h

theorem gated_found {α : Type} {found : Option α} {wrap : α → Capability} {disabled : Prop}
    [Decidable disabled] (hdisabled : router.disables request = decide disabled)
    (hfound : router.accessed request = found.map wrap)
    (hnone : found = none → answer = .error request.notFound)
    (hsome : ∀ a, found = some a →
      Gated ((router.denial (router.accessContext extensions request) (wrap a)).map
        request.refusal) granted answer) :
    Gated (router.refused extensions request) granted
      (if disabled then .error request.notFound else answer) := by
  refine gated_enabled hdisabled ?_
  rw [hfound]
  cases found with
  | none => exact hnone rfl
  | some a => exact hsome a rfl

theorem call_tool_gated (params : CallToolParams) :
    Gated (router.refused extensions (.callTool params)) (fun _ => True)
      (router.callTool extensions params) := by
  refine gated_found rfl (accessed_call_tool params) (fun hnone => ?_) fun tool htool => ?_
  · rw [hnone]
    rfl
  · rw [htool]
    dsimp only
    split
    next filter hfilter =>
      exact gated_denied hfilter rfl (denial_error_or_not_found (.callTool params) filter rfl)
    next hshown => exact gated_shown hshown rfl trivial

theorem authorize_prompt_gated (name : String) :
    Gated (router.refused extensions (.complete (.prompt name))) (· = .ok ())
      (router.authorizeCompletionPrompt extensions name) := by
  refine gated_found rfl (accessed_complete_prompt name) (fun hnone => ?_) fun prompt hprompt => ?_
  · rw [hnone]
    rfl
  · rw [hprompt]
    dsimp only
    split
    next filter hfilter =>
      exact gated_denied hfilter rfl
        (denial_error_or_not_found (.complete (.prompt name)) filter rfl)
    next hshown => exact gated_shown hshown rfl rfl

theorem resolve_prompt_gated (params : GetPromptParams) :
    Gated (router.refused extensions (.getPrompt params))
      (fun answer => ∃ prompt, router.findPrompt params.name = some prompt ∧
        (missingRequiredArguments prompt.arguments params.arguments = [] → answer = .ok prompt))
      (router.resolvePrompt extensions params) := by
  refine gated_found rfl (map_prompt_registration params.name) (fun hnone => ?_)
    fun prompt hprompt => ?_
  · rw [hnone]
    rfl
  · rw [hprompt]
    dsimp only
    split
    next filter hfilter =>
      exact gated_denied hfilter rfl (denial_error_or_not_found (.getPrompt params) filter rfl)
    next hshown =>
      exact gated_shown hshown rfl ⟨prompt, rfl, fun hsupplied => if_neg (not_not.2 hsupplied)⟩

theorem authorize_subscription_gated (uri : String) :
    Gated (router.refused extensions (.subscribeResource uri)) (fun _ => True)
      (router.authorizeStaticResourceSubscription extensions uri) := by
  refine gated_found rfl (accessed_subscription uri) (fun hnone => ?_) fun resource hresource => ?_
  · rw [hnone]
    rfl
  · rw [hresource]
    dsimp only
    split
    next filter hfilter => exact gated_denied hfilter rfl rfl
    next hshown => exact gated_shown hshown rfl trivial

theorem map_matched_template (uri : String) :
    ((matchTemplate router.resourceTemplates uri).or
        (router.dynamicResourceTemplates.bind (matchTemplate · uri))).map (·.1) =
      (router.resourceTemplates.find? fun t => (t.matchUri uri).isSome).or
        ((router.dynamicResourceTemplates.getD []).find? fun t => (t.matchUri uri).isSome) := by
  rw [Option.map_or, map_match_template]
  cases router.dynamicResourceTemplates with
  | none => rfl
  | some templates => exact congrArg _ (map_match_template templates uri)

variable {context : CapabilityFilterContext} {template : ResourceTemplate} {uri : String}

theorem authorize_resource_gated (resource : Resource) :
    Gated ((router.denial context (.resource resource)).map (AccessRequest.readResource uri).refusal)
      (· = .ok (.resource resource)) (router.authorizeResource context uri resource) := by
  unfold authorizeResource
  split
  next filter hfilter => exact gated_denied hfilter rfl rfl
  next hshown => exact gated_shown hshown rfl rfl

theorem authorize_completion_resource_gated (resource : Resource) :
    Gated ((router.denial context (.resource resource)).map
        (AccessRequest.complete (.resource uri)).refusal) (· = .ok ())
      (router.authorizeCompletionResource context uri resource) := by
  unfold authorizeCompletionResource
  split
  next filter hfilter =>
    exact gated_denied hfilter rfl
      (denial_error_or_not_found (.complete (.resource uri)) filter rfl)
  next hshown => exact gated_shown hshown rfl rfl

theorem authorize_template_gated :
    Gated ((router.denial context (.template template)).map (AccessRequest.readResource uri).refusal)
      (· = .ok ()) (router.authorizeResourceTemplate context template uri) := by
  unfold McpRouter.denial authorizeResourceTemplate
  dsimp only
  cases router.resourceTemplateFilter with
  | some filter =>
    dsimp only
    cases filter.isVisibleWithContext context template <;> rfl
  | none => cases router.resourceFilter <;> rfl

theorem authorize_completion_template_gated :
    Gated ((router.denial context (.template template)).map
        (AccessRequest.complete (.resource uri)).refusal) (· = .ok ())
      (router.authorizeCompletionResourceTemplate context template uri) := by
  have hwords {α : Type} [Filterable α] (filter : CapabilityFilter α) :=
    denial_error_or_not_found (.complete (.resource uri)) filter rfl
  unfold McpRouter.denial authorizeCompletionResourceTemplate
  dsimp only
  cases router.resourceTemplateFilter with
  | some filter =>
    dsimp only
    cases filter.isVisibleWithContext context template with
    | true => rfl
    | false => exact congrArg Except.error (hwords filter)
  | none =>
    cases router.resourceFilter with
    | some filter => exact congrArg Except.error (hwords filter)
    | none => rfl

theorem read_resource_gated (uri : String) :
    Gated (router.refused extensions (.readResource uri))
      (fun answer => ∃ target, answer = .ok target ∧
        router.accessed (.readResource uri) = some target.capability)
      (router.readResource extensions uri) := by
  refine gated_enabled rfl ?_
  rw [accessed_read_resource, ← map_matched_template]
  cases router.resources.get uri with
  | some resource => exact (authorize_resource_gated resource).mono fun _ h => ⟨_, h, rfl⟩
  | none =>
    cases router.dynamicResources.bind (·.get uri) with
    | some resource => exact (authorize_resource_gated resource).mono fun _ h => ⟨_, h, rfl⟩
    | none =>
      cases (matchTemplate router.resourceTemplates uri).or
          (router.dynamicResourceTemplates.bind (matchTemplate · uri)) with
      | none => rfl
      | some found =>
        obtain ⟨template, bound⟩ := found
        exact (authorize_template_gated.bind (ReadTarget.template template bound)).mono
          fun _ h => ⟨_, h, rfl⟩

theorem authorize_completion_uri_gated (uri : String) :
    Gated (router.refused extensions (.complete (.resource uri))) (· = .ok ())
      (router.authorizeCompletionReference extensions (.resource uri)) := by
  refine gated_enabled rfl ?_
  rw [accessed_complete_resource, Option.or_assoc, ← Option.map_or]
  cases router.resources.get uri with
  | some resource => exact authorize_completion_resource_gated resource
  | none =>
    dsimp only
    cases router.dynamicResources.bind (·.get uri) with
    | some resource => exact authorize_completion_resource_gated resource
    | none =>
      rw [Option.or_none, Option.map_none, Option.none_or]
      generalize Option.or (Option.or _ _) _ = found
      cases found with
      | some template => exact authorize_completion_template_gated
      | none => rfl

end Gates

theorem resolve_of_refused (hlooks : request.looksUp completionHandler = true)
    (h : router.refused extensions request = some e) :
    router.resolve completionHandler extensions request = .error e := by
  cases request with
  | callTool params =>
    show (router.callTool extensions params).map _ = _
    rw [(call_tool_gated params).of_some h]
    rfl
  | readResource uri =>
    show (router.readResource extensions uri).map _ = _
    rw [(read_resource_gated uri).of_some h]
    rfl
  | subscribeResource uri =>
    show (router.authorizeStaticResourceSubscription extensions uri).map _ = _
    rw [(authorize_subscription_gated uri).of_some h]
    rfl
  | unsubscribeResource uri =>
    show (router.authorizeStaticResourceSubscription extensions uri).map _ = _
    rw [(authorize_subscription_gated uri).of_some h]
    rfl
  | getPrompt params =>
    show (router.resolvePrompt extensions params).map _ = _
    rw [(resolve_prompt_gated params).of_some h]
    rfl
  | complete reference =>
    obtain ⟨handler, rfl⟩ := Option.isSome_iff_exists.1 hlooks
    cases reference with
    | prompt name =>
      show (router.authorizeCompletionPrompt extensions name).map _ = _
      rw [(authorize_prompt_gated name).of_some h]
      rfl
    | resource uri =>
      show (router.authorizeCompletionReference extensions (.resource uri)).map _ = _
      rw [(authorize_completion_uri_gated uri).of_some h]
      rfl
    | unsupported =>
      cases h
      rfl

theorem resolve_of_not_looks_up (hlooks : request.looksUp completionHandler = false) :
    router.resolve completionHandler extensions request = .ok (.completion none) := by
  cases request with
  | complete reference =>
    cases completionHandler with
    | some handler => cases hlooks
    | none => cases reference <;> rfl
  | _ => cases hlooks

/-! ## Hidden registrations -/

variable {registration : Registration} {context : CapabilityFilterContext}
  {denial : DenialBehavior} {template : ResourceTemplate}

theorem template_denial_cases (h : router.denial context (.template template) = some denial) :
    (∃ filter, router.resourceTemplateFilter = some filter ∧
        filter.isVisibleWithContext context template = false ∧ filter.denial = denial) ∨
      (router.resourceTemplateFilter = none ∧
        ∃ filter, router.resourceFilter = some filter ∧ filter.denial = denial) := by
  unfold McpRouter.denial at h
  dsimp only at h
  split at h
  · next filter hfilter =>
      split at h
      · cases h
      · next hhidden =>
          exact .inl ⟨filter, hfilter, Bool.eq_false_iff.2 hhidden, Option.some.inj h⟩
  · next hnone => exact .inr ⟨hnone, Option.map_eq_some_iff.1 h⟩

theorem DefaultDenial.not_found (hdefault : router.DefaultDenial) {capability : Capability}
    (h : router.denial context capability = some denial) : denial = .notFound := by
  cases capability with
  | tool tool =>
    obtain ⟨filter, hfilter, rfl⟩ := Option.map_eq_some_iff.1 h
    exact hdefault.tools filter (Option.filter_eq_some_iff.1 hfilter).1
  | resource resource =>
    obtain ⟨filter, hfilter, rfl⟩ := Option.map_eq_some_iff.1 h
    exact hdefault.resources filter (Option.filter_eq_some_iff.1 hfilter).1
  | template template =>
    obtain ⟨filter, hfilter, -, rfl⟩ | ⟨-, filter, hfilter, rfl⟩ := template_denial_cases h
    · exact hdefault.templates filter hfilter
    · exact hdefault.resources filter hfilter
  | prompt prompt =>
    obtain ⟨filter, hfilter, rfl⟩ := Option.map_eq_some_iff.1 h
    exact hdefault.prompts filter (Option.filter_eq_some_iff.1 hfilter).1

theorem DefaultDenial.remove (hdefault : router.DefaultDenial) (registration : Registration) :
    (router.remove registration).DefaultDenial := by
  cases registration <;> exact ⟨hdefault.tools, hdefault.resources, hdefault.templates,
    hdefault.prompts⟩

theorem DefaultDenial.ready (hdefault : router.DefaultDenial) {ready : McpRouter}
    (h : router.ready completionHandler request = .ok ready) : ready.DefaultDenial := by
  obtain ⟨-, populated, rfl⟩ | ⟨rfl, -⟩ := ready_cases h
  · exact ⟨hdefault.tools, hdefault.resources, hdefault.templates, hdefault.prompts⟩
  · exact hdefault

theorem denial_remove (registration : Registration) (request : AccessRequest)
    (capability : Capability) :
    (router.remove registration).denial
        ((router.remove registration).accessContext extensions request) capability =
      router.denial (router.accessContext extensions request) capability := by
  cases registration <;> rfl

theorem ready_remove {ready : McpRouter} (h : router.ready completionHandler request = .ok ready)
    (registration : Registration) :
    (ready.remove registration).ready completionHandler request =
      .ok (ready.remove registration) := by
  obtain ⟨hnone, -⟩ | ⟨-, hready⟩ := ready_cases h
  · exact ready_of_none (by cases registration <;> exact hnone)
  · exact hready _

theorem refused_of_not_shown (hdefault : router.DefaultDenial)
    (hhidden : ∀ registration capability,
      router.registration request = some (registration, capability) →
        (router.denial (router.accessContext extensions request) capability).isSome) :
    router.refused extensions request = some request.notFound ∨
      router.refused extensions request = some (request.refusal .notFound) := by
  unfold refused accessed
  split
  · exact .inl rfl
  · cases hregistration : router.registration request with
    | none => exact .inl rfl
    | some found =>
      obtain ⟨denial, hdenial⟩ :=
        Option.isSome_iff_exists.1 (hhidden found.1 found.2 hregistration)
      have hnotFound := hdefault.not_found hdenial
      rw [Option.map_some]
      dsimp only
      rw [hdenial, hnotFound]
      exact .inr rfl

theorem refused_of_concealed (hdefault : router.DefaultDenial)
    (hconcealed : router.Concealed extensions request registration) :
    (router.refused extensions request = some request.notFound ∨
      router.refused extensions request = some (request.refusal .notFound)) ∧
    ((router.remove registration).refused extensions request = some request.notFound ∨
      (router.remove registration).refused extensions request =
        some (request.refusal .notFound)) := by
  constructor
  · obtain ⟨capability, hfound, hdenied⟩ := hconcealed.hidden
    refine refused_of_not_shown hdefault fun other capability' hother => ?_
    rw [hfound] at hother
    cases hother
    exact hdenied
  · refine refused_of_not_shown (hdefault.remove registration) fun next capability hnext => ?_
    rw [denial_remove]
    exact hconcealed.uncovered next capability hnext

theorem refusal_not_found (hwords : request.filterWords = false) :
    request.refusal .notFound = request.notFound := by
  unfold AccessRequest.refusal
  rw [hwords]
  rfl

theorem refusal_code (hwords : request.filterWords = true) :
    ∃ own words, request.notFound = .jsonRpc own ∧ request.refusal .notFound = .jsonRpc words ∧
      own.code = words.code := by
  cases request with
  | readResource uri => exact ⟨_, _, rfl, rfl, rfl⟩
  | subscribeResource uri => exact ⟨_, _, rfl, rfl, rfl⟩
  | unsubscribeResource uri => exact ⟨_, _, rfl, rfl, rfl⟩
  | callTool params => cases hwords
  | getPrompt params => cases hwords
  | complete reference => cases hwords

theorem looks_up_of_filter_words (hwords : request.filterWords = true) :
    request.looksUp completionHandler = true := by
  cases request with
  | complete reference => cases hwords
  | _ => rfl

theorem ready_of_filter_words (hwords : request.filterWords = true) :
    router.ready completionHandler request = .ok router := by
  cases request with
  | getPrompt params => cases hwords
  | complete reference => cases hwords
  | _ => rfl

/-- Under default denials, a hidden target with nothing visible under it is answered as if it were
not registered: with the same answer by the methods with words of their own, and with an error of
the same code by the methods with the words of the filter. -/
theorem hidden_answered_as_absent (router : McpRouter) (completionHandler : Option ℕ)
    (extensions : Extensions) (request : AccessRequest) (registration : Registration)
    (hdefault : router.DefaultDenial)
    (hconcealed : ∀ ready, router.ready completionHandler request = .ok ready →
      ready.Concealed extensions request registration) :
    (request.filterWords = false →
      router.answer completionHandler extensions request =
        router.answerWithout registration completionHandler extensions request) ∧
    (request.filterWords = true →
      ∃ hidden absent,
        router.answer completionHandler extensions request = .error (.jsonRpc hidden) ∧
        router.answerWithout registration completionHandler extensions request =
          .error (.jsonRpc absent) ∧
        hidden.code = absent.code) := by
  rw [answer_eq, answerWithout]
  cases hready : router.ready completionHandler request with
  | error e =>
    refine ⟨fun _ => rfl, fun hwords => ?_⟩
    cases (ready_of_filter_words hwords).symm.trans hready
  | ok ready =>
    rw [Fallible.ok_bind, Fallible.ok_bind, answer_eq, ready_remove hready, Fallible.ok_bind]
    obtain ⟨hhidden, habsent⟩ :=
      refused_of_concealed (hdefault.ready hready) (hconcealed ready hready)
    cases hlooks : request.looksUp completionHandler with
    | false =>
      rw [resolve_of_not_looks_up hlooks, resolve_of_not_looks_up hlooks]
      refine ⟨fun _ => rfl, fun hwords => ?_⟩
      cases (looks_up_of_filter_words hwords).symm.trans hlooks
    | true =>
      constructor
      · intro hwords
        rw [refusal_not_found hwords, or_self] at hhidden habsent
        rw [resolve_of_refused hlooks hhidden, resolve_of_refused hlooks habsent]
      · intro hwords
        obtain ⟨own, words, hown, hfilter, hcode⟩ := refusal_code hwords
        rw [hown, hfilter] at hhidden habsent
        obtain hhidden | hhidden := hhidden <;> obtain habsent | habsent := habsent
        all_goals
          refine ⟨_, _, resolve_of_refused hlooks hhidden, resolve_of_refused hlooks habsent, ?_⟩
        · rfl
        · exact hcode
        · exact hcode.symm
        · rfl

theorem default_denial_administrated (dynamic : Tool) :
    (administratedRouter dynamic).DefaultDenial where
  tools := by
    intro filter h
    cases h
    rfl
  resources := by
    intro filter h
    cases h
  templates := by
    intro filter h
    cases h
  prompts := by
    intro filter h
    cases h

/-- A hidden static tool keeps a visible dynamic one of the same name out of reach, and without it
the call goes through. -/
theorem hidden_tool_shadows :
    ¬ ∀ (router : McpRouter) (completionHandler : Option ℕ) (extensions : Extensions)
        (request : AccessRequest) (registration : Registration), router.DefaultDenial →
      (∀ ready, router.ready completionHandler request = .ok ready →
        ∃ capability, ready.registration request = some (registration, capability) ∧
          (ready.denial (ready.accessContext extensions request) capability).isSome) →
      router.answer completionHandler extensions request =
        router.answerWithout registration completionHandler extensions request := by
  intro h
  have hsame := h (administratedRouter { name := "deploy", handler := 1 }) none {}
    (.callTool { name := "deploy" }) (.staticTool "deploy") (default_denial_administrated _)
    (fun ready hready => by
      cases hready
      exact ⟨_, rfl, rfl⟩)
  cases hsame

theorem hidden_tool_answered_as_absent :
    (administratedRouter { name := "status", handler := 1 }).answer none {}
        (.callTool { name := "deploy" }) =
      (administratedRouter { name := "status", handler := 1 }).answerWithout (.staticTool "deploy")
        none {} (.callTool { name := "deploy" }) := by
  refine (hidden_answered_as_absent _ none {} (.callTool { name := "deploy" })
    (.staticTool "deploy") (default_denial_administrated _) fun ready hready => ?_).1 rfl
  cases hready
  refine ⟨⟨_, rfl, rfl⟩, fun next capability hnext => ?_⟩
  cases hnext

end McpRouter

end TowerMcp
