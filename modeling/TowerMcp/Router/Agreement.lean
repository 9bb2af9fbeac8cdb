import TowerMcp.Lib.Fallible
import TowerMcp.Router.Listing

/-!
# Lists agree with accesses

A list method and the access method beside it agree when a name is listed with a definition exactly
where an access under that name comes to an item with that definition. `listTools`, `listResources`
and `listPrompts` filter before they merge, and the accesses merge before they filter, so they agree
exactly when no hidden static item lies over a visible dynamic one.
-/

namespace TowerMcp

open Fallible

namespace McpRouter

variable {router : McpRouter} {listing call : Extensions}

structure SameLifecycle (listing call : Extensions) : Prop where
  final : isFinalProtocolRequest listing = isFinalProtocolRequest call
  tasks : clientDeclaresTasks listing = clientDeclaresTasks call

structure SessionFilters (router : McpRouter) : Prop where
  tools : ∀ filter, router.toolFilter = some filter → filter.SessionOnly
  resources : ∀ filter, router.resourceFilter = some filter → filter.SessionOnly
  prompts : ∀ filter, router.promptFilter = some filter → filter.SessionOnly

/-- A definition is listed under a name exactly when a call under that name comes to a tool that is
published with that definition. -/
def ToolsAgree (router : McpRouter) (listing call : Extensions) : Prop :=
  ∀ name definition,
    (definition ∈ router.listTools listing ∧ definition.name = name) ↔
      ∃ tool task ttl, router.callTool call { name, task } = .ok (tool, ttl) ∧
        toolDefinition call tool = definition

/-- A definition is listed under a URI exactly when a read of that URI comes to a resource with that
definition. -/
def ResourcesAgree (router : McpRouter) (listing call : Extensions) : Prop :=
  ∀ uri definition,
    (definition ∈ router.listResources listing ∧ definition.uri = uri) ↔
      ∃ resource, router.readResource call uri = .ok (.resource resource) ∧
        resource.definition = definition

/-- A definition is listed under a name exactly when that name gets a prompt with that definition,
given the arguments it requires. -/
def PromptsAgree (router : McpRouter) (listing call : Extensions) : Prop :=
  ∀ name definition,
    (∃ definitions, router.listPrompts listing = .ok definitions ∧ definition ∈ definitions ∧
        definition.name = name) ↔
      ∃ prompt arguments, router.getPrompt call { name, arguments } = .ok prompt ∧
        prompt.definition = definition

structure ListsAgree (router : McpRouter) (listing call : Extensions) : Prop where
  tools : router.ToolsAgree listing call
  resources : router.ResourcesAgree listing call
  prompts : router.PromptsAgree listing call

/-- A static tool that `tools/list` hides lies over a dynamic tool that it shows. -/
def ShadowedTool (router : McpRouter) (listing : Extensions) (name : String) : Prop :=
  Overlay.Shadowed (router.toolIsVisible listing) router.tools
    (router.dynamicTools.getD .empty) name

/-- A static resource that `resources/list` hides lies over a dynamic resource that it shows. -/
def ShadowedResource (router : McpRouter) (listing : Extensions) (uri : String) : Prop :=
  Overlay.Shadowed (router.resourceIsVisible listing) router.resources
    (router.dynamicResources.getD .empty) uri

/-- A static prompt that `prompts/list` hides lies over a dynamic prompt that it shows. -/
def ShadowedPrompt (router : McpRouter) (listing : Extensions) (name : String) : Prop :=
  Overlay.Shadowed (router.promptIsVisible listing) router.prompts
    (router.dynamicPrompts.getD .empty) name

/-! ## What the filters and the lookups come to -/

theorem filter_shows_congr {α : Type} [Filterable α] {filter : Option (CapabilityFilter α)}
    (hfilter : ∀ f, filter = some f → f.SessionOnly) {context context' : CapabilityFilterContext}
    (hsession : context.session = context'.session) (capability : α) :
    filterShows filter context capability = filterShows filter context' capability := by
  cases filter with
  | none => rfl
  | some f => exact hfilter f rfl context context' capability hsession

theorem filter_shows_access {α : Type} [Filterable α] {filter : Option (CapabilityFilter α)}
    (hfilter : ∀ f, filter = some f → f.SessionOnly) (listing call : Extensions) (target : String)
    (capability : α) :
    filterShows filter (router.capabilityFilterContext call (.access target)) capability =
      filterShows filter (router.capabilityFilterContext listing .list) capability :=
  filter_shows_congr hfilter (by rfl) capability

theorem refusing_filter_none_iff {α : Type} [Filterable α] {filter : Option (CapabilityFilter α)}
    {context : CapabilityFilterContext} {capability : α} :
    (filter.filter fun f => !f.isVisibleWithContext context capability) = none ↔
      filterShows filter context capability = true := by
  cases filter with
  | none => simp [filterShows]
  | some f => simp [filterShows]

theorem find_eq_resolve {α : Type} {key : α → String} (static : Registry α key)
    (dynamic : Option (Registry α key)) (name : String) :
    (static.get name).or (dynamic.bind (·.get name)) =
      Overlay.resolve static (dynamic.getD .empty) name := by
  cases dynamic with
  | none => rfl
  | some dynamic => rfl

/-! ## Tools -/

theorem call_tool_ok_iff {extensions : Extensions} {params : CallToolParams} {tool : Tool}
    {ttl : Option (Option ℕ)} :
    router.callTool extensions params = .ok (tool, ttl) ↔
      params.name ∉ router.disabledTools ∧ router.findTool params.name = some tool ∧
        filterShows router.toolFilter
          (router.capabilityFilterContext extensions (.access params.name)) tool = true ∧
        router.taskTtl extensions params tool = .ok ttl := by
  unfold callTool
  split
  · rename_i hdisabled
    simp [hdisabled]
  · rename_i hdisabled
    cases hfind : router.findTool params.name with
    | none => simp
    | some found =>
      rw [← refusing_filter_none_iff]
      dsimp only
      cases hrefused : router.toolFilter.filter fun f =>
          !f.isVisibleWithContext
            (router.capabilityFilterContext extensions (.access params.name)) found with
      | some filter =>
        simp only [reduceCtorEq, false_iff, not_and, Option.some.injEq]
        rintro _ rfl hnone
        rw [hrefused] at hnone
        cases hnone
      | none =>
        cases httl : router.taskTtl extensions params found with
        | error e =>
          simp only [error_bind, reduceCtorEq, false_iff, not_and, Option.some.injEq]
          rintro _ rfl _
          rw [httl]
          simp
        | ok chosen =>
          simp only [ok_bind, pure_eq_ok, Prod.mk.injEq, Option.some.injEq]
          constructor
          · rintro ⟨rfl, rfl⟩
            exact ⟨hdisabled, rfl, hrefused, httl⟩
          · rintro ⟨_, rfl, _, h⟩
            rw [httl] at h
            exact ⟨rfl, Except.ok.inj h⟩

def lifecycleHides (router : McpRouter) (extensions : Extensions) (tool : Tool) : Bool :=
  isFinalProtocolRequest extensions && tool.taskSupport == .required &&
    !(isFinalProtocolRequest extensions && router.finalTasksEnabled &&
      clientDeclaresTasks extensions)

variable {extensions : Extensions} {tool : Tool}

theorem tool_is_visible_iff :
    router.toolIsVisible extensions tool = true ↔
      tool.name ∉ router.disabledTools ∧ router.lifecycleHides extensions tool = false ∧
        filterShows router.toolFilter (router.capabilityFilterContext extensions .list) tool =
          true := by
  simp only [toolIsVisible, Bool.and_eq_true, Bool.not_eq_true', decide_eq_false_iff_not, and_assoc]
  rfl

variable {name : String}

theorem exists_task_ttl_iff :
    (∃ task ttl, router.taskTtl extensions { name, task } tool = .ok ttl) ↔
      router.lifecycleHides extensions tool = false := by
  unfold lifecycleHides
  cases hfinal : isFinalProtocolRequest extensions with
  | false =>
    simp only [Bool.false_and, iff_true]
    -- a legacy call asks for a task exactly where the tool takes one
    cases hsupport : tool.taskSupport with
    | required => exact ⟨some {}, some none, by simp [taskTtl, hfinal, hsupport]⟩
    | optional => exact ⟨none, none, by simp [taskTtl, hfinal, hsupport]⟩
    | forbidden => exact ⟨none, none, by simp [taskTtl, hfinal, hsupport]⟩
  | true =>
    constructor
    · rintro ⟨task, ttl, h⟩
      unfold taskTtl at h
      rw [if_pos hfinal] at h
      split at h
      · cases h
      · cases hsupport : tool.taskSupport with
        | optional => rfl
        | forbidden => rfl
        | required =>
          cases henabled : router.finalTasksEnabled with
          | false => simp [hsupport, henabled] at h
          | true =>
            cases hdeclared : clientDeclaresTasks extensions with
            | false => simp [hsupport, henabled, hdeclared] at h
            | true => rfl
    · intro h
      cases hsupport : tool.taskSupport with
      | optional => exact ⟨none, _, by simp only [taskTtl, hfinal, hsupport]; rfl⟩
      | forbidden => exact ⟨none, _, by simp only [taskTtl, hfinal, hsupport]; rfl⟩
      | required =>
        obtain ⟨henabled, hdeclared⟩ :
            router.finalTasksEnabled = true ∧ clientDeclaresTasks extensions = true := by
          simpa [hsupport] using h
        exact ⟨none, some none, by simp [taskTtl, hfinal, hsupport, henabled, hdeclared]⟩

theorem call_tool_reaches_iff (hfilter : ∀ f, router.toolFilter = some f → f.SessionOnly)
    (hsame : SameLifecycle listing call) {name : String} {tool : Tool} :
    (∃ task ttl, router.callTool call { name, task } = .ok (tool, ttl)) ↔
      Overlay.resolve router.tools (router.dynamicTools.getD .empty) name = some tool ∧
        router.toolIsVisible listing tool = true := by
  have hhides : router.lifecycleHides call tool = router.lifecycleHides listing tool := by
    unfold lifecycleHides
    rw [hsame.final, hsame.tasks]
  simp only [call_tool_ok_iff, exists_and_left, findTool, find_eq_resolve]
  rw [exists_task_ttl_iff, filter_shows_access hfilter listing, hhides, tool_is_visible_iff]
  constructor
  · rintro ⟨hdisabled, hfind, hshown, hlifecycle⟩
    obtain rfl := Overlay.key_of_resolve hfind
    exact ⟨hfind, hdisabled, hlifecycle, hshown⟩
  · rintro ⟨hfind, hdisabled, hlifecycle, hshown⟩
    obtain rfl := Overlay.key_of_resolve hfind
    exact ⟨hdisabled, hfind, hshown, hlifecycle⟩

theorem tool_definition_name (extensions : Extensions) (tool : Tool) :
    (toolDefinition extensions tool).name = tool.name := by
  unfold toolDefinition
  dsimp only
  split
  · rfl
  · split
    · rfl
    · rfl

theorem tool_definition_congr (hsame : SameLifecycle listing call) (tool : Tool) :
    toolDefinition call tool = toolDefinition listing tool := by
  unfold toolDefinition
  rw [hsame.final]

theorem tools_agree_iff_unshadowed (hfilter : ∀ f, router.toolFilter = some f → f.SessionOnly)
    (hsame : SameLifecycle listing call) :
    router.ToolsAgree listing call ↔ ∀ name, ¬ router.ShadowedTool listing name := by
  unfold ShadowedTool
  rw [← Overlay.listing_agrees_iff (tool_definition_name listing)]
  refine forall_congr' fun name => forall_congr' fun definition => ?_
  have hreach : (∃ tool task ttl, router.callTool call { name, task } = .ok (tool, ttl) ∧
      toolDefinition call tool = definition) ↔
      ∃ tool, (∃ task ttl, router.callTool call { name, task } = .ok (tool, ttl)) ∧
        toolDefinition listing tool = definition := by
    simp only [tool_definition_congr hsame, exists_and_right]
  rw [hreach]
  simp only [call_tool_reaches_iff hfilter hsame, and_assoc]
  rfl

/-! ## Resources -/

variable {context : CapabilityFilterContext}

theorem authorize_resource_ok_iff {uri : String} {found resource : Resource} :
    router.authorizeResource context uri found = .ok (.resource resource) ↔
      found = resource ∧ filterShows router.resourceFilter context resource = true := by
  unfold authorizeResource
  rw [← refusing_filter_none_iff]
  split
  · rename_i filter hrefused
    simp only [reduceCtorEq, false_iff, not_and]
    rintro rfl hnone
    rw [hrefused] at hnone
    cases hnone
  · rename_i hrefused
    simp only [Except.ok.injEq, ReadTarget.resource.injEq]
    constructor
    · rintro rfl
      exact ⟨rfl, hrefused⟩
    · rintro ⟨rfl, _⟩
      rfl

variable {resource : Resource}

theorem template_read_ne_resource {uri : String} {template : ResourceTemplate}
    {bound : TemplateVariables} :
    (do router.authorizeResourceTemplate context template uri
        pure (.template template bound) : Except Error ReadTarget) ≠ .ok (.resource resource) := by
  intro h
  obtain ⟨_, _, hpure⟩ := bind_eq_ok.1 h
  cases hpure

theorem read_resource_ok_iff {uri : String} :
    router.readResource extensions uri = .ok (.resource resource) ↔
      uri ∉ router.disabledResources ∧
        Overlay.resolve router.resources (router.dynamicResources.getD .empty) uri =
          some resource ∧
        filterShows router.resourceFilter
          (router.capabilityFilterContext extensions (.access uri)) resource = true := by
  unfold readResource
  rw [← find_eq_resolve]
  split
  · rename_i hdisabled
    simp [hdisabled]
  · rename_i hdisabled
    cases hstatic : router.resources.get uri with
    | some found => simp [authorize_resource_ok_iff, hdisabled]
    | none =>
      cases hdynamic : router.dynamicResources.bind (·.get uri) with
      | some found => simp [authorize_resource_ok_iff, hdisabled]
      | none =>
        -- only a template is left, and a template is not a resource
        simp only [Option.or_none, reduceCtorEq, false_and, and_false, iff_false]
        split
        · exact template_read_ne_resource
        · simp

theorem resource_is_visible_iff :
    router.resourceIsVisible extensions resource = true ↔
      resource.uri ∉ router.disabledResources ∧
        filterShows router.resourceFilter (router.capabilityFilterContext extensions .list)
          resource = true := by
  simp only [resourceIsVisible, Bool.and_eq_true, Bool.not_eq_true', decide_eq_false_iff_not]

theorem resource_definition_uri (resource : Resource) : resource.definition.uri = resource.uri :=
  rfl

theorem resources_agree_iff_unshadowed
    (hfilter : ∀ f, router.resourceFilter = some f → f.SessionOnly) :
    router.ResourcesAgree listing call ↔ ∀ uri, ¬ router.ShadowedResource listing uri := by
  unfold ShadowedResource
  rw [← Overlay.listing_agrees_iff resource_definition_uri]
  refine forall_congr' fun uri => forall_congr' fun definition => ?_
  have hreach : ∀ resource, router.readResource call uri = .ok (.resource resource) ↔
      Overlay.resolve router.resources (router.dynamicResources.getD .empty) uri =
        some resource ∧ router.resourceIsVisible listing resource = true := by
    intro resource
    rw [read_resource_ok_iff, filter_shows_access hfilter listing, resource_is_visible_iff]
    constructor
    · rintro ⟨hdisabled, hfind, hshown⟩
      obtain rfl := Overlay.key_of_resolve hfind
      exact ⟨hfind, hdisabled, hshown⟩
    · rintro ⟨hfind, hdisabled, hshown⟩
      obtain rfl := Overlay.key_of_resolve hfind
      exact ⟨hdisabled, hfind, hshown⟩
  simp only [hreach, and_assoc]
  rfl

/-! ## Prompts -/

theorem missing_required_arguments_eq_nil (declared : List PromptArgument) :
    ∃ supplied, missingRequiredArguments declared supplied = [] := by
  refine ⟨declared.foldr (fun argument supplied => supplied.insert argument.name "") ∅, ?_⟩
  have hmem : ∀ argument ∈ declared, argument.name ∈
      declared.foldr (fun argument supplied => AList.insert argument.name "" supplied)
        (∅ : FinMap String String) := by
    induction declared with
    | nil => simp
    | cons first rest ih =>
      intro argument hargument
      rw [List.foldr_cons, AList.mem_insert]
      rcases List.mem_cons.1 hargument with rfl | hrest
      · exact Or.inl rfl
      · exact Or.inr (ih argument hrest)
  have hnone : (declared.filter fun argument => argument.required &&
      !decide (argument.name ∈ declared.foldr
        (fun argument supplied => AList.insert argument.name "" supplied)
        (∅ : FinMap String String))) = [] := by
    rw [List.filter_eq_nil_iff]
    intro argument hargument
    simp [hmem argument hargument]
  unfold missingRequiredArguments
  rw [hnone]
  rfl

theorem resolve_prompt_ok_iff {prompt : Prompt} :
    (∃ arguments, router.resolvePrompt extensions { name, arguments } = .ok prompt) ↔
      name ∉ router.disabledPrompts ∧
        Overlay.resolve router.prompts (router.dynamicPrompts.getD .empty) name =
          some prompt ∧
        filterShows router.promptFilter
          (router.capabilityFilterContext extensions (.access name)) prompt = true := by
  unfold resolvePrompt
  rw [← find_eq_resolve, ← findPrompt, ← refusing_filter_none_iff]
  by_cases hdisabled : name ∈ router.disabledPrompts
  · simp [hdisabled]
  · simp only [if_neg hdisabled]
    cases hfind : router.findPrompt name with
    | none => simp
    | some found =>
      dsimp only
      cases hrefused : router.promptFilter.filter fun f => !f.isVisibleWithContext
          (router.capabilityFilterContext extensions (.access name)) found with
      | some filter =>
        simp only [reduceCtorEq, exists_const, false_iff, not_and, Option.some.injEq]
        rintro _ rfl hnone
        rw [hrefused] at hnone
        cases hnone
      | none =>
        dsimp only
        constructor
        · rintro ⟨arguments, h⟩
          split at h
          · cases h
          · cases h
            exact ⟨hdisabled, rfl, hrefused⟩
        · rintro ⟨_, heq, _⟩
          obtain rfl := Option.some.inj heq
          obtain ⟨arguments, hnone⟩ := missing_required_arguments_eq_nil found.arguments
          exact ⟨arguments, by simp [hnone]⟩

theorem prompt_is_visible_iff {prompt : Prompt} :
    router.promptIsVisible extensions prompt = true ↔
      prompt.name ∉ router.disabledPrompts ∧
        filterShows router.promptFilter (router.capabilityFilterContext extensions .list) prompt =
          true := by
  simp only [promptIsVisible, Bool.and_eq_true, Bool.not_eq_true', decide_eq_false_iff_not]

theorem prompt_filter_of_initialized {ready : McpRouter}
    (h : router.initializePrompts = .ok ready) : ready.promptFilter = router.promptFilter := by
  unfold initializePrompts at h
  split at h
  · rw [← Except.ok.inj h]
  · obtain ⟨populated, _, hpure⟩ := bind_eq_ok.1 h
    rw [← pure_eq_ok.1 hpure]

theorem prompt_definition_name (prompt : Prompt) : prompt.definition.name = prompt.name := rfl

theorem prompts_agree_iff_unshadowed
    (hfilter : ∀ f, router.promptFilter = some f → f.SessionOnly) :
    router.PromptsAgree listing call ↔
      ∀ ready, router.initializePrompts = .ok ready → ∀ name, ¬ ready.ShadowedPrompt listing name := by
  unfold PromptsAgree listPrompts getPrompt
  cases hready : router.initializePrompts with
  | error e => simp
  | ok ready =>
    have hfilter' : ∀ f, ready.promptFilter = some f → f.SessionOnly := by
      rw [prompt_filter_of_initialized hready]
      exact hfilter
    simp only [Except.ok.injEq, forall_eq', ok_bind, pure_eq_ok,
      exists_and_right, exists_eq_left']
    unfold ShadowedPrompt
    rw [← Overlay.listing_agrees_iff prompt_definition_name]
    refine forall_congr' fun name => forall_congr' fun definition => ?_
    have hreach : ∀ prompt,
        (∃ arguments, ready.resolvePrompt call { name, arguments } = .ok prompt) ↔
          Overlay.resolve ready.prompts (ready.dynamicPrompts.getD .empty) name =
            some prompt ∧ ready.promptIsVisible listing prompt = true := by
      intro prompt
      rw [resolve_prompt_ok_iff, filter_shows_access hfilter' listing, prompt_is_visible_iff]
      constructor
      · rintro ⟨hdisabled, hfind, hshown⟩
        obtain rfl := Overlay.key_of_resolve hfind
        exact ⟨hfind, hdisabled, hshown⟩
      · rintro ⟨hfind, hdisabled, hshown⟩
        obtain rfl := Overlay.key_of_resolve hfind
        exact ⟨hdisabled, hfind, hshown⟩
    simp only [hreach, and_assoc]

/-! ## The three together -/

def hideAdministrators : CapabilityFilter Tool :=
  .new fun _ tool => tool.title != some "Administrators"

/-- A static `deploy` that the filter hides, under a dynamic tool it shows: `dynamic` is either of
the same name or of another. -/
def administratedRouter (dynamic : Tool) : McpRouter where
  tools := Registry.empty.register
    { name := "deploy", title := some "Administrators", handler := 0 }
  dynamicTools := some (Registry.empty.register dynamic)
  toolFilter := some hideAdministrators

theorem session_filters_administrated (dynamic : Tool) :
    (administratedRouter dynamic).SessionFilters where
  tools := by
    intro filter h
    cases h
    exact CapabilityFilter.session_only_new _
  resources := by
    intro filter h
    cases h
  prompts := by
    intro filter h
    cases h

/-- A dynamic `deploy` is listed while a call of `deploy` comes to the hidden static tool and is
refused. -/
theorem list_and_call_disagree :
    ¬ ∀ (router : McpRouter) (listing call : Extensions), router.SessionFilters →
      SameLifecycle listing call → router.ListsAgree listing call := by
  intro h
  have hagrees := (h (administratedRouter { name := "deploy", handler := 1 }) {} {}
    (session_filters_administrated _) ⟨rfl, rfl⟩).tools
  have hlisted : { name := "deploy" } ∈
      (administratedRouter { name := "deploy", handler := 1 }).listTools {} := by
    decide
  obtain ⟨tool, task, ttl, hcall, _⟩ := (hagrees "deploy" { name := "deploy" }).1 ⟨hlisted, rfl⟩
  have hrefused : (administratedRouter { name := "deploy", handler := 1 }).callTool {}
      { name := "deploy", task } = .error (toolNotFound "deploy") := rfl
  rw [hrefused] at hcall
  cases hcall

/-- The list methods agree with the access methods exactly when no hidden static item lies over a
visible dynamic one: among the tools, among the resources, and among the prompts once the dynamic
registry is populated. -/
theorem lists_agree_iff_unshadowed (router : McpRouter) (listing call : Extensions)
    (hfilters : router.SessionFilters) (hsame : SameLifecycle listing call) :
    router.ListsAgree listing call ↔
      (∀ name, ¬ router.ShadowedTool listing name) ∧
      (∀ uri, ¬ router.ShadowedResource listing uri) ∧
      ∀ ready, router.initializePrompts = .ok ready →
        ∀ name, ¬ ready.ShadowedPrompt listing name := by
  rw [← tools_agree_iff_unshadowed hfilters.tools hsame,
    ← resources_agree_iff_unshadowed hfilters.resources,
    ← prompts_agree_iff_unshadowed hfilters.prompts]
  constructor
  · rintro ⟨htools, hresources, hprompts⟩
    exact ⟨htools, hresources, hprompts⟩
  · rintro ⟨htools, hresources, hprompts⟩
    exact ⟨htools, hresources, hprompts⟩

theorem lists_agree_other_name :
    (administratedRouter { name := "status", handler := 1 }).ListsAgree {} {} := by
  refine (lists_agree_iff_unshadowed _ {} {} (session_filters_administrated _) ⟨rfl, rfl⟩).2
    ⟨?_, ?_, ?_⟩
  · rintro name ⟨static, dynamic, hstatic, _, hdynamic, _⟩
    have hstatic' : name = "deploy" := by
      unfold administratedRouter at hstatic
      rw [Registry.get_register] at hstatic
      by_contra hne
      simp [hne] at hstatic
    subst hstatic'
    cases hdynamic
  · rintro uri ⟨static, dynamic, hstatic, _⟩
    cases hstatic
  · rintro ready hready name ⟨static, dynamic, hstatic, _⟩
    cases hready
    cases hstatic

end McpRouter

end TowerMcp
