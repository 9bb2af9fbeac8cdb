import TowerMcp.Lib.Fallible
import TowerMcp.Router.Listing

/-!
# Router composition

`merge`, `conflicts`, `try_merge` and `nest` of `router/builder.rs`. A merge takes in what the other
router registers statically and leaves its dynamic registries behind, so `composition` says of which
registrations nothing is lost, what a refused merge reports, and what a nested router changes.
-/

namespace TowerMcp

open Fallible

/-! ## Conflicts -/

inductive MergeConflictKind where
  | tool
  | resource
  | resourceTemplate
  | prompt
deriving DecidableEq

def MergeConflictKind.rank : MergeConflictKind → ℕ
  | .tool => 0
  | .resource => 1
  | .resourceTemplate => 2
  | .prompt => 3

structure MergeConflict where
  kind : MergeConflictKind
  name : String
deriving DecidableEq

def MergeConflict.le (first second : MergeConflict) : Prop :=
  first.kind.rank < second.kind.rank ∨ first.kind = second.kind ∧ first.name ≤ second.name

instance : DecidableRel MergeConflict.le :=
  fun first second => inferInstanceAs (Decidable (_ ∨ _ ∧ first.name ≤ second.name))

def Tool.withNamePrefix (tool : Tool) (namePrefix : String) : Tool :=
  { tool with name := namePrefix ++ "." ++ tool.name }

namespace McpRouter

/-! ## Composing two routers -/

def merge (router other : McpRouter) : McpRouter :=
  { router with
    tools := router.tools.registerAll other.tools.list
    resources := router.resources.registerAll other.resources.list
    resourceTemplates := router.resourceTemplates ++ other.resourceTemplates
    prompts := router.prompts.registerAll other.prompts.list
    protocolExtensions := other.protocolExtensions ∪ router.protocolExtensions }

def conflicts (router other : McpRouter) : List MergeConflict :=
  let tools := other.tools.list.filter fun tool => (router.tools.get tool.name).isSome
  let resources := other.resources.list.filter fun resource =>
    (router.resources.get resource.uri).isSome
  let templates := other.resourceTemplates.filter fun template =>
    router.resourceTemplates.any fun existing => existing.uriTemplate = template.uriTemplate
  let prompts := other.prompts.list.filter fun prompt => (router.prompts.get prompt.name).isSome
  (tools.map (fun tool => MergeConflict.mk .tool tool.name) ++
      resources.map (fun resource => MergeConflict.mk .resource resource.uri) ++
      templates.map (fun template => MergeConflict.mk .resourceTemplate template.uriTemplate) ++
      prompts.map fun prompt => MergeConflict.mk .prompt prompt.name).insertionSort
    MergeConflict.le

def tryMerge (router other : McpRouter) : Except (List MergeConflict) McpRouter :=
  let conflicts := router.conflicts other
  if conflicts.isEmpty then .ok (router.merge other) else .error conflicts

def nest (router : McpRouter) (namePrefix : String) (other : McpRouter) : McpRouter :=
  { router with
    tools := router.tools.registerAll
      (other.tools.list.map fun tool => tool.withNamePrefix namePrefix)
    resources := router.resources.registerAll other.resources.list
    resourceTemplates := router.resourceTemplates ++ other.resourceTemplates
    prompts := router.prompts.registerAll other.prompts.list
    protocolExtensions := other.protocolExtensions ∪ router.protocolExtensions }

/-! ## What is asked of a composition -/

def configuredBy (router root : McpRouter) : McpRouter :=
  { root with
    tools := router.tools
    resources := router.resources
    resourceTemplates := router.resourceTemplates
    prompts := router.prompts
    protocolExtensions := router.protocolExtensions
    dynamicTools := router.dynamicTools
    dynamicResources := router.dynamicResources
    dynamicResourceTemplates := router.dynamicResourceTemplates
    dynamicPrompts := router.dynamicPrompts
    promptInitializer := router.promptInitializer }

def ServesTool (router : McpRouter) (extensions : Extensions) (params : CallToolParams)
    (tool : Tool) : Prop :=
  ∃ ttl, router.callTool extensions params = .ok (tool, ttl)

/-- What a merged router serves of its first router. Its dynamic registrations are served where the
other one registers nothing statically in their place. -/
structure ServesFirst (router other merged : McpRouter) : Prop where
  tool : ∀ extensions params tool, router.ServesTool extensions params tool →
    router.tools.get params.name = some tool ∨ other.tools.get params.name = none →
      merged.ServesTool extensions params tool
  resource : ∀ extensions uri resource,
    router.readResource extensions uri = .ok (.resource resource) →
      router.resources.get uri = some resource ∨ other.resources.get uri = none →
        merged.readResource extensions uri = .ok (.resource resource)
  template : ∀ extensions uri template bound,
    router.readResource extensions uri = .ok (.template template bound) →
      other.resources.get uri = none →
        matchTemplate router.resourceTemplates uri = some (template, bound) ∨
          matchTemplate other.resourceTemplates uri = none →
            merged.readResource extensions uri = .ok (.template template bound)
  prompt : ∀ extensions params prompt, router.getPrompt extensions params = .ok prompt →
    router.prompts.get params.name = some prompt ∨ other.prompts.get params.name = none →
      merged.getPrompt extensions params = .ok prompt

/-- What a merged router serves of its other router: the static registrations. A template is served
where no resource and no template of the first router comes before it. -/
structure ServesOther (router other merged : McpRouter) : Prop where
  tool : ∀ extensions params tool,
    (other.configuredBy router).ServesTool extensions params tool →
      other.tools.get params.name = some tool → merged.ServesTool extensions params tool
  resource : ∀ extensions uri resource,
    (other.configuredBy router).readResource extensions uri = .ok (.resource resource) →
      other.resources.get uri = some resource →
        merged.readResource extensions uri = .ok (.resource resource)
  template : ∀ extensions uri template bound,
    (other.configuredBy router).readResource extensions uri = .ok (.template template bound) →
      matchTemplate other.resourceTemplates uri = some (template, bound) →
        router.resources.get uri = none → router.dynamicResources.bind (·.get uri) = none →
          matchTemplate router.resourceTemplates uri = none →
            merged.readResource extensions uri = .ok (.template template bound)
  prompt : ∀ extensions params prompt,
    (other.configuredBy router).getPrompt extensions params = .ok prompt →
      other.prompts.get params.name = some prompt →
        (∃ populated, router.initializePrompts = .ok populated) →
          merged.getPrompt extensions params = .ok prompt

def Collides (router other : McpRouter) (conflict : MergeConflict) : Prop :=
  match conflict.kind with
  | .tool => (router.tools.get conflict.name).isSome ∧ (other.tools.get conflict.name).isSome
  | .resource =>
    (router.resources.get conflict.name).isSome ∧ (other.resources.get conflict.name).isSome
  | .resourceTemplate =>
    (∃ template ∈ router.resourceTemplates, template.uriTemplate = conflict.name) ∧
      ∃ template ∈ other.resourceTemplates, template.uriTemplate = conflict.name
  | .prompt => (router.prompts.get conflict.name).isSome ∧ (other.prompts.get conflict.name).isSome

def timesReported (other : McpRouter) (conflict : MergeConflict) : ℕ :=
  match conflict.kind with
  | .tool | .resource | .prompt => 1
  | .resourceTemplate =>
    other.resourceTemplates.countP fun template => template.uriTemplate = conflict.name

structure Reported (router other : McpRouter) (found : List MergeConflict) : Prop where
  nonempty : found ≠ []
  mem_iff : ∀ conflict, conflict ∈ found ↔ router.Collides other conflict
  sorted : found.Pairwise MergeConflict.le
  count : ∀ conflict, router.Collides other conflict →
    found.count conflict = other.timesReported conflict

/-- What a router with another one nested in it serves: the tools of the other under their new
names, and what it served itself under every key that the other does not register. -/
structure Nested (router : McpRouter) (namePrefix : String) (other nested : McpRouter) : Prop where
  tool : ∀ name tool, other.tools.get name = some tool →
    nested.findTool (namePrefix ++ "." ++ name) =
      some { tool with name := namePrefix ++ "." ++ name }
  otherTool : ∀ name, (∀ inner, (other.tools.get inner).isSome →
    namePrefix ++ "." ++ inner ≠ name) → nested.findTool name = router.findTool name
  resource : ∀ uri, other.resources.get uri = none →
    nested.resources.get uri = router.resources.get uri
  template : ∀ uri found, matchTemplate router.resourceTemplates uri = some found →
    matchTemplate nested.resourceTemplates uri = some found
  prompt : ∀ name, other.prompts.get name = none → nested.findPrompt name = router.findPrompt name
  dynamic : nested.dynamicResources = router.dynamicResources ∧
    nested.dynamicResourceTemplates = router.dynamicResourceTemplates

/-! ## Reports -/

section Reports

variable {router other : McpRouter}

theorem rank_injective : Function.Injective MergeConflictKind.rank := by
  intro first second h
  cases first <;> cases second <;> first | rfl | exact absurd h (by decide)

instance : Std.Total MergeConflict.le where
  total first second := by
    obtain hlt | heq | hgt := Nat.lt_trichotomy first.kind.rank second.kind.rank
    · exact .inl (.inl hlt)
    · have hkind := rank_injective heq
      exact (le_total first.name second.name).imp (fun h => .inr ⟨hkind, h⟩)
        fun h => .inr ⟨hkind.symm, h⟩
    · exact .inr (.inl hgt)

instance : IsTrans MergeConflict MergeConflict.le where
  trans first second third hfirst hsecond := by
    obtain hlt | ⟨hkind, hname⟩ := hfirst
    · obtain hlater | ⟨hsame, -⟩ := hsecond
      · exact .inl (hlt.trans hlater)
      · exact .inl (hsame ▸ hlt)
    · obtain hlater | ⟨hsame, hlast⟩ := hsecond
      · exact .inl (hkind ▸ hlater)
      · exact .inr ⟨hkind.trans hsame, hname.trans hlast⟩

theorem sorted_conflicts (router other : McpRouter) :
    (router.conflicts other).Pairwise MergeConflict.le :=
  List.pairwise_insertionSort _ _

section Registered

variable {α : Type} {key : α → String} (registry : Registry α key) (test : String → Bool)
  (kind : MergeConflictKind)

def registeredConflicts : List MergeConflict :=
  (registry.list.filter fun item => test (key item)).map fun item => ⟨kind, key item⟩

theorem mem_registered_conflicts_iff (conflict : MergeConflict) :
    conflict ∈ registeredConflicts registry test kind ↔
      conflict.kind = kind ∧ test conflict.name = true ∧ (registry.get conflict.name).isSome := by
  rw [registeredConflicts, List.mem_map]
  constructor
  · rintro ⟨item, hmem, rfl⟩
    obtain ⟨hlisted, htest⟩ := List.mem_filter.1 hmem
    exact ⟨rfl, htest, by simp [Registry.get_key_of_mem hlisted]⟩
  · rintro ⟨rfl, htest, hget⟩
    obtain ⟨item, hitem⟩ := Option.isSome_iff_exists.1 hget
    have hkey := Registry.key_of_get hitem
    refine ⟨item, List.mem_filter.2 ⟨Registry.mem_of_get hitem, ?_⟩, ?_⟩
    · rw [hkey]
      exact htest
    · rw [hkey]

theorem nodup_registered_conflicts : (registeredConflicts registry test kind).Nodup := by
  have hkeys : registeredConflicts registry test kind =
      ((registry.list.map key).filter test).map (MergeConflict.mk kind) := by
    rw [registeredConflicts, List.filter_map, List.map_map]
    rfl
  rw [hkeys]
  refine (registry.nodup_keys.filter test).map fun first second hsame => ?_
  exact (MergeConflict.mk.inj hsame).2

end Registered

def templateConflicts (router other : McpRouter) : List MergeConflict :=
  (other.resourceTemplates.filter fun template =>
    router.resourceTemplates.any fun existing =>
      existing.uriTemplate = template.uriTemplate).map fun template =>
    ⟨.resourceTemplate, template.uriTemplate⟩

theorem mem_template_conflicts_iff (conflict : MergeConflict) :
    conflict ∈ templateConflicts router other ↔ conflict.kind = .resourceTemplate ∧
      (∃ template ∈ router.resourceTemplates, template.uriTemplate = conflict.name) ∧
        ∃ template ∈ other.resourceTemplates, template.uriTemplate = conflict.name := by
  rw [templateConflicts, List.mem_map]
  constructor
  · rintro ⟨template, hmem, rfl⟩
    obtain ⟨hlisted, hshared⟩ := List.mem_filter.1 hmem
    exact ⟨rfl, by simpa using hshared, template, hlisted, rfl⟩
  · obtain ⟨kind, name⟩ := conflict
    rintro ⟨rfl, hshared, template, hlisted, rfl⟩
    exact ⟨template, List.mem_filter.2 ⟨hlisted, by simpa using hshared⟩, rfl⟩

theorem count_template_conflicts {name : String}
    (hshared : ∃ template ∈ router.resourceTemplates, template.uriTemplate = name) :
    (templateConflicts router other).count ⟨.resourceTemplate, name⟩ =
      other.resourceTemplates.countP fun template => template.uriTemplate = name := by
  rw [templateConflicts, List.count, List.countP_map, List.countP_filter]
  refine List.countP_congr fun template _ => ?_
  obtain ⟨existing, hmem, rfl⟩ := hshared
  constructor
  · intro h
    simpa using (Bool.and_eq_true_iff.1 h).1
  · intro h
    have hsame : template.uriTemplate = existing.uriTemplate := by simpa using h
    simp only [Function.comp_apply, hsame, beq_self_eq_true, Bool.true_and, List.any_eq_true,
      decide_eq_true_eq]
    exact ⟨existing, hmem, rfl⟩

theorem conflicts_eq (router other : McpRouter) :
    router.conflicts other =
      (registeredConflicts other.tools (fun name => (router.tools.get name).isSome) .tool ++
        registeredConflicts other.resources (fun uri => (router.resources.get uri).isSome)
          .resource ++ templateConflicts router other ++
        registeredConflicts other.prompts (fun name => (router.prompts.get name).isSome)
          .prompt).insertionSort MergeConflict.le :=
  rfl

theorem mem_conflicts_iff (conflict : MergeConflict) :
    conflict ∈ router.conflicts other ↔ router.Collides other conflict := by
  rw [conflicts_eq, List.mem_insertionSort, List.mem_append, List.mem_append, List.mem_append,
    mem_registered_conflicts_iff, mem_registered_conflicts_iff, mem_template_conflicts_iff,
    mem_registered_conflicts_iff]
  unfold Collides
  cases hkind : conflict.kind <;> simp

theorem count_conflicts {conflict : MergeConflict} (h : router.Collides other conflict) :
    (router.conflicts other).count conflict = other.timesReported conflict := by
  rw [conflicts_eq, (List.perm_insertionSort _ _).count_eq, List.count_append, List.count_append,
    List.count_append]
  have hregistered : ∀ {α : Type} {key : α → String} (registry : Registry α key)
      (test : String → Bool) (kind : MergeConflictKind), conflict.kind ≠ kind →
        (registeredConflicts registry test kind).count conflict = 0 := by
    intro α key registry test kind hne
    refine List.count_eq_zero_of_not_mem fun hmem => hne ?_
    exact ((mem_registered_conflicts_iff registry test kind conflict).1 hmem).1
  have htemplates : conflict.kind ≠ .resourceTemplate →
      (templateConflicts router other).count conflict = 0 := fun hne =>
    List.count_eq_zero_of_not_mem fun hmem => hne ((mem_template_conflicts_iff conflict).1 hmem).1
  unfold Collides at h
  unfold timesReported
  cases hkind : conflict.kind with
  | tool =>
    rw [hkind] at h
    have hmem := (mem_registered_conflicts_iff other.tools
      (fun name => (router.tools.get name).isSome) .tool conflict).2 ⟨hkind, h⟩
    rw [hregistered _ _ .resource (by simp [hkind]), htemplates (by simp [hkind]),
      hregistered _ _ .prompt (by simp [hkind]),
      List.count_eq_one_of_mem (nodup_registered_conflicts _ _ _) hmem]
  | resource =>
    rw [hkind] at h
    have hmem := (mem_registered_conflicts_iff other.resources
      (fun uri => (router.resources.get uri).isSome) .resource conflict).2 ⟨hkind, h⟩
    rw [hregistered _ _ .tool (by simp [hkind]), htemplates (by simp [hkind]),
      hregistered _ _ .prompt (by simp [hkind]),
      List.count_eq_one_of_mem (nodup_registered_conflicts _ _ _) hmem]
  | resourceTemplate =>
    rw [hkind] at h
    rw [hregistered _ _ .tool (by simp [hkind]), hregistered _ _ .resource (by simp [hkind]),
      hregistered _ _ .prompt (by simp [hkind])]
    obtain ⟨kind, name⟩ := conflict
    obtain rfl : kind = .resourceTemplate := hkind
    simpa using count_template_conflicts h.1
  | prompt =>
    rw [hkind] at h
    have hmem := (mem_registered_conflicts_iff other.prompts
      (fun name => (router.prompts.get name).isSome) .prompt conflict).2 ⟨hkind, h⟩
    rw [hregistered _ _ .tool (by simp [hkind]), htemplates (by simp [hkind]),
      hregistered _ _ .resource (by simp [hkind]),
      List.count_eq_one_of_mem (nodup_registered_conflicts _ _ _) hmem]

end Reports

/-! ## Access under one configuration -/

structure SameConfiguration (router next : McpRouter) : Prop where
  session : next.session = router.session
  extensions : next.extensions = router.extensions
  toolFilter : next.toolFilter = router.toolFilter
  resourceFilter : next.resourceFilter = router.resourceFilter
  resourceTemplateFilter : next.resourceTemplateFilter = router.resourceTemplateFilter
  promptFilter : next.promptFilter = router.promptFilter
  disabledTools : next.disabledTools = router.disabledTools
  disabledResources : next.disabledResources = router.disabledResources
  disabledPrompts : next.disabledPrompts = router.disabledPrompts

section Access

variable {router next : McpRouter} {extensions : Extensions}

theorem SameConfiguration.context (h : router.SameConfiguration next)
    (operation : CapabilityOperation) :
    next.capabilityFilterContext extensions operation =
      router.capabilityFilterContext extensions operation := by
  unfold capabilityFilterContext
  rw [h.session, h.extensions]

theorem SameConfiguration.symm (h : router.SameConfiguration next) :
    next.SameConfiguration router :=
  ⟨h.session.symm, h.extensions.symm, h.toolFilter.symm, h.resourceFilter.symm,
    h.resourceTemplateFilter.symm, h.promptFilter.symm, h.disabledTools.symm,
    h.disabledResources.symm, h.disabledPrompts.symm⟩

theorem SameConfiguration.trans {last : McpRouter} (h : router.SameConfiguration next)
    (hlast : next.SameConfiguration last) : router.SameConfiguration last :=
  ⟨hlast.session.trans h.session, hlast.extensions.trans h.extensions,
    hlast.toolFilter.trans h.toolFilter, hlast.resourceFilter.trans h.resourceFilter,
    hlast.resourceTemplateFilter.trans h.resourceTemplateFilter,
    hlast.promptFilter.trans h.promptFilter, hlast.disabledTools.trans h.disabledTools,
    hlast.disabledResources.trans h.disabledResources,
    hlast.disabledPrompts.trans h.disabledPrompts⟩

variable {params : CallToolParams}

variable {tool : Tool}

theorem ServesTool.find_tool (h : router.ServesTool extensions params tool) :
    router.findTool params.name = some tool := by
  obtain ⟨ttl, h⟩ := h
  unfold callTool at h
  split at h
  · cases h
  cases hfind : router.findTool params.name with
  | none =>
    rw [hfind] at h
    cases h
  | some found =>
    rw [hfind] at h
    dsimp only at h
    split at h
    · cases h
    · obtain ⟨_, -, h⟩ := bind_eq_ok.1 h
      exact congrArg some (Prod.mk.inj (Except.ok.inj h)).1

theorem task_ttl_of_enabled {ttl : Option (Option ℕ)}
    (henabled : router.finalTasksEnabled = true → next.finalTasksEnabled = true)
    (h : router.taskTtl extensions params tool = .ok ttl) :
    ∃ later, next.taskTtl extensions params tool = .ok later := by
  unfold taskTtl at h ⊢
  by_cases hfinal : isFinalProtocolRequest extensions = true
  · rw [if_pos hfinal] at h ⊢
    split at h
    next => cases h
    next htask =>
      rw [if_neg htask]
      cases hmode : tool.taskSupport with
      | forbidden => exact ⟨_, rfl⟩
      | optional => exact ⟨_, rfl⟩
      | required =>
        rw [hmode] at h
        cases hserver : router.finalTasksEnabled with
        | false => simp [hserver] at h
        | true =>
          simp only [hserver, henabled hserver] at h ⊢
          exact ⟨ttl, h⟩
  · rw [if_neg hfinal] at h ⊢
    exact ⟨ttl, h⟩

theorem ServesTool.of_find (h : router.ServesTool extensions params tool)
    (hsame : router.SameConfiguration next)
    (henabled : router.finalTasksEnabled = true → next.finalTasksEnabled = true)
    (hfind : next.findTool params.name = some tool) : next.ServesTool extensions params tool := by
  have hbefore := h.find_tool
  obtain ⟨ttl, h⟩ := h
  unfold callTool at h
  rw [hbefore] at h
  unfold ServesTool callTool
  rw [hfind, hsame.disabledTools, hsame.toolFilter, hsame.context]
  split at h
  · cases h
  next hshown =>
    rw [if_neg hshown]
    dsimp only at h ⊢
    cases hvisible : router.toolFilter.filter fun f => !f.isVisibleWithContext
        (router.capabilityFilterContext extensions (.access params.name)) tool with
    | some filter =>
      rw [hvisible] at h
      cases h
    | none =>
      rw [hvisible] at h
      obtain ⟨held, hheld, -⟩ := bind_eq_ok.1 h
      obtain ⟨later, hlater⟩ := task_ttl_of_enabled henabled hheld
      exact ⟨later, bind_eq_ok.2 ⟨later, hlater, rfl⟩⟩

def findTarget (router : McpRouter) (uri : String) : Option ReadTarget :=
  (((router.resources.get uri).or (router.dynamicResources.bind (·.get uri))).map .resource).or
    (((matchTemplate router.resourceTemplates uri).or
      (router.dynamicResourceTemplates.bind (matchTemplate · uri))).map fun found =>
        .template found.1 found.2)

def authorizeTarget (router : McpRouter) (context : CapabilityFilterContext) (uri : String) :
    ReadTarget → Except Error ReadTarget
  | .resource resource => router.authorizeResource context uri resource
  | .template template bound => do
    router.authorizeResourceTemplate context template uri
    pure (.template template bound)

theorem read_resource_eq (router : McpRouter) (extensions : Extensions) (uri : String) :
    router.readResource extensions uri =
      if uri ∈ router.disabledResources then .error (resourceNotFound uri)
      else
        match router.findTarget uri with
        | some target =>
          router.authorizeTarget (router.capabilityFilterContext extensions (.access uri)) uri
            target
        | none => .error (resourceNotFound uri) := by
  unfold readResource findTarget
  split
  · rfl
  cases router.resources.get uri with
  | some resource => rfl
  | none =>
    cases router.dynamicResources.bind (·.get uri) with
    | some resource => rfl
    | none =>
      cases (matchTemplate router.resourceTemplates uri).or
          (router.dynamicResourceTemplates.bind (matchTemplate · uri)) with
      | some found => rfl
      | none => rfl

variable {uri : String} {target : ReadTarget}

theorem authorize_target_eq_ok {context : CapabilityFilterContext}
    {found : ReadTarget} (h : router.authorizeTarget context uri target = .ok found) :
    found = target := by
  cases target with
  | resource resource =>
    unfold authorizeTarget authorizeResource at h
    dsimp only at h
    split at h
    · cases h
    · exact (Except.ok.inj h).symm
  | template template bound =>
    obtain ⟨⟨⟩, -, h⟩ := bind_eq_ok.1 h
    exact (Except.ok.inj h).symm

theorem find_target_of_read
    (h : router.readResource extensions uri = .ok target) :
    router.findTarget uri = some target := by
  rw [read_resource_eq] at h
  split at h
  · cases h
  cases hfind : router.findTarget uri with
  | none =>
    rw [hfind] at h
    cases h
  | some found =>
    rw [hfind] at h
    rw [authorize_target_eq_ok h]

theorem read_resource_of_find
    (h : router.readResource extensions uri = .ok target)
    (hsame : router.SameConfiguration next) (hfind : next.findTarget uri = some target) :
    next.readResource extensions uri = .ok target := by
  have hbefore := find_target_of_read h
  rw [read_resource_eq, hbefore] at h
  rw [read_resource_eq, hfind, hsame.disabledResources, hsame.context]
  split at h
  · cases h
  next hshown =>
    rw [if_neg hshown]
    dsimp only at h ⊢
    rw [← h]
    cases target with
    | resource resource =>
      simp only [authorizeTarget, authorizeResource, hsame.resourceFilter]
    | template template bound =>
      simp only [authorizeTarget, authorizeResourceTemplate, hsame.resourceFilter,
        hsame.resourceTemplateFilter]

theorem find_prompt_of_resolve {params : GetPromptParams} {prompt : Prompt}
    (h : router.resolvePrompt extensions params = .ok prompt) :
    router.findPrompt params.name = some prompt := by
  unfold resolvePrompt at h
  split at h
  · cases h
  cases hfind : router.findPrompt params.name with
  | none =>
    rw [hfind] at h
    cases h
  | some found =>
    rw [hfind] at h
    dsimp only at h
    split at h
    · cases h
    · split at h
      · cases h
      · exact congrArg some (Except.ok.inj h)

theorem resolve_prompt_of_find {params : GetPromptParams} {prompt : Prompt}
    (h : router.resolvePrompt extensions params = .ok prompt)
    (hsame : router.SameConfiguration next) (hfind : next.findPrompt params.name = some prompt) :
    next.resolvePrompt extensions params = .ok prompt := by
  rw [← h]
  have hbefore := find_prompt_of_resolve h
  unfold resolvePrompt
  rw [hbefore, hfind, hsame.disabledPrompts, hsame.promptFilter, hsame.context]

end Access

/-! ## What names stand for in a merged router -/

section Merged

variable {router other : McpRouter}

theorem match_template_append (first second : List ResourceTemplate) (uri : String) :
    matchTemplate (first ++ second) uri =
      (matchTemplate first uri).or (matchTemplate second uri) :=
  List.findSome?_append

theorem same_configuration_merge (router other : McpRouter) :
    router.SameConfiguration (router.merge other) where
  session := rfl
  extensions := rfl
  toolFilter := rfl
  resourceFilter := rfl
  resourceTemplateFilter := rfl
  promptFilter := rfl
  disabledTools := rfl
  disabledResources := rfl
  disabledPrompts := rfl

theorem same_configuration_other (router other : McpRouter) :
    (other.configuredBy router).SameConfiguration (router.merge other) where
  session := rfl
  extensions := rfl
  toolFilter := rfl
  resourceFilter := rfl
  resourceTemplateFilter := rfl
  promptFilter := rfl
  disabledTools := rfl
  disabledResources := rfl
  disabledPrompts := rfl

theorem tasks_enabled_merge_iff (router other : McpRouter) :
    (router.merge other).finalTasksEnabled = true ↔
      other.finalTasksEnabled = true ∨ router.finalTasksEnabled = true := by
  simp only [finalTasksEnabled, decide_eq_true_eq]
  exact AList.mem_union

theorem find_tool_merge (router other : McpRouter) (name : String) :
    (router.merge other).findTool name = (other.tools.get name).or (router.findTool name) := by
  show ((router.tools.registerAll other.tools.list).get name).or _ = _
  rw [Registry.get_register_all_list, Option.or_assoc]
  rfl

theorem find_target_merge (router other : McpRouter) (uri : String) :
    (router.merge other).findTarget uri =
      (((other.resources.get uri).or ((router.resources.get uri).or
          (router.dynamicResources.bind (·.get uri)))).map .resource).or
        (((matchTemplate router.resourceTemplates uri).or
            ((matchTemplate other.resourceTemplates uri).or
              (router.dynamicResourceTemplates.bind (matchTemplate · uri)))).map fun found =>
          .template found.1 found.2) := by
  show (((router.resources.registerAll other.resources.list).get uri).or _ |>.map _).or
    (((matchTemplate (router.resourceTemplates ++ other.resourceTemplates) uri).or _).map _) = _
  rw [Registry.get_register_all_list, match_template_append, Option.or_assoc, Option.or_assoc]
  rfl

theorem find_prompt_merge (router other : McpRouter) (name : String) :
    (router.merge other).findPrompt name =
      (other.prompts.get name).or (router.findPrompt name) := by
  show ((router.prompts.registerAll other.prompts.list).get name).or _ = _
  rw [Registry.get_register_all_list, Option.or_assoc]
  rfl

theorem initialize_prompts_merge {populated : McpRouter}
    (h : router.initializePrompts = .ok populated) :
    (router.merge other).initializePrompts = .ok (populated.merge other) := by
  unfold initializePrompts at h ⊢
  cases hinitializer : router.promptInitializer with
  | none =>
    rw [hinitializer] at h
    cases h
    simp [merge, hinitializer]
  | some initializer =>
    rw [hinitializer] at h
    obtain ⟨prompts, hprompts, h⟩ := bind_eq_ok.1 h
    cases h
    have hmerged : (router.merge other).promptInitializer = some initializer := hinitializer
    simp only [hmerged]
    exact bind_eq_ok.2 ⟨prompts, hprompts, rfl⟩

theorem initialize_prompts_cases {populated : McpRouter}
    (h : router.initializePrompts = .ok populated) :
    populated.prompts = router.prompts ∧ router.SameConfiguration populated := by
  unfold initializePrompts at h
  split at h
  · cases h
    exact ⟨rfl, rfl, rfl, rfl, rfl, rfl, rfl, rfl, rfl, rfl⟩
  · obtain ⟨prompts, -, h⟩ := bind_eq_ok.1 h
    cases h
    exact ⟨rfl, rfl, rfl, rfl, rfl, rfl, rfl, rfl, rfl, rfl⟩

theorem try_merge_eq_ok {merged : McpRouter} (h : router.tryMerge other = .ok merged) :
    merged = router.merge other ∧ ∀ conflict, ¬ router.Collides other conflict := by
  unfold tryMerge at h
  dsimp only at h
  split at h
  next hempty =>
    refine ⟨(Except.ok.inj h).symm, fun conflict hcollides => ?_⟩
    have hmem := (mem_conflicts_iff conflict).2 hcollides
    rw [List.isEmpty_iff.1 hempty] at hmem
    cases hmem
  next => cases h

theorem serves_first (hapart : ∀ conflict, ¬ router.Collides other conflict) :
    ServesFirst router other (router.merge other) where
  tool extensions params tool hserves hkept := by
    have hnone : other.tools.get params.name = none := by
      refine hkept.elim (fun hstatic => ?_) id
      by_contra hsome
      exact hapart ⟨.tool, params.name⟩
        ⟨by simp [hstatic], Option.isSome_iff_ne_none.2 hsome⟩
    refine hserves.of_find (same_configuration_merge router other)
      (fun henabled => (tasks_enabled_merge_iff router other).2 (.inr henabled)) ?_
    rw [find_tool_merge, hnone, Option.none_or]
    exact hserves.find_tool
  resource extensions uri resource hread hkept := by
    have hnone : other.resources.get uri = none := by
      refine hkept.elim (fun hstatic => ?_) id
      by_contra hsome
      exact hapart ⟨.resource, uri⟩ ⟨by simp [hstatic], Option.isSome_iff_ne_none.2 hsome⟩
    refine read_resource_of_find hread (same_configuration_merge router other) ?_
    have hfind := find_target_of_read hread
    unfold findTarget at hfind
    rw [find_target_merge, hnone, Option.none_or]
    cases hfound : (router.resources.get uri).or (router.dynamicResources.bind (·.get uri)) with
    | some found =>
      rw [hfound] at hfind
      exact hfind
    | none =>
      rw [hfound] at hfind
      obtain ⟨found, -, hfound⟩ := Option.map_eq_some_iff.1 hfind
      cases hfound
  template extensions uri template bound hread hnone hkept := by
    refine read_resource_of_find hread (same_configuration_merge router other) ?_
    have hfind := find_target_of_read hread
    unfold findTarget at hfind
    rw [find_target_merge, hnone, Option.none_or]
    cases hfound : (router.resources.get uri).or (router.dynamicResources.bind (·.get uri)) with
    | some found =>
      rw [hfound] at hfind
      cases hfind
    | none =>
      rw [hfound] at hfind
      rw [← hfind]
      obtain hstatic | hother := hkept
      · rw [hstatic]
        rfl
      · rw [hother, Option.none_or]
  prompt extensions params prompt hget hkept := by
    have hnone : other.prompts.get params.name = none := by
      refine hkept.elim (fun hstatic => ?_) id
      by_contra hsome
      exact hapart ⟨.prompt, params.name⟩
        ⟨by simp [hstatic], Option.isSome_iff_ne_none.2 hsome⟩
    obtain ⟨populated, hpopulated, hresolved⟩ := bind_eq_ok.1 hget
    refine bind_eq_ok.2 ⟨_, initialize_prompts_merge hpopulated, ?_⟩
    refine resolve_prompt_of_find hresolved (same_configuration_merge populated other) ?_
    rw [find_prompt_merge, hnone, Option.none_or]
    exact find_prompt_of_resolve hresolved

theorem serves_other (router other : McpRouter) :
    ServesOther router other (router.merge other) where
  tool extensions params tool hserves hstatic := by
    refine hserves.of_find (same_configuration_other router other)
      (fun henabled => (tasks_enabled_merge_iff router other).2 (.inl henabled)) ?_
    rw [find_tool_merge, hstatic, Option.some_or]
  resource extensions uri resource hread hstatic := by
    refine read_resource_of_find hread (same_configuration_other router other) ?_
    rw [find_target_merge, hstatic]
    rfl
  template extensions uri template bound hread hmatch hstatic hdynamic hfirst := by
    refine read_resource_of_find hread (same_configuration_other router other) ?_
    have hfind := find_target_of_read hread
    have hnone : other.resources.get uri = none := by
      cases hget : other.resources.get uri with
      | none => rfl
      | some resource =>
        have hfound : (other.configuredBy router).resources.get uri = some resource := hget
        unfold findTarget at hfind
        rw [hfound] at hfind
        cases hfind
    rw [find_target_merge, hnone, hstatic, hdynamic, hfirst, hmatch]
    rfl
  prompt extensions params prompt hget hstatic hinitialized := by
    obtain ⟨before, hbefore, hresolved⟩ := bind_eq_ok.1 hget
    obtain ⟨populated, hpopulated⟩ := hinitialized
    refine bind_eq_ok.2 ⟨_, initialize_prompts_merge hpopulated, ?_⟩
    obtain ⟨hprompts, hother⟩ := initialize_prompts_cases hbefore
    obtain ⟨-, hfirst⟩ := initialize_prompts_cases hpopulated
    have hroot : (other.configuredBy router).SameConfiguration router :=
      (same_configuration_other router other).trans (same_configuration_merge router other).symm
    have hsame : before.SameConfiguration (populated.merge other) :=
      ((hother.symm.trans hroot).trans hfirst).trans (same_configuration_merge populated other)
    refine resolve_prompt_of_find hresolved hsame ?_
    rw [find_prompt_merge, hstatic, Option.some_or]

end Merged

/-! ## What names stand for in a nested router -/

theorem prefixed_injective (namePrefix : String) :
    Function.Injective fun name => namePrefix ++ "." ++ name := by
  intro first second h
  have hlists := congrArg String.toList h
  exact String.toList_inj.1 (by simpa using hlists)

theorem nested_nest (router : McpRouter) (namePrefix : String) (other : McpRouter) :
    Nested router namePrefix other (router.nest namePrefix other) where
  tool name tool hget := by
    have hname := Registry.key_of_get hget
    have hfound : (router.nest namePrefix other).tools.get (namePrefix ++ "." ++ name) =
        some (tool.withNamePrefix namePrefix) := by
      refine Registry.get_register_all_of_mem router.tools
        (List.mem_map_of_mem (Registry.mem_of_get hget)) ?_ ?_
      · show namePrefix ++ "." ++ tool.name = _
        rw [hname]
      · intro renamed hmem hkey
        obtain ⟨item, hitem, rfl⟩ := List.mem_map.1 hmem
        have hsame : item.name = name := prefixed_injective namePrefix hkey
        have hitem := Registry.get_key_of_mem hitem
        rw [hsame, hget] at hitem
        rw [Option.some.inj hitem]
    unfold findTool
    rw [hfound, Option.some_or, Tool.withNamePrefix, hname]
  otherTool name hother := by
    have hkept : (router.nest namePrefix other).tools.get name = router.tools.get name := by
      refine Registry.get_register_all_of_not_mem router.tools fun renamed hmem => ?_
      obtain ⟨item, hitem, rfl⟩ := List.mem_map.1 hmem
      exact hother item.name (by simp [Registry.get_key_of_mem hitem])
    unfold findTool
    rw [hkept]
    rfl
  resource uri hnone := by
    show (router.resources.registerAll other.resources.list).get uri = _
    rw [Registry.get_register_all_list, hnone, Option.none_or]
  template uri found hfound := by
    show matchTemplate (router.resourceTemplates ++ other.resourceTemplates) uri = _
    rw [match_template_append, hfound, Option.some_or]
  prompt name hnone := by
    show ((router.prompts.registerAll other.prompts.list).get name).or _ = _
    rw [Registry.get_register_all_list, hnone, Option.none_or]
    rfl
  dynamic := ⟨rfl, rfl⟩

/-! ## Composition -/

/-- A merge that is not refused serves what the first router registers, and dynamically where the
other registers nothing in its place, and the static registrations of the other. A refused one
reports the collisions. A nested router adds the tools of the other under their new names. -/
theorem composition (router other : McpRouter) :
    (∀ merged, router.tryMerge other = .ok merged →
        ServesFirst router other merged ∧ ServesOther router other merged) ∧
      (∀ found, router.tryMerge other = .error found → Reported router other found) ∧
        ∀ namePrefix, Nested router namePrefix other (router.nest namePrefix other) := by
  refine ⟨fun merged h => ?_, fun found h => ?_, fun namePrefix =>
    nested_nest router namePrefix other⟩
  · obtain ⟨rfl, hapart⟩ := try_merge_eq_ok h
    exact ⟨serves_first hapart, serves_other router other⟩
  · unfold tryMerge at h
    dsimp only at h
    split at h
    next => cases h
    next hconflicts =>
      obtain rfl := Except.error.inj h
      exact ⟨fun hnil => hconflicts (by rw [hnil]; rfl), mem_conflicts_iff,
        sorted_conflicts router other, fun _ hcollides => count_conflicts hcollides⟩

/-! ## Compositions that lose something -/

def namedTool (handler : ℕ) : Tool where
  name := "report"
  handler := handler

def dynamicRouter (handler : ℕ) : McpRouter where
  dynamicTools := some (Registry.empty.register (namedTool handler))

def staticRouter (handler : ℕ) : McpRouter where
  tools := Registry.empty.register (namedTool handler)

def noteTemplate (name : String) (handler : ℕ) : ResourceTemplate where
  uriTemplate := "note://\x7b" ++ name ++ "\x7d"
  name := name
  matchUri := fun uri =>
    let rest := uri.toList.drop 7
    if uri.toList.take 7 = "note://".toList ∧ rest ≠ [] ∧ '/' ∉ rest then
      some [(name, String.ofList rest)]
    else none
  handler := handler

def templateRouter (templates : List ResourceTemplate) : McpRouter where
  resourceTemplates := templates

def templateHandler : Except Error ReadTarget → Option ℕ
  | .ok (.template template _) => some template.handler
  | _ => none

/-- A merge drops the dynamic tools of the other router, hides a dynamic tool of the first behind a
static one of the other, serves an address by the template of the first where two match, and reports
a pattern twice that the other router has twice. -/
theorem composition_loses :
    (∃ merged, tryMerge {} (dynamicRouter 1) = .ok merged ∧
        (dynamicRouter 1).ServesTool {} { name := "report" } (namedTool 1) ∧
          ¬ merged.ServesTool {} { name := "report" } (namedTool 1)) ∧
      (∃ merged, (dynamicRouter 1).tryMerge (staticRouter 2) = .ok merged ∧
        (dynamicRouter 1).ServesTool {} { name := "report" } (namedTool 1) ∧
          merged.ServesTool {} { name := "report" } (namedTool 2)) ∧
      (∃ merged, (templateRouter [noteTemplate "id" 1]).tryMerge
            (templateRouter [noteTemplate "name" 2]) = .ok merged ∧
          templateHandler ((templateRouter [noteTemplate "name" 2]).readResource {} "note://x") =
            some 2 ∧
          templateHandler (merged.readResource {} "note://x") = some 1) ∧
      (templateRouter [noteTemplate "id" 1]).tryMerge
          (templateRouter [noteTemplate "id" 2, noteTemplate "id" 3]) =
        .error [⟨.resourceTemplate, "note://\x7bid\x7d"⟩,
          ⟨.resourceTemplate, "note://\x7bid\x7d"⟩] := by
  refine ⟨⟨_, rfl, ⟨none, rfl⟩, ?_⟩, ⟨_, rfl, ⟨none, rfl⟩, ⟨none, rfl⟩⟩, ⟨_, rfl, rfl, rfl⟩, rfl⟩
  rintro ⟨ttl, h⟩
  cases h

end McpRouter

end TowerMcp
