import TowerMcp.Router.Hidden

/-!
# Authorized completions

A completion is let through under the conditions under which the object it completes would be got
or read: the same registration is looked up, and the same filter is asked about it.
-/

namespace TowerMcp

namespace McpRouter

def isPattern (router : McpRouter) (uri : String) : Bool :=
  (router.resourceTemplates ++ router.dynamicResourceTemplates.getD []).any
    fun template => decide (template.uriTemplate = uri)

/-- A request is let through at a registration: its target is not disabled, and no filter denies the
registration it comes to. -/
def Admitted (router : McpRouter) (extensions : Extensions) (request : AccessRequest)
    (registration : Registration) (capability : Capability) : Prop :=
  router.disables request = false ∧
    router.registration request = some (registration, capability) ∧
    router.denial (router.accessContext extensions request) capability = none

section Access

variable {router : McpRouter} {extensions : Extensions} {request : AccessRequest} {uri name : String}

theorem not_refused_iff : router.refused extensions request = none ↔
    ∃ registration capability, router.Admitted extensions request registration capability := by
  unfold refused Admitted accessed
  constructor
  · intro h
    split at h
    next => cases h
    next hdisabled =>
      split at h
      next => cases h
      next capability haccessed =>
        obtain ⟨⟨registration, _⟩, hfound, rfl⟩ := Option.map_eq_some_iff.1 haccessed
        exact ⟨registration, _, Bool.eq_false_iff.2 hdisabled, hfound, Option.map_eq_none_iff.1 h⟩
  · rintro ⟨registration, capability, hdisabled, hfound, hdenial⟩
    rw [hdisabled, hfound]
    exact Option.map_eq_none_iff.2 hdenial

theorem find_template_eq_none {p : ResourceTemplate → Bool}
    (h : ∀ template ∈ router.resourceTemplates ++ router.dynamicResourceTemplates.getD [],
      p template = false) : router.findTemplate p = none := by
  have hmapped : (router.findTemplate p).map _ = _ := map_find_template p
  rw [List.find?_eq_none.2 fun template hmem =>
      Bool.eq_false_iff.1 (h template (List.mem_append_left _ hmem)),
    List.find?_eq_none.2 fun template hmem =>
      Bool.eq_false_iff.1 (h template (List.mem_append_right _ hmem))] at hmapped
  exact Option.map_eq_none_iff.1 hmapped

theorem registration_complete_eq (hpattern : router.isPattern uri = false) :
    router.registration (.complete (.resource uri)) = router.registration (.readResource uri) := by
  unfold isPattern at hpattern
  unfold registration
  dsimp only
  rw [find_template_eq_none fun template hmem =>
      Bool.eq_false_iff.2 (List.any_eq_false.1 hpattern template hmem),
    Option.or_none]

theorem admitted_complete_iff (hpattern : router.isPattern uri = false)
    {registration : Registration} {capability : Capability} :
    router.Admitted extensions (.complete (.resource uri)) registration capability ↔
      router.Admitted extensions (.readResource uri) registration capability := by
  unfold Admitted
  rw [registration_complete_eq hpattern]
  exact Iff.rfl

theorem authorize_prompt_iff : router.authorizeCompletionPrompt extensions name = .ok () ↔
    router.refused extensions (.complete (.prompt name)) = none := by
  constructor
  · intro h
    cases hrefused : router.refused extensions (.complete (.prompt name)) with
    | none => rfl
    | some e => cases ((authorize_prompt_gated name).of_some hrefused).symm.trans h
  · exact (authorize_prompt_gated name).of_none

theorem resolve_prompt_iff {arguments : FinMap String String}
    (hsupplied : ∀ prompt, router.findPrompt name = some prompt →
      missingRequiredArguments prompt.arguments arguments = []) {prompt : Prompt} :
    router.resolvePrompt extensions { name, arguments } = .ok prompt ↔
      ∃ registration, router.Admitted extensions (.complete (.prompt name)) registration
        (.prompt prompt) := by
  cases hrefused : router.refused extensions (.complete (.prompt name)) with
  | some e =>
    rw [(resolve_prompt_gated { name, arguments }).of_some hrefused]
    refine iff_of_false nofun ?_
    rintro ⟨registration, hadmitted⟩
    cases hrefused.symm.trans (not_refused_iff.2 ⟨registration, _, hadmitted⟩)
  | none =>
    obtain ⟨held, hheld, hresolve⟩ := (resolve_prompt_gated { name, arguments }).of_none hrefused
    obtain ⟨registration, capability, hadmitted⟩ := not_refused_iff.1 hrefused
    have haccessed : router.accessed (.complete (.prompt name)) = some capability :=
      Option.map_eq_some_iff.2 ⟨_, hadmitted.2.1, rfl⟩
    rw [accessed_complete_prompt, hheld] at haccessed
    cases haccessed
    rw [hresolve (hsupplied held hheld)]
    constructor
    · intro h
      cases h
      exact ⟨registration, hadmitted⟩
    · rintro ⟨other, hother⟩
      cases hadmitted.2.1.symm.trans hother.2.1
      rfl

theorem authorize_resource_iff :
    router.authorizeCompletionReference extensions (.resource uri) = .ok () ↔
      router.refused extensions (.complete (.resource uri)) = none := by
  constructor
  · intro h
    cases hrefused : router.refused extensions (.complete (.resource uri)) with
    | none => rfl
    | some e => cases ((authorize_completion_uri_gated uri).of_some hrefused).symm.trans h
  · exact (authorize_completion_uri_gated uri).of_none

theorem read_resource_iff {target : ReadTarget}
    (h : router.readResource extensions uri = .ok target) :
    ∃ registration, router.Admitted extensions (.readResource uri) registration
      target.capability := by
  cases hrefused : router.refused extensions (.readResource uri) with
  | some e => cases ((read_resource_gated uri).of_some hrefused).symm.trans h
  | none =>
    obtain ⟨found, hfound, haccessed⟩ := (read_resource_gated uri).of_none hrefused
    cases hfound.symm.trans h
    obtain ⟨registration, capability, hadmitted⟩ := not_refused_iff.1 hrefused
    have hsame : router.accessed (.readResource uri) = some capability :=
      Option.map_eq_some_iff.2 ⟨_, hadmitted.2.1, rfl⟩
    cases hsame.symm.trans haccessed
    exact ⟨registration, hadmitted⟩

end Access

/-- A completion of a prompt, or of a resource whose URI is no pattern, is authorized exactly when
the prompt is got, with its required arguments, or the resource is read; and it is let through at
the registration that the prompt or the resource comes from. -/
theorem completion_authorized_as_access (router : McpRouter) (extensions : Extensions)
    {name uri : String} {arguments : FinMap String String} (hsupplied : ∀ ready prompt,
      router.initializePrompts = .ok ready → ready.findPrompt name = some prompt →
        missingRequiredArguments prompt.arguments arguments = [])
    (hpattern : router.isPattern uri = false) :
    ((router.authorizeCompletionReference extensions (.prompt name) = .ok () ↔
        ∃ prompt, router.getPrompt extensions { name, arguments } = .ok prompt) ∧
      ∀ ready, router.initializePrompts = .ok ready →
        (router.authorizeCompletionReference extensions (.prompt name) = .ok () ↔
          ∃ registration capability,
            ready.Admitted extensions (.complete (.prompt name)) registration capability) ∧
        ∀ prompt, router.getPrompt extensions { name, arguments } = .ok prompt →
          ∃ registration, ready.Admitted extensions (.complete (.prompt name)) registration
            (.prompt prompt)) ∧
    (router.authorizeCompletionReference extensions (.resource uri) = .ok () ↔
        ∃ target, router.readResource extensions uri = .ok target) ∧
      (router.authorizeCompletionReference extensions (.resource uri) = .ok () ↔
        ∃ registration capability,
          router.Admitted extensions (.complete (.resource uri)) registration capability) ∧
      ∀ target, router.readResource extensions uri = .ok target →
        ∃ registration, router.Admitted extensions (.complete (.resource uri)) registration
          target.capability := by
  refine ⟨⟨?_, fun ready hready => ?_⟩, ?_, ?_, fun target htarget => ?_⟩
  · unfold authorizeCompletionReference getPrompt
    cases hready : router.initializePrompts with
    | error e => exact iff_of_false nofun nofun
    | ok ready =>
      show ready.authorizeCompletionPrompt extensions name = .ok () ↔
        ∃ prompt, ready.resolvePrompt extensions { name, arguments } = .ok prompt
      rw [authorize_prompt_iff]
      constructor
      · intro h
        obtain ⟨prompt, hprompt, hresolve⟩ := (resolve_prompt_gated { name, arguments }).of_none h
        exact ⟨prompt, hresolve (hsupplied ready prompt hready hprompt)⟩
      · rintro ⟨prompt, hprompt⟩
        obtain ⟨registration, hadmitted⟩ :=
          (resolve_prompt_iff fun held => hsupplied ready held hready).1 hprompt
        exact not_refused_iff.2 ⟨registration, _, hadmitted⟩
  · unfold authorizeCompletionReference getPrompt
    rw [hready]
    refine ⟨?_, fun prompt hprompt => ?_⟩
    · show ready.authorizeCompletionPrompt extensions name = .ok () ↔ _
      rw [authorize_prompt_iff, not_refused_iff]
    · exact (resolve_prompt_iff fun held => hsupplied ready held hready).1 hprompt
  · rw [authorize_resource_iff]
    constructor
    · intro h
      obtain ⟨registration, capability, hadmitted⟩ := not_refused_iff.1 h
      obtain ⟨target, htarget, _⟩ := (read_resource_gated uri).of_none
        (not_refused_iff.2 ⟨registration, capability, (admitted_complete_iff hpattern).1 hadmitted⟩)
      exact ⟨target, htarget⟩
    · rintro ⟨target, htarget⟩
      obtain ⟨registration, hadmitted⟩ := read_resource_iff htarget
      exact not_refused_iff.2 ⟨registration, _, (admitted_complete_iff hpattern).2 hadmitted⟩
  · rw [authorize_resource_iff, not_refused_iff]
  · obtain ⟨registration, hadmitted⟩ := read_resource_iff htarget
    exact ⟨registration, (admitted_complete_iff hpattern).2 hadmitted⟩

def greetingRouter (required : Bool) : McpRouter :=
  { administratedRouter { name := "status", handler := 1 } with
    prompts := Registry.empty.register
      { name := "greet", arguments := [{ name := "who", required }], handler := 2 } }

theorem completion_authorized_as_access_optional :
    ((greetingRouter false).authorizeCompletionReference {} (.prompt "greet") = .ok () ↔
      ∃ prompt, (greetingRouter false).getPrompt {} { name := "greet" } = .ok prompt) := by
  have hsupplied : ∀ ready prompt, (greetingRouter false).initializePrompts = .ok ready →
      ready.findPrompt "greet" = some prompt → missingRequiredArguments prompt.arguments ∅ = [] := by
    intro ready prompt hready hprompt
    cases hready
    cases hprompt
    decide
  have hpattern : (greetingRouter false).isPattern "file:///a" = false := by decide
  exact (completion_authorized_as_access (greetingRouter false) {} hsupplied hpattern).1.1

/-- The completion of a prompt with a required argument is authorized, and the prompt is not got
without the argument. -/
theorem required_argument_parts :
    ¬∀ (router : McpRouter) (extensions : Extensions) (params : GetPromptParams),
      router.authorizeCompletionReference extensions (.prompt params.name) = .ok () ↔
        ∃ prompt, router.getPrompt extensions params = .ok prompt := by
  intro h
  obtain ⟨prompt, hprompt⟩ := (h (greetingRouter true) {} { name := "greet" }).1 rfl
  cases hprompt

end McpRouter

end TowerMcp
