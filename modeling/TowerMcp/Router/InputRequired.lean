import TowerMcp.Router.TaskAccess

/-!
# Requests for input

What a handler returns to ask the client for input, after `InputRequiredResult` of
`tower-mcp-types`, and the check that `validate_input_required_result` of `router/task_ops.rs` makes
before such a result is sent: the request that it answers is of the 2026-07-28 lifecycle, and its
client has declared what every request for input needs.
-/

namespace TowerMcp

/-! ## What is asked for -/

/-- A result that asks the client for input. Its `resultType` is the one of this type. -/
structure InputRequiredResult where
  inputRequests : Option InputRequests := none
  requestState : Option String := none

inductive IncludeContext where
  | allServers
  | thisServer
  | none
deriving DecidableEq

inductive ElicitMode where
  | form
  | url
deriving DecidableEq

structure InputParams where
  requiresTools : Serialized → Bool
  includeContext : Serialized → Option IncludeContext
  elicitMode : Serialized → ElicitMode

/-! ## What a client declares -/

structure SamplingCapability where
  tools : Bool := false
  context : Bool := false
deriving DecidableEq

structure ElicitationCapability where
  form : Bool := false
  url : Bool := false
deriving DecidableEq

structure InputCapabilities where
  roots : Bool := false
  sampling : Option SamplingCapability := none
  elicitation : Option ElicitationCapability := none
deriving DecidableEq

structure RequestLifecycle where
  protocolVersion : Option String := none
  clientCapabilities : Option InputCapabilities := none
deriving DecidableEq

def RequestLifecycle.isFinal (lifecycle : RequestLifecycle) : Bool :=
  lifecycle.protocolVersion == some protocolVersion20260728

namespace InputRequest

variable (params : InputParams)

def requiresContext (request : Serialized) : Bool :=
  (params.includeContext request).any fun mode => mode != IncludeContext.none

def supportedBy (actual : InputCapabilities) : InputRequest → Bool
  | .createMessage request =>
    actual.sampling.any fun sampling =>
      (!params.requiresTools request || sampling.tools) &&
        (!requiresContext params request || sampling.context)
  | .listRoots _ => actual.roots
  | .elicit request =>
    match params.elicitMode request with
    | .form => actual.elicitation.any fun elicitation => elicitation.form || !elicitation.url
    | .url => actual.elicitation.any fun elicitation => elicitation.url

def requiredCapabilities : InputRequest → Json
  | .createMessage request =>
    .object [("sampling", .object
      ((if params.requiresTools request then [("tools", .object [])] else []) ++
        if requiresContext params request then [("context", .object [])] else []))]
  | .listRoots _ => .object [("roots", .object [("listChanged", .bool false)])]
  | .elicit request =>
    match params.elicitMode request with
    | .form => .object [("elicitation", .object [("form", .object [])])]
    | .url => .object [("elicitation", .object [("url", .object [])])]

end InputRequest

/-! ## The check -/

def InputRequiredResult.validate (result : InputRequiredResult) : Except String Unit :=
  if result.inputRequests.isNone && result.requestState.isNone then
    .error "at least one of inputRequests or requestState must be present"
  else .ok ()

def firstUnsupported (params : InputParams) (actual : InputCapabilities)
    (requests : InputRequests) : Option InputRequest :=
  (requests.sortedPairs.find? fun request => !request.2.supportedBy params actual).map (·.2)

def validateInputRequiredResult (params : InputParams) (lifecycle : Option RequestLifecycle)
    (result : InputRequiredResult) : Except Error Unit :=
  match result.validate with
  | .error message =>
    .error (.jsonRpc (.invalidParams ("invalid InputRequiredResult: " ++ message)))
  | .ok _ =>
    match lifecycle.filter RequestLifecycle.isFinal with
    | none =>
      .error (.jsonRpc (.invalidParams
        "InputRequiredResult is only supported by the 2026-07-28 request lifecycle"))
    | some lifecycle =>
      match lifecycle.clientCapabilities with
      | none =>
        .error (.jsonRpc (.invalidParams
          "clientCapabilities is required for InputRequiredResult"))
      | some actual =>
        match firstUnsupported params actual (result.inputRequests.getD ∅) with
        | some request =>
          .error (.jsonRpc (.missingRequiredClientCapability
            (request.requiredCapabilities params)))
        | none => .ok ()

structure Answerable (params : InputParams) (lifecycle : Option RequestLifecycle)
    (result : InputRequiredResult) : Prop where
  present : result.inputRequests ≠ none ∨ result.requestState ≠ none
  supported : ∃ declared actual, lifecycle = some declared ∧ declared.isFinal = true ∧
    declared.clientCapabilities = some actual ∧
      ∀ key request, (result.inputRequests.getD ∅).lookup key = some request →
        request.supportedBy params actual = true

theorem InputRequiredResult.validate_ok_iff (result : InputRequiredResult) :
    result.validate = .ok () ↔ result.inputRequests ≠ none ∨ result.requestState ≠ none := by
  unfold InputRequiredResult.validate
  cases result.inputRequests <;> cases result.requestState <;> simp

theorem first_unsupported_none_iff {params : InputParams} {actual : InputCapabilities}
    {requests : InputRequests} :
    firstUnsupported params actual requests = none ↔
      ∀ key request, requests.lookup key = some request →
        request.supportedBy params actual = true := by
  unfold firstUnsupported
  rw [Option.map_eq_none_iff, List.find?_eq_none]
  constructor
  · intro hall key request hrequest
    have hsupported := hall (key, request) (FinMap.mem_sorted_pairs_iff.2 hrequest)
    simpa using hsupported
  · rintro hall ⟨key, request⟩ hmem
    have hsupported := hall key request (FinMap.mem_sorted_pairs_iff.1 hmem)
    simpa using hsupported

theorem validate_input_required_ok_iff {params : InputParams} {lifecycle : Option RequestLifecycle}
    {result : InputRequiredResult} :
    validateInputRequiredResult params lifecycle result = .ok () ↔
      Answerable params lifecycle result := by
  have hpresent := result.validate_ok_iff
  unfold validateInputRequiredResult
  cases hvalid : result.validate with
  | error message =>
    rw [hvalid] at hpresent
    refine ⟨nofun, fun h => ?_⟩
    cases hpresent.2 h.present
  | ok valid =>
    rw [hvalid] at hpresent
    replace hpresent := hpresent.1 rfl
    dsimp only
    cases lifecycle with
    | none =>
      refine ⟨nofun, fun h => ?_⟩
      obtain ⟨declared, actual, hdeclared, -⟩ := h.supported
      cases hdeclared
    | some declared =>
      rw [Option.filter_some]
      by_cases hfinal : declared.isFinal = true
      · rw [if_pos hfinal]
        dsimp only
        cases hactual : declared.clientCapabilities with
        | none =>
          refine ⟨nofun, fun h => ?_⟩
          obtain ⟨_, actual, hdeclared, -, hsome, -⟩ := h.supported
          cases hdeclared
          rw [hactual] at hsome
          cases hsome
        | some actual =>
          dsimp only
          have hnone : firstUnsupported params actual (result.inputRequests.getD ∅) = none ↔
              _ := first_unsupported_none_iff
          cases hfirst : firstUnsupported params actual (result.inputRequests.getD ∅) with
          | none =>
            refine ⟨fun _ => ⟨hpresent, declared, actual, rfl, hfinal, hactual, ?_⟩,
              fun _ => rfl⟩
            exact hnone.1 hfirst
          | some request =>
            refine ⟨nofun, fun h => ?_⟩
            obtain ⟨_, _, hdeclared, -, hsome, hall⟩ := h.supported
            cases hdeclared
            obtain rfl := Option.some.inj (hactual.symm.trans hsome)
            rw [hfirst] at hnone
            cases hnone.2 hall
      · rw [if_neg hfinal]
        refine ⟨nofun, fun h => ?_⟩
        obtain ⟨_, _, hdeclared, hisfinal, -⟩ := h.supported
        cases hdeclared
        exact absurd hisfinal hfinal

end TowerMcp
