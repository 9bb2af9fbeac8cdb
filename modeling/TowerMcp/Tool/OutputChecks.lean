import TowerMcp.Router.InputRequired

/-!
# The checks around a tool

The checks that every built tool makes of its arguments and results, and the guards put around it
later, after `tool/validation.rs`, `tool/service.rs` and `tool.rs`. The handlers, with the layers of
their builder, are functions of the request and of the surroundings they are called in.

`completes_of_returned` and `is_error_of_not_returned` say what a finished call is made of: what the
handler returned, as the checks leave it under the revision of the request, or an error.
-/

namespace TowerMcp

namespace ToolValidation

/-! ## Checks -/

structure Validator where
  violations : Json → Option String

structure ToolSchemas where
  input : Option Validator
  output : Option Validator

def ToolSchemas.checkInput (schemas : ToolSchemas) (arguments : Json) : Option String := do
  let validator ← schemas.input
  let subject ←
    if arguments.isNull then
      if (validator.violations arguments).isNone then none else some (Json.object [])
    else some arguments
  let report ← validator.violations subject
  pure ("Invalid input: the arguments do not match the tool's input schema.\n" ++ report)

def ToolSchemas.checkOutput (schemas : ToolSchemas) (result : CallToolResult) : CallToolResult :=
  match schemas.output, result.structuredContent with
  | some validator, some structured =>
    if result.isError then result
    else
      match validator.violations structured with
      | none => result
      | some report =>
        .fromError
          ("Tool returned structured content that does not match its output schema.\n" ++
            report)
  | _, _ => result

def invalidKind : Json → Option String
  | .object _ => none
  | .array _ => some "array"
  | .string _ => some "string"
  | .number _ => some "number"
  | .bool _ => some "boolean"
  | .null => some "null"

def misshapenKind (result : CallToolResult) : Option String :=
  if result.isError then none else result.structuredContent.bind invalidKind

structure ToolChecks where
  tool : String
  checkShape : Bool
  schemas : Option ToolSchemas

namespace ToolChecks

variable (checks : ToolChecks)

def checkInput (arguments : Json) : Option String :=
  checks.schemas.bind fun schemas => schemas.checkInput arguments

def rejectedKind (result : CallToolResult) (finalProtocol : Bool) : Option String :=
  if checks.checkShape && !finalProtocol then misshapenKind result else none

def shapeMessage (kind : String) : String :=
  "Tool '" ++ checks.tool ++ "' returned structuredContent of type " ++ kind ++
    "; MCP 2025-11-25 and earlier require a JSON object. " ++
    "Wrap a list with CallToolResult::from_list or return an object."

def checkOutput (result : CallToolResult) (finalProtocol : Bool) : CallToolResult :=
  match checks.rejectedKind result finalProtocol with
  | some kind => .fromError (checks.shapeMessage kind)
  | none =>
    match checks.schemas with
    | some schemas => schemas.checkOutput result
    | none => result

def rejectsContent (result : CallToolResult) : Bool :=
  !result.isError && checks.schemas.any fun schemas => schemas.output.any fun validator =>
    result.structuredContent.any fun structured => (validator.violations structured).isSome

end ToolChecks

section Shapes

variable {checks : ToolChecks} {raw : CallToolResult} {finalProtocol : Bool}

theorem misshapen_of_is_error (h : raw.isError = true) : misshapenKind raw = none := by
  simp [misshapenKind, h]

theorem check_output_cases (h : checks.rejectedKind raw finalProtocol = none) :
    (checks.rejectsContent raw = true ∧ (checks.checkOutput raw finalProtocol).isError = true) ∨
      (checks.rejectsContent raw = false ∧ checks.checkOutput raw finalProtocol = raw) := by
  unfold ToolChecks.checkOutput ToolChecks.rejectsContent
  rw [h]
  cases checks.schemas with
  | none => exact .inr ⟨by simp, rfl⟩
  | some schemas =>
    obtain ⟨_, output⟩ := schemas
    cases output with
    | none => exact .inr ⟨by simp, rfl⟩
    | some validator =>
      cases hcontent : raw.structuredContent with
      | none => exact .inr ⟨by simp, by simp [ToolSchemas.checkOutput, hcontent]⟩
      | some structured =>
        cases herror : raw.isError with
        | true => exact .inr ⟨by simp, by simp [ToolSchemas.checkOutput, hcontent, herror]⟩
        | false =>
          cases hreport : validator.violations structured with
          | none =>
            refine .inr ⟨by simp [hreport], ?_⟩
            simp [ToolSchemas.checkOutput, hcontent, herror, hreport]
          | some report =>
            refine .inl ⟨by simp [hreport], ?_⟩
            simp [ToolSchemas.checkOutput, hcontent, herror, hreport,
              CallToolResult.fromError]

theorem misshapen_check_output_older (h : checks.checkShape = true) :
    misshapenKind (checks.checkOutput raw false) = none := by
  cases hkind : misshapenKind raw with
  | some kind =>
    have hrejected : checks.rejectedKind raw false = some kind := by
      simp [ToolChecks.rejectedKind, h, hkind]
    have herror : (checks.checkOutput raw false).isError = true := by
      unfold ToolChecks.checkOutput
      rw [hrejected]
      rfl
    exact misshapen_of_is_error herror
  | none =>
    have hrejected : checks.rejectedKind raw false = none := by
      simp [ToolChecks.rejectedKind, hkind]
    rcases check_output_cases hrejected with ⟨_, herror⟩ | ⟨_, hsame⟩
    · exact misshapen_of_is_error herror
    · rw [hsame, hkind]

theorem misshapen_check_output_final :
    misshapenKind (checks.checkOutput raw true) = none ↔
      misshapenKind raw = none ∨ checks.rejectsContent raw = true := by
  have hrejected : checks.rejectedKind raw true = none := by simp [ToolChecks.rejectedKind]
  rcases check_output_cases hrejected with ⟨hrejects, herror⟩ | ⟨hpermits, hsame⟩
  · simp [misshapen_of_is_error herror, hrejects]
  · simp [hsame, hpermits]

end Shapes

/-! ## Handlers -/

structure ToolRequest where
  extensions : Extensions
  args : Json

inductive RequestOutcome where
  | complete (result : CallToolResult)
  | inputRequired (required : InputRequiredResult)

inductive TaskOutcome where
  | completed (result : CallToolResult)
  | failed (error : JsonRpcError)
  | cancelled (message : Option String)

section Wrappers

variable {S : Type}

abbrev ToolService (S : Type) := S → ToolRequest → CallToolResult

abbrev MrtrToolHandler (S : Type) := S → ToolRequest → Except Error RequestOutcome

abbrev LiveToolHandler (S : Type) := S → ToolRequest → Except Error TaskOutcome

abbrev Guard (S : Type) := S → ToolRequest → Except String Unit

def validateService (checks : ToolChecks) (inner : ToolService S) : ToolService S :=
  fun surroundings request =>
    match checks.checkInput request.args with
    | some message => .fromError message
    | none =>
      checks.checkOutput (inner surroundings request) (isFinalProtocolRequest request.extensions)

def validatedMrtrToolHandler (checks : ToolChecks) (inner : MrtrToolHandler S) :
    MrtrToolHandler S :=
  fun surroundings request =>
    match checks.checkInput request.args with
    | some message => .ok (.complete (.fromError message))
    | none =>
      match inner surroundings request with
      | .ok (.complete result) =>
        .ok (.complete
          (checks.checkOutput result (isFinalProtocolRequest request.extensions)))
      | other => other

def validatedLiveToolHandler (checks : ToolChecks) (inner : LiveToolHandler S) :
    LiveToolHandler S :=
  fun surroundings request =>
    match checks.checkInput request.args with
    | some message => .ok (.completed (.fromError message))
    | none =>
      match inner surroundings request with
      | .ok (.completed result) =>
        .ok (.completed
          (checks.checkOutput result (isFinalProtocolRequest request.extensions)))
      | other => other

def guardService (guard : Guard S) (inner : ToolService S) : ToolService S :=
  fun surroundings request =>
    match guard surroundings request with
    | .ok () => inner surroundings request
    | .error message => .fromError (Error.tool message).display

def guardedMrtrToolHandler (guard : Guard S) (inner : MrtrToolHandler S) : MrtrToolHandler S :=
  fun surroundings request =>
    match guard surroundings request with
    | .ok () => inner surroundings request
    | .error message => .ok (.complete (.fromError message))

def guardedLiveToolHandler (guard : Guard S) (inner : LiveToolHandler S) : LiveToolHandler S :=
  fun surroundings request =>
    match guard surroundings request with
    | .ok () => inner surroundings request
    | .error message => .ok (.completed (.fromError message))

structure ToolHandlers (S : Type) where
  service : Option (ToolService S) := none
  mrtrHandler : Option (MrtrToolHandler S) := none
  liveHandler : Option (LiveToolHandler S) := none
  callable : (service.isSome || mrtrHandler.isSome || liveHandler.isSome) = true

namespace ToolHandlers

variable (tool : ToolHandlers S)

def withSchemaValidation (checks : ToolChecks) : ToolHandlers S where
  service := tool.service.map (validateService checks)
  mrtrHandler := tool.mrtrHandler.map (validatedMrtrToolHandler checks)
  liveHandler := tool.liveHandler.map (validatedLiveToolHandler checks)
  callable := by simpa using tool.callable

def withGuard (guard : Guard S) : ToolHandlers S where
  service :=
    if tool.mrtrHandler.isSome then tool.service else tool.service.map (guardService guard)
  mrtrHandler := tool.mrtrHandler.map (guardedMrtrToolHandler guard)
  liveHandler := tool.liveHandler.map (guardedLiveToolHandler guard)
  callable := by
    have hcallable := tool.callable
    split <;> simpa using hcallable

def callOutcomeWithContext (surroundings : S) (request : ToolRequest) :
    Except Error RequestOutcome :=
  match tool.mrtrHandler, tool.service with
  | some handler, _ => handler surroundings request
  | none, some service => .ok (.complete (service surroundings request))
  | none, none =>
    .error (.tool "tool has no synchronous or MRTR handler; it can only be invoked as a task")

/-- Call the handler that a call of this kind goes to: a task goes to the live handler if there is
one. What is not a result is left out, and so is why a live handler ended without one. -/
def call (asTask : Bool) (surroundings : S) (request : ToolRequest) :
    Except Error (Option CallToolResult) :=
  match if asTask then tool.liveHandler else none with
  | some handler =>
    match handler surroundings request with
    | .ok (.completed result) => .ok (some result)
    | _ => .ok none
  | none =>
    match tool.callOutcomeWithContext surroundings request with
    | .ok (.complete result) => .ok (some result)
    | .ok (.inputRequired _) => .ok none
    | .error error => .error error

end ToolHandlers

/-- A tool as its builder leaves it with output checking on, and the guards put around it since, the
first one first. -/
structure BuiltTool (S : Type) where
  checks : ToolChecks
  handlers : ToolHandlers S
  guards : List (Guard S) := []
  checksShape : checks.checkShape = true

namespace BuiltTool

variable (tool : BuiltTool S)

def guarded : ToolHandlers S :=
  tool.guards.foldl ToolHandlers.withGuard (tool.handlers.withSchemaValidation tool.checks)

def admits (surroundings : S) (request : ToolRequest) : Bool :=
  (tool.guards.all fun guard => (guard surroundings request).isOk) &&
    (tool.checks.checkInput request.args).isNone

def completes (asTask : Bool) (surroundings : S) (request : ToolRequest) :
    Option CallToolResult :=
  match tool.guarded.call asTask surroundings request with
  | .ok result => result
  | .error error => if asTask then some (.fromError error.display) else none

def returned (asTask : Bool) (surroundings : S) (request : ToolRequest) : Option CallToolResult :=
  if tool.admits surroundings request then
    match tool.handlers.call asTask surroundings request with
    | .ok result => result
    | .error _ => none
  else none

end BuiltTool

/-! ## What a finished call is made of -/

section Calls

variable {tool : ToolHandlers S} {checks : ToolChecks} {guard : Guard S} {asTask : Bool}
  {surroundings : S} {request : ToolRequest}

def IsRejected (message : String) (outcome : Except Error (Option CallToolResult)) : Prop :=
  outcome = .ok (some (.fromError message)) ∨ ∃ error, outcome = .error error

theorem live_of_map (wrap : LiveToolHandler S → LiveToolHandler S)
    (liveHandler : Option (LiveToolHandler S)) :
    (if asTask then liveHandler.map wrap else none) =
      (if asTask then liveHandler else none).map wrap := by
  cases asTask <;> rfl

theorem call_with_guard_of_ok (h : guard surroundings request = .ok ()) :
    (tool.withGuard guard).call asTask surroundings request =
      tool.call asTask surroundings request := by
  have houtcome : (tool.withGuard guard).callOutcomeWithContext surroundings request =
      tool.callOutcomeWithContext surroundings request := by
    obtain ⟨service, mrtrHandler, _, _⟩ := tool
    cases mrtrHandler with
    | some handler =>
      simp [ToolHandlers.callOutcomeWithContext, ToolHandlers.withGuard, guardedMrtrToolHandler,
        h]
    | none =>
      cases service <;>
        simp [ToolHandlers.callOutcomeWithContext, ToolHandlers.withGuard, guardService, h]
  unfold ToolHandlers.call
  rw [houtcome]
  simp only [ToolHandlers.withGuard, live_of_map]
  cases hlive : if asTask then tool.liveHandler else none with
  | none => rfl
  | some handler => simp only [Option.map_some, guardedLiveToolHandler, h]

theorem is_rejected_of_guarded {message : String}
    (h : guard surroundings request = .error message) :
    IsRejected message ((tool.withGuard guard).call asTask surroundings request) := by
  unfold ToolHandlers.call
  simp only [ToolHandlers.withGuard, live_of_map]
  cases hlive : if asTask then tool.liveHandler else none with
  | some handler =>
    simp only [Option.map_some, guardedLiveToolHandler, h]
    exact .inl rfl
  | none =>
    simp only [Option.map_none, ToolHandlers.callOutcomeWithContext]
    cases hmrtr : tool.mrtrHandler with
    | some handler =>
      simp only [Option.map_some, guardedMrtrToolHandler, h]
      exact .inl rfl
    | none =>
      simp only [Option.map_none, Option.isSome_none, Bool.false_eq_true, if_false]
      cases hservice : tool.service with
      | some service =>
        simp only [Option.map_some, guardService, h]
        exact .inl rfl
      | none => exact .inr ⟨_, rfl⟩

theorem is_rejected_of_invalid {message : String}
    (h : checks.checkInput request.args = some message) :
    IsRejected message
      ((tool.withSchemaValidation checks).call asTask surroundings request) := by
  unfold ToolHandlers.call
  simp only [ToolHandlers.withSchemaValidation, live_of_map]
  cases hlive : if asTask then tool.liveHandler else none with
  | some handler =>
    simp only [Option.map_some, validatedLiveToolHandler, h]
    exact .inl rfl
  | none =>
    simp only [Option.map_none, ToolHandlers.callOutcomeWithContext]
    cases hmrtr : tool.mrtrHandler with
    | some handler =>
      simp only [Option.map_some, validatedMrtrToolHandler, h]
      exact .inl rfl
    | none =>
      simp only [Option.map_none]
      cases hservice : tool.service with
      | some service =>
        simp only [Option.map_some, validateService, h]
        exact .inl rfl
      | none => exact .inr ⟨_, rfl⟩

theorem call_with_schema_validation (h : checks.checkInput request.args = none) :
    (tool.withSchemaValidation checks).call asTask surroundings request =
      (tool.call asTask surroundings request).map (Option.map fun raw =>
        checks.checkOutput raw (isFinalProtocolRequest request.extensions)) := by
  unfold ToolHandlers.call
  simp only [ToolHandlers.withSchemaValidation, live_of_map]
  cases hlive : if asTask then tool.liveHandler else none with
  | some handler =>
    simp only [Option.map_some, validatedLiveToolHandler, h]
    rcases handler surroundings request with _ | _ | _ | _ <;> rfl
  | none =>
    simp only [Option.map_none, ToolHandlers.callOutcomeWithContext]
    cases hmrtr : tool.mrtrHandler with
    | some handler =>
      simp only [Option.map_some, validatedMrtrToolHandler, h]
      rcases handler surroundings request with _ | _ | _ <;> rfl
    | none =>
      simp only [Option.map_none]
      cases hservice : tool.service with
      | some service =>
        simp only [Option.map_some, validateService, h]
        rfl
      | none => rfl

theorem call_guards_of_ok (guards : List (Guard S)) (tool : ToolHandlers S)
    (h : (guards.all fun guard => (guard surroundings request).isOk) = true) :
    (guards.foldl ToolHandlers.withGuard tool).call asTask surroundings request =
      tool.call asTask surroundings request := by
  induction guards generalizing tool with
  | nil => rfl
  | cons guard rest ih =>
    simp only [List.all_cons, Bool.and_eq_true] at h
    obtain ⟨hguard, hrest⟩ := h
    rw [List.foldl_cons, ih _ hrest]
    cases houtcome : guard surroundings request with
    | ok accepted => exact call_with_guard_of_ok houtcome
    | error message =>
      rw [houtcome] at hguard
      cases hguard

theorem is_rejected_of_guards (guards : List (Guard S)) (tool : ToolHandlers S)
    (h : (guards.all fun guard => (guard surroundings request).isOk) = false) :
    ∃ message, IsRejected message
      ((guards.foldl ToolHandlers.withGuard tool).call asTask surroundings request) := by
  induction guards generalizing tool with
  | nil => cases h
  | cons guard rest ih =>
    rw [List.foldl_cons]
    cases hrest : rest.all fun guard => (guard surroundings request).isOk with
    | false => exact ih _ hrest
    | true =>
      rw [call_guards_of_ok rest _ hrest]
      cases houtcome : guard surroundings request with
      | ok accepted =>
        rw [List.all_cons, hrest, houtcome] at h
        cases h
      | error message => exact ⟨message, is_rejected_of_guarded houtcome⟩

variable {tool : BuiltTool S}

theorem is_rejected_of_not_admitted (h : tool.admits surroundings request = false) :
    ∃ message, IsRejected message (tool.guarded.call asTask surroundings request) := by
  unfold BuiltTool.admits at h
  unfold BuiltTool.guarded
  cases hguards : tool.guards.all fun guard => (guard surroundings request).isOk with
  | false => exact is_rejected_of_guards tool.guards _ hguards
  | true =>
    rw [call_guards_of_ok tool.guards _ hguards]
    cases hinput : tool.checks.checkInput request.args with
    | none => simp [hguards, hinput] at h
    | some message => exact ⟨message, is_rejected_of_invalid hinput⟩

theorem call_of_admitted (h : tool.admits surroundings request = true) :
    tool.guarded.call asTask surroundings request =
      (tool.handlers.call asTask surroundings request).map (Option.map fun raw =>
        tool.checks.checkOutput raw (isFinalProtocolRequest request.extensions)) := by
  unfold BuiltTool.admits at h
  simp only [Bool.and_eq_true, Option.isNone_iff_eq_none] at h
  unfold BuiltTool.guarded
  rw [call_guards_of_ok tool.guards _ h.1, call_with_schema_validation h.2]

theorem completes_of_returned {raw : CallToolResult}
    (h : tool.returned asTask surroundings request = some raw) :
    tool.completes asTask surroundings request =
      some (tool.checks.checkOutput raw (isFinalProtocolRequest request.extensions)) := by
  unfold BuiltTool.returned at h
  cases hadmits : tool.admits surroundings request with
  | false => simp [hadmits] at h
  | true =>
    rw [if_pos hadmits] at h
    unfold BuiltTool.completes
    rw [call_of_admitted hadmits]
    cases hcall : tool.handlers.call asTask surroundings request with
    | error error => simp [hcall] at h
    | ok result =>
      rw [hcall] at h
      obtain rfl : result = some raw := h
      rfl

theorem is_error_of_not_returned {result : CallToolResult}
    (h : tool.returned asTask surroundings request = none)
    (hcompletes : tool.completes asTask surroundings request = some result) :
    result.isError = true := by
  unfold BuiltTool.returned at h
  unfold BuiltTool.completes at hcompletes
  have herror : ∀ error, tool.guarded.call asTask surroundings request = .error error →
      result.isError = true := by
    intro error hcall
    rw [hcall] at hcompletes
    simp only [Option.ite_none_right_eq_some, Option.some.injEq] at hcompletes
    obtain ⟨_, rfl⟩ := hcompletes
    rfl
  cases hadmits : tool.admits surroundings request with
  | false =>
    obtain ⟨message, hrejected | ⟨error, hrejected⟩⟩ :
        ∃ message, IsRejected message (tool.guarded.call asTask surroundings request) :=
      is_rejected_of_not_admitted hadmits
    · rw [hrejected] at hcompletes
      cases hcompletes
      rfl
    · exact herror error hrejected
  | true =>
    rw [if_pos hadmits] at h
    have hcall : tool.guarded.call asTask surroundings request =
        (tool.handlers.call asTask surroundings request).map (Option.map fun raw =>
          tool.checks.checkOutput raw (isFinalProtocolRequest request.extensions)) :=
      call_of_admitted hadmits
    cases houtcome : tool.handlers.call asTask surroundings request with
    | error error =>
      rw [houtcome] at hcall
      exact herror error hcall
    | ok returned =>
      rw [houtcome] at hcall h
      obtain rfl : returned = none := h
      rw [hcall] at hcompletes
      cases hcompletes

end Calls

end Wrappers

end ToolValidation

end TowerMcp
