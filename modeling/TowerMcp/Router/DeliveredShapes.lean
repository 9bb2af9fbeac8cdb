import TowerMcp.Tool.OutputChecks

/-!
# The shape of structured content that is delivered

The results that a router delivers, in the response of `tools/call` or inside that of `tasks/get`,
after `router.rs` and `resume_task` of `router/task_ops.rs`. The checks of a tool read the revision
in the context of the run that finishes; a task is read by requests of either lifecycle afterwards,
and a replay always runs under the final one.
-/

namespace TowerMcp

namespace DeliveredShapes

open ToolValidation

variable {S : Type}

/-! ## Runs and deliveries -/

structure Run (S : Type) where
  tool : BuiltTool S
  asTask : Bool
  request : ToolRequest
  surroundings : S

namespace Run

variable (run : Run S)

def completes : Option CallToolResult :=
  run.tool.completes run.asTask run.surroundings run.request

def returned : Option CallToolResult :=
  run.tool.returned run.asTask run.surroundings run.request

def isFinal : Bool :=
  isFinalProtocolRequest run.request.extensions

def isRejected : Bool :=
  run.returned.any fun raw => (run.tool.checks.rejectedKind raw run.isFinal).isSome

end Run

structure Finished (S : Type) where
  run : Run S
  result : CallToolResult
  completes : run.completes = some result

structure Delivery (S : Type) where
  isFinal : Bool
  finished : Finished S

def Delivery.Fits (delivery : Delivery S) : Prop :=
  if delivery.isFinal then delivery.finished.run.isRejected = false
  else misshapenKind delivery.finished.result = none

/-! ## The machine -/

/-- A task: its run is under way, it waits for input, it has a result, or nothing runs for it any
more. The arguments of a task that waits are kept for its replay. -/
inductive TaskState (S : Type) where
  | working (tool : BuiltTool S) (request : ToolRequest)
  | waiting (args : Json)
  | completed (finished : Finished S)
  | ended

structure World (S : Type) where
  tasks : FinMap String (TaskState S) := ∅
  deliveries : List (Delivery S) := []

/-- What happens: a call that is answered at once, one that makes a task, the end of a run, the last
answer to a task that waits, the end of a task, and a read of one. A tool is the one that its name
resolves to at that moment. -/
inductive Event (S : Type) where
  | callTool (tool : BuiltTool S) (args : Json) (extensions : Extensions) (surroundings : S)
  | createTask (taskId : String) (tool : BuiltTool S) (args : Json)
      (extensions preparation : Extensions)
  | finish (taskId : String) (surroundings : S)
  | updateTask (taskId : String) (extensions : Extensions) (tool : Option (BuiltTool S))
  | endTask (taskId : String)
  | getTask (taskId : String) (extensions : Extensions)

def replayExtensions : Extensions where
  replayedFinalRequest := true

namespace World

variable (world : World S)

def setTask (taskId : String) (state : TaskState S) : World S :=
  { world with tasks := world.tasks.insert taskId state }

def deliver (isFinal : Bool) (finished : Finished S) : World S :=
  { world with deliveries := { isFinal, finished } :: world.deliveries }

end World

def Run.asks (run : Run S) : Bool :=
  run.tool.handlers.liveHandler.isNone &&
    match run.tool.guarded.callOutcomeWithContext run.surroundings run.request with
    | .ok (.inputRequired required) => !(required.inputRequests.getD ∅).entries.isEmpty
    | _ => false

def Run.leaves (run : Run S) : TaskState S :=
  match h : run.completes with
  | some result => .completed { run, result, completes := h }
  | none => if run.asks then .waiting run.request.args else .ended

def callTool (world : World S) (isFinal : Bool) (run : Run S) : World S :=
  match h : run.completes with
  | some result => world.deliver isFinal { run, result, completes := h }
  | none => world

/-- One step. `base` are the extensions of the router itself. -/
def step (base : Extensions) (world : World S) : Event S → Option (World S)
  | .callTool tool args extensions surroundings =>
    some (callTool world (isFinalProtocolRequest extensions)
      { tool
        asTask := false
        request := { extensions := base.merge extensions, args }
        surroundings })
  | .createTask taskId tool args extensions preparation =>
    if taskId ∈ world.tasks then none
    else
      let context := (base.merge extensions).merge preparation
      some (world.setTask taskId (.working tool { extensions := context, args }))
  | .finish taskId surroundings => do
    match ← world.tasks.lookup taskId with
    | .working tool request =>
      pure (world.setTask taskId
        (Run.leaves { tool, asTask := true, request, surroundings }))
    | _ => none
  | .updateTask taskId extensions tool => do
    match ← world.tasks.lookup taskId with
    | .waiting args =>
      -- an update of an older lifecycle wakes a live handler, and replays none
      if isFinalProtocolRequest extensions then
        match tool with
        | some tool =>
          pure (world.setTask taskId
            (.working tool { extensions := replayExtensions, args }))
        | none => pure (world.setTask taskId .ended)
      else pure (world.setTask taskId .ended)
    | _ => none
  | .endTask taskId => do
    match ← world.tasks.lookup taskId with
    | .working _ _ | .waiting _ => pure (world.setTask taskId .ended)
    | _ => none
  | .getTask taskId extensions => do
    match ← world.tasks.lookup taskId with
    | .completed finished => pure (world.deliver (isFinalProtocolRequest extensions) finished)
    | _ => pure world

/-! ## What fits -/

/-- The run and the peer are of one revision, or the handler returned nothing whose shape they could
disagree about. A result for an older peer may also be rejected by its output schema. -/
def Agrees (isFinal : Bool) (run : Run S) : Prop :=
  run.isFinal = isFinal ∨ ∀ raw, run.returned = some raw →
    misshapenKind raw = none ∨ (isFinal = false ∧ run.tool.checks.rejectsContent raw = true)

theorem agrees_of_not_completes {run : Run S} (h : run.completes = none) (isFinal : Bool) :
    Agrees isFinal run := by
  refine .inr fun raw hraw => ?_
  have hcompletes : run.completes = _ := completes_of_returned hraw
  rw [h] at hcompletes
  cases hcompletes

theorem Finished.result_cases (finished : Finished S) :
    (∃ raw, finished.run.returned = some raw ∧
      finished.result = finished.run.tool.checks.checkOutput raw finished.run.isFinal) ∨
      (finished.run.returned = none ∧ finished.result.isError = true) := by
  cases hreturned : finished.run.returned with
  | none => exact .inr ⟨rfl, is_error_of_not_returned hreturned finished.completes⟩
  | some raw =>
    have hcompletes : finished.run.completes = _ := completes_of_returned hreturned
    rw [finished.completes] at hcompletes
    exact .inl ⟨raw, rfl, Option.some.inj hcompletes⟩

theorem fits_iff (delivery : Delivery S) :
    delivery.Fits ↔ Agrees delivery.isFinal delivery.finished.run := by
  obtain ⟨isFinal, finished⟩ := delivery
  have hshape := finished.run.tool.checksShape
  rcases finished.result_cases with ⟨raw, hraw, hresult⟩ | ⟨hnone, herror⟩
  · cases isFinal with
    | true =>
      cases hrun : finished.run.isFinal <;>
        simp [Delivery.Fits, Run.isRejected, Agrees, hraw, hrun, ToolChecks.rejectedKind, hshape]
    | false =>
      cases hrun : finished.run.isFinal with
      | false =>
        rw [hrun] at hresult
        simp [Delivery.Fits, Agrees, hrun, hresult, misshapen_check_output_older hshape]
      | true =>
        rw [hrun] at hresult
        simp [Delivery.Fits, Agrees, hraw, hrun, hresult, misshapen_check_output_final]
  · cases isFinal with
    | true => simp [Delivery.Fits, Run.isRejected, Agrees, hnone]
    | false => simp [Delivery.Fits, Agrees, hnone, misshapen_of_is_error herror]

def AllFit (world : World S) : Prop :=
  ∀ delivery ∈ world.deliveries, delivery.Fits

def Meets (base : Extensions) (world : World S) : Event S → Prop
  | .callTool tool args extensions surroundings =>
    Agrees (isFinalProtocolRequest extensions)
      { tool
        asTask := false
        request := { extensions := base.merge extensions, args }
        surroundings }
  | .getTask taskId extensions =>
    ∀ finished, world.tasks.lookup taskId = some (.completed finished) →
      Agrees (isFinalProtocolRequest extensions) finished.run
  | _ => True

section Steps

variable {base : Extensions} {world next : World S} {event : Event S}

theorem all_fit_deliver (h : AllFit world) (isFinal : Bool) (finished : Finished S) :
    AllFit (world.deliver isFinal finished) ↔ Agrees isFinal finished.run := by
  rw [← fits_iff { isFinal, finished }]
  exact ⟨fun hall => hall _ List.mem_cons_self, fun hfits => List.forall_mem_cons.2 ⟨hfits, h⟩⟩

theorem all_fit_call_tool (h : AllFit world) (isFinal : Bool) (run : Run S) :
    AllFit (callTool world isFinal run) ↔ Agrees isFinal run := by
  unfold callTool
  split
  next result hcompletes => exact all_fit_deliver h isFinal _
  next hcompletes => exact iff_of_true h (agrees_of_not_completes hcompletes isFinal)

theorem all_fit_step (h : AllFit world) (hstep : step base world event = some next) :
    AllFit next ↔ Meets base world event := by
  cases event with
  | callTool tool args extensions surroundings =>
    cases hstep
    exact all_fit_call_tool h _ _
  | createTask taskId tool args extensions preparation =>
    simp only [step, Option.ite_none_left_eq_some, Option.some.injEq] at hstep
    obtain ⟨_, rfl⟩ := hstep
    exact iff_of_true h trivial
  | finish taskId surroundings =>
    obtain ⟨state, _, hstep⟩ := Option.bind_eq_some_iff.1 hstep
    cases state with
    | working tool request =>
      cases hstep
      exact iff_of_true h trivial
    | waiting _ | completed _ | ended => cases hstep
  | updateTask taskId extensions tool =>
    obtain ⟨state, _, hstep⟩ := Option.bind_eq_some_iff.1 hstep
    cases state with
    | waiting args =>
      refine iff_of_true ?_ trivial
      dsimp only at hstep
      split at hstep
      · cases tool with
        | some tool =>
          cases hstep
          exact h
        | none =>
          cases hstep
          exact h
      · cases hstep
        exact h
    | working _ _ | completed _ | ended => cases hstep
  | endTask taskId =>
    obtain ⟨state, _, hstep⟩ := Option.bind_eq_some_iff.1 hstep
    cases state with
    | working _ _ | waiting _ =>
      cases hstep
      exact iff_of_true h trivial
    | completed _ | ended => cases hstep
  | getTask taskId extensions =>
    obtain ⟨state, hstate, hstep⟩ := Option.bind_eq_some_iff.1 hstep
    cases state with
    | completed finished =>
      cases hstep
      rw [all_fit_deliver h]
      simp only [Meets, hstate, Option.some.injEq, TaskState.completed.injEq, forall_eq']
    | working _ _ | waiting _ | ended =>
      cases hstep
      exact iff_of_true h (by simp [Meets, hstate])

theorem meets_of_refused (hrefused : step base world event = none) : Meets base world event := by
  cases event with
  | callTool _ _ _ _ => cases hrefused
  | createTask _ _ _ _ _ | finish _ _ | updateTask _ _ _ | endTask _ => trivial
  | getTask taskId extensions =>
    intro finished hstate
    simp [step, hstate] at hrefused

end Steps

/-- Every result that a router delivers fits the revision of its peer, at any time of a run, exactly
when every result is delivered to a peer of the revision that the context of its run says, or has
structured content that both revisions permit, or is for an older peer and violates its output
schema. -/
theorem structured_content_fits_reader (base : Extensions) (events : List (Event S)) :
    Execution.Throughout (step base) AllFit {} events ↔
      Execution.Along (step base) (Meets base) {} events :=
  Execution.throughout_iff_along (fun _ _ _ _ _ => trivial)
    (fun _ _ _ _ h hstep => all_fit_step h hstep) (fun _ _ hrefused => meets_of_refused hrefused)
    trivial (show AllFit {} from List.forall_mem_nil _) events

def listTool : BuiltTool Unit where
  checks := { tool := "list", checkShape := true, schemas := none }
  handlers :=
    { service := some fun _ _ =>
        { content := [], structuredContent := some (.array [.null]) }
      callable := rfl }
  checksShape := rfl

def finalExtensions : Extensions where
  statelessMeta := some { protocolVersion := some protocolVersion20260728 }

/-- A task that a final client creates and an older client of the same owner reads gives the older
one a list, and one that an older client creates is rejected for its shape when a final one reads
it. -/
theorem structured_content_read_elsewhere :
    (∃ final, Execution.run (step {}) ({} : World Unit)
        [.createTask "task-1" listTool .null finalExtensions {}, .finish "task-1" (),
          .getTask "task-1" {}] = some final ∧
      (∃ delivery ∈ final.deliveries, delivery.isFinal = false ∧
        delivery.finished.result.structuredContent = some (.array [.null])) ∧
      ¬AllFit final) ∧
    ∃ final, Execution.run (step {}) ({} : World Unit)
        [.createTask "task-1" listTool .null {} {}, .finish "task-1" (),
          .getTask "task-1" finalExtensions] = some final ∧
      (∃ delivery ∈ final.deliveries, delivery.isFinal = true ∧
        delivery.finished.result =
          .fromError (listTool.checks.shapeMessage "array")) ∧
      ¬AllFit final := by
  refine ⟨⟨_, rfl, ⟨_, List.mem_cons_self, rfl, rfl⟩, ?_⟩, _, rfl,
    ⟨_, List.mem_cons_self, rfl, rfl⟩, ?_⟩
  · intro hall
    have hkind : some "array" = none := hall _ List.mem_cons_self
    cases hkind
  · intro hall
    have hrejected : true = false := hall _ List.mem_cons_self
    cases hrejected

end DeliveredShapes

end TowerMcp
