import TowerMcp.Router.InputRequired
import TowerMcp.Router.TaskExecution

/-!
# Rounds of input

A handler that may ask for input, run in the two ways the router has for it: by retries of
`tools/call`, after its synchronous branch in `router.rs`, and as a task, after
`park_task_for_input` and `resume_task` of `router/task_ops.rs` and the accesses of
`async_task.rs`. `rounds_agree_iff` says when the handler sees the same in both.
-/

namespace TowerMcp

namespace Rounds

open TaskExecution (noRequests)

/-! ## Handlers and clients -/

structure MrtrRequest where
  inputResponses : Option (String → Option InputResponse) := none
  requestState : Option String := none

inductive RequestOutcome where
  | complete (result : CallToolResult)
  | inputRequired (required : InputRequiredResult)

abbrev MrtrToolHandler := Json → MrtrRequest → Except Error RequestOutcome

def byKey (responses : InputResponses) : String → Option InputResponse :=
  fun key => responses.lookup key

/-- How a client answers the requests of each round: with a response to each of them. A retry holds
all of them, and updates of the task hold them in parts. -/
structure Client where
  responses : ℕ → InputRequests → InputResponses
  updates : ℕ → InputRequests → List InputResponses
  answers : ∀ round requests key, key ∈ responses round requests ↔ key ∈ requests
  agree : ∀ round requests, ∀ update ∈ updates round requests, ∀ key response,
    update.lookup key = some response → (responses round requests).lookup key = some response
  covers : ∀ round requests, ∀ key ∈ requests, ∃ update ∈ updates round requests, key ∈ update

def Client.atOnce (response : InputRequest → InputResponse) : Client where
  responses _ requests := requests.mapValues response
  updates _ requests := [requests.mapValues response]
  answers _ requests key := by
    rw [← AList.lookup_isSome, ← AList.lookup_isSome, FinMap.lookup_map_values, Option.isSome_map]
  agree _ requests update hupdate key answer h := by
    rw [List.mem_singleton.1 hupdate] at h
    exact h
  covers _ requests key hkey := by
    refine ⟨_, List.mem_singleton_self _, ?_⟩
    rwa [← AList.lookup_isSome, FinMap.lookup_map_values, Option.isSome_map, AList.lookup_isSome]

/-! ## Retries -/

section Retry

variable (params : InputParams) (lifecycle : Option RequestLifecycle) (handler : MrtrToolHandler)
  (arguments : Json) (client : Client)

inductive Retried where
  | calling (request : MrtrRequest)
  | ended (result : Except Error CallToolResult)

def callTool (round : ℕ) (request : MrtrRequest) : Retried :=
  match handler arguments request with
  | .error error => .ended (.error error)
  | .ok (.complete result) => .ended (.ok result)
  | .ok (.inputRequired required) =>
    match validateInputRequiredResult params lifecycle required with
    | .error error => .ended (.error error)
    | .ok _ =>
      .calling
        { inputResponses := required.inputRequests.map fun requests =>
            byKey (client.responses round requests)
          requestState := required.requestState }

def retry : ℕ → Retried
  | 0 => .calling {}
  | round + 1 =>
    match retry round with
    | .calling request => callTool params lifecycle handler arguments client round request
    | .ended result => .ended result

def Retried.seen : Retried → Option (Json × MrtrRequest)
  | .calling request => some (arguments, request)
  | .ended _ => none

end Retry

/-! ## Tasks -/

section Task

variable {E : Type} (router : TaskRouter E) (now : ℕ → Moment) (handler : MrtrToolHandler)
  (client : Client)

inductive Parked where
  | running (task : Task) (request : MrtrRequest)
  | waiting (task : Task)
  | ended (task : Task)

def parkTaskForInput (now : Moment) (task : Task) (required : InputRequiredResult) :
    Except Task Task :=
  let requests := required.inputRequests.getD ∅
  let reused := task.reusedInputKeys requests
  if requests.entries.isEmpty then
    .error (task.fail now (router.taskError .parkInput task.id noRequests))
  else if reused.isEmpty then .ok (task.awaitInput now requests required.requestState)
  else
    .error (task.fail now
      (router.taskError .parkInput task.id (.store (MemoryTaskStore.reusedInputKeysError reused))))

def applyUpdates (now : Moment) : List InputResponses → Task → Option Task
  | [], _ => none
  | update :: rest, task =>
    let (task, applied) := task.applyInputResponses now update
    if TaskRouter.resumes applied then some task else applyUpdates now rest task

def resumeContext (task : Task) : MrtrRequest where
  inputResponses := some (byKey task.inputResponses)
  requestState := none

def invokeTool (round : ℕ) (task : Task) (request : MrtrRequest) : Parked :=
  match handler task.arguments request with
  | .error error => .ended (task.complete (now round) (.fromError error.display))
  | .ok (.complete result) => .ended (task.complete (now round) result)
  | .ok (.inputRequired required) =>
    match parkTaskForInput router (now round) task required with
    | .error failed => .ended failed
    | .ok parked =>
      match applyUpdates (now round)
          (client.updates round (required.inputRequests.getD ∅)) parked with
      | some resumed => .running resumed (resumeContext resumed)
      | none => .waiting parked

def runTask (task : Task) : ℕ → Parked
  | 0 => .running task {}
  | round + 1 =>
    match runTask task round with
    | .running task request => invokeTool router now handler client round task request
    | state => state

def Parked.seen : Parked → Option (Json × MrtrRequest)
  | .running task request => some (task.arguments, request)
  | .waiting _ | .ended _ => none

def parkedIn (task : Task) (round : ℕ) : Option (Task × InputRequiredResult) :=
  match runTask router now handler client task round with
  | .running task request =>
    match handler task.arguments request with
    | .ok (.inputRequired required) =>
      ((parkTaskForInput router (now round) task required).toOption).map fun parked =>
        (parked, required)
    | _ => none
  | _ => none

end Task

/-! ## Agreement -/

/-- A call and a task end with the same result. An error of the handler is the answer to the call,
and the task tells of it by an error result. -/
def SameResult : Retried → Parked → Prop
  | .calling _, .running _ _ => True
  | .ended (.ok result), .ended task => task.status = .completed ∧ task.result = some result
  | .ended (.error error), .ended task =>
    task.status = .completed ∧ task.result = some (.fromError error.display)
  | _, _ => False

section Agreement

variable {E : Type} (params : InputParams) (lifecycle : Option RequestLifecycle)
  (router : TaskRouter E) (now : ℕ → Moment) (handler : MrtrToolHandler) (client : Client)

/-- The rounds of a task are those of a call with its arguments: the handler sees the same in each
of them, both end with the same result, and no parked task tells its request state. -/
structure Agree (task : Task) : Prop where
  inputs : ∀ round,
    (retry params lifecycle handler task.arguments client round).seen task.arguments =
      (runTask router now handler client task round).seen
  results : ∀ round, SameResult (retry params lifecycle handler task.arguments client round)
    (runTask router now handler client task round)
  hidden : ∀ round parked required state,
    parkedIn router now handler client task round = some (parked, required) →
      required.requestState = some state → parked.toTaskObject.statusMessage ≠ some state

/-- What is asked of a handler: that its first run ends, or asks for input that its client can give
and keeps no state, and then its second run ends. -/
def Meets (arguments : Json) : Prop :=
  ∀ required, handler arguments {} = .ok (.inputRequired required) →
    ∃ requests, required = { inputRequests := some requests } ∧ requests ≠ ∅ ∧
      Answerable params lifecycle required ∧
      ∀ second, handler arguments { inputResponses := some (byKey (client.responses 0 requests)) } ≠
        .ok (.inputRequired second)

end Agreement

/-! ## Updates -/

section Updates

variable {client : Client} {round : ℕ} {requests : InputRequests} {now : Moment}

structure Delivering (client : Client) (round : ℕ) (requests : InputRequests) (parked task : Task)
    (left : List InputResponses) : Prop where
  arguments : task.arguments = parked.arguments
  asked : ∀ key ∈ task.inputRequests, key ∈ requests
  stored : ∀ key, task.inputResponses.lookup key =
    if key ∈ requests ∧ key ∉ task.inputRequests then
      (client.responses round requests).lookup key
    else parked.inputResponses.lookup key
  answered : ∀ key ∈ requests, key ∉ task.inputRequests → key ∈ task.answeredInputKeys
  ofClient : ∀ update ∈ left, update ∈ client.updates round requests
  covers : ∀ key ∈ task.inputRequests, ∃ update ∈ left, key ∈ update

variable {parked : Task}

theorem delivering_parked (hrequests : parked.inputRequests = requests) :
    Delivering client round requests parked parked (client.updates round requests) where
  arguments := rfl
  asked key hkey := hrequests ▸ hkey
  stored key := by
    rw [hrequests, if_neg fun h => h.2 h.1]
  answered key hkey hnot := absurd (hrequests ▸ hkey) hnot
  ofClient _ hupdate := hupdate
  covers key hkey := client.covers round requests key (hrequests ▸ hkey)

variable {task : Task}

theorem Delivering.applied {update : InputResponses}
    {rest : List InputResponses}
    (h : Delivering client round requests parked task (update :: rest)) :
    Delivering client round requests parked (task.applyInputResponses now update).1 rest := by
  have hanswered := Task.answered_apply_input_responses now task update
  have hopen : ∀ key, key ∈ (task.applyInputResponses now update).1.inputRequests ↔
      key ∉ update ∧ key ∈ task.inputRequests := by
    intro key
    rw [← AList.lookup_isSome, hanswered.outstanding key]
    by_cases hupdate : key ∈ update
    · simp [hupdate]
    · simp [hupdate, AList.lookup_isSome]
  constructor
  case arguments =>
    exact (apply_input_responses_frame Task.arguments (fun _ _ _ _ => rfl)
      (fun _ _ _ _ => rfl) now task update).trans h.arguments
  case asked => exact fun key hkey => h.asked key ((hopen key).1 hkey).2
  case stored =>
    intro key
    rw [Task.stored_apply_input_responses, h.stored key]
    simp only [hopen key]
    by_cases htask : key ∈ task.inputRequests
    · have hasked := h.asked key htask
      by_cases hupdate : key ∈ update
      · obtain ⟨response, hresponse⟩ := FinMap.mem_iff_lookup.1 hupdate
        have hsame := client.agree round requests update (h.ofClient update List.mem_cons_self) key
          response hresponse
        simp [htask, hasked, hupdate, hresponse, hsame]
      · have hnone : update.lookup key = none := AList.lookup_eq_none.2 hupdate
        simp [htask, hupdate, hnone]
    · simp [htask]
  case answered =>
    intro key hkey hnot
    rw [hanswered.answered key]
    by_cases htask : key ∈ task.inputRequests
    · have hupdate : key ∈ update := by
        by_contra hupdate
        exact hnot ((hopen key).2 ⟨hupdate, htask⟩)
      exact .inr ⟨hupdate, htask⟩
    · exact .inl (h.answered key hkey htask)
  case ofClient => exact fun other hother => h.ofClient other (List.mem_cons_of_mem _ hother)
  case covers =>
    intro key hkey
    obtain ⟨hupdate, htask⟩ := (hopen key).1 hkey
    obtain ⟨other, hother, hin⟩ := h.covers key htask
    obtain rfl | hrest := List.mem_cons.1 hother
    · exact absurd hin hupdate
    · exact ⟨other, hrest, hin⟩

theorem resumes_iff {update : InputResponses} {key : String}
    (hkey : key ∈ task.inputRequests) :
    TaskRouter.resumes (task.applyInputResponses now update).2 = true ↔
      (task.applyInputResponses now update).1.inputRequests = ∅ := by
  have hanswered := Task.answered_apply_input_responses now task update
  unfold TaskRouter.resumes
  rw [Bool.and_eq_true, Bool.not_eq_true', is_complete_apply_input_responses,
    FinMap.is_empty_entries_iff, and_iff_right_iff_imp]
  intro hempty
  have hclosed := hanswered.outstanding key
  rw [hempty, AList.lookup_empty] at hclosed
  have hupdate : key ∈ update := by
    by_contra hupdate
    rw [if_neg hupdate] at hclosed
    exact AList.lookup_eq_none.1 hclosed.symm hkey
  have haccepted := (hanswered.accepted key).2 ⟨hupdate, hkey⟩
  rw [Bool.eq_false_iff, ne_eq, FinMap.is_empty_entries_iff]
  intro hnone
  rw [hnone] at haccepted
  exact AList.notMem_empty key haccepted

structure Resumed (client : Client) (round : ℕ) (requests : InputRequests) (parked resumed : Task) :
    Prop where
  arguments : resumed.arguments = parked.arguments
  open_ : resumed.inputRequests = ∅
  stored : ∀ key, resumed.inputResponses.lookup key =
    if key ∈ requests then (client.responses round requests).lookup key
    else parked.inputResponses.lookup key
  answered : ∀ key ∈ requests, key ∈ resumed.answeredInputKeys

theorem Delivering.resumed {left : List InputResponses}
    (h : Delivering client round requests parked task left)
    (hopen : task.inputRequests ≠ ∅) :
    ∃ resumed, applyUpdates now left task = some resumed ∧
      Resumed client round requests parked resumed := by
  obtain ⟨key, hkey⟩ : ∃ key, key ∈ task.inputRequests := by
    by_contra hnone
    refine hopen (FinMap.eq_empty_of_lookup_none fun key => AList.lookup_eq_none.2 fun hkey => ?_)
    exact hnone ⟨key, hkey⟩
  induction left generalizing task key with
  | nil =>
    obtain ⟨update, hupdate, -⟩ := h.covers key hkey
    cases hupdate
  | cons update rest ih =>
    have happlied : Delivering client round requests parked
      (task.applyInputResponses now update).1 rest := h.applied
    have hresumes : TaskRouter.resumes (task.applyInputResponses now update).2 = true ↔ _ :=
      resumes_iff hkey
    unfold applyUpdates
    dsimp only
    by_cases hempty : (task.applyInputResponses now update).1.inputRequests = ∅
    · rw [if_pos (hresumes.2 hempty)]
      refine ⟨_, rfl, happlied.arguments, hempty, fun other => ?_, fun other hother => ?_⟩
      · rw [happlied.stored other, hempty]
        simp
      · refine happlied.answered other hother ?_
        rw [hempty]
        exact AList.notMem_empty other
    · rw [if_neg (mt hresumes.1 hempty)]
      obtain ⟨other, hother⟩ : ∃ other,
          other ∈ (task.applyInputResponses now update).1.inputRequests := by
        by_contra hnone
        refine hempty (FinMap.eq_empty_of_lookup_none fun other => ?_)
        exact AList.lookup_eq_none.2 fun hother => hnone ⟨other, hother⟩
      exact ih happlied hempty other hother

end Updates

/-! ## Single rounds -/

section Rounds

variable {E : Type} {params : InputParams} {lifecycle : Option RequestLifecycle}
  {router : TaskRouter E} {now : ℕ → Moment} {handler : MrtrToolHandler} {arguments : Json}
  {client : Client}

theorem park_cases (router : TaskRouter E) (now : Moment) (task : Task)
    (required : InputRequiredResult) :
    ((required.inputRequests.getD ∅ = ∅ ∨
        task.reusedInputKeys (required.inputRequests.getD ∅) ≠ []) ∧
      ∃ failed, parkTaskForInput router now task required = .error failed ∧
        failed.status = .failed) ∨
    (required.inputRequests.getD ∅ ≠ ∅ ∧ task.reusedInputKeys (required.inputRequests.getD ∅) = [] ∧
      parkTaskForInput router now task required =
        .ok (task.awaitInput now (required.inputRequests.getD ∅) required.requestState)) := by
  unfold parkTaskForInput
  dsimp only
  by_cases hempty : required.inputRequests.getD ∅ = ∅
  · rw [if_pos (FinMap.is_empty_entries_iff.2 hempty)]
    exact .inl ⟨.inl hempty, _, rfl, rfl⟩
  · rw [if_neg (mt FinMap.is_empty_entries_iff.1 hempty)]
    by_cases hreused : task.reusedInputKeys (required.inputRequests.getD ∅) = []
    · rw [if_pos (List.isEmpty_iff.2 hreused)]
      exact .inr ⟨hempty, hreused, rfl⟩
    · rw [if_neg (mt List.isEmpty_iff.1 hreused)]
      exact .inl ⟨.inr hreused, _, rfl, rfl⟩

theorem reused_new (now : Moment) (id toolName : String) (ttl : ℕ) (owner : TaskOwner)
    (requests : InputRequests) :
    (Task.new now id toolName arguments ttl owner).reusedInputKeys requests = [] := by
  unfold Task.reusedInputKeys
  rw [List.map_eq_nil_iff, List.filter_eq_nil_iff]
  rintro ⟨key, request⟩ -
  simp [Task.reusesInputKey, Task.new]

variable {task : Task} {request : MrtrRequest} {required : InputRequiredResult}

variable {round : ℕ}

theorem invoke_parked
    (hasks : handler task.arguments request = .ok (.inputRequired required))
    (hrequests : required.inputRequests.getD ∅ ≠ ∅)
    (hunused : task.reusedInputKeys (required.inputRequests.getD ∅) = []) :
    ∃ resumed, invokeTool router now handler client round task request =
        .running resumed (resumeContext resumed) ∧
      Resumed client round (required.inputRequests.getD ∅)
        (task.awaitInput (now round) (required.inputRequests.getD ∅) required.requestState)
        resumed := by
  obtain ⟨hfails, -⟩ | ⟨-, -, hparks⟩ := park_cases router (now round) task required
  · exact absurd hfails (not_or.2 ⟨hrequests, not_not.2 hunused⟩)
  · have hdelivers : Delivering client round (required.inputRequests.getD ∅)
        (task.awaitInput (now round) (required.inputRequests.getD ∅) required.requestState)
        (task.awaitInput (now round) (required.inputRequests.getD ∅) required.requestState)
        (client.updates round (required.inputRequests.getD ∅)) := delivering_parked rfl
    obtain ⟨resumed, hresumed, hfacts⟩ := hdelivers.resumed hrequests
    refine ⟨resumed, ?_, hfacts⟩
    unfold invokeTool
    rw [hasks]
    dsimp only
    rw [hparks]
    dsimp only
    rw [hresumed]

theorem SameResult.completed {retried : Retried} (h : SameResult retried (.ended task)) :
    task.status = .completed := by
  cases retried with
  | calling request => exact h.elim
  | ended result =>
    cases result with
    | ok result => exact h.1
    | error error => exact h.1

theorem ends_alike
    (hends : ∀ required, handler task.arguments request ≠ .ok (.inputRequired required)) :
    ∃ result ended,
      callTool params lifecycle handler task.arguments client round request = .ended result ∧
      invokeTool router now handler client round task request = .ended ended ∧
      SameResult (.ended result) (.ended ended) := by
  unfold callTool invokeTool
  cases houtcome : handler task.arguments request with
  | error error => exact ⟨_, _, rfl, rfl, rfl, rfl⟩
  | ok outcome =>
    cases outcome with
    | complete result => exact ⟨_, _, rfl, rfl, rfl, rfl⟩
    | inputRequired required => exact absurd houtcome (hends required)

/-! ## Runs -/

theorem retry_ended {result : Except Error CallToolResult} {first : ℕ} (hle : first ≤ round)
    (h : retry params lifecycle handler arguments client first = .ended result) :
    retry params lifecycle handler arguments client round = .ended result := by
  induction round, hle using Nat.le_induction with
  | base => exact h
  | succ round _ ih => rw [retry, ih]

theorem run_ended {ended : Task} {first : ℕ} (hle : first ≤ round)
    (h : runTask router now handler client task first = .ended ended) :
    runTask router now handler client task round = .ended ended := by
  induction round, hle using Nat.le_induction with
  | base => exact h
  | succ round _ ih => rw [runTask, ih]

theorem agree_of_ends (last : ℕ) (hsame : ∀ round ≤ last, ∃ request current,
      retry params lifecycle handler task.arguments client round = .calling request ∧
      runTask router now handler client task round = .running current request ∧
      current.arguments = task.arguments ∧
      ∀ required, handler task.arguments request = .ok (.inputRequired required) →
        round < last ∧ required.requestState = none) :
    Agree params lifecycle router now handler client task := by
  obtain ⟨request, current, hretry, hrun, harguments, hlast⟩ := hsame last le_rfl
  have hends : ∀ required, handler current.arguments request ≠ .ok (.inputRequired required) := by
    intro required hasks
    rw [harguments] at hasks
    exact absurd (hlast required hasks).1 (lt_irrefl last)
  obtain ⟨result, ended, hcall, hinvoke, hresult⟩ : ∃ result ended,
      callTool params lifecycle handler current.arguments client last request = .ended result ∧
      invokeTool router now handler client last current request = .ended ended ∧
      SameResult (.ended result) (.ended ended) := ends_alike hends
  have hretried : retry params lifecycle handler task.arguments client (last + 1) =
      .ended result := by
    rw [retry, hretry, ← harguments]
    exact hcall
  have hended : runTask router now handler client task (last + 1) = .ended ended := by
    rw [runTask, hrun]
    exact hinvoke
  constructor
  case inputs =>
    intro round
    obtain hle | hlt := le_or_gt (last + 1) round
    · rw [retry_ended hle hretried, run_ended hle hended]
      rfl
    · obtain ⟨request, current, hretry, hrun, harguments, -⟩ := hsame round (by omega)
      rw [hretry, hrun]
      show some _ = some (current.arguments, request)
      rw [harguments]
  case results =>
    intro round
    obtain hle | hlt := le_or_gt (last + 1) round
    · rw [retry_ended hle hretried, run_ended hle hended]
      exact hresult
    · obtain ⟨request, current, hretry, hrun, -⟩ := hsame round (by omega)
      rw [hretry, hrun]
      trivial
  case hidden =>
    intro round parked required state hparked hstate
    unfold parkedIn at hparked
    obtain hle | hlt := le_or_gt (last + 1) round
    · rw [run_ended hle hended] at hparked
      cases hparked
    · obtain ⟨request, current, hretry, hrun, harguments, hnone⟩ := hsame round (by omega)
      rw [hrun] at hparked
      dsimp only at hparked
      rw [harguments] at hparked
      split at hparked
      next asked hasks =>
        obtain ⟨_, _, heq⟩ := Option.map_eq_some_iff.1 hparked
        cases heq
        rw [(hnone _ hasks).2] at hstate
        cases hstate
      next => cases hparked

theorem Agree.first {id toolName : String} {ttl : ℕ} {owner : TaskOwner}
    {created : Moment} (h : Agree params lifecycle router now handler client
      (Task.new created id toolName arguments ttl owner))
    (hasks : handler arguments {} = .ok (.inputRequired required)) :
    ∃ requests, required = { inputRequests := some requests } ∧ requests ≠ ∅ ∧
      Answerable params lifecycle required := by
  set task := Task.new created id toolName arguments ttl owner
  have hunused : task.reusedInputKeys (required.inputRequests.getD ∅) = [] :=
    reused_new created id toolName ttl owner _
  have hrun : runTask router now handler client task 1 =
      invokeTool router now handler client 0 task {} := rfl
  have hretry : retry params lifecycle handler task.arguments client 1 =
      callTool params lifecycle handler arguments client 0 {} := rfl
  obtain ⟨hfails, failed, hfailed, hstatus⟩ | ⟨hrequests, -, hparks⟩ :=
    park_cases router (now 0) task required
  · -- The task fails, which no end of a call is.
    have hended : runTask router now handler client task 1 = .ended failed := by
      rw [hrun]
      unfold invokeTool
      rw [show handler task.arguments {} = _ from hasks]
      dsimp only
      rw [hfailed]
    have hresult := h.results 1
    rw [hended] at hresult
    rw [hresult.completed] at hstatus
    cases hstatus
  · have hparked : parkedIn router now handler client task 0 =
        some (task.awaitInput (now 0) (required.inputRequests.getD ∅) required.requestState,
          required) := by
      show (match handler arguments {} with | .ok (.inputRequired required) => _ | _ => none) = _
      rw [hasks]
      dsimp only
      rw [hparks]
      rfl
    have hstate : required.requestState = none := by
      cases hstate : required.requestState with
      | none => rfl
      | some state =>
        have hhidden := h.hidden 0 _ _ state hparked hstate
        rw [hstate] at hhidden
        exact absurd rfl hhidden
    obtain ⟨resumed, hresumed, -⟩ : ∃ resumed, invokeTool router now handler client 0 task {} =
        .running resumed (resumeContext resumed) ∧ _ := invoke_parked hasks hrequests hunused
    have hinputs := h.inputs 1
    rw [hrun, hresumed, hretry] at hinputs
    unfold callTool at hinputs
    rw [hasks] at hinputs
    dsimp only at hinputs
    cases hvalid : validateInputRequiredResult params lifecycle required with
    | error error =>
      rw [hvalid] at hinputs
      cases hinputs
    | ok valid =>
      have hanswerable := validate_input_required_ok_iff.1 hvalid
      obtain ⟨inputRequests, requestState⟩ := required
      cases inputRequests with
      | none => exact absurd rfl hrequests
      | some requests =>
        obtain rfl := hstate
        exact ⟨requests, rfl, hrequests, hanswerable⟩

theorem resume_context_first {resumed : Task} {requests : InputRequests}
    (hresponses : task.inputResponses = ∅) {message : Option String} {now : Moment}
    (h : Resumed client 0 requests (task.awaitInput now requests message) resumed) :
    resumeContext resumed = { inputResponses := some (byKey (client.responses 0 requests)) } := by
  have hsame : byKey resumed.inputResponses = byKey (client.responses 0 requests) := by
    funext key
    show resumed.inputResponses.lookup key = (client.responses 0 requests).lookup key
    rw [h.stored key]
    split
    next => rfl
    next hnot =>
      have hnone : (client.responses 0 requests).lookup key = none :=
        AList.lookup_eq_none.2 (mt (client.answers 0 requests key).1 hnot)
      show task.inputResponses.lookup key = _
      rw [hnone, hresponses, AList.lookup_empty]
  unfold resumeContext
  rw [hsame]

theorem Agree.second {resumed : Task} {requests : InputRequests}
    {message : Option String} (h : Agree params lifecycle router now handler client task)
    (hrequests : requests ≠ ∅)
    (hresumed : Resumed client 0 requests (task.awaitInput (now 0) requests message) resumed)
    (hretry : retry params lifecycle handler task.arguments client 1 = .calling request)
    (hrun : runTask router now handler client task 1 = .running resumed request)
    (second : InputRequiredResult) :
    handler task.arguments request ≠ .ok (.inputRequired second) := by
  intro hasks
  have harguments : resumed.arguments = task.arguments := hresumed.arguments
  rw [← harguments] at hasks
  have hnext : runTask router now handler client task 2 =
      invokeTool router now handler client 1 resumed request := by
    rw [runTask, hrun]
  obtain ⟨hfails, failed, hfailed, hstatus⟩ | ⟨hothers, hunused, hparks⟩ :=
    park_cases router (now 1) resumed second
  · have hended : runTask router now handler client task 2 = .ended failed := by
      rw [hnext]
      unfold invokeTool
      rw [hasks]
      dsimp only
      rw [hfailed]
    have hresult := h.results 2
    rw [hended] at hresult
    rw [hresult.completed] at hstatus
    cases hstatus
  · -- The task holds the answers of both rounds, and a retry those of the last one.
    obtain ⟨again, hagain, hfacts⟩ : ∃ again,
        invokeTool router now handler client 1 resumed request =
          .running again (resumeContext again) ∧
        Resumed client 1 (second.inputRequests.getD ∅) (resumed.awaitInput (now 1)
          (second.inputRequests.getD ∅) second.requestState) again :=
      invoke_parked hasks hothers hunused
    have hinputs := h.inputs 2
    rw [hnext, hagain, retry, hretry] at hinputs
    unfold callTool at hinputs
    rw [← harguments] at hinputs
    dsimp only at hinputs
    rw [hasks] at hinputs
    dsimp only at hinputs
    cases hvalid : validateInputRequiredResult params lifecycle second with
    | error error =>
      rw [hvalid] at hinputs
      cases hinputs
    | ok valid =>
      rw [hvalid] at hinputs
      have hsame := congrArg MrtrRequest.inputResponses
        (Prod.mk.inj (Option.some.inj hinputs)).2
      obtain ⟨inputRequests, requestState⟩ := second
      cases inputRequests with
      | none => exact hothers rfl
      | some others =>
        obtain ⟨key, hkey⟩ : ∃ key, key ∈ requests := by
          by_contra hnone
          refine hrequests (FinMap.eq_empty_of_lookup_none fun key => ?_)
          exact AList.lookup_eq_none.2 fun hkey => hnone ⟨key, hkey⟩
        have hother : key ∉ others := by
          intro hother
          obtain ⟨asked, hlookup⟩ := FinMap.mem_iff_lookup.1 hother
          have hspent := Task.unused_of_reused_input_keys hunused hlookup
          exact hspent.1 (hresumed.answered key hkey)
        have hlast : byKey (client.responses 1 others) key = byKey again.inputResponses key :=
          congrFun (Option.some.inj hsame) key
        have hnone : (client.responses 1 others).lookup key = none :=
          AList.lookup_eq_none.2 (mt (client.answers 1 others key).1 hother)
        have hkept : again.inputResponses.lookup key =
            (client.responses 0 requests).lookup key := by
          rw [hfacts.stored key]
          show (if key ∈ others then _ else resumed.inputResponses.lookup key) = _
          rw [if_neg hother, hresumed.stored key, if_pos hkey]
        have hanswer : (client.responses 0 requests).lookup key = none :=
          hkept.symm.trans (hlast.symm.trans hnone)
        exact AList.lookup_eq_none.1 hanswer ((client.answers 0 requests key).2 hkey)

end Rounds

/-- A new task and a call with its arguments agree exactly when the first run of the handler ends,
or asks for input that the client can give and keeps no state, and then its second run ends. -/
theorem rounds_agree_iff {E : Type} (params : InputParams) (lifecycle : Option RequestLifecycle)
    (router : TaskRouter E) (now : ℕ → Moment) (handler : MrtrToolHandler) (client : Client)
    (created : Moment) (id toolName : String) (arguments : Json) (ttl : ℕ) (owner : TaskOwner) :
    Agree params lifecycle router now handler client
        (Task.new created id toolName arguments ttl owner) ↔
      Meets params lifecycle handler client arguments := by
  set task := Task.new created id toolName arguments ttl owner
  have hresumes : ∀ {requests : InputRequests} {required : InputRequiredResult},
      handler arguments {} = .ok (.inputRequired required) →
      required = { inputRequests := some requests } → requests ≠ ∅ →
      Answerable params lifecycle required →
      ∃ resumed, Resumed client 0 requests (task.awaitInput (now 0) requests none) resumed ∧
        retry params lifecycle handler task.arguments client 1 =
          .calling { inputResponses := some (byKey (client.responses 0 requests)) } ∧
        runTask router now handler client task 1 =
          .running resumed { inputResponses := some (byKey (client.responses 0 requests)) } := by
    rintro requests required hasks rfl hne hanswerable
    have hnonempty : ((some requests).getD ∅ : InputRequests) ≠ ∅ := hne
    obtain ⟨resumed, hinvoke, hfacts⟩ : ∃ resumed,
        invokeTool router now handler client 0 task {} =
          .running resumed (resumeContext resumed) ∧
        Resumed client 0 requests (task.awaitInput (now 0) requests none) resumed :=
      invoke_parked hasks hnonempty (reused_new created id toolName ttl owner _)
    refine ⟨resumed, hfacts, ?_, ?_⟩
    · show callTool params lifecycle handler arguments client 0 {} = _
      unfold callTool
      rw [hasks]
      dsimp only
      rw [validate_input_required_ok_iff.2 hanswerable]
      rfl
    · show invokeTool router now handler client 0 task {} = _
      rw [hinvoke, resume_context_first rfl hfacts]
  constructor
  · intro h required hasks
    obtain ⟨requests, hrequired, hne, hanswerable⟩ := h.first hasks
    obtain ⟨resumed, hfacts, hretry, hrun⟩ := hresumes hasks hrequired hne hanswerable
    exact ⟨requests, hrequired, hne, hanswerable, h.second hne hfacts hretry hrun⟩
  · intro hmeets
    by_cases hasks : ∃ required, handler arguments {} = .ok (.inputRequired required)
    · obtain ⟨required, hasks⟩ := hasks
      obtain ⟨requests, hrequired, hne, hanswerable, hends⟩ := hmeets required hasks
      obtain ⟨resumed, hfacts, hretry, hrun⟩ := hresumes hasks hrequired hne hanswerable
      refine agree_of_ends 1 fun round hround => ?_
      obtain rfl | rfl : round = 0 ∨ round = 1 := by omega
      · refine ⟨{}, task, rfl, rfl, rfl, fun other hother => ⟨by omega, ?_⟩⟩
        have hsame : required = other := by
          have hboth := hasks.symm.trans hother
          simpa using hboth
        rw [← hsame, hrequired]
      · exact ⟨_, resumed, hretry, hrun, hfacts.arguments, fun second hsecond =>
          absurd hsecond (hends second)⟩
    · refine agree_of_ends 0 fun round hround => ?_
      obtain rfl := Nat.le_zero.1 hround
      exact ⟨{}, task, rfl, rfl, rfl, fun required hother => absurd ⟨required, hother⟩ hasks⟩

def keepsState : MrtrToolHandler := fun _ request =>
  match request.requestState with
  | some _ => .ok (.complete { content := [] })
  | none =>
    .ok (.inputRequired
      { inputRequests := some (AList.insert "roots" (.listRoots (.ok (.object []))) ∅)
        requestState := some "asked" })

/-- A task does not hand the request state of its handler back to it, and shows it as its status
message. -/
theorem request_state_not_kept :
    ¬∀ (E : Type) (params : InputParams) (lifecycle : Option RequestLifecycle)
      (router : TaskRouter E) (now : ℕ → Moment) (handler : MrtrToolHandler) (client : Client)
      (created : Moment) (id toolName : String) (arguments : Json) (ttl : ℕ) (owner : TaskOwner),
      Agree params lifecycle router now handler client
        (Task.new created id toolName arguments ttl owner) := by
  intro hall
  have hagree := hall (Option String)
    { requiresTools := fun _ => false
      includeContext := fun _ => none
      elicitMode := fun _ => .form }
    (some { protocolVersion := some protocolVersion20260728
            clientCapabilities := some { roots := true } })
    TaskRouter.subjectRouter (fun _ => { instant := 0, iso := "" }) keepsState
    (Client.atOnce fun _ => .listRoots (.ok (.object []))) { instant := 0, iso := "" } "task-1"
    "scan" .null 1000 none
  have hhidden := hagree.hidden 0 _ _ "asked" rfl rfl
  exact hhidden rfl

end Rounds

end TowerMcp
