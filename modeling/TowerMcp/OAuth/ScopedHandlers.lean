import TowerMcp.OAuth.ScopedServer

/-!
# Handlers that a token starts

What the layer guarantees over a run. A handler that runs in answer to `tools/call`, `resources/read`
or `prompts/get` has the requirement of its item satisfied by the claims of that request. A handler
that is replayed in answer to `tasks/update` has it satisfied by the claims of an earlier call, which
created the task: the update itself, a completion and a subscription need the default alone. The store
keeps the name of the tool while a task can be read, which carries this from the call to the replay.
-/

namespace TowerMcp

open Execution TaskExecution MemoryTaskStore

/-! ## Futures and the tools they run -/

/-- How far a future is from starting a handler: it comes from a call, from an update, or has found
the tool that it replays. -/
inductive Stage where
  | call
  | update
  | replay
  | underWay
deriving DecidableEq

def Stage.of : Point → Stage
  | .preparing _ _ | .describing _ _ _ | .starting _ => .call
  | .updated _ _ _ | .resuming _ => .update
  | .located _ => .replay
  | _ => .underWay

section Stages

variable {E : Type} {router : TaskRouter E} {world : World} {now : Instant} {point after : Point}
  {reply : Reply} {choice : Choice} {continuation : Option Continuation}

theorem stage_of_launched (taskId : String) (isLive : Bool) :
    Stage.of (launched taskId isLive) = .underWay ∨ Stage.of (launched taskId isLive) = .call := by
  cases isLive with
  | true => exact .inl rfl
  | false => exact .inr rfl

theorem stage_of_answered (h : point.answered router reply = some after) :
    Stage.of after = .underWay ∨ Stage.of after = Stage.of point := by
  cases point with
  | describing taskId isLive metadata =>
    cases h
    split
    next => exact stage_of_launched taskId isLive
    next => exact .inl rfl
  | discarding taskId =>
    obtain ⟨_, h⟩ := Option.ite_none_left_eq_some.1 h
    cases h
    exact .inl rfl
  | parking _ _ _ | completing _ _ =>
    obtain ⟨_, _, rfl⟩ := Option.map_eq_some_iff.1 h
    exact .inl rfl
  | asking _ _ _ | reporting _ _ =>
    cases h
    exact .inl rfl
  | closing taskId outcome =>
    cases outcome with
    | completed result =>
      unfold Point.answered at h
      dsimp only at h
      split at h <;> cases h
      all_goals exact .inl rfl
    | failed _ | cancelled _ =>
      cases h
      exact .inl rfl
  | preparing _ _ | abandoning _ | starting _ | running _ _ | finishing _ _ | failing _ _ | live _
  | leaving _ | updated _ _ _ | resuming _ | located _ | checking _ _ | cancelling _ _ => cases h

theorem stage_of_returned (taskId : String) (replay : Bool)
    (outcome : Except String RequestOutcome) :
    Stage.of (Point.returned router taskId replay outcome) = .underWay := by
  have hconcluded : ∀ result, Stage.of (Point.concluded taskId replay result) = .underWay := by
    intro result
    cases replay with
    | true => rfl
    | false => rfl
  unfold Point.returned
  split
  next => exact hconcluded _
  next => exact hconcluded _
  next =>
    split
    next => rfl
    next => rfl

theorem stage_of_choose
    (h : world.choose router now point choice = some (some after, continuation)) :
    Stage.of after = .underWay ∨ Stage.of after = Stage.of point ∨
      ∃ taskId resume, point = .resuming taskId ∧ after = .located taskId ∧
        resumeContext world.store.data now taskId = some resume := by
  unfold World.choose at h
  split at h
  next =>
    obtain ⟨_, h⟩ := Option.ite_none_right_eq_some.1 h
    cases h
    exact .inl rfl
  next taskId isLive =>
    cases h
    exact (stage_of_launched taskId isLive).imp_right .inl
  next =>
    cases h
    exact .inr (.inl rfl)
  next =>
    cases h
    exact .inl rfl
  next =>
    obtain ⟨hnext, _⟩ := Prod.mk.inj (Option.some.inj h)
    obtain ⟨_, hnext⟩ := Option.ite_none_left_eq_some.1 hnext
    cases hnext
    exact .inl rfl
  next =>
    obtain ⟨_, h⟩ := Option.ite_none_right_eq_some.1 h
    cases h
  next taskId replay outcome =>
    cases h
    exact .inl (stage_of_returned taskId replay outcome)
  next =>
    obtain ⟨hnext, _⟩ := Prod.mk.inj (Option.some.inj h)
    obtain ⟨_, hnext⟩ := Option.ite_none_left_eq_some.1 hnext
    cases hnext
    exact .inl rfl
  next =>
    cases h
    exact .inl rfl
  next =>
    cases h
    exact .inl rfl
  next =>
    cases h
    exact .inl rfl
  next => cases h
  next taskId final resumes =>
    cases resumes with
    | false => cases h
    | true =>
      obtain ⟨_, h⟩ | ⟨_, h⟩ := ite_eq_iff.1 (if_pos rfl ▸ h)
      · cases h
      · cases final with
        | false => cases h
        | true =>
          cases h
          exact .inr (.inl rfl)
  next taskId =>
    split at h
    next resume hresume =>
      cases h
      exact .inr (.inr ⟨taskId, resume, rfl, rfl, hresume⟩)
    next =>
      cases h
      exact .inl rfl
  next =>
    cases h
    exact .inl rfl
  next =>
    cases h
    exact .inl rfl
  next =>
    split at h
    next =>
      obtain ⟨hnext, _⟩ := Prod.mk.inj (Option.some.inj h)
      obtain ⟨_, hnext⟩ := Option.ite_none_left_eq_some.1 hnext
      cases hnext
      exact .inl rfl
    next => cases h
  next => cases h

end Stages

theorem tool_name_of_task_change {store : MemoryTaskStore} {now : Moment} {call : StoreCall}
    {reply : Reply} {before after : Task} (h : TaskChange store now call reply before after) :
    after.toolName = before.toolName := by
  cases h with
  | described _ _ _ | progressed _ _ _ _ _ _ | extended _ _ _ | completed _ _ _ _ | failed _ _ _ _
  | completionRejected _ _ _ _ _ | failureRejected _ _ _ _ _ | signalled _ _ _ _ => rfl
  | parked _ _ _ _ _ _ _ => rfl
  | answered _ responses _ _ =>
    exact apply_input_responses_frame Task.toolName (fun _ _ _ _ => rfl) (fun _ _ _ _ => rfl) now
      before responses
  | cancelled _ reason _ _ _ outcome =>
    have htool := (cancelled_task_facts store now before.raiseToken reason).2.1
    rcases outcome with rfl | rfl
    · exact htool
    · exact htool

/-! ## What was granted -/

def AskedFor (service : ScopeEnforcementService) (log : List Occurrence) (toolName : String) : Prop :=
  ∃ claims params tool ttl,
    Occurrence.accessed claims (.callTool params) (.tool tool (some ttl)) ∈ log ∧
      params.name = toolName ∧ service.Grants claims (some (.tool toolName))

def Occurrence.claims : Occurrence → Option TokenClaims
  | .accessed claims _ _ | .listened claims _ | .ran claims _ _ _ => claims

def Occurrence.item : Occurrence → Option ProtectedItem
  | .accessed _ request _ => request.item
  | .listened _ _ => none
  | .ran _ _ toolName _ => some (.tool toolName)

/-- The claims of the request were granted what was done in answer to it: the item that the layer
checks, and for a replay what the call that created the task asked for. -/
def Occurrence.Authorized (service : ScopeEnforcementService) (log : List Occurrence) :
    Occurrence → Prop
  | .accessed claims request _ => service.Grants claims request.checkedItem
  | .listened claims _ => service.Grants claims none
  | .ran claims _ toolName false => service.Grants claims (some (.tool toolName))
  | .ran claims _ toolName true => service.Grants claims none ∧ AskedFor service log toolName

def Caller.Backed (service : ScopeEnforcementService) (log : List Occurrence) (caller : Caller) :
    Stage → Prop
  | .call => ∃ toolName, caller.toolName = some toolName ∧
      service.Grants caller.claims (some (.tool toolName))
  | .update => service.Grants caller.claims none
  | .replay => service.Grants caller.claims none ∧
      ∃ toolName, caller.toolName = some toolName ∧ AskedFor service log toolName
  | .underWay => True

/-- What holds in every state of a run: a task that can be read was asked for, every future has a
caller that was granted what it may start, and so was everything that was done. -/
structure ScopedServer.Vouched (router : ScopedRouter) (server : ScopedServer) : Prop where
  sound : TaskStore.Sound router.tasks.store server.world.store
  numbered : server.world.futures.Numbered
  records : ∀ id stored, server.world.store.data.tasks.lookup id = some stored →
    stored.expirySignalled = false → AskedFor router.service server.log stored.task.toolName
  futures : ∀ ticket point, server.world.futures.get ticket = some point →
    ∃ caller, server.callers.lookup ticket = some caller ∧
      caller.Backed router.service server.log (Stage.of point)
  log : ∀ occurrence ∈ server.log, occurrence.Authorized router.service server.log

section Granted

variable {service : ScopeEnforcementService} {log later : List Occurrence} {toolName : String}

theorem AskedFor.mono (hlater : log ⊆ later) (h : AskedFor service log toolName) :
    AskedFor service later toolName := by
  obtain ⟨claims, params, tool, ttl, hmem, hname, hgrants⟩ := h
  exact ⟨claims, params, tool, ttl, hlater hmem, hname, hgrants⟩

theorem Occurrence.Authorized.mono (hlater : log ⊆ later) {occurrence : Occurrence}
    (h : occurrence.Authorized service log) : occurrence.Authorized service later := by
  cases occurrence with
  | accessed _ _ _ | listened _ _ => exact h
  | ran claims taskId toolName replay =>
    cases replay with
    | false => exact h
    | true => exact ⟨h.1, h.2.mono hlater⟩

theorem Caller.Backed.mono (hlater : log ⊆ later) {caller : Caller} {stage : Stage}
    (h : caller.Backed service log stage) : caller.Backed service later stage := by
  cases stage with
  | call | update | underWay => exact h
  | replay =>
    obtain ⟨hgrants, toolName, htool, hasked⟩ := h
    exact ⟨hgrants, toolName, htool, hasked.mono hlater⟩

end Granted

namespace ScopedServer

variable {router : ScopedRouter} {server next : ScopedServer} {world middle : World}
  {now : Moment} {call : StoreCall} {reply : Reply}

theorem vouched_init (router : ScopedRouter) : Vouched router {} where
  sound := TaskStore.sound_init router.tasks.store
  numbered := Pool.numbered_empty
  records := by
    intro id stored h
    simp at h
  futures := by
    intro ticket point h
    simp [Pool.get] at h
  log := List.forall_mem_nil _

theorem Vouched.note (h : Vouched router server) {occurrence : Occurrence}
    (hauthorized : occurrence.Authorized router.service (occurrence :: server.log)) :
    Vouched router (server.note occurrence) where
  sound := h.sound
  numbered := h.numbered
  records := fun id stored hlookup hunsignalled =>
    (h.records id stored hlookup hunsignalled).mono (List.subset_cons_self _ _)
  futures := by
    intro ticket point hget
    obtain ⟨caller, hcaller, hbacked⟩ := h.futures ticket point hget
    exact ⟨caller, hcaller, hbacked.mono (List.subset_cons_self _ _)⟩
  log := List.forall_mem_cons.2
    ⟨hauthorized, fun earlier hmem => (h.log earlier hmem).mono (List.subset_cons_self _ _)⟩

theorem tool_name_before (hcalled : Called router.tasks world now call middle reply) {id : String}
    {stored : StoredTask} (hlookup : middle.store.data.tasks.lookup id = some stored)
    (hunsignalled : stored.expirySignalled = false) :
    (∃ created arguments ttl owner,
        call = .createTask created id stored.task.toolName arguments ttl owner) ∨
      ∃ old, world.store.data.tasks.lookup id = some old ∧ old.expirySignalled = false ∧
        old.task.toolName = stored.task.toolName := by
  have hchange := hcalled.stepped.changes id
  rw [hlookup] at hchange
  generalize hbefore : world.store.data.tasks.lookup id = before at hchange
  cases hchange with
  | kept _ _ => exact .inr ⟨stored, rfl, hunsignalled, rfl⟩
  | admitted created toolName arguments ttl ttlMs owner _ drawn task _ =>
    rw [task]
    exact .inl ⟨created, arguments, ttl, owner, drawn⟩
  | changed old _ _ _ unsignalled task =>
    exact .inr ⟨old, rfl, unsignalled.1, (tool_name_of_task_change task).symm⟩
  | retired _ old _ _ =>
    rw [expiry_signalled_retired_record] at hunsignalled
    cases hunsignalled

theorem Vouched.records_of_called (h : Vouched router server)
    (hcalled : Called router.tasks server.world now call middle reply)
    (hcreates : ∀ created id toolName arguments ttl owner,
      call = .createTask created id toolName arguments ttl owner →
        AskedFor router.service server.log toolName)
    (id : String) (stored : StoredTask)
    (hlookup : middle.store.data.tasks.lookup id = some stored)
    (hunsignalled : stored.expirySignalled = false) :
    AskedFor router.service server.log stored.task.toolName := by
  obtain ⟨created, arguments, ttl, owner, hcall⟩ | ⟨old, hold, hunsignalled, htool⟩ :=
    tool_name_before hcalled hlookup hunsignalled
  · exact hcreates created id _ arguments ttl owner hcall
  · rw [← htool]
    exact h.records id old hold hunsignalled

variable {caller : Caller}

theorem Vouched.started (h : Vouched router server) {point : Point}
    (hsound : TaskStore.Sound router.tasks.store world.store)
    (hrecords : ∀ id stored, world.store.data.tasks.lookup id = some stored →
      stored.expirySignalled = false → AskedFor router.service server.log stored.task.toolName)
    (hfutures : world.futures = server.world.futures.start point ∨
      world.futures = server.world.futures)
    (hbacked : caller.Backed router.service server.log (Stage.of point)) :
    Vouched router
      { server with
        world
        callers := server.callers.insert server.world.futures.next caller } where
  sound := hsound
  numbered := by
    obtain hfutures | hfutures := hfutures
    · simpa only [hfutures] using h.numbered.start point
    · simpa only [hfutures] using h.numbered
  records := hrecords
  futures := by
    intro ticket held hget
    by_cases hticket : ticket = server.world.futures.next
    · -- the new ticket is free, so only the future that starts can be there
      obtain hfutures | hfutures := hfutures
      · simp only [hfutures, Pool.get_start_eq_ite, if_pos hticket] at hget
        cases hget
        refine ⟨caller, ?_, hbacked⟩
        simp [FinMap.lookup_insert_eq_ite, hticket]
      · simp only [hfutures, hticket, h.numbered.get_next] at hget
        cases hget
    · have hearlier : server.world.futures.get ticket = some held := by
        obtain hfutures | hfutures := hfutures
        · simpa only [hfutures, Pool.get_start_eq_ite, if_neg hticket] using hget
        · simpa only [hfutures] using hget
      obtain ⟨other, hother, hkept⟩ := h.futures ticket held hearlier
      refine ⟨other, ?_, hkept⟩
      simp only [FinMap.lookup_insert_eq_ite, if_neg hticket]
      exact hother
  log := h.log

theorem Vouched.idle (h : Vouched router server)
    (hsound : TaskStore.Sound router.tasks.store world.store)
    (hrecords : ∀ id stored, world.store.data.tasks.lookup id = some stored →
      stored.expirySignalled = false → AskedFor router.service server.log stored.task.toolName)
    (hfutures : world.futures = server.world.futures) :
    Vouched router
      { server with
        world
        callers := server.callers.insert server.world.futures.next caller } :=
  have hbacked : caller.Backed router.service server.log (Stage.of (.live "")) := trivial
  h.started hsound hrecords (.inr hfutures) hbacked

def IsRequest : Action → Prop
  | .create _ _ _ _ _ _ _ | .update _ _ _ | .cancel _ _ _ => True
  | _ => False

theorem Vouched.start (h : Vouched router server) {action : Action}
    (hstart : server.start router now action caller = some next) (hrequest : IsRequest action)
    (hfresh : FreshDraw server.world ⟨now, action⟩)
    (hgrants : router.service.Grants caller.claims none)
    (hcreates : ∀ live created id toolName arguments ttl owner,
      action = .create live created id toolName arguments ttl owner →
        AskedFor router.service server.log toolName ∧ caller.toolName = some toolName ∧
          router.service.Grants caller.claims (some (.tool toolName))) :
    Vouched router next := by
  obtain ⟨world, hstep, rfl⟩ := Option.map_eq_some_iff.1 hstart
  cases transition_of_step h.sound hfresh hstep with
  | created live created id toolName arguments ttl owner middle answer called =>
    obtain ⟨hasked, htool, hgranted⟩ := hcreates live created id toolName arguments ttl owner rfl
    have hrecords := h.records_of_called called fun _ _ tool _ _ _ hcall => by
      obtain ⟨_, _, rfl, _⟩ := StoreCall.createTask.inj hcall
      exact hasked
    have hfutures : (middle.start (.preparing id live)).futures =
        server.world.futures.start (.preparing id live) :=
      congrArg (Pool.start · _) called.same.1
    exact h.started called.stepped.sound hrecords (.inl hfutures) ⟨toolName, htool, hgranted⟩
  | refused _ _ _ _ called same _ =>
    have hrecords : ∀ id stored, world.store.data.tasks.lookup id = some stored →
        stored.expirySignalled = false →
          AskedFor router.service server.log stored.task.toolName := by
      intro id stored hlookup
      rw [same] at hlookup
      exact h.records id stored hlookup
    exact h.idle called.stepped.sound hrecords called.same.1
  | updated final taskId responses middle applied called =>
    have hrecords := h.records_of_called called nofun
    have hfutures : ∀ point, (middle.start point).futures = server.world.futures.start point :=
      fun _ => congrArg (Pool.start · _) called.same.1
    exact h.started called.stepped.sound hrecords (.inl (hfutures _)) hgrants
  | signalled final taskId reason => exact h.idle h.sound h.records rfl
  | cancelling final taskId reason point starts =>
    refine h.started h.sound h.records (.inl rfl) ?_
    obtain rfl | rfl := starts
    · trivial
    · trivial
  | accessed _ _ _ _ _ _ _ _ | chosen _ _ _ _ _ _ _ _ | retired _ _ _ _ => cases hrequest

theorem Vouched.start_undrawn (h : Vouched router server) {action : Action}
    (hstart : server.start router now action caller = some next) (hrequest : IsRequest action)
    (hundrawn : Event.drawnId ⟨now, action⟩ = none)
    (hgrants : router.service.Grants caller.claims none) : Vouched router next := by
  refine h.start hstart hrequest ?_ hgrants ?_
  · intro id hdrawn
    rw [hundrawn] at hdrawn
    cases hdrawn
  · rintro _ _ _ _ _ _ _ rfl
    cases hundrawn

variable {before after : Point}

theorem stage_of_starts_handler {taskId : String} {replay : Bool}
    (h : startsHandler before after = some (taskId, replay)) :
    Stage.of before = if replay then .replay else .call := by
  unfold startsHandler at h
  split at h
  next => cases h; rfl
  next => cases h; rfl
  next => cases h; rfl
  next => cases h; rfl
  next => cases h

theorem claims_resumed (server : ScopedServer) (now : Moment) (point : Point) (caller : Caller) :
    (server.resumed now point caller).claims = caller.claims := by
  unfold resumed
  split
  next =>
    split
    next => rfl
    next => rfl
  next => rfl

theorem resumed_eq_self (server : ScopedServer) (now : Moment) {point : Point} (caller : Caller)
    (h : Stage.of point ≠ .update) : server.resumed now point caller = caller := by
  cases point with
  | resuming _ | updated _ _ _ => exact absurd rfl h
  | _ => rfl

theorem backed_resumed (h : Vouched router server) (hclock : server.world.store.clock ≤ now.instant)
    (hbacked : caller.Backed router.service server.log (Stage.of before))
    (hstage : Stage.of after = .underWay ∨ Stage.of after = Stage.of before ∨
      ∃ taskId resume, before = .resuming taskId ∧ after = .located taskId ∧
        resumeContext server.world.store.data now.instant taskId = some resume) :
    (server.resumed now before caller).Backed router.service server.log (Stage.of after) := by
  obtain hstage | hstage | ⟨taskId, resume, rfl, rfl, hresume⟩ := hstage
  · rw [hstage]
    trivial
  · rw [hstage]
    by_cases hupdate : Stage.of before = .update
    · rw [hupdate] at hbacked ⊢
      unfold Caller.Backed at hbacked ⊢
      rw [claims_resumed]
      exact hbacked
    · rw [resumed_eq_self server now caller hupdate]
      exact hbacked
  · -- the record is read, so it is one whose tool was asked for
    obtain ⟨stored, hread, rfl⟩ := Option.map_eq_some_iff.1 hresume
    obtain ⟨hlookup, hunexpired⟩ := readable_eq_some.1 hread
    have hunsignalled := (h.sound.advance hclock).signalled.unsignalled hlookup hunexpired
    refine ⟨?_, stored.task.toolName, ?_, h.records taskId stored hlookup hunsignalled⟩
    · rw [claims_resumed]
      exact hbacked
    · simp only [resumed, hresume]

theorem authorized_of_started {log : List Occurrence}
    (hbacked : caller.Backed router.service log (Stage.of before)) :
    ∀ occurrence ∈ started caller before after, occurrence.Authorized router.service log := by
  unfold started
  split
  next taskId replay toolName hstarts htool =>
    rw [stage_of_starts_handler hstarts] at hbacked
    rw [List.forall_mem_singleton]
    cases replay with
    | false =>
      obtain ⟨named, hnamed, hgrants⟩ := hbacked
      obtain rfl := Option.some.inj (hnamed.symm.trans htool)
      exact hgrants
    | true =>
      obtain ⟨hgrants, named, hnamed, hasked⟩ := hbacked
      obtain rfl := Option.some.inj (hnamed.symm.trans htool)
      exact ⟨hgrants, hasked⟩
  next => exact List.forall_mem_nil _

variable {ticket : ℕ}

theorem Vouched.moved (h : Vouched router server)
    {following : Option Point} (hsound : TaskStore.Sound router.tasks.store world.store)
    (hnumbered : world.futures.Numbered)
    (hrecords : ∀ id stored, world.store.data.tasks.lookup id = some stored →
      stored.expirySignalled = false → AskedFor router.service server.log stored.task.toolName)
    (hheld : server.world.futures.get ticket = some before)
    (hfutures : ∀ other, world.futures.get other =
      if other = ticket then following else server.world.futures.get other)
    (hclock : server.world.store.clock ≤ now.instant)
    (hstage : ∀ after, following = some after →
      Stage.of after = .underWay ∨ Stage.of after = Stage.of before ∨
        ∃ taskId resume, before = .resuming taskId ∧ after = .located taskId ∧
          resumeContext server.world.store.data now.instant taskId = some resume) :
    Vouched router (server.moved ticket now world) := by
  obtain ⟨caller, hcaller, hbacked⟩ := h.futures ticket before hheld
  have hfollowing : world.futures.get ticket = following := by
    rw [hfutures, if_pos rfl]
  unfold ScopedServer.moved
  rw [hheld, hcaller, hfollowing]
  cases following with
  | none =>
    refine ⟨hsound, hnumbered, hrecords, ?_, h.log⟩
    intro other point hget
    have hget := (hfutures other).symm.trans hget
    split at hget
    next => cases hget
    next => exact h.futures other point hget
  | some after =>
    have hlater : server.log ⊆ ScopedServer.started caller before after ++ server.log :=
      List.subset_append_right _ _
    refine ⟨hsound, hnumbered, ?_, ?_, ?_⟩
    · intro id stored hlookup hunsignalled
      exact (hrecords id stored hlookup hunsignalled).mono hlater
    · intro other point hget
      have hget := (hfutures other).symm.trans hget
      split at hget
      next hother =>
        cases hget
        refine ⟨server.resumed now before caller, ?_, ?_⟩
        · simp [FinMap.lookup_insert_eq_ite, hother]
        · exact (backed_resumed h hclock hbacked (hstage after rfl)).mono hlater
      next hother =>
        obtain ⟨kept, hkept, hgranted⟩ := h.futures other point hget
        refine ⟨kept, ?_, hgranted.mono hlater⟩
        simpa only [FinMap.lookup_insert_eq_ite, if_neg hother] using hkept
    · intro occurrence hmem
      obtain hmem | hmem := List.mem_append.1 hmem
      · exact (authorized_of_started hbacked occurrence hmem).mono hlater
      · exact (h.log occurrence hmem).mono hlater

theorem Vouched.accessed (h : Vouched router server)
    (hwork : server.work router ⟨now, .access ticket⟩ = some next) : Vouched router next := by
  obtain ⟨world, hstep, rfl⟩ := Option.map_eq_some_iff.1 hwork
  obtain ⟨point, hheld, hrest⟩ := Option.bind_eq_some_iff.1 hstep
  obtain ⟨call, hmakes, hrest⟩ := Option.bind_eq_some_iff.1 hrest
  obtain ⟨⟨middle, reply⟩, hcall, hrest⟩ := Option.bind_eq_some_iff.1 hrest
  cases hrest
  have hundrawn := Point.drawn_id_of_call hmakes
  have hcalled := called_of_call h.sound hcall fun drawn hdrawn =>
    absurd (hundrawn.symm.trans hdrawn) nofun
  have hcreates : ∀ created id toolName arguments ttl owner,
      call = .createTask created id toolName arguments ttl owner →
        AskedFor router.service server.log toolName := by
    rintro created id toolName arguments ttl owner rfl
    cases hundrawn
  have hnumbered : middle.futures.Numbered := by simpa only [hcalled.same.1] using h.numbered
  have hmiddle : middle.futures.get ticket = some point := by
    simpa only [hcalled.same.1] using hheld
  have hrecords := h.records_of_called hcalled hcreates
  have hfutures : ∀ other,
      (middle.move ticket point (point.answered router.tasks reply)).futures.get other =
        if other = ticket then point.answered router.tasks reply
        else server.world.futures.get other := by
    intro other
    rw [get_move, hcalled.same.1]
  refine h.moved hcalled.stepped.sound (numbered_move hnumbered hmiddle) hrecords hheld hfutures
    hcalled.stepped.later ?_
  intro after hafter
  obtain hstage | hstage := stage_of_answered hafter
  · exact .inl hstage
  · exact .inr (.inl hstage)

theorem Vouched.chosen (h : Vouched router server) {choice : Choice}
    (hwork : server.work router ⟨now, .choose ticket choice⟩ = some next) :
    Vouched router next := by
  obtain ⟨world, hstep, rfl⟩ := Option.map_eq_some_iff.1 hwork
  have hfresh : FreshDraw server.world ⟨now, .choose ticket choice⟩ := by
    intro id hdrawn
    cases hdrawn
  cases transition_of_step h.sound hfresh hstep with
  | refused _ _ _ _ _ _ request => exact absurd rfl (request ticket choice)
  | chosen _ _ point following continuation held later chooses =>
    obtain ⟨hfutures, hstore, -⟩ := note_frame
      ((server.world.advance now.instant).move ticket point following) ticket continuation
    have hget : ∀ other,
        (((server.world.advance now.instant).move ticket point following).note ticket
          continuation).futures.get other =
            if other = ticket then following else server.world.futures.get other := by
      intro other
      rw [hfutures, get_move]
      rfl
    refine h.moved ?_ ?_ ?_ held hget later ?_
    · rw [hstore]
      exact h.sound.advance later
    · rw [hfutures]
      exact numbered_move h.numbered held
    · rw [hstore]
      exact h.records
    · intro after hafter
      subst hafter
      exact stage_of_choose chooses

theorem Vouched.work (h : Vouched router server) {event : TaskExecution.Event}
    (hwork : server.work router event = some next) : Vouched router next := by
  obtain ⟨now, action⟩ := event
  cases action with
  | create _ _ _ _ _ _ _ | update _ _ _ | cancel _ _ _ => cases hwork
  | access ticket => exact h.accessed hwork
  | choose ticket choice => exact h.chosen hwork
  | retire remove =>
    obtain ⟨world, hstep, rfl⟩ := Option.map_eq_some_iff.1 hwork
    obtain ⟨⟨middle, reply⟩, hcall, hrest⟩ := Option.bind_eq_some_iff.1 hstep
    cases hrest
    have hcalled := called_of_call h.sound hcall nofun
    refine ⟨hcalled.stepped.sound, ?_, h.records_of_called hcalled nofun, ?_, h.log⟩
    · simpa only [hcalled.same.1] using h.numbered
    · simpa only [hcalled.same.1] using h.futures

variable {arrival : Arrival}

theorem Vouched.createTask (h : Vouched router server) {params : McpRouter.CallToolParams}
    {tool : Tool} {ttl : Option ℕ}
    (hgrants : router.service.Grants arrival.request.extensions.claims
      (some (.tool params.name))) (hasked : AskedFor router.service server.log params.name)
    (hcreate : server.createTask router arrival params tool ttl = some next) :
    Vouched router next := by
  unfold ScopedServer.createTask at hcreate
  split at hcreate
  next =>
    cases hcreate
    exact h
  next owner _ =>
    obtain ⟨hnew, hstart⟩ := Option.ite_none_left_eq_some.1 hcreate
    refine h.start hstart trivial ?_ hgrants.default ?_
    · intro id hdrawn
      cases hdrawn
      exact hnew
    · intro _ _ _ toolName _ _ _ haction
      obtain ⟨_, _, _, rfl, _⟩ := Action.create.inj haction
      exact ⟨hasked, rfl, hgrants⟩

theorem Vouched.access (h : Vouched router server) {request : AccessRequest}
    (hgrants : router.service.Grants arrival.request.extensions.claims request.checkedItem)
    (haccess : server.access router arrival request = some next) : Vouched router next := by
  unfold ScopedServer.access at haccess
  split at haccess
  next =>
    cases haccess
    exact h
  next reached _ =>
    have hnoted : Vouched router
        (server.note (.accessed arrival.request.extensions.claims request reached)) :=
      h.note hgrants
    split at haccess
    next params tool ttl _ =>
      refine hnoted.createTask hgrants ?_ haccess
      exact ⟨_, params, tool, ttl, List.mem_cons_self, rfl, hgrants⟩
    next =>
      cases haccess
      exact hnoted

theorem Vouched.serve (h : Vouched router server) {request : TaskRequest}
    (hgrants : router.service.Grants arrival.request.extensions.claims none)
    (hserve : server.serve router arrival request = some next) : Vouched router next := by
  unfold ScopedServer.serve at hserve
  dsimp only at hserve
  split at hserve
  next =>
    cases hserve
    exact h.note hgrants
  next =>
    split at hserve
    next =>
      cases hserve
      exact h
    next =>
      exact h.start_undrawn hserve trivial rfl hgrants
  next =>
    exact h.start_undrawn hserve trivial rfl hgrants
  next =>
    cases hserve
    exact h

theorem vouched_step {event : Event} (h : Vouched router server)
    (hstep : server.step router event = some next) : Vouched router next := by
  cases event with
  | work event => exact h.work hstep
  | arrive arrival =>
    obtain ⟨now, clock, registry, completionHandler, ⟨extensions, inner⟩, created, id, arguments⟩ :=
      arrival
    unfold ScopedServer.step at hstep
    dsimp only at hstep
    split at hstep
    next =>
      cases hstep
      exact h
    next hauthorized =>
      cases inner with
      | access request => exact h.access (ScopeEnforcementService.grants_of_authorized hauthorized) hstep
      | task request => exact h.serve (ScopeEnforcementService.grants_of_authorized_task hauthorized) hstep
      | other =>
        cases hstep
        exact h

/-- Every run: what is done in answer to a request was granted to its claims. A call, a read and a
prompt need the requirement of their item, a replay needs it from the call that created its task, and
everything needs the default. -/
theorem scopes_respected (router : ScopedRouter) {events : List Event} {final : ScopedServer}
    (hrun : run (ScopedServer.step router ·) {} events = some final) :
    ∀ occurrence ∈ final.log, occurrence.Authorized router.service final.log := by
  have hkeeps : ∀ (before : ScopedServer) event after, Vouched router before →
      before.step router event = some after → Vouched router after :=
    fun _ _ _ => vouched_step
  exact (run_invariant hkeeps (vouched_init router) hrun).log

/-! ## Requests that name an item otherwise -/

/-- A router that asks for a scope to call `report` and for one to get `briefing`. The owner of a
task is the subject of the token. -/
def reportRouter : ScopedRouter where
  service :=
    { policy :=
        { toolScopes := AList.insert "report" ⟨["reports"]⟩ ∅
          promptScopes := AList.insert "briefing" ⟨["briefings"]⟩ ∅ } }
  tasks :=
    { store := TaskStore.narrowStore
      finalTasksEnabled := true
      taskOwnerResolver := defaultTaskOwnerResolver fun extensions =>
        extensions.claims.bind (·.sub)
      taskErrorPolicy := .default
      isFinalProtocolRequest := fun extensions => isFinalProtocolRequest extensions.values
      clientDeclaresTasks := fun extensions => clientDeclaresTasks extensions.values
      decodeInputResponse := fun _ => some (.listRoots (.ok .null)) }
  isLive := fun _ => false

def reportRegistry : McpRouter where
  tools := Registry.empty.register { name := "report", taskSupport := .required, handler := 0 }
  prompts := Registry.empty.register { name := "briefing", handler := 1 }
  protocolExtensions := AList.insert tasksExtensionId .null ∅

/-- The claims of a token of `alice` with these scopes. -/
def aliceWith (scope : String) : TokenClaims where
  sub := some "alice"
  scope := some scope

/-- A stateless request of `alice` at a second of the clock. -/
def aliceAsks (seconds : ℕ) (scope : String) (inner : ScopedRequest) : Event :=
  .arrive
    { now := ⟨seconds, "now"⟩
      clock := fun _ => ⟨seconds, ⟨seconds, "now"⟩, seconds, le_refl _, le_refl _⟩
      router := reportRegistry
      completionHandler := some 2
      request :=
        { extensions :=
            { claims := some (aliceWith scope)
              values :=
                { statelessMeta := some
                    { protocolVersion := some protocolVersion20260728
                      clientCapabilities := some
                        { extensions := some (AList.insert tasksExtensionId .null ∅) } } } }
          inner }
      created := ⟨0, "then"⟩
      id := "a" }

/-- A call whose task is parked, and an update and a completion with a token that lacks the scopes of
both items. -/
def reportEvents : List Event :=
  [aliceAsks 0 "reports" (.access (.callTool { name := "report" })),
    .work (eventAt 0 (.choose 0 (.prepared (.ok none)))),
    .work (eventAt 0 (.choose 0 .proceed)),
    .work (eventAt 1 (.choose 0 (.returned (.ok (.inputRequired rootsRequest none))))),
    .work (eventAt 1 (.access 0)),
    aliceAsks 2 "" (.task (.update "a" (AList.insert "roots" .null ∅))),
    .work (eventAt 2 (.choose 1 .proceed)),
    .work (eventAt 2 (.choose 1 .proceed)),
    .work (eventAt 2 (.choose 1 (.found true))),
    aliceAsks 3 "" (.access (.complete (.prompt "briefing")))]

theorem log_of_report_events :
    ((run (ScopedServer.step reportRouter ·) {} reportEvents).map fun final =>
        final.log.map fun occurrence => (occurrence.claims, occurrence.item)) =
      some [(some (aliceWith ""), some (.prompt "briefing")),
        (some (aliceWith ""), some (.tool "report")),
        (some (aliceWith "reports"), some (.tool "report")),
        (some (aliceWith "reports"), some (.tool "report"))] := by
  decide +kernel

/-- A completion and a replay answer a request whose claims lack the scopes of the item. -/
theorem scopes_bypassed :
    ∃ final, run (ScopedServer.step reportRouter ·) {} reportEvents = some final ∧
      ∀ item, item = .prompt "briefing" ∨ item = .tool "report" →
        (∃ occurrence ∈ final.log,
            occurrence.claims = some (aliceWith "") ∧ occurrence.item = some item) ∧
          ¬reportRouter.service.Grants (some (aliceWith "")) (some item) := by
  obtain ⟨final, hrun, hlog⟩ := Option.map_eq_some_iff.1 log_of_report_events
  have hoccurs : ∀ item,
      (some (aliceWith ""), some item) ∈
          final.log.map (fun occurrence => (occurrence.claims, occurrence.item)) →
        ∃ occurrence ∈ final.log,
          occurrence.claims = some (aliceWith "") ∧ occurrence.item = some item := by
    intro item hmem
    obtain ⟨occurrence, hmem, heq⟩ := List.mem_map.1 hmem
    exact ⟨occurrence, hmem, Prod.mk.inj heq⟩
  have hrefused : ∀ item,
      reportRouter.service.policy.checkItem (aliceWith "") item ≠ .ok () →
        ¬reportRouter.service.Grants (some (aliceWith "")) (some item) :=
    fun item hchecked hgrants => hchecked (hgrants.2 item rfl)
  refine ⟨final, hrun, ?_⟩
  rintro item (rfl | rfl)
  · exact ⟨hoccurs _ (hlog ▸ by simp), hrefused _ (by decide)⟩
  · exact ⟨hoccurs _ (hlog ▸ by simp), hrefused _ (by decide)⟩

theorem scopes_respected_replay :
    ∃ final, run (ScopedServer.step reportRouter ·) {} reportEvents = some final ∧
      ∀ occurrence ∈ final.log, occurrence.Authorized reportRouter.service final.log := by
  obtain ⟨final, hrun, -⟩ := Option.map_eq_some_iff.1 log_of_report_events
  exact ⟨final, hrun, scopes_respected reportRouter hrun⟩

end ScopedServer

end TowerMcp
