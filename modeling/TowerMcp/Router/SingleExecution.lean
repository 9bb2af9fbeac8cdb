import TowerMcp.Router.TaskExecution

/-!
# One execution of a task at a time

The handler of an ordinary task never runs twice at once, and a task becomes terminal once. At most
one future carries an ordinary task on, and none does while the task waits for input: a future that
parks its task lets go of it, and of the updates that race to answer it the store moves the task for
one alone, the one that answers the last request. A task that is terminal stays so, and its
identifier is not drawn again.
-/

namespace TowerMcp

open Execution MemoryTaskStore Pool

namespace TaskExecution

/-- What holds in every state of a run. A task that is not live is carried on by one future at most,
and by none while it waits for input. -/
structure Orderly {E : Type} (router : TaskRouter E) (world : World) : Prop where
  sound : TaskStore.Sound router.store world.store
  numbered : world.futures.Numbered
  records : RecordsInStep world.liveTasks world.store.data
  drawn : world.futures.Holds fun point =>
    ∀ id, point.owner = some id → id ∈ TaskStore.drawnIds world.store.events
  live : world.futures.Holds fun point => ∀ id, point.liveTask = some id → id ∈ world.liveTasks
  single : ∀ id, id ∉ world.liveTasks → ∀ first second one other,
    world.futures.get first = some one → world.futures.get second = some other →
    one.owner = some id → other.owner = some id → first = second
  parked : world.futures.Holds fun point => ∀ id, point.owner = some id → id ∉ world.liveTasks →
    world.store.data.status id ≠ some .inputRequired

theorem orderly_init {E : Type} (router : TaskRouter E) : Orderly router {} where
  sound := TaskStore.sound_init router.store
  numbered := numbered_empty
  records := by
    intro id stored h
    simp at h
  drawn := holds_empty
  live := holds_empty
  single := by
    intro id _ first second one other h
    exact absurd h (by simp [Pool.get])
  parked := holds_empty

def Continues (world next : World) : Prop :=
  ∀ ticket point, next.futures.get ticket = some point →
    ∃ before, world.futures.get ticket = some before ∧ Point.Follows before point

section Step

variable {E : Type} {router : TaskRouter E} {world middle next : World} {now : Moment}
  {call : StoreCall} {reply : Reply} {ticket : ℕ} {point : Point} {id : String}

theorem Point.Follows.refl (point : Point) : point.Follows point where
  owner := fun _ h => h
  liveTask := fun _ h => h

theorem get_move (world : World) (ticket : ℕ) (point : Point) (following : Option Point)
    (other : ℕ) :
    (world.move ticket point following).futures.get other =
      if other = ticket then following else world.futures.get other := by
  cases following with
  | none => exact get_finish_eq_ite world.futures ticket other
  | some next => exact get_become_eq_ite world.futures ticket next other

variable {following : Option Point}

theorem numbered_move (h : world.futures.Numbered) (hheld : world.futures.get ticket = some point) :
    (world.move ticket point following).futures.Numbered := by
  cases following with
  | none => exact h.finish ticket
  | some next => exact h.become hheld next

theorem continues_move (hheld : world.futures.get ticket = some point)
    (hfollows : ∀ next, following = some next → point.Follows next) :
    Continues world (world.move ticket point following) := by
  intro other moved hget
  rw [get_move] at hget
  split at hget
  next hother =>
    rw [hother]
    exact ⟨point, hheld, hfollows moved hget⟩
  next => exact ⟨moved, hget, .refl moved⟩

theorem Called.same (h : Called router world now call next reply) :
    next.futures = world.futures ∧ next.liveTasks = world.liveTasks ∧
      next.executions = world.executions ∧ next.updates = world.updates := by
  rw [h.rest]
  exact ⟨rfl, rfl, rfl, rfl⟩

theorem Orderly.continued (h : Orderly router world) (hfutures : Continues world next)
    (hlive : next.liveTasks = world.liveTasks) (hnumbered : next.futures.Numbered)
    (hsound : TaskStore.Sound router.store next.store)
    (hrecords : RecordsInStep world.liveTasks next.store.data)
    (hdrawn : ∀ id, id ∈ TaskStore.drawnIds world.store.events →
      id ∈ TaskStore.drawnIds next.store.events)
    (hparked : next.futures.Holds fun point => ∀ id, point.owner = some id →
      id ∉ world.liveTasks → next.store.data.status id ≠ some .inputRequired) :
    Orderly router next where
  sound := hsound
  numbered := hnumbered
  records := by
    rw [hlive]
    exact hrecords
  drawn := by
    intro ticket point hget id howner
    obtain ⟨before, hbefore, hfollows⟩ := hfutures ticket point hget
    exact hdrawn id (h.drawn ticket before hbefore id (hfollows.owner id howner))
  live := by
    intro ticket point hget id hid
    obtain ⟨before, hbefore, hfollows⟩ := hfutures ticket point hget
    rw [hlive]
    exact h.live ticket before hbefore id (hfollows.liveTask id hid)
  single := by
    intro id hid first second one other hone hother howns hownsOther
    rw [hlive] at hid
    obtain ⟨before, hbefore, hfollows⟩ := hfutures first one hone
    obtain ⟨earlier, hearlier, hkept⟩ := hfutures second other hother
    exact h.single id hid first second before earlier hbefore hearlier
      (hfollows.owner id howns) (hkept.owner id hownsOther)
  parked := by
    rw [hlive]
    exact hparked

theorem Orderly.started (h : Orderly router world)
    (hdrawn : ∀ id, point.owner = some id → id ∈ TaskStore.drawnIds world.store.events)
    (hlive : ∀ id, point.liveTask = some id → id ∈ world.liveTasks)
    (hfree : ∀ id, point.owner = some id → id ∉ world.liveTasks →
      world.futures.Holds (fun other => other.owner ≠ some id) ∧
        world.store.data.status id ≠ some .inputRequired) :
    Orderly router (world.start point) where
  sound := h.sound
  numbered := h.numbered.start point
  records := h.records
  drawn := h.drawn.start hdrawn
  live := h.live.start hlive
  single := by
    intro id hid first second one other hone hother howns hownsOther
    have hone : (world.futures.start point).get first = some one := hone
    have hother : (world.futures.start point).get second = some other := hother
    rw [get_start_eq_ite] at hone hother
    split at hone
    next hfirst =>
      cases hone
      split at hother
      next hsecond => rw [hfirst, hsecond]
      next => exact absurd hownsOther ((hfree id howns hid).1 second other hother)
    next =>
      split at hother
      next =>
        cases hother
        exact absurd howns ((hfree id hownsOther hid).1 first one hone)
      next => exact h.single id hid first second one other hone hother howns hownsOther
  parked := h.parked.start fun id howner hid => (hfree id howner hid).2

theorem Orderly.called (h : Orderly router world)
    (hcalled : Called router world now call middle reply) (hrouted : call.IsRouted)
    (hreports : ∀ id status message, call = .setStatus id status message → id ∈ world.liveTasks)
    (hstore : next.store = middle.store) (hlive : next.liveTasks = world.liveTasks)
    (hfutures : Continues world next) (hnumbered : next.futures.Numbered)
    (hparks : ∀ id requests message, call = .requireInput id requests message →
      reply = .done (.ok true) → id ∉ world.liveTasks →
      next.futures.Holds fun other => other.owner ≠ some id) : Orderly router next := by
  refine h.continued hfutures hlive hnumbered ?_ ?_ ?_ ?_
  · rw [hstore]
    exact hcalled.stepped.sound
  · rw [hstore]
    exact h.records.step hrouted hreports hcalled.stepped
  · intro id hdrawn
    rw [hstore]
    exact TaskStore.drawn_of_stepped hcalled.stepped hdrawn
  · intro ticket point hget id howner hid hwaiting
    rw [hstore] at hwaiting
    rcases input_required_before hrouted hcalled.stepped hwaiting with
      hbefore | ⟨requests, message, hcall, hreply⟩
    · obtain ⟨before, hheld, hfollows⟩ := hfutures ticket point hget
      exact h.parked ticket before hheld id (hfollows.owner id howner) hid hbefore
    · exact hparks id requests message hcall hreply hid ticket point hget howner

theorem Orderly.called_quietly (h : Orderly router world)
    (hcalled : Called router world now call next reply) (hrouted : call.IsRouted)
    (hreports : ∀ id status message, call ≠ .setStatus id status message)
    (hparks : ∀ id requests message, call ≠ .requireInput id requests message) :
    Orderly router next := by
  obtain ⟨hfutures, hlive, _, _⟩ := hcalled.same
  refine h.called hcalled hrouted (fun id status message hcall => absurd hcall
    (hreports id status message)) rfl hlive ?_ ?_ fun id requests message hcall => absurd hcall
    (hparks id requests message)
  · intro ticket point hget
    rw [hfutures] at hget
    exact ⟨point, hget, .refl point⟩
  · rw [hfutures]
    exact h.numbered

theorem Orderly.accessed (h : Orderly router world) (hheld : world.futures.get ticket = some point)
    (hmakes : point.call = some call) (hcalled : Called router world now call middle reply) :
    Orderly router (middle.move ticket point (point.answered router reply)) := by
  obtain ⟨hfutures, hlive, _, _⟩ := hcalled.same
  have hmiddle : middle.futures.get ticket = some point := by
    rw [hfutures]
    exact hheld
  have hcontinues : Continues world (middle.move ticket point (point.answered router reply)) := by
    intro other moved hget
    have hfollowed := continues_move hmiddle
      (fun next hnext => Point.follows_of_answered hnext) other moved hget
    rw [hfutures] at hfollowed
    exact hfollowed
  refine h.called hcalled (Point.call_routed hmakes) ?_ rfl hlive hcontinues ?_ ?_
  · intro id status message hcall
    rw [hcall] at hmakes
    exact h.live ticket point hheld id (Point.live_task_of_report hmakes)
  · apply numbered_move _ hmiddle
    rw [hfutures]
    exact h.numbered
  · intro id requests message hcall hreply hid other moved hget howner
    rw [hcall] at hmakes
    rcases Point.parks_of_call hmakes with ⟨asked, rfl⟩ | hhost
    · -- the future that has parked its task has ended
      obtain ⟨before, hbefore, hfollows⟩ := hcontinues other moved hget
      have hsame : other = ticket :=
        h.single id hid other ticket before _ hbefore hheld (hfollows.owner id howner) rfl
      rw [get_move, if_pos hsame, hreply] at hget
      cases hget
    · exact hid (h.live ticket point hheld id hhost)

theorem note_frame (world : World) (ticket : ℕ) (continuation : Option Continuation) :
    (world.note ticket continuation).futures = world.futures ∧
      (world.note ticket continuation).store = world.store ∧
      (world.note ticket continuation).executions = world.executions ∧
      (world.note ticket continuation).liveTasks = world.liveTasks := by
  unfold World.note
  split <;> exact ⟨rfl, rfl, rfl, rfl⟩

theorem Orderly.note (h : Orderly router world) (continuation : Option Continuation) :
    Orderly router (world.note ticket continuation) := by
  unfold World.note
  split
  next => exact ⟨h.sound, h.numbered, h.records, h.drawn, h.live, h.single, h.parked⟩
  next => exact h

theorem Orderly.chosen (h : Orderly router world) (hheld : world.futures.get ticket = some point)
    (hlater : world.store.clock ≤ now.instant) {choice : Choice}
    {continuation : Option Continuation}
    (hchoose : world.choose router now.instant point choice = some (following, continuation)) :
    Orderly router
      (((world.advance now.instant).move ticket point following).note ticket continuation) := by
  have hcontinues : Continues world ((world.advance now.instant).move ticket point following) := by
    have hadvanced : (world.advance now.instant).futures.get ticket = some point := hheld
    refine continues_move hadvanced fun next hnext => ?_
    rw [hnext] at hchoose
    exact Point.follows_of_choose hchoose
  refine Orderly.note (h.continued hcontinues rfl ?_ (h.sound.advance hlater) h.records
    (fun _ hdrawn => hdrawn) ?_) continuation
  · exact numbered_move h.numbered hheld
  · intro other moved hget id howner hid
    obtain ⟨before, hbefore, hfollows⟩ := hcontinues other moved hget
    exact h.parked other before hbefore id (hfollows.owner id howner) hid

theorem Orderly.add_live (h : Orderly router world) (id : String) :
    Orderly router { world with liveTasks := id :: world.liveTasks } where
  sound := h.sound
  numbered := h.numbered
  records := by
    intro other stored hlookup hunsignalled
    have hstored := h.records other stored hlookup hunsignalled
    exact ⟨hstored.waits, fun hid => hstored.belongs fun hmem => hid (List.mem_cons_of_mem id hmem),
      hstored.raised⟩
  drawn := h.drawn
  live := fun ticket point hget other hid => List.mem_cons_of_mem id (h.live ticket point hget other hid)
  single := fun other hid => h.single other fun hmem => hid (List.mem_cons_of_mem id hmem)
  parked := fun ticket point hget other howner hid =>
    h.parked ticket point hget other howner fun hmem => hid (List.mem_cons_of_mem id hmem)

theorem Orderly.created (h : Orderly router world) {live : Bool} {created : Moment}
    {toolName : String} {arguments : Json} {ttl : Option ℕ} {owner : TaskOwner} {answer : String}
    (hfresh : id ∉ TaskStore.drawnIds world.store.events)
    (hcalled : Called router world now (.createTask created id toolName arguments ttl owner) middle
      (.created (.ok answer))) :
    Orderly router { middle.start (.preparing id live) with
      liveTasks := if live then id :: world.liveTasks else world.liveTasks } := by
  obtain ⟨hfutures, hlive, _, _⟩ := hcalled.same
  have hmiddle : Orderly router middle := h.called_quietly hcalled trivial nofun nofun
  have hdrawn : id ∈ TaskStore.drawnIds middle.store.events := drawn_of_called hcalled rfl
  -- the task is new: no future carries it on, and it is working
  have hfree : middle.futures.Holds (fun other => other.owner ≠ some id) ∧
      middle.store.data.status id ≠ some .inputRequired := by
    constructor
    · intro ticket point hget howner
      rw [hfutures] at hget
      exact hfresh (h.drawn ticket point hget id howner)
    · intro hwaiting
      have hrouted : (StoreCall.createTask created id toolName arguments ttl owner).IsRouted := trivial
      rcases input_required_before hrouted hcalled.stepped hwaiting with hbefore | ⟨_, _, hcall, _⟩
      · obtain ⟨stored, hlookup, _⟩ := Option.map_eq_some_iff.1 hbefore
        exact hfresh (h.sound.drawn id stored hlookup)
      · cases hcall
  rw [← hlive]
  cases live with
  | true =>
    have hstarted : Orderly router
        (World.start { middle with liveTasks := id :: middle.liveTasks } (.preparing id true)) := by
      refine (hmiddle.add_live id).started ?_ ?_ ?_
      · intro other howner
        cases howner
        exact hdrawn
      · intro other hid
        cases hid
        exact List.mem_cons_self
      · intro other howner _
        cases howner
        exact hfree
    exact hstarted
  | false =>
    have hstarted : Orderly router (middle.start (.preparing id false)) := by
      refine hmiddle.started ?_ nofun ?_
      · intro other howner
        cases howner
        exact hdrawn
      · intro other howner _
        cases howner
        exact hfree
    exact hstarted

theorem Orderly.updated (h : Orderly router world) {final : Bool} {taskId : String}
    {responses : InputResponses} {applied : AppliedInputResponses} {updates : FinMap ℕ UpdateNote}
    (hcalled : Called router world now (.applyInputResponses taskId responses) middle
      (.applied (.ok (some applied)))) :
    Orderly router { middle.start (.updated taskId final (TaskRouter.resumes applied)) with
      updates := updates } := by
  obtain ⟨hfutures, hlive, _, _⟩ := hcalled.same
  have hmiddle : Orderly router middle := h.called_quietly hcalled trivial nofun nofun
  obtain ⟨old, new, hold, hnew, hunsignalled, rfl, hafter⟩ := answered_of_called hcalled
  have hstarted : Orderly router (middle.start (.updated taskId final
      (TaskRouter.resumes (old.task.applyInputResponses now responses).2))) := by
    refine hmiddle.started ?_ nofun ?_
    · intro id howner
      obtain ⟨_, hid⟩ := Option.ite_none_right_eq_some.1 howner
      cases hid
      exact TaskStore.drawn_of_stepped hcalled.stepped (h.sound.drawn taskId old hold)
    · intro id howner hordinary
      obtain ⟨hresumes, hid⟩ := Option.ite_none_right_eq_some.1 howner
      cases hid
      rw [hlive] at hordinary
      -- the update has moved the task, which waited, so nobody carries it on
      obtain ⟨hwaited, hworking⟩ := moved_of_resumes
        ((h.records taskId old hold hunsignalled).belongs hordinary) hresumes
      constructor
      · intro ticket point hget hcarries
        rw [hfutures] at hget
        refine h.parked ticket point hget taskId hcarries hordinary ?_
        rw [MemoryTaskStoreData.status, hold, ← hwaited]
        rfl
      · rw [MemoryTaskStoreData.status, hnew, Option.map_some, hafter, hworking]
        decide
  exact ⟨hstarted.sound, hstarted.numbered, hstarted.records, hstarted.drawn, hstarted.live,
    hstarted.single, hstarted.parked⟩

theorem Orderly.refused (h : Orderly router world)
    (hcalled : Called router world now call next reply)
    (hsame : ∀ key, next.store.data.tasks.lookup key = world.store.data.tasks.lookup key) :
    Orderly router next := by
  obtain ⟨hfutures, hlive, _, _⟩ := hcalled.same
  refine h.continued ?_ hlive ?_ hcalled.stepped.sound ?_
    (fun id hdrawn => TaskStore.drawn_of_stepped hcalled.stepped hdrawn) ?_
  · intro ticket point hget
    rw [hfutures] at hget
    exact ⟨point, hget, .refl point⟩
  · rw [hfutures]
    exact h.numbered
  · intro id stored hlookup
    rw [hsame] at hlookup
    exact h.records id stored hlookup
  · rw [hfutures]
    intro ticket point hget id howner hid
    rw [MemoryTaskStoreData.status, hsame]
    exact h.parked ticket point hget id howner hid

variable {event : Event}

theorem Orderly.step (h : Orderly router world) (hfresh : FreshDraw world event)
    (hstep : step router world event = some next) : Orderly router next := by
  obtain ⟨now, action⟩ := event
  cases transition_of_step h.sound hfresh hstep with
  | created live created id toolName arguments ttl owner middle answer called =>
    exact h.created (hfresh id rfl) called
  | refused _ call _ reply called same _ => exact h.refused called same
  | updated final taskId responses middle applied called => exact h.updated called
  | signalled _ _ _ => exact h
  | cancelling _ _ _ point starts =>
    rcases starts with rfl | rfl
    · exact h.started nofun nofun nofun
    · exact h.started nofun nofun nofun
  | accessed ticket point call middle reply held makes called => exact h.accessed held makes called
  | chosen ticket choice point following continuation held later chooses =>
    exact h.chosen held later chooses
  | retired remove _ reply called => exact h.called_quietly called trivial nofun nofun

structure Written (world : World) : Prop where
  once : world.writes.Nodup
  stays : ∀ id ∈ world.writes, id ∈ TaskStore.drawnIds world.store.events ∧
    ∀ stored, world.store.data.tasks.lookup id = some stored →
      stored.task.status.isTerminal = true

theorem Written.written (h : Written world) (hsound : TaskStore.Sound router.store world.store)
    (hcalled : Called router world now call next reply)
    (hkept : ∀ id ∈ world.writes, ∀ stored, next.store.data.tasks.lookup id = some stored →
      stored.task.status.isTerminal = true) : Written next := by
  have hwrites : next.writes =
      (World.terminalWrite world.store.data next.store.data call).toList ++ world.writes := by
    rw [hcalled.rest]
  have hdrawn : ∀ id ∈ world.writes, id ∈ TaskStore.drawnIds next.store.events :=
    fun id hmem => TaskStore.drawn_of_stepped hcalled.stepped (h.stays id hmem).1
  cases hwrite : World.terminalWrite world.store.data next.store.data call with
  | none =>
    rw [hwrite] at hwrites
    have hsame : next.writes = world.writes := hwrites
    rw [← hsame] at hdrawn hkept
    exact ⟨hsame ▸ h.once, fun id hmem => ⟨hdrawn id hmem, hkept id hmem⟩⟩
  | some id =>
    rw [hwrite] at hwrites
    have hcons : next.writes = id :: world.writes := hwrites
    obtain ⟨_, hmoved⟩ := Option.filter_eq_some_iff.1 hwrite
    rw [Bool.and_eq_true] at hmoved
    obtain ⟨old, hold, hlive⟩ := (Option.any_eq_true _ _).1 hmoved.1
    obtain ⟨new, hnew, hterminal⟩ := (Option.any_eq_true _ _).1 hmoved.2
    have hunwritten : id ∉ world.writes := by
      intro hmem
      rw [(h.stays id hmem).2 old hold] at hlive
      cases hlive
    constructor
    · rw [hcons]
      exact List.nodup_cons.2 ⟨hunwritten, h.once⟩
    · intro other hmem
      rw [hcons] at hmem
      rcases List.mem_cons.1 hmem with rfl | hearlier
      · refine ⟨TaskStore.drawn_of_stepped hcalled.stepped (hsound.drawn other old hold), ?_⟩
        intro stored hlookup
        obtain rfl := Option.some.inj (hnew.symm.trans hlookup)
        exact hterminal
      · exact ⟨hdrawn other hearlier, hkept other hearlier⟩

theorem Written.called (h : Written world) (hsound : TaskStore.Sound router.store world.store)
    (hcalled : Called router world now call next reply)
    (hfresh : ∀ id, call.drawnId = some id → id ∉ TaskStore.drawnIds world.store.events) :
    Written next := by
  refine h.written hsound hcalled fun id hmem stored hlookup => ?_
  obtain ⟨hdrawn, hterminal⟩ := h.stays id hmem
  have hchange := hcalled.stepped.changes id
  rw [hlookup] at hchange
  generalize hbefore : world.store.data.tasks.lookup id = held at hchange
  cases hchange with
  | kept _ _ => exact hterminal stored hbefore
  | admitted _ _ _ _ _ _ _ drawn _ _ =>
    have hdraw : call.drawnId = some id := by
      have hcall : call = _ := drawn
      rw [hcall]
      rfl
    exact absurd hdrawn (hfresh id hdraw)
  | changed old _ _ _ _ task =>
    have hold := hterminal old hbefore
    rw [(TaskStore.same_outcome_of_task_change hold task).status]
    exact hold
  | retired _ old _ _ =>
    rw [status_retired_record]
    exact hterminal old hbefore

theorem Written.step (h : Written world) (hsound : TaskStore.Sound router.store world.store)
    (hfresh : FreshDraw world event) (hstep : step router world event = some next) :
    Written next := by
  obtain ⟨now, action⟩ := event
  cases transition_of_step hsound hfresh hstep with
  | created live created id toolName arguments ttl owner middle answer called =>
    have hmiddle := h.called hsound called hfresh
    exact ⟨hmiddle.once, hmiddle.stays⟩
  | refused _ call _ reply called same _ =>
    refine h.written hsound called fun id hmem stored hlookup => ?_
    rw [same] at hlookup
    exact (h.stays id hmem).2 stored hlookup
  | updated final taskId responses middle applied called =>
    have hmiddle := h.called hsound called nofun
    exact ⟨hmiddle.once, hmiddle.stays⟩
  | signalled _ _ _ => exact h
  | cancelling _ _ _ point starts => exact ⟨h.once, h.stays⟩
  | accessed ticket point call middle reply held makes called =>
    have hmiddle := h.called hsound called fun id hdraw => by
      rw [Point.drawn_id_of_call makes] at hdraw
      cases hdraw
    exact ⟨hmiddle.once, hmiddle.stays⟩
  | chosen ticket choice point following continuation held later chooses =>
    have hmoved : Written ((world.advance now.instant).move ticket point following) :=
      ⟨h.once, h.stays⟩
    unfold World.note
    split
    next => exact ⟨hmoved.once, hmoved.stays⟩
    next => exact hmoved
  | retired remove _ reply called => exact h.called hsound called nofun

theorem drawn_of_call (hcall : world.call router.store now call = some (next, reply))
    (hmem : id ∈ TaskStore.drawnIds next.store.events) :
    id ∈ TaskStore.drawnIds world.store.events ∨ call.drawnId = some id := by
  obtain ⟨stepped, hstep, hcall⟩ := Option.bind_eq_some_iff.1 hcall
  obtain ⟨_, _, hcall⟩ := Option.bind_eq_some_iff.1 hcall
  cases hcall
  exact TaskStore.events_of_step hstep id hmem

theorem drawn_of_step (hstep : step router world event = some next)
    (hmem : id ∈ TaskStore.drawnIds next.store.events) :
    id ∈ TaskStore.drawnIds world.store.events ∨ event.drawnId = some id := by
  obtain ⟨now, action⟩ := event
  cases action with
  | create live created drawn toolName arguments ttl owner =>
    obtain ⟨⟨middle, reply⟩, hcall, hrest⟩ := Option.bind_eq_some_iff.1 hstep
    have hstore : next.store = middle.store := by
      dsimp only at hrest
      split at hrest <;> obtain rfl := Option.some.inj hrest <;> rfl
    rw [hstore] at hmem
    exact drawn_of_call hcall hmem
  | update final taskId responses =>
    obtain ⟨⟨middle, reply⟩, hcall, hrest⟩ := Option.bind_eq_some_iff.1 hstep
    have hstore : next.store = middle.store := by
      dsimp only at hrest
      split at hrest <;> obtain rfl := Option.some.inj hrest <;> rfl
    rw [hstore] at hmem
    exact drawn_of_call hcall hmem
  | cancel final taskId reason =>
    unfold TaskExecution.step at hstep
    dsimp only at hstep
    split at hstep <;> obtain rfl := Option.some.inj hstep <;> exact .inl hmem
  | access ticket =>
    obtain ⟨point, _, hrest⟩ := Option.bind_eq_some_iff.1 hstep
    obtain ⟨call, hmakes, hrest⟩ := Option.bind_eq_some_iff.1 hrest
    obtain ⟨⟨middle, reply⟩, hcall, hrest⟩ := Option.bind_eq_some_iff.1 hrest
    cases hrest
    rcases drawn_of_call hcall hmem with hearlier | hdraw
    · exact .inl hearlier
    · rw [Point.drawn_id_of_call hmakes] at hdraw
      cases hdraw
  | choose ticket choice =>
    unfold TaskExecution.step at hstep
    dsimp only at hstep
    split at hstep
    next => cases hstep
    next =>
      obtain ⟨point, _, hrest⟩ := Option.bind_eq_some_iff.1 hstep
      obtain ⟨⟨following, continuation⟩, _, hrest⟩ := Option.bind_eq_some_iff.1 hrest
      cases hrest
      left
      unfold World.note at hmem
      split at hmem <;> exact hmem
  | retire remove =>
    obtain ⟨⟨middle, reply⟩, hcall, hrest⟩ := Option.bind_eq_some_iff.1 hstep
    cases hrest
    exact drawn_of_call hcall hmem

theorem along_fresh_draw {events : List Event} (hfresh : (drawnIds events).Nodup) :
    Along (step router) FreshDraw {} events := by
  have hadds : ∀ (state : World) (event : Event) (next : World),
      TaskExecution.step router state event = some next →
      ∀ id, id ∈ TaskStore.drawnIds next.store.events →
        id ∈ TaskStore.drawnIds state.store.events ∨ event.drawnId = some id :=
    fun _ _ _ hstep id hmem => drawn_of_step hstep hmem
  exact along_fresh hadds hfresh fun id _ hmem => by
    simp [TaskStore.World.events, TaskStore.drawnIds] at hmem

end Step

def RunsOnce (world : World) : Prop :=
  ∀ id, id ∉ world.liveTasks → ∀ first second replay again,
    world.futures.get first = some (.running id replay) →
    world.futures.get second = some (.running id again) → first = second

/-- In every run whose created identifiers differ, in every state, at most one execution of the handler
of an ordinary task is in flight, and no task has been written as terminal twice. -/
theorem single_execution_and_terminal_write {E : Type} (router : TaskRouter E)
    (events : List Event) (hfresh : (drawnIds events).Nodup) :
    Throughout (step router) (fun world => RunsOnce world ∧ world.writes.Nodup) {}
      events := by
  have halong : Along (step router) FreshDraw {} events :=
    along_fresh_draw hfresh
  have hinit : Orderly router {} ∧ Written {} :=
    ⟨orderly_init router, ⟨List.nodup_nil, nofun⟩⟩
  have hall : Throughout (step router)
      (fun world => Orderly router world ∧ Written world) {} events := by
    refine throughout_of_along ?_ hinit halong
    rintro world event next ⟨horderly, hwritten⟩ hdraw hstep
    exact ⟨horderly.step hdraw hstep, hwritten.step horderly.sound hdraw hstep⟩
  refine hall.mono ?_
  rintro world ⟨horderly, hwritten⟩
  refine ⟨?_, hwritten.once⟩
  intro id hid first second replay again hfirst hsecond
  exact horderly.single id hid first second _ _ hfirst hsecond rfl rfl

def eventAt (seconds : ℕ) (action : Action) : Event :=
  { now := ⟨seconds, "now"⟩, action }

def rootsRequest : InputRequests :=
  AList.insert "roots" (.listRoots (.ok .null)) ∅

def parkingEvents : List Event :=
  [eventAt 0 (.create false ⟨0, "then"⟩ "a" "report" .null none (some "alice")),
    eventAt 0 (.choose 0 (.prepared (.ok none))),
    eventAt 0 (.choose 0 .proceed),
    eventAt 1 (.choose 0 (.returned (.ok (.inputRequired rootsRequest none)))),
    eventAt 1 (.access 0)]

def answerEvents (final : Bool) : List Event :=
  [eventAt 2 (.update final "a" (AList.insert "roots" (.listRoots (.ok .null)) ∅)),
    eventAt 2 (.update final "a" (AList.insert "roots" (.listRoots (.ok .null)) ∅)),
    eventAt 2 (.choose 2 .proceed),
    eventAt 2 (.choose 1 .proceed)]

def replayEvents : List Event :=
  [eventAt 2 (.choose 1 .proceed),
    eventAt 2 (.choose 1 (.found true)),
    eventAt 3 (.cancel true "a" none),
    eventAt 3 (.choose 1 (.returned (.ok (.complete { content := [] })))),
    eventAt 4 (.access 3),
    eventAt 4 (.access 1)]

theorem single_execution_and_terminal_write_raced :
    ((run (step TaskRouter.subjectRouter) {}
        (parkingEvents ++ answerEvents true ++ replayEvents)).map fun world => world.writes) =
      some ["a"] ∧
    Throughout (step TaskRouter.subjectRouter)
      (fun world => RunsOnce world ∧ world.writes.Nodup) {}
      (parkingEvents ++ answerEvents true ++ replayEvents) :=
  ⟨by decide +kernel,
    single_execution_and_terminal_write TaskRouter.subjectRouter
      (parkingEvents ++ answerEvents true ++ replayEvents) (by decide)⟩

end TaskExecution

end TowerMcp
