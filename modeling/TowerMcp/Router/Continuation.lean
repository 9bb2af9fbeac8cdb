import TowerMcp.Router.SingleExecution

/-!
# Continuations of tasks

Every update that moves a task from waiting for input to working continues the task once: it wakes
the live handler, or it replays the handler of an ordinary task, or it fails a task that can no longer
be resumed. And a task that reads as working is carried on by some future. Both hold as long as no
update of the older protocol moves a task that has no live handler: that path wakes live handlers and
replays nothing, so the task is left working for ever.
-/

namespace TowerMcp

open Execution MemoryTaskStore FinMap Fallible

namespace TaskExecution

def Point.isPending : Point → Bool
  | .updated _ _ _ | .resuming _ | .located _ => true
  | _ => false

def World.isPending (world : World) (ticket : ℕ) : Bool :=
  (world.futures.get ticket).any Point.isPending

def ContinuedOnce (world : World) : Prop :=
  ∀ ticket note, world.updates.lookup ticket = some note → note.moved = true →
    note.continuations.length = if world.isPending ticket then 0 else 1

def Owned (world : World) (id : String) : Prop :=
  ∃ ticket point, world.futures.get ticket = some point ∧ point.owner = some id

def Hosted (world : World) (id : String) : Prop :=
  ∃ ticket point, world.futures.get ticket = some point ∧ point.host = some id

def Carried (world : World) : Prop :=
  ∀ id, ReadsWorking world.store id → Owned world id

structure Continued (world : World) : Prop where
  once : ContinuedOnce world
  carried : Carried world

/-- An update of the older protocol that has moved its task goes on while no live handler is
registered for the task. -/
def strands (world : World) (event : Event) : Bool :=
  match event.action with
  | .choose ticket .proceed =>
    match world.futures.get ticket, world.updates.lookup ticket with
    | some (.updated taskId false _), some note => note.moved && !world.isLive taskId
    | _, _ => false
  | _ => false

/-- What is noted of the updates in every state of a run. An update that has yet to continue its task
has not done so before, and whether it answered the last request of an ordinary task is whether it
moved the task. -/
structure Noted (world : World) : Prop where
  fresh : ∀ ticket point, world.futures.get ticket = some point → point.isPending = true →
    ∃ note, world.updates.lookup ticket = some note ∧ note.continuations = []
  resumes : ∀ ticket taskId final resumes,
    world.futures.get ticket = some (.updated taskId final resumes) →
    ∃ note, world.updates.lookup ticket = some note ∧
      (note.moved = true → resumes = true) ∧
      (taskId ∉ world.liveTasks → resumes = true → note.moved = true)

def Served (world : World) : Prop :=
  ∀ id ∈ world.liveTasks, ¬Finished world.store.data world.store.clock id → Hosted world id

structure Tracked {E : Type} (router : TaskRouter E) (world : World) : Prop where
  orderly : Orderly router world
  noted : Noted world
  served : Served world
  registered : ∀ id, world.isLive id = true → id ∈ world.liveTasks
  known : ∀ id ∈ world.liveTasks, id ∈ TaskStore.drawnIds world.store.events

namespace Point

variable {E : Type} {router : TaskRouter E} {point next : Point} {call : StoreCall} {reply : Reply}
  {id : String}

theorem owner_of_host (h : point.host = some id) : point.owner = some id := by
  cases point with
  | preparing _ isLive | describing _ isLive _ =>
    cases isLive with
    | true => exact h
    | false => cases h
  | discarding _ | abandoning _ | live _ | asking _ _ _ | reporting _ _ | closing _ _ => exact h
  | starting _ | running _ _ | parking _ _ _ | finishing _ _ | completing _ _ | failing _ _
  | leaving _ | updated _ _ _ | resuming _ | located _ | checking _ _ | cancelling _ _ => cases h

theorem not_pending_of_call (h : point.call = some call) : point.isPending = false := by
  cases point with
  | updated _ _ _ | resuming _ | located _ => cases h
  | _ => rfl

theorem call_ne_apply_input_responses {responses : InputResponses} :
    point.call ≠ some (.applyInputResponses id responses) := by
  intro h
  cases point with
  | closing _ outcome => cases outcome <;> cases h
  | _ => cases h

theorem answered_of_report {message : Option String}
    (h : point.call = some (.setStatus id .working message)) :
    point.answered router reply = some (.live id) := by
  cases point with
  | reporting _ _ =>
    cases h
    rfl
  | closing _ outcome => cases outcome <;> cases h
  | _ => cases h

theorem not_pending_launched (taskId : String) (isLive : Bool) :
    (launched taskId isLive).isPending = false := by
  cases isLive <;> rfl

theorem not_pending_of_answered (h : point.answered router reply = some next) :
    next.isPending = false := by
  cases point with
  | describing taskId isLive metadata =>
    cases h
    split
    next => exact not_pending_launched taskId isLive
    next => rfl
  | discarding taskId =>
    obtain ⟨_, h⟩ := Option.ite_none_left_eq_some.1 h
    cases h
    rfl
  | parking taskId _ _ | completing taskId _ =>
    obtain ⟨_, _, rfl⟩ := Option.map_eq_some_iff.1 h
    rfl
  | asking taskId _ _ | reporting taskId _ =>
    cases h
    rfl
  | closing taskId outcome =>
    cases outcome with
    | completed result =>
      unfold answered at h
      dsimp only at h
      split at h <;> obtain rfl := Option.some.inj h <;> rfl
    | failed | cancelled =>
      cases h
      rfl
  | abandoning _ | failing _ _ | cancelling _ _ | preparing _ _ | starting _ | running _ _
  | finishing _ _ | live _ | leaving _ | updated _ _ _ | resuming _ | located _ | checking _ _ =>
    cases h

end Point

section Release

variable {E : Type} {router : TaskRouter E} {world middle next : World} {now : Moment}
  {call : StoreCall} {reply : Reply} {point : Point} {id : String}

theorem not_reads_working_of_finished {store : TaskStore.World}
    (h : Finished store.data store.clock id) : ¬ReadsWorking store id := by
  rintro ⟨stored, hread, hworking⟩
  have hterminal := h stored hread
  rw [hworking] at hterminal
  cases hterminal

theorem finished_of_completion {result : CallToolResult}
    (hcalled : Called router world now (.completeTask id result) middle reply)
    (htook : refusal reply = none) : Finished middle.store.data middle.store.clock id := by
  obtain ⟨⟨final, outcome⟩, hrun, hpure⟩ := bind_eq_ok.1 hcalled.ran
  obtain ⟨rfl, rfl⟩ := Prod.mk.inj (pure_eq_ok.1 hpure)
  rw [hcalled.stepped.clock]
  cases outcome with
  | error error => cases htook
  | ok value => exact finished_of_complete_task hrun

theorem finished_of_failure {error : JsonRpcError}
    (hcalled : Called router world now (.failTask id error) middle reply) :
    Finished middle.store.data middle.store.clock id := by
  obtain ⟨⟨final, outcome⟩, hrun, hpure⟩ := bind_eq_ok.1 hcalled.ran
  obtain ⟨rfl, rfl⟩ := Prod.mk.inj (pure_eq_ok.1 hpure)
  rw [hcalled.stepped.clock]
  exact finished_of_fail_task hrun

theorem finished_of_cancellation {reason : Option String}
    (hcalled : Called router world now (.cancelTask id reason) middle reply) :
    Finished middle.store.data middle.store.clock id := by
  obtain ⟨⟨final, object⟩, hrun, hpure⟩ := bind_eq_ok.1 hcalled.ran
  obtain ⟨rfl, rfl⟩ := Prod.mk.inj (pure_eq_ok.1 hpure)
  rw [hcalled.stepped.clock]
  exact finished_of_cancel_task hrun

theorem not_reads_working_of_park {requests : InputRequests} {message : Option String}
    (hcalled : Called router world now (.requireInput id requests message) middle reply)
    (htook : refusal reply = none) : ¬ReadsWorking middle.store id := by
  rintro ⟨stored, hread, hworking⟩
  have hran := Except.ok.inj hcalled.ran
  rw [hcalled.stepped.clock] at hread
  cases houtcome : router.store.requireInput now id requests message world.store.data with
  | error error =>
    rw [houtcome] at hran
    rw [← (Prod.mk.inj hran).2] at htook
    cases htook
  | ok outcome =>
    rw [houtcome] at hran
    have hdata : outcome.1 = middle.store.data := (Prod.mk.inj hran).1
    rw [← hdata] at hread
    rcases waits_of_require_input houtcome stored hread with hwaits | hterminal
    · rw [hworking] at hwaits
      cases hwaits
    · rw [hworking] at hterminal
      cases hterminal

inductive Point.Keeps (store : TaskStore.World) (point : Point) (next : Option Point)
    (id : String) : Prop where
  | kept (following : Point) (goes : next = some following) (owner : following.owner = some id)
      (host : point.host = some id → following.host = some id) : Keeps store point next id
  | finished (finished : Finished store.data store.clock id) : Keeps store point next id
  | parked (host : point.host = none) (waits : ¬ReadsWorking store id) : Keeps store point next id

theorem keeps_of_called (howner : point.owner = some id) (hmakes : point.call = some call)
    (hcalled : Called router world now call middle reply) :
    point.Keeps middle.store (point.answered router reply) id := by
  cases point with
  | describing taskId isLive metadata =>
    obtain rfl := Option.some.inj howner
    refine .kept _ rfl ?_ ?_
    · cases isLive <;> cases tookEffect reply <;> rfl
    · cases isLive with
      | true =>
        intro _
        cases tookEffect reply <;> rfl
      | false => exact fun hhost => by cases hhost
  | discarding taskId =>
    obtain rfl := Option.some.inj howner
    obtain rfl := Option.some.inj hmakes
    cases htook : tookEffect reply with
    | true => exact .finished (finished_of_lookup_none (TaskWaiters.lookup_of_discard hcalled.ran))
    | false =>
      refine .kept (.abandoning taskId) ?_ rfl fun _ => rfl
      unfold Point.answered
      dsimp only
      rw [htook]
      rfl
  | abandoning taskId =>
    obtain rfl := Option.some.inj howner
    obtain rfl := Option.some.inj hmakes
    exact .finished (finished_of_cancellation hcalled)
  | parking taskId requests requestState =>
    obtain rfl := Option.some.inj howner
    obtain rfl := Option.some.inj hmakes
    cases htook : refusal reply with
    | none => exact .parked rfl (not_reads_working_of_park hcalled htook)
    | some error =>
      refine .kept (.failing taskId (router.taskError .parkInput taskId (.store error))) ?_ rfl
        fun hhost => by cases hhost
      exact Option.map_eq_some_iff.2 ⟨error, htook, rfl⟩
  | completing taskId result =>
    obtain rfl := Option.some.inj howner
    obtain rfl := Option.some.inj hmakes
    cases htook : refusal reply with
    | none => exact .finished (finished_of_completion hcalled htook)
    | some error =>
      refine .kept (.failing taskId (router.taskError .finalize taskId (.store error))) ?_ rfl
        fun hhost => by cases hhost
      exact Option.map_eq_some_iff.2 ⟨error, htook, rfl⟩
  | failing taskId error =>
    obtain rfl := Option.some.inj howner
    obtain rfl := Option.some.inj hmakes
    exact .finished (finished_of_failure hcalled)
  | asking taskId requests message | reporting taskId message =>
    obtain rfl := Option.some.inj howner
    exact .kept (.live taskId) rfl rfl fun _ => rfl
  | closing taskId outcome =>
    obtain rfl := Option.some.inj howner
    cases outcome with
    | completed result =>
      obtain rfl := Option.some.inj hmakes
      cases htook : refusal reply with
      | none => exact .finished (finished_of_completion hcalled htook)
      | some error =>
        refine .kept
          (.closing taskId (.failed (router.taskError .finalize taskId (.store error)))) ?_
          rfl fun _ => rfl
        unfold Point.answered
        dsimp only
        rw [htook]
    | failed error =>
      cases hmakes
      exact .finished (finished_of_failure hcalled)
    | cancelled message =>
      cases hmakes
      exact .finished (finished_of_cancellation hcalled)
  | cancelling _ _ => cases howner
  | preparing _ _ | starting _ | running _ _ | finishing _ _ | live _ | leaving _ | updated _ _ _
  | resuming _ | located _ | checking _ _ => cases hmakes

/-- What a future does with its task on a choice: it keeps it, it ends because the token of the task is
raised, or it is an update that has woken the live handler, or that leaves the task to it. -/
inductive Point.Leaves (world : World) (point : Point) (choice : Choice) (next : Option Point)
    (id : String) : Prop where
  | kept (following : Point) (goes : next = some following) (owner : following.owner = some id)
      (host : point.host = some id → following.host = some id) : Leaves world point choice next id
  | raised (host : point.host = none) (raised : world.tokenRaised id = true) :
      Leaves world point choice next id
  | woken (host : point.host = none) (live : world.isLive id = true) :
      Leaves world point choice next id
  | left (updates : point = .updated id false true) (proceeds : choice = .proceed)
      (absent : world.isLive id = false) : Leaves world point choice next id

variable {continuation : Option Continuation}

theorem leaves_of_choose {instant : Instant} {choice : Choice} {following : Option Point}
    (howner : point.owner = some id)
    (h : world.choose router instant point choice = some (following, continuation)) :
    point.Leaves world choice following id := by
  unfold World.choose at h
  split at h
  next taskId isLive =>
    obtain rfl := Option.some.inj howner
    obtain ⟨_, h⟩ := Option.ite_none_right_eq_some.1 h
    cases h
    exact .kept (.discarding taskId) rfl rfl fun _ => rfl
  next taskId isLive =>
    obtain rfl := Option.some.inj howner
    cases h
    cases isLive with
    | true => exact .kept (.live taskId) rfl rfl fun _ => rfl
    | false => exact .kept (.starting taskId) rfl rfl fun hhost => by cases hhost
  next taskId isLive metadata =>
    obtain rfl := Option.some.inj howner
    cases h
    refine .kept (.describing taskId isLive metadata) rfl rfl fun hhost => ?_
    cases isLive with
    | true => rfl
    | false => cases hhost
  next taskId isLive error =>
    obtain rfl := Option.some.inj howner
    cases h
    exact .kept (.discarding taskId) rfl rfl fun _ => rfl
  next taskId =>
    obtain rfl := Option.some.inj howner
    cases h
    cases hraised : world.tokenRaised taskId with
    | true => exact .raised rfl hraised
    | false => exact .kept (.running taskId false) rfl rfl fun hhost => by cases hhost
  next taskId replay =>
    obtain rfl := Option.some.inj howner
    obtain ⟨hraised, _⟩ := Option.ite_none_right_eq_some.1 h
    exact .raised rfl hraised
  next taskId replay outcome =>
    obtain rfl := Option.some.inj howner
    cases h
    have howned : (Point.returned router taskId replay outcome).owner = some taskId := by
      unfold Point.returned Point.concluded
      cases outcome with
      | error message => cases replay <;> rfl
      | ok outcome =>
        cases outcome with
        | complete result => cases replay <;> rfl
        | inputRequired requests requestState =>
          dsimp only
          split <;> rfl
    exact .kept _ rfl howned fun hhost => by cases hhost
  next taskId result =>
    obtain rfl := Option.some.inj howner
    cases h
    cases hraised : world.tokenRaised taskId with
    | true => exact .raised rfl hraised
    | false => exact .kept (.completing taskId result) rfl rfl fun hhost => by cases hhost
  next taskId requests message =>
    obtain rfl := Option.some.inj howner
    cases h
    exact .kept (.asking taskId requests message) rfl rfl fun _ => rfl
  next taskId message =>
    obtain rfl := Option.some.inj howner
    cases h
    exact .kept (.reporting taskId message) rfl rfl fun _ => rfl
  next taskId outcome =>
    obtain rfl := Option.some.inj howner
    cases h
    exact .kept (.closing taskId outcome) rfl rfl fun _ => rfl
  next => cases howner
  next taskId final resumes =>
    cases resumes with
    | false => cases howner
    | true =>
      obtain rfl := Option.some.inj howner
      cases hlive : world.isLive taskId with
      | true => exact .woken rfl hlive
      | false =>
        cases final with
        | false => exact .left rfl rfl hlive
        | true =>
          rw [hlive] at h
          cases h
          exact .kept (.resuming taskId) rfl rfl fun hhost => by cases hhost
  next taskId =>
    obtain rfl := Option.some.inj howner
    split at h
    next =>
      cases h
      exact .kept (.located taskId) rfl rfl fun hhost => by cases hhost
    next =>
      cases h
      exact .kept (.failing taskId _) rfl rfl fun hhost => by cases hhost
  next taskId =>
    obtain rfl := Option.some.inj howner
    cases h
    exact .kept (.running taskId true) rfl rfl fun hhost => by cases hhost
  next taskId =>
    obtain rfl := Option.some.inj howner
    cases h
    exact .kept (.failing taskId _) rfl rfl fun hhost => by cases hhost
  next => cases howner
  next => cases h

/-- What a choice does about the continuation of an update. A future that is not such an update has
nothing to continue; an update goes on to continue its task later, continues it, or ends without. -/
inductive Point.Settles (world : World) (point : Point) (choice : Choice) (next : Option Point)
    (continuation : Option Continuation) : Prop where
  | quiet (before : point.isPending = false) (silent : continuation = none)
      (after : next.any Point.isPending = false) : Settles world point choice next continuation
  | pending (following : Point) (before : point.isPending = true) (silent : continuation = none)
      (goes : next = some following) (after : following.isPending = true)
      (resumed : ∀ taskId final resumes, following ≠ .updated taskId final resumes) :
      Settles world point choice next continuation
  | continued (how : Continuation) (before : point.isPending = true)
      (continues : continuation = some how) (after : next.any Point.isPending = false) :
      Settles world point choice next continuation
  | dropped (taskId : String) (final resumes : Bool)
      (updates : point = .updated taskId final resumes) (proceeds : choice = .proceed)
      (gone : next = none) (silent : continuation = none)
      (unable : resumes = true → final = false ∧ world.isLive taskId = false) :
      Settles world point choice next continuation

theorem not_pending_returned (taskId : String) (replay : Bool)
    (outcome : Except String RequestOutcome) :
    (Point.returned router taskId replay outcome).isPending = false := by
  unfold Point.returned Point.concluded
  cases outcome with
  | error message => cases replay <;> rfl
  | ok outcome =>
    cases outcome with
    | complete result => cases replay <;> rfl
    | inputRequired requests requestState =>
      dsimp only
      split <;> rfl

theorem settles_of_choose {instant : Instant} {choice : Choice} {following : Option Point}
    (h : world.choose router instant point choice = some (following, continuation)) :
    point.Settles world choice following continuation := by
  unfold World.choose at h
  split at h
  next =>
    obtain ⟨_, h⟩ := Option.ite_none_right_eq_some.1 h
    cases h
    exact .quiet rfl rfl rfl
  next taskId isLive =>
    cases h
    exact .quiet rfl rfl (Point.not_pending_launched taskId isLive)
  next =>
    cases h
    exact .quiet rfl rfl rfl
  next =>
    cases h
    exact .quiet rfl rfl rfl
  next taskId =>
    cases h
    cases hraised : world.tokenRaised taskId <;> exact .quiet rfl rfl rfl
  next =>
    obtain ⟨_, h⟩ := Option.ite_none_right_eq_some.1 h
    cases h
    exact .quiet rfl rfl rfl
  next taskId replay outcome =>
    cases h
    exact .quiet rfl rfl (not_pending_returned taskId replay outcome)
  next taskId result =>
    cases h
    cases hraised : world.tokenRaised taskId <;> exact .quiet rfl rfl rfl
  next =>
    cases h
    exact .quiet rfl rfl rfl
  next =>
    cases h
    exact .quiet rfl rfl rfl
  next =>
    cases h
    exact .quiet rfl rfl rfl
  next =>
    cases h
    exact .quiet rfl rfl rfl
  next taskId final resumes =>
    cases resumes with
    | false =>
      cases h
      exact .dropped taskId final false rfl rfl rfl rfl nofun
    | true =>
      cases hlive : world.isLive taskId with
      | true =>
        rw [hlive] at h
        cases h
        exact .continued .woken rfl rfl rfl
      | false =>
        rw [hlive] at h
        cases final with
        | false =>
          cases h
          exact .dropped taskId false true rfl rfl rfl rfl fun _ => ⟨rfl, hlive⟩
        | true =>
          cases h
          exact .pending (.resuming taskId) rfl rfl rfl rfl nofun
  next taskId =>
    split at h
    next =>
      cases h
      exact .pending (.located taskId) rfl rfl rfl rfl nofun
    next =>
      cases h
      exact .continued .ended rfl rfl rfl
  next =>
    cases h
    exact .continued .replayed rfl rfl rfl
  next =>
    cases h
    exact .continued .ended rfl rfl rfl
  next taskId reason =>
    split at h
    next current _ =>
      cases h
      cases current.status.isTerminal <;> exact .quiet rfl rfl rfl
    next =>
      cases h
      exact .quiet rfl rfl rfl
  next => cases h

end Release

section Step

variable {E : Type} {router : TaskRouter E} {world middle next : World} {now : Moment}
  {call : StoreCall} {reply : Reply} {ticket : ℕ} {point : Point} {id : String} {event : Event}

theorem lookup_updates_note (world : World) (ticket : ℕ) (continuation : Option Continuation)
    (other : ℕ) :
    (world.note ticket continuation).updates.lookup other =
      if other = ticket then
        (world.updates.lookup ticket).map fun noted =>
          { noted with continuations := continuation.toList ++ noted.continuations }
      else world.updates.lookup other := by
  cases continuation with
  | none =>
    split
    next hother =>
      rw [hother]
      exact Option.map_id'.symm
    next => rfl
  | some how =>
    cases hnoted : world.updates.lookup ticket with
    | none =>
      have hsame : world.note ticket (some how) = world := by
        unfold World.note
        rw [hnoted]
      rw [hsame]
      split
      next hother =>
        rw [hother]
        exact hnoted
      next => rfl
    | some noted =>
      unfold World.note
      rw [hnoted]
      exact lookup_insert_eq_ite world.updates ticket other
        { noted with continuations := how :: noted.continuations }

theorem Called.frame (hcalled : Called router world now call middle reply) (ticket : ℕ) :
    middle.futures.get ticket = world.futures.get ticket ∧
      middle.updates.lookup ticket = world.updates.lookup ticket := by
  obtain ⟨hfutures, _, _, hupdates⟩ := hcalled.same
  rw [hfutures, hupdates]
  exact ⟨rfl, rfl⟩

structure Quiet (world next : World) : Prop where
  pending : ∀ ticket point, point.isPending = true →
    (next.futures.get ticket = some point ↔ world.futures.get ticket = some point)
  updates : ∀ ticket, next.updates.lookup ticket = world.updates.lookup ticket
  live : ∀ id ∈ world.liveTasks, id ∈ next.liveTasks

theorem quiet_of_called (hcalled : Called router world now call middle reply) :
    Quiet world middle where
  pending := by
    intro ticket point _
    rw [(hcalled.frame ticket).1]
  updates := fun ticket => (hcalled.frame ticket).2
  live := by
    intro id hid
    rw [hcalled.same.2.1]
    exact hid

theorem quiet_start (hnumbered : world.futures.Numbered) (hquiet : point.isPending = false) :
    Quiet world (world.start point) where
  pending := by
    intro ticket held hpending
    show (world.futures.start point).get ticket = some held ↔ world.futures.get ticket = some held
    constructor
    · intro hget
      rw [Pool.get_start_eq_ite] at hget
      split at hget
      next =>
        cases hget
        rw [hquiet] at hpending
        cases hpending
      next => exact hget
    · intro hget
      exact hnumbered.get_start hget point
  updates := fun _ => rfl
  live := fun _ hid => hid

theorem quiet_move {following : Option Point} (hheld : world.futures.get ticket = some point)
    (hbefore : point.isPending = false) (hafter : following.any Point.isPending = false) :
    Quiet world (world.move ticket point following) where
  pending := by
    intro other held hpending
    rw [get_move]
    split
    next hother =>
      rw [hother, hheld]
      constructor
      · intro hget
        rw [hget, Option.any_some, hpending] at hafter
        cases hafter
      · intro hget
        cases hget
        rw [hbefore] at hpending
        cases hpending
    next => exact Iff.rfl
  updates := fun _ => rfl
  live := fun _ hid => hid

theorem Quiet.trans (hfirst : Quiet world middle) (hsecond : Quiet middle next) :
    Quiet world next where
  pending := fun ticket point hpending =>
    (hsecond.pending ticket point hpending).trans (hfirst.pending ticket point hpending)
  updates := fun ticket => (hsecond.updates ticket).trans (hfirst.updates ticket)
  live := fun id hid => hsecond.live id (hfirst.live id hid)

theorem quiet_accessed (hheld : world.futures.get ticket = some point)
    (hmakes : point.call = some call) (hcalled : Called router world now call middle reply) :
    Quiet world (middle.move ticket point (point.answered router reply)) := by
  have hmiddle : middle.futures.get ticket = some point := (hcalled.frame ticket).1.trans hheld
  refine (quiet_of_called hcalled).trans
    (quiet_move hmiddle (Point.not_pending_of_call hmakes) ?_)
  cases hnext : point.answered router reply with
  | none => rfl
  | some following => exact Point.not_pending_of_answered hnext

theorem Quiet.is_pending_eq (h : Quiet world next) (ticket : ℕ) :
    next.isPending ticket = world.isPending ticket := by
  rw [Bool.eq_iff_iff]
  unfold World.isPending
  rw [Option.any_eq_true, Option.any_eq_true]
  constructor
  · rintro ⟨point, hget, hpending⟩
    exact ⟨point, (h.pending ticket point hpending).1 hget, hpending⟩
  · rintro ⟨point, hget, hpending⟩
    exact ⟨point, (h.pending ticket point hpending).2 hget, hpending⟩

theorem Noted.quiet (h : Noted world) (hquiet : Quiet world next) : Noted next where
  fresh := by
    intro ticket point hget hpending
    rw [hquiet.updates]
    exact h.fresh ticket point ((hquiet.pending ticket point hpending).1 hget) hpending
  resumes := by
    intro ticket taskId final resumes hget
    obtain ⟨note, hnote, hmoved, hordinary⟩ :=
      h.resumes ticket taskId final resumes ((hquiet.pending ticket _ rfl).1 hget)
    rw [hquiet.updates]
    exact ⟨note, hnote, hmoved, fun hid => hordinary fun hmem => hid (hquiet.live taskId hmem)⟩

theorem ContinuedOnce.quiet (h : ContinuedOnce world) (hquiet : Quiet world next) :
    ContinuedOnce next := by
  intro ticket note hnote hmoved
  rw [hquiet.updates] at hnote
  rw [hquiet.is_pending_eq]
  exact h ticket note hnote hmoved

theorem moved_iff_of_updated {taskId : String} {responses : InputResponses}
    {applied : AppliedInputResponses} (horderly : Orderly router world)
    (hcalled : Called router world now (.applyInputResponses taskId responses) middle
      (.applied (.ok (some applied)))) :
    ((world.store.data.status taskId == some .inputRequired &&
        middle.store.data.status taskId == some .working) = true →
      TaskRouter.resumes applied = true) ∧
    (taskId ∉ world.liveTasks → TaskRouter.resumes applied = true →
      (world.store.data.status taskId == some .inputRequired &&
        middle.store.data.status taskId == some .working) = true) := by
  obtain ⟨old, new, hold, hnew, hunsignalled, rfl, hafter⟩ :=
    answered_of_called hcalled
  have hbefore : world.store.data.status taskId = some old.task.status := by
    rw [MemoryTaskStoreData.status, hold]
    rfl
  have hthen : middle.store.data.status taskId =
      some (old.task.applyInputResponses now responses).1.status := by
    rw [MemoryTaskStoreData.status, hnew, ← hafter]
    rfl
  have hinStep := horderly.records taskId old hold hunsignalled
  rw [hbefore, hthen, Bool.and_eq_true, beq_iff_eq, beq_iff_eq, Option.some.injEq,
    Option.some.injEq]
  constructor
  · rintro ⟨hwaited, hworking⟩
    obtain ⟨haccepted, hcomplete⟩ := answers_of_moved hinStep.waits hwaited hworking
    unfold TaskRouter.resumes
    rw [haccepted, hcomplete]
    rfl
  · intro hordinary hresumes
    exact moved_of_resumes (hinStep.belongs hordinary) hresumes

theorem Noted.updated (h : Noted world) {taskId : String} (final : Bool)
    {resumes moved : Bool} (hmoved : moved = true → resumes = true)
    (hordinary : taskId ∉ world.liveTasks → resumes = true → moved = true) :
    Noted { world.start (.updated taskId final resumes) with
      updates := world.updates.insert world.futures.next { taskId, moved } } where
  fresh := by
    intro ticket point hget hpending
    have hget : (world.futures.start (.updated taskId final resumes)).get ticket = some point :=
      hget
    show ∃ note, (world.updates.insert world.futures.next { taskId, moved }).lookup ticket =
      some note ∧ note.continuations = []
    rw [lookup_insert_eq_ite]
    rw [Pool.get_start_eq_ite] at hget
    split at hget
    next hticket =>
      rw [if_pos hticket]
      exact ⟨_, rfl, rfl⟩
    next hticket =>
      rw [if_neg hticket]
      exact h.fresh ticket point hget hpending
  resumes := by
    intro ticket other finalOther resumesOther hget
    have hget : (world.futures.start (.updated taskId final resumes)).get ticket =
      some (.updated other finalOther resumesOther) := hget
    show ∃ note, (world.updates.insert world.futures.next { taskId, moved }).lookup ticket =
      some note ∧ _
    rw [lookup_insert_eq_ite]
    rw [Pool.get_start_eq_ite] at hget
    split at hget
    next hticket =>
      rw [if_pos hticket]
      cases hget
      exact ⟨_, rfl, hmoved, hordinary⟩
    next hticket =>
      rw [if_neg hticket]
      exact h.resumes ticket other finalOther resumesOther hget

theorem ContinuedOnce.updated (h : ContinuedOnce world) (taskId : String)
    (final resumes moved : Bool) :
    ContinuedOnce { world.start (.updated taskId final resumes) with
      updates := world.updates.insert world.futures.next { taskId, moved } } := by
  intro ticket note hnote hmoved
  have hnote : (world.updates.insert world.futures.next { taskId, moved }).lookup ticket =
    some note := hnote
  show note.continuations.length =
    if ((world.futures.start (.updated taskId final resumes)).get ticket).any Point.isPending
    then 0 else 1
  rw [lookup_insert_eq_ite] at hnote
  rw [Pool.get_start_eq_ite]
  split at hnote
  next hticket =>
    cases hnote
    rw [if_pos hticket]
    rfl
  next hticket =>
    rw [if_neg hticket]
    exact h ticket note hnote hmoved

section Chosen

variable {instant : Instant} {choice : Choice} {following : Option Point}
  {continuation : Option Continuation}

theorem get_chosen (world : World) (instant : Instant) (ticket : ℕ) (point : Point)
    (following : Option Point) (continuation : Option Continuation) (other : ℕ) :
    ((((world.advance instant).move ticket point following).note ticket
      continuation).futures.get other) =
      if other = ticket then following else world.futures.get other := by
  rw [(note_frame _ ticket continuation).1]
  exact get_move (world.advance instant) ticket point following other

theorem Noted.chosen (h : Noted world) (hheld : world.futures.get ticket = some point)
    (hsettles : point.Settles world choice following continuation) :
    Noted (((world.advance instant).move ticket point following).note ticket continuation) where
  fresh := by
    intro other held hget hpending
    rw [get_chosen] at hget
    rw [lookup_updates_note]
    split at hget
    next hother =>
      rw [if_pos hother]
      cases hsettles with
      | quiet _ _ after | continued _ _ _ after =>
        rw [hget, Option.any_some, hpending] at after
        cases after
      | pending following before silent goes after resumed =>
        obtain ⟨note, hnote, hnone⟩ := h.fresh ticket point hheld before
        rw [silent]
        exact ⟨note, (congrArg (Option.map fun noted : UpdateNote => noted) hnote), hnone⟩
      | dropped _ _ _ _ _ gone _ _ =>
        rw [gone] at hget
        cases hget
    next hother =>
      rw [if_neg hother]
      exact h.fresh other held hget hpending
  resumes := by
    intro other taskId final resumes hget
    rw [get_chosen] at hget
    rw [lookup_updates_note, (note_frame _ ticket continuation).2.2.2]
    split at hget
    next hother =>
      -- a future does not go on to be an update
      cases hsettles with
      | quiet _ _ after | continued _ _ _ after =>
        rw [hget] at after
        cases after
      | pending following _ _ goes _ resumed =>
        rw [goes] at hget
        exact absurd (Option.some.inj hget) (resumed taskId final resumes)
      | dropped _ _ _ _ _ gone _ _ =>
        rw [gone] at hget
        cases hget
    next hother =>
      rw [if_neg hother]
      exact h.resumes other taskId final resumes hget

theorem continued_once_chosen (h : ContinuedOnce world) (hnoted : Noted world)
    (hheld : world.futures.get ticket = some point)
    (hchoose : world.choose router instant point choice = some (following, continuation)) :
    ContinuedOnce (((world.advance instant).move ticket point following).note ticket
        continuation) ↔
      ∀ taskId note, point = .updated taskId false true → choice = .proceed →
        world.isLive taskId = false → world.updates.lookup ticket = some note →
        note.moved = false := by
  constructor
  · intro hafter taskId note hpoint hproceeds hlive hnote
    have hfresh : note.continuations = [] := by
      obtain ⟨other, hother, hnone⟩ := hnoted.fresh ticket point hheld (by rw [hpoint]; rfl)
      obtain rfl := Option.some.inj (hnote.symm.trans hother)
      exact hnone
    -- the update ends, and nothing is left to continue the task
    have hends : (following, continuation) = (none, none) := by
      rw [hpoint, hproceeds] at hchoose
      unfold World.choose at hchoose
      dsimp only at hchoose
      rw [if_pos rfl, hlive] at hchoose
      exact (Option.some.inj hchoose).symm
    cases hends
    cases hmoved : note.moved with
    | false => rfl
    | true =>
      have hcount := hafter ticket note hnote hmoved
      unfold World.isPending at hcount
      rw [get_chosen, if_pos rfl, hfresh] at hcount
      cases hcount
  · intro hwhen other note hnote hmoved
    have hsettles := settles_of_choose hchoose
    unfold World.isPending
    rw [lookup_updates_note] at hnote
    rw [get_chosen]
    split at hnote
    next hother =>
      rw [if_pos hother]
      obtain ⟨noted, hlookup, rfl⟩ := Option.map_eq_some_iff.1 hnote
      have hfresh : point.isPending = true → noted.continuations = [] := by
        intro hpending
        obtain ⟨same, hsame, hnone⟩ := hnoted.fresh ticket point hheld hpending
        obtain rfl := Option.some.inj (hsame.symm.trans hlookup)
        exact hnone
      cases hsettles with
      | quiet before silent after =>
        have hcount := h ticket noted hlookup hmoved
        unfold World.isPending at hcount
        rw [hheld, Option.any_some, before] at hcount
        rw [silent, after]
        exact hcount
      | pending moved before silent goes after _ =>
        rw [silent, goes, Option.any_some, after, hfresh before]
        rfl
      | continued how before continues after =>
        rw [continues, after, hfresh before]
        rfl
      | dropped taskId final resumes updates proceeds gone silent unable =>
        rw [updates] at hheld
        obtain ⟨same, hsame, hresumes, _⟩ :=
          hnoted.resumes ticket taskId final resumes hheld
        obtain rfl := Option.some.inj (hsame.symm.trans hlookup)
        obtain rfl := hresumes hmoved
        obtain ⟨rfl, hlive⟩ := unable rfl
        rw [hwhen taskId same updates proceeds hlive hlookup] at hmoved
        cases hmoved
    next hother =>
      rw [if_neg hother]
      exact h other note hnote hmoved

end Chosen

theorem Hosted.owned (h : Hosted world id) : Owned world id := by
  obtain ⟨ticket, point, hget, hhost⟩ := h
  exact ⟨ticket, point, hget, Point.owner_of_host hhost⟩

theorem owned_start (world : World) (howner : point.owner = some id) :
    Owned (world.start point) id :=
  ⟨world.futures.next, point, world.futures.get_start_self point, howner⟩

theorem held_start {p : Point → Prop}
    (h : ∃ ticket point, world.futures.get ticket = some point ∧ p point)
    (hnumbered : world.futures.Numbered) (new : Point) :
    ∃ ticket point, (world.start new).futures.get ticket = some point ∧ p point := by
  obtain ⟨ticket, point, hget, hp⟩ := h
  exact ⟨ticket, point, hnumbered.get_start hget new, hp⟩

theorem held_called {p : Point → Prop}
    (h : ∃ ticket point, world.futures.get ticket = some point ∧ p point)
    (hcalled : Called router world now call middle reply) :
    ∃ ticket point, middle.futures.get ticket = some point ∧ p point := by
  obtain ⟨ticket, point, hget, hp⟩ := h
  refine ⟨ticket, point, ?_, hp⟩
  rw [(hcalled.frame ticket).1]
  exact hget

theorem held_move {p : Point → Prop}
    (h : ∃ ticket point, world.futures.get ticket = some point ∧ p point)
    (hheld : world.futures.get ticket = some point) (following : Option Point) :
    (∃ other held, (world.move ticket point following).futures.get other = some held ∧ p held) ∨
      p point := by
  obtain ⟨other, held, hget, hp⟩ := h
  by_cases hother : other = ticket
  · rw [hother, hheld] at hget
    cases hget
    exact .inr hp
  · refine .inl ⟨other, held, ?_, hp⟩
    rw [get_move, if_neg hother]
    exact hget

theorem held_following {p : Point → Prop} (world : World) (ticket : ℕ) (point : Point)
    {following : Point} (hp : p following) :
    ∃ other held, (world.move ticket point (some following)).futures.get other = some held ∧
      p held := by
  refine ⟨ticket, following, ?_, hp⟩
  rw [get_move, if_pos rfl]

theorem finished_later {data : MemoryTaskStoreData} {earlier later : Instant}
    (h : Finished data earlier id) (hle : earlier ≤ later) : Finished data later id := by
  intro stored hread
  obtain ⟨hlookup, hunexpired⟩ := readable_eq_some.1 hread
  exact h stored (readable_eq_some.2 ⟨hlookup, Task.unexpired_earlier hle hunexpired⟩)

theorem reads_working_earlier {store : TaskStore.World} {later : Instant}
    (h : ReadsWorking { store with clock := later } id) (hle : store.clock ≤ later) :
    ReadsWorking store id := by
  obtain ⟨stored, hread, hworking⟩ := h
  obtain ⟨hlookup, hunexpired⟩ := readable_eq_some.1 hread
  exact ⟨stored, readable_eq_some.2 ⟨hlookup, Task.unexpired_earlier hle hunexpired⟩, hworking⟩

theorem finished_of_same (h : Finished world.store.data world.store.clock id)
    (hcalled : Called router world now call middle reply)
    (hsame : ∀ key, middle.store.data.tasks.lookup key = world.store.data.tasks.lookup key) :
    Finished middle.store.data middle.store.clock id := by
  rw [hcalled.stepped.clock]
  intro stored hread
  obtain ⟨hlookup, hunexpired⟩ := readable_eq_some.1 hread
  rw [hsame] at hlookup
  have hearlier := Task.unexpired_earlier hcalled.stepped.later hunexpired
  exact h stored (readable_eq_some.2 ⟨hlookup, hearlier⟩)

theorem reads_working_of_same (h : ReadsWorking middle.store id)
    (hcalled : Called router world now call middle reply)
    (hsame : ∀ key, middle.store.data.tasks.lookup key = world.store.data.tasks.lookup key) :
    ReadsWorking world.store id := by
  obtain ⟨stored, hread, hworking⟩ := h
  rw [hcalled.stepped.clock] at hread
  obtain ⟨hlookup, hunexpired⟩ := readable_eq_some.1 hread
  rw [hsame] at hlookup
  have hearlier := Task.unexpired_earlier hcalled.stepped.later hunexpired
  exact ⟨stored, readable_eq_some.2 ⟨hlookup, hearlier⟩, hworking⟩

theorem Served.step (h : Tracked router world) (hfresh : FreshDraw world event)
    (hstep : step router world event = some next) : Served next := by
  have hserved := h.served
  have hnumbered := h.orderly.numbered
  obtain ⟨now, action⟩ := event
  cases transition_of_step h.orderly.sound hfresh hstep with
  | created live created drawn toolName arguments ttl owner middle answer called =>
    obtain ⟨hfutures, hlive, _, _⟩ := called.same
    have hmiddle : middle.futures.Numbered := hfutures ▸ hnumbered
    intro id hid hover
    have hold : id ∈ world.liveTasks → Hosted (middle.start (.preparing drawn live)) id := by
      intro hmem
      refine held_start (held_called (hserved id hmem fun hfinished => hover ?_) called) hmiddle _
      refine finished_after called.stepped hfinished fun hdraw => ?_
      exact hfresh id hdraw (h.known id hmem)
    cases live with
    | false => exact hold hid
    | true =>
      rcases List.mem_cons.1 hid with rfl | hmem
      · exact ⟨middle.futures.next, .preparing id true, middle.futures.get_start_self _, rfl⟩
      · exact hold hmem
  | refused _ call _ reply called same _ =>
    intro id hid hover
    rw [called.same.2.1] at hid
    exact held_called
      (hserved id hid fun hfinished => hover (finished_of_same hfinished called same)) called
  | updated final taskId responses middle applied called =>
    have hmiddle : middle.futures.Numbered := called.same.1 ▸ hnumbered
    intro id hid hover
    have hid : id ∈ world.liveTasks := called.same.2.1 ▸ hid
    refine held_start (held_called (hserved id hid fun hfinished => hover ?_) called) hmiddle _
    exact finished_after called.stepped hfinished nofun
  | signalled _ _ _ => exact hserved
  | cancelling _ _ _ point starts =>
    intro id hid hover
    exact held_start (hserved id hid hover) hnumbered point
  | accessed ticket point call middle reply held makes called =>
    have hheld : middle.futures.get ticket = some point := (called.frame ticket).1.trans held
    intro id hid hover
    have hid : id ∈ world.liveTasks := called.same.2.1 ▸ hid
    have hhosted : Hosted middle id := by
      refine held_called (hserved id hid fun hfinished => hover ?_) called
      refine finished_after called.stepped hfinished fun hdraw => ?_
      rw [Point.drawn_id_of_call makes] at hdraw
      cases hdraw
    rcases held_move hhosted hheld (point.answered router reply) with hother | hhost
    · exact hother
    · cases keeps_of_called (Point.owner_of_host hhost) makes called with
      | kept following goes owner host =>
        rw [goes]
        exact held_following middle ticket point (host hhost)
      | finished finished => exact absurd finished hover
      | parked host _ =>
        rw [host] at hhost
        cases hhost
  | chosen ticket choice point following continuation held later chooses =>
    intro id hid hover
    obtain ⟨hfutures, hstore, _, hlive⟩ :=
      note_frame ((world.advance now.instant).move ticket point following) ticket continuation
    rw [hlive] at hid
    rw [hstore] at hover
    unfold Hosted
    rw [hfutures]
    have hhosted : Hosted (world.advance now.instant) id :=
      hserved id hid fun hfinished => hover (finished_later hfinished later)
    have hheld : (world.advance now.instant).futures.get ticket = some point := held
    rcases held_move hhosted hheld following with hother | hhost
    · exact hother
    · cases leaves_of_choose (Point.owner_of_host hhost) chooses with
      | kept moved goes owner host =>
        rw [goes]
        exact held_following (world.advance now.instant) ticket point (host hhost)
      | raised host _ | woken host _ =>
        rw [host] at hhost
        cases hhost
      | left updates _ _ =>
        rw [updates] at hhost
        cases hhost
  | retired remove _ reply called =>
    intro id hid hover
    rw [called.same.2.1] at hid
    refine held_called (hserved id hid fun hfinished => hover ?_) called
    exact finished_after called.stepped hfinished nofun

theorem status_of_reads_working {store : TaskStore.World} (h : ReadsWorking store id) :
    store.data.status id = some .working := by
  obtain ⟨stored, hread, hworking⟩ := h
  rw [MemoryTaskStoreData.status, (readable_eq_some.1 hread).1, ← hworking]
  rfl

theorem not_reads_working_of_raised (h : Orderly router world)
    (hraised : world.tokenRaised id = true) : ¬ReadsWorking world.store id := by
  rintro ⟨stored, hread, hworking⟩
  obtain ⟨hlookup, hunexpired⟩ := readable_eq_some.1 hread
  unfold World.tokenRaised at hraised
  rw [hlookup] at hraised
  have hunsignalled := h.sound.signalled.unsignalled hlookup hunexpired
  have hterminal := (h.records id stored hlookup hunsignalled).raised hraised
  rw [hworking] at hterminal
  cases hterminal

theorem Carried.step (hcarried : Carried world) (h : Tracked router world)
    (hfresh : FreshDraw world event) (hstep : step router world event = some next)
    (hkept : strands world event = false) : Carried next := by
  have hnumbered := h.orderly.numbered
  obtain ⟨now, action⟩ := event
  cases transition_of_step h.orderly.sound hfresh hstep with
  | created live created drawn toolName arguments ttl owner middle answer called =>
    have hmiddle : middle.futures.Numbered := called.same.1 ▸ hnumbered
    intro id hreads
    rcases reads_working_before called.stepped hreads with
      hbefore | hdraw | ⟨_, _, hcall, _⟩ | ⟨_, hcall⟩
    · exact held_start (held_called (hcarried id hbefore) called) hmiddle _
    · cases hdraw
      exact owned_start middle rfl
    · cases hcall
    · cases hcall
  | refused _ call _ reply called same _ =>
    intro id hreads
    exact held_called (hcarried id (reads_working_of_same hreads called same)) called
  | updated final taskId responses middle applied called =>
    have hmiddle : middle.futures.Numbered := called.same.1 ▸ hnumbered
    intro id hreads
    rcases reads_working_before called.stepped hreads with
      hbefore | hdraw | ⟨_, _, hcall, _, hwaited⟩ | ⟨_, hcall⟩
    · exact held_start (held_called (hcarried id hbefore) called) hmiddle _
    · cases hdraw
    · -- the update has moved the task, so it has answered the last request of it
      cases hcall
      have hthen : middle.store.data.status taskId = some .working :=
        status_of_reads_working hreads
      have hresumes : TaskRouter.resumes applied = true := by
        refine (moved_iff_of_updated h.orderly called).1 ?_
        rw [hwaited, hthen]
        rfl
      refine owned_start middle ?_
      rw [hresumes]
      rfl
    · cases hcall
  | signalled _ _ _ => exact hcarried
  | cancelling _ _ _ point starts =>
    intro id hreads
    exact held_start (hcarried id hreads) hnumbered point
  | accessed ticket point call middle reply held makes called =>
    have hheld : middle.futures.get ticket = some point := (called.frame ticket).1.trans held
    intro id hreads
    rcases reads_working_before called.stepped hreads with
      hbefore | hdraw | ⟨_, _, hcall, _⟩ | ⟨message, hcall⟩
    · rcases held_move (held_called (hcarried id hbefore) called) hheld
        (point.answered router reply) with hother | howner
      · exact hother
      · cases keeps_of_called howner makes called with
        | kept following goes owner host =>
          rw [goes]
          exact held_following middle ticket point owner
        | finished finished => exact absurd hreads (not_reads_working_of_finished finished)
        | parked _ waits => exact absurd hreads waits
    · have hdraw : call.drawnId = some id := hdraw
      rw [Point.drawn_id_of_call makes] at hdraw
      cases hdraw
    · have hcall : call = _ := hcall
      rw [hcall] at makes
      exact absurd makes Point.call_ne_apply_input_responses
    · have hcall : call = _ := hcall
      rw [hcall] at makes
      rw [Point.answered_of_report makes]
      exact held_following middle ticket point rfl
  | chosen ticket choice point following continuation held later chooses =>
    intro id hreads
    obtain ⟨hfutures, hstore, _, _⟩ :=
      note_frame ((world.advance now.instant).move ticket point following) ticket continuation
    rw [hstore] at hreads
    have hbefore : ReadsWorking world.store id := reads_working_earlier hreads later
    have hheld : (world.advance now.instant).futures.get ticket = some point := held
    have howned : Owned (world.advance now.instant) id := hcarried id hbefore
    -- the live handler of the task carries it on when the update lets go of it
    have hlive : id ∈ world.liveTasks → point.host = none →
        Owned ((world.advance now.instant).move ticket point following) id := by
      intro hid hhost
      have hhosted : Hosted (world.advance now.instant) id :=
        h.served id hid fun hfinished => not_reads_working_of_finished hfinished hbefore
      rcases held_move hhosted hheld following with hother | hsame
      · exact Hosted.owned hother
      · rw [hhost] at hsame
        cases hsame
    unfold Owned
    rw [hfutures]
    rcases held_move howned hheld following with hother | howner
    · exact hother
    · cases leaves_of_choose howner chooses with
      | kept moved goes owner host =>
        rw [goes]
        exact held_following (world.advance now.instant) ticket point owner
      | raised _ raised => exact absurd hbefore (not_reads_working_of_raised h.orderly raised)
      | woken host live => exact hlive (h.registered id live) host
      | left updates proceeds absent =>
        refine hlive ?_ (by rw [updates]; rfl)
        by_contra hordinary
        rw [updates] at held
        obtain ⟨note, hnote, _, hmoved⟩ := h.noted.resumes ticket id false true held
        unfold strands at hkept
        rw [proceeds] at hkept
        dsimp only at hkept
        rw [held, hnote] at hkept
        dsimp only at hkept
        rw [hmoved hordinary rfl, absent] at hkept
        cases hkept
  | retired remove _ reply called =>
    intro id hreads
    rcases reads_working_before called.stepped hreads with
      hbefore | hdraw | ⟨_, _, hcall, _⟩ | ⟨_, hcall⟩
    · exact held_called (hcarried id hbefore) called
    · cases hdraw
    · cases hcall
    · cases hcall

theorem is_live_move {following : Option Point}
    (h : (world.move ticket point following).isLive id = true) :
    world.isLive id = true ∨ following = some (.live id) := by
  obtain ⟨entry, hlookup⟩ := Option.isSome_iff_exists.1 h
  have hlookup : (World.registered world.executions point following).lookup id = some entry :=
    hlookup
  unfold World.registered at hlookup
  split at hlookup
  next =>
    rw [lookup_erase_eq_ite] at hlookup
    split at hlookup
    next => cases hlookup
    next => exact .inl (Option.isSome_iff_exists.2 ⟨entry, hlookup⟩)
  next taskId _ =>
    rw [lookup_insert_eq_ite] at hlookup
    split at hlookup
    next hid =>
      rw [hid]
      exact .inr rfl
    next => exact .inl (Option.isSome_iff_exists.2 ⟨entry, hlookup⟩)
  next => exact .inl (Option.isSome_iff_exists.2 ⟨entry, hlookup⟩)

theorem is_live_called (hcalled : Called router world now call middle reply) (id : String) :
    middle.isLive id = world.isLive id := by
  unfold World.isLive
  rw [hcalled.same.2.2.1]

theorem registered_step (h : Tracked router world) (hfresh : FreshDraw world event)
    (hstep : step router world event = some next) :
    ∀ id, next.isLive id = true → id ∈ next.liveTasks := by
  have hregistered := h.registered
  have horderly := h.orderly.step hfresh hstep
  obtain ⟨now, action⟩ := event
  cases transition_of_step h.orderly.sound hfresh hstep with
  | created live created drawn toolName arguments ttl owner middle answer called =>
    intro id hid
    have hold := hregistered id ((is_live_called called id).symm.trans hid)
    cases live with
    | false => exact hold
    | true => exact List.mem_cons_of_mem drawn hold
  | refused _ call _ reply called same _ =>
    intro id hid
    rw [called.same.2.1]
    exact hregistered id ((is_live_called called id).symm.trans hid)
  | updated final taskId responses middle applied called =>
    intro id hid
    show id ∈ middle.liveTasks
    rw [called.same.2.1]
    exact hregistered id ((is_live_called called id).symm.trans hid)
  | signalled _ _ _ => exact hregistered
  | cancelling _ _ _ point starts => exact hregistered
  | accessed ticket point call middle reply held makes called =>
    intro id hid
    rcases is_live_move hid with hbefore | hgoes
    · show id ∈ middle.liveTasks
      rw [called.same.2.1]
      exact hregistered id ((is_live_called called id).symm.trans hbefore)
    · refine horderly.live ticket (.live id) ?_ id rfl
      rw [get_move, if_pos rfl, hgoes]
  | chosen ticket choice point following continuation held later chooses =>
    intro id hid
    obtain ⟨_, _, hexecutions, hlive⟩ :=
      note_frame ((world.advance now.instant).move ticket point following) ticket continuation
    unfold World.isLive at hid
    rw [hexecutions] at hid
    rcases is_live_move hid with hbefore | hgoes
    · rw [hlive]
      exact hregistered id hbefore
    · refine horderly.live ticket (.live id) ?_ id rfl
      rw [get_chosen, if_pos rfl, hgoes]
  | retired remove _ reply called =>
    intro id hid
    rw [called.same.2.1]
    exact hregistered id ((is_live_called called id).symm.trans hid)

theorem known_step (h : Tracked router world) (hfresh : FreshDraw world event)
    (hstep : step router world event = some next) :
    ∀ id ∈ next.liveTasks, id ∈ TaskStore.drawnIds next.store.events := by
  have hknown := h.known
  obtain ⟨now, action⟩ := event
  cases transition_of_step h.orderly.sound hfresh hstep with
  | created live created drawn toolName arguments ttl owner middle answer called =>
    have hold : ∀ id ∈ world.liveTasks, id ∈ TaskStore.drawnIds middle.store.events :=
      fun id hid => TaskStore.drawn_of_stepped called.stepped (hknown id hid)
    cases live with
    | false => exact hold
    | true =>
      intro id hid
      rcases List.mem_cons.1 hid with rfl | hmem
      · have hdrawn : id ∈ TaskStore.drawnIds middle.store.events := drawn_of_called called rfl
        exact hdrawn
      · exact hold id hmem
  | refused _ call _ reply called same _ =>
    intro id hid
    rw [called.same.2.1] at hid
    exact TaskStore.drawn_of_stepped called.stepped (hknown id hid)
  | updated final taskId responses middle applied called =>
    intro id hid
    have hid : id ∈ world.liveTasks := called.same.2.1 ▸ hid
    exact TaskStore.drawn_of_stepped called.stepped (hknown id hid)
  | signalled _ _ _ => exact hknown
  | cancelling _ _ _ point starts => exact hknown
  | accessed ticket point call middle reply held makes called =>
    intro id hid
    have hid : id ∈ world.liveTasks := called.same.2.1 ▸ hid
    exact TaskStore.drawn_of_stepped called.stepped (hknown id hid)
  | chosen ticket choice point following continuation held later chooses =>
    intro id hid
    obtain ⟨_, hstore, _, hlive⟩ :=
      note_frame ((world.advance now.instant).move ticket point following) ticket continuation
    rw [hlive] at hid
    rw [hstore]
    exact hknown id hid
  | retired remove _ reply called =>
    intro id hid
    rw [called.same.2.1] at hid
    exact TaskStore.drawn_of_stepped called.stepped (hknown id hid)

theorem Noted.step (h : Tracked router world) (hfresh : FreshDraw world event)
    (hstep : step router world event = some next) : Noted next := by
  have hnoted := h.noted
  have hnumbered := h.orderly.numbered
  obtain ⟨now, action⟩ := event
  cases transition_of_step h.orderly.sound hfresh hstep with
  | created live created drawn toolName arguments ttl owner middle answer called =>
    have hmiddle : middle.futures.Numbered := called.same.1 ▸ hnumbered
    have hquiet : Quiet middle (middle.start (.preparing drawn live)) := quiet_start hmiddle rfl
    have hstarted := hnoted.quiet ((quiet_of_called called).trans hquiet)
    refine ⟨hstarted.fresh, fun ticket taskId final resumes hget => ?_⟩
    obtain ⟨note, hnote, hmoved, hordinary⟩ := hstarted.resumes ticket taskId final resumes hget
    refine ⟨note, hnote, hmoved, fun hid => hordinary fun hmem => hid ?_⟩
    have hbefore : taskId ∈ middle.liveTasks := hmem
    rw [called.same.2.1] at hbefore
    cases live with
    | false => exact hbefore
    | true => exact List.mem_cons_of_mem drawn hbefore
  | refused _ call _ reply called same _ => exact hnoted.quiet (quiet_of_called called)
  | updated final taskId responses middle applied called =>
    obtain ⟨hmoved, hordinary⟩ := moved_iff_of_updated h.orderly called
    obtain ⟨hfutures, hlive, _, hupdates⟩ := called.same
    rw [← hlive] at hordinary
    have hstarted := (hnoted.quiet (quiet_of_called called)).updated final hmoved hordinary
    rw [hfutures, hupdates] at hstarted
    exact hstarted
  | signalled _ _ _ => exact hnoted
  | cancelling _ _ _ point starts =>
    rcases starts with rfl | rfl
    · exact hnoted.quiet (quiet_start hnumbered rfl)
    · exact hnoted.quiet (quiet_start hnumbered rfl)
  | accessed ticket point call middle reply held makes called =>
    exact hnoted.quiet (quiet_accessed held makes called)
  | chosen ticket choice point following continuation held later chooses =>
    exact hnoted.chosen held (settles_of_choose chooses)
  | retired remove _ reply called => exact hnoted.quiet (quiet_of_called called)

theorem Tracked.step (h : Tracked router world) (hfresh : FreshDraw world event)
    (hstep : step router world event = some next) : Tracked router next where
  orderly := h.orderly.step hfresh hstep
  noted := Noted.step h hfresh hstep
  served := Served.step h hfresh hstep
  registered := registered_step h hfresh hstep
  known := known_step h hfresh hstep

theorem tracked_init (router : TaskRouter E) : Tracked router {} where
  orderly := orderly_init router
  noted := by
    constructor
    · intro ticket point hget
      cases hget
    · intro ticket taskId final resumes hget
      cases hget
  served := nofun
  registered := by
    intro id hid
    cases hid
  known := nofun

theorem strands_eq_false_iff {choice : Choice} (hheld : world.futures.get ticket = some point) :
    strands world { now, action := .choose ticket choice } = false ↔
      ∀ taskId resumes note, point = .updated taskId false resumes → choice = .proceed →
        world.isLive taskId = false → world.updates.lookup ticket = some note →
        note.moved = false := by
  unfold strands
  dsimp only
  split
  next other hproceeds =>
    obtain ⟨rfl, rfl⟩ := Action.choose.inj hproceeds
    rw [hheld]
    split
    next taskId resumes note hpoint hnote =>
      cases hpoint
      rw [Bool.and_eq_false_iff, Bool.not_eq_false']
      constructor
      · rintro hwhy other also same hsame _ hlive hlookup
        cases hsame
        obtain rfl := Option.some.inj (hnote.symm.trans hlookup)
        rcases hwhy with hunmoved | hother
        · exact hunmoved
        · rw [hlive] at hother
          cases hother
      · intro hwhen
        cases hlive : world.isLive taskId with
        | true => exact .inr rfl
        | false => exact .inl (hwhen taskId resumes note rfl rfl hlive hnote)
    next hother =>
      refine iff_of_true rfl fun taskId resumes note hpoint _ _ hnote => ?_
      rw [hpoint] at hother
      exact (hother taskId resumes note rfl hnote).elim
  next hother =>
    refine iff_of_true rfl fun taskId resumes note _ hproceeds => ?_
    rw [hproceeds] at hother
    exact (hother ticket rfl).elim

theorem ContinuedOnce.step (hcontinued : ContinuedOnce world) (h : Tracked router world)
    (hfresh : FreshDraw world event) (hstep : step router world event = some next) :
    ContinuedOnce next ↔ strands world event = false := by
  have hnumbered := h.orderly.numbered
  obtain ⟨now, action⟩ := event
  cases transition_of_step h.orderly.sound hfresh hstep with
  | created live created drawn toolName arguments ttl owner middle answer called =>
    have hmiddle : middle.futures.Numbered := called.same.1 ▸ hnumbered
    have hquiet : Quiet middle (middle.start (.preparing drawn live)) := quiet_start hmiddle rfl
    have hstarted := hcontinued.quiet ((quiet_of_called called).trans hquiet)
    exact iff_of_true hstarted rfl
  | refused action call _ reply called _ request =>
    refine iff_of_true (hcontinued.quiet (quiet_of_called called)) ?_
    unfold strands
    split
    next ticket hchoose => exact absurd hchoose (request ticket .proceed)
    next => rfl
  | updated final taskId responses middle applied called =>
    obtain ⟨hfutures, _, _, hupdates⟩ := called.same
    refine iff_of_true ?_ rfl
    have hstarted := (hcontinued.quiet (quiet_of_called called)).updated taskId final
      (TaskRouter.resumes applied) (world.store.data.status taskId == some .inputRequired &&
        middle.store.data.status taskId == some .working)
    rw [hfutures, hupdates] at hstarted
    exact hstarted
  | signalled _ _ _ => exact iff_of_true hcontinued rfl
  | cancelling _ _ _ point starts =>
    refine iff_of_true ?_ rfl
    rcases starts with rfl | rfl
    · exact hcontinued.quiet (quiet_start hnumbered rfl)
    · exact hcontinued.quiet (quiet_start hnumbered rfl)
  | accessed ticket point call middle reply held makes called =>
    exact iff_of_true (hcontinued.quiet (quiet_accessed held makes called)) rfl
  | chosen ticket choice point following continuation held later chooses =>
    rw [continued_once_chosen hcontinued h.noted held chooses, strands_eq_false_iff held]
    constructor
    · intro hwhen taskId resumes note hpoint hproceeds hlive hnote
      cases resumes with
      | true => exact hwhen taskId note hpoint hproceeds hlive hnote
      | false =>
        rw [hpoint] at held
        obtain ⟨same, hsame, hresumes, _⟩ := h.noted.resumes ticket taskId false false held
        obtain rfl := Option.some.inj (hsame.symm.trans hnote)
        cases hmoved : same.moved with
        | false => rfl
        | true => cases hresumes hmoved
    · exact fun hwhen taskId note => hwhen taskId true note
  | retired remove _ reply called =>
    exact iff_of_true (hcontinued.quiet (quiet_of_called called)) rfl

theorem continued_step (hcontinued : Continued world) (h : Tracked router world)
    (hfresh : FreshDraw world event) (hstep : step router world event = some next) :
    Continued next ↔ strands world event = false := by
  have hiff := hcontinued.once.step h hfresh hstep
  constructor
  · intro hnext
    exact hiff.1 hnext.once
  · intro hkept
    exact ⟨hiff.2 hkept, hcontinued.carried.step h hfresh hstep hkept⟩

end Step

/-- In every run whose created identifiers differ, each update that moves its task continues it once,
and no task is left working with nobody to carry it on, exactly when no update of the older protocol
goes on that has moved a task without a registered live handler. -/
theorem continued_throughout_iff_none_stranded {E : Type} (router : TaskRouter E) {final : World}
    {events : List Event} (hfresh : (drawnIds events).Nodup)
    (hrun : run (step router) {} events = some final) :
    Throughout (step router) Continued {} events ↔
      Along (step router) (fun world event => strands world event = false) {}
        events := by
  have halong : Along (step router) FreshDraw {} events := along_fresh_draw hfresh
  have hstart : Continued {} := by
    constructor
    · intro ticket note hnote
      cases hnote
    · rintro id ⟨stored, hread, _⟩
      cases hread
  refine throughout_iff_along_of_run ?_ ?_ (tracked_init router) hstart halong hrun
  · intro world event next htracked hdraw hstep
    exact htracked.step hdraw hstep
  · intro world event next htracked hdraw hcontinued hstep
    exact continued_step hcontinued htracked hdraw hstep

theorem continued_throughout_iff_none_stranded_replayed :
    (∃ world, run (step TaskRouter.subjectRouter) {}
      (parkingEvents ++ answerEvents true ++ replayEvents) = some world) ∧
    Throughout (step TaskRouter.subjectRouter) Continued {}
      (parkingEvents ++ answerEvents true ++ replayEvents) := by
  obtain ⟨world, hrun⟩ : ∃ world, run (step TaskRouter.subjectRouter) {}
      (parkingEvents ++ answerEvents true ++ replayEvents) = some world := by
    decide +kernel
  refine ⟨⟨world, hrun⟩, ?_⟩
  exact (continued_throughout_iff_none_stranded TaskRouter.subjectRouter (by decide) hrun).2
    (by decide +kernel)

/-- A task that an ordinary handler has parked is answered under the older protocol: it moves to
working, no update continues it, and nothing is left that could carry it on. -/
theorem older_update_strands_task :
    ∃ world, run (step TaskRouter.subjectRouter) {}
        (parkingEvents ++ answerEvents false) = some world ∧
      world.store.data.status "a" = some .working ∧ world.futures.calls.keys = [] ∧
      (world.updates.lookup 1).map (fun note => (note.moved, note.continuations)) =
        some (true, []) ∧
      ¬Continued world := by
  obtain ⟨world, hrun, hworking, hfutures, hnoted⟩ : ∃ world,
      run (step TaskRouter.subjectRouter) {} (parkingEvents ++ answerEvents false) =
          some world ∧
        world.store.data.status "a" = some .working ∧ world.futures.calls.keys = [] ∧
        (world.updates.lookup 1).map (fun note => (note.moved, note.continuations)) =
          some (true, []) := by
    decide +kernel
  refine ⟨world, hrun, hworking, hfutures, hnoted, fun hcontinued => ?_⟩
  obtain ⟨note, hnote, hpair⟩ := Option.map_eq_some_iff.1 hnoted
  obtain ⟨hmoved, hnone⟩ := Prod.mk.inj hpair
  have hended : world.futures.get 1 = none := by
    apply AList.lookup_eq_none.2
    rw [AList.mem_keys, hfutures]
    exact List.not_mem_nil
  have hcount := hcontinued.once 1 note hnote hmoved
  unfold World.isPending at hcount
  rw [hnone, hended] at hcount
  cases hcount

end TaskExecution

end TowerMcp
