import TowerMcp.Client.MessageLoop

/-!
# A cancelled request of the server is not answered

The handler of a request decides whether there is a response when it finishes, and the loop sends
the response later. A cancellation that is processed while the handler runs is seen; one that is
processed between the two is not, and the request is answered all the same. When every
cancellation comes before its handler has finished with a response, no cancelled request is
answered and every other one is.
-/

namespace TowerMcp

open Execution Pool

namespace MessageLoop

def requestedId : Event → Option RequestId
  | .incoming (some parsed) => Loop.requestOf parsed
  | _ => none

def cancelledId : Event → Option RequestId
  | .incoming (some parsed) =>
    match Loop.notificationOf parsed with
    | some (.subscriptionCancelled id _) => some id
    | _ => none
  | _ => none

def ReusesSettled (s : Loop) (event : Event) : Prop :=
  ((requestedId event).any fun id =>
    s.tasks.any fun request => decide (request.id = id) && !request.relayed) = false

/-- A cancellation does not name a request whose handler has finished with a response that the loop
has not taken. -/
def CancelsRunning (s : Loop) (event : Event) : Prop :=
  ((cancelledId event).any fun id =>
    s.tasks.any fun request =>
      decide (request.id = id) && !request.relayed && request.outcome.any Option.isSome) = false

instance (s : Loop) (event : Event) : Decidable (ReusesSettled s event) :=
  inferInstanceAs (Decidable (_ = false))

instance (s : Loop) (event : Event) : Decidable (CancelsRunning s event) :=
  inferInstanceAs (Decidable (_ = false))

namespace ServerRequest

/-- A request that was cancelled before a reply was sent has no reply, and one that was not, and that
the loop is done with, has one. -/
structure Kept (request : ServerRequest) : Prop where
  silent : request.asked = true → request.replied = false
  answered : request.relayed = true → request.asked = false → request.withdrawn = false →
    request.replied = true
  taken : request.replied = true → request.relayed = true

/-- What is known of a request that the loop is not done with: who has cancelled its token, and what
its handler has seen of that. -/
structure Current (request : ServerRequest) : Prop where
  token : request.token = true ↔ request.asked = true ∨ request.withdrawn = true
  discarded : request.outcome = some none → request.asked = true ∨ request.withdrawn = true
  finished : ∀ response, request.outcome = some (some response) → request.asked = false

theorem Current.finish {request : ServerRequest} (h : request.Current)
    (result : Except JsonRpcError Json) :
    { request with
      outcome := some (if request.token then none
        else some (serverRequestResponse request.id result)) }.Current := by
  refine ⟨h.token, fun hnone => ?_, fun response hsome => ?_⟩
  · cases htoken : request.token with
    | true => exact h.token.1 htoken
    | false =>
      rw [htoken] at hnone
      cases hnone
  · cases hasked : request.asked with
    | false => rfl
    | true =>
      rw [h.token.2 (.inl hasked)] at hsome
      cases hsome

def view (request : ServerRequest) : RequestId × Bool :=
  (request.id, request.relayed)

end ServerRequest

def AnswersKept (s : Loop) : Prop :=
  s.tasks.Holds fun request =>
    (request.asked = true → request.replied = false) ∧
      (request.relayed = true → request.asked = false → request.withdrawn = false →
        request.replied = true)

structure Loop.Registers (s : Loop) : Prop where
  current : s.tasks.Holds fun request => request.relayed = false → request.Current
  numbered : s.tasks.Numbered
  registered : ∀ id task, s.pendingServerRequests.lookup id = some task ↔
    (s.tasks.get task).map ServerRequest.view = some (id, false)

structure Loop.Tracked (s : Loop) : Prop where
  kept : s.tasks.Holds ServerRequest.Kept
  registers : s.phase = .running → s.Registers

namespace Loop

variable {s : Loop}

variable {task : ℕ}

variable {request : ServerRequest}

theorem Registers.lookup (h : s.Registers)
    (hget : s.tasks.get task = some request) (hrelayed : request.relayed = false) :
    s.pendingServerRequests.lookup request.id = some task := by
  refine (h.registered request.id task).2 ?_
  rw [hget, Option.map_some]
  unfold ServerRequest.view
  rw [hrelayed]

theorem kept_of_tokens_only {tasks tasks' : Pool ServerRequest} (htokens : TokensOnly tasks tasks')
    (h : tasks.Holds ServerRequest.Kept) : tasks'.Holds ServerRequest.Kept := by
  intro task request' hget
  obtain ⟨request, hbefore, heq⟩ := htokens task request' hget
  rw [heq]
  have hkept := h task request hbefore
  exact ⟨hkept.silent, hkept.answered, hkept.taken⟩

theorem Tracked.of_keeps {s' : Loop} (h : s.Tracked) (hkeeps : Keeps s s') : s'.Tracked where
  kept := kept_of_tokens_only hkeeps.tokens h.kept
  registers hrunning := by
    obtain ⟨hbefore, htasks, hservers⟩ := hkeeps.running hrunning
    have hregisters := h.registers hbefore
    constructor
    · rw [htasks]
      exact hregisters.current
    · rw [htasks]
      exact hregisters.numbered
    · rw [htasks, hservers]
      exact hregisters.registered

theorem Tracked.of_eq {s' : Loop} (h : s.Tracked) (htasks : s'.tasks = s.tasks)
    (hservers : s'.pendingServerRequests = s.pendingServerRequests)
    (hphase : s'.phase = .running → s.phase = .running) : s'.Tracked where
  kept := htasks ▸ h.kept
  registers hrunning := by
    have hregisters := h.registers (hphase hrunning)
    constructor
    · rw [htasks]
      exact hregisters.current
    · rw [htasks]
      exact hregisters.numbered
    · rw [htasks, hservers]
      exact hregisters.registered

theorem Tracked.become (h : s.Tracked) {moved : ServerRequest}
    (hget : s.tasks.get task = some request) (hview : moved.view = request.view)
    (hkept : moved.Kept) (hcurrent : s.phase = .running → moved.relayed = false → moved.Current) :
    { s with tasks := s.tasks.become task moved }.Tracked where
  kept := h.kept.become hkept
  registers hrunning := by
    have hregisters := h.registers hrunning
    refine ⟨hregisters.current.become (hcurrent hrunning), hregisters.numbered.become hget moved,
      fun id other => ?_⟩
    rw [hregisters.registered id other]
    show _ ↔ ((s.tasks.become task moved).get other).map _ = _
    rw [get_become_eq_ite]
    split
    next heq => rw [heq, hget, Option.map_some, Option.map_some, hview]
    next => rfl

variable {id : RequestId}

theorem Tracked.spawn (h : s.Tracked) (hrunning : s.phase = .running)
    (hnew : s.tasks.Holds fun request => request.id = id → request.relayed = true) :
    (s.spawn id).Tracked where
  kept := by
    refine h.kept.start ⟨fun hasked => ?_, fun hrelayed => ?_, fun hreplied => ?_⟩
    · cases hasked
    · cases hrelayed
    · cases hreplied
  registers _ := by
    have hregisters := h.registers hrunning
    constructor
    · refine hregisters.current.start fun _ => ⟨?_, fun hnone => ?_, fun _ hsome => ?_⟩
      · simp
      · cases hnone
      · cases hsome
    · exact hregisters.numbered.start _
    · intro other task
      show (s.pendingServerRequests.insert id s.tasks.next).lookup other = some task ↔
        ((s.tasks.start { id }).get task).map _ = _
      rw [FinMap.lookup_insert_eq_ite, get_start_eq_ite]
      by_cases hother : other = id
      · subst hother
        rw [if_pos rfl]
        by_cases htask : task = s.tasks.next
        · subst htask
          simp [ServerRequest.view]
        · rw [if_neg htask]
          constructor
          · intro heq
            exact absurd (Option.some.inj heq).symm htask
          · intro hview
            obtain ⟨request, hget, hpair⟩ := Option.map_eq_some_iff.1 hview
            have hid : request.id = other := congrArg Prod.fst hpair
            have hrelayed : request.relayed = false := congrArg Prod.snd hpair
            rw [hnew task request hget hid] at hrelayed
            cases hrelayed
      · rw [if_neg hother]
        by_cases htask : task = s.tasks.next
        · subst htask
          rw [if_pos rfl, hregisters.registered, hregisters.numbered.get_next]
          have hne : id ≠ other := fun heq => hother heq.symm
          simp [ServerRequest.view, hne]
        · rw [if_neg htask]
          exact hregisters.registered other task

theorem kept_noted (id : RequestId) (h : s.tasks.Holds ServerRequest.Kept) :
    (s.noteCancellation id).tasks.Holds ServerRequest.Kept := by
  refine h.map fun request hkept => ?_
  split
  next hnamed =>
    exact ⟨fun _ => hnamed.2, fun _ hasked => (nomatch hasked), hkept.taken⟩
  next => exact hkept

theorem registered_noted (h : s.Registers) (id : RequestId) :
    (s.noteCancellation id).tasks.Numbered ∧ ∀ other task,
      s.pendingServerRequests.lookup other = some task ↔
        ((s.noteCancellation id).tasks.get task).map ServerRequest.view = some (other, false) := by
  refine ⟨h.numbered.map _, fun other task => ?_⟩
  rw [h.registered other task]
  show _ ↔ ((s.tasks.map _).get task).map _ = _
  rw [get_map, Option.map_map]
  refine Eq.congr ?_ rfl
  refine congrArg (fun f => Option.map f (s.tasks.get task)) (funext fun request => ?_)
  rw [Function.comp_apply]
  split
  next => rfl
  next => rfl

theorem Tracked.noted (h : s.Tracked) (hnone : s.pendingServerRequests.lookup id = none) :
    (s.noteCancellation id).Tracked where
  kept := kept_noted id h.kept
  registers hrunning := by
    have hregisters := h.registers hrunning
    obtain ⟨hnumbered, hregistered⟩ := registered_noted hregisters id
    refine ⟨?_, hnumbered, hregistered⟩
    intro task moved hget hrelayed
    rw [show (s.noteCancellation id).tasks = s.tasks.map _ from rfl, get_map] at hget
    obtain ⟨request, hbefore, rfl⟩ := Option.map_eq_some_iff.1 hget
    split at hrelayed
    next hnamed =>
      have hlookup := hregisters.lookup hbefore hrelayed
      rw [hnamed.1, hnone] at hlookup
      cases hlookup
    next hnamed =>
      rw [if_neg hnamed]
      exact hregisters.current task request hbefore hrelayed

theorem Tracked.cancelled (h : s.Tracked) (hrunning : s.phase = .running)
    (hlookup : s.pendingServerRequests.lookup id = some task)
    (htime : s.tasks.Holds fun request => request.id = id → request.relayed = false →
      ∀ response, request.outcome ≠ some (some response)) :
    { s.noteCancellation id with
      tasks := cancelToken (s.noteCancellation id).tasks task }.Tracked where
  kept := kept_of_tokens_only (tokens_only_cancel_token _ task) (kept_noted id h.kept)
  registers _ := by
    have hregisters := h.registers hrunning
    obtain ⟨hnumbered, hregistered⟩ := registered_noted hregisters id
    obtain ⟨request, hget, hview⟩ := Option.map_eq_some_iff.1 ((hregisters.registered id task).1 hlookup)
    have hid : request.id = id := congrArg Prod.fst hview
    have hrelayed : request.relayed = false := congrArg Prod.snd hview
    have hreplied : request.replied = false := by
      cases hreplied : request.replied with
      | false => rfl
      | true =>
        rw [(h.kept task request hget).taken hreplied] at hrelayed
        cases hrelayed
    have hnoted : (s.noteCancellation id).tasks.get task = some { request with asked := true } := by
      show (s.tasks.map _).get task = _
      rw [get_map, hget, Option.map_some, if_pos ⟨hid, hreplied⟩]
    have hcancel : cancelToken (s.noteCancellation id).tasks task =
        (s.noteCancellation id).tasks.become task
          { request with asked := true, token := true } := by
      unfold cancelToken
      rw [hnoted]
    have hcurrent := hregisters.current task request hget hrelayed
    constructor
    · show (cancelToken (s.noteCancellation id).tasks task).Holds _
      rw [hcancel]
      intro other moved hother hmoved
      rw [get_become_eq_ite] at hother
      split at hother
      next =>
        cases hother
        refine ⟨by simp, fun _ => .inl rfl, fun response hresponse => ?_⟩
        exact absurd hresponse (htime task request hget hid hrelayed response)
      next hne =>
        rw [show (s.noteCancellation id).tasks = s.tasks.map _ from rfl, get_map] at hother
        obtain ⟨before, hbefore, rfl⟩ := Option.map_eq_some_iff.1 hother
        split at hmoved
        next hnamed =>
          have hsame := hregisters.lookup hbefore hmoved
          rw [hnamed.1, hlookup] at hsame
          exact absurd (Option.some.inj hsame).symm hne
        next hnamed =>
          rw [if_neg hnamed]
          exact hregisters.current other before hbefore hmoved
    · show (cancelToken (s.noteCancellation id).tasks task).Numbered
      rw [hcancel]
      exact hnumbered.become hnoted _
    · intro other number
      rw [show (s.noteCancellation id).pendingServerRequests = s.pendingServerRequests from rfl,
        hregistered other number]
      show _ ↔ ((cancelToken (s.noteCancellation id).tasks task).get number).map _ = _
      rw [hcancel, get_become_eq_ite]
      split
      next heq =>
        rw [heq, hnoted]
        rfl
      next => rfl

theorem Tracked.relay (h : s.Tracked) (hrunning : s.phase = .running)
    (hget : s.tasks.get task = some request) (hrelayed : request.relayed = false)
    {response : Option Json} (houtcome : request.outcome = some response)
    (sent : Except String Unit) : (s.relay task request response sent).Tracked := by
  have hregisters := h.registers hrunning
  have hcurrent := hregisters.current task request hget hrelayed
  have hlookup := hregisters.lookup hget hrelayed
  have htaken : { s with
      pendingServerRequests := s.pendingServerRequests.erase request.id
      tasks := s.tasks.become task
        { request with relayed := true, replied := response.isSome } }.Tracked := by
    constructor
    · refine h.kept.become ⟨fun hasked => ?_, fun _ hasked hwithdrawn => ?_, fun _ => rfl⟩
      · cases response with
        | none => rfl
        | some value =>
          have hnot := hcurrent.finished value houtcome
          rw [show request.asked = true from hasked] at hnot
          cases hnot
      · cases response with
        | some value => rfl
        | none =>
          have hdiscarded := hcurrent.discarded houtcome
          rw [show request.asked = false from hasked,
            show request.withdrawn = false from hwithdrawn] at hdiscarded
          simp at hdiscarded
    · intro _
      refine ⟨hregisters.current.become fun hnot => (nomatch hnot),
        hregisters.numbered.become hget _, fun id other => ?_⟩
      show (s.pendingServerRequests.erase request.id).lookup id = some other ↔
        ((s.tasks.become task _).get other).map _ = _
      rw [FinMap.lookup_erase_eq_ite, get_become_eq_ite]
      by_cases hother : other = task
      · rw [if_pos hother]
        have hne : s.pendingServerRequests.lookup id = some other → id = request.id := by
          intro hid
          rw [hregisters.registered, hother, hget] at hid
          exact (congrArg Prod.fst (Option.some.inj hid)).symm
        constructor
        · intro hid
          split at hid
          next => cases hid
          next hnot => exact absurd (hne hid) hnot
        · intro hview
          cases hview
      · rw [if_neg hother]
        split
        next hid =>
          constructor
          · intro hnone
            cases hnone
          · intro hview
            rw [← hregisters.registered, hid, hlookup] at hview
            exact absurd (Option.some.inj hview).symm hother
        next => exact hregisters.registered id other
  unfold Loop.relay
  dsimp only
  split
  next failure => exact htaken.of_keeps (keeps_stop_after failure)
  next => exact htaken

theorem Tracked.handle_notification (h : s.Tracked) (hrunning : s.phase = .running)
    (notification : ServerNotification)
    (htime : ∀ id reason, notification = .subscriptionCancelled id reason →
      s.tasks.Holds fun request => request.id = id → request.relayed = false →
        ∀ response, request.outcome ≠ some (some response)) :
    (s.handleNotification notification).Tracked := by
  unfold handleNotification
  split
  next id reason =>
    cases hlookup : s.pendingServerRequests.lookup id with
    | some task => exact h.cancelled hrunning hlookup (htime id reason rfl)
    | none => exact (h.noted hlookup).of_keeps (keeps_handle_subscription _)
  next => exact h.of_keeps (keeps_handle_subscription _)

theorem Tracked.handle_incoming (h : s.Tracked) (hrunning : s.phase = .running)
    (line : Option Json) (hreuse : ReusesSettled s (.incoming line))
    (htime : CancelsRunning s (.incoming line)) : (s.handleIncoming line).Tracked := by
  unfold handleIncoming
  cases line with
  | none => exact h
  | some parsed =>
    dsimp only
    split
    next =>
      split
      next => exact h.of_keeps (.of_eq rfl rfl rfl rfl rfl)
      next => exact h.of_keeps (keeps_handle_response parsed)
    next =>
      split
      next id hid =>
        refine h.spawn hrunning fun task request hget hsame => ?_
        unfold ReusesSettled requestedId at hreuse
        dsimp only at hreuse
        rw [hid, Option.any_some] at hreuse
        have hnot := holds_of_not_any hreuse task request hget
        simpa [hsame] using hnot
      next =>
        split
        next notification hnotification =>
          refine h.handle_notification hrunning notification ?_
          rintro id reason rfl task request hget hsame hrelayed response houtcome
          unfold CancelsRunning cancelledId at htime
          dsimp only at htime
          rw [hnotification] at htime
          rw [Option.any_some] at htime
          have hnot := holds_of_not_any htime task request hget
          simp [hsame, hrelayed, houtcome] at hnot
        next => exact h

end Loop

theorem tracked_step {s next : Loop} {event : Event} (h : s.Tracked)
    (hcond : ReusesSettled s event ∧ CancelsRunning s event) (hstep : step s event = some next) :
    next.Tracked := by
  cases event with
  | submit command =>
    unfold step at hstep
    dsimp only at hstep
    split at hstep
    next =>
      cases hstep
      exact h.of_eq rfl rfl fun hrunning => hrunning
    next =>
      cases hstep
      exact h.of_eq rfl rfl fun hrunning => hrunning
  | draw =>
    cases hstep
    exact h.of_keeps (.of_eq rfl rfl rfl rfl rfl)
  | command encoded sent resolved =>
    unfold step at hstep
    dsimp only at hstep
    split at hstep
    next ticket command rest _ _ =>
      cases hstep
      have htaken : { s with commands := rest }.Tracked :=
        h.of_eq rfl rfl fun hrunning => hrunning
      exact htaken.of_keeps (Loop.keeps_handle_command ticket command encoded sent resolved)
    next => cases hstep
  | hangUp =>
    obtain ⟨_, heq⟩ := Option.ite_none_right_eq_some.1 hstep
    cases heq
    exact h.of_keeps Loop.keeps_stop
  | incoming line =>
    obtain ⟨hrunning, heq⟩ := Option.ite_none_right_eq_some.1 hstep
    cases heq
    exact h.handle_incoming hrunning line hcond.1 hcond.2
  | transportClosed =>
    obtain ⟨_, heq⟩ := Option.ite_none_right_eq_some.1 hstep
    cases heq
    exact h.of_keeps Loop.keeps_stop
  | finish task result =>
    unfold step at hstep
    dsimp only at hstep
    split at hstep
    next request hget =>
      split at hstep
      next => cases hstep
      next =>
        cases hstep
        have hkept := h.kept task request hget
        refine h.become hget rfl ⟨hkept.silent, hkept.answered, hkept.taken⟩
          fun hrunning hrelayed => ?_
        have hcurrent := (h.registers hrunning).current task request hget hrelayed
        exact hcurrent.finish result
    next => cases hstep
  | withdraw task =>
    unfold step at hstep
    dsimp only at hstep
    split at hstep
    next request hget =>
      cases hstep
      have hkept := h.kept task request hget
      refine h.become hget rfl ⟨hkept.silent, fun _ _ hnot => (nomatch hnot), hkept.taken⟩
        fun hrunning hrelayed => ?_
      have hcurrent := (h.registers hrunning).current task request hget hrelayed
      exact ⟨by simp, fun _ => .inr rfl, hcurrent.finished⟩
    next => cases hstep
  | relay task sent =>
    unfold step at hstep
    dsimp only at hstep
    split at hstep
    next request hget =>
      split at hstep
      next response houtcome =>
        obtain ⟨hguard, heq⟩ := Option.ite_none_right_eq_some.1 hstep
        cases heq
        exact h.relay hguard.1 hget hguard.2 houtcome sent
      next => cases hstep
    next => cases hstep
  | close =>
    obtain ⟨_, heq⟩ := Option.ite_none_right_eq_some.1 hstep
    cases heq
    exact h.of_eq rfl rfl fun hrunning => (nomatch hrunning)
  | abort =>
    unfold step at hstep
    dsimp only at hstep
    split at hstep
    next => cases hstep
    next =>
      cases hstep
      exact h.of_eq rfl rfl fun hrunning => (nomatch hrunning)

theorem tracked_init : ({} : Loop).Tracked where
  kept := holds_empty
  registers _ := by
    refine ⟨holds_empty, numbered_empty, fun id task => ?_⟩
    constructor
    · intro hlookup
      cases hlookup
    · intro hview
      cases hview

/-- When identifiers are reused only after the loop is done with the request that had them, and no
cancellation is processed between the end of a handler that gave a response and the relay of that
response, no cancelled request is answered and every other request the loop is done with is. -/
theorem cancelled_requests_unanswered (events : List Event)
    (hreuse : Along step ReusesSettled {} events)
    (htime : Along step CancelsRunning {} events) :
    Throughout step AnswersKept {} events := by
  have htracked : Throughout step Loop.Tracked {} events :=
    throughout_of_along (fun _ _ _ h hcond hstep => tracked_step h hcond hstep)
      tracked_init (hreuse.and htime)
  refine htracked.mono fun s h task request hget => ?_
  have hkept := h.kept task request hget
  exact ⟨hkept.silent, hkept.answered⟩

def pingRequest (id : ℕ) : Json :=
  .object [("id", .number (.posInt id)), ("method", .string "ping")]

def cancelledNotification (id : ℕ) : Json :=
  .object [("method", .string "notifications/cancelled"),
    ("params", .object [("requestId", .number (.posInt id))])]

theorem cancelled_requests_unanswered_two :
    Throughout step AnswersKept {}
      [.incoming (some (pingRequest 1)), .incoming (some (pingRequest 2)),
        .incoming (some (cancelledNotification 1)), .finish 1 (.ok .null), .finish 0 (.ok .null),
        .relay 1 (.ok ()), .relay 0 (.ok ()), .incoming (some (pingRequest 2))] :=
  cancelled_requests_unanswered _ (by decide +kernel) (by decide +kernel)

/-- A cancellation that is processed after the handler has finished does not stop the reply. -/
theorem cancelled_request_answered :
    Along step ReusesSettled {}
        [.incoming (some (pingRequest 1)), .finish 0 (.ok .null),
          .incoming (some (cancelledNotification 1)), .relay 0 (.ok ())] ∧
      ¬Throughout step AnswersKept {}
        [.incoming (some (pingRequest 1)), .finish 0 (.ok .null),
          .incoming (some (cancelledNotification 1)), .relay 0 (.ok ())] := by
  refine ⟨by decide +kernel, fun hall => ?_⟩
  obtain ⟨final, hfinal, request, hget, hasked, hreplied⟩ : ∃ final, run step {}
      [.incoming (some (pingRequest 1)), .finish 0 (.ok .null),
        .incoming (some (cancelledNotification 1)), .relay 0 (.ok ())] = some final ∧
      ∃ request, final.tasks.get 0 = some request ∧ request.asked = true ∧
        request.replied = true := by
    decide +kernel
  have hsilent := (hall.last hfinal 0 request hget).1 hasked
  rw [hreplied] at hsilent
  cases hsilent

end MessageLoop

end TowerMcp
