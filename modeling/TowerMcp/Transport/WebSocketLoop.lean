import TowerMcp.Transport.WebSocket

/-!
# The loop of a bidirectional WebSocket

One connection of `handle_socket_bidirectional` with the handlers behind it and the channel between
them: `ChannelClientRequester::dispatch` of `context.rs` numbers a request, waits for room in the
channel and then for the response; the loop takes requests from the channel, reads frames, and waits
for the handlers of a request frame before it does anything else. Work that a handler leaves behind
may ask the client as well, and no frame waits for it.
-/

namespace TowerMcp

open Execution

namespace WebSocketLoop

open WebSocket FinMap Pool

/-! ## The connection -/

def channelCapacity : ℕ := 32

/-- A handler: at work, with what its last request to the client came to, or waiting for room in the
channel or for the response to a request. -/
inductive Handler where
  | running (received : Option (Except String Json))
  | sending (id : RequestId)
  | waiting (id : RequestId)

structure OutgoingRequest where
  id : RequestId
  ticket : ℕ

/-- Where the loop is: at its select, waiting for the handlers of a request frame, or past its end.
-/
inductive Phase where
  | selecting
  | serving (calls : List ℕ)
  | closed

namespace Phase

def awaited : Phase → List ℕ
  | .serving calls => calls
  | .selecting | .closed => []

def done (ticket : ℕ) : Phase → Phase
  | .serving calls =>
    if calls.filter (· ≠ ticket) = [] then .selecting
    else .serving (calls.filter (· ≠ ticket))
  | .selecting => .selecting
  | .closed => .closed

theorem eq_closed_of_done {ticket : ℕ} {phase : Phase} (h : phase.done ticket = .closed) :
    phase = .closed := by
  cases phase with
  | selecting => cases h
  | serving calls =>
    simp only [done] at h
    split at h <;> cases h
  | closed => rfl

end Phase

/-- A connection. `asked` holds the handler of each request that was numbered, and `sent` the
requests that the client was sent. -/
structure Connection where
  handlers : Pool Handler := {}
  asked : List ℕ := []
  channel : List OutgoingRequest := []
  pending : PendingRequests := ∅
  phase : Phase := .selecting
  sent : List RequestId := []

inductive Event where
  | frame (parsed : Json) (handlers : ℕ)
  | takeOutgoing
  | ask (ticket : ℕ)
  | enqueue (ticket : ℕ)
  | spawn
  | finish (ticket : ℕ)
  | giveUp (ticket : ℕ)
  | close

def sendClosed : String := "Failed to send request: channel closed"

def receiveClosed : String := "Failed to receive response: channel closed"

def requestIdAt (index : ℕ) : RequestId :=
  .number ((index : ℤ) + 1)

def Handler.fail : Handler → Handler
  | .running received => .running received
  | .sending _ => .running (some (.error sendClosed))
  | .waiting _ => .running (some (.error receiveClosed))

def deliver (handlers : Pool Handler) (id : RequestId) (ticket : ℕ)
    (outcome : Except String Json) : Pool Handler :=
  match handlers.get ticket with
  | some (.waiting asked) =>
    if asked = id then handlers.become ticket (.running (some outcome)) else handlers
  | _ => handlers

namespace Connection

variable (s : Connection)

def receive (parsed : Json) (handlers : ℕ) : Connection :=
  match classifyFrame parsed with
  | .notification => s
  | .response =>
    let handled := WebSocket.handleResponse s.pending parsed
    { s with
      pending := handled.pending
      handlers :=
        match correlatingId parsed, handled.completed with
        | some id, some (ticket, outcome) => deliver s.handlers id ticket outcome
        | _, _ => s.handlers }
  | .request =>
    { s with
      handlers := s.handlers.startAll (List.replicate handlers (.running none))
      phase :=
        if handlers = 0 then .selecting
        else .serving (List.range' s.handlers.next handlers) }

def enqueue (ticket : ℕ) (id : RequestId) : Option Connection :=
  match s.phase with
  | .closed => some
      { s with handlers := s.handlers.become ticket (.running (some (.error sendClosed))) }
  | .selecting | .serving _ =>
    if s.channel.length < channelCapacity then some
      { s with
        handlers := s.handlers.become ticket (.waiting id)
        channel := s.channel ++ [{ id, ticket }] }
    else none

def step (s : Connection) : Event → Option Connection
  | .frame parsed handlers =>
    match s.phase with
    | .selecting => some (s.receive parsed handlers)
    | .serving _ | .closed => none
  | .takeOutgoing =>
    match s.phase, s.channel with
    | .selecting, outgoing :: rest => some
        { s with
          channel := rest
          pending := s.pending.insert outgoing.id outgoing.ticket
          sent := s.sent ++ [outgoing.id] }
    | _, _ => none
  | .ask ticket =>
    match s.handlers.get ticket with
    | some (.running _) => some
        { s with
          handlers := s.handlers.become ticket (.sending (requestIdAt s.asked.length))
          asked := s.asked ++ [ticket] }
    | _ => none
  | .enqueue ticket =>
    match s.handlers.get ticket with
    | some (.sending id) => s.enqueue ticket id
    | _ => none
  | .spawn => some { s with handlers := s.handlers.start (.running none) }
  | .finish ticket =>
    match s.handlers.get ticket with
    | some (.running _) => some
        { s with handlers := s.handlers.finish ticket, phase := s.phase.done ticket }
    | _ => none
  | .giveUp ticket =>
    match s.handlers.get ticket with
    | some (.sending _) | some (.waiting _) => some
        { s with handlers := s.handlers.become ticket (.running none) }
    | _ => none
  | .close =>
    match s.phase with
    | .selecting => some
        { s with
          handlers := s.handlers.map Handler.fail, channel := [], pending := ∅
          phase := .closed }
    | .serving _ | .closed => none

/-! ## What is asked of a connection -/

def AsksClient (ticket : ℕ) (id : RequestId) : Prop :=
  s.handlers.get ticket = some (.sending id) ∨ s.handlers.get ticket = some (.waiting id)

def Unblocked : Prop :=
  ∀ ticket id, s.AsksClient ticket id → ticket ∉ s.phase.awaited

/-- The requests to the client flow. The loop waits for no handler that waits for the client, so
that it gets back to its select when handlers finish, whatever the client does; there it takes each
request and reads each response, which completes the one request with its identifier; and no request
is left open when the connection ends. -/
structure Flows : Prop where
  unblocked : s.Unblocked
  returns : s.phase ≠ .closed →
    ∃ tickets : List ℕ, (∀ ticket ∈ tickets, ticket ∈ s.phase.awaited) ∧
      ∃ next, run step s (tickets.map .finish) = some next ∧
        next.phase = .selecting ∧ next.channel = s.channel ∧ next.pending = s.pending ∧
        ∀ ticket id, s.AsksClient ticket id → next.handlers.get ticket = s.handlers.get ticket
  tracked : ∀ ticket id, s.handlers.get ticket = some (.waiting id) →
    { id, ticket } ∈ s.channel ∨ s.pending.lookup id = some ticket
  takes : s.phase = .selecting → ∀ outgoing rest, s.channel = outgoing :: rest →
    ∃ next, step s .takeOutgoing = some next ∧ next.channel = rest ∧
      next.sent = s.sent ++ [outgoing.id] ∧
      next.pending.lookup outgoing.id = some outgoing.ticket
  completes : s.phase = .selecting → ∀ parsed handlers id owner,
    classifyFrame parsed = .response → correlatingId parsed = some id →
      s.pending.lookup id = some owner →
        ∃ next, step s (.frame parsed handlers) = some next ∧
          next.pending = s.pending.erase id ∧
          (∀ ticket, s.handlers.get ticket = some (.waiting id) →
            next.handlers.get ticket = some (.running (some (responseOutcome parsed)))) ∧
          ∀ ticket, s.handlers.get ticket ≠ some (.waiting id) →
            next.handlers.get ticket = s.handlers.get ticket
  ends : ∀ next, step s .close = some next → ∀ ticket id, s.AsksClient ticket id →
    ∃ error, next.handlers.get ticket = some (.running (some (.error error)))
  ended : s.phase = .closed → ∀ ticket id, s.handlers.get ticket ≠ some (.waiting id)

end Connection

def Meets (s : Connection) : Event → Prop
  | .ask ticket =>
    (∃ received, s.handlers.get ticket = some (.running received)) → ticket ∉ s.phase.awaited
  | _ => True

/-! ## Steps -/

namespace Connection

inductive Transition (s : Connection) : Event → Connection → Prop
  | ignored (parsed handlers) (hphase : s.phase = .selecting)
      (hclass : classifyFrame parsed ≠ .request)
      (hunknown : classifyFrame parsed = .response →
        ∀ id, correlatingId parsed = some id → s.pending.lookup id = none) :
      Transition s (.frame parsed handlers) s
  | completed (parsed handlers id ticket) (hphase : s.phase = .selecting)
      (hclass : classifyFrame parsed = .response) (hid : correlatingId parsed = some id)
      (hpending : s.pending.lookup id = some ticket) :
      Transition s (.frame parsed handlers)
        { s with
          pending := s.pending.erase id
          handlers := deliver s.handlers id ticket (responseOutcome parsed) }
  | requested (parsed handlers) (hphase : s.phase = .selecting)
      (hclass : classifyFrame parsed = .request) :
      Transition s (.frame parsed handlers)
        { s with
          handlers := s.handlers.startAll (List.replicate handlers (.running none))
          phase :=
            if handlers = 0 then .selecting
            else .serving (List.range' s.handlers.next handlers) }
  | taken (outgoing rest) (hphase : s.phase = .selecting)
      (hchannel : s.channel = outgoing :: rest) :
      Transition s .takeOutgoing
        { s with
          channel := rest
          pending := s.pending.insert outgoing.id outgoing.ticket
          sent := s.sent ++ [outgoing.id] }
  | asked (ticket received) (hget : s.handlers.get ticket = some (.running received)) :
      Transition s (.ask ticket)
        { s with
          handlers := s.handlers.become ticket (.sending (requestIdAt s.asked.length))
          asked := s.asked ++ [ticket] }
  | refused (ticket id) (hget : s.handlers.get ticket = some (.sending id))
      (hphase : s.phase = .closed) :
      Transition s (.enqueue ticket)
        { s with handlers := s.handlers.become ticket (.running (some (.error sendClosed))) }
  | queued (ticket id) (hget : s.handlers.get ticket = some (.sending id))
      (hphase : s.phase ≠ .closed) (hroom : s.channel.length < channelCapacity) :
      Transition s (.enqueue ticket)
        { s with
          handlers := s.handlers.become ticket (.waiting id)
          channel := s.channel ++ [{ id, ticket }] }
  | spawned : Transition s .spawn { s with handlers := s.handlers.start (.running none) }
  | finished (ticket received) (hget : s.handlers.get ticket = some (.running received)) :
      Transition s (.finish ticket)
        { s with handlers := s.handlers.finish ticket, phase := s.phase.done ticket }
  | gaveUp (ticket id) (hasks : s.AsksClient ticket id) :
      Transition s (.giveUp ticket)
        { s with handlers := s.handlers.become ticket (.running none) }
  | ended (hphase : s.phase = .selecting) :
      Transition s .close
        { s with
          handlers := s.handlers.map Handler.fail, channel := [], pending := ∅
          phase := .closed }

variable {s next : Connection} {event : Event}

theorem transition_receive (parsed : Json) (handlers : ℕ) (hphase : s.phase = .selecting) :
    Transition s (.frame parsed handlers) (s.receive parsed handlers) := by
  unfold receive
  cases hclass : classifyFrame parsed with
  | notification => exact .ignored parsed handlers hphase (by simp [hclass]) (by simp [hclass])
  | request => exact .requested parsed handlers hphase hclass
  | response =>
    cases hid : correlatingId parsed with
    | none =>
      have hsame : WebSocket.handleResponse s.pending parsed = { pending := s.pending } := by
        simp [WebSocket.handleResponse, hid]
      dsimp only
      rw [hsame]
      exact .ignored parsed handlers hphase (by simp [hclass]) (by simp [hid])
    | some id =>
      cases hpending : s.pending.lookup id with
      | none =>
        have hsame : WebSocket.handleResponse s.pending parsed =
            { pending := s.pending } := by
          simp [WebSocket.handleResponse, hid, hpending]
        dsimp only
        rw [hsame]
        exact .ignored parsed handlers hphase (by simp [hclass]) (by simp [hid, hpending])
      | some ticket =>
        have hcompleted : WebSocket.handleResponse s.pending parsed =
            { completed := some (ticket, responseOutcome parsed)
              pending := s.pending.erase id } := by
          simp [WebSocket.handleResponse, hid, hpending]
        dsimp only
        rw [hcompleted]
        exact .completed parsed handlers id ticket hphase hclass hid hpending

theorem transition_of_step (h : step s event = some next) : Transition s event next := by
  cases event with
  | frame parsed handlers =>
    cases hphase : s.phase with
    | selecting =>
      simp only [step, hphase, Option.some.injEq] at h
      rw [← h]
      exact transition_receive parsed handlers hphase
    | serving | closed => simp [step, hphase] at h
  | takeOutgoing =>
    simp only [step] at h
    split at h
    next outgoing rest hphase hchannel =>
      rw [← Option.some.inj h]
      exact .taken outgoing rest hphase hchannel
    next => cases h
  | ask ticket =>
    simp only [step] at h
    split at h
    next received hget =>
      rw [← Option.some.inj h]
      exact .asked ticket received hget
    next => cases h
  | enqueue ticket =>
    simp only [step] at h
    split at h
    next id hget =>
      simp only [Connection.enqueue] at h
      split at h
      next hphase =>
        rw [← Option.some.inj h]
        exact .refused ticket id hget hphase
      all_goals
        rename_i hphase
        obtain ⟨hroom, hnext⟩ := Option.ite_none_right_eq_some.1 h
        rw [← Option.some.inj hnext]
        exact .queued ticket id hget (by simp [hphase]) hroom
    next => cases h
  | spawn =>
    rw [← Option.some.inj h]
    exact .spawned
  | finish ticket =>
    simp only [step] at h
    split at h
    next received hget =>
      rw [← Option.some.inj h]
      exact .finished ticket received hget
    next => cases h
  | giveUp ticket =>
    simp only [step] at h
    split at h
    next id hget =>
      rw [← Option.some.inj h]
      exact .gaveUp ticket id (.inl hget)
    next id hget =>
      rw [← Option.some.inj h]
      exact .gaveUp ticket id (.inr hget)
    next => cases h
  | close =>
    simp only [step] at h
    split at h
    next hphase =>
      rw [← Option.some.inj h]
      exact .ended hphase
    all_goals cases h

/-! ## Handlers that stop waiting -/

def Quieter (before after : Pool Handler) : Prop :=
  ∀ ticket handler, after.get ticket = some handler →
    before.get ticket = some handler ∨ ∃ received, handler = .running received

variable {handlers : Pool Handler}

theorem quieter_become (ticket : ℕ) (received : Option (Except String Json)) :
    Quieter handlers (handlers.become ticket (.running received)) := by
  intro other handler hget
  rw [get_become_eq_ite] at hget
  split at hget
  next => exact .inr ⟨received, (Option.some.inj hget).symm⟩
  next => exact .inl hget

theorem quieter_start : Quieter handlers (handlers.start (.running none)) := by
  intro other handler hget
  rw [get_start_eq_ite] at hget
  split at hget
  next => exact .inr ⟨none, (Option.some.inj hget).symm⟩
  next => exact .inl hget

theorem quieter_start_all (count : ℕ) :
    Quieter handlers (handlers.startAll (List.replicate count (.running none))) := by
  intro other handler hget
  rw [get_start_all_replicate] at hget
  split at hget
  next => exact .inr ⟨none, (Option.some.inj hget).symm⟩
  next => exact .inl hget

theorem quieter_finish (ticket : ℕ) : Quieter handlers (handlers.finish ticket) := by
  intro other handler hget
  rw [get_finish_eq_ite] at hget
  split at hget
  next => cases hget
  next => exact .inl hget

variable {ticket : ℕ}

theorem get_map_fail {handler : Handler}
    (hget : (handlers.map Handler.fail).get ticket = some handler) :
    ∃ received, handler = .running received := by
  rw [get_map] at hget
  obtain ⟨before, -, rfl⟩ := Option.map_eq_some_iff.1 hget
  cases before <;> exact ⟨_, rfl⟩

theorem get_deliver (handlers : Pool Handler) (id : RequestId) (owner : ℕ)
    (outcome : Except String Json) (ticket : ℕ) :
    (ticket = owner ∧ handlers.get ticket = some (.waiting id) ∧
        (deliver handlers id owner outcome).get ticket = some (.running (some outcome))) ∨
      ¬ (ticket = owner ∧ handlers.get ticket = some (.waiting id)) ∧
        (deliver handlers id owner outcome).get ticket = handlers.get ticket := by
  unfold deliver
  split
  next asked hget =>
    by_cases hasked : asked = id
    · subst hasked
      rw [if_pos rfl, get_become_eq_ite]
      by_cases hticket : ticket = owner
      · subst hticket
        exact .inl ⟨rfl, hget, if_pos rfl⟩
      · exact .inr ⟨fun hboth => hticket hboth.1, if_neg hticket⟩
    · rw [if_neg hasked]
      refine .inr ⟨?_, rfl⟩
      rintro ⟨rfl, hwaits⟩
      rw [hget] at hwaits
      cases hwaits
      exact hasked rfl
  next hother =>
    refine .inr ⟨?_, rfl⟩
    rintro ⟨rfl, hwaits⟩
    exact hother id hwaits

theorem quieter_deliver (id : RequestId) (owner : ℕ) (outcome : Except String Json) :
    Quieter handlers (deliver handlers id owner outcome) := by
  intro ticket handler hget
  rcases get_deliver handlers id owner outcome ticket with ⟨-, -, hafter⟩ | ⟨-, hafter⟩
  · rw [hafter] at hget
    exact .inr ⟨some outcome, (Option.some.inj hget).symm⟩
  · rw [hafter] at hget
    exact .inl hget

variable {id : RequestId}

theorem waiting_of_quieter {after : Pool Handler} (h : Quieter handlers after)
    (hget : after.get ticket = some (.waiting id)) : handlers.get ticket = some (.waiting id) := by
  rcases h ticket _ hget with hbefore | ⟨received, hrunning⟩
  · exact hbefore
  · cases hrunning

theorem asks_of_quieter (h : Quieter s.handlers next.handlers) (hasks : next.AsksClient ticket id) :
    s.AsksClient ticket id := by
  rcases hasks with hget | hget
  · rcases h ticket _ hget with hbefore | ⟨received, hrunning⟩
    · exact .inl hbefore
    · cases hrunning
  · exact .inr (waiting_of_quieter h hget)

/-! ## The invariant -/

def Owns (s : Connection) (id : RequestId) (ticket : ℕ) : Prop :=
  ∃ index, s.asked[index]? = some ticket ∧ id = requestIdAt index

theorem Owns.unique {first second : ℕ} (hfirst : s.Owns id first) (hsecond : s.Owns id second) :
    first = second := by
  obtain ⟨index, hget, rfl⟩ := hfirst
  obtain ⟨other, hother, hid⟩ := hsecond
  have hindex : index = other := by
    have hnumber := RequestId.number.inj hid
    omega
  subst hindex
  exact Option.some.inj (hget.symm.trans hother)

theorem Owns.append {added : List ℕ} (h : s.Owns id ticket) (hasked : next.asked = s.asked ++ added)
    : next.Owns id ticket := by
  obtain ⟨index, hget, rfl⟩ := h
  refine ⟨index, ?_, rfl⟩
  rw [hasked, List.getElem?_append_left (List.getElem?_eq_some_iff.1 hget).1]
  exact hget

/-- What holds in every run. Every request that is waited for, in the channel or pending is of the
handler it was numbered for, and one whose response is waited for is in the channel or pending. -/
structure Sound (s : Connection) : Prop where
  numbered : s.handlers.Numbered
  alive : ∀ ticket ∈ s.phase.awaited, ∃ handler, s.handlers.get ticket = some handler
  serving : ∀ calls, s.phase = .serving calls → calls ≠ []
  owned : ∀ ticket id, s.AsksClient ticket id → s.Owns id ticket
  queued : ∀ outgoing ∈ s.channel, s.Owns outgoing.id outgoing.ticket
  filed : ∀ id ticket, s.pending.lookup id = some ticket → s.Owns id ticket
  tracked : ∀ ticket id, s.handlers.get ticket = some (.waiting id) →
    { id, ticket } ∈ s.channel ∨ s.pending.lookup id = some ticket
  ended : s.phase = .closed → ∀ ticket id, s.handlers.get ticket ≠ some (.waiting id)

theorem awaited_of_transition (h : Transition s event next) (hmem : ticket ∈ next.phase.awaited) :
    (ticket ∈ s.phase.awaited ∧ event ≠ .finish ticket) ∨
      s.handlers.next ≤ ticket ∧ ∃ handler, next.handlers.get ticket = some handler := by
  cases h with
  | requested parsed count hphase hclass =>
    dsimp only at hmem ⊢
    split at hmem
    next => cases hmem
    next =>
      obtain ⟨hlow, hhigh⟩ := List.mem_range'_1.1 hmem
      refine .inr ⟨hlow, .running none, ?_⟩
      rw [get_start_all_replicate, if_pos ⟨hlow, hhigh⟩]
  | finished finished received hget =>
    cases hphase : s.phase with
    | serving calls =>
      rw [hphase] at hmem
      unfold Phase.done at hmem
      dsimp only at hmem
      split at hmem
      next => cases hmem
      next =>
        obtain ⟨hcall, hother⟩ := List.mem_filter.1 hmem
        refine .inl ⟨hcall, ?_⟩
        rintro heq
        have hsame := Event.finish.inj heq
        simp [hsame] at hother
    | selecting | closed =>
      rw [hphase] at hmem
      cases hmem
  | ended hphase => cases hmem
  | ignored | completed | taken | asked | refused | queued | spawned | gaveUp =>
    exact .inl ⟨hmem, nofun⟩

theorem asks_of_transition (h : Transition s event next) (hasks : next.AsksClient ticket id) :
    s.AsksClient ticket id ∨ event = .ask ticket := by
  cases h with
  | asked asker received hget =>
    rcases hasks with hget' | hget' <;> rw [get_become_eq_ite] at hget' <;> split at hget'
    · rename_i heq
      exact .inr (by rw [heq])
    · exact .inl (.inl hget')
    · cases hget'
    · exact .inl (.inr hget')
  | queued sender sent hget hphase hroom =>
    rcases hasks with hget' | hget' <;> rw [get_become_eq_ite] at hget' <;> split at hget'
    · cases hget'
    · exact .inl (.inl hget')
    · rename_i heq
      cases hget'
      exact .inl (.inl (heq ▸ hget))
    · exact .inl (.inr hget')
  | ignored | taken => exact .inl hasks
  | completed parsed count id owner => exact .inl (asks_of_quieter (quieter_deliver _ _ _) hasks)
  | requested parsed count => exact .inl (asks_of_quieter (quieter_start_all count) hasks)
  | refused refused _ hget hphase => exact .inl (asks_of_quieter (quieter_become _ _) hasks)
  | spawned => exact .inl (asks_of_quieter quieter_start hasks)
  | finished finished received hget => exact .inl (asks_of_quieter (quieter_finish _) hasks)
  | gaveUp ticket id hasked => exact .inl (asks_of_quieter (quieter_become _ _) hasks)
  | ended hphase =>
    rcases hasks with hget | hget <;> obtain ⟨received, hrunning⟩ := get_map_fail hget <;>
      cases hrunning

theorem asked_of_transition (h : Transition s event next) :
    ∃ added, next.asked = s.asked ++ added := by
  cases h with
  | asked ticket received hget => exact ⟨[ticket], rfl⟩
  | ignored | completed | requested | taken | refused | queued | spawned | finished | gaveUp
  | ended => exact ⟨[], (List.append_nil _).symm⟩

theorem get_of_transition (hsound : s.Sound) (h : Transition s event next) {handler : Handler}
    (hget : s.handlers.get ticket = some handler) (hevent : event ≠ .finish ticket) :
    ∃ later, next.handlers.get ticket = some later := by
  have hbecome : ∀ moved later, ∃ held, (s.handlers.become moved later).get ticket = some held := by
    intro moved later
    rw [get_become_eq_ite]
    split
    next => exact ⟨_, rfl⟩
    next => exact ⟨handler, hget⟩
  cases h with
  | ignored | taken => exact ⟨handler, hget⟩
  | completed parsed count id owner =>
    rcases get_deliver s.handlers id owner (responseOutcome parsed) ticket with
      ⟨-, -, hafter⟩ | ⟨-, hafter⟩
    · exact ⟨_, hafter⟩
    · exact ⟨handler, hafter.trans hget⟩
  | requested parsed count => exact ⟨handler, hsound.numbered.get_start_all hget _⟩
  | asked asker received _ => exact hbecome asker _
  | refused sender _ _ hphase => exact hbecome sender _
  | queued sender id _ hphase hroom => exact hbecome sender _
  | spawned => exact ⟨handler, hsound.numbered.get_start hget _⟩
  | finished finished received _ =>
    refine ⟨handler, ?_⟩
    rw [get_finish_eq_ite, if_neg]
    · exact hget
    · rintro rfl
      exact hevent rfl
  | gaveUp asker id hasks => exact hbecome asker _
  | ended hphase =>
    refine ⟨handler.fail, ?_⟩
    rw [get_map, hget]
    rfl

theorem numbered_deliver (h : s.handlers.Numbered) (id : RequestId) (owner : ℕ)
    (outcome : Except String Json) : (deliver s.handlers id owner outcome).Numbered := by
  unfold deliver
  split
  next asked hget =>
    split
    next => exact h.become hget _
    next => exact h
  next => exact h

theorem numbered_of_transition (hsound : s.Sound) (h : Transition s event next) :
    next.handlers.Numbered := by
  have hnumbered := hsound.numbered
  cases h with
  | ignored | taken => exact hnumbered
  | completed => exact numbered_deliver hnumbered _ _ _
  | requested => exact hnumbered.start_all _
  | asked _ _ hget => exact hnumbered.become hget _
  | refused _ _ hget => exact hnumbered.become hget _
  | queued _ _ hget => exact hnumbered.become hget _
  | spawned => exact hnumbered.start _
  | finished => exact hnumbered.finish _
  | gaveUp _ _ hasks =>
    rcases hasks with hget | hget
    · exact hnumbered.become hget _
    · exact hnumbered.become hget _
  | ended => exact hnumbered.map _

theorem queued_of_transition (hsound : s.Sound) (h : Transition s event next) :
    ∀ outgoing ∈ next.channel, s.Owns outgoing.id outgoing.ticket := by
  intro outgoing hmem
  cases h with
  | taken first rest hphase hchannel =>
    refine hsound.queued outgoing ?_
    rw [hchannel]
    exact List.mem_cons_of_mem _ hmem
  | queued ticket id hget hphase hroom =>
    rcases List.mem_append.1 hmem with hold | hnew
    · exact hsound.queued outgoing hold
    · obtain rfl := List.mem_singleton.1 hnew
      exact hsound.owned ticket id (.inl hget)
  | ended => cases hmem
  | ignored | completed | requested | asked | refused | spawned | finished | gaveUp =>
    exact hsound.queued outgoing hmem

theorem filed_of_transition (hsound : s.Sound) (h : Transition s event next) :
    ∀ id ticket, next.pending.lookup id = some ticket → s.Owns id ticket := by
  intro id ticket hlookup
  cases h with
  | completed _ _ completed =>
    rw [lookup_erase_eq_ite] at hlookup
    split at hlookup
    next => cases hlookup
    next => exact hsound.filed id ticket hlookup
  | taken outgoing rest hphase hchannel =>
    rw [lookup_insert_eq_ite] at hlookup
    split at hlookup
    next heq =>
      rw [← Option.some.inj hlookup, heq]
      exact hsound.queued outgoing (hchannel ▸ List.mem_cons_self)
    next => exact hsound.filed id ticket hlookup
  | ended => cases hlookup
  | ignored | requested | asked | refused | queued | spawned | finished | gaveUp =>
    exact hsound.filed id ticket hlookup

theorem tracked_of_transition (hsound : s.Sound) (h : Transition s event next) :
    ∀ ticket id, next.handlers.get ticket = some (.waiting id) →
      { id, ticket } ∈ next.channel ∨ next.pending.lookup id = some ticket := by
  intro ticket id hwaits
  cases h with
  | ignored => exact hsound.tracked ticket id hwaits
  | completed parsed count completed owner hphase hclass hid hpending =>
    have hbefore := waiting_of_quieter (quieter_deliver completed owner _) hwaits
    refine (hsound.tracked ticket id hbefore).imp_right fun hlookup => ?_
    rw [lookup_erase_eq_ite, if_neg]
    · exact hlookup
    · -- A response to this request would have been delivered to the handler.
      rintro rfl
      have howner := (hsound.filed id ticket hlookup).unique (hsound.filed id owner hpending)
      rcases get_deliver s.handlers id owner (responseOutcome parsed) ticket with
        ⟨-, -, hafter⟩ | ⟨hother, -⟩
      · cases hwaits.symm.trans hafter
      · exact hother ⟨howner, hbefore⟩
  | requested parsed count =>
    exact hsound.tracked ticket id (waiting_of_quieter (quieter_start_all count) hwaits)
  | taken outgoing rest hphase hchannel =>
    rcases hsound.tracked ticket id hwaits with hmem | hlookup
    · rw [hchannel] at hmem
      rcases List.mem_cons.1 hmem with rfl | hrest
      · refine .inr ?_
        rw [lookup_insert_eq_ite, if_pos rfl]
      · exact .inl hrest
    · refine .inr ?_
      rw [lookup_insert_eq_ite]
      split
      next heq =>
        have hqueued := hsound.queued outgoing (hchannel ▸ List.mem_cons_self)
        rw [heq] at hlookup
        exact congrArg some (hqueued.unique (hsound.filed _ _ hlookup))
      next => exact hlookup
  | asked asker received hget =>
    refine hsound.tracked ticket id ?_
    rw [get_become_eq_ite] at hwaits
    split at hwaits
    next => cases hwaits
    next => exact hwaits
  | refused refused _ hget =>
    exact hsound.tracked ticket id (waiting_of_quieter (quieter_become _ _) hwaits)
  | queued sender sent hget hphase hroom =>
    rw [get_become_eq_ite] at hwaits
    split at hwaits
    next heq =>
      cases hwaits
      exact .inl (List.mem_append_right _ (heq ▸ List.mem_singleton.2 rfl))
    next =>
      exact (hsound.tracked ticket id hwaits).imp_left fun hmem => List.mem_append_left _ hmem
  | spawned => exact hsound.tracked ticket id (waiting_of_quieter quieter_start hwaits)
  | finished => exact hsound.tracked ticket id (waiting_of_quieter (quieter_finish _) hwaits)
  | gaveUp asker asked hasks =>
    exact hsound.tracked ticket id (waiting_of_quieter (quieter_become _ _) hwaits)
  | ended =>
    obtain ⟨received, hrunning⟩ := get_map_fail hwaits
    cases hrunning

theorem ended_of_transition (hsound : s.Sound) (h : Transition s event next)
    (hclosed : next.phase = .closed) :
    ∀ ticket id, next.handlers.get ticket ≠ some (.waiting id) := by
  intro ticket id hwaits
  cases h with
  | ignored => exact hsound.ended hclosed ticket id hwaits
  | completed _ _ _ _ hphase =>
    rw [hphase] at hclosed
    cases hclosed
  | taken _ _ hphase =>
    rw [hphase] at hclosed
    cases hclosed
  | requested =>
    split at hclosed <;> cases hclosed
  | asked asker received hget =>
    rw [get_become_eq_ite] at hwaits
    split at hwaits
    next => cases hwaits
    next => exact hsound.ended hclosed ticket id hwaits
  | refused =>
    exact hsound.ended hclosed ticket id (waiting_of_quieter (quieter_become _ _) hwaits)
  | queued _ _ _ hphase => exact hphase hclosed
  | spawned => exact hsound.ended hclosed ticket id (waiting_of_quieter quieter_start hwaits)
  | finished finished received hget =>
    have hbefore : s.phase = .closed := Phase.eq_closed_of_done hclosed
    exact hsound.ended hbefore ticket id (waiting_of_quieter (quieter_finish _) hwaits)
  | gaveUp => exact hsound.ended hclosed ticket id (waiting_of_quieter (quieter_become _ _) hwaits)
  | ended =>
    obtain ⟨received, hrunning⟩ := get_map_fail hwaits
    cases hrunning

theorem serving_of_transition (hsound : s.Sound) (h : Transition s event next) :
    ∀ calls, next.phase = .serving calls → calls ≠ [] := by
  intro calls hphase
  cases h with
  | requested parsed count =>
    split at hphase
    next => cases hphase
    next hcount =>
      rw [← Phase.serving.inj hphase]
      simp [hcount]
  | finished finished received hget =>
    cases hbefore : s.phase with
    | serving waited =>
      rw [hbefore] at hphase
      simp only [Phase.done] at hphase
      split at hphase
      next => cases hphase
      next hleft =>
        rw [← Phase.serving.inj hphase]
        exact hleft
    | selecting | closed =>
      rw [hbefore] at hphase
      cases hphase
  | ended => cases hphase
  | ignored | completed | taken | asked | refused | queued | spawned | gaveUp =>
    exact hsound.serving calls hphase

theorem sound_of_transition (hsound : s.Sound) (h : Transition s event next) : next.Sound := by
  obtain ⟨added, hasked⟩ := asked_of_transition h
  constructor
  · exact numbered_of_transition hsound h
  · intro ticket hmem
    rcases awaited_of_transition h hmem with ⟨hbefore, hevent⟩ | ⟨-, hstarted⟩
    · obtain ⟨handler, hget⟩ := hsound.alive ticket hbefore
      exact get_of_transition hsound h hget hevent
    · exact hstarted
  · exact serving_of_transition hsound h
  · intro ticket id hasks
    rcases asks_of_transition h hasks with hbefore | rfl
    · exact (hsound.owned ticket id hbefore).append hasked
    · -- The request that was just numbered is of the handler that made it.
      cases h with
      | asked _ received hget =>
        rcases hasks with hsent | hwaits
        · rw [get_become_self] at hsent
          cases hsent
          exact ⟨s.asked.length, by simp, rfl⟩
        · rw [get_become_self] at hwaits
          cases hwaits
  · exact fun outgoing hmem => (queued_of_transition hsound h outgoing hmem).append hasked
  · exact fun id ticket hlookup => (filed_of_transition hsound h id ticket hlookup).append hasked
  · exact tracked_of_transition hsound h
  · exact ended_of_transition hsound h

theorem sound_new : Sound {} where
  numbered := numbered_empty
  alive := nofun
  serving := nofun
  owned := by
    intro ticket id hasks
    rcases hasks with hget | hget <;> cases hget
  queued := nofun
  filed := nofun
  tracked := nofun
  ended := nofun

/-! ## What flows -/

theorem returns_of_running (bound : ℕ) :
    ∀ (s : Connection) (calls : List ℕ), s.phase = .serving calls → calls ≠ [] →
      calls.length ≤ bound →
        (∀ ticket ∈ calls, ∃ received, s.handlers.get ticket = some (.running received)) →
          ∃ tickets : List ℕ, (∀ ticket ∈ tickets, ticket ∈ calls) ∧
            ∃ next, run step s (tickets.map .finish) = some next ∧
              next.phase = .selecting ∧ next.channel = s.channel ∧ next.pending = s.pending ∧
              ∀ ticket, ticket ∉ calls → next.handlers.get ticket = s.handlers.get ticket := by
  induction bound with
  | zero =>
    intro s calls _ hcalls hlength _
    exact absurd (List.length_eq_zero_iff.1 (by omega)) hcalls
  | succ bound ih =>
    intro s calls hphase hcalls hlength hrunning
    obtain ⟨first, rest, rfl⟩ := List.exists_cons_of_ne_nil hcalls
    obtain ⟨received, hget⟩ := hrunning first List.mem_cons_self
    let after : Connection :=
      { s with handlers := s.handlers.finish first, phase := s.phase.done first }
    have hstep : step s (.finish first) = some after := by
      simp only [step, hget]
      rfl
    have hkept : ∀ ticket, ticket ≠ first →
        after.handlers.get ticket = s.handlers.get ticket := by
      intro ticket hother
      exact (get_finish_eq_ite s.handlers first ticket).trans (if_neg hother)
    have hdone : after.phase = s.phase.done first := rfl
    rw [hphase] at hdone
    simp only [Phase.done] at hdone
    split at hdone
    next =>
      refine ⟨[first], by simp, after, by simp [run, hstep], hdone, rfl, rfl, ?_⟩
      intro ticket hmem
      exact hkept ticket fun heq => hmem (heq ▸ List.mem_cons_self)
    next hleft =>
      have hshorter : ((first :: rest).filter (· ≠ first)).length ≤ bound := by
        have hfilter : (first :: rest).filter (· ≠ first) = rest.filter (· ≠ first) := by simp
        have hle := List.length_filter_le (· ≠ first) rest
        rw [hfilter]
        simp only [List.length_cons] at hlength
        omega
      have hmem : ∀ ticket ∈ (first :: rest).filter (· ≠ first),
          ticket ∈ first :: rest ∧ ticket ≠ first := by
        intro ticket hticket
        obtain ⟨hcall, hother⟩ := List.mem_filter.1 hticket
        exact ⟨hcall, by simpa using hother⟩
      obtain ⟨tickets, htickets, next, hrun, hselecting, hchannel, hpending, hothers⟩ :=
        ih after _ hdone hleft hshorter fun ticket hticket => by
          obtain ⟨hcall, hother⟩ := hmem ticket hticket
          rw [hkept ticket hother]
          exact hrunning ticket hcall
      refine ⟨first :: tickets, ?_, next, ?_, hselecting, hchannel, hpending, ?_⟩
      · intro ticket hticket
        rcases List.mem_cons.1 hticket with rfl | hlater
        · exact List.mem_cons_self
        · exact (hmem ticket (htickets ticket hlater)).1
      · exact run_cons.2 ⟨after, hstep, hrun⟩
      · intro ticket hother
        rw [hothers ticket fun hfiltered => hother (hmem ticket hfiltered).1]
        exact hkept ticket fun heq => hother (heq ▸ List.mem_cons_self)

theorem flows_iff_unblocked (hsound : s.Sound) : s.Flows ↔ s.Unblocked := by
  refine ⟨Flows.unblocked, fun hunblocked => ?_⟩
  constructor
  · exact hunblocked
  · intro hopen
    cases hphase : s.phase with
    | selecting => exact ⟨[], nofun, s, rfl, hphase, rfl, rfl, fun _ _ _ => rfl⟩
    | closed => exact absurd hphase hopen
    | serving calls =>
      have hrunning : ∀ ticket ∈ calls,
          ∃ received, s.handlers.get ticket = some (.running received) := by
        intro ticket hmem
        have hawaited : ticket ∈ s.phase.awaited := by
          rw [hphase]
          exact hmem
        obtain ⟨handler, hget⟩ := hsound.alive ticket hawaited
        cases handler with
        | running received => exact ⟨received, hget⟩
        | sending id => exact absurd hawaited (hunblocked ticket id (.inl hget))
        | waiting id => exact absurd hawaited (hunblocked ticket id (.inr hget))
      obtain ⟨tickets, htickets, next, hrun, hselecting, hchannel, hpending, hothers⟩ :=
        returns_of_running calls.length s calls hphase (hsound.serving calls hphase) le_rfl
          hrunning
      refine ⟨tickets, htickets, next, hrun, hselecting, hchannel, hpending, ?_⟩
      intro ticket id hasks
      have hother := hunblocked ticket id hasks
      rw [hphase] at hother
      exact hothers ticket hother
  · exact hsound.tracked
  · intro hphase outgoing rest hchannel
    have hstep : step s .takeOutgoing = some
        { s with
          channel := rest
          pending := s.pending.insert outgoing.id outgoing.ticket
          sent := s.sent ++ [outgoing.id] } := by
      simp only [step, hphase, hchannel]
    refine ⟨_, hstep, rfl, rfl, ?_⟩
    rw [lookup_insert_eq_ite, if_pos rfl]
  · intro hphase parsed count id owner hclass hid hpending
    have hstep : step s (.frame parsed count) = some
        { s with
          pending := s.pending.erase id
          handlers := deliver s.handlers id owner (responseOutcome parsed) } := by
      simp [step, hphase, receive, hclass, hid, WebSocket.handleResponse, hpending]
    refine ⟨_, hstep, rfl, ?_, ?_⟩
    · intro ticket hwaits
      rcases get_deliver s.handlers id owner (responseOutcome parsed) ticket with
        ⟨-, -, hafter⟩ | ⟨hother, -⟩
      · exact hafter
      · have howned := hsound.owned ticket id (.inr hwaits)
        exact absurd ⟨howned.unique (hsound.filed id owner hpending), hwaits⟩ hother
    · intro ticket hother
      rcases get_deliver s.handlers id owner (responseOutcome parsed) ticket with
        ⟨-, hwaits, -⟩ | ⟨-, hafter⟩
      · exact absurd hwaits hother
      · exact hafter
  · intro next hstep ticket id hasks
    cases transition_of_step hstep with
    | ended hphase =>
      rcases hasks with hget | hget
      · exact ⟨sendClosed, by simp [get_map, hget, Handler.fail]⟩
      · exact ⟨receiveClosed, by simp [get_map, hget, Handler.fail]⟩
  · exact hsound.ended

theorem unblocked_iff_meets (hsound : s.Sound) (hunblocked : s.Unblocked)
    (h : Transition s event next) : next.Unblocked ↔ Meets s event := by
  constructor
  · intro hnext
    cases h with
    | asked ticket received hget =>
      intro _
      refine hnext ticket (requestIdAt s.asked.length) (.inl ?_)
      exact get_become_self _ _ _
    | ignored | completed | requested | taken | refused | queued | spawned | finished | gaveUp
    | ended => trivial
  · intro hmeets ticket id hasks hawaited
    rcases asks_of_transition h hasks with hbefore | rfl
    · rcases awaited_of_transition h hawaited with ⟨hold, -⟩ | ⟨hnew, -⟩
      · exact hunblocked ticket id hbefore hold
      · -- The handlers that a frame starts have asked nothing yet.
        rcases hbefore with hget | hget
        · exact absurd (hsound.numbered ticket _ hget) (by omega)
        · exact absurd (hsound.numbered ticket _ hget) (by omega)
    · cases h with
      | asked _ received hget => exact hmeets ⟨received, hget⟩ hawaited

def BlockedOn (s : Connection) (ticket : ℕ) (id : RequestId) : Prop :=
  ticket ∈ s.phase.awaited ∧ s.handlers.get ticket = some (.waiting id)

end Connection

open Connection

def toolCall : Json :=
  .object [("jsonrpc", .string "2.0"), ("id", .number (.posInt 7)),
    ("method", .string "tools/call"), ("params", .object [("name", .string "ai-tool")])]

def sampled : Json :=
  .object [("jsonrpc", .string "2.0"), ("id", .number (.posInt 1)), ("result", .object [])]

def samplingRun : List Event := [.frame toolCall 1, .ask 0, .enqueue 0]

end WebSocketLoop

end TowerMcp
