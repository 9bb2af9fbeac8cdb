import TowerMcp.Lib.Execution
import TowerMcp.Lib.Pool
import TowerMcp.Types.JsonRpc

/-!
# Identifiers of the requests a session sends to its client

A handler that asks the client something draws an identifier from the allocator of the session that
serves its request, and the answer is looked up under the identifier in the table of that session.
Both belong to the session as it is held in memory. A session that is restored from its record is
built anew, with an allocator that starts over, so a restored session gives out the identifiers of
its first life again.
-/

namespace TowerMcp

open Execution

namespace SessionRequests

def idSpace : ℕ := 2 ^ 64

/-- What a session holds for the requests it sends: the allocator, if it may send any, and the
requests that wait for an answer, by their numbers. -/
structure Session where
  requestIdAllocator : Option ℤ := none
  pendingRequests : FinMap RequestId ℕ := ∅

structure OutgoingRequest where
  session : ℕ
  id : RequestId

/-- An answer that completed a request: the request the client answered, the one that was completed,
and what it was completed with. -/
structure Completion where
  answered : ℕ
  completed : ℕ
  result : Except String Json

namespace Session

/-- The session of an `initialize` request. -/
def new (samplingEnabled : Bool) : Session :=
  { requestIdAllocator := if samplingEnabled then some 1 else none }

def restored (samplingEnabled : Bool) : Session :=
  { requestIdAllocator := if samplingEnabled then some 1 else none }

variable (self : Session)

def nextRequestId : Option (RequestId × Session) :=
  self.requestIdAllocator.map fun value =>
    (.number value, { self with requestIdAllocator := some ((value + 1).bmod idSpace) })

def addPendingRequest (id : RequestId) (request : ℕ) : Session :=
  { self with pendingRequests := self.pendingRequests.insert id request }

def completePendingRequest (id : RequestId) : Option ℕ × Session :=
  (self.pendingRequests.lookup id,
    { self with pendingRequests := self.pendingRequests.erase id })

def failPendingRequests (ids : List RequestId) : Session :=
  { self with pendingRequests := ids.foldl (fun pending id => pending.erase id) self.pendingRequests }

end Session

/-- The life of a session under one identifier: the sessions built for it, the requests that were
given an identifier, those that were sent, and the answers that completed one. -/
structure Life where
  sessions : Pool Session := {}
  requests : List OutgoingRequest := []
  sent : List ℕ := []
  completions : List Completion := []

/-- What happens to the session: it is created, or restored on some instance; a handler that one of
the sessions serves asks the client; its request is sent on the stream of the POST; the client
answers a request at one of the sessions; or a POST goes away with the requests it sent. -/
inductive Event where
  | create (samplingEnabled : Bool)
  | restore (samplingEnabled : Bool)
  | dispatch (session : ℕ)
  | sendAssociatedRequest (request : ℕ)
  | respond (session request : ℕ) (result : Except String Json)
  | failPendingRequests (session : ℕ) (ids : List RequestId)

namespace Life

variable (self : Life)

def dispatch (number : ℕ) : Option Life := do
  let session ← self.sessions.get number
  let (id, drawn) ← session.nextRequestId
  pure { self with
    sessions := self.sessions.become number drawn
    requests := self.requests ++ [{ session := number, id }] }

def sendAssociatedRequest (request : ℕ) : Option Life := do
  let outgoing ← self.requests[request]?
  let session ← self.sessions.get outgoing.session
  if request ∈ self.sent then none
  else
    pure { self with
      sessions := self.sessions.become outgoing.session
        (session.addPendingRequest outgoing.id request)
      sent := self.sent ++ [request] }

def respond (number request : ℕ) (result : Except String Json) : Option Life := do
  let outgoing ← self.requests[request]?
  let session ← self.sessions.get number
  if request ∈ self.sent then
    let (pending, taken) := session.completePendingRequest outgoing.id
    pure { self with
      sessions := self.sessions.become number taken
      completions := self.completions ++
        pending.toList.map fun completed => { answered := request, completed, result } }
  else none

end Life

def step (life : Life) : Event → Option Life
  | .create samplingEnabled =>
    if life.sessions.next = 0 then
      some { life with sessions := life.sessions.start (.new samplingEnabled) }
    else none
  | .restore samplingEnabled =>
    if life.sessions.next = 0 then none
    else some { life with sessions := life.sessions.start (.restored samplingEnabled) }
  | .dispatch session => life.dispatch session
  | .sendAssociatedRequest request => life.sendAssociatedRequest request
  | .respond session request result => life.respond session request result
  | .failPendingRequests number ids =>
    (life.sessions.get number).map fun session =>
      { life with sessions := life.sessions.become number (session.failPendingRequests ids) }

/-- No two requests have an identifier in common, and every answer completed the request it is an
answer to. -/
structure Unambiguous (life : Life) : Prop where
  ids : (life.requests.map (·.id)).Nodup
  completions : ∀ completion ∈ life.completions, completion.answered = completion.completed

def Life.allocates (life : Life) (number : ℕ) : Bool :=
  (life.sessions.get number).any fun session => session.requestIdAllocator.isSome

/-- The condition under which identifiers are not given out again: a session that draws one is the
only session that has drawn any, and its counter has not come round. -/
def SingleSender (life : Life) : Event → Prop
  | .dispatch number => life.allocates number = true →
      (∀ request ∈ life.requests, request.session = number) ∧ life.requests.length < idSpace
  | _ => True

def idAt (drawn : ℕ) : ℤ :=
  ((drawn : ℤ) + 1).bmod idSpace

theorem id_at_succ (drawn : ℕ) : (idAt drawn + 1).bmod idSpace = idAt (drawn + 1) := by
  unfold idAt
  rw [Int.bmod_add_bmod]
  push_cast
  rfl

theorem id_at_add (drawn : ℕ) : idAt (drawn + idSpace) = idAt drawn := by
  have hmoved : ((drawn + idSpace : ℕ) : ℤ) + 1 = (drawn : ℤ) + 1 + (idSpace : ℤ) := by
    push_cast
    omega
  unfold idAt
  rw [hmoved]
  exact Int.add_bmod_right _ _

theorem id_at_inj {first second : ℕ} (hfirst : first < idSpace) (hsecond : second < idSpace)
    (h : idAt first = idAt second) : first = second := by
  have hbmod := (Int.bmod_add_cancel_right 1).1 h
  have hmod : (first : ℤ) % idSpace = (second : ℤ) % idSpace := by
    rw [← Int.bmod_emod, hbmod, Int.bmod_emod]
  have hmod : first % idSpace = second % idSpace := by exact_mod_cast hmod
  rwa [Nat.mod_eq_of_lt hfirst, Nat.mod_eq_of_lt hsecond] at hmod

def requestsOf (requests : List OutgoingRequest) (number : ℕ) : List OutgoingRequest :=
  requests.filter fun request => request.session = number

@[simp] theorem requests_of_append (first second : List OutgoingRequest) (number : ℕ) :
    requestsOf (first ++ second) number =
      requestsOf first number ++ requestsOf second number :=
  List.filter_append ..

theorem requests_of_singleton (session : ℕ) (id : RequestId) (number : ℕ) :
    requestsOf [{ session, id }] number = if session = number then [{ session, id }] else [] := by
  by_cases hsession : session = number
  · simp [requestsOf, hsession]
  · simp [requestsOf, hsession]

/-- What a session holds is right: its counter is at the number of its requests, and what waits under
an identifier is a request with that identifier. -/
structure Session.Sound (requests : List OutgoingRequest) (number : ℕ) (session : Session) :
    Prop where
  counter : ∀ value, session.requestIdAllocator = some value →
    value = idAt (requestsOf requests number).length
  pending : ∀ id request, session.pendingRequests.lookup id = some request →
    ∃ outgoing, requests[request]? = some outgoing ∧ outgoing.id = id

structure Numbered (life : Life) : Prop where
  sessions : life.sessions.Numbered
  built : ∀ request ∈ life.requests, request.session < life.sessions.next
  ids : ∀ number, (requestsOf life.requests number).map (·.id) =
    (List.range (requestsOf life.requests number).length).map fun drawn => .number (idAt drawn)
  sound : ∀ number session, life.sessions.get number = some session →
    session.Sound life.requests number

variable {life next : Life} {number : ℕ}

theorem Life.dispatch_cases (hnext : life.dispatch number = some next) :
    ∃ session value, life.sessions.get number = some session ∧
      session.requestIdAllocator = some value ∧
      next = { life with
        sessions := life.sessions.become number
          { session with requestIdAllocator := some ((value + 1).bmod idSpace) }
        requests := life.requests ++ [{ session := number, id := .number value }] } := by
  simp only [Life.dispatch, Option.bind_eq_bind, Option.bind_eq_some_iff, Option.pure_def,
    Option.some.injEq] at hnext
  obtain ⟨session, hget, ⟨id, drawn⟩, hdrawn, rfl⟩ := hnext
  obtain ⟨value, hvalue, hpair⟩ := Option.map_eq_some_iff.1 hdrawn
  cases hpair
  exact ⟨session, value, hget, hvalue, rfl⟩

variable {request : ℕ}

theorem Life.send_cases (hnext : life.sendAssociatedRequest request = some next) :
    ∃ outgoing session, life.requests[request]? = some outgoing ∧
      life.sessions.get outgoing.session = some session ∧
      next = { life with
        sessions := life.sessions.become outgoing.session
          (session.addPendingRequest outgoing.id request)
        sent := life.sent ++ [request] } := by
  simp only [Life.sendAssociatedRequest, Option.bind_eq_bind, Option.bind_eq_some_iff,
    Option.pure_def, Option.ite_none_left_eq_some, Option.some.injEq] at hnext
  obtain ⟨outgoing, houtgoing, session, hget, _, rfl⟩ := hnext
  exact ⟨outgoing, session, houtgoing, hget, rfl⟩

theorem Life.respond_cases {result : Except String Json}
    (hnext : life.respond number request result = some next) :
    ∃ outgoing session, life.requests[request]? = some outgoing ∧
      life.sessions.get number = some session ∧
      next = { life with
        sessions := life.sessions.become number
          { session with pendingRequests := session.pendingRequests.erase outgoing.id }
        completions := life.completions ++ (session.pendingRequests.lookup outgoing.id).toList.map
          fun completed => { answered := request, completed, result } } := by
  simp only [Life.respond, Option.bind_eq_bind, Option.bind_eq_some_iff, Option.pure_def,
    Option.ite_none_right_eq_some, Option.some.injEq] at hnext
  obtain ⟨outgoing, houtgoing, session, hget, _, rfl⟩ := hnext
  exact ⟨outgoing, session, houtgoing, hget, rfl⟩

variable {pending : FinMap RequestId ℕ}

theorem lookup_of_erased {ids : List RequestId} {id : RequestId}
    (h : (ids.foldl (fun pending id => pending.erase id) pending).lookup id = some request) :
    pending.lookup id = some request := by
  induction ids generalizing pending with
  | nil => exact h
  | cons first rest ih =>
    have hrest := ih h
    rw [FinMap.lookup_erase_eq_ite] at hrest
    split at hrest
    · cases hrest
    · exact hrest

variable {session : Session}

theorem Numbered.start (hnumbered : Numbered life)
    (hcounter : ∀ value, session.requestIdAllocator = some value → value = 1)
    (hpending : session.pendingRequests = ∅) :
    Numbered { life with sessions := life.sessions.start session } := by
  refine ⟨hnumbered.sessions.start session, ?_, hnumbered.ids, ?_⟩
  · intro request hmem
    exact Nat.lt_succ_of_lt (hnumbered.built request hmem)
  · intro number held hget
    rw [Pool.get_start_eq_ite] at hget
    split at hget
    next hnumber =>
      cases hget
      have hnone : requestsOf life.requests number = [] := by
        refine List.filter_eq_nil_iff.2 fun request hmem => ?_
        have hlt := hnumbered.built request hmem
        simpa [hnumber] using Nat.ne_of_lt hlt
      refine ⟨fun value hvalue => ?_, fun id request hlookup => ?_⟩
      · rw [hnone, hcounter value hvalue]
        rfl
      · rw [hpending] at hlookup
        cases hlookup
    next => exact hnumbered.sound number held hget

theorem Numbered.become (hnumbered : Numbered life) {moved : Session}
    (hget : life.sessions.get number = some session) (hmoved : moved.Sound life.requests number) :
    Numbered { life with sessions := life.sessions.become number moved } := by
  refine ⟨hnumbered.sessions.become hget moved, hnumbered.built, hnumbered.ids, ?_⟩
  intro other held hheld
  rw [Pool.get_become_eq_ite] at hheld
  split at hheld
  next hother =>
    cases hheld
    exact hother ▸ hmoved
  next => exact hnumbered.sound other held hheld

theorem Numbered.dispatch (hnumbered : Numbered life) {value : ℤ}
    (hget : life.sessions.get number = some session)
    (hvalue : session.requestIdAllocator = some value) :
    Numbered { life with
      sessions := life.sessions.become number
        { session with requestIdAllocator := some ((value + 1).bmod idSpace) }
      requests := life.requests ++ [{ session := number, id := .number value }] } := by
  have hsound := hnumbered.sound number session hget
  have hlonger {request : ℕ} {outgoing : OutgoingRequest}
      (h : life.requests[request]? = some outgoing) (last : OutgoingRequest) :
      (life.requests ++ [last])[request]? = some outgoing := by
    obtain ⟨hlt, _⟩ := List.getElem?_eq_some_iff.1 h
    rw [List.getElem?_append_left hlt]
    exact h
  refine ⟨hnumbered.sessions.become hget _, ?_, ?_, ?_⟩
  · intro request hmem
    rcases List.mem_append.1 hmem with hearlier | hlast
    · exact hnumbered.built request hearlier
    · obtain rfl := List.mem_singleton.1 hlast
      exact hnumbered.sessions number session hget
  · intro other
    rw [requests_of_append, requests_of_singleton]
    split
    next hother =>
      subst hother
      rw [List.map_append, hnumbered.ids number, List.length_append, List.length_singleton,
        List.range_succ, List.map_append, hsound.counter value hvalue]
      rfl
    next => simpa using hnumbered.ids other
  · intro other held hheld
    rw [Pool.get_become_eq_ite] at hheld
    split at hheld
    next hother =>
      cases hheld
      subst hother
      refine ⟨fun drawn hdrawn => ?_, fun id request hlookup => ?_⟩
      · cases hdrawn
        rw [requests_of_append, requests_of_singleton, if_pos rfl, List.length_append,
          List.length_singleton, hsound.counter value hvalue]
        exact id_at_succ _
      · obtain ⟨outgoing, houtgoing, hid⟩ := hsound.pending id request hlookup
        exact ⟨outgoing, hlonger houtgoing _, hid⟩
    next hother =>
      have hother' := hnumbered.sound other held hheld
      refine ⟨fun drawn hdrawn => ?_, fun id request hlookup => ?_⟩
      · rw [requests_of_append, requests_of_singleton, if_neg (Ne.symm hother), List.append_nil]
        exact hother'.counter drawn hdrawn
      · obtain ⟨outgoing, houtgoing, hid⟩ := hother'.pending id request hlookup
        exact ⟨outgoing, hlonger houtgoing _, hid⟩

theorem Session.Sound.take {requests : List OutgoingRequest}
    (hsound : session.Sound requests number)
    (hpending : ∀ id request, pending.lookup id = some request →
      session.pendingRequests.lookup id = some request) :
    Session.Sound requests number { session with pendingRequests := pending } :=
  ⟨hsound.counter, fun id request hlookup => hsound.pending id request (hpending id request hlookup)⟩

variable {event : Event}

theorem Numbered.step (hnumbered : Numbered life) (hnext : step life event = some next) :
    Numbered next := by
  cases event with
  | create samplingEnabled =>
    obtain ⟨_, hnext⟩ := Option.ite_none_right_eq_some.1 hnext
    cases hnext
    refine hnumbered.start (fun value hvalue => ?_) rfl
    exact (Option.some.inj (Option.ite_none_right_eq_some.1 hvalue).2).symm
  | restore samplingEnabled =>
    obtain ⟨_, hnext⟩ := Option.ite_none_left_eq_some.1 hnext
    cases hnext
    refine hnumbered.start (fun value hvalue => ?_) rfl
    exact (Option.some.inj (Option.ite_none_right_eq_some.1 hvalue).2).symm
  | dispatch number =>
    obtain ⟨session, value, hget, hvalue, rfl⟩ := Life.dispatch_cases hnext
    exact hnumbered.dispatch hget hvalue
  | sendAssociatedRequest request =>
    obtain ⟨outgoing, session, houtgoing, hget, rfl⟩ := Life.send_cases hnext
    have hsound := hnumbered.sound outgoing.session session hget
    have hmoved : Session.Sound life.requests outgoing.session
        (session.addPendingRequest outgoing.id request) := by
      refine ⟨hsound.counter, fun id waiting hlookup => ?_⟩
      rw [Session.addPendingRequest, FinMap.lookup_insert_eq_ite] at hlookup
      split at hlookup
      next hid => exact ⟨outgoing, Option.some.inj hlookup ▸ houtgoing, hid.symm⟩
      next => exact hsound.pending id waiting hlookup
    have hkept := hnumbered.become hget hmoved
    exact ⟨hkept.sessions, hkept.built, hkept.ids, hkept.sound⟩
  | respond number request result =>
    obtain ⟨outgoing, session, _, hget, rfl⟩ := Life.respond_cases hnext
    have hpending : ∀ id waiting,
        (session.pendingRequests.erase outgoing.id).lookup id = some waiting →
          session.pendingRequests.lookup id = some waiting := by
      intro id waiting hlookup
      rw [FinMap.lookup_erase_eq_ite] at hlookup
      exact (Option.ite_none_left_eq_some.1 hlookup).2
    have hkept := hnumbered.become hget ((hnumbered.sound number session hget).take hpending)
    exact ⟨hkept.sessions, hkept.built, hkept.ids, hkept.sound⟩
  | failPendingRequests number ids =>
    obtain ⟨session, hget, rfl⟩ := Option.map_eq_some_iff.1 hnext
    exact hnumbered.become hget
      ((hnumbered.sound number session hget).take fun id waiting => lookup_of_erased)

theorem Numbered.exists_id (hnumbered : Numbered life) {drawn : ℕ}
    (hdrawn : drawn < (requestsOf life.requests number).length) :
    ∃ request ∈ life.requests, request.session = number ∧ request.id = .number (idAt drawn) := by
  have hmem : RequestId.number (idAt drawn) ∈ (requestsOf life.requests number).map (·.id) := by
    rw [hnumbered.ids number]
    exact List.mem_map.2 ⟨drawn, List.mem_range.2 hdrawn, rfl⟩
  obtain ⟨request, hrequest, hid⟩ := List.mem_map.1 hmem
  obtain ⟨hin, hsession⟩ := List.mem_filter.1 hrequest
  exact ⟨request, hin, of_decide_eq_true hsession, hid⟩

theorem Numbered.unused_iff (hnumbered : Numbered life)
    (hnodup : (life.requests.map (·.id)).Nodup) (number : ℕ) :
    RequestId.number (idAt (requestsOf life.requests number).length) ∉
        life.requests.map (·.id) ↔
      (∀ request ∈ life.requests, request.session = number) ∧
        life.requests.length < idSpace := by
  have hmem {request : OutgoingRequest} (h : request ∈ life.requests) :
      request.id ∈ life.requests.map (·.id) := List.mem_map.2 ⟨request, h, rfl⟩
  constructor
  · intro hunused
    have hsingle : ∀ request ∈ life.requests, request.session = number := by
      intro request hrequest
      by_contra hother
      -- two sessions that give out identifiers both give out the first one
      have hfirst : 0 < (requestsOf life.requests request.session).length :=
        List.length_pos_iff_exists_mem.2
          ⟨request, List.mem_filter.2 ⟨hrequest, decide_eq_true rfl⟩⟩
      obtain ⟨first, hfirstMem, hfirstSession, hfirstId⟩ := hnumbered.exists_id hfirst
      cases hdrawn : (requestsOf life.requests number).length with
      | zero =>
        rw [hdrawn, ← hfirstId] at hunused
        exact hunused (hmem hfirstMem)
      | succ drawn =>
        have hpos : 0 < (requestsOf life.requests number).length := by omega
        obtain ⟨own, hownMem, hownSession, hownId⟩ := hnumbered.exists_id hpos
        have hsame : own = first :=
          List.inj_on_of_nodup_map hnodup hownMem hfirstMem (hownId.trans hfirstId.symm)
        exact hother (hfirstSession ▸ hsame ▸ hownSession)
    have hall : requestsOf life.requests number = life.requests :=
      List.filter_eq_self.2 fun request hrequest => decide_eq_true (hsingle request hrequest)
    refine ⟨hsingle, ?_⟩
    by_contra hround
    have hearlier : life.requests.length - idSpace < (requestsOf life.requests number).length := by
      have hpos : 0 < idSpace := Nat.two_pow_pos 64
      rw [hall]
      omega
    obtain ⟨request, hrequest, _, hid⟩ := hnumbered.exists_id hearlier
    have hcome : life.requests.length - idSpace + idSpace = life.requests.length := by omega
    rw [← id_at_add, hcome] at hid
    rw [hall, ← hid] at hunused
    exact hunused (hmem hrequest)
  · rintro ⟨hsingle, hround⟩ hused
    have hall : requestsOf life.requests number = life.requests :=
      List.filter_eq_self.2 fun request hrequest => decide_eq_true (hsingle request hrequest)
    have hids := hnumbered.ids number
    rw [hall] at hids hused
    rw [hids] at hused
    obtain ⟨drawn, hdrawn, hid⟩ := List.mem_map.1 hused
    have hlt : drawn < life.requests.length := List.mem_range.1 hdrawn
    have hsame : idAt drawn = idAt life.requests.length := RequestId.number.inj hid
    have hdrawn : drawn = life.requests.length := id_at_inj (by omega) hround hsame
    omega

theorem unambiguous_step_iff (hnumbered : Numbered life) (hunambiguous : Unambiguous life)
    (hnext : step life event = some next) : Unambiguous next ↔ SingleSender life event := by
  obtain ⟨hids, hcompletions⟩ := hunambiguous
  cases event with
  | create samplingEnabled =>
    obtain ⟨_, hnext⟩ := Option.ite_none_right_eq_some.1 hnext
    cases hnext
    exact iff_of_true ⟨hids, hcompletions⟩ trivial
  | restore samplingEnabled =>
    obtain ⟨_, hnext⟩ := Option.ite_none_left_eq_some.1 hnext
    cases hnext
    exact iff_of_true ⟨hids, hcompletions⟩ trivial
  | dispatch number =>
    obtain ⟨session, value, hget, hvalue, rfl⟩ := Life.dispatch_cases hnext
    have hallocates : life.allocates number = true := by
      simp [Life.allocates, hget, hvalue]
    have hdrawn := (hnumbered.sound number session hget).counter value hvalue
    have hunused := hnumbered.unused_iff hids number
    rw [← hdrawn] at hunused
    simp only [SingleSender, hallocates, true_imp_iff]
    rw [← hunused]
    constructor
    · intro h hused
      have hnodup := h.ids
      rw [List.map_append, List.map_singleton, List.nodup_append_comm] at hnodup
      exact (List.nodup_cons.1 hnodup).1 hused
    · intro hfresh
      refine ⟨?_, hcompletions⟩
      rw [List.map_append, List.map_singleton, List.nodup_append_comm]
      exact List.nodup_cons.2 ⟨hfresh, hids⟩
  | sendAssociatedRequest request =>
    obtain ⟨outgoing, session, _, _, rfl⟩ := Life.send_cases hnext
    exact iff_of_true ⟨hids, hcompletions⟩ trivial
  | respond number request result =>
    obtain ⟨outgoing, session, houtgoing, hget, rfl⟩ := Life.respond_cases hnext
    refine iff_of_true ⟨hids, fun completion hmem => ?_⟩ trivial
    rcases List.mem_append.1 hmem with hearlier | hlast
    · exact hcompletions completion hearlier
    · obtain ⟨completed, hcompleted, rfl⟩ := List.mem_map.1 hlast
      obtain ⟨waiting, hwaiting, hid⟩ := (hnumbered.sound number session hget).pending
        outgoing.id completed (Option.mem_toList.1 hcompleted)
      -- no two requests have this identifier
      obtain ⟨hanswered, hanswer⟩ := List.getElem?_eq_some_iff.1 houtgoing
      obtain ⟨hwaited, hwait⟩ := List.getElem?_eq_some_iff.1 hwaiting
      have hfirst : request < (life.requests.map (·.id)).length := by
        rw [List.length_map]
        exact hanswered
      have hsecond : completed < (life.requests.map (·.id)).length := by
        rw [List.length_map]
        exact hwaited
      have hsame : (life.requests.map (·.id))[request] = (life.requests.map (·.id))[completed] := by
        rw [List.getElem_map, List.getElem_map, hanswer, hwait, hid]
      exact hids.getElem_inj_iff.1 hsame
  | failPendingRequests number ids =>
    obtain ⟨session, _, rfl⟩ := Option.map_eq_some_iff.1 hnext
    exact iff_of_true ⟨hids, hcompletions⟩ trivial

theorem single_sender_of_refused (hrefused : step life event = none) :
    SingleSender life event := by
  cases event with
  | dispatch number =>
    intro hallocates
    obtain ⟨session, hget, hsome⟩ := (Option.any_eq_true _ _).1 hallocates
    obtain ⟨value, hvalue⟩ := Option.isSome_iff_exists.1 hsome
    simp [step, Life.dispatch, Session.nextRequestId, hget, hvalue] at hrefused
  | _ => trivial

/-- Over the life of a session no identifier is given out twice and every answer completes the
request it is an answer to, exactly when one of the sessions built for it draws all identifiers and
its counter does not come round. -/
theorem request_ids_never_reused (events : List Event) :
    Throughout step Unambiguous {} events ↔
      Along step SingleSender {} events := by
  have hnumbered : Numbered {} :=
    ⟨Pool.numbered_empty, by simp, fun _ => rfl, fun _ _ hget => by simp [Pool.get] at hget⟩
  have hunambiguous : Unambiguous {} := ⟨List.nodup_nil, by simp⟩
  exact throughout_iff_along (I := Numbered)
    (fun _ _ _ hnumbered hnext => hnumbered.step hnext)
    (fun _ _ _ hnumbered hunambiguous hnext => unambiguous_step_iff hnumbered hunambiguous hnext)
    (fun _ _ hrefused => single_sender_of_refused hrefused) hnumbered hunambiguous events

/-- A request before a restore and one after it carry the same identifier, and the answer to the
first completes the second. -/
theorem late_answer_completes_other :
    ∃ life, run step {}
        [.create true, .dispatch 0, .sendAssociatedRequest 0, .restore true, .dispatch 1,
          .sendAssociatedRequest 1, .respond 1 0 (.ok (.string "yes"))] = some life ∧
      life.sent = [0, 1] ∧ life.requests.map (·.id) = [.number 1, .number 1] ∧
      life.completions.map (fun completion => (completion.answered, completion.completed)) =
        [(0, 1)] ∧ ¬Unambiguous life := by
  refine ⟨_, rfl, by decide, by decide, by decide, fun h => ?_⟩
  exact absurd h.ids (by decide)

end SessionRequests

end TowerMcp
