import TowerMcp.Transport.Stdio

/-!
# Cancellation over stdio

A cancellation is a task that overtakes the requests read before it. `Linked` says that each request
that was called on the router has its own future there, and that what the registry tracks under the
future is this request: so a cancellation that finds a request registered in flight sets the mark of
its future, and `Spurned` follows the request from there to an end without an answer. A request whose
handler has not built its context yet is not found.
-/

namespace TowerMcp

open Execution Pool

namespace StdioConnection

variable {conn next : StdioConnection} {ticket : ℕ} {request : StdioRequest}

/-! ## Requests and their futures -/

/-- Every request that was called has its own future on the router, which offers the mark unless the
request is the `initialize`, and only requests whose handlers build a context are tracked. -/
structure Linked (requests : Pool StdioRequest) (router : InFlight.World) : Prop where
  numbered : requests.Numbered
  calls : router.calls.Numbered
  future : ∀ ticket request call, requests.get ticket = some request →
    request.point = .called call → ∃ future, router.calls.get call = some future ∧
      future.requestId = request.requestId ∧
      (request.method ≠ "initialize" → future.peerCancelled.isSome = true)
  apart : ∀ ticket other request held call, requests.get ticket = some request →
    requests.get other = some held → request.point = .called call → held.point = .called call →
      ticket = other
  known : ∀ requestId entry, entry ∈ router.tracked requestId → entry.call < router.calls.next
  builds : ∀ requestId entry, entry ∈ router.tracked requestId → ∀ ticket request,
    requests.get ticket = some request → request.point = .called entry.call →
      buildsContext request.method = true

theorem linked_init (maxConcurrentRequests : Option ℕ) :
    Linked (start maxConcurrentRequests).requests (start maxConcurrentRequests).router where
  numbered := numbered_empty
  calls := numbered_empty
  future := by
    intro ticket request call hget
    simp [start, Pool.get] at hget
  apart := by
    intro ticket other request held call hget
    simp [start, Pool.get] at hget
  known := by
    intro requestId entry hmem
    simp [start, InFlight.World.tracked] at hmem
  builds := by
    intro requestId entry hmem
    simp [start, InFlight.World.tracked] at hmem

section Linked

variable {requests : Pool StdioRequest} {router : InFlight.World} {call : ℕ}
  {future : InFlight.RequestCall} {requestId : RequestId} {entry : InFlight.InFlightDispatch}

theorem mem_tracked_of_finish (h : entry ∈ (router.finish call future).tracked requestId) :
    entry ∈ router.tracked requestId := by
  change entry ∈ InFlight.World.tracked (if _ then _ else _) requestId at h
  split at h
  next => exact h
  next =>
    rw [InFlight.tracked_complete_dispatch] at h
    split at h
    next heq => exact heq ▸ List.mem_of_mem_filter h
    next => exact h

theorem Linked.of_called (h : Linked requests router) {later : Pool StdioRequest}
    (hnumbered : later.Numbered)
    (hbefore : ∀ ticket request call, later.get ticket = some request →
      request.point = .called call → requests.get ticket = some request) : Linked later router := by
  refine ⟨hnumbered, h.calls, ?_, ?_, h.known, ?_⟩
  · intro ticket request call hget hpoint
    exact h.future ticket request call (hbefore ticket request call hget hpoint) hpoint
  · intro ticket other request held call hget hheld hpoint hother
    exact h.apart ticket other request held call (hbefore ticket request call hget hpoint)
      (hbefore other held call hheld hother) hpoint hother
  · intro requestId entry hmem ticket request hget hpoint
    exact h.builds requestId entry hmem ticket request
      (hbefore ticket request entry.call hget hpoint) hpoint

theorem Linked.take_in (h : Linked requests router) {taken : List StdioRequest}
    (hqueued : ∀ request ∈ taken, request.point = .queued) :
    Linked (requests.startAll taken) router := by
  refine h.of_called (h.numbered.start_all taken) fun ticket request call hget hpoint => ?_
  obtain hearlier | hmem := Pool.get_start_all_cases hget
  · exact hearlier
  · rw [hqueued request hmem] at hpoint
    cases hpoint

theorem Linked.ended (h : Linked requests router) (hget : requests.get ticket = some request)
    (answered : Bool) :
    Linked (requests.become ticket { request with point := .ended answered }) router := by
  refine h.of_called (h.numbered.become hget _) fun other held call hheld hpoint => ?_
  rw [Pool.get_become_eq_ite] at hheld
  split at hheld
  next =>
    cases hheld
    cases hpoint
  next => exact hheld

theorem Linked.with_router (h : Linked requests router) {moved : InFlight.World}
    (hcalls : moved.calls.Numbered) (hnext : router.calls.next ≤ moved.calls.next)
    (hfuture : ∀ ticket request call future, requests.get ticket = some request →
      request.point = .called call → router.calls.get call = some future →
        ∃ later, moved.calls.get call = some later ∧ later.requestId = future.requestId ∧
          later.peerCancelled.isSome = future.peerCancelled.isSome)
    (htracked : ∀ requestId entry, entry ∈ moved.tracked requestId →
      entry ∈ router.tracked requestId ∨ entry.call < moved.calls.next ∧
        ∀ ticket request, requests.get ticket = some request →
          request.point = .called entry.call → buildsContext request.method = true) :
    Linked requests moved where
  numbered := h.numbered
  calls := hcalls
  future := by
    intro ticket request call hget hpoint
    obtain ⟨future, hheld, hid, hmark⟩ := h.future ticket request call hget hpoint
    obtain ⟨later, hlater, hsame, hoffers⟩ := hfuture ticket request call future hget hpoint hheld
    refine ⟨later, hlater, hsame.trans hid, fun hmethod => ?_⟩
    rw [hoffers]
    exact hmark hmethod
  apart := h.apart
  known := by
    intro requestId entry hmem
    obtain hearlier | ⟨hlt, _⟩ := htracked requestId entry hmem
    · exact Nat.lt_of_lt_of_le (h.known requestId entry hearlier) hnext
    · exact hlt
  builds := by
    intro requestId entry hmem
    obtain hearlier | ⟨_, hbuilds⟩ := htracked requestId entry hmem
    · exact h.builds requestId entry hearlier
    · exact hbuilds

theorem Linked.become (h : Linked requests router) (moved : InFlight.RequestCall)
    (hheld : router.calls.get call = some future) (hid : moved.requestId = future.requestId)
    (hmark : moved.peerCancelled.isSome = future.peerCancelled.isSome) {other : InFlight.World}
    (hcalls : other.calls = router.calls.become call moved)
    (htracked : ∀ requestId entry, entry ∈ other.tracked requestId →
      entry ∈ router.tracked requestId ∨ entry.call = call ∧
        ∀ ticket request, requests.get ticket = some request →
          request.point = .called call → buildsContext request.method = true) :
    Linked requests other := by
  refine h.with_router ?_ ?_ ?_ ?_
  · rw [hcalls]
    exact h.calls.become hheld moved
  · rw [hcalls]
    exact Nat.le_refl _
  · intro ticket request other' earlier hget hpoint hearlier
    rw [hcalls, get_become_eq_ite]
    split
    next heq =>
      rw [heq, hheld] at hearlier
      cases hearlier
      exact ⟨moved, rfl, hid, hmark⟩
    next => exact ⟨earlier, hearlier, rfl, rfl⟩
  · intro requestId entry hmem
    obtain hearlier | ⟨rfl, hbuilds⟩ := htracked requestId entry hmem
    · exact .inl hearlier
    · rw [hcalls]
      exact .inr ⟨h.calls entry.call future hheld, hbuilds⟩

theorem Linked.finish (h : Linked requests router)
    (hfree : ∀ ticket request, requests.get ticket = some request →
      request.point ≠ .called call) : Linked requests (router.finish call future) := by
  have hnext : (router.finish call future).calls = router.calls.finish call := by
    unfold InFlight.World.finish
    split
    next => rfl
    next =>
      show (router.completeDispatch _ _).calls.finish call = _
      rw [InFlight.calls_complete_dispatch]
  refine h.with_router ?_ ?_ ?_ fun requestId entry hmem => .inl (mem_tracked_of_finish hmem)
  · rw [hnext]
    exact h.calls.finish call
  · rw [hnext]
    exact Nat.le_refl _
  · intro ticket request other earlier hget hpoint hearlier
    refine ⟨earlier, ?_, rfl, rfl⟩
    rw [InFlight.get_finish, if_neg]
    · exact hearlier
    · rintro rfl
      exact hfree ticket request hget hpoint

theorem Linked.cancel (h : Linked requests router) (requestId : RequestId) :
    Linked requests (router.cancelRequest requestId) := by
  have hnext : (router.cancelRequest requestId).calls.next = router.calls.next :=
    InFlight.next_cancel_entries (router.tracked requestId) router.calls
  refine h.with_router ?_ (Nat.le_of_eq hnext.symm) ?_ fun other entry hmem => .inl hmem
  · intro call held hget
    obtain ⟨earlier, hearlier, _⟩ := InFlight.exists_before_cancel hget
    rw [hnext]
    exact h.calls call earlier hearlier
  · intro ticket request call earlier hget hpoint hearlier
    show ∃ later, ((router.tracked requestId).foldl InFlight.World.cancelEntry
      router.calls).get call = some later ∧ _
    rw [InFlight.get_cancel_entries, hearlier]
    split
    next => exact ⟨earlier.cancel, rfl, rfl, by simp [InFlight.RequestCall.cancel]⟩
    next => exact ⟨earlier, rfl, rfl, rfl⟩

theorem Linked.called (h : Linked requests router) (hget : requests.get ticket = some request) :
    Linked (requests.become ticket { request with point := .called router.calls.next })
      (router.serviceCall request.requestId (request.method != "initialize")) where
  numbered := h.numbered.become hget _
  calls := h.calls.start _
  future := by
    intro other held call hheld hpoint
    rw [get_become_eq_ite] at hheld
    split at hheld
    next =>
      cases hheld
      obtain rfl := RequestPoint.called.inj hpoint
      refine ⟨_, get_start_self router.calls _, rfl, fun hmethod => ?_⟩
      rw [if_pos (bne_iff_ne.2 hmethod)]
      rfl
    next =>
      obtain ⟨future, hfuture, hid, hmark⟩ := h.future other held call hheld hpoint
      exact ⟨future, h.calls.get_start hfuture _, hid, hmark⟩
  apart := by
    have hnew : ∀ other held, requests.get other = some held →
        held.point ≠ .called router.calls.next := by
      intro other held hheld hpoint
      obtain ⟨future, hfuture, _⟩ := h.future other held _ hheld hpoint
      exact absurd (h.calls _ future hfuture) (Nat.lt_irrefl _)
    intro first second held other call hheld hother hpoint hpoint'
    rw [get_become_eq_ite] at hheld hother
    split at hheld
    next hfirst =>
      split at hother
      next hsecond => rw [hfirst, hsecond]
      next =>
        cases hheld
        obtain rfl := RequestPoint.called.inj hpoint
        exact absurd hpoint' (hnew second other hother)
    next =>
      split at hother
      next =>
        cases hother
        obtain rfl := RequestPoint.called.inj hpoint'
        exact absurd hpoint (hnew first held hheld)
      next => exact h.apart first second held other call hheld hother hpoint hpoint'
  known := by
    intro requestId entry hmem
    exact Nat.lt_succ_of_lt (h.known requestId entry hmem)
  builds := by
    intro requestId entry hmem other held hheld hpoint
    rw [get_become_eq_ite] at hheld
    split at hheld
    next =>
      cases hheld
      have heq : router.calls.next = entry.call := RequestPoint.called.inj hpoint
      exact absurd (h.known requestId entry hmem) (by omega)
    next => exact h.builds requestId entry hmem other held hheld hpoint

theorem Linked.finished (h : Linked requests router) (hget : requests.get ticket = some request)
    (hpoint : request.point = .called call) (answered : Bool) :
    Linked (requests.become ticket { request with point := .ended answered })
      (router.finish call future) := by
  refine (h.ended hget answered).finish fun other held hheld hother => ?_
  rw [get_become_eq_ite] at hheld
  split at hheld
  next =>
    cases hheld
    cases hother
  next hne => exact hne (h.apart other ticket held request call hheld hget hother hpoint)

end Linked

variable {requests : Pool StdioRequest} {router : InFlight.World}

theorem Linked.changed (h : Linked conn.requests conn.router)
    (hchange : Changed conn requests router) : Linked requests router := by
  cases hchange with
  | kept => exact h
  | takenIn requests queued => exact h.take_in queued
  | refused ticket request answered held queued => exact h.ended held answered
  | called ticket request held queued => exact h.called held
  | entered ticket call request future held point future_held =>
    exact h.become { future with phase := .entered } future_held rfl rfl rfl fun _ _ hmem => .inl hmem
  | tracked ticket call request future held point builds future_held =>
    refine h.become { future with phase := .tracked } future_held rfl rfl rfl
      fun requestId entry hmem => ?_
    change entry ∈ (conn.router.registerInFlight future.requestId
      ⟨future.dispatch, call⟩).tracked requestId at hmem
    rw [InFlight.tracked_register_in_flight] at hmem
    split at hmem
    next heq =>
      rw [heq]
      obtain hearlier | hnew := List.mem_append.1 hmem
      · exact .inl hearlier
      · obtain rfl := List.mem_singleton.1 hnew
        refine .inr ⟨rfl, fun other held' hheld hpoint => ?_⟩
        obtain rfl := h.apart other ticket held' request call hheld held hpoint point
        rw [Option.some.inj (hheld.symm.trans held)]
        exact builds
    next => exact .inl hmem
  | ended ticket call request future answered held point future_held unmarked =>
    exact h.finished held point answered
  | cancelled requestId => exact h.cancel requestId

/-! ## Cancelled requests -/

structure Marked (conn : StdioConnection) (ticket : ℕ) : Prop where
  future : ∃ request call future, conn.requests.get ticket = some request ∧
    request.point = .called call ∧ conn.router.calls.get call = some future ∧
      future.cancelled = true ∧ future.peerCancelled = some true

def Spurned (router : InFlight.World) (request : StdioRequest) : Prop :=
  request.point = .ended false ∨ ∃ call future, request.point = .called call ∧
    router.calls.get call = some future ∧ future.peerCancelled = some true

theorem Spurned.mono {moved : InFlight.World} (h : Spurned router request)
    (hkept : ∀ call future, request.point = .called call → router.calls.get call = some future →
      future.peerCancelled = some true →
        ∃ later, moved.calls.get call = some later ∧ later.peerCancelled = some true) :
    Spurned moved request := by
  obtain hended | ⟨call, future, hpoint, hfuture, hmark⟩ := h
  · exact .inl hended
  · obtain ⟨later, hlater, hmark⟩ := hkept call future hpoint hfuture hmark
    exact .inr ⟨call, later, hpoint, hlater, hmark⟩

theorem mark_of_become {calls : Pool InFlight.RequestCall} {call other : ℕ}
    {future held moved : InFlight.RequestCall} (hheld : calls.get call = some held)
    (hsame : moved.peerCancelled = held.peerCancelled) (hget : calls.get other = some future)
    (hmark : future.peerCancelled = some true) :
    ∃ later, (calls.become call moved).get other = some later ∧
      later.peerCancelled = some true := by
  rw [get_become_eq_ite]
  split
  next heq =>
    rw [heq, hheld] at hget
    cases hget
    exact ⟨moved, rfl, hsame.trans hmark⟩
  next => exact ⟨future, hget, hmark⟩

theorem get_become_other {other : ℕ} {moved : StdioRequest}
    (hget : requests.get ticket = some request) (hother : other ≠ ticket) :
    (requests.become other moved).get ticket = some request := by
  rw [get_become_eq_ite, if_neg fun heq => hother heq.symm]
  exact hget

theorem spurned_of_changed (hlinked : Linked conn.requests conn.router)
    (hchange : Changed conn requests router) (hget : conn.requests.get ticket = some request)
    (h : Spurned conn.router request) :
    ∃ moved, requests.get ticket = some moved ∧ Spurned router moved := by
  have hnot : request.point ≠ .queued := by
    obtain hended | ⟨call, _, hpoint, _⟩ := h
    · rw [hended]
      exact nofun
    · rw [hpoint]
      exact nofun
  cases hchange with
  | kept => exact ⟨request, hget, h⟩
  | takenIn requests queued => exact ⟨request, hlinked.numbered.get_start_all hget requests, h⟩
  | refused other held answered hheld queued =>
    have hother : other ≠ ticket := by
      rintro rfl
      obtain rfl := Option.some.inj (hget.symm.trans hheld)
      exact hnot queued
    exact ⟨request, get_become_other hget hother, h⟩
  | called other held hheld queued =>
    have hother : other ≠ ticket := by
      rintro rfl
      obtain rfl := Option.some.inj (hget.symm.trans hheld)
      exact hnot queued
    refine ⟨request, get_become_other hget hother, h.mono fun call future _ hfuture hmark => ?_⟩
    exact ⟨future, hlinked.calls.get_start hfuture _, hmark⟩
  | entered other call held future hheld point future_held =>
    refine ⟨request, hget, h.mono fun call' future' _ hfuture hmark => ?_⟩
    exact mark_of_become future_held rfl hfuture hmark
  | tracked other call held future hheld point builds future_held =>
    refine ⟨request, hget, h.mono fun call' future' _ hfuture hmark => ?_⟩
    exact mark_of_become future_held rfl hfuture hmark
  | ended other call held future answered hheld point future_held unmarked =>
    by_cases hother : other = ticket
    · subst hother
      obtain rfl := Option.some.inj (hget.symm.trans hheld)
      obtain hended | ⟨call', future', hpoint, hfuture, hmark⟩ := h
      · rw [hended] at point
        cases point
      · obtain rfl := RequestPoint.called.inj (hpoint.symm.trans point)
        obtain rfl := Option.some.inj (hfuture.symm.trans future_held)
        refine ⟨_, get_become_self conn.requests other _, .inl ?_⟩
        cases answered with
        | false => rfl
        | true => exact absurd hmark (unmarked rfl)
    · refine ⟨request, get_become_other hget hother,
        h.mono fun call' future' hpoint hfuture hmark => ⟨future', ?_, hmark⟩⟩
      rw [InFlight.get_finish, if_neg]
      · exact hfuture
      · rintro rfl
        exact hother (hlinked.apart other ticket held request call' hheld hget point hpoint)
  | cancelled requestId =>
    refine ⟨request, hget, h.mono fun call future _ hfuture hmark => ?_⟩
    show ∃ later, ((conn.router.tracked requestId).foldl InFlight.World.cancelEntry
      conn.router.calls).get call = some later ∧ _
    rw [InFlight.get_cancel_entries, hfuture]
    split
    next => exact ⟨future.cancel, rfl, by rw [InFlight.RequestCall.cancel, hmark]; rfl⟩
    next => exact ⟨future, rfl, hmark⟩

theorem ended_of_changed {answered : Bool} (hnumbered : conn.requests.Numbered)
    (hchange : Changed conn requests router) (hget : conn.requests.get ticket = some request)
    (hended : request.point = .ended answered) : requests.get ticket = some request := by
  have hstays : ∀ other held point, conn.requests.get other = some held →
      (∀ answered, held.point ≠ .ended answered) →
      (conn.requests.become other { held with point }).get ticket = some request := by
    intro other held point hheld hopen
    refine get_become_other hget ?_
    rintro rfl
    obtain rfl := Option.some.inj (hget.symm.trans hheld)
    exact hopen answered hended
  cases hchange with
  | kept | entered _ _ _ _ _ _ _ | tracked _ _ _ _ _ _ _ _ | cancelled _ => exact hget
  | takenIn requests queued => exact hnumbered.get_start_all hget requests
  | refused other held answered hheld queued =>
    refine hstays other held _ hheld fun _ => ?_
    rw [queued]
    exact nofun
  | called other held hheld queued =>
    refine hstays other held _ hheld fun _ => ?_
    rw [queued]
    exact nofun
  | ended other call held future answered hheld point future_held unmarked =>
    refine hstays other held _ hheld fun _ => ?_
    rw [point]
    exact nofun

/-! ## Answers -/

def Answered (conn : StdioConnection) : Prop :=
  ∀ frame ∈ conn.outbound ++ conn.written, ∀ ticket ∈ frame, conn.isAnswered ticket = true

theorem is_answered_iff :
    conn.isAnswered ticket = true ↔
      ∃ request, conn.requests.get ticket = some request ∧ request.point = .ended true := by
  unfold isAnswered
  rw [Option.any_eq_true]
  simp only [decide_eq_true_eq]

structure Consistent (conn : StdioConnection) : Prop where
  linked : Linked conn.requests conn.router
  answered : Answered conn

theorem consistent_init (maxConcurrentRequests : Option ℕ) :
    Consistent (start maxConcurrentRequests) where
  linked := linked_init maxConcurrentRequests
  answered := by
    intro frame hmem
    cases hmem

theorem consistent_step {event : Event} (h : Consistent conn) (hstep : step conn event = some next) :
    Consistent next := by
  obtain ⟨hchanged, hsends⟩ := taken_of_step hstep
  refine ⟨h.linked.changed hchanged, fun frame hmem ticket hticket => ?_⟩
  have hanswered : conn.isAnswered ticket = true := by
    obtain hearlier | hnew := hsends frame hmem
    · exact h.answered frame hearlier ticket hticket
    · exact hnew ticket hticket
  obtain ⟨request, hget, hended⟩ := is_answered_iff.1 hanswered
  exact is_answered_iff.2
    ⟨request, ended_of_changed h.linked.numbered hchanged hget hended, hended⟩

theorem not_mem_of_spurned (h : Consistent conn) (hget : conn.requests.get ticket = some request)
    (hspurned : Spurned conn.router request) {frame : List ℕ}
    (hframe : frame ∈ conn.outbound ++ conn.written) : ticket ∉ frame := by
  intro hticket
  obtain ⟨held, hheld, hended⟩ := is_answered_iff.1 (h.answered frame hframe ticket hticket)
  obtain rfl := Option.some.inj (hget.symm.trans hheld)
  obtain hdropped | ⟨call, _, hpoint, _⟩ := hspurned
  · rw [hended] at hdropped
    cases hdropped
  · rw [hended] at hpoint
    cases hpoint

def Registered (conn : StdioConnection) (request : StdioRequest) : Prop :=
  ∃ entry ∈ conn.router.tracked request.requestId, request.point = .called entry.call

instance (conn : StdioConnection) (request : StdioRequest) : Decidable (conn.Registered request) :=
  inferInstanceAs (Decidable (∃ entry ∈ conn.router.tracked request.requestId,
    request.point = .called entry.call))

theorem ne_initialize_of_builds_context {method : String} (h : buildsContext method = true) :
    method ≠ "initialize" := by
  rintro rfl
  revert h
  decide

theorem marked_of_notified {notice : ℕ} (h : Linked conn.requests conn.router)
    (hget : conn.requests.get ticket = some request) (hregistered : conn.Registered request)
    (hnotice : conn.notices.get notice = some (some request.requestId))
    (hstep : step conn (.notify notice) = some next) : Marked next ticket := by
  obtain ⟨entry, hentry, hpoint⟩ := hregistered
  obtain ⟨future, hfuture, _, hoffers⟩ := h.future ticket request entry.call hget hpoint
  have hmark : future.peerCancelled.isSome = true := hoffers
    (ne_initialize_of_builds_context (h.builds request.requestId entry hentry ticket request hget
      hpoint))
  obtain ⟨mark, hmark⟩ := Option.isSome_iff_exists.1 hmark
  obtain ⟨requestId, hheld, hstep⟩ := Option.bind_eq_some_iff.1 hstep
  obtain rfl := Option.some.inj (hnotice.symm.trans hheld)
  obtain ⟨router, hcancel, rfl⟩ := Option.map_eq_some_iff.1 hstep
  cases hcancel
  refine ⟨request, entry.call, future.cancel, hget, hpoint, ?_, rfl, ?_⟩
  · show ((conn.router.tracked request.requestId).foldl InFlight.World.cancelEntry
      conn.router.calls).get entry.call = _
    rw [InFlight.get_cancel_entries, if_pos (List.mem_map_of_mem hentry), hfuture]
    rfl
  · rw [InFlight.RequestCall.cancel, hmark]
    rfl

def queuedEvents : List Event :=
  [.read (.single (.number 1) "tools/call"), .read (.single (.number 2) "tools/call"), .receive,
    .spawn, .call 0, .enter 0, .track 0, .receive]

def overtakenEvents : List Event :=
  [.notify 0, .finish 0, .complete 0, .spawn, .call 1, .enter 1, .track 1, .finish 1, .complete 1,
    .write, .write]

/-- A cancellation that overtakes a request which waits for a permit is lost. -/
theorem queued_request_answered :
    ¬ ∀ (maxConcurrentRequests : Option ℕ) (events later : List Event)
      (conn cancelled final : StdioConnection) (ticket : ℕ) (request : StdioRequest),
      run step (start maxConcurrentRequests) events = some conn →
      conn.requests.get ticket = some request → (∀ frame ∈ conn.written, ticket ∉ frame) →
      step conn (.read (.cancelled (some request.requestId))) = some cancelled →
      run step cancelled later = some final →
        ∀ frame ∈ final.written, ticket ∉ frame := by
  intro h
  obtain ⟨conn, hrun, hnone, request, hget, cancelled, hread, final, hlater, hanswered⟩ : ∃ conn,
      run step (start (some 1)) queuedEvents = some conn ∧ conn.written = [] ∧
        ∃ request, conn.requests.get 1 = some request ∧
          ∃ cancelled, step conn (.read (.cancelled (some request.requestId))) = some cancelled ∧
            ∃ final, run step cancelled overtakenEvents = some final ∧
              [1] ∈ final.written := by
    decide +kernel
  refine h (some 1) queuedEvents overtakenEvents conn cancelled final 1 request hrun hget ?_ hread
    hlater [1] hanswered List.mem_cons_self
  rw [hnone]
  exact nofun

/-- A cancellation that is handled while a request is registered in flight under its identifier marks
the request, and the request is never answered. -/
theorem registered_request_not_answered (maxConcurrentRequests : Option ℕ)
    (events later : List Event) (conn handled final : StdioConnection) (notice ticket : ℕ)
    (request : StdioRequest)
    (hrun : run step (start maxConcurrentRequests) events = some conn)
    (hget : conn.requests.get ticket = some request) (hregistered : conn.Registered request)
    (hnotice : conn.notices.get notice = some (some request.requestId))
    (hhandled : step conn (.notify notice) = some handled)
    (hlater : run step handled later = some final) :
    Marked handled ticket ∧ ∀ frame ∈ final.outbound ++ final.written, ticket ∉ frame := by
  have hconsistent : Consistent conn :=
    run_invariant (fun _ _ _ h hstep => consistent_step h hstep)
      (consistent_init maxConcurrentRequests) hrun
  have hmarked := marked_of_notified hconsistent.linked hget hregistered hnotice hhandled
  refine ⟨hmarked, ?_⟩
  obtain ⟨held, call, future, hheld, hpoint, hfuture, _, hmark⟩ := hmarked
  have hkept : Consistent final ∧
      ∃ moved, final.requests.get ticket = some moved ∧ Spurned final.router moved := by
    refine run_invariant
      (I := fun conn => Consistent conn ∧
        ∃ moved, conn.requests.get ticket = some moved ∧ Spurned conn.router moved)
      ?_ ⟨consistent_step hconsistent hhandled, held, hheld,
        .inr ⟨call, future, hpoint, hfuture, hmark⟩⟩ hlater
    intro conn event next hinvariant hstep
    obtain ⟨hconsistent, moved, hmoved, hspurned⟩ := hinvariant
    exact ⟨consistent_step hconsistent hstep, spurned_of_changed hconsistent.linked
      (taken_of_step hstep).changed hmoved hspurned⟩
  obtain ⟨hfinal, moved, hmoved, hspurned⟩ := hkept
  exact fun frame hframe => not_mem_of_spurned hfinal hmoved hspurned hframe

def runningEvents : List Event :=
  [.read (.single (.number 1) "tools/call"), .receive, .spawn, .call 0, .enter 0, .track 0,
    .read (.cancelled (some (.number 1)))]

theorem running_request_not_answered :
    ∃ conn handled final, run step (start (some 1)) runningEvents = some conn ∧
      step conn (.notify 0) = some handled ∧
      run step handled [.finish 0, .complete 0] = some final ∧ Marked handled 0 ∧
      ∀ frame ∈ final.outbound ++ final.written, 0 ∉ frame := by
  obtain ⟨conn, hrun, ⟨request, hget, hregistered, hnotice⟩, handled, hhandled, final, hlater⟩ :
      ∃ conn, run step (start (some 1)) runningEvents = some conn ∧
        (∃ request, conn.requests.get 0 = some request ∧ conn.Registered request ∧
          conn.notices.get 0 = some (some request.requestId)) ∧
        ∃ handled, step conn (.notify 0) = some handled ∧
          ∃ final, run step handled [.finish 0, .complete 0] = some final := by
    decide +kernel
  exact ⟨conn, handled, final, hrun, hhandled, hlater,
    registered_request_not_answered (some 1) runningEvents [.finish 0, .complete 0] conn handled
      final 0 0 request hrun hget hregistered hnotice hhandled hlater⟩

end StdioConnection

end TowerMcp
