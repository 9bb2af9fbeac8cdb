import TowerMcp.Lib.Interference
import TowerMcp.Router.Dispatch

/-!
# What one session can do to another

Of the messages of a session only `notifications/cancelled` and `logging/setLevel` write to what the
sessions share.
-/

namespace TowerMcp

namespace Server

/-- What a session sees: the contexts of its own dispatches, its own router, and the level that its
legacy log messages are held to. -/
structure View where
  contexts : DispatchId → Option DispatchContext
  router : SessionRouter
  minLogLevel : LogLevel

def view (session : SessionId) (server : Server) : View where
  contexts dispatch := server.contexts[dispatch]?.filter fun context => context.session == session
  router := server.router session
  minLogLevel := server.inner.minLogLevel

def sentBy (sender : SessionId) : Event → Bool
  | .cancelled session _ => session == sender
  | .setLoggingLevel session _ => session == sender
  | _ => false

/-- A cancellation or log level of `sender` has nothing to change for `receiver`: every dispatch of
`receiver` that is tracked under the identifier is cancelled and marked already, and the level is
the one in force. -/
def Apart (sender receiver : SessionId) (server : Server) : Event → Prop
  | .cancelled session (some requestId) =>
    session = sender → ∀ dispatch ∈ server.inner.tracked requestId,
      ∀ context, server.contexts[dispatch]? = some context → context.session = receiver →
        context.cancelled = true ∧ context.peerCancelled ≠ some false
  | .setLoggingLevel session level => session = sender → level = server.inner.minLogLevel
  | _ => True

def fresh (context : DispatchContext) : DispatchContext :=
  { context with
    cancelled := false
    peerCancelled := context.peerCancelled.map fun _ => false }

structure SameRequests (server other : Server) : Prop where
  inFlight : server.inner.inFlight = other.inner.inFlight
  contexts : server.contexts.map fresh = other.contexts.map fresh

/-! ## Cancelling -/

theorem cancel_eq_self_iff {context : DispatchContext} :
    context.cancel = context ↔ context.cancelled = true ∧ context.peerCancelled ≠ some false := by
  obtain ⟨session, requestId, lifecycle, cancelled, peerCancelled⟩ := context
  simp only [DispatchContext.cancel, DispatchContext.mk.injEq, true_and, ne_eq]
  rcases peerCancelled with _ | _ | _
  · simp [eq_comm]
  · simp
  · simp [eq_comm]

@[simp] theorem fresh_cancel (context : DispatchContext) : fresh context.cancel = fresh context := by
  simp [fresh, DispatchContext.cancel, Function.comp_def]

theorem getElem_cancel_dispatches (entries : List DispatchId) (contexts : List DispatchContext)
    (dispatch : DispatchId) :
    (cancelDispatches entries contexts)[dispatch]? =
      contexts[dispatch]?.map fun context =>
        if entries.contains dispatch then context.cancel else context := by
  unfold cancelDispatches
  rw [List.getElem?_mapIdx]

theorem map_fresh_cancel_dispatches (entries : List DispatchId) (contexts : List DispatchContext) :
    (cancelDispatches entries contexts).map fresh = contexts.map fresh := by
  apply List.ext_getElem?
  intro dispatch
  rw [List.getElem?_map, List.getElem?_map, getElem_cancel_dispatches, Option.map_map]
  congr 1
  funext context
  simp only [Function.comp_apply]
  split
  · exact fresh_cancel context
  · rfl

theorem view_contexts_cancel (session : SessionId) (server : Server) (requestId : RequestId)
    (dispatch : DispatchId) :
    (view session (server.cancelRequest requestId)).contexts dispatch =
      ((view session server).contexts dispatch).map fun context =>
        if (server.inner.tracked requestId).contains dispatch then context.cancel
        else context := by
  show ((cancelDispatches _ _)[dispatch]?).filter _ = (server.contexts[dispatch]?.filter _).map _
  rw [getElem_cancel_dispatches]
  cases server.contexts[dispatch]? with
  | none => rfl
  | some context =>
    simp only [Option.map_some, Option.filter_some]
    have hsession : (if (server.inner.tracked requestId).contains dispatch then context.cancel
        else context).session = context.session := by
      split
      · rfl
      · rfl
    rw [hsession]
    split
    · rfl
    · rfl

theorem view_cancel_request_iff {session : SessionId} {server : Server} {requestId : RequestId} :
    view session (server.cancelRequest requestId) = view session server ↔
      ∀ dispatch ∈ server.inner.tracked requestId, ∀ context,
        server.contexts[dispatch]? = some context → context.session = session →
          context.cancelled = true ∧ context.peerCancelled ≠ some false := by
  have hview : view session (server.cancelRequest requestId) = view session server ↔
      ∀ dispatch, (view session (server.cancelRequest requestId)).contexts dispatch =
        (view session server).contexts dispatch := by
    constructor
    · intro h dispatch
      rw [h]
    · intro h
      show View.mk _ _ _ = View.mk _ _ _
      congr 1
      exact funext h
  rw [hview]
  refine forall_congr' fun dispatch => ?_
  rw [view_contexts_cancel]
  show (server.contexts[dispatch]?.filter _).map _ = server.contexts[dispatch]?.filter _ ↔ _
  cases hcontext : server.contexts[dispatch]? with
  | none => simp
  | some context =>
    by_cases hsession : context.session = session
    · by_cases htracked : dispatch ∈ server.inner.tracked requestId
      · simp [Option.filter_some, hsession, htracked, cancel_eq_self_iff]
      · simp [Option.filter_some, hsession, htracked]
    · simp [Option.filter_some, hsession]

/-! ## The two runs side by side -/

variable {server other next : Server} {receiver : SessionId}

theorem SameRequests.length_eq (h : SameRequests server other) :
    server.contexts.length = other.contexts.length := by
  simpa using congrArg List.length h.contexts

theorem SameRequests.getElem (h : SameRequests server other) {dispatch : DispatchId}
    {context : DispatchContext} (hcontext : server.contexts[dispatch]? = some context) :
    ∃ context', other.contexts[dispatch]? = some context' ∧ fresh context' = fresh context := by
  have hmap : (server.contexts.map fresh)[dispatch]? = (other.contexts.map fresh)[dispatch]? := by
    rw [h.contexts]
  rw [List.getElem?_map, List.getElem?_map, hcontext] at hmap
  obtain ⟨context', hcontext', heq⟩ := Option.map_eq_some_iff.1 hmap.symm
  exact ⟨context', hcontext', heq⟩

variable {context context' : DispatchContext}

theorem eq_of_fresh (h : fresh context' = fresh context) :
    context'.session = context.session ∧ context'.requestId = context.requestId ∧
      context'.lifecycle = context.lifecycle := by
  obtain ⟨hsession, hrequestId, hlifecycle, _, _⟩ := DispatchContext.mk.inj h
  exact ⟨hsession, hrequestId, hlifecycle⟩

theorem same_requests_dispatch (h : SameRequests server other) (session : SessionId)
    (requestId : RequestId) (lifecycle : Lifecycle) (peerCancelled : Option Bool) :
    SameRequests (server.dispatchRequest session requestId lifecycle peerCancelled)
      (other.dispatchRequest session requestId lifecycle peerCancelled) := by
  obtain ⟨hinFlight, hcontexts⟩ := h
  constructor
  · simp only [dispatchRequest, McpRouterInner.registerInFlight, McpRouterInner.tracked, hinFlight,
      SameRequests.length_eq ⟨hinFlight, hcontexts⟩]
  · simp only [dispatchRequest, List.map_append, hcontexts]

theorem view_dispatch_congr (h : SameRequests server other)
    (hview : view receiver server = view receiver other) (session : SessionId)
    (requestId : RequestId) (lifecycle : Lifecycle) (peerCancelled : Option Bool) :
    view receiver (server.dispatchRequest session requestId lifecycle peerCancelled) =
      view receiver (other.dispatchRequest session requestId lifecycle peerCancelled) := by
  obtain ⟨hcontexts, hrouter, hlevel⟩ := View.mk.inj hview
  show View.mk _ _ _ = View.mk _ _ _
  congr 1
  funext dispatch
  have hdispatch := congrFun hcontexts dispatch
  simp only [dispatchRequest, List.getElem?_append, h.length_eq]
  split
  · exact hdispatch
  · rfl

theorem same_requests_cancel (h : SameRequests server other) (requestId : RequestId) :
    SameRequests (server.cancelRequest requestId) other := by
  refine ⟨h.inFlight, ?_⟩
  exact (map_fresh_cancel_dispatches _ _).trans h.contexts

theorem SameRequests.symm (h : SameRequests server other) : SameRequests other server :=
  ⟨h.inFlight.symm, h.contexts.symm⟩

theorem view_cancel_congr (h : SameRequests server other)
    (hview : view receiver server = view receiver other) (requestId : RequestId) :
    view receiver (server.cancelRequest requestId) =
      view receiver (other.cancelRequest requestId) := by
  obtain ⟨_, hrouter, hlevel⟩ := View.mk.inj hview
  show View.mk _ _ _ = View.mk _ _ _
  congr 1
  funext dispatch
  have htracked : server.inner.tracked requestId = other.inner.tracked requestId := by
    unfold McpRouterInner.tracked
    rw [h.inFlight]
  have hcancel := view_contexts_cancel receiver server requestId dispatch
  rw [hview, htracked, ← view_contexts_cancel receiver other requestId dispatch] at hcancel
  exact hcancel

theorem view_insert_router (session : SessionId) (router : SessionRouter) :
    view receiver { server with sessions := server.sessions.insert session router } =
      { view receiver server with
        router := if receiver = session then router else server.router receiver } := by
  show View.mk _ _ _ = View.mk _ _ _
  congr 1
  unfold Server.router
  simp only [FinMap.lookup_insert_eq_ite]
  split
  · rfl
  · rfl

theorem view_send_log_congr (hview : view receiver server = view receiver other)
    (hfresh : fresh context' = fresh context) (message : LogMessage) :
    view receiver (server.sendLog context message) =
      view receiver (other.sendLog context' message) := by
  obtain ⟨_, hrouter, hlevel⟩ := View.mk.inj hview
  obtain ⟨hsession, _, hlifecycle⟩ := eq_of_fresh hfresh
  unfold sendLog
  rw [hsession, hlifecycle, ← hlevel]
  split
  · rw [view_insert_router, view_insert_router, hview]
    split
    · rename_i hreceiver
      rw [← hreceiver, hrouter]
    · rw [hrouter]
  · exact hview

theorem view_update_router_congr (hview : view receiver server = view receiver other)
    (session : SessionId) (update : SessionRouter → SessionRouter) :
    view receiver { server with
        sessions := server.sessions.insert session (update (server.router session)) } =
      view receiver { other with
        sessions := other.sessions.insert session (update (other.router session)) } := by
  obtain ⟨_, hrouter, _⟩ := View.mk.inj hview
  rw [view_insert_router, view_insert_router, hview]
  split
  · rename_i hreceiver
    rw [← hreceiver, hrouter]
  · rw [hrouter]

theorem visible_step {sender : SessionId} {event : Event} (h : SameRequests server other)
    (hvisible : sentBy sender event = false) (hstep : step server event = some next) :
    ∃ next', step other event = some next' ∧ SameRequests next next' ∧
      (view receiver server = view receiver other → view receiver next = view receiver next') := by
  cases event with
  | freshSession session =>
    cases hstep
    exact ⟨_, rfl, ⟨h.inFlight, h.contexts⟩, fun hview =>
      view_update_router_congr hview session fun _ => {}⟩
  | request session requestId lifecycle peerCancelled =>
    cases hstep
    exact ⟨_, rfl, same_requests_dispatch h session requestId lifecycle peerCancelled,
      fun hview => view_dispatch_congr h hview session requestId lifecycle peerCancelled⟩
  | finish dispatch =>
    obtain ⟨context, hcontext, rfl⟩ := Option.map_eq_some_iff.1 hstep
    obtain ⟨context', hcontext', hfresh⟩ := h.getElem hcontext
    refine ⟨{ other with inner := other.inner.completeDispatch context'.requestId dispatch },
      by simp only [step, hcontext', Option.map_some], ?_, ?_⟩
    · refine ⟨?_, h.contexts⟩
      unfold McpRouterInner.completeDispatch
      rw [(eq_of_fresh hfresh).2.1, h.inFlight]
      split
      · exact h.inFlight
      · dsimp only
        split
        · rfl
        · rfl
    · intro hview
      obtain ⟨hcontexts, hrouter, hlevel⟩ := View.mk.inj hview
      have hkeep : ∀ (inner : McpRouterInner) requestId,
          (inner.completeDispatch requestId dispatch).minLogLevel = inner.minLogLevel := by
        intro inner requestId
        unfold McpRouterInner.completeDispatch
        split
        · rfl
        · dsimp only
          split
          · rfl
          · rfl
      show View.mk _ _ _ = View.mk _ _ _
      simp only [hkeep]
      exact hview
  | cancelled session requestId =>
    cases requestId with
    | none =>
      cases hstep
      exact ⟨other, rfl, h, fun hview => hview⟩
    | some requestId =>
      cases hstep
      exact ⟨_, rfl, (same_requests_cancel (same_requests_cancel h requestId).symm requestId).symm,
        fun hview => view_cancel_congr h hview requestId⟩
  | setLoggingLevel session level =>
    cases hstep
    refine ⟨_, rfl, ⟨h.inFlight, h.contexts⟩, ?_⟩
    intro hview
    obtain ⟨hcontexts, hrouter, _⟩ := View.mk.inj hview
    show View.mk _ _ _ = View.mk _ _ _
    rw [View.mk.injEq]
    exact ⟨hcontexts, hrouter, rfl⟩
  | log dispatch level data =>
    obtain ⟨context, hcontext, rfl⟩ := Option.map_eq_some_iff.1 hstep
    obtain ⟨context', hcontext', hfresh⟩ := h.getElem hcontext
    refine ⟨other.sendLog context' { dispatch, level, data },
      by simp only [step, hcontext', Option.map_some], ?_,
      fun hview => view_send_log_congr hview hfresh _⟩
    have hsame : ∀ (server : Server) context,
        (server.sendLog context { dispatch, level, data }).inner = server.inner ∧
          (server.sendLog context { dispatch, level, data }).contexts = server.contexts := by
      intro server context
      unfold sendLog
      split
      · exact ⟨rfl, rfl⟩
      · exact ⟨rfl, rfl⟩
    constructor
    · rw [(hsame server context).1, (hsame other context').1]
      exact h.inFlight
    · rw [(hsame server context).2, (hsame other context').2]
      exact h.contexts
  | subscribe session uri =>
    cases hstep
    exact ⟨_, rfl, ⟨h.inFlight, h.contexts⟩, fun hview =>
      view_update_router_congr hview session fun router =>
        { router with subscriptions := router.subscriptions.insert uri () }⟩

theorem comparable (sender receiver : SessionId) :
    Execution.Comparable step (sentBy sender) (view receiver) SameRequests
      (Apart sender receiver) where
  visible _ _ _ _ h hvisible hstep := visible_step h hvisible hstep
  hidden_related server other event next h hhidden hstep := by
    cases event with
    | cancelled session requestId =>
      cases requestId with
      | none =>
        cases hstep
        exact h
      | some requestId =>
        cases hstep
        exact same_requests_cancel h requestId
    | setLoggingLevel session level =>
      cases hstep
      exact ⟨h.inFlight, h.contexts⟩
    | _ => cases hhidden
  hidden_view server event next hhidden hstep := by
    cases event with
    | cancelled session requestId =>
      obtain rfl : session = sender := by simpa [sentBy] using hhidden
      cases requestId with
      | none =>
        cases hstep
        exact iff_of_true rfl trivial
      | some requestId =>
        cases hstep
        rw [view_cancel_request_iff]
        simp [Apart]
    | setLoggingLevel session level =>
      obtain rfl : session = sender := by simpa [sentBy] using hhidden
      cases hstep
      show View.mk _ _ _ = View.mk _ _ _ ↔ _
      rw [View.mk.injEq]
      constructor
      · rintro ⟨_, _, hlevel⟩ _
        exact hlevel
      · intro h
        exact ⟨rfl, rfl, h rfl⟩
    | _ => cases hhidden
  harmless server event h := by
    cases event with
    | cancelled session requestId =>
      cases requestId with
      | none => trivial
      | some requestId =>
        rcases h with hvisible | hrefused
        · intro hsender
          simp [sentBy, hsender] at hvisible
        · cases hrefused
    | setLoggingLevel session level =>
      rcases h with hvisible | hrefused
      · intro hsender
        simp [sentBy, hsender] at hvisible
      · cases hrefused
    | _ => trivial

/-- Of two fresh sessions, session 1 has a request `1` in flight when `event` happens. -/
def sameIdentifier (event : Event) : List Event :=
  [.freshSession 1, .freshSession 2, .request 1 (.number 1) .legacy (some false), event]

/-- A cancellation of request `1` by session 2 reaches the request `1` of session 1. -/
theorem cancellation_reaches_other_session :
    ¬ ∀ (sender receiver : SessionId) (server : Server) (events : List Event), sender ≠ receiver →
      Execution.Undisturbed step (sentBy sender) (view receiver) server server events := by
  intro h
  obtain ⟨without, hwithout, hview⟩ := h 2 1 {} (sameIdentifier (.cancelled 2 (some (.number 1))))
    (by decide) _ [] _ (List.append_nil _).symm rfl
  cases hwithout
  have hcontext := congrFun (congrArg View.contexts hview) 0
  revert hcontext
  decide

/-- At every point of a run, what `receiver` sees is what it would see had `sender` sent no
cancellation and set no log level, exactly when each of these had nothing to change for it. -/
theorem undisturbed_iff_apart (sender receiver : SessionId) (server : Server)
    (events : List Event) :
    Execution.Undisturbed step (sentBy sender) (view receiver) server server events ↔
      Execution.Along step (Apart sender receiver) server events :=
  Execution.undisturbed_iff_along (comparable sender receiver) ⟨rfl, rfl⟩ rfl events

end Server

end TowerMcp
