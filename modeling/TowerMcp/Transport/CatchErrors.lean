import TowerMcp.Lib.Service
import TowerMcp.Types.JsonRpc

/-!
# Adapters that answer errors

Middleware may fail, when it is polled for readiness and when it is called. Each adapter turns an
error of a call into an answer. What it makes of an error of a readiness poll differs.
-/

namespace TowerMcp

namespace CatchErrors

inductive Panic where
  | panic

inductive RequestOutcome (I R : Type) where
  | complete (result : R)
  | inputRequired (required : I)

structure RouterRequest (P : Type) where
  id : RequestId
  inner : P

structure RouterResponse (R : Type) where
  id : RequestId
  inner : Except JsonRpcError R

variable {σ φ χ P I R Req Resp ε : Type}

def dropError : Except ε Unit → Except Panic Unit
  | _ => .ok ()

def unreachableError : Except ε Unit → Except Panic Unit
  | .ok () => .ok ()
  | .error _ => .error .panic

def caught (readiness : Except ε Unit → Except Panic Unit) (answer : ε → Resp)
    (inner : Service σ φ Req Resp ε) : Service σ φ Req Resp Panic where
  pollReady state :=
    let polled := inner.pollReady state
    (match polled.1 with
      | .pending => .pending
      | .ready result => .ready (readiness result), polled.2)
  call := inner.call
  pollFuture future :=
    let polled := inner.pollFuture future
    (match polled.1 with
      | .pending => .pending
      | .ready (.ok result) => .ready (.ok result)
      | .ready (.error error) => .ready (.ok (answer error)), polled.2)
  clone := inner.clone

section Adapters

/- How an error is shown. -/
variable (display : ε → String)

def toolCatchError (inner : Service σ φ Req CallToolResult ε) :
    Service σ φ Req CallToolResult Panic :=
  caught dropError (fun error => .fromError (display error)) inner

def mrtrToolCatchError (inner : Service σ φ Req (RequestOutcome I CallToolResult) ε) :
    Service σ φ Req (RequestOutcome I CallToolResult) Panic :=
  caught dropError (fun error => .complete (.fromError (display error))) inner

def resourceCatchError (inner : Service σ φ Req (Except JsonRpcError R) ε) :
    Service σ φ Req (Except JsonRpcError R) Panic :=
  caught dropError (fun error => .error (.internalError (display error))) inner

def mrtrResourceCatchError
    (inner : Service σ φ Req (Except JsonRpcError (RequestOutcome I R)) ε) :
    Service σ φ Req (Except JsonRpcError (RequestOutcome I R)) Panic :=
  caught dropError (fun error => .error (.internalError (display error))) inner

def promptCatchError (inner : Service σ φ Req (Except JsonRpcError R) ε) :
    Service σ φ Req (Except JsonRpcError R) Panic :=
  caught unreachableError (fun error => .error (.internalError (display error))) inner

def mrtrPromptCatchError
    (inner : Service σ φ Req (Except JsonRpcError (RequestOutcome I R)) ε) :
    Service σ φ Req (Except JsonRpcError (RequestOutcome I R)) Panic :=
  caught dropError (fun error => .error (.internalError (display error))) inner

def errorResponse (id : RequestId) (error : ε) : RouterResponse R where
  id := id
  inner := .error (.internalError (display error))

def catchError (inner : Service σ φ (RouterRequest P) (RouterResponse R) ε) :
    Service σ (Oneshot σ φ (RouterRequest P) (RouterResponse R) ε × RequestId) (RouterRequest P)
      (RouterResponse R) Panic where
  pollReady state := (.ready (.ok ()), state)
  call state request := ((.notReady (inner.clone state) request, request.id), state)
  pollFuture future :=
    let next := Oneshot.turn inner future.1
    (match next.result with
      | none => .pending
      | some (.ok response) => .ready (.ok response)
      | some (.error error) => .ready (.ok (errorResponse display future.2 error)),
      next, future.2)
  clone := inner.clone

end Adapters

/-- What a request through an adapter is due: the inner service is called only when the same instance
was ready, a readiness error becomes the one answer, and nothing panics. -/
structure Honours (adapter : Service (σ × List (Seen ε)) χ Req Resp Panic)
    (ofFuture : χ → List (Seen ε)) (answer : ε → Resp) (state : σ) (request : Req) : Prop where
  readyFirst : ∀ turns,
    ReadyFirst ((Oneshot.after adapter (state, []) request turns).seen Prod.snd ofFuture)
  answered : ∀ turns error, Seen.polled (.ready (.error error)) ∈
      (Oneshot.after adapter (state, []) request turns).seen Prod.snd ofFuture →
    (∃ later, (Oneshot.after adapter (state, []) request later).result =
        some (.ok (answer error))) ∧
      ∀ later result, (Oneshot.after adapter (state, []) request later).result = some result →
        result = .ok (answer error)
  calm : ∀ turns,
    (Oneshot.after adapter (state, []) request turns).result ≠ some (.error .panic)

/-! ## Adapters that poll the inner service themselves -/

section Caught

variable {readiness : Except ε Unit → Except Panic Unit} {answer : ε → Resp}
  {inner : Service σ φ Req Resp ε} {state : σ} {request : Req}

def OnTheWay (inner : Service σ φ Req Resp ε) (state : σ) :
    Oneshot (σ × List (Seen ε)) (φ × List (Seen ε)) Req Resp Panic → Prop
  | .notReady held _ => Waiting held.2 ∧ ∃ count, held.1 = inner.polled state count ∧
      ∀ earlier < count, (inner.pollReady (inner.polled state earlier)).1 = .pending
  | .called held => Served held.2
  | .answered held result => Served held.2 ∧ ∃ response, result = .ok response
  | .unready _ _ => False

theorem polled_succ (inner : Service σ φ Req Resp ε) (state : σ) (count : ℕ) :
    inner.polled state (count + 1) = (inner.pollReady (inner.polled state count)).2 :=
  Function.iterate_succ_apply' _ _ _

variable {oneshot : Oneshot (σ × List (Seen ε)) (φ × List (Seen ε)) Req Resp Panic}

theorem on_the_way_turn (hready : readiness (.ok ()) = .ok ()) (hfails : ¬inner.FailsFirst state)
    (h : OnTheWay inner state oneshot) :
    OnTheWay inner state (Oneshot.turn (caught readiness answer inner.observed) oneshot) := by
  cases oneshot with
  | notReady held request =>
    obtain ⟨_, log⟩ := held
    obtain ⟨hwaiting, count, rfl, hearlier⟩ := h
    unfold Oneshot.turn caught Service.observed
    dsimp only
    cases hpoll : (inner.pollReady (inner.polled state count)).1 with
    | pending =>
      refine ⟨hwaiting.append, count + 1, (polled_succ inner state count).symm, ?_⟩
      intro earlier hlt
      rcases Nat.lt_succ_iff_lt_or_eq.1 hlt with hlt | rfl
      · exact hearlier earlier hlt
      · exact hpoll
    | ready result =>
      cases result with
      | error error => exact absurd ⟨count, error, hearlier, hpoll⟩ hfails
      | ok value =>
        dsimp only
        rw [hready]
        exact ⟨log, hwaiting, List.append_assoc _ _ _⟩
  | called held =>
    obtain ⟨future, log⟩ := held
    unfold Oneshot.turn caught Service.observed
    dsimp only
    cases (inner.pollFuture future).1 with
    | pending => exact h
    | ready result => cases result <;> exact ⟨h, _, rfl⟩
  | unready held error => exact h
  | answered held result => exact h

theorem OnTheWay.ready_first (h : OnTheWay inner state oneshot) :
    ReadyFirst (oneshot.seen Prod.snd Prod.snd) := by
  cases oneshot with
  | notReady held request => exact ready_first_of_not_mem h.1.not_mem_called
  | called held => exact Served.ready_first h
  | unready held error => cases h
  | answered held result => exact h.1.ready_first

theorem OnTheWay.not_mem_error {error : ε} (h : OnTheWay inner state oneshot) :
    Seen.polled (.ready (.error error)) ∉ oneshot.seen Prod.snd Prod.snd := by
  cases oneshot with
  | notReady held request => exact h.1.not_mem_error
  | called held => exact Served.not_mem_error h
  | unready held error => cases h
  | answered held result => exact h.1.not_mem_error

theorem OnTheWay.calm (h : OnTheWay inner state oneshot) :
    oneshot.result ≠ some (.error .panic) := by
  cases oneshot with
  | notReady held request => exact nofun
  | called held => exact nofun
  | unready held error => cases h
  | answered held result =>
    obtain ⟨response, rfl⟩ := h.2
    exact nofun

theorem after_pending {count : ℕ} (hpending : ∀ earlier < count,
    (inner.pollReady (inner.polled state earlier)).1 = .pending) :
    ∃ log, Oneshot.after (caught readiness answer inner.observed) (state, []) request count =
      .notReady (inner.polled state count, log) request := by
  induction count with
  | zero => exact ⟨[], rfl⟩
  | succ count ih =>
    obtain ⟨log, hafter⟩ := ih fun earlier hlt => hpending earlier (Nat.lt_succ_of_lt hlt)
    rw [Oneshot.after_succ, hafter, polled_succ]
    unfold Oneshot.turn caught Service.observed
    dsimp only
    rw [hpending count (Nat.lt_succ_self count)]
    exact ⟨_, rfl⟩

theorem turn_failed {held : σ} {error : ε}
    (herror : (inner.pollReady held).1 = .ready (.error error)) (log : List (Seen ε)) :
    Oneshot.turn (caught readiness answer inner.observed) (.notReady (held, log) request) =
      match readiness (.error error) with
      | .error failure =>
        .unready ((inner.pollReady held).2, log ++ [.polled (.ready (.error error))]) failure
      | .ok () =>
        .called ((inner.call (inner.pollReady held).2 request).1,
          (log ++ [.polled (.ready (.error error))]) ++ [.called]) := by
  unfold Oneshot.turn caught Service.observed
  dsimp only
  rw [herror]
  dsimp only
  cases readiness (.error error) <;> rfl

theorem caught_honours_iff (hready : readiness (.ok ()) = .ok ()) :
    Honours (caught readiness answer inner.observed) Prod.snd answer state request ↔
      ¬inner.FailsFirst state := by
  constructor
  · rintro h ⟨count, error, hpending, herror⟩
    obtain ⟨log, hafter⟩ : ∃ log, Oneshot.after (caught readiness answer inner.observed)
        (state, []) request count = .notReady (inner.polled state count, log) request :=
      after_pending hpending
    have hnext := Oneshot.after_succ (caught readiness answer inner.observed) (state, []) request
      count
    rw [hafter, turn_failed herror] at hnext
    cases hreadiness : readiness (.error error) with
    | error failure =>
      cases failure
      rw [hreadiness] at hnext
      exact h.calm (count + 1) (congrArg Oneshot.result hnext)
    | ok value =>
      rw [hreadiness] at hnext
      -- the service is called although the poll before the call failed
      obtain ⟨before, hbefore⟩ := h.readyFirst (count + 1)
        (log ++ [.polled (.ready (.error error))]) [] (congrArg (Oneshot.seen _ _) hnext)
      have hlast := congrArg List.getLast? hbefore
      rw [List.getLast?_concat, List.getLast?_concat] at hlast
      cases hlast
  · intro hfails
    have hway (turns : ℕ) : OnTheWay inner state
        (Oneshot.after (caught readiness answer inner.observed) (state, []) request turns) :=
      Oneshot.after_invariant (I := OnTheWay inner state)
        ⟨fun _ hmem => absurd hmem List.not_mem_nil, 0, rfl, nofun⟩
        (fun _ => on_the_way_turn hready hfails) turns
    exact ⟨fun turns => (hway turns).ready_first,
      fun turns error hmem => absurd hmem (hway turns).not_mem_error, fun turns => (hway turns).calm⟩

end Caught

/-! ## The adapter of requests -/

section Requests

variable {display : ε → String} {inner : Service σ φ (RouterRequest P) (RouterResponse R) ε}
  {state : σ} {request : RouterRequest P}

/-- A request on its way through the adapter of requests is a request on its way through the instance
that it has cloned. -/
def Driven (display : ε → String) (id : RequestId) :
    Oneshot (σ × List (Seen ε))
      (Oneshot (σ × List (Seen ε)) (φ × List (Seen ε)) (RouterRequest P) (RouterResponse R) ε ×
        RequestId) (RouterRequest P) (RouterResponse R) Panic → Prop
  | .notReady held request => held.2 = [] ∧ request.id = id
  | .called future => future.1.Logged ∧ future.1.result = none ∧ future.2 = id
  | .answered future result => future.1.Logged ∧
      ((∃ response, future.1.result = some (.ok response) ∧ result = .ok response) ∨
        ∃ error, future.1.result = some (.error error) ∧
          result = .ok (errorResponse display id error))
  | .unready _ _ => False

variable {id : RequestId}
  {oneshot : Oneshot (σ × List (Seen ε))
    (Oneshot (σ × List (Seen ε)) (φ × List (Seen ε)) (RouterRequest P) (RouterResponse R) ε ×
      RequestId) (RouterRequest P) (RouterResponse R) Panic}

theorem Driven.turn (h : Driven display id oneshot) :
    Driven display id (Oneshot.turn (catchError display inner.observed) oneshot) := by
  cases oneshot with
  | notReady held request => exact ⟨fun _ hmem => absurd hmem List.not_mem_nil, rfl, h.2⟩
  | called future =>
    obtain ⟨hlogged, hnone, hid⟩ := h
    have hnext : (Oneshot.turn inner.observed future.1).Logged := hlogged.turn
    unfold Oneshot.turn catchError
    dsimp only
    cases hresult : (Oneshot.turn inner.observed future.1).result with
    | none => exact ⟨hnext, hresult, hid⟩
    | some result =>
      cases result with
      | ok response => exact ⟨hnext, .inl ⟨response, hresult, rfl⟩⟩
      | error error => exact ⟨hnext, .inr ⟨error, hresult, hid ▸ rfl⟩⟩
  | unready held error => exact h
  | answered future result => exact h

theorem Driven.ready_first (h : Driven display id oneshot) :
    ReadyFirst (oneshot.seen Prod.snd fun future => future.1.seen Prod.snd Prod.snd) := by
  cases oneshot with
  | notReady held request =>
    refine ready_first_of_not_mem ?_
    show Seen.called ∉ held.2
    rw [h.1]
    exact List.not_mem_nil
  | called future => exact h.1.ready_first
  | unready held error => cases h
  | answered future result => exact h.1.ready_first

theorem Driven.result_of_error {error : ε} (h : Driven display id oneshot)
    (hmem : Seen.polled (.ready (.error error)) ∈
      oneshot.seen Prod.snd fun future => future.1.seen Prod.snd Prod.snd) :
    oneshot.result = some (.ok (errorResponse display id error)) := by
  cases oneshot with
  | notReady held request =>
    have hmem : Seen.polled (.ready (.error error)) ∈ held.2 := hmem
    rw [h.1] at hmem
    exact absurd hmem List.not_mem_nil
  | called future => cases h.2.1.symm.trans (h.1.result_of_error hmem)
  | unready held error => cases h
  | answered future result =>
    have hresult := h.1.result_of_error hmem
    rcases h.2 with ⟨response, hresponse, _⟩ | ⟨other, hother, rfl⟩
    · cases hresponse.symm.trans hresult
    · cases hother.symm.trans hresult
      rfl

theorem Driven.calm (h : Driven display id oneshot) : oneshot.result ≠ some (.error .panic) := by
  cases oneshot with
  | notReady held request => exact nofun
  | called future => exact nofun
  | unready held error => cases h
  | answered future result =>
    rcases h.2 with ⟨response, _, rfl⟩ | ⟨other, _, rfl⟩
    · exact nofun
    · exact nofun

theorem catch_error_honours :
    Honours (catchError display inner.observed) (fun future => future.1.seen Prod.snd Prod.snd)
      (errorResponse display request.id) state request := by
  have hdriven (turns : ℕ) : Driven display request.id
      (Oneshot.after (catchError display inner.observed) (state, []) request turns) :=
    Oneshot.after_invariant (I := Driven display request.id) ⟨rfl, rfl⟩ (fun _ => Driven.turn) turns
  refine ⟨fun turns => (hdriven turns).ready_first, fun turns error hmem => ?_,
    fun turns => (hdriven turns).calm⟩
  have hresult := (hdriven turns).result_of_error hmem
  refine ⟨⟨turns, hresult⟩, fun later result hlater => ?_⟩
  rcases Nat.le_total turns later with hle | hle
  · exact Option.some.inj (hlater.symm.trans (Oneshot.result_after hle hresult))
  · exact Option.some.inj ((Oneshot.result_after hle hlater).symm.trans hresult)

end Requests

/-- The adapter of requests gives every request what it is due. The others do exactly when the
middleware does not fail before it is ready. -/
theorem adapters_honour_iff_ready (display : ε → String) (state : σ)
    (requests : Service σ φ (RouterRequest P) (RouterResponse R) ε)
    (tools : Service σ φ Req CallToolResult ε)
    (mrtrTools : Service σ φ Req (RequestOutcome I CallToolResult) ε)
    (objects : Service σ φ Req (Except JsonRpcError R) ε)
    (mrtrObjects : Service σ φ Req (Except JsonRpcError (RequestOutcome I R)) ε)
    (routed : RouterRequest P) (request : Req) :
    Honours (catchError display requests.observed) (fun future => future.1.seen Prod.snd Prod.snd)
        (errorResponse display routed.id) state routed ∧
      (Honours (toolCatchError display tools.observed) Prod.snd
          (fun error => .fromError (display error)) state request ↔ ¬tools.FailsFirst state) ∧
      (Honours (mrtrToolCatchError display mrtrTools.observed) Prod.snd
          (fun error => .complete (.fromError (display error))) state request ↔
        ¬mrtrTools.FailsFirst state) ∧
      (Honours (resourceCatchError display objects.observed) Prod.snd
          (fun error => .error (.internalError (display error))) state request ↔
        ¬objects.FailsFirst state) ∧
      (Honours (mrtrResourceCatchError display mrtrObjects.observed) Prod.snd
          (fun error => .error (.internalError (display error))) state request ↔
        ¬mrtrObjects.FailsFirst state) ∧
      (Honours (promptCatchError display objects.observed) Prod.snd
          (fun error => .error (.internalError (display error))) state request ↔
        ¬objects.FailsFirst state) ∧
      (Honours (mrtrPromptCatchError display mrtrObjects.observed) Prod.snd
          (fun error => .error (.internalError (display error))) state request ↔
        ¬mrtrObjects.FailsFirst state) :=
  ⟨catch_error_honours, caught_honours_iff rfl, caught_honours_iff rfl, caught_honours_iff rfl,
    caught_honours_iff rfl, caught_honours_iff rfl, caught_honours_iff rfl⟩

def closed {Resp : Type} (response : Resp) : Service Unit Unit Unit Resp String where
  pollReady state := (.ready (.error "closed"), state)
  call _ _ := ((), ())
  pollFuture future := (.ready (.ok response), future)
  clone state := state

/-- The adapter of tools calls a closed middleware and answers as if nothing had failed, and the
adapter of prompts panics. -/
theorem closed_middleware_parts :
    (Oneshot.after (toolCatchError id (closed (.fromError "called")).observed) ((), []) () 2).result =
        some (.ok (CallToolResult.fromError "called")) ∧
      ¬Honours (toolCatchError id (closed (.fromError "called")).observed) Prod.snd
        (fun error => .fromError error) () () ∧
      ¬Honours (promptCatchError (R := Unit) id (closed (.ok ())).observed) Prod.snd
        (fun error => .error (.internalError error)) () () := by
  refine ⟨rfl, fun h => ?_, fun h => h.calm 1 rfl⟩
  obtain ⟨before, hbefore⟩ := h.readyFirst 1 [.polled (.ready (.error "closed"))] [] rfl
  have hlast := congrArg List.getLast? hbefore
  rw [List.getLast?_concat] at hlast
  cases hlast

end CatchErrors

end TowerMcp
