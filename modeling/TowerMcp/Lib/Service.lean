import Mathlib.Logic.Function.Iterate
import Mathlib.Data.List.Basic

/-!
# Services that are polled

A service says, each time it is polled, whether it is ready for a request. Whoever calls it polls it
until it is ready, calls it, and polls the future of the call. A service is observed by a log of what
one instance of it was asked and how it answered.
-/

/-- What polling yields. -/
inductive Poll (α : Type) where
  | pending
  | ready (value : α)

/-- A service with states in `σ` and futures in `φ`. -/
structure Service (σ φ Req Resp ε : Type) where
  pollReady : σ → Poll (Except ε Unit) × σ
  call : σ → Req → φ × σ
  pollFuture : φ → Poll (Except ε Resp) × φ
  clone : σ → σ

/-- What an instance of a service is asked. -/
inductive Seen (ε : Type) where
  | polled (result : Poll (Except ε Unit))
  | called

/-- One request on its way through a service: not called before the service is ready, called, not
called as readiness failed, or answered. -/
inductive Oneshot (σ φ Req Resp ε : Type) where
  | notReady (state : σ) (request : Req)
  | called (future : φ)
  | unready (state : σ) (error : ε)
  | answered (future : φ) (result : Except ε Resp)

variable {σ φ Req Resp ε : Type}

namespace Service

variable (self : Service σ φ Req Resp ε)

/-- The service with a log for each instance. A clone is a new instance. -/
def observed : Service (σ × List (Seen ε)) (φ × List (Seen ε)) Req Resp ε where
  pollReady held :=
    let polled := self.pollReady held.1
    (polled.1, polled.2, held.2 ++ [.polled polled.1])
  call held request :=
    let called := self.call held.1 request
    ((called.1, held.2 ++ [.called]), called.2, held.2 ++ [.called])
  pollFuture held :=
    let polled := self.pollFuture held.1
    (polled.1, polled.2, held.2)
  clone held := (self.clone held.1, [])

/-- The state after a number of polls. -/
def polled (state : σ) (count : ℕ) : σ :=
  (fun state => (self.pollReady state).2)^[count] state

/-- A poll yields an error, and those before it yield nothing. -/
def FailsFirst (state : σ) : Prop :=
  ∃ count error, (∀ earlier < count, (self.pollReady (self.polled state earlier)).1 = .pending) ∧
    (self.pollReady (self.polled state count)).1 = .ready (.error error)

end Service

namespace Oneshot

/-- One turn of the loop that drives a request through a service. -/
def turn (service : Service σ φ Req Resp ε) :
    Oneshot σ φ Req Resp ε → Oneshot σ φ Req Resp ε
  | .notReady state request =>
    let polled := service.pollReady state
    match polled.1 with
    | .pending => .notReady polled.2 request
    | .ready (.error error) => .unready polled.2 error
    | .ready (.ok ()) => .called (service.call polled.2 request).1
  | .called future =>
    let polled := service.pollFuture future
    match polled.1 with
    | .pending => .called polled.2
    | .ready result => .answered polled.2 result
  | done => done

/-- What the request is answered, once it is. -/
def result : Oneshot σ φ Req Resp ε → Option (Except ε Resp)
  | .unready _ error => some (.error error)
  | .answered _ result => some result
  | .notReady _ _ | .called _ => none

/-- The log of the instance that the request is driven through. -/
def seen {ω : Type} (ofState : σ → List ω) (ofFuture : φ → List ω) :
    Oneshot σ φ Req Resp ε → List ω
  | .notReady state _ | .unready state _ => ofState state
  | .called future | .answered future _ => ofFuture future

/-- The request after a number of turns. -/
def after (service : Service σ φ Req Resp ε) (state : σ) (request : Req) (turns : ℕ) :
    Oneshot σ φ Req Resp ε :=
  (turn service)^[turns] (.notReady state request)

theorem after_succ (service : Service σ φ Req Resp ε) (state : σ) (request : Req) (turns : ℕ) :
    after service state request (turns + 1) = turn service (after service state request turns) :=
  Function.iterate_succ_apply' _ _ _

theorem after_invariant {service : Service σ φ Req Resp ε} {I : Oneshot σ φ Req Resp ε → Prop}
    {state : σ} {request : Req} (hstart : I (.notReady state request))
    (hturn : ∀ oneshot, I oneshot → I (turn service oneshot)) (turns : ℕ) :
    I (after service state request turns) := by
  induction turns with
  | zero => exact hstart
  | succ turns ih => exact after_succ service state request turns ▸ hturn _ ih

theorem result_after {service : Service σ φ Req Resp ε} {state : σ} {request : Req}
    {turns later : ℕ} (hle : turns ≤ later) {answer : Except ε Resp}
    (h : (after service state request turns).result = some answer) :
    (after service state request later).result = some answer := by
  obtain ⟨more, rfl⟩ := Nat.exists_eq_add_of_le hle
  induction more with
  | zero => exact h
  | succ more ih =>
    have ih := ih (Nat.le_add_right turns more)
    rw [← Nat.add_assoc, after_succ]
    generalize after service state request (turns + more) = oneshot at ih
    cases oneshot with
    | notReady held request => cases ih
    | called future => cases ih
    | unready held error => exact ih
    | answered future result => exact ih

end Oneshot

/-! ## Logs -/

/-- Every call in a log comes right after a poll that found the instance ready. -/
def ReadyFirst (log : List (Seen ε)) : Prop :=
  ∀ front back, log = front ++ .called :: back →
    ∃ before, front = before ++ [.polled (.ready (.ok ()))]

/-- A log of polls that yield nothing. -/
def Waiting (log : List (Seen ε)) : Prop :=
  ∀ seen ∈ log, seen = .polled .pending

/-- A log that ends with a poll that found the instance ready, and a call. -/
def Served (log : List (Seen ε)) : Prop :=
  ∃ front, Waiting front ∧ log = front ++ [.polled (.ready (.ok ())), .called]

/-- A log that ends with a poll that yields an error. -/
def Failed (log : List (Seen ε)) (error : ε) : Prop :=
  ∃ front, Waiting front ∧ log = front ++ [.polled (.ready (.error error))]

theorem Waiting.append (h : Waiting (ε := ε) log) :
    Waiting (log ++ [.polled .pending]) := by
  intro seen hmem
  rcases List.mem_append.1 hmem with hearlier | hlast
  · exact h seen hearlier
  · exact List.mem_singleton.1 hlast

theorem Waiting.not_mem_called (h : Waiting (ε := ε) log) : Seen.called ∉ log :=
  fun hmem => nomatch h _ hmem

variable {error : ε}

theorem Waiting.not_mem_error (h : Waiting log) :
    Seen.polled (.ready (.error error)) ∉ log :=
  fun hmem => nomatch h _ hmem

variable {log : List (Seen ε)}

theorem ready_first_of_not_mem (h : Seen.called ∉ log) : ReadyFirst log := by
  rintro front back rfl
  exact absurd (List.mem_append_right front List.mem_cons_self) h

theorem Served.ready_first (h : Served log) : ReadyFirst log := by
  obtain ⟨polls, hwaiting, rfl⟩ := h
  intro front back hsplit
  have hnot : Seen.called ∉ polls ++ [.polled (.ready (.ok ()))] := by
    simp [hwaiting.not_mem_called]
  rw [List.append_cons] at hsplit
  obtain ⟨hfront, _, _⟩ := (List.append_cons_inj_of_notMem hnot List.not_mem_nil).1 hsplit
  exact ⟨polls, hfront.symm⟩

theorem Served.not_mem_error (h : Served log) :
    Seen.polled (.ready (.error error)) ∉ log := by
  obtain ⟨polls, hwaiting, rfl⟩ := h
  simp [hwaiting.not_mem_error]

theorem Failed.not_mem_called (h : Failed log error) :
    Seen.called ∉ log := by
  obtain ⟨polls, hwaiting, rfl⟩ := h
  simp [hwaiting.not_mem_called]

theorem Failed.error_eq {other : ε} (h : Failed log error)
    (hmem : Seen.polled (.ready (.error other)) ∈ log) : other = error := by
  obtain ⟨polls, hwaiting, rfl⟩ := h
  simpa [hwaiting.not_mem_error] using hmem

/-! ## A request that is driven through an observed service -/

/-- What the log of the instance shows at each point of a request. -/
def Oneshot.Logged : Oneshot (σ × List (Seen ε)) (φ × List (Seen ε)) Req Resp ε → Prop
  | .notReady (_, log) _ => Waiting log
  | .called (_, log) | .answered (_, log) _ => Served log
  | .unready (_, log) error => Failed log error

variable {oneshot : Oneshot (σ × List (Seen ε)) (φ × List (Seen ε)) Req Resp ε}

theorem Oneshot.Logged.turn {service : Service σ φ Req Resp ε} (h : oneshot.Logged) :
    (Oneshot.turn service.observed oneshot).Logged := by
  cases oneshot with
  | notReady held request =>
    obtain ⟨state, log⟩ := held
    unfold Oneshot.turn Service.observed
    dsimp only
    cases (service.pollReady state).1 with
    | pending => exact Waiting.append h
    | ready value =>
      cases value with
      | error error => exact ⟨log, h, rfl⟩
      | ok value => exact ⟨log, h, List.append_assoc _ _ _⟩
  | called held =>
    obtain ⟨future, log⟩ := held
    unfold Oneshot.turn Service.observed
    dsimp only
    cases (service.pollFuture future).1 <;> exact h
  | unready state error => exact h
  | answered future result => exact h

theorem Oneshot.Logged.ready_first (h : oneshot.Logged) :
    ReadyFirst (oneshot.seen Prod.snd Prod.snd) := by
  cases oneshot with
  | notReady state request => exact ready_first_of_not_mem (Waiting.not_mem_called h)
  | called future => exact Served.ready_first h
  | unready state error => exact ready_first_of_not_mem (Failed.not_mem_called h)
  | answered future result => exact Served.ready_first h

theorem Oneshot.Logged.result_of_error (h : oneshot.Logged) (hmem : Seen.polled (.ready (.error error)) ∈ oneshot.seen Prod.snd Prod.snd) :
    oneshot.result = some (.error error) := by
  cases oneshot with
  | notReady state request => exact absurd hmem (Waiting.not_mem_error h)
  | called future => exact absurd hmem (Served.not_mem_error h)
  | unready state other => rw [Failed.error_eq h hmem]; rfl
  | answered future result => exact absurd hmem (Served.not_mem_error h)
