import TowerMcp.Client.Lifecycle

/-!
# The version an initialized client has accepted

The first handshake checks the version the server selected; the one of a recovery does not. A
recovery also clears what the server said after it has lowered the flag, and a first handshake may
raise the flag meanwhile.
-/

namespace TowerMcp

open Execution

namespace McpClient

def StoresAccepted (client : McpClient) : Prop :=
  ∃ info, client.serverInfo = some info ∧
    acceptsInitializeAnswer client.protocolSupport info.protocolVersion = true

def Accepted (world : World) : Prop :=
  world.client.initialized = true → world.client.StoresAccepted

/-- The condition on a call that goes on: a recovery clears or stores an answer while the flag is
down, unless the answer it stores is accepted, and a handshake that raises the flag finds an accepted
answer, which no recovery has cleared or overwritten since. -/
def Call.KeepsAccepted (client : McpClient) (reply : Reply) : Call → Prop
  | .clearing _ => client.initialized = false
  | .answered (.again _) result =>
    client.initialized = true →
      acceptsInitializeAnswer client.protocolSupport result.protocolVersion = true
  | .notifying _ _ => reply.delivered = true → client.StoresAccepted
  | _ => True

def KeepsAccepted (world : World) : Event → Prop
  | .resume ticket reply =>
    ∀ call, world.calls.get ticket = some call → call.KeepsAccepted world.client reply
  | _ => True

/-! ## What holds in every run -/

def Call.Checked (support : List String) : Call → Prop
  | .answered (.first ..) result => acceptsInitializeAnswer support result.protocolVersion = true
  | _ => True

def Checked (world : World) : Prop :=
  world.calls.Holds (Call.Checked world.client.protocolSupport)

variable {world next : World} {ticket : ℕ} {call : Call} {reply : Reply} {support : List String}

theorem Call.Checked.expired (h : call.Checked support) (client : McpClient) :
    (World.expired client call).Checked support := by
  cases call with
  | pending retried sentOn =>
    cases retried with
    | none =>
      unfold World.expired
      dsimp only
      split
      next => trivial
      next => trivial
    | some failedOn => trivial
  | awaiting purpose =>
    unfold World.expired World.failedHandshake
    dsimp only
    split
    next => trivial
    next => trivial
  | _ => exact h

theorem checked_failed_handshake (purpose : Purpose) :
    (World.failedHandshake purpose).Checked support := by
  unfold World.failedHandshake
  split
  next => trivial
  next => trivial

theorem checked_resume (h : Checked world) (hget : world.calls.get ticket = some call)
    (hresume : world.resumeCall ticket reply call = some next) : Checked next := by
  cases call with
  | request retried => cases hresume; exact Pool.Holds.become h trivial
  | pending retried sentOn =>
    cases hresume
    unfold World.answerRequest
    split
    next =>
      have hpending : (Call.pending retried sentOn).Checked world.client.protocolSupport := trivial
      exact Pool.Holds.become h (hpending.expired world.client)
    next => exact Pool.Holds.finish h
  | contending failedOn =>
    unfold World.resumeCall at hresume
    dsimp only at hresume
    split at hresume
    next => cases hresume; exact Pool.Holds.become h trivial
    next => cases hresume
  | reading failedOn =>
    unfold World.resumeCall at hresume
    dsimp only at hresume
    split at hresume
    next => cases hresume; exact Pool.Holds.become h trivial
    next => cases hresume; exact Pool.Holds.finish h
  | resetting failedOn =>
    cases hresume
    exact (Pool.Holds.map h fun _ hcall => hcall.expired world.client).become trivial
  | wasReset failedOn => cases hresume; exact Pool.Holds.become h trivial
  | clearing failedOn => cases hresume; exact Pool.Holds.become h trivial
  | strayReset failedOn =>
    cases hresume
    exact (Pool.Holds.map h fun _ hcall => hcall.expired world.client).finish
  | greeting purpose => cases hresume; exact Pool.Holds.become h trivial
  | awaiting purpose =>
    cases hresume
    unfold World.answerInitialize
    split
    next =>
      split
      next haccepts => exact Pool.Holds.become h haccepts
      next => exact Pool.Holds.become h (checked_failed_handshake _)
    next => exact Pool.Holds.become h trivial
    next => exact Pool.Holds.become h (checked_failed_handshake _)
  | answered purpose result =>
    cases hresume
    cases purpose with
    | first wasInitialized name version => exact Pool.Holds.become h trivial
    | again failedOn => exact Pool.Holds.become h trivial
  | recording wasInitialized name version result =>
    cases hresume
    exact Pool.Holds.become h trivial
  | notifying purpose result =>
    cases hresume
    unfold World.notified
    split
    next =>
      cases purpose with
      | first wasInitialized name version => exact Pool.Holds.finish h
      | again failedOn => exact Pool.Holds.become h trivial
    next => exact Pool.Holds.become h (checked_failed_handshake _)
  | ending purpose => cases hresume; exact Pool.Holds.finish h
  | returned => cases hresume

variable {event : Event}

theorem checked_step (h : Checked world) (hstep : step world event = some next) :
    Checked next := by
  cases event with
  | sendRequest => cases hstep; exact Pool.Holds.start h trivial
  | beginInitialize name version => cases hstep; exact Pool.Holds.start h trivial
  | expire =>
    cases hstep
    exact Pool.Holds.map h fun _ hcall => hcall.expired world.client
  | resume ticket reply =>
    obtain ⟨call, hget, hresume⟩ := Option.bind_eq_some_iff.1 hstep
    exact checked_resume h hget hresume
  | abandon ticket =>
    obtain ⟨call, hget, heq⟩ := Option.bind_eq_some_iff.1 hstep
    cases heq
    unfold World.abandonCall
    split
    next => exact (Pool.Holds.finish h).become trivial
    next => exact h
    next => exact Pool.Holds.finish h

theorem checked_connected (protocolSupport : List String) (supportsSessionRecovery : Bool) :
    Checked (connected protocolSupport supportsSessionRecovery) :=
  Pool.holds_empty

theorem accepted_connected (protocolSupport : List String) (supportsSessionRecovery : Bool) :
    Accepted (connected protocolSupport supportsSessionRecovery) := by
  intro hinitialized
  cases hinitialized

/-! ## What one event keeps -/

theorem accepted_resume_iff (hchecked : Checked world) (h : Accepted world)
    (hget : world.calls.get ticket = some call)
    (hresume : world.resumeCall ticket reply call = some next) :
    Accepted next ↔ call.KeepsAccepted world.client reply := by
  cases call with
  | request retried => cases hresume; exact iff_of_true h trivial
  | pending retried sentOn =>
    cases hresume
    unfold World.answerRequest
    split
    next => exact iff_of_true h trivial
    next => exact iff_of_true h trivial
  | contending failedOn =>
    unfold World.resumeCall at hresume
    dsimp only at hresume
    split at hresume
    next => cases hresume; exact iff_of_true h trivial
    next => cases hresume
  | reading failedOn =>
    unfold World.resumeCall at hresume
    dsimp only at hresume
    split at hresume
    next => cases hresume; exact iff_of_true h trivial
    next => cases hresume; exact iff_of_true h trivial
  | resetting failedOn => cases hresume; exact iff_of_true h trivial
  | wasReset failedOn => cases hresume; exact iff_of_true nofun trivial
  | clearing failedOn =>
    cases hresume
    change (world.client.initialized = true → ∃ info, none = some info ∧ _) ↔
      world.client.initialized = false
    rw [← Bool.not_eq_true]
    refine imp_congr_right fun _ => iff_of_false ?_ id
    rintro ⟨info, hinfo, _⟩
    cases hinfo
  | strayReset failedOn => cases hresume; exact iff_of_true h trivial
  | greeting purpose => cases hresume; exact iff_of_true h trivial
  | awaiting purpose =>
    cases hresume
    unfold World.answerInitialize
    split
    next =>
      split
      next => exact iff_of_true h trivial
      next => exact iff_of_true h trivial
    next => exact iff_of_true h trivial
    next => exact iff_of_true h trivial
  | answered purpose result =>
    cases hresume
    cases purpose with
    | first wasInitialized name version =>
      exact iff_of_true (fun _ => ⟨result, rfl, hchecked.of_get hget⟩) trivial
    | again failedOn =>
      refine imp_congr_right fun _ => ⟨?_, fun haccepts => ⟨result, rfl, haccepts⟩⟩
      rintro ⟨info, hinfo, haccepts⟩
      cases hinfo
      exact haccepts
  | recording wasInitialized name version result => cases hresume; exact iff_of_true h trivial
  | notifying purpose result =>
    cases hresume
    unfold World.notified Call.KeepsAccepted
    split
    next hdelivered =>
      rw [forall_prop_of_true hdelivered]
      cases purpose with
      | first wasInitialized name version => exact forall_prop_of_true rfl
      | again failedOn => exact forall_prop_of_true rfl
    next hdelivered => exact iff_of_true h fun hraised => absurd hraised hdelivered
  | ending purpose => cases hresume; exact iff_of_true h trivial
  | returned => cases hresume

theorem accepted_step_iff (hchecked : Checked world) (h : Accepted world)
    (hstep : step world event = some next) : Accepted next ↔ KeepsAccepted world event := by
  cases event with
  | sendRequest => cases hstep; exact iff_of_true h trivial
  | beginInitialize name version => cases hstep; exact iff_of_true h trivial
  | expire => cases hstep; exact iff_of_true h trivial
  | resume ticket reply =>
    obtain ⟨call, hget, hresume⟩ := Option.bind_eq_some_iff.1 hstep
    rw [accepted_resume_iff hchecked h hget hresume]
    unfold KeepsAccepted
    simp only [hget, Option.some.injEq, forall_eq']
  | abandon ticket =>
    obtain ⟨call, hget, heq⟩ := Option.bind_eq_some_iff.1 hstep
    cases heq
    unfold World.abandonCall
    split
    next => exact iff_of_true h trivial
    next => exact iff_of_true h trivial
    next => exact iff_of_true h trivial

theorem keeps_accepted_of_refused (h : step world event = none) :
    KeepsAccepted world event := by
  cases event with
  | resume ticket reply =>
    intro call hget
    cases call with
    | clearing failedOn => simp [step, hget, World.resumeCall] at h
    | answered purpose result => simp [step, hget, World.resumeCall] at h
    | notifying purpose result => simp [step, hget, World.resumeCall] at h
    | _ => trivial
  | _ => trivial

/-- Over every run of requests, expiries, recoveries and handshakes, a client that is initialized
stores an accepted answer exactly when recoveries store and clear answers while the flag is down and
the flag is raised over an accepted answer. -/
theorem accepted_iff (protocolSupport : List String) (supportsSessionRecovery : Bool)
    (events : List Event) :
    Throughout step Accepted (connected protocolSupport supportsSessionRecovery) events ↔
      Along step KeepsAccepted (connected protocolSupport supportsSessionRecovery)
        events :=
  throughout_iff_along (fun _ _ _ hchecked hstep => checked_step hchecked hstep)
    (fun _ _ _ hchecked h hstep => accepted_step_iff hchecked h hstep)
    (fun _ _ => keeps_accepted_of_refused) (checked_connected protocolSupport _)
    (accepted_connected protocolSupport _) events

/-- A session that expires after a first handshake, and a server that answers the second one with a
version the client does not support. -/
def changedAnswerEvents : List Event :=
  [.beginInitialize "client" "1", .resume 0 {},
    .resume 0 { answer := .value { protocolVersion := "2025-11-25" } }, .resume 0 {}, .resume 0 {},
    .resume 0 {}, .sendRequest, .resume 1 {}, .expire, .resume 1 {}, .resume 1 {}, .resume 1 {},
    .resume 1 {}, .resume 1 {}, .resume 1 {},
    .resume 1 { answer := .value { protocolVersion := "1999-01-01" } }, .resume 1 {}, .resume 1 {}]

/-- A recovery completes with a version the client does not support. -/
theorem recovery_accepts_any_version :
    ¬∀ (protocolSupport : List String) (supportsSessionRecovery : Bool) (events : List Event),
      Throughout step Accepted (connected protocolSupport supportsSessionRecovery)
        events := by
  intro h
  have hall := h ["2025-11-25"] true changedAnswerEvents
  obtain ⟨final, hrun⟩ := Option.isSome_iff_exists.1 (show (run step
    (connected ["2025-11-25"] true) changedAnswerEvents).isSome = true from rfl)
  have haccepted := hall.last hrun
  cases hrun
  obtain ⟨info, hinfo, haccepts⟩ := haccepted rfl
  cases hinfo
  exact absurd haccepts (by decide)

end McpClient

end TowerMcp
