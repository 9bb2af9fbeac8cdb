import TowerMcp.Client.Lifecycle

/-!
# Recoveries of an expired session

Every request that fails on an expired session recovers it, one after another, and the second of
them resets the session the first one has just established.
-/

namespace TowerMcp

open Execution Pool

namespace McpClient

def Call.retried : Call → Option ℕ
  | .request retried => retried
  | .pending retried _ => retried
  | _ => none

def Call.sessions : Call → List ℕ
  | .pending _ sentOn => [sentOn]
  | .contending failedOn | .reading failedOn | .resetting failedOn | .wasReset failedOn
  | .clearing failedOn | .strayReset failedOn => [failedOn]
  | .greeting (.again failedOn) | .awaiting (.again failedOn) | .answered (.again failedOn) _
  | .notifying (.again failedOn) _ | .ending (.again failedOn) => [failedOn]
  | _ => []

def Call.recovering : Call → Option ℕ
  | .wasReset failedOn | .clearing failedOn | .greeting (.again failedOn)
  | .awaiting (.again failedOn) | .answered (.again failedOn) _ | .notifying (.again failedOn) _ =>
    some failedOn
  | _ => none

/-- Each expiry is recovered once: no session is recovered twice, none is reset after its recovery,
no reset fails a request sent on a later session than the one that expired, and a request is sent
again only after the recovery of the session it failed on. -/
structure RecoversOnce (world : World) : Prop where
  once : world.completed.Nodup
  current : ∀ reset ∈ world.resets, reset.failedOn ∉ reset.completed
  spares : ∀ reset ∈ world.resets, ∀ sentOn ∈ reset.failing, sentOn ≤ reset.failedOn
  retried : world.calls.Holds fun call =>
    ∀ failedOn, call.retried = some failedOn → failedOn ∈ world.completed

/-- The condition on an event: a reset is done for the current session. The one its caller's request
failed on has not been recovered while the caller waited for the lock. -/
def ResetsCurrent (world : World) : Event → Prop
  | .resume ticket _ =>
    ∀ failedOn, world.calls.get ticket = some (.resetting failedOn) ∨
      world.calls.get ticket = some (.strayReset failedOn) → failedOn = world.recovered
  | _ => True

/-! ## What holds in every run -/

def Call.Tracked (completed : List ℕ) (call : Call) : Prop :=
  (∀ session ∈ call.sessions, session ≤ completed.length) ∧
    ∀ failedOn, call.retried = some failedOn → failedOn ∈ completed

def Locked (lock : Option ℕ) (calls : Pool Call) : Prop :=
  ∀ ticket call, calls.get ticket = some call → call.holdsLock = true → lock = some ticket

variable {world next : World} {ticket : ℕ} {call moved : Call} {lock : Option ℕ} {calls : Pool Call}
  {completed : List ℕ}

theorem Call.Tracked.cons (h : call.Tracked completed) (failedOn : ℕ) :
    call.Tracked (failedOn :: completed) := by
  refine ⟨fun session hsession => ?_, fun retried hretried => ?_⟩
  · exact (h.1 session hsession).trans (Nat.le_succ _)
  · exact List.mem_cons_of_mem _ (h.2 retried hretried)

theorem Call.tracked_of_nil (hsessions : call.sessions = []) (hretried : call.retried = none) :
    call.Tracked completed := by
  refine ⟨fun session hsession => ?_, fun failedOn hfailed => ?_⟩
  · rw [hsessions] at hsession
    exact absurd hsession List.not_mem_nil
  · cases hretried.symm.trans hfailed

theorem Call.Tracked.of_sessions (h : call.Tracked completed) (hretried : moved.retried = none)
    (hsessions : moved.sessions ⊆ call.sessions) : moved.Tracked completed := by
  refine ⟨fun session hsession => h.1 session (hsessions hsession), fun failedOn hfailed => ?_⟩
  cases hretried.symm.trans hfailed

theorem Call.Tracked.expired (h : call.Tracked completed) (client : McpClient) :
    (World.expired client call).Tracked completed := by
  cases call with
  | pending retried sentOn =>
    cases retried with
    | none =>
      unfold World.expired
      dsimp only
      split
      next => exact h.of_sessions rfl (List.Subset.refl _)
      next => exact tracked_of_nil rfl rfl
    | some failedOn => exact tracked_of_nil rfl rfl
  | awaiting purpose =>
    cases purpose with
    | first wasInitialized name version =>
      cases wasInitialized with
      | true => exact tracked_of_nil rfl rfl
      | false => exact tracked_of_nil rfl rfl
    | again failedOn => exact h.of_sessions rfl (List.Subset.refl _)
  | _ => exact h

theorem holds_lock_of_expired {client : McpClient}
    (h : (World.expired client call).holdsLock = true) : call.holdsLock = true := by
  cases call with
  | pending retried sentOn =>
    cases retried with
    | none =>
      unfold World.expired at h
      dsimp only at h
      split at h
      next => cases h
      next => cases h
    | some failedOn => cases h
  | awaiting purpose =>
    cases purpose with
    | first wasInitialized name version =>
      cases wasInitialized with
      | true => cases h
      | false => cases h
    | again failedOn => rfl
  | _ => exact h

theorem Locked.become (h : Locked lock calls)
    (hmoved : moved.holdsLock = true → lock = some ticket) :
    Locked lock (calls.become ticket moved) := by
  intro other held hget hholds
  rw [get_become_eq_ite] at hget
  split at hget
  next hother =>
    cases hget
    rw [hother]
    exact hmoved hholds
  next => exact h other held hget hholds

theorem Locked.start (h : Locked lock calls) (hcall : call.holdsLock = false) :
    Locked lock (calls.start call) := by
  intro other held hget hholds
  rw [get_start_eq_ite] at hget
  split at hget
  next =>
    cases hget
    cases hcall.symm.trans hholds
  next => exact h other held hget hholds

theorem Locked.expired (h : Locked lock calls) (client : McpClient) :
    Locked lock (calls.map (World.expired client)) := by
  intro ticket held hget hholds
  rw [get_map] at hget
  obtain ⟨call, hcall, rfl⟩ := Option.map_eq_some_iff.1 hget
  exact h ticket call hcall (holds_lock_of_expired hholds)

theorem Locked.release (h : Locked lock calls) (hget : calls.get ticket = some call)
    (hholds : call.holdsLock = true) {after : Pool Call}
    (hafter : ∀ other held, after.get other = some held → held.holdsLock = true →
      other ≠ ticket ∧ calls.get other = some held) :
    Locked none after := by
  intro other held hother hheld
  obtain ⟨hne, hbefore⟩ := hafter other held hother hheld
  have hfirst := h ticket call hget hholds
  have hsecond := h other held hbefore hheld
  exact absurd (Option.some.inj (hsecond.symm.trans hfirst)) hne

theorem Locked.finish (h : Locked lock calls) (hget : calls.get ticket = some call) :
    Locked (if call.holdsLock then none else lock) (calls.finish ticket) := by
  have hafter : ∀ other held, (calls.finish ticket).get other = some held →
      other ≠ ticket ∧ calls.get other = some held := by
    intro other held hother
    rw [get_finish_eq_ite] at hother
    obtain ⟨hne, hbefore⟩ := Option.ite_none_left_eq_some.1 hother
    exact ⟨hne, hbefore⟩
  split
  next hholds => exact h.release hget hholds fun other held hother _ => hafter other held hother
  next => exact fun other held hother hheld => h other held (hafter other held hother).2 hheld

structure Consistent (world : World) : Prop where
  tracked : world.calls.Holds (Call.Tracked world.completed)
  locked : Locked world.client.recoveryLock world.calls

theorem Consistent.become (h : Consistent world) (htracked : moved.Tracked world.completed)
    (hlock : moved.holdsLock = true → world.client.recoveryLock = some ticket) :
    Consistent (world.become ticket moved) :=
  ⟨h.tracked.become htracked, h.locked.become hlock⟩

theorem Consistent.finish (h : Consistent world) (hget : world.calls.get ticket = some call) :
    Consistent (world.finish ticket call) :=
  ⟨h.tracked.finish, h.locked.finish hget⟩

theorem Consistent.expireAll (h : Consistent world) : Consistent world.expireAll :=
  ⟨h.tracked.map fun _ htracked => htracked.expired world.client, h.locked.expired world.client⟩

theorem Consistent.resetSession (h : Consistent world) (failedOn : ℕ) :
    Consistent (world.resetSession failedOn) :=
  ⟨h.expireAll.tracked, h.expireAll.locked⟩

theorem Consistent.failed_handshake (h : Consistent world) {purpose : Purpose}
    (hget : world.calls.get ticket = some call) (htracked : call.Tracked world.completed)
    (hsessions : (Call.ending purpose).sessions ⊆ call.sessions)
    (hholds : (Call.ending purpose).holdsLock = true → call.holdsLock = true) :
    Consistent (world.become ticket (World.failedHandshake purpose)) := by
  unfold World.failedHandshake
  split
  next => exact h.become (Call.tracked_of_nil rfl rfl) nofun
  next =>
    refine h.become (htracked.of_sessions rfl hsessions) fun hending => ?_
    exact h.locked ticket call hget (hholds hending)

theorem get_expire_all (hget : world.calls.get ticket = some call) :
    world.expireAll.calls.get ticket = some (World.expired world.client call) := by
  unfold World.expireAll
  rw [get_map, hget]
  rfl

variable {reply : Reply}

theorem consistent_resume (h : Consistent world) (hget : world.calls.get ticket = some call)
    (hresume : world.resumeCall ticket reply call = some next) : Consistent next := by
  have htracked := h.tracked.of_get hget
  have hlock := h.locked ticket call hget
  cases call with
  | request retried =>
    cases hresume
    refine h.become ⟨?_, htracked.2⟩ nofun
    intro session hsession
    exact (List.mem_singleton.1 hsession).le
  | pending retried sentOn =>
    cases hresume
    unfold World.answerRequest
    split
    next => exact h.become (htracked.expired world.client) fun hholds =>
        absurd (holds_lock_of_expired hholds) Bool.false_ne_true
    next => exact h.finish hget
  | contending failedOn =>
    unfold World.resumeCall at hresume
    dsimp only at hresume
    split at hresume
    next hfree =>
      cases hresume
      refine ⟨h.tracked.become (htracked.of_sessions rfl (List.Subset.refl _)), ?_⟩
      intro other held hother hheld
      change (world.calls.become ticket (.reading failedOn)).get other = some held at hother
      rw [get_become_eq_ite] at hother
      split at hother
      next hsame => exact congrArg some hsame.symm
      next => cases hfree.symm.trans (h.locked other held hother hheld)
    next => cases hresume
  | reading failedOn =>
    unfold World.resumeCall at hresume
    dsimp only at hresume
    split at hresume
    next =>
      cases hresume
      exact h.become (htracked.of_sessions rfl (List.Subset.refl _)) fun _ => hlock rfl
    next =>
      cases hresume
      exact h.finish hget
  | resetting failedOn =>
    cases hresume
    exact (h.resetSession failedOn).become (htracked.of_sessions rfl (List.Subset.refl _))
      fun _ => hlock rfl
  | wasReset failedOn =>
    cases hresume
    exact ⟨h.tracked.become (htracked.of_sessions rfl (List.Subset.refl _)),
      h.locked.become fun _ => hlock rfl⟩
  | clearing failedOn =>
    cases hresume
    exact ⟨h.tracked.become (htracked.of_sessions rfl (List.Subset.refl _)),
      h.locked.become fun _ => hlock rfl⟩
  | strayReset failedOn =>
    cases hresume
    exact (h.resetSession failedOn).finish (get_expire_all hget)
  | greeting purpose =>
    cases hresume
    cases purpose with
    | first wasInitialized name version => exact h.become (Call.tracked_of_nil rfl rfl) nofun
    | again failedOn =>
      exact h.become (htracked.of_sessions rfl (List.Subset.refl _)) fun _ => hlock rfl
  | awaiting purpose =>
    cases hresume
    have hsessions : (Call.ending purpose).sessions ⊆ (Call.awaiting purpose).sessions := by
      cases purpose <;> exact List.Subset.refl _
    have hholds : (Call.ending purpose).holdsLock = (Call.awaiting purpose).holdsLock := by
      cases purpose <;> rfl
    unfold World.answerInitialize
    split
    next =>
      split
      next => exact h.become (Call.tracked_of_nil rfl rfl) nofun
      next => exact h.failed_handshake hget htracked hsessions hholds.symm.trans
    next => exact h.become (htracked.of_sessions rfl (List.Subset.refl _)) fun _ => hlock rfl
    next => exact h.failed_handshake hget htracked hsessions hholds.symm.trans
  | answered purpose result =>
    cases hresume
    cases purpose with
    | first wasInitialized name version =>
      exact ⟨h.tracked.become (Call.tracked_of_nil rfl rfl), h.locked.become nofun⟩
    | again failedOn =>
      exact ⟨h.tracked.become (htracked.of_sessions rfl (List.Subset.refl _)),
        h.locked.become fun _ => hlock rfl⟩
  | recording wasInitialized name version result =>
    cases hresume
    exact ⟨h.tracked.become (Call.tracked_of_nil rfl rfl), h.locked.become nofun⟩
  | notifying purpose result =>
    cases hresume
    unfold World.notified
    split
    next =>
      cases purpose with
      | first wasInitialized name version => exact ⟨h.tracked.finish, h.locked.finish hget⟩
      | again failedOn =>
        refine ⟨?_, h.locked.release hget rfl fun other held hother hheld => ?_⟩
        · refine (h.tracked.mono fun _ hcall => hcall.cons failedOn).become ⟨nofun, ?_⟩
          intro retried hretried
          cases hretried
          exact List.mem_cons_self
        · change (world.calls.become ticket (.request (some failedOn))).get other =
            some held at hother
          rw [get_become_eq_ite] at hother
          split at hother
          next =>
            cases hother
            cases hheld
          next hne => exact ⟨hne, hother⟩
    next =>
      have hsessions : (Call.ending purpose).sessions ⊆ (Call.notifying purpose result).sessions := by
        cases purpose <;> exact List.Subset.refl _
      have hholds : (Call.ending purpose).holdsLock = (Call.notifying purpose result).holdsLock := by
        cases purpose <;> rfl
      exact h.failed_handshake hget htracked hsessions hholds.symm.trans
  | ending purpose =>
    cases hresume
    exact h.finish hget
  | returned => cases hresume

theorem consistent_abandon (h : Consistent world) (hget : world.calls.get ticket = some call) :
    Consistent (world.abandonCall ticket call) := by
  unfold World.abandonCall
  split
  next failedOn =>
    refine (h.finish hget).become ?_ nofun
    exact (h.tracked.of_get hget).of_sessions rfl (List.Subset.refl _)
  next => exact h
  next => exact h.finish hget

variable {event : Event}

theorem consistent_step (h : Consistent world) (hstep : step world event = some next) :
    Consistent next := by
  cases event with
  | sendRequest =>
    cases hstep
    exact ⟨h.tracked.start (Call.tracked_of_nil rfl rfl), h.locked.start rfl⟩
  | beginInitialize name version =>
    cases hstep
    exact ⟨h.tracked.start (Call.tracked_of_nil rfl rfl), h.locked.start rfl⟩
  | expire =>
    cases hstep
    exact h.expireAll
  | resume ticket reply =>
    obtain ⟨call, hget, hresume⟩ := Option.bind_eq_some_iff.1 hstep
    exact consistent_resume h hget hresume
  | abandon ticket =>
    obtain ⟨call, hget, heq⟩ := Option.bind_eq_some_iff.1 hstep
    cases heq
    exact consistent_abandon h hget

/-! ## What holds while each expiry is recovered once -/

/-- The recoveries completed are those of the sessions before the current one, and a call that has
reset a session and not yet recovered it has reset the current one. -/
structure Numbered (world : World) : Prop where
  completed : ∀ session, session ∈ world.completed ↔ session < world.recovered
  recovering : world.calls.Holds fun call =>
    ∀ failedOn, call.recovering = some failedOn → failedOn = world.recovered

structure HistoryOnce (world : World) : Prop where
  once : world.completed.Nodup
  current : ∀ reset ∈ world.resets, reset.failedOn ∉ reset.completed
  spares : ∀ reset ∈ world.resets, ∀ sentOn ∈ reset.failing, sentOn ≤ reset.failedOn

theorem recovers_once_iff_history (h : Consistent world) : RecoversOnce world ↔ HistoryOnce world :=
  ⟨fun honce => ⟨honce.once, honce.current, honce.spares⟩, fun honce =>
    ⟨honce.once, honce.current, honce.spares, h.tracked.mono fun _ htracked => htracked.2⟩⟩

def resetEntry (world : World) (failedOn : ℕ) : Reset :=
  { failedOn
    completed := world.completed
    failing := world.calls.calls.values.filterMap Call.sentOn }

def Call.resets : Call → Option ℕ
  | .resetting failedOn | .strayReset failedOn => some failedOn
  | _ => none

/-- What a call that goes on adds to the history: a reset, a recovery that is completed, or nothing. -/
inductive Adds (world next : World) (call : Call) : Prop
  | reset (failedOn : ℕ) (hcall : call.resets = some failedOn)
      (hcompleted : next.completed = world.completed)
      (hresets : next.resets = resetEntry world failedOn :: world.resets)
  | recovery (failedOn : ℕ) (hcall : call.resets = none)
      (hrecovering : call.recovering = some failedOn)
      (hcompleted : next.completed = failedOn :: world.completed)
      (hresets : next.resets = world.resets)
  | nothing (hcall : call.resets = none) (hcompleted : next.completed = world.completed)
      (hresets : next.resets = world.resets)

theorem adds_resume (h : world.resumeCall ticket reply call = some next) :
    Adds world next call := by
  cases call with
  | request retried => cases h; exact .nothing rfl rfl rfl
  | pending retried sentOn =>
    cases h
    unfold World.answerRequest
    split <;> exact .nothing rfl rfl rfl
  | contending failedOn =>
    unfold World.resumeCall at h
    dsimp only at h
    split at h
    next => cases h; exact .nothing rfl rfl rfl
    next => cases h
  | reading failedOn =>
    unfold World.resumeCall at h
    dsimp only at h
    split at h
    next => cases h; exact .nothing rfl rfl rfl
    next => cases h; exact .nothing rfl rfl rfl
  | resetting failedOn => cases h; exact .reset failedOn rfl rfl rfl
  | wasReset failedOn => cases h; exact .nothing rfl rfl rfl
  | clearing failedOn => cases h; exact .nothing rfl rfl rfl
  | strayReset failedOn => cases h; exact .reset failedOn rfl rfl rfl
  | greeting purpose => cases h; exact .nothing rfl rfl rfl
  | awaiting purpose =>
    cases h
    unfold World.answerInitialize
    split
    next => split <;> exact .nothing rfl rfl rfl
    next => exact .nothing rfl rfl rfl
    next => exact .nothing rfl rfl rfl
  | answered purpose result => cases h; exact .nothing rfl rfl rfl
  | recording wasInitialized name version result => cases h; exact .nothing rfl rfl rfl
  | notifying purpose result =>
    cases h
    unfold World.notified
    split
    next =>
      cases purpose with
      | first wasInitialized name version => exact .nothing rfl rfl rfl
      | again failedOn => exact .recovery failedOn rfl rfl rfl rfl
    next => exact .nothing rfl rfl rfl
  | ending purpose => cases h; exact .nothing rfl rfl rfl
  | returned => cases h

theorem history_abandon (world : World) (ticket : ℕ) (call : Call) :
    (world.abandonCall ticket call).completed = world.completed ∧
      (world.abandonCall ticket call).resets = world.resets := by
  unfold World.abandonCall
  split
  next => exact ⟨rfl, rfl⟩
  next => exact ⟨rfl, rfl⟩
  next => exact ⟨rfl, rfl⟩

theorem history_once_of_step (hstep : step world event = some next) (h : HistoryOnce next) :
    HistoryOnce world := by
  cases event with
  | sendRequest => cases hstep; exact ⟨h.once, h.current, h.spares⟩
  | beginInitialize name version => cases hstep; exact ⟨h.once, h.current, h.spares⟩
  | expire => cases hstep; exact ⟨h.once, h.current, h.spares⟩
  | resume ticket reply =>
    obtain ⟨call, hget, hresume⟩ := Option.bind_eq_some_iff.1 hstep
    obtain ⟨honce, hcurrent, hspares⟩ := h
    cases adds_resume hresume with
    | reset failedOn hcall hcompleted hresets =>
      rw [hcompleted] at honce
      rw [hresets] at hcurrent hspares
      exact ⟨honce, (List.forall_mem_cons.1 hcurrent).2, (List.forall_mem_cons.1 hspares).2⟩
    | recovery failedOn hcall hrecovering hcompleted hresets =>
      rw [hcompleted] at honce
      rw [hresets] at hcurrent hspares
      exact ⟨(List.nodup_cons.1 honce).2, hcurrent, hspares⟩
    | nothing hcall hcompleted hresets =>
      rw [hcompleted] at honce
      rw [hresets] at hcurrent hspares
      exact ⟨honce, hcurrent, hspares⟩
  | abandon ticket =>
    obtain ⟨call, hget, heq⟩ := Option.bind_eq_some_iff.1 hstep
    cases heq
    obtain ⟨hcompleted, hresets⟩ := history_abandon world ticket call
    obtain ⟨honce, hcurrent, hspares⟩ := h
    rw [hcompleted] at honce
    rw [hresets] at hcurrent hspares
    exact ⟨honce, hcurrent, hspares⟩

variable {failedOn : ℕ}

theorem history_reset_iff (hconsistent : Consistent world) (hnumbered : Numbered world)
    (h : HistoryOnce world) (hget : world.calls.get ticket = some call)
    (hcall : call.resets = some failedOn) (hcompleted : next.completed = world.completed)
    (hresets : next.resets = resetEntry world failedOn :: world.resets) :
    HistoryOnce next ↔ failedOn = world.recovered := by
  have hle : failedOn ≤ world.recovered := by
    refine (hconsistent.tracked.of_get hget).1 failedOn ?_
    cases call with
    | resetting other => cases hcall; exact List.mem_singleton_self _
    | strayReset other => cases hcall; exact List.mem_singleton_self _
    | _ => cases hcall
  constructor
  · rintro ⟨_, hcurrent, _⟩
    rw [hresets] at hcurrent
    have hnew := (List.forall_mem_cons.1 hcurrent).1
    have hge := not_lt.1 fun hlt => hnew ((hnumbered.completed failedOn).2 hlt)
    exact le_antisymm hle hge
  · intro hsame
    refine ⟨hcompleted ▸ h.once, ?_, ?_⟩
    · rw [hresets]
      refine List.forall_mem_cons.2 ⟨fun hmem => ?_, h.current⟩
      exact absurd ((hnumbered.completed failedOn).1 hmem) (hsame ▸ lt_irrefl _)
    · rw [hresets]
      refine List.forall_mem_cons.2 ⟨fun sentOn hmem => ?_, h.spares⟩
      obtain ⟨pending, hpending, hsent⟩ := List.mem_filterMap.1 hmem
      obtain ⟨other, hother⟩ := FinMap.exists_lookup_of_mem_values hpending
      change sentOn ≤ failedOn
      rw [hsame]
      refine (hconsistent.tracked.of_get hother).1 sentOn ?_
      cases pending with
      | pending retried sent => cases hsent; exact List.mem_singleton_self _
      | _ => cases hsent

theorem holds_lock_of_recovering (h : call.recovering = some failedOn) : call.holdsLock = true := by
  cases call with
  | wasReset failedOn => rfl
  | clearing failedOn => rfl
  | greeting purpose => cases purpose <;> first | rfl | cases h
  | awaiting purpose => cases purpose <;> first | rfl | cases h
  | answered purpose result => cases purpose <;> first | rfl | cases h
  | notifying purpose result => cases purpose <;> first | rfl | cases h
  | _ => cases h

theorem recovering_of_expired {client : McpClient}
    (h : (World.expired client call).recovering = some failedOn) :
    call.recovering = some failedOn := by
  cases call with
  | pending retried sentOn =>
    cases retried with
    | none =>
      unfold World.expired at h
      dsimp only at h
      split at h
      next => cases h
      next => cases h
    | some failedOn => cases h
  | awaiting purpose =>
    cases purpose with
    | first wasInitialized name version => cases wasInitialized <;> cases h
    | again failedOn => cases h
  | _ => exact h

theorem recovering_failed_handshake (purpose : Purpose) :
    (World.failedHandshake purpose).recovering = none := by
  unfold World.failedHandshake
  split
  next => rfl
  next => rfl

theorem Numbered.become (h : Numbered world)
    (hmoved : ∀ failedOn, moved.recovering = some failedOn → failedOn = world.recovered) :
    Numbered (world.become ticket moved) :=
  ⟨h.completed, h.recovering.become hmoved⟩

theorem Numbered.finish (h : Numbered world) (ticket : ℕ) (call : Call) :
    Numbered (world.finish ticket call) :=
  ⟨h.completed, h.recovering.finish⟩

theorem Numbered.expireAll (h : Numbered world) : Numbered world.expireAll :=
  ⟨h.completed, h.recovering.map fun _ hcall failedOn hrecovering =>
    hcall failedOn (recovering_of_expired hrecovering)⟩

theorem Numbered.resetSession (h : Numbered world) (failedOn : ℕ) :
    Numbered (world.resetSession failedOn) :=
  ⟨h.completed, h.expireAll.recovering⟩

theorem Numbered.recovered (h : Numbered world)
    (hlocked : Locked world.client.recoveryLock world.calls)
    (hget : world.calls.get ticket = some call) (hrecovering : call.recovering = some failedOn)
    (hnext : moved.recovering = none) (client : McpClient) (resets : List Reset) :
    Numbered { client, calls := world.calls.become ticket moved
               completed := failedOn :: world.completed, resets } := by
  have hcurrent := h.recovering.of_get hget failedOn hrecovering
  constructor
  · intro session
    rw [List.mem_cons, h.completed, hcurrent]
    exact (or_comm.trans (Nat.lt_succ_iff_lt_or_eq).symm)
  · intro other held hother failedOn' hheld
    rw [get_become_eq_ite] at hother
    split at hother
    next =>
      cases hother
      cases hnext.symm.trans hheld
    next hne =>
      -- another call that recovers a session would hold the lock too
      have hfirst := hlocked ticket call hget (holds_lock_of_recovering hrecovering)
      have hsecond := hlocked other held hother (holds_lock_of_recovering hheld)
      exact absurd (Option.some.inj (hsecond.symm.trans hfirst)) hne

theorem numbered_resume (hconsistent : Consistent world) (h : Numbered world)
    (hget : world.calls.get ticket = some call)
    (hreset : ∀ failedOn, call.resets = some failedOn → failedOn = world.recovered)
    (hresume : world.resumeCall ticket reply call = some next) : Numbered next := by
  have hrecovering := h.recovering.of_get hget
  cases call with
  | request retried => cases hresume; exact h.become nofun
  | pending retried sentOn =>
    cases hresume
    unfold World.answerRequest
    split
    next => exact h.become fun failedOn hmoved => by cases recovering_of_expired hmoved
    next => exact h.finish ticket _
  | contending failedOn =>
    unfold World.resumeCall at hresume
    dsimp only at hresume
    split at hresume
    next => cases hresume; exact ⟨h.completed, h.recovering.become nofun⟩
    next => cases hresume
  | reading failedOn =>
    unfold World.resumeCall at hresume
    dsimp only at hresume
    split at hresume
    next => cases hresume; exact h.become nofun
    next => cases hresume; exact h.finish ticket _
  | resetting failedOn =>
    cases hresume
    refine (h.resetSession failedOn).become fun other hmoved => ?_
    cases hmoved
    exact hreset failedOn rfl
  | wasReset failedOn => cases hresume; exact ⟨h.completed, h.recovering.become hrecovering⟩
  | clearing failedOn => cases hresume; exact ⟨h.completed, h.recovering.become hrecovering⟩
  | strayReset failedOn => cases hresume; exact (h.resetSession failedOn).finish ticket _
  | greeting purpose =>
    cases hresume
    cases purpose with
    | first wasInitialized name version => exact h.become nofun
    | again failedOn => exact h.become hrecovering
  | awaiting purpose =>
    cases hresume
    have hfailed : Numbered (world.become ticket (World.failedHandshake purpose)) :=
      h.become fun failedOn hmoved => by
        cases (recovering_failed_handshake purpose).symm.trans hmoved
    unfold World.answerInitialize
    split
    next =>
      split
      next => exact h.become nofun
      next => exact hfailed
    next => exact h.become hrecovering
    next => exact hfailed
  | answered purpose result =>
    cases hresume
    cases purpose with
    | first wasInitialized name version => exact ⟨h.completed, h.recovering.become nofun⟩
    | again failedOn => exact ⟨h.completed, h.recovering.become hrecovering⟩
  | recording wasInitialized name version result =>
    cases hresume
    exact ⟨h.completed, h.recovering.become nofun⟩
  | notifying purpose result =>
    cases hresume
    unfold World.notified
    split
    next =>
      cases purpose with
      | first wasInitialized name version => exact ⟨h.completed, h.recovering.finish⟩
      | again failedOn => exact h.recovered hconsistent.locked hget rfl rfl _ _
    next =>
      refine h.become fun failedOn hmoved => ?_
      cases (recovering_failed_handshake purpose).symm.trans hmoved
  | ending purpose => cases hresume; exact h.finish ticket _
  | returned => cases hresume

theorem numbered_step (hconsistent : Consistent world) (h : Numbered world)
    (hbefore : HistoryOnce world) (hstep : step world event = some next) (hafter : HistoryOnce next)
    : Numbered next := by
  cases event with
  | sendRequest => cases hstep; exact ⟨h.completed, h.recovering.start nofun⟩
  | beginInitialize name version => cases hstep; exact ⟨h.completed, h.recovering.start nofun⟩
  | expire => cases hstep; exact h.expireAll
  | resume ticket reply =>
    obtain ⟨call, hget, hresume⟩ := Option.bind_eq_some_iff.1 hstep
    refine numbered_resume hconsistent h hget (fun failedOn hcall => ?_) hresume
    cases adds_resume hresume with
    | reset other hother hcompleted hresets =>
      cases hother.symm.trans hcall
      exact (history_reset_iff hconsistent h hbefore hget hcall hcompleted hresets).1 hafter
    | recovery other hnone _ _ _ => cases hnone.symm.trans hcall
    | nothing hnone _ _ => cases hnone.symm.trans hcall
  | abandon ticket =>
    obtain ⟨call, hget, heq⟩ := Option.bind_eq_some_iff.1 hstep
    cases heq
    unfold World.abandonCall
    split
    next failedOn => exact (h.finish ticket _).become nofun
    next => exact h
    next => exact h.finish ticket _

theorem history_once_step_iff (hconsistent : Consistent world) (hnumbered : Numbered world)
    (h : HistoryOnce world) (hstep : step world event = some next) :
    HistoryOnce next ↔ ResetsCurrent world event := by
  cases event with
  | sendRequest => cases hstep; exact iff_of_true ⟨h.once, h.current, h.spares⟩ trivial
  | beginInitialize name version =>
    cases hstep
    exact iff_of_true ⟨h.once, h.current, h.spares⟩ trivial
  | expire => cases hstep; exact iff_of_true ⟨h.once, h.current, h.spares⟩ trivial
  | resume ticket reply =>
    obtain ⟨call, hget, hresume⟩ := Option.bind_eq_some_iff.1 hstep
    have hcondition : ResetsCurrent world (.resume ticket reply) ↔
        ∀ failedOn, call.resets = some failedOn → failedOn = world.recovered := by
      dsimp only [ResetsCurrent]
      rw [hget]
      refine forall_congr' fun failedOn => imp_congr_left ?_
      cases call <;> simp [Call.resets]
    rw [hcondition]
    cases adds_resume hresume with
    | reset failedOn hcall hcompleted hresets =>
      rw [history_reset_iff hconsistent hnumbered h hget hcall hcompleted hresets]
      simp only [hcall, Option.some.injEq, forall_eq']
    | recovery failedOn hcall hrecovering hcompleted hresets =>
      refine iff_of_true ⟨?_, hresets ▸ h.current, hresets ▸ h.spares⟩ fun other hother => ?_
      · rw [hcompleted, List.nodup_cons, hnumbered.completed]
        have hcurrent := hnumbered.recovering.of_get hget failedOn hrecovering
        exact ⟨hcurrent ▸ lt_irrefl _, h.once⟩
      · cases hcall.symm.trans hother
    | nothing hcall hcompleted hresets =>
      refine iff_of_true ⟨hcompleted ▸ h.once, hresets ▸ h.current, hresets ▸ h.spares⟩
        fun other hother => ?_
      cases hcall.symm.trans hother
  | abandon ticket =>
    obtain ⟨call, hget, heq⟩ := Option.bind_eq_some_iff.1 hstep
    cases heq
    obtain ⟨hcompleted, hresets⟩ := history_abandon world ticket call
    exact iff_of_true ⟨hcompleted ▸ h.once, hresets ▸ h.current, hresets ▸ h.spares⟩ trivial

theorem resets_current_of_refused (h : step world event = none) : ResetsCurrent world event := by
  cases event with
  | resume ticket reply =>
    rintro failedOn (hget | hget)
    · simp [step, hget, World.resumeCall] at h
    · simp [step, hget, World.resumeCall] at h
  | _ => trivial

theorem consistent_connected (protocolSupport : List String) (supportsSessionRecovery : Bool) :
    Consistent (connected protocolSupport supportsSessionRecovery) :=
  ⟨holds_empty, fun _ _ hget => absurd hget (by simp [connected, Pool.get])⟩

theorem numbered_connected (protocolSupport : List String) (supportsSessionRecovery : Bool) :
    Numbered (connected protocolSupport supportsSessionRecovery) :=
  ⟨fun session => iff_of_false List.not_mem_nil (Nat.not_lt_zero session), holds_empty⟩

theorem recovers_once_connected (protocolSupport : List String) (supportsSessionRecovery : Bool) :
    RecoversOnce (connected protocolSupport supportsSessionRecovery) :=
  ⟨List.nodup_nil, nofun, nofun, holds_empty⟩

/-- Over every run of requests, expiries, recoveries and handshakes, each expiry is recovered once
exactly when no reset is done for a session that has been recovered. -/
theorem recovers_once_iff (protocolSupport : List String) (supportsSessionRecovery : Bool)
    (events : List Event) :
    Throughout step RecoversOnce (connected protocolSupport supportsSessionRecovery)
        events ↔
      Along step ResetsCurrent (connected protocolSupport supportsSessionRecovery)
        events := by
  refine throughout_iff_along
    (I := fun world => Consistent world ∧ (HistoryOnce world → Numbered world)) ?_ ?_
    (fun _ _ => resets_current_of_refused)
    ⟨consistent_connected _ _, fun _ => numbered_connected _ _⟩ (recovers_once_connected _ _) events
  · rintro world event next ⟨hconsistent, hnumbered⟩ hstep
    refine ⟨consistent_step hconsistent hstep, fun hafter => ?_⟩
    have hbefore := history_once_of_step hstep hafter
    exact numbered_step hconsistent (hnumbered hbefore) hbefore hstep hafter
  · rintro world event next ⟨hconsistent, hnumbered⟩ honce hstep
    have hhistory := (recovers_once_iff_history hconsistent).1 honce
    rw [recovers_once_iff_history (consistent_step hconsistent hstep)]
    exact history_once_step_iff hconsistent (hnumbered hhistory) hhistory hstep

/-- Two requests fail on the first session. The first recovers it and is sent again; the second then
takes the lock and resets the new session, which fails the first request. -/
def secondWaiterEvents : List Event :=
  let accepted : Reply := { answer := .value { protocolVersion := "2025-11-25" } }
  [.beginInitialize "client" "1", .resume 0 {}, .resume 0 accepted, .resume 0 {}, .resume 0 {},
    .resume 0 {}, .sendRequest, .sendRequest, .resume 1 {}, .resume 2 {}, .expire, .resume 1 {},
    .resume 1 {}, .resume 1 {}, .resume 1 {}, .resume 1 {}, .resume 1 {}, .resume 1 accepted,
    .resume 1 {}, .resume 1 {}, .resume 1 {}, .resume 2 {}, .resume 2 {}, .resume 2 {}]

/-- A waiter that gets the lock after a recovery resets the recovered session. -/
theorem second_waiter_resets_again :
    ¬∀ (protocolSupport : List String) (supportsSessionRecovery : Bool) (events : List Event),
      Throughout step RecoversOnce (connected protocolSupport supportsSessionRecovery)
        events := by
  intro h
  have hall := h ["2025-11-25"] true secondWaiterEvents
  obtain ⟨final, hrun⟩ := Option.isSome_iff_exists.1 (show (run step
    (connected ["2025-11-25"] true) secondWaiterEvents).isSome = true from rfl)
  have hcurrent := (hall.last hrun).current
  cases hrun
  exact hcurrent { failedOn := 0, completed := [0], failing := [1] } List.mem_cons_self
    List.mem_cons_self

end McpClient

end TowerMcp
