import TowerMcp.Http.Sessions

/-!
# Sessions are returned to their principals

Every lookup of a session compares principals at some point: `get` with the live session, a restore
with the record it loaded. A call that was `Admitted` so holds what its asker may use. The one
session that is returned without a comparison is the one a restore finds live under its lock, and
`bound_to_asker_iff_restored_for_owner` says that this is the only way a lookup can go wrong.
-/

namespace TowerMcp

open Execution Fallible

namespace SessionRegistry

def Call.Admitted : Call → Prop
  | .refreshing asker session _ => asker.principal = .resolved session.principal
  | .restoring asker record _ => asker.principal = .resolved record.principal
  | .seeding asker _ session => asker.principal = .resolved session.principal
  | .resaving asker _ session => asker.principal = .resolved session.principal
  | .reinitializing asker record => asker.principal = .resolved record.principal
  | _ => True

def Answer.Permitted : Answer → Prop
  | .got asker (some session) => asker.principal.matchesBound session.principal = true
  | _ => True

instance : DecidablePred Answer.Permitted
  | .got asker (some session) =>
    inferInstanceAs (Decidable (asker.principal.matchesBound session.principal = true))
  | .got _ none => .isTrue trivial
  | .removed _ _ => .isTrue trivial
  | .created _ => .isTrue trivial
  | .saved => .isTrue trivial
  | .cleaned => .isTrue trivial

def BoundToAsker (world : World) : Prop :=
  ∀ answer ∈ world.answers, answer.Permitted

instance (world : World) : Decidable (BoundToAsker world) :=
  inferInstanceAs (Decidable (∀ answer ∈ world.answers, answer.Permitted))

/-- The condition on an event: the section of a restore that finds a session live under the
identifier of its record finds one that is bound to the principal of the record. -/
def RestoredForOwner (world : World) : Event → Prop
  | .resume ticket _ =>
    match world.calls.get ticket with
    | some (.restoring _ record _) =>
      world.readLocked = false → world.registry.atCapacity = false →
        match world.registry.sessions.get record.id with
        | some session => session.principal = record.principal
        | none => True
    | _ => True
  | _ => True

/-- A step leaves admitted calls, and its answers are permitted exactly when `fine` holds. -/
def Advances (world next : World) (fine : Prop) : Prop :=
  next.calls.Holds Call.Admitted ∧ (BoundToAsker next ↔ BoundToAsker world ∧ fine)

variable {world next : World} {ticket : ℕ} {call : Call} {reply : Answer}

theorem advances_start (h : world.calls.Holds Call.Admitted) (hcall : call.Admitted) :
    Advances world (world.start call) True :=
  ⟨h.start hcall, (iff_of_eq (and_true _)).symm⟩

theorem advances_become (h : world.calls.Holds Call.Admitted) (hcall : call.Admitted) :
    Advances world (world.become ticket call) True :=
  ⟨h.become hcall, (iff_of_eq (and_true _)).symm⟩

theorem bound_to_asker_answer_iff :
    (∀ answer ∈ reply :: world.answers, answer.Permitted) ↔
      BoundToAsker world ∧ reply.Permitted := by
  rw [List.forall_mem_cons]
  exact And.comm

theorem advances_answer (h : world.calls.Holds Call.Admitted) :
    Advances world (world.answer reply) reply.Permitted :=
  ⟨h, bound_to_asker_answer_iff⟩

theorem advances_finish (h : world.calls.Holds Call.Admitted) :
    Advances world (world.finish ticket reply) reply.Permitted :=
  ⟨h.finish, bound_to_asker_answer_iff⟩

theorem advances_get (h : world.calls.Holds Call.Admitted) (id : String)
    (principal : SessionPrincipal) (now : ℕ) :
    Advances world (world.get id principal now) True := by
  unfold World.get
  dsimp only
  split
  · split
    · rename_i hmatch
      exact advances_start h (SessionPrincipal.matches_bound_iff.1 hmatch)
    · exact advances_answer h
  · exact advances_start h trivial

theorem advances_recover (h : world.calls.Holds Call.Admitted) (asker : Asker) (now : ℕ) :
    Advances world (world.recover ticket asker now) True := by
  unfold World.recover
  split
  · split
    · rename_i bound hbound
      exact advances_become h hbound
    · exact advances_finish h
  · exact advances_finish h

theorem advances_loaded (h : world.calls.Holds Call.Admitted) (asker : Asker) (answer : Reply) :
    Advances world (world.loaded ticket asker answer) True := by
  unfold World.loaded
  split
  · exact advances_recover h asker answer.now
  · split
    · exact advances_recover h asker answer.now
    · split
      · rename_i hmatch
        exact advances_become h (SessionPrincipal.matches_bound_iff.1 hmatch)
      · exact advances_finish h

theorem advances_restore (h : world.calls.Holds Call.Admitted) {asker : Asker}
    {record : SessionRecord} (hadmitted : asker.principal = .resolved record.principal)
    (retry : Bool) (now : ℕ) :
    Advances world (world.restore ticket asker record retry now)
      (world.registry.atCapacity = false →
        match world.registry.sessions.get record.id with
        | some session => session.principal = record.principal
        | none => True) := by
  unfold World.restore restoreSection
  by_cases hfull : world.registry.atCapacity = true
  · simp only [hfull, if_true, Bool.true_eq_false, false_implies]
    split
    · exact advances_recover h asker now
    · exact advances_finish h
  · simp only [hfull, Bool.false_eq_true, if_false]
    rw [Bool.not_eq_true] at hfull
    cases hlive : world.registry.sessions.get record.id with
    | none =>
      simp only [implies_true]
      exact advances_become h hadmitted
    | some session =>
      have hanswer : Advances world (world.finish ticket (.got asker (some session)))
          (Answer.got asker (some session)).Permitted := advances_finish h
      have hpermitted : (Answer.got asker (some session)).Permitted ↔
          session.principal = record.principal := by
        show asker.principal.matchesBound session.principal = true ↔ _
        rw [SessionPrincipal.matches_bound_iff, hadmitted, SessionPrincipal.resolved.injEq]
        exact eq_comm
      simp only [forall_const]
      rw [← hpermitted]
      exact hanswer

theorem advances_remove (h : world.calls.Holds Call.Admitted) (id : String) :
    Advances world (world.remove id) True := by
  unfold World.remove
  split
  · exact advances_start h trivial
  · exact advances_answer h

theorem advances_remove_for (h : world.calls.Holds Call.Admitted) (id : String)
    (principal : SessionPrincipal) : Advances world (world.removeFor id principal) True := by
  unfold World.removeFor
  split
  · split
    · exact advances_start h trivial
    · exact advances_answer h
  · exact advances_start h trivial

theorem advances_create (h : world.calls.Holds Call.Admitted) (id : String)
    (principal : Option String) (now : ℕ) :
    Advances world (world.create id principal now) True := by
  unfold World.create
  split
  · exact advances_answer h
  · exact advances_start h trivial

theorem advances_cleanup_expired (h : world.calls.Holds Call.Admitted) (now : ℕ) :
    Advances world (world.cleanupExpired now) True := by
  unfold World.cleanupExpired
  dsimp only
  split
  · exact advances_start h trivial
  · exact advances_answer h

theorem advances_loaded_stored (h : world.calls.Holds Call.Admitted) (id : String)
    (principal : SessionPrincipal) (answer : Reply) :
    Advances world (world.loadedStored ticket id principal answer) True := by
  unfold World.loadedStored
  split
  · exact advances_finish h
  · split
    · exact advances_finish h
    · split
      · exact advances_finish h
      · split
        · exact advances_become h trivial
        · exact advances_finish h

theorem advances_purge (h : world.calls.Holds Call.Admitted) (id : String) (rest : List String)
    (removal : Bool) (write : Outcome EventStoreError) :
    Advances world (world.purge ticket id rest removal write) True := by
  unfold World.purge
  dsimp only
  split
  · exact advances_become h trivial
  · split
    · exact advances_finish h
    · exact advances_finish h

theorem advances_resume (h : world.calls.Holds Call.Admitted) {answer : Reply}
    (hstep : world.resume ticket answer = some next) :
    Advances world next (RestoredForOwner world (.resume ticket answer)) := by
  unfold World.resume at hstep
  unfold RestoredForOwner
  dsimp only
  cases hcall : world.calls.get ticket with
  | none => simp [hcall] at hstep
  | some call =>
    have hadmitted := h.of_get hcall
    rw [hcall] at hstep
    cases call with
    | refreshing asker session record =>
      cases hstep
      have hpermitted : (Answer.got asker (some session)).Permitted ↔ True :=
        iff_true_intro (SessionPrincipal.matches_bound_iff.2 hadmitted)
      exact ⟨h.finish, bound_to_asker_answer_iff.trans (and_congr_right fun _ => hpermitted)⟩
    | loading asker =>
      cases hstep
      exact advances_loaded h asker answer
    | restoring asker record retry =>
      obtain ⟨hlock, heq⟩ := Option.ite_none_left_eq_some.1 hstep
      cases heq
      rw [Bool.not_eq_true] at hlock
      simp only [hlock, forall_const]
      exact advances_restore h hadmitted retry answer.now
    | seeding asker record session =>
      cases hstep
      exact advances_become h hadmitted
    | resaving asker record session =>
      cases hstep
      have hpermitted : (Answer.got asker (some session)).Permitted ↔ True :=
        iff_true_intro (SessionPrincipal.matches_bound_iff.2 hadmitted)
      exact ⟨h.finish, bound_to_asker_answer_iff.trans (and_congr_right fun _ => hpermitted)⟩
    | reinitializing asker record =>
      obtain ⟨⟨created, after⟩, hcreate, rfl⟩ := Option.map_eq_some_iff.1 hstep
      have hprincipal := MemorySessionStore.principal_of_create hcreate
      refine advances_become h ?_
      show asker.principal = .resolved (if _ then _ else _ : SessionRecord).principal
      split
      · rw [hprincipal]
        exact hadmitted
      · exact hadmitted
    | loadingStored id principal =>
      cases hstep
      exact advances_loaded_stored h id principal answer
    | droppingStored id principal bound =>
      obtain ⟨_, heq⟩ := Option.ite_none_left_eq_some.1 hstep
      cases heq
      exact advances_become h trivial
    | deleting id rest removal =>
      cases hstep
      exact advances_become h trivial
    | purging id rest removal =>
      cases hstep
      exact advances_purge h id rest removal answer.purge
    | persisting session record =>
      obtain ⟨⟨created, after⟩, _, rfl⟩ := Option.map_eq_some_iff.1 hstep
      exact advances_finish h
    | saving record =>
      cases hstep
      exact advances_finish h

theorem advances_step (h : world.calls.Holds Call.Admitted) {event : Event}
    (hstep : step world event = some next) :
    Advances world next (RestoredForOwner world event) := by
  cases event with
  | get id principal now =>
    cases hstep
    exact advances_get h id principal now
  | remove id =>
    obtain ⟨_, heq⟩ := Option.ite_none_left_eq_some.1 hstep
    cases heq
    exact advances_remove h id
  | removeFor id principal =>
    obtain ⟨_, heq⟩ := Option.ite_none_left_eq_some.1 hstep
    cases heq
    exact advances_remove_for h id principal
  | create id principal now =>
    obtain ⟨_, heq⟩ := Option.ite_none_left_eq_some.1 hstep
    cases heq
    exact advances_create h id principal now
  | saveRecord session =>
    obtain ⟨_, heq⟩ := Option.ite_none_right_eq_some.1 hstep
    cases heq
    exact advances_start h trivial
  | cleanupExpired now =>
    obtain ⟨_, heq⟩ := Option.ite_none_left_eq_some.1 hstep
    cases heq
    exact advances_cleanup_expired h now
  | resume ticket answer => exact advances_resume h hstep
  | abandon ticket =>
    cases hstep
    exact ⟨h.finish, (iff_of_eq (and_true _)).symm⟩
  | update cell contents =>
    cases hstep
    exact ⟨h, (iff_of_eq (and_true _)).symm⟩
  | foreign persistent events =>
    cases hstep
    exact ⟨h, (iff_of_eq (and_true _)).symm⟩

theorem restored_for_owner_of_refused {event : Event} (hrefused : step world event = none) :
    RestoredForOwner world event := by
  cases event with
  | resume ticket answer =>
    unfold RestoredForOwner
    dsimp only
    split
    · rename_i asker record retry hcall
      intro hlock
      have hresume : world.resume ticket answer = none := hrefused
      simp [World.resume, hcall, hlock] at hresume
    · trivial
  | _ => trivial

/-! ## Runs -/

def aliceRecord : SessionRecord :=
  { id := "s"
    protocolVersion := "2025-11-25"
    expiresAt := 100
    principal := some "alice" }

def reinitializingWorld : World :=
  opened {} true (MemorySessionStore.save .empty aliceRecord) {}

/-- The lookup of one principal loads the record, the removal by the same principal goes through, a
second principal's lookup reinitializes the identifier, and the first lookup goes on. -/
def overtakenLookup : List Event :=
  [.get "s" (.resolved (some "alice")) 0, .resume 0 {},
    .removeFor "s" (.resolved (some "alice")), .resume 1 {}, .resume 1 {}, .resume 1 {},
    .resume 1 {}, .get "s" (.resolved (some "bob")) 0, .resume 2 {}, .resume 2 {}, .resume 2 {},
    .resume 0 {}]

/-- A restore that was overtaken returns a session that a different principal made. -/
theorem restore_returns_foreign_session :
    ¬ ∀ (config : SessionConfig) (autoReinit : Bool) (persistent : MemorySessionStore)
      (events : MemoryEventStore) (run : List Event),
      Throughout step BoundToAsker (opened config autoReinit persistent events) run := by
  intro h
  have hall := h {} true (MemorySessionStore.save .empty aliceRecord) {} overtakenLookup
  obtain ⟨final, hrun, hforeign⟩ : ∃ final,
      Execution.run step reinitializingWorld overtakenLookup = some final ∧
        ¬BoundToAsker final := by
    decide +kernel
  exact hforeign (hall.last hrun)

/-- Through any interleaving of calls in flight, with any outcomes of the stores and any writes of
other instances, no lookup returns a session bound to another principal exactly when every restore
that finds its session live finds it bound as its record is. -/
theorem bound_to_asker_iff_restored_for_owner (config : SessionConfig) (autoReinit : Bool)
    (persistent : MemorySessionStore) (events : MemoryEventStore) (run : List Event) :
    Throughout step BoundToAsker (opened config autoReinit persistent events) run ↔
      Along step RestoredForOwner (opened config autoReinit persistent events) run := by
  refine throughout_iff_along (I := fun world => world.calls.Holds Call.Admitted)
    ?_ ?_ ?_ Pool.holds_empty (fun answer hanswer => absurd hanswer (by simp [opened])) run
  · intro world event next h hstep
    exact (advances_step h hstep).1
  · intro world event next h hbound hstep
    rw [(advances_step h hstep).2]
    exact and_iff_right hbound
  · intro world event hrefused
    exact restored_for_owner_of_refused hrefused

end SessionRegistry

end TowerMcp
