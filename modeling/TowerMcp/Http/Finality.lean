import TowerMcp.Http.Sessions

/-!
# Removals of sessions

A removal takes the session out of the live ones, then deletes its record, then purges its events. A
session that is removed stays removed as long as nothing brings it back: a restore that loaded the
record before must not make it live after, and a save that began before must not reach the store
after the record was deleted. The refreshes of `get` need no condition: they hold the lock a removal
waits for.
-/

namespace TowerMcp

open Execution Fallible

namespace SessionRegistry

def Call.mentions (id : String) : Call → Bool
  | .refreshing _ session record => decide (session.id = id) || decide (record.id = id)
  | .restoring _ record _ => decide (record.id = id)
  | .seeding _ record _ => decide (record.id = id)
  | .resaving _ record _ => decide (record.id = id)
  | .reinitializing _ record => decide (record.id = id)
  | .droppingStored held _ _ => decide (held = id)
  | .persisting _ record => decide (record.id = id)
  | .saving record => decide (record.id = id)
  | _ => false

def World.Unknown (world : World) (id : String) : Prop :=
  world.registry.sessions.get id = none ∧ world.registry.persistent.get id = none ∧
    (∀ session ∈ world.registry.built, session.id ≠ id) ∧
    world.calls.any (Call.mentions id) = false ∧ id ∉ world.removed

instance (world : World) (id : String) : Decidable (world.Unknown id) :=
  inferInstanceAs (Decidable (_ ∧ _))

def Answer.Timely : Answer → Prop
  | .got asker (some _) => asker.late = false
  | _ => True

/-- A removal that was done is final: when the calls that were in flight then have finished, the
session is neither live nor stored, and no lookup from then on returns it. -/
def DeleteIsFinal (world : World) : Prop :=
  (∀ id, world.settled id = true →
    world.registry.sessions.get id = none ∧ world.registry.persistent.get id = none) ∧
    ∀ answer ∈ world.answers, answer.Timely

/-- The condition on going on with a call: a restore makes no session live that a removal took out,
no save reaches the store after the removal deleted the record there, and the delete of a removal
takes effect. A record created under another identifier gets one that is unknown. -/
def Call.KeepsRemoved (world : World) (reply : Reply) : Call → Prop
  | .restoring _ record _ =>
    world.readLocked = false → world.registry.atCapacity = false →
      world.registry.sessions.get record.id = none → record.id ∉ world.removed
  | .resaving _ record _ => reply.write.applies = true → record.id ∉ world.deleted
  | .saving record => reply.write.applies = true → record.id ∉ world.deleted
  | .persisting _ record =>
    ∀ made ∈ MemorySessionStore.create world.registry.persistent record reply.generated,
      reply.write.applies = true →
        made.1.id ∉ world.deleted ∧ (made.1.id = record.id ∨ world.Unknown made.1.id)
  | .deleting _ _ removal => removal = true → reply.write.applies = true
  | _ => True

/-- The condition on an event: no other instance writes to the stores, and a session that is created
has an unknown identifier. -/
def KeepsRemoved (world : World) : Event → Prop
  | .create id _ _ => world.Unknown id
  | .foreign _ _ => False
  | .resume ticket reply => ∀ call ∈ world.calls.get ticket, call.KeepsRemoved world reply
  | _ => True

instance (world : World) (reply : Reply) (call : Call) :
    Decidable (call.KeepsRemoved world reply) := by
  cases call <;> unfold Call.KeepsRemoved <;> infer_instance

instance (world : World) (event : Event) : Decidable (KeepsRemoved world event) := by
  cases event <;> unfold KeepsRemoved <;> infer_instance

/-! ## What holds under the condition -/

def Call.Tidy (owner : String → Option String) (sessions : Registry Session Session.id)
    (removed deleted : List String) : Call → Prop
  | .refreshing asker session record =>
    asker.late = false ∧ sessions.get session.id = some session ∧ record.id = session.id ∧
      record.principal = session.principal
  | .loading asker => asker.late = true → asker.id ∈ deleted
  | .restoring asker record _ => asker.late = false ∧ record.principal = owner record.id
  | .seeding asker record _ => asker.late = false ∧ record.principal = owner record.id
  | .resaving asker record _ => asker.late = false ∧ record.principal = owner record.id
  | .reinitializing _ _ => False
  | .loadingStored _ _ => True
  | .droppingStored id principal bound => principal = .resolved bound ∧ bound = owner id
  | .deleting id rest removal => removal = true → id ∈ removed ∧ rest = []
  | .purging id rest removal => removal = true → id ∈ deleted ∧ rest = []
  | .persisting _ record => record.principal = owner record.id
  | .saving record => record.principal = owner record.id

/-- A world in which every identifier has one owner, a removed session is not live and a deleted one
is not stored. -/
structure Tidy (owner : String → Option String) (world : World) : Prop where
  manual : world.registry.autoReinit = false
  built : ∀ session ∈ world.registry.built, session.principal = owner session.id
  live : ∀ id session, world.registry.sessions.get id = some session →
    session.principal = owner id
  stored : ∀ id record, world.registry.persistent.get id = some record →
    record.principal = owner id
  gone : ∀ id ∈ world.removed, world.registry.sessions.get id = none
  erased : ∀ id ∈ world.deleted, world.registry.persistent.get id = none
  order : ∀ id ∈ world.deleted, id ∈ world.removed
  ended : ∀ removal ∈ world.ended, removal.1 ∈ world.deleted
  calls : world.calls.Holds
    (Call.Tidy owner world.registry.sessions world.removed world.deleted)
  answers : ∀ answer ∈ world.answers, answer.Timely

variable {owner : String → Option String} {world next : World} {ticket : ℕ} {call : Call}

variable {id : String}

theorem Tidy.settled (h : Tidy owner world) (hsettled : world.settled id = true) :
    id ∈ world.deleted := by
  obtain ⟨removal, hremoval, hboth⟩ := List.any_eq_true.1 hsettled
  rw [Bool.and_eq_true, decide_eq_true_eq] at hboth
  exact hboth.1 ▸ h.ended removal hremoval

theorem Tidy.final (h : Tidy owner world) : DeleteIsFinal world := by
  refine ⟨?_, h.answers⟩
  intro id hsettled
  have hdeleted := h.settled hsettled
  exact ⟨h.gone id (h.order id hdeleted), h.erased id hdeleted⟩

theorem Tidy.start (h : Tidy owner world)
    (hcall : call.Tidy owner world.registry.sessions world.removed world.deleted) :
    Tidy owner (world.start call) :=
  { h with calls := h.calls.start hcall }

theorem Tidy.become (h : Tidy owner world)
    (hcall : call.Tidy owner world.registry.sessions world.removed world.deleted) :
    Tidy owner (world.become ticket call) :=
  { h with calls := h.calls.become hcall }

theorem Tidy.answer (h : Tidy owner world) {reply : Answer} (hreply : reply.Timely) :
    Tidy owner (world.answer reply) :=
  { h with answers := List.forall_mem_cons.2 ⟨hreply, h.answers⟩ }

theorem Tidy.finish (h : Tidy owner world) {reply : Answer} (hreply : reply.Timely) :
    Tidy owner (world.finish ticket reply) :=
  { h with
    calls := h.calls.finish
    answers := List.forall_mem_cons.2 ⟨hreply, h.answers⟩ }

theorem Call.Tidy.mono {sessions sessions' : Registry Session Session.id}
    {removed removed' deleted deleted' : List String}
    (h : call.Tidy owner sessions removed deleted)
    (hsessions : call.isRefreshing = false ∨ sessions' = sessions)
    (hremoved : ∀ id ∈ removed, id ∈ removed') (hdeleted : ∀ id ∈ deleted, id ∈ deleted') :
    call.Tidy owner sessions' removed' deleted' := by
  cases call with
  | refreshing asker session record =>
    rcases hsessions with hnone | rfl
    · exact absurd hnone (by simp [isRefreshing])
    · exact h
  | loading asker => exact fun hlate => hdeleted _ (h hlate)
  | deleting id rest removal => exact fun hremoval => ⟨hremoved _ (h hremoval).1, (h hremoval).2⟩
  | purging id rest removal => exact fun hremoval => ⟨hdeleted _ (h hremoval).1, (h hremoval).2⟩
  | _ => exact h

theorem Tidy.relive (h : Tidy owner world) (hlock : world.readLocked = false)
    {registry : SessionRegistry} {removed : List String}
    (hmanual : registry.autoReinit = world.registry.autoReinit)
    (hpersistent : registry.persistent = world.registry.persistent)
    (hbuilt : ∀ session ∈ registry.built, session.principal = owner session.id)
    (hlive : ∀ id session, registry.sessions.get id = some session → session.principal = owner id)
    (hgone : ∀ id ∈ removed, registry.sessions.get id = none)
    (hremoved : ∀ id ∈ world.removed, id ∈ removed) :
    Tidy owner { world with registry, removed } where
  manual := hmanual.trans h.manual
  built := hbuilt
  live := hlive
  stored := by
    intro id record hrecord
    exact h.stored id record (hpersistent ▸ hrecord)
  gone := hgone
  erased := by
    intro id hid
    show registry.persistent.get id = none
    rw [hpersistent]
    exact h.erased id hid
  order := fun id hid => hremoved id (h.order id hid)
  ended := h.ended
  calls := by
    intro other held hget
    have hnone := (Pool.holds_of_not_any hlock).of_get hget
    exact (h.calls.of_get hget).mono (Or.inl hnone) hremoved fun _ hid => hid
  answers := h.answers

variable {record : SessionRecord} {write : Outcome SessionStoreError}

theorem Tidy.save (h : Tidy owner world) (howner : record.principal = owner record.id)
    (hkept : write.applies = true → record.id ∉ world.deleted) :
    Tidy owner (world.persist write (MemorySessionStore.save · record)) := by
  unfold World.persist
  rcases write.write_cases (MemorySessionStore.save · record) world.registry.persistent with
    ⟨happlies, hwrite⟩ | ⟨_, hwrite⟩
  · rw [hwrite]
    refine { h with stored := ?_, erased := ?_ }
    · intro id stored hstored
      rw [MemorySessionStore.get_save] at hstored
      split at hstored
      · rename_i hid
        rw [← Option.some.inj hstored, hid]
        exact howner
      · exact h.stored id stored hstored
    · intro id hid
      dsimp only
      rw [MemorySessionStore.get_save, if_neg]
      · exact h.erased id hid
      · rintro rfl
        exact hkept happlies hid
  · rw [hwrite]
    exact { h with }

theorem Tidy.adopt (h : Tidy owner world) (hunknown : world.Unknown id) (principal : Option String)
    : Tidy (Function.update owner id principal) world := by
  obtain ⟨hlive, hstored, hbuilt, hcalls, _⟩ := hunknown
  have hkeep : ∀ {other : String} {bound : Option String}, other ≠ id → bound = owner other →
      bound = Function.update owner id principal other := by
    intro other bound hne hbound
    rw [Function.update_of_ne hne]
    exact hbound
  refine { h with built := ?_, live := ?_, stored := ?_, calls := ?_ }
  · intro session hsession
    exact hkeep (hbuilt session hsession) (h.built session hsession)
  · intro other session hsession
    refine hkeep ?_ (h.live other session hsession)
    rintro rfl
    rw [hlive] at hsession
    exact absurd hsession (by simp)
  · intro other record hrecord
    refine hkeep ?_ (h.stored other record hrecord)
    rintro rfl
    rw [hstored] at hrecord
    exact absurd hrecord (by simp)
  · intro other held hget
    have hnot := (Pool.holds_of_not_any hcalls).of_get hget
    have hheld := h.calls.of_get hget
    cases held with
    | restoring asker record retry =>
      exact ⟨hheld.1, hkeep (of_decide_eq_false hnot) hheld.2⟩
    | seeding asker record session =>
      exact ⟨hheld.1, hkeep (of_decide_eq_false hnot) hheld.2⟩
    | resaving asker record session =>
      exact ⟨hheld.1, hkeep (of_decide_eq_false hnot) hheld.2⟩
    | droppingStored held principal bound =>
      exact ⟨hheld.1, hkeep (of_decide_eq_false hnot) hheld.2⟩
    | persisting session record => exact hkeep (of_decide_eq_false hnot) hheld
    | saving record => exact hkeep (of_decide_eq_false hnot) hheld
    | _ => exact hheld

/-! ## What each operation keeps -/

theorem Tidy.settled_of_live (h : Tidy owner world) {session : Session}
    (hlive : world.registry.sessions.get id = some session) : world.settled id = false := by
  cases hsettled : world.settled id with
  | false => rfl
  | true =>
    have hgone := h.gone id (h.order id (h.settled hsettled))
    rw [hlive] at hgone
    exact absurd hgone (by simp)

theorem Tidy.get (h : Tidy owner world) (id : String) (principal : SessionPrincipal) (now : ℕ) :
    Tidy owner (world.get id principal now) := by
  unfold World.get
  dsimp only
  cases hlive : world.registry.sessions.get id with
  | none =>
    exact h.start fun hlate => h.settled hlate
  | some session =>
    dsimp only
    split
    · have htouched : Tidy owner
          { world with registry := world.registry.touch session now } := { h with }
      have hid : session.id = id := Registry.key_of_get hlive
      exact htouched.start ⟨h.settled_of_live hlive, hid.symm ▸ hlive, rfl, rfl⟩
    · exact h.answer trivial

theorem Tidy.recover (h : Tidy owner world) (asker : Asker) (now : ℕ) :
    Tidy owner (world.recover ticket asker now) := by
  unfold World.recover
  rw [h.manual, if_neg (by simp)]
  exact h.finish trivial

theorem Tidy.loaded (h : Tidy owner world) {asker : Asker}
    (hasker : asker.late = true → asker.id ∈ world.deleted) (reply : Reply) :
    Tidy owner (world.loaded ticket asker reply) := by
  unfold World.loaded
  split
  · exact h.recover asker reply.now
  · split
    · exact h.recover asker reply.now
    · rename_i record hload
      have hstored := (MemorySessionStore.load_eq_some_iff.1 hload).1
      split
      · refine h.become ⟨?_, ?_⟩
        · rw [← Bool.not_eq_true]
          intro hlate
          rw [h.erased _ (hasker hlate)] at hstored
          exact absurd hstored (by simp)
        · rw [h.stored _ record hstored, Registry.key_of_get hstored]
      · exact h.finish trivial

theorem Tidy.insert (h : Tidy owner world) (hlock : world.readLocked = false) (session : Session)
    (howner : session.principal = owner session.id) (hkept : session.id ∉ world.removed)
    (contents : SessionCell) :
    Tidy owner { world with registry := world.registry.insert session contents } := by
  refine h.relive hlock rfl rfl ?_ ?_ ?_ fun _ hid => hid
  · exact List.forall_mem_cons.2 ⟨howner, h.built⟩
  · intro id held hheld
    unfold SessionRegistry.insert at hheld
    dsimp only at hheld
    rw [Registry.get_register] at hheld
    split at hheld
    · rename_i hid
      rw [← Option.some.inj hheld, hid]
      exact howner
    · exact h.live id held hheld
  · intro id hid
    unfold SessionRegistry.insert
    dsimp only
    rw [Registry.get_register, if_neg]
    · exact h.gone id hid
    · rintro rfl
      exact hkept hid

theorem Tidy.restore (h : Tidy owner world) (hlock : world.readLocked = false) {asker : Asker}
    (hasker : asker.late = false) (howner : record.principal = owner record.id)
    (hkept : world.registry.atCapacity = false →
      world.registry.sessions.get record.id = none → record.id ∉ world.removed) (retry : Bool)
    (now : ℕ) : Tidy owner (world.restore ticket asker record retry now) := by
  unfold World.restore restoreSection
  by_cases hfull : world.registry.atCapacity = true
  · simp only [hfull, if_true]
    split
    · exact h.recover asker now
    · exact h.finish trivial
  · rw [Bool.not_eq_true] at hfull
    simp only [hfull, Bool.false_eq_true, if_false]
    cases hlive : world.registry.sessions.get record.id with
    | none =>
      have hinserted := h.insert hlock
        (world.registry.newSession record.id record.principal now) howner
        (hkept hfull hlive)
        { protocolVersion := record.protocolVersion
          clientInfo := record.clientInfo
          clientCapabilities := record.clientCapabilities
          lastAccessed := now }
      exact hinserted.become ⟨hasker, howner⟩
    | some existing =>
      have htouched : Tidy owner
          { world with registry := world.registry.touch existing now } := { h with }
      exact htouched.finish hasker

theorem Tidy.unregister (h : Tidy owner world) (hlock : world.readLocked = false) (id : String) :
    Tidy owner (world.unregister id) := by
  refine h.relive hlock rfl rfl h.built ?_ ?_ fun _ hid => List.mem_cons_of_mem _ hid
  · intro other session hsession
    rw [Registry.get_unregister] at hsession
    split at hsession
    · exact absurd hsession (by simp)
    · exact h.live other session hsession
  · intro other hother
    rw [Registry.get_unregister]
    split
    · rfl
    · rename_i hne
      exact h.gone other ((List.mem_cons.1 hother).resolve_left hne)

theorem Tidy.unregister_start (h : Tidy owner world) (hlock : world.readLocked = false)
    (id : String) : Tidy owner ((world.unregister id).start (.deleting id [] true)) :=
  (h.unregister hlock id).start fun _ => ⟨List.mem_cons_self, rfl⟩

theorem Tidy.remove (h : Tidy owner world) (hlock : world.readLocked = false) (id : String) :
    Tidy owner (world.remove id) := by
  unfold World.remove
  split
  · exact h.unregister_start hlock id
  · exact h.answer trivial

theorem Tidy.remove_for (h : Tidy owner world) (hlock : world.readLocked = false) (id : String)
    (principal : SessionPrincipal) : Tidy owner (world.removeFor id principal) := by
  unfold World.removeFor
  split
  · split
    · exact h.unregister_start hlock id
    · exact h.answer trivial
  · exact h.start trivial

theorem Tidy.loaded_stored (h : Tidy owner world) (id : String) (principal : SessionPrincipal)
    (reply : Reply) : Tidy owner (world.loadedStored ticket id principal reply) := by
  unfold World.loadedStored
  split
  · exact h.finish trivial
  · split
    · exact h.finish trivial
    · rename_i record hload
      split
      · exact h.finish trivial
      · split
        · rename_i hmatch
          refine h.become ⟨SessionPrincipal.matches_bound_iff.1 hmatch, ?_⟩
          exact h.stored id record (MemorySessionStore.load_eq_some_iff.1 hload).1
        · exact h.finish trivial

theorem Tidy.drop_stored (h : Tidy owner world) (hlock : world.readLocked = false)
    {principal : SessionPrincipal} (hprincipal : principal = .resolved (owner id)) :
    Tidy owner (world.dropStored ticket id principal) := by
  unfold World.dropStored
  dsimp only
  have hdropped : Tidy owner (world.unregister id) := h.unregister hlock id
  cases hlive : world.registry.sessions.get id with
  | none =>
    have hgone : Tidy owner { world with removed := id :: world.removed } := by
      refine h.relive hlock rfl rfl h.built h.live ?_ fun _ hid => List.mem_cons_of_mem _ hid
      exact List.forall_mem_cons.2 ⟨hlive, h.gone⟩
    exact hgone.become fun _ => ⟨List.mem_cons_self, rfl⟩
  | some session =>
    have hmatch : principal.matchesBound session.principal = true := by
      rw [SessionPrincipal.matches_bound_iff, h.live id session hlive]
      exact hprincipal
    dsimp only
    rw [if_pos hmatch]
    exact hdropped.become fun _ => ⟨List.mem_cons_self, rfl⟩

theorem Tidy.delete (h : Tidy owner world) {rest : List String} {removal : Bool}
    (hremoved : removal = true → id ∈ world.removed ∧ rest = [])
    (happlies : removal = true → write.applies = true) :
    Tidy owner (world.delete ticket id rest removal write) := by
  have hsub : ∀ other ∈ world.deleted,
      other ∈ if removal && write.applies then id :: world.deleted else world.deleted := by
    intro other hother
    split
    · exact List.mem_cons_of_mem _ hother
    · exact hother
  have hget : ∀ other,
      (write.write (MemorySessionStore.delete · id) world.registry.persistent).get other =
        if write.applies = true ∧ other = id then none
        else world.registry.persistent.get other := by
    intro other
    rcases write.write_cases (MemorySessionStore.delete · id) world.registry.persistent with
      ⟨hwrite, heq⟩ | ⟨hwrite, heq⟩
    · simp [heq, hwrite, MemorySessionStore.get_delete]
    · simp [heq, hwrite]
  have hdeleted : Tidy owner
      { world.persist write (MemorySessionStore.delete · id) with
        deleted := if removal && write.applies then id :: world.deleted else world.deleted } := by
    refine { h with stored := ?_, erased := ?_, order := ?_, ended := ?_, calls := ?_ }
    · intro other record hrecord
      unfold World.persist at hrecord
      dsimp only at hrecord
      rw [hget] at hrecord
      split at hrecord
      · exact absurd hrecord (by simp)
      · exact h.stored other record hrecord
    · intro other hother
      unfold World.persist
      dsimp only at hother ⊢
      rw [hget]
      split
      · rfl
      · rename_i hne
        split at hother
        · rename_i hboth
          rw [Bool.and_eq_true] at hboth
          rcases List.mem_cons.1 hother with rfl | hold
          · exact absurd ⟨hboth.2, rfl⟩ hne
          · exact h.erased other hold
        · exact h.erased other hother
    · intro other hother
      split at hother
      · rename_i hboth
        rw [Bool.and_eq_true] at hboth
        rcases List.mem_cons.1 hother with rfl | hold
        · exact (hremoved hboth.1).1
        · exact h.order other hold
      · exact h.order other hother
    · exact fun removal hended => hsub _ (h.ended removal hended)
    · exact h.calls.mono fun held hheld => hheld.mono (Or.inr rfl) (fun _ hid => hid) hsub
  refine hdeleted.become fun hremoval => ⟨?_, (hremoved hremoval).2⟩
  show id ∈ if removal && write.applies then id :: world.deleted else world.deleted
  rw [hremoval, happlies hremoval]
  exact List.mem_cons_self

theorem Tidy.purge (h : Tidy owner world) {rest : List String} {removal : Bool}
    (hdeleted : removal = true → id ∈ world.deleted ∧ rest = []) (write : Outcome EventStoreError) :
    Tidy owner (world.purge ticket id rest removal write) := by
  have hpurged : Tidy owner
      { world with
        registry := { world.registry with
          events := write.write (·.purgeSession id) world.registry.events } } := { h with }
  unfold World.purge
  dsimp only
  cases rest with
  | cons following later =>
    exact hpurged.become fun hremoval => absurd (hdeleted hremoval).2 (by simp)
  | nil =>
    dsimp only
    split
    · rename_i hremoval
      have hreply : (Answer.removed id true).Timely := trivial
      refine { hpurged.finish hreply with ended := ?_ }
      exact List.forall_mem_cons.2 ⟨(hdeleted hremoval).1, h.ended⟩
    · exact hpurged.finish trivial

theorem Tidy.create (h : Tidy owner world) (hlock : world.readLocked = false)
    (hunknown : world.Unknown id) (principal : Option String) (now : ℕ) :
    Tidy (Function.update owner id principal) (world.create id principal now) := by
  have hadopted := h.adopt hunknown principal
  unfold World.create
  split
  · exact hadopted.answer trivial
  · have hinserted := hadopted.insert hlock
      (world.registry.newSession id principal now)
      (Function.update_self id principal owner).symm hunknown.2.2.2.2 { lastAccessed := now }
    refine hinserted.start ?_
    show principal = Function.update owner id principal id
    rw [Function.update_self]

theorem Tidy.persisted (h : Tidy owner world) {session : Session} {reply : Reply}
    (howner : record.principal = owner record.id)
    (hkept : (Call.persisting session record).KeepsRemoved world reply)
    (hnext : world.persisted ticket session record reply = some next) :
    ∃ owner, Tidy owner next := by
  obtain ⟨⟨created, after⟩, hcreate, rfl⟩ := Option.map_eq_some_iff.1 hnext
  have hprincipal := MemorySessionStore.principal_of_create hcreate
  obtain rfl := MemorySessionStore.create_eq_save hcreate
  have hmade := hkept (created, _) hcreate
  have hpersist : (world.persist reply.write fun _ =>
      MemorySessionStore.save world.registry.persistent created) =
      world.persist reply.write (MemorySessionStore.save · created) := by
    cases reply.write <;> rfl
  dsimp only
  rw [hpersist]
  by_cases happlies : reply.write.applies = true
  · obtain ⟨hdeleted, hsame | hunknown⟩ := hmade happlies
    · have hcreated : created.principal = owner created.id := by
        rw [hprincipal, hsame]
        exact howner
      exact ⟨owner, (h.save hcreated fun _ => hdeleted).finish trivial⟩
    · have hadopted := h.adopt hunknown created.principal
      have hcreated : created.principal =
          Function.update owner created.id created.principal created.id :=
        (Function.update_self created.id created.principal owner).symm
      exact ⟨_, (hadopted.save hcreated fun _ => hdeleted).finish trivial⟩
  · have hsame : world.persist reply.write (MemorySessionStore.save · created) = world := by
      unfold World.persist
      rcases reply.write.write_cases (MemorySessionStore.save · created)
        world.registry.persistent with ⟨hwrite, _⟩ | ⟨_, heq⟩
      · exact absurd hwrite happlies
      · rw [heq]
    rw [hsame]
    exact ⟨owner, h.finish trivial⟩

theorem Tidy.cleanup_expired (h : Tidy owner world) (hlock : world.readLocked = false) (now : ℕ) :
    Tidy owner (world.cleanupExpired now) := by
  have hcleaned : Tidy owner
      { world with
        registry := { world.registry with
          sessions := world.registry.sessions.retain fun session =>
            !world.registry.isExpired session now } } := by
    refine h.relive hlock rfl rfl h.built ?_ ?_ fun _ hid => hid
    · intro id session hsession
      rw [Registry.get_retain, Option.filter_eq_some_iff] at hsession
      exact h.live id session hsession.1
    · intro id hid
      rw [Registry.get_retain, h.gone id hid]
      rfl
  unfold World.cleanupExpired
  dsimp only
  split
  · exact hcleaned.start fun hremoval => absurd hremoval (by simp)
  · exact hcleaned.answer trivial

theorem Tidy.resume (h : Tidy owner world) {reply : Reply}
    (hkept : KeepsRemoved world (.resume ticket reply))
    (hnext : world.resume ticket reply = some next) : ∃ owner, Tidy owner next := by
  unfold World.resume at hnext
  cases hcall : world.calls.get ticket with
  | none => simp [hcall] at hnext
  | some call =>
    have htidy := h.calls.of_get hcall
    have hkept := hkept call hcall
    rw [hcall] at hnext
    cases call with
    | refreshing asker session record =>
      obtain ⟨hasker, hlive, hid, hprincipal⟩ := htidy
      cases hnext
      have howner : record.principal = owner record.id := by
        rw [hprincipal, hid]
        exact h.live session.id session hlive
      refine ⟨owner, (h.save howner fun _ hdeleted => ?_).finish hasker⟩
      -- the lock is still held, so the session that is refreshed has not been removed
      have hgone := h.gone record.id (h.order record.id hdeleted)
      rw [hid, hlive] at hgone
      exact absurd hgone (by simp)
    | loading asker =>
      cases hnext
      exact ⟨owner, h.loaded htidy reply⟩
    | restoring asker record retry =>
      obtain ⟨hlock, heq⟩ := Option.ite_none_left_eq_some.1 hnext
      cases heq
      rw [Bool.not_eq_true] at hlock
      exact ⟨owner, h.restore hlock htidy.1 htidy.2 (hkept hlock) retry reply.now⟩
    | seeding asker record session =>
      cases hnext
      have hseeded : ∀ cells, Tidy owner
          { world with registry := { world.registry with cells } } := fun _ => { h with }
      exact ⟨owner, (hseeded _).become htidy⟩
    | resaving asker record session =>
      cases hnext
      exact ⟨owner, (h.save htidy.2 hkept).finish htidy.1⟩
    | reinitializing asker record => exact absurd htidy id
    | loadingStored id principal =>
      cases hnext
      exact ⟨owner, h.loaded_stored id principal reply⟩
    | droppingStored id principal bound =>
      obtain ⟨hlock, heq⟩ := Option.ite_none_left_eq_some.1 hnext
      cases heq
      rw [Bool.not_eq_true] at hlock
      obtain ⟨hprincipal, rfl⟩ := htidy
      exact ⟨owner, h.drop_stored hlock hprincipal⟩
    | deleting id rest removal =>
      cases hnext
      exact ⟨owner, h.delete htidy hkept⟩
    | purging id rest removal =>
      cases hnext
      exact ⟨owner, h.purge htidy reply.purge⟩
    | persisting session record => exact h.persisted htidy hkept hnext
    | saving record =>
      cases hnext
      exact ⟨owner, (h.save htidy hkept).finish trivial⟩

theorem tidy_step {event : Event} (h : Tidy owner world) (hkept : KeepsRemoved world event)
    (hstep : step world event = some next) : ∃ owner, Tidy owner next := by
  cases event with
  | get id principal now =>
    cases hstep
    exact ⟨owner, h.get id principal now⟩
  | remove id =>
    obtain ⟨hlock, heq⟩ := Option.ite_none_left_eq_some.1 hstep
    cases heq
    exact ⟨owner, h.remove (eq_false_of_ne_true hlock) id⟩
  | removeFor id principal =>
    obtain ⟨hlock, heq⟩ := Option.ite_none_left_eq_some.1 hstep
    cases heq
    exact ⟨owner, h.remove_for (eq_false_of_ne_true hlock) id principal⟩
  | create id principal now =>
    obtain ⟨hlock, heq⟩ := Option.ite_none_left_eq_some.1 hstep
    cases heq
    exact ⟨_, h.create (eq_false_of_ne_true hlock) hkept principal now⟩
  | saveRecord session =>
    obtain ⟨hbuilt, heq⟩ := Option.ite_none_right_eq_some.1 hstep
    cases heq
    exact ⟨owner, h.start (h.built session hbuilt)⟩
  | cleanupExpired now =>
    obtain ⟨hlock, heq⟩ := Option.ite_none_left_eq_some.1 hstep
    cases heq
    exact ⟨owner, h.cleanup_expired (eq_false_of_ne_true hlock) now⟩
  | resume ticket reply => exact h.resume hkept hstep
  | abandon ticket =>
    cases hstep
    exact ⟨owner, { h with calls := h.calls.finish }⟩
  | update cell contents =>
    cases hstep
    exact ⟨owner, { h with }⟩
  | foreign persistent events => exact absurd hkept id

/-! ## Runs -/

theorem tidy_opened (config : SessionConfig) (persistent : MemorySessionStore)
    (events : MemoryEventStore) :
    Tidy (fun id => (persistent.get id).bind (·.principal))
      (opened config false persistent events) where
  manual := rfl
  built := by simp [opened]
  live := fun id session hsession => absurd hsession (by simp [opened])
  stored := by
    intro id record hrecord
    have hget : persistent.get id = some record := hrecord
    rw [hget]
    rfl
  gone := by simp [opened]
  erased := by simp [opened]
  order := by simp [opened]
  ended := by simp [opened]
  calls := Pool.holds_empty
  answers := by simp [opened]

def Event.isForeign : Event → Bool
  | .foreign _ _ => true
  | _ => false

def storedSession : SessionRecord := { id := "s", protocolVersion := "2025-11-25", expiresAt := 100 }

/-- A lookup loads the record and waits for the lock; a removal of the same session goes through; the
lookup goes on. -/
def straddledRemoval : List Event :=
  [.get "s" (.resolved none) 0, .resume 0 {}, .removeFor "s" (.resolved none), .resume 1 {},
    .resume 1 {}, .resume 1 {}, .resume 1 {}, .resume 0 {}, .resume 0 {}, .resume 0 {}]

/-- A restore that straddles a removal makes the session live again and stores its record again. -/
theorem removed_session_restored :
    ¬ ∀ (config : SessionConfig) (persistent : MemorySessionStore) (events : MemoryEventStore)
      (run : List Event), (∀ event ∈ run, event.isForeign = false) →
      Throughout step DeleteIsFinal (opened config false persistent events) run := by
  intro h
  have hall := h {} (MemorySessionStore.save .empty storedSession) {} straddledRemoval (by decide)
  obtain ⟨final, hrun, hsettled, hlive⟩ : ∃ final, Execution.run step
      (opened {} false (MemorySessionStore.save .empty storedSession) {}) straddledRemoval =
        some final ∧
      final.settled "s" = true ∧ (final.registry.sessions.get "s").isSome = true := by
    decide +kernel
  rw [((hall.last hrun).1 "s" hsettled).1] at hlive
  cases hlive

/-- With reinitialization off, a removal that was done is final in every state of a run in which
nothing makes a removed session live again or stores its deleted record again. -/
theorem delete_is_final (config : SessionConfig) (persistent : MemorySessionStore)
    (events : MemoryEventStore) (run : List Event)
    (halong : Along step KeepsRemoved (opened config false persistent events) run) :
    Throughout step DeleteIsFinal (opened config false persistent events) run := by
  have htidy : Throughout step (fun world => ∃ owner, Tidy owner world)
      (opened config false persistent events) run := by
    refine throughout_of_along ?_ ⟨_, tidy_opened config persistent events⟩ halong
    rintro world event next ⟨owner, h⟩ hkept hstep
    exact tidy_step h hkept hstep
  exact htidy.mono fun world ⟨_, h⟩ => h.final

theorem delete_after_restore_is_final :
    Throughout step DeleteIsFinal
      (opened {} false (MemorySessionStore.save .empty storedSession) {})
      [.get "s" (.resolved none) 0, .resume 0 {}, .resume 0 {}, .resume 0 {}, .resume 0 {},
        .removeFor "s" (.resolved none), .resume 1 {}, .resume 1 {}, .get "s" (.resolved none) 0,
        .resume 2 {}] :=
  delete_is_final {} (MemorySessionStore.save .empty storedSession) {} _ (by decide +kernel)

end SessionRegistry

end TowerMcp
