import TowerMcp.Task.Progress
import TowerMcp.Tool.ParkedAnswers

/-!
# No wait is left blocked

While one park at a time is outstanding, a wait that is blocked still has a key outstanding, or has
been woken or cancelled, or is about to be: the update that took the last key wakes the task after
its commit, and a deadline that has passed raises the token at the next retirement. `Expecting` is
what carries this from the read of a wait to its suspension and on. An update that leaves none of the
keys outstanding has answered the last request of the task, since no other park has asked anything.
-/

namespace TowerMcp

open Execution MemoryTaskStore FinMap

namespace LiveTask

open TaskStore (World Stepped Sound)

def isReturned : ParkPoint → Bool
  | .returned _ => true
  | _ => false

def SinglePark (live : LiveTask) : Event → Prop
  | .ask _ _ => live.parks.Holds fun call => isReturned call.point = true
  | _ => True

instance (live : LiveTask) (event : Event) : Decidable (SinglePark live event) :=
  match event with
  | .ask _ _ => inferInstanceAs (Decidable (live.parks.Holds _))
  | .call _ | .park _ _ | .update _ _ | .wake | .cancel | .wait _ | .look _ _ | .poll _ _
  | .read _ _ | .drop _ | .leave | .unregister => .isTrue trivial

def StillAsked (id : String) (live : LiveTask) (asked : List String) : Prop :=
  live.isCancelled = false ∧ ∃ stored, live.world.readable id = some stored ∧
    ∃ key ∈ asked, key ∈ stored.task.inputRequests

def Overdue (id : String) (live : LiveTask) : Prop :=
  ∃ stored, live.world.data.tasks.lookup id = some stored ∧
    stored.task.isExpiredAt live.world.clock = true ∧ stored.expirySignalled = false

def Narrow (id : String) (world : World) (asked : List String) : Prop :=
  ∀ stored, world.data.tasks.lookup id = some stored → stored.expirySignalled = false →
    ∀ key ∈ stored.task.inputRequests, key ∈ asked

def Awaiting (id : String) (world : World) (asked : List String) : Prop :=
  ∃ stored, world.data.tasks.lookup id = some stored ∧ stored.expirySignalled = false ∧
    ∃ key ∈ asked, key ∈ stored.task.inputRequests

def Expecting (id : String) (live : LiveTask) (asked : List String) : Prop :=
  Awaiting id live.world asked ∨ 0 < live.due ∨ live.isCancelled = true

def Alert (id : String) (live : LiveTask) (call : PendingInput) : Prop :=
  match call.point with
  | .asking requests _ => call.asked = requests.sortedKeys
  | .returned _ => True
  | .selecting =>
    Narrow id live.world call.asked ∧ (Expecting id live call.asked ∨ live.permit = true)
  | .suspended => Narrow id live.world call.asked ∧ Expecting id live call.asked
  | _ => Narrow id live.world call.asked

def Single (parks : Pool PendingInput) : Prop :=
  ∀ first second call other, parks.get first = some call → parks.get second = some other →
    isReturned call.point = false → isReturned other.point = false → first = second

structure Wakeful (id : String) (live : LiveTask) : Prop where
  registered : live.registered = true
  single : Single live.parks
  alert : live.parks.Holds (Alert id live)

variable {store : MemoryTaskStore} {id : String} {live next : LiveTask} {ticket : ℕ}
  {call : PendingInput} {asked : List String}

/-! ## One call at a time -/

variable {parks : Pool PendingInput}

theorem Single.become (h : Single parks) (hget : parks.get ticket = some call)
    (hcall : isReturned call.point = false) (moved : PendingInput) :
    Single (parks.become ticket moved) := by
  have honly : ∀ other held, (parks.become ticket moved).get other = some held →
      isReturned held.point = false → other = ticket := by
    intro other held hheld hopen
    rw [Pool.get_become_eq_ite] at hheld
    split at hheld
    next hother => exact hother
    next => exact h other ticket held call hheld hget hopen hcall
  intro first second held other hfirst hsecond hheld hother
  rw [honly first held hfirst hheld, honly second other hsecond hother]

theorem Single.start (h : parks.Holds fun call => isReturned call.point = true)
    (call : PendingInput) : Single (parks.start call) := by
  have honly : ∀ other held, (parks.start call).get other = some held →
      isReturned held.point = false → other = parks.next := by
    intro other held hheld hopen
    rw [Pool.get_start_eq_ite] at hheld
    split at hheld
    next hother => exact hother
    next =>
      rw [h other held hheld] at hopen
      cases hopen
  intro first second held other hfirst hsecond hheld hother
  rw [honly first held hfirst hheld, honly second other hsecond hother]

theorem Single.finish (h : Single parks) (ticket : ℕ) : Single (parks.finish ticket) := by
  have hkept : ∀ other held, (parks.finish ticket).get other = some held →
      parks.get other = some held := by
    intro other held hheld
    rw [Pool.get_finish_eq_ite] at hheld
    exact (Option.ite_none_left_eq_some.1 hheld).2
  intro first second held other hfirst hsecond
  exact h first second held other (hkept first held hfirst) (hkept second other hsecond)

theorem Single.alert_become (h : Single live.parks) (hget : live.parks.get ticket = some call)
    (hcall : isReturned call.point = false) {moved : PendingInput} (hmoved : Alert id next moved) :
    (live.parks.become ticket moved).Holds (Alert id next) := by
  intro other held hheld
  rw [Pool.get_become_eq_ite] at hheld
  split at hheld
  next => exact Option.some.inj hheld ▸ hmoved
  next hother =>
    cases hopen : isReturned held.point with
    | false => exact absurd (h other ticket held call hheld hget hopen hcall) hother
    | true =>
      unfold Alert
      cases hpoint : held.point with
      | returned result => trivial
      | _ =>
        rw [hpoint] at hopen
        cases hopen

theorem Alert.mono (h : Alert id live call)
    (hnarrow : Narrow id live.world call.asked → Narrow id next.world call.asked)
    (hexpecting : Narrow id live.world call.asked → Expecting id live call.asked →
      Expecting id next call.asked)
    (hpermit : live.permit = true → next.permit = true) : Alert id next call := by
  obtain ⟨asked, point⟩ := call
  cases point with
  | asking _ _ => exact h
  | returned _ => trivial
  | selecting => exact ⟨hnarrow h.1, h.2.imp (hexpecting h.1) hpermit⟩
  | suspended => exact ⟨hnarrow h.1, hexpecting h.1 h.2⟩
  | parked | looping | woken | answered => exact hnarrow h

/-! ## Calls on the store -/

section TaskChange

variable {now : Moment} {request : StoreCall} {reply : Reply} {before after : Task} {key : String}

theorem input_requests_cancelled_task (store : MemoryTaskStore) (now : Moment) (task : Task)
    (reason : Option String) :
    (store.cancelledTask now task reason).inputRequests = ∅ := by
  obtain ⟨message, _, heq⟩ | heq := cancelled_task_cases store now task reason
  · rw [heq]
  · rw [heq]
    rfl

theorem cancellation_token_of_cancelled {task final : Task} {reason : Option String}
    (outcome : final = store.cancelledTask now task.raiseToken reason ∨
      final = (store.cancelledTask now task.raiseToken reason).cancelWithBoundedStatus now
        boundedCancellationStatus true) : final.cancellationToken = true := by
  have htoken : (store.cancelledTask now task.raiseToken reason).cancellationToken = true := by
    obtain ⟨message, _, heq⟩ | heq := cancelled_task_cases store now task.raiseToken reason
    · rw [heq]
      rfl
    · rw [heq]
      rfl
  obtain rfl | rfl := outcome
  · exact htoken
  · exact htoken

theorem asked_before_of_task_change (h : TaskChange store now request reply before after)
    (hpark : ∀ taskId requests message, request ≠ .requireInput taskId requests message)
    (hopen : key ∈ after.inputRequests) : key ∈ before.inputRequests := by
  cases h with
  | parked taskId requests message _ _ _ _ => exact absurd rfl (hpark taskId requests message)
  | answered _ responses _ _ =>
    have hanswered := Task.answered_apply_input_responses now before responses
    rw [← AList.lookup_isSome, hanswered.outstanding] at hopen
    split at hopen
    · cases hopen
    · rwa [AList.lookup_isSome] at hopen
  | completionRejected _ _ _ _ _ | failureRejected _ _ _ _ _ | completed _ _ _ _
  | failed _ _ _ _ => cases hopen
  | cancelled _ reason _ final _ outcome =>
    have hnone : final.inputRequests = ∅ := by
      obtain rfl | rfl := outcome
      · exact input_requests_cancelled_task store now before.raiseToken reason
      · rfl
    change key ∈ final.inputRequests at hopen
    rw [hnone] at hopen
    cases hopen
  | described _ _ _ | progressed _ _ _ _ _ _ | extended _ _ _ | signalled _ _ _ _ => exact hopen

end TaskChange

section Store

variable {world after : World} {made : TaskStore.Event} {reply : Reply}

theorem narrow_stepped (hstep : Stepped store world made after reply)
    (hpark : ∀ requests message, made.call ≠ .requireInput id requests message)
    (h : Narrow id world asked) : Narrow id after asked := by
  intro stored hlookup hunsignalled key hopen
  have hchange := hstep.changes id
  rw [hlookup] at hchange
  generalize hbefore : world.data.tasks.lookup id = before at hchange
  cases hchange with
  | kept _ _ => exact h stored hbefore hunsignalled key hopen
  | admitted _ _ _ _ _ _ _ _ task _ =>
    rw [task] at hopen
    cases hopen
  | changed old _ named _ unsignalled change =>
    refine h old hbefore unsignalled.1 key (asked_before_of_task_change change ?_ hopen)
    intro taskId requests message hcall
    rw [hcall] at named
    obtain rfl := Option.some.inj named
    exact hpark requests message hcall
  | retired _ old _ _ =>
    rw [expiry_signalled_retired_record] at hunsignalled
    cases hunsignalled

theorem narrow_parked {now : Moment} {requests : InputRequests} {message : Option String}
    (hstep : Stepped store world ⟨now, .requireInput id requests message⟩ after
      (.done (.ok true))) : Narrow id after requests.sortedKeys := by
  intro stored hlookup _ key hopen
  obtain ⟨held, hheld, hrequests⟩ := requests_of_parked hstep
  obtain rfl := Option.some.inj (hlookup.symm.trans hheld)
  rw [hrequests] at hopen
  exact mem_sorted_keys_iff.2 hopen

variable {data final : MemoryTaskStoreData}

theorem raises_of_retired {stored : StoredTask} {remove : Bool}
    (hlookup : data.tasks.lookup id = some stored) (hcall : made.call = .retireExpired remove)
    (hexpired : stored.task.isExpiredAt made.now.instant = true) :
    raises id made data final = true := by
  unfold raises
  rw [hcall, hlookup]
  dsimp only [Option.any]
  rw [hexpired, Bool.or_true]

theorem raises_of_token {stored : StoredTask} (hlookup : final.tasks.lookup id = some stored)
    (htoken : stored.task.cancellationToken = true) : raises id made data final = true := by
  unfold raises
  rw [hlookup]
  dsimp only [Option.any]
  rw [htoken, Bool.true_or]

theorem awaiting_stepped (hstep : Stepped store world made after reply)
    (hfree : reserved id true made.call = false) (h : Awaiting id world asked) :
    Awaiting id after asked ∨ raises id made world.data after.data = true := by
  obtain ⟨old, hlookup, hunsignalled, key, hasked, hopen⟩ := h
  have hchange := hstep.changes id
  rw [hlookup] at hchange
  generalize hafter : after.data.tasks.lookup id = new at hchange
  cases hchange with
  | kept _ _ => exact .inl ⟨old, hafter, hunsignalled, key, hasked, hopen⟩
  | retired remove _ retirement retiring =>
    exact .inr (raises_of_retired hlookup retirement (is_retiring_iff.1 retiring).1)
  | removed _ gone =>
    obtain hdiscard | ⟨hretire, hexpired⟩ := gone
    · rw [hdiscard] at hfree
      simp [reserved] at hfree
    · exact .inr (raises_of_retired hlookup hretire hexpired)
  | changed _ new named _ unsignalled change =>
    generalize made.call = request at hfree named change
    generalize hbefore : old.task = before at change hopen
    generalize htask : new.task = task at change
    cases change with
    | described _ _ _ | progressed _ _ _ _ _ _ | extended _ _ _ =>
      refine .inl ⟨new, hafter, unsignalled.2, key, hasked, ?_⟩
      rw [htask]
      exact hopen
    | cancelled _ reason _ final _ outcome =>
      refine .inr (raises_of_token hafter ?_)
      rw [htask]
      exact (cancellation_token_of_cancelled outcome : final.cancellationToken = true)
    | signalled _ _ _ _ =>
      refine .inr (raises_of_token hafter ?_)
      rw [htask]
      rfl
    | parked _ _ _ _ _ _ _ | answered _ _ _ _ | completed _ _ _ _ | failed _ _ _ _
    | completionRejected _ _ _ _ _ | failureRejected _ _ _ _ _ =>
      cases named
      simp [reserved] at hfree

theorem awaiting_updated {now : Moment} {responses : InputResponses}
    (hstep : Stepped store world ⟨now, .applyInputResponses id responses⟩ after reply)
    (hnarrow : Narrow id world asked) (h : Awaiting id world asked) :
    Awaiting id after asked ∨ ∃ applied, reply = .applied (.ok (some applied)) ∧
      TaskRouter.resumes applied = true := by
  obtain ⟨old, hlookup, hunsignalled, key, hasked, hopen⟩ := h
  have hchange := hstep.changes id
  rw [hlookup] at hchange
  generalize hafter : after.data.tasks.lookup id = new at hchange
  cases hchange with
  | kept _ _ => exact .inl ⟨old, hafter, hunsignalled, key, hasked, hopen⟩
  | retired _ _ retirement _ => cases retirement
  | removed _ gone =>
    obtain hdiscard | ⟨hretire, _⟩ := gone
    · cases hdiscard
    · cases hretire
  | changed _ new _ _ unsignalled change =>
    obtain ⟨_, hreply, htask⟩ := answered_of_task_change change
    have hanswered := Task.answered_apply_input_responses now old.task responses
    by_cases hleft : ∃ key ∈ asked, key ∈ new.task.inputRequests
    · exact .inl ⟨new, hafter, unsignalled.2, hleft⟩
    · refine .inr ⟨_, hreply, ?_⟩
      have hnone : ∀ other, other ∉ new.task.inputRequests := by
        intro other hother
        have hbefore : other ∈ old.task.inputRequests :=
          asked_before_of_task_change change nofun hother
        exact hleft ⟨other, hnarrow old hlookup hunsignalled other hbefore, hother⟩
      have hgiven : key ∈ responses := by
        by_contra hmissing
        refine hnone key ?_
        rw [← AList.lookup_isSome, htask, hanswered.outstanding, if_neg hmissing,
          AList.lookup_isSome]
        exact hopen
      have haccepted := (hanswered.accepted key).2 ⟨hgiven, hopen⟩
      unfold TaskRouter.resumes
      rw [is_complete_apply_input_responses, ← htask, Bool.and_eq_true]
      constructor
      · rw [Bool.not_eq_true', Bool.eq_false_iff, ne_eq, is_empty_entries_iff]
        intro hempty
        rw [hempty] at haccepted
        cases haccepted
      · rw [is_empty_entries_iff]
        exact eq_empty_of_lookup_none fun other => AList.lookup_eq_none.2 (hnone other)

end Store

/-! ## Steps -/

section Step

variable {made : TaskStore.Event} {reply : Reply}

theorem is_cancelled_store_call (hcall : storeCall store id live made = some (next, reply))
    (h : live.isCancelled = true) : next.isCancelled = true := by
  rw [(store_call_frame hcall).2.2.2]
  unfold isCancelled at *
  rw [← Bool.or_assoc, h, Bool.true_or]

theorem is_cancelled_of_raises (hcall : storeCall store id live made = some (next, reply))
    (h : raises id made live.world.data next.world.data = true) : next.isCancelled = true := by
  rw [(store_call_frame hcall).2.2.2]
  unfold isCancelled
  dsimp only
  rw [h, Bool.or_true, Bool.or_true]

theorem expecting_called (hcall : storeCall store id live made = some (next, reply))
    (hstep : Stepped store live.world made next.world reply)
    (hfree : reserved id true made.call = false) (h : Expecting id live asked) :
    Expecting id next asked := by
  obtain hawaiting | hdue | hcancelled := h
  · obtain hleft | hraised := awaiting_stepped hstep hfree hawaiting
    · exact .inl hleft
    · exact .inr (.inr (is_cancelled_of_raises hcall hraised))
  · refine .inr (.inl ?_)
    rw [(store_call_frame hcall).2.2.2]
    exact hdue
  · exact .inr (.inr (is_cancelled_store_call hcall hcancelled))

theorem expecting_updated {now : Moment} {responses : InputResponses} {due : ℕ}
    (hcall : storeCall store id live ⟨now, .applyInputResponses id responses⟩ =
      some (next, reply))
    (hstep : Stepped store live.world ⟨now, .applyInputResponses id responses⟩ next.world reply)
    (hcounted : live.due ≤ due)
    (hresumed : ∀ applied, reply = .applied (.ok (some applied)) →
      TaskRouter.resumes applied = true → 0 < due)
    (hnarrow : Narrow id live.world asked) (h : Expecting id live asked) :
    Expecting id { next with due := due } asked := by
  obtain hawaiting | hdue | hcancelled := h
  · obtain hleft | ⟨applied, hreply, hresumes⟩ := awaiting_updated hstep hnarrow hawaiting
    · exact .inl hleft
    · exact .inr (.inl (hresumed applied hreply hresumes))
  · exact .inr (.inl (Nat.lt_of_lt_of_le hdue hcounted))
  · have hcancelled : next.isCancelled = true := is_cancelled_store_call hcall hcancelled
    exact .inr (.inr hcancelled)

theorem Wakeful.mono (h : Wakeful id live) (hregistered : next.registered = live.registered)
    (hparks : next.parks = live.parks)
    (hnarrow : ∀ asked, Narrow id live.world asked → Narrow id next.world asked)
    (hexpecting : ∀ asked, Narrow id live.world asked → Expecting id live asked →
      Expecting id next asked)
    (hpermit : live.permit = true → next.permit = true) : Wakeful id next where
  registered := hregistered.trans h.registered
  single := by
    rw [hparks]
    exact h.single
  alert := by
    rw [hparks]
    exact h.alert.mono fun call hcall =>
      hcall.mono (hnarrow call.asked) (hexpecting call.asked) hpermit

theorem Wakeful.become (h : Wakeful id live) (hget : live.parks.get ticket = some call)
    (hcall : isReturned call.point = false) {point : ParkPoint}
    (hmoved : Alert id live { call with point := point }) :
    Wakeful id (live.become ticket call point) where
  registered := h.registered
  single := h.single.become hget hcall _
  alert := h.single.alert_become hget hcall (hmoved.mono (fun h => h) (fun _ h => h) fun h => h)

theorem Wakeful.wake (h : Wakeful id live) (hqueued : live.Queued) (due : ℕ) :
    Wakeful id { live with due := due }.notifyOne := by
  obtain ⟨hnone, heq⟩ | ⟨ticket, rest, asked, hwaiters, hget, heq⟩ :=
    notify_one_cases (hqueued.with_due due)
  · rw [heq]
    refine ⟨h.registered, h.single, fun ticket call hget => ?_⟩
    have halert : Alert id live call := h.alert ticket call hget
    obtain ⟨asked, point⟩ := call
    cases point with
    | asking _ _ => exact halert
    | returned _ => trivial
    | selecting => exact ⟨halert.1, .inr rfl⟩
    | suspended =>
      have hmem : ticket ∈ live.waiters := (hqueued.suspended ticket).2 ⟨asked, hget⟩
      rw [hnone] at hmem
      cases hmem
    | parked | looping | woken | answered => exact halert
  · have halert : Alert id live ⟨asked, .suspended⟩ := h.alert.of_get hget
    rw [heq]
    exact ⟨h.registered, h.single.become hget rfl _, h.single.alert_become hget rfl halert.1⟩

theorem Wakeful.finish (h : Wakeful id live) (ticket : ℕ) :
    Wakeful id { live with
      parks := live.parks.finish ticket, waiters := live.waiters.erase ticket } where
  registered := h.registered
  single := h.single.finish ticket
  alert := h.alert.finish.mono fun _ hcall =>
    hcall.mono (fun h => h) (fun _ h => h) fun h => h

theorem alert_looked {now : Instant} (hsound : Sound store live.world)
    (hlater : live.world.clock ≤ now) (h : Narrow id live.world asked) :
    Alert id (live.laterAt now) ⟨asked, (live.laterAt now).looked id asked now⟩ := by
  unfold looked
  split
  next => trivial
  next outstanding houtstanding =>
    obtain ⟨stored, hread, rfl⟩ := Option.map_eq_some_iff.1 houtstanding
    obtain ⟨hlookup, hunexpired⟩ := readable_eq_some.1 (readable_now hlater hread)
    split
    next hopen =>
      obtain ⟨key, hkey, hasked⟩ := List.any_eq_true.1 hopen
      have hunsignalled : stored.expirySignalled = false := by
        refine Bool.eq_false_iff.2 fun hsignalled => ?_
        rw [hsound.signalled id stored hlookup hsignalled] at hunexpired
        cases hunexpired
      have hawaiting : Awaiting id live.world asked := ⟨stored, hlookup, hunsignalled, key,
        List.contains_iff_mem.1 hasked, mem_sorted_keys_iff.1 hkey⟩
      exact ⟨h, .inl (.inl hawaiting)⟩
    next => exact h

theorem wakeful_step {event : Event} (h : Wakeful id live) (hconsistent : Consistent store live)
    (hrunning : live.running = true) (hfresh : FreshEvent live event) (hsingle : SinglePark live event)
    (hstep : step store id live event = some next) (hstays : next.running = true) :
    Wakeful id next := by
  have hqueued := hconsistent.queued
  have hdraw : ∀ made, live.makes id event = some made → TaskStore.FreshDraw live.world made :=
    fun made hmakes name hname => hfresh name (drawn_of_makes hmakes hname)
  cases taken_of_step hstep with
  | called made _ reply free returned =>
    rw [hrunning] at free
    have hstepped := store_call_stepped hconsistent.sound (hdraw made rfl) returned
    have hpark : ∀ requests message, made.call ≠ .requireInput id requests message := by
      intro requests message hcall
      rw [hcall] at free
      simp [reserved] at free
    have hframe := (store_call_frame returned).2.2.2
    refine h.mono ?_ ?_ (fun asked hnarrow => narrow_stepped hstepped hpark hnarrow)
      (fun asked _ hexpecting => expecting_called returned hstepped free hexpecting) ?_
    · rw [hframe]
    · rw [hframe]
    · rw [hframe]
      exact fun h => h
  | asked requests message =>
    have halert : Alert id live ⟨requests.sortedKeys, live.asking requests message⟩ := by
      unfold asking
      split
      · trivial
      · split
        · trivial
        · rfl
    refine ⟨h.registered, Single.start hsingle _, Pool.Holds.start ?_ ?_⟩
    · exact h.alert.mono fun call hcall =>
        hcall.mono (fun h => h) (fun _ h => h) fun h => h
    · exact halert.mono (fun h => h) (fun _ h => h) fun h => h
  | parked ticket now asked requests message middle reply held returned =>
    have hasked : asked = requests.sortedKeys := h.alert.of_get held
    have hstepped := store_call_stepped hconsistent.sound (hdraw _ (by
      unfold makes
      dsimp only
      rw [held])) returned
    have hframe := (store_call_frame returned).2.2.2
    have hheld : middle.parks.get ticket = some ⟨asked, .asking requests message⟩ := by
      rw [hframe]
      exact held
    have hone : Single middle.parks := by
      rw [hframe]
      exact h.single
    have halert : Alert id middle ⟨asked, parkedBy reply⟩ := by
      unfold parkedBy
      split
      · rw [hasked]
        exact narrow_parked hstepped
      · trivial
      · trivial
    refine ⟨?_, hone.become hheld rfl _, hone.alert_become hheld rfl ?_⟩
    · show middle.registered = true
      rw [hframe]
      exact h.registered
    · exact halert.mono (fun h => h) (fun _ h => h) fun h => h
  | updated now responses middle reply due returned counted resumed =>
    have hstepped := store_call_stepped hconsistent.sound (hdraw _ rfl) returned
    have hframe := (store_call_frame returned).2.2.2
    refine h.mono ?_ ?_ (fun asked hnarrow => narrow_stepped hstepped nofun hnarrow)
      (fun asked hnarrow hexpecting =>
        expecting_updated returned hstepped counted resumed hnarrow hexpecting) ?_
    · show middle.registered = live.registered
      rw [hframe]
    · show middle.parks = live.parks
      rw [hframe]
    · show live.permit = true → middle.permit = true
      rw [hframe]
      exact fun h => h
  | wokenUp pending _ woken =>
    obtain rfl | ⟨hgone, _⟩ := woken
    · exact h.wake hqueued _
    · rw [h.registered] at hgone
      cases hgone
  | cancelled =>
    refine h.mono rfl rfl (fun _ h => h) (fun asked _ _ => ?_) fun h => h
    have hcancelled : isCancelled { live with token := true } = true := rfl
    exact .inr (.inr hcancelled)
  | waited ticket asked held =>
    have halert : Alert id live ⟨asked, .parked⟩ := h.alert.of_get held
    refine h.become held rfl ?_
    split
    · trivial
    · exact halert
  | looked ticket now asked held later =>
    have halert : Alert id live ⟨asked, .looping⟩ := h.alert.of_get held
    have hlater : Wakeful id (live.laterAt now) :=
      h.mono rfl rfl (fun _ h => h) (fun _ _ h => h) fun h => h
    exact hlater.become held rfl (alert_looked hconsistent.sound later halert)
  | selected ticket cancelledFirst asked held =>
    have halert : Alert id live ⟨asked, .selecting⟩ := h.alert.of_get held
    obtain ⟨_, heq⟩ | ⟨hpermit, heq⟩ | ⟨hpermit, _, heq⟩ :=
      select_cases live ticket ⟨asked, .selecting⟩ cancelledFirst
    · rw [heq]
      exact h.become held rfl trivial
    · rw [heq]
      exact ⟨h.registered, h.single.become held rfl _, h.single.alert_become held rfl halert.1⟩
    · rw [heq]
      have hexpecting := halert.2.resolve_right (by rw [hpermit]; exact Bool.false_ne_true)
      have halert : Alert id live ⟨asked, .suspended⟩ := ⟨halert.1, hexpecting⟩
      refine ⟨h.registered, h.single.become held rfl _, h.single.alert_become held rfl ?_⟩
      exact halert.mono (fun h => h) (fun _ h => h) fun h => h
  | resumed ticket cancelledFirst call _ held polled =>
    obtain ⟨hpoint, _, rfl⟩ | ⟨hpoint, _, rfl⟩ | ⟨hpoint, rfl⟩ := resume_cases polled
    · have hleft : Wakeful id { live with waiters := live.waiters.erase ticket } :=
        h.mono rfl rfl (fun _ h => h) (fun _ _ h => h) fun h => h
      exact hleft.become held (by rw [hpoint]; rfl) trivial
    · have hreturned : Wakeful id (live.become ticket call (.returned (.error .taskCancelled))) :=
        h.become held (by rw [hpoint]; rfl) trivial
      have hqueued : (live.become ticket call (.returned (.error .taskCancelled))).Queued :=
        hqueued.become held (by rw [hpoint]; exact nofun) nofun
      exact hreturned.wake hqueued live.due
    · have halert : Alert id live call := h.alert.of_get held
      unfold Alert at halert
      rw [hpoint] at halert
      exact h.become held (by rw [hpoint]; rfl) halert
  | wasRead ticket now asked held later =>
    have hlater : Wakeful id (live.laterAt now) :=
      h.mono rfl rfl (fun _ h => h) (fun _ _ h => h) fun h => h
    exact hlater.become held rfl trivial
  | dropped ticket call _ held gone =>
    obtain rfl | rfl := drop_call_cases gone
    · exact h.finish ticket
    · exact (h.finish ticket).wake (hqueued.drop ticket) live.due
  | left running => cases hstays
  | unregistered returned =>
    rw [hrunning] at returned
    cases returned

end Step

/-! ## Runs -/

/-- A wait inside its `select!`. -/
def isBlocked : ParkPoint → Bool
  | .suspended | .woken => true
  | _ => false

/-- The next poll of a wait takes it out of its `select!`, whichever branch is polled first. -/
def Unblocks (store : MemoryTaskStore) (id : String) (live : LiveTask) (ticket : ℕ) : Prop :=
  ∀ cancelledFirst, ∃ next moved, step store id live (.poll ticket cancelledFirst) = some next ∧
    next.parks.get ticket = some moved ∧
      (moved.point = .looping ∨ moved.point = .returned (.error .taskCancelled))

def WakeDue (store : MemoryTaskStore) (id : String) (live : LiveTask) (ticket : ℕ)
    (asked : List String) : Prop :=
  0 < live.due ∧ ∃ next, step store id live .wake = some next ∧
    next.parks.get ticket = some ⟨asked, .woken⟩

def FlagDue (store : MemoryTaskStore) (id : String) (live : LiveTask) : Prop :=
  Overdue id live ∧ ∀ now remove, live.world.clock ≤ now.instant →
    ∃ next, step store id live (.call ⟨now, .retireExpired remove⟩) = some next ∧
      next.isCancelled = true

def Remembered (store : MemoryTaskStore) (id : String) (live : LiveTask) (ticket : ℕ)
    (asked : List String) : Prop :=
  StillAsked id live asked ∨ Unblocks store id live ticket ∨ WakeDue store id live ticket asked ∨
    FlagDue store id live

theorem get_notify_one (h : live.Queued) (hget : live.parks.get ticket = some call)
    (hpoint : call.point ≠ .suspended) : live.notifyOne.parks.get ticket = some call := by
  obtain ⟨_, heq⟩ | ⟨woken, rest, asked, _, hwoken, heq⟩ := notify_one_cases h
  · rw [heq]
    exact hget
  · rw [heq, get_become, if_neg]
    · exact hget
    · rintro rfl
      obtain rfl := Option.some.inj (hget.symm.trans hwoken)
      exact hpoint rfl

theorem unblocks_of_woken (h : live.Queued) (hget : live.parks.get ticket = some ⟨asked, .woken⟩) :
    Unblocks store id live ticket := by
  intro cancelledFirst
  unfold step
  dsimp only
  rw [hget]
  dsimp only [resume]
  split
  · have hqueued : (live.become ticket ⟨asked, .woken⟩
        (.returned (.error .taskCancelled))).Queued := h.become hget nofun nofun
    have hreturned : (live.become ticket ⟨asked, .woken⟩
        (.returned (.error .taskCancelled))).parks.get ticket =
          some ⟨asked, .returned (.error .taskCancelled)⟩ := by
      rw [get_become, if_pos rfl]
    exact ⟨_, _, rfl, get_notify_one hqueued hreturned nofun, .inr rfl⟩
  · refine ⟨_, ⟨asked, .looping⟩, rfl, ?_, .inl rfl⟩
    rw [get_become, if_pos rfl]

theorem unblocks_of_cancelled (hget : live.parks.get ticket = some ⟨asked, .suspended⟩)
    (hcancelled : live.isCancelled = true) : Unblocks store id live ticket := by
  intro cancelledFirst
  unfold step
  dsimp only
  rw [hget]
  dsimp only [resume]
  rw [if_pos hcancelled]
  refine ⟨_, ⟨asked, .returned (.error .taskCancelled)⟩, rfl, ?_, .inr rfl⟩
  rw [get_become, if_pos rfl]

theorem wake_due_of_suspended (h : Wakeful id live) (hqueued : live.Queued)
    (hget : live.parks.get ticket = some ⟨asked, .suspended⟩) (hdue : 0 < live.due) :
    WakeDue store id live ticket asked := by
  refine ⟨hdue, { live with due := live.due - 1 }.notifyOne, ?_, ?_⟩
  · unfold step
    dsimp only
    rw [if_neg (Nat.ne_of_gt hdue), if_pos h.registered]
  · obtain ⟨hnone, _⟩ | ⟨woken, rest, held, _, hwoken, heq⟩ :=
      notify_one_cases (hqueued.with_due (live.due - 1))
    · have hmem : ticket ∈ live.waiters := (hqueued.suspended ticket).2 ⟨asked, hget⟩
      rw [hnone] at hmem
      cases hmem
    · obtain rfl := h.single woken ticket _ _ hwoken hget rfl rfl
      obtain rfl := PendingInput.mk.inj (Option.some.inj (hwoken.symm.trans hget)) |>.1
      rw [heq, get_become, if_pos rfl]

theorem store_call_returns (id : String) {made : TaskStore.Event} (h : Sound store live.world)
    (hfresh : TaskStore.FreshDraw live.world made) (hlater : live.world.clock ≤ made.now.instant) :
    ∃ next reply, storeCall store id live made = some (next, reply) := by
  have htaken : ∃ after, TaskStore.step store live.world made = some after := by
    unfold TaskStore.step
    rw [if_neg]
    · split
      · exact ⟨_, rfl⟩
      · exact ⟨_, rfl⟩
    · rintro (hearly | hfault)
      · exact Nat.not_lt.2 hlater hearly
      · rw [h.fault] at hfault
        cases hfault
  obtain ⟨after, hstep⟩ := htaken
  obtain ⟨reply, hstepped⟩ := TaskStore.step_sound h hfresh hstep
  unfold storeCall
  rw [hstep]
  dsimp only
  rw [hstepped.sound.fault, hstepped.log]
  exact ⟨_, _, rfl⟩

theorem flag_due_of_overdue (h : Sound store live.world) (hoverdue : Overdue id live) :
    FlagDue store id live := by
  refine ⟨hoverdue, fun now remove hlater => ?_⟩
  obtain ⟨stored, hlookup, hexpired, _⟩ := hoverdue
  have hfresh : TaskStore.FreshDraw live.world ⟨now, .retireExpired remove⟩ := nofun
  obtain ⟨next, reply, hcall⟩ := store_call_returns id h hfresh hlater
  refine ⟨next, ?_, is_cancelled_of_raises hcall
    (raises_of_retired hlookup rfl (Task.is_expired_at_mono hlater hexpired))⟩
  unfold step
  dsimp only
  rw [hcall]
  rfl

theorem remembered_of_wakeful (h : Wakeful id live) (hconsistent : Consistent store live)
    (hget : live.parks.get ticket = some call) (hblocked : isBlocked call.point = true) :
    Remembered store id live ticket call.asked := by
  have halert : Alert id live call := h.alert.of_get hget
  obtain ⟨asked, point⟩ := call
  cases point with
  | woken => exact .inr (.inl (unblocks_of_woken hconsistent.queued hget))
  | suspended =>
    cases hcancelled : live.isCancelled with
    | true => exact .inr (.inl (unblocks_of_cancelled hget hcancelled))
    | false =>
      obtain ⟨stored, hlookup, hunsignalled, hopen⟩ | hdue | hset := halert.2
      · cases hexpired : stored.task.isExpiredAt live.world.clock with
        | false =>
          exact .inl ⟨hcancelled, stored, readable_eq_some.2 ⟨hlookup, hexpired⟩, hopen⟩
        | true =>
          exact .inr (.inr (.inr (flag_due_of_overdue hconsistent.sound
            ⟨stored, hlookup, hexpired, hunsignalled⟩)))
      · exact .inr (.inr (.inl (wake_due_of_suspended h hconsistent.queued hget hdue)))
      · rw [hset] at hcancelled
        cases hcancelled
  | asking _ _ | parked | looping | selecting | answered | returned _ => cases hblocked

theorem wakeful_init (id : String) : Wakeful id {} where
  registered := rfl
  single := by
    intro first second call other hget
    simp [Pool.get] at hget
  alert := Pool.holds_empty

theorem running_before {event : Event} (hstep : step store id live event = some next)
    (h : next.running = true) : live.running = true := by
  cases taken_of_step hstep with
  | called _ _ _ _ returned =>
    rw [(store_call_frame returned).2.2.2] at h
    exact h
  | parked _ _ _ _ _ middle _ _ returned =>
    change middle.running = true at h
    rw [(store_call_frame returned).2.2.2] at h
    exact h
  | updated _ _ middle _ _ returned _ _ =>
    change middle.running = true at h
    rw [(store_call_frame returned).2.2.2] at h
    exact h
  | wokenUp _ _ woken =>
    obtain rfl | ⟨_, rfl⟩ := woken
    · obtain ⟨_, _, _, heq⟩ := notify_one_frame { live with due := live.due - 1 }
      rw [heq] at h
      exact h
    · exact h
  | selected ticket cancelledFirst asked _ =>
    obtain ⟨_, _, _, heq⟩ := select_frame live ticket ⟨asked, .selecting⟩ cancelledFirst
    rw [heq] at h
    exact h
  | resumed _ _ _ _ _ polled =>
    obtain ⟨_, _, _, rfl⟩ := resume_frame polled
    exact h
  | dropped _ _ _ _ gone =>
    obtain ⟨_, _, _, rfl⟩ := drop_call_frame gone
    exact h
  | left running => cases h
  | asked _ _ | cancelled | waited _ _ _ | looked _ _ _ _ _ | wasRead _ _ _ _ _
  | unregistered _ => exact h

def unwokenEvents : List Event :=
  [.call ⟨⟨0, "t0"⟩, .createTask ⟨0, "t0"⟩ "a" "report" .null none none⟩,
    .ask (AList.insert "k" TaskStore.question ∅) none, .park 0 ⟨1, "t1"⟩,
    .wait 0, .look 0 2, .poll 0 false,
    .update ⟨3, "t3"⟩ (AList.insert "k" (.elicit (.ok (.bool true))) ∅)]

def leftBehind (live : LiveTask) : Bool :=
  live.running && !live.permit && !live.isCancelled &&
    (match live.parks.get 0 with
      | some ⟨_, .suspended⟩ => true
      | _ => false) &&
    (live.world.readable "a").all fun stored => stored.task.inputRequests.entries.isEmpty

theorem left_behind_eq_true (h : leftBehind live = true) :
    live.running = true ∧ live.permit = false ∧ live.isCancelled = false ∧
      (∃ asked, live.parks.get 0 = some ⟨asked, .suspended⟩) ∧
      ∀ asked, ¬ StillAsked "a" live asked := by
  unfold leftBehind at h
  rw [Bool.and_eq_true, Bool.and_eq_true, Bool.and_eq_true, Bool.and_eq_true,
    Bool.not_eq_true', Bool.not_eq_true'] at h
  obtain ⟨⟨⟨⟨hrunning, hpermit⟩, hcancelled⟩, hsuspended⟩, hanswered⟩ := h
  refine ⟨hrunning, hpermit, hcancelled, ?_, ?_⟩
  · split at hsuspended
    next asked hget => exact ⟨asked, hget⟩
    next => cases hsuspended
  · rintro asked ⟨_, stored, hread, key, _, hopen⟩
    rw [hread, Option.all_some, is_empty_entries_iff] at hanswered
    rw [hanswered] at hopen
    cases hopen

theorem unwoken_run : ∃ live,
    run (step TaskStore.defaultStore "a") {} unwokenEvents = some live ∧
      leftBehind live = true := by
  decide +kernel

/-- Between the commit of an update and its wake-up, a wait is blocked with nothing set that ends
it. -/
theorem answered_wait_not_woken_yet :
    ¬ ∀ (store : MemoryTaskStore) (id : String) (events : List Event) (live : LiveTask),
      (events.filterMap drawn).Nodup → run (step store id) {} events = some live →
      Along (step store id) SinglePark {} events → live.running = true →
      ∀ ticket call, live.parks.get ticket = some call → isBlocked call.point = true →
        StillAsked id live call.asked ∨ call.point = .woken ∨ live.permit = true ∨
          live.isCancelled = true := by
  intro h
  obtain ⟨live, hrun, hleft⟩ := unwoken_run
  obtain ⟨hrunning, hpermit, hcancelled, ⟨asked, hget⟩, hnone⟩ := left_behind_eq_true hleft
  have hsingle : Along (step TaskStore.defaultStore "a") SinglePark {} unwokenEvents := by
    decide +kernel
  obtain hasked | hwoken | hset | hset := h TaskStore.defaultStore "a" unwokenEvents live (by decide)
    hrun hsingle hrunning 0 _ hget rfl
  · exact hnone asked hasked
  · cases hwoken
  · rw [hpermit] at hset
    cases hset
  · rw [hcancelled] at hset
    cases hset

/-- While the handler runs and one park at a time is outstanding, a blocked wait has a key of its
outstanding in a task that is neither cancelled nor expired, or it has been woken or the token is
raised, or a wake-up is due that wakes it, or the task has expired and the next retirement raises the
token. -/
theorem blocked_wait_is_remembered (store : MemoryTaskStore) (id : String) (events : List Event)
    (live : LiveTask) (hfresh : (events.filterMap drawn).Nodup)
    (hrun : run (step store id) {} events = some live)
    (hsingle : Along (step store id) SinglePark {} events)
    (hrunning : live.running = true) :
    ∀ ticket call, live.parks.get ticket = some call → isBlocked call.point = true →
      Remembered store id live ticket call.asked := by
  have halong := (along_fresh_event store id hfresh).and hsingle
  have hwakeful : Consistent store live ∧ (live.running = true → Wakeful id live) := by
    refine along_invariant
      (I := fun live => Consistent store live ∧ (live.running = true → Wakeful id live))
      ?_ ⟨consistent_init store, fun _ => wakeful_init id⟩ halong hrun
    intro live event next hinvariant hboth hstep
    refine ⟨consistent_step hinvariant.1 hboth.1 hstep, fun hstays => ?_⟩
    have hrunning := running_before hstep hstays
    exact wakeful_step (hinvariant.2 hrunning) hinvariant.1 hrunning hboth.1 hboth.2 hstep hstays
  intro ticket call hget hblocked
  exact remembered_of_wakeful (hwakeful.2 hrunning) hwakeful.1 hget hblocked

theorem answered_wait_is_remembered : ∃ live asked,
    run (step TaskStore.defaultStore "a") {} unwokenEvents = some live ∧
      live.parks.get 0 = some ⟨asked, .suspended⟩ ∧
      Remembered TaskStore.defaultStore "a" live 0 asked := by
  obtain ⟨live, hrun, hleft⟩ := unwoken_run
  obtain ⟨hrunning, _, _, ⟨asked, hget⟩, _⟩ := left_behind_eq_true hleft
  have hsingle : Along (step TaskStore.defaultStore "a") SinglePark {} unwokenEvents := by
    decide +kernel
  exact ⟨live, asked, hrun, hget, blocked_wait_is_remembered TaskStore.defaultStore "a"
    unwokenEvents live (by decide) hrun hsingle hrunning 0 _ hget rfl⟩

end LiveTask

end TowerMcp
