import TowerMcp.Tool.Parking

/-!
# A wait returns every answer it asked for

A wait ends once none of its keys is outstanding, and then takes what was recorded under them. A key
that was answered is no longer outstanding, and neither is one that a later park has superseded or
that the end of the task has cleared. `keeps_of_task_change` says that only these two drop a key, so
a wait that returns a map has every answer in it when no key of its park is dropped before.
-/

namespace TowerMcp

open Execution MemoryTaskStore FinMap

/-! ## Keys and responses of a task -/

namespace Task

structure Keeps (before after : Task) (key : String) : Prop where
  outstanding : key ∈ before.inputRequests →
    key ∈ after.inputRequests ∨ key ∈ after.inputResponses
  answered : key ∈ before.inputResponses → key ∈ after.inputResponses

instance (before after : Task) (key : String) : Decidable (Keeps before after key) :=
  decidable_of_iff
    ((key ∈ before.inputRequests → key ∈ after.inputRequests ∨ key ∈ after.inputResponses) ∧
      (key ∈ before.inputResponses → key ∈ after.inputResponses))
    ⟨fun h => ⟨h.1, h.2⟩, fun h => ⟨h.outstanding, h.answered⟩⟩

theorem lookup_foldl_apply_input_response (answers : List (String × InputResponse))
    (state : Task × AppliedInputResponses) {key : String} {response : InputResponse}
    (h : (answers.foldl applyInputResponse state).1.inputResponses.lookup key = some response) :
    state.1.inputResponses.lookup key = some response ∨
      ((key, response) ∈ answers ∧ key ∈ state.1.inputRequests) := by
  induction answers generalizing state with
  | nil => exact .inl h
  | cons answer rest ih =>
    obtain ⟨given, value⟩ := answer
    rw [List.foldl_cons] at h
    cases hlookup : state.1.inputRequests.lookup given with
    | none =>
      have hsame : (applyInputResponse state (given, value)).1 = state.1 := by
        unfold applyInputResponse
        dsimp only
        rw [hlookup]
      obtain hbefore | ⟨hmem, hopen⟩ := ih _ h
      · rw [hsame] at hbefore
        exact .inl hbefore
      · rw [hsame] at hopen
        exact .inr ⟨List.mem_cons_of_mem _ hmem, hopen⟩
    | some request =>
      have htaken : (applyInputResponse state (given, value)).1 = { state.1 with
          inputRequests := state.1.inputRequests.erase given
          answeredInputKeys := state.1.answeredInputKeys.insert given ()
          inputResponses := state.1.inputResponses.insert given value } := by
        unfold applyInputResponse
        dsimp only
        rw [hlookup]
      obtain hbefore | ⟨hmem, hopen⟩ := ih _ h
      · rw [htaken] at hbefore
        rw [lookup_insert_eq_ite] at hbefore
        split at hbefore
        next hkey =>
          rw [hkey, Option.some.inj hbefore]
          exact .inr ⟨List.mem_cons_self, mem_iff_lookup.2 ⟨request, hlookup⟩⟩
        next => exact .inl hbefore
      · rw [htaken] at hopen
        exact .inr ⟨List.mem_cons_of_mem _ hmem, (AList.mem_erase.1 hopen).2⟩

theorem lookup_apply_input_responses {now : Moment} {task : Task} {responses : InputResponses}
    {key : String} {response : InputResponse}
    (h : (task.applyInputResponses now responses).1.inputResponses.lookup key = some response) :
    task.inputResponses.lookup key = some response ∨
      (responses.lookup key = some response ∧ key ∈ task.inputRequests) := by
  have hafter : ∀ (applied : AppliedInputResponses) (consumed : Task),
      (consumed.afterResponses now applied).inputResponses = consumed.inputResponses := by
    intro applied consumed
    unfold afterResponses
    dsimp only
    split
    all_goals split
    all_goals rfl
  unfold applyInputResponses at h
  dsimp only at h
  rw [hafter] at h
  obtain hbefore | ⟨hmem, hopen⟩ := lookup_foldl_apply_input_response _ _ h
  · exact .inl hbefore
  · exact .inr ⟨mem_sorted_pairs_iff.1 hmem, hopen⟩

end Task

section TaskChange

variable {store : MemoryTaskStore} {now : Moment} {call : StoreCall} {reply : Reply}
  {before after : Task} {key : String}

theorem input_responses_cancelled_task (store : MemoryTaskStore) (now : Moment) (task : Task)
    (reason : Option String) :
    (store.cancelledTask now task reason).inputResponses = task.inputResponses ∨
      (store.cancelledTask now task reason).inputResponses = ∅ := by
  unfold cancelledTask
  split
  · exact .inl rfl
  · exact .inr rfl

theorem response_of_task_change (h : TaskChange store now call reply before after)
    {response : InputResponse} (hafter : after.inputResponses.lookup key = some response) :
    before.inputResponses.lookup key = some response ∨
      ∃ id responses, call = .applyInputResponses id responses ∧
        reply = .applied (.ok (some (before.applyInputResponses now responses).2)) ∧
        responses.lookup key = some response ∧ key ∈ before.inputRequests := by
  cases h with
  | answered id responses _ live =>
    obtain hbefore | ⟨hgiven, hopen⟩ := Task.lookup_apply_input_responses hafter
    · exact .inl hbefore
    · exact .inr ⟨id, responses, rfl, rfl, hgiven, hopen⟩
  | completionRejected _ _ _ _ _ | failureRejected _ _ _ _ _ =>
    cases hafter
  | cancelled _ reason _ final _ outcome =>
    have hresponses : final.inputResponses = before.inputResponses ∨
        final.inputResponses = ∅ := by
      obtain rfl | rfl := outcome
      · exact input_responses_cancelled_task store now before.raiseToken reason
      · exact .inr rfl
    change final.inputResponses.lookup key = some response at hafter
    obtain hsame | hnone := hresponses
    · rw [hsame] at hafter
      exact .inl hafter
    · rw [hnone] at hafter
      cases hafter
  | described _ _ _ | parked _ _ _ _ _ _ _ | progressed _ _ _ _ _ _ | extended _ _ _
  | completed _ _ _ _ | failed _ _ _ _ | signalled _ _ _ _ => exact .inl hafter

end TaskChange

namespace LiveTask

open TaskStore (World Stepped Sound drawnIds accepts)

/-! ## The answers a history records -/

def recorded (id key : String) (entry : TaskStore.Event × Reply) : Option InputResponse :=
  if accepts id key entry then
    match entry.1.call with
    | .applyInputResponses _ responses => responses.lookup key
    | _ => none
  else none

def answersTo (id key : String) (log : List (TaskStore.Event × Reply)) : List InputResponse :=
  log.filterMap (recorded id key)

structure Complete (id : String) (log : List (TaskStore.Event × Reply)) (asked : List String)
    (answers : InputResponses) : Prop where
  answered : ∀ key ∈ asked, ∃ response, answersTo id key log = [response] ∧
    answers.lookup key = some response
  only : ∀ key, key ∉ asked → answers.lookup key = none

theorem accepts_of_recorded {id key : String} {entry : TaskStore.Event × Reply}
    {response : InputResponse} (h : recorded id key entry = some response) :
    accepts id key entry = true :=
  (Option.ite_none_right_eq_some.1 h).1

theorem length_answers_to_le (id key : String) (log : List (TaskStore.Event × Reply)) :
    (answersTo id key log).length ≤ (log.filter (accepts id key)).length := by
  unfold answersTo
  induction log with
  | nil => exact Nat.le_refl _
  | cons entry rest ih =>
    rw [List.filterMap_cons, List.filter_cons]
    cases hentry : recorded id key entry with
    | none =>
      dsimp only
      split
      next => exact Nat.le_succ_of_le ih
      next => exact ih
    | some response =>
      rw [if_pos (accepts_of_recorded hentry)]
      exact Nat.succ_le_succ ih

variable {world : World}

theorem answers_to_eq_singleton {id key : String} {response : InputResponse}
    (h : TaskStore.InputHistory world) (hmem : response ∈ answersTo id key world.log) :
    answersTo id key world.log = [response] := by
  have hlength := Nat.le_trans (length_answers_to_le id key world.log) (h.once id key)
  cases hanswers : answersTo id key world.log with
  | nil =>
    rw [hanswers] at hmem
    cases hmem
  | cons first rest =>
    rw [hanswers, List.length_cons] at hlength
    rw [hanswers] at hmem
    have hrest : rest = [] := List.eq_nil_of_length_eq_zero (by omega)
    rw [hrest, List.mem_singleton] at hmem
    rw [hrest, hmem]

def Recorded (world : World) : Prop :=
  ∀ id stored, world.data.tasks.lookup id = some stored → stored.expirySignalled = false →
    ∀ key response, stored.task.inputResponses.lookup key = some response →
      response ∈ answersTo id key world.log

section Store

variable {store : MemoryTaskStore} {world next : World} {made : TaskStore.Event} {reply : Reply}
  {id : String}

theorem mem_answers_to_of_stepped (hstep : Stepped store world made next reply) {key : String}
    {response : InputResponse} (h : response ∈ answersTo id key world.log) :
    response ∈ answersTo id key next.log := by
  unfold answersTo at *
  rw [hstep.log, List.filterMap_cons]
  split
  · exact h
  · exact List.mem_cons_of_mem _ h

theorem recorded_step (h : Recorded world) (hstep : Stepped store world made next reply) :
    Recorded next := by
  intro id stored hlookup hunsignalled key response hresponse
  have hchange := hstep.changes id
  rw [hlookup] at hchange
  generalize hbefore : world.data.tasks.lookup id = before at hchange
  cases hchange with
  | kept _ quiet =>
    exact mem_answers_to_of_stepped hstep
      (h id stored hbefore hunsignalled key response hresponse)
  | admitted _ _ _ _ _ _ _ drawn task _ =>
    rw [task] at hresponse
    cases hresponse
  | changed old _ named _ unsignalled change =>
    obtain hearlier | ⟨taskId, responses, hcall, hreply, hgiven, hopen⟩ :=
      response_of_task_change change hresponse
    · exact mem_answers_to_of_stepped hstep
        (h id old hbefore unsignalled.1 key response hearlier)
    · rw [hcall] at named
      obtain rfl := Option.some.inj named
      have haccepted := ((Task.answered_apply_input_responses made.now old.task
        responses).accepted key).2 ⟨mem_iff_lookup.2 ⟨response, hgiven⟩, hopen⟩
      have hentry : recorded taskId key (made, reply) = some response := by
        have haccepts : accepts taskId key (made, reply) = true := by
          unfold accepts
          dsimp only
          rw [hcall, hreply]
          dsimp only
          rw [beq_self_eq_true, Bool.true_and]
          exact AList.lookup_isSome.2 haccepted
        unfold recorded
        rw [if_pos haccepts]
        rw [hcall]
        exact hgiven
      unfold answersTo
      rw [hstep.log, List.filterMap_cons, hentry]
      exact List.mem_cons_self
  | retired _ old _ _ =>
    rw [expiry_signalled_retired_record] at hunsignalled
    cases hunsignalled

theorem readable_before {now : Instant} {stored : StoredTask}
    (hstep : Stepped store world made next reply) (hdrawn : made.call.drawnId ≠ some id)
    (hread : readable next.data now id = some stored) (hnow : made.now.instant ≤ now) :
    ∃ old, readable world.data made.now.instant id = some old := by
  obtain ⟨hlookup, hunexpired⟩ := readable_eq_some.1 hread
  have hchange := hstep.changes id
  rw [hlookup] at hchange
  generalize hbefore : world.data.tasks.lookup id = before at hchange
  cases hchange with
  | kept _ _ =>
    refine ⟨stored, readable_eq_some.2 ⟨hbefore, ?_⟩⟩
    exact Bool.eq_false_iff.2 fun hexpired => absurd
      (Task.is_expired_at_mono hnow hexpired) (Bool.eq_false_iff.1 hunexpired)
  | admitted _ _ _ _ _ _ _ drawn _ _ =>
    rw [drawn] at hdrawn
    exact absurd rfl hdrawn
  | changed old _ _ unexpired _ _ => exact ⟨old, readable_eq_some.2 ⟨hbefore, unexpired⟩⟩
  | retired _ old _ retiring =>
    have hexpired := (is_retiring_iff.1 retiring).1
    rw [← is_expired_at_retired_record made.now.instant old] at hexpired
    exact absurd (Task.is_expired_at_mono hnow hexpired) (Bool.eq_false_iff.1 hunexpired)

theorem requests_of_parked {now : Moment} {requests : InputRequests} {message : Option String}
    (hstep : Stepped store world ⟨now, .requireInput id requests message⟩ next
      (.done (.ok true))) :
    ∃ stored, next.data.tasks.lookup id = some stored ∧ stored.task.inputRequests = requests := by
  obtain ⟨old, new, -, hnew, -, -, hchange⟩ := changed_of_loud (hstep.changes id) rfl rfl nofun
  obtain ⟨_, _, _, htask, _⟩ := parked_of_task_change hchange
  exact ⟨new, hnew, by rw [htask]; rfl⟩

end Store

/-! ## Runs -/

def isPending : ParkPoint → Bool
  | .parked | .looping | .selecting | .suspended | .woken | .answered => true
  | .asking _ _ | .returned _ => false

def KeptBy (before after : Option StoredTask) (key : String) : Prop :=
  match before, after with
  | some before, some after => before.task.Keeps after.task key
  | _, _ => True

instance (before after : Option StoredTask) (key : String) : Decidable (KeptBy before after key) :=
  match before, after with
  | some before, some after => inferInstanceAs (Decidable (before.task.Keeps after.task key))
  | some _, none => .isTrue trivial
  | none, _ => .isTrue trivial

/-- The event drops no key of a park whose wait has not returned: every such key that is outstanding
stays so or is answered, and every one that is answered stays answered. -/
def Spares (store : MemoryTaskStore) (id : String) (live : LiveTask) (event : Event) : Prop :=
  match live.makes id event with
  | none => True
  | some made =>
    match storeCall store id live made with
    | none => True
    | some (next, _) =>
      live.parks.Holds fun call => isPending call.point = true → ∀ key ∈ call.asked,
        KeptBy (readable live.world.data made.now.instant id)
          (readable next.world.data made.now.instant id) key

instance (store : MemoryTaskStore) (id : String) (live : LiveTask) (event : Event) :
    Decidable (Spares store id live event) := by
  unfold Spares
  split
  · exact .isTrue trivial
  · split
    · exact .isTrue trivial
    · exact Pool.decidableHolds

def Covered (id : String) (world : World) (asked : List String) : Prop :=
  id ∈ drawnIds world.events ∧ ∀ stored, world.readable id = some stored → ∀ key ∈ asked,
    key ∈ stored.task.inputRequests ∨ key ∈ stored.task.inputResponses

def AllAnswered (id : String) (world : World) (asked : List String) : Prop :=
  id ∈ drawnIds world.events ∧ ∀ stored, world.readable id = some stored → ∀ key ∈ asked,
    key ∈ stored.task.inputResponses

/-- What a run owes a call of `park_input`. -/
def Served (id : String) (world : World) (call : PendingInput) : Prop :=
  match call.point with
  | .asking requests _ => call.asked = requests.sortedKeys
  | .answered => AllAnswered id world call.asked
  | .returned (.error _) => True
  | .returned (.ok answers) => Complete id world.log call.asked answers
  | _ => Covered id world call.asked

variable {store : MemoryTaskStore} {id : String} {live next : LiveTask} {call : PendingInput}
  {asked : List String}

variable {now : Instant}

theorem readable_now {stored : StoredTask} (hnow : world.clock ≤ now)
    (hread : readable world.data now id = some stored) : world.readable id = some stored := by
  obtain ⟨hlookup, hunexpired⟩ := readable_eq_some.1 hread
  refine readable_eq_some.2 ⟨hlookup, Bool.eq_false_iff.2 fun hexpired => ?_⟩
  exact absurd (Task.is_expired_at_mono hnow hexpired) (Bool.eq_false_iff.1 hunexpired)

theorem served_later (hnow : live.world.clock ≤ now) (h : Served id live.world call) :
    Served id (live.laterAt now).world call := by
  obtain ⟨asked, point⟩ := call
  have hcovered : Covered id live.world asked → Covered id (live.laterAt now).world asked :=
    fun h => ⟨h.1, fun stored hread => h.2 stored (readable_now hnow hread)⟩
  cases point with
  | asking _ _ => exact h
  | answered => exact ⟨h.1, fun stored hread => h.2 stored (readable_now hnow hread)⟩
  | returned result => cases result <;> exact h
  | parked | looping | selecting | suspended | woken => exact hcovered h

section Step

variable {made : TaskStore.Event} {reply : Reply}

theorem served_stepped {after : World} (hstep : Stepped store world made after reply)
    (hfresh : TaskStore.FreshDraw world made) (hhistory : TaskStore.InputHistory after)
    (hkept : isPending call.point = true → ∀ key ∈ call.asked,
      KeptBy (readable world.data made.now.instant id) (readable after.data made.now.instant id) key)
    (h : Served id world call) : Served id after call := by
  have hbefore : id ∈ drawnIds world.events → ∀ stored, after.readable id = some stored →
      ∃ old, world.readable id = some old ∧
        ∀ key ∈ call.asked, isPending call.point = true → old.task.Keeps stored.task key := by
    intro hdrawn stored hread
    have hread : readable after.data made.now.instant id = some stored := by
      rw [← hstep.clock]
      exact hread
    obtain ⟨old, hold⟩ := readable_before hstep
      (fun hdraw => hfresh id hdraw hdrawn) hread (Nat.le_refl _)
    refine ⟨old, readable_now hstep.later hold, fun key hkey hpending => ?_⟩
    have hkeeps := hkept hpending key hkey
    rw [hold, hread] at hkeeps
    exact hkeeps
  obtain ⟨asked, point⟩ := call
  have hcovered : isPending point = true → Covered id world asked → Covered id after asked := by
    intro hpending hcovered
    refine ⟨TaskStore.drawn_of_stepped hstep hcovered.1, fun stored hread key hkey => ?_⟩
    obtain ⟨old, hold, hkeeps⟩ := hbefore hcovered.1 stored hread
    obtain hopen | hanswered := hcovered.2 old hold key hkey
    · exact (hkeeps key hkey hpending).outstanding hopen
    · exact .inr ((hkeeps key hkey hpending).answered hanswered)
  cases point with
  | asking _ _ => exact h
  | answered =>
    refine ⟨TaskStore.drawn_of_stepped hstep h.1, fun stored hread key hkey => ?_⟩
    obtain ⟨old, hold, hkeeps⟩ := hbefore h.1 stored hread
    exact (hkeeps key hkey rfl).answered (h.2 old hold key hkey)
  | returned result =>
    cases result with
    | error error => exact trivial
    | ok answers =>
      refine ⟨fun key hkey => ?_, h.only⟩
      obtain ⟨response, hanswers, hlookup⟩ := h.answered key hkey
      refine ⟨response, answers_to_eq_singleton hhistory ?_, hlookup⟩
      refine mem_answers_to_of_stepped hstep ?_
      rw [hanswers]
      exact List.mem_singleton_self response
  | parked | looping | selecting | suspended | woken => exact hcovered rfl h

end Step

theorem served_notify_one (hqueued : live.Queued) (h : live.parks.Holds (Served id world)) :
    live.notifyOne.parks.Holds (Served id world) := by
  obtain ⟨_, heq⟩ | ⟨ticket, rest, asked, _, hget, heq⟩ := notify_one_cases hqueued
  · rw [heq]
    exact h
  · rw [heq]
    have hcovered : Covered id world asked := h.of_get hget
    exact h.become hcovered

theorem served_looked (h : Covered id (live.laterAt now).world asked) :
    Served id (live.laterAt now).world ⟨asked, (live.laterAt now).looked id asked now⟩ := by
  unfold looked outstandingInputRequests
  cases hread : readable (live.laterAt now).world.data now id with
  | none => exact trivial
  | some stored =>
    rw [Option.map_some]
    dsimp only
    split
    next => exact h
    next hnone =>
      refine ⟨h.1, fun other hother key hkey => ?_⟩
      obtain rfl := Option.some.inj (hread.symm.trans hother)
      refine (h.2 stored hread key hkey).resolve_left fun hopen => hnone ?_
      rw [List.any_eq_true]
      exact ⟨key, mem_sorted_keys_iff.2 hopen, List.contains_iff_mem.2 hkey⟩

theorem served_read (hconsistent : Consistent store (live.laterAt now))
    (hrecorded : Recorded (live.laterAt now).world)
    (h : AllAnswered id (live.laterAt now).world asked) :
    Served id (live.laterAt now).world
      ⟨asked, .returned ((live.laterAt now).responsesRead id asked now)⟩ := by
  unfold responsesRead inputResponses resumeContext
  cases hread : readable (live.laterAt now).world.data now id with
  | none => exact trivial
  | some stored =>
    have hreadable : (live.laterAt now).world.readable id = some stored := hread
    obtain ⟨hlookup, hunsignalled⟩ :=
      TaskStore.unsignalled_of_readable hconsistent.sound hreadable
    refine ⟨fun key hkey => ?_, fun key hkey => ?_⟩
    · obtain ⟨response, hresponse⟩ := mem_iff_lookup.1 (h.2 stored hread key hkey)
      refine ⟨response, answers_to_eq_singleton hconsistent.history ?_, ?_⟩
      · exact hrecorded id stored hlookup hunsignalled key response hresponse
      · show (stored.task.inputResponses.filterKeys _).lookup key = some response
        rw [lookup_filter_keys, if_pos (List.contains_iff_mem.2 hkey)]
        exact hresponse
    · show (stored.task.inputResponses.filterKeys _).lookup key = none
      rw [lookup_filter_keys, if_neg fun hin => hkey (List.contains_iff_mem.1 hin)]

structure Owed (store : MemoryTaskStore) (id : String) (live : LiveTask) : Prop where
  consistent : Consistent store live
  recorded : Recorded live.world
  served : live.parks.Holds (Served id live.world)

theorem owed_init (store : MemoryTaskStore) (id : String) : Owed store id {} where
  consistent := consistent_init store
  recorded := by
    intro other stored hlookup
    simp at hlookup
  served := Pool.holds_empty

section Step

variable {event : Event} {made : TaskStore.Event} {middle : LiveTask} {reply : Reply}

theorem served_store_call (h : Owed store id live) (hfresh : FreshEvent live event)
    (hspares : Spares store id live event) (hmakes : live.makes id event = some made)
    (hcall : storeCall store id live made = some (middle, reply)) :
    Stepped store live.world made middle.world reply ∧
      middle.parks.Holds (Served id middle.world) := by
  have hdraw : TaskStore.FreshDraw live.world made :=
    fun name hname => hfresh name (drawn_of_makes hmakes hname)
  have hstepped := store_call_stepped h.consistent.sound hdraw hcall
  have hhistory := TaskStore.input_history_step h.consistent.history h.consistent.sound hdraw
    hstepped
  refine ⟨hstepped, ?_⟩
  have hparks : middle.parks = live.parks := by
    rw [(store_call_frame hcall).2.2.2]
  rw [hparks]
  unfold Spares at hspares
  rw [hmakes] at hspares
  dsimp only at hspares
  rw [hcall] at hspares
  intro ticket call hget
  exact served_stepped hstepped hdraw hhistory (hspares ticket call hget)
    (h.served ticket call hget)

theorem served_parked {now : Moment} {requests : InputRequests} {message : Option String}
    (hsound : Sound store middle.world)
    (hstepped : Stepped store live.world ⟨now, .requireInput id requests message⟩ middle.world
      reply) :
    Served id middle.world ⟨requests.sortedKeys, parkedBy reply⟩ := by
  unfold parkedBy
  split
  · obtain ⟨stored, hlookup, hrequests⟩ := requests_of_parked hstepped
    refine ⟨hsound.drawn id stored hlookup, fun other hread key hkey => .inl ?_⟩
    obtain rfl := Option.some.inj (hlookup.symm.trans (readable_eq_some.1 hread).1)
    rw [hrequests]
    exact mem_sorted_keys_iff.1 hkey
  · exact trivial
  · exact trivial

theorem served_step (h : Owed store id live) (hfresh : FreshEvent live event)
    (hspares : Spares store id live event) (hstep : step store id live event = some next) :
    next.parks.Holds (Served id next.world) := by
  have hserved := h.served
  have hnext := consistent_step h.consistent hfresh hstep
  cases taken_of_step hstep with
  | called event _ reply free returned =>
    exact (served_store_call h hfresh hspares rfl returned).2
  | updated now responses middle reply due returned counted resumed =>
    exact (served_store_call h hfresh hspares rfl returned).2
  | parked ticket now asked requests message middle reply held returned =>
    have hmakes : live.makes id (.park ticket now) =
        some ⟨now, .requireInput id requests message⟩ := by
      unfold makes
      dsimp only
      rw [held]
    obtain ⟨hstepped, hmiddle⟩ := served_store_call h hfresh hspares hmakes returned
    have hasked : asked = requests.sortedKeys := hserved.of_get held
    refine hmiddle.become ?_
    rw [hasked]
    exact served_parked hstepped.sound hstepped
  | asked requests message =>
    refine hserved.start ?_
    unfold asking
    split
    · exact trivial
    · split
      · exact trivial
      · exact rfl
  | wokenUp pending _ woken =>
    have hless := h.consistent.queued.with_due (live.due - 1)
    obtain rfl | ⟨_, rfl⟩ := woken
    · rw [notify_one_world]
      exact served_notify_one hless hserved
    · exact hserved
  | waited ticket asked held =>
    have hcovered : Covered id live.world asked := hserved.of_get held
    refine hserved.become ?_
    split
    · exact trivial
    · exact hcovered
  | looked ticket now asked held later =>
    have hlater : live.parks.Holds (Served id (live.laterAt now).world) :=
      hserved.mono fun call => served_later later
    have hcovered : Covered id (live.laterAt now).world asked := hlater.of_get held
    exact hlater.become (served_looked hcovered)
  | wasRead ticket now asked held later =>
    have hlater : live.parks.Holds (Served id (live.laterAt now).world) :=
      hserved.mono fun call => served_later later
    have hanswered : AllAnswered id (live.laterAt now).world asked := hlater.of_get held
    have hsound : Consistent store (live.laterAt now) :=
      ⟨h.consistent.sound.advance later, input_history_later h.consistent.history now,
        h.consistent.queued.later_at now⟩
    exact hlater.become (served_read hsound h.recorded hanswered)
  | selected ticket cancelledFirst asked held =>
    have hcovered : Covered id live.world asked := hserved.of_get held
    obtain ⟨_, heq⟩ | ⟨_, heq⟩ | ⟨_, _, heq⟩ :=
      select_cases live ticket ⟨asked, .selecting⟩ cancelledFirst
    · rw [heq]
      exact hserved.become trivial
    · rw [heq]
      exact hserved.become hcovered
    · rw [heq]
      exact hserved.become hcovered
  | resumed ticket cancelledFirst call _ held polled =>
    obtain ⟨asked, point⟩ := call
    obtain ⟨_, _, rfl⟩ | ⟨hpoint, _, rfl⟩ | ⟨hpoint, rfl⟩ := resume_cases polled
    · exact hserved.become trivial
    · dsimp only at hpoint
      rw [notify_one_world]
      refine served_notify_one (h.consistent.queued.become held ?_ nofun)
        (hserved.become trivial)
      rw [hpoint]
      nofun
    · dsimp only at hpoint
      subst hpoint
      have hcovered : Covered id live.world asked := hserved.of_get held
      exact hserved.become hcovered
  | dropped ticket call _ held gone =>
    have hdropped := h.consistent.queued.drop ticket
    obtain rfl | rfl := drop_call_cases gone
    · exact hserved.finish
    · rw [notify_one_world]
      exact served_notify_one hdropped hserved.finish
  | cancelled => exact hserved
  | left running => exact hserved
  | unregistered returned => exact hserved

theorem owed_step (h : Owed store id live) (hfresh : FreshEvent live event)
    (hspares : Spares store id live event) (hstep : step store id live event = some next) :
    Owed store id next := by
  refine ⟨consistent_step h.consistent hfresh hstep, ?_, served_step h hfresh hspares hstep⟩
  obtain ⟨made, middle, reply, hmakes, hcall, hworld⟩ | ⟨now, _, hworld⟩ | hworld :=
    world_cases hstep
  · rw [hworld]
    exact recorded_step h.recorded (served_store_call h hfresh hspares hmakes hcall).1
  · rw [hworld]
    exact h.recorded
  · rw [hworld]
    exact h.recorded

end Step

/-- A park on one question, and a second park through a clone that leaves it out. The first wait then
finds none of its keys outstanding. -/
def supersededEvents : List Event :=
  [.call ⟨⟨0, "t0"⟩, .createTask ⟨0, "t0"⟩ "a" "report" .null none none⟩,
    .ask (AList.insert "k" TaskStore.question ∅) none, .park 0 ⟨1, "t1"⟩,
    .ask (AList.insert "m" TaskStore.question ∅) none, .park 1 ⟨2, "t2"⟩,
    .wait 0, .look 0 3, .read 0 4]

def answeredEvents : List Event :=
  [.call ⟨⟨0, "t0"⟩, .createTask ⟨0, "t0"⟩ "a" "report" .null none none⟩,
    .ask (AList.insert "k" TaskStore.question ∅) none, .park 0 ⟨1, "t1"⟩,
    .wait 0, .look 0 2, .poll 0 false,
    .update ⟨3, "t3"⟩ (AList.insert "k" (.elicit (.ok (.bool true))) ∅), .wake,
    .poll 0 false, .look 0 4, .read 0 5]

/-- Whether the first call asked about `k` and returned a map of that many answers. -/
def returnedAnswers (count : ℕ) (live : LiveTask) : Bool :=
  match live.parks.get 0 with
  | some ⟨asked, .returned (.ok answers)⟩ => asked == ["k"] && answers.entries.length == count
  | _ => false

theorem returned_answers_eq_true {count : ℕ} (h : returnedAnswers count live = true) :
    ∃ answers, live.parks.get 0 = some ⟨["k"], .returned (.ok answers)⟩ ∧
      answers.entries.length = count := by
  unfold returnedAnswers at h
  split at h
  next asked answers hget =>
    rw [Bool.and_eq_true, beq_iff_eq, beq_iff_eq] at h
    obtain ⟨rfl, hcount⟩ := h
    exact ⟨answers, hget, hcount⟩
  next => cases h

/-- A park through a clone supersedes the questions of the first, whose wait then returns an empty
map. -/
theorem superseded_wait_returns_nothing :
    ¬ ∀ (store : MemoryTaskStore) (id : String) (events : List Event) (live : LiveTask),
      (events.filterMap drawn).Nodup → run (step store id) {} events = some live →
      ∀ ticket call answers, live.parks.get ticket = some call →
        call.point = .returned (.ok answers) → Complete id live.world.log call.asked answers := by
  intro h
  obtain ⟨live, hrun, hreturned⟩ : ∃ live,
      run (step TaskStore.defaultStore "a") {} supersededEvents = some live ∧
        returnedAnswers 0 live = true := by
    decide +kernel
  obtain ⟨answers, hget, hcount⟩ := returned_answers_eq_true hreturned
  have hcomplete := h TaskStore.defaultStore "a" supersededEvents live (by decide) hrun 0 _ answers
    hget rfl
  obtain ⟨response, _, hlookup⟩ := hcomplete.answered "k" List.mem_cons_self
  have hempty : answers = ∅ :=
    is_empty_entries_iff.1 (List.isEmpty_iff.2 (List.eq_nil_of_length_eq_zero hcount))
  rw [hempty] at hlookup
  cases hlookup

/-- In every run whose events drop no key of a park before its wait has returned, a wait that returns
a map has in it exactly the one accepted response to each key that the park asked about. -/
theorem wait_returns_every_answer (store : MemoryTaskStore) (id : String) (events : List Event)
    (live : LiveTask) (hfresh : (events.filterMap drawn).Nodup)
    (hrun : run (step store id) {} events = some live)
    (hspares : Along (step store id) (Spares store id) {} events) :
    ∀ ticket call answers, live.parks.get ticket = some call →
      call.point = .returned (.ok answers) → Complete id live.world.log call.asked answers := by
  have halong := (along_fresh_event store id hfresh).and hspares
  have howed : Owed store id live := by
    refine along_invariant ?_ (owed_init store id) halong hrun
    intro live event next howed hboth hstep
    exact owed_step howed hboth.1 hboth.2 hstep
  intro ticket call answers hget hpoint
  have hserved := howed.served ticket call hget
  obtain ⟨asked, point⟩ := call
  subst hpoint
  exact hserved

theorem wait_returns_its_answer :
    ∃ live answers, run (step TaskStore.defaultStore "a") {} answeredEvents = some live ∧
      live.parks.get 0 = some ⟨["k"], .returned (.ok answers)⟩ ∧
      Complete "a" live.world.log ["k"] answers := by
  obtain ⟨live, hrun, hreturned⟩ : ∃ live,
      run (step TaskStore.defaultStore "a") {} answeredEvents = some live ∧
        returnedAnswers 1 live = true := by
    decide +kernel
  obtain ⟨answers, hget, _⟩ := returned_answers_eq_true hreturned
  have hspares : Along (step TaskStore.defaultStore "a") (Spares TaskStore.defaultStore "a")
      {} answeredEvents := by
    decide +kernel
  exact ⟨live, answers, hrun, hget, wait_returns_every_answer TaskStore.defaultStore "a"
    answeredEvents live (by decide) hrun hspares 0 _ answers hget rfl⟩

end LiveTask

end TowerMcp
