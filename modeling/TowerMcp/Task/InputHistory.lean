import TowerMcp.Task.InputKeys
import TowerMcp.Task.Terminal

/-!
# Input keys over the life of a task

The history of a run says which requests were asked under a key and which responses were accepted.
`KeyLaw` ties the key sets of a live task to that history: whatever was asked is open as the same
question, answered or superseded, and whatever was accepted is answered. With it no key ever names
two questions and no response is accepted twice, whatever calls come in between.
-/

namespace TowerMcp

open MemoryTaskStore Execution

namespace TaskStore

def asks (id key : String) (entry : Event × Reply) : Option InputRequest :=
  match entry.1.call, entry.2 with
  | .requireInput taskId requests _, .done (.ok true) =>
    if taskId = id then requests.lookup key else none
  | _, _ => none

def accepts (id key : String) (entry : Event × Reply) : Bool :=
  match entry.1.call, entry.2 with
  | .applyInputResponses taskId _, .applied (.ok (some applied)) =>
    taskId == id && (applied.accepted.lookup key).isSome
  | _, _ => false

def Asked (log : List (Event × Reply)) (id key : String) (request : InputRequest) : Prop :=
  ∃ entry ∈ log, asks id key entry = some request

def Accepted (log : List (Event × Reply)) (id key : String) : Prop :=
  ∃ entry ∈ log, accepts id key entry = true

structure KeyLaw (log : List (Event × Reply)) (id : String) (task : Task) : Prop where
  disjoint : task.KeysDisjoint
  asked : ∀ key request, Asked log id key request →
    (∃ current, task.inputRequests.lookup key = some current ∧
      sameInputRequest request current = true) ∨
    key ∈ task.answeredInputKeys ∨ key ∈ task.supersededInputKeys
  accepted : ∀ key, Accepted log id key → key ∈ task.answeredInputKeys

structure InputHistory (world : World) : Prop where
  live : ∀ id stored, world.data.tasks.lookup id = some stored → stored.expirySignalled = false →
    stored.task.status.isTerminal = false → KeyLaw world.log id stored.task
  unique : ∀ id key first second, Asked world.log id key first → Asked world.log id key second →
    sameInputRequest first second = true
  once : ∀ id key, (world.log.filter (accepts id key)).length ≤ 1
  askedDrawn : ∀ id key request, Asked world.log id key request → id ∈ drawnIds world.events
  acceptedDrawn : ∀ id key, Accepted world.log id key → id ∈ drawnIds world.events

section Entries

variable {id key : String} {entry : Event × Reply} {log : List (Event × Reply)}
  {request : InputRequest}

theorem asks_eq_some (h : asks id key entry = some request) :
    ∃ requests message, entry.1.call = .requireInput id requests message ∧
      entry.2 = .done (.ok true) ∧ requests.lookup key = some request := by
  unfold asks at h
  split at h
  next taskId requests message hcall hreply =>
    split at h
    next hid =>
      subst hid
      exact ⟨requests, message, hcall, hreply, h⟩
    next => cases h
  next => cases h

theorem accepts_eq_true (h : accepts id key entry = true) :
    ∃ responses applied, entry.1.call = .applyInputResponses id responses ∧
      entry.2 = .applied (.ok (some applied)) ∧ key ∈ applied.accepted := by
  unfold accepts at h
  split at h
  next taskId responses applied hcall hreply =>
    rw [Bool.and_eq_true, beq_iff_eq, AList.lookup_isSome] at h
    obtain ⟨rfl, hkey⟩ := h
    exact ⟨responses, applied, hcall, hreply, hkey⟩
  next => cases h

def Silent (id : String) (entry : Event × Reply) : Prop :=
  ∀ key, asks id key entry = none ∧ accepts id key entry = false

theorem silent_of_quiet (h : entry.1.call.target = some id → entry.2.isQuiet = true) :
    Silent id entry := by
  intro key
  constructor
  · cases hasks : asks id key entry with
    | none => rfl
    | some request =>
      obtain ⟨requests, message, hcall, hreply, _⟩ := asks_eq_some hasks
      have hquiet := h (by rw [hcall]; rfl)
      rw [hreply] at hquiet
      cases hquiet
  · cases haccepts : accepts id key entry with
    | false => rfl
    | true =>
      obtain ⟨responses, applied, hcall, hreply, _⟩ := accepts_eq_true haccepts
      have hquiet := h (by rw [hcall]; rfl)
      rw [hreply] at hquiet
      cases hquiet

theorem silent_of_call (hrequire : ∀ requests message,
      entry.1.call ≠ .requireInput id requests message)
    (happly : ∀ responses, entry.1.call ≠ .applyInputResponses id responses) :
    Silent id entry := by
  intro key
  constructor
  · cases hasks : asks id key entry with
    | none => rfl
    | some request =>
      obtain ⟨requests, message, hcall, _, _⟩ := asks_eq_some hasks
      exact absurd hcall (hrequire requests message)
  · cases haccepts : accepts id key entry with
    | false => rfl
    | true =>
      obtain ⟨responses, applied, hcall, _, _⟩ := accepts_eq_true haccepts
      exact absurd hcall (happly responses)

theorem asked_cons :
    Asked (entry :: log) id key request ↔
      asks id key entry = some request ∨ Asked log id key request := by
  simp [Asked]

theorem accepted_cons :
    Accepted (entry :: log) id key ↔ accepts id key entry = true ∨ Accepted log id key := by
  simp [Accepted]

theorem KeyLaw.silent {task : Task} (h : KeyLaw log id task) (hsilent : Silent id entry) :
    KeyLaw (entry :: log) id task := by
  refine ⟨h.disjoint, ?_, ?_⟩
  · intro key request hasked
    rcases asked_cons.1 hasked with hnow | hearlier
    · rw [(hsilent key).1] at hnow
      cases hnow
    · exact h.asked key request hearlier
  · intro key haccepted
    rcases accepted_cons.1 haccepted with hnow | hearlier
    · rw [(hsilent key).2] at hnow
      cases hnow
    · exact h.accepted key hearlier

end Entries

section Step

variable {store : MemoryTaskStore} {world next : World} {event : Event} {reply : Reply}

variable {log : List (Event × Reply)} {id : String}

variable {task : Task}

theorem key_law_of_empty (hdisjoint : task.KeysDisjoint)
    (hasked : ∀ key request, ¬ Asked log id key request) (haccepted : ∀ key, ¬ Accepted log id key)
    : KeyLaw log id task where
  disjoint := hdisjoint
  asked := fun key request h => absurd h (hasked key request)
  accepted := fun key h => absurd h (haccepted key)

theorem KeyLaw.parked (h : KeyLaw log id task)
    {requests : InputRequests} {message : Option String}
    (hcall : event.call = .requireInput id requests message)
    (hserializable : ∃ json, serialize requests = .ok json)
    (hunused : task.reusedInputKeys requests = []) :
    KeyLaw ((event, .done (.ok true)) :: log) id
      (task.awaitInput event.now requests message) := by
  refine ⟨h.disjoint.await_input event.now message hunused, ?_, ?_⟩
  · intro key request hasked
    rcases asked_cons.1 hasked with hnow | hearlier
    · -- asked by this very call, so it is what is open now
      obtain ⟨asked, text, hsame, _, hrequest⟩ := asks_eq_some hnow
      obtain ⟨_, rfl, _⟩ := StoreCall.requireInput.inj (hcall.symm.trans hsame)
      have hself := same_input_request_refl (serialize_request_of_requests hserializable hrequest)
      exact .inl ⟨request, hrequest, hself⟩
    · rcases h.asked key request hearlier with ⟨current, hcurrent, hsame⟩ | hanswered | hsuperseded
      · cases hrequest : requests.lookup key with
        | none =>
          have hopen : key ∈ task.inputRequests := FinMap.mem_iff_lookup.2 ⟨current, hcurrent⟩
          exact .inr (.inr (Task.mem_supersede_input_keys.2
            (.inr ⟨hopen, AList.lookup_eq_none.1 hrequest⟩)))
        | some again =>
          obtain ⟨_, _, hopen⟩ := Task.unused_of_reused_input_keys hunused hrequest
          exact .inl ⟨again, hrequest, same_input_request_trans hsame (hopen current hcurrent)⟩
      · exact .inr (.inl hanswered)
      · exact .inr (.inr (Task.mem_supersede_input_keys.2 (.inl hsuperseded)))
  · intro key haccepted
    rcases accepted_cons.1 haccepted with hnow | hearlier
    · obtain ⟨_, _, hsame, _, _⟩ := accepts_eq_true hnow
      rw [hcall] at hsame
      cases hsame
    · exact h.accepted key hearlier

theorem KeyLaw.answered (h : KeyLaw log id task)
    {responses : InputResponses} (hcall : event.call = .applyInputResponses id responses) :
    KeyLaw ((event, .applied (.ok (some (task.applyInputResponses event.now responses).2))) :: log)
      id (task.applyInputResponses event.now responses).1 := by
  have hafter := Task.answered_apply_input_responses event.now task responses
  refine ⟨h.disjoint.apply_input_responses event.now responses, ?_, ?_⟩
  · intro key request hasked
    rcases asked_cons.1 hasked with hnow | hearlier
    · obtain ⟨_, _, hsame, _, _⟩ := asks_eq_some hnow
      rw [hcall] at hsame
      cases hsame
    · rcases h.asked key request hearlier with ⟨current, hcurrent, hsame⟩ | hanswered | hsuperseded
      · by_cases hin : key ∈ responses
        · have hopen : key ∈ task.inputRequests := FinMap.mem_iff_lookup.2 ⟨current, hcurrent⟩
          exact .inr (.inl ((hafter.answered key).2 (.inr ⟨hin, hopen⟩)))
        · refine .inl ⟨current, ?_, hsame⟩
          rw [hafter.outstanding key, if_neg hin]
          exact hcurrent
      · exact .inr (.inl ((hafter.answered key).2 (.inl hanswered)))
      · refine .inr (.inr ?_)
        rw [hafter.superseded]
        exact hsuperseded
  · intro key haccepted
    rcases accepted_cons.1 haccepted with hnow | hearlier
    · obtain ⟨_, applied, _, hreply, hkey⟩ := accepts_eq_true hnow
      obtain rfl := Option.some.inj (Except.ok.inj (Reply.applied.inj hreply))
      exact (hafter.answered key).2 (.inr ((hafter.accepted key).1 hkey))
    · exact (hafter.answered key).2 (.inl (h.accepted key hearlier))

theorem KeyLaw.congr {other : Task} (h : KeyLaw log id task)
    (hrequests : other.inputRequests = task.inputRequests)
    (hanswered : other.answeredInputKeys = task.answeredInputKeys)
    (hresponses : other.inputResponses = task.inputResponses)
    (hsuperseded : other.supersededInputKeys = task.supersededInputKeys) : KeyLaw log id other := by
  have hdisjoint := h.disjoint
  refine ⟨⟨?_, ?_, ?_, ?_⟩, ?_, ?_⟩
  · rw [hrequests, hanswered]
    exact hdisjoint.outstanding_answered
  · rw [hrequests, hsuperseded]
    exact hdisjoint.outstanding_superseded
  · rw [hanswered, hsuperseded]
    exact hdisjoint.answered_superseded
  · rw [hresponses, hanswered]
    exact hdisjoint.responses
  · rw [hrequests, hanswered, hsuperseded]
    exact h.asked
  · rw [hanswered]
    exact h.accepted

theorem key_law_of_task_change {before after : Task} (hnamed : event.call.target = some id)
    (hchange : TaskChange store event.now event.call reply before after)
    (hlaw : before.status.isTerminal = false → KeyLaw log id before)
    (hlive : after.status.isTerminal = false) : KeyLaw ((event, reply) :: log) id after := by
  generalize hcall : event.call = call at hchange
  cases hchange with
  | described _ _ _ =>
    have hsilent : Silent id (event, .done (.ok true)) :=
      silent_of_call (by simp [hcall]) (by simp [hcall])
    exact ((hlaw hlive).silent hsilent).congr rfl rfl rfl rfl
  | extended _ _ _ =>
    have hsilent : Silent id (event, .done (.ok true)) :=
      silent_of_call (by simp [hcall]) (by simp [hcall])
    exact ((hlaw hlive).silent hsilent).congr rfl rfl rfl rfl
  | progressed _ _ _ _ live _ =>
    have hsilent : Silent id (event, .done (.ok true)) :=
      silent_of_call (by simp [hcall]) (by simp [hcall])
    exact ((hlaw live).silent hsilent).congr rfl rfl rfl rfl
  | parked taskId requests message _ live serializable unused =>
    rw [hcall] at hnamed
    cases hnamed
    exact (hlaw live).parked hcall serializable unused
  | answered taskId responses _ live =>
    rw [hcall] at hnamed
    cases hnamed
    exact (hlaw live).answered hcall
  | completed _ _ _ _ | failed _ _ _ _ | completionRejected _ _ _ _ _
  | failureRejected _ _ _ _ _ => cases hlive
  | cancelled _ reason _ final _ outcome =>
    have hcancelled : final.status = .cancelled := by
      rcases outcome with rfl | rfl
      · exact (cancelled_task_facts store event.now before.raiseToken reason).1
      · rfl
    change final.status.isTerminal = false at hlive
    rw [hcancelled] at hlive
    cases hlive
  | signalled _ _ _ terminal =>
    change before.status.isTerminal = false at hlive
    rw [terminal] at hlive
    cases hlive

variable {key : String}

theorem asks_step {request : InputRequest}
    (hstep : Stepped store world event next reply)
    (hasks : asks id key (event, reply) = some request) :
    ∃ old requests, world.data.tasks.lookup id = some old ∧ old.expirySignalled = false ∧
      old.task.status.isTerminal = false ∧ (∃ json, serialize requests = .ok json) ∧
      old.task.reusedInputKeys requests = [] ∧ requests.lookup key = some request := by
  obtain ⟨requests, message, hcall, hreply, hrequest⟩ := asks_eq_some hasks
  dsimp only at hcall hreply
  obtain ⟨old, new, hold, -, -, hunsignalled, hchange⟩ :=
    changed_of_loud (hstep.changes id) (by rw [hcall]; rfl) (by rw [hreply]; rfl) (by rw [hcall]; nofun)
  rw [hcall] at hchange
  obtain ⟨live, serializable, unused, _⟩ := parked_of_task_change hchange
  exact ⟨old, requests, hold, hunsignalled, live, serializable, unused, hrequest⟩

theorem accepts_step (hstep : Stepped store world event next reply)
    (haccepts : accepts id key (event, reply) = true) :
    ∃ old, world.data.tasks.lookup id = some old ∧ old.expirySignalled = false ∧
      old.task.status.isTerminal = false ∧ key ∈ old.task.inputRequests := by
  obtain ⟨responses, applied, hcall, hreply, hkey⟩ := accepts_eq_true haccepts
  dsimp only at hcall hreply
  obtain ⟨old, new, hold, -, -, hunsignalled, hchange⟩ :=
    changed_of_loud (hstep.changes id) (by rw [hcall]; rfl) (by rw [hreply]; rfl) (by rw [hcall]; nofun)
  rw [hcall] at hchange
  obtain ⟨live, hsame, _⟩ := answered_of_task_change hchange
  obtain rfl := Option.some.inj (Except.ok.inj (Reply.applied.inj (hreply.symm.trans hsame)))
  have hafter := Task.answered_apply_input_responses event.now old.task responses
  exact ⟨old, hold, hunsignalled, live, ((hafter.accepted key).1 hkey).2⟩

theorem input_history_init : InputHistory {} where
  live := by
    intro id stored hlookup
    simp at hlookup
  unique := by
    intro id key first second hfirst
    simp [Asked] at hfirst
  once := by simp
  askedDrawn := by
    intro id key request hasked
    simp [Asked] at hasked
  acceptedDrawn := by
    intro id key haccepted
    simp [Accepted] at haccepted

theorem input_history_step (h : InputHistory world) (hsound : Sound store world)
    (hfresh : FreshDraw world event) (hstep : Stepped store world event next reply) :
    InputHistory next := by
  refine ⟨?_, ?_, ?_, ?_, ?_⟩
  · intro id stored hlookup hunsignalled hlive
    have hchange := hstep.changes id
    rw [hlookup] at hchange
    rw [hstep.log]
    generalize hbefore : world.data.tasks.lookup id = before at hchange
    cases hchange with
    | kept _ quiet =>
      exact (h.live id stored hbefore hunsignalled hlive).silent (silent_of_quiet quiet)
    | admitted _ _ _ _ _ _ _ drawn task _ =>
      have hdraw : event.call.drawnId = some id := by rw [drawn]; rfl
      have hdisjoint : stored.task.KeysDisjoint := by
        rw [task]
        exact Task.keys_disjoint_of_empty rfl rfl rfl
      have hlaw : KeyLaw world.log id stored.task := key_law_of_empty hdisjoint
        (fun key request hasked => hfresh id hdraw (h.askedDrawn id key request hasked))
        (fun key haccepted => hfresh id hdraw (h.acceptedDrawn id key haccepted))
      exact hlaw.silent (silent_of_call (by simp [drawn]) (by simp [drawn]))
    | changed old _ named _ unsignalled change =>
      exact key_law_of_task_change named change (h.live id old hbefore unsignalled.1) hlive
    | retired _ old _ _ =>
      rw [expiry_signalled_retired_record] at hunsignalled
      cases hunsignalled
  · -- a key that is asked again is open, as the question it was asked as
    have hagain : ∀ id key now earlier, asks id key (event, reply) = some now →
        Asked world.log id key earlier → sameInputRequest earlier now = true := by
      intro id key now earlier hnow hearlier
      obtain ⟨old, requests, hlookup, hunsignalled, hlive, _, hunused, hrequest⟩ :=
        asks_step hstep hnow
      obtain ⟨hanswered, hsuperseded, hopen⟩ :=
        Task.unused_of_reused_input_keys hunused hrequest
      rcases (h.live id old hlookup hunsignalled hlive).asked key earlier hearlier with
        ⟨current, hcurrent, hsame⟩ | hspent | hspent
      · exact same_input_request_trans hsame (hopen current hcurrent)
      · exact absurd hspent hanswered
      · exact absurd hspent hsuperseded
    intro id key first second hfirst hsecond
    rw [hstep.log] at hfirst hsecond
    rcases asked_cons.1 hfirst with hfirstNow | hfirstEarlier
    · rcases asked_cons.1 hsecond with hsecondNow | hsecondEarlier
      · obtain rfl := Option.some.inj (hfirstNow.symm.trans hsecondNow)
        obtain ⟨_, requests, _, _, _, hserializable, _, hrequest⟩ := asks_step hstep hfirstNow
        exact same_input_request_refl (serialize_request_of_requests hserializable hrequest)
      · exact same_input_request_symm (hagain id key first second hfirstNow hsecondEarlier)
    · rcases asked_cons.1 hsecond with hsecondNow | hsecondEarlier
      · exact hagain id key second first hsecondNow hfirstEarlier
      · exact h.unique id key first second hfirstEarlier hsecondEarlier
  · intro id key
    rw [hstep.log, List.filter_cons]
    split
    next haccepts =>
      obtain ⟨old, hlookup, hunsignalled, hlive, hopen⟩ := accepts_step hstep haccepts
      have hlaw := h.live id old hlookup hunsignalled hlive
      have hnone : world.log.filter (accepts id key) = [] := by
        rw [List.filter_eq_nil_iff]
        intro entry hmem haccepted
        exact hlaw.disjoint.outstanding_answered key hopen (hlaw.accepted key ⟨entry, hmem, haccepted⟩)
      rw [hnone]
      exact le_refl 1
    next => exact h.once id key
  · intro id key request hasked
    rw [hstep.log] at hasked
    rcases asked_cons.1 hasked with hnow | hearlier
    · obtain ⟨old, _, hlookup, _⟩ := asks_step hstep hnow
      exact drawn_of_stepped hstep (hsound.drawn id old hlookup)
    · exact drawn_of_stepped hstep (h.askedDrawn id key request hearlier)
  · intro id key haccepted
    rw [hstep.log] at haccepted
    rcases accepted_cons.1 haccepted with hnow | hearlier
    · obtain ⟨old, hlookup, _⟩ := accepts_step hstep hnow
      exact drawn_of_stepped hstep (hsound.drawn id old hlookup)
    · exact drawn_of_stepped hstep (h.acceptedDrawn id key hearlier)

/-- A key of a task is spent: it is superseded as long as the task is live, and it was not asked
again since `log`. -/
structure Spent (log : List (Event × Reply)) (id key : String) (world : World) : Prop where
  drawn : id ∈ drawnIds world.events
  superseded : ∀ stored, world.data.tasks.lookup id = some stored →
    stored.expirySignalled = false → stored.task.status.isTerminal = false →
      key ∈ stored.task.supersededInputKeys
  unasked : ∃ newer, world.log = newer ++ log ∧ ∀ entry ∈ newer, asks id key entry = none

theorem superseded_of_task_change {now : Moment} {call : StoreCall}
    {before after : Task} (hchange : TaskChange store now call reply before after)
    (hbefore : before.status.isTerminal = false → key ∈ before.supersededInputKeys)
    (hlive : after.status.isTerminal = false) : key ∈ after.supersededInputKeys := by
  cases hchange with
  | described _ _ _ => exact hbefore hlive
  | extended _ _ _ => exact hbefore hlive
  | progressed _ _ _ _ live _ => exact hbefore live
  | parked _ requests _ _ live _ _ =>
    exact Task.mem_supersede_input_keys.2 (.inl (hbefore live))
  | answered _ responses _ live =>
    rw [(Task.answered_apply_input_responses now before responses).superseded]
    exact hbefore live
  | completed _ _ _ _ | failed _ _ _ _ | completionRejected _ _ _ _ _
  | failureRejected _ _ _ _ _ => cases hlive
  | cancelled _ reason _ final _ outcome =>
    have hcancelled : final.status = .cancelled := by
      rcases outcome with rfl | rfl
      · exact (cancelled_task_facts store now before.raiseToken reason).1
      · rfl
    change final.status.isTerminal = false at hlive
    rw [hcancelled] at hlive
    cases hlive
  | signalled _ _ _ terminal =>
    change before.status.isTerminal = false at hlive
    rw [terminal] at hlive
    cases hlive

theorem spent_step (h : Spent log id key world) (hfresh : FreshDraw world event)
    (hstep : Stepped store world event next reply) : Spent log id key next := by
  refine ⟨drawn_of_stepped hstep h.drawn, ?_, ?_⟩
  · intro stored hlookup hunsignalled hlive
    have hchange := hstep.changes id
    rw [hlookup] at hchange
    generalize hbefore : world.data.tasks.lookup id = before at hchange
    cases hchange with
    | kept _ _ => exact h.superseded stored hbefore hunsignalled hlive
    | admitted _ _ _ _ _ _ _ drawn _ _ =>
      refine absurd h.drawn (hfresh id ?_)
      rw [drawn]
      rfl
    | changed old _ _ _ unsignalled change =>
      exact superseded_of_task_change change (h.superseded old hbefore unsignalled.1) hlive
    | retired _ old _ _ =>
      rw [expiry_signalled_retired_record] at hunsignalled
      cases hunsignalled
  · obtain ⟨newer, hlog, hunasked⟩ := h.unasked
    refine ⟨(event, reply) :: newer, ?_, ?_⟩
    · rw [hstep.log, hlog]
      rfl
    · intro entry hmem
      rcases List.mem_cons.1 hmem with rfl | hmem
      · cases hasks : asks id key (event, reply) with
        | none => rfl
        | some request =>
          -- asking needs a live task on which the key is not superseded
          obtain ⟨old, requests, hlookup, hunsignalled, hlive, _, hunused, hrequest⟩ :=
            asks_step hstep hasks
          obtain ⟨_, hsuperseded, _⟩ := Task.unused_of_reused_input_keys hunused hrequest
          exact absurd (h.superseded old hlookup hunsignalled hlive) hsuperseded
      · exact hunasked entry hmem

theorem spent_of_dropped {requests : InputRequests} {message : Option String}
    {before : StoredTask} (hsound : Sound store world)
    (hstep : Stepped store world event next (.done (.ok true)))
    (hcall : event.call = .requireInput id requests message)
    (hbefore : world.data.tasks.lookup id = some before)
    (hopen : key ∈ before.task.inputRequests) (hdropped : key ∉ requests) :
    Spent next.log id key next := by
  refine ⟨drawn_of_stepped hstep (hsound.drawn id before hbefore), ?_, ⟨[], rfl, by simp⟩⟩
  intro stored hlookup _ _
  have htarget : event.call.target = some id := by rw [hcall]; rfl
  have hchange := hstep.changes id
  rw [hlookup, hbefore] at hchange
  cases hchange with
  | kept _ quiet => cases quiet htarget
  | changed _ _ _ _ _ change =>
    rw [hcall] at change
    obtain ⟨_, _, _, hparked, _⟩ := parked_of_task_change change
    rw [hparked]
    exact Task.mem_supersede_input_keys.2 (.inr ⟨hopen, hdropped⟩)
  | retired _ _ retirement _ =>
    rw [hcall] at retirement
    cases retirement

end Step

section Run

variable {store : MemoryTaskStore}

theorem run_input_history {events : List Event} {world : World}
    (hfresh : (drawnIds events).Nodup)
    (hrun : run (step store) {} events = some world) : InputHistory world := by
  have halong : Along (step store) FreshDraw {} events :=
    along_fresh_draw hfresh fun id _ hmem => by simp [World.events, drawnIds] at hmem
  have hfinal : Sound store world ∧ InputHistory world := by
    refine along_invariant (I := fun state => Sound store state ∧ InputHistory state) ?_
      ⟨sound_init store, input_history_init⟩ halong hrun
    intro state event next hstate hdraw hstep
    obtain ⟨reply, hstepped⟩ := step_sound hstate.1 hdraw hstep
    exact ⟨hstepped.sound, input_history_step hstate.2 hstate.1 hdraw hstepped⟩
  exact hfinal.2

end Run

/-- In every state the store reaches, the outstanding, answered and superseded keys of a live task
are pairwise disjoint and there is one response for each answered key. No key of a task ever names
two questions, and no key accepts two responses. A key that a later `requireInput` leaves out is
superseded for as long as the task is live, and no `requireInput` that names it succeeds again. -/
theorem task_input_keys (store : MemoryTaskStore) (earlier : List Event) (middle : World)
    (hfresh : (drawnIds earlier).Nodup)
    (hearlier : run (step store) {} earlier = some middle) :
    (∀ id stored, middle.readable id = some stored → stored.task.status.isTerminal = false →
      (∀ key, key ∈ stored.task.inputRequests → key ∉ stored.task.answeredInputKeys) ∧
      (∀ key, key ∈ stored.task.inputRequests → key ∉ stored.task.supersededInputKeys) ∧
      (∀ key, key ∈ stored.task.answeredInputKeys → key ∉ stored.task.supersededInputKeys) ∧
      ∀ key, key ∈ stored.task.inputResponses ↔ key ∈ stored.task.answeredInputKeys) ∧
    (∀ id key first second, Asked middle.log id key first → Asked middle.log id key second →
      sameInputRequest first second = true) ∧
    (∀ id key, (middle.log.filter (accepts id key)).length ≤ 1) ∧
    ∀ event next later final, (drawnIds (earlier ++ event :: later)).Nodup →
      step store middle event = some next →
      run (step store) next later = some final →
      ∀ id requests message before, event.call = .requireInput id requests message →
        next.log = (event, .done (.ok true)) :: middle.log →
        middle.readable id = some before →
        ∀ key, key ∈ before.task.inputRequests → key ∉ requests →
          (∀ after, final.readable id = some after → after.task.status.isTerminal = false →
            key ∈ after.task.supersededInputKeys) ∧
          ∃ newer, final.log = newer ++ next.log ∧ ∀ entry ∈ newer, asks id key entry = none := by
  have hsound := run_sound hfresh hearlier
  have hhistory := run_input_history hfresh hearlier
  refine ⟨?_, hhistory.unique, hhistory.once, ?_⟩
  · intro id stored hread hlive
    obtain ⟨hlookup, hunsignalled⟩ := unsignalled_of_readable hsound hread
    have hdisjoint := (hhistory.live id stored hlookup hunsignalled hlive).disjoint
    exact ⟨hdisjoint.outstanding_answered, hdisjoint.outstanding_superseded,
      hdisjoint.answered_superseded, hdisjoint.responses⟩
  · intro event next later final hnodup hstep hlater id requests message before hcall hlog hbefore
      key hopen hdropped
    have halong : Along (step store) FreshDraw {} (earlier ++ event :: later) :=
      along_fresh_draw hnodup fun id _ hmem => by simp [World.events, drawnIds] at hmem
    obtain ⟨hdraw, hrest⟩ := halong.tail hearlier
    rw [hstep] at hrest
    obtain ⟨reply, hstepped⟩ := step_sound hsound hdraw hstep
    have hreply : reply = .done (.ok true) := by
      have hheads := hstepped.log.symm.trans hlog
      exact (Prod.mk.inj (List.cons.inj hheads).1).2
    rw [hreply] at hstepped
    obtain ⟨hlookup, _⟩ := unsignalled_of_readable hsound hbefore
    have hspent := spent_of_dropped hsound hstepped hcall hlookup hopen hdropped
    have hfinal : Sound store final ∧ Spent next.log id key final := by
      refine along_invariant
        (I := fun state => Sound store state ∧ Spent next.log id key state) ?_
        ⟨hstepped.sound, hspent⟩ hrest hlater
      intro state other following hstate hother hfollowing
      obtain ⟨otherReply, hotherStepped⟩ := step_sound hstate.1 hother hfollowing
      exact ⟨hotherStepped.sound, spent_step hstate.2 hother hotherStepped⟩
    refine ⟨?_, hfinal.2.unasked⟩
    intro after hafter hlive
    obtain ⟨hafterLookup, hafterUnsignalled⟩ := unsignalled_of_readable hfinal.1 hafter
    exact hfinal.2.superseded after hafterLookup hafterUnsignalled hlive

def defaultStore : MemoryTaskStore where
  config := { defaultTtlMillis := 300000 }
  retentionLimits := .default

def question : InputRequest := .elicit (.ok .null)

def parkedEvents : List Event :=
  [⟨⟨0, "t0"⟩, .createTask ⟨0, "t0"⟩ "a" "report" .null none none⟩,
    ⟨⟨1, "t1"⟩, .requireInput "a" ((AList.insert "k" question ∅).insert "l" question) none⟩,
    ⟨⟨2, "t2"⟩, .applyInputResponses "a" (AList.insert "k" (.elicit (.ok (.bool true))) ∅)⟩]

def dropEvent : Event :=
  ⟨⟨3, "t3"⟩, .requireInput "a" (AList.insert "m" question ∅) none⟩

def reuseEvents : List Event :=
  [⟨⟨4, "t4"⟩, .requireInput "a" (AList.insert "l" question ∅) none⟩]

def World.succeeded (world : World) : Bool :=
  match world.log with
  | (_, .done (.ok true)) :: _ => true
  | _ => false

theorem task_input_keys_dropped :
    ∃ middle next final after,
      run (step defaultStore) {} parkedEvents = some middle ∧
      step defaultStore middle dropEvent = some next ∧
      run (step defaultStore) next reuseEvents = some final ∧
      final.readable "a" = some after ∧ "l" ∈ after.task.supersededInputKeys ∧
      ∃ newer, final.log = newer ++ next.log ∧ ∀ entry ∈ newer, asks "a" "l" entry = none := by
  obtain ⟨middle, hmiddle, ⟨before, hbefore, hkey⟩, next, hstep, hsucceeded, final, hlater, after,
      hafter, hafterLive⟩ : ∃ middle,
      run (step defaultStore) {} parkedEvents = some middle ∧
        (∃ before, middle.readable "a" = some before ∧
          (before.task.inputRequests.lookup "l").isSome = true) ∧
        ∃ next, step defaultStore middle dropEvent = some next ∧ next.succeeded = true ∧
          ∃ final, run (step defaultStore) next reuseEvents = some final ∧
            ∃ after, final.readable "a" = some after ∧ after.task.status.isTerminal = false := by
    decide +kernel
  have hlog : next.log = (dropEvent, .done (.ok true)) :: middle.log := by
    have hsound : Sound defaultStore middle := run_sound (by decide) hmiddle
    obtain ⟨reply, hstepped⟩ := step_sound hsound (fun id hdraw => by cases hdraw) hstep
    unfold World.succeeded at hsucceeded
    rw [hstepped.log] at hsucceeded ⊢
    split at hsucceeded
    next hhead => rw [(Prod.mk.inj (List.cons.inj hhead).1).2]
    next => cases hsucceeded
  obtain ⟨hsuperseded, hunasked⟩ := (task_input_keys defaultStore parkedEvents middle (by decide)
    hmiddle).2.2.2 dropEvent next reuseEvents final (by decide) hstep hlater "a" _ none before rfl
    hlog hbefore "l" (AList.lookup_isSome.1 hkey) (by decide)
  exact ⟨middle, next, final, after, hmiddle, hstep, hlater, hafter,
    hsuperseded after hafter hafterLive, hunasked⟩

end TaskStore

end TowerMcp
