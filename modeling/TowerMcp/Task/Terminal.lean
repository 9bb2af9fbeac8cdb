import TowerMcp.Task.Run

/-!
# Terminal tasks

What a client can rely on when it reads a task: the status says which of the result and the error
the task holds, and a terminal task keeps its status, its result and its error for as long as it can
be read. Both follow from what a call can do to one record.
-/

namespace TowerMcp

open Execution MemoryTaskStore

structure Task.Paired (task : Task) : Prop where
  completed : task.status = .completed ↔ task.result.isSome ∧ task.error = none
  failed : task.status = .failed ↔ task.error.isSome ∧ task.result = none
  other : task.status ≠ .completed → task.status ≠ .failed → task.result = none ∧ task.error = none

namespace TaskStore

section Record

variable {store : MemoryTaskStore} {now : Moment} {call : StoreCall} {reply : Reply}
  {before after : Task}

theorem paired_of_no_outcome {task : Task} (hcompleted : task.status ≠ .completed)
    (hfailed : task.status ≠ .failed) (hresult : task.result = none) (herror : task.error = none) :
    task.Paired where
  completed := by simp [hcompleted, hresult]
  failed := by simp [hfailed, herror]
  other := fun _ _ => ⟨hresult, herror⟩

theorem no_outcome_of_live {task : Task} (h : task.Paired)
    (hlive : task.status.isTerminal = false) : task.result = none ∧ task.error = none := by
  apply h.other
  · intro hcompleted
    rw [hcompleted] at hlive
    cases hlive
  · intro hfailed
    rw [hfailed] at hlive
    cases hlive

theorem ne_outcome_of_live {status : TaskStatus} (hlive : status.isTerminal = false) :
    status ≠ .completed ∧ status ≠ .failed := by
  cases status <;> simp_all [TaskStatus.isTerminal]

theorem outcome_apply_input_responses (now : Moment) (task : Task) (responses : InputResponses) :
    (task.applyInputResponses now responses).1.result = task.result ∧
      (task.applyInputResponses now responses).1.error = task.error :=
  ⟨apply_input_responses_frame Task.result (fun _ _ _ _ => rfl) (fun _ _ _ _ => rfl) now task
      responses,
    apply_input_responses_frame Task.error (fun _ _ _ _ => rfl) (fun _ _ _ _ => rfl) now task
      responses⟩

theorem paired_of_task_change (h : before.Paired)
    (hchange : TaskChange store now call reply before after) : after.Paired := by
  cases hchange with
  | described _ _ _ => exact ⟨h.completed, h.failed, h.other⟩
  | parked _ _ _ _ live _ _ =>
    obtain ⟨hresult, herror⟩ := no_outcome_of_live h live
    obtain ⟨hcompleted, hfailed⟩ :=
      ne_outcome_of_live (rfl : TaskStatus.inputRequired.isTerminal = false)
    exact paired_of_no_outcome hcompleted hfailed hresult herror
  | answered _ responses _ live =>
    obtain ⟨hresult, herror⟩ := no_outcome_of_live h live
    obtain ⟨hkeptResult, hkeptError⟩ := outcome_apply_input_responses now before responses
    have hstatus : (before.applyInputResponses now responses).1.status.isTerminal = false := by
      apply is_terminal_after_responses
      show (before.consumeResponses responses).1.status.isTerminal = false
      rw [status_consume_responses]
      exact live
    obtain ⟨hcompleted, hfailed⟩ := ne_outcome_of_live hstatus
    exact paired_of_no_outcome hcompleted hfailed (hkeptResult.trans hresult)
      (hkeptError.trans herror)
  | progressed _ status _ _ live progress =>
    obtain ⟨hresult, herror⟩ := no_outcome_of_live h live
    obtain ⟨hcompleted, hfailed⟩ := ne_outcome_of_live progress
    exact paired_of_no_outcome hcompleted hfailed hresult herror
  | extended _ _ _ => exact ⟨h.completed, h.failed, h.other⟩
  | completed _ result _ live =>
    have herror : before.error = none := (no_outcome_of_live h live).2
    refine ⟨?_, ?_, ?_⟩
    · simp [Task.notifyWaiters, Task.complete, herror]
    · simp [Task.notifyWaiters, Task.complete]
    · exact fun hother => absurd rfl hother
  | failed _ error _ live =>
    have hresult : before.result = none := (no_outcome_of_live h live).1
    refine ⟨?_, ?_, ?_⟩
    · simp [Task.notifyWaiters, Task.fail]
    · simp [Task.notifyWaiters, Task.fail, hresult]
    · exact fun _ hother => absurd rfl hother
  | completionRejected _ _ _ _ _ | failureRejected _ _ _ _ _ =>
    refine ⟨?_, ?_, ?_⟩
    · simp [Task.notifyWaiters, Task.failRetentionLimit]
    · simp [Task.notifyWaiters, Task.failRetentionLimit]
    · exact fun _ hother => absurd rfl hother
  | cancelled _ reason _ final live outcome =>
    obtain ⟨hresult, herror⟩ := no_outcome_of_live h live
    have hrequested : ∀ task : Task, task.result = none → task.error = none →
        (store.cancelledTask now task reason).status = .cancelled ∧
          (store.cancelledTask now task reason).result = none ∧
          (store.cancelledTask now task reason).error = none := by
      intro task hnoResult hnoError
      rcases cancelled_task_cases store now task reason with ⟨_, _, heq⟩ | heq
      · rw [heq]
        exact ⟨rfl, hnoResult, hnoError⟩
      · rw [heq]
        exact ⟨rfl, rfl, rfl⟩
    have hfinal : final.status = .cancelled ∧ final.result = none ∧ final.error = none := by
      rcases outcome with rfl | rfl
      · exact hrequested before.raiseToken hresult herror
      · exact ⟨rfl, rfl, rfl⟩
    obtain ⟨hstatus, hnoResult, hnoError⟩ := hfinal
    apply paired_of_no_outcome
    · show final.status ≠ .completed
      rw [hstatus]
      decide
    · show final.status ≠ .failed
      rw [hstatus]
      decide
    · exact hnoResult
    · exact hnoError
  | signalled _ _ _ _ => exact ⟨h.completed, h.failed, h.other⟩

structure SameOutcome (first second : Task) : Prop where
  status : second.status = first.status
  result : second.result = first.result
  error : second.error = first.error

theorem same_outcome_of_task_change (hterminal : before.status.isTerminal = true)
    (hchange : TaskChange store now call reply before after) : SameOutcome before after := by
  have hnotLive : before.status.isTerminal ≠ false := by
    rw [hterminal]
    decide
  cases hchange with
  | described _ _ _ => exact ⟨rfl, rfl, rfl⟩
  | extended _ _ _ => exact ⟨rfl, rfl, rfl⟩
  | signalled _ _ _ _ => exact ⟨rfl, rfl, rfl⟩
  | parked _ _ _ _ live _ _ => exact absurd live hnotLive
  | answered _ _ _ live => exact absurd live hnotLive
  | progressed _ _ _ _ live _ => exact absurd live hnotLive
  | completed _ _ _ live => exact absurd live hnotLive
  | failed _ _ _ live => exact absurd live hnotLive
  | completionRejected _ _ _ _ live => exact absurd live hnotLive
  | failureRejected _ _ _ _ live => exact absurd live hnotLive
  | cancelled _ _ _ _ live _ => exact absurd live hnotLive

end Record

section Run

variable {store : MemoryTaskStore}

def World.readable (world : World) (id : String) : Option StoredTask :=
  MemoryTaskStore.readable world.data world.clock id

def AllPaired (world : World) : Prop :=
  ∀ id stored, world.data.tasks.lookup id = some stored → stored.expirySignalled = false →
    stored.task.Paired

variable {world : World}

theorem all_paired_step {next : World} {event : Event} {reply : Reply}
    (h : AllPaired world) (hstep : Stepped store world event next reply) : AllPaired next := by
  intro id stored hlookup hunsignalled
  have hchange := hstep.changes id
  rw [hlookup] at hchange
  generalize hbefore : world.data.tasks.lookup id = held at hchange
  cases hchange with
  | kept _ _ => exact h id stored hbefore hunsignalled
  | admitted _ _ _ _ _ _ _ _ task _ =>
    rw [task]
    obtain ⟨hcompleted, hfailed⟩ :=
      ne_outcome_of_live (rfl : TaskStatus.working.isTerminal = false)
    exact paired_of_no_outcome hcompleted hfailed rfl rfl
  | changed old _ _ _ unsignalled task =>
    exact paired_of_task_change (h id old hbefore unsignalled.1) task
  | retired _ old _ _ =>
    -- the record is signalled now, whatever it was
    rw [expiry_signalled_retired_record] at hunsignalled
    cases hunsignalled

/-- The outcome of a terminal task is settled: whatever is held under its name and has not been
signalled has that outcome. -/
def OutcomeSettled (id : String) (task : Task) (world : World) : Prop :=
  id ∈ drawnIds world.events ∧
    ∀ stored, world.data.tasks.lookup id = some stored → stored.expirySignalled = false →
      SameOutcome task stored.task

theorem outcome_settled_step {next : World} {event : Event} {reply : Reply} {id : String}
    {task : Task} (hterminal : task.status.isTerminal = true)
    (h : OutcomeSettled id task world) (hfresh : FreshDraw world event)
    (hstep : Stepped store world event next reply) : OutcomeSettled id task next := by
  obtain ⟨hdrawn, houtcome⟩ := h
  refine ⟨drawn_of_stepped hstep hdrawn, ?_⟩
  intro stored hlookup hunsignalled
  have hchange := hstep.changes id
  rw [hlookup] at hchange
  generalize hbefore : world.data.tasks.lookup id = held at hchange
  cases hchange with
  | kept _ _ => exact houtcome stored hbefore hunsignalled
  | admitted _ _ _ _ _ _ _ drawn _ _ =>
    refine absurd hdrawn (hfresh id ?_)
    rw [drawn]
    rfl
  | changed old _ _ _ unsignalled change =>
    have hold := houtcome old hbefore unsignalled.1
    have holdTerminal : old.task.status.isTerminal = true := by
      rw [hold.status]
      exact hterminal
    have hnew := same_outcome_of_task_change holdTerminal change
    exact ⟨hnew.status.trans hold.status, hnew.result.trans hold.result,
      hnew.error.trans hold.error⟩
  | retired _ old _ _ =>
    rw [expiry_signalled_retired_record] at hunsignalled
    cases hunsignalled

theorem unsignalled_of_readable {id : String} {stored : StoredTask}
    (hsound : Sound store world) (hread : world.readable id = some stored) :
    world.data.tasks.lookup id = some stored ∧ stored.expirySignalled = false := by
  obtain ⟨hlookup, hunexpired⟩ := readable_eq_some.1 hread
  exact ⟨hlookup, hsound.signalled.unsignalled hlookup hunexpired⟩

theorem run_all_paired {events : List Event} (hfresh : (drawnIds events).Nodup)
    (hrun : run (step store) {} events = some world) : AllPaired world := by
  have halong : Along (step store) FreshDraw {} events :=
    along_fresh_draw hfresh fun id _ hmem => by simp [World.events, drawnIds] at hmem
  have hinit : Sound store {} ∧ AllPaired {} := by
    refine ⟨sound_init store, ?_⟩
    intro id stored hlookup
    simp at hlookup
  have hfinal : Sound store world ∧ AllPaired world := by
    refine along_invariant (I := fun state => Sound store state ∧ AllPaired state) ?_
      hinit halong hrun
    intro state event next hstate hdraw hstep
    obtain ⟨reply, hstepped⟩ := step_sound hstate.1 hdraw hstep
    exact ⟨hstepped.sound, all_paired_step hstate.2 hstepped⟩
  exact hfinal.2

end Run

/-- In every state the store reaches, a readable task is completed exactly when it holds a result
and no error, failed exactly when it holds an error and no result, and holds neither otherwise. Once
it is terminal, its status, result and error are the same at every later reading. -/
theorem task_terminality (store : MemoryTaskStore) (earlier later : List Event)
    (middle final : World) (hfresh : (drawnIds (earlier ++ later)).Nodup)
    (hearlier : run (step store) {} earlier = some middle)
    (hlater : run (step store) middle later = some final) :
    (∀ id stored, middle.readable id = some stored →
      (stored.task.status = .completed ↔ stored.task.result.isSome ∧ stored.task.error = none) ∧
      (stored.task.status = .failed ↔ stored.task.error.isSome ∧ stored.task.result = none) ∧
      (stored.task.status ≠ .completed → stored.task.status ≠ .failed →
        stored.task.result = none ∧ stored.task.error = none)) ∧
    ∀ id before after, middle.readable id = some before → final.readable id = some after →
      before.task.status.isTerminal = true →
      after.task.status = before.task.status ∧ after.task.result = before.task.result ∧
        after.task.error = before.task.error := by
  have halong : Along (step store) FreshDraw {} (earlier ++ later) :=
    along_fresh_draw hfresh fun id _ hmem => by simp [World.events, drawnIds] at hmem
  have hfirst : (drawnIds earlier).Nodup :=
    hfresh.sublist ((List.sublist_append_left earlier later).filterMap _)
  have hmiddle := run_sound hfirst hearlier
  constructor
  · intro id stored hread
    obtain ⟨hlookup, hunsignalled⟩ := unsignalled_of_readable hmiddle hread
    have hpaired := run_all_paired hfirst hearlier id stored hlookup hunsignalled
    exact ⟨hpaired.completed, hpaired.failed, hpaired.other⟩
  · intro id before after hbefore hafter hterminal
    obtain ⟨hlookup, hunsignalled⟩ := unsignalled_of_readable hmiddle hbefore
    have hsettled : OutcomeSettled id before.task middle := by
      refine ⟨hmiddle.drawn id before hlookup, ?_⟩
      intro stored hstored _
      obtain rfl := Option.some.inj (hlookup.symm.trans hstored)
      exact ⟨rfl, rfl, rfl⟩
    have hfinal : Sound store final ∧ OutcomeSettled id before.task final := by
      refine along_invariant
        (I := fun state => Sound store state ∧ OutcomeSettled id before.task state) ?_
        ⟨hmiddle, hsettled⟩ (halong.tail hearlier) hlater
      intro state event next hstate hdraw hstep
      obtain ⟨reply, hstepped⟩ := step_sound hstate.1 hdraw hstep
      exact ⟨hstepped.sound, outcome_settled_step hterminal hstate.2 hdraw hstepped⟩
    obtain ⟨hafterLookup, hafterUnsignalled⟩ := unsignalled_of_readable hfinal.1 hafter
    have houtcome := hfinal.2.2 after hafterLookup hafterUnsignalled
    exact ⟨houtcome.status, houtcome.result, houtcome.error⟩

def failingEvents : List Event :=
  [⟨⟨0, "t0"⟩, .createTask ⟨0, "t0"⟩ "a" "report" .null none none⟩,
    ⟨⟨1, "t1"⟩, .failTask "a" (JsonRpcError.internalError "disk full")⟩]

def lateEvents : List Event :=
  [⟨⟨2, "t2"⟩, .completeTask "a" { content := [] }⟩,
    ⟨⟨3, "t3"⟩, .cancelTask "a" none⟩,
    ⟨⟨4, "t4"⟩, .setTaskMeta "a" (.bool true)⟩]

theorem task_terminality_failed :
    ∃ middle final before after,
      run (step tightStore) {} failingEvents = some middle ∧
      run (step tightStore) middle lateEvents = some final ∧
      middle.readable "a" = some before ∧ final.readable "a" = some after ∧
      before.task.status = .failed ∧ after.task.status = before.task.status ∧
      after.task.result = before.task.result ∧ after.task.error = before.task.error := by
  obtain ⟨middle, hmiddle, ⟨before, hbefore, hstatus⟩, final, hlate, after, hafter⟩ : ∃ middle,
      run (step tightStore) {} failingEvents = some middle ∧
        (∃ before, middle.readable "a" = some before ∧ before.task.status = .failed) ∧
        ∃ final, run (step tightStore) middle lateEvents = some final ∧
          ∃ after, final.readable "a" = some after := by
    decide +kernel
  have houtcome := (task_terminality tightStore failingEvents lateEvents middle final (by decide)
    hmiddle hlate).2 "a" before after hbefore hafter (by rw [hstatus]; rfl)
  exact ⟨middle, final, before, after, hmiddle, hlate, hbefore, hafter, hstatus, houtcome⟩

end TaskStore

end TowerMcp
