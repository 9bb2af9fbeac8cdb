import TowerMcp.Lib.Execution
import TowerMcp.Lib.Pool
import TowerMcp.Task.Store

/-!
# Live task executions

The registry of live task executions, after `task_execution.rs`. An execution is reserved before its
task exists and promoted once it has an identifier; the guard it holds releases it however it ends.
The number of active executions is published on a watch beside the maps. A lock section that changes
the maps and then publishes, or that promotes, is two events here with the lock held in between, so
that a reader of the watch may come between them; everything else waits for the lock.
-/

namespace TowerMcp

open FinMap Pool Execution

structure LiveTaskCancellation where
  token : Bool := false
  requested : Bool := false
  reason : Option String := none
deriving DecidableEq

def LiveTaskCancellation.cancel (cancellation : LiveTaskCancellation) (reason : Option String) :
    LiveTaskCancellation where
  token := true
  requested := true
  reason := if cancellation.requested then cancellation.reason else reason

namespace LiveTaskExecutionRegistry

/-- The maps of the registry. Both hold the cancellation of an execution, named by the ticket its
admission was given. -/
structure RegistryState where
  admissionOpen : Bool := true
  nextReservation : ℕ := 0
  reservations : FinMap ℕ ℕ := ∅
  executions : FinMap String ℕ := ∅

def RegistryState.activeCount (state : RegistryState) : ℕ :=
  FinMap.count state.reservations + FinMap.count state.executions

inductive Guard where
  | admission (reservation : ℕ)
  | registration (taskId : String)
deriving DecidableEq

inductive Section where
  | publishing
  | promoting (ticket : ℕ) (taskId : String)
deriving DecidableEq

/-- The registry with the guards that are held and the cancellation passes under way. `count` is what
the watch shows, and `released` are the tickets released so far, the latest first. -/
structure World where
  state : RegistryState := {}
  count : ℕ := 0
  held : Option Section := none
  guards : Pool Guard := {}
  cancellations : FinMap ℕ LiveTaskCancellation := ∅
  passes : Pool (List ℕ × String) := {}
  released : List ℕ := []

inductive Event where
  | admitTask
  | publish
  | promote (ticket : ℕ) (taskId : String)
  | insert
  | release (ticket : ℕ)
  | closeAdmission
  | cancelAll (reason : String)
  | cancelNext (pass : ℕ)
  | drained
deriving DecidableEq

namespace World

def admitTask (world : World) : World :=
  let state := world.state
  if state.admissionOpen then
    let ticket := world.guards.next
    { world with
      state :=
        { state with
          nextReservation := (state.nextReservation + 1) % (u64Max + 1)
          reservations := state.reservations.insert state.nextReservation ticket }
      held := some .publishing
      guards := world.guards.start (.admission state.nextReservation)
      cancellations := world.cancellations.insert ticket {} }
  else world

def publish (world : World) : World :=
  { world with count := world.state.activeCount, held := none }

def remove (state : RegistryState) : Guard → RegistryState
  | .admission reservation =>
    { state with reservations := state.reservations.erase reservation }
  | .registration taskId => { state with executions := state.executions.erase taskId }

def release (world : World) (ticket : ℕ) (guard : Guard) : World :=
  { world with
    state := remove world.state guard
    held := some .publishing
    guards := world.guards.finish ticket
    released := ticket :: world.released }

def cancelOne (world : World) (ticket : ℕ) (reason : String) : World :=
  match world.cancellations.lookup ticket with
  | some cancellation =>
    { world with
      cancellations := world.cancellations.insert ticket (cancellation.cancel (some reason)) }
  | none => world

def active (world : World) : List ℕ :=
  world.state.reservations.values ++ world.state.executions.values

def cancelNext (world : World) (pass : ℕ) : List ℕ × String → World
  | ([], _) => { world with passes := world.passes.finish pass }
  | (ticket :: rest, reason) =>
    let world := world.cancelOne ticket reason
    { world with passes := world.passes.become pass (rest, reason) }

end World

def step (world : World) : Event → Option World
  | .admitTask => if world.held.isNone then some world.admitTask else none
  | .publish =>
    match world.held with
    | some .publishing => some world.publish
    | _ => none
  | .promote ticket taskId =>
    match world.held, world.guards.get ticket with
    | none, some (.admission reservation) =>
      some { world with
        state := World.remove world.state (.admission reservation)
        held := some (.promoting ticket taskId) }
    | _, _ => none
  | .insert =>
    match world.held with
    | some (.promoting ticket taskId) =>
      some { world with
        state :=
          { world.state with executions := world.state.executions.insert taskId ticket }
        held := none
        guards := world.guards.become ticket (.registration taskId) }
    | _ => none
  | .release ticket =>
    match world.held, world.guards.get ticket with
    | none, some guard => some (world.release ticket guard)
    | _, _ => none
  | .closeAdmission =>
    if world.held.isNone then
      some { world with state := { world.state with admissionOpen := false } }
    else none
  | .cancelAll reason =>
    if world.held.isNone then
      some { world with passes := world.passes.start (world.active, reason) }
    else none
  | .cancelNext pass => (world.passes.get pass).map (world.cancelNext pass)
  | .drained => if world.count = 0 then some world else none

/-! ## What is active -/

def promotedId : Event → Option String
  | .promote _ taskId => some taskId
  | _ => none

def promotedIds (events : List Event) : List String :=
  events.filterMap promotedId

def Named (world : World) (taskId : String) : Prop :=
  (∃ ticket, world.state.executions.lookup taskId = some ticket) ∨
    ∃ ticket, world.held = some (.promoting ticket taskId)

def FreshTask (world : World) (event : Event) : Prop :=
  ∀ taskId, promotedId event = some taskId → ¬Named world taskId

def FreshReservation (world : World) (event : Event) : Prop :=
  event = .admitTask → world.state.admissionOpen = true →
    world.state.reservations.lookup world.state.nextReservation = none

instance (world : World) (event : Event) : Decidable (FreshReservation world event) :=
  inferInstanceAs (Decidable (event = .admitTask → world.state.admissionOpen = true →
    world.state.reservations.lookup world.state.nextReservation = none))

def promoting : Option Section → ℕ
  | some (.promoting ..) => 1
  | _ => 0

/-- What the watch shows of the maps. Between the change of a map and its publication it is one
behind, and ahead of the maps unless an execution is being admitted. -/
def Published (world : World) : Prop :=
  match world.held with
  | some .publishing =>
    world.state.activeCount + 1 = world.count ∨
      (world.state.activeCount = world.count + 1 ∧ world.state.admissionOpen = true)
  | held => world.count = world.state.activeCount + promoting held

structure Balanced (world : World) : Prop where
  reserved : ∀ reservation ticket, world.state.reservations.lookup reservation = some ticket ↔
    world.guards.get ticket = some (.admission reservation) ∧
      ∀ taskId, world.held ≠ some (.promoting ticket taskId)
  executing : ∀ taskId ticket, world.state.executions.lookup taskId = some ticket ↔
    world.guards.get ticket = some (.registration taskId)
  promoted : ∀ ticket taskId, world.held = some (.promoting ticket taskId) →
    (∃ reservation, world.guards.get ticket = some (.admission reservation)) ∧
      world.state.executions.lookup taskId = none
  guarded : FinMap.count world.guards.calls = world.state.activeCount + promoting world.held
  published : Published world
  numbered : world.guards.Numbered
  once : world.released.Nodup
  released : ∀ ticket, ticket ∈ world.released ↔
    ticket < world.guards.next ∧ world.guards.get ticket = none

theorem balanced_init : Balanced {} where
  reserved := by
    intro reservation ticket
    constructor
    · intro h
      exact absurd h (by simp)
    · rintro ⟨h, _⟩
      exact absurd h (by simp [Pool.get])
  executing := by
    intro taskId ticket
    constructor
    · intro h
      exact absurd h (by simp)
    · intro h
      exact absurd h (by simp [Pool.get])
  promoted := by
    intro ticket taskId h
    cases h
  guarded := rfl
  published := rfl
  numbered := numbered_empty
  once := List.nodup_nil
  released := by
    intro ticket
    constructor
    · intro h
      cases h
    · rintro ⟨h, _⟩
      exact absurd h (Nat.not_lt_zero ticket)

section Step

variable {world : World}

theorem Balanced.count_of_free (h : Balanced world) (hfree : world.held = none) :
    world.count = world.state.activeCount := by
  have hpublished := h.published
  unfold Published at hpublished
  rw [hfree] at hpublished
  exact hpublished

theorem Balanced.reserved_of_free (h : Balanced world) (hfree : world.held = none)
    (reservation ticket : ℕ) :
    world.state.reservations.lookup reservation = some ticket ↔
      world.guards.get ticket = some (.admission reservation) := by
  rw [h.reserved, hfree]
  exact and_iff_left nofun

theorem admit_task_of_closed (hclosed : world.state.admissionOpen = false) : world.admitTask = world := by
  unfold World.admitTask
  dsimp only
  rw [if_neg (by simp [hclosed])]

theorem admit_of_open (hopen : world.state.admissionOpen = true) :
    world.admitTask =
      { world with
        state :=
          { world.state with
            nextReservation := (world.state.nextReservation + 1) % (u64Max + 1)
            reservations :=
              world.state.reservations.insert world.state.nextReservation world.guards.next }
        held := some .publishing
        guards := world.guards.start (.admission world.state.nextReservation)
        cancellations := world.cancellations.insert world.guards.next {} } := by
  unfold World.admitTask
  rw [if_pos hopen]

theorem Balanced.admitTask (h : Balanced world) (hfree : world.held = none)
    (hopen : world.state.admissionOpen = true)
    (hfresh : world.state.reservations.lookup world.state.nextReservation = none) :
    Balanced world.admitTask := by
  have hnew : world.guards.get world.guards.next = none := h.numbered.get_next
  have hcount : FinMap.count
      (world.state.reservations.insert world.state.nextReservation world.guards.next) =
      FinMap.count world.state.reservations + 1 :=
    count_insert_of_lookup_none hfresh
  have hguards : FinMap.count
      (world.guards.calls.insert world.guards.next (Guard.admission world.state.nextReservation)) =
      FinMap.count world.guards.calls + 1 :=
    count_insert_of_lookup_none hnew
  have hpublished := h.count_of_free hfree
  have hguarded := h.guarded
  rw [hfree] at hguarded
  rw [admit_of_open hopen]
  refine ⟨?_, ?_, ?_, ?_, ?_, h.numbered.start _, h.once, ?_⟩
  · intro reservation ticket
    have hbefore := h.reserved_of_free hfree reservation ticket
    rw [lookup_insert_eq_ite, get_start_eq_ite, and_iff_left nofun]
    by_cases hticket : ticket = world.guards.next
    · subst hticket
      rw [hnew] at hbefore
      grind
    · grind
  · intro taskId ticket
    have hbefore := h.executing taskId ticket
    rw [get_start_eq_ite]
    by_cases hticket : ticket = world.guards.next
    · subst hticket
      rw [hnew] at hbefore
      grind
    · grind
  · intro ticket taskId hheld
    cases hheld
  · show FinMap.count (world.guards.calls.insert world.guards.next _) = _
    rw [hguards, hguarded]
    show FinMap.count world.state.reservations + FinMap.count world.state.executions + 0 + 1 =
      FinMap.count (world.state.reservations.insert _ _) + FinMap.count world.state.executions + 0
    rw [hcount]
    omega
  · refine .inr ⟨?_, hopen⟩
    show FinMap.count (world.state.reservations.insert _ _) +
      FinMap.count world.state.executions = world.count + 1
    rw [hcount, hpublished, RegistryState.activeCount]
    omega
  · intro ticket
    have hbefore := h.released ticket
    rw [get_start_eq_ite]
    show _ ↔ ticket < world.guards.next + 1 ∧ _
    by_cases hticket : ticket = world.guards.next
    · subst hticket
      grind
    · grind

theorem Balanced.publish (h : Balanced world) (hheld : world.held = some .publishing) :
    Balanced world.publish where
  reserved := by
    intro reservation ticket
    have hbefore := h.reserved reservation ticket
    rw [hheld, and_iff_left nofun] at hbefore
    show _ ↔ world.guards.get ticket = _ ∧
      ∀ taskId, none ≠ some (Section.promoting ticket taskId)
    rw [and_iff_left nofun]
    exact hbefore
  executing := h.executing
  promoted := by
    intro ticket taskId hnone
    cases hnone
  guarded := by
    have hguarded := h.guarded
    rw [hheld] at hguarded
    exact hguarded
  published := rfl
  numbered := h.numbered
  once := h.once
  released := h.released

variable {ticket : ℕ}

theorem Balanced.promote (h : Balanced world) (hfree : world.held = none) {reservation : ℕ}
    {taskId : String} (hguard : world.guards.get ticket = some (.admission reservation))
    (hfresh : ¬Named world taskId) :
    Balanced { world with
      state := World.remove world.state (.admission reservation)
      held := some (.promoting ticket taskId) } := by
  have hreserved := (h.reserved_of_free hfree reservation ticket).2 hguard
  have hcount := count_erase_of_lookup hreserved
  have hguarded := h.guarded
  have hpublished := h.count_of_free hfree
  rw [hfree] at hguarded
  refine ⟨?_, h.executing, ?_, ?_, ?_, h.numbered, h.once, h.released⟩
  · intro other holder
    have hbefore := h.reserved_of_free hfree other holder
    show (world.state.reservations.erase reservation).lookup other = some holder ↔ _
    rw [lookup_erase_eq_ite]
    by_cases hother : other = reservation
    · subst hother
      rw [if_pos rfl]
      constructor
      · intro hnone
        cases hnone
      · rintro ⟨hget, hnot⟩
        have hholder := hbefore.2 hget
        rw [hreserved] at hholder
        exact absurd (by rw [Option.some.inj hholder]) (hnot taskId)
    · grind
  · intro other otherId hheld
    obtain ⟨rfl, rfl⟩ := Section.promoting.inj (Option.some.inj hheld)
    refine ⟨⟨reservation, hguard⟩, ?_⟩
    show world.state.executions.lookup taskId = none
    cases hlookup : world.state.executions.lookup taskId with
    | none => rfl
    | some holder => exact absurd (.inl ⟨holder, hlookup⟩) hfresh
  · have hcalls : FinMap.count world.guards.calls = FinMap.count world.state.reservations +
        FinMap.count world.state.executions := hguarded
    show FinMap.count world.guards.calls =
      FinMap.count (world.state.reservations.erase reservation) +
        FinMap.count world.state.executions + 1
    omega
  · show world.count = FinMap.count (world.state.reservations.erase reservation) +
      FinMap.count world.state.executions + 1
    rw [hpublished, RegistryState.activeCount]
    omega

theorem Balanced.insert (h : Balanced world) {taskId : String}
    (hheld : world.held = some (.promoting ticket taskId)) :
    Balanced { world with
      state := { world.state with executions := world.state.executions.insert taskId ticket }
      held := none
      guards := world.guards.become ticket (.registration taskId) } := by
  obtain ⟨⟨reservation, hguard⟩, hfresh⟩ := h.promoted ticket taskId hheld
  have hcount : FinMap.count (world.state.executions.insert taskId ticket) =
      FinMap.count world.state.executions + 1 :=
    count_insert_of_lookup_none hfresh
  have hguards : FinMap.count (world.guards.calls.insert ticket (Guard.registration taskId)) =
      FinMap.count world.guards.calls :=
    count_insert_of_lookup hguard
  have hguarded := h.guarded
  have hpublished := h.published
  unfold Published at hpublished
  rw [hheld] at hguarded hpublished
  refine ⟨?_, ?_, nofun, ?_, ?_, h.numbered.become hguard _, h.once, ?_⟩
  · intro other holder
    have hbefore := h.reserved other holder
    rw [hheld] at hbefore
    rw [get_become_eq_ite]
    grind
  · intro otherId holder
    have hbefore := h.executing otherId holder
    show (world.state.executions.insert taskId ticket).lookup otherId = some holder ↔ _
    rw [lookup_insert_eq_ite, get_become_eq_ite]
    grind
  · show FinMap.count (world.guards.calls.insert ticket _) =
      FinMap.count world.state.reservations +
        FinMap.count (world.state.executions.insert taskId ticket) + 0
    rw [hguards, hguarded, hcount, RegistryState.activeCount, promoting]
    omega
  · show world.count = FinMap.count world.state.reservations +
      FinMap.count (world.state.executions.insert taskId ticket) + 0
    rw [hpublished, hcount, RegistryState.activeCount, promoting]
    omega
  · intro other
    have hbefore := h.released other
    rw [get_become_eq_ite]
    show _ ↔ other < world.guards.next ∧ _
    grind

theorem Balanced.active_count_remove (h : Balanced world) (hfree : world.held = none)
    {guard : Guard} (hguard : world.guards.get ticket = some guard) :
    (World.remove world.state guard).activeCount + 1 = world.state.activeCount := by
  cases guard with
  | admission reservation =>
    have hreserved := (h.reserved_of_free hfree reservation ticket).2 hguard
    have hcount := count_erase_of_lookup hreserved
    show FinMap.count (world.state.reservations.erase reservation) +
      FinMap.count world.state.executions + 1 = _
    rw [RegistryState.activeCount]
    omega
  | registration taskId =>
    have hcount := count_erase_of_lookup ((h.executing taskId ticket).2 hguard)
    show FinMap.count world.state.reservations +
      FinMap.count (world.state.executions.erase taskId) + 1 = _
    rw [RegistryState.activeCount]
    omega

theorem Balanced.release (h : Balanced world) (hfree : world.held = none)
    {guard : Guard} (hguard : world.guards.get ticket = some guard) :
    Balanced (world.release ticket guard) := by
  have hactive := h.active_count_remove hfree hguard
  have hcount := count_erase_of_lookup hguard
  have hguarded := h.guarded
  have hpublished := h.count_of_free hfree
  rw [hfree] at hguarded
  refine ⟨?_, ?_, nofun, ?_, ?_, h.numbered.finish ticket, ?_, ?_⟩
  · intro reservation holder
    have hbefore := h.reserved_of_free hfree reservation holder
    show (World.remove world.state guard).reservations.lookup reservation = some holder ↔
      (world.guards.finish ticket).get holder = _ ∧
        ∀ taskId, some Section.publishing ≠ some (.promoting holder taskId)
    rw [get_finish_eq_ite, and_iff_left nofun]
    cases guard with
    | admission own =>
      have hown := (h.reserved_of_free hfree own ticket).2 hguard
      show (world.state.reservations.erase own).lookup reservation = some holder ↔ _
      rw [lookup_erase_eq_ite]
      grind
    | registration own =>
      show world.state.reservations.lookup reservation = some holder ↔ _
      grind
  · intro taskId holder
    have hbefore := h.executing taskId holder
    show (World.remove world.state guard).executions.lookup taskId = some holder ↔
      (world.guards.finish ticket).get holder = _
    rw [get_finish_eq_ite]
    cases guard with
    | admission own =>
      show world.state.executions.lookup taskId = some holder ↔ _
      grind
    | registration own =>
      have hown := (h.executing own ticket).2 hguard
      show (world.state.executions.erase own).lookup taskId = some holder ↔ _
      rw [lookup_erase_eq_ite]
      grind
  · show FinMap.count (world.guards.calls.erase ticket) = _ + 0
    have hcalls : FinMap.count world.guards.calls = world.state.activeCount := hguarded
    show _ = (World.remove world.state guard).activeCount + 0
    omega
  · left
    show (World.remove world.state guard).activeCount + 1 = world.count
    rw [hactive, hpublished]
  · show (ticket :: world.released).Nodup
    refine List.nodup_cons.2 ⟨fun hmem => ?_, h.once⟩
    rw [((h.released ticket).1 hmem).2] at hguard
    cases hguard
  · intro other
    have hbefore := h.released other
    have hlt := h.numbered ticket guard hguard
    show other ∈ ticket :: world.released ↔ other < world.guards.next ∧
      (world.guards.finish ticket).get other = none
    rw [get_finish_eq_ite, List.mem_cons]
    grind

theorem Balanced.of_cancellations (h : Balanced world)
    (cancellations : FinMap ℕ LiveTaskCancellation) (passes : Pool (List ℕ × String)) :
    Balanced { world with cancellations := cancellations, passes := passes } :=
  ⟨h.reserved, h.executing, h.promoted, h.guarded, h.published, h.numbered, h.once, h.released⟩

theorem cancel_next_eq (world : World) (pass : ℕ) (work : List ℕ × String) :
    ∃ cancellations passes, world.cancelNext pass work =
      { world with cancellations := cancellations, passes := passes } := by
  obtain ⟨tickets, reason⟩ := work
  cases tickets with
  | nil => exact ⟨_, _, rfl⟩
  | cons ticket rest =>
    unfold World.cancelNext World.cancelOne
    dsimp only
    cases world.cancellations.lookup ticket with
    | none => exact ⟨_, _, rfl⟩
    | some cancellation => exact ⟨_, _, rfl⟩

theorem balanced_step {next : World} {event : Event} (h : Balanced world)
    (hfresh : FreshReservation world event) (htask : FreshTask world event)
    (hstep : step world event = some next) : Balanced next := by
  cases event with
  | admitTask =>
    obtain ⟨hfree, hadmit⟩ := Option.ite_none_right_eq_some.1 hstep
    cases hadmit
    cases hopen : world.state.admissionOpen with
    | true => exact h.admitTask (Option.isNone_iff_eq_none.1 hfree) hopen (hfresh rfl hopen)
    | false =>
      rw [admit_task_of_closed hopen]
      exact h
  | publish =>
    dsimp only [step] at hstep
    split at hstep
    next hheld =>
      cases hstep
      exact h.publish hheld
    next => cases hstep
  | promote ticket taskId =>
    dsimp only [step] at hstep
    split at hstep
    next reservation hfree hguard =>
      cases hstep
      exact h.promote hfree hguard (htask taskId rfl)
    next => cases hstep
  | insert =>
    dsimp only [step] at hstep
    split at hstep
    next ticket taskId hheld =>
      cases hstep
      exact h.insert hheld
    next => cases hstep
  | release ticket =>
    dsimp only [step] at hstep
    split at hstep
    next guard hfree hguard =>
      cases hstep
      exact h.release hfree hguard
    next => cases hstep
  | closeAdmission =>
    obtain ⟨hfree, hclosed⟩ := Option.ite_none_right_eq_some.1 hstep
    cases hclosed
    have hcount := h.count_of_free (Option.isNone_iff_eq_none.1 hfree)
    refine ⟨h.reserved, h.executing, h.promoted, h.guarded, ?_, h.numbered, h.once, h.released⟩
    rw [Option.isNone_iff_eq_none.1 hfree]
    exact hcount
  | cancelAll reason =>
    obtain ⟨_, hpass⟩ := Option.ite_none_right_eq_some.1 hstep
    cases hpass
    exact h.of_cancellations _ _
  | cancelNext pass =>
    obtain ⟨work, _, rfl⟩ := Option.map_eq_some_iff.1 hstep
    obtain ⟨cancellations, passes, heq⟩ := cancel_next_eq world pass work
    rw [heq]
    exact h.of_cancellations _ _
  | drained =>
    obtain ⟨_, hsame⟩ := Option.ite_none_right_eq_some.1 hstep
    cases hsame
    exact h

end Step

/-! ## Runs -/

variable {world : World}

theorem named_of_step {next : World} {event : Event} (hstep : step world event = some next)
    (taskId : String) (hnamed : Named next taskId) :
    Named world taskId ∨ promotedId event = some taskId := by
  cases event with
  | admitTask =>
    obtain ⟨hfree, hadmit⟩ := Option.ite_none_right_eq_some.1 hstep
    cases hadmit
    cases hopen : world.state.admissionOpen with
    | true =>
      simp only [World.admitTask, hopen, if_true, Named, Option.some.injEq, reduceCtorEq,
        exists_false, or_false] at hnamed
      exact .inl (.inl hnamed)
    | false =>
      rw [admit_task_of_closed hopen] at hnamed
      exact .inl hnamed
  | publish =>
    dsimp only [step] at hstep
    split at hstep
    next =>
      cases hstep
      rcases hnamed with hlookup | ⟨ticket, hheld⟩
      · exact .inl (.inl hlookup)
      · cases hheld
    next => cases hstep
  | promote ticket other =>
    dsimp only [step] at hstep
    split at hstep
    next =>
      cases hstep
      rcases hnamed with hlookup | ⟨holder, hheld⟩
      · exact .inl (.inl hlookup)
      · obtain ⟨rfl, rfl⟩ := Section.promoting.inj (Option.some.inj hheld)
        exact .inr rfl
    next => cases hstep
  | insert =>
    dsimp only [step] at hstep
    split at hstep
    next ticket other hheld =>
      cases hstep
      rcases hnamed with ⟨holder, hlookup⟩ | ⟨holder, hnone⟩
      · change (world.state.executions.insert other ticket).lookup taskId = _ at hlookup
        rw [lookup_insert_eq_ite] at hlookup
        split at hlookup
        next heq =>
          rw [heq]
          exact .inl (.inr ⟨ticket, hheld⟩)
        next => exact .inl (.inl ⟨holder, hlookup⟩)
      · cases hnone
    next => cases hstep
  | release ticket =>
    dsimp only [step] at hstep
    split at hstep
    next guard _ _ =>
      cases hstep
      rcases hnamed with ⟨holder, hlookup⟩ | ⟨holder, hheld⟩
      · cases guard with
        | admission reservation => exact .inl (.inl ⟨holder, hlookup⟩)
        | registration own =>
          change (world.state.executions.erase own).lookup taskId = _ at hlookup
          rw [lookup_erase_eq_ite] at hlookup
          exact .inl (.inl ⟨holder, (Option.ite_none_left_eq_some.1 hlookup).2⟩)
      · cases hheld
    next => cases hstep
  | closeAdmission | cancelAll reason =>
    obtain ⟨_, hnext⟩ := Option.ite_none_right_eq_some.1 hstep
    cases hnext
    exact .inl hnamed
  | cancelNext pass =>
    obtain ⟨work, _, rfl⟩ := Option.map_eq_some_iff.1 hstep
    obtain ⟨cancellations, passes, heq⟩ := cancel_next_eq world pass work
    rw [heq] at hnamed
    exact .inl hnamed
  | drained =>
    obtain ⟨_, hsame⟩ := Option.ite_none_right_eq_some.1 hstep
    cases hsame
    exact .inl hnamed

/-- What is true of a registry at every moment: the watch shows the number of reservations and
executions whenever the lock is free, and counts a task that is being promoted; a guard that is held
has an entry or is being promoted; a guard that was given out is held or was released, once. -/
structure Accounted (world : World) : Prop where
  published : world.held = none →
    world.count = FinMap.count world.state.reservations + FinMap.count world.state.executions
  promoting : ∀ ticket taskId, world.held = some (.promoting ticket taskId) →
    world.count = FinMap.count world.state.reservations + FinMap.count world.state.executions + 1
  entered : ∀ ticket guard, world.guards.get ticket = some guard →
    match guard with
    | .admission reservation =>
      world.state.reservations.lookup reservation = some ticket ∨
        ∃ taskId, world.held = some (.promoting ticket taskId)
    | .registration taskId => world.state.executions.lookup taskId = some ticket
  once : world.released.Nodup
  released : ∀ ticket, ticket < world.guards.next →
    (ticket ∈ world.released ↔ world.guards.get ticket = none)

theorem accounted_of_balanced (h : Balanced world) : Accounted world where
  published := h.count_of_free
  promoting := by
    intro ticket taskId hheld
    have hpublished := h.published
    unfold Published at hpublished
    rw [hheld] at hpublished
    exact hpublished
  entered := by
    intro ticket guard hguard
    cases guard with
    | admission reservation =>
      by_cases hheld : ∃ taskId, world.held = some (.promoting ticket taskId)
      · exact .inr hheld
      · exact .inl ((h.reserved reservation ticket).2 ⟨hguard, not_exists.1 hheld⟩)
    | registration taskId => exact (h.executing taskId ticket).2 hguard
  once := h.once
  released := by
    intro ticket hlt
    rw [h.released]
    exact and_iff_right hlt

structure Drained (world : World) : Prop where
  closed : world.state.admissionOpen = false
  unheld : ∀ ticket, world.guards.get ticket = none
  free : world.held = none
  reservations : ∀ reservation, world.state.reservations.lookup reservation = none
  executions : ∀ taskId, world.state.executions.lookup taskId = none

theorem drained_of_count (h : Balanced world)
    (hclosed : world.state.admissionOpen = false) (hcount : world.count = 0) : Drained world := by
  have hpublished := h.published
  unfold Published at hpublished
  have hfree : world.held = none := by
    cases hheld : world.held with
    | none => rfl
    | some current =>
      rw [hheld] at hpublished
      cases current with
      | publishing =>
        rcases hpublished with habove | ⟨_, hopen⟩
        · omega
        · rw [hclosed] at hopen
          cases hopen
      | promoting ticket taskId =>
        change world.count = world.state.activeCount + 1 at hpublished
        omega
  have hactive : FinMap.count world.state.reservations + FinMap.count world.state.executions = 0 :=
    (h.count_of_free hfree).symm.trans hcount
  have hguarded := h.guarded
  rw [hfree] at hguarded
  have hguards : FinMap.count world.guards.calls = 0 := hguarded.trans hactive
  exact ⟨hclosed, lookup_of_count_eq_zero hguards, hfree,
    lookup_of_count_eq_zero (by omega), lookup_of_count_eq_zero (by omega)⟩

theorem drained_step {next : World} {event : Event} (h : Drained world)
    (hstep : step world event = some next) : Drained next := by
  cases event with
  | admitTask =>
    obtain ⟨_, hadmit⟩ := Option.ite_none_right_eq_some.1 hstep
    cases hadmit
    rw [admit_task_of_closed h.closed]
    exact h
  | publish | insert =>
    dsimp only [step] at hstep
    rw [h.free] at hstep
    cases hstep
  | promote ticket taskId =>
    dsimp only [step] at hstep
    rw [h.free, h.unheld] at hstep
    cases hstep
  | release ticket =>
    dsimp only [step] at hstep
    rw [h.free, h.unheld] at hstep
    cases hstep
  | closeAdmission =>
    obtain ⟨_, hclosed⟩ := Option.ite_none_right_eq_some.1 hstep
    cases hclosed
    exact ⟨rfl, h.unheld, h.free, h.reservations, h.executions⟩
  | cancelAll reason =>
    obtain ⟨_, hpass⟩ := Option.ite_none_right_eq_some.1 hstep
    cases hpass
    exact ⟨h.closed, h.unheld, h.free, h.reservations, h.executions⟩
  | cancelNext pass =>
    obtain ⟨work, _, rfl⟩ := Option.map_eq_some_iff.1 hstep
    obtain ⟨cancellations, passes, heq⟩ := cancel_next_eq world pass work
    rw [heq]
    exact ⟨h.closed, h.unheld, h.free, h.reservations, h.executions⟩
  | drained =>
    obtain ⟨_, hsame⟩ := Option.ite_none_right_eq_some.1 hstep
    cases hsame
    exact h

/-- In a run whose promoted identifiers differ and whose admissions draw no reservation number that
is still held, the registry is accounted for at every moment, and once a drain has returned from a
closed registry no execution is active at any later moment. -/
theorem live_executions_accounted (events : List Event) (hunique : (promotedIds events).Nodup)
    (hfresh : Along step FreshReservation {} events) :
    Throughout step Accounted {} events ∧
      ∀ first second middle after, events = first ++ .drained :: second →
        run step {} first = some middle → middle.state.admissionOpen = false →
        step middle .drained = some after →
        Throughout step Drained after second := by
  have hnames : Along step FreshTask {} events := by
    have hadds : ∀ world event next, step world event = some next → ∀ taskId, Named next taskId →
        Named world taskId ∨ promotedId event = some taskId :=
      fun _ _ _ hstep taskId => named_of_step hstep taskId
    refine along_fresh hadds hunique ?_
    rintro taskId _ (⟨ticket, hlookup⟩ | ⟨ticket, hheld⟩)
    · exact absurd hlookup (by simp)
    · cases hheld
  have hbalanced : Throughout step Balanced {} events := by
    refine throughout_of_along ?_ balanced_init (hfresh.and hnames)
    intro world event next hbalanced hevent hstep
    exact balanced_step hbalanced hevent.1 hevent.2 hstep
  refine ⟨hbalanced.mono fun world => accounted_of_balanced, ?_⟩
  rintro first second middle after rfl hfirst hclosed hdrained
  have hmiddle : Balanced middle := (hbalanced.tail hfirst).head
  obtain ⟨hcount, hsame⟩ := Option.ite_none_right_eq_some.1 hdrained
  cases hsame
  refine throughout_of_invariant ?_ (drained_of_count hmiddle hclosed hcount) second
  intro world event next hquiet hstep
  exact drained_step hquiet hstep

def servedEvents : List Event :=
  [.admitTask, .publish, .promote 0 "a", .insert, .cancelAll "shutdown", .closeAdmission, .cancelNext 0,
    .release 0, .publish]

theorem live_executions_accounted_served :
    Throughout step Accounted {} (servedEvents ++ [.drained]) ∧
      ∃ after, run step {} (servedEvents ++ [.drained]) = some after ∧ Drained after := by
  obtain ⟨middle, hrun, hclosed, hcount⟩ : ∃ middle,
      run step {} servedEvents = some middle ∧ middle.state.admissionOpen = false ∧
        middle.count = 0 := by
    decide +kernel
  have hdrained : step middle .drained = some middle := if_pos hcount
  obtain ⟨haccounted, hquiet⟩ := live_executions_accounted (servedEvents ++ [.drained]) (by decide)
    (by decide +kernel)
  refine ⟨haccounted, middle, ?_, ?_⟩
  · exact run_concat.2 ⟨middle, hrun, hdrained⟩
  · exact (hquiet servedEvents [] middle middle rfl hrun hclosed hdrained).last rfl

/-! ## Reservation numbers that come round -/

def spin (ticket : ℕ) : List Event :=
  [.admitTask, .publish, .release ticket, .publish]

def spins : ℕ → List Event
  | 0 => [.admitTask, .publish]
  | n + 1 => spins n ++ spin (n + 1)

structure Spun (n : ℕ) (world : World) : Prop where
  opened : world.state.admissionOpen = true
  drawn : world.state.nextReservation = (n + 1) % (u64Max + 1)
  reservations : world.state.reservations = AList.insert 0 0 ∅
  executions : world.state.executions = ∅
  free : world.held = none
  guards : world.guards.calls = AList.insert 0 (.admission 0) ∅
  next : world.guards.next = n + 1

theorem run_spin (hfree : world.held = none)
    (hopen : world.state.admissionOpen = true)
    (hreservation : world.state.reservations.lookup world.state.nextReservation = none)
    (hguard : world.guards.calls.lookup world.guards.next = none) :
    ∃ after, run step world (spin world.guards.next) = some after ∧
      after.held = none ∧
      after.state = { world.state with
        nextReservation := (world.state.nextReservation + 1) % (u64Max + 1) } ∧
      after.guards = { calls := world.guards.calls, next := world.guards.next + 1 } := by
  have hadmit : step world .admitTask = some world.admitTask := if_pos (by rw [hfree]; rfl)
  rw [admit_of_open hopen] at hadmit
  have hstarted : (world.guards.start (.admission world.state.nextReservation)).get
      world.guards.next = some (.admission world.state.nextReservation) :=
    get_start_self _ _
  have hrelease : ∀ admitted : World, admitted.held = none →
      admitted.guards = world.guards.start (.admission world.state.nextReservation) →
      step admitted (.release world.guards.next) =
        some (admitted.release world.guards.next (.admission world.state.nextReservation)) := by
    intro admitted hheld hguards
    dsimp only [step]
    rw [hheld, hguards, hstarted]
  refine ⟨_, run_cons.2 ⟨_, hadmit, run_cons.2 ⟨World.publish _, rfl,
    run_cons.2 ⟨_, hrelease _ rfl rfl, run_cons.2 ⟨World.publish _, rfl, rfl⟩⟩⟩⟩,
    rfl, ?_, ?_⟩
  · show { world.state with
      nextReservation := (world.state.nextReservation + 1) % (u64Max + 1)
      reservations := (world.state.reservations.insert world.state.nextReservation
        world.guards.next).erase world.state.nextReservation } = _
    rw [erase_insert_of_lookup_none hreservation]
  · show ({ calls := (world.guards.calls.insert world.guards.next _).erase world.guards.next
            next := world.guards.next + 1 } : Pool Guard) = _
    rw [erase_insert_of_lookup_none hguard]

theorem run_spins (n : ℕ) (hn : n ≤ u64Max) :
    ∃ world, run step {} (spins n) = some world ∧ Spun n world := by
  induction n with
  | zero => exact ⟨_, rfl, rfl, rfl, rfl, rfl, rfl, rfl, rfl⟩
  | succ n ih =>
    obtain ⟨world, hrun, h⟩ := ih (Nat.le_of_succ_le hn)
    have hdrawn : world.state.nextReservation = n + 1 := by
      rw [h.drawn, Nat.mod_eq_of_lt (by omega)]
    have hreservation : world.state.reservations.lookup world.state.nextReservation = none := by
      rw [h.reservations, hdrawn, lookup_insert_eq_ite, if_neg (Nat.succ_ne_zero n)]
      rfl
    have hguard : world.guards.calls.lookup world.guards.next = none := by
      rw [h.guards, h.next, lookup_insert_eq_ite, if_neg (Nat.succ_ne_zero n)]
      rfl
    obtain ⟨after, hspin, hfree, hstate, hguards⟩ := run_spin h.free h.opened hreservation hguard
    rw [h.next] at hspin
    refine ⟨after, run_append_some.2 ⟨world, hrun, hspin⟩, ?_⟩
    constructor
    · rw [hstate]
      exact h.opened
    · rw [hstate, hdrawn]
    · rw [hstate]
      exact h.reservations
    · rw [hstate]
      exact h.executions
    · exact hfree
    · rw [hguards]
      exact h.guards
    · rw [hguards, h.next]

theorem promoted_ids_spins (n : ℕ) : promotedIds (spins n) = [] := by
  induction n with
  | zero => rfl
  | succ n ih =>
    unfold promotedIds at ih ⊢
    rw [spins, List.filterMap_append, ih]
    rfl

/-- When the numbers have come round, the next admission takes the place of the first: releasing the
first lets a closed registry drain, and then the other starts executing. -/
theorem execution_starts_after_drain :
    ∃ first second middle final, (promotedIds (first ++ .drained :: second)).Nodup ∧
      run step {} first = some middle ∧ middle.state.admissionOpen = false ∧
      step middle .drained = some middle ∧
      run step middle second = some final ∧
      final.state.executions.lookup "a" ≠ none := by
  obtain ⟨world, hrun, h⟩ := run_spins u64Max le_rfl
  have hdrawn : world.state.nextReservation = 0 := by rw [h.drawn, Nat.mod_self]
  have hne : (0 : ℕ) ≠ world.guards.next := by
    rw [h.next]
    exact (Nat.succ_ne_zero u64Max).symm
  have hadmit : step world .admitTask = some world.admitTask := if_pos (by rw [h.free]; rfl)
  rw [admit_of_open h.opened, hdrawn] at hadmit
  have hfirst : (world.guards.start (.admission 0)).get 0 = some (.admission 0) := by
    rw [get_start_eq_ite, if_neg hne, Pool.get, h.guards, AList.lookup_insert]
  have hsecond : ((world.guards.start (.admission 0)).finish 0).get world.guards.next =
      some (.admission 0) := by
    rw [get_finish_eq_ite, if_neg hne.symm, get_start_self]
  have hrelease : ∀ admitted : World, admitted.held = none →
      admitted.guards = world.guards.start (.admission 0) →
      step admitted (.release 0) = some (admitted.release 0 (.admission 0)) := by
    intro admitted hheld hguards
    dsimp only [step]
    rw [hheld, hguards, hfirst]
  have hpromote : ∀ released : World, released.held = none →
      released.guards = (world.guards.start (.admission 0)).finish 0 →
      step released (.promote world.guards.next "a") = some { released with
        state := World.remove released.state (.admission 0)
        held := some (.promoting world.guards.next "a") } := by
    intro released hheld hguards
    dsimp only [step]
    rw [hheld, hguards, hsecond]
  have hdrained : ∀ idle : World, idle.count = 0 → step idle .drained = some idle :=
    fun _ hcount => if_pos hcount
  have hempty : FinMap.count ((world.state.reservations.insert 0 world.guards.next).erase 0) +
      FinMap.count world.state.executions = 0 := by
    rw [h.reservations, h.executions]
    rfl
  refine ⟨spins u64Max ++ [.admitTask, .publish, .closeAdmission, .release 0, .publish],
    [.promote world.guards.next "a", .insert], World.publish _, _, ?_,
    run_append_some.2 ⟨world, hrun, run_cons.2 ⟨_, hadmit,
      run_cons.2 ⟨World.publish _, rfl, run_cons.2 ⟨_, rfl,
        run_cons.2 ⟨_, hrelease _ rfl rfl, run_cons.2 ⟨_, rfl, rfl⟩⟩⟩⟩⟩⟩,
    rfl, ?_,
    run_cons.2 ⟨_, hpromote _ rfl rfl, run_cons.2 ⟨_, rfl, rfl⟩⟩, ?_⟩
  · have hspins := promoted_ids_spins u64Max
    unfold promotedIds at hspins ⊢
    rw [List.filterMap_append, List.filterMap_append, hspins]
    exact List.nodup_singleton "a"
  · exact hdrained _ hempty
  · intro hnone
    exact Option.some_ne_none _ ((AList.lookup_insert _).symm.trans hnone)

end LiveTaskExecutionRegistry

end TowerMcp
