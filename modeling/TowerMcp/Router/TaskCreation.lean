import TowerMcp.Router.TaskAccess
import TowerMcp.Task.Progress

/-!
# The creation of one task

The future of one `tools/call` that takes the task path, after `router.rs`, from the admission of a
live execution to the read-back of the record. The future waits at a program point and may be
dropped there; the task store answers in any way its calls allow, and what becomes of the record
otherwise is up to the clock and to other requests.

The code discards the record on every error it sees before the execution is spawned. It does nothing
when the future is dropped, when neither the discard nor the cancellation that follows takes effect,
or when the read-back fails.
-/

namespace TowerMcp

open MemoryTaskStore

namespace TaskCreation

/-! ## The metadata of a preparation -/

/-- Why an object is not valid as `_meta`. -/
inductive MetaValidationError where
  | expectedObject
  | invalidPrefix (key : String)
  | invalidName (key : String)
deriving DecidableEq

/-- The text of an invalid `_meta`. -/
def MetaValidationError.display (debug : String → String) : MetaValidationError → String
  | .expectedObject => "_meta must be a JSON object"
  | .invalidPrefix key => "metadata key " ++ debug key ++ " has an invalid prefix"
  | .invalidName key => "metadata key " ++ debug key ++ " has an invalid name"

def isMetaLabel (label : List Char) : Bool :=
  label.head?.any Char.isAlpha && label.getLast?.any Char.isAlphanum &&
    label.all fun c => c.isAlphanum || c == '-'

def isMetaName (name : List Char) : Bool :=
  name.isEmpty ||
    name.head?.any Char.isAlphanum && name.getLast?.any Char.isAlphanum &&
      name.all fun c => c.isAlphanum || c == '-' || c == '_' || c == '.'

/-- Validate one `_meta` key: an optional prefix up to the first slash, and a name. -/
def validateMetaKey (key : String) : Except MetaValidationError Unit :=
  let text := key.toList
  let start := text.takeWhile (· != '/')
  let isPrefixed := text.contains '/'
  let name := if isPrefixed then text.drop (start.length + 1) else text
  if isPrefixed && !(start.splitOn '.').all isMetaLabel then .error (.invalidPrefix key)
  else if isMetaName name then .ok ()
  else .error (.invalidName key)

/-- Validate a JSON value used as an `_meta` object. -/
def validateMetaObject : Json → Except MetaValidationError Unit
  | .object fields => fields.forM fun field => validateMetaKey field.1
  | _ => .error .expectedObject

example : validateMetaKey "io.acme/run-1" = .ok () := by decide

example : validateMetaKey "io..acme/run" = .error (.invalidPrefix "io..acme/run") := by decide

/-! ## The machine -/

inductive Record where
  | unfinished
  | terminal
  | expired
  | absent
deriving DecidableEq

def Record.rank : Record → ℕ
  | .unfinished => 0
  | .terminal => 1
  | .expired => 2
  | .absent => 3

/-- The execution that the call spawned: it waits for its first poll, runs its handler, stopped
before its handler, or has ended. -/
inductive Job where
  | queued
  | running
  | stopped
  | ended
deriving DecidableEq

/-- What the call depends on: whether its tool has a live handler, how failures are told, and how a
text is quoted. -/
structure Site where
  isLive : Bool
  taskErrorPolicy : TaskErrorPolicy
  debug : String → String

inductive Point where
  | received
  | creating
  | preparing (taskId : String)
  | describing (taskId : String)
  | discarding (taskId : String) (error : Error)
  | abandoning (error : Error)
  | reading (taskId : String)
  | responded (taskId : String)
  | refused (error : Error)
  | dropped
deriving DecidableEq

/-- The call with its record, its token, its places in the registry of live executions, and what it
spawned. `created` is the identifier the store gave. -/
structure World where
  point : Point := .received
  record : Record := .absent
  created : Option String := none
  isSignalled : Bool := false
  isReserved : Bool := false
  isRegistered : Bool := false
  spawns : ℕ := 0
  job : Option Job := none

/-- What happens next: an answer the future waits for, its drop, a step of the execution, or a
change of the record from outside. A drop tells whether the store call under way took effect. -/
inductive Event where
  | admitted (isOpen : Bool)
  | created (outcome : Except TaskStoreError String)
  | interrupted
  | prepared (outcome : Except Error (Option Json))
  | persisted (outcome : Except TaskStoreError Bool)
  | discarded (outcome : Except TaskStoreError Bool)
  | cancelled (outcome : Except TaskStoreError Bool)
  | read (outcome : Except TaskStoreError (Option String))
  | drop (applied : Bool)
  | begin
  | finish (written : Bool)
  | signal
  | advance (record : Record)

namespace Site

variable (site : Site)

def taskError (taskId : Option String) (failure : TaskFailure) : Error :=
  .jsonRpc (site.taskErrorPolicy.map { operation := .create, taskId, failure })

end Site

namespace World

variable (world : World)

def refuse (error : Error) : World :=
  { world with point := .refused error, isReserved := false }

def discard (taskId : String) (error : Error) : World :=
  { world with point := .discarding taskId error }

def spawn (isLive : Bool) (taskId : String) : World :=
  { world with
    point := .reading taskId
    isReserved := false
    isRegistered := isLive
    spawns := world.spawns + 1
    job := some .queued }

def terminate : World :=
  { world with record := if world.record = .unfinished then .terminal else world.record }

def settle (applied : Bool) : World :=
  if applied then
    match world.point with
    | .creating => { world with record := .unfinished }
    | .discarding _ _ => { world with record := .absent }
    | .abandoning _ => world.terminate
    | _ => world
  else world

def isOver : Bool :=
  match world.point with
  | .responded _ | .refused _ | .dropped => true
  | _ => false

end World

def answered (site : Site) (world : World) : Point → Event → Option World
  | .received, .admitted isOpen =>
    -- only a live execution is admitted
    if site.isLive && !isOpen then
      some (world.refuse
        (site.taskError none (.internal "Live task execution admission is closed")))
    else some { world with point := .creating, isReserved := site.isLive }
  | .creating, .created (.ok taskId) =>
    some { world with
      point := .preparing taskId
      record := .unfinished
      created := some taskId }
  | .creating, .created (.error error) => some (world.refuse (site.taskError none (.store error)))
  | .preparing taskId, .interrupted =>
    if world.isSignalled then
      some (world.discard taskId (site.taskError (some taskId)
        (.internal "Task cancellation or expiry interrupted preparation")))
    else none
  | .preparing taskId, .prepared (.error error) => some (world.discard taskId error)
  | .preparing taskId, .prepared (.ok none) => some (world.spawn site.isLive taskId)
  | .preparing taskId, .prepared (.ok (some metadata)) =>
    match validateMetaObject metadata with
    | .error error =>
      some (world.discard taskId (.jsonRpc (.invalidParams
        ("Invalid task metadata: " ++ error.display site.debug))))
    | .ok () => some { world with point := .describing taskId }
  | .describing taskId, .persisted (.ok true) => some (world.spawn site.isLive taskId)
  | .describing taskId, .persisted (.ok false) =>
    some (world.discard taskId (site.taskError (some taskId)
      (.internal "Task store could not persist preparation metadata")))
  | .describing taskId, .persisted (.error error) =>
    some (world.discard taskId (site.taskError (some taskId) (.store error)))
  | .discarding _ error, .discarded (.ok true) =>
    some ({ world with record := .absent }.refuse error)
  | .discarding _ error, .discarded _ => some { world with point := .abandoning error }
  | .abandoning error, .cancelled (.ok true) => some (world.terminate.refuse error)
  | .abandoning error, .cancelled _ => some (world.refuse error)
  | .reading taskId, .read (.ok (some found)) =>
    -- the store answers with the task it was asked for
    if found = taskId then some { world with point := .responded found } else none
  | .reading taskId, .read (.ok none) =>
    some (world.refuse (site.taskError (some taskId)
      (.internal "Failed to retrieve created task")))
  | .reading taskId, .read (.error error) =>
    some (world.refuse (site.taskError (some taskId) (.store error)))
  | _, _ => none

def step (site : Site) (world : World) : Event → Option World
  | .drop applied =>
    if world.isOver then none
    else some { world.settle applied with point := .dropped, isReserved := false }
  | .begin =>
    match world.job with
    | some .queued =>
      -- an ordinary execution looks at its token before its handler, a live one does not
      if !site.isLive && world.isSignalled then
        some { world with job := some .stopped }
      else some { world with job := some .running }
    | _ => none
  | .finish written =>
    match world.job with
    | some .running =>
      some { (if written then world.terminate else world) with
        job := some .ended
        isRegistered := false }
    | _ => none
  | .signal => if world.created.isSome then some { world with isSignalled := true } else none
  | .advance record =>
    if world.record.rank < record.rank then some { world with record } else none
  | event => answered site world world.point event

/-! ## The record in the memory store -/

def recordOf (now : Instant) : Option StoredTask → Record
  | none => .absent
  | some stored =>
    if stored.task.isExpiredAt now then .expired
    else if stored.task.status.isTerminal then .terminal
    else .unfinished

section MemoryStore

variable {store : MemoryTaskStore} {now : Moment} {call : StoreCall} {reply : Reply} {key : String}
  {before after : Option StoredTask}

end MemoryStore

/-! ## All or nothing -/

def World.isStarted (world : World) : Bool :=
  match world.job with
  | some .running | some .ended => true
  | _ => false

/-- Nothing of the call is left: no unfinished record, no execution that was started, and no place
in the registry of live executions. -/
structure Clean (world : World) : Prop where
  record : world.record ≠ .unfinished
  started : world.isStarted = false
  reserved : world.isReserved = false
  registered : world.isRegistered = false

def AllOrNothing (world : World) : Prop :=
  match world.point with
  | .responded taskId => world.created = some taskId ∧ world.spawns = 1
  | .refused _ | .dropped => Clean world
  | _ => True

def World.leavesNothing (world : World) : Bool :=
  world.record != .unfinished && !world.isStarted && !world.isRegistered

/-- The step does not end the call with half a task, nor start an execution of a call that failed.
-/
def Meets (site : Site) (world : World) : Event → Prop
  | .cancelled outcome =>
    match world.point with
    | .abandoning _ => outcome = .ok true ∨ world.record ≠ .unfinished
    | _ => True
  | .read outcome =>
    match world.point, outcome with
    | .reading _, .ok none | .reading _, .error _ => world.leavesNothing = true
    | _, _ => True
  | .drop applied =>
    match world.point with
    | .creating => applied = false
    | .preparing _ | .describing _ | .reading _ => world.leavesNothing = true
    | .discarding _ _ | .abandoning _ => applied = true ∨ world.record ≠ .unfinished
    | _ => True
  | .begin =>
    match world.point with
    | .refused _ | .dropped =>
      world.job = some .queued → site.isLive = false ∧ world.isSignalled = true
    | _ => True
  | _ => True

def Point.named : Point → Option String
  | .preparing taskId | .describing taskId | .reading taskId | .responded taskId => some taskId
  | _ => none

def Point.isBefore : Point → Bool
  | .received | .creating | .preparing _ | .describing _ | .discarding _ _ | .abandoning _ => true
  | .reading _ | .responded _ | .refused _ | .dropped => false

def Point.isAfter : Point → Bool
  | .reading _ | .responded _ => true
  | _ => false

structure Consistent (site : Site) (world : World) : Prop where
  spawns : world.spawns = if world.job.isSome then 1 else 0
  named : ∀ taskId, world.point.named = some taskId → world.created = some taskId
  before : world.point.isBefore = true → world.job = none
  after : world.point.isAfter = true → world.job.isSome = true
  untouched : world.point = .received ∨ world.point = .creating → world.record = .absent
  released : world.point.isBefore = false → world.isReserved = false
  registered : world.isRegistered = true ↔
    site.isLive = true ∧ (world.job = some .queued ∨ world.job = some .running)

/-! ## What one step does -/

def Event.isQuiet : Event → Bool
  | .cancelled _ | .read _ | .drop _ | .begin => false
  | _ => true

variable {site : Site} {world : World} {event : Event}

theorem meets_of_quiet (h : event.isQuiet = true) :
    Meets site world event := by
  cases event with
  | cancelled _ | read _ | drop _ | begin => cases h
  | admitted _ | created _ | interrupted | prepared _ | persisted _ | discarded _ | finish _
  | signal | advance _ => trivial

inductive Transition (site : Site) (world : World) : Event → World → Prop where
  | opened (event : Event) (quiet : event.isQuiet = true) (point : world.point = .received) :
      Transition site world event { world with point := .creating, isReserved := site.isLive }
  | refused (event : Event) (error : Error) (quiet : event.isQuiet = true)
      (point : world.point = .received ∨ world.point = .creating) :
      Transition site world event (world.refuse error)
  | created (event : Event) (taskId : String) (quiet : event.isQuiet = true)
      (point : world.point = .creating) :
      Transition site world event
        { world with
          point := .preparing taskId
          record := .unfinished
          created := some taskId }
  | failed (event : Event) (taskId : String) (error : Error) (quiet : event.isQuiet = true)
      (point : world.point = .preparing taskId ∨ world.point = .describing taskId) :
      Transition site world event (world.discard taskId error)
  | described (event : Event) (taskId : String) (quiet : event.isQuiet = true)
      (point : world.point = .preparing taskId) :
      Transition site world event { world with point := .describing taskId }
  | spawned (event : Event) (taskId : String) (quiet : event.isQuiet = true)
      (point : world.point = .preparing taskId ∨ world.point = .describing taskId) :
      Transition site world event (world.spawn site.isLive taskId)
  | gone (event : Event) (taskId : String) (error : Error) (quiet : event.isQuiet = true)
      (point : world.point = .discarding taskId error) :
      Transition site world event ({ world with record := .absent }.refuse error)
  | kept (event : Event) (taskId : String) (error : Error) (quiet : event.isQuiet = true)
      (point : world.point = .discarding taskId error) :
      Transition site world event { world with point := .abandoning error }
  | cancelled (error : Error) (point : world.point = .abandoning error) :
      Transition site world (.cancelled (.ok true)) (world.terminate.refuse error)
  | uncancelled (outcome : Except TaskStoreError Bool) (error : Error)
      (point : world.point = .abandoning error) (other : outcome ≠ .ok true) :
      Transition site world (.cancelled outcome) (world.refuse error)
  | responded (taskId : String) (point : world.point = .reading taskId) :
      Transition site world (.read (.ok (some taskId))) { world with point := .responded taskId }
  | unread (outcome : Except TaskStoreError (Option String)) (taskId : String) (error : Error)
      (point : world.point = .reading taskId) (other : ∀ found, outcome ≠ .ok (some found)) :
      Transition site world (.read outcome) (world.refuse error)
  | dropped (applied : Bool) (point : world.isOver = false) :
      Transition site world (.drop applied)
        { world.settle applied with point := .dropped, isReserved := false }
  | stopped (queued : world.job = some .queued) (ordinary : site.isLive = false)
      (signalled : world.isSignalled = true) :
      Transition site world .begin { world with job := some .stopped }
  | started (queued : world.job = some .queued)
      (heedless : ¬(site.isLive = false ∧ world.isSignalled = true)) :
      Transition site world .begin { world with job := some .running }
  | finished (written : Bool) (running : world.job = some .running) :
      Transition site world (.finish written)
        { (if written then world.terminate else world) with
          job := some .ended
          isRegistered := false }
  | signalled : Transition site world .signal { world with isSignalled := true }
  | advanced (record : Record) (later : world.record.rank < record.rank) :
      Transition site world (.advance record) { world with record }

theorem transition_of_answered {next : World} {point : Point}
    (hpoint : world.point = point) (h : answered site world point event = some next) :
    Transition site world event next := by
  fun_cases answered site world point event with
  | case1 isOpen hclosed =>
    simp only [answered, hclosed, if_true, Option.some.injEq] at h
    subst h
    exact .refused _ _ rfl (.inl hpoint)
  | case2 isOpen hopen =>
    simp only [answered, hopen, Bool.false_eq_true, if_false, Option.some.injEq] at h
    subst h
    exact .opened _ rfl hpoint
  | case3 taskId =>
    cases h
    exact .created _ taskId rfl hpoint
  | case4 error =>
    cases h
    exact .refused _ _ rfl (.inr hpoint)
  | case5 taskId hsignalled =>
    simp only [answered, hsignalled, if_true, Option.some.injEq] at h
    subst h
    exact .failed _ taskId _ rfl (.inl hpoint)
  | case6 taskId hsignalled => simp [answered, hsignalled] at h
  | case7 taskId error =>
    cases h
    exact .failed _ taskId error rfl (.inl hpoint)
  | case8 taskId =>
    cases h
    exact .spawned _ taskId rfl (.inl hpoint)
  | case9 taskId metadata error hinvalid =>
    simp only [answered, hinvalid, Option.some.injEq] at h
    subst h
    exact .failed _ taskId _ rfl (.inl hpoint)
  | case10 taskId metadata hvalid =>
    simp only [answered, hvalid, Option.some.injEq] at h
    subst h
    exact .described _ taskId rfl hpoint
  | case11 taskId =>
    cases h
    exact .spawned _ taskId rfl (.inr hpoint)
  | case12 taskId =>
    cases h
    exact .failed _ taskId _ rfl (.inr hpoint)
  | case13 taskId error =>
    cases h
    exact .failed _ taskId _ rfl (.inr hpoint)
  | case14 taskId error =>
    cases h
    exact .gone _ taskId error rfl hpoint
  | case15 taskId error outcome hother =>
    simp only [answered, Option.some.injEq] at h
    subst h
    exact .kept _ taskId error rfl hpoint
  | case16 error =>
    cases h
    exact .cancelled error hpoint
  | case17 error outcome hother =>
    simp only [answered, Option.some.injEq] at h
    subst h
    exact .uncancelled outcome error hpoint hother
  | case18 found =>
    simp only [answered, if_true, Option.some.injEq] at h
    subst h
    exact .responded found hpoint
  | case19 taskId found hother => simp [answered, hother] at h
  | case20 taskId =>
    cases h
    exact .unread _ taskId _ hpoint nofun
  | case21 taskId error =>
    cases h
    exact .unread _ taskId _ hpoint nofun
  | case22 => simp_all [answered]

theorem transition_of_step {next : World}
    (h : step site world event = some next) : Transition site world event next := by
  cases event with
  | drop applied =>
    simp only [step, Option.ite_none_left_eq_some, Option.some.injEq] at h
    obtain ⟨hover, rfl⟩ := h
    exact .dropped applied (by simpa using hover)
  | begin =>
    cases hjob : world.job with
    | none => simp [step, hjob] at h
    | some job =>
      cases job with
      | queued =>
        cases hheeds : !site.isLive && world.isSignalled with
        | true =>
          simp only [step, hjob, hheeds, if_true, Option.some.injEq] at h
          subst h
          simp only [Bool.and_eq_true, Bool.not_eq_true'] at hheeds
          exact .stopped hjob hheeds.1 hheeds.2
        | false =>
          simp only [step, hjob, hheeds, Bool.false_eq_true, if_false,
            Option.some.injEq] at h
          subst h
          exact .started hjob (by simpa using hheeds)
      | running | stopped | ended => simp [step, hjob] at h
  | finish written =>
    cases hjob : world.job with
    | none => simp [step, hjob] at h
    | some job =>
      cases job with
      | running =>
        simp only [step, hjob, Option.some.injEq] at h
        subst h
        exact .finished written hjob
      | queued | stopped | ended => simp [step, hjob] at h
  | signal =>
    simp only [step, Option.ite_none_right_eq_some, Option.some.injEq] at h
    obtain ⟨_, rfl⟩ := h
    exact .signalled
  | advance record =>
    simp only [step, Option.ite_none_right_eq_some, Option.some.injEq] at h
    obtain ⟨hlater, rfl⟩ := h
    exact .advanced record hlater
  | admitted _ | created _ | interrupted | prepared _ | persisted _ | discarded _ | cancelled _
  | read _ => exact transition_of_answered rfl h

/-! ## What holds at any time -/

section Steps

variable {site : Site} {world next : World} {event : Event}

theorem consistent_init (site : Site) : Consistent site {} where
  spawns := rfl
  named := nofun
  before _ := rfl
  after := nofun
  untouched _ := rfl
  released := nofun
  registered := by simp

theorem settle_frame (applied : Bool) :
    (world.settle applied).spawns = world.spawns ∧ (world.settle applied).job = world.job ∧
      (world.settle applied).isRegistered = world.isRegistered := by
  unfold World.settle
  split
  · split <;> exact ⟨rfl, rfl, rfl⟩
  · exact ⟨rfl, rfl, rfl⟩

theorem Consistent.move (h : Consistent site world) {point : Point} {record : Record}
    {created : Option String} {isReserved : Bool} (hbefore : world.point.isBefore = true)
    (hafter : point.isAfter = false)
    (hnamed : ∀ taskId, point.named = some taskId → created = some taskId)
    (huntouched : point = .received ∨ point = .creating → record = .absent)
    (hreleased : point.isBefore = false → isReserved = false) :
    Consistent site { world with point, record, created, isReserved } where
  spawns := h.spawns
  named := hnamed
  before _ := h.before hbefore
  after := by simp [hafter]
  untouched := huntouched
  released := hreleased
  registered := h.registered

theorem consistent_step (h : Consistent site world) (hstep : step site world event = some next) :
    Consistent site next := by
  cases transition_of_step hstep with
  | opened _ _ hpoint =>
    exact h.move (by simp [hpoint, Point.isBefore]) rfl nofun
      (fun _ => h.untouched (.inl hpoint)) nofun
  | refused _ error _ hpoint =>
    exact h.move (by rcases hpoint with hpoint | hpoint <;> simp [hpoint, Point.isBefore]) rfl
      nofun nofun fun _ => rfl
  | created _ taskId _ hpoint =>
    exact h.move (by simp [hpoint, Point.isBefore]) rfl (fun _ hname => hname) nofun nofun
  | failed _ taskId error _ hpoint =>
    exact h.move (by rcases hpoint with hpoint | hpoint <;> simp [hpoint, Point.isBefore]) rfl
      nofun nofun nofun
  | described _ taskId _ hpoint =>
    have hname := h.named taskId (by simp [hpoint, Point.named])
    exact h.move (by simp [hpoint, Point.isBefore]) rfl (fun _ h => hname.trans h) nofun nofun
  | spawned _ taskId _ hpoint =>
    have hjob := h.before
      (by rcases hpoint with hpoint | hpoint <;> simp [hpoint, Point.isBefore])
    have hname := h.named taskId
      (by rcases hpoint with hpoint | hpoint <;> simp [hpoint, Point.named])
    have hspawns : world.spawns = 0 := by simpa [hjob] using h.spawns
    exact
      { spawns := by simp [World.spawn, hspawns]
        named := fun _ h => hname.trans h
        before := nofun
        after := fun _ => rfl
        untouched := by simp [World.spawn]
        released := fun _ => rfl
        registered := by simp [World.spawn] }
  | gone _ taskId error _ hpoint =>
    exact h.move (by simp [hpoint, Point.isBefore]) rfl nofun nofun fun _ => rfl
  | kept _ taskId error _ hpoint =>
    exact h.move (by simp [hpoint, Point.isBefore]) rfl nofun nofun nofun
  | cancelled error hpoint | uncancelled _ error hpoint _ =>
    exact h.move (by simp [hpoint, Point.isBefore]) rfl nofun nofun fun _ => rfl
  | responded taskId hpoint =>
    have hname := h.named taskId (by simp [hpoint, Point.named])
    exact
      { h with
        named := fun _ h => hname.trans h
        before := nofun
        after := fun _ => h.after (by simp [hpoint, Point.isAfter])
        untouched := by simp
        released := fun _ => h.released (by simp [hpoint, Point.isBefore]) }
  | unread _ taskId error hpoint _ =>
    exact
      { h with
        named := nofun
        before := nofun
        after := nofun
        untouched := by simp [World.refuse]
        released := fun _ => rfl }
  | dropped applied _ =>
    obtain ⟨hspawns, hjob, hplace⟩ :
        (world.settle applied).spawns = world.spawns ∧ (world.settle applied).job = world.job ∧
          (world.settle applied).isRegistered = world.isRegistered := settle_frame applied
    exact
      { spawns := by simpa [hspawns, hjob] using h.spawns
        named := nofun
        before := nofun
        after := nofun
        untouched := by simp
        released := fun _ => rfl
        registered := by simpa [hjob, hplace] using h.registered }
  | stopped hqueued hordinary _ =>
    exact
      { h with
        spawns := by simpa [hqueued] using h.spawns
        before := fun hbefore => by simp [h.before hbefore] at hqueued
        after := fun _ => rfl
        registered := by simpa [hordinary] using h.registered }
  | started hqueued _ =>
    exact
      { h with
        spawns := by simpa [hqueued] using h.spawns
        before := fun hbefore => by simp [h.before hbefore] at hqueued
        after := fun _ => rfl
        registered := by simpa [hqueued] using h.registered }
  | finished written hrunning =>
    have hbefore : ¬world.point.isBefore = true := fun hbefore => by
      simp [h.before hbefore] at hrunning
    have huntouched : ¬(world.point = .received ∨ world.point = .creating) := by
      rintro (hpoint | hpoint) <;> simp [hpoint, Point.isBefore] at hbefore
    cases written <;>
      exact
        { spawns := by simpa [hrunning, World.terminate] using h.spawns
          named := h.named
          before := fun hpoint => absurd hpoint hbefore
          after := fun _ => rfl
          untouched := fun hpoint => absurd hpoint huntouched
          released := h.released
          registered := by simp }
  | signalled => exact { h with }
  | advanced record hlater =>
    refine { h with untouched := fun hpoint => ?_ }
    simp [h.untouched hpoint, Record.rank] at hlater
    cases record <;> simp at hlater

theorem clean_iff : Clean world ↔ world.leavesNothing = true ∧ world.isReserved = false := by
  simp only [World.leavesNothing, Bool.and_eq_true, bne_iff_ne, Bool.not_eq_true']
  constructor
  · intro h
    exact ⟨⟨⟨h.record, h.started⟩, h.registered⟩, h.reserved⟩
  · rintro ⟨⟨⟨hrecord, hstarted⟩, hregistered⟩, hreserved⟩
    exact ⟨hrecord, hstarted, hreserved, hregistered⟩

theorem AllOrNothing.frame (hall : AllOrNothing world) (hpoint : next.point = world.point)
    (hcreated : next.created = world.created) (hspawns : next.spawns = world.spawns)
    (hclean : Clean world → Clean next) : AllOrNothing next := by
  unfold AllOrNothing at hall ⊢
  rw [hpoint, hcreated, hspawns]
  cases hcase : world.point with
  | responded taskId =>
    rw [hcase] at hall
    exact hall
  | refused _ | dropped =>
    rw [hcase] at hall
    exact hclean hall
  | received | creating | preparing _ | describing _ | discarding _ _ | abandoning _ | reading _ =>
    trivial

theorem Consistent.leaves_nothing_iff (h : Consistent site world)
    (hbefore : world.point.isBefore = true) (hjob : next.job = world.job)
    (hplace : next.isRegistered = world.isRegistered) :
    next.leavesNothing = true ↔ next.record ≠ .unfinished := by
  have hnone : next.job = none := hjob.trans (h.before hbefore)
  have hstarted : next.isStarted = false := by simp [World.isStarted, hnone]
  have hregistered : next.isRegistered = false := by
    rw [hplace]
    simpa [h.before hbefore] using h.registered
  simp [World.leavesNothing, hstarted, hregistered]

theorem Consistent.clean_refuse_iff (h : Consistent site world)
    (hbefore : world.point.isBefore = true) (record : Record) (error : Error) :
    Clean ({ world with record }.refuse error) ↔ record ≠ .unfinished :=
  (clean_iff.trans (and_iff_left rfl)).trans (h.leaves_nothing_iff hbefore rfl rfl)

theorem meets_drop_iff (h : Consistent site world) (hover : world.isOver = false) (applied : Bool) :
    (world.settle applied).leavesNothing = true ↔ Meets site world (.drop applied) := by
  have hjob : (world.settle applied).job = world.job := (settle_frame applied).2.1
  have hplace : (world.settle applied).isRegistered = world.isRegistered :=
    (settle_frame applied).2.2
  cases hpoint : world.point with
  | received =>
    rw [h.leaves_nothing_iff (by simp [hpoint, Point.isBefore]) hjob hplace]
    cases applied <;> simp [World.settle, Meets, hpoint, h.untouched (.inl hpoint)]
  | creating =>
    rw [h.leaves_nothing_iff (by simp [hpoint, Point.isBefore]) hjob hplace]
    cases applied <;> simp [World.settle, Meets, hpoint, h.untouched (.inr hpoint)]
  | preparing taskId | describing taskId | reading taskId =>
    cases applied <;> simp [World.settle, Meets, hpoint]
  | discarding taskId error =>
    rw [h.leaves_nothing_iff (by simp [hpoint, Point.isBefore]) hjob hplace]
    cases applied <;> simp [World.settle, Meets, hpoint]
  | abandoning error =>
    rw [h.leaves_nothing_iff (by simp [hpoint, Point.isBefore]) hjob hplace]
    cases applied with
    | false => simp [World.settle, Meets, hpoint]
    | true =>
      simp only [World.settle, Meets, hpoint, if_true, true_or, iff_true, World.terminate]
      split <;> simp_all
  | responded taskId | refused error | dropped => simp [World.isOver, hpoint] at hover

theorem meets_begin
    (h : world.job = some .queued → site.isLive = false ∧ world.isSignalled = true) :
    Meets site world .begin := by
  cases hpoint : world.point with
  | refused _ | dropped => simpa [Meets, hpoint] using h
  | received | creating | preparing _ | describing _ | discarding _ _ | abandoning _ | reading _
  | responded _ => simp [Meets, hpoint]

theorem all_or_nothing_step (h : Consistent site world) (hall : AllOrNothing world)
    (hstep : step site world event = some next) : AllOrNothing next ↔ Meets site world event := by
  cases transition_of_step hstep with
  | opened _ hquiet _ | created _ _ hquiet _ | failed _ _ _ hquiet _ | described _ _ hquiet _
  | spawned _ _ hquiet _ | kept _ _ _ hquiet _ =>
    exact iff_of_true trivial (meets_of_quiet hquiet)
  | refused _ error hquiet hpoint =>
    have hbefore : world.point.isBefore = true := by
      rcases hpoint with hpoint | hpoint <;> simp [hpoint, Point.isBefore]
    refine iff_of_true ?_ (meets_of_quiet hquiet)
    exact (h.clean_refuse_iff hbefore _ error).2 (by simp [h.untouched hpoint])
  | gone _ taskId error hquiet hpoint =>
    refine iff_of_true ?_ (meets_of_quiet hquiet)
    exact (h.clean_refuse_iff (by simp [hpoint, Point.isBefore]) _ error).2 (by simp)
  | cancelled error hpoint =>
    have hmeets : Meets site world (.cancelled (.ok true)) := by simp [Meets, hpoint]
    refine iff_of_true ?_ hmeets
    refine (h.clean_refuse_iff (by simp [hpoint, Point.isBefore]) _ error).2 ?_
    split <;> simp_all
  | uncancelled outcome error hpoint hother =>
    have hmeets : Meets site world (.cancelled outcome) ↔ world.record ≠ .unfinished := by
      simp [Meets, hpoint, hother]
    rw [hmeets]
    exact h.clean_refuse_iff (by simp [hpoint, Point.isBefore]) world.record error
  | responded taskId hpoint =>
    have hjob := h.after (by simp [hpoint, Point.isAfter])
    have hmeets : Meets site world (.read (.ok (some taskId))) := by simp [Meets, hpoint]
    refine iff_of_true ⟨h.named taskId (by simp [hpoint, Point.named]), ?_⟩ hmeets
    simpa [hjob] using h.spawns
  | unread outcome taskId error hpoint hother =>
    have hmeets : Meets site world (.read outcome) ↔ world.leavesNothing = true := by
      rcases outcome with _ | _ | found
      · simp [Meets, hpoint]
      · simp [Meets, hpoint]
      · exact absurd rfl (hother found)
    rw [hmeets]
    exact clean_iff.trans (and_iff_left rfl)
  | dropped applied hover =>
    rw [← meets_drop_iff h hover applied]
    exact clean_iff.trans (and_iff_left rfl)
  | stopped hqueued hordinary hsignalled =>
    refine iff_of_true (hall.frame rfl rfl rfl fun hclean => ?_)
      (meets_begin fun _ => ⟨hordinary, hsignalled⟩)
    exact ⟨hclean.record, rfl, hclean.reserved, hclean.registered⟩
  | started hqueued hheedless =>
    have hfailed : ¬Clean { world with job := some .running } := fun hclean => by
      have hstarted : true = false := hclean.started
      cases hstarted
    unfold AllOrNothing Meets at *
    cases hpoint : world.point with
    | responded taskId =>
      rw [hpoint] at hall
      exact iff_of_true hall trivial
    | refused error | dropped =>
      exact iff_of_false (by simpa [hpoint] using hfailed) fun hmeets =>
        hheedless (hmeets hqueued)
    | received | creating | preparing _ | describing _ | discarding _ _ | abandoning _
    | reading _ => exact iff_of_true trivial trivial
  | finished written hrunning =>
    refine iff_of_true (hall.frame ?_ ?_ ?_ fun hclean => ?_) trivial
    · cases written <;> rfl
    · cases written <;> rfl
    · cases written <;> rfl
    · have hstarted := hclean.started
      simp [World.isStarted, hrunning] at hstarted
  | signalled =>
    exact iff_of_true (hall.frame rfl rfl rfl fun hclean => { hclean with }) trivial
  | advanced record hlater =>
    refine iff_of_true (hall.frame rfl rfl rfl fun hclean => { hclean with record := ?_ }) trivial
    rintro rfl
    simp [Record.rank] at hlater

theorem meets_of_refused (hrefused : step site world event = none) : Meets site world event := by
  cases event with
  | cancelled outcome =>
    cases hpoint : world.point with
    | abandoning error =>
      rcases outcome with _ | _ | _ <;> simp [step, answered, hpoint] at hrefused
    | _ => simp [Meets, hpoint]
  | read outcome =>
    cases hpoint : world.point with
    | reading taskId =>
      rcases outcome with _ | _ | found
      · simp [step, answered, hpoint] at hrefused
      · simp [step, answered, hpoint] at hrefused
      · simp [Meets, hpoint]
    | _ => simp [Meets, hpoint]
  | drop applied =>
    cases hpoint : world.point <;> simp_all [step, World.isOver, Meets]
  | begin =>
    refine meets_begin fun hqueued => ?_
    simp only [step, hqueued] at hrefused
    split at hrefused <;> cases hrefused
  | admitted _ | created _ | interrupted | prepared _ | persisted _ | discarded _ | finish _
  | signal | advance _ => trivial

end Steps

/-- A call that is over has answered with its task and spawned its execution once, or has left
nothing behind, at any time of a run and whatever the store answers, exactly when no step of the run
leaves half a task: a cancellation that is needed takes effect or finds the record finished, a
read-back that fails and a drop of the future find a finished record and no execution that was
started, and an execution that is still to start after that stops at its token. -/
theorem task_creation_all_or_nothing (site : Site) (events : List Event) :
    Execution.Throughout (step site) AllOrNothing {} events ↔
      Execution.Along (step site) (Meets site) {} events :=
  Execution.throughout_iff_along (fun _ _ _ h hstep => consistent_step h hstep)
    (fun _ _ _ h hall hstep => all_or_nothing_step h hall hstep)
    (fun _ _ hrefused => meets_of_refused hrefused) (consistent_init site) trivial events

def plainSite (isLive : Bool) : Site where
  isLive := isLive
  taskErrorPolicy := .default
  debug text := "\"" ++ text ++ "\""

/-- A client that goes away while its task is prepared leaves an unfinished record that nothing will
run, and a read-back that fails leaves an execution that nobody was told about. -/
theorem half_a_task_is_left :
    (∃ final, Execution.run (step (plainSite false)) {}
        [.admitted true, .created (.ok "task-1"), .drop false] = some final ∧
      final.point = .dropped ∧ final.record = .unfinished ∧ final.job = none ∧
      ¬AllOrNothing final) ∧
    ∃ final, Execution.run (step (plainSite true)) {}
        [.admitted true, .created (.ok "task-1"), .prepared (.ok none), .begin,
          .read (.error (.encode "connection lost"))] = some final ∧
      final.point = .refused (.jsonRpc (.internalError "Task store operation failed")) ∧
      final.job = some .running ∧ ¬AllOrNothing final := by
  refine ⟨⟨_, rfl, rfl, rfl, rfl, ?_⟩, _, rfl, rfl, rfl, ?_⟩
  · exact fun hclean => hclean.record rfl
  · intro hclean
    have hstarted : true = false := hclean.started
    cases hstarted

end TaskCreation

end TowerMcp
