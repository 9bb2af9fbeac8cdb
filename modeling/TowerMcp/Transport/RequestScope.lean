import TowerMcp.Lib.Execution
import TowerMcp.Lib.Pool
import TowerMcp.Types.JsonRpc

/-!
# The request scope of a stdio connection

The tasks that the loop of a stdio transport starts, after `RequestScope`, the dispatcher and
`drain_responses` of `transport/stdio.rs`. The loop puts requests in a queue, from which the
dispatcher, a task of the scope itself, starts one after the other as permits come free. When the
drain gives up, the token of the scope is cancelled, and after a grace period the tasks that still
live are told to abort.
-/

namespace TowerMcp

open Execution Pool

namespace RequestScope

/-! ## Lines -/

/-- A line of the client: whether it starts as an array does, and what it reads as. The members of
an object are those that are written, also where a key is there twice. -/
structure Line where
  bracket : Bool
  parsed : Option Json
  bracket_eq : ∀ value, parsed = some value → bracket = value.isArray

def peek (field : String) : Json → Option (Option Json)
  | .object members =>
    match members.filter fun entry => entry.1 = field with
    | [] => some none
    | [entry] => some (some entry.2)
    | _ => none
  | .array [] => some none
  | .array [value] => some (some value)
  | _ => none

def isOrderingBarrier (line : Line) : Bool :=
  match line.parsed.bind (peek "method") with
  | some (some (.string method)) =>
    decide (method = "initialize" ∨ method = "notifications/initialized")
  | _ => false

def expectsAResponse (line : Line) : Bool :=
  line.bracket ||
    match line.parsed.bind (peek "id") with
    | some (some id) => !id.isNull
    | some none => false
    | none => true

theorem expects_no_response {line : Line} {members : List (String × Json)}
    (hparsed : line.parsed = some (.object members)) (hid : ∀ entry ∈ members, entry.1 ≠ "id") :
    expectsAResponse line = false := by
  have hbracket : line.bracket = false := line.bracket_eq _ hparsed
  have hnone : (members.filter fun entry => entry.1 = "id") = [] := by
    simpa [List.filter_eq_nil_iff] using hid
  simp [expectsAResponse, hbracket, hparsed, peek, hnone]

/-! ## Tasks -/

inductive TaskKind where
  | dispatcher
  | request (frame : ℕ)
  | notification (frame : ℕ)
deriving DecidableEq

/-- A task that the scope holds an abort handle of. It is `working` until its future is dropped. -/
structure Task where
  kind : TaskKind
  working : Bool := true
  aborted : Bool := false
deriving DecidableEq

/-- Where the dispatcher is: before a step that waits for the queue or for a permit, before its look
at the token, or between this look and the start of the task. -/
inductive DispatcherPoint where
  | receiving
  | acquiring (frame : ℕ)
  | checking (frame : ℕ)
  | spawning (frame : ℕ)
  | stopped
deriving DecidableEq

/-- How `run` has returned: without a drain, after it, or after it gave up, with no task left or
after it told the tasks that were left to abort. -/
inductive Exit where
  | failed
  | drained
  | idle
  | aborted
deriving DecidableEq

/-- Where `run` is. `registering`, `inspecting` and `waiting` are the steps of `wait_idle`, the
later two with whether the signal was given since. -/
inductive RunPoint where
  | reading
  | awaiting
  | draining
  | registering
  | inspecting (notified : Bool)
  | waiting (notified : Bool)
  | aborting
  | returned (exit : Exit)
deriving DecidableEq

/-- A connection. `live` are the tasks of the scope, and `waking` counts those that have left it and
are about to give the signal. `frames` counts the lines that were read; `accepted` are the frames of
the requests that were queued and `started` of those that were started, in order. -/
structure World where
  permits : Option ℕ
  drainTimeout : Bool
  run : RunPoint := .reading
  cancelled : Bool := false
  live : Pool Task := ({} : Pool Task).start { kind := .dispatcher }
  waking : ℕ := 0
  dispatcher : DispatcherPoint := .receiving
  queue : List ℕ := []
  closed : Bool := false
  frames : ℕ := 0
  accepted : List ℕ := []
  started : List ℕ := []

def requestLimiter (maxConcurrentRequests : Option ℕ) : Option ℕ :=
  maxConcurrentRequests.map fun limit => max limit 1

def start (maxConcurrentRequests : Option ℕ) (drainTimeout : Bool) : World where
  permits := requestLimiter maxConcurrentRequests
  drainTimeout := drainTimeout

/-- What happens next. A line that is `handled` needs no task, as the loop answers or refuses it
itself. A task may `finish` its work, which is also what dropping it does, and `remove` its entry,
and `notify` gives the signal after that. `wait` is a step of `wait_idle`. -/
inductive Event where
  | line (line : Line) (handled : Bool)
  | awaited
  | endOfInput
  | fail
  | dispatch
  | finish (id : ℕ)
  | remove (id : ℕ)
  | notify
  | drained
  | giveUp
  | wait
  | graceExpired
  | abort

/-- The point of `run` after the signal was given. -/
def RunPoint.notified : RunPoint → RunPoint
  | .inspecting _ => .inspecting true
  | .waiting _ => .waiting true
  | point => point

def Task.retire (task : Task) : Task :=
  if task.kind = .dispatcher then { task with working := false } else task

namespace World

variable (world : World)

def read (line : Line) (handled : Bool) : World :=
  let world' := { world with frames := world.frames + 1 }
  if handled then world'
  else if isOrderingBarrier line then { world' with run := .awaiting }
  else if expectsAResponse line then
    -- the send fails when the dispatcher has dropped the queue
    if world.dispatcher = .stopped then world'
    else
      { world' with
        queue := world.queue ++ [world.frames]
        accepted := world.accepted ++ [world.frames] }
  else { world' with live := world.live.start { kind := .notification world.frames } }

def stop : World :=
  { world with
    dispatcher := .stopped
    queue := []
    live := world.live.map Task.retire }

def dispatch : Option World :=
  match world.dispatcher with
  | .receiving =>
    match world.queue with
    | frame :: rest => some { world with dispatcher := .acquiring frame, queue := rest }
    | [] => if world.closed then some world.stop else none
  | .acquiring frame =>
    match world.permits with
    | none => some { world with dispatcher := .checking frame }
    | some 0 => none
    | some (free + 1) =>
      some { world with permits := some free, dispatcher := .checking frame }
  | .checking frame =>
    if world.cancelled then
      some { world.stop with permits := world.permits.map (· + 1) }
    else some { world with dispatcher := .spawning frame }
  | .spawning frame =>
    some
      { world with
        live := world.live.start { kind := .request frame }
        started := world.started ++ [frame]
        dispatcher := .receiving }
  | .stopped => none

def finish (id : ℕ) (task : Task) : Option World :=
  match task.kind with
  | .dispatcher =>
    match world.dispatcher with
    | .receiving | .acquiring _ => if task.aborted then some world.stop else none
    | .checking _ | .spawning _ | .stopped => none
  | .request _ =>
    some
      { world with
        live := world.live.become id { task with working := false }
        permits := world.permits.map (· + 1) }
  | .notification _ =>
    some { world with live := world.live.become id { task with working := false } }

/-- A step of `wait_idle`. -/
def wait : Option World :=
  match world.run with
  | .registering => some { world with run := .inspecting false }
  | .inspecting notified =>
    if world.live.any fun _ => true then some { world with run := .waiting notified }
    else some { world with run := .returned .idle }
  | .waiting true => some { world with run := .registering }
  | _ => none

end World

def step (world : World) : Event → Option World
  | .line line handled => if world.run = .reading then some (world.read line handled) else none
  | .awaited => if world.run = .awaiting then some { world with run := .reading } else none
  | .endOfInput =>
    if world.run = .reading then some { world with run := .draining, closed := true } else none
  | .fail =>
    if world.run = .reading ∨ world.run = .awaiting ∨ world.run = .draining then
      some { world with run := .returned .failed, closed := true }
    else none
  | .dispatch => world.dispatch
  | .finish id =>
    (world.live.get id).bind fun task => if task.working then world.finish id task else none
  | .remove id =>
    (world.live.get id).bind fun task =>
      if task.working then none
      else some { world with live := world.live.finish id, waking := world.waking + 1 }
  | .notify =>
    if 0 < world.waking then
      some { world with waking := world.waking - 1, run := world.run.notified }
    else none
  | .drained =>
    -- every sender of responses was dropped
    if world.run = .draining ∧ world.live.any Task.working = false then
      some { world with run := .returned .drained }
    else none
  | .giveUp =>
    if world.run = .draining ∧ world.drainTimeout then
      some { world with run := .registering, cancelled := true }
    else none
  | .wait => world.wait
  | .graceExpired =>
    match world.run with
    | .waiting _ => some { world with run := .aborting }
    | _ => none
  | .abort =>
    if world.run = .aborting then
      some
        { world with
          live := world.live.map fun task => { task with aborted := true }
          run := .returned .aborted }
    else none

/-! ## What is asked of a scope -/

def Task.isRunning (task : Task) : Bool :=
  match task.kind with
  | .request _ => task.working
  | .dispatcher | .notification _ => false

def Task.load (task : Task) : ℕ :=
  if task.isRunning then 1 else 0

/-- Whether `run` is in `wait_idle`. -/
def RunPoint.isWaiting : RunPoint → Bool
  | .registering | .inspecting _ | .waiting _ => true
  | _ => false

namespace World

variable (world : World)

def running : ℕ :=
  world.live.total Task.load

def IsIdle : Prop :=
  ∀ id, world.live.get id = none

/-- Whether `cancel_and_abort` has returned. -/
def HasGivenUp : Prop :=
  world.run = .returned .idle ∨ world.run = .returned .aborted

end World

/-- Requests start in the order of their frames, no more of them run than are allowed, the wait for
the last task ends only without one, and it ends when every task has left and given its signal. -/
structure InBounds (maxConcurrentRequests : Option ℕ) (world : World) : Prop where
  ordered : world.started <+: world.accepted
  sorted : world.accepted.Pairwise (· < ·)
  bounded : ∀ limit, maxConcurrentRequests = some limit → world.running ≤ max limit 1
  idle : world.run = .returned .idle → world.IsIdle
  woken : world.IsIdle → world.waking = 0 → world.run.isWaiting = true →
    ∃ steps, steps ≤ 3 ∧ Execution.run step world (List.replicate steps .wait) =
      some { world with run := .returned .idle }

def Settled (world : World) : Prop :=
  world.HasGivenUp → (world.live.Holds fun task => task.aborted = true) ∧
    ∀ event next, step world event = some next → next.started = world.started

def Meets (world : World) : Event → Prop
  | .abort => world.run = .aborting → ∀ frame, world.dispatcher ≠ .spawning frame
  | _ => True

/-! ## What every step keeps -/

section

variable {bound : Option ℕ} {world next : World}

def DispatcherPoint.inHand : DispatcherPoint → List ℕ
  | .acquiring frame | .checking frame | .spawning frame => [frame]
  | .receiving | .stopped => []

def DispatcherPoint.held : DispatcherPoint → ℕ
  | .checking _ | .spawning _ => 1
  | .receiving | .acquiring _ | .stopped => 0

/-- Whether `run` has cancelled the token. -/
def RunPoint.isGivingUp : RunPoint → Bool
  | .reading | .awaiting | .draining | .returned .failed | .returned .drained => false
  | .registering | .inspecting _ | .waiting _ | .aborting | .returned .idle
  | .returned .aborted => true

def Balanced (bound : Option ℕ) (permits : Option ℕ) (used : ℕ) : Prop :=
  ∀ limit, bound = some limit → ∃ free, permits = some free ∧ free + used = limit

def Dispatching (dispatcher : DispatcherPoint) (live : Pool Task) : Prop :=
  dispatcher ≠ .stopped → ∃ id task, live.get id = some task ∧ task.kind = .dispatcher ∧
    task.working = true

structure Sound (bound : Option ℕ) (world : World) : Prop where
  numbered : world.live.Numbered
  balanced : Balanced bound world.permits (world.running + world.dispatcher.held)
  order : ∃ rest, world.accepted = world.started ++ (world.dispatcher.inHand ++ rest) ∧
    (world.dispatcher ≠ .stopped → rest = world.queue)
  sorted : world.accepted.Pairwise (· < ·)
  below : ∀ frame ∈ world.accepted, frame < world.frames
  dispatching : Dispatching world.dispatcher world.live
  awake : world.run = .waiting false → ¬ world.IsIdle ∨ 0 < world.waking
  cancelled : world.run.isGivingUp = true → world.cancelled = true
  idle : world.run = .returned .idle → world.IsIdle

theorem sound_start (maxConcurrentRequests : Option ℕ) (drainTimeout : Bool) :
    Sound (requestLimiter maxConcurrentRequests) (start maxConcurrentRequests drainTimeout) where
  numbered := numbered_empty.start _
  balanced limit hlimit := ⟨limit, hlimit, rfl⟩
  order := ⟨[], rfl, fun _ => rfl⟩
  sorted := List.Pairwise.nil
  below frame hmem := by cases hmem
  dispatching _ := ⟨0, _, get_start_self {} _, rfl, rfl⟩
  awake h := by cases h
  cancelled h := by cases h
  idle h := by cases h

theorem not_idle_start (live : Pool Task) (task : Task) :
    ¬ ∀ id, (live.start task).get id = none := by
  intro hidle
  have hstarted := hidle live.next
  rw [get_start_self] at hstarted
  cases hstarted

variable {live : Pool Task}

variable {dispatcher : DispatcherPoint}

theorem Dispatching.start (h : Dispatching dispatcher live)
    (hnumbered : live.Numbered) (task : Task) : Dispatching dispatcher (live.start task) := by
  intro hgoing
  obtain ⟨id, held, hget, hkind, hworking⟩ := h hgoing
  exact ⟨id, held, hnumbered.get_start hget task, hkind, hworking⟩

theorem Dispatching.moved {later : DispatcherPoint} (h : Dispatching dispatcher live)
    (hgoing : dispatcher ≠ .stopped) : Dispatching later live :=
  fun _ => h hgoing

theorem Dispatching.not_idle (h : Dispatching dispatcher live)
    (hgoing : dispatcher ≠ .stopped) : ¬ ∀ id, live.get id = none := by
  obtain ⟨id, task, hget, -⟩ := h hgoing
  intro hidle
  rw [hidle id] at hget
  cases hget

theorem Sound.read (h : Sound bound world) (hrun : world.run = .reading) (line : Line)
    (handled : Bool) : Sound bound (world.read line handled) := by
  have hbelow : ∀ frame ∈ world.accepted, frame < world.frames + 1 := fun frame hmem =>
    (h.below frame hmem).trans (Nat.lt_succ_self _)
  unfold World.read
  dsimp only
  split_ifs with hhandled hbarrier hresponse hstopped
  · exact { h with below := hbelow }
  · exact { h with below := hbelow, awake := nofun, cancelled := nofun, idle := nofun }
  · exact { h with below := hbelow }
  · obtain ⟨rest, hrest, hqueue⟩ := h.order
    refine { h with order := ⟨rest ++ [world.frames], ?_, fun hgoing => ?_⟩, sorted := ?_,
                    below := ?_ }
    · simp [hrest]
    · rw [hqueue hgoing]
    · rw [List.pairwise_append]
      refine ⟨h.sorted, List.pairwise_singleton _ _, fun frame hmem last hlast => ?_⟩
      rw [List.mem_singleton.1 hlast]
      exact h.below frame hmem
    · intro frame hmem
      rcases List.mem_append.1 hmem with hearlier | hlast
      · exact hbelow frame hearlier
      · rw [List.mem_singleton.1 hlast]
        exact Nat.lt_succ_self _
  · refine { h with numbered := h.numbered.start _, balanced := ?_, below := hbelow,
                    dispatching := h.dispatching.start h.numbered _, awake := ?_, idle := ?_ }
    · show Balanced bound world.permits ((world.live.start _).total Task.load + _)
      have hload : Task.load { kind := .notification world.frames } = 0 := rfl
      rw [h.numbered.total_start, hload, Nat.zero_add]
      exact h.balanced
    · exact fun _ => .inl (not_idle_start _ _)
    · show world.run = .returned .idle → _
      rw [hrun]
      exact nofun

theorem Sound.stop (h : Sound bound world) {permits : Option ℕ}
    (hpermits : Balanced bound permits world.running) :
    Sound bound { world.stop with permits := permits } where
  numbered := h.numbered.map _
  balanced := by
    show Balanced bound permits ((world.live.map Task.retire).total Task.load + 0)
    rw [total_map]
    · exact hpermits
    · rintro ⟨_ | _ | _, _, _⟩ <;> rfl
  order := by
    obtain ⟨rest, hrest, -⟩ := h.order
    exact ⟨world.dispatcher.inHand ++ rest, hrest, nofun⟩
  sorted := h.sorted
  below := h.below
  dispatching hgoing := absurd rfl hgoing
  awake hwaiting := by
    obtain hbusy | hwaking := h.awake hwaiting
    · refine .inl fun hidle => hbusy fun id => ?_
      have hnone : (world.live.map Task.retire).get id = none := hidle id
      rw [get_map, Option.map_eq_none_iff] at hnone
      exact hnone
    · exact .inr hwaking
  cancelled := h.cancelled
  idle hrun id := by
    show (world.live.map Task.retire).get id = none
    rw [get_map, h.idle hrun id, Option.map_none]

theorem Sound.dispatch (h : Sound bound world) (hstep : world.dispatch = some next) :
    Sound bound next := by
  obtain ⟨rest, hrest, hqueue⟩ := h.order
  unfold World.dispatch at hstep
  cases hpoint : world.dispatcher with
  | receiving =>
    rw [hpoint] at hstep hqueue hrest
    cases hwork : world.queue with
    | nil =>
      simp only [hwork] at hstep
      obtain ⟨-, hstep⟩ := Option.ite_none_right_eq_some.1 hstep
      cases hstep
      refine h.stop ?_
      have hbalanced := h.balanced
      rw [hpoint] at hbalanced
      exact hbalanced
    | cons frame later =>
      simp only [hwork, Option.some.injEq] at hstep
      subst hstep
      have hbalanced := h.balanced
      rw [hpoint] at hbalanced
      refine { h with balanced := hbalanced, order := ⟨later, ?_, fun _ => rfl⟩,
                      dispatching := h.dispatching.moved (by simp [hpoint]) }
      rw [hrest, hqueue nofun, hwork]
      rfl
  | acquiring frame =>
    rw [hpoint] at hstep hqueue hrest
    have hbalanced := h.balanced
    rw [hpoint] at hbalanced
    cases hpermits : world.permits with
    | none =>
      simp only [hpermits, Option.some.injEq] at hstep
      subst hstep
      refine { h with balanced := fun limit hlimit => ?_,
                      order := ⟨rest, hrest, fun _ => hqueue nofun⟩,
                      dispatching := h.dispatching.moved (by simp [hpoint]) }
      obtain ⟨free, hfree, -⟩ := hbalanced limit hlimit
      rw [hpermits] at hfree
      cases hfree
    | some free =>
      cases free with
      | zero => simp [hpermits] at hstep
      | succ free =>
        simp only [hpermits, Option.some.injEq] at hstep
        subst hstep
        refine { h with balanced := fun limit hlimit => ⟨free, rfl, ?_⟩,
                        order := ⟨rest, hrest, fun _ => hqueue nofun⟩,
                        dispatching := h.dispatching.moved (by simp [hpoint]) }
        obtain ⟨held, hheld, hsum⟩ := hbalanced limit hlimit
        obtain rfl := Option.some.inj (hpermits.symm.trans hheld)
        simp only [DispatcherPoint.held, World.running] at hsum ⊢
        omega
  | checking frame =>
    rw [hpoint] at hstep hqueue hrest
    have hbalanced := h.balanced
    rw [hpoint] at hbalanced
    simp only at hstep
    split at hstep
    next =>
      cases hstep
      refine h.stop fun limit hlimit => ?_
      obtain ⟨free, hfree, hsum⟩ := hbalanced limit hlimit
      refine ⟨free + 1, by rw [hfree]; rfl, ?_⟩
      simp only [DispatcherPoint.held, World.running] at hsum ⊢
      omega
    next =>
      cases hstep
      exact { h with balanced := hbalanced, order := ⟨rest, hrest, fun _ => hqueue nofun⟩,
                     dispatching := h.dispatching.moved (by simp [hpoint]) }
  | spawning frame =>
    rw [hpoint] at hstep hqueue hrest
    have hbalanced := h.balanced
    rw [hpoint] at hbalanced
    cases hstep
    refine { h with numbered := h.numbered.start _, balanced := fun limit hlimit => ?_,
                    order := ⟨rest, ?_, fun _ => hqueue nofun⟩, dispatching := ?_,
                    awake := fun _ => .inl (not_idle_start _ _), idle := ?_ }
    · obtain ⟨free, hfree, hsum⟩ := hbalanced limit hlimit
      refine ⟨free, hfree, ?_⟩
      show free + ((world.live.start _).total Task.load + 0) = limit
      rw [h.numbered.total_start, show Task.load { kind := .request frame } = 1 from rfl]
      simp only [DispatcherPoint.held, World.running] at hsum
      omega
    · rw [hrest]
      simp [DispatcherPoint.inHand]
    · exact (h.dispatching.start h.numbered _).moved (by simp [hpoint])
    · intro hrun
      exact absurd (h.idle hrun) (h.dispatching.not_idle (by simp [hpoint]))
  | stopped =>
    rw [hpoint] at hstep
    cases hstep

variable {id : ℕ} {task : Task}

theorem Sound.finish_task (h : Sound bound world) {permits : Option ℕ}
    (hget : world.live.get id = some task) (hkind : task.kind ≠ .dispatcher)
    (hpermits : ∀ free, world.permits = some free → permits = some (free + task.load)) :
    Sound bound
      { world with
        live := world.live.become id { task with working := false }
        permits := permits } := by
  refine { h with numbered := h.numbered.become hget _, balanced := ?_, dispatching := ?_,
                  awake := ?_, idle := ?_ }
  · intro limit hlimit
    obtain ⟨free, hfree, hsum⟩ := h.balanced limit hlimit
    refine ⟨free + task.load, hpermits free hfree, ?_⟩
    have hload : Task.load { task with working := false } = 0 := by
      obtain ⟨_ | _ | _, _, _⟩ := task <;> rfl
    have htotal :
        (world.live.become id { task with working := false }).total Task.load + task.load =
          Task.load { task with working := false } + world.live.total Task.load :=
      total_become Task.load hget
    rw [hload] at htotal
    show free + task.load +
      ((world.live.become id _).total Task.load + world.dispatcher.held) = limit
    simp only [World.running] at hsum
    omega
  · intro hgoing
    obtain ⟨other, held, hother, hheld, hworking⟩ := h.dispatching hgoing
    refine ⟨other, held, get_become_of_ne hget hother ?_ _, hheld, hworking⟩
    rintro rfl
    exact hkind hheld
  · intro hwaiting
    refine (h.awake hwaiting).imp_left fun _ hidle => ?_
    have hmoved := hidle id
    rw [get_become_self] at hmoved
    cases hmoved
  · intro hrun
    rw [h.idle hrun id] at hget
    cases hget

theorem Sound.finish (h : Sound bound world) (hget : world.live.get id = some task)
    (hworking : task.working = true) (hstep : world.finish id task = some next) :
    Sound bound next := by
  unfold World.finish at hstep
  split at hstep
  next hkind =>
    have hstop : world.dispatcher.held = 0 → Sound bound world.stop := by
      intro hheld
      refine h.stop ?_
      have hbalanced := h.balanced
      rw [hheld] at hbalanced
      exact hbalanced
    split at hstep
    next hpoint =>
      obtain ⟨-, hstep⟩ := Option.ite_none_right_eq_some.1 hstep
      exact Option.some.inj hstep ▸ hstop (by rw [hpoint]; rfl)
    next hpoint =>
      obtain ⟨-, hstep⟩ := Option.ite_none_right_eq_some.1 hstep
      exact Option.some.inj hstep ▸ hstop (by rw [hpoint]; rfl)
    all_goals cases hstep
  next frame hkind =>
    cases hstep
    refine h.finish_task hget (by simp [hkind]) fun free hfree => ?_
    simp [hfree, Task.load, Task.isRunning, hkind, hworking]
  next frame hkind =>
    cases hstep
    refine h.finish_task hget (by simp [hkind]) fun free hfree => ?_
    simp [hfree, Task.load, Task.isRunning, hkind]

theorem Sound.remove (h : Sound bound world) (hget : world.live.get id = some task)
    (hended : task.working = false) :
    Sound bound
      { world with live := world.live.finish id, waking := world.waking + 1 } := by
  have hload : task.load = 0 := by
    obtain ⟨_ | _ | _, _, _⟩ := task <;> simp_all [Task.load, Task.isRunning]
  refine { h with numbered := h.numbered.finish id, balanced := ?_, dispatching := ?_,
                  awake := fun _ => .inr (Nat.succ_pos _), idle := ?_ }
  · have htotal := total_finish Task.load hget
    rw [hload, Nat.add_zero] at htotal
    show Balanced bound world.permits ((world.live.finish id).total Task.load + _)
    rw [htotal]
    exact h.balanced
  · intro hgoing
    obtain ⟨other, held, hother, hheld, hworking⟩ := h.dispatching hgoing
    refine ⟨other, held, get_finish_of_ne hget hother ?_, hheld, hworking⟩
    rintro rfl
    exact Bool.noConfusion (hended.symm.trans hworking)
  · intro hrun
    rw [h.idle hrun id] at hget
    cases hget

theorem Sound.wait (h : Sound bound world) (hstep : world.wait = some next) :
    Sound bound next := by
  unfold World.wait at hstep
  split at hstep
  next hrun =>
    cases hstep
    exact { h with awake := nofun, cancelled := fun _ => h.cancelled (by rw [hrun]; rfl),
                   idle := nofun }
  next notified hrun =>
    have hcancelled := h.cancelled (by rw [hrun]; rfl)
    split at hstep
    next hlive =>
      cases hstep
      refine { h with awake := fun _ => .inl fun hidle => ?_, cancelled := fun _ => hcancelled,
                      idle := nofun }
      obtain ⟨id, task, hget, -⟩ := any_eq_true_iff.1 hlive
      rw [show world.live.get id = none from hidle id] at hget
      cases hget
    next hempty =>
      cases hstep
      refine { h with awake := nofun, cancelled := fun _ => hcancelled, idle := fun _ id => ?_ }
      show world.live.get id = none
      cases hget : world.live.get id with
      | none => rfl
      | some task => exact absurd (any_eq_true_iff.2 ⟨id, task, hget, rfl⟩) hempty
  next hrun =>
    cases hstep
    exact { h with awake := nofun, cancelled := fun _ => h.cancelled (by rw [hrun]; rfl),
                   idle := nofun }
  next => cases hstep

theorem Sound.notify (h : Sound bound world) :
    Sound bound { world with waking := world.waking - 1, run := world.run.notified } := by
  refine { h with awake := ?_, cancelled := ?_, idle := ?_ }
  · intro hwaiting
    change world.run.notified = _ at hwaiting
    cases hrun : world.run <;> simp [hrun, RunPoint.notified] at hwaiting
  · intro hgiving
    refine h.cancelled ?_
    change world.run.notified.isGivingUp = true at hgiving
    cases hrun : world.run with
    | inspecting _ | waiting _ => rfl
    | _ =>
      rw [hrun] at hgiving
      exact hgiving
  · intro hidle
    refine h.idle ?_
    change world.run.notified = _ at hidle
    cases hrun : world.run <;> simp_all [RunPoint.notified]

theorem Sound.abort (h : Sound bound world) (hrun : world.run = .aborting) :
    Sound bound
      { world with
        live := world.live.map fun task => { task with aborted := true }
        run := .returned .aborted } := by
  refine { h with numbered := h.numbered.map _, balanced := ?_, dispatching := ?_, awake := nofun,
                  cancelled := fun _ => h.cancelled (by rw [hrun]; rfl), idle := nofun }
  · show Balanced bound world.permits ((world.live.map _).total Task.load + _)
    rw [total_map]
    · exact h.balanced
    · exact fun _ => rfl
  · intro hgoing
    obtain ⟨id, task, hget, hkind, hworking⟩ := h.dispatching hgoing
    refine ⟨id, { task with aborted := true }, ?_, hkind, hworking⟩
    show (world.live.map _).get id = _
    rw [get_map, hget]
    rfl

variable {event : Event}

theorem sound_step (h : Sound bound world) (hstep : step world event = some next) :
    Sound bound next := by
  cases event with
  | line line handled =>
    obtain ⟨hrun, hstep⟩ := Option.ite_none_right_eq_some.1 hstep
    exact Option.some.inj hstep ▸ h.read hrun line handled
  | awaited =>
    obtain ⟨-, hstep⟩ := Option.ite_none_right_eq_some.1 hstep
    cases hstep
    exact { h with awake := nofun, cancelled := nofun, idle := nofun }
  | endOfInput =>
    obtain ⟨-, hstep⟩ := Option.ite_none_right_eq_some.1 hstep
    cases hstep
    exact { h with awake := nofun, cancelled := nofun, idle := nofun }
  | fail =>
    obtain ⟨-, hstep⟩ := Option.ite_none_right_eq_some.1 hstep
    cases hstep
    exact { h with awake := nofun, cancelled := nofun, idle := nofun }
  | dispatch => exact h.dispatch hstep
  | finish id =>
    obtain ⟨task, hget, hstep⟩ := Option.bind_eq_some_iff.1 hstep
    obtain ⟨hworking, hstep⟩ := Option.ite_none_right_eq_some.1 hstep
    exact h.finish hget hworking hstep
  | remove id =>
    obtain ⟨task, hget, hstep⟩ := Option.bind_eq_some_iff.1 hstep
    obtain ⟨hended, hstep⟩ := Option.ite_none_left_eq_some.1 hstep
    cases hstep
    exact h.remove hget (by simpa using hended)
  | notify =>
    obtain ⟨-, hstep⟩ := Option.ite_none_right_eq_some.1 hstep
    cases hstep
    exact h.notify
  | drained =>
    obtain ⟨-, hstep⟩ := Option.ite_none_right_eq_some.1 hstep
    cases hstep
    exact { h with awake := nofun, cancelled := nofun, idle := nofun }
  | giveUp =>
    obtain ⟨-, hstep⟩ := Option.ite_none_right_eq_some.1 hstep
    cases hstep
    exact { h with awake := nofun, cancelled := fun _ => rfl, idle := nofun }
  | wait => exact h.wait hstep
  | graceExpired =>
    simp only [step] at hstep
    split at hstep
    next notified hrun =>
      cases hstep
      exact { h with awake := nofun, cancelled := fun _ => h.cancelled (by rw [hrun]; rfl),
                     idle := nofun }
    next => cases hstep
  | abort =>
    obtain ⟨hrun, hstep⟩ := Option.ite_none_right_eq_some.1 hstep
    cases hstep
    exact h.abort hrun

/-! ## What follows at any time -/

theorem woken_of_sound (h : Sound bound world) (hidle : world.IsIdle) (hwaking : world.waking = 0)
    (hwaiting : world.run.isWaiting = true) :
    ∃ steps, steps ≤ 3 ∧ Execution.run step world (List.replicate steps .wait) =
      some { world with run := .returned .idle } := by
  have hempty : world.live.any (fun _ => true) = false := by
    rw [Bool.eq_false_iff]
    intro hlive
    obtain ⟨id, task, hget, -⟩ := any_eq_true_iff.1 hlive
    rw [hidle id] at hget
    cases hget
  cases hrun : world.run with
  | inspecting notified =>
    exact ⟨1, by omega, by simp [Execution.run, step, World.wait, hrun, hempty]⟩
  | registering =>
    exact ⟨2, by omega, by simp [Execution.run, step, World.wait, hrun, hempty]⟩
  | waiting notified =>
    cases notified with
    | true => exact ⟨3, le_rfl, by simp [Execution.run, step, World.wait, hrun, hempty]⟩
    | false =>
      obtain hbusy | hsignal := h.awake hrun
      · exact absurd hidle hbusy
      · omega
  | _ => simp [hrun, RunPoint.isWaiting] at hwaiting

theorem Sound.in_bounds {maxConcurrentRequests : Option ℕ}
    (h : Sound (requestLimiter maxConcurrentRequests) world) :
    InBounds maxConcurrentRequests world where
  ordered := by
    obtain ⟨rest, hrest, -⟩ := h.order
    exact ⟨_, hrest.symm⟩
  sorted := h.sorted
  bounded limit hlimit := by
    obtain ⟨free, -, hsum⟩ := h.balanced (max limit 1) (by rw [hlimit]; rfl)
    omega
  idle := h.idle
  woken := woken_of_sound h

/-! ## After the scope was given up -/

/-- A step after which everything winds down: nothing starts, the dispatcher is not about to start
anything, and tasks stay aborted. -/
structure Quiet (world next : World) : Prop where
  run : next.run = world.run
  started : next.started = world.started
  point : ∀ frame, next.dispatcher ≠ .spawning frame
  aborted : (world.live.Holds fun task => task.aborted = true) →
    next.live.Holds fun task => task.aborted = true

theorem quiet_stop (world : World) (permits : Option ℕ) :
    Quiet world { world.stop with permits := permits } where
  run := rfl
  started := rfl
  point _ := nofun
  aborted haborted := by
    refine haborted.map fun task htask => ?_
    unfold Task.retire
    split
    · exact htask
    · exact htask

theorem quiet_dispatch (hcancelled : world.cancelled = true)
    (hpoint : ∀ frame, world.dispatcher ≠ .spawning frame) (hstep : world.dispatch = some next) :
    Quiet world next := by
  unfold World.dispatch at hstep
  split at hstep
  next hdispatcher =>
    split at hstep
    next =>
      cases hstep
      exact ⟨rfl, rfl, nofun, id⟩
    next =>
      obtain ⟨-, hstep⟩ := Option.ite_none_right_eq_some.1 hstep
      cases hstep
      exact quiet_stop world world.permits
  next frame hdispatcher =>
    split at hstep
    next =>
      cases hstep
      exact ⟨rfl, rfl, nofun, id⟩
    next => cases hstep
    next =>
      cases hstep
      exact ⟨rfl, rfl, nofun, id⟩
  next frame hdispatcher =>
    rw [if_pos hcancelled] at hstep
    cases hstep
    exact quiet_stop world _
  next frame hdispatcher => exact absurd hdispatcher (hpoint frame)
  next => cases hstep

theorem quiet_finish (hpoint : ∀ frame, world.dispatcher ≠ .spawning frame)
    (hget : world.live.get id = some task) (hstep : world.finish id task = some next) :
    Quiet world next := by
  unfold World.finish at hstep
  have hended : (world.live.Holds fun task => task.aborted = true) →
      (world.live.become id { task with working := false }).Holds fun task => task.aborted = true :=
    fun haborted => haborted.become (show task.aborted = true from haborted.of_get hget)
  cases hkind : task.kind with
  | dispatcher =>
    rw [hkind] at hstep
    cases hdispatcher : world.dispatcher with
    | receiving | acquiring frame =>
      rw [hdispatcher] at hstep
      obtain ⟨-, hstep⟩ := Option.ite_none_right_eq_some.1 hstep
      cases hstep
      exact quiet_stop world world.permits
    | checking frame | spawning frame | stopped =>
      rw [hdispatcher] at hstep
      cases hstep
  | request frame | notification frame =>
    simp only [hkind, Option.some.injEq] at hstep
    subst hstep
    exact ⟨rfl, rfl, hpoint, by simpa only [hkind] using hended⟩

theorem quiet_step {exit : Exit} (hrun : world.run = .returned exit)
    (hcancelled : world.cancelled = true) (hpoint : ∀ frame, world.dispatcher ≠ .spawning frame)
    (hstep : step world event = some next) : Quiet world next := by
  cases event with
  | dispatch => exact quiet_dispatch hcancelled hpoint hstep
  | finish id =>
    obtain ⟨task, hget, hstep⟩ := Option.bind_eq_some_iff.1 hstep
    obtain ⟨-, hstep⟩ := Option.ite_none_right_eq_some.1 hstep
    exact quiet_finish hpoint hget hstep
  | remove id =>
    obtain ⟨task, hget, hstep⟩ := Option.bind_eq_some_iff.1 hstep
    obtain ⟨-, hstep⟩ := Option.ite_none_left_eq_some.1 hstep
    cases hstep
    exact ⟨rfl, rfl, hpoint, Pool.Holds.finish⟩
  | notify =>
    obtain ⟨-, hstep⟩ := Option.ite_none_right_eq_some.1 hstep
    cases hstep
    exact ⟨by simp [hrun, RunPoint.notified], rfl, hpoint, id⟩
  | _ => simp [step, World.wait, hrun] at hstep

theorem settled_iff (h : Sound bound world) :
    Settled world ↔ (world.HasGivenUp →
      (world.live.Holds fun task => task.aborted = true) ∧
        ∀ frame, world.dispatcher ≠ .spawning frame) := by
  refine forall_congr' fun hgiven => and_congr_right fun _ => ⟨fun hquiet frame hpoint => ?_,
    fun hpoint event next hstep => ?_⟩
  · have hdispatch : step world .dispatch = some
        { world with
          live := world.live.start { kind := .request frame }
          started := world.started ++ [frame]
          dispatcher := .receiving } := by
      simp only [step, World.dispatch, hpoint]
    have hsame : world.started ++ [frame] = world.started := hquiet _ _ hdispatch
    simp at hsame
  · obtain hrun | hrun := hgiven
    · exact (quiet_step hrun (h.cancelled (by rw [hrun]; rfl)) hpoint hstep).started
    · exact (quiet_step hrun (h.cancelled (by rw [hrun]; rfl)) hpoint hstep).started

theorem run_of_dispatch (hstep : world.dispatch = some next) : next.run = world.run := by
  unfold World.dispatch at hstep
  split at hstep
  · split at hstep
    · exact Option.some.inj hstep ▸ rfl
    · exact Option.some.inj (Option.ite_none_right_eq_some.1 hstep).2 ▸ rfl
  · split at hstep
    · exact Option.some.inj hstep ▸ rfl
    · cases hstep
    · exact Option.some.inj hstep ▸ rfl
  · split at hstep
    · exact Option.some.inj hstep ▸ rfl
    · exact Option.some.inj hstep ▸ rfl
  · exact Option.some.inj hstep ▸ rfl
  · cases hstep

theorem run_of_finish (hstep : world.finish id task = some next) : next.run = world.run := by
  unfold World.finish at hstep
  split at hstep
  · split at hstep
    · exact Option.some.inj (Option.ite_none_right_eq_some.1 hstep).2 ▸ rfl
    · exact Option.some.inj (Option.ite_none_right_eq_some.1 hstep).2 ▸ rfl
    all_goals cases hstep
  · exact Option.some.inj hstep ▸ rfl
  · exact Option.some.inj hstep ▸ rfl

theorem run_of_aborted (hevent : event ≠ .abort) (hstep : step world event = some next)
    (hrun : next.run = .returned .aborted) : world.run = .returned .aborted := by
  cases event with
  | abort => exact absurd rfl hevent
  | line line handled =>
    obtain ⟨hreading, hstep⟩ := Option.ite_none_right_eq_some.1 hstep
    cases hstep
    unfold World.read at hrun
    dsimp only at hrun
    split_ifs at hrun <;> exact hrun
  | dispatch => exact (run_of_dispatch hstep).symm.trans hrun
  | finish id =>
    obtain ⟨task, -, hstep⟩ := Option.bind_eq_some_iff.1 hstep
    obtain ⟨-, hstep⟩ := Option.ite_none_right_eq_some.1 hstep
    exact (run_of_finish hstep).symm.trans hrun
  | remove id =>
    obtain ⟨task, -, hstep⟩ := Option.bind_eq_some_iff.1 hstep
    obtain ⟨-, hstep⟩ := Option.ite_none_left_eq_some.1 hstep
    cases hstep
    exact hrun
  | notify =>
    obtain ⟨-, hstep⟩ := Option.ite_none_right_eq_some.1 hstep
    cases hstep
    change world.run.notified = _ at hrun
    cases hbefore : world.run <;> simp_all [RunPoint.notified]
  | wait =>
    simp only [step, World.wait] at hstep
    split at hstep
    · cases hstep
      cases hrun
    · split at hstep <;> (obtain rfl := Option.some.inj hstep; cases hrun)
    · cases hstep
      cases hrun
    · cases hstep
  | graceExpired =>
    simp only [step] at hstep
    split at hstep
    · cases hstep
      cases hrun
    · cases hstep
  | awaited | endOfInput | fail | drained | giveUp =>
    obtain ⟨-, hstep⟩ := Option.ite_none_right_eq_some.1 hstep
    cases hstep
    cases hrun

theorem settled_step_iff (h : Sound bound world) (hsettled : Settled world)
    (hstep : step world event = some next) : Settled next ↔ Meets world event := by
  have hnext := sound_step h hstep
  rw [settled_iff hnext]
  rw [settled_iff h] at hsettled
  by_cases hevent : event = .abort
  · subst hevent
    obtain ⟨hrun, hstep⟩ := Option.ite_none_right_eq_some.1 hstep
    cases hstep
    have haborted : (world.live.map fun task => { task with aborted := true }).Holds
        fun task => task.aborted = true := by
      intro id task hget
      rw [get_map] at hget
      obtain ⟨held, -, rfl⟩ := Option.map_eq_some_iff.1 hget
      rfl
    exact ⟨fun hall _ => (hall (.inr rfl)).2, fun hmeets _ => ⟨haborted, hmeets hrun⟩⟩
  have hmeets : Meets world event := by
    cases event with
    | abort => exact absurd rfl hevent
    | _ => trivial
  refine iff_of_true (fun hgiven => ?_) hmeets
  obtain hidle | hrun := hgiven
  · have hnone := hnext.idle hidle
    refine ⟨fun id task hget => ?_, fun frame hpoint => ?_⟩
    · rw [hnone id] at hget
      cases hget
    · exact hnext.dispatching.not_idle (by simp [hpoint]) hnone
  · have hbefore := run_of_aborted hevent hstep hrun
    obtain ⟨haborted, hpoint⟩ := hsettled (.inr hbefore)
    have hquiet := quiet_step hbefore (h.cancelled (by rw [hbefore]; rfl)) hpoint hstep
    exact ⟨hquiet.aborted haborted, hquiet.point⟩

/-! ## Runs -/

theorem meets_of_refused (hrefused : step world event = none) : Meets world event := by
  cases event with
  | abort =>
    intro hrun
    simp [step, hrun] at hrefused
  | _ => trivial

/-- At any time requests have started in the order of their frames, no more of them run than are
allowed, and the wait for the last task ends without one and is woken. A notification is neither
queued nor does it take a permit. Once the scope was given up, every task was told to abort and no
request starts, exactly in the runs in which the dispatcher is not past its look at the token when
the tasks are told to abort. -/
theorem request_scope (maxConcurrentRequests : Option ℕ) (drainTimeout : Bool) :
    (∀ events, Throughout step (InBounds maxConcurrentRequests)
        (start maxConcurrentRequests drainTimeout) events) ∧
      (∀ world line members handled, world.run = .reading →
        line.parsed = some (.object members) → (∀ entry ∈ members, entry.1 ≠ "id") →
          ∃ next, step world (.line line handled) = some next ∧ next.queue = world.queue ∧
            next.permits = world.permits ∧
              (handled = false → isOrderingBarrier line = false →
                next.live = world.live.start { kind := .notification world.frames })) ∧
      ∀ events,
        Throughout step Settled (start maxConcurrentRequests drainTimeout) events ↔
          Along step Meets (start maxConcurrentRequests drainTimeout) events := by
  have hstart := sound_start maxConcurrentRequests drainTimeout
  refine ⟨fun events => ?_, ?_, fun events => ?_⟩
  · have hsound : Throughout step (Sound (requestLimiter maxConcurrentRequests))
        (start maxConcurrentRequests drainTimeout) events :=
      throughout_of_invariant (fun _ _ _ h hstep => sound_step h hstep) hstart events
    exact hsound.mono fun _ h => h.in_bounds
  · intro world line members handled hrun hparsed hid
    have hresponse := expects_no_response hparsed hid
    have hstep : step world (.line line handled) = some (world.read line handled) := if_pos hrun
    refine ⟨world.read line handled, hstep, ?_⟩
    unfold World.read
    cases handled with
    | true => exact ⟨rfl, rfl, nofun⟩
    | false =>
      by_cases hbarrier : isOrderingBarrier line = true
      · simp [hbarrier]
      · simp [hbarrier, hresponse]
  · refine throughout_iff_along (fun _ _ _ h hstep => sound_step h hstep)
      (fun _ _ _ h hsettled hstep => settled_step_iff h hsettled hstep)
      (fun _ _ hrefused => meets_of_refused hrefused) hstart ?_ events
    intro hgiven
    obtain hrun | hrun := hgiven <;> cases hrun

end

/-! ## Runs that leave the bounds -/

def toolCall : Line where
  bracket := false
  parsed := some (.object [("jsonrpc", .string "2.0"), ("id", .string "1"),
    ("method", .string "tools/call")])
  bracket_eq value hvalue := by
    cases hvalue
    rfl

def startedEvents : List Event :=
  [.line toolCall false, .dispatch, .dispatch, .dispatch, .dispatch]

def overtakenEvents : List Event :=
  [.line toolCall false, .dispatch, .dispatch, .dispatch, .endOfInput, .giveUp, .wait, .wait,
    .graceExpired, .abort]

/-- A request runs although none is allowed, and another is started after `cancel_and_abort` has
returned, in a task that was not told to abort. -/
theorem request_starts_afterwards :
    (∃ world, Execution.run step (start (some 0) false) startedEvents = some world ∧
        ¬ world.running ≤ 0) ∧
      ∃ world next, Execution.run step (start (some 1) true) overtakenEvents = some world ∧
        world.run = .returned .aborted ∧ step world .dispatch = some next ∧
          next.started ≠ world.started ∧
            ¬ next.live.Holds fun task => task.aborted = true := by
  refine ⟨⟨_, rfl, by decide⟩, _, _, rfl, rfl, rfl, by decide, fun haborted => ?_⟩
  have hnew := haborted 1 { kind := .request 0 } rfl
  cases hnew

end RequestScope

end TowerMcp
