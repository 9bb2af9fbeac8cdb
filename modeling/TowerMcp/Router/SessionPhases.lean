import TowerMcp.Router.InspectedDispatch

/-!
# The phases of a session

The phase of a legacy session, the flag that its handshake has started and what `initialize` records
of its client, after `session.rs` and `router.rs`. Each is written on its own, so the requests and
notifications of the session go through their writes side by side.
-/

namespace TowerMcp

open Execution Pool

/-! ## Transitions -/

def SessionPhase.rank : SessionPhase → ℕ
  | .uninitialized => 0
  | .initializing => 1
  | .initialized => 2

namespace SessionState

variable (session : SessionState)

/-- Record that an `initialize` request has been received. -/
def markHandshakeStarted : SessionState :=
  { session with handshakeStarted := true }

def compareExchange (current new : SessionPhase) : SessionState × Bool :=
  if session.phase = current then ({ session with phase := new }, true) else (session, false)

def markInitializing : SessionState × Bool :=
  session.markHandshakeStarted.compareExchange .uninitialized .initializing

def markPreinitialized : SessionState :=
  { session.markHandshakeStarted with phase := .initialized }

theorem rank_le_compare_exchange {current new : SessionPhase} (h : current.rank ≤ new.rank) :
    session.phase.rank ≤ (session.compareExchange current new).1.phase.rank := by
  unfold compareExchange
  split
  next hcurrent =>
    rw [hcurrent]
    exact h
  next => exact le_rfl

theorem mark_initializing_phase :
    session.markInitializing.1.phase ≠ .uninitialized := by
  unfold markInitializing compareExchange
  split
  next => simp
  next hother => exact hother

end SessionState

/-! ## Handshakes -/

structure Implementation where
  name : String
  version : String

/-- The parameters of `initialize`. -/
structure InitializeParams where
  protocolVersion : String
  capabilities : ClientCapabilities
  clientInfo : Implementation

/-- The negotiated extensions, by what they are computed from: the capabilities of the client, and
the version whose server capabilities they are compared with. -/
structure NegotiatedExtensions where
  client : ClientCapabilities
  against : String

structure LegacySession where
  state : SessionState := {}
  clientInfo : Option Implementation := none
  clientCapabilities : Option ClientCapabilities := none
  negotiatedExtensions : Option NegotiatedExtensions := none

def LegacySession.recorded (session : LegacySession) : Bool :=
  session.clientInfo.isSome && session.clientCapabilities.isSome &&
    session.negotiatedExtensions.isSome

def LegacySession.preinitialized (session : LegacySession) : LegacySession :=
  { session with state := session.state.markPreinitialized }

def LegacySession.restored (session : LegacySession) (version : String)
    (capabilities : Option ClientCapabilities) (clientInfo : Option Implementation) :
    LegacySession where
  state := session.state.markPreinitialized
  clientInfo := clientInfo.or session.clientInfo
  clientCapabilities := capabilities.or session.clientCapabilities
  negotiatedExtensions :=
    (capabilities.map fun client => { client := client, against := version }).or
      session.negotiatedExtensions

/-- The latest version of the `initialize` lifecycle. -/
def latestProtocolVersion : String := "2025-11-25"

/-- The version that the router answers to `initialize`. -/
def selectVersion (support : Option ProtocolSupport) (requested : String) :
    Except JsonRpcError String :=
  if requested ∈ supportedProtocolVersions ∧
      support.all (fun support => decide (requested ∈ support.versions)) = true then
    .ok requested
  else
    match support with
    | none => .ok latestProtocolVersion
    | some support =>
      match support.versions.find? fun version => version ∈ supportedProtocolVersions with
      | some version => .ok version
      | none => .error (.unsupportedProtocolVersion requested support.versions)

/-- What an `initialize` writes next. -/
inductive HandshakePoint where
  | phase
  | clientInfo
  | capabilities
  | extensions
deriving DecidableEq

/-- An `initialize` that the router has selected a version for. -/
structure Handshake where
  point : HandshakePoint := .phase
  version : String
  params : InitializeParams

namespace Handshake

variable (handshake : Handshake) (session : LegacySession)

def write : LegacySession :=
  match handshake.point with
  | .phase => { session with state := session.state.markInitializing.1 }
  | .clientInfo => { session with clientInfo := some handshake.params.clientInfo }
  | .capabilities => { session with clientCapabilities := some handshake.params.capabilities }
  | .extensions =>
    { session with
      negotiatedExtensions :=
        some { client := handshake.params.capabilities, against := handshake.version } }

def after : Option Handshake :=
  match handshake.point with
  | .phase => some { handshake with point := .clientInfo }
  | .clientInfo => some { handshake with point := .capabilities }
  | .capabilities => some { handshake with point := .extensions }
  | .extensions => none

def isRecording : Bool :=
  match handshake.point with
  | .phase => false
  | .clientInfo | .capabilities | .extensions => true

structure Kept (handshake : Handshake) (session : LegacySession) : Prop where
  opened : handshake.isRecording = true → session.state.phase ≠ .uninitialized
  clientInfo : handshake.point = .capabilities ∨ handshake.point = .extensions →
    session.clientInfo.isSome = true
  capabilities : handshake.point = .extensions → session.clientCapabilities.isSome = true

end Handshake

structure LegacySession.Extends (session next : LegacySession) : Prop where
  phase : session.state.phase.rank ≤ next.state.phase.rank
  clientInfo : session.clientInfo.isSome = true → next.clientInfo.isSome = true
  capabilities : session.clientCapabilities.isSome = true → next.clientCapabilities.isSome = true
  extensions : session.negotiatedExtensions.isSome = true →
    next.negotiatedExtensions.isSome = true

theorem SessionPhase.rank_eq_zero_iff {phase : SessionPhase} :
    phase.rank = 0 ↔ phase = .uninitialized := by
  cases phase <;> simp [SessionPhase.rank]

namespace LegacySession

variable {session next : LegacySession}

theorem Extends.opened (h : session.Extends next) (hopen : session.state.phase ≠ .uninitialized) :
    next.state.phase ≠ .uninitialized := by
  have hphase := h.phase
  rw [Ne, ← SessionPhase.rank_eq_zero_iff] at hopen ⊢
  omega

theorem Extends.recorded (h : session.Extends next) (hrecorded : session.recorded = true) :
    next.recorded = true := by
  simp only [LegacySession.recorded, Bool.and_eq_true] at hrecorded ⊢
  exact ⟨⟨h.clientInfo hrecorded.1.1, h.capabilities hrecorded.1.2⟩, h.extensions hrecorded.2⟩

theorem extends_preinitialized (session : LegacySession) :
    session.Extends session.preinitialized where
  phase := by
    show session.state.phase.rank ≤ 2
    cases session.state.phase <;> decide
  clientInfo := id
  capabilities := id
  extensions := id

theorem extends_restored (session : LegacySession) (version : String)
    (capabilities : Option ClientCapabilities) (clientInfo : Option Implementation) :
    session.Extends (session.restored version capabilities clientInfo) where
  phase := session.extends_preinitialized.phase
  clientInfo h := by simp [restored, h]
  capabilities h := by simp [restored, h]
  extensions h := by simp [restored, h]

end LegacySession

namespace Handshake

variable {handshake : Handshake} {session next : LegacySession}

theorem Kept.extends (h : handshake.Kept session) (hnext : session.Extends next) :
    handshake.Kept next where
  opened hrecording := hnext.opened (h.opened hrecording)
  clientInfo hpoint := hnext.clientInfo (h.clientInfo hpoint)
  capabilities hpoint := hnext.capabilities (h.capabilities hpoint)

theorem kept_of_phase (h : handshake.point = .phase) (session : LegacySession) :
    handshake.Kept session where
  opened hrecording := by simp [isRecording, h] at hrecording
  clientInfo hpoint := by simp [h] at hpoint
  capabilities hpoint := by simp [h] at hpoint

theorem opened_write (h : handshake.Kept session) :
    (handshake.write session).state.phase ≠ .uninitialized := by
  unfold write
  cases hpoint : handshake.point with
  | phase => exact session.state.mark_initializing_phase
  | clientInfo | capabilities | extensions => exact h.opened (by simp [isRecording, hpoint])

theorem Kept.after (h : handshake.Kept session) {later : Handshake}
    (hafter : handshake.after = some later) :
    later.Kept (handshake.write session) ∧ later.isRecording = true := by
  have hopened := opened_write h
  unfold Handshake.after at hafter
  split at hafter
  next hpoint =>
    cases hafter
    exact ⟨⟨fun _ => hopened, by simp, by simp⟩, rfl⟩
  next hpoint =>
    cases hafter
    exact ⟨⟨fun _ => hopened, fun _ => by simp [write, hpoint], by simp⟩, rfl⟩
  next hpoint =>
    cases hafter
    refine ⟨⟨fun _ => hopened, fun _ => ?_, fun _ => by simp [write, hpoint]⟩, rfl⟩
    simpa [write, hpoint] using h.clientInfo (.inl hpoint)
  next => cases hafter

theorem Kept.recorded (h : handshake.Kept session) (hafter : handshake.after = none) :
    (handshake.write session).recorded = true := by
  unfold Handshake.after at hafter
  split at hafter
  case h_4 hpoint =>
    simp [write, hpoint, LegacySession.recorded, h.clientInfo (.inr hpoint), h.capabilities hpoint]
  all_goals cases hafter

theorem extends_write (handshake : Handshake) (session : LegacySession) :
    session.Extends (handshake.write session) := by
  unfold write
  split
  · exact ⟨session.state.markHandshakeStarted.rank_le_compare_exchange
      (show SessionPhase.rank .uninitialized ≤ SessionPhase.rank .initializing by decide),
      id, id, id⟩
  · exact ⟨le_rfl, fun _ => rfl, id, id⟩
  · exact ⟨le_rfl, id, fun _ => rfl, id⟩
  · exact ⟨le_rfl, id, id, fun _ => rfl⟩

end Handshake

namespace SessionPhases

open InspectedDispatch (isRequestAllowed)

/-! ## Sessions and their requests -/

/-- What goes through its writes to a session: an `initialize`, an `initialized` notification by the
exchange it tries next, or a request that was let through. -/
inductive Activity where
  | handshake (handshake : Handshake)
  | notified
  | checkingFlag
  | swapping
  | admitted (method : String) (isFinal : Bool)

/-- A request that has reached its handler, with the session as it was and whether the server had
opened it itself. -/
structure Served where
  method : String
  isFinal : Bool
  session : LegacySession
  preinitialized : Bool

structure World where
  session : LegacySession := {}
  preinitialized : Bool := false
  activities : Pool Activity := {}
  served : List Served := []

/-- What happens next. `frontDoor` is the step a transport takes when it creates a session for an
`initialize` it has received, `openPreinitialized` that of a server that opens a session itself, and
`restore` that of one that has the client on record. -/
inductive Event where
  | frontDoor
  | openPreinitialized
  | restore (version : String) (capabilities : Option ClientCapabilities)
      (clientInfo : Option Implementation)
  | initializeRequest (support : Option ProtocolSupport) (params : InitializeParams)
  | initializedNotification
  | request (method : String) (isFinal : Bool)
  | advance (ticket : ℕ)

namespace World

variable (world : World)

def become (ticket : ℕ) (activity : Option Activity) (session : LegacySession) : World :=
  { world with
    session := session
    activities :=
      match activity with
      | some activity => world.activities.become ticket activity
      | none => world.activities.finish ticket }

def advance (ticket : ℕ) : Activity → World
  | .handshake handshake =>
    world.become ticket (handshake.after.map .handshake) (handshake.write world.session)
  | .notified =>
    let (state, exchanged) := world.session.state.compareExchange .initializing .initialized
    world.become ticket (if exchanged then none else some .checkingFlag)
      { world.session with state := state }
  | .checkingFlag =>
    world.become ticket (if world.session.state.handshakeStarted then some .swapping else none)
      world.session
  | .swapping =>
    world.become ticket none
      { world.session with
        state := (world.session.state.compareExchange .uninitialized .initialized).1 }
  | .admitted method isFinal =>
    { world.become ticket none world.session with
      served :=
        { method := method
          isFinal := isFinal
          session := world.session
          preinitialized := world.preinitialized } :: world.served }

end World

/-- Take an event. A request that the phase does not allow, and an `initialize` for which there is
no version, are answered with an error. -/
def step (world : World) : Event → Option World
  | .frontDoor =>
    some { world with
      session := { world.session with state := world.session.state.markHandshakeStarted } }
  | .openPreinitialized =>
    some { world with
      session := world.session.preinitialized
      preinitialized := true }
  | .restore version capabilities clientInfo =>
    some { world with
      session := world.session.restored version capabilities clientInfo
      preinitialized := true }
  | .initializeRequest support params =>
    match selectVersion support params.protocolVersion with
    | .error _ => some world
    | .ok version =>
      some { world with
        activities :=
          world.activities.start (.handshake { version := version, params := params }) }
  | .initializedNotification =>
    some { world with activities := world.activities.start .notified }
  | .request method isFinal =>
    if isFinal || isRequestAllowed world.session.state.phase method then
      some { world with activities := world.activities.start (.admitted method isFinal) }
    else some world
  | .advance ticket => (world.activities.get ticket).map (world.advance ticket)

/-! ## What a run keeps -/

def runsHandler (method : String) : Bool :=
  !isRequestAllowed .uninitialized method

def World.isNegotiated (world : World) : Bool :=
  world.preinitialized || world.session.recorded

def Negotiated (world : World) : Prop :=
  ∀ served ∈ world.served, served.isFinal = false → runsHandler served.method = true →
    served.preinitialized = true ∨ served.session.recorded = true

/-- Whether some `initialize` has opened the session and is still recording. -/
def World.isRecording (world : World) : Bool :=
  world.activities.any fun activity =>
    match activity with
    | .handshake handshake => handshake.isRecording
    | _ => false

/-- The condition on an event. No `initialized` notification opens a session in its first phase, and
no request is let through while the handshake that has opened the session is still recording. -/
def Meets (world : World) : Event → Prop
  | .advance ticket =>
    ∀ activity, world.activities.get ticket = some activity → activity = .swapping →
      world.session.state.phase ≠ .uninitialized
  | .request method false =>
    runsHandler method = true → world.session.state.phase ≠ .uninitialized →
      world.isNegotiated = true ∨ world.isRecording = false
  | _ => True

variable {world next : World}

theorem get_become (world : World) (ticket : ℕ) (activity : Option Activity)
    (session : LegacySession) (other : ℕ) :
    (world.become ticket activity session).activities.get other =
      if other = ticket then activity else world.activities.get other := by
  cases activity with
  | some activity => exact get_become_eq_ite _ _ _ _
  | none => exact get_finish_eq_ite _ _ _

variable {event : Event}

theorem extends_step (hstep : step world event = some next) :
    world.session.Extends next.session := by
  have hrefl : world.session.Extends world.session := ⟨le_rfl, id, id, id⟩
  cases event with
  | frontDoor =>
    cases hstep
    exact ⟨le_rfl, id, id, id⟩
  | openPreinitialized =>
    cases hstep
    exact world.session.extends_preinitialized
  | restore version capabilities clientInfo =>
    cases hstep
    exact world.session.extends_restored version capabilities clientInfo
  | initializeRequest support params =>
    simp only [step] at hstep
    split at hstep <;> exact Option.some.inj hstep ▸ hrefl
  | initializedNotification => exact Option.some.inj hstep ▸ hrefl
  | request method isFinal =>
    simp only [step] at hstep
    split at hstep <;> exact Option.some.inj hstep ▸ hrefl
  | advance ticket =>
    obtain ⟨activity, -, rfl⟩ := Option.map_eq_some_iff.1 hstep
    cases activity with
    | handshake handshake => exact handshake.extends_write world.session
    | notified =>
      exact ⟨world.session.state.rank_le_compare_exchange
        (show SessionPhase.rank .initializing ≤ SessionPhase.rank .initialized by decide),
        id, id, id⟩
    | checkingFlag => exact hrefl
    | swapping =>
      exact ⟨world.session.state.rank_le_compare_exchange
        (show SessionPhase.rank .uninitialized ≤ SessionPhase.rank .initialized by decide),
        id, id, id⟩
    | admitted method isFinal => exact hrefl

/-- What holds in every run: a handshake has recorded what is before its point, and a session in its
first phase has nothing on record. -/
structure Tracked (world : World) : Prop where
  numbered : world.activities.Numbered
  kept : ∀ ticket handshake, world.activities.get ticket = some (.handshake handshake) →
    handshake.Kept world.session
  closed : world.session.state.phase = .uninitialized → world.isNegotiated = false

/-- A session that has been opened has a handshake on record, or in progress, or was opened by the
server; and so it is for the requests that were let through. -/
structure Sound (world : World) : Prop where
  opened : world.session.state.phase ≠ .uninitialized → world.isNegotiated = true ∨
    ∃ ticket handshake, world.activities.get ticket = some (.handshake handshake) ∧
      handshake.isRecording = true
  admitted : ∀ ticket method, world.activities.get ticket = some (.admitted method false) →
    runsHandler method = true → world.isNegotiated = true
  negotiated : Negotiated world

variable {ticket : ℕ}

theorem handshake_of_step (hstep : step world event = some next) {handshake : Handshake}
    (hget : next.activities.get ticket = some (.handshake handshake)) :
    handshake.point = .phase ∨
      world.activities.get ticket = some (.handshake handshake) ∨
        ∃ before, event = .advance ticket ∧
          world.activities.get ticket = some (.handshake before) ∧
            before.after = some handshake := by
  have hstart : ∀ {activities : Pool Activity} {started : Activity},
      (activities.start started).get ticket = some (.handshake handshake) →
        started = .handshake handshake ∨ activities.get ticket = some (.handshake handshake) := by
    intro activities started hget
    rw [get_start_eq_ite] at hget
    split at hget
    next => exact .inl (Option.some.inj hget)
    next => exact .inr hget
  cases event with
  | frontDoor | openPreinitialized | restore _ _ _ =>
    cases hstep
    exact .inr (.inl hget)
  | initializeRequest support params =>
    simp only [step] at hstep
    split at hstep
    next => exact .inr (.inl (Option.some.inj hstep ▸ hget))
    next =>
      cases hstep
      rcases hstart hget with hstarted | hold
      · cases hstarted
        exact .inl rfl
      · exact .inr (.inl hold)
  | initializedNotification =>
    cases hstep
    rcases hstart hget with hstarted | hold
    · cases hstarted
    · exact .inr (.inl hold)
  | request method isFinal =>
    simp only [step] at hstep
    split at hstep
    next =>
      cases hstep
      rcases hstart hget with hstarted | hold
      · cases hstarted
      · exact .inr (.inl hold)
    next => exact .inr (.inl (Option.some.inj hstep ▸ hget))
  | advance moved =>
    obtain ⟨activity, hold, rfl⟩ := Option.map_eq_some_iff.1 hstep
    have hbecome : ∀ {following : Option Activity} {session : LegacySession},
        (world.become moved following session).activities.get ticket =
          some (.handshake handshake) →
        (ticket = moved ∧ following = some (.handshake handshake)) ∨
          world.activities.get ticket = some (.handshake handshake) := by
      intro following session hget
      rw [get_become] at hget
      split at hget
      next heq => exact .inl ⟨heq, hget⟩
      next => exact .inr hget
    cases activity with
    | handshake before =>
      rcases hbecome hget with ⟨rfl, hafter⟩ | hsame
      · obtain ⟨later, hlater, heq⟩ := Option.map_eq_some_iff.1 hafter
        cases heq
        exact .inr (.inr ⟨before, rfl, hold, hlater⟩)
      · exact .inr (.inl hsame)
    | notified =>
      rcases hbecome hget with ⟨rfl, hafter⟩ | hsame
      · split at hafter <;> cases hafter
      · exact .inr (.inl hsame)
    | checkingFlag =>
      rcases hbecome hget with ⟨rfl, hafter⟩ | hsame
      · split at hafter <;> cases hafter
      · exact .inr (.inl hsame)
    | swapping =>
      rcases hbecome hget with ⟨rfl, hafter⟩ | hsame
      · cases hafter
      · exact .inr (.inl hsame)
    | admitted method isFinal =>
      have hget : (world.become moved none world.session).activities.get ticket =
        some (.handshake handshake) := hget
      rcases hbecome hget with ⟨rfl, hafter⟩ | hsame
      · cases hafter
      · exact .inr (.inl hsame)

theorem closed_step (h : Tracked world) (hstep : step world event = some next)
    (hphase : next.session.state.phase = .uninitialized) : next.isNegotiated = false := by
  have hbefore : world.session.state.phase = .uninitialized := by
    by_contra hopen
    exact (extends_step hstep).opened hopen hphase
  have hclosed := h.closed hbefore
  cases event with
  | frontDoor | initializedNotification =>
    cases hstep
    exact hclosed
  | openPreinitialized | restore _ _ _ =>
    cases hstep
    cases hphase
  | initializeRequest support params =>
    simp only [step] at hstep
    split at hstep <;> exact Option.some.inj hstep ▸ hclosed
  | request method isFinal =>
    simp only [step] at hstep
    split at hstep <;> exact Option.some.inj hstep ▸ hclosed
  | advance ticket =>
    obtain ⟨activity, hget, rfl⟩ := Option.map_eq_some_iff.1 hstep
    cases activity with
    | handshake handshake =>
      exact absurd hphase (Handshake.opened_write (h.kept ticket handshake hget))
    | notified | checkingFlag | swapping | admitted _ _ => exact hclosed

theorem numbered_step (h : world.activities.Numbered) (hstep : step world event = some next) :
    next.activities.Numbered := by
  cases event with
  | frontDoor | openPreinitialized | restore _ _ _ => exact Option.some.inj hstep ▸ h
  | initializeRequest support params =>
    simp only [step] at hstep
    split at hstep
    next => exact Option.some.inj hstep ▸ h
    next => exact Option.some.inj hstep ▸ h.start _
  | initializedNotification => exact Option.some.inj hstep ▸ h.start _
  | request method isFinal =>
    simp only [step] at hstep
    split at hstep
    next => exact Option.some.inj hstep ▸ h.start _
    next => exact Option.some.inj hstep ▸ h
  | advance ticket =>
    obtain ⟨activity, hget, rfl⟩ := Option.map_eq_some_iff.1 hstep
    have hbecome : ∀ (following : Option Activity) (session : LegacySession),
        (world.become ticket following session).activities.Numbered := by
      intro following session
      cases following with
      | none => exact h.finish ticket
      | some following => exact h.become hget following
    cases activity with
    | handshake handshake => exact hbecome _ _
    | notified => exact hbecome _ _
    | checkingFlag => exact hbecome _ _
    | swapping => exact hbecome _ _
    | admitted method isFinal => exact hbecome none world.session

theorem tracked_step (h : Tracked world) (hstep : step world event = some next) :
    Tracked next where
  numbered := numbered_step h.numbered hstep
  kept ticket handshake hget := by
    rcases handshake_of_step hstep hget with hpoint | hold | ⟨before, rfl, hold, hafter⟩
    · exact Handshake.kept_of_phase hpoint _
    · exact (h.kept ticket handshake hold).extends (extends_step hstep)
    · simp only [step, hold, Option.map_some, Option.some.injEq] at hstep
      exact hstep ▸ ((h.kept ticket before hold).after hafter).1
  closed := closed_step h hstep

theorem get_of_step {activity : Activity} (h : Tracked world) (hstep : step world event = some next)
    (hget : world.activities.get ticket = some activity) (hother : event ≠ .advance ticket) :
    next.activities.get ticket = some activity := by
  have hstart : ∀ started, (world.activities.start started).get ticket = some activity := by
    intro started
    rw [get_start_eq_ite, if_neg (h.numbered ticket activity hget).ne]
    exact hget
  cases event with
  | frontDoor | openPreinitialized | restore _ _ _ => exact Option.some.inj hstep ▸ hget
  | initializeRequest support params =>
    simp only [step] at hstep
    split at hstep
    next => exact Option.some.inj hstep ▸ hget
    next => exact Option.some.inj hstep ▸ hstart _
  | initializedNotification => exact Option.some.inj hstep ▸ hstart _
  | request method isFinal =>
    simp only [step] at hstep
    split at hstep
    next => exact Option.some.inj hstep ▸ hstart _
    next => exact Option.some.inj hstep ▸ hget
  | advance moved =>
    obtain ⟨going, -, rfl⟩ := Option.map_eq_some_iff.1 hstep
    have hne : ticket ≠ moved := by
      rintro rfl
      exact hother rfl
    have hbecome : ∀ (following : Option Activity) (session : LegacySession),
        (world.become moved following session).activities.get ticket = some activity := by
      intro following session
      rw [get_become, if_neg hne]
      exact hget
    cases going with
    | handshake handshake => exact hbecome _ _
    | notified => exact hbecome _ _
    | checkingFlag => exact hbecome _ _
    | swapping => exact hbecome _ _
    | admitted method isFinal => exact hbecome none world.session

theorem preinitialized_step (h : world.preinitialized = true) (hstep : step world event = some next)
    : next.preinitialized = true := by
  cases event with
  | frontDoor | initializedNotification => exact Option.some.inj hstep ▸ h
  | openPreinitialized | restore _ _ _ =>
    cases hstep
    rfl
  | initializeRequest support params =>
    simp only [step] at hstep
    split at hstep <;> exact Option.some.inj hstep ▸ h
  | request method isFinal =>
    simp only [step] at hstep
    split at hstep <;> exact Option.some.inj hstep ▸ h
  | advance ticket =>
    obtain ⟨activity, -, rfl⟩ := Option.map_eq_some_iff.1 hstep
    cases activity <;> exact h

theorem negotiated_mono (h : world.isNegotiated = true) (hstep : step world event = some next) :
    next.isNegotiated = true := by
  unfold World.isNegotiated at h ⊢
  rw [Bool.or_eq_true] at h ⊢
  exact h.imp (preinitialized_step · hstep) (extends_step hstep).recorded

theorem recording_step {handshake : Handshake} (h : Tracked world)
    (hget : world.activities.get ticket = some (.handshake handshake))
    (hrecording : handshake.isRecording = true) (hstep : step world event = some next) :
    next.isNegotiated = true ∨ ∃ ticket handshake,
      next.activities.get ticket = some (.handshake handshake) ∧ handshake.isRecording = true := by
  by_cases hother : event = .advance ticket
  · subst hother
    simp only [step, hget, Option.map_some, Option.some.injEq] at hstep
    subst hstep
    cases hafter : handshake.after with
    | none =>
      refine .inl (Bool.or_eq_true _ _ ▸ .inr ?_)
      exact (h.kept ticket handshake hget).recorded hafter
    | some later =>
      refine .inr ⟨ticket, later, ?_, ((h.kept ticket handshake hget).after hafter).2⟩
      simp only [World.advance, get_become, hafter, if_true, Option.map_some]
  · exact .inr ⟨ticket, handshake, get_of_step h hstep hget hother, hrecording⟩

theorem opened_step (htracked : Tracked world) (h : Sound world) (hmeets : Meets world event)
    (hstep : step world event = some next) (hopen : next.session.state.phase ≠ .uninitialized) :
    next.isNegotiated = true ∨ ∃ ticket handshake,
      next.activities.get ticket = some (.handshake handshake) ∧
        handshake.isRecording = true := by
  by_cases hphase : world.session.state.phase = .uninitialized
  · cases event with
    | frontDoor | initializedNotification =>
      cases hstep
      exact absurd hphase hopen
    | openPreinitialized | restore _ _ _ =>
      cases hstep
      exact .inl rfl
    | initializeRequest support params =>
      simp only [step] at hstep
      split at hstep
      all_goals
        cases hstep
        exact absurd hphase hopen
    | request method isFinal =>
      simp only [step] at hstep
      split at hstep
      all_goals
        cases hstep
        exact absurd hphase hopen
    | advance ticket =>
      obtain ⟨activity, hget, rfl⟩ := Option.map_eq_some_iff.1 hstep
      cases activity with
      | handshake handshake =>
        -- only the first write of a handshake finds the session in its first phase
        have hkept := htracked.kept ticket handshake hget
        cases hpoint : handshake.point with
        | phase =>
          refine .inr ⟨ticket, { handshake with point := .clientInfo }, ?_, rfl⟩
          simp only [World.advance, get_become, Handshake.after, hpoint, if_true,
            Option.map_some]
        | clientInfo | capabilities | extensions =>
          exact absurd hphase (hkept.opened (by simp [Handshake.isRecording, hpoint]))
      | notified =>
        refine absurd ?_ hopen
        simp [World.advance, World.become, SessionState.compareExchange, hphase]
      | checkingFlag => exact absurd hphase hopen
      | swapping => exact absurd hphase (hmeets _ hget rfl)
      | admitted method isFinal => exact absurd hphase hopen
  · rcases h.opened hphase with hnegotiated | ⟨ticket, handshake, hget, hrecording⟩
    · exact .inl (negotiated_mono hnegotiated hstep)
    · exact recording_step htracked hget hrecording hstep

variable {method : String}

theorem admitted_of_step (hstep : step world event = some next)
    (hget : next.activities.get ticket = some (.admitted method false)) :
    world.activities.get ticket = some (.admitted method false) ∨
      event = .request method false ∧ isRequestAllowed world.session.state.phase method = true := by
  have hstart : ∀ {activities : Pool Activity} {started : Activity},
      (activities.start started).get ticket = some (.admitted method false) →
        started = .admitted method false ∨
          activities.get ticket = some (.admitted method false) := by
    intro activities started hget
    rw [get_start_eq_ite] at hget
    split at hget
    next => exact .inl (Option.some.inj hget)
    next => exact .inr hget
  cases event with
  | frontDoor | openPreinitialized | restore _ _ _ =>
    cases hstep
    exact .inl hget
  | initializeRequest support params =>
    simp only [step] at hstep
    split at hstep
    next => exact .inl (Option.some.inj hstep ▸ hget)
    next =>
      cases hstep
      rcases hstart hget with hstarted | hold
      · cases hstarted
      · exact .inl hold
  | initializedNotification =>
    cases hstep
    rcases hstart hget with hstarted | hold
    · cases hstarted
    · exact .inl hold
  | request asked isFinal =>
    simp only [step] at hstep
    split at hstep
    next hallowed =>
      cases hstep
      rcases hstart hget with hstarted | hold
      · cases hstarted
        exact .inr ⟨rfl, by simpa using hallowed⟩
      · exact .inl hold
    next => exact .inl (Option.some.inj hstep ▸ hget)
  | advance moved =>
    obtain ⟨activity, -, rfl⟩ := Option.map_eq_some_iff.1 hstep
    have hbecome : ∀ (following : Option Activity) (session : LegacySession),
        (world.become moved following session).activities.get ticket =
          some (.admitted method false) →
        following = some (.admitted method false) ∨
          world.activities.get ticket = some (.admitted method false) := by
      intro following session hget
      rw [get_become] at hget
      split at hget
      next => exact .inl hget
      next => exact .inr hget
    cases activity with
    | handshake before =>
      rcases hbecome _ _ hget with hafter | hsame
      · obtain ⟨later, -, heq⟩ := Option.map_eq_some_iff.1 hafter
        cases heq
      · exact .inl hsame
    | notified =>
      rcases hbecome _ _ hget with hafter | hsame
      · split at hafter <;> cases hafter
      · exact .inl hsame
    | checkingFlag =>
      rcases hbecome _ _ hget with hafter | hsame
      · split at hafter <;> cases hafter
      · exact .inl hsame
    | swapping =>
      rcases hbecome _ _ hget with hafter | hsame
      · cases hafter
      · exact .inl hsame
    | admitted other isFinal =>
      rcases hbecome none world.session hget with hafter | hsame
      · cases hafter
      · exact .inl hsame

theorem served_of_step {served : Served} (hstep : step world event = some next)
    (hmem : served ∈ next.served) :
    served ∈ world.served ∨ ∃ ticket method isFinal, event = .advance ticket ∧
      world.activities.get ticket = some (.admitted method isFinal) ∧
        served = ⟨method, isFinal, world.session, world.preinitialized⟩ := by
  cases event with
  | frontDoor | initializedNotification | openPreinitialized | restore _ _ _ =>
    cases hstep
    exact .inl hmem
  | initializeRequest support params =>
    simp only [step] at hstep
    split at hstep
    all_goals
      cases hstep
      exact .inl hmem
  | request method isFinal =>
    simp only [step] at hstep
    split at hstep
    all_goals
      cases hstep
      exact .inl hmem
  | advance ticket =>
    obtain ⟨activity, hget, rfl⟩ := Option.map_eq_some_iff.1 hstep
    cases activity with
    | admitted method isFinal =>
      rcases List.mem_cons.1 hmem with rfl | hold
      · exact .inr ⟨ticket, method, isFinal, rfl, hget, rfl⟩
      · exact .inl hold
    | handshake handshake => exact .inl hmem
    | notified => exact .inl hmem
    | checkingFlag => exact .inl hmem
    | swapping => exact .inl hmem

theorem sound_step (htracked : Tracked world) (h : Sound world) (hmeets : Meets world event)
    (hstep : step world event = some next) : Sound next where
  opened := opened_step htracked h hmeets hstep
  admitted ticket method hget hruns := by
    rcases admitted_of_step hstep hget with hold | ⟨rfl, hallowed⟩
    · exact negotiated_mono (h.admitted ticket method hold hruns) hstep
    · have hopen : world.session.state.phase ≠ .uninitialized := by
        intro hphase
        rw [hphase] at hallowed
        simp [runsHandler, hallowed] at hruns
      refine negotiated_mono ?_ hstep
      rcases hmeets hruns hopen with hnegotiated | hquiet
      · exact hnegotiated
      · refine (h.opened hopen).resolve_right ?_
        rintro ⟨other, handshake, hother, hrecording⟩
        have hcontra := holds_of_not_any hquiet other _ hother
        simp [hrecording] at hcontra
  negotiated served hmem hlegacy hruns := by
    rcases served_of_step hstep hmem with hold | ⟨ticket, method, isFinal, rfl, hget, rfl⟩
    · exact h.negotiated served hold hlegacy hruns
    · obtain rfl : isFinal = false := hlegacy
      have hnegotiated := h.admitted ticket method hget hruns
      simpa [World.isNegotiated] using hnegotiated

/-! ## What breaks it -/

structure Exposed (world : World) (ticket : ℕ) (method : String) : Prop where
  admitted : world.activities.get ticket = some (.admitted method false)
  runs : runsHandler method = true
  closed : world.isNegotiated = false

theorem Exposed.breaks (h : Exposed world ticket method) :
    ¬ Throughout step Negotiated world [.advance ticket] := by
  rintro ⟨-, hafter⟩
  simp only [step, h.admitted, Option.map_some] at hafter
  have hnegotiated : Negotiated (world.advance ticket (.admitted method false)) := hafter
  have hserved := hnegotiated ⟨method, false, world.session, world.preinitialized⟩
    List.mem_cons_self rfl h.runs
  have hopen := h.closed
  simp only [World.isNegotiated, Bool.or_eq_false_iff] at hopen
  simp [hopen] at hserved

theorem exposed_request (hphase : world.session.state.phase ≠ .uninitialized)
    (hruns : runsHandler method = true) (hclosed : world.isNegotiated = false) :
    ∃ next, step world (.request method false) = some next ∧
      Exposed next world.activities.next method := by
  have hallowed : isRequestAllowed world.session.state.phase method = true := by
    cases hheld : world.session.state.phase with
    | uninitialized => exact absurd hheld hphase
    | initializing | initialized => rfl
  refine ⟨{ world with activities := world.activities.start (.admitted method false) }, ?_, ?_⟩
  · simp [step, hallowed]
  · exact ⟨get_start_self _ _, hruns, hclosed⟩

theorem breaks_of_not_meets (htracked : Tracked world) (hstep : step world event = some next)
    (hmeets : ¬ Meets world event) : ∃ rest, ¬ Throughout step Negotiated next rest := by
  cases event with
  | request method isFinal =>
    cases isFinal with
    | true => exact absurd trivial hmeets
    | false =>
      simp only [Meets, not_forall, not_or, Bool.not_eq_true] at hmeets
      obtain ⟨hruns, hphase, hclosed, -⟩ := hmeets
      obtain ⟨exposed, hlet, hexposed⟩ := exposed_request hphase hruns hclosed
      obtain rfl := Option.some.inj (hlet.symm.trans hstep)
      exact ⟨_, hexposed.breaks⟩
  | advance ticket =>
    simp only [Meets, not_forall, not_not] at hmeets
    obtain ⟨activity, hget, rfl, hphase⟩ := hmeets
    simp only [step, hget, Option.map_some, Option.some.injEq] at hstep
    have hopened : next.session.state.phase ≠ .uninitialized := by
      subst hstep
      simp [World.advance, World.become, SessionState.compareExchange, hphase]
    have hclosed : next.isNegotiated = false := hstep ▸ htracked.closed hphase
    obtain ⟨exposed, hlet, hexposed⟩ :=
      exposed_request hopened (show runsHandler "tools/call" = true by decide) hclosed
    refine ⟨[.request "tools/call" false, .advance next.activities.next], ?_⟩
    rintro ⟨-, hafter⟩
    rw [hlet] at hafter
    exact hexposed.breaks hafter
  | _ => exact absurd trivial hmeets

/-! ## Runs -/

theorem tracked_new : Tracked {} where
  numbered := numbered_empty
  kept ticket handshake hget := by simp [Pool.get] at hget
  closed _ := rfl

theorem sound_new : Sound {} where
  opened hopen := absurd rfl hopen
  admitted ticket method hget := by simp [Pool.get] at hget
  negotiated served hmem := by cases hmem

/-- The phase of a session never moves backwards. In a run whose steps meet the condition, no
handler is started for a request without the metadata of the final revision before its client is on
record; and a step against the condition can be followed by one that is. -/
theorem negotiated_before_handlers (events : List Event) :
    (∀ world event next, step world event = some next →
        world.session.state.phase.rank ≤ next.session.state.phase.rank) ∧
      (Along step Meets {} events → Throughout step Negotiated {} events) ∧
      ∀ world event next, run step {} events = some world →
        step world event = some next → ¬ Meets world event →
          ∃ rest, ¬ Throughout step Negotiated next rest := by
  refine ⟨fun _ _ _ hstep => (extends_step hstep).phase, ?_, ?_⟩
  · intro hmeets
    have hsound := throughout_of_along (I := fun world => Tracked world ∧ Sound world)
      (fun _ _ _ h hcondition hstep =>
        ⟨tracked_step h.1 hstep, sound_step h.1 h.2 hcondition hstep⟩)
      ⟨tracked_new, sound_new⟩ hmeets
    exact hsound.mono fun _ h => h.2.negotiated
  · intro world event next hrun hstep hmeets
    refine breaks_of_not_meets ?_ hstep hmeets
    exact run_invariant (fun _ _ _ h hstep => tracked_step h hstep) tracked_new hrun

/-! ## Sessions that are opened too early -/

/-- A client of the first `initialize` lifecycle. -/
def legacyParams : InitializeParams where
  protocolVersion := "2025-11-25"
  capabilities := {}
  clientInfo := { name := "client", version := "1.0" }

/-- The versions of a server that has no `initialize`. -/
def finalOnly : ProtocolSupport where
  versions := ["2026-07-28"]
  nonempty := by decide

/-- A session created for an `initialize` that fails, then an `initialized` notification and a tool
call. -/
def failedEvents : List Event :=
  [.frontDoor, .initializeRequest (some finalOnly) legacyParams, .initializedNotification,
    .advance 0, .advance 0, .advance 0, .request "tools/call" false, .advance 1]

/-- A tool call beside an `initialize` that has marked the session and recorded nothing yet. -/
def concurrentEvents : List Event :=
  [.initializeRequest none legacyParams, .advance 0, .request "tools/call" false, .advance 1]

/-- The handler of a tool runs on a session whose `initialize` has failed, and on one whose
`initialize` has not recorded its client yet. -/
theorem handler_before_negotiation :
    (∃ world, run step {} failedEvents = some world ∧ ¬ Negotiated world) ∧
      ∃ world, run step {} concurrentEvents = some world ∧ ¬ Negotiated world := by
  have hbroken : ∀ world : World, ∀ served : Served, served ∈ world.served →
      served.isFinal = false → served.method = "tools/call" → served.preinitialized = false →
        served.session.recorded = false → ¬ Negotiated world := by
    intro world served hmem hlegacy hmethod hclosed hnothing hnegotiated
    have hruns : runsHandler served.method = true := by
      rw [hmethod]
      decide
    rcases hnegotiated served hmem hlegacy hruns with hopen | hrecorded
    · simp [hclosed] at hopen
    · simp [hnothing] at hrecorded
  exact ⟨⟨_, rfl, hbroken _ _ List.mem_cons_self rfl rfl rfl rfl⟩,
    ⟨_, rfl, hbroken _ _ List.mem_cons_self rfl rfl rfl rfl⟩⟩

/-! ## Notifications that overtake their `initialize` -/

/-- An `initialize` marks the session between the two exchanges of the notification. -/
def Overtaken (ticket : ℕ) (world : World) : Event → Prop
  | .advance other =>
    world.session.state.phase = .uninitialized ∧
      (∃ handshake, world.activities.get other = some (.handshake handshake) ∧
        handshake.point = .phase) ∧
          (world.activities.get ticket = some .checkingFlag ∨
            world.activities.get ticket = some .swapping)
  | _ => False

theorem state_of_step (hstep : step world event = some next) :
    (world.session.state.handshakeStarted = true →
        next.session.state.handshakeStarted = true) ∧
      (next.session.state.phase = world.session.state.phase ∨
        next.session.state.phase = .initialized ∨
          ∃ other handshake, event = .advance other ∧
            world.activities.get other = some (.handshake handshake) ∧
              handshake.point = .phase) := by
  cases event with
  | frontDoor =>
    cases hstep
    exact ⟨fun _ => rfl, .inl rfl⟩
  | openPreinitialized | restore _ _ _ =>
    cases hstep
    exact ⟨fun _ => rfl, .inr (.inl rfl)⟩
  | initializeRequest support params =>
    simp only [step] at hstep
    split at hstep <;> exact Option.some.inj hstep ▸ ⟨id, .inl rfl⟩
  | initializedNotification => exact Option.some.inj hstep ▸ ⟨id, .inl rfl⟩
  | request method isFinal =>
    simp only [step] at hstep
    split at hstep <;> exact Option.some.inj hstep ▸ ⟨id, .inl rfl⟩
  | advance other =>
    obtain ⟨activity, hget, rfl⟩ := Option.map_eq_some_iff.1 hstep
    cases activity with
    | handshake handshake =>
      cases hpoint : handshake.point with
      | phase =>
        refine ⟨?_, .inr (.inr ⟨other, handshake, rfl, hget, hpoint⟩)⟩
        simp only [World.advance, World.become, Handshake.write, hpoint,
          SessionState.markInitializing, SessionState.compareExchange]
        split <;> exact fun _ => rfl
      | _ => simp [World.advance, World.become, Handshake.write, hpoint]
    | notified | swapping =>
      simp only [World.advance, World.become, SessionState.compareExchange]
      split <;> simp
    | checkingFlag | admitted _ _ => exact ⟨id, .inl rfl⟩

/-- Where the notification stands while the session is not opened. -/
def Opening (ticket : ℕ) (world : World) : Prop :=
  world.session.state.handshakeStarted = true ∧
    (world.session.state.phase = .initialized ∨ world.activities.get ticket = some .notified ∨
      (world.session.state.phase = .uninitialized ∧
        (world.activities.get ticket = some .checkingFlag ∨
          world.activities.get ticket = some .swapping)))

theorem opening_step (htracked : Tracked world) (h : Opening ticket world)
    (halone : ¬Overtaken ticket world event) (hstep : step world event = some next) :
    Opening ticket next := by
  obtain ⟨hstarted, hphase⟩ := state_of_step hstep
  refine ⟨hstarted h.1, ?_⟩
  rcases h.2 with hopen | hget | ⟨hclosed, hget⟩
  · have hrank := (extends_step hstep).phase
    rw [hopen] at hrank
    revert hrank
    cases next.session.state.phase <;> simp [SessionPhase.rank]
  · by_cases hother : event = .advance ticket
    · subst hother
      simp only [step, hget, Option.map_some, Option.some.injEq] at hstep
      subst hstep
      cases hbefore : world.session.state.phase <;>
        simp [World.advance, World.become, get_become_self, SessionState.compareExchange, hbefore]
    · exact .inr (.inl (get_of_step htracked hstep hget hother))
  · by_cases hother : event = .advance ticket
    · subst hother
      rcases hget with hget | hget <;>
        simp only [step, hget, Option.map_some, Option.some.injEq] at hstep <;> subst hstep
      · simp [World.advance, World.become, get_become_self, hclosed, h.1]
      · simp [World.advance, World.become, SessionState.compareExchange, hclosed]
    · rcases hphase with hsame | hopened | ⟨moved, handshake, rfl, hmoved⟩
      · exact .inr (.inr ⟨hsame.trans hclosed, hget.imp
          (get_of_step htracked hstep · hother) (get_of_step htracked hstep · hother)⟩)
      · exact .inl hopened
      · exact absurd ⟨hclosed, ⟨handshake, hmoved⟩, hget⟩ halone

/-- From any session whose handshake has started, an `initialized` notification that is processed
opens the session, also ahead of its `initialize`, unless an `initialize` marks the session between
the two exchanges of the notification. -/
theorem notification_opens_session {before events : List Event} {final : World}
    (hbefore : run step {} before = some world)
    (hstarted : world.session.state.handshakeStarted = true)
    (hget : world.activities.get ticket = some .notified)
    (halone : Along step (fun world event => ¬Overtaken ticket world event) world events)
    (hrun : run step world events = some final)
    (hdone : final.activities.get ticket = none) :
    final.session.state.phase = .initialized := by
  have htracked := run_invariant (fun _ _ _ h hstep => tracked_step h hstep) tracked_new hbefore
  have hopening := along_invariant (I := fun world => Tracked world ∧ Opening ticket world)
    (fun _ _ _ h halone hstep => ⟨tracked_step h.1 hstep, opening_step h.1 h.2 halone hstep⟩)
    ⟨htracked, hstarted, .inr (.inl hget)⟩ halone hrun
  simpa [hdone] using hopening.2.2

/-- A notification that is processed before the `initialize` its session was created for. -/
theorem notification_opens_session_early :
    ∃ final, run step {} [.frontDoor, .initializedNotification, .advance 0, .advance 0,
      .advance 0] = some final ∧ final.session.state.phase = .initialized := by
  have hown : ∀ world, ¬Overtaken 0 world (.advance 0) := by
    rintro world ⟨-, ⟨handshake, hget, -⟩, hbetween⟩
    simp [hget] at hbetween
  exact ⟨_, rfl, @notification_opens_session _ 0 [.frontDoor, .initializedNotification]
    [.advance 0, .advance 0, .advance 0] _ rfl rfl rfl ⟨hown _, hown _, hown _, trivial⟩ rfl rfl⟩

end SessionPhases

end TowerMcp
