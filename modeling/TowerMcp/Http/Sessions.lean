import TowerMcp.Http.EventIds
import TowerMcp.Lib.Pool
import TowerMcp.Store.Sessions
import TowerMcp.Task.Record

/-!
# The registry of HTTP sessions

The registry keeps the live sessions in a map under a lock and their records in a session store it
reaches by awaiting. Its operations run side by side: a call in flight waits for the store between
its locked sections, and `resume` takes it from one such point to the next. The lock is a reader
writer lock, so a section that writes the map waits for the calls that still hold it for reading,
which are the refreshes of `get`.
-/

namespace TowerMcp

open Fallible

inductive SessionPrincipal where
  | resolved (principal : Option String)
  | invalid
deriving DecidableEq

/-- Whether a request may use a session bound to `bound`. -/
def SessionPrincipal.matchesBound (self : SessionPrincipal) (bound : Option String) : Bool :=
  match self with
  | .resolved principal => ownerMatches bound principal
  | .invalid => false

theorem SessionPrincipal.matches_bound_iff {self : SessionPrincipal} {bound : Option String} :
    self.matchesBound bound = true ↔ self = .resolved bound := by
  cases self with
  | resolved principal =>
    show (bound == principal) = true ↔ _
    rw [beq_iff_eq, SessionPrincipal.resolved.injEq]
    exact eq_comm
  | invalid => simp [matchesBound]

structure SessionConfig where
  ttl : ℕ := 1800
  maxSessions : Option ℕ := none

structure SessionCell where
  protocolVersion : String := "2025-11-25"
  clientInfo : Option Json := none
  clientCapabilities : Option Json := none
  lastAccessed : ℕ := 0
  eventCounter : ℕ := 0

/-- A session as its holders share it: the fields that never change and the number of the cell that
holds the others. -/
structure Session where
  cell : ℕ
  id : String
  principal : Option String
  createdAt : ℕ
deriving DecidableEq

/-- The registry: the live sessions, the stores it shares with other instances, and every session
built so far, newest first, with the cells of their changing fields. -/
structure SessionRegistry where
  config : SessionConfig := {}
  autoReinit : Bool := false
  sessions : Registry Session Session.id := .empty
  persistent : MemorySessionStore := .empty
  events : MemoryEventStore := {}
  built : List Session := []
  cells : ℕ → SessionCell := fun _ => {}

namespace SessionRegistry

def recordFor (registry : SessionRegistry) (session : Session) : SessionRecord :=
  let cell := registry.cells session.cell
  { id := session.id
    protocolVersion := cell.protocolVersion
    clientInfo := cell.clientInfo
    clientCapabilities := cell.clientCapabilities
    createdAt := session.createdAt
    lastAccessed := cell.lastAccessed
    expiresAt := cell.lastAccessed + registry.config.ttl
    principal := session.principal }

def touch (registry : SessionRegistry) (session : Session) (now : ℕ) : SessionRegistry :=
  { registry with
    cells := Function.update registry.cells session.cell
      { registry.cells session.cell with lastAccessed := now } }

def isExpired (registry : SessionRegistry) (session : Session) (now : ℕ) : Bool :=
  decide (now - (registry.cells session.cell).lastAccessed > registry.config.ttl)

def atCapacity (registry : SessionRegistry) : Bool :=
  match registry.config.maxSessions with
  | some max => decide (registry.sessions.list.length ≥ max)
  | none => false

def newSession (registry : SessionRegistry) (id : String) (principal : Option String) (now : ℕ) :
    Session :=
  { cell := registry.built.length, id, principal, createdAt := now }

def insert (registry : SessionRegistry) (session : Session) (contents : SessionCell) :
    SessionRegistry :=
  { registry with
    sessions := registry.sessions.register session
    built := session :: registry.built
    cells := Function.update registry.cells session.cell contents }

def syntheticRecord (registry : SessionRegistry) (id : String) (principal : Option String)
    (now : ℕ) : SessionRecord :=
  { id
    protocolVersion := "2025-11-25"
    clientInfo := some (.object
      [("name", .string "auto-recovered"), ("version", .string "unknown")])
    clientCapabilities := some (.object [])
    createdAt := now
    lastAccessed := now
    expiresAt := now + registry.config.ttl
    principal }

inductive Restored where
  | full
  | existing (session : Session)
  | inserted (session : Session)

def restoreSection (registry : SessionRegistry) (record : SessionRecord) (now : ℕ) :
    Restored × SessionRegistry :=
  if registry.atCapacity then (.full, registry)
  else
    match registry.sessions.get record.id with
    | some existing => (.existing existing, registry.touch existing now)
    | none =>
      let session := registry.newSession record.id record.principal now
      (.inserted session, registry.insert session
        { protocolVersion := record.protocolVersion
          clientInfo := record.clientInfo
          clientCapabilities := record.clientCapabilities
          lastAccessed := now })

/-- A request for a session. The flag records whether the session had been removed for good when
the request began. -/
structure Asker where
  id : String
  principal : SessionPrincipal
  late : Bool

/-- A call in flight, by the point it waits at. A refresh holds the lock for reading. A restore
waits for the lock; `retry` says that a full registry sends it on to the reinitialization. A
deletion goes on to the identifiers of `rest`; `removal` tells a removal from a cleanup. -/
inductive Call where
  | refreshing (asker : Asker) (session : Session) (record : SessionRecord)
  | loading (asker : Asker)
  | restoring (asker : Asker) (record : SessionRecord) (retry : Bool)
  | seeding (asker : Asker) (record : SessionRecord) (session : Session)
  | resaving (asker : Asker) (record : SessionRecord) (session : Session)
  | reinitializing (asker : Asker) (record : SessionRecord)
  | loadingStored (id : String) (principal : SessionPrincipal)
  | droppingStored (id : String) (principal : SessionPrincipal) (bound : Option String)
  | deleting (id : String) (rest : List String) (removal : Bool)
  | purging (id : String) (rest : List String) (removal : Bool)
  | persisting (session : Session) (record : SessionRecord)
  | saving (record : SessionRecord)

def Call.isRefreshing : Call → Bool
  | .refreshing .. => true
  | _ => false

inductive Answer where
  | got (asker : Asker) (session : Option Session)
  | removed (id : String) (done : Bool)
  | created (session : Option Session)
  | saved
  | cleaned

/-- How what a call waits for ends: the readings of the clock, whether a read fails, how a write
ends, the identifiers a create draws and the one a failed create leaves in its record. -/
structure Reply where
  now : ℕ := 0
  checked : ℕ := 0
  read : Option SessionStoreError := none
  write : Outcome SessionStoreError := .done
  replay : Option EventStoreError := none
  purge : Outcome EventStoreError := .done
  generated : List String := []
  renamed : Option String := none

/-- A registry with its calls in flight and what was answered, newest first. The last three fields
record the history of removals, and no operation reads them: the identifiers whose removal answered
that it was done, with the next ticket at that point, those a removal has taken out of the live
sessions, and those a removal has deleted from the store. -/
structure World where
  registry : SessionRegistry
  calls : Pool Call := {}
  answers : List Answer := []
  ended : List (String × ℕ) := []
  removed : List String := []
  deleted : List String := []

namespace World

def readLocked (world : World) : Bool :=
  world.calls.any Call.isRefreshing

def settled (world : World) (id : String) : Bool :=
  world.ended.any fun removal => decide (removal.1 = id) && world.calls.doneBelow removal.2

def answer (world : World) (reply : Answer) : World :=
  { world with answers := reply :: world.answers }

def start (world : World) (call : Call) : World :=
  { world with calls := world.calls.start call }

def become (world : World) (ticket : ℕ) (call : Call) : World :=
  { world with calls := world.calls.become ticket call }

def finish (world : World) (ticket : ℕ) (reply : Answer) : World :=
  { world with
    calls := world.calls.finish ticket
    answers := reply :: world.answers }

def persist (world : World) (write : Outcome SessionStoreError)
    (f : MemorySessionStore → MemorySessionStore) : World :=
  { world with
    registry := { world.registry with persistent := write.write f world.registry.persistent } }

def get (world : World) (id : String) (principal : SessionPrincipal) (now : ℕ) : World :=
  let asker : Asker := { id, principal, late := world.settled id }
  match world.registry.sessions.get id with
  | some session =>
    if principal.matchesBound session.principal then
      let touched := world.registry.touch session now
      { world with registry := touched }.start
        (.refreshing asker session (touched.recordFor session))
    else world.answer (.got asker none)
  | none => world.start (.loading asker)

def recover (world : World) (ticket : ℕ) (asker : Asker) (now : ℕ) : World :=
  if world.registry.autoReinit then
    match asker.principal with
    | .resolved bound =>
      world.become ticket
        (.reinitializing asker (world.registry.syntheticRecord asker.id bound now))
    | .invalid => world.finish ticket (.got asker none)
  else world.finish ticket (.got asker none)

def loaded (world : World) (ticket : ℕ) (asker : Asker) (reply : Reply) : World :=
  match reply.read with
  | some _ => world.recover ticket asker reply.now
  | none =>
    match MemorySessionStore.load world.registry.persistent asker.id reply.now with
    | none => world.recover ticket asker reply.now
    | some record =>
      if asker.principal.matchesBound record.principal then
        world.become ticket (.restoring asker record true)
      else world.finish ticket (.got asker none)

def restore (world : World) (ticket : ℕ) (asker : Asker) (record : SessionRecord) (retry : Bool)
    (now : ℕ) : World :=
  let (restored, registry) := world.registry.restoreSection record now
  let next := { world with registry }
  match restored with
  | .full => if retry then next.recover ticket asker now else next.finish ticket (.got asker none)
  | .existing session => next.finish ticket (.got asker (some session))
  | .inserted session => next.become ticket (.seeding asker record session)

def seed (world : World) (ticket : ℕ) (asker : Asker) (record : SessionRecord) (session : Session)
    (reply : Reply) : World :=
  let registry := world.registry
  let cells :=
    match reply.replay, seedCounter (registry.events.replayAfter record.id 0) with
    | none, some eventCounter =>
      Function.update registry.cells session.cell
        { registry.cells session.cell with eventCounter }
    | _, _ => registry.cells
  { world with registry := { registry with cells } }.become ticket
    (.resaving asker (record.touch registry.config.ttl reply.now) session)

def reinitialize (world : World) (ticket : ℕ) (asker : Asker) (record : SessionRecord)
    (reply : Reply) : Option World :=
  (MemorySessionStore.create world.registry.persistent record reply.generated).map
    fun (created, after) =>
      let left :=
        if reply.write.applies then created
        else { record with id := reply.renamed.getD record.id }
      (world.persist reply.write fun _ => after).become ticket (.restoring asker left false)

def unregister (world : World) (id : String) : World :=
  { world with
    registry := { world.registry with sessions := world.registry.sessions.unregister id }
    removed := id :: world.removed }

def remove (world : World) (id : String) : World :=
  match world.registry.sessions.get id with
  | some _ => (world.unregister id).start (.deleting id [] true)
  | none => world.answer (.removed id false)

def removeFor (world : World) (id : String) (principal : SessionPrincipal) : World :=
  match world.registry.sessions.get id with
  | some session =>
    if principal.matchesBound session.principal then
      (world.unregister id).start (.deleting id [] true)
    else world.answer (.removed id false)
  | none => world.start (.loadingStored id principal)

def loadedStored (world : World) (ticket : ℕ) (id : String) (principal : SessionPrincipal)
    (reply : Reply) : World :=
  match reply.read with
  | some _ => world.finish ticket (.removed id false)
  | none =>
    match MemorySessionStore.load world.registry.persistent id reply.now with
    | none => world.finish ticket (.removed id false)
    | some record =>
      if record.isExpired reply.checked then world.finish ticket (.removed id false)
      else if principal.matchesBound record.principal then
        world.become ticket (.droppingStored id principal record.principal)
      else world.finish ticket (.removed id false)

def dropStored (world : World) (ticket : ℕ) (id : String) (principal : SessionPrincipal) : World :=
  let dropped :=
    match world.registry.sessions.get id with
    | some session =>
      if principal.matchesBound session.principal then
        world.registry.sessions.unregister id
      else world.registry.sessions
    | none => world.registry.sessions
  { world with
    registry := { world.registry with sessions := dropped }
    removed := id :: world.removed }.become ticket (.deleting id [] true)

def delete (world : World) (ticket : ℕ) (id : String) (rest : List String) (removal : Bool)
    (write : Outcome SessionStoreError) : World :=
  { world.persist write (MemorySessionStore.delete · id) with
    deleted :=
      if removal && write.applies then id :: world.deleted else world.deleted }.become ticket
    (.purging id rest removal)

def purge (world : World) (ticket : ℕ) (id : String) (rest : List String) (removal : Bool)
    (write : Outcome EventStoreError) : World :=
  let purged :=
    { world with
      registry := { world.registry with
        events := write.write (·.purgeSession id) world.registry.events } }
  match rest with
  | following :: later => purged.become ticket (.deleting following later removal)
  | [] =>
    if removal then
      { purged with ended := (id, purged.calls.next) :: purged.ended }.finish ticket
        (.removed id true)
    else purged.finish ticket .cleaned

def create (world : World) (id : String) (principal : Option String) (now : ℕ) : World :=
  if world.registry.atCapacity then world.answer (.created none)
  else
    let session := world.registry.newSession id principal now
    let registry := world.registry.insert session { lastAccessed := now }
    { world with registry }.start (.persisting session (registry.recordFor session))

def persisted (world : World) (ticket : ℕ) (session : Session) (record : SessionRecord)
    (reply : Reply) : Option World :=
  (MemorySessionStore.create world.registry.persistent record reply.generated).map
    fun (_, after) =>
      (world.persist reply.write fun _ => after).finish ticket (.created (some session))

def saveRecord (world : World) (session : Session) : World :=
  world.start (.saving (world.registry.recordFor session))

def cleanupExpired (world : World) (now : ℕ) : World :=
  let registry := world.registry
  let expired := (registry.sessions.list.filter fun session => registry.isExpired session now).map
    (·.id)
  let cleaned :=
    { world with
      registry := { registry with
        sessions := registry.sessions.retain fun session => !registry.isExpired session now } }
  match expired with
  | id :: rest => cleaned.start (.deleting id rest false)
  | [] => cleaned.answer .cleaned

/-- A call in flight goes on when what it waits for ends. A section that writes the live sessions
waits for the calls that hold their lock for reading. -/
def resume (world : World) (ticket : ℕ) (reply : Reply) : Option World :=
  match world.calls.get ticket with
  | none => none
  | some (.refreshing asker session record) =>
    some ((world.persist reply.write (MemorySessionStore.save · record)).finish ticket
      (.got asker (some session)))
  | some (.loading asker) => some (world.loaded ticket asker reply)
  | some (.restoring asker record retry) =>
    if world.readLocked then none
    else some (world.restore ticket asker record retry reply.now)
  | some (.seeding asker record session) => some (world.seed ticket asker record session reply)
  | some (.resaving asker record session) =>
    some ((world.persist reply.write (MemorySessionStore.save · record)).finish ticket
      (.got asker (some session)))
  | some (.reinitializing asker record) => world.reinitialize ticket asker record reply
  | some (.loadingStored id principal) => some (world.loadedStored ticket id principal reply)
  | some (.droppingStored id principal _) =>
    if world.readLocked then none else some (world.dropStored ticket id principal)
  | some (.deleting id rest removal) => some (world.delete ticket id rest removal reply.write)
  | some (.purging id rest removal) => some (world.purge ticket id rest removal reply.purge)
  | some (.persisting session record) => world.persisted ticket session record reply
  | some (.saving record) =>
    some ((world.persist reply.write (MemorySessionStore.save · record)).finish ticket .saved)

end World

/-- What happens to a registry: an operation begins, a call in flight goes on or is dropped with the
request it serves, a handler updates the changing fields of a session, or another instance writes to
the shared stores. -/
inductive Event where
  | get (id : String) (principal : SessionPrincipal) (now : ℕ)
  | remove (id : String)
  | removeFor (id : String) (principal : SessionPrincipal)
  | create (id : String) (principal : Option String) (now : ℕ)
  | saveRecord (session : Session)
  | cleanupExpired (now : ℕ)
  | resume (ticket : ℕ) (reply : Reply)
  | abandon (ticket : ℕ)
  | update (cell : ℕ) (contents : SessionCell)
  | foreign (persistent : MemorySessionStore) (events : MemoryEventStore)

def step (world : World) : Event → Option World
  | .get id principal now => some (world.get id principal now)
  | .remove id => if world.readLocked then none else some (world.remove id)
  | .removeFor id principal => if world.readLocked then none else some (world.removeFor id principal)
  | .create id principal now =>
    if world.readLocked then none else some (world.create id principal now)
  | .saveRecord session =>
    if session ∈ world.registry.built then some (world.saveRecord session) else none
  | .cleanupExpired now => if world.readLocked then none else some (world.cleanupExpired now)
  | .resume ticket reply => world.resume ticket reply
  | .abandon ticket => some { world with calls := world.calls.finish ticket }
  | .update cell contents =>
    some { world with
      registry := { world.registry with
        cells := Function.update world.registry.cells cell contents } }
  | .foreign persistent events =>
    some { world with registry := { world.registry with persistent, events } }

def opened (config : SessionConfig) (autoReinit : Bool) (persistent : MemorySessionStore)
    (events : MemoryEventStore) : World :=
  { registry := { config, autoReinit, persistent, events } }

end SessionRegistry

end TowerMcp
