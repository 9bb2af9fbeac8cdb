import TowerMcp.Lib.Execution
import TowerMcp.Lib.Json
import TowerMcp.Lib.Pool

/-!
# The initialize lifecycle of a client

A client that is initialized may find its session expired. Each request that fails so recovers the
session: under the recovery lock it resets the transport, which fails what is in flight, and shakes
hands again; then it is sent once more. The calls of a client run side by side, and `resume` takes
one from a point where it waits to the next.
-/

namespace TowerMcp

/-- What the server answers to `initialize`. -/
structure InitializeResult where
  protocolVersion : String
  details : Json := .null

/-- Session protocol versions negotiable through `initialize` (newest first). -/
def supportedProtocolVersions : List String :=
  ["2025-11-25", "2025-06-18", "2025-03-26"]

theorem supported_protocol_versions_ne_nil : supportedProtocolVersions ≠ [] := by
  decide

def legacyInitializeVersion : String := "2024-11-05"

/-- Whether `initialize` may complete with the version the server selected. -/
def acceptsInitializeAnswer (support : List String) (version : String) : Bool :=
  if version = legacyInitializeVersion then decide ("2025-03-26" ∈ support)
  else decide (version ∈ supportedProtocolVersions) && decide (version ∈ support)

structure McpClient where
  protocolSupport : List String
  supportsSessionRecovery : Bool := true
  initialized : Bool := false
  serverInfo : Option InitializeResult := none
  initParams : Option (String × String) := none
  recoveryLock : Option ℕ := none

namespace McpClient

/-- Why a call shakes hands: for the first time, on behalf of the caller, or again, for a request
that failed on a session. -/
inductive Purpose where
  | first (wasInitialized : Bool) (name version : String)
  | again (failedOn : ℕ)

/-- A call in flight, by the point it waits at. Sessions are numbered by the recoveries completed
before them: a request records the one it was sent on, and a recovery the one its request failed on;
a request that is sent again records the latter too. A reset whose caller is gone is `strayReset`,
and a call that has failed is `returned`. -/
inductive Call where
  | request (retried : Option ℕ)
  | pending (retried : Option ℕ) (sentOn : ℕ)
  | contending (failedOn : ℕ)
  | reading (failedOn : ℕ)
  | resetting (failedOn : ℕ)
  | wasReset (failedOn : ℕ)
  | clearing (failedOn : ℕ)
  | strayReset (failedOn : ℕ)
  | greeting (purpose : Purpose)
  | awaiting (purpose : Purpose)
  | answered (purpose : Purpose) (result : InitializeResult)
  | recording (wasInitialized : Bool) (name version : String) (result : InitializeResult)
  | notifying (purpose : Purpose) (result : InitializeResult)
  | ending (purpose : Purpose)
  | returned

inductive Answer where
  | value (result : InitializeResult)
  | expired
  | failed

/-- How what a call waits for ends: the answer to a request, and whether a notification was
delivered. -/
structure Reply where
  answer : Answer := .failed
  delivered : Bool := true

/-- A reset of the transport: the session its caller failed on, the sessions whose recovery was
completed before, and the sessions the requests it failed were sent on. -/
structure Reset where
  failedOn : ℕ
  completed : List ℕ
  failing : List ℕ

/-- A client with its calls in flight. The last two fields record the recoveries that were completed,
by the session their request failed on, and the resets of the transport, newest first. -/
structure World where
  client : McpClient
  calls : Pool Call := {}
  completed : List ℕ := []
  resets : List Reset := []

def Call.holdsLock : Call → Bool
  | .reading _ | .resetting _ | .wasReset _ | .clearing _ => true
  | .greeting (.again _) | .awaiting (.again _) | .answered (.again _) _ | .notifying (.again _) _
  | .ending (.again _) => true
  | _ => false

def Call.sentOn : Call → Option ℕ
  | .pending _ sentOn => some sentOn
  | _ => none

namespace World

def recovered (world : World) : ℕ := world.completed.length

def become (world : World) (ticket : ℕ) (call : Call) : World :=
  { world with calls := world.calls.become ticket call }

def finish (world : World) (ticket : ℕ) (call : Call) : World :=
  { world with
    client :=
      { world.client with
        recoveryLock := if call.holdsLock then none else world.client.recoveryLock }
    calls := world.calls.finish ticket }

def failedHandshake : Purpose → Call
  | .first true _ _ => .returned
  | purpose => .ending purpose

def expired (client : McpClient) : Call → Call
  | .pending none sentOn =>
    if client.supportsSessionRecovery then .contending sentOn else .returned
  | .pending (some _) _ => .returned
  | .awaiting purpose => failedHandshake purpose
  | call => call

def expireAll (world : World) : World :=
  { world with calls := world.calls.map (expired world.client) }

def resetSession (world : World) (failedOn : ℕ) : World :=
  { world with
    resets :=
      { failedOn
        completed := world.completed
        failing := world.calls.calls.values.filterMap Call.sentOn } :: world.resets }.expireAll

def answerRequest (world : World) (ticket : ℕ) (retried : Option ℕ) (sentOn : ℕ) (answer : Answer) :
    World :=
  match answer with
  | .expired => world.become ticket (expired world.client (.pending retried sentOn))
  | _ => world.finish ticket (.pending retried sentOn)

/-- The answer to `initialize` has arrived. Only the first handshake checks the version. -/
def answerInitialize (world : World) (ticket : ℕ) (purpose : Purpose) (answer : Answer) : World :=
  match answer, purpose with
  | .value result, .first .. =>
    if acceptsInitializeAnswer world.client.protocolSupport result.protocolVersion then
      world.become ticket (.answered purpose result)
    else world.become ticket (failedHandshake purpose)
  | .value result, .again _ => world.become ticket (.answered purpose result)
  | _, _ => world.become ticket (failedHandshake purpose)

/-- Store the answer to `initialize`. -/
def storeAnswer (world : World) (ticket : ℕ) (purpose : Purpose) (result : InitializeResult) :
    World :=
  { world with client := { world.client with serverInfo := some result } }.become ticket <|
    match purpose with
    | .first wasInitialized name version => .recording wasInitialized name version result
    | .again _ => .notifying purpose result

/-- `notifications/initialized` was delivered or not. A handshake is completed by its delivery; a
request that recovered the session is then sent again. -/
def notified (world : World) (ticket : ℕ) (purpose : Purpose) (result : InitializeResult)
    (delivered : Bool) : World :=
  if delivered then
    let raised := { world with client := { world.client with initialized := true } }
    match purpose with
    | .first .. => raised.finish ticket (.notifying purpose result)
    | .again failedOn =>
      { raised with
        client := { raised.client with recoveryLock := none }
        completed := failedOn :: raised.completed }.become ticket (.request (some failedOn))
  else world.become ticket (failedHandshake purpose)

def resumeCall (world : World) (ticket : ℕ) (reply : Reply) : Call → Option World
  | .request retried => some (world.become ticket (.pending retried world.recovered))
  | .pending retried sentOn => some (world.answerRequest ticket retried sentOn reply.answer)
  | .contending failedOn =>
    match world.client.recoveryLock with
    | none =>
      some ({ world with
        client := { world.client with recoveryLock := some ticket } }.become ticket
          (.reading failedOn))
    | some _ => none
  | .reading failedOn =>
    match world.client.initParams with
    | some _ => some (world.become ticket (.resetting failedOn))
    | none => some (world.finish ticket (.reading failedOn))
  | .resetting failedOn => some ((world.resetSession failedOn).become ticket (.wasReset failedOn))
  | .wasReset failedOn =>
    some ({ world with client := { world.client with initialized := false } }.become ticket
      (.clearing failedOn))
  | .clearing failedOn =>
    some ({ world with client := { world.client with serverInfo := none } }.become ticket
      (.greeting (.again failedOn)))
  | .strayReset failedOn =>
    some ((world.resetSession failedOn).finish ticket (.strayReset failedOn))
  | .greeting purpose => some (world.become ticket (.awaiting purpose))
  | .awaiting purpose => some (world.answerInitialize ticket purpose reply.answer)
  | .answered purpose result => some (world.storeAnswer ticket purpose result)
  | .recording wasInitialized name version result =>
    some ({ world with client := { world.client with initParams := some (name, version) } }.become
      ticket (.notifying (.first wasInitialized name version) result))
  | .notifying purpose result => some (world.notified ticket purpose result reply.delivered)
  | .ending purpose => some (world.finish ticket (.ending purpose))
  | .returned => none

def abandonCall (world : World) (ticket : ℕ) : Call → World
  | .resetting failedOn =>
    (world.finish ticket (.resetting failedOn)).become ticket (.strayReset failedOn)
  | .strayReset _ => world
  | call => world.finish ticket call

end World

/-- What happens to a client: a request or an `initialize` begins, the server says that the session
has expired, a call goes on, or its caller goes away. -/
inductive Event where
  | sendRequest
  | beginInitialize (name version : String)
  | expire
  | resume (ticket : ℕ) (reply : Reply)
  | abandon (ticket : ℕ)

def step (world : World) : Event → Option World
  | .sendRequest => some { world with calls := world.calls.start (.request none) }
  | .beginInitialize name version =>
    some { world with
      calls := world.calls.start
        (.greeting (.first world.client.initialized name version)) }
  | .expire => some world.expireAll
  | .resume ticket reply => do world.resumeCall ticket reply (← world.calls.get ticket)
  | .abandon ticket => do
    let call ← world.calls.get ticket
    some (world.abandonCall ticket call)

def connected (protocolSupport : List String) (supportsSessionRecovery : Bool) : World :=
  { client := { protocolSupport, supportsSessionRecovery } }

end McpClient

end TowerMcp
