import TowerMcp.Router.Capability
import TowerMcp.Types.JsonRpc

/-!
# Requests in flight and log levels across sessions

Routers made by `with_fresh_session` share one `McpRouterInner`: the registry of requests in flight,
keyed by the identifier the client chose, and the minimum log level. Each has its own session state
and its own resource subscriptions. A `Server` is the shared part with the sessions over it and the
contexts that the handlers of the dispatched requests hold.
-/

namespace TowerMcp

inductive LogLevel where
  | emergency
  | alert
  | critical
  | error
  | warning
  | notice
  | info
  | debug
deriving DecidableEq

def LogLevel.rank : LogLevel → ℕ
  | .emergency => 0
  | .alert => 1
  | .critical => 2
  | .error => 3
  | .warning => 4
  | .notice => 5
  | .info => 6
  | .debug => 7

inductive Lifecycle where
  | legacy
  | final (logLevel : Option LogLevel)
deriving DecidableEq

abbrev DispatchId := ℕ

abbrev SessionId := ℕ

/-- What the handler of one dispatch holds: the session it serves, its cancellation token, and the
mark its transport reads to leave it unanswered, if it gave one. -/
structure DispatchContext where
  session : SessionId
  requestId : RequestId
  lifecycle : Lifecycle
  cancelled : Bool := false
  peerCancelled : Option Bool := none
deriving DecidableEq

def DispatchContext.cancel (context : DispatchContext) : DispatchContext :=
  { context with
    cancelled := true
    peerCancelled := context.peerCancelled.map fun _ => true }

structure LogMessage where
  dispatch : DispatchId
  level : LogLevel
  data : String
deriving DecidableEq

structure SessionRouter where
  session : SessionState := {}
  subscriptions : KeySet := ∅
  received : List LogMessage := []

/-- What all routers made from one share: the dispatches tracked under each request identifier, and
the minimum log level. -/
structure McpRouterInner where
  inFlight : FinMap RequestId (List DispatchId) := ∅
  minLogLevel : LogLevel := .debug

namespace McpRouterInner

def tracked (inner : McpRouterInner) (requestId : RequestId) : List DispatchId :=
  (inner.inFlight.lookup requestId).getD []

def registerInFlight (inner : McpRouterInner) (requestId : RequestId) (dispatch : DispatchId) :
    McpRouterInner :=
  { inner with inFlight := inner.inFlight.insert requestId (inner.tracked requestId ++ [dispatch]) }

def completeDispatch (inner : McpRouterInner) (requestId : RequestId) (dispatch : DispatchId) :
    McpRouterInner :=
  match inner.inFlight.lookup requestId with
  | none => inner
  | some entries =>
    let entries := entries.filter fun entry => entry != dispatch
    if entries.isEmpty then { inner with inFlight := inner.inFlight.erase requestId }
    else { inner with inFlight := inner.inFlight.insert requestId entries }

end McpRouterInner

structure Server where
  inner : McpRouterInner := {}
  sessions : FinMap SessionId SessionRouter := ∅
  contexts : List DispatchContext := []

namespace Server

def router (server : Server) (session : SessionId) : SessionRouter :=
  (server.sessions.lookup session).getD {}

def withFreshSession (server : Server) (session : SessionId) : Server :=
  { server with sessions := server.sessions.insert session {} }

def dispatchRequest (server : Server) (session : SessionId) (requestId : RequestId)
    (lifecycle : Lifecycle) (peerCancelled : Option Bool) : Server :=
  { server with
    inner := server.inner.registerInFlight requestId server.contexts.length
    contexts := server.contexts ++ [{ session, requestId, lifecycle, peerCancelled }] }

def cancelDispatches (entries : List DispatchId) (contexts : List DispatchContext) :
    List DispatchContext :=
  contexts.mapIdx fun dispatch context =>
    if entries.contains dispatch then context.cancel else context

def cancelRequest (server : Server) (requestId : RequestId) : Server :=
  { server with
    contexts := cancelDispatches (server.inner.tracked requestId) server.contexts }

def sendsLog (minLogLevel : LogLevel) (lifecycle : Lifecycle) (level : LogLevel) : Bool :=
  match lifecycle with
  | .final none => false
  | .final (some requestLevel) => !decide (level.rank > requestLevel.rank)
  | .legacy => !decide (level.rank > minLogLevel.rank)

def sendLog (server : Server) (context : DispatchContext) (message : LogMessage) : Server :=
  if sendsLog server.inner.minLogLevel context.lifecycle message.level then
    let router := server.router context.session
    { server with
      sessions := server.sessions.insert context.session
        { router with received := router.received ++ [message] } }
  else
    server

inductive Event where
  | freshSession (session : SessionId)
  | request (session : SessionId) (requestId : RequestId) (lifecycle : Lifecycle)
      (peerCancelled : Option Bool)
  | finish (dispatch : DispatchId)
  | cancelled (session : SessionId) (requestId : Option RequestId)
  | setLoggingLevel (session : SessionId) (level : LogLevel)
  | log (dispatch : DispatchId) (level : LogLevel) (data : String)
  | subscribe (session : SessionId) (uri : String)

def step (server : Server) : Event → Option Server
  | .freshSession session => some (server.withFreshSession session)
  | .request session requestId lifecycle peerCancelled =>
    some (server.dispatchRequest session requestId lifecycle peerCancelled)
  | .finish dispatch =>
    server.contexts[dispatch]?.map fun context =>
      { server with inner := server.inner.completeDispatch context.requestId dispatch }
  | .cancelled _ requestId =>
    match requestId with
    | none => some server
    | some requestId => some (server.cancelRequest requestId)
  | .setLoggingLevel _ level =>
    some { server with inner := { server.inner with minLogLevel := level } }
  | .log dispatch level data =>
    server.contexts[dispatch]?.map fun context =>
      server.sendLog context { dispatch, level, data }
  | .subscribe session uri =>
    let router := server.router session
    some { server with
      sessions := server.sessions.insert session
        { router with subscriptions := router.subscriptions.insert uri () } }

end Server

end TowerMcp
