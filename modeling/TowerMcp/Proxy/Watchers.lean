import Mathlib.Logic.Function.Basic
import TowerMcp.Proxy.Backends

/-!
# The watchers of a proxy

How the cache of a backend follows its notifications, after `proxy/service.rs` and `proxy/backend.rs`.
The handlers of a backend send into a bounded channel without waiting, and a watcher takes what is in
the channel and refreshes the backend at the position its own had when the watcher was started. A
watcher holds the lock of the list while it refreshes and forwards.
-/

namespace TowerMcp

inductive ListChanged where
  | tools
  | resources
  | prompts
deriving DecidableEq

/-- Where a watcher is. It is `holding` what it has received until it has the lock, and `refreshing`
the cache of the client at its position. The number `seen` is how many notifications of the kind that
client had sent when the refresh started. -/
inductive WatcherPhase where
  | unspawned
  | idle
  | holding (changed : ListChanged)
  | refreshing (changed : ListChanged) (target seen : ℕ)
  | forwarding
  | exited
deriving DecidableEq

/-- The channel of a client, its watcher, and the position the watcher has captured. The counters are
history: how many notifications of a kind the client has sent, how many of them before its
capabilities were listed for the first time, and how many before the listing that is cached. -/
structure Link where
  queue : List ListChanged := []
  phase : WatcherPhase := .unspawned
  position : ℕ := 0
  notified : ListChanged → ℕ := fun _ => 0
  listed : ListChanged → ℕ := fun _ => 0
  cached : ListChanged → ℕ := fun _ => 0

structure Refresh where
  watcher : ℕ
  target : ℕ
  changed : ListChanged
  seen : ℕ
deriving DecidableEq

def channelCapacity : ℕ := 16

def Link.hasRoom (link : Link) : Bool :=
  link.phase != .exited && decide (link.queue.length < channelCapacity)

def Link.trySend (link : Link) (changed : ListChanged) : Link :=
  { link with
    queue := if link.hasRoom then link.queue ++ [changed] else link.queue
    notified := Function.update link.notified changed (link.notified changed + 1) }

def WatcherPhase.isReading : WatcherPhase → Bool
  | .refreshing _ _ _ | .forwarding => true
  | _ => false

/-- What an addition does to the link of its client when it goes on from a point to another: the
client is connected, its capabilities are listed, the listing is cached, and the watcher is started
for the position the backend is appended at. -/
def followCall (before after : Option BackendCall) (ticket position : ℕ) (links : FinMap ℕ Link) :
    FinMap ℕ Link :=
  match before, after with
  | some (.connecting _), some (.initializing _) => links.insert ticket {}
  | some (.initializing _), some (.discovering _) =>
    links.modify ticket fun link => { link with listed := link.notified }
  | some (.discovering _), some (.appending _) =>
    links.modify ticket fun link => { link with cached := link.listed }
  | some (.appending _), some (.notifying _) =>
    links.modify ticket fun link => { link with phase := .idle, position }
  | _, _ => links

structure WatchedProxy where
  proxy : McpProxy
  links : FinMap ℕ Link
  refreshes : List Refresh := []

namespace WatchedProxy

/-- A call is made or goes on, the server of a client notifies, or the watcher of a client goes on. -/
inductive Event where
  | call (event : McpProxy.Event)
  | notify (client : ℕ) (changed : ListChanged)
  | watch (client : ℕ)
deriving DecidableEq

variable (self : WatchedProxy)

def writes (event : McpProxy.Event) : Bool :=
  match event with
  | .begin _ => false
  | .resume ticket _ =>
    match self.proxy.calls.get ticket with
    | some (.appending _) | some (.removing _ _) => true
    | _ => false

def linksAfter (event : McpProxy.Event) (next : McpProxy) : FinMap ℕ Link :=
  match event with
  | .begin _ => self.links
  | .resume ticket _ =>
    followCall (self.proxy.calls.get ticket) (next.calls.get ticket) ticket
      self.proxy.backends.length self.links

def seen (client : ℕ) (changed : ListChanged) : ℕ :=
  ((self.links.lookup client).map fun link => link.notified changed).getD 0

def watch (client : ℕ) (link : Link) : Option WatchedProxy :=
  match link.phase with
  | .unspawned | .exited => none
  | .idle =>
    match link.queue with
    | [] => none
    | changed :: rest =>
      some
        { self with
          links := self.links.modify client fun link =>
            { link with phase := .holding changed, queue := rest } }
  | .holding changed =>
    match self.proxy.backends[link.position]? with
    | none =>
      some
        { self with
          links := self.links.modify client fun link =>
            { link with phase := .exited, queue := [] } }
    | some backend =>
      let seen := self.seen backend.client changed
      some
        { self with
          links := self.links.modify client fun link =>
            { link with phase := .refreshing changed backend.client seen }
          refreshes := self.refreshes ++
            [{ watcher := client, target := backend.client, changed, seen }] }
  | .refreshing changed target seen =>
    let cached := self.links.modify target fun link =>
      { link with cached := Function.update link.cached changed seen }
    some
      { self with
        links := cached.modify client fun link => { link with phase := .forwarding } }
  | .forwarding =>
    some { self with links := self.links.modify client fun link => { link with phase := .idle } }

def step (self : WatchedProxy) : Event → Option WatchedProxy
  | .call event =>
    if self.writes event && self.links.values.any fun link => link.phase.isReading then none
    else
      (self.proxy.step event).map fun next =>
        { self with proxy := next, links := self.linksAfter event next }
  | .notify client changed =>
    if (self.links.lookup client).isSome then
      some { self with links := self.links.modify client fun link => link.trySend changed }
    else none
  | .watch client => self.links.lookup client >>= self.watch client

def watchersOf (pending : List PendingBackend) : FinMap ℕ Link :=
  ((pending.filter fun backend => backend.initializes).zipIdx.filter
    fun backend => backend.1.watched).foldl
      (fun links backend => links.insert backend.2 { phase := .idle, position := backend.2 }) ∅

def start (separator : String) (pending : List PendingBackend) : Except BuildError WatchedProxy :=
  (build separator pending).map fun proxy => { proxy, links := watchersOf pending }

inductive WatchTurn (proxy : WatchedProxy) (client : ℕ) (link : Link) : WatchedProxy → Prop where
  | received (changed rest) (hphase : link.phase = .idle) (hqueue : link.queue = changed :: rest) :
      WatchTurn proxy client link
        { proxy with
          links := proxy.links.modify client fun link =>
            { link with phase := .holding changed, queue := rest } }
  | exited (changed) (hphase : link.phase = .holding changed)
      (hposition : proxy.proxy.backends[link.position]? = none) :
      WatchTurn proxy client link
        { proxy with
          links := proxy.links.modify client fun link =>
            { link with phase := .exited, queue := [] } }
  | started (changed backend) (hphase : link.phase = .holding changed)
      (hposition : proxy.proxy.backends[link.position]? = some backend) :
      WatchTurn proxy client link
        { proxy with
          links := proxy.links.modify client fun link =>
            { link with
              phase := .refreshing changed backend.client (proxy.seen backend.client changed) }
          refreshes := proxy.refreshes ++
            [{ watcher := client, target := backend.client, changed,
               seen := proxy.seen backend.client changed }] }
  | refreshed (changed target seen) (hphase : link.phase = .refreshing changed target seen) :
      WatchTurn proxy client link
        { proxy with
          links := (proxy.links.modify target fun link =>
            { link with cached := Function.update link.cached changed seen }).modify client
              fun link => { link with phase := .forwarding } }
  | forwarded (hphase : link.phase = .forwarding) :
      WatchTurn proxy client link
        { proxy with links := proxy.links.modify client fun link => { link with phase := .idle } }

variable {self} in
theorem turn_of_watch {client : ℕ} {link : Link} {next : WatchedProxy}
    (h : self.watch client link = some next) : WatchTurn self client link next := by
  unfold WatchedProxy.watch at h
  cases hphase : link.phase with
  | unspawned | exited =>
    rw [hphase] at h
    cases h
  | idle =>
    cases hqueue : link.queue with
    | nil =>
      simp only [hphase, hqueue] at h
      cases h
    | cons changed rest =>
      simp only [hphase, hqueue] at h
      cases h
      exact .received changed rest hphase hqueue
  | holding changed =>
    cases hposition : self.proxy.backends[link.position]? with
    | none =>
      simp only [hphase, hposition] at h
      cases h
      exact .exited changed hphase hposition
    | some backend =>
      simp only [hphase, hposition] at h
      cases h
      exact .started changed backend hphase hposition
  | refreshing changed target seen =>
    simp only [hphase] at h
    cases h
    exact .refreshed changed target seen hphase
  | forwarding =>
    simp only [hphase] at h
    cases h
    exact .forwarded hphase

/-! ## What is wanted, and what goes wrong -/

def isRegistered (client : ℕ) : Bool :=
  self.proxy.entries.any fun entry => entry.client == client

def isConcerned (client : ℕ) : Bool :=
  self.isRegistered client ||
    match self.proxy.calls.get client with
    | some (.discovering _) => true
    | _ => false

/-- Whether a notification is held by the channel or repeats one that is, and whether a watcher that
has received one finds its own backend at its position, or none and its own is not registered. -/
def isHarmless (self : WatchedProxy) : Event → Bool
  | .call _ => true
  | .notify client changed =>
    match self.links.lookup client with
    | none => true
    | some link =>
      !self.isConcerned client || link.hasRoom || link.queue.contains changed
  | .watch client =>
    match self.links.lookup client with
    | none => true
    | some link =>
      match link.phase with
      | .holding _ =>
        match self.proxy.backends[link.position]? with
        | none => !self.isRegistered client
        | some backend => backend.client == client
      | _ => true

def Link.Quiet (link : Link) : Prop :=
  link.queue = [] ∧ (link.phase = .idle ∨ link.phase = .exited)

/-- What the proxy promises of its caches: when the watcher of a registered backend has nothing to do,
what is cached was listed after the last notification of its kind; and no watcher has refreshed a
backend other than its own. -/
structure Followed (proxy : WatchedProxy) : Prop where
  fresh : ∀ client link, proxy.links.lookup client = some link →
    proxy.isRegistered client = true → Link.Quiet link →
      ∀ changed, link.cached changed = link.notified changed
  aimed : ∀ refresh ∈ proxy.refreshes, refresh.target = refresh.watcher

end WatchedProxy

end TowerMcp
