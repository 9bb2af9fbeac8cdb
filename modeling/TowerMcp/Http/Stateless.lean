import TowerMcp.Http.Subscriptions

/-!
# Sessionless requests keep their notifications in order

A request of the final protocol without a session has one response, and what its handler emits
before the result has to travel on it. The transport races the handler against the channel of its
notifications, answers with a JSON body when the result comes first, and turns the response into a
stream of events at the first notification that belongs on it. Notifications that belong on the
streams of `subscriptions/listen` go to the registry instead.
-/

namespace TowerMcp

open Execution

namespace StatelessPost

abbrev CallResult := Except String JsonRpcResponse

def channelCapacity : ℕ := 64

inductive Item where
  | notification (frame : Json)
  | terminal (frame : Json)

/-- Where the transport is: it races the handler against the channel, waits for the handler alone,
drains the channel before it answers, or has answered; or it streams while the handler runs, has a
result that the stream has not looked at, drains the channel after the result, has only events
left to send, or is at the end of the stream. -/
inductive Control where
  | racing
  | awaiting
  | draining (result : CallResult)
  | answered (body : Json)
  | streaming
  | ready (result : CallResult)
  | finishing (result : CallResult)
  | closing
  | ended

/-- A request that is served. `senders` says whether some sender of the channel is left, `rxOpen`
whether the stream still listens to the channel. The last five fields are the history: what was
routed to the registry, what the channel accepted before and after the result, what was taken out
of it, and the result. -/
structure Post where
  control : Control := .racing
  channel : List ServerNotification := []
  senders : Bool := true
  rxOpen : Bool := true
  queue : List Json := []
  terminal : Option Json := none
  events : List Item := []
  published : List ServerNotification := []
  accepted : List ServerNotification := []
  late : List ServerNotification := []
  consumed : List ServerNotification := []
  result : Option CallResult := none

def Control.running : Control → Bool
  | .racing | .awaiting | .streaming => true
  | _ => false

def Control.done : Control → Bool
  | .answered _ | .ended => true
  | _ => false

def terminalFrame (complete : JsonRpcResponse → JsonRpcResponse) : CallResult → Json
  | .ok response => (complete response).toJson
  | .error message => (JsonRpcResponse.error none (.internalError message)).toJson

namespace Post

variable (complete : JsonRpcResponse → JsonRpcResponse) (self : Post)

def emit (notification : ServerNotification) : Post :=
  let sent := { self with channel := self.channel ++ [notification] }
  if self.control.running then { sent with accepted := self.accepted ++ [notification] }
  else { sent with late := self.late ++ [notification] }

def consume (notification : ServerNotification) (rest : List ServerNotification) : Post :=
  { self with channel := rest, consumed := self.consumed ++ [notification] }

def publish (notification : ServerNotification) : Post :=
  { self with published := self.published ++ [notification] }

def push (notification : ServerNotification) : Post :=
  { self with queue := self.queue ++ notification.serializeNotification.toList }

def route (notification : ServerNotification) : Post :=
  if notification.isSubscriptionScoped then self.publish notification else self.push notification

def upgrade (notification : ServerNotification) (target : Control) : Post :=
  if notification.isSubscriptionScoped then self.publish notification
  else { self with control := target }.route notification

def polls : Bool :=
  self.queue.isEmpty && self.terminal.isNone

def receive : Option Post :=
  match self.channel with
  | [] => none
  | notification :: rest =>
    match self.control with
    | .racing => some ((self.consume notification rest).upgrade notification .streaming)
    | .streaming | .ready _ =>
      if self.polls ∧ self.rxOpen then
        some ((self.consume notification rest).route notification)
      else none
    | _ => none

def receiveNone : Option Post :=
  if self.channel.isEmpty ∧ self.senders = false then
    match self.control with
    | .racing => some { self with control := .awaiting }
    | .streaming | .ready _ =>
      if self.polls ∧ self.rxOpen then some { self with rxOpen := false } else none
    | _ => none
  else none

def finish (result : CallResult) : Option Post :=
  match self.control with
  | .racing | .awaiting => some { self with control := .draining result, result := some result }
  | .streaming =>
    if self.polls then some { self with control := .finishing result, result := some result }
    else none
  | _ => none

def observe : Option Post :=
  match self.control with
  | .ready result => if self.polls then some { self with control := .finishing result } else none
  | _ => none

def drain : Option Post :=
  match self.control, self.channel with
  | .draining result, notification :: rest =>
    some ((self.consume notification rest).upgrade notification (.ready result))
  | .draining result, [] =>
    some { self with control := .answered (terminalFrame complete result) }
  | .finishing _, notification :: rest =>
    some ((self.consume notification rest).route notification)
  | .finishing result, [] =>
    some { self with control := .closing, terminal := some (terminalFrame complete result) }
  | _, _ => none

def streams : Bool :=
  match self.control with
  | .streaming | .ready _ | .closing => true
  | _ => false

def yieldNext : Option Post :=
  if self.streams then
    match self.queue, self.terminal with
    | frame :: rest, _ =>
      some { self with queue := rest, events := self.events ++ [.notification frame] }
    | [], some frame =>
      some { self with terminal := none, events := self.events ++ [.terminal frame] }
    | [], none =>
      match self.control with
      | .closing => some { self with control := .ended }
      | _ => none
  else none

end Post

/-- What happens to a request: its handler or what it has spawned emits, drops the senders or
returns, and the transport takes a step. -/
inductive Event where
  | emit (notification : ServerNotification)
  | dropSenders
  | finish (result : CallResult)
  | receive
  | receiveNone
  | observe
  | drain
  | yieldNext

def step (complete : JsonRpcResponse → JsonRpcResponse) (s : Post) : Event → Option Post
  | .emit notification =>
    if s.senders = true ∧ s.control.done = false ∧ s.channel.length < channelCapacity then
      some (s.emit notification)
    else none
  | .dropSenders => some { s with senders := false }
  | .finish result => s.finish result
  | .receive => s.receive
  | .receiveNone => s.receiveNone
  | .observe => s.observe
  | .drain => s.drain complete
  | .yieldNext => s.yieldNext

def Item.shown : Item → Option Json
  | .notification frame => some frame
  | .terminal _ => none

def requestFrames (notifications : List ServerNotification) : List (Option Json) :=
  (notifications.filter fun n => !n.isSubscriptionScoped).map (·.serializeNotification)

def Post.shown (s : Post) : List Json :=
  s.events.filterMap Item.shown

@[simp] theorem requestFrames_append (first second : List ServerNotification) :
    requestFrames (first ++ second) = requestFrames first ++ requestFrames second := by
  simp [requestFrames]

variable {notification : ServerNotification}

theorem requestFrames_singleton_of_scoped (hscoped : notification.isSubscriptionScoped = true) :
    requestFrames [notification] = [] := by
  simp [requestFrames, hscoped]

theorem requestFrames_singleton_of_not_scoped (hscoped : notification.isSubscriptionScoped = false)
    : requestFrames [notification] = notification.serializeNotification.toList.map some := by
  obtain ⟨frame, hframe⟩ := ServerNotification.serialize_of_not_scoped hscoped
  simp [requestFrames, hscoped, hframe]

/-- What was taken out of the channel is on its way: to the registry, or to the response in order.
What was not is still in the channel. -/
structure Routed (s : Post) : Prop where
  conserved : s.consumed ++ s.channel = s.accepted ++ s.late
  published : s.published = s.consumed.filter (·.isSubscriptionScoped)
  queued : (s.shown ++ s.queue).map some = requestFrames s.consumed

def Placed (complete : JsonRpcResponse → JsonRpcResponse) (s : Post) : Prop :=
  match s.control with
  | .racing | .awaiting =>
    s.late = [] ∧ s.result = none ∧ s.events = [] ∧ s.queue = [] ∧ s.terminal = none
  | .draining result =>
    s.result = some result ∧ s.events = [] ∧ s.queue = [] ∧ s.terminal = none
  | .answered body =>
    s.accepted <+: s.consumed ∧ s.events = [] ∧ s.queue = [] ∧
      ∃ result, s.result = some result ∧ body = terminalFrame complete result
  | .streaming =>
    s.late = [] ∧ s.result = none ∧ s.events = s.shown.map .notification ∧ s.terminal = none
  | .ready result | .finishing result =>
    s.result = some result ∧ s.events = s.shown.map .notification ∧ s.terminal = none
  | .closing =>
    s.accepted <+: s.consumed ∧ ∃ result, s.result = some result ∧
      (s.events = s.shown.map .notification ∧
          s.terminal = some (terminalFrame complete result) ∨
        s.events = s.shown.map .notification ++ [.terminal (terminalFrame complete result)] ∧
          s.terminal = none ∧ s.queue = [])
  | .ended =>
    s.accepted <+: s.consumed ∧ s.queue = [] ∧ ∃ result, s.result = some result ∧
      s.events = s.shown.map .notification ++ [.terminal (terminalFrame complete result)]

variable {complete : JsonRpcResponse → JsonRpcResponse}

variable {s : Post} {rest : List ServerNotification}

theorem Routed.route (hrouted : Routed s) (hchannel : s.channel = notification :: rest)
    (target : Control) :
    Routed ({ s.consume notification rest with control := target }.route notification) := by
  have hconserved := hrouted.conserved
  have hpublished := hrouted.published
  have hqueued := hrouted.queued
  rw [hchannel] at hconserved
  unfold Post.route
  cases hscoped : notification.isSubscriptionScoped with
  | true =>
    refine ⟨?_, ?_, ?_⟩
    · simpa [Post.publish, Post.consume] using hconserved
    · simp [Post.publish, Post.consume, hpublished, hscoped]
    · simpa [Post.publish, Post.consume, Post.shown,
        requestFrames_singleton_of_scoped hscoped] using hqueued
  | false =>
    refine ⟨?_, ?_, ?_⟩
    · simpa [Post.push, Post.consume] using hconserved
    · simp [Post.push, Post.consume, hpublished, hscoped]
    · simpa [Post.push, Post.consume, Post.shown, ← List.append_assoc,
        requestFrames_singleton_of_not_scoped hscoped] using hqueued

theorem Post.upgrade_eq (s : Post) (notification : ServerNotification) (target : Control) :
    s.upgrade notification target =
      { s with
        control := if notification.isSubscriptionScoped then s.control else target }.route
          notification := by
  unfold Post.upgrade
  cases hscoped : notification.isSubscriptionScoped with
  | true => simp [Post.route, hscoped]
  | false => rfl

theorem Placed.route (hplaced : Placed complete s)
    (hgrows : notification.isSubscriptionScoped = false →
      ∀ queue, Placed complete { s with queue := queue }) :
    Placed complete (s.route notification) := by
  unfold Post.route
  cases hscoped : notification.isSubscriptionScoped with
  | true => exact hplaced
  | false => exact hgrows hscoped _

theorem Placed.upgrade {target : Control} (hstay : Placed complete s)
    (hmove : ∀ queue, Placed complete { s with control := target, queue := queue }) :
    Placed complete (s.upgrade notification target) := by
  unfold Post.upgrade
  cases hscoped : notification.isSubscriptionScoped with
  | true => exact hstay
  | false => exact (hmove s.queue).route fun _ queue => hmove queue

theorem Placed.consume (hplaced : Placed complete s) (notification : ServerNotification)
    (rest : List ServerNotification) : Placed complete (s.consume notification rest) := by
  have hlonger (h : s.accepted <+: s.consumed) : s.accepted <+: s.consumed ++ [notification] :=
    h.trans (List.prefix_append _ _)
  cases hcontrol : s.control with
  | answered | closing | ended =>
    simp only [Placed, hcontrol] at hplaced
    simpa only [Placed, Post.consume, Post.shown, hcontrol] using ⟨hlonger hplaced.1, hplaced.2⟩
  | _ => simpa only [Placed, Post.consume, Post.shown, hcontrol] using hplaced

structure Kept (complete : JsonRpcResponse → JsonRpcResponse) (s : Post) : Prop where
  routed : Routed s
  placed : Placed complete s

theorem Kept.emit (hkept : Kept complete s) (notification : ServerNotification) :
    Kept complete (s.emit notification) := by
  obtain ⟨⟨hconserved, hpublished, hqueued⟩, hplaced⟩ := hkept
  have hlonger : s.consumed ++ (s.channel ++ [notification]) =
      s.accepted ++ s.late ++ [notification] := by
    rw [← List.append_assoc, hconserved]
  unfold Post.emit
  cases hcontrol : s.control with
  | racing | awaiting | streaming =>
    simp only [Placed, hcontrol] at hplaced
    have hlate : s.late = [] := hplaced.1
    rw [hlate, List.append_nil] at hlonger
    refine ⟨⟨?_, hpublished, hqueued⟩, ?_⟩
    · simpa [hcontrol, Control.running, hlate] using hlonger
    · simpa [hcontrol, Control.running, Placed, Post.shown] using hplaced
  | draining | answered | ready | finishing | closing | ended =>
    simp only [Placed, hcontrol] at hplaced
    refine ⟨⟨?_, hpublished, hqueued⟩, ?_⟩
    · simpa [hcontrol, Control.running] using hlonger
    · simpa [hcontrol, Control.running, Placed, Post.shown] using hplaced

variable {next : Post}

theorem Kept.receive (hkept : Kept complete s) (hnext : s.receive = some next) :
    Kept complete next := by
  obtain ⟨hrouted, hplaced⟩ := hkept
  unfold Post.receive at hnext
  cases hchannel : s.channel with
  | nil => simp [hchannel] at hnext
  | cons notification rest =>
    cases hcontrol : s.control with
    | racing =>
      simp only [hchannel, hcontrol, Option.some.injEq] at hnext
      subst hnext
      refine ⟨?_, (hplaced.consume notification rest).upgrade fun queue => ?_⟩
      · rw [Post.upgrade_eq]
        exact hrouted.route hchannel _
      · simp only [Placed, hcontrol] at hplaced
        obtain ⟨hlate, hresult, hevents, _, hterminal⟩ := hplaced
        exact ⟨hlate, hresult, by simp [Post.consume, Post.shown, hevents], hterminal⟩
    | streaming =>
      simp only [hchannel, hcontrol, Option.ite_none_right_eq_some, Option.some.injEq] at hnext
      obtain ⟨_, rfl⟩ := hnext
      exact ⟨hrouted.route hchannel s.control, (hplaced.consume notification rest).route fun _ queue => by
        simpa [Placed, Post.consume, hcontrol, Post.shown] using hplaced⟩
    | ready result =>
      simp only [hchannel, hcontrol, Option.ite_none_right_eq_some, Option.some.injEq] at hnext
      obtain ⟨_, rfl⟩ := hnext
      exact ⟨hrouted.route hchannel s.control, (hplaced.consume notification rest).route fun _ queue => by
        simpa [Placed, Post.consume, hcontrol, Post.shown] using hplaced⟩
    | _ => simp [hchannel, hcontrol] at hnext

theorem Kept.receiveNone (hkept : Kept complete s)
    (hnext : s.receiveNone = some next) : Kept complete next := by
  obtain ⟨⟨hconserved, hpublished, hqueued⟩, hplaced⟩ := hkept
  obtain ⟨_, hnext⟩ := Option.ite_none_right_eq_some.1 hnext
  cases hcontrol : s.control with
  | racing =>
    simp only [hcontrol, Option.some.injEq] at hnext
    subst hnext
    exact ⟨⟨hconserved, hpublished, hqueued⟩, by simpa only [Placed, hcontrol] using hplaced⟩
  | streaming | ready result =>
    simp only [hcontrol, Option.ite_none_right_eq_some, Option.some.injEq] at hnext
    obtain ⟨_, rfl⟩ := hnext
    exact ⟨⟨hconserved, hpublished, hqueued⟩,
      by simpa only [Placed, Post.shown, hcontrol] using hplaced⟩
  | _ => simp [hcontrol] at hnext

theorem Kept.finish (hkept : Kept complete s) {result : CallResult}
    (hnext : s.finish result = some next) : Kept complete next := by
  obtain ⟨⟨hconserved, hpublished, hqueued⟩, hplaced⟩ := hkept
  unfold Post.finish at hnext
  cases hcontrol : s.control with
  | racing | awaiting =>
    simp only [hcontrol, Option.some.injEq] at hnext
    subst hnext
    simp only [Placed, hcontrol] at hplaced
    exact ⟨⟨hconserved, hpublished, hqueued⟩, rfl, hplaced.2.2⟩
  | streaming =>
    simp only [hcontrol, Option.ite_none_right_eq_some, Option.some.injEq] at hnext
    obtain ⟨_, rfl⟩ := hnext
    simp only [Placed, hcontrol] at hplaced
    exact ⟨⟨hconserved, hpublished, hqueued⟩, rfl, hplaced.2.2⟩
  | _ => simp [hcontrol] at hnext

theorem Kept.observe (hkept : Kept complete s) (hnext : s.observe = some next) :
    Kept complete next := by
  obtain ⟨⟨hconserved, hpublished, hqueued⟩, hplaced⟩ := hkept
  unfold Post.observe at hnext
  cases hcontrol : s.control with
  | ready result =>
    simp only [hcontrol, Option.ite_none_right_eq_some, Option.some.injEq] at hnext
    obtain ⟨_, rfl⟩ := hnext
    simp only [Placed, hcontrol] at hplaced
    exact ⟨⟨hconserved, hpublished, hqueued⟩, hplaced⟩
  | _ => simp [hcontrol] at hnext

theorem Routed.accepted_of_empty (hrouted : Routed s) (hchannel : s.channel = []) :
    s.accepted <+: s.consumed := by
  have hconserved := hrouted.conserved
  rw [hchannel, List.append_nil] at hconserved
  exact hconserved ▸ List.prefix_append _ _

theorem Post.drain_cases (hnext : s.drain complete = some next) :
    (∃ result notification rest, s.control = .draining result ∧ s.channel = notification :: rest ∧
      next = (s.consume notification rest).upgrade notification (.ready result)) ∨
    (∃ result, s.control = .draining result ∧ s.channel = [] ∧
      next = { s with control := .answered (terminalFrame complete result) }) ∨
    (∃ result notification rest, s.control = .finishing result ∧ s.channel = notification :: rest ∧
      next = (s.consume notification rest).route notification) ∨
    (∃ result, s.control = .finishing result ∧ s.channel = [] ∧
      next = { s with control := .closing, terminal := some (terminalFrame complete result) }) := by
  unfold Post.drain at hnext
  split at hnext
  next result notification rest hcontrol hchannel =>
    exact .inl ⟨result, notification, rest, hcontrol, hchannel, (Option.some.inj hnext).symm⟩
  next result hcontrol hchannel =>
    exact .inr (.inl ⟨result, hcontrol, hchannel, (Option.some.inj hnext).symm⟩)
  next result notification rest hcontrol hchannel =>
    exact .inr (.inr (.inl
      ⟨result, notification, rest, hcontrol, hchannel, (Option.some.inj hnext).symm⟩))
  next result hcontrol hchannel =>
    exact .inr (.inr (.inr ⟨result, hcontrol, hchannel, (Option.some.inj hnext).symm⟩))
  next => cases hnext

theorem Kept.drain (hkept : Kept complete s)
    (hnext : s.drain complete = some next) : Kept complete next := by
  obtain ⟨hrouted, hplaced⟩ := hkept
  obtain ⟨result, notification, rest, hcontrol, hchannel, rfl⟩ |
    ⟨result, hcontrol, hchannel, rfl⟩ |
    ⟨result, notification, rest, hcontrol, hchannel, rfl⟩ |
    ⟨result, hcontrol, hchannel, rfl⟩ := Post.drain_cases hnext
  · refine ⟨?_, (hplaced.consume notification rest).upgrade fun queue => ?_⟩
    · rw [Post.upgrade_eq]
      exact hrouted.route hchannel _
    · simp only [Placed, hcontrol] at hplaced
      obtain ⟨hresult, hevents, _, hterminal⟩ := hplaced
      exact ⟨hresult, by simp [Post.consume, Post.shown, hevents], hterminal⟩
  · simp only [Placed, hcontrol] at hplaced
    obtain ⟨hresult, hevents, hqueue, _⟩ := hplaced
    exact ⟨⟨hrouted.conserved, hrouted.published, hrouted.queued⟩,
      hrouted.accepted_of_empty hchannel, hevents, hqueue, result, hresult, rfl⟩
  · exact ⟨hrouted.route hchannel s.control,
      (hplaced.consume notification rest).route fun _ queue => by
        simpa [Placed, Post.consume, hcontrol, Post.shown] using hplaced⟩
  · simp only [Placed, hcontrol] at hplaced
    obtain ⟨hresult, hevents, _⟩ := hplaced
    exact ⟨⟨hrouted.conserved, hrouted.published, hrouted.queued⟩,
      hrouted.accepted_of_empty hchannel, result, hresult, .inl ⟨hevents, rfl⟩⟩

variable {frame : Json}

theorem Routed.send (hrouted : Routed s) {rest : List Json}
    (hqueue : s.queue = frame :: rest) :
    Routed { s with queue := rest, events := s.events ++ [.notification frame] } := by
  refine ⟨hrouted.conserved, hrouted.published, ?_⟩
  have hqueued := hrouted.queued
  rw [hqueue] at hqueued
  simpa [Post.shown, Item.shown] using hqueued

theorem Post.yield_next_cases (hnext : s.yieldNext = some next) :
    s.streams = true ∧
    ((∃ frame rest, s.queue = frame :: rest ∧
        next = { s with queue := rest, events := s.events ++ [.notification frame] }) ∨
      (∃ frame, s.queue = [] ∧ s.terminal = some frame ∧
        next = { s with terminal := none, events := s.events ++ [.terminal frame] }) ∨
      (s.queue = [] ∧ s.terminal = none ∧ s.control = .closing ∧
        next = { s with control := .ended })) := by
  obtain ⟨hstreams, hnext⟩ := Option.ite_none_right_eq_some.1 hnext
  refine ⟨hstreams, ?_⟩
  split at hnext
  next frame rest hqueue => exact .inl ⟨frame, rest, hqueue, (Option.some.inj hnext).symm⟩
  next frame hqueue hterminal =>
    exact .inr (.inl ⟨frame, hqueue, hterminal, (Option.some.inj hnext).symm⟩)
  next hqueue hterminal =>
    split at hnext
    next hcontrol =>
      exact .inr (.inr ⟨hqueue, hterminal, hcontrol, (Option.some.inj hnext).symm⟩)
    next => cases hnext

theorem Placed.send (hplaced : Placed complete s) (hstreams : s.streams = true)
    {rest : List Json} (hqueue : s.queue = frame :: rest) :
    Placed complete { s with queue := rest, events := s.events ++ [.notification frame] } := by
  have hnonempty : s.queue ≠ [] := by simp [hqueue]
  cases hcontrol : s.control with
  | streaming | ready =>
    simp only [Placed, hcontrol] at hplaced
    simpa [Placed, hcontrol, Post.shown, Item.shown] using hplaced
  | closing =>
    simp only [Placed, hcontrol] at hplaced
    obtain ⟨haccepted, result, hresult, ⟨hevents, hterminal⟩ | ⟨_, _, hempty⟩⟩ := hplaced
    · refine ⟨haccepted, result, hresult, .inl ⟨?_, hterminal⟩⟩
      simpa [Post.shown, Item.shown] using hevents
    · exact absurd hempty hnonempty
  | _ => simp [Post.streams, hcontrol] at hstreams

theorem Kept.sendTerminal (hkept : Kept complete s) (hstreams : s.streams = true)
    (hqueue : s.queue = []) (hterminal : s.terminal = some frame) :
    Kept complete { s with terminal := none, events := s.events ++ [.terminal frame] } := by
  obtain ⟨hrouted, hplaced⟩ := hkept
  cases hcontrol : s.control with
  | streaming | ready => simp [Placed, hcontrol, hterminal] at hplaced
  | closing =>
    simp only [Placed, hcontrol] at hplaced
    obtain ⟨haccepted, result, hresult, ⟨hevents, hframe⟩ | ⟨_, hframe, _⟩⟩ := hplaced
    · cases hterminal.symm.trans hframe
      have hshown (last : Json) :
          (s.events ++ [Item.terminal last]).filterMap Item.shown = s.shown := by
        simp [Post.shown, List.filterMap_append, Item.shown]
      refine ⟨⟨hrouted.conserved, hrouted.published, ?_⟩, ?_⟩
      · simpa only [Post.shown, hshown] using hrouted.queued
      · simp only [Placed, Post.shown, hshown]
        exact ⟨haccepted, result, hresult, .inr ⟨congrArg (· ++ [_]) hevents, trivial, hqueue⟩⟩
    · cases hterminal.symm.trans hframe
  | _ => simp [Post.streams, hcontrol] at hstreams

theorem Kept.yieldNext (hkept : Kept complete s)
    (hnext : s.yieldNext = some next) : Kept complete next := by
  obtain ⟨hstreams, ⟨frame, rest, hqueue, rfl⟩ | ⟨frame, hqueue, hterminal, rfl⟩ |
    ⟨hqueue, hterminal, hcontrol, rfl⟩⟩ := Post.yield_next_cases hnext
  · exact ⟨hkept.routed.send hqueue, hkept.placed.send hstreams hqueue⟩
  · exact hkept.sendTerminal hstreams hqueue hterminal
  · obtain ⟨hrouted, hplaced⟩ := hkept
    simp only [Placed, hcontrol] at hplaced
    obtain ⟨haccepted, result, hresult, ⟨_, hframe⟩ | ⟨hevents, _, _⟩⟩ := hplaced
    · cases hterminal.symm.trans hframe
    · exact ⟨⟨hrouted.conserved, hrouted.published, hrouted.queued⟩, haccepted, hqueue, result,
        hresult, hevents⟩

theorem Kept.step (hkept : Kept complete s) {event : Event}
    (hnext : step complete s event = some next) : Kept complete next := by
  cases event with
  | emit notification =>
    obtain ⟨_, hnext⟩ := Option.ite_none_right_eq_some.1 hnext
    exact Option.some.inj hnext ▸ hkept.emit notification
  | dropSenders => exact Option.some.inj hnext ▸ ⟨⟨hkept.1.1, hkept.1.2, hkept.1.3⟩, hkept.2⟩
  | finish result => exact hkept.finish hnext
  | receive => exact hkept.receive hnext
  | receiveNone => exact hkept.receiveNone hnext
  | observe => exact hkept.observe hnext
  | drain => exact hkept.drain hnext
  | yieldNext => exact hkept.yieldNext hnext

/-- The response as the client sees it. The notifications on it are those that belong on it, each
once and in the order they were emitted; the last event is the frame of the result and comes after
all that was accepted before the result; what belongs to subscriptions was routed to the registry,
each once and in order; and a body was sent only when nothing belonged on a stream. -/
structure InOrder (complete : JsonRpcResponse → JsonRpcResponse) (s : Post) : Prop where
  shown : s.shown.map some <+: requestFrames (s.accepted ++ s.late)
  last : s.events = s.shown.map .notification ∨
    ∃ result, s.result = some result ∧
      s.events = s.shown.map .notification ++ [.terminal (terminalFrame complete result)] ∧
      requestFrames s.accepted <+: s.shown.map some
  published : s.published <+: (s.accepted ++ s.late).filter (·.isSubscriptionScoped)
  routed : s.control.done = true →
    s.accepted.filter (·.isSubscriptionScoped) <+: s.published
  ended : s.control = .ended → ∃ result, s.result = some result ∧
    s.events = s.shown.map .notification ++ [.terminal (terminalFrame complete result)]
  body : ∀ body, s.control = .answered body → s.events = [] ∧ requestFrames s.accepted = [] ∧
    ∃ result, s.result = some result ∧ body = terminalFrame complete result

theorem prefix_request_frames {first second : List ServerNotification} (h : first <+: second) :
    requestFrames first <+: requestFrames second := by
  obtain ⟨rest, rfl⟩ := h
  exact requestFrames_append first rest ▸ List.prefix_append _ _

theorem Routed.shown_of_queue (hrouted : Routed s) (hqueue : s.queue = [])
    (haccepted : s.accepted <+: s.consumed) : requestFrames s.accepted <+: s.shown.map some := by
  have hqueued := hrouted.queued
  rw [hqueue, List.append_nil] at hqueued
  exact hqueued ▸ prefix_request_frames haccepted

theorem Kept.inOrder (hkept : Kept complete s) : InOrder complete s := by
  obtain ⟨hrouted, hplaced⟩ := hkept
  have hconsumed : s.consumed <+: s.accepted ++ s.late :=
    hrouted.conserved ▸ List.prefix_append _ _
  have hpublished (haccepted : s.accepted <+: s.consumed) :
      s.accepted.filter (·.isSubscriptionScoped) <+: s.published :=
    hrouted.published ▸ haccepted.filter _
  refine ⟨?_, ?_, hrouted.published ▸ hconsumed.filter _, ?_, ?_, ?_⟩
  · have hshown : s.shown.map some <+: requestFrames s.consumed := by
      rw [← hrouted.queued, List.map_append]
      exact List.prefix_append _ _
    exact hshown.trans (prefix_request_frames hconsumed)
  · cases hcontrol : s.control with
    | racing | awaiting =>
      simp only [Placed, hcontrol] at hplaced
      exact .inl (by simp [Post.shown, hplaced.2.2.1])
    | draining | answered =>
      simp only [Placed, hcontrol] at hplaced
      exact .inl (by simp [Post.shown, hplaced.2.1])
    | streaming =>
      simp only [Placed, hcontrol] at hplaced
      exact .inl hplaced.2.2.1
    | ready | finishing =>
      simp only [Placed, hcontrol] at hplaced
      exact .inl hplaced.2.1
    | closing =>
      simp only [Placed, hcontrol] at hplaced
      obtain ⟨haccepted, result, hresult, ⟨hevents, _⟩ | ⟨hevents, _, hqueue⟩⟩ := hplaced
      · exact .inl hevents
      · exact .inr ⟨result, hresult, hevents, hrouted.shown_of_queue hqueue haccepted⟩
    | ended =>
      simp only [Placed, hcontrol] at hplaced
      obtain ⟨haccepted, hqueue, result, hresult, hevents⟩ := hplaced
      exact .inr ⟨result, hresult, hevents, hrouted.shown_of_queue hqueue haccepted⟩
  · intro hdone
    cases hcontrol : s.control with
    | answered | ended =>
      simp only [Placed, hcontrol] at hplaced
      exact hpublished hplaced.1
    | _ => simp [hcontrol, Control.done] at hdone
  · intro hcontrol
    simp only [Placed, hcontrol] at hplaced
    exact hplaced.2.2
  · intro body hcontrol
    simp only [Placed, hcontrol] at hplaced
    obtain ⟨haccepted, hevents, hqueue, hresult⟩ := hplaced
    have hshown := hrouted.shown_of_queue hqueue haccepted
    simp only [Post.shown, hevents, List.filterMap_nil, List.map_nil, List.prefix_nil] at hshown
    exact ⟨hevents, hshown, hresult⟩

def Event.sends : Event → Bool
  | .observe | .drain | .yieldNext => true
  | _ => false

def Control.rank : Control → ℕ
  | .racing | .awaiting | .streaming => 0
  | .draining _ => 5
  | .ready _ => 4
  | .finishing _ => 3
  | .closing => 1
  | .answered _ | .ended => 0

def Post.remaining (s : Post) : ℕ :=
  2 * s.channel.length + s.queue.length + s.terminal.toList.length + s.control.rank

@[simp] theorem Post.route_control (s : Post) (notification : ServerNotification) :
    (s.route notification).control = s.control := by
  unfold Post.route
  split <;> rfl

theorem Post.remaining_route (hchannel : s.channel = notification :: rest) {target : Control}
    (hrank : target.rank ≤ s.control.rank) :
    ({ s.consume notification rest with control := target }.route notification).remaining <
      s.remaining := by
  have hframe : notification.serializeNotification.toList.length ≤ 1 := by
    cases notification.serializeNotification with
    | none => exact Nat.zero_le 1
    | some frame => exact Nat.le_refl 1
  unfold Post.route
  split
  · simp only [Post.remaining, Post.publish, Post.consume, hchannel, List.length_cons]
    omega
  · simp only [Post.remaining, Post.push, Post.consume, hchannel, List.length_cons,
      List.length_append]
    omega

theorem Post.advances (complete : JsonRpcResponse → JsonRpcResponse)
    (hresult : s.control.running = false) (hpending : s.control.done = false) :
    ∃ event next, Event.sends event = true ∧ step complete s event = some next ∧
      next.control.running = false ∧ next.remaining < s.remaining := by
  have hyields (hstreams : s.streams = true) (hsends : s.polls = false) :
      ∃ event next, Event.sends event = true ∧ step complete s event = some next ∧
        next.control.running = false ∧ next.remaining < s.remaining := by
    cases hqueue : s.queue with
    | cons frame rest =>
      refine ⟨.yieldNext, { s with
        queue := rest, events := s.events ++ [.notification frame] }, rfl, ?_, hresult, ?_⟩
      · simp [step, Post.yieldNext, hstreams, hqueue]
      · simp only [Post.remaining, hqueue, List.length_cons]
        omega
    | nil =>
      cases hterminal : s.terminal with
      | some frame =>
        refine ⟨.yieldNext, { s with
          terminal := none, events := s.events ++ [.terminal frame] }, rfl, ?_, hresult, ?_⟩
        · simp [step, Post.yieldNext, hstreams, hqueue, hterminal]
        · simp [Post.remaining, hterminal]
      | none => simp [Post.polls, hqueue, hterminal] at hsends
  cases hcontrol : s.control with
  | draining result =>
    cases hchannel : s.channel with
    | nil =>
      refine ⟨.drain, { s with control := .answered (terminalFrame complete result) }, rfl, ?_,
        rfl, ?_⟩
      · simp [step, Post.drain, hcontrol, hchannel]
      · simp [Post.remaining, hcontrol, Control.rank]
    | cons notification rest =>
      refine ⟨.drain, (s.consume notification rest).upgrade notification (.ready result), rfl,
        ?_, ?_, ?_⟩
      · simp [step, Post.drain, hcontrol, hchannel]
      · rw [Post.upgrade_eq, Post.route_control]
        simp only [Post.consume, hcontrol]
        split <;> rfl
      · rw [Post.upgrade_eq]
        refine Post.remaining_route hchannel ?_
        simp only [Post.consume, hcontrol]
        split <;> simp [Control.rank]
  | ready result =>
    cases hpolls : s.polls with
    | false => exact hyields (by simp [Post.streams, hcontrol]) hpolls
    | true =>
      refine ⟨.observe, { s with control := .finishing result }, rfl, ?_, rfl, ?_⟩
      · simp [step, Post.observe, hcontrol, hpolls]
      · simp [Post.remaining, hcontrol, Control.rank]
  | finishing result =>
    cases hchannel : s.channel with
    | nil =>
      refine ⟨.drain, { s with
        control := .closing, terminal := some (terminalFrame complete result) }, rfl, ?_, rfl,
        ?_⟩
      · simp [step, Post.drain, hcontrol, hchannel]
      · simp only [Post.remaining, hcontrol, Control.rank, Option.toList_some, List.length_singleton]
        omega
    | cons notification rest =>
      refine ⟨.drain, (s.consume notification rest).route notification, rfl, ?_, ?_,
        Post.remaining_route hchannel (Nat.le_refl s.control.rank)⟩
      · simp [step, Post.drain, hcontrol, hchannel]
      · rw [Post.route_control]
        exact hresult
  | closing =>
    cases hpolls : s.polls with
    | false => exact hyields (by simp [Post.streams, hcontrol]) hpolls
    | true =>
      have hempty : s.queue = [] ∧ s.terminal = none := by simpa [Post.polls] using hpolls
      refine ⟨.yieldNext, { s with control := .ended }, rfl, ?_, rfl, ?_⟩
      · simp [step, Post.yieldNext, Post.streams, hcontrol, hempty]
      · simp [Post.remaining, hcontrol, Control.rank]
  | racing | awaiting | streaming => simp [hcontrol, Control.running] at hresult
  | answered | ended => simp [hcontrol, Control.done] at hpending

theorem Post.completes (complete : JsonRpcResponse → JsonRpcResponse) (s : Post)
    (hresult : s.control.running = false) :
    ∃ events final, (∀ event ∈ events, Event.sends event = true) ∧
      run (step complete) s events = some final ∧ final.control.done = true := by
  induction hremaining : s.remaining using Nat.strong_induction_on generalizing s with
  | _ remaining ih =>
    cases hdone : s.control.done with
    | true => exact ⟨[], s, by simp, rfl, hdone⟩
    | false =>
      obtain ⟨event, next, hsends, hnext, hnextResult, hless⟩ :=
        Post.advances complete hresult hdone
      obtain ⟨events, final, hall, hrun, hfinal⟩ :=
        ih next.remaining (hremaining ▸ hless) next hnextResult rfl
      refine ⟨event :: events, final, ?_, run_cons.2 ⟨next, hnext, hrun⟩, hfinal⟩
      simpa [hsends] using hall

/-- On every run of a request without a session, the response has its notifications in order, and
once the handler has returned nothing but the transport is needed to complete it. -/
theorem notifications_in_order (complete : JsonRpcResponse → JsonRpcResponse)
    (events : List Event) :
    Throughout (step complete)
      (fun s => InOrder complete s ∧ (s.control.running = false →
        ∃ rest final, (∀ event ∈ rest, Event.sends event = true) ∧
          run (step complete) s rest = some final ∧ final.control.done = true))
      {} events := by
  have hstart : Kept complete {} :=
    ⟨⟨rfl, rfl, rfl⟩, rfl, rfl, rfl, rfl, rfl⟩
  have hkept : Throughout (step complete) (Kept complete) {} events :=
    throughout_of_invariant (fun _ _ _ hkept hnext => hkept.step hnext) hstart events
  exact hkept.mono fun s hs => ⟨hs.inOrder, Post.completes complete s⟩

end StatelessPost

end TowerMcp
