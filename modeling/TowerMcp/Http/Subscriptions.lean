import TowerMcp.Lib.Execution
import TowerMcp.Lib.Pool
import TowerMcp.Transport.Notifications

/-!
# The streams of `subscriptions/listen`

The process-local registry of the final protocol and the response streams it feeds. A subscription
is entered under the next key, notifications are queued for it under the lock of the registry, and
its stream hands them to the client. It leaves the registry when its buffer overflows, when its
stream is gone or when the registry is drained, and the one who takes it out observes its close and
sends the last message after the lock is released. A record stays in the pool after that, so that
what its stream has yielded can be read.
-/

namespace TowerMcp

open Execution

inductive SubscriptionPrincipal where
  | oauthSubject (issuer : Option String) (subject : String)
  | oauthClient (issuer : Option String) (clientId : String)
  | authClient (clientId : String)
deriving DecidableEq

structure SubscriptionLimits where
  maxActive : ℕ := 256
  maxActivePerPrincipal : Option ℕ := none
  maxMetadataBytes : ℕ := 64 * 1024
  maxBufferedMessages : ℕ := 64
  maxBufferedBytes : ℕ := 256 * 1024

inductive SubscriptionTerminal where
  | bufferOverflow (error : Json)
  | drained (completion : Json)

inductive SubscriptionAdmissionError where
  | globalLimit
  | principalLimit
  | metadataTooLarge

inductive SubscriptionQueueError where
  | bufferOverflow
  | disconnected

inductive SubscriptionCloseReason where
  | disconnected
  | bufferOverflow
  | drained
deriving DecidableEq

/-- Whether a subscription is in the registry, was taken out and is not observed yet, or is observed
closed. -/
inductive Membership where
  | registered
  | removed (reason : SubscriptionCloseReason)
  | closed
deriving DecidableEq

inductive ListenItem where
  | acknowledgment (message : Json)
  | notification (message : Json)
  | terminal (message : Json)

/-- A subscription with its two channels and its stream. `sender` and `terminalTx` are the ends that
the registry holds, `receiver` that of the stream. The last four fields are its history. -/
structure ModernSubscription where
  subscriptionId : RequestId
  filter : SubscriptionFilter
  principal : Option SubscriptionPrincipal
  membership : Membership := .registered
  sender : Bool := true
  terminalTx : Bool := true
  receiver : Bool := true
  notifications : List Json := []
  bufferedBytes : ℕ := 0
  terminal : Option SubscriptionTerminal := none
  inHand : Option Json := none
  first : Option Json
  awaitsTerminal : Bool := true
  gracefulCompletion : Option Json := none
  done : Bool := false
  gone : Bool := false
  guard : Bool := true
  observed : ℕ := 0
  matching : List ServerNotification := []
  received : List Json := []
  yielded : List ListenItem := []

def messagesSize (messages : List Json) : ℕ :=
  (messages.map Json.size).sum

def maxPermits : ℕ := 2 ^ 61 - 1

def SubscriptionLimits.channelCapacity (limits : SubscriptionLimits) : ℕ :=
  min (max 1 limits.maxBufferedMessages) maxPermits

namespace ModernSubscription

variable (limits : SubscriptionLimits) (serverInfo : Option Json) (self : ModernSubscription)

def tryEnqueue (message : Json) : Except SubscriptionQueueError ModernSubscription :=
  if limits.maxBufferedMessages = 0 then .error .bufferOverflow
  else if limits.maxBufferedBytes < self.bufferedBytes + message.size then .error .bufferOverflow
  else if self.receiver = false then .error .disconnected
  else if limits.channelCapacity ≤ self.notifications.length then .error .bufferOverflow
  else
    .ok { self with
      notifications := self.notifications ++ [message]
      bufferedBytes := self.bufferedBytes + message.size }

def closeReason : SubscriptionQueueError → SubscriptionCloseReason
  | .bufferOverflow => .bufferOverflow
  | .disconnected => .disconnected

def route (notification : ServerNotification) : ModernSubscription :=
  if notification.subscriptionMatches self.filter then
    match notification.taggedSubscriptionNotification self.subscriptionId with
    | none => self
    | some message =>
      match self.tryEnqueue limits message with
      | .ok queued => queued
      | .error error => { self with membership := .removed (closeReason error) }
  else if self.receiver then self
  else { self with membership := .removed .disconnected }

def offer (notification : ServerNotification) : ModernSubscription :=
  let noted :=
    if notification.subscriptionMatches self.filter then
      { self with matching := self.matching ++ [notification] }
    else self
  if self.membership = .registered then noted.route limits notification else noted

def overflowResponse : Json :=
  (JsonRpcResponse.error (some self.subscriptionId)
    (.internalError "Subscription notification buffer exceeded")).toJson

def terminalFor : SubscriptionCloseReason → Option SubscriptionTerminal
  | .bufferOverflow => some (.bufferOverflow self.overflowResponse)
  | .drained => some (.drained (subscriptionCompleteResponse self.subscriptionId serverInfo))
  | .disconnected => none

def settle : Option ModernSubscription :=
  match self.membership with
  | .removed reason =>
    match self.terminalFor serverInfo reason with
    | some terminal =>
      some { self with
        membership := .closed
        observed := self.observed + 1
        terminal := some terminal
        terminalTx := false }
    | none => some { self with membership := .closed, observed := self.observed + 1 }
  | _ => none

def discard : Option ModernSubscription :=
  if self.membership = .closed then some { self with sender := false, terminalTx := false }
  else none

def take (reason : SubscriptionCloseReason) : ModernSubscription :=
  if self.membership = .registered then { self with membership := .removed reason } else self

/-! ## The stream -/

def polls : Bool :=
  !self.gone && !self.done && self.inHand.isNone

def clear : ModernSubscription :=
  { self with
    receiver := false
    notifications := []
    bufferedBytes := self.bufferedBytes - messagesSize self.notifications }

def yieldItem (item : ListenItem) : ModernSubscription :=
  { self with yielded := self.yielded ++ [item] }

def takeFirst : Option ModernSubscription :=
  match self.first with
  | some first =>
    if self.polls then some ({ self with first := none }.yieldItem (.acknowledgment first))
    else none
  | none => none

def takeTerminal : Option ModernSubscription :=
  if self.polls ∧ self.first.isNone ∧ self.gracefulCompletion.isNone ∧ self.awaitsTerminal then
    match self.terminal with
    | some (.bufferOverflow error) =>
      some ({ self.clear with done := true, awaitsTerminal := false }.yieldItem (.terminal error))
    | some (.drained completion) =>
      some { self with awaitsTerminal := false, gracefulCompletion := some completion }
    | none => if self.terminalTx then none else some { self with awaitsTerminal := false }
  else none

def receive : Option ModernSubscription :=
  match self.notifications with
  | message :: rest =>
    if self.polls ∧ self.first.isNone then
      some { self with notifications := rest, inHand := some message }
    else none
  | [] => none

def handOver : Option ModernSubscription :=
  match self.inHand with
  | some message =>
    some ({ self with
      inHand := none
      bufferedBytes := self.bufferedBytes - message.size
      received := self.received ++ [message] }.yieldItem (.notification message))
  | none => none

def dropStream : Option ModernSubscription :=
  if self.gone = false ∧ self.inHand.isNone then some { self.clear with gone := true } else none

def endQueue : Option ModernSubscription :=
  if self.polls ∧ self.first.isNone ∧ self.notifications.isEmpty ∧ self.sender = false then
    match self.gracefulCompletion with
    | some completion =>
      some ({ self with done := true, gracefulCompletion := none }.yieldItem
        (.terminal completion))
    | none => if self.awaitsTerminal then none else self.dropStream
  else none

def dropGuard : Option ModernSubscription :=
  if self.gone ∧ self.guard then some ({ self with guard := false }.take .disconnected) else none

/-- What one subscription does by itself: the first two are done by whoever has taken it out, the
others by its stream. -/
inductive Move where
  | settle
  | discard
  | takeFirst
  | takeTerminal
  | receive
  | handOver
  | endQueue
  | dropStream
  | dropGuard

def move : Move → Option ModernSubscription
  | .settle => self.settle serverInfo
  | .discard => self.discard
  | .takeFirst => self.takeFirst
  | .takeTerminal => self.takeTerminal
  | .receive => self.receive
  | .handOver => self.handOver
  | .endQueue => self.endQueue
  | .dropStream => self.dropStream
  | .dropGuard => self.dropGuard

end ModernSubscription

/-! ## The registry -/

abbrev ModernSubscriptionRegistry := Pool ModernSubscription

namespace ModernSubscriptionRegistry

variable (limits : SubscriptionLimits) (serverInfo : Option Json)
  (self : ModernSubscriptionRegistry)

def activeWith (p : Option SubscriptionPrincipal → Bool) : ℕ :=
  FinMap.total (fun subscription : ModernSubscription =>
    if subscription.membership = .registered ∧ p subscription.principal then 1 else 0) self.calls

def active : ℕ :=
  self.activeWith fun _ => true

def activeFor (principal : SubscriptionPrincipal) : ℕ :=
  self.activeWith fun other => decide (other = some principal)

def principalFull (principal : Option SubscriptionPrincipal) : Bool :=
  match principal, limits.maxActivePerPrincipal with
  | some principal, some most => decide (most ≤ self.activeFor principal)
  | _, _ => false

def tryRegister (subscriptionId : RequestId) (filter : SubscriptionFilter)
    (principal : Option SubscriptionPrincipal) :
    Except SubscriptionAdmissionError ModernSubscriptionRegistry :=
  if limits.maxMetadataBytes < subscriptionId.toJson.size + filter.toJson.size then
    .error .metadataTooLarge
  else if limits.maxActive ≤ self.active then .error .globalLimit
  else if self.principalFull limits principal then .error .principalLimit
  else
    .ok (self.start
      { subscriptionId, filter, principal
        first := some (subscriptionAcknowledgment subscriptionId filter) })

def publish (notification : ServerNotification) : Bool × ModernSubscriptionRegistry :=
  if notification.isSubscriptionScoped then
    (true, self.map fun subscription => subscription.offer limits notification)
  else (false, self)

def closeAll : ModernSubscriptionRegistry :=
  self.map fun subscription => subscription.take .drained

inductive Event where
  | register (subscriptionId : RequestId) (filter : SubscriptionFilter)
      (principal : Option SubscriptionPrincipal)
  | publish (notification : ServerNotification)
  | closeAll
  | move (key : ℕ) (move : ModernSubscription.Move)

def step (self : ModernSubscriptionRegistry) : Event → Option ModernSubscriptionRegistry
  | .register subscriptionId filter principal =>
    match self.tryRegister limits subscriptionId filter principal with
    | .ok registered => some registered
    | .error _ => some self
  | .publish notification => some (self.publish limits notification).2
  | .closeAll => some self.closeAll
  | .move key move =>
    (self.get key).bind fun subscription =>
      (subscription.move serverInfo move).map (self.become key)

end ModernSubscriptionRegistry

/-! ## One subscription -/

namespace ModernSubscription

def acknowledgment (self : ModernSubscription) : Json :=
  subscriptionAcknowledgment self.subscriptionId self.filter

def messages (self : ModernSubscription) : List Json :=
  self.matching.filterMap fun notification =>
    notification.taggedSubscriptionNotification self.subscriptionId

def queued (self : ModernSubscription) : List Json :=
  self.received ++ (self.inHand.toList ++ self.notifications)

/-- What is kept of a subscription: the accounts of its buffer, how often its close was observed, the
order of its messages, and the order of what it yields. -/
structure Sound (limits : SubscriptionLimits) (s : ModernSubscription) : Prop where
  bytes : s.bufferedBytes = messagesSize s.notifications + messagesSize s.inHand.toList
  withinBytes : s.bufferedBytes ≤ limits.maxBufferedBytes
  withinMessages : s.notifications.length ≤ limits.maxBufferedMessages
  observed : s.observed = if s.membership = .closed then 1 else 0
  ordered : s.queued <+: s.messages
  current : s.membership = .registered → s.receiver = true → s.queued = s.messages
  opening : ∀ first, s.first = some first → first = s.acknowledgment ∧ s.yielded = [] ∧
    s.received = [] ∧ s.inHand = none ∧ s.done = false
  opened : s.first = none → ∃ terminals : List Json, terminals.length ≤ 1 ∧
    (s.done = false → terminals = []) ∧ s.yielded = .acknowledgment s.acknowledgment ::
      (s.received.map .notification ++ terminals.map .terminal)
  idle : s.done = true → s.inHand = none

variable {limits : SubscriptionLimits} {serverInfo : Option Json} {s next : ModernSubscription}

theorem channel_capacity_le (hlimit : limits.maxBufferedMessages ≠ 0) :
    limits.channelCapacity ≤ limits.maxBufferedMessages := by
  unfold SubscriptionLimits.channelCapacity
  omega

theorem messages_size_append (first second : List Json) :
    messagesSize (first ++ second) = messagesSize first + messagesSize second := by
  unfold messagesSize
  rw [List.map_append, List.sum_append]

theorem messages_append (notification : ServerNotification) :
    { s with matching := s.matching ++ [notification] }.messages =
      s.messages ++
        (notification.taggedSubscriptionNotification s.subscriptionId).toList := by
  unfold messages
  dsimp only
  rw [List.filterMap_append]
  cases htag : notification.taggedSubscriptionNotification s.subscriptionId with
  | none => simp [htag]
  | some message => simp [htag]

theorem try_enqueue_ok {message : Json} (h : s.tryEnqueue limits message = .ok next) :
    limits.maxBufferedMessages ≠ 0 ∧ s.receiver = true ∧
      s.bufferedBytes + message.size ≤ limits.maxBufferedBytes ∧
      s.notifications.length < limits.channelCapacity ∧
      next = { s with
        notifications := s.notifications ++ [message]
        bufferedBytes := s.bufferedBytes + message.size } := by
  unfold tryEnqueue at h
  split at h
  next => cases h
  next hlimit =>
    split at h
    next => cases h
    next hbytes =>
      split at h
      next => cases h
      next hreceiver =>
        split at h
        next => cases h
        next hroom =>
          injection h with heq
          have hopen : s.receiver = true := by simpa using hreceiver
          exact ⟨hlimit, hopen, Nat.le_of_not_lt hbytes, Nat.lt_of_not_le hroom, heq.symm⟩

theorem Sound.removed (h : s.Sound limits) (reason : SubscriptionCloseReason)
    (hregistered : s.membership = .registered) :
    { s with membership := .removed reason }.Sound limits where
  bytes := h.bytes
  withinBytes := h.withinBytes
  withinMessages := h.withinMessages
  observed := by
    have hobserved := h.observed
    rw [hregistered] at hobserved
    exact hobserved
  ordered := h.ordered
  current hnot := by cases hnot
  opening := h.opening
  opened := h.opened
  idle := h.idle

theorem Sound.noted (h : s.Sound limits) (notification : ServerNotification)
    (hlost : s.membership = .registered →
      notification.taggedSubscriptionNotification s.subscriptionId = none) :
    { s with matching := s.matching ++ [notification] }.Sound limits where
  bytes := h.bytes
  withinBytes := h.withinBytes
  withinMessages := h.withinMessages
  observed := h.observed
  ordered := by
    rw [messages_append]
    exact h.ordered.trans (List.prefix_append _ _)
  current hregistered hreceiver := by
    rw [messages_append, hlost hregistered, Option.toList_none, List.append_nil]
    exact h.current hregistered hreceiver
  opening := h.opening
  opened := h.opened
  idle := h.idle

theorem Sound.enqueued (h : s.Sound limits) {notification : ServerNotification} {message : Json}
    (hregistered : s.membership = .registered)
    (htag : notification.taggedSubscriptionNotification s.subscriptionId = some message)
    (hok : { s with matching := s.matching ++ [notification] }.tryEnqueue limits message =
      .ok next) : next.Sound limits := by
  obtain ⟨hlimit, hreceiver, hbytes, hroom, rfl⟩ := try_enqueue_ok hok
  have hmessages := messages_append (s := s) notification
  rw [htag, Option.toList_some] at hmessages
  have hqueued : s.queued ++ [message] = s.messages ++ [message] := by
    rw [h.current hregistered hreceiver]
  have hcurrent : s.received ++ (s.inHand.toList ++ (s.notifications ++ [message])) =
      { s with matching := s.matching ++ [notification] }.messages := by
    rw [hmessages, ← hqueued]
    unfold queued
    rw [List.append_assoc, List.append_assoc]
  refine ⟨?_, hbytes, ?_, h.observed, ⟨[], ?_⟩, fun _ _ => hcurrent, h.opening, h.opened,
    h.idle⟩
  · have hsize := messages_size_append s.notifications [message]
    have hone : messagesSize [message] = message.size := by
      unfold messagesSize
      rw [List.map_singleton, List.sum_singleton]
    have hbefore := h.bytes
    show s.bufferedBytes + message.size = _
    dsimp only
    omega
  · have hcapacity := channel_capacity_le hlimit
    dsimp only at hroom ⊢
    rw [List.length_append, List.length_singleton]
    omega
  · rw [List.append_nil]
    exact hcurrent

theorem Sound.offer (h : s.Sound limits) (notification : ServerNotification) :
    (s.offer limits notification).Sound limits := by
  unfold ModernSubscription.offer
  dsimp only
  by_cases hregistered : s.membership = .registered
  · rw [if_pos hregistered]
    cases hmatches : notification.subscriptionMatches s.filter with
    | false =>
      unfold route
      simp only [Bool.false_eq_true, if_false, hmatches]
      split
      next => exact h
      next => exact h.removed .disconnected hregistered
    | true =>
      unfold route
      simp only [if_true, hmatches]
      cases htag : notification.taggedSubscriptionNotification s.subscriptionId with
      | none => exact h.noted notification fun _ => htag
      | some message =>
        dsimp only
        split
        next hok => exact h.enqueued hregistered htag hok
        next error _ =>
          have hremoved := h.removed (closeReason error) hregistered
          exact hremoved.noted notification fun hnot => (nomatch hnot)
  · rw [if_neg hregistered]
    split
    next => exact h.noted notification fun hnot => absurd hnot hregistered
    next => exact h

theorem Sound.take (h : s.Sound limits) (reason : SubscriptionCloseReason) :
    (s.take reason).Sound limits := by
  unfold ModernSubscription.take
  split
  next hregistered => exact h.removed reason hregistered
  next => exact h

theorem Sound.settle (h : s.Sound limits) (hsettle : s.settle serverInfo = some next) :
    next.Sound limits := by
  unfold ModernSubscription.settle at hsettle
  split at hsettle
  next reason hremoved =>
    have hobserved : s.observed + 1 = 1 := by
      have hbefore := h.observed
      rw [hremoved] at hbefore
      rw [hbefore]
      rfl
    split at hsettle
    next =>
      cases hsettle
      exact ⟨h.bytes, h.withinBytes, h.withinMessages, hobserved, h.ordered,
        fun hnot => (nomatch hnot), h.opening, h.opened, h.idle⟩
    next =>
      cases hsettle
      exact ⟨h.bytes, h.withinBytes, h.withinMessages, hobserved, h.ordered,
        fun hnot => (nomatch hnot), h.opening, h.opened, h.idle⟩
  next => cases hsettle

theorem Sound.discard (h : s.Sound limits) (hdiscard : s.discard = some next) :
    next.Sound limits := by
  obtain ⟨_, heq⟩ := Option.ite_none_right_eq_some.1 hdiscard
  cases heq
  exact ⟨h.bytes, h.withinBytes, h.withinMessages, h.observed, h.ordered, h.current, h.opening,
    h.opened, h.idle⟩

theorem Sound.clear (h : s.Sound limits) : s.clear.Sound limits where
  bytes := by
    have hbytes := h.bytes
    show s.bufferedBytes - messagesSize s.notifications = 0 + messagesSize s.inHand.toList
    omega
  withinBytes := by
    have hbytes := h.withinBytes
    show s.bufferedBytes - messagesSize s.notifications ≤ _
    omega
  withinMessages := Nat.zero_le _
  observed := h.observed
  ordered := by
    show s.received ++ (s.inHand.toList ++ []) <+: s.messages
    rw [List.append_nil]
    have hqueued : s.received ++ s.inHand.toList <+: s.queued := by
      unfold queued
      rw [← List.append_assoc]
      exact List.prefix_append _ _
    exact hqueued.trans h.ordered
  current _ hnot := by cases hnot
  opening := h.opening
  opened := h.opened
  idle := h.idle

theorem Sound.take_first (h : s.Sound limits) (htake : s.takeFirst = some next) :
    next.Sound limits := by
  unfold takeFirst at htake
  split at htake
  next first hfirst =>
    obtain ⟨_, heq⟩ := Option.ite_none_right_eq_some.1 htake
    cases heq
    obtain ⟨hack, hyielded, hreceived, hinHand, hdone⟩ := h.opening first hfirst
    refine ⟨h.bytes, h.withinBytes, h.withinMessages, h.observed, h.ordered, h.current,
      fun _ hnone => (nomatch hnone), fun _ => ⟨[], Nat.zero_le _, fun _ => rfl, ?_⟩, h.idle⟩
    show s.yielded ++ [ListenItem.acknowledgment first] = .acknowledgment s.acknowledgment ::
      (s.received.map ListenItem.notification ++ [])
    rw [hyielded, hreceived, hack]
    rfl
  next => cases htake

theorem Sound.last (h : s.Sound limits) (hpolls : s.polls = true) (hfirst : s.first.isNone = true)
    (message : Json) {s' : ModernSubscription} (hs' : s'.Sound limits)
    (hsame : s'.first = s.first ∧ s'.yielded = s.yielded ∧ s'.received = s.received ∧
      s'.inHand = s.inHand ∧ s'.acknowledgment = s.acknowledgment) :
    ({ s' with done := true }.yieldItem (.terminal message)).Sound limits := by
  obtain ⟨hfirst', hyielded, hreceived, hinHand, hack⟩ := hsame
  unfold polls at hpolls
  simp only [Bool.and_eq_true, Bool.not_eq_true', Option.isNone_iff_eq_none] at hpolls hfirst
  obtain ⟨⟨_, hdone⟩, hnone⟩ := hpolls
  obtain ⟨terminals, _, hempty, hbefore⟩ := h.opened hfirst
  refine ⟨hs'.bytes, hs'.withinBytes, hs'.withinMessages, hs'.observed, hs'.ordered, hs'.current,
    fun first hsome => ?_, fun _ => ⟨[message], Nat.le_refl _, fun hnot => (nomatch hnot), ?_⟩,
    fun _ => hinHand.trans hnone⟩
  · have hsome' : s'.first = some first := hsome
    rw [hfirst', hfirst] at hsome'
    cases hsome'
  · show s'.yielded ++ [ListenItem.terminal message] = .acknowledgment s'.acknowledgment ::
      (s'.received.map ListenItem.notification ++ [ListenItem.terminal message])
    rw [hyielded, hreceived, hack, hbefore, hempty hdone]
    simp

theorem Sound.take_terminal (h : s.Sound limits) (htake : s.takeTerminal = some next) :
    next.Sound limits := by
  obtain ⟨hguard, heq⟩ := Option.ite_none_right_eq_some.1 htake
  obtain ⟨hpolls, hfirst, _, _⟩ := hguard
  split at heq
  next error _ =>
    cases heq
    have hcleared : { s.clear with awaitsTerminal := false }.Sound limits := by
      have hclear := h.clear
      exact ⟨hclear.bytes, hclear.withinBytes, hclear.withinMessages, hclear.observed,
        hclear.ordered, hclear.current, hclear.opening, hclear.opened, hclear.idle⟩
    exact h.last hpolls hfirst error hcleared ⟨rfl, rfl, rfl, rfl, rfl⟩
  next =>
    cases heq
    exact ⟨h.bytes, h.withinBytes, h.withinMessages, h.observed, h.ordered, h.current, h.opening,
      h.opened, h.idle⟩
  next =>
    split at heq
    next => cases heq
    next =>
      cases heq
      exact ⟨h.bytes, h.withinBytes, h.withinMessages, h.observed, h.ordered, h.current,
        h.opening, h.opened, h.idle⟩

theorem Sound.receive (h : s.Sound limits) (hreceive : s.receive = some next) :
    next.Sound limits := by
  unfold ModernSubscription.receive at hreceive
  split at hreceive
  next message rest hqueue =>
    obtain ⟨⟨hpolls, hfirst⟩, heq⟩ := Option.ite_none_right_eq_some.1 hreceive
    cases heq
    unfold polls at hpolls
    simp only [Bool.and_eq_true, Bool.not_eq_true', Option.isNone_iff_eq_none] at hpolls hfirst
    obtain ⟨⟨_, hdone⟩, hnone⟩ := hpolls
    have hqueued : s.received ++ ([message] ++ rest) = s.queued := by
      unfold queued
      rw [hnone, hqueue]
      rfl
    refine ⟨?_, h.withinBytes, ?_, h.observed, ?_, fun hregistered hreceiver => ?_,
      fun first hsome => ?_, h.opened, fun hnot => ?_⟩
    · have hbytes := h.bytes
      rw [hqueue, hnone] at hbytes
      show s.bufferedBytes = messagesSize rest + messagesSize [message]
      unfold messagesSize at hbytes ⊢
      simp only [List.map_cons, List.sum_cons, Option.toList_none, List.map_nil,
        List.sum_nil] at hbytes ⊢
      omega
    · have hmessages := h.withinMessages
      rw [hqueue, List.length_cons] at hmessages
      show rest.length ≤ _
      omega
    · show s.received ++ ([message] ++ rest) <+: s.messages
      rw [hqueued]
      exact h.ordered
    · show s.received ++ ([message] ++ rest) = s.messages
      rw [hqueued]
      exact h.current hregistered hreceiver
    · have hsome' : s.first = some first := hsome
      rw [hfirst] at hsome'
      cases hsome'
    · have hdone' : s.done = true := hnot
      rw [hdone] at hdone'
      cases hdone'
  next => cases hreceive

theorem Sound.hand_over (h : s.Sound limits) (hhand : s.handOver = some next) :
    next.Sound limits := by
  unfold handOver at hhand
  split at hhand
  next message hinHand =>
    cases hhand
    have hdone : s.done = false := by
      cases hdone : s.done with
      | false => rfl
      | true =>
        rw [h.idle hdone] at hinHand
        cases hinHand
    have hqueued : (s.received ++ [message]) ++ s.notifications = s.queued := by
      unfold queued
      rw [hinHand, List.append_assoc]
      rfl
    have hbytes := h.bytes
    rw [hinHand] at hbytes
    have hone : messagesSize (some message).toList = message.size := by simp [messagesSize]
    refine ⟨?_, ?_, h.withinMessages, h.observed, ?_, fun hregistered hreceiver => ?_,
      fun first hsome => ?_, fun hnone => ?_, fun _ => rfl⟩
    · show s.bufferedBytes - message.size = messagesSize s.notifications + 0
      omega
    · have hwithin := h.withinBytes
      show s.bufferedBytes - message.size ≤ _
      omega
    · show (s.received ++ [message]) ++ s.notifications <+: s.messages
      rw [hqueued]
      exact h.ordered
    · show (s.received ++ [message]) ++ s.notifications = s.messages
      rw [hqueued]
      exact h.current hregistered hreceiver
    · obtain ⟨_, _, _, hempty, _⟩ := h.opening first hsome
      rw [hinHand] at hempty
      cases hempty
    · obtain ⟨terminals, _, hempty, hbefore⟩ := h.opened hnone
      refine ⟨[], Nat.zero_le _, fun _ => rfl, ?_⟩
      show s.yielded ++ [ListenItem.notification message] = .acknowledgment s.acknowledgment ::
        ((s.received ++ [message]).map ListenItem.notification ++ [])
      rw [hbefore, hempty hdone]
      simp
  next => cases hhand

theorem Sound.drop_stream (h : s.Sound limits) (hdrop : s.dropStream = some next) :
    next.Sound limits := by
  obtain ⟨_, heq⟩ := Option.ite_none_right_eq_some.1 hdrop
  cases heq
  have hclear := h.clear
  exact ⟨hclear.bytes, hclear.withinBytes, hclear.withinMessages, hclear.observed, hclear.ordered,
    hclear.current, hclear.opening, hclear.opened, hclear.idle⟩

theorem Sound.end_queue (h : s.Sound limits) (hend : s.endQueue = some next) :
    next.Sound limits := by
  obtain ⟨⟨hpolls, hfirst, _⟩, heq⟩ := Option.ite_none_right_eq_some.1 hend
  split at heq
  next completion _ =>
    cases heq
    have hwithout : { s with gracefulCompletion := none }.Sound limits :=
      ⟨h.bytes, h.withinBytes, h.withinMessages, h.observed, h.ordered, h.current, h.opening,
        h.opened, h.idle⟩
    exact h.last hpolls hfirst completion hwithout ⟨rfl, rfl, rfl, rfl, rfl⟩
  next =>
    split at heq
    next => cases heq
    next => exact h.drop_stream heq

theorem Sound.drop_guard (h : s.Sound limits) (hdrop : s.dropGuard = some next) :
    next.Sound limits := by
  obtain ⟨_, heq⟩ := Option.ite_none_right_eq_some.1 hdrop
  cases heq
  have hguard : { s with guard := false }.Sound limits :=
    ⟨h.bytes, h.withinBytes, h.withinMessages, h.observed, h.ordered, h.current, h.opening,
      h.opened, h.idle⟩
  exact hguard.take .disconnected

theorem Sound.move (h : s.Sound limits) {move : Move} (hmove : s.move serverInfo move = some next) :
    next.Sound limits := by
  cases move with
  | settle => exact h.settle hmove
  | discard => exact h.discard hmove
  | takeFirst => exact h.take_first hmove
  | takeTerminal => exact h.take_terminal hmove
  | receive => exact h.receive hmove
  | handOver => exact h.hand_over hmove
  | endQueue => exact h.end_queue hmove
  | dropStream => exact h.drop_stream hmove
  | dropGuard => exact h.drop_guard hmove

def Released (s : ModernSubscription) : Prop :=
  s.guard = false → s.membership ≠ .registered

def Stays (s next : ModernSubscription) : Prop :=
  next.principal = s.principal ∧ (next.membership = .registered → s.membership = .registered) ∧
    (s.Released → next.Released)

theorem stays_take (reason : SubscriptionCloseReason) : Stays s (s.take reason) := by
  unfold ModernSubscription.take
  split
  next => exact ⟨rfl, fun hnot => (nomatch hnot), fun _ _ hnot => (nomatch hnot)⟩
  next => exact ⟨rfl, fun hregistered => hregistered, fun hreleased => hreleased⟩

theorem stays_offer (notification : ServerNotification) :
    Stays s (s.offer limits notification) := by
  have hroute : ∀ noted : ModernSubscription, noted.principal = s.principal →
      noted.membership = s.membership → noted.guard = s.guard →
      Stays s (noted.route limits notification) := by
    intro noted hprincipal hmembership hguard
    have hsame : Stays s noted := by
      unfold Stays Released
      rw [hmembership, hguard]
      exact ⟨hprincipal, fun hregistered => hregistered, fun hreleased => hreleased⟩
    unfold route
    split
    next =>
      split
      next => exact hsame
      next =>
        split
        next hok =>
          obtain ⟨_, _, _, _, rfl⟩ := try_enqueue_ok hok
          exact hsame
        next => exact ⟨hprincipal, fun hnot => (nomatch hnot), fun _ _ hnot => (nomatch hnot)⟩
    next =>
      split
      next => exact hsame
      next => exact ⟨hprincipal, fun hnot => (nomatch hnot), fun _ _ hnot => (nomatch hnot)⟩
  unfold offer
  dsimp only
  split
  next =>
    split
    next => exact hroute _ rfl rfl rfl
    next => exact hroute _ rfl rfl rfl
  next =>
    split
    next => exact ⟨rfl, fun hregistered => hregistered, fun hreleased => hreleased⟩
    next => exact ⟨rfl, fun hregistered => hregistered, fun hreleased => hreleased⟩

theorem stays_move {move : Move} (hmove : s.move serverInfo move = some next) : Stays s next := by
  have hdrop : ∀ {dropped}, s.dropStream = some dropped → Stays s dropped := by
    intro dropped hdropped
    obtain ⟨_, heq⟩ := Option.ite_none_right_eq_some.1 hdropped
    cases heq
    exact ⟨rfl, fun hregistered => hregistered, fun hreleased => hreleased⟩
  cases move with
  | settle =>
    have hsettle : s.settle serverInfo = some next := hmove
    unfold settle at hsettle
    split at hsettle
    next =>
      split at hsettle
      next =>
        cases hsettle
        exact ⟨rfl, fun hnot => (nomatch hnot), fun _ _ hnot => (nomatch hnot)⟩
      next =>
        cases hsettle
        exact ⟨rfl, fun hnot => (nomatch hnot), fun _ _ hnot => (nomatch hnot)⟩
    next => cases hsettle
  | discard =>
    obtain ⟨_, heq⟩ := Option.ite_none_right_eq_some.1 hmove
    cases heq
    exact ⟨rfl, fun hregistered => hregistered, fun hreleased => hreleased⟩
  | takeFirst =>
    have htake : s.takeFirst = some next := hmove
    unfold takeFirst at htake
    split at htake
    next =>
      obtain ⟨_, heq⟩ := Option.ite_none_right_eq_some.1 htake
      cases heq
      exact ⟨rfl, fun hregistered => hregistered, fun hreleased => hreleased⟩
    next => cases htake
  | takeTerminal =>
    obtain ⟨_, heq⟩ := Option.ite_none_right_eq_some.1 hmove
    split at heq
    next =>
      cases heq
      exact ⟨rfl, fun hregistered => hregistered, fun hreleased => hreleased⟩
    next =>
      cases heq
      exact ⟨rfl, fun hregistered => hregistered, fun hreleased => hreleased⟩
    next =>
      split at heq
      next => cases heq
      next =>
        cases heq
        exact ⟨rfl, fun hregistered => hregistered, fun hreleased => hreleased⟩
  | receive =>
    have hreceive : s.receive = some next := hmove
    unfold receive at hreceive
    split at hreceive
    next =>
      obtain ⟨_, heq⟩ := Option.ite_none_right_eq_some.1 hreceive
      cases heq
      exact ⟨rfl, fun hregistered => hregistered, fun hreleased => hreleased⟩
    next => cases hreceive
  | handOver =>
    have hhand : s.handOver = some next := hmove
    unfold handOver at hhand
    split at hhand
    next =>
      cases hhand
      exact ⟨rfl, fun hregistered => hregistered, fun hreleased => hreleased⟩
    next => cases hhand
  | endQueue =>
    obtain ⟨_, heq⟩ := Option.ite_none_right_eq_some.1 hmove
    split at heq
    next =>
      cases heq
      exact ⟨rfl, fun hregistered => hregistered, fun hreleased => hreleased⟩
    next =>
      split at heq
      next => cases heq
      next => exact hdrop heq
  | dropStream => exact hdrop hmove
  | dropGuard =>
    obtain ⟨_, heq⟩ := Option.ite_none_right_eq_some.1 hmove
    cases heq
    have htake := stays_take (s := { s with guard := false }) .disconnected
    refine ⟨htake.1, htake.2.1, fun _ _ => ?_⟩
    unfold ModernSubscription.take
    split
    next => exact fun hnot => (nomatch hnot)
    next hnot => exact hnot

end ModernSubscription

/-! ## The whole registry -/

namespace ModernSubscriptionRegistry

variable {limits : SubscriptionLimits} {serverInfo : Option Json}
  {s next : ModernSubscriptionRegistry}

theorem active_with_start (hnumbered : s.Numbered) (p : Option SubscriptionPrincipal → Bool)
    (subscription : ModernSubscription) :
    activeWith (s.start subscription) p ≤ s.activeWith p +
      if p subscription.principal then 1 else 0 := by
  have htotal := FinMap.total_insert_of_lookup_none (a := subscription)
    (f := fun s : ModernSubscription => if s.membership = .registered ∧ p s.principal then 1 else 0)
    (m := s.calls) hnumbered.get_next
  have hle : (if subscription.membership = .registered ∧ p subscription.principal then 1 else 0) ≤
      if p subscription.principal then 1 else 0 := by
    split <;> split <;> simp_all
  unfold activeWith Pool.start
  dsimp only
  omega

theorem active_with_become_le {key : ℕ} {subscription moved : ModernSubscription}
    (hget : s.get key = some subscription) (p : Option SubscriptionPrincipal → Bool)
    (hstays : subscription.Stays moved) :
    activeWith (s.become key moved) p ≤ s.activeWith p := by
  have htotal := FinMap.total_insert_of_lookup (a := moved)
    (f := fun s : ModernSubscription => if s.membership = .registered ∧ p s.principal then 1 else 0)
    hget
  have hle : (if moved.membership = .registered ∧ p moved.principal then 1 else 0) ≤
      if subscription.membership = .registered ∧ p subscription.principal then 1 else 0 := by
    rw [hstays.1]
    by_cases hmoved : moved.membership = .registered ∧ p subscription.principal
    · rw [if_pos hmoved, if_pos ⟨hstays.2.1 hmoved.1, hmoved.2⟩]
    · rw [if_neg hmoved]
      exact Nat.zero_le _
  unfold activeWith Pool.become
  dsimp only
  omega

theorem active_with_map_le (f : ModernSubscription → ModernSubscription)
    (p : Option SubscriptionPrincipal → Bool)
    (hstays : ∀ subscription : ModernSubscription, subscription.Stays (f subscription)) :
    activeWith (s.map f) p ≤ s.activeWith p := by
  unfold activeWith Pool.map
  rw [FinMap.total_map_values]
  refine FinMap.total_le_total fun subscription _ => ?_
  rw [Function.comp_apply, (hstays subscription).1]
  by_cases hmoved : (f subscription).membership = .registered ∧ p subscription.principal
  · rw [if_pos hmoved, if_pos ⟨(hstays subscription).2.1 hmoved.1, hmoved.2⟩]
  · rw [if_neg hmoved]
    exact Nat.zero_le _

def Bounded (limits : SubscriptionLimits) (s : ModernSubscriptionRegistry) : Prop :=
  s.active ≤ limits.maxActive ∧
    ∀ principal most, limits.maxActivePerPrincipal = some most → s.activeFor principal ≤ most

structure WellKept (limits : SubscriptionLimits) (s : ModernSubscriptionRegistry) : Prop where
  numbered : s.Numbered
  bounded : Bounded limits s
  sound : s.Holds (ModernSubscription.Sound limits)
  released : s.Holds ModernSubscription.Released

theorem Bounded.of_le (h : Bounded limits s)
    (hle : ∀ p, next.activeWith p ≤ s.activeWith p) : Bounded limits next :=
  ⟨(hle _).trans h.1, fun principal most hmost => (hle _).trans (h.2 principal most hmost)⟩

theorem WellKept.try_register (h : s.WellKept limits) {subscriptionId : RequestId}
    {filter : SubscriptionFilter} {principal : Option SubscriptionPrincipal}
    (hok : s.tryRegister limits subscriptionId filter principal = .ok next) :
    next.WellKept limits := by
  unfold tryRegister at hok
  split at hok
  next => cases hok
  next =>
    split at hok
    next => cases hok
    next hglobal =>
      split at hok
      next => cases hok
      next hprincipal =>
        injection hok with heq
        subst heq
        refine ⟨h.numbered.start _, ⟨?_, fun other most hmost => ?_⟩, h.sound.start ?_,
          h.released.start ?_⟩
        · have hstart := active_with_start h.numbered (fun _ => true)
            { subscriptionId, filter, principal
              first := some (subscriptionAcknowledgment subscriptionId filter) }
          rw [if_pos rfl] at hstart
          unfold active at hglobal ⊢
          omega
        · have hstart := active_with_start h.numbered (fun held => decide (held = some other))
            { subscriptionId, filter, principal
              first := some (subscriptionAcknowledgment subscriptionId filter) }
          have hbefore := h.bounded.2 other most hmost
          unfold activeFor at hbefore ⊢
          by_cases hsame : principal = some other
          · subst hsame
            unfold principalFull at hprincipal
            rw [hmost] at hprincipal
            have hroom : s.activeFor other < most := by simpa using hprincipal
            rw [if_pos (decide_eq_true rfl)] at hstart
            unfold activeFor at hroom
            omega
          · rw [if_neg (by simpa using hsame)] at hstart
            omega
        · refine ⟨rfl, Nat.zero_le _, Nat.zero_le _, rfl, List.nil_prefix, fun _ _ => rfl,
            fun first hfirst => ?_, fun hnone => (nomatch hnone), fun _ => rfl⟩
          cases hfirst
          exact ⟨rfl, rfl, rfl, rfl, rfl⟩
        · intro hguard
          cases hguard

theorem WellKept.step {event : Event} (h : s.WellKept limits)
    (hstep : s.step limits serverInfo event = some next) : next.WellKept limits := by
  cases event with
  | register subscriptionId filter principal =>
    unfold ModernSubscriptionRegistry.step at hstep
    dsimp only at hstep
    split at hstep
    next hok =>
      cases hstep
      exact h.try_register hok
    next =>
      cases hstep
      exact h
  | publish notification =>
    cases hstep
    unfold ModernSubscriptionRegistry.publish
    split
    next =>
      refine ⟨h.numbered.map _, h.bounded.of_le fun p => ?_,
        h.sound.map fun _ hsound => hsound.offer notification,
        h.released.map fun _ => (ModernSubscription.stays_offer notification).2.2⟩
      exact active_with_map_le _ p fun _ => ModernSubscription.stays_offer notification
    next => exact h
  | closeAll =>
    cases hstep
    refine ⟨h.numbered.map _, h.bounded.of_le fun p => ?_,
      h.sound.map fun _ hsound => hsound.take .drained,
      h.released.map fun _ => (ModernSubscription.stays_take .drained).2.2⟩
    exact active_with_map_le _ p fun _ => ModernSubscription.stays_take .drained
  | move key move =>
    obtain ⟨subscription, hget, hmoved⟩ := Option.bind_eq_some_iff.1 hstep
    obtain ⟨moved, hmove, rfl⟩ := Option.map_eq_some_iff.1 hmoved
    refine ⟨h.numbered.become hget moved, h.bounded.of_le fun p => ?_,
      h.sound.become ((h.sound key subscription hget).move hmove), h.released.become
        ((ModernSubscription.stays_move hmove).2.2 (h.released key subscription hget))⟩
    exact active_with_become_le hget p (ModernSubscription.stays_move hmove)

/-- What a subscription is promised: its bytes are those of the messages in its channel and of the
one its stream has in hand, both are within the limits, its close is observed once, by whoever has
taken it out, and its stream yields the acknowledgment, then the messages of the first notifications
that matched, then at most one last message. -/
structure Served (limits : SubscriptionLimits) (s : ModernSubscription) : Prop where
  bytes : s.bufferedBytes = messagesSize s.notifications + messagesSize s.inHand.toList
  exact : s.inHand = none → s.bufferedBytes = messagesSize s.notifications
  withinBytes : s.bufferedBytes ≤ limits.maxBufferedBytes
  withinMessages : s.notifications.length ≤ limits.maxBufferedMessages
  observed : s.observed + (if s.membership = .closed then 0 else 1) = 1
  released : s.guard = false → s.membership ≠ .registered
  yields : s.yielded = [] ∨ ∃ notifications terminals : List Json,
    s.yielded = .acknowledgment s.acknowledgment ::
      (notifications.map .notification ++ terminals.map .terminal) ∧
      notifications <+: s.messages ∧ terminals.length ≤ 1

theorem served_of_sound {s : ModernSubscription} (h : s.Sound limits) (hreleased : s.Released) :
    Served limits s where
  bytes := h.bytes
  exact hnone := by
    rw [h.bytes, hnone]
    rfl
  withinBytes := h.withinBytes
  withinMessages := h.withinMessages
  observed := by
    rw [h.observed]
    split <;> rfl
  released := hreleased
  yields := by
    cases hfirst : s.first with
    | some first => exact .inl (h.opening first hfirst).2.1
    | none =>
      obtain ⟨terminals, hlength, _, hyielded⟩ := h.opened hfirst
      have hreceived : s.received <+: s.queued := List.prefix_append _ _
      exact .inr ⟨s.received, terminals, hyielded, hreceived.trans h.ordered, hlength⟩

def YieldsPrefix (s : ModernSubscription) : Prop :=
  ∃ notifications, notifications <+: s.matching ∧
    (notifications.map fun notification =>
      notification.taggedSubscriptionNotification s.subscriptionId) = s.received.map some

end ModernSubscriptionRegistry

end TowerMcp
