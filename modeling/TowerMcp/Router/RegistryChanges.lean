import Mathlib.Data.List.Dedup
import Mathlib.Data.List.Find
import TowerMcp.Lib.Channel
import TowerMcp.Lib.Execution
import TowerMcp.Lib.Pool
import TowerMcp.Transport.Notifications

/-!
# Changes of the dynamic registries

The four registries of `registry.rs`, and the `list_changed` notifications that their operations send
to the sessions that are attached to them. An operation writes under the lock of the registry and
broadcasts once it has released it; a broadcast takes the open senders and sends to one after the
other, each by `try_send` on the bounded channel of the session, which other notifications share.

`changes_reach_sessions` says when no session misses a change.
-/

namespace TowerMcp

open Execution FinMap Pool Channel

namespace RegistryChanges

/-! ## Registries -/

inductive RegistryKind where
  | tools
  | prompts
  | resources
  | resourceTemplates
deriving DecidableEq

namespace RegistryKind

def listChanged : RegistryKind → ServerNotification
  | .tools => .toolsListChanged
  | .prompts => .promptsListChanged
  | .resources | .resourceTemplates => .resourcesListChanged

def isToldBy : RegistryKind → ServerNotification → Bool
  | .tools, .toolsListChanged | .prompts, .promptsListChanged
  | .resources, .resourcesListChanged | .resourceTemplates, .resourcesListChanged => true
  | _, _ => false

@[simp] theorem is_told_by_list_changed (registry : RegistryKind) :
    registry.isToldBy registry.listChanged = true := by
  cases registry <;> rfl

end RegistryKind

/-- What a `replace_all` call changed, by key. -/
structure RegistryChange where
  added : List String := []
  removed : List String := []
  replaced : List String := []
deriving DecidableEq

def sortedKeys (keys : List String) (p : String → Bool) : List String :=
  (keys.dedup.filter p).mergeSort fun first second => decide (first ≤ second)

def RegistryChange.between (previous current : List String) : RegistryChange where
  added := sortedKeys current fun key => !previous.contains key
  removed := sortedKeys previous fun key => !current.contains key
  replaced := sortedKeys current fun key => previous.contains key

section Contents

variable {α : Type} (key : α → String)

def register (contents : List α) (item : α) : List α :=
  contents.filter (fun other => key other != key item) ++ [item]

def unregister (contents : List α) (name : String) : List α × Bool :=
  (contents.filter fun other => key other != name, contents.any fun other => key other == name)

def replaceAll (contents items : List α) : List α × RegistryChange :=
  let current := items.foldl (register key) []
  (current, .between (contents.map key) (current.map key))

inductive Operation (α : Type) where
  | register (item : α)
  | unregister (name : String)
  | replaceAll (items : List α)

namespace Operation

def apply (contents : List α) : Operation α → List α
  | .register item => RegistryChanges.register key contents item
  | .unregister name => (RegistryChanges.unregister key contents name).1
  | .replaceAll items => (RegistryChanges.replaceAll key contents items).1

def broadcasts (contents : List α) : Operation α → Bool
  | .register _ | .replaceAll _ => true
  | .unregister name => (RegistryChanges.unregister key contents name).2

def isEffective (contents : List α) : Operation α → Bool
  | .register _ => true
  | .unregister name => (RegistryChanges.unregister key contents name).2
  | .replaceAll items => !(contents.isEmpty && items.isEmpty)

variable {key} {contents : List α} {operation : Operation α}

theorem broadcasts_of_effective (h : operation.isEffective key contents = true) :
    operation.broadcasts key contents = true := by
  cases operation with
  | register _ | replaceAll _ => rfl
  | unregister _ => exact h

theorem apply_of_not_effective (h : operation.isEffective key contents = false) :
    operation.apply key contents = contents := by
  cases operation with
  | register _ => cases h
  | unregister name =>
    simp only [isEffective, RegistryChanges.unregister, List.any_eq_false, beq_iff_eq] at h
    refine List.filter_eq_self.2 fun other hmem => ?_
    simpa using h other hmem
  | replaceAll items =>
    simp only [isEffective, Bool.not_eq_eq_eq_not, Bool.not_false, Bool.and_eq_true,
      List.isEmpty_iff] at h
    obtain ⟨rfl, rfl⟩ := h
    rfl

end Operation

end Contents

/-! ## The machine -/

abbrev SessionId := ℕ

/-- A change with its place among all changes, what it left in its registry, and the sessions that
were attached to the registry. -/
structure Change (α : Type) where
  number : ℕ
  registry : RegistryKind
  contents : List α
  attached : List SessionId

structure Sent where
  notification : ServerNotification
  time : ℕ

inductive Broadcast where
  | waiting (registry : RegistryKind)
  | sending (registry : RegistryKind) (remaining : List SessionId)

def Broadcast.registry : Broadcast → RegistryKind
  | .waiting registry | .sending registry _ => registry

/-- An answer to a list request: what was in the registry, after how many changes, and what the
session had received before. -/
structure Listing (α : Type) where
  registry : RegistryKind
  contents : List α
  time : ℕ
  received : List Sent

/-- The registries with the senders attached to them, the channels of the sessions, and the
broadcasts under way. The changes and the answered list requests are history, the latest first. -/
structure World (α : Type) where
  contents : RegistryKind → List α := fun _ => []
  senders : RegistryKind → List SessionId := fun _ => []
  sessions : FinMap SessionId (Channel Sent) := ∅
  broadcasts : Pool Broadcast := {}
  changes : List (Change α) := []
  listings : List (Listing α) := []

/-- What happens: a session opens its channel or is attached to a registry; an operation writes; a
broadcast takes the senders, and sends to one of them; another notification is sent to a session; a
session receives, or closes its channel; a list request is handled. -/
inductive Event (α : Type) where
  | openSession (session : SessionId) (capacity : ℕ)
  | addNotificationSender (registry : RegistryKind) (session : SessionId)
  | operate (registry : RegistryKind) (operation : Operation α)
  | begin (ticket : ℕ)
  | send (ticket : ℕ)
  | notify (session : SessionId) (notification : ServerNotification)
  | receive (session : SessionId)
  | close (session : SessionId)
  | list (session : SessionId) (registry : RegistryKind)

namespace World

variable {α : Type} (world : World α)

def isOpen (session : SessionId) : Bool :=
  (world.sessions.lookup session).any Channel.isOpen

def deliver (session : SessionId) (notification : ServerNotification) : World α :=
  { world with
    sessions := world.sessions.modify session fun channel =>
      channel.trySend { notification, time := world.changes.length } }

def write (registry : RegistryKind) (contents : List α) (isEffective : Bool) : World α :=
  { world with
    contents := Function.update world.contents registry contents
    changes :=
      if isEffective then
        { number := world.changes.length + 1
          registry
          contents
          attached := world.senders registry } :: world.changes
      else world.changes }

def moveOn (ticket : ℕ) (registry : RegistryKind) (remaining : List SessionId) : World α :=
  { world with broadcasts := world.broadcasts.become ticket (.sending registry remaining) }

end World

def step {α : Type} (key : α → String) (world : World α) : Event α → Option (World α)
  | .openSession session capacity =>
    if session ∈ world.sessions ∨ capacity = 0 then none
    else some { world with sessions := world.sessions.insert session (.new capacity) }
  | .addNotificationSender registry session =>
    if session ∈ world.sessions then
      some { world with
        senders := Function.update world.senders registry (world.senders registry ++ [session]) }
    else none
  | .operate registry operation =>
    let before := world.contents registry
    let written :=
      world.write registry (operation.apply key before) (operation.isEffective key before)
    some
      (if operation.broadcasts key before then
        { written with broadcasts := world.broadcasts.start (.waiting registry) }
      else written)
  | .begin ticket => do
    match ← world.broadcasts.get ticket with
    | .waiting registry =>
      -- closed channels are cleaned up
      let senders := (world.senders registry).filter world.isOpen
      pure
        ({ world with senders := Function.update world.senders registry senders }.moveOn ticket
          registry senders)
    | .sending _ _ => none
  | .send ticket => do
    match ← world.broadcasts.get ticket with
    | .waiting _ => none
    | .sending _ [] => pure { world with broadcasts := world.broadcasts.finish ticket }
    | .sending registry (session :: remaining) =>
      pure ((world.deliver session registry.listChanged).moveOn ticket registry remaining)
  | .notify session notification =>
    if session ∈ world.sessions then some (world.deliver session notification) else none
  | .receive session => do
    let channel ← world.sessions.lookup session
    let next ← channel.receive
    pure { world with sessions := world.sessions.insert session next }
  | .close session => do
    let channel ← world.sessions.lookup session
    pure { world with sessions := world.sessions.insert session channel.close }
  | .list session registry => do
    let channel ← world.sessions.lookup session
    pure { world with
      listings :=
        { registry
          contents := world.contents registry
          time := world.changes.length
          received := channel.received } :: world.listings }

/-! ## No change is missed -/

variable {α : Type}

def contentsAt (changes : List (Change α)) (time : ℕ) (registry : RegistryKind) : List α :=
  match changes.find? fun change => change.registry == registry && decide (change.number ≤ time) with
  | some change => change.contents
  | none => []

/-- A session was told of a change: a notification of its list that was sent since is in the channel
or was received. -/
def Told (world : World α) (session : SessionId) (change : Change α) : Prop :=
  ∃ channel, world.sessions.lookup session = some channel ∧
    ∃ sent ∈ channel.accepted, change.registry.isToldBy sent.notification = true ∧
      change.number ≤ sent.time

def Broadcast.reaches (senders : RegistryKind → List SessionId) (session : SessionId) :
    Broadcast → Prop
  | .waiting registry => session ∈ senders registry
  | .sending _ remaining => session ∈ remaining

def Owed (world : World α) (isLeft : ℕ → Prop) (session : SessionId) (change : Change α) : Prop :=
  Told world session change ∨
    ∃ ticket broadcast, isLeft ticket ∧ world.broadcasts.get ticket = some broadcast ∧
      change.registry.isToldBy broadcast.registry.listChanged = true ∧
      broadcast.reaches world.senders session

def AllTold (world : World α) : Prop :=
  ∀ change ∈ world.changes, ∀ session ∈ change.attached, world.isOpen session = true →
    Owed world (fun _ => True) session change

/-- No session misses a change. Each is told of every change, by a notification sent since; once its
channel is empty and no broadcast is under way, the last notification of the list that it has received
was sent no earlier than any change; and a list request sees every change before the notifications
that the session had received. -/
structure NoneMissed (world : World α) : Prop where
  told : AllTold world
  last : (∀ ticket, world.broadcasts.get ticket = none) →
    ∀ session channel, world.sessions.lookup session = some channel → channel.isOpen = true →
      channel.queue = [] → ∀ change ∈ world.changes, session ∈ change.attached →
        ∃ sent, (channel.received.filter fun sent =>
          change.registry.isToldBy sent.notification).getLast? = some sent ∧
            change.number ≤ sent.time
  seen : ∀ listing ∈ world.listings,
    listing.contents = contentsAt world.changes listing.time listing.registry ∧
      ∀ sent ∈ listing.received, sent.time ≤ listing.time

/-- The step loses no change: a broadcast that finds the channel of a session full finds that the
session was told of every change of that list, or is going to be told by another broadcast, or by this
one later. -/
def Meets (world : World α) : Event α → Prop
  | .send ticket =>
    match world.broadcasts.get ticket with
    | some (.sending registry (session :: remaining)) =>
      ∀ channel, world.sessions.lookup session = some channel → channel.isOpen = true →
        channel.hasRoom = false →
          ∀ change ∈ world.changes, session ∈ change.attached →
            change.registry.isToldBy registry.listChanged = true →
              Owed world (· ≠ ticket) session change ∨ session ∈ remaining
    | _ => True
  | _ => True

/-! ## What holds in every state -/

/-- What holds in every state of a run: changes have their numbers and are changes of sessions that
have opened, notifications are held in the order of the changes before them, the registries hold what
the changes have left, and list requests have read it. -/
structure Sound (world : World α) : Prop where
  numbered : world.broadcasts.Numbered
  counted : ∀ change ∈ world.changes, change.number ≤ world.changes.length
  opened : ∀ registry, ∀ session ∈ world.senders registry, session ∈ world.sessions
  attached : ∀ change ∈ world.changes, ∀ session ∈ change.attached, session ∈ world.sessions
  timed : ∀ session channel, world.sessions.lookup session = some channel →
    ∀ sent ∈ channel.accepted, sent.time ≤ world.changes.length
  ordered : ∀ session channel, world.sessions.lookup session = some channel →
    channel.accepted.Pairwise fun earlier later => earlier.time ≤ later.time
  contents : ∀ registry,
    world.contents registry = contentsAt world.changes world.changes.length registry
  listed : ∀ listing ∈ world.listings, listing.time ≤ world.changes.length ∧
    listing.contents = contentsAt world.changes listing.time listing.registry ∧
      ∀ sent ∈ listing.received, sent.time ≤ listing.time

/-! ## What one step does -/

inductive Transition (key : α → String) (world : World α) : Event α → World α → Prop where
  | opened (session : SessionId) (capacity : ℕ) (fresh : session ∉ world.sessions) :
      Transition key world (.openSession session capacity)
        { world with sessions := world.sessions.insert session (.new capacity) }
  | added (registry : RegistryKind) (session : SessionId) (held : session ∈ world.sessions) :
      Transition key world (.addNotificationSender registry session)
        { world with
          senders := Function.update world.senders registry (world.senders registry ++ [session]) }
  | changed (registry : RegistryKind) (operation : Operation α)
      (effective : operation.isEffective key (world.contents registry) = true) :
      Transition key world (.operate registry operation)
        { world.write registry (operation.apply key (world.contents registry)) true with
          broadcasts := world.broadcasts.start (.waiting registry) }
  | unchanged (registry : RegistryKind) (operation : Operation α) (broadcasts : Pool Broadcast)
      (starts : broadcasts = world.broadcasts ∨
        broadcasts = world.broadcasts.start (.waiting registry)) :
      Transition key world (.operate registry operation) { world with broadcasts }
  | began (ticket : ℕ) (registry : RegistryKind)
      (waits : world.broadcasts.get ticket = some (.waiting registry)) :
      Transition key world (.begin ticket)
        (({ world with
          senders := Function.update world.senders registry
            ((world.senders registry).filter world.isOpen) } : World α).moveOn ticket registry
              ((world.senders registry).filter world.isOpen))
  | finished (ticket : ℕ) (registry : RegistryKind)
      (sends : world.broadcasts.get ticket = some (.sending registry [])) :
      Transition key world (.send ticket)
        { world with broadcasts := world.broadcasts.finish ticket }
  | sent (ticket : ℕ) (registry : RegistryKind) (session : SessionId)
      (remaining : List SessionId)
      (sends : world.broadcasts.get ticket = some (.sending registry (session :: remaining))) :
      Transition key world (.send ticket)
        ((world.deliver session registry.listChanged).moveOn ticket registry remaining)
  | notified (session : SessionId) (notification : ServerNotification) :
      Transition key world (.notify session notification) (world.deliver session notification)
  | received (session : SessionId) (channel next : Channel Sent)
      (held : world.sessions.lookup session = some channel)
      (receives : channel.receive = some next) :
      Transition key world (.receive session)
        { world with sessions := world.sessions.insert session next }
  | closed (session : SessionId) (channel : Channel Sent)
      (held : world.sessions.lookup session = some channel) :
      Transition key world (.close session)
        { world with sessions := world.sessions.insert session channel.close }
  | listed (session : SessionId) (registry : RegistryKind) (channel : Channel Sent)
      (held : world.sessions.lookup session = some channel) :
      Transition key world (.list session registry)
        { world with
          listings :=
            { registry
              contents := world.contents registry
              time := world.changes.length
              received := channel.received } :: world.listings }

section Steps

variable {key : α → String} {world next : World α} {event : Event α}

theorem write_unchanged (world : World α) (registry : RegistryKind) :
    world.write registry (world.contents registry) false = world := by
  simp [World.write]

theorem transition_of_step (h : step key world event = some next) :
    Transition key world event next := by
  cases event with
  | openSession session capacity =>
    obtain ⟨hnot, h⟩ := Option.ite_none_left_eq_some.1 h
    cases h
    exact .opened session capacity fun hmem => hnot (.inl hmem)
  | addNotificationSender registry session =>
    obtain ⟨hmem, h⟩ := Option.ite_none_right_eq_some.1 h
    cases h
    exact .added registry session hmem
  | operate registry operation =>
    cases h
    cases heffective : operation.isEffective key (world.contents registry) with
    | true =>
      rw [if_pos (Operation.broadcasts_of_effective heffective)]
      exact .changed registry operation heffective
    | false =>
      rw [Operation.apply_of_not_effective heffective, write_unchanged]
      split
      next => exact .unchanged registry operation _ (.inr rfl)
      next => exact .unchanged registry operation _ (.inl rfl)
  | begin ticket =>
    obtain ⟨broadcast, hget, h⟩ := Option.bind_eq_some_iff.1 h
    cases broadcast with
    | waiting registry =>
      cases h
      exact .began ticket registry hget
    | sending _ _ => cases h
  | send ticket =>
    obtain ⟨broadcast, hget, h⟩ := Option.bind_eq_some_iff.1 h
    cases broadcast with
    | waiting _ => cases h
    | sending registry remaining =>
      cases remaining with
      | nil =>
        cases h
        exact .finished ticket registry hget
      | cons session remaining =>
        cases h
        exact .sent ticket registry session remaining hget
  | notify session notification =>
    obtain ⟨_, h⟩ := Option.ite_none_right_eq_some.1 h
    cases h
    exact .notified session notification
  | receive session =>
    obtain ⟨channel, hheld, h⟩ := Option.bind_eq_some_iff.1 h
    obtain ⟨received, hreceives, h⟩ := Option.bind_eq_some_iff.1 h
    cases h
    exact .received session channel received hheld hreceives
  | close session =>
    obtain ⟨channel, hheld, h⟩ := Option.bind_eq_some_iff.1 h
    cases h
    exact .closed session channel hheld
  | list session registry =>
    obtain ⟨channel, hheld, h⟩ := Option.bind_eq_some_iff.1 h
    cases h
    exact .listed session registry channel hheld

/-! ## Every state is sound -/

theorem sound_init : Sound ({} : World α) where
  numbered := numbered_empty
  counted := List.forall_mem_nil _
  opened _ := List.forall_mem_nil _
  attached := List.forall_mem_nil _
  timed := by
    intro session channel h
    simp at h
  ordered := by
    intro session channel h
    simp at h
  contents _ := rfl
  listed := List.forall_mem_nil _

variable {other : SessionId}

theorem channel_insert_cases {sessions : FinMap SessionId (Channel Sent)} {session : SessionId}
    {channel held : Channel Sent} (h : (sessions.insert session channel).lookup other = some held) :
    (other = session ∧ held = channel) ∨ sessions.lookup other = some held := by
  rw [lookup_insert_eq_ite] at h
  split at h
  next hother => exact .inl ⟨hother, (Option.some.inj h).symm⟩
  next => exact .inr h

variable {notification : ServerNotification}

theorem channel_deliver_cases {session : SessionId} {held : Channel Sent}
    (h : (world.deliver session notification).sessions.lookup other = some held) :
    ∃ channel, world.sessions.lookup other = some channel ∧
      (held = channel ∨ other = session ∧
        held = channel.trySend { notification, time := world.changes.length }) := by
  unfold World.deliver at h
  dsimp only at h
  rw [lookup_modify_eq_ite] at h
  split at h
  next hother =>
    obtain ⟨channel, hchannel, rfl⟩ := Option.map_eq_some_iff.1 h
    exact ⟨channel, hother ▸ hchannel, .inr ⟨hother, rfl⟩⟩
  next => exact ⟨held, h, .inl rfl⟩

theorem mem_deliver_iff {session : SessionId} :
    other ∈ (world.deliver session notification).sessions ↔ other ∈ world.sessions := by
  unfold World.deliver
  dsimp only
  rw [mem_iff_lookup, mem_iff_lookup, lookup_modify_eq_ite]
  split
  next hother =>
    rw [hother]
    simp
  next => exact Iff.rfl

variable {change : Change α}

theorem contents_at_cons_of_lt {changes : List (Change α)} {time : ℕ} (h : time < change.number)
    (registry : RegistryKind) :
    contentsAt (change :: changes) time registry = contentsAt changes time registry := by
  unfold contentsAt
  have hlater : ¬change.number ≤ time := Nat.not_le.2 h
  simp [hlater]

theorem contents_at_cons (change : Change α) (changes : List (Change α)) {time : ℕ}
    (hcounted : ∀ earlier ∈ changes, earlier.number ≤ time) (h : change.number = time + 1)
    (registry : RegistryKind) :
    contentsAt (change :: changes) (time + 1) registry =
      if change.registry = registry then change.contents else contentsAt changes time registry := by
  have hearlier : changes.find? (fun earlier => earlier.registry == registry &&
      decide (earlier.number ≤ time + 1)) =
        changes.find? fun earlier => earlier.registry == registry &&
          decide (earlier.number ≤ time) := by
    refine List.find?_congr fun earlier hmem => ?_
    have hle := hcounted earlier hmem
    have hle' : earlier.number ≤ time + 1 := Nat.le_succ_of_le hle
    simp [hle, hle']
  unfold contentsAt
  by_cases hregistry : change.registry = registry
  · simp [hregistry, h]
  · simp [hregistry, hearlier]

theorem Sound.deliver (h : Sound world) (session : SessionId) (notification : ServerNotification) :
    Sound (world.deliver session notification) where
  numbered := h.numbered
  counted := h.counted
  opened registry other hmem := mem_deliver_iff.2 (h.opened registry other hmem)
  attached change hchange other hmem := mem_deliver_iff.2 (h.attached change hchange other hmem)
  timed := by
    intro other held hlookup
    obtain ⟨channel, hchannel, rfl | ⟨_, rfl⟩⟩ := channel_deliver_cases hlookup
    · exact h.timed other held hchannel
    · intro sent hmem
      rw [accepted_try_send] at hmem
      split at hmem
      next =>
        rcases List.mem_append.1 hmem with hheld | hnew
        · exact h.timed other channel hchannel sent hheld
        · rw [List.mem_singleton.1 hnew]
          exact le_refl world.changes.length
      next => exact h.timed other channel hchannel sent hmem
  ordered := by
    intro other held hlookup
    obtain ⟨channel, hchannel, rfl | ⟨_, rfl⟩⟩ := channel_deliver_cases hlookup
    · exact h.ordered other held hchannel
    · rw [accepted_try_send]
      split
      next =>
        refine List.pairwise_append.2 ⟨h.ordered other channel hchannel,
          List.pairwise_singleton _ _, fun earlier hmem later hlater => ?_⟩
        rw [List.mem_singleton.1 hlater]
        exact h.timed other channel hchannel earlier hmem
      next => exact h.ordered other channel hchannel
  contents := h.contents
  listed := h.listed

variable {session : SessionId}

theorem Sound.setChannel (h : Sound world) {channel next : Channel Sent}
    (hheld : world.sessions.lookup session = some channel)
    (hsublist : next.accepted.Sublist channel.accepted) :
    Sound { world with sessions := world.sessions.insert session next } where
  numbered := h.numbered
  counted := h.counted
  opened registry other hmem := AList.mem_insert _ |>.2 (.inr (h.opened registry other hmem))
  attached change hchange other hmem :=
    AList.mem_insert _ |>.2 (.inr (h.attached change hchange other hmem))
  timed := by
    intro other held hlookup
    obtain ⟨_, rfl⟩ | hlookup := channel_insert_cases hlookup
    · exact fun sent hmem => h.timed session channel hheld sent (hsublist.subset hmem)
    · exact h.timed other held hlookup
  ordered := by
    intro other held hlookup
    obtain ⟨_, rfl⟩ | hlookup := channel_insert_cases hlookup
    · exact (h.ordered session channel hheld).sublist hsublist
    · exact h.ordered other held hlookup
  contents := h.contents
  listed := h.listed

theorem Sound.changed (h : Sound world) (registry : RegistryKind) (contents : List α) :
    Sound { world.write registry contents true with
      broadcasts := world.broadcasts.start (.waiting registry) } where
  numbered := h.numbered.start _
  counted := by
    intro change hmem
    rcases List.mem_cons.1 hmem with rfl | hmem
    · exact le_refl (world.changes.length + 1)
    · exact Nat.le_succ_of_le (h.counted change hmem)
  opened := h.opened
  attached := by
    intro change hmem
    rcases List.mem_cons.1 hmem with rfl | hmem
    · exact h.opened registry
    · exact h.attached change hmem
  timed session channel hlookup sent hmem :=
    Nat.le_succ_of_le (h.timed session channel hlookup sent hmem)
  ordered := h.ordered
  contents := by
    intro other
    show Function.update world.contents registry contents other = contentsAt (_ :: world.changes)
      (world.changes.length + 1) other
    rw [contents_at_cons _ world.changes h.counted rfl]
    by_cases hother : other = registry
    · subst hother
      simp
    · rw [Function.update_of_ne hother, if_neg fun heq => hother heq.symm]
      exact h.contents other
  listed := by
    intro listing hmem
    obtain ⟨htime, hcontents, hreceived⟩ := h.listed listing hmem
    refine ⟨Nat.le_succ_of_le htime, ?_, hreceived⟩
    rw [hcontents]
    exact (contents_at_cons_of_lt (Nat.lt_succ_of_le htime) listing.registry).symm

theorem sound_step (h : Sound world) (hstep : step key world event = some next) : Sound next := by
  cases transition_of_step hstep with
  | opened session capacity fresh =>
    exact
      { numbered := h.numbered
        counted := h.counted
        opened := fun registry other hmem =>
          AList.mem_insert _ |>.2 (.inr (h.opened registry other hmem))
        attached := fun change hchange other hmem =>
          AList.mem_insert _ |>.2 (.inr (h.attached change hchange other hmem))
        timed := by
          intro other held hlookup
          obtain ⟨_, rfl⟩ | hlookup := channel_insert_cases hlookup
          · exact List.forall_mem_nil _
          · exact h.timed other held hlookup
        ordered := by
          intro other held hlookup
          obtain ⟨_, rfl⟩ | hlookup := channel_insert_cases hlookup
          · exact List.Pairwise.nil
          · exact h.ordered other held hlookup
        contents := h.contents
        listed := h.listed }
  | added registry session held =>
    refine { h with opened := ?_ }
    intro other named hmem
    by_cases hother : other = registry
    · subst hother
      simp only [Function.update_self, List.mem_append, List.mem_singleton] at hmem
      rcases hmem with hmem | rfl
      · exact h.opened other named hmem
      · exact held
    · simp only [Function.update_of_ne hother] at hmem
      exact h.opened other named hmem
  | changed registry operation _ => exact h.changed registry _
  | unchanged registry operation broadcasts starts =>
    refine { h with numbered := ?_ }
    rcases starts with rfl | rfl
    · exact h.numbered
    · exact h.numbered.start _
  | began ticket registry waits =>
    refine { h with numbered := h.numbered.become waits _, opened := ?_ }
    intro other named hmem
    simp only [World.moveOn] at hmem
    by_cases hother : other = registry
    · subst hother
      rw [Function.update_self] at hmem
      exact h.opened other named (List.mem_filter.1 hmem).1
    · rw [Function.update_of_ne hother] at hmem
      exact h.opened other named hmem
  | finished ticket registry sends => exact { h with numbered := h.numbered.finish ticket }
  | sent ticket registry session remaining sends =>
    exact { h.deliver session registry.listChanged with numbered := h.numbered.become sends _ }
  | notified session notification => exact h.deliver session notification
  | received session channel next held receives =>
    refine h.setChannel held ?_
    rw [(accepted_of_receive receives).1]
  | closed session channel held =>
    refine h.setChannel held ?_
    rw [accepted_close]
    exact List.sublist_append_left _ _
  | listed session registry channel held =>
    refine { h with listed := ?_ }
    intro listing hmem
    rcases List.mem_cons.1 hmem with rfl | hmem
    · exact ⟨le_refl _, h.contents registry, fun sent hsent =>
        h.timed session channel held sent (mem_accepted_of_received hsent)⟩
    · exact h.listed listing hmem

/-! ## What a session is told -/

theorem Told.mono (h : Told world session change)
    (hchannels : ∀ channel, world.sessions.lookup session = some channel →
      ∃ later, next.sessions.lookup session = some later ∧ channel.accepted ⊆ later.accepted) :
    Told next session change := by
  obtain ⟨channel, hchannel, sent, hmem, htold, htime⟩ := h
  obtain ⟨later, hlater, hsubset⟩ := hchannels channel hchannel
  exact ⟨later, hlater, sent, hsubset hmem, htold, htime⟩

theorem Told.of_eq (h : Told world session change)
    (hsame : next.sessions.lookup session = world.sessions.lookup session) :
    Told next session change :=
  h.mono fun channel hchannel => ⟨channel, hsame.trans hchannel, List.Subset.refl _⟩

theorem Told.deliver (h : Told world session change) (other : SessionId)
    (notification : ServerNotification) :
    Told (world.deliver other notification) session change := by
  refine h.mono fun channel hchannel => ?_
  unfold World.deliver
  dsimp only
  rw [lookup_modify_eq_ite]
  split
  next heq =>
    rw [← heq, hchannel]
    exact ⟨_, rfl, fun sent hmem => mem_accepted_try_send hmem _⟩
  next => exact ⟨channel, hchannel, List.Subset.refl _⟩

variable {channel : Channel Sent}

theorem told_of_full (hchannel : world.sessions.lookup session = some channel)
    (hfull : channel.hasRoom = false) (h : Told (world.deliver session notification) session change)
    : Told world session change := by
  obtain ⟨held, hheld, sent, hmem, htold, htime⟩ := h
  obtain ⟨earlier, hearlier, hcases⟩ := channel_deliver_cases hheld
  obtain rfl := Option.some.inj (hchannel.symm.trans hearlier)
  refine ⟨channel, hchannel, sent, ?_, htold, htime⟩
  rcases hcases with rfl | ⟨_, rfl⟩
  · exact hmem
  · simpa [accepted_try_send, hfull] using hmem

theorem told_of_room (hchannel : world.sessions.lookup session = some channel)
    (hroom : channel.hasRoom = true) (htold : change.registry.isToldBy notification = true)
    (hcounted : change.number ≤ world.changes.length) :
    Told (world.deliver session notification) session change := by
  refine ⟨channel.trySend { notification, time := world.changes.length }, ?_,
    { notification, time := world.changes.length }, ?_, htold, hcounted⟩
  · simp [World.deliver, lookup_modify_eq_ite, hchannel]
  · simp [accepted_try_send, hroom]

@[simp] theorem is_open_deliver (world : World α) (session other : SessionId)
    (notification : ServerNotification) :
    (world.deliver session notification).isOpen other = world.isOpen other := by
  unfold World.isOpen World.deliver
  rw [lookup_modify_eq_ite]
  split
  next heq =>
    rw [heq]
    cases world.sessions.lookup session with
    | none => rfl
    | some channel => exact is_open_try_send channel _
  next => rfl

theorem Owed.mono {isLeft isLeft' : ℕ → Prop} (h : Owed world isLeft session change)
    (htold : Told world session change → Told next session change)
    (hbroadcasts : ∀ ticket broadcast, isLeft ticket →
      world.broadcasts.get ticket = some broadcast →
        change.registry.isToldBy broadcast.registry.listChanged = true →
          broadcast.reaches world.senders session → Owed next isLeft' session change) :
    Owed next isLeft' session change := by
  rcases h with h | ⟨ticket, broadcast, hleft, hget, hlist, hreaches⟩
  · exact .inl (htold h)
  · exact hbroadcasts ticket broadcast hleft hget hlist hreaches

theorem Owed.start (hnumbered : world.broadcasts.Numbered)
    (h : Owed world (fun _ => True) session change) (broadcast : Broadcast)
    (hsessions : next.sessions = world.sessions) (hsenders : next.senders = world.senders)
    (hbroadcasts : next.broadcasts = world.broadcasts.start broadcast) :
    Owed next (fun _ => True) session change := by
  refine h.mono (fun htold => htold.of_eq (by rw [hsessions])) ?_
  intro ticket held _ hget hlist hreaches
  refine .inr ⟨ticket, held, trivial, ?_, hlist, hsenders ▸ hreaches⟩
  rw [hbroadcasts]
  exact hnumbered.get_start hget broadcast

theorem AllTold.of_owed (h : AllTold world) (hchanges : next.changes = world.changes)
    (howed : ∀ change ∈ world.changes, ∀ session ∈ change.attached, next.isOpen session = true →
      world.isOpen session = true ∧
        (Owed world (fun _ => True) session change → Owed next (fun _ => True) session change)) :
    AllTold next := by
  intro change hmem session hattached hopen
  rw [hchanges] at hmem
  obtain ⟨hopen, hstays⟩ := howed change hmem session hattached hopen
  exact hstays (h change hmem session hattached hopen)

theorem AllTold.setChannel (h : AllTold world) {channel later : Channel Sent}
    (hheld : world.sessions.lookup session = some channel)
    (hlater : later.isOpen = true → channel.isOpen = true ∧ channel.accepted ⊆ later.accepted) :
    AllTold { world with sessions := world.sessions.insert session later } := by
  refine h.of_owed rfl fun change _ other _ hopen => ?_
  simp only [World.isOpen, lookup_insert_eq_ite] at hopen
  by_cases hother : other = session
  · subst hother
    rw [if_pos rfl] at hopen
    obtain ⟨hwas, hsubset⟩ := hlater hopen
    refine ⟨by simpa [World.isOpen, hheld] using hwas, fun howed => howed.mono ?_ ?_⟩
    · refine fun htold => htold.mono fun held hlookup => ⟨later, ?_, ?_⟩
      · simp
      · rwa [← Option.some.inj (hheld.symm.trans hlookup)]
    · exact fun ticket broadcast hleft hget hlist hreaches =>
        .inr ⟨ticket, broadcast, hleft, hget, hlist, hreaches⟩
  · rw [if_neg hother] at hopen
    refine ⟨hopen, fun howed => howed.mono ?_ ?_⟩
    · refine fun htold => htold.of_eq ?_
      rw [lookup_insert_eq_ite, if_neg hother]
    · exact fun ticket broadcast hleft hget hlist hreaches =>
        .inr ⟨ticket, broadcast, hleft, hget, hlist, hreaches⟩

theorem AllTold.began (h : AllTold world) {ticket : ℕ} {registry : RegistryKind}
    (hwaits : world.broadcasts.get ticket = some (.waiting registry)) :
    AllTold (({ world with
      senders := Function.update world.senders registry
        ((world.senders registry).filter world.isOpen) } : World α).moveOn ticket registry
          ((world.senders registry).filter world.isOpen)) := by
  refine h.of_owed rfl fun change _ session _ hopen => ⟨hopen, fun howed => howed.mono ?_ ?_⟩
  · exact fun htold => htold.of_eq rfl
  intro other broadcast _ hget hlist hreaches
  have hmem : ∀ named, session ∈ world.senders named →
      session ∈ Function.update world.senders registry
        ((world.senders registry).filter world.isOpen) named := by
    intro named hnamed
    by_cases heq : named = registry
    · subst heq
      simpa using ⟨hnamed, hopen⟩
    · rwa [Function.update_of_ne heq]
  by_cases hother : other = ticket
  · subst hother
    obtain rfl := Option.some.inj (hwaits.symm.trans hget)
    refine .inr ⟨other, _, trivial, get_become_self _ _ _, hlist, ?_⟩
    exact List.mem_filter.2 ⟨hreaches, hopen⟩
  · refine .inr ⟨other, broadcast, trivial, ?_, hlist, ?_⟩
    · show (world.broadcasts.become _ _).get other = _
      rw [get_become_eq_ite, if_neg hother]
      exact hget
    · cases broadcast with
      | waiting named => exact hmem named hreaches
      | sending named remaining => exact hreaches

theorem all_told_sent_iff (hsound : Sound world) (h : AllTold world) {ticket : ℕ}
    {registry : RegistryKind} {remaining : List SessionId}
    (hsends : world.broadcasts.get ticket = some (.sending registry (session :: remaining))) :
    AllTold ((world.deliver session registry.listChanged).moveOn ticket registry remaining) ↔
      Meets world (.send ticket) := by
  -- what the other broadcasts owe, they owe after the step
  have hkeeps : ∀ {other change}, Owed world (· ≠ ticket) other change →
      Owed ((world.deliver session registry.listChanged).moveOn ticket registry remaining)
        (fun _ => True) other change := by
    refine fun howed => howed.mono (fun htold => (htold.deliver session _).of_eq rfl) ?_
    intro named broadcast hne hget hlist hreaches
    refine .inr ⟨named, broadcast, trivial, ?_, hlist, hreaches⟩
    show (world.broadcasts.become _ _).get named = _
    rw [get_become_eq_ite, if_neg hne]
    exact hget
  have hstill : ∀ {other : SessionId} {change : Change α}, other ∈ remaining →
      change.registry.isToldBy registry.listChanged = true →
        Owed ((world.deliver session registry.listChanged).moveOn ticket registry remaining)
          (fun _ => True) other change :=
    fun hmem hlist => .inr ⟨ticket, _, trivial, get_become_self _ _ _, hlist, hmem⟩
  simp only [Meets, hsends]
  constructor
  · intro hall channel hchannel hopen hfull change hmem hattached hlist
    have hnext : ((world.deliver session registry.listChanged).moveOn ticket registry
        remaining).isOpen session = true := by
      show (world.deliver session registry.listChanged).isOpen session = true
      rw [is_open_deliver]
      simpa [World.isOpen, hchannel] using hopen
    rcases hall change hmem session hattached hnext with htold | ⟨other, broadcast, _, hget, hother⟩
    · exact .inl (.inl (told_of_full hchannel hfull (htold.of_eq rfl)))
    · change (world.broadcasts.become _ _).get other = _ at hget
      rw [get_become_eq_ite] at hget
      split at hget
      next =>
        cases hget
        exact .inr hother.2
      next hne => exact .inl (.inr ⟨other, broadcast, hne, hget, hother⟩)
  · intro hmeets
    refine h.of_owed rfl fun change hmem other hattached hopen => ?_
    change (world.deliver session registry.listChanged).isOpen other = true at hopen
    rw [is_open_deliver] at hopen
    refine ⟨hopen, ?_⟩
    rintro (htold | ⟨named, broadcast, _, hget, hlist, hreaches⟩)
    · exact .inl ((htold.deliver session _).of_eq rfl)
    · by_cases hnamed : named = ticket
      · subst hnamed
        obtain rfl := Option.some.inj (hsends.symm.trans hget)
        rcases List.mem_cons.1 hreaches with rfl | hreaches
        · obtain ⟨channel, hchannel, hchannelOpen⟩ := Option.any_eq_true _ _ |>.1 hopen
          cases hroom : channel.hasRoom with
          | true =>
            have hcounted := hsound.counted change hmem
            exact .inl ((told_of_room hchannel hroom hlist hcounted).of_eq rfl)
          | false =>
            rcases hmeets channel hchannel hchannelOpen hroom change hmem hattached hlist with
              howed | hlater
            · exact hkeeps howed
            · exact hstill hlater hlist
        · exact hstill hreaches hlist
      · exact hkeeps (.inr ⟨named, broadcast, hnamed, hget, hlist, hreaches⟩)

theorem all_told_step_iff (hsound : Sound world) (h : AllTold world)
    (hstep : step key world event = some next) : AllTold next ↔ Meets world event := by
  cases transition_of_step hstep with
  | opened session capacity fresh =>
    refine iff_of_true (h.of_owed rfl fun change hmem other hattached hopen => ?_) trivial
    have hother : other ≠ session := by
      rintro rfl
      exact fresh (hsound.attached change hmem other hattached)
    simp only [World.isOpen, lookup_insert_eq_ite, if_neg hother] at hopen
    refine ⟨hopen, fun howed => howed.mono ?_ ?_⟩
    · refine fun htold => htold.of_eq ?_
      rw [lookup_insert_eq_ite, if_neg hother]
    · exact fun ticket broadcast hleft hget hlist hreaches =>
        .inr ⟨ticket, broadcast, hleft, hget, hlist, hreaches⟩
  | added registry session held =>
    refine iff_of_true (h.of_owed rfl fun change _ other _ hopen => ⟨hopen, ?_⟩) trivial
    refine fun howed => howed.mono (fun htold => htold.of_eq rfl) ?_
    intro ticket broadcast hleft hget hlist hreaches
    refine .inr ⟨ticket, broadcast, hleft, hget, hlist, ?_⟩
    cases broadcast with
    | waiting named =>
      by_cases hnamed : named = registry
      · subst hnamed
        simpa [Broadcast.reaches] using .inl hreaches
      · simpa [Broadcast.reaches, Function.update_of_ne hnamed] using hreaches
    | sending named remaining => exact hreaches
  | changed registry operation _ =>
    refine iff_of_true (fun change hmem session hattached hopen => ?_) trivial
    rcases List.mem_cons.1 hmem with rfl | hmem
    · exact .inr ⟨_, _, trivial, get_start_self _ _, registry.is_told_by_list_changed,
        hattached⟩
    · exact (h change hmem session hattached hopen).start hsound.numbered (.waiting registry)
        rfl rfl rfl
  | unchanged registry operation broadcasts starts =>
    refine iff_of_true (h.of_owed rfl fun change _ other _ hopen => ⟨hopen, ?_⟩) trivial
    rcases starts with rfl | rfl
    · exact id
    · exact fun howed => howed.start hsound.numbered (.waiting registry) rfl rfl rfl
  | began ticket registry waits => exact iff_of_true (h.began waits) trivial
  | finished ticket registry sends =>
    refine iff_of_true (h.of_owed rfl fun change _ other _ hopen => ⟨hopen, ?_⟩) ?_
    · refine fun howed => howed.mono (fun htold => htold.of_eq rfl) ?_
      intro named broadcast _ hget hlist hreaches
      have hnamed : named ≠ ticket := by
        rintro rfl
        obtain rfl := Option.some.inj (sends.symm.trans hget)
        exact List.not_mem_nil hreaches
      refine .inr ⟨named, broadcast, trivial, ?_, hlist, hreaches⟩
      show (world.broadcasts.finish _).get named = _
      rw [get_finish_eq_ite, if_neg hnamed]
      exact hget
    · simp [Meets, sends]
  | sent ticket registry session remaining sends => exact all_told_sent_iff hsound h sends
  | notified session notification =>
    refine iff_of_true (h.of_owed rfl fun change _ other _ hopen => ⟨?_, ?_⟩) trivial
    · rwa [is_open_deliver] at hopen
    · exact fun howed => howed.mono (fun htold => htold.deliver session notification)
        fun ticket broadcast hleft hget hlist hreaches =>
          .inr ⟨ticket, broadcast, hleft, hget, hlist, hreaches⟩
  | received session channel next held receives =>
    obtain ⟨haccepted, hisOpen⟩ := accepted_of_receive receives
    refine iff_of_true (h.setChannel held fun hopen => ⟨hisOpen ▸ hopen, ?_⟩) trivial
    rw [haccepted]
    exact List.Subset.refl _
  | closed session channel held =>
    refine iff_of_true (h.setChannel held fun hopen => ?_) trivial
    cases hopen
  | listed session registry channel held =>
    exact iff_of_true (h.of_owed rfl fun change _ other _ hopen => ⟨hopen, id⟩) trivial

theorem last_of_told (hsound : Sound world)
    (hchannel : world.sessions.lookup session = some channel) (hempty : channel.queue = [])
    (htold : Told world session change) :
    ∃ sent, (channel.received.filter fun sent =>
      change.registry.isToldBy sent.notification).getLast? = some sent ∧
        change.number ≤ sent.time := by
  obtain ⟨held, hheld, sent, hmem, hlist, htime⟩ := htold
  obtain rfl := Option.some.inj (hchannel.symm.trans hheld)
  have haccepted : channel.accepted = channel.received := by
    rw [Channel.accepted, hempty, List.append_nil]
  have hordered := hsound.ordered session channel hchannel
  rw [haccepted] at hmem hordered
  have hfiltered := hordered.filter fun sent => change.registry.isToldBy sent.notification
  have hin : sent ∈ channel.received.filter fun sent =>
      change.registry.isToldBy sent.notification := List.mem_filter.2 ⟨hmem, hlist⟩
  generalize channel.received.filter
    (fun sent => change.registry.isToldBy sent.notification) = told at hfiltered hin
  cases List.eq_nil_or_concat' told with
  | inl hnil =>
    rw [hnil] at hin
    cases hin
  | inr hconcat =>
    obtain ⟨earlier, last, rfl⟩ := hconcat
    refine ⟨last, List.getLast?_concat, ?_⟩
    rcases List.mem_append.1 hin with hearlier | hlast
    · have hle := (List.pairwise_append.1 hfiltered).2.2 sent hearlier last
        (List.mem_singleton.2 rfl)
      exact Nat.le_trans htime hle
    · rwa [← List.mem_singleton.1 hlast]

theorem none_missed_of_all_told (hsound : Sound world) (h : AllTold world) : NoneMissed world where
  told := h
  last := by
    intro hidle session channel hchannel hopen hempty change hmem hattached
    have hisOpen : world.isOpen session = true := by simpa [World.isOpen, hchannel] using hopen
    rcases h change hmem session hattached hisOpen with htold | ⟨ticket, broadcast, _, hget, _⟩
    · exact last_of_told hsound hchannel hempty htold
    · rw [hidle ticket] at hget
      cases hget
  seen listing hmem := (hsound.listed listing hmem).2

theorem meets_of_refused (hrefused : step key world event = none) : Meets world event := by
  cases event with
  | send ticket =>
    simp only [step] at hrefused
    cases hget : world.broadcasts.get ticket with
    | none => simp [Meets, hget]
    | some broadcast =>
      rw [hget] at hrefused
      cases broadcast with
      | waiting _ => simp [Meets, hget]
      | sending registry remaining =>
        cases remaining with
        | nil => simp [Meets, hget]
        | cons session remaining => cases hrefused
  | openSession _ _ | addNotificationSender _ _ | operate _ _ | begin _ | notify _ _ | receive _
  | close _ | list _ _ => trivial

end Steps

/-! ## Runs -/

/-- In every state of a run, no session misses a change, exactly when every broadcast that finds the
channel of a session full finds that the session was told of the changes before, or is owed them. -/
theorem changes_reach_sessions (key : α → String) (events : List (Event α)) :
    Throughout (step key) NoneMissed {} events ↔
      Along (step key) Meets {} events := by
  have htold : AllTold ({} : World α) := List.forall_mem_nil _
  refine throughout_iff_along (I := Sound) ?_ ?_ ?_ sound_init
    (none_missed_of_all_told sound_init htold) events
  · exact fun world event next hsound hstep => sound_step hsound hstep
  · intro world event next hsound hnone hstep
    rw [← all_told_step_iff hsound hnone.told hstep]
    exact ⟨NoneMissed.told, none_missed_of_all_told (sound_step hsound hstep)⟩
  · exact fun world event hrefused => meets_of_refused hrefused

def fullChannelRun : List (Event String) :=
  [.openSession 0 1, .addNotificationSender .tools 0, .notify 0 .promptsListChanged,
    .operate .tools (.register "search"), .begin 0, .send 0, .send 0, .receive 0]

/-- What a run leaves of a session: the broadcasts under way, whether its channel is open, how much is
in it and how many notifications of a list it has received, and of the changes their registries and
whether the session was attached. -/
def fate (session : SessionId) (registry : RegistryKind) (world : World String) :
    List ℕ × Option (Bool × ℕ × ℕ) × List (RegistryKind × Bool) :=
  (world.broadcasts.calls.keys,
    (world.sessions.lookup session).map fun channel =>
      (channel.isOpen, channel.queue.length,
        (channel.received.filter fun sent => registry.isToldBy sent.notification).length),
    world.changes.map fun change => (change.registry, change.attached.contains session))

/-- The session misses that the tool was registered: its channel is empty, no broadcast is under way,
and it has received no notification of the tools. -/
theorem full_channel_misses_change :
    ¬Throughout (step id) NoneMissed {} fullChannelRun := by
  intro h
  obtain ⟨final, hrun, hfinal⟩ : ∃ final, run (step id) {} fullChannelRun = some final ∧
      fate 0 .tools final = ([], some (true, 0, 0), [(.tools, true)]) := by
    decide +kernel
  simp only [fate, Prod.mk.injEq, Option.map_eq_some_iff] at hfinal
  obtain ⟨hkeys, ⟨channel, hchannel, hopen, hqueue, hreceived⟩, hchanges⟩ := hfinal
  obtain ⟨change, hchange, hattached⟩ : ∃ change ∈ final.changes,
      (change.registry, change.attached.contains 0) = (RegistryKind.tools, true) :=
    List.mem_map.1 (hchanges ▸ List.mem_singleton.2 rfl)
  simp only [Prod.mk.injEq, List.contains_eq_mem, decide_eq_true_eq] at hattached
  obtain ⟨hregistry, hattached⟩ := hattached
  have hidle : ∀ ticket, final.broadcasts.get ticket = none := by
    intro ticket
    refine AList.lookup_eq_none.2 fun hmem => ?_
    rw [AList.mem_keys, hkeys] at hmem
    exact List.not_mem_nil hmem
  obtain ⟨sent, hsent, _⟩ := (h.last hrun).last hidle 0 channel hchannel hopen
    (List.length_eq_zero_iff.1 hqueue) change hchange hattached
  rw [hregistry, List.length_eq_zero_iff.1 hreceived] at hsent
  cases hsent

end RegistryChanges

end TowerMcp
