import TowerMcp.Client.MessageLoop

/-!
# Every caller is told one outcome

A command of a caller waits in the channel, then possibly among the pending requests, until the
caller is told its outcome. `places` counts where its ticket is found, and every step leaves one
place for each ticket that was handed out. `AckFirst` reads the record of what was told: what a
subscription is given comes after its acknowledgment.
-/

namespace TowerMcp

open Execution FinMap

namespace MessageLoop

def isGiven (ticket : ℕ) : Observation → Bool
  | .given other _ => decide (other = ticket)
  | _ => false

def owedTo (ticket : ℕ) (pending : PendingRequest) : ℕ :=
  if pending.responseTx = ticket then 1 else 0

def Loop.owes (s : Loop) (ticket : ℕ) : ℕ :=
  s.commands.countP (fun entry => decide (entry.1 = ticket)) +
    FinMap.total (owedTo ticket) s.pendingRequests

def Loop.told (s : Loop) (ticket : ℕ) : ℕ :=
  s.log.countP (isGiven ticket)

def Loop.places (s : Loop) (ticket : ℕ) : ℕ :=
  s.owes ticket + s.told ticket

namespace Loop

variable {s : Loop} {ticket : ℕ}

theorem places_congr {s' : Loop} (hcommands : s'.commands = s.commands)
    (hpending : s'.pendingRequests = s.pendingRequests) (hlog : s'.log = s.log) :
    s'.places ticket = s.places ticket := by
  unfold places owes told
  rw [hcommands, hpending, hlog]

theorem places_give (other : ℕ) (outcome : Outcome) :
    (s.give other outcome).places ticket = s.places ticket + if other = ticket then 1 else 0 := by
  unfold places owes told give
  rw [List.countP_cons]
  simp only [isGiven, decide_eq_true_eq]
  omega

theorem places_note {observation : Observation} (hnote : isGiven ticket observation = false) :
    (s.note observation).places ticket = s.places ticket := by
  unfold places owes told note
  rw [List.countP_cons, hnote]
  rfl

theorem places_drain_pending (outcome : Outcome) :
    (s.drainPending outcome).places ticket = s.places ticket := by
  have hcount : ∀ values : List PendingRequest,
      (values.map fun pending => Observation.given pending.responseTx outcome).countP
        (isGiven ticket) = (values.map (owedTo ticket)).sum := by
    intro values
    induction values with
    | nil => rfl
    | cons pending rest ih =>
      rw [List.map_cons, List.map_cons, List.countP_cons, List.sum_cons, ih]
      simp only [isGiven, owedTo, decide_eq_true_eq]
      omega
  unfold places owes told drainPending
  rw [List.countP_append, hcount]
  simp only [total_empty]
  unfold FinMap.total
  omega

variable {id : RequestId} {pending : PendingRequest}

theorem places_remove_pending (hpending : s.pendingRequests.lookup id = some pending) :
    (s.removePending id).places ticket + owedTo ticket pending = s.places ticket := by
  have htotal := total_erase (f := owedTo ticket) hpending
  unfold places owes told removePending
  dsimp only
  omega

theorem places_insert_pending (id : RequestId) (pending : PendingRequest) :
    (s.insertPending id pending).places ticket = s.places ticket + owedTo ticket pending := by
  have hinsert := total_insert (owedTo ticket) s.pendingRequests id pending
  unfold insertPending
  cases hbefore : s.pendingRequests.lookup id with
  | none =>
    rw [erase_eq_self hbefore] at hinsert
    unfold places owes told
    dsimp only
    omega
  | some before =>
    have herase := total_erase (f := owedTo ticket) hbefore
    dsimp only
    rw [places_give]
    have howed : owedTo ticket before = if before.responseTx = ticket then 1 else 0 := rfl
    rw [← howed]
    unfold places owes told
    dsimp only
    omega

theorem places_stop : s.stop.places ticket = s.places ticket := by
  have hdrain : ({ s with phase := .closing }.failAllPending "Connection closed").places ticket =
      { s with phase := .closing }.places ticket := places_drain_pending _
  exact hdrain

theorem places_stop_after (failure : String) :
    (s.stopAfter failure).places ticket = s.places ticket := by
  unfold stopAfter
  rw [places_stop]
  exact places_drain_pending _

theorem places_release : s.release.places ticket = s.places ticket := by
  have hdrain : (s.drainPending .dropped).places ticket = s.places ticket :=
    places_drain_pending .dropped
  have hcount : (s.commands.map fun entry => Observation.given entry.1 .dropped).countP
      (isGiven ticket) = s.commands.countP fun entry => decide (entry.1 = ticket) := by
    rw [List.countP_map]
    rfl
  rw [← hdrain]
  unfold release places owes told
  dsimp only
  rw [List.countP_append, hcount, List.countP_nil]
  have hcommands : (s.drainPending .dropped).commands = s.commands := rfl
  rw [hcommands]
  omega

theorem places_start_request (id : RequestId) (pending : PendingRequest)
    (sent : Except String Unit) :
    (s.startRequest id pending sent).places ticket = s.places ticket + owedTo ticket pending := by
  unfold startRequest
  cases sent with
  | ok _ => exact places_insert_pending id pending
  | error failure =>
    dsimp only
    rw [places_stop_after, places_insert_pending]

theorem places_settle (outcome : Outcome) (hpending : s.pendingRequests.lookup id = some pending) :
    ((s.removePending id).give pending.responseTx outcome).places ticket = s.places ticket := by
  have hremove : (s.removePending id).places ticket + owedTo ticket pending = s.places ticket :=
    places_remove_pending hpending
  rw [places_give]
  unfold owedTo at hremove
  omega

theorem places_handle_response (parsed : Json) :
    (s.handleResponse parsed).places ticket = s.places ticket := by
  unfold handleResponse
  cases TowerMcp.handleResponse s.pendingRequests.keys parsed with
  | none => rfl
  | some id =>
    dsimp only
    cases hpending : s.pendingRequests.lookup id with
    | none => rfl
    | some pending => exact places_settle _ hpending

theorem places_take_acknowledgment (hpending : s.pendingRequests.lookup id = some pending) :
    (s.takeAcknowledgment id pending).places ticket = s.places ticket := by
  have htotal := total_insert_of_lookup (f := owedTo ticket)
    (a := { pending with acknowledgmentTx := false }) hpending
  have hsame : owedTo ticket { pending with acknowledgmentTx := false } = owedTo ticket pending :=
    rfl
  unfold places owes told takeAcknowledgment
  dsimp only
  omega

theorem places_handle_subscription (notification : ServerNotification) :
    (s.handleSubscription notification).places ticket = s.places ticket := by
  unfold handleSubscription
  cases notification with
  | plain method params => exact places_note rfl
  | subscriptionAcknowledged id filter =>
    dsimp only
    cases s.matchingSubscriptionId id with
    | none => rfl
    | some key =>
      dsimp only
      cases hpending : s.pendingRequests.lookup key with
      | none => rfl
      | some pending =>
        dsimp only
        split
        next =>
          rw [places_note rfl, places_note rfl]
          exact places_take_acknowledgment hpending
        next => rfl
  | subscription id method params =>
    dsimp only
    cases s.matchingSubscriptionId id with
    | none => rfl
    | some key =>
      dsimp only
      cases hpending : s.pendingRequests.lookup key with
      | none => rfl
      | some pending =>
        dsimp only
        split
        next => exact places_settle _ hpending
        next => exact places_note rfl
  | subscriptionCancelled id reason =>
    dsimp only
    cases s.matchingSubscriptionId id with
    | none => rfl
    | some key =>
      dsimp only
      cases hpending : s.pendingRequests.lookup key with
      | none => rfl
      | some pending =>
        dsimp only
        rw [places_note rfl]
        exact places_settle _ hpending

theorem places_handle_notification (notification : ServerNotification) :
    (s.handleNotification notification).places ticket = s.places ticket := by
  unfold handleNotification
  split
  next id _ =>
    split
    next => rfl
    next => exact places_handle_subscription (s := s.noteCancellation id) _
  next => exact places_handle_subscription _

theorem places_handle_incoming (line : Option Json) :
    (s.handleIncoming line).places ticket = s.places ticket := by
  unfold handleIncoming
  cases line with
  | none => rfl
  | some parsed =>
    dsimp only
    split
    next =>
      split
      next => exact places_drain_pending _
      next => exact places_handle_response parsed
    next =>
      split
      next => rfl
      next =>
        split
        next => exact places_handle_notification _
        next => rfl

theorem places_handle_command (own : ℕ) (command : LoopCommand) (encoded sent : Except String Unit)
    (resolved : Except Error Json) :
    (s.handleCommand own command encoded sent resolved).places ticket =
      s.places ticket + if own = ticket then 1 else 0 := by
  unfold handleCommand
  cases command with
  | request id method params =>
    cases encoded with
    | error failure => exact places_give own _
    | ok _ => exact places_start_request _ _ _
  | startSubscription params =>
    cases encoded with
    | error failure => exact places_give (s := { s with nextId := s.nextId + 1 }) own _
    | ok _ =>
      dsimp only
      rw [places_start_request, places_note rfl]
      rfl
  | cancelRequest id =>
    dsimp only
    cases hpending : s.pendingRequests.lookup id with
    | none => exact places_give own _
    | some pending =>
      cases sent with
      | ok _ =>
        dsimp only
        rw [places_give, places_settle _ hpending]
      | error failure =>
        dsimp only
        rw [places_give, places_insert_pending, places_remove_pending hpending]
  | notify method params =>
    cases encoded with
    | error failure => exact places_give own _
    | ok _ =>
      cases sent with
      | error failure => exact places_give own _
      | ok _ => exact places_give own _
  | resolveInputs requests => exact places_give own _
  | resetSession =>
    dsimp only
    rw [places_give, places_drain_pending]
  | endSession => exact places_give own _
  | shutdown =>
    dsimp only
    rw [places_stop, places_give]

theorem places_relay (task : ℕ) (request : ServerRequest) (response : Option Json)
    (sent : Except String Unit) :
    (s.relay task request response sent).places ticket = s.places ticket := by
  unfold Loop.relay
  dsimp only
  split
  next => exact places_stop_after _
  next => rfl

end Loop

/-! ## Acknowledgments come first -/

def WasOpened (log : List Observation) (ticket : ℕ) : Prop :=
  ∃ id, .opened ticket id ∈ log

def WasAcknowledged (log : List Observation) (ticket : ℕ) : Prop :=
  ∃ filter, .acknowledged ticket filter ∈ log

def fedTo : Observation → Option ℕ
  | .given ticket (.response (.ok _)) => some ticket
  | .notified ticket _ => ticket
  | _ => none

def AckFirst : List Observation → Prop
  | [] => True
  | observation :: older =>
    (∀ ticket, fedTo observation = some ticket → WasOpened older ticket →
      WasAcknowledged older ticket) ∧ AckFirst older

def isOpened : Observation → Bool
  | .opened _ _ => true
  | _ => false

def Loop.Awaited (s : Loop) : Prop :=
  ∀ id pending, s.pendingRequests.lookup id = some pending → WasOpened s.log pending.responseTx →
    pending.method = listenMethod ∧
      (pending.acknowledgmentTx = false → WasAcknowledged s.log pending.responseTx)

def Loop.Taken (s : Loop) (ticket : ℕ) : Prop :=
  ticket < s.submitted ∧ ∀ entry ∈ s.commands, entry.1 ≠ ticket

structure Loop.Ordered (s : Loop) : Prop where
  taken : ∀ ticket, WasOpened s.log ticket → s.Taken ticket
  awaited : s.Awaited
  first : AckFirst s.log

variable {log : List Observation} {ticket : ℕ}

theorem was_opened_cons {observation : Observation}
    (hopened : isOpened observation = false) :
    WasOpened (observation :: log) ticket ↔ WasOpened log ticket := by
  constructor
  · intro h
    obtain ⟨id, hid⟩ := h
    cases List.mem_cons.1 hid with
    | inl heq =>
      rw [← heq] at hopened
      cases hopened
    | inr hmem => exact ⟨id, hmem⟩
  · intro h
    obtain ⟨id, hid⟩ := h
    exact ⟨id, List.mem_cons_of_mem _ hid⟩

theorem was_opened_append {observations : List Observation}
    (hopened : ∀ observation ∈ observations, isOpened observation = false) :
    WasOpened (observations ++ log) ticket ↔ WasOpened log ticket := by
  induction observations with
  | nil => rfl
  | cons observation rest ih =>
    rw [List.cons_append, was_opened_cons (hopened observation List.mem_cons_self)]
    exact ih fun other hother => hopened other (List.mem_cons_of_mem _ hother)

theorem WasAcknowledged.cons
    (h : WasAcknowledged log ticket) (observation : Observation) :
    WasAcknowledged (observation :: log) ticket := by
  obtain ⟨filter, hfilter⟩ := h
  exact ⟨filter, List.mem_cons_of_mem _ hfilter⟩

namespace Loop

variable {s : Loop} {ticket : ℕ}

variable {s' : Loop}

theorem Ordered.congr (h : s.Ordered) (hcommands : s'.commands = s.commands)
    (hsubmitted : s'.submitted = s.submitted)
    (hpending : s'.pendingRequests = s.pendingRequests) (hlog : s'.log = s.log) : s'.Ordered := by
  constructor
  · unfold Taken
    rw [hcommands, hsubmitted, hlog]
    exact h.taken
  · unfold Awaited
    rw [hpending, hlog]
    exact h.awaited
  · rw [hlog]
    exact h.first

theorem Ordered.note (h : s.Ordered) {observation : Observation}
    (hopened : isOpened observation = false)
    (hfed : ∀ ticket, fedTo observation = some ticket → WasOpened s.log ticket →
      WasAcknowledged s.log ticket) : (s.note observation).Ordered := by
  constructor
  · intro ticket hwas
    exact h.taken ticket ((was_opened_cons hopened).1 hwas)
  · intro id pending hpending hwas
    obtain ⟨hmethod, hack⟩ := h.awaited id pending hpending ((was_opened_cons hopened).1 hwas)
    exact ⟨hmethod, fun htaken => (hack htaken).cons observation⟩
  · exact ⟨hfed, h.first⟩

theorem Ordered.note_quiet (h : s.Ordered) {o : Observation}
    (hopened : isOpened o = false) (hfed : fedTo o = none) : (s.note o).Ordered := by
  refine h.note hopened fun ticket hticket => ?_
  rw [hfed] at hticket
  cases hticket

theorem Ordered.note_opened (h : s.Ordered) (id : RequestId) (htaken : s.Taken ticket)
    (hnew : ∀ key pending, s.pendingRequests.lookup key = some pending →
      pending.responseTx ≠ ticket) : (s.note (.opened ticket id)).Ordered := by
  have hbefore : ∀ other, WasOpened (s.note (.opened ticket id)).log other → other ≠ ticket →
      WasOpened s.log other := by
    intro other hwas hne
    obtain ⟨opened, hopened⟩ := hwas
    cases List.mem_cons.1 hopened with
    | inl heq =>
      injection heq with hticket
      exact absurd hticket hne
    | inr hmem => exact ⟨opened, hmem⟩
  constructor
  · intro other hwas
    by_cases hother : other = ticket
    · subst hother
      exact htaken
    · exact h.taken other (hbefore other hwas hother)
  · intro key pending hpending hwas
    have hbefore := hbefore pending.responseTx hwas (hnew key pending hpending)
    obtain ⟨hmethod, hack⟩ := h.awaited key pending hpending hbefore
    exact ⟨hmethod, fun htaken => (hack htaken).cons _⟩
  · refine ⟨fun other hother => ?_, h.first⟩
    cases hother

theorem Ordered.remove_pending (h : s.Ordered) (id : RequestId) : (s.removePending id).Ordered := by
  constructor
  · exact h.taken
  · intro key pending hpending
    have hlookup : (s.pendingRequests.erase id).lookup key = some pending := hpending
    rw [lookup_erase_eq_ite] at hlookup
    split at hlookup
    next => cases hlookup
    next => exact h.awaited key pending hlookup
  · exact h.first

variable {pending : PendingRequest}

theorem Ordered.insert_pending (h : s.Ordered) (id : RequestId)
    (hawaited : WasOpened s.log pending.responseTx → pending.method = listenMethod ∧
      (pending.acknowledgmentTx = false → WasAcknowledged s.log pending.responseTx)) :
    (s.insertPending id pending).Ordered := by
  have hkept : { s with pendingRequests := s.pendingRequests.insert id pending }.Ordered := by
    constructor
    · exact h.taken
    · intro key other hother
      have hlookup : (s.pendingRequests.insert id pending).lookup key = some other := hother
      rw [lookup_insert_eq_ite] at hlookup
      split at hlookup
      next =>
        cases hlookup
        exact hawaited
      next => exact h.awaited key other hlookup
    · exact h.first
  unfold insertPending
  cases s.pendingRequests.lookup id with
  | none => exact hkept
  | some before => exact hkept.note_quiet rfl rfl

theorem Ordered.drain_pending (h : s.Ordered) (outcome : Outcome)
    (hfed : ∀ ticket, fedTo (.given ticket outcome) = none) : (s.drainPending outcome).Ordered := by
  have hlog : ∀ values : List PendingRequest,
      AckFirst ((values.map fun pending => .given pending.responseTx outcome) ++ s.log) := by
    intro values
    induction values with
    | nil => exact h.first
    | cons pending rest ih =>
      refine ⟨fun ticket hticket => ?_, ih⟩
      rw [hfed] at hticket
      cases hticket
  constructor
  · intro ticket hwas
    refine h.taken ticket ((was_opened_append fun observation hmem => ?_).1 hwas)
    obtain ⟨pending, _, rfl⟩ := List.mem_map.1 hmem
    rfl
  · intro id pending hpending
    have hnone : (∅ : FinMap RequestId PendingRequest).lookup id = some pending := hpending
    cases hnone
  · exact hlog _

theorem Ordered.stop (h : s.Ordered) : s.stop.Ordered := by
  have hdrained := h.drain_pending (.response (.error (.transport "Connection closed")))
    fun _ => rfl
  exact hdrained.congr rfl rfl rfl rfl

theorem Ordered.stop_after (h : s.Ordered) (failure : String) : (s.stopAfter failure).Ordered :=
  (h.drain_pending _ fun _ => rfl).stop

theorem Ordered.release (h : s.Ordered) : s.release.Ordered := by
  have hdrained := h.drain_pending .dropped fun _ => rfl
  have hlog : ∀ commands : List (ℕ × LoopCommand), AckFirst
      ((commands.map fun entry => .given entry.1 .dropped) ++ (s.drainPending .dropped).log) := by
    intro commands
    induction commands with
    | nil => exact hdrained.first
    | cons entry rest ih =>
      refine ⟨fun ticket hticket => ?_, ih⟩
      cases hticket
  constructor
  · intro ticket hwas
    have hdropped : WasOpened (s.drainPending .dropped).log ticket := by
      refine (was_opened_append fun observation hmem => ?_).1 hwas
      obtain ⟨entry, _, rfl⟩ := List.mem_map.1 hmem
      rfl
    have hbound := (hdrained.taken ticket hdropped).1
    refine ⟨hbound, fun entry hentry => ?_⟩
    cases hentry
  · intro id pending hpending
    have hnone : (∅ : FinMap RequestId PendingRequest).lookup id = some pending := hpending
    cases hnone
  · exact hlog _

theorem Ordered.start_request (h : s.Ordered) (id : RequestId) (sent : Except String Unit)
    (hawaited : WasOpened s.log pending.responseTx → pending.method = listenMethod ∧
      (pending.acknowledgmentTx = false → WasAcknowledged s.log pending.responseTx)) :
    (s.startRequest id pending sent).Ordered := by
  have hkept := h.insert_pending id hawaited
  cases sent with
  | ok _ => exact hkept
  | error failure => exact hkept.stop_after failure

theorem response_outcome_ok {parsed value : Json} (hok : responseOutcome pending parsed = .ok value)
    (hmethod : pending.method = listenMethod) : pending.acknowledgmentTx = false := by
  unfold responseOutcome at hok
  split at hok
  next =>
    split at hok
    next => cases hok
    next =>
      split at hok
      next => cases hok
      next => cases hok
  next =>
    split at hok
    next =>
      split at hok
      next => cases hok
      next hnot =>
        rw [← Bool.not_eq_true]
        exact fun htaken => hnot ⟨hmethod, htaken⟩
    next => cases hok

theorem Ordered.handle_response (h : s.Ordered) (parsed : Json) :
    (s.handleResponse parsed).Ordered := by
  unfold handleResponse
  cases TowerMcp.handleResponse s.pendingRequests.keys parsed with
  | none => exact h
  | some id =>
    dsimp only
    cases hpending : s.pendingRequests.lookup id with
    | none => exact h
    | some pending =>
      refine (h.remove_pending id).note rfl fun ticket hfed hwas => ?_
      cases hresult : responseOutcome pending parsed with
      | error error =>
        rw [hresult] at hfed
        cases hfed
      | ok value =>
        rw [hresult] at hfed
        cases hfed
        obtain ⟨hmethod, hack⟩ := h.awaited id pending hpending hwas
        exact hack (response_outcome_ok hresult hmethod)

theorem Ordered.acknowledge (h : s.Ordered) {key : RequestId}
    (hpending : s.pendingRequests.lookup key = some pending) (filter : SubscriptionFilter) :
    ((s.takeAcknowledgment key pending).note (.acknowledged pending.responseTx filter)).Ordered := by
  constructor
  · intro ticket hwas
    exact h.taken ticket ((was_opened_cons rfl).1 hwas)
  · intro id other hother hwas
    have hopened : WasOpened s.log other.responseTx := (was_opened_cons rfl).1 hwas
    have hlookup : (s.pendingRequests.insert key
        { pending with acknowledgmentTx := false }).lookup id = some other := hother
    rw [lookup_insert_eq_ite] at hlookup
    split at hlookup
    next =>
      cases hlookup
      obtain ⟨hmethod, _⟩ := h.awaited key pending hpending hopened
      exact ⟨hmethod, fun _ => ⟨filter, List.mem_cons_self⟩⟩
    next =>
      obtain ⟨hmethod, hack⟩ := h.awaited id other hlookup hopened
      exact ⟨hmethod, fun htaken => (hack htaken).cons _⟩
  · refine ⟨fun ticket hfed => ?_, h.first⟩
    cases hfed

theorem Ordered.handle_subscription (h : s.Ordered) (notification : ServerNotification) :
    (s.handleSubscription notification).Ordered := by
  unfold handleSubscription
  cases notification with
  | plain method params => exact h.note_quiet rfl rfl
  | subscriptionAcknowledged id filter =>
    dsimp only
    cases s.matchingSubscriptionId id with
    | none => exact h
    | some key =>
      dsimp only
      cases hpending : s.pendingRequests.lookup key with
      | none => exact h
      | some pending =>
        dsimp only
        split
        next =>
          refine (h.acknowledge hpending filter).note rfl fun ticket hfed _ => ?_
          cases hfed
          exact ⟨filter, List.mem_cons_self⟩
        next => exact h
  | subscription id method params =>
    dsimp only
    cases s.matchingSubscriptionId id with
    | none => exact h
    | some key =>
      dsimp only
      cases hpending : s.pendingRequests.lookup key with
      | none => exact h
      | some pending =>
        dsimp only
        split
        next => exact (h.remove_pending key).note_quiet rfl rfl
        next htaken =>
          refine h.note rfl fun ticket hfed hwas => ?_
          cases hfed
          obtain ⟨_, hack⟩ := h.awaited key pending hpending hwas
          exact hack (Bool.not_eq_true _ ▸ htaken)
  | subscriptionCancelled id reason =>
    dsimp only
    cases s.matchingSubscriptionId id with
    | none => exact h
    | some key =>
      dsimp only
      cases hpending : s.pendingRequests.lookup key with
      | none => exact h
      | some pending => exact ((h.remove_pending key).note_quiet rfl rfl).note_quiet rfl rfl

theorem Ordered.handle_notification (h : s.Ordered) (notification : ServerNotification) :
    (s.handleNotification notification).Ordered := by
  unfold handleNotification
  split
  next id _ =>
    have hnoted : (s.noteCancellation id).Ordered := h.congr rfl rfl rfl rfl
    split
    next => exact hnoted.congr rfl rfl rfl rfl
    next => exact hnoted.handle_subscription _
  next => exact h.handle_subscription _

theorem Ordered.handle_incoming (h : s.Ordered) (line : Option Json) :
    (s.handleIncoming line).Ordered := by
  unfold handleIncoming
  cases line with
  | none => exact h
  | some parsed =>
    dsimp only
    split
    next =>
      split
      next => exact h.drain_pending _ fun _ => rfl
      next => exact h.handle_response parsed
    next =>
      split
      next => exact h.congr rfl rfl rfl rfl
      next =>
        split
        next => exact h.handle_notification _
        next => exact h

theorem Ordered.handle_command (h : s.Ordered) (command : LoopCommand)
    (encoded sent : Except String Unit) (resolved : Except Error Json)
    (htaken : s.Taken ticket) (hnever : ¬WasOpened s.log ticket)
    (hnew : ∀ key pending, s.pendingRequests.lookup key = some pending →
      pending.responseTx ≠ ticket) :
    (s.handleCommand ticket command encoded sent resolved).Ordered := by
  unfold handleCommand
  cases command with
  | request id method params =>
    cases encoded with
    | error failure => exact h.note_quiet rfl rfl
    | ok _ => exact h.start_request id sent fun hopened => absurd hopened hnever
  | startSubscription params =>
    have hdrawn : { s with nextId := s.nextId + 1 }.Ordered := h.congr rfl rfl rfl rfl
    cases encoded with
    | error failure => exact hdrawn.note_quiet rfl rfl
    | ok _ =>
      have hopened := hdrawn.note_opened (.number s.nextId.toInt) htaken hnew
      refine hopened.start_request _ sent fun _ => ⟨rfl, fun hacknowledged => ?_⟩
      cases hacknowledged
  | cancelRequest id =>
    dsimp only
    cases hpending : s.pendingRequests.lookup id with
    | none => exact h.note_quiet rfl rfl
    | some pending =>
      cases sent with
      | ok _ => exact ((h.remove_pending id).note_quiet rfl rfl).note_quiet rfl rfl
      | error failure =>
        have hawaited := h.awaited id pending hpending
        exact ((h.remove_pending id).insert_pending id hawaited).note_quiet rfl rfl
  | notify method params =>
    cases encoded with
    | error failure => exact h.note_quiet rfl rfl
    | ok _ =>
      cases sent with
      | error failure => exact h.note_quiet rfl rfl
      | ok _ => exact h.note_quiet rfl rfl
  | resolveInputs requests => exact h.note_quiet rfl rfl
  | resetSession => exact (h.drain_pending _ fun _ => rfl).note_quiet rfl rfl
  | endSession => exact h.note_quiet rfl rfl
  | shutdown =>
    have hgiven := h.note_quiet (o := .given ticket (.done (.ok ()))) rfl rfl
    exact hgiven.stop

theorem Ordered.relay (h : s.Ordered) (task : ℕ) (request : ServerRequest) (response : Option Json)
    (sent : Except String Unit) : (s.relay task request response sent).Ordered := by
  unfold Loop.relay
  dsimp only
  split
  next failure =>
    refine Ordered.stop_after ?_ failure
    exact h.congr rfl rfl rfl rfl
  next => exact h.congr rfl rfl rfl rfl

/-! ## Every step -/

structure Settling (s : Loop) : Prop where
  accounted : ∀ ticket, s.places ticket = if ticket < s.submitted then 1 else 0
  emptied : s.phase = .closed → s.commands = [] ∧ s.pendingRequests = ∅
  ordered : s.Ordered

theorem Settling.of_keeps (h : s.Settling) (hlive : s.phase ≠ .closed)
    (hkeeps : KeepsChannel s s') (hplaces : ∀ ticket, s'.places ticket = s.places ticket)
    (hordered : s'.Ordered) : s'.Settling where
  accounted ticket := by rw [hplaces, h.accounted, hkeeps.submitted]
  emptied hclosed := absurd hclosed (hkeeps.live hlive)
  ordered := hordered

theorem Settling.release (h : s.Settling) : s.release.Settling where
  accounted ticket := by
    rw [places_release, h.accounted]
    rfl
  emptied _ := ⟨rfl, rfl⟩
  ordered := h.ordered.release

theorem Settling.congr (h : s.Settling) (hphase : s'.phase = s.phase)
    (hcommands : s'.commands = s.commands) (hsubmitted : s'.submitted = s.submitted)
    (hpending : s'.pendingRequests = s.pendingRequests) (hlog : s'.log = s.log) :
    s'.Settling where
  accounted ticket := by rw [places_congr hcommands hpending hlog, h.accounted, hsubmitted]
  emptied hclosed := by
    rw [hcommands, hpending]
    exact h.emptied (hphase ▸ hclosed)
  ordered := h.ordered.congr hcommands hsubmitted hpending hlog

theorem Settling.submit (h : s.Settling) (hlive : s.phase ≠ .closed) (command : LoopCommand) :
    { s with
      commands := s.commands ++ [(s.submitted, command)]
      submitted := s.submitted + 1 }.Settling where
  accounted ticket := by
    have hbefore := h.accounted ticket
    unfold places owes told at hbefore ⊢
    rw [List.countP_append, List.countP_singleton]
    simp only [decide_eq_true_eq]
    split at hbefore <;> split <;> split <;> omega
  emptied hclosed := absurd hclosed hlive
  ordered := by
    refine ⟨fun ticket hwas => ?_, h.ordered.awaited, h.ordered.first⟩
    obtain ⟨hbound, htaken⟩ := h.ordered.taken ticket hwas
    refine ⟨Nat.lt_succ_of_lt hbound, fun entry hentry => ?_⟩
    cases List.mem_append.1 hentry with
    | inl hmem => exact htaken entry hmem
    | inr hmem =>
      obtain rfl := List.mem_singleton.1 hmem
      exact Nat.ne_of_gt hbound

theorem Settling.submit_closed (h : s.Settling) :
    ({ s with submitted := s.submitted + 1 }.give s.submitted .dropped).Settling where
  accounted ticket := by
    have hsame : { s with submitted := s.submitted + 1 }.places ticket = s.places ticket := rfl
    rw [places_give, hsame, h.accounted]
    show _ = if ticket < s.submitted + 1 then 1 else 0
    split <;> split <;> split <;> omega
  emptied hclosed := h.emptied hclosed
  ordered := by
    have hsubmitted : { s with submitted := s.submitted + 1 }.Ordered := by
      refine ⟨fun ticket hwas => ?_, h.ordered.awaited, h.ordered.first⟩
      obtain ⟨hbound, htaken⟩ := h.ordered.taken ticket hwas
      exact ⟨Nat.lt_succ_of_lt hbound, htaken⟩
    exact hsubmitted.note_quiet rfl rfl

theorem Settling.command (h : s.Settling) (hlive : s.phase ≠ .closed)
    {command : LoopCommand} {rest : List (ℕ × LoopCommand)}
    (hcommands : s.commands = (ticket, command) :: rest) (encoded sent : Except String Unit)
    (resolved : Except Error Json) :
    ({ s with commands := rest }.handleCommand ticket command encoded sent resolved).Settling := by
  have hkeeps := keeps_handle_command (s := { s with commands := rest }) ticket command encoded
    sent resolved
  have hplaces : ∀ other, s.places other =
      { s with commands := rest }.places other + if ticket = other then 1 else 0 := by
    intro other
    unfold places owes told
    rw [hcommands, List.countP_cons]
    simp only [decide_eq_true_eq]
    omega
  -- The ticket was handed out and waits in the channel, so it waits nowhere else.
  have hplace : { s with commands := rest }.places ticket = 0 := by
    have haccounted := h.accounted ticket
    rw [hplaces, if_pos rfl] at haccounted
    split at haccounted <;> omega
  have hbound : ticket < s.submitted := by
    have haccounted := h.accounted ticket
    rw [hplaces, if_pos rfl] at haccounted
    split at haccounted
    next hlt => exact hlt
    next => omega
  have hnever : ¬WasOpened s.log ticket := by
    intro hwas
    refine (h.ordered.taken ticket hwas).2 (ticket, command) ?_ rfl
    rw [hcommands]
    exact List.mem_cons_self
  have htaken : { s with commands := rest }.Taken ticket := by
    refine ⟨hbound, fun entry hentry heq => ?_⟩
    have hpositive : 0 < rest.countP fun entry => decide (entry.1 = ticket) :=
      List.countP_pos_iff.2 ⟨entry, hentry, decide_eq_true heq⟩
    unfold places owes at hplace
    dsimp only at hplace
    omega
  have hnew : ∀ key pending, s.pendingRequests.lookup key = some pending →
      pending.responseTx ≠ ticket := by
    intro key pending hpending heq
    have hle := le_total_of_lookup (f := owedTo ticket) hpending
    unfold owedTo at hle
    rw [if_pos heq] at hle
    unfold places owes owedTo at hplace
    dsimp only at hplace
    omega
  have hordered : { s with commands := rest }.Ordered := by
    refine ⟨fun other hwas => ?_, h.ordered.awaited, h.ordered.first⟩
    obtain ⟨hlt, habsent⟩ := h.ordered.taken other hwas
    refine ⟨hlt, fun entry hentry => habsent entry ?_⟩
    rw [hcommands]
    exact List.mem_cons_of_mem _ hentry
  constructor
  · intro other
    rw [places_handle_command, hkeeps.submitted, ← hplaces]
    exact h.accounted other
  · intro hclosed
    exact absurd hclosed (hkeeps.live hlive)
  · exact hordered.handle_command command encoded sent resolved htaken hnever hnew

end Loop

variable {s : Loop}

theorem settling_step {next : Loop} {event : Event} (h : s.Settling)
    (hstep : step s event = some next) : next.Settling := by
  cases event with
  | submit command =>
    unfold step at hstep
    dsimp only at hstep
    split at hstep
    next =>
      cases hstep
      exact h.submit_closed
    next hlive =>
      cases hstep
      exact h.submit hlive command
  | draw =>
    cases hstep
    exact h.congr rfl rfl rfl rfl rfl
  | command encoded sent resolved =>
    unfold step at hstep
    dsimp only at hstep
    split at hstep
    next ticket command rest hrunning hcommands =>
      cases hstep
      refine h.command ?_ hcommands encoded sent resolved
      rw [hrunning]
      exact fun hclosed => nomatch hclosed
    next => cases hstep
  | hangUp =>
    obtain ⟨hguard, heq⟩ := Option.ite_none_right_eq_some.1 hstep
    cases heq
    have hlive : s.phase ≠ .closed := by simp [hguard.1]
    exact h.of_keeps hlive Loop.keeps_stop.toKeepsChannel (fun _ => Loop.places_stop) h.ordered.stop
  | incoming line =>
    obtain ⟨hrunning, heq⟩ := Option.ite_none_right_eq_some.1 hstep
    cases heq
    have hlive : s.phase ≠ .closed := by simp [hrunning]
    exact h.of_keeps hlive (Loop.keeps_channel_handle_incoming line)
      (fun _ => Loop.places_handle_incoming line) (h.ordered.handle_incoming line)
  | transportClosed =>
    obtain ⟨hrunning, heq⟩ := Option.ite_none_right_eq_some.1 hstep
    cases heq
    have hlive : s.phase ≠ .closed := by simp [hrunning]
    exact h.of_keeps hlive Loop.keeps_stop.toKeepsChannel (fun _ => Loop.places_stop) h.ordered.stop
  | finish task result =>
    unfold step at hstep
    dsimp only at hstep
    split at hstep
    next =>
      split at hstep
      next => cases hstep
      next =>
        cases hstep
        exact h.congr rfl rfl rfl rfl rfl
    next => cases hstep
  | withdraw task =>
    unfold step at hstep
    dsimp only at hstep
    split at hstep
    next =>
      cases hstep
      exact h.congr rfl rfl rfl rfl rfl
    next => cases hstep
  | relay task sent =>
    unfold step at hstep
    dsimp only at hstep
    split at hstep
    next request _ =>
      split at hstep
      next response _ =>
        obtain ⟨hguard, heq⟩ := Option.ite_none_right_eq_some.1 hstep
        cases heq
        have hlive : s.phase ≠ .closed := by simp [hguard.1]
        exact h.of_keeps hlive (Loop.keeps_channel_relay task request response sent)
          (fun _ => Loop.places_relay task request response sent)
          (h.ordered.relay task request response sent)
      next => cases hstep
    next => cases hstep
  | close =>
    obtain ⟨_, heq⟩ := Option.ite_none_right_eq_some.1 hstep
    cases heq
    exact h.release
  | abort =>
    unfold step at hstep
    dsimp only at hstep
    split at hstep
    next => cases hstep
    next =>
      cases hstep
      exact h.release

/-! ## Responses -/

def AnswersId (s : Loop) (parsed : Json) (id : RequestId) : Prop :=
  extractRequestId parsed = some id ∨
    ∃ text n, extractRequestId parsed = some (.string text) ∧
      s.pendingRequests.lookup (.string text) = none ∧ parseI64 text.toList = some n ∧ id = .number n

def ResolvesOne (s : Loop) (parsed : Json) (next : Loop) : Prop :=
  ((∀ id, AnswersId s parsed id → s.pendingRequests.lookup id = none) ∧
      next.pendingRequests = s.pendingRequests ∧ next.log = s.log) ∨
    ∃ id pending result, AnswersId s parsed id ∧ s.pendingRequests.lookup id = some pending ∧
      next.pendingRequests = s.pendingRequests.erase id ∧
      next.log = .given pending.responseTx (.response result) :: s.log

def ResolvesAll (s next : Loop) : Prop :=
  next.pendingRequests = ∅ ∧
    next.log = (s.pendingRequests.values.map fun pending =>
      .given pending.responseTx (.response (.error .sessionExpired))) ++ s.log

def RoutesResponses (s : Loop) (event : Event) : Prop :=
  ∀ parsed next, event = .incoming (some parsed) → isResponseFrame parsed = true →
    step s event = some next →
      if isSessionLevel parsed then ResolvesAll s next else ResolvesOne s parsed next

/-- Every caller is owed or was told one outcome, was told it once the loop is gone, and what a
subscription is given and fed comes after its acknowledgment. -/
structure Settled (s : Loop) : Prop where
  one : ∀ ticket < s.submitted, s.owes ticket + s.told ticket = 1
  gone : s.phase = .closed → ∀ ticket < s.submitted, s.told ticket = 1
  first : AckFirst s.log

theorem handle_response_eq_some {parsed : Json} {id : RequestId}
    (h : TowerMcp.handleResponse s.pendingRequests.keys parsed = some id) :
    AnswersId s parsed id ∧ ∃ pending, s.pendingRequests.lookup id = some pending := by
  have hpending : ∀ key, key ∈ s.pendingRequests.keys ↔
      ∃ pending, s.pendingRequests.lookup key = some pending := by
    intro key
    rw [← mem_iff_lookup]
    exact AList.mem_keys
  unfold TowerMcp.handleResponse at h
  split at h
  next => cases h
  next read hread =>
    split at h
    next hmem =>
      obtain rfl := Option.some.inj h
      exact ⟨.inl hread, (hpending read).1 hmem⟩
    next hmem =>
      split at h
      next text =>
        obtain ⟨n, hn, hfound⟩ := Option.bind_eq_some_iff.1 h
        obtain ⟨hnumber, heq⟩ := Option.ite_none_right_eq_some.1 hfound
        cases heq
        refine ⟨.inr ⟨text, n, hread, ?_, hn, rfl⟩, (hpending _).1 hnumber⟩
        rw [← Option.not_isSome_iff_eq_none, Option.isSome_iff_exists]
        exact fun hlookup => hmem ((hpending _).2 hlookup)
      next => cases h

theorem handle_response_eq_none {parsed : Json} {id : RequestId}
    (h : TowerMcp.handleResponse s.pendingRequests.keys parsed = none)
    (hanswers : AnswersId s parsed id) : s.pendingRequests.lookup id = none := by
  have hpending : ∀ key, key ∉ s.pendingRequests.keys → s.pendingRequests.lookup key = none :=
    fun key hkey => AList.lookup_eq_none.2 hkey
  unfold TowerMcp.handleResponse at h
  cases hanswers with
  | inl hread =>
    rw [hread] at h
    dsimp only at h
    split at h
    next => cases h
    next hmem => exact hpending id hmem
  | inr hspelled =>
    obtain ⟨text, n, hread, hnone, hn, rfl⟩ := hspelled
    have hmem : RequestId.string text ∉ s.pendingRequests.keys := AList.lookup_eq_none.1 hnone
    rw [hread] at h
    dsimp only at h
    rw [if_neg hmem, hn, Option.bind_some] at h
    split at h
    next => cases h
    next hnumber => exact hpending _ hnumber

theorem resolves_one_handle_response (s : Loop) (parsed : Json) :
    ResolvesOne s parsed (s.handleResponse parsed) := by
  unfold Loop.handleResponse
  cases hfound : TowerMcp.handleResponse s.pendingRequests.keys parsed with
  | none => exact .inl ⟨fun _ hanswers => handle_response_eq_none hfound hanswers, rfl, rfl⟩
  | some id =>
    obtain ⟨hanswers, pending, hpending⟩ := handle_response_eq_some hfound
    dsimp only
    rw [hpending]
    exact .inr ⟨id, pending, _, hanswers, hpending, rfl, rfl⟩

theorem routes_responses (s : Loop) (event : Event) : RoutesResponses s event := by
  rintro parsed next rfl hresponse hstep
  obtain ⟨_, heq⟩ := Option.ite_none_right_eq_some.1 hstep
  cases heq
  unfold Loop.handleIncoming
  dsimp only
  rw [if_pos hresponse]
  cases isSessionLevel parsed with
  | true => exact ⟨rfl, rfl⟩
  | false => exact resolves_one_handle_response s parsed

theorem settling_init : ({} : Loop).Settling where
  accounted ticket := rfl
  emptied hclosed := nomatch hclosed
  ordered := by
    refine ⟨fun ticket hwas => ?_, fun id pending hpending => (nomatch hpending), trivial⟩
    obtain ⟨_, hmem⟩ := hwas
    cases hmem

theorem settled_of_settling (h : s.Settling) : Settled s := by
  have hone : ∀ ticket < s.submitted, s.owes ticket + s.told ticket = 1 := by
    intro ticket hticket
    have hplaces := h.accounted ticket
    rw [if_pos hticket] at hplaces
    exact hplaces
  refine ⟨hone, fun hclosed ticket hticket => ?_, h.ordered.first⟩
  obtain ⟨hcommands, hpending⟩ := h.emptied hclosed
  have howes : s.owes ticket = 0 := by
    unfold Loop.owes
    rw [hcommands, hpending]
    rfl
  have htold := hone ticket hticket
  omega

/-- In every run of the loop each caller is told one outcome, each response resolves the request it
is for, except one that says the session of all requests is gone, and each subscription is
acknowledged before it is given or fed anything. -/
theorem callers_told_once (events : List Event) :
    Throughout step Settled {} events ∧
      Along step RoutesResponses {} events := by
  constructor
  · refine Throughout.mono (fun _ => settled_of_settling) ?_
    exact throughout_of_invariant (fun _ _ _ h hstep => settling_step h hstep)
      settling_init events
  · exact along_of_forall routes_responses {} events

def sessionGone : Json :=
  .object [("error", .object [("code", .number (.negInt 32004))])]

/-- Two requests wait, and one response resolves both. -/
theorem session_error_resolves_two :
    ∃ s next, Reachable step {} s ∧ isResponseFrame sessionGone = true ∧
      step s (.incoming (some sessionGone)) = some next ∧ ¬ResolvesOne s sessionGone next := by
  obtain ⟨s, hs, next, hnext, htwo, hnone⟩ : ∃ s, run step {}
      [.submit (.request (.number 1) "tools/list" .null),
        .submit (.request (.number 2) "prompts/list" .null),
        .command (.ok ()) (.ok ()) (.error .sessionExpired),
        .command (.ok ()) (.ok ()) (.error .sessionExpired)] = some s ∧
      ∃ next, step s (.incoming (some sessionGone)) = some next ∧
        FinMap.count s.pendingRequests = 2 ∧ FinMap.count next.pendingRequests = 0 := by
    decide +kernel
  refine ⟨s, next, ⟨_, hs⟩, by decide, hnext, fun hresolves => ?_⟩
  cases hresolves with
  | inl hsame =>
    rw [hsame.2.1, htwo] at hnone
    cases hnone
  | inr hone =>
    obtain ⟨id, pending, _, _, hlookup, herased, _⟩ := hone
    have hcount := count_erase_of_lookup hlookup
    rw [← herased] at hcount
    omega

end MessageLoop

end TowerMcp
