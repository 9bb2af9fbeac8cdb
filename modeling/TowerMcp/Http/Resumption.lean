import TowerMcp.Lib.Execution
import TowerMcp.Lib.Pool
import TowerMcp.Store.Events

/-!
# Resumption of notification streams

The notifications of a session go to a broadcast channel, and each open GET stream reads it for
itself: the stream takes an event identifier for what it received and buffers it in the event store.
A stream that resumes subscribes to the channel first and queries the event store for its replay
after.
-/

namespace TowerMcp

open Execution Fallible

/-- An event of a stream. Its number says which notification of the session it carries; nothing but
the statements below reads it. -/
structure SseEvent where
  id : ℕ
  data : String
  number : ℕ
deriving DecidableEq

/-- An open GET stream. It is `opening` until its replay was queried, `taken` holds the event it is
buffering, and `outgoing` is on its way to the client. The last four fields record the history:
where the stream subscribed, the number of the notification it resumes after, the notifications
evicted by the time of its replay, and what it has sent. -/
structure SseStream where
  lastEventId : Option ℕ
  position : ℕ
  opening : Bool := true
  taken : Option SseEvent := none
  outgoing : List SseEvent := []
  start : ℕ
  resumes : Option ℕ
  evicted : List ℕ := []
  sent : List ℕ := []
deriving DecidableEq

/-- A session and its client: the notifications emitted so far, the capacity of the broadcast
channel, the event counter, the event store, the open streams and the last event the client
received. `buffered` records the events that were buffered, newest first. -/
structure SseSession where
  id : String
  emitted : List String := []
  channelCapacity : ℕ
  eventCounter : ℕ := 0
  eventStore : MemoryEventStore
  streams : Pool SseStream := {}
  received : Option SseEvent := none
  buffered : List SseEvent := []

namespace SseSession

def created (id : String) (channelCapacity maxEventsPerSession : ℕ) : SseSession :=
  { id, channelCapacity, eventStore := { maxEventsPerSession } }

def numberOf (session : SseSession) (id : ℕ) : ℕ :=
  ((session.buffered.find? fun event => decide (event.id = id)).map (·.number)).getD 0

def bufferedNumbers (session : SseSession) : List ℕ :=
  session.buffered.map (·.number)

def evictedNumbers (session : SseSession) : List ℕ :=
  session.bufferedNumbers.filter fun number =>
    decide (number ∉ (session.eventStore.buffer session.id).map fun record =>
      session.numberOf record.id)

def getEventsAfter (session : SseSession) (afterId : ℕ) (read : Option EventStoreError) :
    List EventRecord :=
  match read with
  | none => session.eventStore.replayAfter session.id afterId
  | some _ => []

/-- The events a stream replays. Without a `Last-Event-ID` there are none. -/
def replayEvents (session : SseSession) (stream : SseStream) (read : Option EventStoreError) :
    List SseEvent :=
  match stream.lastEventId with
  | some afterId =>
    (session.getEventsAfter afterId read).map fun record =>
      ⟨record.id, record.data, session.numberOf record.id⟩
  | none => []

def bufferEvent (session : SseSession) (event : SseEvent) (timestamp : ℕ)
    (write : Outcome EventStoreError) : SseSession :=
  { session with
    eventStore :=
      write.write (·.append session.id ⟨event.id, event.data, timestamp⟩) session.eventStore
    buffered := if write.applies then event :: session.buffered else session.buffered }

def lagged (session : SseSession) (stream : SseStream) : Bool :=
  decide (stream.position + session.channelCapacity < session.emitted.length)

/-! ## The steps of a stream -/

/-- Subscribe to the channel at its end. The stream resumes when its `Last-Event-ID` is the last the
client received. -/
def openStream (session : SseSession) (lastEventId : Option ℕ) : SseSession :=
  let resumes :=
    if lastEventId = session.received.map (·.id) then session.received.map (·.number) else none
  { session with
    streams := session.streams.start
      { lastEventId, position := session.emitted.length, start := session.emitted.length,
        resumes } }

def replayed (session : SseSession) (stream : SseStream)
    (read : Option EventStoreError) : SseStream :=
  { stream with
    opening := false
    outgoing := session.replayEvents stream read
    evicted := session.evictedNumbers
    sent := (session.replayEvents stream read).map (·.number) }

def skipped (session : SseSession) (stream : SseStream) : SseStream :=
  { stream with position := session.emitted.length - session.channelCapacity }

def took (session : SseSession) (stream : SseStream) (data : String) : SseStream :=
  { stream with
    position := stream.position + 1
    taken := some ⟨session.eventCounter, data, stream.position⟩ }

def receive (session : SseSession) (ticket : ℕ) (stream : SseStream) : Option SseSession :=
  if stream.opening || stream.taken.isSome then none
  else if session.lagged stream then
    some { session with streams := session.streams.become ticket (session.skipped stream) }
  else
    session.emitted[stream.position]?.map fun data =>
      { session with
        eventCounter := session.eventCounter + 1
        streams := session.streams.become ticket (session.took stream data) }

def yielded (stream : SseStream) (event : SseEvent) : SseStream :=
  { stream with
    taken := none
    outgoing := stream.outgoing ++ [event]
    sent := stream.sent ++ [event.number] }

inductive Event where
  | emit (data : String)
  | openStream (lastEventId : Option ℕ)
  | replay (ticket : ℕ) (read : Option EventStoreError)
  | receive (ticket : ℕ)
  | buffer (ticket : ℕ) (timestamp : ℕ) (write : Outcome EventStoreError)
  | deliver (ticket : ℕ)
  | drop (ticket : ℕ)

def step (session : SseSession) : Event → Option SseSession
  | .emit data => some { session with emitted := session.emitted ++ [data] }
  | .openStream lastEventId => some (session.openStream lastEventId)
  | .replay ticket read => do
    let stream ← session.streams.get ticket
    if stream.opening then
      some { session with
        streams := session.streams.become ticket (session.replayed stream read) }
    else none
  | .receive ticket => do
    let stream ← session.streams.get ticket
    session.receive ticket stream
  | .buffer ticket timestamp write => do
    let stream ← session.streams.get ticket
    let event ← stream.taken
    let buffered := session.bufferEvent event timestamp write
    some { buffered with streams := session.streams.become ticket (yielded stream event) }
  | .deliver ticket => do
    let stream ← session.streams.get ticket
    match stream.outgoing with
    | [] => none
    | event :: rest =>
      some { session with
        received := some event
        streams := session.streams.become ticket { stream with outgoing := rest } }
  | .drop ticket => do
    let _ ← session.streams.get ticket
    some { session with streams := session.streams.finish ticket }

/-! ## The property and its condition -/

def sending (stream : SseStream) : ℕ :=
  (stream.taken.map (·.number)).getD stream.position

/-- What a stream that resumes after a notification is to have sent: the notifications emitted
between that one and its subscription, but for the evicted ones, and every one since. -/
def expectedNumbers (stream : SseStream) (last : ℕ) : List ℕ :=
  (List.range' (last + 1) (stream.start - (last + 1))).filter
      (fun number => decide (number ∉ stream.evicted)) ++
    List.range' stream.start (sending stream - stream.start)

def StreamExact (stream : SseStream) : Prop :=
  stream.opening = false → ∀ last, stream.resumes = some last →
    stream.sent = expectedNumbers stream last

def ResumptionExact (session : SseSession) : Prop :=
  session.bufferedNumbers.Nodup ∧ session.streams.Holds StreamExact

/-- What a replay needs to find: the events above the last one the client received are in the order
of emission and after it, none was emitted since the stream subscribed, and every notification
emitted in between is among them, unless it was evicted. -/
structure Resumable (last start : ℕ) (evicted numbers : List ℕ) : Prop where
  ordered : numbers.Pairwise (· < ·)
  after : ∀ number ∈ numbers, last < number
  before : ∀ number ∈ numbers, number < start
  kept : ∀ number, last < number → number < start → number ∉ evicted → number ∈ numbers

/-- The condition on an event: a notification is not buffered when it has been already, the replay
of a stream that resumes finds what it needs, and such a stream reads the channel in time. -/
def Resumes (session : SseSession) : Event → Prop
  | .buffer ticket _ write =>
    ∀ stream, session.streams.get ticket = some stream → ∀ event, stream.taken = some event →
      write.applies = true → event.number ∉ session.bufferedNumbers
  | .replay ticket read =>
    ∀ stream, session.streams.get ticket = some stream → stream.opening = true →
      ∀ last, stream.resumes = some last →
        Resumable last stream.start session.evictedNumbers
          ((session.replayEvents stream read).map (·.number))
  | .receive ticket =>
    ∀ stream, session.streams.get ticket = some stream → stream.opening = false →
      stream.taken = none → stream.resumes ≠ none → session.lagged stream = false
  | _ => True

/-! ## What holds in every run -/

/-- Where a stream stands: it starts where it subscribed, and what it took is the message before its
position. -/
structure Placed (stream : SseStream) : Prop where
  start_le : stream.start ≤ sending stream
  opening : stream.opening = true → stream.position = stream.start ∧ stream.taken = none
  taken : ∀ event, stream.taken = some event → stream.position = event.number + 1

variable {session next : SseSession} {stream : SseStream} {ticket : ℕ}

theorem not_mem_evicted_of_replayed {read : Option EventStoreError} {number : ℕ}
    (h : number ∈ (session.replayEvents stream read).map (·.number)) :
    number ∉ session.evictedNumbers := by
  intro hevicted
  unfold evictedNumbers at hevicted
  rw [List.mem_filter, decide_eq_true_eq] at hevicted
  refine hevicted.2 ?_
  unfold replayEvents getEventsAfter at h
  split at h
  next afterId _ =>
    cases read with
    | some error => simp at h
    | none =>
      simp only [List.mem_map] at h ⊢
      obtain ⟨_, ⟨record, hrecord, rfl⟩, rfl⟩ := h
      exact ⟨record, (MemoryEventStore.mem_replay_after_iff.1 hrecord).1, rfl⟩
  next => simp at h

theorem replay_exact_iff {last start : ℕ} {evicted numbers : List ℕ}
    (hevicted : ∀ number ∈ numbers, number ∉ evicted) :
    numbers = (List.range' (last + 1) (start - (last + 1))).filter
        (fun number => decide (number ∉ evicted)) ↔ Resumable last start evicted numbers := by
  have hmem (number : ℕ) : number ∈ (List.range' (last + 1) (start - (last + 1))).filter
      (fun number => decide (number ∉ evicted)) ↔
        (last < number ∧ number < start) ∧ number ∉ evicted := by
    rw [List.mem_filter, decide_eq_true_eq, List.mem_range'_1]
    refine and_congr_left fun _ => ?_
    omega
  have hsorted : ((List.range' (last + 1) (start - (last + 1))).filter
      (fun number => decide (number ∉ evicted))).Pairwise (· < ·) := by
    have hrange : (List.range' (last + 1) (start - (last + 1))).Pairwise (· < ·) :=
      List.pairwise_lt_range'
    exact hrange.sublist List.filter_sublist
  constructor
  · rintro rfl
    exact ⟨hsorted, fun number h => ((hmem number).1 h).1.1,
      fun number h => ((hmem number).1 h).1.2,
      fun number hlast hstart hkept => (hmem number).2 ⟨⟨hlast, hstart⟩, hkept⟩⟩
  · intro h
    refine h.ordered.eq_of_mem_iff hsorted fun number => ?_
    rw [hmem]
    constructor
    · exact fun hnumber => ⟨⟨h.after number hnumber, h.before number hnumber⟩,
        hevicted number hnumber⟩
    · exact fun hnumber => h.kept number hnumber.1.1 hnumber.1.2 hnumber.2

theorem placed_opened (lastEventId resumes : Option ℕ) (start : ℕ) :
    Placed { lastEventId, position := start, start, resumes } where
  start_le := le_refl start
  opening := fun _ => ⟨rfl, rfl⟩
  taken := by
    intro event htaken
    cases htaken

theorem receive_cases (h : session.receive ticket stream = some next) :
    (stream.opening = false ∧ stream.taken = none) ∧
      ((session.lagged stream = true ∧
          next = { session with
            streams := session.streams.become ticket (session.skipped stream) }) ∨
        session.lagged stream = false ∧ ∃ data,
          next = { session with
            eventCounter := session.eventCounter + 1
            streams := session.streams.become ticket (session.took stream data) }) := by
  obtain ⟨hidle, h⟩ := Option.ite_none_left_eq_some.1 h
  rw [Bool.or_eq_true, not_or, Bool.not_eq_true, Bool.not_eq_true, Option.isSome_eq_false_iff,
    Option.isNone_iff_eq_none] at hidle
  refine ⟨hidle, ?_⟩
  split at h
  next hlagged => exact Or.inl ⟨hlagged, (Option.some.inj h).symm⟩
  next hlagged =>
    obtain ⟨data, _, rfl⟩ := Option.map_eq_some_iff.1 h
    exact Or.inr ⟨Bool.eq_false_iff.2 hlagged, data, rfl⟩

theorem lagged_iff : session.lagged stream = true ↔
    stream.position + session.channelCapacity < session.emitted.length :=
  decide_eq_true_iff

theorem sending_of_idle (h : stream.taken = none) : sending stream = stream.position := by
  unfold sending
  rw [h]
  rfl

theorem sending_skipped (h : stream.taken = none) :
    sending (session.skipped stream) = session.emitted.length - session.channelCapacity :=
  sending_of_idle h

theorem sending_of_taken {event : SseEvent} (h : stream.taken = some event) :
    sending stream = event.number := by
  unfold sending
  rw [h]
  rfl

variable {event : Event}

theorem placed_step (h : session.streams.Holds Placed)
    (hstep : step session event = some next) : next.streams.Holds Placed := by
  cases event with
  | emit data =>
    cases hstep
    exact h
  | openStream lastEventId =>
    cases hstep
    exact h.start (placed_opened lastEventId _ _)
  | replay ticket read =>
    obtain ⟨stream, hstream, hstep⟩ := Option.bind_eq_some_iff.1 hstep
    obtain ⟨hopening, hstep⟩ := Option.ite_none_right_eq_some.1 hstep
    cases hstep
    obtain ⟨hle, _, htaken⟩ := h.of_get hstream
    exact h.become ⟨hle, nofun, htaken⟩
  | receive ticket =>
    obtain ⟨stream, hstream, hstep⟩ := Option.bind_eq_some_iff.1 hstep
    obtain ⟨⟨hopening, hidle⟩, ⟨hlagged, rfl⟩ | ⟨_, data, rfl⟩⟩ := receive_cases hstep
    · obtain ⟨hle, _, _⟩ := h.of_get hstream
      have hlater := lagged_iff.1 hlagged
      rw [sending_of_idle hidle] at hle
      refine h.become ⟨?_, fun hopen => ?_, fun event htaken => ?_⟩
      · rw [sending_skipped hidle]
        exact hle.trans (Nat.le_sub_of_add_le hlater.le)
      · exact absurd (hopening.symm.trans hopen) Bool.false_ne_true
      · cases hidle.symm.trans htaken
    · obtain ⟨hle, _, _⟩ := h.of_get hstream
      rw [sending_of_idle hidle] at hle
      refine h.become ⟨hle, fun hopen => ?_, fun event htaken => ?_⟩
      · exact absurd (hopening.symm.trans hopen) Bool.false_ne_true
      · cases htaken
        rfl
  | buffer ticket timestamp write =>
    obtain ⟨stream, hstream, hstep⟩ := Option.bind_eq_some_iff.1 hstep
    obtain ⟨event, htaken, hstep⟩ := Option.bind_eq_some_iff.1 hstep
    cases hstep
    obtain ⟨hle, hopening, hposition⟩ := h.of_get hstream
    rw [sending_of_taken htaken] at hle
    refine h.become ⟨?_, fun hopen => ?_, nofun⟩
    · rw [sending_of_idle rfl]
      exact hle.trans ((Nat.le_succ _).trans_eq (hposition event htaken).symm)
    · cases htaken.symm.trans (hopening hopen).2
  | deliver ticket =>
    obtain ⟨stream, hstream, hstep⟩ := Option.bind_eq_some_iff.1 hstep
    split at hstep
    next => cases hstep
    next event rest houtgoing =>
      cases hstep
      obtain ⟨hle, hopening, htaken⟩ := h.of_get hstream
      exact h.become ⟨hle, hopening, htaken⟩
  | drop ticket =>
    obtain ⟨stream, hstream, hstep⟩ := Option.bind_eq_some_iff.1 hstep
    cases hstep
    exact h.finish

/-! ## What one event keeps -/

theorem stream_exact_replayed_iff (h : Placed stream) (hopening : stream.opening = true)
    (read : Option EventStoreError) :
    StreamExact (session.replayed stream read) ↔
      ∀ last, stream.resumes = some last →
        Resumable last stream.start session.evictedNumbers
          ((session.replayEvents stream read).map (·.number)) := by
  obtain ⟨hposition, hidle⟩ := h.opening hopening
  have hsending : sending (session.replayed stream read) - stream.start = 0 := by
    rw [sending_of_idle (show (session.replayed stream read).taken = none from hidle)]
    exact Nat.sub_eq_zero_of_le hposition.le
  unfold StreamExact
  rw [forall_prop_of_true (show (session.replayed stream read).opening = false from rfl)]
  refine forall_congr' fun last => imp_congr_right fun _ => ?_
  rw [← replay_exact_iff fun number hnumber => not_mem_evicted_of_replayed hnumber]
  unfold expectedNumbers
  rw [show (session.replayed stream read).start = stream.start from rfl, hsending,
    List.range'_zero, List.append_nil]
  rfl

theorem stream_exact_lagged_iff (h : Placed stream) (hexact : StreamExact stream)
    (hopening : stream.opening = false) (hidle : stream.taken = none)
    (hlagged : session.lagged stream = true) :
    StreamExact (session.skipped stream) ↔ stream.resumes = none := by
  have hlater := lagged_iff.1 hlagged
  have hle := h.start_le
  rw [sending_of_idle hidle] at hle
  constructor
  · intro hskipped
    by_contra hresumes
    obtain ⟨last, hlast⟩ := Option.ne_none_iff_exists'.1 hresumes
    have hlength := congrArg List.length ((hexact hopening last hlast).symm.trans
      (hskipped hopening last hlast))
    unfold expectedNumbers at hlength
    rw [List.length_append, List.length_append, List.length_range', List.length_range',
      sending_of_idle hidle, sending_skipped hidle] at hlength
    have hsame := Nat.add_left_cancel hlength
    change stream.position - stream.start =
      session.emitted.length - session.channelCapacity - stream.start at hsame
    omega
  · intro hresumes _ last hlast
    cases hresumes.symm.trans hlast

theorem StreamExact.took (h : StreamExact stream) (hidle : stream.taken = none)
    (session : SseSession) (data : String) : StreamExact (session.took stream data) := by
  intro hopening last hlast
  refine (h hopening last hlast).trans ?_
  unfold expectedNumbers
  rw [sending_of_idle hidle]
  rfl

theorem StreamExact.yielded (h : StreamExact stream) (hplaced : Placed stream) {event : SseEvent}
    (htaken : stream.taken = some event) : StreamExact (yielded stream event) := by
  intro hopening last hlast
  have hle := hplaced.start_le
  rw [sending_of_taken htaken] at hle
  have hsent := h hopening last hlast
  have hposition : sending (SseSession.yielded stream event) = event.number + 1 :=
    hplaced.taken event htaken
  unfold expectedNumbers at hsent ⊢
  rw [sending_of_taken htaken] at hsent
  have hlength : event.number + 1 - stream.start = event.number - stream.start + 1 :=
    Nat.succ_sub hle
  have hlast : stream.start + 1 * (event.number - stream.start) = event.number := by omega
  rw [hposition]
  change stream.sent ++ [event.number] =
    _ ++ List.range' stream.start (event.number + 1 - stream.start)
  rw [hsent, hlength, List.range'_concat, hlast, List.append_assoc]
  rfl

theorem resumption_exact_created (id : String) (channelCapacity maxEventsPerSession : ℕ) :
    ResumptionExact (created id channelCapacity maxEventsPerSession) :=
  ⟨List.nodup_nil, Pool.holds_empty⟩

theorem nodup_buffer_event_iff (h : session.bufferedNumbers.Nodup) (event : SseEvent)
    (timestamp : ℕ) (write : Outcome EventStoreError) :
    (session.bufferEvent event timestamp write).bufferedNumbers.Nodup ↔
      (write.applies = true → event.number ∉ session.bufferedNumbers) := by
  unfold bufferEvent bufferedNumbers
  split
  next happlies =>
    rw [List.map_cons, List.nodup_cons, forall_prop_of_true happlies]
    exact and_iff_left h
  next happlies => exact iff_of_true h fun htrue => absurd htrue happlies

theorem resumption_exact_step_iff (hplaced : session.streams.Holds Placed)
    (h : ResumptionExact session) (hstep : step session event = some next) :
    ResumptionExact next ↔ Resumes session event := by
  obtain ⟨hnodup, hexact⟩ := h
  cases event with
  | emit data =>
    cases hstep
    exact iff_of_true ⟨hnodup, hexact⟩ trivial
  | openStream lastEventId =>
    cases hstep
    refine iff_of_true ⟨hnodup, hexact.start ?_⟩ trivial
    intro hopening
    cases hopening
  | replay ticket read =>
    obtain ⟨stream, hstream, hstep⟩ := Option.bind_eq_some_iff.1 hstep
    obtain ⟨hopening, hstep⟩ := Option.ite_none_right_eq_some.1 hstep
    cases hstep
    refine (and_iff_right hnodup).trans ((hexact.become_iff ticket).trans ?_)
    rw [stream_exact_replayed_iff (hplaced.of_get hstream) hopening]
    simp only [Resumes, hstream, Option.some.injEq, forall_eq', hopening, forall_const]
  | receive ticket =>
    obtain ⟨stream, hstream, hstep⟩ := Option.bind_eq_some_iff.1 hstep
    obtain ⟨⟨hopening, hidle⟩, ⟨hlagged, rfl⟩ | ⟨hlagged, data, rfl⟩⟩ := receive_cases hstep
    · refine (and_iff_right hnodup).trans ((hexact.become_iff ticket).trans ?_)
      rw [stream_exact_lagged_iff (hplaced.of_get hstream) (hexact.of_get hstream) hopening hidle
        hlagged]
      simp only [Resumes, hstream, Option.some.injEq, forall_eq', hopening, hidle, hlagged,
        forall_const, Bool.true_eq_false, imp_false, not_not, ne_eq]
    · have htook := (hexact.of_get hstream).took hidle session data
      refine iff_of_true ⟨hnodup, hexact.become htook⟩ ?_
      intro other hother _ _ _
      cases hstream.symm.trans hother
      exact hlagged
  | buffer ticket timestamp write =>
    obtain ⟨stream, hstream, hstep⟩ := Option.bind_eq_some_iff.1 hstep
    obtain ⟨event, htaken, hstep⟩ := Option.bind_eq_some_iff.1 hstep
    cases hstep
    have hyielded := (hexact.of_get hstream).yielded (hplaced.of_get hstream) htaken
    refine (and_iff_left (hexact.become hyielded)).trans
      ((nodup_buffer_event_iff hnodup event timestamp write).trans ?_)
    simp only [Resumes, hstream, htaken, Option.some.injEq, forall_eq']
  | deliver ticket =>
    obtain ⟨stream, hstream, hstep⟩ := Option.bind_eq_some_iff.1 hstep
    split at hstep
    next => cases hstep
    next event rest houtgoing =>
      cases hstep
      have hbefore := hexact.of_get hstream
      have hsame : StreamExact { stream with outgoing := rest } := hbefore
      exact iff_of_true ⟨hnodup, hexact.become hsame⟩ trivial
  | drop ticket =>
    obtain ⟨stream, hstream, hstep⟩ := Option.bind_eq_some_iff.1 hstep
    cases hstep
    exact iff_of_true ⟨hnodup, hexact.finish⟩ trivial

theorem resumes_of_refused (h : step session event = none) :
    Resumes session event := by
  cases event with
  | replay ticket read =>
    intro stream hstream hopening
    simp [step, hstream, hopening] at h
  | receive ticket =>
    intro stream hstream hopening hidle _
    by_contra hlagged
    rw [Bool.not_eq_false] at hlagged
    simp [step, hstream, receive, hopening, hidle, hlagged] at h
  | buffer ticket timestamp write =>
    intro stream hstream event htaken
    simp [step, hstream, htaken] at h
  | _ => trivial

/-- With the first stream dropped before the second subscribes, what the first one buffered and the
client did not receive is replayed, and what comes after is live. -/
example : ((run step (created "s" 128 1000)
    [.openStream none, .replay 0 none, .emit "first", .receive 0, .buffer 0 0 .done, .deliver 0,
      .emit "second", .receive 0, .buffer 0 0 .done, .drop 0, .openStream (some 0), .emit "third",
      .replay 1 none, .receive 1, .buffer 1 0 .done]).bind fun session =>
        (session.streams.get 1).map (·.sent)) = some [1, 2] := rfl

end SseSession

end TowerMcp
