import TowerMcp.Lib.Execution
import TowerMcp.Lib.Pool
import TowerMcp.Types.JsonRpc

/-!
# How the stdio transports end

The loops of `StdioTransport`, `GenericStdioTransport` and `BidirectionalStdioTransport`, after
`transport/stdio.rs`, from their start until `run_with_streams` returns. Here it matters how a loop is
left. At the end of the input and on a shutdown request it breaks: the handles are told that the
transport stops, the requests to the client are released, the requests in flight are drained, and the
streams that are left are reported as disconnected. Everything that fails in a turn of the loop leaves
the whole function by `?`. `cleaned_up_iff_harmless` says that nothing else goes wrong.
-/

namespace TowerMcp

open Execution

inductive StdioKind where
  | stdio
  | generic
  | bidirectional
deriving DecidableEq

inductive StreamClose where
  | cancelled
  | drained
  | disconnected
deriving DecidableEq

structure ListenStream where
  requestId : RequestId
  active : Bool := true
  closings : List StreamClose := []
deriving DecidableEq

/-- A request to the client waits in the channel, is among the pending requests, or has been
completed for the handler that made it. -/
inductive ClientRequest where
  | queued
  | pending
  | answered
  | failed
deriving DecidableEq

inductive LoopPhase where
  | reading
  | draining
  | returned (ok : Bool)
deriving DecidableEq

/-- What a line from the client is to the loop. A line is `answered` when the loop has a frame for it
at once, and `rejected` when the router refuses the notification it carries. -/
inductive LineInput where
  | answered (written : Bool)
  | listen (requestId : RequestId) (written : Bool)
  | cancelled (requestId : RequestId)
  | request
  | notification
  | response (ticket : ℕ)
  | rejected

/-- A loop. `inFlight` are the tasks of its requests, and `outbound` the frames that wait for it to
write them. -/
structure StdioLoop where
  kind : StdioKind
  drainTimeout : Bool
  phase : LoopPhase := .reading
  stopping : Bool := false
  streams : Pool ListenStream := {}
  clientRequests : Pool ClientRequest := {}
  inFlight : ℕ := 0
  outbound : ℕ := 0

def ListenStream.close (stream : ListenStream) (reason : StreamClose) : ListenStream :=
  if stream.active then
    { stream with active := false, closings := stream.closings ++ [reason] }
  else stream

def ClientRequest.release : ClientRequest → ClientRequest
  | .queued | .pending => .failed
  | .answered => .answered
  | .failed => .failed

namespace StdioLoop

/-- What happens to a loop. Where it writes frames, `written` says whether all of them were. -/
inductive Event where
  | endOfInput
  | readFailed (frameTooLarge : Bool)
  | undecodable (written : Bool)
  | line (input : LineInput)
  | notification (written : Bool)
  | closeSubscription (requestId : RequestId) (written : Bool)
  | shutdown (written : Bool)
  | writeOut (written : Bool)
  | askClient
  | sendOutgoing (ticket : ℕ) (written : Bool)
  | finish (responded : Bool)
  | giveUp
  | drained

def start (kind : StdioKind) (drainTimeout : Bool) : StdioLoop where
  kind := kind
  drainTimeout := drainTimeout

def isActive (conn : StdioLoop) (requestId : RequestId) : Bool :=
  conn.streams.any fun stream => stream.active && stream.requestId == requestId

def closeStreams (conn : StdioLoop) (picked : ListenStream → Bool) (reason : StreamClose) :
    StdioLoop :=
  { conn with
    streams := conn.streams.map fun stream =>
      if picked stream then stream.close reason else stream }

def leave (conn : StdioLoop) : StdioLoop :=
  { conn with phase := .returned false }

def write (conn : StdioLoop) (written : Bool) : StdioLoop :=
  if written then conn else conn.leave

/-- Hand over a frame of the loop itself. `GenericStdioTransport` sends it into the channel that it
writes from later. -/
def emit (conn : StdioLoop) (written : Bool) : Option StdioLoop :=
  if conn.kind = .generic then
    if written then some { conn with outbound := conn.outbound + 1 } else none
  else some (conn.write written)

def stopReading (conn : StdioLoop) : StdioLoop :=
  { conn with
    phase := .draining
    stopping := true
    clientRequests :=
      if conn.kind = .bidirectional then conn.clientRequests.map ClientRequest.release
      else conn.clientRequests }

/-- What follows the drain, `drain_disconnected` first. -/
def returnOk (conn : StdioLoop) : StdioLoop :=
  { conn.closeStreams (fun _ => true) .disconnected with phase := .returned true }

def spawn (conn : StdioLoop) : StdioLoop :=
  { conn with inFlight := conn.inFlight + 1 }

def handleLine (conn : StdioLoop) : LineInput → Option StdioLoop
  | .answered written => conn.emit written
  | .listen requestId written =>
    if conn.isActive requestId then none
    else { conn with streams := conn.streams.start { requestId } }.emit written
  | .cancelled requestId =>
    if conn.isActive requestId then
      some (conn.closeStreams (fun stream => stream.requestId == requestId) .cancelled)
    else none
  | .request => some conn.spawn
  | .notification => some (if conn.kind = .stdio then conn.spawn else conn)
  | .response ticket =>
    if conn.kind = .bidirectional ∧ conn.clientRequests.get ticket = some .pending then
      some { conn with clientRequests := conn.clientRequests.become ticket .answered }
    else none
  | .rejected => if conn.kind = .bidirectional then some conn.leave else none

def step (conn : StdioLoop) : Event → Option StdioLoop
  | .endOfInput => if conn.phase = .reading then some conn.stopReading else none
  | .readFailed _ => if conn.phase = .reading then some conn.leave else none
  | .undecodable written => if conn.phase = .reading then conn.emit written else none
  | .line input => if conn.phase = .reading then conn.handleLine input else none
  | .notification written => if conn.phase = .reading then some (conn.write written) else none
  | .closeSubscription requestId written =>
    if conn.phase = .reading ∧ conn.isActive requestId then
      some ((conn.closeStreams (fun stream => stream.requestId == requestId) .drained).write
        written)
    else none
  | .shutdown written =>
    if conn.phase = .reading ∧ (written ∨ conn.streams.any ListenStream.active) then
      some <|
        if written then (conn.closeStreams (fun _ => true) .drained).stopReading
        else (conn.closeStreams (fun _ => true) .drained).leave
    else none
  | .writeOut written =>
    if (conn.phase = .reading ∨ conn.phase = .draining) ∧ 0 < conn.outbound then
      some ({ conn with outbound := conn.outbound - 1 }.write written)
    else none
  | .askClient =>
    if conn.kind ≠ .bidirectional then none
    else if conn.phase = .reading then
      some { conn with clientRequests := conn.clientRequests.start .queued }
    -- The channel is closed, so that the handler has its error from the send.
    else if conn.phase = .draining then
      some { conn with clientRequests := conn.clientRequests.start .failed }
    else none
  | .sendOutgoing ticket written =>
    -- The request is pending before it is written.
    if conn.phase = .reading ∧ conn.clientRequests.get ticket = some .queued then
      some ({ conn with clientRequests := conn.clientRequests.become ticket .pending }.write
        written)
    else none
  | .finish responded =>
    if (conn.phase = .reading ∨ conn.phase = .draining) ∧ 0 < conn.inFlight then
      some { conn with
        inFlight := conn.inFlight - 1
        -- The tasks of the bidirectional transport write for themselves.
        outbound := conn.outbound + if responded ∧ conn.kind ≠ .bidirectional then 1 else 0 }
    else none
  | .giveUp =>
    if conn.phase = .draining ∧ conn.drainTimeout then some conn.returnOk else none
  | .drained =>
    if conn.phase = .draining ∧ conn.inFlight = 0 ∧ conn.outbound = 0 then some conn.returnOk
    else none

/-- Whether something goes wrong in an event that a `?` of the source passes on. -/
def fails : Event → Bool
  | .readFailed _ | .line .rejected => true
  | .undecodable written | .line (.answered written) | .line (.listen _ written)
  | .notification written | .closeSubscription _ written | .shutdown written
  | .writeOut written | .sendOutgoing _ written => !written
  | _ => false

/-- A transport that returned has cleaned up: its handles know that it stops, every stream was
observed closed once, and no handler waits for a client. -/
structure CleanedUp (conn : StdioLoop) : Prop where
  stopping : conn.stopping = true
  closed : conn.streams.Holds fun stream => stream.closings.length = 1
  completed : conn.kind = .bidirectional →
    conn.clientRequests.Holds fun request => request = .answered ∨ request = .failed

def Harmless (conn : StdioLoop) (event : Event) : Prop :=
  fails event = false ∨
    conn.phase = .draining ∧ conn.streams.Holds fun stream => stream.active = false

def Watched (conn : StdioLoop) : Prop :=
  conn.streams.Holds fun stream => stream.closings.length = if stream.active then 0 else 1

structure Ready (conn : StdioLoop) : Prop where
  stopping : conn.stopping = true
  completed : conn.kind = .bidirectional →
    conn.clientRequests.Holds fun request => request = .answered ∨ request = .failed

inductive Turn (failed : Bool) (next : StdioLoop) : Prop where
  | stayed (hfine : failed = false) (hphase : next.phase = .reading)
      (hstopping : next.stopping = false)
  | left (hfailed : failed = true) (hphase : next.phase = .returned false)
      (hstopping : next.stopping = false)
  | stopped (hfine : failed = false) (hphase : next.phase = .draining) (hready : next.Ready)

inductive DrainTurn (conn : StdioLoop) (failed : Bool) (next : StdioLoop) : Prop where
  | stayed (hfine : failed = false) (hphase : next.phase = .draining) (hready : next.Ready)
  | left (hfailed : failed = true) (hphase : next.phase = .returned false) (hready : next.Ready)
      (hstreams : next.streams = conn.streams)
  | finished (hfine : failed = false) (hphase : next.phase = .returned true)
      (hclean : next.CleanedUp)

variable {conn next final : StdioLoop} {event : Event} {events : List Event} {written : Bool}

theorem closings_close {stream : ListenStream} (reason : StreamClose)
    (h : stream.closings.length = if stream.active then 0 else 1) :
    (stream.close reason).closings.length = 1 ∧ (stream.close reason).active = false := by
  unfold ListenStream.close
  split
  next hactive =>
    rw [if_pos hactive] at h
    simp [h]
  next hactive =>
    rw [if_neg hactive] at h
    exact ⟨h, by simpa using hactive⟩

theorem Watched.close_streams (h : conn.Watched) (picked : ListenStream → Bool)
    (reason : StreamClose) : (conn.closeStreams picked reason).Watched := by
  refine Pool.Holds.map h fun stream hstream => ?_
  split
  next =>
    obtain ⟨htold, hclosed⟩ := closings_close reason hstream
    rw [hclosed]
    exact htold
  next => exact hstream

theorem Watched.closed_iff (h : conn.Watched) :
    (conn.streams.Holds fun stream => stream.closings.length = 1) ↔
      conn.streams.Holds fun stream => stream.active = false := by
  refine forall₃_congr fun ticket stream hget => ?_
  have htold : stream.closings.length = if stream.active then 0 else 1 := h ticket stream hget
  cases hactive : stream.active with
  | false => simp [htold, hactive]
  | true => simp [htold, hactive]

theorem Watched.of_streams (h : conn.Watched) (hstreams : next.streams = conn.streams) :
    next.Watched := by
  unfold Watched
  rw [hstreams]
  exact h

@[simp] theorem streams_write (conn : StdioLoop) (written : Bool) :
    (conn.write written).streams = conn.streams := by
  cases written <;> rfl

theorem Watched.emit (h : conn.Watched) (hemit : conn.emit written = some next) :
    next.Watched := by
  unfold StdioLoop.emit at hemit
  split at hemit
  next =>
    obtain ⟨-, hemit⟩ := Option.ite_none_right_eq_some.1 hemit
    cases hemit
    exact h
  next =>
    cases hemit
    exact h.of_streams (by simp)

theorem Watched.handle_line (h : conn.Watched) {input : LineInput}
    (hline : conn.handleLine input = some next) : next.Watched := by
  cases input with
  | answered written => exact h.emit hline
  | listen requestId written =>
    obtain ⟨-, hline⟩ := Option.ite_none_left_eq_some.1 hline
    have hstarted : Watched { conn with streams := conn.streams.start { requestId } } :=
      Pool.Holds.start h rfl
    exact hstarted.emit hline
  | cancelled requestId =>
    obtain ⟨-, hline⟩ := Option.ite_none_right_eq_some.1 hline
    cases hline
    exact h.close_streams _ _
  | request =>
    cases hline
    exact h
  | notification =>
    cases hline
    split <;> exact h
  | response ticket =>
    obtain ⟨-, hline⟩ := Option.ite_none_right_eq_some.1 hline
    cases hline
    exact h
  | rejected =>
    obtain ⟨-, hline⟩ := Option.ite_none_right_eq_some.1 hline
    cases hline
    exact h

theorem Watched.step (h : conn.Watched) (hstep : conn.step event = some next) : next.Watched := by
  cases event with
  | endOfInput | readFailed | finish =>
    obtain ⟨-, hstep⟩ := Option.ite_none_right_eq_some.1 hstep
    cases hstep
    exact h
  | notification | sendOutgoing | writeOut =>
    obtain ⟨-, hstep⟩ := Option.ite_none_right_eq_some.1 hstep
    cases hstep
    exact h.of_streams (by simp)
  | closeSubscription requestId written =>
    obtain ⟨-, hstep⟩ := Option.ite_none_right_eq_some.1 hstep
    cases hstep
    exact (h.close_streams _ _).of_streams (streams_write _ _)
  | giveUp | drained =>
    obtain ⟨-, hstep⟩ := Option.ite_none_right_eq_some.1 hstep
    cases hstep
    exact h.close_streams _ _
  | undecodable written =>
    obtain ⟨-, hstep⟩ := Option.ite_none_right_eq_some.1 hstep
    exact h.emit hstep
  | line input =>
    obtain ⟨-, hstep⟩ := Option.ite_none_right_eq_some.1 hstep
    exact h.handle_line hstep
  | shutdown written =>
    obtain ⟨-, hstep⟩ := Option.ite_none_right_eq_some.1 hstep
    cases hstep
    split <;> exact h.close_streams _ _
  | askClient =>
    obtain ⟨-, hstep⟩ := Option.ite_none_left_eq_some.1 hstep
    split at hstep
    next =>
      cases hstep
      exact h
    next =>
      obtain ⟨-, hstep⟩ := Option.ite_none_right_eq_some.1 hstep
      cases hstep
      exact h

theorem ready_stop_reading (conn : StdioLoop) : conn.stopReading.Ready where
  stopping := rfl
  completed := by
    intro hkind ticket request hget
    dsimp only [stopReading] at hkind hget
    rw [if_pos hkind, Pool.get_map] at hget
    obtain ⟨earlier, -, rfl⟩ := Option.map_eq_some_iff.1 hget
    cases earlier with
    | queued | pending | failed => exact .inr rfl
    | answered => exact .inl rfl

theorem turn_write (hphase : conn.phase = .reading) (hstopping : conn.stopping = false)
    (written : Bool) : Turn (!written) (conn.write written) := by
  cases written with
  | true => exact .stayed rfl hphase hstopping
  | false => exact .left rfl rfl hstopping

theorem turn_emit (hphase : conn.phase = .reading) (hstopping : conn.stopping = false)
    (hemit : conn.emit written = some next) : Turn (!written) next := by
  unfold emit at hemit
  split at hemit
  next =>
    obtain ⟨rfl, hemit⟩ := Option.ite_none_right_eq_some.1 hemit
    cases hemit
    exact .stayed rfl hphase hstopping
  next =>
    cases hemit
    exact turn_write hphase hstopping written

theorem turn_handle_line (hphase : conn.phase = .reading) (hstopping : conn.stopping = false)
    {input : LineInput} (hline : conn.handleLine input = some next) :
    Turn (fails (.line input)) next := by
  cases input with
  | answered written => exact turn_emit hphase hstopping hline
  | listen requestId written =>
    obtain ⟨-, hline⟩ := Option.ite_none_left_eq_some.1 hline
    have hphase : { conn with streams := conn.streams.start { requestId } }.phase = .reading :=
      hphase
    exact turn_emit hphase hstopping hline
  | cancelled requestId =>
    obtain ⟨-, hline⟩ := Option.ite_none_right_eq_some.1 hline
    cases hline
    exact .stayed rfl hphase hstopping
  | request =>
    cases hline
    exact .stayed rfl hphase hstopping
  | notification =>
    cases hline
    split <;> exact .stayed rfl hphase hstopping
  | response ticket =>
    obtain ⟨-, hline⟩ := Option.ite_none_right_eq_some.1 hline
    cases hline
    exact .stayed rfl hphase hstopping
  | rejected =>
    obtain ⟨-, hline⟩ := Option.ite_none_right_eq_some.1 hline
    cases hline
    exact .left rfl rfl hstopping

theorem turn_of_step (hphase : conn.phase = .reading) (hstopping : conn.stopping = false)
    (hstep : conn.step event = some next) : Turn (fails event) next := by
  cases event with
  | endOfInput =>
    obtain ⟨-, hstep⟩ := Option.ite_none_right_eq_some.1 hstep
    cases hstep
    exact .stopped rfl rfl (ready_stop_reading conn)
  | readFailed =>
    obtain ⟨-, hstep⟩ := Option.ite_none_right_eq_some.1 hstep
    cases hstep
    exact .left rfl rfl hstopping
  | undecodable written =>
    obtain ⟨-, hstep⟩ := Option.ite_none_right_eq_some.1 hstep
    exact turn_emit hphase hstopping hstep
  | line input =>
    obtain ⟨-, hstep⟩ := Option.ite_none_right_eq_some.1 hstep
    exact turn_handle_line hphase hstopping hstep
  | notification | closeSubscription | writeOut | sendOutgoing =>
    obtain ⟨-, hstep⟩ := Option.ite_none_right_eq_some.1 hstep
    cases hstep
    exact turn_write (by exact hphase) (by exact hstopping) _
  | shutdown written =>
    obtain ⟨-, hstep⟩ := Option.ite_none_right_eq_some.1 hstep
    cases hstep
    cases written with
    | true => exact .stopped rfl rfl (ready_stop_reading _)
    | false => exact .left rfl rfl hstopping
  | askClient =>
    obtain ⟨-, hstep⟩ := Option.ite_none_left_eq_some.1 hstep
    rw [if_pos hphase] at hstep
    cases hstep
    exact .stayed rfl hphase hstopping
  | finish responded =>
    obtain ⟨-, hstep⟩ := Option.ite_none_right_eq_some.1 hstep
    cases hstep
    exact .stayed rfl hphase hstopping
  | giveUp | drained =>
    obtain ⟨⟨hdraining, -⟩, -⟩ := Option.ite_none_right_eq_some.1 hstep
    cases hphase.symm.trans hdraining

theorem cleaned_up_return_ok (hwatched : conn.Watched) (hready : conn.Ready) :
    conn.returnOk.CleanedUp where
  stopping := hready.stopping
  closed := Pool.Holds.map hwatched fun _ hstream => (closings_close .disconnected hstream).1
  completed := hready.completed

theorem drain_turn_of_step (hwatched : conn.Watched) (hphase : conn.phase = .draining)
    (hready : conn.Ready) (hstep : conn.step event = some next) :
    DrainTurn conn (fails event) next := by
  cases event with
  | endOfInput | readFailed | undecodable | line | notification =>
    obtain ⟨hreading, -⟩ := Option.ite_none_right_eq_some.1 hstep
    cases hphase.symm.trans hreading
  | closeSubscription | shutdown | sendOutgoing =>
    obtain ⟨⟨hreading, -⟩, -⟩ := Option.ite_none_right_eq_some.1 hstep
    cases hphase.symm.trans hreading
  | writeOut written =>
    obtain ⟨-, hstep⟩ := Option.ite_none_right_eq_some.1 hstep
    cases hstep
    cases written with
    | true => exact .stayed rfl hphase ⟨hready.stopping, hready.completed⟩
    | false => exact .left rfl rfl ⟨hready.stopping, hready.completed⟩ rfl
  | askClient =>
    obtain ⟨-, hstep⟩ := Option.ite_none_left_eq_some.1 hstep
    rw [if_neg (by simp [hphase]), if_pos hphase] at hstep
    cases hstep
    exact .stayed rfl hphase
      ⟨hready.stopping, fun hkind => (hready.completed hkind).start (.inr rfl)⟩
  | finish responded =>
    obtain ⟨-, hstep⟩ := Option.ite_none_right_eq_some.1 hstep
    cases hstep
    exact .stayed rfl hphase ⟨hready.stopping, hready.completed⟩
  | giveUp | drained =>
    obtain ⟨-, hstep⟩ := Option.ite_none_right_eq_some.1 hstep
    cases hstep
    exact .finished rfl rfl (cleaned_up_return_ok hwatched hready)

variable {ok : Bool}

theorem step_of_returned (hphase : conn.phase = .returned ok) (event : Event) :
    conn.step event = none := by
  cases event <;> simp [step, hphase]

theorem run_of_returned (hphase : conn.phase = .returned ok)
    (hrun : run step conn events = some final) : events = [] ∧ final = conn := by
  cases events with
  | nil => exact ⟨rfl, (Option.some.inj hrun).symm⟩
  | cons event rest =>
    obtain ⟨next, hnext, -⟩ := run_cons.1 hrun
    cases (step_of_returned hphase event).symm.trans hnext

theorem cleaned_up_iff_of_draining (hwatched : conn.Watched) (hphase : conn.phase = .draining)
    (hready : conn.Ready) (hrun : run step conn events = some final)
    (hreturned : final.phase = .returned ok) :
    final.CleanedUp ↔ Along step Harmless conn events := by
  induction events generalizing conn with
  | nil =>
    cases hrun
    cases hphase.symm.trans hreturned
  | cons event rest ih =>
    obtain ⟨next, hnext, hrest⟩ := run_cons.1 hrun
    have hnow := hwatched.step hnext
    show final.CleanedUp ↔ Harmless conn event ∧ _
    rw [hnext]
    cases drain_turn_of_step hwatched hphase hready hnext with
    | stayed hfine hdraining hready =>
      rw [ih hnow hdraining hready hrest]
      exact ⟨fun halong => ⟨.inl hfine, halong⟩, And.right⟩
    | finished hfine hdone hclean =>
      obtain ⟨rfl, rfl⟩ := run_of_returned hdone hrest
      exact ⟨fun _ => ⟨.inl hfine, trivial⟩, fun _ => hclean⟩
    | left hfailed hdone hready hstreams =>
      obtain ⟨rfl, rfl⟩ := run_of_returned hdone hrest
      have hclosed := hwatched.closed_iff
      rw [← hstreams] at hclosed
      constructor
      · intro hclean
        exact ⟨.inr ⟨hphase, hstreams ▸ hclosed.1 hclean.closed⟩, trivial⟩
      · rintro ⟨hfine | ⟨-, hinactive⟩, -⟩
        · cases hfine.symm.trans hfailed
        · exact ⟨hready.stopping, hclosed.2 (hstreams ▸ hinactive), hready.completed⟩

theorem cleaned_up_iff_of_reading (hwatched : conn.Watched) (hphase : conn.phase = .reading)
    (hstopping : conn.stopping = false) (hrun : run step conn events = some final) (hreturned : final.phase = .returned ok) :
    final.CleanedUp ↔ Along step Harmless conn events := by
  induction events generalizing conn with
  | nil =>
    cases hrun
    cases hphase.symm.trans hreturned
  | cons event rest ih =>
    obtain ⟨next, hnext, hrest⟩ := run_cons.1 hrun
    have hnow := hwatched.step hnext
    show final.CleanedUp ↔ Harmless conn event ∧ _
    rw [hnext]
    cases turn_of_step hphase hstopping hnext with
    | stayed hfine hreading hstopping =>
      rw [ih hnow hreading hstopping hrest]
      exact ⟨fun halong => ⟨.inl hfine, halong⟩, And.right⟩
    | stopped hfine hdraining hready =>
      rw [cleaned_up_iff_of_draining hnow hdraining hready hrest hreturned]
      exact ⟨fun halong => ⟨.inl hfine, halong⟩, And.right⟩
    | left hfailed hdone hstopping =>
      obtain ⟨rfl, rfl⟩ := run_of_returned hdone hrest
      constructor
      · intro hclean
        cases hstopping.symm.trans hclean.stopping
      · rintro ⟨hfine | ⟨hdraining, -⟩, -⟩
        · cases hfine.symm.trans hfailed
        · cases hphase.symm.trans hdraining

/-- A transport that returned has cleaned up exactly when nothing failed in a turn of its loop, and
no write of its drain failed while a stream was active. -/
theorem cleaned_up_iff_harmless (kind : StdioKind) (drainTimeout : Bool) {ok : Bool}
    (hrun : run step (start kind drainTimeout) events = some final)
    (hreturned : final.phase = .returned ok) :
    final.CleanedUp ↔ Along step Harmless (start kind drainTimeout) events :=
  cleaned_up_iff_of_reading Pool.holds_empty rfl rfl hrun hreturned

def endedByClient : List Event :=
  [.line (.listen (.number 1) true), .line .request, .askClient, .sendOutgoing 0 true, .endOfInput,
    .finish true, .drained]

theorem end_of_input_cleans_up : ∃ final,
    run step (start .bidirectional false) endedByClient = some final ∧
      final.phase = .returned true ∧ final.CleanedUp := by
  obtain ⟨final, hfinal, hphase⟩ : ∃ final,
      run step (start .bidirectional false) endedByClient = some final ∧
        final.phase = .returned true := by
    decide +kernel
  refine ⟨final, hfinal, hphase, (cleaned_up_iff_harmless .bidirectional false hfinal hphase).2 ?_⟩
  exact ⟨.inl rfl, .inl rfl, .inl rfl, .inl rfl, .inl rfl, .inl rfl, .inl rfl, trivial⟩

def endedByFrame : List Event :=
  [.line (.listen (.number 1) true), .line .request, .askClient, .sendOutgoing 0 true,
    .readFailed true]

/-- After a frame that is too large no handle knows of the end, the stream was not observed closed,
and the handler still waits. -/
theorem oversized_frame_leaves_all : ∃ final,
    run step (start .bidirectional false) endedByFrame = some final ∧
      final.phase = .returned false ∧ final.stopping = false ∧
      final.streams.get 0 = some { requestId := .number 1 } ∧
      final.clientRequests.get 0 = some .pending ∧ ¬ final.CleanedUp := by
  obtain ⟨final, hfinal, hphase, hstopping, hstream, hrequest⟩ : ∃ final,
      run step (start .bidirectional false) endedByFrame = some final ∧
        final.phase = .returned false ∧ final.stopping = false ∧
        final.streams.get 0 = some { requestId := .number 1 } ∧
        final.clientRequests.get 0 = some .pending := by
    decide +kernel
  refine ⟨final, hfinal, hphase, hstopping, hstream, hrequest, fun hclean => ?_⟩
  cases hstopping.symm.trans hclean.stopping

end StdioLoop

end TowerMcp
