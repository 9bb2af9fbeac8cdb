import TowerMcp.Client.Post
import TowerMcp.Lib.Fallible

/-!
# What a background request leaves unanswered

A request is lost when the stream ends with an event that is too large, when the server says that a
session is gone with the identifier of another request, or when the final reply carries a method.
-/

namespace TowerMcp

open Utf8 Fallible

namespace HttpClient

/-! ## What the tasks should leave -/

def Answered (parse : String → Except String Json) (frames : List Frame) (id : Int64) : Prop :=
  ∃ frame ∈ frames, ∃ parsed, frame.read parse = some parsed ∧ ∀ pending : List Int64,
    id ∈ pending → RequestId.number id.toInt ∈ handleIncoming (numbered pending) parsed

def Spares (parse : String → Except String Json) (frames : List Frame) : Prop :=
  ∀ frame ∈ frames, ∀ parsed, frame.read parse = some parsed → ∀ pending : List Int64,
    handleIncoming (numbered pending) parsed = []

/-! ## Which responses fail them -/

def isFinal (number : ℤ) (value : Json) : Bool :=
  carriesId value number && hasOutcome value

def sessionGone (value : Json) : Bool :=
  isResponseFrame value && isSessionLevel value

def AnswersSomeone (value : Json) : Prop :=
  isResponseFrame value = true ∧
    (isSessionLevel value = true ∨ ∃ id : Int64, carriesId value id.toInt = true)

/-- An error loses a request: it has a method, or says that the session is gone with the identifier of
something else. -/
def LosesError (value : Json) (number : ℤ) : Prop :=
  hasMethod value = true ∨
    isSessionSignal value = true ∧
      ∃ id, value.get "id" = some id ∧ id.isNull = false ∧ standsFor id number = false

/-- The messages of a stream, in order. One that cannot be read is `none`. -/
def messagesOf (parse : String → Except String Json) (events : List SseEvent) :
    List (Option Json) :=
  (events.filter fun event => event.data ≠ "").map fun event => (parse event.data).toOption

def upToFinal (number : ℤ) : List (Option Json) → List (Option Json)
  | [] => []
  | message :: rest =>
    if message.any (isFinal number) then [message] else message :: upToFinal number rest

def finalOf (number : ℤ) (messages : List (Option Json)) : Option Json :=
  (messages.find? fun message => message.any (isFinal number)).join

namespace PostContext

/-- Whether a subscription is acknowledged after a message that does not wake the caller: one that
passes the checks of a subscription, or else does not say that the session is gone. -/
def admits (self : PostContext) (acknowledged : Bool) (message : Option Json) : Option Bool :=
  if self.isSubscription then
    message.bind fun value => (self.checkSubscription acknowledged value).toOption
  else if message.any sessionGone then none
  else some acknowledged

def Quiet (self : PostContext) : Bool → List (Option Json) → Prop
  | _, [] => True
  | acknowledged, message :: rest =>
    ∃ next, self.admits acknowledged message = some next ∧ self.Quiet next rest

/-- A stream loses a request: nothing wakes the caller up to the final reply, which has a method, or,
if there is none, up to an event that is too large. -/
def LosesStream (self : PostContext) (parse : String → Except String Json) (number : ℤ)
    (response : HttpResponse) : Prop :=
  let (events, error) := SseParser.receive self.maxSseEventSize response.chunks
  let messages := messagesOf parse events
  self.Quiet false (upToFinal number messages) ∧
    match finalOf number messages with
    | some final => hasMethod final = true
    | none => error.isSome = true

/-- A body loses a request: it holds a final reply, every one has a method, and no message says that
the session is gone. -/
def LosesBody (self : PostContext) (parse : String → Except String Json) (number : ℤ)
    (response : HttpResponse) : Prop :=
  match readBoundedBody self.maxResponseBodySize response with
  | .ok body =>
    let messages := (extractJsonMessages body).filterMap fun message => (parse message).toOption
    (∃ value ∈ messages, isFinal number value = true) ∧
      ∀ value ∈ messages, sessionGone value = false ∧
        (isFinal number value = true → hasMethod value = true)
  | .error _ => False

def LosesRequest (self : PostContext) (parse : String → Except String Json) (number : ℤ)
    (response : HttpResponse) : Prop :=
  if response.status = 202 then False
  else if ¬(200 ≤ response.status ∧ response.status < 300) then
    ¬(response.status = 404 ∧ self.sessionExpiryOn404 = true) ∧
      ∃ value, errorBody parse response = some value ∧ LosesError value number
  else if response.contentType.any fun ct =>
      decide ("text/event-stream".toList <:+: ct.toList) then
    self.LosesStream parse number response
  else self.LosesBody parse number response

/-- A response to a reply completes a request of the client: a message that is forwarded does. All of
a success are, and an error that says the session is gone. -/
def AnswersClient (self : PostContext) (parse : String → Except String Json)
    (response : HttpResponse) : Prop :=
  if response.status = 202 then False
  else if ¬(200 ≤ response.status ∧ response.status < 300) then
    ∃ value, errorBody parse response = some value ∧ isSessionSignal value = true ∧
      AnswersSomeone value
  else if response.contentType.any fun ct =>
      decide ("text/event-stream".toList <:+: ct.toList) then
    ∃ value, some value ∈ messagesOf parse
        (SseParser.receive self.maxSseEventSize response.chunks).1 ∧ AnswersSomeone value
  else
    match readBoundedBody self.maxResponseBodySize response with
    | .ok body =>
      ∃ message ∈ extractJsonMessages body, ∃ value, parse message = .ok value ∧
        AnswersSomeone value
    | .error _ => False

end PostContext

/-! ## What a frame completes -/

variable {parse : String → Except String Json} {frames : List Frame} {id : Int64}

def Frame.resolves (parse : String → Except String Json) (number : ℤ) (frame : Frame) : Bool :=
  (frame.read parse).any fun parsed => TowerMcp.resolves parsed number

theorem resolves_text (line : String) (number : ℤ) :
    (Frame.text line).resolves parse number =
      (parse line).toOption.any fun parsed => TowerMcp.resolves parsed number :=
  rfl

theorem answered_iff :
    Answered parse frames id ↔ ∃ frame ∈ frames, frame.resolves parse id.toInt = true := by
  unfold Answered Frame.resolves
  refine exists_congr fun frame => and_congr_right fun _ => ?_
  rw [Option.any_eq_true]
  refine exists_congr fun parsed => and_congr_right fun _ => ?_
  constructor
  · intro h
    exact (mem_handle_incoming.1 (h [id] (List.mem_singleton_self id))).2
  · intro h pending hid
    exact mem_handle_incoming.2 ⟨hid, h⟩

theorem spares_iff :
    Spares parse frames ↔
      ∀ frame ∈ frames, ∀ parsed, frame.read parse = some parsed → ¬AnswersSomeone parsed := by
  unfold Spares AnswersSomeone
  refine forall₄_congr fun frame _ parsed _ => ?_
  rw [handle_incoming_eq_nil_iff]
  unfold resolves
  constructor
  · rintro h ⟨hresponse, hlevel | ⟨id, hcarries⟩⟩
    · have hid := h 0
      rw [hresponse, hlevel] at hid
      cases hid
    · have hid := h id
      rw [hresponse, hcarries, Bool.or_true] at hid
      cases hid
  · intro h id
    refine Bool.eq_false_iff.2 fun hresolves => h ?_
    obtain ⟨hresponse, houtcome⟩ := Bool.and_eq_true_iff.1 hresolves
    exact ⟨hresponse, (Bool.or_eq_true_iff.1 houtcome).imp_right fun hcarries => ⟨id, hcarries⟩⟩

variable {number : ℤ} {value : Json}

theorem resolves_of_final (h : isFinal number value = true) :
    resolves value number = !hasMethod value := by
  obtain ⟨hcarries, houtcome⟩ := Bool.and_eq_true_iff.1 h
  have harray := is_array_of_carries_id hcarries
  unfold hasOutcome at houtcome
  unfold resolves isResponseFrame hasMethod
  rw [harray, houtcome, hcarries]
  simp

theorem resolves_of_session_gone (h : sessionGone value = true) (number : ℤ) :
    resolves value number = true := by
  obtain ⟨hresponse, hlevel⟩ := Bool.and_eq_true_iff.1 h
  unfold resolves
  rw [hresponse, hlevel]
  rfl

theorem resolves_of_not_final (h : isFinal number value = false) :
    resolves value number = sessionGone value := by
  unfold isFinal hasOutcome at h
  unfold resolves sessionGone isResponseFrame
  cases hcarries : carriesId value number with
  | false => rw [Bool.or_false]
  | true =>
    rw [hcarries, Bool.true_and] at h
    rw [h]
    simp

theorem error_frame_resolves (parse : String → Except String Json) (error : List (String × Json)) :
    (Frame.value (errorFrame (RequestId.number id.toInt).toJson error)).resolves parse id.toInt =
      true := by
  have hid := from_json_number id
  simp [Frame.resolves, Frame.read, errorFrame, resolves, isResponseFrame, carriesId, standsFor,
    Json.get, Json.isArray, Json.asArray, hid]

/-! ## The task of a request -/

variable {self : PostContext} {number : ℤ}

def Unanswered (parse : String → Except String Json) (number : ℤ) (frames : List Frame) : Prop :=
  ∀ frame ∈ frames, frame.resolves parse number = false

theorem not_answered_iff : ¬Answered parse frames id ↔ Unanswered parse id.toInt frames := by
  rw [answered_iff]
  unfold Unanswered
  simp

def PostContext.Serves (self : PostContext) (id : Int64) : Prop :=
  self.replyId = some (RequestId.number id.toInt).toJson

theorem answers_request_eq (value : Json) (id : Int64) :
    answersRequest value (RequestId.number id.toInt).toJson = isFinal id.toInt value := by
  unfold answersRequest isFinal carriesId
  congr 2
  exact funext fun actual => request_ids_match_iff actual id

theorem is_terminal_eq (h : self.Serves id) (value : Json) :
    self.isTerminal value = isFinal id.toInt value := by
  unfold PostContext.isTerminal
  rw [h, Option.any_some, answers_request_eq]

theorem wake_answers (h : self.Serves id) (error : List (String × Json)) :
    Answered parse (self.wake fun id => errorFrame id error).frames id := by
  refine answered_iff.2 ⟨_, ?_, error_frame_resolves parse error⟩
  unfold PostContext.wake
  rw [h]
  exact List.mem_singleton_self _

variable {acknowledged next : Bool}

theorem has_method_of_checked (h : self.checkSubscription acknowledged value = .ok next)
    (hterminal : self.isTerminal value = false) : hasMethod value = true := by
  unfold PostContext.checkSubscription at h
  rw [hterminal, if_neg Bool.false_ne_true] at h
  split at h
  next hnotification => exact (Bool.and_eq_true_iff.1 hnotification).1
  next => cases h

theorem session_gone_of_has_method (h : hasMethod value = true) : sessionGone value = false := by
  unfold sessionGone isResponseFrame
  simp [Option.isSome_iff_ne_none.1 h]

theorem checked_of_admits (h : self.admits acknowledged (some value) = some next) :
    (if self.isSubscription then self.checkSubscription acknowledged value
      else .ok acknowledged) = .ok next := by
  unfold PostContext.admits at h
  split at h
  next hsubscription =>
    rw [if_pos hsubscription]
    exact to_option_eq_some.1 h
  next hsubscription =>
    rw [if_neg hsubscription]
    split at h
    next => cases h
    next => exact congrArg Except.ok (Option.some.inj h)

theorem session_gone_of_admits (h : self.admits acknowledged (some value) = some next)
    (hterminal : self.isTerminal value = false) : sessionGone value = false := by
  have hchecked := checked_of_admits h
  unfold PostContext.admits at h
  split at h
  next hsubscription =>
    rw [if_pos hsubscription] at hchecked
    exact session_gone_of_has_method (has_method_of_checked hchecked hterminal)
  next =>
    split at h
    next => cases h
    next hgone => exact Bool.eq_false_iff.2 hgone

variable {state : StreamState} {event : SseEvent}

theorem pump_event_of_admits (h : self.Serves id) (hdata : event.data ≠ "")
    (hadmits : self.admits state.acknowledged (parse event.data).toOption = some next) :
    ∃ hadRetry, self.pumpEvent parse state event =
      ([.text event.data],
        if (parse event.data).toOption.any (isFinal id.toInt) then none
        else some { hadRetry, hadData := true, acknowledged := next }) := by
  refine ⟨state.hadRetry || event.retry.isSome, ?_⟩
  unfold PostContext.pumpEvent
  dsimp only
  rw [if_neg hdata]
  cases hparse : parse event.data with
  | error error =>
    rw [hparse] at hadmits
    unfold PostContext.admits at hadmits
    split at hadmits
    next => cases hadmits
    next hsubscription =>
      dsimp only
      rw [if_neg hsubscription, ← Option.some.inj hadmits]
      rfl
  | ok value =>
    rw [hparse] at hadmits
    dsimp only
    rw [checked_of_admits hadmits, is_terminal_eq h]
    rfl

theorem resolves_of_admits (h : self.Serves id) {line : String}
    (hadmits : self.admits acknowledged (parse line).toOption = some next) :
    (Frame.text line).resolves parse id.toInt =
      (parse line).toOption.any fun value => isFinal id.toInt value && !hasMethod value := by
  rw [resolves_text]
  cases hparse : (parse line).toOption with
  | none => rfl
  | some value =>
    rw [hparse] at hadmits
    rw [Option.any_some, Option.any_some]
    cases hfinal : isFinal id.toInt value with
    | true => rw [resolves_of_final hfinal, Bool.true_and]
    | false =>
      have hterminal : self.isTerminal value = false := (is_terminal_eq h value).trans hfinal
      rw [resolves_of_not_final hfinal, session_gone_of_admits hadmits hterminal,
        Bool.false_and]

theorem pump_event_of_not_admits (h : self.Serves id) (hdata : event.data ≠ "")
    (hadmits : self.admits state.acknowledged (parse event.data).toOption = none) :
    Answered parse (self.pumpEvent parse state event).1 id := by
  unfold PostContext.pumpEvent
  unfold PostContext.admits at hadmits
  dsimp only
  rw [if_neg hdata]
  cases hparse : parse event.data with
  | error error =>
    rw [hparse] at hadmits
    split at hadmits
    next hsubscription =>
      dsimp only
      rw [if_pos hsubscription]
      exact wake_answers h _
    next => cases hadmits
  | ok value =>
    rw [hparse] at hadmits
    dsimp only
    split at hadmits
    next hsubscription =>
      rw [if_pos hsubscription]
      cases hchecked : self.checkSubscription state.acknowledged value with
      | error message => exact wake_answers h _
      | ok next =>
        change (self.checkSubscription state.acknowledged value).toOption = none at hadmits
        rw [hchecked] at hadmits
        cases hadmits
    next hsubscription =>
      rw [if_neg hsubscription]
      split at hadmits
      next hgone =>
        refine answered_iff.2 ⟨_, List.mem_singleton_self _, ?_⟩
        rw [resolves_text, hparse]
        exact resolves_of_session_gone hgone id.toInt
      next => cases hadmits

theorem messages_of_cons_empty (h : event.data = "") (rest : List SseEvent) :
    messagesOf parse (event :: rest) = messagesOf parse rest := by
  unfold messagesOf
  rw [List.filter_cons_of_neg (by simpa using h)]

theorem messages_of_cons (h : event.data ≠ "") (rest : List SseEvent) :
    messagesOf parse (event :: rest) = (parse event.data).toOption :: messagesOf parse rest := by
  unfold messagesOf
  rw [List.filter_cons_of_pos (by simpa using h), List.map_cons]

theorem final_of_cons (number : ℤ) (message : Option Json) (rest : List (Option Json)) :
    finalOf number (message :: rest) =
      if message.any (isFinal number) then message else finalOf number rest := by
  unfold finalOf
  rw [List.find?_cons]
  split
  next hfinal => rw [if_pos hfinal, Option.join_some]
  next hfinal => rw [if_neg (by rw [hfinal]; exact Bool.false_ne_true)]

theorem unanswered_append {first second : List Frame} :
    Unanswered parse number (first ++ second) ↔
      Unanswered parse number first ∧ Unanswered parse number second :=
  List.forall_mem_append

theorem unanswered_singleton {frame : Frame} :
    Unanswered parse number [frame] ↔ frame.resolves parse number = false :=
  List.forall_mem_singleton

theorem pump_events_loud (rest : List SseEvent)
    (h : ¬Unanswered parse number (self.pumpEvent parse state event).1) :
    ¬Unanswered parse number (self.pumpEvents parse state (event :: rest)).1 := by
  rw [PostContext.pumpEvents]
  cases hevent : self.pumpEvent parse state event with
  | mk frames stop =>
    rw [hevent] at h
    cases stop with
    | none => exact h
    | some next => exact fun hall => h (unanswered_append.1 hall).1

theorem pump_events_unanswered (parse : String → Except String Json) (h : self.Serves id)
    (events : List SseEvent) (state : StreamState) :
    (Unanswered parse id.toInt (self.pumpEvents parse state events).1 ↔
        self.Quiet state.acknowledged (upToFinal id.toInt (messagesOf parse events)) ∧
          ∀ final, finalOf id.toInt (messagesOf parse events) = some final →
            hasMethod final = true) ∧
      (Unanswered parse id.toInt (self.pumpEvents parse state events).1 →
        ((self.pumpEvents parse state events).2 = none ↔
          (finalOf id.toInt (messagesOf parse events)).isSome = true)) := by
  induction events generalizing state with
  | nil =>
    refine ⟨iff_of_true nofun ⟨trivial, nofun⟩, fun _ => iff_of_false nofun nofun⟩
  | cons event rest ih =>
    by_cases hdata : event.data = ""
    · have hevent : self.pumpEvent parse state event =
          ([], some { state with hadRetry := state.hadRetry || event.retry.isSome }) := by
        exact if_pos hdata
      rw [messages_of_cons_empty hdata, PostContext.pumpEvents, hevent]
      exact ih _
    · rw [messages_of_cons hdata, PostContext.pumpEvents, upToFinal, final_of_cons]
      cases hadmits : self.admits state.acknowledged (parse event.data).toOption with
      | none =>
        have hloud := pump_event_of_not_admits h hdata hadmits
        rw [← not_not (a := Answered parse _ id), not_answered_iff] at hloud
        have hnot := pump_events_loud rest hloud
        rw [PostContext.pumpEvents] at hnot
        refine ⟨iff_of_false hnot ?_, fun hquiet => absurd hquiet hnot⟩
        rintro ⟨hquiet, _⟩
        have hfirst : ∀ messages, ¬self.Quiet state.acknowledged
            ((parse event.data).toOption :: messages) := by
          rintro messages ⟨next, hnext, _⟩
          rw [hadmits] at hnext
          cases hnext
        split at hquiet
        next => exact hfirst _ hquiet
        next => exact hfirst _ hquiet
      | some next =>
        obtain ⟨hadRetry, hevent⟩ := pump_event_of_admits h hdata hadmits
        have hresolves := resolves_of_admits h hadmits
        rw [hevent]
        cases hfinal : (parse event.data).toOption.any (isFinal id.toInt) with
        | true =>
          obtain ⟨value, hvalue, hisFinal⟩ := (Option.any_eq_true _ _).1 hfinal
          rw [if_pos rfl, if_pos rfl, if_pos rfl]
          rw [hvalue] at hadmits hresolves ⊢
          rw [Option.any_some, hisFinal, Bool.true_and] at hresolves
          refine ⟨?_, fun _ => iff_of_true rfl rfl⟩
          rw [unanswered_singleton, hresolves, Bool.not_eq_false']
          constructor
          · intro hmethod
            refine ⟨⟨next, hadmits, trivial⟩, fun final hsome => ?_⟩
            exact Option.some.inj hsome ▸ hmethod
          · rintro ⟨_, hmethod⟩
            exact hmethod value rfl
        | false =>
          rw [if_neg Bool.false_ne_true, if_neg Bool.false_ne_true,
            if_neg Bool.false_ne_true]
          obtain ⟨hanswers, hstops⟩ :=
            ih { hadRetry, hadData := true, acknowledged := next }
          have hsilent : Unanswered parse id.toInt [Frame.text event.data] := by
            rw [unanswered_singleton, hresolves]
            cases hmessage : (parse event.data).toOption with
            | none => rfl
            | some value =>
              rw [hmessage, Option.any_some] at hfinal
              rw [Option.any_some, hfinal, Bool.false_and]
          have hquiet : ∀ messages, self.Quiet state.acknowledged
              ((parse event.data).toOption :: messages) ↔ self.Quiet next messages := by
            intro messages
            constructor
            · rintro ⟨other, hother, hrest⟩
              rw [hadmits] at hother
              exact Option.some.inj hother ▸ hrest
            · intro hrest
              exact ⟨next, hadmits, hrest⟩
          rw [unanswered_append, hquiet, ← hanswers]
          exact ⟨and_iff_right hsilent, fun hall => hstops hall.2⟩

/-! ## The end of a stream -/

def PostContext.endStream (self : PostContext) (error : Option SseEventTooLarge) :
    List Frame × Option StreamState → Posted
  | (frames, none) => { frames }
  | (frames, some state) =>
    match error with
    | some _ => { frames, connected := false }
    | none => { self.closeStream state with frames := frames ++ (self.closeStream state).frames }

theorem pump_events_append (state : StreamState) (first second : List SseEvent) :
    self.pumpEvents parse state (first ++ second) =
      match self.pumpEvents parse state first with
      | (frames, none) => (frames, none)
      | (frames, some next) =>
        (frames ++ (self.pumpEvents parse next second).1,
          (self.pumpEvents parse next second).2) := by
  induction first generalizing state with
  | nil => rfl
  | cons event rest ih =>
    rw [List.cons_append, PostContext.pumpEvents, PostContext.pumpEvents]
    cases self.pumpEvent parse state event with
    | mk frames stop =>
      cases stop with
      | none => rfl
      | some next =>
        dsimp only
        rw [ih]
        cases self.pumpEvents parse next rest with
        | mk later last =>
          cases last with
          | none => rfl
          | some final => exact congrArg (·, _) (List.append_assoc _ _ _).symm

theorem pump_post_sse_eq (parser : SseParser) (state : StreamState)
    (chunks : List (List UInt8)) :
    self.pumpPostSse parse parser state chunks =
      self.endStream (parser.receiveFrom chunks).2
        (self.pumpEvents parse state (parser.receiveFrom chunks).1) := by
  induction chunks generalizing parser state with
  | nil => rfl
  | cons chunk rest ih =>
    rw [PostContext.pumpPostSse, SseParser.receiveFrom]
    cases parser.feed (lossy chunk) with
    | error error => rfl
    | ok fed =>
      obtain ⟨next, events⟩ := fed
      dsimp only
      rw [pump_events_append]
      cases self.pumpEvents parse state events with
      | mk frames stop =>
        cases stop with
        | none => rfl
        | some after =>
          dsimp only
          rw [ih]
          cases self.pumpEvents parse after (next.receiveFrom rest).1 with
          | mk later last =>
            cases last with
            | none => rfl
            | some final =>
              unfold PostContext.endStream
              dsimp only
              cases (next.receiveFrom rest).2 with
              | some error => rfl
              | none =>
                dsimp only
                rw [List.append_assoc]

theorem close_stream_answers (parse : String → Except String Json) (h : self.Serves id) (state : StreamState) :
    Answered parse (self.closeStream state).frames id ∨ (self.closeStream state).signalled = true := by
  unfold PostContext.closeStream
  split
  next => exact Or.inr rfl
  next =>
    split
    next => exact Or.inl (wake_answers h _)
    next => exact Or.inl (wake_answers h _)

def Lost (parse : String → Except String Json) (number : ℤ) (posted : Posted) : Prop :=
  Unanswered parse number posted.frames ∧ posted.signalled = false

theorem not_lost_wake (h : self.Serves id) (error : List (String × Json)) (connected : Bool) :
    ¬Lost parse id.toInt { self.wake fun id => errorFrame id error with connected } :=
  fun hlost => not_answered_iff.2 hlost.1 (wake_answers h error)

theorem end_stream_lost_iff (h : self.Serves id) (error : Option SseEventTooLarge)
    {taken : List Frame × Option StreamState} {final : Option Json}
    (hstops : Unanswered parse id.toInt taken.1 → (taken.2 = none ↔ final.isSome = true)) :
    Lost parse id.toInt (self.endStream error taken) ↔
      Unanswered parse id.toInt taken.1 ∧ (final = none → error.isSome = true) := by
  obtain ⟨frames, stop⟩ := taken
  cases stop with
  | none =>
    refine and_congr_right fun hframes => iff_of_true rfl fun hnone => ?_
    have hsome := (hstops hframes).1 rfl
    rw [hnone] at hsome
    cases hsome
  | some state =>
    cases error with
    | some error => exact and_congr_right fun _ => iff_of_true rfl fun _ => rfl
    | none =>
      refine iff_of_false ?_ ?_
      · rintro ⟨hframes, hsignalled⟩
        obtain hanswered | hsignals := close_stream_answers parse h state
        · exact not_answered_iff.2 (unanswered_append.1 hframes).2 hanswered
        · exact Bool.false_ne_true (hsignalled.symm.trans hsignals)
      · rintro ⟨hframes, hend⟩
        cases final with
        | none => cases hend rfl
        | some final => cases (hstops hframes).2 rfl

theorem pump_post_sse_lost_iff (h : self.Serves id) (response : HttpResponse) :
    Lost parse id.toInt (self.pumpPostSse parse (SseParser.withLimit self.maxSseEventSize) {}
        response.chunks) ↔
      self.LosesStream parse id.toInt response := by
  obtain ⟨hanswers, hstops⟩ := pump_events_unanswered parse h
    (SseParser.receive self.maxSseEventSize response.chunks).1 {}
  rw [pump_post_sse_eq]
  change Lost parse id.toInt (self.endStream
    (SseParser.receive self.maxSseEventSize response.chunks).2
    (self.pumpEvents parse {}
      (SseParser.receive self.maxSseEventSize response.chunks).1)) ↔ _
  rw [end_stream_lost_iff h _ hstops, hanswers]
  unfold PostContext.LosesStream
  dsimp only
  rw [and_assoc]
  refine and_congr_right fun _ => ?_
  cases finalOf id.toInt (messagesOf parse
      (SseParser.receive self.maxSseEventSize response.chunks).1) with
  | none => simp
  | some final => simp

/-! ## Bodies and errors -/

variable {messages : List String}

theorem mem_filter_map_read :
    value ∈ messages.filterMap (fun message => (parse message).toOption) ↔
      ∃ message ∈ messages, parse message = .ok value := by
  rw [List.mem_filterMap]
  exact exists_congr fun message => and_congr_right fun _ => to_option_eq_some

theorem resolves_eq_false_iff :
    resolves value number = false ↔
      sessionGone value = false ∧ (isFinal number value = true → hasMethod value = true) := by
  cases hfinal : isFinal number value with
  | false =>
    rw [resolves_of_not_final hfinal]
    exact (and_iff_left nofun).symm
  | true =>
    rw [resolves_of_final hfinal, Bool.not_eq_false']
    constructor
    · intro hmethod
      exact ⟨session_gone_of_has_method hmethod, fun _ => hmethod⟩
    · rintro ⟨_, hmethod⟩
      exact hmethod rfl

theorem unanswered_texts_iff :
    Unanswered parse number (messages.map .text) ↔
      ∀ value ∈ messages.filterMap (fun message => (parse message).toOption),
        resolves value number = false := by
  unfold Unanswered
  rw [List.forall_mem_map]
  constructor
  · intro h value hvalue
    obtain ⟨message, hmessage, hparse⟩ := mem_filter_map_read.1 hvalue
    have hresolves := h message hmessage
    rw [resolves_text, hparse] at hresolves
    exact hresolves
  · intro h message hmessage
    rw [resolves_text]
    cases hparse : parse message with
    | error error => rfl
    | ok value => exact h value (mem_filter_map_read.2 ⟨message, hmessage, hparse⟩)

theorem frames_answer_request_iff :
    framesAnswerRequest parse messages (RequestId.number id.toInt).toJson = true ↔
      ∃ value ∈ messages.filterMap (fun message => (parse message).toOption),
        isFinal id.toInt value = true := by
  unfold framesAnswerRequest
  rw [List.any_eq_true]
  constructor
  · rintro ⟨message, hmessage, hanswers⟩
    obtain ⟨value, hvalue, hfinal⟩ := (Option.any_eq_true _ _).1 hanswers
    rw [answers_request_eq] at hfinal
    exact ⟨value, List.mem_filterMap.2 ⟨message, hmessage, hvalue⟩, hfinal⟩
  · rintro ⟨value, hvalue, hfinal⟩
    obtain ⟨message, hmessage, hread⟩ := List.mem_filterMap.1 hvalue
    refine ⟨message, hmessage, (Option.any_eq_true _ _).2 ⟨value, hread, ?_⟩⟩
    rw [answers_request_eq]
    exact hfinal

theorem handle_body_lost_iff (h : self.Serves id) (response : HttpResponse) :
    Lost parse id.toInt (self.handleBody parse response) ↔
      self.LosesBody parse id.toInt response := by
  unfold PostContext.handleBody PostContext.LosesBody
  cases readBoundedBody self.maxResponseBodySize response with
  | error error =>
    cases error with
    | tooLarge message => exact iff_of_false (not_lost_wake h _ true) not_false
    | io message => exact iff_of_false (not_lost_wake h _ false) not_false
  | ok body =>
    have hempty : ∀ messages : List String, messages = [] →
        ¬∃ value ∈ messages.filterMap (fun message => (parse message).toOption),
          isFinal id.toInt value = true := by
      rintro messages rfl ⟨value, hvalue, _⟩
      cases hvalue
    cases body with
    | nil => exact iff_of_false (not_lost_wake h _ true) fun hloses => hempty _ rfl hloses.1
    | cons c rest =>
      dsimp only
      split
      next hnone =>
        exact iff_of_false (not_lost_wake h _ true) fun hloses => hempty _ hnone hloses.1
      next =>
        rw [h, Option.all_some]
        cases hanswers : framesAnswerRequest parse (extractJsonMessages (c :: rest))
            (RequestId.number id.toInt).toJson with
        | true =>
          have hfinal := frames_answer_request_iff.1 hanswers
          unfold Lost
          rw [if_pos rfl, List.append_nil, unanswered_texts_iff, and_iff_left rfl,
            and_iff_right hfinal]
          exact forall₂_congr fun value _ => resolves_eq_false_iff
        | false =>
          rw [if_neg Bool.false_ne_true]
          refine iff_of_false ?_ ?_
          · rintro ⟨hframes, _⟩
            exact not_answered_iff.2 (unanswered_append.1 hframes).2 (wake_answers h _)
          · rintro ⟨hfinal, _⟩
            rw [frames_answer_request_iff.2 hfinal] at hanswers
            cases hanswers

theorem get_error_of_is_jsonrpc_error (h : isJsonrpcErrorResponse value = true) :
    ∃ error, value.get "error" = some error := by
  obtain ⟨hobject, _⟩ := Bool.and_eq_true_iff.1 (Bool.and_eq_true_iff.1 h).1
  obtain ⟨fields, hfields⟩ := Option.isSome_iff_exists.1 hobject
  obtain ⟨error, herror, _⟩ := Option.bind_eq_some_iff.1 hfields
  exact ⟨error, herror⟩

variable {error : Json}

theorem is_response_frame_of_error (h : value.get "error" = some error) :
    isResponseFrame value = !hasMethod value := by
  obtain ⟨fields, rfl⟩ := Json.eq_object_of_get h
  unfold isResponseFrame hasMethod
  simp [h, Json.isArray, Json.asArray]

theorem session_signal_lost_iff (herror : value.get "error" = some error)
    (hsignal : isSessionSignal value = true) (number : ℤ) :
    resolves value number = false ↔ LosesError value number := by
  have hlevel : isSessionLevel value = (value.get "id").all Json.isNull := by
    have hcode := of_decide_eq_true hsignal
    simp only [Json.pointer, herror, Option.bind_some, Option.bind_fun_some] at hcode
    unfold isSessionLevel
    rw [herror]
    simp [hcode, toI32]
  unfold resolves LosesError
  rw [is_response_frame_of_error herror, hlevel, hsignal]
  cases hasMethod value with
  | true => exact iff_of_true rfl (Or.inl rfl)
  | false =>
    unfold carriesId
    cases value.get "id" with
    | none => simp
    | some id => simp

theorem get_set_of_error (h : value.get "error" = some error)
    {name field : String} (hne : name ≠ field) (item : Json) :
    (value.set field item).get name = value.get name := by
  rw [Json.get_set h, if_neg hne]

theorem inject_id (h : self.Serves id) (herror : value.get "error" = some error) :
    (self.injectId value).get "error" = some error ∧
      (self.injectId value).get "method" = value.get "method" ∧
        carriesId (self.injectId value) id.toInt = true := by
  unfold PostContext.injectId
  rw [h]
  dsimp only
  split
  next hmatches =>
    refine ⟨herror, rfl, ?_⟩
    obtain ⟨actual, hactual, hmatch⟩ := (Option.any_eq_true _ _).1 hmatches
    rw [request_ids_match_iff] at hmatch
    exact (Option.any_eq_true _ _).2 ⟨actual, hactual, hmatch⟩
  next =>
    refine ⟨?_, get_set_of_error herror (by decide) _, ?_⟩
    · rw [get_set_of_error herror (by decide), herror]
    · have hid : (value.set "id" (RequestId.number id.toInt).toJson).get "id" =
          some (RequestId.number id.toInt).toJson := by
        rw [Json.get_set herror, if_pos rfl]
      unfold carriesId standsFor
      rw [hid, Option.any_some, from_json_number]
      exact decide_eq_true rfl

theorem merge_status (herror : value.get "error" = some error)
    (statusData : List (String × Json)) :
    (∃ merged, (mergeStatusIntoError value statusData).get "error" = some merged) ∧
      (mergeStatusIntoError value statusData).get "method" = value.get "method" ∧
        (mergeStatusIntoError value statusData).get "id" = value.get "id" := by
  unfold mergeStatusIntoError
  split
  next fields hfields =>
    have herrors := Json.get_set herror "error" "error"
    exact ⟨⟨_, (herrors _).trans (if_pos rfl)⟩, get_set_of_error herror (by decide) _,
      get_set_of_error herror (by decide) _⟩
  next => exact ⟨⟨error, herror⟩, rfl, rfl⟩

theorem lost_value_iff :
    Lost parse number { frames := [.value value] } ↔ resolves value number = false := by
  unfold Lost
  rw [unanswered_singleton, and_iff_left rfl]
  rfl

theorem lost_error_iff (herror : value.get "error" = some error)
    (hcarries : carriesId value number = true) :
    Lost parse number { frames := [.value value] } ↔ hasMethod value = true := by
  have hfinal : isFinal number value = true := by
    unfold isFinal hasOutcome
    rw [hcarries, herror]
    exact Bool.or_true _
  rw [lost_value_iff, resolves_of_final hfinal, Bool.not_eq_false']

theorem forward_error_lost_iff (h : self.Serves id) (response : HttpResponse)
    (hvalue : isJsonrpcErrorResponse value = true) :
    Lost parse id.toInt (self.forwardError response value) ↔ LosesError value id.toInt := by
  obtain ⟨error, herror⟩ := get_error_of_is_jsonrpc_error hvalue
  unfold PostContext.forwardError
  split
  next hsignal => rw [lost_value_iff, session_signal_lost_iff herror hsignal]
  next hsignal =>
    obtain ⟨hinjected, hmethod, hcarries⟩ := inject_id h herror
    have hloses : LosesError value id.toInt ↔ hasMethod value = true :=
      or_iff_left fun hsession => hsignal hsession.1
    have hreply : ¬self.replyId.isNone = true := by
      rw [h]
      exact Bool.false_ne_true
    rw [if_neg hreply, hloses]
    unfold hasMethod
    rw [← hmethod]
    split
    next =>
      obtain ⟨⟨merged, hmerged⟩, hsame, hid⟩ :=
        merge_status hinjected (statusErrorData response)
      rw [← hsame]
      refine lost_error_iff hmerged ?_
      unfold carriesId at hcarries ⊢
      rw [hid]
      exact hcarries
    next => exact lost_error_iff hinjected hcarries

theorem is_jsonrpc_error_of_body {response : HttpResponse}
    (h : errorBody parse response = some value) : isJsonrpcErrorResponse value = true := by
  unfold errorBody at h
  dsimp only at h
  split at h
  next => cases h
  next => exact (Option.filter_eq_some_iff.1 h).2

theorem handle_status_lost_iff (h : self.Serves id) (response : HttpResponse) :
    Lost parse id.toInt (self.handleStatus parse response) ↔
      ¬(response.status = 404 ∧ self.sessionExpiryOn404 = true) ∧
        ∃ value, errorBody parse response = some value ∧ LosesError value id.toInt := by
  have hreply : self.replyId.isSome = true := by
    rw [h]
    rfl
  unfold PostContext.handleStatus
  by_cases hexpiry : response.status = 404 ∧ self.sessionExpiryOn404 = true
  · rw [if_pos ⟨hexpiry.1, hexpiry.2, hreply⟩]
    exact iff_of_false (not_lost_wake h _ true) fun hloses => hloses.1 hexpiry
  · rw [if_neg fun hall => hexpiry ⟨hall.1, hall.2.1⟩, and_iff_right hexpiry]
    cases hbody : errorBody parse response with
    | none =>
      refine iff_of_false (not_lost_wake h _ _) ?_
      rintro ⟨value, hvalue, _⟩
      cases hvalue
    | some value =>
      rw [forward_error_lost_iff h response (is_jsonrpc_error_of_body hbody)]
      constructor
      · intro hloses
        exact ⟨value, rfl, hloses⟩
      · rintro ⟨other, hother, hloses⟩
        exact Option.some.inj hother ▸ hloses

theorem post_lost_iff (parse : String → Except String Json) (h : self.Serves id)
    (response : HttpResponse) :
    Lost parse id.toInt (self.post parse (.responded response)) ↔
      self.LosesRequest parse id.toInt response := by
  unfold PostContext.post PostContext.LosesRequest
  dsimp only
  split
  next => exact iff_of_false (not_lost_wake h _ true) not_false
  next =>
    split
    next => exact handle_status_lost_iff h response
    next =>
      split
      next => exact pump_post_sse_lost_iff h response
      next => exact handle_body_lost_iff h response

/-! ## The task of a reply -/

def PostContext.Replies (self : PostContext) : Prop :=
  self.replyId = none ∧ self.isSubscription = false

theorem wake_reply (h : self.Replies) (frame : Json → Json) : (self.wake frame).frames = [] := by
  unfold PostContext.wake
  rw [h.1]
  rfl

theorem spares_nil : Spares parse [] :=
  nofun

theorem spares_wake (h : self.Replies) (frame : Json → Json) :
    Spares parse (self.wake frame).frames :=
  (wake_reply h frame).symm ▸ spares_nil

theorem spares_value_iff : Spares parse [.value value] ↔ ¬AnswersSomeone value := by
  rw [spares_iff, List.forall_mem_singleton]
  constructor
  · intro h
    exact h value rfl
  · intro h parsed hparsed
    exact Option.some.inj hparsed ▸ h

theorem spares_texts_iff :
    Spares parse (messages.map .text) ↔
      ¬∃ message ∈ messages, ∃ value, parse message = .ok value ∧ AnswersSomeone value := by
  rw [spares_iff, List.forall_mem_map]
  constructor
  · rintro h ⟨message, hmessage, value, hparse, hanswers⟩
    exact h message hmessage value (to_option_eq_some.2 hparse) hanswers
  · intro h message hmessage value hvalue hanswers
    exact h ⟨message, hmessage, value, to_option_eq_some.1 hvalue, hanswers⟩

theorem pump_events_reply (parse : String → Except String Json) (h : self.Replies)
    (events : List SseEvent) (state : StreamState) :
    ∃ next, self.pumpEvents parse state events =
      (((events.filter fun event => event.data ≠ "").map (·.data)).map .text, some next) := by
  induction events generalizing state with
  | nil => exact ⟨state, rfl⟩
  | cons event rest ih =>
    rw [PostContext.pumpEvents]
    by_cases hdata : event.data = ""
    · have hevent : self.pumpEvent parse state event =
          ([], some { state with hadRetry := state.hadRetry || event.retry.isSome }) := by
        exact if_pos hdata
      obtain ⟨next, hrest⟩ :=
        ih { state with hadRetry := state.hadRetry || event.retry.isSome }
      refine ⟨next, ?_⟩
      rw [hevent, List.filter_cons_of_neg (by simpa using hdata)]
      dsimp only
      rw [hrest]
      rfl
    · have hevent : self.pumpEvent parse state event =
          ([.text event.data],
            some { hadRetry := state.hadRetry || event.retry.isSome
                   hadData := true
                   acknowledged := state.acknowledged }) := by
        unfold PostContext.pumpEvent PostContext.isTerminal
        rw [h.1, h.2]
        rw [if_neg hdata]
        cases parse event.data with
        | error error => rfl
        | ok value => rfl
      obtain ⟨next, hrest⟩ :=
        ih { hadRetry := state.hadRetry || event.retry.isSome
             hadData := true
             acknowledged := state.acknowledged }
      refine ⟨next, ?_⟩
      rw [hevent, List.filter_cons_of_pos (by simpa using hdata)]
      dsimp only
      rw [hrest]
      rfl

theorem end_stream_reply (h : self.Replies) (error : Option SseEventTooLarge) (frames : List Frame)
    (state : StreamState) : (self.endStream error (frames, some state)).frames = frames := by
  unfold PostContext.endStream
  cases error with
  | some error => rfl
  | none =>
    have hclosed : (self.closeStream state).frames = [] := by
      unfold PostContext.closeStream
      split
      next => rfl
      next =>
        split
        next => exact wake_reply h _
        next => exact wake_reply h _
    dsimp only
    rw [hclosed, List.append_nil]

theorem mem_messages_of {events : List SseEvent} :
    some value ∈ messagesOf parse events ↔
      ∃ message ∈ (events.filter fun event => event.data ≠ "").map (·.data),
        parse message = .ok value := by
  unfold messagesOf
  rw [List.mem_map]
  constructor
  · rintro ⟨event, hevent, hread⟩
    exact ⟨event.data, List.mem_map_of_mem hevent, to_option_eq_some.1 hread⟩
  · rintro ⟨message, hmessage, hparse⟩
    obtain ⟨event, hevent, rfl⟩ := List.mem_map.1 hmessage
    exact ⟨event, hevent, to_option_eq_some.2 hparse⟩

theorem handle_status_spares_iff (h : self.Replies) (response : HttpResponse) :
    Spares parse (self.handleStatus parse response).frames ↔
      ¬∃ value, errorBody parse response = some value ∧ isSessionSignal value = true ∧
        AnswersSomeone value := by
  have hexpiry : ¬(response.status = 404 ∧ self.sessionExpiryOn404 = true ∧
      self.replyId.isSome = true) := by
    rintro ⟨_, _, hreply⟩
    rw [h.1] at hreply
    cases hreply
  unfold PostContext.handleStatus
  rw [if_neg hexpiry]
  cases hbody : errorBody parse response with
  | none =>
    refine iff_of_true (spares_wake h _) ?_
    rintro ⟨value, hvalue, _⟩
    cases hvalue
  | some value =>
    have hsome : (∃ other, some value = some other ∧ isSessionSignal other = true ∧
        AnswersSomeone other) ↔ isSessionSignal value = true ∧ AnswersSomeone value := by
      constructor
      · rintro ⟨other, hother, hanswers⟩
        exact Option.some.inj hother ▸ hanswers
      · intro hanswers
        exact ⟨value, rfl, hanswers⟩
    rw [hsome]
    dsimp only
    unfold PostContext.forwardError
    split
    next hsignal =>
      rw [spares_value_iff, and_iff_right hsignal]
    next hsignal =>
      rw [h.1, if_pos Option.isNone_none]
      exact iff_of_true spares_nil fun hanswers => hsignal hanswers.1

theorem handle_body_spares_iff (h : self.Replies) (response : HttpResponse) :
    Spares parse (self.handleBody parse response).frames ↔
      ¬match readBoundedBody self.maxResponseBodySize response with
        | .ok body =>
          ∃ message ∈ extractJsonMessages body, ∃ value, parse message = .ok value ∧
            AnswersSomeone value
        | .error _ => False := by
  unfold PostContext.handleBody
  cases readBoundedBody self.maxResponseBodySize response with
  | error error =>
    cases error with
    | tooLarge message => exact iff_of_true (spares_wake h _) not_false
    | io message => exact iff_of_true (spares_wake h _) not_false
  | ok body =>
    cases body with
    | nil => exact iff_of_true (spares_wake h _) nofun
    | cons c rest =>
      dsimp only
      rw [← spares_texts_iff]
      split
      next hnone =>
        rw [PostContext.wakeWith, wake_reply h, hnone]
        rfl
      next =>
        rw [h.1, Option.all_none, if_pos rfl, List.append_nil]

theorem post_spares_iff (h : self.Replies) (response : HttpResponse) :
    Spares parse (self.post parse (.responded response)).frames ↔
      ¬self.AnswersClient parse response := by
  unfold PostContext.post PostContext.AnswersClient
  dsimp only
  split
  next => exact iff_of_true (spares_wake h _) not_false
  next =>
    split
    next => exact handle_status_spares_iff h response
    next =>
      split
      next =>
        obtain ⟨next, hpumped⟩ := pump_events_reply parse h
          (SseParser.receive self.maxSseEventSize response.chunks).1 {}
        rw [pump_post_sse_eq]
        change Spares parse (self.endStream _ (self.pumpEvents parse {}
          (SseParser.receive self.maxSseEventSize response.chunks).1)).frames ↔ _
        rw [hpumped, end_stream_reply h, spares_texts_iff]
        refine not_congr ?_
        constructor
        · rintro ⟨message, hmessage, value, hparse, hanswers⟩
          exact ⟨value, mem_messages_of.2 ⟨message, hmessage, hparse⟩, hanswers⟩
        · rintro ⟨value, hvalue, hanswers⟩
          obtain ⟨message, hmessage, hparse⟩ := mem_messages_of.1 hvalue
          exact ⟨message, hmessage, value, hparse, hanswers⟩
      next => exact handle_body_spares_iff h response

/-! ## Every response -/

def request (id : Int64) (method : String) (params : Option Json) : Json :=
  JsonRpcRequest.toJson { jsonrpc := "2.0", id := .number id.toInt, method, params }

theorem serves_request (transport : HttpClientTransport) (id : Int64) (method : String)
    (params : Option Json) : (transport.postContext (request id method params)).Serves id :=
  rfl

theorem replies_response (transport : HttpClientTransport) (id : RequestId)
    (outcome : Except JsonRpcError Json) :
    (transport.postContext (serverRequestResponse id outcome)).Replies := by
  cases outcome with
  | error error => exact ⟨rfl, rfl⟩
  | ok value => exact ⟨rfl, rfl⟩

/-- However sending ends: the task of a request queues a frame that completes it, or the notification
stream was told to reconnect, exactly when the response does not lose the request; and the task of a
reply queues no frame that completes a request of the client exactly when no message it forwards is a
response to one. -/
theorem post_answers_iff (parse : String → Except String Json) (transport : HttpClientTransport)
    (result : SendResult) :
    (∀ (id : Int64) (method : String) (params : Option Json),
        let task := transport.postContext (request id method params)
        (Answered parse (task.post parse result).frames id ∨
            (task.post parse result).signalled = true) ↔
          ¬∃ response, result = .responded response ∧
            task.LosesRequest parse id.toInt response) ∧
      ∀ (id : RequestId) (outcome : Except JsonRpcError Json),
        let task := transport.postContext (serverRequestResponse id outcome)
        Spares parse (task.post parse result).frames ↔
          ¬∃ response, result = .responded response ∧ task.AnswersClient parse response := by
  constructor
  · intro id method params task
    have hserves : task.Serves id := serves_request transport id method params
    cases result with
    | failed message connectionFailed =>
      refine iff_of_true (Or.inl (wake_answers hserves _)) ?_
      rintro ⟨response, hresponse, _⟩
      cases hresponse
    | responded response =>
      have hlost := not_congr (post_lost_iff parse hserves response)
      unfold Lost at hlost
      rw [← not_answered_iff, not_and_or, not_not, Bool.not_eq_false] at hlost
      rw [hlost]
      simp only [SendResult.responded.injEq, exists_eq_left']
  · intro id outcome task
    have hreplies : task.Replies := replies_response transport id outcome
    cases result with
    | failed message connectionFailed =>
      refine iff_of_true (spares_wake hreplies _) ?_
      rintro ⟨response, hresponse, _⟩
      cases hresponse
    | responded response =>
      rw [post_spares_iff hreplies response]
      simp only [SendResult.responded.injEq, exists_eq_left']

def largeEvent : HttpResponse :=
  { status := 200
    contentType := some "text/event-stream"
    statusError := ""
    chunks := [[0x64, 0x61, 0x74, 0x61, 0x3a] ++ List.replicate 20 0x61] }

def smallTransport : HttpClientTransport :=
  { sessionId := some "s", sessionRecovery := true, maxSseEventSize := 10,
    maxResponseBodySize := 100 }

/-- An event over the limit ends the stream and wakes nobody. -/
theorem large_event_loses_request :
    ¬∀ (parse : String → Except String Json) (transport : HttpClientTransport)
        (result : SendResult),
      (∀ (id : Int64) (method : String) (params : Option Json),
          let task := transport.postContext (request id method params)
          Answered parse (task.post parse result).frames id ∨
            (task.post parse result).signalled = true) ∧
        ∀ (id : RequestId) (outcome : Except JsonRpcError Json),
          let task := transport.postContext (serverRequestResponse id outcome)
          Spares parse (task.post parse result).frames := by
  intro h
  let parse : String → Except String Json := fun _ => .error ""
  let task := smallTransport.postContext (request 1 "ping" none)
  have hposted : (task.post parse (.responded largeEvent)).frames.isEmpty = true ∧
      (task.post parse (.responded largeEvent)).signalled = false := by
    decide +kernel
  obtain ⟨hframes, hsignalled⟩ := hposted
  obtain ⟨frame, hframe, _⟩ | hsignals := (h parse smallTransport (.responded largeEvent)).1 1 "ping"
    none
  · rw [List.isEmpty_iff.1 hframes] at hframe
    cases hframe
  · exact Bool.false_ne_true (hsignalled.symm.trans hsignals)

end HttpClient

end TowerMcp
