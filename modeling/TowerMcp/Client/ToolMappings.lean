import TowerMcp.Client.Headers
import TowerMcp.Client.Post
import TowerMcp.Lib.Execution

/-!
# The tool list the client knows

The transport learns the header annotations of tools from the pages of the tool list, and takes the
tools it refuses out of them. A frame does not say which request it answers: the transport keeps the
identifiers of its latest requests for the list, and takes every result with `tools` for a page.
`mappings_track_pages` says in which runs it then knows what the pages say.
-/

namespace TowerMcp

open Execution

namespace HttpClient

def finalVersion : String := "2026-07-28"

/-- The part of the transport that follows the tool list. A request for the list that is not answered
yet is kept by its identifier, with whether it had a cursor. -/
structure ToolCache where
  protocolVersion : Option String := none
  toolHeaderMappings : ToolHeaderMappings := ∅
  pendingToolsLists : List (Json × Bool) := []

def maxPendingToolsLists : ℕ := 64

def isModernRequest (message : Json) : Bool :=
  decide ((message.pointer ["params", "_meta", protocolVersionKey]).bind Json.asStr =
    some finalVersion)

def owedId (message : Json) : Option Json :=
  if (message.get "method").isSome then message.get "id" else none

def hasCursor (message : Json) : Bool :=
  (message.pointer ["params", "cursor"]).any fun cursor => !cursor.isNull

def toolsListRequest (message : Json) : Option (Json × Bool) :=
  if isModernRequest message && decide (bodyMethod message = some "tools/list") then
    (owedId message).map fun id => (id, hasCursor message)
  else none

def ToolCache.keep (self : ToolCache) (entry : Json × Bool) : ToolCache :=
  { self with
    pendingToolsLists :=
      (if self.pendingToolsLists.length ≥ maxPendingToolsLists then self.pendingToolsLists.tail
        else self.pendingToolsLists) ++ [entry] }

def ToolCache.send (self : ToolCache) (message : Json) : ToolCache :=
  let self :=
    if isModernRequest message then { self with protocolVersion := some finalVersion } else self
  match toolsListRequest message with
  | some entry => self.keep entry
  | none => self

/-! ## Pages -/

def isListChanged (parsed : Json) : Bool :=
  decide (bodyMethod parsed = some "notifications/tools/list_changed")

def answeredBy (parsed : Json) (entry : Json × Bool) : Bool :=
  (parsed.get "id").any fun id => jsonRequestIdsMatch entry.1 id

def laterPage (pending : List (Json × Bool)) (parsed : Json) : Option Bool :=
  (pending.find? (answeredBy parsed)).map (·.2)

def withoutAnswered (pending : List (Json × Bool)) (parsed : Json) : List (Json × Bool) :=
  pending.eraseP (answeredBy parsed)

def resultTools (parsed : Json) : Option (List Json) :=
  (parsed.pointer ["result", "tools"]).bind Json.asArray

def withTools (parsed : Json) (tools : List Json) : Json :=
  match parsed.get "result" with
  | some result => parsed.set "result" (result.set "tools" (.array tools))
  | none => parsed

def learnedTool (render : Rendering) (tool : Json) : Option (String × List CustomHeaderMapping) := do
  let name ← (tool.get "name").bind Json.asStr
  let schema ← tool.get "inputSchema"
  let mappings ← (customHeaderMappings render schema).toOption
  some (name, mappings)

def learn (render : Rendering) (known : ToolHeaderMappings) (tool : Json) : ToolHeaderMappings :=
  match learnedTool render tool with
  | some (name, mappings) => known.insert name mappings
  | none => known

def retainedTools (render : Rendering) (tools : List Json) : List Json :=
  tools.filter fun tool => (learnedTool render tool).isSome

def frameText (parsed : Json) : String :=
  String.ofList (Json.compact parsed)

def ToolCache.normalizeParsed (render : Rendering) (self : ToolCache) (message : String)
    (parsed : Json) : String × ToolCache :=
  if isListChanged parsed then (message, { self with toolHeaderMappings := ∅ })
  else
    let pending := withoutAnswered self.pendingToolsLists parsed
    match resultTools parsed with
    | none => (message, { self with pendingToolsLists := pending })
    | some tools =>
      let known :=
        if (laterPage self.pendingToolsLists parsed).getD false then self.toolHeaderMappings else ∅
      (frameText (withTools parsed (retainedTools render tools)),
        { self with
          pendingToolsLists := pending
          toolHeaderMappings := tools.foldl (learn render) known })

def ToolCache.normalizeIncomingMessage (parse : String → Option Json) (render : Rendering)
    (self : ToolCache) (message : String) : String × ToolCache :=
  if self.protocolVersion ≠ some finalVersion then (message, self)
  else
    match parse message with
    | none => (message, self)
    | some parsed => self.normalizeParsed render message parsed

/-! ## What the client should know -/

/-- A connection: the cache, the requests for the list that are not answered yet, the tools of the
pages since the last first page or the last change of the list, and the texts that are passed on and
that should be. -/
structure ToolConnection where
  cache : ToolCache
  outstanding : List (Json × Bool) := []
  listed : List Json := []
  delivered : List String := []
  due : List String := []

def ToolConnection.opened : ToolConnection where
  cache := { protocolVersion := some finalVersion }

inductive ToolEvent where
  | send (message : String)
  | receive (message : String)

def answeredPage (outstanding : List (Json × Bool)) (parsed : Json) : Option Bool :=
  if isResponseFrame parsed then laterPage outstanding parsed else none

def ToolConnection.afterFrame (render : Rendering) (self : ToolConnection) (message : String)
    (parsed : Json) : ToolConnection :=
  if isListChanged parsed then { self with listed := [], due := self.due ++ [message] }
  else
    let outstanding :=
      if isResponseFrame parsed then withoutAnswered self.outstanding parsed else self.outstanding
    match answeredPage self.outstanding parsed, resultTools parsed with
    | some later, some tools =>
      { self with
        outstanding
        listed := (if later then self.listed else []) ++ tools
        due := self.due ++ [frameText (withTools parsed (retainedTools render tools))] }
    | _, _ => { self with outstanding, due := self.due ++ [message] }

def ToolConnection.step (parse : String → Option Json) (render : Rendering)
    (self : ToolConnection) : ToolEvent → Option ToolConnection
  | .send message =>
    match parse message with
    | none => some self
    | some parsed =>
      some { self with
        cache := self.cache.send parsed
        outstanding := self.outstanding ++ (toolsListRequest parsed).toList }
  | .receive message =>
    let (text, cache) := self.cache.normalizeIncomingMessage parse render message
    let passed := { self with cache, delivered := self.delivered ++ [text] }
    match parse message with
    | none => some { passed with due := passed.due ++ [message] }
    | some parsed => some (passed.afterFrame render message parsed)

def listedMappings (render : Rendering) (tools : List Json) (name : String) :
    Option (List CustomHeaderMapping) :=
  ((tools.filterMap (learnedTool render)).reverse.find? fun tool => decide (tool.1 = name)).map (·.2)

def ToolConnection.Tracks (render : Rendering) (self : ToolConnection) : Prop :=
  (∀ name, self.cache.toolHeaderMappings.lookup name = listedMappings render self.listed name) ∧
    self.delivered = self.due

def ToolConnection.Recorded (parse : String → Option Json) (self : ToolConnection) :
    ToolEvent → Prop
  | .send _ => True
  | .receive message => ∀ parsed, parse message = some parsed → isListChanged parsed = false →
      (resultTools parsed).isSome = true →
        answeredPage self.outstanding parsed =
          some ((laterPage self.cache.pendingToolsLists parsed).getD false)

/-- Whether an event is recorded can be decided. -/
instance decidableRecorded (parse : String → Option Json) (state : ToolConnection) :
    ∀ event, Decidable (state.Recorded parse event)
  | .send _ => .isTrue trivial
  | .receive message => inferInstanceAs (Decidable (∀ parsed ∈ parse message,
      isListChanged parsed = false → (resultTools parsed).isSome = true →
        answeredPage state.outstanding parsed =
          some ((laterPage state.cache.pendingToolsLists parsed).getD false)))

/-- There are never more requests for the list than are kept, a result with tools answers one, and no
frame but a response carries the identifier of one. -/
def ToolConnection.Orderly (parse : String → Option Json) (self : ToolConnection) :
    ToolEvent → Prop
  | .send message => ∀ parsed, parse message = some parsed → (toolsListRequest parsed).isSome = true →
      self.outstanding.length < maxPendingToolsLists
  | .receive message => ∀ parsed, parse message = some parsed → isListChanged parsed = false →
      ((resultTools parsed).isSome = true → (answeredPage self.outstanding parsed).isSome = true) ∧
        ((laterPage self.outstanding parsed).isSome = true → isResponseFrame parsed = true)

variable {parse : String → Option Json} {render : Rendering}

/-! ## What pages list -/

theorem listed_mappings_append (first second : List Json) (name : String) :
    listedMappings render (first ++ second) name =
      (listedMappings render second name).or (listedMappings render first name) := by
  unfold listedMappings
  rw [List.filterMap_append, List.reverse_append, List.find?_append, Option.map_or]

theorem lookup_learn (known : ToolHeaderMappings) (tool : Json) (name : String) :
    (learn render known tool).lookup name =
      (listedMappings render [tool] name).or (known.lookup name) := by
  unfold learn listedMappings
  cases htool : learnedTool render tool with
  | none => simp [htool]
  | some learned =>
    obtain ⟨other, mappings⟩ := learned
    rw [FinMap.lookup_insert_eq_ite]
    by_cases hname : name = other
    · simp [htool, hname]
    · simp [htool, hname, Ne.symm hname]

theorem lookup_foldl_learn (tools : List Json) (known : ToolHeaderMappings) (name : String) :
    (tools.foldl (learn render) known).lookup name =
      (listedMappings render tools name).or (known.lookup name) := by
  induction tools generalizing known with
  | nil => rfl
  | cons tool rest ih =>
    rw [List.foldl_cons, ih, lookup_learn, ← Option.or_assoc, ← listed_mappings_append,
      List.singleton_append]

/-! ## One event -/

theorem tool_header_mappings_send (cache : ToolCache) (message : Json) :
    (cache.send message).toolHeaderMappings = cache.toolHeaderMappings := by
  unfold ToolCache.send
  by_cases hmodern : isModernRequest message = true
  · rw [if_pos hmodern]
    cases toolsListRequest message <;> rfl
  · rw [if_neg hmodern]
    cases toolsListRequest message <;> rfl

variable {cache : ToolCache}

theorem protocol_version_send (h : cache.protocolVersion = some finalVersion) (message : Json) :
    (cache.send message).protocolVersion = some finalVersion := by
  unfold ToolCache.send
  by_cases hmodern : isModernRequest message = true
  · rw [if_pos hmodern]
    cases toolsListRequest message <;> rfl
  · rw [if_neg hmodern]
    cases toolsListRequest message <;> exact h

theorem protocol_version_normalize (h : cache.protocolVersion = some finalVersion)
    (message : String) (parsed : Json) :
    (cache.normalizeParsed render message parsed).2.protocolVersion = some finalVersion := by
  unfold ToolCache.normalizeParsed
  split
  next => exact h
  next => cases resultTools parsed <;> exact h

variable {message : String} {parsed : Json}

theorem normalize_incoming_message_eq (h : cache.protocolVersion = some finalVersion)
    (hparsed : parse message = some parsed) :
    cache.normalizeIncomingMessage parse render message =
      cache.normalizeParsed render message parsed := by
  unfold ToolCache.normalizeIncomingMessage
  rw [if_neg (not_not.2 h), hparsed]

theorem normalize_incoming_message_none (hparsed : parse message = none) :
    cache.normalizeIncomingMessage parse render message = (message, cache) := by
  unfold ToolCache.normalizeIncomingMessage
  rw [hparsed]
  exact ite_self _

def ToolConnection.passed (render : Rendering) (self : ToolConnection) (message : String)
    (parsed : Json) : ToolConnection :=
  { self with
    cache := (self.cache.normalizeParsed render message parsed).2
    delivered := self.delivered ++ [(self.cache.normalizeParsed render message parsed).1] }

variable {state : ToolConnection}

theorem step_send (hparsed : parse message = some parsed) :
    state.step parse render (.send message) =
      some { state with
        cache := state.cache.send parsed
        outstanding := state.outstanding ++ (toolsListRequest parsed).toList } := by
  unfold ToolConnection.step
  dsimp only
  rw [hparsed]

theorem step_send_none (hparsed : parse message = none) :
    state.step parse render (.send message) = some state := by
  unfold ToolConnection.step
  dsimp only
  rw [hparsed]

theorem step_receive (h : state.cache.protocolVersion = some finalVersion)
    (hparsed : parse message = some parsed) :
    state.step parse render (.receive message) =
      some ((state.passed render message parsed).afterFrame render message parsed) := by
  unfold ToolConnection.step
  dsimp only
  rw [normalize_incoming_message_eq h hparsed, hparsed]
  rfl

theorem step_receive_none (hparsed : parse message = none) :
    state.step parse render (.receive message) =
      some { state with delivered := state.delivered ++ [message], due := state.due ++ [message] } := by
  unfold ToolConnection.step
  dsimp only
  rw [normalize_incoming_message_none hparsed, hparsed]

theorem tracks_after_frame (htracks : state.Tracks render)
    (hrecorded : isListChanged parsed = false → (resultTools parsed).isSome = true →
      answeredPage state.outstanding parsed =
        some ((laterPage state.cache.pendingToolsLists parsed).getD false)) :
    ((state.passed render message parsed).afterFrame render message parsed).Tracks render := by
  obtain ⟨hknown, hdelivered⟩ := htracks
  unfold ToolConnection.afterFrame ToolConnection.passed ToolCache.normalizeParsed
  cases hchanged : isListChanged parsed with
  | true =>
    refine ⟨fun name => rfl, ?_⟩
    rw [if_pos rfl, if_pos rfl, hdelivered]
  | false =>
    rw [if_neg Bool.false_ne_true, if_neg Bool.false_ne_true]
    cases htools : resultTools parsed with
    | none =>
      dsimp only
      split
      next => contradiction
      next => exact ⟨hknown, by rw [hdelivered]⟩
    | some tools =>
      have hanswered := hrecorded hchanged (by rw [htools]; rfl)
      rw [hanswered]
      refine ⟨fun name => ?_, by rw [hdelivered]⟩
      rw [lookup_foldl_learn, listed_mappings_append]
      split
      next => rw [hknown name]
      next => rfl

variable {event : ToolEvent}

variable {next : ToolConnection}

theorem tracks_step
    (hfinal : state.cache.protocolVersion = some finalVersion) (htracks : state.Tracks render)
    (hrecorded : state.Recorded parse event) (hstep : state.step parse render event = some next) :
    next.Tracks render := by
  cases event with
  | send message =>
    cases hparsed : parse message with
    | none =>
      rw [step_send_none hparsed] at hstep
      cases hstep
      exact htracks
    | some parsed =>
      rw [step_send hparsed] at hstep
      cases hstep
      refine ⟨fun name => ?_, htracks.2⟩
      rw [tool_header_mappings_send]
      exact htracks.1 name
  | receive message =>
    cases hparsed : parse message with
    | none =>
      rw [step_receive_none hparsed] at hstep
      cases hstep
      refine ⟨htracks.1, ?_⟩
      rw [htracks.2]
    | some parsed =>
      rw [step_receive hfinal hparsed] at hstep
      cases hstep
      exact tracks_after_frame htracks (hrecorded parsed hparsed)

theorem cache_after_frame (state : ToolConnection) (message : String) (parsed : Json) :
    (state.afterFrame render message parsed).cache = state.cache := by
  unfold ToolConnection.afterFrame
  split
  next => rfl
  next =>
    dsimp only
    split <;> rfl

theorem protocol_version_step
    (hfinal : state.cache.protocolVersion = some finalVersion)
    (hstep : state.step parse render event = some next) :
    next.cache.protocolVersion = some finalVersion := by
  cases event with
  | send message =>
    cases hparsed : parse message with
    | none =>
      rw [step_send_none hparsed] at hstep
      cases hstep
      exact hfinal
    | some parsed =>
      rw [step_send hparsed] at hstep
      cases hstep
      exact protocol_version_send hfinal parsed
  | receive message =>
    cases hparsed : parse message with
    | none =>
      rw [step_receive_none hparsed] at hstep
      cases hstep
      exact hfinal
    | some parsed =>
      rw [step_receive hfinal hparsed] at hstep
      cases hstep
      rw [cache_after_frame]
      exact protocol_version_normalize hfinal message parsed

/-! ## Orderly runs -/

theorem pending_tools_lists_send {message : Json}
    (hroom : (toolsListRequest message).isSome = true →
      cache.pendingToolsLists.length < maxPendingToolsLists) :
    (cache.send message).pendingToolsLists =
      cache.pendingToolsLists ++ (toolsListRequest message).toList := by
  have hversion : (if isModernRequest message = true then
      { cache with protocolVersion := some finalVersion } else cache).pendingToolsLists =
        cache.pendingToolsLists := by
    split <;> rfl
  unfold ToolCache.send
  dsimp only
  cases hrequest : toolsListRequest message with
  | none =>
    dsimp only
    rw [hversion]
    exact (List.append_nil _).symm
  | some entry =>
    have hlength := hroom (by rw [hrequest]; rfl)
    unfold ToolCache.keep
    dsimp only
    rw [hversion, if_neg (by omega)]
    rfl

theorem pending_tools_lists_normalize (h : isListChanged parsed = false) :
    (cache.normalizeParsed render message parsed).2.pendingToolsLists =
      withoutAnswered cache.pendingToolsLists parsed := by
  unfold ToolCache.normalizeParsed
  rw [if_neg (Bool.eq_false_iff.1 h)]
  cases resultTools parsed <;> rfl

theorem without_answered_eq_self {pending : List (Json × Bool)}
    (h : laterPage pending parsed = none) : withoutAnswered pending parsed = pending := by
  refine List.eraseP_of_forall_not fun entry hentry => ?_
  exact List.find?_eq_none.1 (Option.map_eq_none_iff.1 h) entry hentry

theorem outstanding_after_frame (h : isListChanged parsed = false) :
    (state.afterFrame render message parsed).outstanding =
      if isResponseFrame parsed then withoutAnswered state.outstanding parsed
        else state.outstanding := by
  unfold ToolConnection.afterFrame
  rw [if_neg (Bool.eq_false_iff.1 h)]
  dsimp only
  split <;> rfl

structure ToolConnection.Complete (connection : ToolConnection) : Prop where
  final : connection.cache.protocolVersion = some finalVersion
  pending : connection.cache.pendingToolsLists = connection.outstanding

theorem complete_step (hcomplete : state.Complete)
    (horderly : state.Orderly parse event) (hstep : state.step parse render event = some next) :
    next.Complete := by
  refine ⟨protocol_version_step hcomplete.final hstep, ?_⟩
  cases event with
  | send message =>
    cases hparsed : parse message with
    | none =>
      rw [step_send_none hparsed] at hstep
      cases hstep
      exact hcomplete.pending
    | some parsed =>
      rw [step_send hparsed] at hstep
      cases hstep
      rw [pending_tools_lists_send, hcomplete.pending]
      rw [hcomplete.pending]
      exact horderly parsed hparsed
  | receive message =>
    cases hparsed : parse message with
    | none =>
      rw [step_receive_none hparsed] at hstep
      cases hstep
      exact hcomplete.pending
    | some parsed =>
      rw [step_receive hcomplete.final hparsed] at hstep
      cases hstep
      rw [cache_after_frame]
      cases hchanged : isListChanged parsed with
      | true =>
        unfold ToolConnection.afterFrame ToolConnection.passed ToolCache.normalizeParsed
        rw [if_pos hchanged, if_pos hchanged]
        exact hcomplete.pending
      | false =>
        rw [outstanding_after_frame hchanged]
        unfold ToolConnection.passed
        dsimp only
        rw [pending_tools_lists_normalize hchanged, hcomplete.pending]
        split
        next => rfl
        next hresponse =>
          refine without_answered_eq_self (Option.not_isSome_iff_eq_none.1 fun hlater => ?_)
          exact hresponse ((horderly parsed hparsed hchanged).2 hlater)

theorem recorded_of_orderly (hcomplete : state.Complete) (horderly : state.Orderly parse event) :
    state.Recorded parse event := by
  cases event with
  | send message => trivial
  | receive message =>
    intro parsed hparsed hchanged htools
    have hanswered := (horderly parsed hparsed hchanged).1 htools
    rw [hcomplete.pending]
    unfold answeredPage at hanswered ⊢
    split at hanswered
    next hresponse =>
      rw [if_pos hresponse]
      obtain ⟨later, hlater⟩ := Option.isSome_iff_exists.1 hanswered
      rw [hlater]
      rfl
    next => cases hanswered

/-- A run keeps the cache in step with the pages when each result with tools answers a request for the
list whose page the cache knows; and so it does in every orderly run. -/
theorem mappings_track_pages (parse : String → Option Json) (render : Rendering)
    (events : List ToolEvent) :
    (Along (ToolConnection.step parse render) (ToolConnection.Recorded parse)
        .opened events →
      Throughout (ToolConnection.step parse render) (ToolConnection.Tracks render)
        .opened events) ∧
      (Along (ToolConnection.step parse render) (ToolConnection.Orderly parse)
          .opened events →
        Along (ToolConnection.step parse render) (ToolConnection.Recorded parse)
          .opened events) := by
  constructor
  · intro halong
    have hinvariant := throughout_of_along
      (I := fun state => state.cache.protocolVersion = some finalVersion ∧ state.Tracks render)
      (fun state event next hstate hrecorded hstep =>
        ⟨protocol_version_step hstate.1 hstep, tracks_step hstate.1 hstate.2 hrecorded hstep⟩)
      ⟨rfl, fun _ => rfl, rfl⟩ halong
    exact hinvariant.mono fun state hstate => hstate.2
  · intro halong
    exact along_of_along (I := ToolConnection.Complete)
      (fun state event next hcomplete horderly hstep => complete_step hcomplete horderly hstep)
      (fun state event hcomplete horderly => recorded_of_orderly hcomplete horderly)
      ⟨rfl, rfl⟩ halong

def readAmong (values : List Json) (text : String) : Option Json :=
  values.find? fun value => decide (frameText value = text)

def listTools (id : ℕ) (cursor : Option String) : Json :=
  .object [("id", .number (.posInt id)), ("method", .string "tools/list"), ("params", .object
    ((cursor.toList.map fun cursor => ("cursor", .string cursor)) ++
      [("_meta", .object [(protocolVersionKey, .string finalVersion)])]))]

def regionTool (name : String) : Json :=
  .object [("name", .string name), ("inputSchema", regionSchema)]

def toolsResult (id : ℕ) (tools : List Json) : Json :=
  .object [("id", .number (.posInt id)), ("result", .object [("tools", .array tools)])]

/-- A result with tools that answers something else takes away what a page has said. -/
theorem unrelated_result_clears_mappings :
    ¬Throughout
      (ToolConnection.step
        (readAmong [listTools 1 none, toolsResult 1 [regionTool "echo"], toolsResult 2 []])
        plainRendering)
      (ToolConnection.Tracks plainRendering) .opened
      [.send (frameText (listTools 1 none)),
        .receive (frameText (toolsResult 1 [regionTool "echo"])),
        .receive (frameText (toolsResult 2 []))] := by
  intro hall
  obtain ⟨final, hfinal, hdiffers⟩ : ∃ final, run
      (ToolConnection.step
        (readAmong [listTools 1 none, toolsResult 1 [regionTool "echo"], toolsResult 2 []])
        plainRendering) .opened
      [.send (frameText (listTools 1 none)),
        .receive (frameText (toolsResult 1 [regionTool "echo"])),
        .receive (frameText (toolsResult 2 []))] = some final ∧
      final.cache.toolHeaderMappings.lookup "echo" ≠
        listedMappings plainRendering final.listed "echo" := by
    decide +kernel
  exact hdiffers ((hall.last hfinal).1 "echo")

theorem mappings_track_pages_two :
    Throughout
      (ToolConnection.step
        (readAmong [listTools 1 none, toolsResult 1 [regionTool "echo"], listTools 2 (some "next"),
          toolsResult 2 [regionTool "ping"]]) plainRendering)
      (ToolConnection.Tracks plainRendering) .opened
      [.send (frameText (listTools 1 none)),
        .receive (frameText (toolsResult 1 [regionTool "echo"])),
        .send (frameText (listTools 2 (some "next"))),
        .receive (frameText (toolsResult 2 [regionTool "ping"]))] := by
  have htrack := mappings_track_pages
    (readAmong [listTools 1 none, toolsResult 1 [regionTool "echo"], listTools 2 (some "next"),
      toolsResult 2 [regionTool "ping"]]) plainRendering
    [.send (frameText (listTools 1 none)),
      .receive (frameText (toolsResult 1 [regionTool "echo"])),
      .send (frameText (listTools 2 (some "next"))),
      .receive (frameText (toolsResult 2 [regionTool "ping"]))]
  exact htrack.1 (by decide +kernel)

end HttpClient

end TowerMcp
