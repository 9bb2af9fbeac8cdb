import TowerMcp.Types.JsonRpc
import TowerMcp.Types.Text

/-!
# Frames the client receives

How the message loop of the client routes a frame to the requests it completes, and how a transport
compares the identifiers of frames. The client numbers its requests, and a response may carry the
number as a text: `mem_completes_iff` says which requests a frame completes, and
`request_ids_match_iff` that the transport compares identifiers in the same way.
-/

namespace TowerMcp

def JsonRpcRequest.toJson (self : JsonRpcRequest) : Json :=
  .object ([("jsonrpc", .string self.jsonrpc), ("id", self.id.toJson),
    ("method", .string self.method)] ++ self.params.toList.map fun params => ("params", params))

def serverRequestResponse (id : RequestId) : Except JsonRpcError Json → Json
  | .ok value => .object [("jsonrpc", .string "2.0"), ("id", id.toJson), ("result", value)]
  | .error error =>
    .object [("jsonrpc", .string "2.0"), ("id", id.toJson),
      ("error", .object [("code", (RequestId.number error.code).toJson),
        ("message", .string error.message)])]

def jsonRequestIdsMatch (left right : Json) : Bool :=
  decide (Json.SameValue left right) ||
    ((RequestId.fromJson left).isSome &&
      decide (RequestId.fromJson left = RequestId.fromJson right)) ||
    match left, right with
    | .number number, .string value | .string value, .number number =>
      ((Json.number number).asI64.any fun n => parseI64 value.toList = some n)
    | _, _ => false

/-! ## The message loop -/

def toI32 (code : ℤ) : ℤ :=
  code.bmod (2 ^ 32)

def isSessionLevel (parsed : Json) : Bool :=
  match parsed.get "error" with
  | some error =>
    decide (toI32 (((error.get "code").bind Json.asI64).getD 0) = -32005) &&
      (parsed.get "id").all Json.isNull
  | none => false

def handleResponse (pending : List RequestId) (parsed : Json) : Option RequestId :=
  match extractRequestId parsed with
  | none => none
  | some id =>
    if id ∈ pending then some id
    else
      match id with
      | .string text =>
        (parseI64 text.toList).bind fun n =>
          if .number n ∈ pending then some (.number n) else none
      | .number _ => none

def handleIncoming (pending : List RequestId) (parsed : Json) : List RequestId :=
  if isResponseFrame parsed then
    if isSessionLevel parsed then pending else (handleResponse pending parsed).toList
  else []

def numbered (pending : List Int64) : List RequestId :=
  pending.map fun id => .number id.toInt

def standsFor (id : Json) (number : ℤ) : Bool :=
  match RequestId.fromJson id with
  | some (.number n) => decide (n = number)
  | some (.string text) => decide (parseI64 text.toList = some number)
  | none => false

def carriesId (parsed : Json) (number : ℤ) : Bool :=
  (parsed.get "id").any fun id => standsFor id number

def hasOutcome (parsed : Json) : Bool :=
  (parsed.get "result").isSome || (parsed.get "error").isSome

def hasMethod (parsed : Json) : Bool :=
  (parsed.get "method").isSome

variable {parsed : Json} {id : Int64} {pending : List Int64}

theorem mem_numbered : RequestId.number id.toInt ∈ numbered pending ↔ id ∈ pending := by
  unfold numbered
  rw [List.mem_map]
  constructor
  · rintro ⟨other, hother, hequal⟩
    have hint := RequestId.number.inj hequal
    rwa [Int64.toInt_inj.1 hint] at hother
  · intro hid
    exact ⟨id, hid, rfl⟩

theorem string_not_mem_numbered (text : String) : RequestId.string text ∉ numbered pending := by
  intro hmem
  obtain ⟨other, _, hother⟩ := List.mem_map.1 hmem
  cases hother

theorem mem_handle_response :
    RequestId.number id.toInt ∈ (handleResponse (numbered pending) parsed).toList ↔
      id ∈ pending ∧ carriesId parsed id.toInt = true := by
  unfold handleResponse carriesId extractRequestId
  cases parsed.get "id" with
  | none => simp
  | some value =>
    rw [Option.bind_some, Option.any_some]
    unfold standsFor
    cases RequestId.fromJson value with
    | none => simp
    | some read =>
      cases read with
      | number n =>
        rw [decide_eq_true_eq]
        by_cases hn : n = id.toInt
        · subst hn
          by_cases hid : id ∈ pending <;> simp [mem_numbered, hid]
        · have hne : RequestId.number id.toInt ≠ .number n :=
            fun h => hn (RequestId.number.inj h).symm
          by_cases hmem : RequestId.number n ∈ numbered pending <;> simp [hmem, hn, hne]
      | string text =>
        dsimp only
        rw [if_neg (string_not_mem_numbered text), decide_eq_true_eq]
        cases parseI64 text.toList with
        | none => simp
        | some n =>
          rw [Option.bind_some, Option.some.injEq]
          by_cases hn : n = id.toInt
          · subst hn
            by_cases hid : id ∈ pending <;> simp [mem_numbered, hid]
          · have hne : RequestId.number id.toInt ≠ .number n :=
              fun h => hn (RequestId.number.inj h).symm
            by_cases hmem : RequestId.number n ∈ numbered pending <;> simp [hmem, hn, hne]

def resolves (parsed : Json) (number : ℤ) : Bool :=
  isResponseFrame parsed && (isSessionLevel parsed || carriesId parsed number)

theorem mem_handle_incoming :
    RequestId.number id.toInt ∈ handleIncoming (numbered pending) parsed ↔
      id ∈ pending ∧ resolves parsed id.toInt = true := by
  unfold handleIncoming resolves
  cases isResponseFrame parsed with
  | false => simp
  | true =>
    cases isSessionLevel parsed with
    | false => simpa using mem_handle_response
    | true => simpa using mem_numbered

theorem handle_incoming_subset {pending : List RequestId} {completed : RequestId}
    (h : completed ∈ handleIncoming pending parsed) : completed ∈ pending := by
  unfold handleIncoming at h
  split at h
  next =>
    split at h
    next => exact h
    next =>
      unfold handleResponse at h
      split at h
      next => cases h
      next read _ =>
        split at h
        next hread =>
          obtain rfl : completed = read := by simpa using h
          exact hread
        next =>
          split at h
          next text =>
            obtain ⟨n, _, hn⟩ := Option.bind_eq_some_iff.1 (Option.mem_toList.1 h)
            obtain ⟨hpending, heq⟩ := Option.ite_none_right_eq_some.1 hn
            exact Option.some.inj heq ▸ hpending
          next => cases h
  next => cases h

theorem handle_incoming_eq_nil_iff :
    (∀ pending : List Int64, handleIncoming (numbered pending) parsed = []) ↔
      ∀ id : Int64, resolves parsed id.toInt = false := by
  constructor
  · intro h id
    have hid : RequestId.number id.toInt ∈ handleIncoming (numbered [id]) parsed ↔ _ :=
      mem_handle_incoming
    rw [h] at hid
    simpa using hid
  · intro h pending
    refine List.eq_nil_iff_forall_not_mem.2 fun completed hcompleted => ?_
    obtain ⟨id, hid, rfl⟩ := List.mem_map.1 (handle_incoming_subset hcompleted)
    have hresolves := (mem_handle_incoming.1 hcompleted).2
    rw [h id] at hresolves
    cases hresolves

theorem is_array_of_carries_id {number : ℤ} (h : carriesId parsed number = true) :
    parsed.isArray = false := by
  obtain ⟨value, hvalue, _⟩ := (Option.any_eq_true _ _).1 h
  obtain ⟨fields, rfl⟩ := Json.eq_object_of_get hvalue
  rfl

/-! ## Identifiers as a transport compares them -/

theorem to_json_number (number : ℤ) :
    ∃ literal, (RequestId.number number).toJson = .number literal ∧
      Json.canonNumber literal = literal ∧
      ∀ other, Json.canonNumber other = literal → other = literal := by
  cases number with
  | ofNat n =>
    refine ⟨.posInt n, rfl, rfl, fun other hother => ?_⟩
    cases other with
    | posInt m => exact hother
    | negInt m => cases hother
    | float literal => cases hother
  | negSucc n =>
    refine ⟨.negInt n, rfl, rfl, fun other hother => ?_⟩
    cases other with
    | posInt m => cases hother
    | negInt m => exact hother
    | float literal => cases hother

theorem eq_of_same_value {actual : Json} (number : ℤ)
    (h : Json.SameValue actual (RequestId.number number).toJson) :
    actual = (RequestId.number number).toJson := by
  obtain ⟨literal, hliteral, hcanon, hother⟩ := to_json_number number
  unfold Json.SameValue at h
  rw [hliteral] at h ⊢
  cases actual with
  | number other =>
    have hequal : Json.canonNumber other = Json.canonNumber literal := by
      simpa [Json.canon] using h
    rw [hother other (hequal.trans hcanon)]
  | _ => simp [Json.canon] at h

theorem as_i64_number (id : Int64) :
    (RequestId.number id.toInt).toJson.asI64 = some id.toInt := by
  have hlt := Int64.toInt_lt id
  have hle := Int64.le_toInt id
  cases hid : id.toInt with
  | ofNat n =>
    rw [hid, Int.ofNat_eq_natCast] at hlt
    exact if_pos (by omega)
  | negSucc n =>
    rw [hid, Int.negSucc_eq] at hle
    exact if_pos (by omega)

theorem from_json_number (id : Int64) :
    RequestId.fromJson (RequestId.number id.toInt).toJson = some (.number id.toInt) := by
  have has := as_i64_number id
  cases hid : id.toInt with
  | ofNat n =>
    rw [hid] at has
    exact congrArg (Option.map RequestId.number) has
  | negSucc n =>
    rw [hid] at has
    exact congrArg (Option.map RequestId.number) has

theorem from_json_ne_string (literal : JsonNumber) (text : String) :
    RequestId.fromJson (.number literal) ≠ some (.string text) := by
  cases literal with
  | float literal => simp [RequestId.fromJson]
  | _ => simp [RequestId.fromJson]

theorem request_ids_match_iff (actual : Json) (id : Int64) :
    jsonRequestIdsMatch actual (RequestId.number id.toInt).toJson = standsFor actual id.toInt := by
  have hread := from_json_number id
  have has := as_i64_number id
  have hsame := fun h : Json.SameValue actual _ => congrArg RequestId.fromJson
    (eq_of_same_value id.toInt h)
  obtain ⟨literal, hliteral, _, _⟩ := to_json_number id.toInt
  rw [hread] at hsame
  unfold jsonRequestIdsMatch standsFor
  rw [hread]
  rw [hliteral] at hsame has ⊢
  cases actual with
  | string text =>
    have hdiffers : ¬Json.SameValue (.string text) (.number literal) := by
      intro h
      cases hsame h
    simp [hdiffers, RequestId.fromJson, has]
  | number other =>
    cases hother : RequestId.fromJson (.number other) with
    | none =>
      have hdiffers : ¬Json.SameValue (.number other) (.number literal) := by
        intro h
        rw [hsame h] at hother
        cases hother
      simp [hdiffers]
    | some read =>
      cases read with
      | string text => exact absurd hother (from_json_ne_string other text)
      | number n =>
        by_cases hn : n = id.toInt
        · simp [hn]
        · have hdiffers : ¬Json.SameValue (.number other) (.number literal) := by
            intro h
            rw [hsame h] at hother
            exact hn (RequestId.number.inj (Option.some.inj hother)).symm
          simp [hdiffers, hn]
  | _ =>
    simp only [RequestId.fromJson, Json.asI64, Option.map_none, reduceCtorEq, imp_false] at hsame
    simp [hsame, RequestId.fromJson, Json.asI64]

end TowerMcp
