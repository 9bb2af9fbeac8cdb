import TowerMcp.Client.Frames
import TowerMcp.Transport.Receive

/-!
# The readers of an envelope

A decoded value is looked at by `JsonRpcPayload::inspect` of `inspection.rs`, by `classify_frame`
and `correlating_id` of `framing.rs`, and by the typed decoders of `protocol.rs`.
-/

namespace TowerMcp

open Fallible

/-! ## Decoders and encoders -/

def readResultResponse (value : Json) : Option JsonRpcResponse := do
  let _ ← (← value.get "jsonrpc").asStr
  let id ← RequestId.fromJson (← value.get "id")
  let result ← value.get "result"
  pure (.result id result)

/-- Read an error response. An identifier that is `null` is absent. -/
def readErrorResponse (value : Json) : Option JsonRpcResponse := do
  let _ ← (← value.get "jsonrpc").asStr
  let id ← Json.optionalField RequestId.fromJson (value.get "id")
  let error ← JsonRpcError.fromJson (← value.get "error")
  pure (.error id error)

/-- Read a response. A member that is `null` counts as absent, unless it is the only one. -/
def JsonRpcResponse.fromJson (value : Json) : Option JsonRpcResponse :=
  let hasError := (value.get "error").any fun error => !error.isNull
  let hasResultValue := (value.get "result").any fun result => !result.isNull
  if hasError && hasResultValue then none
  else if hasError then readErrorResponse value
  else if (value.get "result").isSome then readResultResponse value
  else none

def JsonRpcNotification.toJson (self : JsonRpcNotification) : Json :=
  .object ([("jsonrpc", .string self.jsonrpc), ("method", .string self.method)] ++
    self.params.toList.map fun params => ("params", params))

namespace JsonRpcEnvelope

def toJson : JsonRpcEnvelope → Json
  | .request call => call.toJson
  | .notification call => call.toJson
  | .result id value => (JsonRpcResponse.result id value).toJson
  | .error id failure => (JsonRpcResponse.error id failure).toJson

def id? : JsonRpcEnvelope → Option RequestId
  | .request call => some call.id
  | .notification _ => none
  | .result id _ => some id
  | .error id _ => id

def asRequest : JsonRpcEnvelope → Option JsonRpcRequest
  | .request call => some call
  | _ => none

def asResponse : JsonRpcEnvelope → Option JsonRpcResponse
  | .result id value => some (.result id value)
  | .error id failure => some (.error id failure)
  | _ => none

end JsonRpcEnvelope

def JsonRpcPayload.toJson : JsonRpcPayload → Json
  | .single envelope => envelope.toJson
  | .batch messages => .array (messages.map JsonRpcEnvelope.toJson)

/-! ## Agreement -/

/-- The class of a message by its kind. An error is one of a response when its value has an
identifier, be it `null`. -/
def JsonRpcEnvelope.frameClass (value : Json) : JsonRpcEnvelope → FrameClass
  | .request _ => .request
  | .notification _ => .notification
  | .result _ _ => .response
  | .error _ _ => if (value.get "id").isSome then .response else .notification

structure ReadAlike (value : Json) (envelope : JsonRpcEnvelope) : Prop where
  classified : classifyFrame value = envelope.frameClass value
  message : JsonRpcMessage.fromJson value = envelope.asRequest.map .single
  notification : ∀ notification, envelope = .notification notification →
    JsonRpcNotification.fromJson value = some notification
  response : JsonRpcResponse.fromJson value = envelope.asResponse
  correlated : correlatingId value = envelope.id?

/-- Every reader makes the same messages of a batch, which is one of requests when all of them are.
-/
structure BatchReadAlike (items : List Json) (messages : List JsonRpcEnvelope) : Prop where
  classified : classifyFrame (.array items) = .request
  members : List.Forall₂ ReadAlike items messages
  sided : ∀ first ∈ messages, ∀ second ∈ messages, first.batchKind = second.batchKind
  message : JsonRpcMessage.fromJson (.array items) =
    (messages.mapM JsonRpcEnvelope.asRequest).map .batch
  correlated : correlatingId (.array items) = none

def JsonRpcPayload.AgreesWith (value : Json) : JsonRpcPayload → Prop
  | .single envelope => ReadAlike value envelope
  | .batch messages => ∃ items, value = .array items ∧ BatchReadAlike items messages

/-! ## What passes the inspection -/

def isParams (params : Json) : Bool :=
  params.isObject || params.isArray

inductive Inspected (value : Json) : JsonRpcEnvelope → Prop where
  | request (id : RequestId) (method : String) (params : Option Json)
      (version : value.get "jsonrpc" = some (.string "2.0"))
      (noResult : value.get "result" = none) (noError : value.get "error" = none)
      (identified : (value.get "id").bind RequestId.fromJson = some id)
      (called : value.get "method" = some (.string method)) (named : method ≠ "")
      (given : value.get "params" = params) (allowed : params.all isParams = true) :
      Inspected value (.request { jsonrpc := "2.0", id, method, params })
  | notification (method : String) (params : Option Json)
      (version : value.get "jsonrpc" = some (.string "2.0"))
      (noResult : value.get "result" = none) (noError : value.get "error" = none)
      (noId : value.get "id" = none) (called : value.get "method" = some (.string method))
      (named : method ≠ "") (given : value.get "params" = params)
      (allowed : params.all isParams = true) :
      Inspected value (.notification { jsonrpc := "2.0", method, params })
  | result (id : RequestId) (result : Json) (version : value.get "jsonrpc" = some (.string "2.0"))
      (noMethod : value.get "method" = none) (noError : value.get "error" = none)
      (identified : (value.get "id").bind RequestId.fromJson = some id)
      (holds : value.get "result" = some result) :
      Inspected value (.result id result)
  | error (id : Option RequestId) (failure : Json) (error : JsonRpcError)
      (version : value.get "jsonrpc" = some (.string "2.0"))
      (noMethod : value.get "method" = none) (noResult : value.get "result" = none)
      (identified : Json.optionalField RequestId.fromJson (value.get "id") = some id)
      (holds : value.get "error" = some failure)
      (read : JsonRpcError.fromJson failure = some error) :
      Inspected value (.error id error)

section

variable {serde : Serde} {value : Json} {envelope : JsonRpcEnvelope}

theorem inspect_version_eq_ok_iff :
    inspectVersion value = .ok () ↔ value.get "jsonrpc" = some (.string "2.0") := by
  unfold inspectVersion jsonrpcVersion
  constructor
  · intro h
    split at h
    next => cases h
    next version hget =>
      split at h
      next hversion => rw [hget, hversion]
      next => cases h
    next => cases h
  · intro h
    simp [h]

theorem inspect_method_eq_ok_iff :
    inspectMethod value = .ok () ↔
      ∃ method, value.get "method" = some (.string method) ∧ method ≠ "" := by
  unfold inspectMethod
  constructor
  · intro h
    split at h
    next method hget =>
      split at h
      next hnamed => exact ⟨method, hget, hnamed⟩
      next => cases h
    next => cases h
    next => cases h
  · rintro ⟨method, hget, hnamed⟩
    simp [hget, hnamed]

theorem inspect_params_eq_ok_iff :
    inspectParams value = .ok () ↔ (value.get "params").all isParams = true := by
  unfold inspectParams
  cases value.get "params" with
  | none => simp
  | some params => cases params <;> simp [isParams, Json.isObject, Json.isArray, Json.asObject,
      Json.asArray]

variable {id : RequestId}

theorem inspect_non_null_id_eq_ok_iff {context : String} :
    inspectNonNullId value context = .ok id ↔
      (value.get "id").bind RequestId.fromJson = some id := by
  unfold inspectNonNullId
  cases value.get "id" with
  | none => simp
  | some item => cases hread : RequestId.fromJson item <;> simp [hread]

theorem inspect_optional_error_id_eq_ok_iff {id : Option RequestId} :
    inspectOptionalErrorId value = .ok id ↔
      Json.optionalField RequestId.fromJson (value.get "id") = some id := by
  unfold inspectOptionalErrorId
  cases value.get "id" with
  | none => simp [Json.optionalField]
  | some item =>
    cases item with
    | null => simp [Json.optionalField]
    | bool | number | string | array | object =>
      simp only [Json.optionalField]
      generalize RequestId.fromJson _ = read
      cases read <;> simp

theorem decode_envelope_eq_ok_iff {α : Type} {read : Option α} {context : String}
    {field : Option String} {decoded : α} :
    decodeEnvelope serde read value context field = .ok decoded ↔ read = some decoded := by
  unfold decodeEnvelope
  cases read <;> simp

theorem filter_of_is_params {params : Option Json} (h : params.all isParams = true) :
    (params.filter fun params => !params.isNull) = params := by
  cases params with
  | none => rfl
  | some params => cases params <;> simp_all [isParams, Json.isNull, Json.isObject, Json.isArray,
      Json.asObject, Json.asArray]

theorem inspected_of_call (version : value.get "jsonrpc" = some (.string "2.0"))
    (noResult : value.get "result" = none) (noError : value.get "error" = none)
    (h : inspectCallEnvelope serde value = .ok envelope) : Inspected value envelope := by
  obtain ⟨⟨⟩, hmethod, h⟩ := bind_eq_ok.1 h
  obtain ⟨method, hcalled, hnamed⟩ := inspect_method_eq_ok_iff.1 hmethod
  obtain ⟨⟨⟩, hparams, h⟩ := bind_eq_ok.1 h
  have hallowed := inspect_params_eq_ok_iff.1 hparams
  cases hid : value.get "id" with
  | some item =>
    rw [if_pos (by simp [hid])] at h
    obtain ⟨id, hidentified, h⟩ := bind_eq_ok.1 h
    have hidentified := inspect_non_null_id_eq_ok_iff.1 hidentified
    obtain ⟨request, hread, h⟩ := bind_eq_ok.1 h
    have hread := decode_envelope_eq_ok_iff.1 hread
    obtain rfl := pure_eq_ok.1 h
    rw [hid, Option.bind_some] at hidentified
    have hrequest : request = { jsonrpc := "2.0", id, method, params := value.get "params" } := by
      simpa [JsonRpcRequest.fromJson, version, hid, hidentified, hcalled, Json.asStr,
        filter_of_is_params hallowed, eq_comm] using hread
    rw [hrequest]
    have hpresent : ((value.get "id").bind RequestId.fromJson) = some id := by
      simp [hid, hidentified]
    exact .request id method _ version noResult noError hpresent hcalled hnamed rfl hallowed
  | none =>
    rw [if_neg (by simp [hid])] at h
    obtain ⟨notification, hread, h⟩ := bind_eq_ok.1 h
    have hread := decode_envelope_eq_ok_iff.1 hread
    obtain rfl := pure_eq_ok.1 h
    have hnotification : notification =
        { jsonrpc := "2.0", method, params := value.get "params" } := by
      simpa [JsonRpcNotification.fromJson, version, hcalled, Json.asStr,
        filter_of_is_params hallowed, eq_comm] using hread
    rw [hnotification]
    exact .notification method _ version noResult noError hid hcalled hnamed rfl hallowed

theorem inspected_of_inspect (h : inspectEnvelope serde value = .ok envelope) :
    Inspected value envelope := by
  obtain ⟨⟨⟩, hversion, h⟩ := bind_eq_ok.1 h
  have hversion := inspect_version_eq_ok_iff.1 hversion
  cases hmethod : value.get "method" with
  | some method =>
    cases hresult : value.get "result" with
    | some result => simp [hmethod, hresult] at h
    | none =>
      cases herror : value.get "error" with
      | some error => simp [hmethod, herror] at h
      | none =>
        simp only [hmethod, hresult, herror, Option.isSome_some, Option.isSome_none] at h
        exact inspected_of_call hversion hresult herror h
  | none =>
    cases hresult : value.get "result" with
    | some result =>
      cases herror : value.get "error" with
      | some error => simp [hmethod, hresult, herror] at h
      | none =>
        simp only [hmethod, hresult, herror, Option.isSome_some, Option.isSome_none] at h
        obtain ⟨id, hid, h⟩ := bind_eq_ok.1 h
        obtain ⟨read, hread, h⟩ := bind_eq_ok.1 h
        obtain rfl := pure_eq_ok.1 h
        exact .result id read hversion hmethod herror (inspect_non_null_id_eq_ok_iff.1 hid)
          (hresult.trans (decode_envelope_eq_ok_iff.1 hread))
    | none =>
      cases herror : value.get "error" with
      | some failure =>
        simp only [hmethod, hresult, herror, Option.isSome_some, Option.isSome_none] at h
        obtain ⟨id, hid, h⟩ := bind_eq_ok.1 h
        obtain ⟨error, hread, h⟩ := bind_eq_ok.1 h
        obtain rfl := pure_eq_ok.1 h
        exact .error id failure error hversion hmethod hresult
          (inspect_optional_error_id_eq_ok_iff.1 hid) herror
          (decode_envelope_eq_ok_iff.1 hread)
      | none => simp [hmethod, hresult, herror] at h

theorem inspect_of_inspected (h : Inspected value envelope) :
    inspectEnvelope serde value = .ok envelope := by
  cases h with
  | request id method params version noResult noError identified called named given allowed =>
    have hid : (value.get "id").isSome = true := by
      cases hget : value.get "id" with
      | some item => rfl
      | none => simp [hget] at identified
    obtain ⟨item, hitem⟩ := Option.isSome_iff_exists.1 hid
    have hread : RequestId.fromJson item = some id := by simpa [hitem] using identified
    have hrequest : JsonRpcRequest.fromJson value =
        some { jsonrpc := "2.0", id, method, params } := by
      simp [JsonRpcRequest.fromJson, version, hitem, hread, called, Json.asStr, given,
        filter_of_is_params allowed]
    simp [inspectEnvelope, inspectCallEnvelope, inspect_version_eq_ok_iff.2 version, called,
      noResult, noError, inspect_method_eq_ok_iff.2 ⟨method, called, named⟩,
      inspect_params_eq_ok_iff.2 (given.symm ▸ allowed), hitem,
      inspect_non_null_id_eq_ok_iff.2 identified, hrequest, decodeEnvelope]
  | notification method params version noResult noError noId called named given allowed =>
    have hnotification : JsonRpcNotification.fromJson value =
        some { jsonrpc := "2.0", method, params } := by
      simp [JsonRpcNotification.fromJson, version, called, Json.asStr, given,
        filter_of_is_params allowed]
    simp [inspectEnvelope, inspectCallEnvelope, inspect_version_eq_ok_iff.2 version, called,
      noResult, noError, inspect_method_eq_ok_iff.2 ⟨method, called, named⟩,
      inspect_params_eq_ok_iff.2 (given.symm ▸ allowed), noId, hnotification, decodeEnvelope]
  | result id result version noMethod noError identified holds =>
    simp [inspectEnvelope, inspect_version_eq_ok_iff.2 version, noMethod, noError, holds,
      inspect_non_null_id_eq_ok_iff.2 identified, decodeEnvelope]
  | error id failure error version noMethod noResult identified holds read =>
    simp [inspectEnvelope, inspect_version_eq_ok_iff.2 version, noMethod, noResult, holds,
      inspect_optional_error_id_eq_ok_iff.2 identified, read, decodeEnvelope]

/-! ## Single messages -/

theorem message_of_object {key : String} {item : Json} (h : value.get key = some item) :
    JsonRpcMessage.fromJson value = (JsonRpcRequest.fromJson value).map .single := by
  obtain ⟨fields, rfl⟩ := Json.eq_object_of_get h
  rfl

theorem is_some_of_identified (h : (value.get "id").bind RequestId.fromJson = some id) :
    (value.get "id").isSome = true := by
  obtain ⟨item, hitem, -⟩ := Option.bind_eq_some_iff.1 h
  rw [hitem, Option.isSome_some]

theorem bind_of_optional_field {item : Option Json} {id : Option RequestId}
    (h : Json.optionalField RequestId.fromJson item = some id) :
    item.bind RequestId.fromJson = id := by
  cases item with
  | none => exact Option.some.inj h
  | some item =>
    cases item with
    | null => exact Option.some.inj h
    | bool | number | string | array | object =>
      simp only [Json.optionalField, Option.map_eq_some_iff] at h
      obtain ⟨read, hread, rfl⟩ := h
      exact hread

theorem read_alike_of_inspected (h : Inspected value envelope) : ReadAlike value envelope := by
  cases h with
  | request id method params version noResult noError identified called named given allowed =>
    have hid := is_some_of_identified identified
    obtain ⟨item, hitem, hread⟩ := Option.bind_eq_some_iff.1 identified
    have harray := JsonRpcService.not_is_array_of_get version
    refine ⟨?_, ?_, ?_, ?_, identified⟩
    · simp [classifyFrame, isResponseFrame, harray, hitem, called, JsonRpcEnvelope.frameClass]
    · rw [message_of_object version]
      simp [JsonRpcRequest.fromJson, version, hitem, hread, called, Json.asStr, given,
        filter_of_is_params allowed, JsonRpcEnvelope.asRequest]
    · rintro notification ⟨⟩
    · simp [JsonRpcResponse.fromJson, noResult, noError, JsonRpcEnvelope.asResponse]
  | notification method params version noResult noError noId called named given allowed =>
    have harray := JsonRpcService.not_is_array_of_get version
    refine ⟨?_, ?_, ?_, ?_, ?_⟩
    · simp [classifyFrame, harray, noId, JsonRpcEnvelope.frameClass]
    · rw [message_of_object version]
      simp [JsonRpcRequest.fromJson, version, noId, JsonRpcEnvelope.asRequest]
    · rintro notification ⟨⟩
      simp [JsonRpcNotification.fromJson, version, called, Json.asStr, given,
        filter_of_is_params allowed]
    · simp [JsonRpcResponse.fromJson, noResult, noError, JsonRpcEnvelope.asResponse]
    · simp [correlatingId, noId, JsonRpcEnvelope.id?]
  | result id result version noMethod noError identified holds =>
    obtain ⟨item, hitem, hread⟩ := Option.bind_eq_some_iff.1 identified
    have harray := JsonRpcService.not_is_array_of_get version
    refine ⟨?_, ?_, ?_, ?_, identified⟩
    · simp [classifyFrame, isResponseFrame, harray, hitem, noMethod, holds,
        JsonRpcEnvelope.frameClass]
    · rw [message_of_object version]
      simp [JsonRpcRequest.fromJson, noMethod, JsonRpcEnvelope.asRequest]
    · rintro notification ⟨⟩
    · simp [JsonRpcResponse.fromJson, readResultResponse, noError, holds, version, hitem, hread,
        Json.asStr, JsonRpcEnvelope.asResponse]
  | error id failure error version noMethod noResult identified holds read =>
    have harray := JsonRpcService.not_is_array_of_get version
    have hnull : failure.isNull = false := by
      cases failure with
      | null => cases read
      | bool | number | string | array | object => rfl
    refine ⟨?_, ?_, ?_, ?_, bind_of_optional_field identified⟩
    · cases hid : value.get "id" with
      | none => simp [classifyFrame, harray, hid, JsonRpcEnvelope.frameClass]
      | some item =>
        simp [classifyFrame, isResponseFrame, harray, hid, noMethod, holds,
          JsonRpcEnvelope.frameClass]
    · rw [message_of_object version]
      simp [JsonRpcRequest.fromJson, noMethod, JsonRpcEnvelope.asRequest]
    · rintro notification ⟨⟩
    · simp [JsonRpcResponse.fromJson, readErrorResponse, noResult, holds, hnull, version,
        identified, read, Json.asStr, JsonRpcEnvelope.asResponse]

/-! ## Encoding -/

variable {n : ℤ}

theorem as_i64_signed (hlow : -2 ^ 63 ≤ n) (hhigh : n < 2 ^ 63) :
    (Json.number (JsonRpcError.codeNumber n)).asI64 = some n := by
  cases n with
  | ofNat n =>
    rw [Int.ofNat_eq_natCast] at hhigh
    exact if_pos (by omega)
  | negSucc n => exact if_pos (by omega)

theorem bounds_of_as_i64 (h : value.asI64 = some n) :
    -2 ^ 63 ≤ n ∧ n < 2 ^ 63 := by
  unfold Json.asI64 at h
  split at h
  next =>
    obtain ⟨hlt, h⟩ := Option.ite_none_right_eq_some.1 h
    cases h
    omega
  next =>
    obtain ⟨hlt, h⟩ := Option.ite_none_right_eq_some.1 h
    cases h
    omega
  next => cases h

theorem bounds_of_integral_float {literal : FloatLiteral}
    (h : integralFloatId literal = some n) : -2 ^ 63 ≤ n ∧ n < 2 ^ 63 := by
  unfold integralFloatId at h
  split at h
  next digits hdigits =>
    obtain ⟨magnitude, -, h⟩ := Option.bind_eq_some_iff.1 h
    obtain ⟨hle, h⟩ := Option.ite_none_right_eq_some.1 h
    have hexact : magnitude ≤ 2 ^ 53 := hle
    cases h
    split <;> omega
  next => cases h

theorem from_json_to_json (h : RequestId.fromJson value = some id) :
    RequestId.fromJson id.toJson = some id := by
  have hsigned : ∀ n : ℤ, -2 ^ 63 ≤ n ∧ n < 2 ^ 63 →
      RequestId.fromJson (RequestId.number n).toJson = some (.number n) := by
    intro n hbounds
    have hread := as_i64_signed hbounds.1 hbounds.2
    cases n with
    | ofNat n => exact congrArg (Option.map RequestId.number) hread
    | negSucc n => exact congrArg (Option.map RequestId.number) hread
  unfold RequestId.fromJson at h
  split at h
  next text =>
    cases h
    rfl
  next literal =>
    obtain ⟨n, hn, rfl⟩ := Option.map_eq_some_iff.1 h
    exact hsigned n (bounds_of_integral_float hn)
  next =>
    obtain ⟨n, hn, rfl⟩ := Option.map_eq_some_iff.1 h
    exact hsigned n (bounds_of_as_i64 hn)

theorem error_from_json_to_json {failure : Json} {error : JsonRpcError}
    (h : JsonRpcError.fromJson failure = some error) :
    JsonRpcError.fromJson error.toJson = some error := by
  have hread : -2 ^ 31 ≤ error.code ∧ error.code < 2 ^ 31 ∧ error.data ≠ some .null := by
    obtain ⟨fields, -, h⟩ := Option.bind_eq_some_iff.1 h
    split at h
    next code message data =>
      obtain ⟨_, -, h⟩ := Option.bind_eq_some_iff.1 h
      obtain ⟨n, -, h⟩ := Option.bind_eq_some_iff.1 h
      obtain ⟨_, -, h⟩ := Option.bind_eq_some_iff.1 h
      obtain ⟨text, -, h⟩ := Option.bind_eq_some_iff.1 h
      obtain ⟨read, hdata, h⟩ := Option.bind_eq_some_iff.1 h
      obtain ⟨hbounds, h⟩ := Option.ite_none_right_eq_some.1 h
      cases h
      refine ⟨hbounds.1, hbounds.2, ?_⟩
      rintro rfl
      unfold Json.optionalField at hdata
      split at hdata <;> simp_all
    next => cases h
  obtain ⟨hlow, hhigh, hdata⟩ := hread
  obtain ⟨code, message, data⟩ := error
  dsimp only at hlow hhigh hdata
  have hcode := as_i64_signed (n := code) (by omega) (by omega)
  have hoptional : Json.optionalField some data = some data := by
    cases data with
    | none => rfl
    | some data => cases data <;> first | rfl | exact absurd rfl hdata
  have hfields : (JsonRpcError.mk code message data).toJson.structFields
      ["code", "message", "data"] 3 =
      some [some (.number (JsonRpcError.codeNumber code)), some (.string message), data] := by
    cases data <;> rfl
  simp [JsonRpcError.fromJson, hfields, hcode, hoptional, Json.asStr]
  omega

theorem inspected_to_json (h : Inspected value envelope) : Inspected envelope.toJson envelope := by
  cases h with
  | request id method params version noResult noError identified called named given allowed =>
    obtain ⟨item, -, hread⟩ := Option.bind_eq_some_iff.1 identified
    have hid := from_json_to_json hread
    refine .request id method params ?_ ?_ ?_ ?_ ?_ named ?_ allowed <;>
      cases params <;> simp [JsonRpcEnvelope.toJson, JsonRpcRequest.toJson, Json.get, hid]
  | notification method params version noResult noError noId called named given allowed =>
    refine .notification method params ?_ ?_ ?_ ?_ ?_ named ?_ allowed <;>
      cases params <;> simp [JsonRpcEnvelope.toJson, JsonRpcNotification.toJson, Json.get]
  | result id result version noMethod noError identified holds =>
    obtain ⟨item, -, hread⟩ := Option.bind_eq_some_iff.1 identified
    have hid := from_json_to_json hread
    refine .result id result ?_ ?_ ?_ ?_ ?_ <;>
      simp [JsonRpcEnvelope.toJson, JsonRpcResponse.toJson, Json.get, hid]
  | error id failure error version noMethod noResult identified holds read =>
    have hbind := bind_of_optional_field identified
    refine .error id error.toJson error ?_ ?_ ?_ ?_ ?_ (error_from_json_to_json read)
    · simp [JsonRpcEnvelope.toJson, JsonRpcResponse.toJson, Json.get]
    · simp [JsonRpcEnvelope.toJson, JsonRpcResponse.toJson, Json.get]
    · simp [JsonRpcEnvelope.toJson, JsonRpcResponse.toJson, Json.get]
    · cases id with
      | none => rfl
      | some id =>
        obtain ⟨item, -, hread⟩ := Option.bind_eq_some_iff.1 hbind
        have hid := from_json_to_json hread
        have hnull : id.toJson.isNull = false := by
          cases id with
          | string text => rfl
          | number n => cases n <;> rfl
        show Json.optionalField RequestId.fromJson (some id.toJson) = some (some id)
        cases hitem : id.toJson with
        | null =>
          rw [hitem] at hnull
          cases hnull
        | bool | number | string | array | object =>
          rw [hitem] at hid
          simp [Json.optionalField, hid]
    · simp [JsonRpcEnvelope.toJson, JsonRpcResponse.toJson, Json.get]

/-! ## Batches -/

theorem is_object_of_inspected (h : Inspected value envelope) : value.isObject = true := by
  have hversion : value.get "jsonrpc" = some (.string "2.0") := by
    cases h <;> assumption
  obtain ⟨fields, rfl⟩ := Json.eq_object_of_get hversion
  rfl

variable {items : List Json} {messages : List JsonRpcEnvelope}

theorem inspect_members_eq_ok_iff {index : ℕ} {kind : Option JsonRpcBatchKind} :
    inspectMembers serde index kind items = .ok messages ↔
      List.Forall₂ Inspected items messages ∧
        ∃ side, (kind = none ∨ kind = some side) ∧
          ∀ envelope ∈ messages, envelope.batchKind = side := by
  induction items generalizing index kind messages with
  | nil =>
    rw [inspectMembers]
    constructor
    · intro h
      cases h
      cases kind with
      | none => exact ⟨.nil, .calls, .inl rfl, List.forall_mem_nil _⟩
      | some side => exact ⟨.nil, side, .inr rfl, List.forall_mem_nil _⟩
    · rintro ⟨hmembers, -⟩
      cases hmembers
      rfl
  | cons item rest ih =>
    rw [inspectMembers]
    constructor
    · intro h
      split at h
      next => cases h
      next =>
        obtain ⟨envelope, henvelope, h⟩ := bind_eq_ok.1 h
        have hinspected := inspected_of_inspect (map_error_eq_ok.1 henvelope)
        cases hside : kind.filter fun expected => envelope.batchKind ≠ expected with
        | some expected =>
          rw [hside] at h
          cases h
        | none =>
          rw [hside] at h
          obtain ⟨others, hothers, h⟩ := bind_eq_ok.1 h
          obtain rfl := pure_eq_ok.1 h
          obtain ⟨hmembers, side, hkind, hsided⟩ := ih.1 hothers
          have hkind : envelope.batchKind = side := by simpa using hkind
          refine ⟨.cons hinspected hmembers, side, ?_, ?_⟩
          · cases kind with
            | none => exact .inl rfl
            | some expected =>
              have hequal := Option.filter_eq_none_iff.1 hside expected rfl
              simp only [ne_eq, decide_not, Bool.not_eq_true, Bool.not_eq_false',
                decide_eq_true_eq] at hequal
              exact .inr (congrArg some (hequal.symm.trans hkind))
          · exact List.forall_mem_cons.2 ⟨hkind, hsided⟩
    · rintro ⟨hmembers, side, hkind, hsided⟩
      cases hmembers with
      | cons hinspected hrest =>
        rename_i envelope others
        obtain ⟨hside, hsided⟩ := List.forall_mem_cons.1 hsided
        have hothers : inspectMembers serde (index + 1) (some envelope.batchKind) rest =
            .ok others := ih.2 ⟨hrest, side, .inr (congrArg some hside), hsided⟩
        have hfilter : (kind.filter fun expected => envelope.batchKind ≠ expected) = none := by
          rcases hkind with rfl | rfl
          · rfl
          · simp [Option.filter, hside]
        simp only [is_object_of_inspected hinspected, inspect_of_inspected hinspected,
          Except.mapError, Bool.not_true, Bool.false_eq_true, if_false, ok_bind]
        rw [hfilter]
        rw [hothers]
        rfl

theorem inspect_batch_eq_ok_iff :
    inspectBatch serde items = .ok messages ↔
      items ≠ [] ∧ List.Forall₂ Inspected items messages ∧
        ∃ side, ∀ envelope ∈ messages, envelope.batchKind = side := by
  unfold inspectBatch
  by_cases hitems : items = []
  · simp [hitems]
  · rw [if_neg hitems, inspect_members_eq_ok_iff]
    simp [hitems]

theorem requests_of_inspected (h : List.Forall₂ Inspected items messages) :
    items.mapM JsonRpcRequest.fromJson = messages.mapM JsonRpcEnvelope.asRequest := by
  induction h with
  | nil => rfl
  | cons hinspected hrest ih =>
    rename_i item envelope items messages
    have hmessage := (read_alike_of_inspected hinspected).message
    obtain ⟨fields, hfields⟩ : ∃ fields, item = .object fields := by
      have hobject := is_object_of_inspected hinspected
      cases item <;> first | exact ⟨_, rfl⟩ | cases hobject
    subst hfields
    have hread : JsonRpcRequest.fromJson (.object fields) = envelope.asRequest :=
      Option.map_injective (fun first second heq => JsonRpcMessage.single.inj heq) hmessage
    simp only [List.mapM_cons, hread, ih]

theorem batch_read_alike (h : inspectBatch serde items = .ok messages) :
    BatchReadAlike items messages := by
  obtain ⟨-, hmembers, side, hsided⟩ := inspect_batch_eq_ok_iff.1 h
  exact
    { classified := rfl
      members := hmembers.imp fun _ _ hinspected => read_alike_of_inspected hinspected
      sided := fun first hfirst second hsecond =>
        (hsided first hfirst).trans (hsided second hsecond).symm
      message := congrArg (Option.map JsonRpcMessage.batch) (requests_of_inspected hmembers)
      correlated := rfl }

theorem members_to_json (h : List.Forall₂ Inspected items messages) :
    List.Forall₂ Inspected (messages.map JsonRpcEnvelope.toJson) messages := by
  induction h with
  | nil => exact .nil
  | cons hinspected hrest ih => exact .cons (inspected_to_json hinspected) ih

theorem inspect_batch_to_json (h : inspectBatch serde items = .ok messages) :
    inspectBatch serde (messages.map JsonRpcEnvelope.toJson) = .ok messages := by
  obtain ⟨hitems, hmembers, hsided⟩ := inspect_batch_eq_ok_iff.1 h
  refine inspect_batch_eq_ok_iff.2 ⟨?_, members_to_json hmembers, hsided⟩
  rw [Ne, List.map_eq_nil_iff]
  rintro rfl
  cases hmembers
  exact hitems rfl

/-! ## Payloads -/

/-- Every reader makes the same of a value that passes the inspection, as long as errors have
identifiers and batches hold only requests; and what is encoded again passes it as the same. -/
theorem envelope_readers_agree {payload : JsonRpcPayload}
    (h : JsonRpcPayload.inspect serde value = .ok payload) :
    payload.AgreesWith value ∧ JsonRpcPayload.inspect serde payload.toJson = .ok payload := by
  unfold JsonRpcPayload.inspect at h
  split at h
  next fields =>
    obtain ⟨envelope, henvelope, rfl⟩ := map_eq_ok.1 h
    have hinspected := inspected_of_inspect henvelope
    refine ⟨read_alike_of_inspected hinspected, ?_⟩
    have hagain := inspected_to_json hinspected
    show JsonRpcPayload.inspect serde envelope.toJson = _
    obtain ⟨fields, hfields⟩ : ∃ fields, envelope.toJson = .object fields := by
      have hobject := is_object_of_inspected hagain
      cases hjson : envelope.toJson with
      | object fields => exact ⟨fields, rfl⟩
      | null | bool | number | string | array =>
        rw [hjson] at hobject
        cases hobject
    rw [hfields] at hagain ⊢
    exact congrArg (Except.map JsonRpcPayload.single) (inspect_of_inspected hagain)
  next items =>
    obtain ⟨messages, hmessages, rfl⟩ := map_eq_ok.1 h
    refine ⟨⟨items, rfl, batch_read_alike hmessages⟩, ?_⟩
    exact congrArg (Except.map JsonRpcPayload.batch) (inspect_batch_to_json hmessages)
  next => cases h

end

def idlessError : Json :=
  .object [("jsonrpc", .string "2.0"),
    ("error", .object [("code", .number (.negInt 32699)), ("message", .string "Parse error")])]

theorem idless_error_read_alike :
    (JsonRpcPayload.single
        (.error none { code := -32700, message := "Parse error" })).AgreesWith idlessError ∧
      JsonRpcPayload.inspect JsonRpcService.answering.serde
        (JsonRpcPayload.single (.error none { code := -32700, message := "Parse error" })).toJson =
          .ok (.single (.error none { code := -32700, message := "Parse error" })) :=
  envelope_readers_agree rfl

def responseBatch : Json := .array [JsonRpcService.emptyResult]

def notificationBatch : Json :=
  .array [.object [("jsonrpc", .string "2.0"), ("method", .string "notifications/initialized")]]

/-- A response is classified as a notification, a batch of responses as a request, and a batch of
calls is not read as one. -/
theorem envelopes_told_apart :
    JsonRpcPayload.inspect JsonRpcService.answering.serde idlessError =
        .ok (.single (.error none { code := -32700, message := "Parse error" })) ∧
      classifyFrame idlessError = .notification ∧
      JsonRpcPayload.inspect JsonRpcService.answering.serde responseBatch =
        .ok (.batch [.result (.number 1) (.object [])]) ∧
      classifyFrame responseBatch = .request ∧
      JsonRpcPayload.inspect JsonRpcService.answering.serde notificationBatch =
        .ok (.batch [.notification
          { jsonrpc := "2.0", method := "notifications/initialized" }]) ∧
      (JsonRpcMessage.fromJson notificationBatch).isNone = true :=
  ⟨rfl, rfl, rfl, rfl, rfl, rfl⟩

end TowerMcp
