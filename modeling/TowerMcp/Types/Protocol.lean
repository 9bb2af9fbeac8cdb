import TowerMcp.Lib.FinMap
import TowerMcp.Lib.Json

/-!
# Protocol types

The types of `tower-mcp-types` that the servers' state is made of: JSON-RPC errors, tool results,
the input requests a task parks on and the responses that answer them, and task objects. A payload
whose fields no modelled code reads is kept as what `serde` makes of it, which may be an error: a
`_meta` object with an ill-formed key refuses to serialize.
-/

namespace TowerMcp

open Json

structure SerializeFailure where
  message : String
  written : ℕ
deriving DecidableEq

/-- What `serde` makes of a value. -/
abbrev Serialized := Except SerializeFailure Json

/-- Values that `serde` can be asked to serialize. -/
class Serialize (α : Type) where
  serialize : α → Serialized

export Serialize (serialize)

def after {α : Type} (bytes : ℕ) : Except SerializeFailure α → Except SerializeFailure α
  | .ok value => .ok value
  | .error failure => .error { failure with written := bytes + failure.written }

def keyLength (key : String) : ℕ :=
  Json.escapedLength key + 4

def serializeFields : List (String × Serialized) → Except SerializeFailure (List (String × Json))
  | [] => .ok []
  | (key, value) :: rest => do
    let json ← after (keyLength key) value
    let fields ← after (keyLength key + json.size) (serializeFields rest)
    pure ((key, json) :: fields)

def serializeObject (fields : List (String × Serialized)) : Serialized := do
  let fields ← serializeFields fields
  pure (.object fields)

def serializeItems : List Serialized → Except SerializeFailure (List Json)
  | [] => .ok []
  | item :: rest => do
    let json ← after 1 item
    let items ← after (1 + json.size) (serializeItems rest)
    pure (json :: items)

def serializeArray (items : List Serialized) : Serialized := do
  let items ← serializeItems items
  pure (.array items)

def serializedSize : Serialized → ℕ
  | .ok json => json.size
  | .error _ => 0

def fieldsLength (fields : List (String × Serialized)) : ℕ :=
  (fields.map fun field => keyLength field.1 + serializedSize field.2).sum

@[simp] theorem fields_length_nil : fieldsLength [] = 0 := rfl

@[simp] theorem fields_length_cons (key : String) (value : Serialized)
    (rest : List (String × Serialized)) :
    fieldsLength ((key, value) :: rest) =
      keyLength key + serializedSize value + fieldsLength rest := by
  simp [fieldsLength]

variable {α : Type}

variable {fields : List (String × Serialized)}

theorem serialize_fields_ok_iff :
    (∃ json, serializeFields fields = .ok json) ↔ ∀ field ∈ fields, ∃ json, field.2 = .ok json := by
  induction fields with
  | nil => simp [serializeFields]
  | cons field rest ih =>
    obtain ⟨key, value⟩ := field
    simp only [List.forall_mem_cons, ← ih, serializeFields, bind, Except.bind]
    cases value with
    | error failure => simp [after]
    | ok first =>
      cases serializeFields rest with
      | error failure => simp [after]
      | ok others => simp [after, pure, Except.pure]

theorem size_of_serialize_fields {json : List (String × Json)}
    (h : serializeFields fields = .ok json) : Json.fieldsSize json = fieldsLength fields := by
  induction fields generalizing json with
  | nil =>
    obtain rfl : [] = json := by simpa [serializeFields] using h
    rfl
  | cons field rest ih =>
    obtain ⟨key, value⟩ := field
    simp only [serializeFields, bind, Except.bind] at h
    cases hvalue : value with
    | error failure => simp [hvalue, after] at h
    | ok first =>
      cases hrest : serializeFields rest with
      | error failure => simp [hvalue, hrest, after] at h
      | ok others =>
        obtain rfl : (key, first) :: others = json := by
          simpa [hvalue, hrest, after, pure, Except.pure] using h
        rw [fields_size_cons, ih hrest, fields_length_cons, keyLength]
        rfl

theorem serialize_object_ok_iff :
    (∃ json, serializeObject fields = .ok json) ↔ ∀ field ∈ fields, ∃ json, field.2 = .ok json := by
  rw [← serialize_fields_ok_iff]
  unfold serializeObject
  cases serializeFields fields with
  | error failure => simp [bind, Except.bind]
  | ok json => simp [bind, Except.bind, pure, Except.pure]

theorem size_of_serialize_object {field : String × Serialized}
    {rest : List (String × Serialized)} {json : Json}
    (h : serializeObject (field :: rest) = .ok json) :
    json.size = fieldsLength (field :: rest) + 1 := by
  cases hfields : serializeFields (field :: rest) with
  | error failure => simp [serializeObject, hfields, bind, Except.bind] at h
  | ok fields =>
    obtain rfl : .object fields = json := by
      simpa [serializeObject, hfields, bind, Except.bind, pure, Except.pure] using h
    have hlength := size_of_serialize_fields hfields
    cases fields with
    | nil =>
      -- a serialized field takes at least its key, so the list is not empty
      rw [fields_size_nil, fields_length_cons, keyLength] at hlength
      omega
    | cons first others =>
      rw [fields_size_cons] at hlength
      rw [size_object_cons, ← hlength]
      omega

/-- The sets of keys the servers keep, `BTreeSet<String>`. -/
abbrev KeySet := FinMap String Unit

instance : Serialize Json := ⟨.ok⟩

instance : Serialize String := ⟨fun s => .ok (.string s)⟩

instance {α : Type} [Serialize α] : Serialize (Option α) where
  serialize
    | none => .ok .null
    | some a => serialize a

instance : Serialize KeySet := ⟨fun keys => .ok (.array (keys.sortedKeys.map .string))⟩

instance {α : Type} [Serialize α] : Serialize (FinMap String α) where
  serialize m := serializeObject (m.sortedPairs.map fun (key, value) => (key, serialize value))

@[simp] theorem serialized_size_json (json : Json) : serializedSize (serialize json) = json.size :=
  rfl

@[simp] theorem serialized_size_string (s : String) :
    serializedSize (serialize s) = Json.escapedLength s + 2 :=
  size_string s

@[simp] theorem serialized_size_none [Serialize α] :
    serializedSize (serialize (none : Option α)) = 4 := rfl

@[simp] theorem serialized_size_some [Serialize α] (a : α) :
    serializedSize (serialize (some a)) = serializedSize (serialize a) := rfl

@[simp] theorem serialized_size_empty_keys : serializedSize (serialize (∅ : KeySet)) = 2 := rfl

@[simp] theorem serialized_size_empty_map [Serialize α] :
    serializedSize (serialize (∅ : FinMap String α)) = 2 := rfl

theorem two_le_serialized_size_keys (keys : KeySet) : 2 ≤ serializedSize (serialize keys) :=
  two_le_size_array _

theorem two_le_serialized_size_map [Serialize α] {m : FinMap String α}
    (h : ∃ json, serialize m = .ok json) : 2 ≤ serializedSize (serialize m) := by
  obtain ⟨json, hjson⟩ := h
  show 2 ≤ serializedSize (serializeObject _)
  cases hfields : serializeFields (m.sortedPairs.map fun (key, value) => (key, serialize value)) with
  | error failure => 
      simp [serialize, serializeObject, hfields, bind, Except.bind] at hjson
  | ok fields =>
    simp only [serializeObject, hfields, bind, Except.bind, pure, Except.pure]
    exact two_le_size_object fields

/-! ## Errors -/

inductive ErrorCode where
  | parseError
  | invalidRequest
  | methodNotFound
  | invalidParams
  | internalError
deriving DecidableEq

def ErrorCode.code : ErrorCode → ℤ
  | .parseError => -32700
  | .invalidRequest => -32600
  | .methodNotFound => -32601
  | .invalidParams => -32602
  | .internalError => -32603

structure JsonRpcError where
  code : ℤ
  message : String
  data : Option Json := none
deriving DecidableEq

namespace JsonRpcError

def new (code : ErrorCode) (message : String) : JsonRpcError :=
  { code := code.code, message := message }

def withData (error : JsonRpcError) (data : Json) : JsonRpcError :=
  { error with data := some data }

def invalidParams (message : String) : JsonRpcError :=
  new .invalidParams message

def internalError (message : String) : JsonRpcError :=
  new .internalError message

def codeNumber : ℤ → JsonNumber
  | .ofNat n => .posInt n
  | .negSucc n => .negInt n

/-- The fields of an error object; `data` is skipped when absent. -/
def toJson (error : JsonRpcError) : Json :=
  .object <|
    [("code", .number (codeNumber error.code)), ("message", .string error.message)] ++
      match error.data with
      | none => []
      | some data => [("data", data)]

instance : Serialize JsonRpcError := ⟨fun error => .ok error.toJson⟩

theorem le_serialized_size (error : JsonRpcError) : 11 ≤ serializedSize (serialize error) := by
  show 11 ≤ Json.size (.object (_ :: _ :: _))
  rw [size_object_cons, fields_size_cons]
  have hcode := size_pos (.number (codeNumber error.code))
  rw [size_string]
  omega

end JsonRpcError

/-! ## Tool results -/

/-- The result of a tool call. Content items and `_meta` are kept as serialized. -/
structure CallToolResult where
  content : List Serialized
  isError : Bool := false
  structuredContent : Option Json := none
  metadata : Option Serialized := none

instance : Serialize CallToolResult where
  serialize result := serializeObject <|
    [("content", serializeArray result.content)] ++
      (if result.isError then [("isError", .ok (.bool true))] else []) ++
      (match result.structuredContent with
        | none => []
        | some value => [("structuredContent", .ok value)]) ++
      (match result.metadata with
        | none => []
        | some value => [("_meta", value)])

def CallToolResult.fromError (message : String) : CallToolResult where
  content := [.ok (.object [("type", .string "text"), ("text", .string message)])]
  isError := true

theorem CallToolResult.le_serialized_size {result : CallToolResult}
    (h : ∃ json, serialize result = .ok json) : 5 ≤ serializedSize (serialize result) := by
  obtain ⟨json, hjson⟩ := h
  have hsize : json.size = _ := size_of_serialize_object hjson
  rw [hjson]
  show 5 ≤ json.size
  rw [hsize, fields_length_cons, keyLength]
  omega

/-! ## Task input -/

inductive InputRequest where
  | createMessage (params : Serialized)
  | listRoots (params : Serialized)
  | elicit (params : Serialized)

def InputRequest.methodName : InputRequest → String
  | .createMessage _ => "sampling/createMessage"
  | .listRoots _ => "roots/list"
  | .elicit _ => "elicitation/create"

def InputRequest.params : InputRequest → Serialized
  | .createMessage params => params
  | .listRoots params => params
  | .elicit params => params

instance : Serialize InputRequest where
  serialize request := serializeObject
    [("method", .ok (.string request.methodName)), ("params", request.params)]

inductive InputResponse where
  | createMessage (result : Serialized)
  | listRoots (result : Serialized)
  | elicit (result : Serialized)

instance : Serialize InputResponse where
  serialize
    | .createMessage result => result
    | .listRoots result => result
    | .elicit result => result

abbrev InputRequests := FinMap String InputRequest

abbrev InputResponses := FinMap String InputResponse

/-! ## Tasks -/

inductive TaskStatus where
  | working
  | inputRequired
  | completed
  | failed
  | cancelled
deriving DecidableEq

def TaskStatus.isTerminal : TaskStatus → Bool
  | .completed | .failed | .cancelled => true
  | .working | .inputRequired => false

/-- The name of a status as `Debug` prints it. -/
def TaskStatus.debug : TaskStatus → String
  | .working => "Working"
  | .inputRequired => "InputRequired"
  | .completed => "Completed"
  | .failed => "Failed"
  | .cancelled => "Cancelled"

structure TaskObject where
  taskId : String
  status : TaskStatus
  statusMessage : Option String
  createdAt : String
  lastUpdatedAt : String
  ttl : Option ℕ
  pollInterval : Option ℕ
  result : Option CallToolResult
  error : Option JsonRpcError
  metadata : Option Json

end TowerMcp
