import TowerMcp.Types.Protocol

/-!
# JSON-RPC frames

What the transports read of a frame before and after it is typed: its fields, its identifier, and
whether it has the shape of a response.
-/

namespace Json

def pointer (value : Json) : List String → Option Json
  | [] => some value
  | key :: rest => (value.get key).bind fun inner => inner.pointer rest

def asStr : Json → Option String
  | .string text => some text
  | _ => none

def asArray : Json → Option (List Json)
  | .array items => some items
  | _ => none

def asObject : Json → Option (List (String × Json))
  | .object fields => some fields
  | _ => none

def isArray (value : Json) : Bool :=
  value.asArray.isSome

/-- Whether a value is `null`. -/
def isNull : Json → Bool
  | .null => true
  | _ => false

def asI64 : Json → Option ℤ
  | .number (.posInt n) => if n < 2 ^ 63 then some n else none
  | .number (.negInt n) => if n < 2 ^ 63 then some (Int.negSucc n) else none
  | _ => none

def setField (fields : List (String × Json)) (key : String) (item : Json) : List (String × Json) :=
  match fields with
  | [] => [(key, item)]
  | (name, value) :: rest =>
    if name = key then (key, item) :: rest else (name, value) :: setField rest key item

def set (value : Json) (key : String) (item : Json) : Json :=
  match value with
  | .object fields => .object (setField fields key item)
  | other => other

theorem get_object_set_field (fields : List (String × Json)) (key name : String) (item : Json) :
    (Json.object (setField fields key item)).get name =
      if name = key then some item else (Json.object fields).get name := by
  induction fields with
  | nil => by_cases hname : name = key <;> simp [setField, get, hname, eq_comm]
  | cons field rest ih =>
    obtain ⟨first, value⟩ := field
    unfold setField
    by_cases hfirst : first = key
    · rw [if_pos hfirst]
      by_cases hname : name = key
      · simp [get, hname]
      · have hkey : key ≠ name := fun h => hname h.symm
        simp [get, hname, hkey, hfirst]
    · rw [if_neg hfirst]
      by_cases hname : first = name
      · have hne : name ≠ key := fun h => hfirst (hname.trans h)
        simp [get, hname, hne]
      · simp only [get, List.find?_cons, hname, decide_false] at ih ⊢
        exact ih

theorem eq_object_of_get {value item : Json} {key : String} (h : value.get key = some item) :
    ∃ fields, value = .object fields := by
  cases value with
  | object fields => exact ⟨fields, rfl⟩
  | _ => cases h

theorem get_set {value item : Json} {key : String} (h : value.get key = some item)
    (name field : String) (new : Json) :
    (value.set field new).get name = if name = field then some new else value.get name := by
  obtain ⟨fields, rfl⟩ := eq_object_of_get h
  exact get_object_set_field fields field name new

end Json

namespace TowerMcp

inductive RequestId where
  | string (value : String)
  | number (value : ℤ)
deriving DecidableEq

def maxExact : ℕ := 2 ^ 53

/-- The integer an integral float identifier stands for. The text of a double is that of its
shortest decimal form, which ends in `.0` for the integers up to `maxExact`. -/
def integralFloatId (literal : FloatLiteral) : Option ℤ :=
  match literal.text.toList.reverse with
  | '0' :: '.' :: digits =>
    let (negative, digits) :=
      match digits.reverse with
      | '-' :: magnitude => (true, magnitude)
      | magnitude => (false, magnitude)
    (String.ofList digits).toNat?.bind fun n =>
      if n ≤ maxExact then some (if negative then -(n : ℤ) else n) else none
  | _ => none

def RequestId.fromJson (value : Json) : Option RequestId :=
  match value with
  | .string text => some (.string text)
  | .number (.float literal) => (integralFloatId literal).map .number
  | other => other.asI64.map .number

def RequestId.toJson : RequestId → Json
  | .string value => .string value
  | .number (.ofNat n) => .number (.posInt n)
  | .number (.negSucc n) => .number (.negInt n)

structure JsonRpcRequest where
  jsonrpc : String
  id : RequestId
  method : String
  params : Option Json := none

/-- Read a request out of an object. Parameters that are `null` are absent. -/
def JsonRpcRequest.fromJson (value : Json) : Option JsonRpcRequest := do
  let jsonrpc ← (← value.get "jsonrpc").asStr
  let id ← RequestId.fromJson (← value.get "id")
  let method ← (← value.get "method").asStr
  pure { jsonrpc, id, method, params := (value.get "params").filter fun params => !params.isNull }

inductive JsonRpcResponse where
  | result (id : RequestId) (result : Json)
  | error (id : Option RequestId) (error : JsonRpcError)

def JsonRpcResponse.toJson : JsonRpcResponse → Json
  | .result id value =>
    .object [("jsonrpc", .string "2.0"), ("id", id.toJson), ("result", value)]
  | .error id failure =>
    .object [("jsonrpc", .string "2.0"), ("id", (id.map RequestId.toJson).getD .null),
      ("error", failure.toJson)]

def isResponseFrame (value : Json) : Bool :=
  !value.isArray && (value.get "method").isNone &&
    ((value.get "result").isSome || (value.get "error").isSome)

def extractRequestId (parsed : Json) : Option RequestId :=
  (parsed.get "id").bind RequestId.fromJson

namespace JsonRpcError

def parseError (message : String) : JsonRpcError :=
  new .parseError message

def methodNotFound (method : String) : JsonRpcError :=
  new .methodNotFound ("Method not found: " ++ method)

def unsupportedProtocolVersion (requested : String) (supported : List String) : JsonRpcError :=
  { code := -32022
    message := "Unsupported protocol version: " ++ requested ++ " (supported: " ++
      String.intercalate ", " supported ++ ")"
    data := some (.object
      [("supported", .array (supported.map .string)), ("requested", .string requested)]) }

end JsonRpcError

end TowerMcp
