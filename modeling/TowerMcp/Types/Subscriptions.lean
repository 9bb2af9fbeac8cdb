import TowerMcp.Types.JsonRpc

/-!
# Messages about subscriptions

What a `subscriptions/listen` request asks for, and the parameters of the two notifications that are
about a request: its acknowledgment and its cancellation. `Json.structFields` is how a value is read
as a structure.
-/

namespace Json

/-- The fields of a value that is read as a structure: those of an object by their names, those of
an array by their positions, of which the first `least` have to be there. -/
def structFields (names : List String) (least : ℕ) (value : Json) : Option (List (Option Json)) :=
  match value with
  | .object _ => some (names.map value.get)
  | .array items =>
    if least ≤ items.length ∧ items.length ≤ names.length then
      some ((List.range names.length).map fun position => items[position]?)
    else none
  | _ => none

/-- Read a field that may be absent. A field that is `null` is absent. -/
def optionalField {α : Type} (read : Json → Option α) : Option Json → Option (Option α)
  | none | some .null => some none
  | some value => (read value).map some

def asBool : Json → Option Bool
  | .bool value => some value
  | _ => none

def asStrings (value : Json) : Option (List String) :=
  value.asArray.bind fun items => items.mapM asStr

end Json

namespace TowerMcp

/-- What a `subscriptions/listen` request asks for. -/
structure SubscriptionFilter where
  toolsListChanged : Option Bool := none
  promptsListChanged : Option Bool := none
  resourcesListChanged : Option Bool := none
  resourceSubscriptions : Option (List String) := none
  taskIds : Option (List String) := none
deriving DecidableEq

def SubscriptionFilter.fromJson (value : Json) : Option SubscriptionFilter := do
  match ← value.structFields ["toolsListChanged", "promptsListChanged", "resourcesListChanged",
      "resourceSubscriptions", "taskIds"] 0 with
  | [tools, prompts, resources, uris, tasks] =>
    let toolsListChanged ← Json.optionalField Json.asBool tools
    let promptsListChanged ← Json.optionalField Json.asBool prompts
    let resourcesListChanged ← Json.optionalField Json.asBool resources
    let resourceSubscriptions ← Json.optionalField Json.asStrings uris
    let taskIds ← Json.optionalField Json.asStrings tasks
    pure ⟨toolsListChanged, promptsListChanged, resourcesListChanged, resourceSubscriptions, taskIds⟩
  | _ => none

def subscriptionIdKey : String := "io.modelcontextprotocol/subscriptionId"

structure CancelledParams where
  requestId : Option RequestId
  reason : Option String

def CancelledParams.fromJson (value : Json) : Option CancelledParams := do
  match ← value.structFields ["requestId", "reason", "_meta"] 2 with
  | [id, text, metadata] =>
    let requestId ← Json.optionalField RequestId.fromJson id
    let reason ← Json.optionalField Json.asStr text
    let _ ← Json.optionalField Json.asObject metadata
    pure { requestId, reason }
  | _ => none

structure SubscriptionsAcknowledgedParams where
  subscriptionId : Option RequestId
  notifications : SubscriptionFilter

def SubscriptionsAcknowledgedParams.fromJson (value : Json) :
    Option SubscriptionsAcknowledgedParams := do
  match ← value.structFields ["_meta", "notifications"] 2 with
  | [metadata, filter] =>
    let named ← Json.optionalField (fun metadata =>
      metadata.asObject.bind fun _ =>
        Json.optionalField RequestId.fromJson (metadata.get subscriptionIdKey)) metadata
    let notifications ← filter.bind SubscriptionFilter.fromJson
    pure { subscriptionId := named.bind id, notifications }
  | _ => none

def SubscriptionFilter.toJson (self : SubscriptionFilter) : Json :=
  let flag (name : String) (value : Option Bool) : List (String × Json) :=
    value.toList.map fun value => (name, .bool value)
  let texts (name : String) (value : Option (List String)) : List (String × Json) :=
    value.toList.map fun items => (name, .array (items.map .string))
  .object (flag "toolsListChanged" self.toolsListChanged ++
    flag "promptsListChanged" self.promptsListChanged ++
    flag "resourcesListChanged" self.resourcesListChanged ++
    texts "resourceSubscriptions" self.resourceSubscriptions ++ texts "taskIds" self.taskIds)

end TowerMcp
