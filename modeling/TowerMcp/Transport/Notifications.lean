import TowerMcp.Types.Subscriptions

/-!
# Notifications of the server

The frames of the notifications that handlers and the router emit, and what the final protocol does
with those that belong on the streams of `subscriptions/listen`: which filter wants them, and how
they are tagged with the subscription they are sent for.
-/

namespace TowerMcp

/-- A notification of the server. Parameters that are a structure are kept as what `serde` makes of
them. -/
inductive ServerNotification where
  | progress (params : Serialized)
  | logMessage (params : Serialized)
  | resourceUpdated (uri : String)
  | resourcesListChanged
  | toolsListChanged
  | promptsListChanged
  | taskStatusChanged (params : Serialized)
  | finalTaskStatusChanged (taskId : String) (params : Serialized)

def jsonRpcNotification (method : String) (params : Option Json) : Json :=
  .object ([("jsonrpc", .string "2.0"), ("method", .string method)] ++
    params.toList.map fun params => ("params", params))

/-- What `serde` makes of parameters, with `null` for those that refuse to serialize. -/
def unwrapOrNull : Serialized → Json
  | .ok params => params
  | .error _ => .null

namespace ServerNotification

def serializeNotification : ServerNotification → Option Json
  | .progress params => some (jsonRpcNotification "notifications/progress" (unwrapOrNull params))
  | .logMessage params => some (jsonRpcNotification "notifications/message" (unwrapOrNull params))
  | .resourceUpdated uri =>
    some (jsonRpcNotification "notifications/resources/updated"
      (some (.object [("uri", .string uri)])))
  | .resourcesListChanged =>
    some (jsonRpcNotification "notifications/resources/list_changed" none)
  | .toolsListChanged => some (jsonRpcNotification "notifications/tools/list_changed" none)
  | .promptsListChanged => some (jsonRpcNotification "notifications/prompts/list_changed" none)
  | .taskStatusChanged params =>
    some (jsonRpcNotification "notifications/tasks" (unwrapOrNull params))
  | .finalTaskStatusChanged _ params =>
    params.toOption.map fun params => jsonRpcNotification "notifications/tasks" (some params)

/-- Whether a notification belongs on the streams of `subscriptions/listen` alone. -/
def isSubscriptionScoped : ServerNotification → Bool
  | .resourceUpdated _ | .resourcesListChanged | .toolsListChanged | .promptsListChanged
  | .finalTaskStatusChanged _ _ => true
  | .progress _ | .logMessage _ | .taskStatusChanged _ => false

def subscriptionMatches (notification : ServerNotification) (filter : SubscriptionFilter) : Bool :=
  match notification with
  | .toolsListChanged => decide (filter.toolsListChanged = some true)
  | .promptsListChanged => decide (filter.promptsListChanged = some true)
  | .resourcesListChanged => decide (filter.resourcesListChanged = some true)
  | .resourceUpdated uri => filter.resourceSubscriptions.any fun uris => decide (uri ∈ uris)
  | .finalTaskStatusChanged taskId _ => filter.taskIds.any fun ids => decide (taskId ∈ ids)
  | _ => false

def objectField (value : Json) (key : String) : Option Json :=
  match value.get key with
  | none => some (.object [])
  | some (.object fields) => some (.object fields)
  | some _ => none

def taggedSubscriptionNotification (notification : ServerNotification)
    (subscriptionId : RequestId) : Option Json := do
  let value ← notification.serializeNotification
  let params ← objectField value "params"
  let metadata ← objectField params "_meta"
  pure (value.set "params"
    (params.set "_meta" (metadata.set subscriptionIdKey subscriptionId.toJson)))

theorem serialize_of_not_scoped {notification : ServerNotification}
    (h : notification.isSubscriptionScoped = false) :
    ∃ frame, notification.serializeNotification = some frame := by
  cases notification with
  | progress params => exact ⟨_, rfl⟩
  | logMessage params => exact ⟨_, rfl⟩
  | taskStatusChanged params => exact ⟨_, rfl⟩
  | _ => cases h

end ServerNotification

def subscriptionAcknowledgment (subscriptionId : RequestId) (notifications : SubscriptionFilter) :
    Json :=
  jsonRpcNotification "notifications/subscriptions/acknowledged"
    (some (.object [("_meta", .object [(subscriptionIdKey, subscriptionId.toJson)]),
      ("notifications", notifications.toJson)]))

def subscriptionCompleteResponse (subscriptionId : RequestId) (serverInfo : Option Json) : Json :=
  (JsonRpcResponse.result subscriptionId (.object
    [("resultType", .string "complete"), ("_meta", .object
      ((subscriptionIdKey, subscriptionId.toJson) ::
        serverInfo.toList.map fun info => ("io.modelcontextprotocol/serverInfo", info)))])).toJson

end TowerMcp
