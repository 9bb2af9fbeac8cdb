import TowerMcp.Task.Worker
import TowerMcp.Task.LiveExecutions
import TowerMcp.Router.CompletionAccess
import TowerMcp.Store.CachingEvents
import TowerMcp.Store.CachingSessions
import TowerMcp.Router.Isolation
import TowerMcp.Router.Continuation
import TowerMcp.Router.RequestState
import TowerMcp.Proxy.Namespaces
import TowerMcp.Http.Principals
import TowerMcp.Http.Finality
import TowerMcp.Router.ToolInfo
import TowerMcp.Transport.StdioCancellation
import TowerMcp.Transport.StdioShutdown
import TowerMcp.Http.TransientSessions
import TowerMcp.Http.Resumption
import TowerMcp.Http.Stateless
import TowerMcp.Http.RequestIds
import TowerMcp.Client.Recovery
import TowerMcp.Client.Acceptance
import TowerMcp.Client.Answers
import TowerMcp.Client.ToolMappings
import TowerMcp.Client.Correlation
import TowerMcp.Client.ServerRequests
import TowerMcp.Tool.Wakeups
import TowerMcp.Proxy.Transparency
import TowerMcp.Proxy.Freshness
import TowerMcp.OAuth.ScopedHandlers
import TowerMcp.OAuth.KeyRotation
import TowerMcp.Client.KeptAuthorizations
import TowerMcp.Client.ScopeEscalation
import TowerMcp.Client.DiscoveryPaths
import TowerMcp.Router.Rounds
import TowerMcp.Router.AskedClients
import TowerMcp.Router.DeliveredShapes
import TowerMcp.Router.TaskNotifications
import TowerMcp.Router.ReplayedAccess
import TowerMcp.Router.RegistryChanges
import TowerMcp.Transport.WebSocketLoop
import TowerMcp.Router.UntaggedResponses
import TowerMcp.Client.ToolRetries
import TowerMcp.Router.NegotiatedRevision
import TowerMcp.Transport.RequestScope
import TowerMcp.Router.Composition
import TowerMcp.Store.EventReplays
import TowerMcp.Transport.SentinelOverlap
import TowerMcp.Transport.CatchErrors
import TowerMcp.Router.Pagination
import TowerMcp.Transport.HeaderAnnotations
import TowerMcp.Client.Redirects
import TowerMcp.Transport.Resynchronisation
import TowerMcp.Client.BasicCredentials
import TowerMcp.Types.TraceContext
import TowerMcp.Client.TokenLifetimes
import TowerMcp.Router.Batches
import TowerMcp.Client.Callbacks
import TowerMcp.Transport.Localhost
import TowerMcp.Router.TaskViews
import TowerMcp.Client.ResourceBound
import TowerMcp.Router.QueryComponents
import TowerMcp.Client.CursorWalks
import TowerMcp.Http.HeaderAuth
import TowerMcp.Task.Timestamps
