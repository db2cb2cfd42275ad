import McpGateway.Json
import McpGateway.Session.Meta
import McpGateway.Session.Redis
import McpGateway.Session.Subscriber
import McpGateway.Session.Queues
import McpGateway.Session.Delivery
import McpGateway.Session.Refinement
import McpGateway.Session.Atomicity
import McpGateway.Session.Lifecycle
import McpGateway.Session.Interleaving
import McpGateway.Session.Replicas
import McpGateway.Core.EventStream
import McpGateway.Core.Dispatch
import McpGateway.Supervisor
import McpGateway.Database.Messages
import McpGateway.Database.Saving
import McpGateway.Core.Handler
import McpGateway.Core.Gateway
import McpGateway.Core.Refinement
import McpGateway.Core.Cluster
import McpGateway.Core.McpProxy
