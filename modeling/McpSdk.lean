import McpSdk.Resumption
import McpSdk.PostCompleteness
import McpSdk.PostSpelling
import McpSdk.BatchReply
import McpSdk.AuthIsolation
import McpSdk.SingleShot
import McpSdk.Reconnection
import McpSdk.ResumedStream
import McpSdk.WireOrder
import McpSdk.SessionCounter
import McpSdk.TaskFinality
import McpSdk.Correlation
import McpSdk.PostWriter
import McpSdk.SseFormat
import McpSdk.TransportReady
import McpSdk.SessionRemoval
import McpSdk.RemovedPolls
import McpSdk.TaskNotifications
import McpSdk.TaskPages
import McpSdk.WritableChannel
import McpSdk.TransportShutdown
import McpSdk.HttpSession
import McpSdk.StreamResidue
import McpSdk.MessageLoops
import McpSdk.ClientIdentity
import McpSdk.TransportLock
import McpSdk.ClientShutdown
import McpSdk.EventIds
import McpSdk.EventBound
import McpSdk.TaskSessions
import McpSdk.TaskIntervals
import McpSdk.PostBody
import McpSdk.EventSessions
import McpSdk.ExitDelivery
import McpSdk.EndpointUrl
import McpSdk.RequestHeaders
import McpSdk.RemoteAuthProvider
import McpSdk.ReconnectBound
import McpSdk.TokenChecks
import McpSdk.TokenIdentity
import McpSdk.TokenFreshness
import McpSdk.TokenAdmission
import McpSdk.TokenStore
import McpSdk.WwwAuthenticate
import McpSdk.ScopeUnion
import McpSdk.CorsPreflight
import McpSdk.DnsRebinding
import McpSdk.MediaTypes
import McpSdk.Snowflake
import McpSdk.TimeBase64
import McpSdk.FieldName
import McpSdk.DerivedSchema
import McpSdk.Cancellation
import McpSdk.Handshake
import McpSdk.Elicit
