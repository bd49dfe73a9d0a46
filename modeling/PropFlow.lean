import PropFlow.Library.Machine
import PropFlow.Library.PartialMap
import PropFlow.Library.Fallible
import PropFlow.Library.CivilTime
import PropFlow.Library.Json
import PropFlow.Library.FirstOccurrences
import PropFlow.Library.BoundedFifo
import PropFlow.Library.Keyset
import PropFlow.Library.OffsetPages
import PropFlow.Library.Utf16
import PropFlow.Library.Separated
import PropFlow.Library.FormUrlEncoded
import PropFlow.Library.Binary64
import PropFlow.Library.Decimal
import PropFlow.Library.RoutePattern
import PropFlow.Library.ConsumerGroup
import PropFlow.Contracts
import PropFlow.Columns
import PropFlow.Validation
import PropFlow.Observability
import PropFlow.EventJson
import PropFlow.Library.JsonSchema
import PropFlow.QueryString
import PropFlow.Gateway
import PropFlow.WorkOrders.WorkOrder
import PropFlow.WorkOrders.Outbox
import PropFlow.WorkOrders.Service
import PropFlow.WorkOrders.Concurrency
import PropFlow.Gateway.Identity
import PropFlow.Gateway.Downstream
import PropFlow.WorkOrders.Lifecycle
import PropFlow.WorkOrders.Triage
import PropFlow.Gateway.Correlation
import PropFlow.Gateway.Login
import PropFlow.Gateway.PassThrough
import PropFlow.WorkOrders.OutboxLog
import PropFlow.WorkOrders.WellFormed
import PropFlow.WorkOrders.Classification
import PropFlow.Relay.OutboxRelay
import PropFlow.Relay.Delivery
import PropFlow.Relay.Exclusivity
import PropFlow.Relay.Drain
import PropFlow.Relay.Recovery
import PropFlow.Audit.Ingest
import PropFlow.Audit.Consumers
import PropFlow.Audit.Stream
import PropFlow.Audit.ActivityFeed
import PropFlow.Relay.Ordering
import PropFlow.Relay.OneInstance
import PropFlow.Listing
import PropFlow.Creation
import PropFlow.ListQueries
import PropFlow.Gateway.Summary
import PropFlow.Gateway.Routing
import PropFlow.Notifications.Handlers
import PropFlow.Notifications.Consumer
import PropFlow.Notifications.ProcessedEvents
import PropFlow.Notifications.Retries
import PropFlow.Notifications.NothingLost
import PropFlow.Notifications.SentOnce
import PropFlow.Notifications.Backlog
import PropFlow.WorkOrders.StatusLog
import PropFlow.WorkOrders.Serial
import PropFlow.Platform.System
import PropFlow.Platform.Notifications
import PropFlow.Platform.Accountability
import PropFlow.Platform.AuditTrail
import PropFlow.Platform.Attribution
import PropFlow.Platform.Stalled
import PropFlow.Platform.ActivityHistory
import PropFlow.AsyncApi
import PropFlow.Platform.EventContract
import PropFlow.WorkOrders.Classifier
import PropFlow.Platform.Provenance
