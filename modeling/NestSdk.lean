import NestSdk.Lib.Sql
import NestSdk.Lib.Table
import NestSdk.Outbox.Repository
import NestSdk.Lib.Fencing
import NestSdk.Outbox.ClaimToken
import NestSdk.Lib.Coop
import NestSdk.Outbox.Processor
import NestSdk.Outbox.World
import NestSdk.Outbox.Worker
import NestSdk.Outbox.Moves
import NestSdk.Outbox.Duty
import NestSdk.Outbox.Attempts
import NestSdk.Lib.Tickets
import NestSdk.Outbox.Budget
import NestSdk.Outbox.Stranded
import NestSdk.Repository.Base
import NestSdk.Repository.Isolation
import NestSdk.Repository.Save
import NestSdk.Lib.TokenBucket
import NestSdk.RateLimit.Script
import NestSdk.RateLimit.Service
import NestSdk.RateLimit.Conformance
import NestSdk.RateLimit.Expiry
import NestSdk.Auth.AccessToken
import NestSdk.Auth.AuthGuard
import NestSdk.Auth.PermissionGuard
import NestSdk.Auth.EndToEnd
import NestSdk.Testing.RegisteredRoute
import NestSdk.Outbox.Delivered
import NestSdk.Outbox.Lease
import NestSdk.Health.Startup
import NestSdk.Lib.Gauge
import NestSdk.Metrics.Service
import NestSdk.Metrics.Scrape
import NestSdk.Metrics.Sources
import NestSdk.Lib.SingleFlight
import NestSdk.ServiceToken.Service
import NestSdk.ServiceToken.SingleFlight
import NestSdk.ServiceToken.Invalidate
import NestSdk.Observability.Noninterference
import NestSdk.Js.Utf8
import NestSdk.Encryption.Service
import NestSdk.Lib.Envelope
import NestSdk.Encryption.Gcm
import NestSdk.Encryption.RoundTrip
import NestSdk.Encryption.Integrity
import NestSdk.Outbox.Batch
import NestSdk.Outbox.Logs
import NestSdk.Outbox.Cycles
import NestSdk.Outbox.Timer
import NestSdk.Lib.Delimiter
import NestSdk.RateLimit.Enforced
import NestSdk.RateLimit.Hints
import NestSdk.RateLimit.Key
import NestSdk.Context.CorrelationId
import NestSdk.Exception.Filter
import NestSdk.Exception.Run
import NestSdk.Exception.Answers
import NestSdk.Exception.Severity
import NestSdk.Exception.Noninterference
import NestSdk.Encryption.SecretsMatch
import NestSdk.Encryption.OneFailure
import NestSdk.Lib.Throttle
import NestSdk.Redis.Service
import NestSdk.Metrics.HttpMiddleware
import NestSdk.Metrics.CountedOnce
import NestSdk.Observability.Frames
import NestSdk.ServiceToken.Live
import NestSdk.Testing.PermissionMatrix
import NestSdk.Context.OneId
import NestSdk.Lib.StableSort
import NestSdk.Outbox.DueOrder
import NestSdk.Outbox.Locking
import NestSdk.Outbox.Depth
import NestSdk.Outbox.Evidence
import NestSdk.Lib.Solo
import NestSdk.Outbox.Turn
import NestSdk.Context.Ambient
import NestSdk.Context.Isolated
import NestSdk.E2e.Truncate
import NestSdk.Health.Probes
import NestSdk.Observability.Reported
import NestSdk.Outbox.Delivery
import NestSdk.Pipeline.Exchange
import NestSdk.RateLimit.Fleet
import NestSdk.Repository.History
import NestSdk.Repository.Interleaved
import NestSdk.Repository.QueryBuilder
import NestSdk.ServiceToken.Budget
import NestSdk.Metrics.Series
import NestSdk.Pipeline.Matrix
import NestSdk.RateLimit.Ordinary
