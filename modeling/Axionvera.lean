import Axionvera.Foundation.TransitionSystem
import Axionvera.Foundation.OrderedLog
import Axionvera.Foundation.InsertionMap
import Axionvera.Foundation.DecimalNumber
import Axionvera.Foundation.NumberText
import Axionvera.Foundation.JsonText
import Axionvera.Foundation.JsNumber
import Axionvera.Foundation.BreadthFirst
import Axionvera.Foundation.FallibleSteps
import Axionvera.Foundation.StableSort
import Axionvera.Foundation.ThrownValue
import Axionvera.Foundation.LiveMap
import Axionvera.Foundation.TextPattern
import Axionvera.Foundation.Termination
import Axionvera.Foundation.ByteEncoding
import Axionvera.Foundation.CommentReader
import Axionvera.Foundation.AsciiCharacter
import Axionvera.Foundation.Base64
import Axionvera.Foundation.LastOccurrence
import Axionvera.Errors
import Axionvera.Http.Retry
import Axionvera.Client.ContractEvents
import Axionvera.Client.EventFetching
import Axionvera.Client.EventFetchTermination
import Axionvera.Client.EventRangeCall
import Axionvera.Client.EventRangeReading
import Axionvera.Client.EventRangeExactness
import Axionvera.Client.EventRangeHalving
import Axionvera.Client.CallerPaging
import Axionvera.Client.SequenceCache
import Axionvera.Client.AccountFallback
import Axionvera.Client.SequentialSubmission
import Axionvera.Client.RpcFailover
import Axionvera.Client.FeeBuffer
import Axionvera.Client.SerializableValue
import Axionvera.Client.Tracking
import Axionvera.Client.TrackingSteps
import Axionvera.Client.TrackingRegistry
import Axionvera.Client.WaiterIndependence
import Axionvera.Client.StateHydration
import Axionvera.Queue.ConcurrencyQueue
import Axionvera.Queue.ActiveRequests
import Axionvera.Queue.RequestSettlement
import Axionvera.Queue.WakeUp
import Axionvera.Queue.ThrottleWindow
import Axionvera.Migrations.MigrationRegistry
import Axionvera.Migrations.PathResolution
import Axionvera.Migrations.MigrationRunner
import Axionvera.Migrations.RunProgress
import Axionvera.Migrations.MigrationReports
import Axionvera.Migrations.Rollback
import Axionvera.Migrations.RollbackVersions
import Axionvera.Migrations.RollbackRestores
import Axionvera.Migrations.DryRun
import Axionvera.Migrations.VaultMigrations
import Axionvera.Migrations.VaultUpgrades
import Axionvera.Pipeline.MiddlewarePipeline
import Axionvera.Pipeline.MiddlewareOrder
import Axionvera.Pipeline.ExecutionSteps
import Axionvera.Pipeline.OnionLaw
import Axionvera.Pipeline.Isolation
import Axionvera.Lifecycle.LifecycleStateMachine
import Axionvera.Lifecycle.TransactionRecords
import Axionvera.Lifecycle.TransactionLifecycleManager
import Axionvera.Lifecycle.LifecycleSteps
import Axionvera.Lifecycle.HistoryInvariant
import Axionvera.Lifecycle.CallAtomicity
import Axionvera.Lifecycle.EventOrder
import Axionvera.Events.EventDispatcher
import Axionvera.Events.Dispatch
import Axionvera.Events.EventDispatching
import Axionvera.Events.SubscriptionCounts
import Axionvera.Network.ReconnectionManager
import Axionvera.Network.ReconnectionSafety
import Axionvera.WebSocket.WebSocketManager
import Axionvera.WebSocket.SingleConnection
import Axionvera.WebSocket.ParsedEvents
import Axionvera.WebSocket.FilterAgreement
import Axionvera.WebSocket.MessageDelivery
import Axionvera.Subscriptions.SubscriptionService
import Axionvera.Subscriptions.SubscriptionLimits
import Axionvera.Plugins.PluginManager
import Axionvera.Plugins.AppliedPlugins
import Axionvera.Plugins.InstalledOnce
import Axionvera.Contracts.ContractEventEmitter
import Axionvera.Contracts.EventDelivery
import Axionvera.Contracts.EventPolling
import Axionvera.Logging.Logger
import Axionvera.Logging.RedactedTexts
import Axionvera.Logging.Noninterference
import Axionvera.Logging.CloudWatchLogger
import Axionvera.Logging.EntryConservation
import Axionvera.Logging.DeliveryOrder
import Axionvera.Logging.Shutdown
import Axionvera.Session.ContractSession
import Axionvera.Session.SessionManager
import Axionvera.Session.SessionInvariant
import Axionvera.Replay.ResultValue
import Axionvera.Replay.InteractionReplay
import Axionvera.Replay.ReplayValidation
import Axionvera.Codegen.WasmParser
import Axionvera.Codegen.Generator
import Axionvera.Codegen.SectionTermination
import Axionvera.Codegen.SectionCycles
import Axionvera.Codegen.SectionRoundTrip
import Axionvera.Codegen.SectionConfinement
import Axionvera.Codegen.ClassMembers
import Axionvera.Codegen.DocumentationIndependence
import Axionvera.Transactions.OfflineTransactionBuilder
import Axionvera.Transactions.PackageRoundTrip
import Axionvera.Registry.CapabilityRegistry
import Axionvera.Registry.LookupAgreement
import Axionvera.Monitoring.RpcHealthMonitor
import Axionvera.Monitoring.HealthStatistics
import Axionvera.Telemetry.TelemetryService
import Axionvera.Telemetry.BatchDelivery
import Axionvera.Testing.MockRpcServer
import Axionvera.Testing.SnapshotFidelity
import Axionvera.Client.DateMarkers
import Axionvera.Foundation.SeparatedText
import Axionvera.Foundation.KeyedRegistry
import Axionvera.Validation.ContractValidationEngine
import Axionvera.Validation.SchemaSeparation
import Axionvera.Pipeline.Unregistering
import Axionvera.Session.ContractNames
import Axionvera.Foundation.TypeScriptTypes
import Axionvera.Codegen.SpecTypes
import Axionvera.Codegen.TypePrinting
import Axionvera.Codegen.TypeDenotation
import Axionvera.Codegen.TypeNesting
import Axionvera.Foundation.BigIntWords
import Axionvera.Soroban.ScVal
import Axionvera.Soroban.SimulationParser
import Axionvera.Soroban.WideIntegers
import Axionvera.Codegen.ArgumentValues
import Axionvera.Codegen.ArgumentEncoding
import Axionvera.Codegen.CallTypes
import Axionvera.Soroban.MapDecoding
import Axionvera.WebSocket.IntegerTopics
import Axionvera.Foundation.JsArithmetic
import Axionvera.Http.RetryLaw
import Axionvera.Signing.TransactionSigner
import Axionvera.Signing.MemoOperations
import Axionvera.Codegen.NumberDecoding
import Axionvera.Client.FeeScaling
import Axionvera.Xdr.XdrCache
import Axionvera.Webhooks.WebhookSignature
import Axionvera.Metrics.MetricIdentity
import Axionvera.Metrics.PlainMetrics
import Axionvera.Observability.BoundedTraces
import Axionvera.Telemetry.Anonymization
import Axionvera.Cli.TypedArguments
import Axionvera.Simulation.Comparison
import Axionvera.Soroban.RequiredSigners
import Axionvera.Contracts.NetworkChecks
import Axionvera.Contracts.BatchSubmissions
import Axionvera.Contracts.ComposedCalls
import Axionvera.Cli.InvokeSafety
import Axionvera.Wallet.Sep7
import Axionvera.React.VaultHook
import Axionvera.React.ShownCalls
import Axionvera.Estimation.TransactionCostEstimator
import Axionvera.Profiling.ProfilingService
import Axionvera.Profiling.CallAccounts
import Axionvera.Profiling.ReportStatistics
