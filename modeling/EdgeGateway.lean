import EdgeGateway.BatchAnalytics.AnomalyReport
import EdgeGateway.BatchAnalytics.DeviceHealth
import EdgeGateway.BatchAnalytics.DeviceHealth.Scale
import EdgeGateway.BatchAnalytics.JobRunner
import EdgeGateway.BatchAnalytics.JobRunner.Cancellation
import EdgeGateway.BatchAnalytics.JobRunner.PublishedResults
import EdgeGateway.BatchAnalytics.ResultStore
import EdgeGateway.BatchAnalytics.SensorAggregation
import EdgeGateway.BatchAnalytics.SparkManager
import EdgeGateway.BatchAnalytics.TrendAnalysis
import EdgeGateway.BatchAnalytics.TrendAnalysis.BestLine
import EdgeGateway.BatchAnalytics.TrendAnalysis.Pairing
import EdgeGateway.CloudApi.Analytics
import EdgeGateway.CloudApi.AnalyticsService
import EdgeGateway.CloudApi.AnalyticsService.HealthScores
import EdgeGateway.CloudApi.AnalyticsService.Summary
import EdgeGateway.CloudApi.ModelRegistry
import EdgeGateway.CloudApi.Models
import EdgeGateway.CloudApi.TelemetryService
import EdgeGateway.CloudApi.TelemetryServicer
import EdgeGateway.CloudApi.TelemetryServicer.StreamedBatch
import EdgeGateway.Coordination.ClusterState
import EdgeGateway.Coordination.ClusterState.LeaderFlag
import EdgeGateway.Coordination.ConfigSync
import EdgeGateway.Coordination.ConfigSync.Bootstrap
import EdgeGateway.Coordination.ConfigSync.Exchange
import EdgeGateway.Coordination.ConfigSync.Flow
import EdgeGateway.Coordination.ConfigSync.FullSync
import EdgeGateway.Coordination.ConfigSync.KeyPrefix
import EdgeGateway.Coordination.ConfigSync.Monotone
import EdgeGateway.Coordination.ConfigSync.Pairing
import EdgeGateway.Coordination.ConfigSync.SingleWriter
import EdgeGateway.Coordination.ConfigSync.Versions
import EdgeGateway.Coordination.CoordinationServicer
import EdgeGateway.Coordination.CoordinationServicer.ClusterVersion
import EdgeGateway.Coordination.CoordinationServicer.LeaderReports
import EdgeGateway.Coordination.CoordinationServicer.Representation
import EdgeGateway.Coordination.Gossip
import EdgeGateway.Coordination.Gossip.FreshPeers
import EdgeGateway.Coordination.Gossip.Leaving
import EdgeGateway.Coordination.Heartbeat
import EdgeGateway.Coordination.Heartbeat.Acknowledged
import EdgeGateway.Coordination.LeaderElection
import EdgeGateway.Coordination.LeaderElection.Belief
import EdgeGateway.Coordination.LeaderElection.Ownership
import EdgeGateway.Coordination.Main
import EdgeGateway.Coordination.Main.Relinquished
import EdgeGateway.Coordination.OtaCoordinator
import EdgeGateway.Coordination.OtaCoordinator.Effects
import EdgeGateway.Coordination.OtaCoordinator.HealthGate
import EdgeGateway.Coordination.OtaCoordinator.Rollback
import EdgeGateway.Coordination.OtaCoordinator.Staged
import EdgeGateway.Coordination.OtaCoordinator.Targets
import EdgeGateway.Coordination.Subscribers
import EdgeGateway.Coordination.Subscribers.Survival
import EdgeGateway.Coordination.VersionVector
import EdgeGateway.Coordination.VersionVector.Causality
import EdgeGateway.Coordination.VersionVector.Semilattice
import EdgeGateway.Dashboard.Live
import EdgeGateway.DataIngestion.IngestionService
import EdgeGateway.DataIngestion.MqttSubscriber
import EdgeGateway.DataIngestion.Publication
import EdgeGateway.DataIngestion.StreamMonitor
import EdgeGateway.DataIngestion.TelemetryValidator
import EdgeGateway.DataPersistence.BatchWriter
import EdgeGateway.DataPersistence.BatchWriter.Flush
import EdgeGateway.DataPersistence.Pipeline
import EdgeGateway.DataPersistence.StreamToPostgres
import EdgeGateway.DataPersistence.StreamToPostgres.AckAfterCommit
import EdgeGateway.DataPersistence.StreamToPostgres.Loss
import EdgeGateway.DataPersistence.StreamToPostgres.RefusedRecord
import EdgeGateway.DataPersistence.StreamToPostgres.ShutdownAck
import EdgeGateway.DataPersistence.StreamToPostgres.StatementLimit
import EdgeGateway.DataPersistence.StreamToPostgres.Turns
import EdgeGateway.DataPersistence.StreamToPostgres.UniqueRows
import EdgeGateway.DeviceManager.Decommissioned
import EdgeGateway.DeviceManager.DeviceRepo
import EdgeGateway.DeviceManager.FirmwareRollouts
import EdgeGateway.DeviceManager.FirmwareService
import EdgeGateway.DeviceManager.Lifecycle
import EdgeGateway.DeviceManager.Lifecycle.ActiveGauge
import EdgeGateway.DeviceManager.Lifecycle.Atomicity
import EdgeGateway.DeviceManager.Lifecycle.Calls
import EdgeGateway.DeviceManager.Lifecycle.Concurrent
import EdgeGateway.DeviceManager.Lifecycle.Flights
import EdgeGateway.DeviceManager.Lifecycle.Plan
import EdgeGateway.DeviceManager.Lifecycle.Sessions
import EdgeGateway.DeviceManager.Lifecycle.SingleFlight
import EdgeGateway.DeviceManager.Lifecycle.Stages
import EdgeGateway.DeviceManager.Services
import EdgeGateway.DeviceManager.StatusGuard
import EdgeGateway.Library.AsyncClients
import EdgeGateway.Library.ConsumerGroup
import EdgeGateway.Library.Csv
import EdgeGateway.Library.Daemon
import EdgeGateway.Library.Dict
import EdgeGateway.Library.FileSystem
import EdgeGateway.Library.GroupBy
import EdgeGateway.Library.HttpHeaders
import EdgeGateway.Library.HttpxUrl
import EdgeGateway.Library.Interference
import EdgeGateway.Library.IntervalGap
import EdgeGateway.Library.JsonText
import EdgeGateway.Library.JsonText.Dumps
import EdgeGateway.Library.JsonText.ReadBack
import EdgeGateway.Library.JsonText.Tokens
import EdgeGateway.Library.JsonText.Writer
import EdgeGateway.Library.JsonValue
import EdgeGateway.Library.KeyedHistory
import EdgeGateway.Library.LabelledScores
import EdgeGateway.Library.LeastSquares
import EdgeGateway.Library.Observation
import EdgeGateway.Library.OrderStatistics
import EdgeGateway.Library.Paging
import EdgeGateway.Library.PercentEncoding
import EdgeGateway.Library.Preference
import EdgeGateway.Library.PyDatetime
import EdgeGateway.Library.PyDecimal
import EdgeGateway.Library.PyFloat
import EdgeGateway.Library.PyRound
import EdgeGateway.Library.PyValue
import EdgeGateway.Library.Raising
import EdgeGateway.Library.ReadCommitted
import EdgeGateway.Library.RedisKeyspace
import EdgeGateway.Library.RedisStream
import EdgeGateway.Library.SampleStatistics
import EdgeGateway.Library.Sessions
import EdgeGateway.Library.Sql
import EdgeGateway.Library.Threads
import EdgeGateway.Library.Transition
import EdgeGateway.Library.UrlSplit
import EdgeGateway.Library.Uuid
import EdgeGateway.Middleware.Auth
import EdgeGateway.Middleware.Auth.AccessLifetime
import EdgeGateway.Middleware.Auth.RefreshUsable
import EdgeGateway.Middleware.AuthService
import EdgeGateway.Middleware.AuthService.ApiKeys
import EdgeGateway.Middleware.AuthService.Revocation
import EdgeGateway.Middleware.Authentication
import EdgeGateway.Middleware.Layers
import EdgeGateway.Middleware.Main
import EdgeGateway.Middleware.Main.CorrelationHeader
import EdgeGateway.Middleware.Main.Mediation
import EdgeGateway.Middleware.Proxy
import EdgeGateway.Middleware.Proxy.GatewayHeaders
import EdgeGateway.Middleware.Proxy.HeaderMultiplicity
import EdgeGateway.Middleware.Proxy.PathContainment
import EdgeGateway.Middleware.RateLimiter
import EdgeGateway.Middleware.RateLimiter.Isolation
import EdgeGateway.Middleware.RateLimiter.Requests
import EdgeGateway.Middleware.RateLimiter.SlidingWindow
import EdgeGateway.Middleware.RateLimiter.WindowLimit
import EdgeGateway.Middleware.Request
import EdgeGateway.MlInference.AnomalyDetector
import EdgeGateway.MlInference.AnomalyDetector.Alignment
import EdgeGateway.MlInference.AnomalyDetector.Escape
import EdgeGateway.MlInference.AnomalyDetector.OutOfRange
import EdgeGateway.MlInference.FeatureExtractor
import EdgeGateway.MlInference.FeatureExtractor.AllOrNothing
import EdgeGateway.MlInference.FeatureExtractor.Breakdown
import EdgeGateway.MlInference.FeatureExtractor.Definition
import EdgeGateway.MlInference.FeatureExtractor.Extraction
import EdgeGateway.MlInference.FeatureExtractor.WindowSize
import EdgeGateway.MlInference.FeatureExtractor.Windows
import EdgeGateway.MlInference.Inference
import EdgeGateway.MlInference.Inference.Agreement
import EdgeGateway.MlInference.Inference.Responses
import EdgeGateway.MlInference.Inference.Traces
import EdgeGateway.MlInference.InferenceEngine
import EdgeGateway.MlInference.InferenceEngine.FailedLoad
import EdgeGateway.MlInference.ModelManager
import EdgeGateway.MlInference.ModelManager.Registry
import EdgeGateway.MlInference.ModelManager.Wedge
import EdgeGateway.MlInference.Service
import EdgeGateway.MlInference.Service.TrainingServing
import EdgeGateway.MlTraining.ExperimentTracker
import EdgeGateway.MlTraining.ReconstructionErrorModel
import EdgeGateway.MlTraining.TrainEdgeAutoencoder
import EdgeGateway.MlTraining.TrainEdgeAutoencoder.CalibrateThreshold
import EdgeGateway.MlTraining.TrainEdgeAutoencoder.SplitByDevice
import EdgeGateway.MlTraining.Trainer
import EdgeGateway.MlTraining.Trainer.Cancellation
import EdgeGateway.MlTraining.Trainer.Progress
import EdgeGateway.Scheduler.AdaptiveScheduler
import EdgeGateway.Scheduler.AdaptiveScheduler.Ranges
import EdgeGateway.Scheduler.LatencyConstraint
import EdgeGateway.Scheduler.Main
import EdgeGateway.Scheduler.NodeSelection
import EdgeGateway.Scheduler.Policies
import EdgeGateway.Scheduler.SchedulerEngine
import EdgeGateway.Scheduler.ScoreContract
import EdgeGateway.Scheduler.TaskQueue
import EdgeGateway.Scheduler.Tasks
import EdgeGateway.Shared.Alert
import EdgeGateway.Shared.DatabasePaging
import EdgeGateway.Shared.JwtHandler
import EdgeGateway.Shared.Telemetry
import EdgeGateway.Shared.Telemetry.StreamEncoding
import EdgeGateway.Simulator.TemperatureSensor
