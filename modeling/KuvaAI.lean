import KuvaAI.Lib.StableSelect
import KuvaAI.Lib.HashChain
import KuvaAI.Lib.ExpiringCache
import KuvaAI.Lib.Acyclic
import KuvaAI.Lib.CycleSearch
import KuvaAI.Lib.DiGraph
import KuvaAI.Lib.UndirectedGraph
import KuvaAI.Lib.BoundedDeque
import KuvaAI.Lib.Custody
import KuvaAI.Lib.History
import KuvaAI.Lib.Coroutine
import KuvaAI.Lib.StepGuarantee
import KuvaAI.Lib.Transcript
import KuvaAI.Lib.Solo
import KuvaAI.Lib.RoundRobin
import KuvaAI.Lib.Loop
import KuvaAI.Lib.Reversal
import KuvaAI.Lib.Permits
import KuvaAI.Lib.Spread
import KuvaAI.Lib.OwnLock
import KuvaAI.Lib.Packing
import KuvaAI.Lib.Lexical
import KuvaAI.Lib.Rotation
import KuvaAI.Lib.TextPattern
import KuvaAI.Lib.TextCuts
import KuvaAI.Lib.FloatOrder
import KuvaAI.Python.Bytes
import KuvaAI.Python.Uuid
import KuvaAI.Python.Repr
import KuvaAI.Python.Async
import KuvaAI.Python.Fnmatch
import KuvaAI.Security.ZtaEngine
import KuvaAI.Security.ZtaSession
import KuvaAI.Security.PolicyOrder
import KuvaAI.Security.PolicyRefresh
import KuvaAI.Security.Auditor
import KuvaAI.Security.AuditChain
import KuvaAI.Security.AuditRecovery
import KuvaAI.Security.LocalStorage
import KuvaAI.Security.Tdf
import KuvaAI.Security.TdfKeys
import KuvaAI.Security.TdfPolicy
import KuvaAI.Security.TdfRuns
import KuvaAI.Security.TdfContainer
import KuvaAI.Security.Kmip
import KuvaAI.Security.KmipDeadlock
import KuvaAI.Security.KmipLosses
import KuvaAI.Security.Vault
import KuvaAI.Security.VaultReads
import KuvaAI.Security.VaultRequest
import KuvaAI.Security.SyslogHandler
import KuvaAI.Security.SyslogLedger
import KuvaAI.Security.SyslogLocking
import KuvaAI.Security.SyslogFrames
import KuvaAI.Observability.Statsd
import KuvaAI.Observability.StatsdLedger
import KuvaAI.Observability.StatsdChunks
import KuvaAI.Observability.StatsdFlush
import KuvaAI.Observability.DynamicMetric
import KuvaAI.Observability.Redaction
import KuvaAI.Observability.Histogram
import KuvaAI.Observability.SpanContext
import KuvaAI.Observability.PiiScrubber
import KuvaAI.Infrastructure.Operator
import KuvaAI.Infrastructure.SingleLeader
import KuvaAI.Infrastructure.Reconcile
import KuvaAI.Infrastructure.ReconcileRuns
import KuvaAI.Cli.Deploy
import KuvaAI.Cli.DeployRestores
import KuvaAI.Cli.FullStack
import KuvaAI.Cli.FullStackSteps
import KuvaAI.Cli.FullStackRuns
import KuvaAI.Cli.Monitor
import KuvaAI.Cli.MonitorRuns
import KuvaAI.Agent.Lifecycle
import KuvaAI.Agent.LifecycleRuns
import KuvaAI.Agent.LifecycleService
import KuvaAI.Agent.LifecycleTasks
import KuvaAI.Agent.LifecycleFrames
import KuvaAI.Agent.LifecycleRest
import KuvaAI.Agent.RestartBudget
import KuvaAI.Agent.RestartService
import KuvaAI.Agent.Registry
import KuvaAI.Agent.RegistryRuns
import KuvaAI.Agent.RegistryCycles
import KuvaAI.Agent.RegistryAtomic
import KuvaAI.Agent.Factory
import KuvaAI.Agent.FactoryRuns
import KuvaAI.Agent.RetryPolicy
import KuvaAI.Agent.Heartbeats
import KuvaAI.Agent.HeartbeatRuns
import KuvaAI.Agent.HeartbeatUses
import KuvaAI.Workflow.Parser
import KuvaAI.Workflow.Construction
import KuvaAI.Workflow.Hooks
import KuvaAI.Workflow.Grouping
import KuvaAI.Workflow.Mermaid
import KuvaAI.Workflow.GitOps
import KuvaAI.Workflow.UnusedNodes
import KuvaAI.Workflow.CycleValidator
import KuvaAI.Workflow.ValidatorBlame
import KuvaAI.Workflow.ValidatorCache
import KuvaAI.Workflow.CycleReports
import KuvaAI.Workflow.CallCycles
import KuvaAI.Workflow.TarjanDetector
import KuvaAI.Workflow.TarjanComponents
import KuvaAI.Workflow.TarjanVerdicts
import KuvaAI.Workflow.Annealing
import KuvaAI.Workflow.AnnealingPasses
import KuvaAI.Workflow.AnnealingRuns
import KuvaAI.Workflow.AnnealingEnds
import KuvaAI.Workflow.TspSolver
import KuvaAI.Workflow.Stagnation
import KuvaAI.Workflow.Cooling
import KuvaAI.Workflow.AnnealingFailures
import KuvaAI.Workflow.Checkpoints
import KuvaAI.Workflow.Genetic
import KuvaAI.Workflow.GeneticElite
import KuvaAI.Workflow.GeneticSearch
import KuvaAI.Workflow.GeneticReturns
import KuvaAI.Topology.Manager
import KuvaAI.Topology.Tasks
import KuvaAI.Topology.Placement
import KuvaAI.Topology.Conservation
import KuvaAI.Topology.Tables
import KuvaAI.Topology.Migration
import KuvaAI.Topology.Balancing
import KuvaAI.Topology.Failover
import KuvaAI.Topology.Updates
import KuvaAI.EventStream.SchemaCache
import KuvaAI.EventStream.ConsumerGroup
import KuvaAI.EventStream.ConsumerRuns
import KuvaAI.EventStream.ConsumerCommits
import KuvaAI.EventStream.ConsumerWindow
import KuvaAI.EventStream.Subscriber
import KuvaAI.EventStream.SubscriberBook
import KuvaAI.EventStream.SubscriberRuns
import KuvaAI.EventStream.Publisher
import KuvaAI.EventStream.PublisherRuns
import KuvaAI.EventStream.ProducerChoice
import KuvaAI.Grpc.ClientPool
import KuvaAI.Grpc.Ownership
import KuvaAI.Grpc.ClientSteps
import KuvaAI.Grpc.ClientRuns
import KuvaAI.Grpc.ConnectionCap
import KuvaAI.Grpc.HealthRounds
import KuvaAI.Grpc.EndpointTurns
import KuvaAI.Grpc.WarmPool
import KuvaAI.Knowledge.RdfStore
import KuvaAI.Knowledge.PatternReadings
import KuvaAI.Knowledge.QueryCache
