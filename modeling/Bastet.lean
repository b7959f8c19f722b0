import Bastet.Library.Fallible
import Bastet.Library.Lookup
import Bastet.Library.Table
import Bastet.Library.Machine
import Bastet.Library.Versions
import Bastet.Library.Gating
import Bastet.Library.EventStream
import Bastet.Library.HeldBack
import Bastet.Library.Chunked
import Bastet.Library.ArgumentQuoting
import Bastet.Library.KeyOrder
import Bastet.Library.SExpression
import Bastet.Library.Mounts
import Bastet.Library.Collector
import Bastet.Library.Occurrences
import Bastet.Library.Interrupted
import Bastet.Library.UnixFiles
import Bastet.Library.Fairness
import Bastet.Library.DoublyKeyed
import Bastet.Library.Migrations
import Bastet.Core.Text
import Bastet.Core.Identity
import Bastet.Core.Policy
import Bastet.Core.Adapter
import Bastet.Core.Catalog
import Bastet.Core.Graph
import Bastet.Core.Execution
import Bastet.Core.ExecutionSteps
import Bastet.Core.ExecutionSafety
import Bastet.Core.ExecutionRuns
import Bastet.Core.ExecutionTransitions
import Bastet.Core.ExecutionResults
import Bastet.Core.ExecutionValid
import Bastet.Core.ExecutionHistory
import Bastet.Core.ExecutionProgress
import Bastet.Core.GraphSearch
import Bastet.Core.ExecutionWrites
import Bastet.Core.ExecutionWaiting
import Bastet.Core.ExecutionLapse
import Bastet.Core.ExecutionBindings
import Bastet.Core.ExecutionRetry
import Bastet.Core.ExecutionReach
import Bastet.Core.ExecutionClaims
import Bastet.Core.ExecutionRunIds
import Bastet.Core.ExecutionCounters
import Bastet.Core.Office
import Bastet.Core.Meeting
import Bastet.Core.Deliverable
import Bastet.Core.M3
import Bastet.Core.M3Lookups
import Bastet.Core.M3References
import Bastet.Core.M3Moves
import Bastet.Core.Json
import Bastet.Core.Approval
import Bastet.Core.ApprovalBinding
import Bastet.Core.ApprovalSound
import Bastet.Core.ApprovalHash
import Bastet.Core.Mvp
import Bastet.Core.ProcessQueue
import Bastet.Core.ProcessOutput
import Bastet.Core.WindowsLaunchEncoding
import Bastet.Adapter.Value
import Bastet.Adapter.CodexLifecycle
import Bastet.Adapter.AgyStream
import Bastet.Adapter.EventStreams
import Bastet.Adapter.CodexTracker
import Bastet.Adapter.CodexIsolation
import Bastet.Adapter.Stdio
import Bastet.Adapter.StdioDemux
import Bastet.Adapter.Rejection
import Bastet.Adapter.WorkspaceEvidence
import Bastet.Adapter.FinalOutput
import Bastet.Adapter.AgyVerdict
import Bastet.Adapter.AgyErrors
import Bastet.Adapter.Evidence
import Bastet.Adapter.TrackedRuns
import Bastet.Adapter.AgyProcess
import Bastet.Adapter.TerminalOrder
import Bastet.Adapter.Conformance
import Bastet.Daemon.Store
import Bastet.Daemon.Launch
import Bastet.Daemon.Database
import Bastet.Daemon.Catalogs
import Bastet.Daemon.Documents
import Bastet.Daemon.Graphs
import Bastet.Daemon.Binding
import Bastet.Daemon.PromptFraming
import Bastet.Daemon.StagedLaunches
import Bastet.Daemon.CredentialGrants
import Bastet.Daemon.Runs
import Bastet.Daemon.CredentialDispatch
import Bastet.Daemon.Approvals
import Bastet.Daemon.Recovery
import Bastet.Daemon.Commands
import Bastet.Daemon.Effects
import Bastet.Daemon.Waiting
import Bastet.Daemon.RunEffects
import Bastet.Daemon.GrantEffects
import Bastet.Daemon.RecoveryEffects
import Bastet.Daemon.Changes
import Bastet.Daemon.GraphWrites
import Bastet.Daemon.RunLifecycle
import Bastet.Daemon.Undisturbed
import Bastet.Daemon.SingleUse
import Bastet.Daemon.Decisions
import Bastet.Daemon.Shutdown
import Bastet.Daemon.Revisions
import Bastet.Daemon.AcceptedContent
import Bastet.Daemon.LaunchLedger
import Bastet.Daemon.UncertainLaunches
import Bastet.Daemon.DispatchAuthority
import Bastet.Daemon.Expiry
import Bastet.Daemon.RecoverySoundness
import Bastet.Daemon.ExpiryProgress
import Bastet.Daemon.ExactExpiry
import Bastet.Daemon.ProviderExecutor
import Bastet.Daemon.RunControl
import Bastet.Daemon.Verdicts
import Bastet.Daemon.CancelAnswers
import Bastet.Daemon.OutputLedger
import Bastet.Daemon.Attempts
import Bastet.Daemon.GraphAgreement
import Bastet.Daemon.SingleAttempt
import Bastet.Daemon.OutcomeDocuments
import Bastet.Daemon.OutcomeProgress
import Bastet.Daemon.CrossCatalog
import Bastet.Daemon.GraphCounters
import Bastet.Daemon.Restarts
import Bastet.Daemon.Sandbox
import Bastet.Daemon.NativeCredentials
import Bastet.Desktop.KnowledgeDelivery
import Bastet.Daemon.SchemaMigrations
import Bastet.Daemon.SchemaUpgrades
import Bastet.Daemon.SchemaOpeners
import Bastet.LocalIpc.Unix
import Bastet.LocalIpc.Exclusion
import Bastet.LocalIpc.Endpoint
import Bastet.LocalIpc.Bind
import Bastet.LocalIpc.Restart
import Bastet.Core.ProcessInput
import Bastet.Core.ProcessInputEncoding
import Bastet.Core.ProcessInputSafety
import Bastet.Core.ProcessInputProgress
import Bastet.Daemon.StagedContext
import Bastet.Daemon.StagedSoundness
import Bastet.Daemon.MaintenanceProgress
import Bastet.Library.Workers
import Bastet.Daemon.ProviderPreflight
import Bastet.Daemon.GraphExecutor
import Bastet.Daemon.ExecutorTurns
import Bastet.Daemon.ExecutorAccounting
import Bastet.Daemon.ExecutorAnswers
import Bastet.Daemon.ExecutorShutdown
import Bastet.Daemon.ExecutorProviders
