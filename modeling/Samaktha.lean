import Samaktha.Foundation.Machine
import Samaktha.Foundation.Dict
import Samaktha.Foundation.Json
import Samaktha.Foundation.Value
import Samaktha.Contracts.Policy
import Samaktha.Contracts.State
import Samaktha.Contracts.Planning
import Samaktha.Runtime.Governance
import Samaktha.Runtime.Engine
import Samaktha.Runtime.PermitReplay
import Samaktha.Workflow.Engine
import Samaktha.Workflow.Accounting
import Samaktha.Workflow.Pause
import Samaktha.Runtime.Checkpoint
import Samaktha.Cap.Approval
import Samaktha.Orchestrator.PermitIssue
import Samaktha.Runtime.ToolArguments
import Samaktha.Runtime.Outcomes
import Samaktha.Runtime.OutcomeRuns
import Samaktha.Runtime.Iteration
import Samaktha.Coordination.Record
import Samaktha.Workflow.Ending
import Samaktha.Coordination.Verdict
import Samaktha.Coordination.Lifecycle
import Samaktha.Coordination.Approvals
import Samaktha.Coordination.Capacity
import Samaktha.Coordination.Starting
import Samaktha.Cap.Permissions
import Samaktha.Foundation.Search
import Samaktha.Workflow.Dependencies
import Samaktha.Workflow.Scheduling
import Samaktha.Workflow.Cycles
import Samaktha.Contracts.Memory
import Samaktha.Memory.Security
import Samaktha.Memory.Store
import Samaktha.Memory.Retriever
import Samaktha.Memory.Controller
import Samaktha.Memory.Candidates
import Samaktha.Memory.Consistency
import Samaktha.Memory.Isolation
import Samaktha.Memory.Forgetting
import Samaktha.Memory.View
import Samaktha.Memory.Interference
import Samaktha.Plugins.Contributions
import Samaktha.Plugins.Load
import Samaktha.Plugins.Reload
import Samaktha.Memory.Skills
import Samaktha.Memory.Restart
import Samaktha.Memory.Transparency
import Samaktha.Memory.CacheRuns
import Samaktha.Foundation.EventLog
import Samaktha.Memory.SessionHistory
import Samaktha.Runtime.CheckpointFiles
import Samaktha.Runtime.CheckpointCrash
import Samaktha.Runtime.CheckpointRollback
import Samaktha.Runtime.CheckpointFaults
import Samaktha.Foundation.DependencyOrder
import Samaktha.Plugins.Dependencies
import Samaktha.Foundation.HashChain
import Samaktha.Foundation.JsonText
import Samaktha.Governance.Records
import Samaktha.Governance.ChainBinding
import Samaktha.Foundation.Ledger
import Samaktha.Governance.ChainRestart
import Samaktha.Governance.Policies
import Samaktha.Governance.Evaluation
import Samaktha.Governance.Restriction
import Samaktha.Providers.Health
import Samaktha.Providers.Router
import Samaktha.Providers.LocalOnly
import Samaktha.Providers.Streaming
import Samaktha.Providers.Availability
import Samaktha.Providers.Fallback
import Samaktha.Internet.Fetch
import Samaktha.Runtime.Batch
import Samaktha.Runtime.BatchReports
import Samaktha.Coordination.Denial
import Samaktha.Coordination.Race
import Samaktha.Coordination.Agreement
import Samaktha.Plugins.Lifecycle
import Samaktha.Plugins.LifecycleLaws
import Samaktha.Plugins.LifecycleRuns
import Samaktha.Foundation.Layers
import Samaktha.Runtime.Levels
import Samaktha.Runtime.Scheduler
import Samaktha.Runtime.SchedulerBooks
import Samaktha.Runtime.SchedulerRuns
import Samaktha.Runtime.BatchPaths
import Samaktha.Foundation.DateTime
import Samaktha.Tools.MemoryTool
import Samaktha.Tools.Reminder
import Samaktha.Tools.ReminderRounds
import Samaktha.Tools.Shell
import Samaktha.Voice.Approvals
import Samaktha.Voice.Session
import Samaktha.Coordination.Journal
import Samaktha.Coordination.Replay
import Samaktha.Coordination.WriteAhead
import Samaktha.Foundation.Chain
import Samaktha.Gambit.Decomposer
import Samaktha.Gambit.Planner
import Samaktha.Gambit.Plans
import Samaktha.Foundation.IpAddress
import Samaktha.Internet.Addresses
import Samaktha.Foundation.Calendar
import Samaktha.Tools.Recurrence
import Samaktha.Plugins.Unrelated
import Samaktha.Evidence.Promise
import Samaktha.Evidence.Summaries
import Samaktha.Evidence.Retention
import Samaktha.Memory.Lifecycle
import Samaktha.Memory.Preferences
import Samaktha.Memory.SessionOwner
import Samaktha.Runtime.Topology
import Samaktha.Tools.Dispatcher
import Samaktha.Runtime.ToolChain
import Samaktha.Tools.ReminderFiring
import Samaktha.Foundation.Regex
import Samaktha.Runtime.CompletionClaims
import Samaktha.Runtime.ExecutionTruth
import Samaktha.Gambit.ResourceParser
import Samaktha.Conversation.References
import Samaktha.Memory.SemanticIndex
import Samaktha.Memory.IndexMirror
import Samaktha.Api.Limits
import Samaktha.Runtime.SchedulerBudget
import Samaktha.Runtime.AttemptLimit
