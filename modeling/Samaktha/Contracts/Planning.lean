import Samaktha.Contracts.Policy
import Samaktha.Contracts.State

/-!
# Plans, runtime tasks and their results

The data that travels between the planner, the workflow and the runtime.  A task's permit
travels in its metadata as the dictionary `model_dump` writes and is read back by the permit's
own constructor; here it is a field of its own.  Sets of task ids are lists in insertion
order, of which only membership is ever observed.

Timestamps, titles of events, and the `agent_id` of a task are left out, as is the plan's routing
request, which only the router reads.
-/

namespace Samaktha

/-- Estimated complexity for a user goal. -/
inductive GoalComplexity where
  | low
  | medium
  | high
  deriving Repr, DecidableEq, Inhabited

/-- Status of a planned or reported task. -/
inductive TaskStatus where
  | pending
  | ready
  | blocked
  | blockedByDependency
  | paused
  | completed
  | failed
  | cancelled
  deriving Repr, DecidableEq, Inhabited

def TaskStatus.value : TaskStatus → String
  | pending => "pending"
  | ready => "ready"
  | blocked => "blocked"
  | blockedByDependency => "blocked_by_dependency"
  | paused => "paused"
  | completed => "completed"
  | failed => "failed"
  | cancelled => "cancelled"

/-- Semantic kind of a planned task. -/
inductive TaskKind where
  | understand
  | retrieveContext
  | plan
  | transform
  | verify
  | reflect
  | executeViaRuntime
  deriving Repr, DecidableEq, Inhabited

def TaskKind.value : TaskKind → String
  | understand => "understand"
  | retrieveContext => "retrieve_context"
  | plan => "plan"
  | transform => "transform"
  | verify => "verify"
  | reflect => "reflect"
  | executeViaRuntime => "execute_via_runtime"

structure PlanTask where
  taskId : String
  title : String := ""
  kind : TaskKind
  description : String := ""
  dependencies : List String := []
  executionActionType : String := "text_generation"
  metadata : Dict String Value := []
  /-- `metadata["permit"]`. -/
  permit : Option ExecutionPermit := none
  /-- `metadata["permit"]` holds something that `ExecutionPermit` does not accept. -/
  permitRefused : Bool := false
  workerRequirement : Option String := none
  preferredWorker : Option String := none
  deriving Repr, Inhabited

/-- A plan, with the text of the request it answers. -/
structure ExecutionPlan where
  planId : String
  rawRequest : String := ""
  tasks : List PlanTask
  deriving Repr, Inhabited

/-- The router's choice for a task. -/
structure RoutingDecision where
  providerId : String
  modelId : String
  reasoningSummary : String := ""
  constraints : List String := []
  executionConstraints : ExecutionConstraints := {}
  metadata : Dict String Json := []
  deriving Repr, Inhabited

/-- A pause requested by the runtime. -/
structure ExecutionPause where
  reason : String
  metadata : Dict String Json := []
  deriving Repr, Inhabited

structure RuntimeTask where
  taskId : String
  title : String := ""
  description : String := ""
  actionType : String
  inputs : Inputs := []
  dependencies : List String := []
  metadata : Dict String Value := []
  permit : Option ExecutionPermit := none
  workerRequirement : Option String := none
  preferredWorker : Option String := none
  deriving Repr, Inhabited

/-- A result returned across subsystem boundaries. -/
structure RuntimeResult where
  taskId : String
  status : TaskStatus
  routing : Option RoutingDecision := none
  pause : Option ExecutionPause := none
  output : Dict String Json := []
  error : Option String := none
  metadata : Dict String Json := []
  deriving Repr, Inhabited

/-- What is kept of a paused workflow. -/
structure WorkflowState where
  workflowId : String
  status : ExecutionStatus := .created
  currentStep : ℕ := 0
  totalSteps : ℕ := 0
  completedSteps : ℕ := 0
  failedStep : Option ℕ := none
  results : List RuntimeResult := []
  completedTaskIds : List String := []
  failedTaskIds : List String := []
  errors : List String := []
  deriving Repr, Inhabited

/-- The shared coordination context of one execution. -/
structure RuntimeContext where
  requestId : String
  userId : Option String := none
  sessionId : Option String := none
  workspaceId : Option String := none
  /-- `metadata["authorization_subject_id"]`, where it is a text. -/
  authorizationSubject : Option String := none
  /-- `metadata["recovered_operation_results"]`, set when a restored execution is registered. -/
  recoveredOperationResults : Dict String Json := []
  deriving Repr, Inhabited

/-! ## Dumps -/

/-- The JSON value of an optional text. -/
def Json.ofText? : Option String → Json
  | some text => .str text
  | none => .null

/-- `model_dump(mode="json")` of a routing decision. -/
def RoutingDecision.modelDump (routing : RoutingDecision) : Json :=
  .obj [
    ("provider_id", .str routing.providerId),
    ("model_id", .str routing.modelId),
    ("reasoning_summary", .str routing.reasoningSummary),
    ("constraints", .arr (routing.constraints.map .str)),
    ("execution_constraints", routing.executionConstraints.modelDump),
    ("metadata", .obj routing.metadata)]

/-- `model_dump(mode="json")` of a pause. -/
def ExecutionPause.modelDump (pause : ExecutionPause) : Json :=
  .obj [("reason", .str pause.reason), ("metadata", .obj pause.metadata)]

/-- `model_dump(mode="json")` of a result, the timestamps aside. -/
def RuntimeResult.modelDump (result : RuntimeResult) : Json :=
  .obj [
    ("task_id", .str result.taskId),
    ("status", .str result.status.value),
    ("routing", (result.routing.map RoutingDecision.modelDump).getD .null),
    ("pause", (result.pause.map ExecutionPause.modelDump).getD .null),
    ("output", .obj result.output),
    ("error", .ofText? result.error),
    ("metadata", .obj result.metadata)]

end Samaktha
