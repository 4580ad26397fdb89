import Samaktha.Foundation.Fields
import Samaktha.Foundation.Machine
import Samaktha.Runtime.Governance
import Samaktha.Workflow.Graph

/-!
# The workflow engine

`WorkflowEngine.execute` as a machine: one move is one iteration of its loop, with everything
the outside contributes to it in a `Reply` — what the router says to each provider task and
the list of results `run_batch` returns, which may be any list.  `begin` is the part of
`execute` before the loop, and a run has returned once `Loop.result` is set.

`Loop.delivered` and `Loop.dispatched` are ghosts: the results the loop has taken in, and
every task it has handed to the runtime.

Metrics, events and traces are left out, as are the parts of the report that copy results
(`tool_results`, `provider_results`, `worker_information`).  The report sums up retry counts with
`int`, which may raise: then `execute` returns nothing (`Loop.raised`).  The evidence that
completed tools add to the prepared context changes the inside of an object that no
modelled function reads.
-/

namespace Samaktha

inductive ExecutionTruthState where
  | notStarted
  | planned
  | waitingApproval
  | approved
  | executing
  | succeeded
  | failed
  | denied
  | cancelled
  | timedOut
  deriving Repr, DecidableEq, Inhabited

/-- A runtime execution summary. -/
structure ExecutionReport where
  planId : String
  success : Bool
  executionState : ExecutionTruthState := .notStarted
  executedTasks : List String := []
  skippedTasks : List String := []
  approvalStatus : String := "unknown"
  completedTasks : ℕ := 0
  failedTasks : ℕ := 0
  blockedTasks : ℕ := 0
  errors : List String := []
  metadata : Dict String Json := []
  deriving Repr, Inhabited

/-- What `execute` returns. -/
structure WorkflowResult where
  success : Bool
  workflowState : WorkflowState
  outputs : List RuntimeResult := []
  errors : List String := []
  executionReport : ExecutionReport
  deriving Repr, Inhabited

/-- The overrides of one task in a resume; of the dictionary only `"args"` is read. -/
structure ResumeOverrides where
  args : Option Inputs := none
  deriving Repr, Inhabited

structure PendingPause where
  taskId : String
  pause : ExecutionPause
  resumeOverrides : Dict String ResumeOverrides := []
  deriving Repr, Inhabited

namespace Workflow

/-! ## Runtime tasks -/

/-- The items of a dictionary whose keys are all strings. -/
def keywordItems : List (Key × Value) → Option Inputs
  | [] => some []
  | (.str key, value) :: rest => (keywordItems rest).map fun items => (key, value) :: items
  | (.other _ _, _) :: _ => none

/-- `metadata.get("args", {})` as keyword items; `none` where unpacking it, or the data model's
check that keys are strings, raises. -/
def argsOf (metadata : Dict String Value) : Option Inputs :=
  match Dict.get? metadata "args" with
  | none => some []
  | some (.dict kvs) => keywordItems kvs
  | some _ => none

/-- The arguments of a task: its own, the default action of a tool, and the overrides. -/
def taskArgs (task : PlanTask) (overrides : ResumeOverrides) (args : Inputs) : Inputs :=
  let action := (Dict.get? task.metadata "action").filter Value.truthy
  let args :=
    match action with
    | some action =>
        if task.executionActionType = "tool" then Dict.setDefault args "action" action else args
    | none => args
  Dict.update args (overrides.args.getD [])

/-- The inputs of the runtime task of a planned task. -/
def runtimeInputs (plan : ExecutionPlan) (task : PlanTask) (overrides : ResumeOverrides)
    (preparedContext : Option Value) (args : Inputs) : Inputs :=
  let base : Inputs := [
    ("prompt", .str (if task.kind = .executeViaRuntime then plan.rawRequest else task.description)),
    ("plan_task_id", .str task.taskId),
    ("plan_task_kind", .str task.kind.value)]
  let inputs := Dict.update base (taskArgs task overrides args)
  let inputs :=
    match preparedContext with
    | some prepared =>
        if isProviderAction task.executionActionType then
          Dict.set inputs "prepared_context" prepared
        else inputs
    | none => inputs
  match (Dict.get? task.metadata "system_prompt").filter Value.truthy with
  | some systemPrompt => Dict.set inputs "system_prompt" systemPrompt
  | none => inputs

/-- Whether the data model takes the metadata's `agent_id`, a text or nothing. -/
def agentReads (metadata : Dict String Value) : Bool :=
  match Dict.get? metadata "agent_id" with
  | none | some .none | some (.str _) => true
  | some _ => false

/-- The runtime task of a planned task; `none` where building it raises. -/
def runtimeTask (plan : ExecutionPlan) (overrides : Dict String ResumeOverrides)
    (preparedContext : Option Value) (task : PlanTask) : Option RuntimeTask :=
  if task.permitRefused || !agentReads task.metadata then none
  else (argsOf task.metadata).map fun args =>
    { taskId := task.taskId
      title := task.title
      description := task.description
      actionType := task.executionActionType
      inputs := runtimeInputs plan task ((Dict.get? overrides task.taskId).getD {})
        preparedContext args
      dependencies := task.dependencies
      metadata := Dict.update task.metadata [
        ("plan_id", .str plan.planId),
        ("plan_task_id", .str task.taskId),
        ("plan_task_kind", .str task.kind.value)]
      permit := task.permit
      workerRequirement := task.workerRequirement
      preferredWorker := task.preferredWorker }

/-- `_workflow_tasks`; `none` where building one of them raises. -/
def runtimeTasks (plan : ExecutionPlan) (overrides : Dict String ResumeOverrides)
    (preparedContext : Option Value) : List PlanTask → Option (List RuntimeTask)
  | [] => some []
  | task :: rest =>
      match runtimeTask plan overrides preparedContext task with
      | some built => (runtimeTasks plan overrides preparedContext rest).map fun ts => built :: ts
      | none => none

/-- The runtime tasks of a plan by task id; the last task of an id wins. -/
def workflowTasks (plan : ExecutionPlan) (overrides : Dict String ResumeOverrides)
    (preparedContext : Option Value) : Option (Dict String RuntimeTask) :=
  (runtimeTasks plan overrides preparedContext plan.tasks).map fun tasks =>
    Dict.ofList (tasks.map fun task => (task.taskId, task))

/-- The routing of a task that no provider executes. -/
def bypassedRouting (actionType : String) : RoutingDecision where
  providerId := ""
  modelId := ""
  reasoningSummary := "Bypassed provider routing for tool task: " ++ actionType
  metadata := [("bypassed_routing", .bool true)]

/-! ## Reports and returns -/

/-- The decisions under which the tasks of some results were authorized, by task. -/
def authorizationDecisions (results : List RuntimeResult) : Dict String (Option Json) :=
  Dict.ofList ((results.filter fun r =>
    ((Dict.get? r.metadata "permit_id").map Json.truthy).getD false).map fun r =>
      (r.taskId, Dict.get? r.metadata "authorization_decision"))

/-- Whether a decision is `allow`. -/
def isAllow (decision : Option Json) : Bool :=
  match decision.bind Json.str? with
  | some text => text = "allow"
  | none => false

/-- The report's approval status. -/
def approvalStatus (state : WorkflowState) : String :=
  let decisions := (authorizationDecisions state.results).map Prod.snd
  match state.status with
  | .paused => "waiting_approval"
  | .completed => if !decisions.isEmpty && decisions.all isAllow then "approved" else "unknown"
  | .failed =>
      if (decisions.any fun d => !isAllow d)
          || state.errors.any fun e => Text.contains (Text.lower e) "approval" then "blocked"
      else "approved"
  | .running => "approved"
  | _ => "unknown"

/-- Whether `int(metadata.get("retry_count", 0) or 0)` is a number. -/
def countable (result : RuntimeResult) : Bool :=
  match Dict.get? result.metadata "retry_count" with
  | none => true
  | some count => !count.truthy || (Json.toInt Text.digitValue count).toBool

def executionReport (planId : String) (state : WorkflowState) (blockedTasks : ℕ) :
    ExecutionReport where
  planId := planId
  success := state.status = .completed
  executionState :=
    match state.status with
    | .paused => .waitingApproval
    | .completed => .succeeded
    | .failed => .failed
    | .running => .executing
    | _ => .planned
  executedTasks := (state.results.filter fun r =>
    (Dict.get? r.metadata "internal_workflow_task").isNone
      && (r.status = .completed || r.status = .failed)).map RuntimeResult.taskId
  skippedTasks :=
    (state.results.filter fun r => r.status = .blockedByDependency).map RuntimeResult.taskId
  approvalStatus := approvalStatus state
  completedTasks := state.completedSteps
  failedTasks := (state.results.filter fun r => r.status = .failed).length
  blockedTasks := blockedTasks
  errors := state.errors
  metadata := [("workflow_id", .str state.workflowId), ("total_steps", .int state.totalSteps)]

def failWorkflow (planId : String) (state : WorkflowState) (error : String) : WorkflowResult :=
  let state := { state with status := .failed, errors := state.errors ++ [error] }
  { success := false
    workflowState := state
    outputs := []
    errors := state.errors
    executionReport := executionReport planId state 0 }

/-- The loop's variables. -/
structure Loop where
  state : WorkflowState
  /-- `scheduler.completed_task_ids` -/
  completed : List String := []
  /-- `scheduler.failed_task_ids` -/
  failed : List String := []
  /-- The pauses the pause manager holds, by plan. -/
  pauses : Dict String PendingPause := []
  outputs : List RuntimeResult := []
  delivered : List RuntimeResult := []
  dispatched : List RuntimeTask := []
  result : Option WorkflowResult := none
  raised : Bool := false
  deriving Inhabited

/-- The report is built last of all; where it cannot be, `execute` raises instead of returning. -/
def reported (loop : Loop) : Loop :=
  if loop.result.isSome && !loop.state.results.all countable then
    { loop with result := none, raised := true }
  else loop

/-- What one iteration receives from outside. -/
structure Reply where
  /-- The router's answer for a provider task, or the text of what it raised. -/
  route : RuntimeTask → Except String RoutingDecision
  /-- What `run_batch` returns. -/
  results : List RuntimeResult
  deriving Inhabited

/-! ## One iteration -/

variable (plan : ExecutionPlan)

def graphOf : ExecutionGraph :=
  ⟨plan.tasks, plan.tasks.map fun task => (task.taskId, task.dependencies)⟩

/-- `scheduler.is_finished`. -/
def isFinished (loop : Loop) : Bool :=
  let blocked := (graphOf plan).getBlockedTasks loop.failed
  plan.tasks.length ≤ (loop.completed ++ loop.failed ++ blocked.map PlanTask.taskId).dedup.length

/-- `scheduler.get_next_batch`. -/
def nextBatch (loop : Loop) : List PlanTask :=
  (graphOf plan).getReadyTasks loop.completed loop.failed

def internalResult (task : PlanTask) : RuntimeResult where
  taskId := task.taskId
  status := .completed
  metadata := [("internal_workflow_task", .str task.kind.value)]

/-- An internal task is done by reaching it. -/
def takeInternal (loop : Loop) (task : PlanTask) : Loop :=
  { loop with
    state := { loop.state with
      results := loop.state.results ++ [internalResult task]
      currentStep := loop.state.currentStep + 1
      completedSteps := loop.state.completedSteps + 1 }
    completed := loop.completed.insert task.taskId }

def returnPaused (loop : Loop) (result : RuntimeResult) : Loop :=
  let state := { loop.state with status := .paused }
  { loop with
    state := state
    pauses :=
      match result.pause with
      | some pause => Dict.set loop.pauses plan.planId { taskId := result.taskId, pause := pause }
      | none => loop.pauses
    result := some {
      success := false
      workflowState := state
      outputs := loop.outputs
      errors := state.errors
      executionReport := executionReport plan.planId state
        ((graphOf plan).getBlockedTasks loop.failed).length } }

/-- What is recorded for every result. -/
def record (loop : Loop) (result : RuntimeResult) : Loop :=
  { loop with
    outputs := loop.outputs ++ [result]
    delivered := loop.delivered ++ [result]
    state := { loop.state with
      results := loop.state.results ++ [result]
      currentStep := loop.state.currentStep + 1 } }

def markCompleted (loop : Loop) (result : RuntimeResult) : Loop :=
  { loop with
    state := { loop.state with
      completedSteps := loop.state.completedSteps + 1
      completedTaskIds := loop.state.completedTaskIds.insert result.taskId }
    completed := loop.completed.insert result.taskId }

/-- A result that is neither completed nor paused. -/
def markFailed (loop : Loop) (result : RuntimeResult) : Loop :=
  { loop with
    state := { loop.state with
      failedStep := some loop.state.currentStep
      failedTaskIds := loop.state.failedTaskIds.insert result.taskId
      errors :=
        match result.error with
        | some error => if error = "" then loop.state.errors else loop.state.errors ++ [error]
        | none => loop.state.errors }
    failed := loop.failed.insert result.taskId }

/-- The loop over a batch's results: it returns at the first one that is paused. -/
def takeResults (loop : Loop) : List RuntimeResult → Loop
  | [] => loop
  | result :: rest =>
      let loop := record loop result
      if result.status = .completed then takeResults (markCompleted loop result) rest
      else if result.status = .paused then returnPaused plan loop result
      else takeResults (markFailed loop result) rest

def routeTask (reply : Reply) (task : RuntimeTask) : Except String RoutingDecision :=
  if isProviderAction task.actionType then reply.route task
  else .ok (bypassedRouting task.actionType)

/-- The results of the tasks whose routing raised, in batch order. -/
def routingFailures (reply : Reply) (batch : List RuntimeTask) : List RuntimeResult :=
  batch.filterMap fun task =>
    match routeTask reply task with
    | .error text => some {
        taskId := task.taskId, status := .failed, error := some ("Routing failed: " ++ text) }
    | .ok _ => none

/-- The tasks handed to `run_batch`. -/
def routedTasks (reply : Reply) (batch : List RuntimeTask) : List RuntimeTask :=
  batch.filter fun task => (routeTask reply task).toBool

/-- The results of a batch: routing failures first, then what the runtime returns for the
tasks it was handed. -/
def batchResults (reply : Reply) (batch : List RuntimeTask) : List RuntimeResult :=
  routingFailures reply batch ++ if (routedTasks reply batch).isEmpty then [] else reply.results

/-- After the loop: blocked results, the verdict, the report. -/
def conclude (loop : Loop) : Loop :=
  let blockedTasks := (graphOf plan).getBlockedTasks loop.failed
  let blockedResults := blockedTasks.map fun task : PlanTask =>
    ({ taskId := task.taskId, status := .blockedByDependency,
       error := some "Blocked by dependency failure" } : RuntimeResult)
  let isSuccess := loop.failed.isEmpty && blockedTasks.isEmpty
  let state := { loop.state with
    results := loop.state.results ++ blockedResults
    currentStep := loop.state.currentStep + blockedResults.length
    status := if isSuccess then .completed else .failed }
  { loop with
    state := state
    outputs := loop.outputs ++ blockedResults
    result := some {
      success := isSuccess
      workflowState := state
      outputs := loop.outputs ++ blockedResults
      errors := state.errors
      executionReport := executionReport plan.planId state blockedTasks.length } }

/-- The runtime tasks of the next batch. -/
def runtimeBatch (tasks : Dict String RuntimeTask) (loop : Loop) : List RuntimeTask :=
  ((nextBatch plan loop).filter fun task => task.kind = .executeViaRuntime).filterMap
    fun task => Dict.get? tasks task.taskId

/-- The part of an iteration that runs the runtime tasks of a batch. -/
def runBatch (loop : Loop) (batch : List RuntimeTask) (reply : Reply) : Loop :=
  if batch.isEmpty then loop
  else
    takeResults plan { loop with dispatched := loop.dispatched ++ routedTasks reply batch }
      (batchResults reply batch)

/-- The internal tasks of the next batch, done. -/
def runInternal (loop : Loop) : Loop :=
  ((nextBatch plan loop).filter fun task => task.kind ≠ .executeViaRuntime).foldl takeInternal loop

/-- One iteration of the loop, or the return from it. -/
def iterate (tasks : Dict String RuntimeTask) (loop : Loop) (reply : Reply) : Option Loop :=
  if loop.result.isSome || loop.raised then none
  else if isFinished plan loop then some (reported (conclude plan loop))
  else if (nextBatch plan loop).isEmpty then
    let failed := failWorkflow plan.planId loop.state
      "Scheduling failure: deadlocked or unresolved dependencies."
    some (reported { loop with state := failed.workflowState, result := some failed })
  else some (reported (runBatch plan (runInternal plan loop) (runtimeBatch plan tasks loop) reply))

/-- The state `execute` starts from. -/
def initialState (resume : Option WorkflowState) : WorkflowState :=
  match resume with
  | some state => { state with status := .running }
  | none =>
      { workflowId := plan.planId, status := .running, totalSteps := plan.tasks.length }

/-- `execute` up to its loop. -/
def start (resume : Option WorkflowState) (pauses : Dict String PendingPause) : Loop :=
  let state := initialState plan resume
  let failed (error : String) : Loop :=
    let result := failWorkflow plan.planId state error
    reported { state := result.workflowState, pauses := pauses, result := some result }
  if plan.tasks.isEmpty then failed "No workflow tasks were produced for execution."
  else if (graphOf plan).detectCycles then failed "Cycle detected in execution plan dependencies."
  else
    { state := state
      completed := state.completedTaskIds
      failed := state.failedTaskIds
      pauses := Dict.erase pauses plan.planId }

/-- The overrides a pending pause leaves for the next call. -/
def pendingOverrides (pauses : Dict String PendingPause) : Dict String ResumeOverrides :=
  ((Dict.get? pauses plan.planId).map PendingPause.resumeOverrides).getD []

/-- The loop of one call of `execute`, as a machine. -/
def machine (tasks : Dict String RuntimeTask) : Machine Loop Reply := ⟨iterate plan tasks⟩

/-- One call of `execute` receives some replies and stands at `loop`. -/
def Reaches (resume : Option WorkflowState) (pauses : Dict String PendingPause)
    (preparedContext : Option Value) (replies : List Reply) (loop : Loop) : Prop :=
  ∃ tasks, workflowTasks plan (pendingOverrides plan pauses) preparedContext = some tasks ∧
    (machine plan tasks).run (start plan resume pauses) replies = some loop

end Workflow

end Samaktha
