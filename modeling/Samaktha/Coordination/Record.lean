import Samaktha.Runtime.Checkpoint
import Samaktha.Runtime.Engine
import Samaktha.Workflow.Engine

/-!
# The coordinator's record of an execution

`ExecutionCoordinator` owns one `_ActiveExecution` for each execution.  This module has the
record, the snapshot that is taken of it for the checkpoint store, and the coordinator's
synchronous functions on it: every one of them runs to its end, or to the first exception,
with what it has changed so far left changed.  That is `Ran`: the record and the world after a
stretch of code, with the text of the exception that left it, if one did.

The world is whatever stands behind the checkpoint store and the evidence store, of any type; a
save is accepted, rejected with a `CheckpointError`, which `_save_checkpoint` swallows, or raises
something else, which it does not (the dump of the record raises outside its `try`, too).
Recording evidence may raise, and nothing catches that.

Events and traces are left out, and so are the coordinator's other records.
-/

namespace Samaktha

/-! ## Dumps -/

/-- `model_dump` of a permit, dates as seconds. -/
def ExecutionPermit.modelDump (permit : ExecutionPermit) : Json := .obj [
  ("permit_id", .str permit.permitId),
  ("action_id", .str permit.actionId),
  ("subject_id", .str permit.subjectId),
  ("session_id", .ofText? permit.sessionId),
  ("workspace_id", .ofText? permit.workspaceId),
  ("action_type", .str permit.actionType),
  ("target", .ofText? permit.target),
  ("operation_digest", .str permit.operationDigest),
  ("required_permissions", .arr (permit.requiredPermissions.map fun s => .str s.value)),
  ("risk", .str permit.risk.value),
  ("constraints", permit.constraints.modelDump),
  ("policy_reference", .str permit.policyReference),
  ("approval_source", .str permit.approvalSource),
  ("issued_at", .int permit.issuedAt),
  ("expires_at", .int permit.expiresAt),
  ("decision", .str permit.decision.value),
  ("reasons", .arr (permit.reasons.map .str)),
  ("issued_by", .str permit.issuedBy),
  ("integrity_digest", .str permit.integrityDigest)]

/-- `model_dump(mode="json")` of a planned task. -/
def PlanTask.modelDump (task : PlanTask) : Json :=
  let metadata := Dict.mapValues Value.toJson task.metadata
  .obj [
    ("task_id", .str task.taskId),
    ("title", .str task.title),
    ("kind", .str task.kind.value),
    ("description", .str task.description),
    ("dependencies", .arr (task.dependencies.map .str)),
    ("execution_action_type", .str task.executionActionType),
    ("metadata", .obj (match task.permit with
      | some permit => Dict.set metadata "permit" permit.modelDump
      | none => metadata))]

/-- `model_dump(mode="json")` of a plan. -/
def ExecutionPlan.modelDump (plan : ExecutionPlan) : Json := .obj [
  ("plan_id", .str plan.planId),
  ("goal", .obj [("raw_request", .str plan.rawRequest)]),
  ("tasks", .arr (plan.tasks.map PlanTask.modelDump))]

/-- `model_dump(mode="json")` of a workflow state. -/
def WorkflowState.modelDump (state : WorkflowState) : Json := .obj [
  ("workflow_id", .str state.workflowId),
  ("status", .str state.status.value),
  ("current_step", .int state.currentStep),
  ("total_steps", .int state.totalSteps),
  ("completed_steps", .int state.completedSteps),
  ("failed_step", match state.failedStep with | some step => .int step | none => .null),
  ("results", .arr (state.results.map RuntimeResult.modelDump)),
  ("completed_task_ids", .arr (state.completedTaskIds.map .str)),
  ("failed_task_ids", .arr (state.failedTaskIds.map .str)),
  ("errors", .arr (state.errors.map .str))]

def ExecutionTruthState.value : ExecutionTruthState → String
  | notStarted => "not_started"
  | planned => "planned"
  | waitingApproval => "waiting_approval"
  | approved => "approved"
  | executing => "executing"
  | succeeded => "succeeded"
  | failed => "failed"
  | denied => "denied"
  | cancelled => "cancelled"
  | timedOut => "timed_out"

def ExecutionReport.modelDump (report : ExecutionReport) : Json := .obj [
  ("plan_id", .str report.planId),
  ("success", .bool report.success),
  ("execution_state", .str report.executionState.value),
  ("executed_tasks", .arr (report.executedTasks.map .str)),
  ("skipped_tasks", .arr (report.skippedTasks.map .str)),
  ("approval_status", .str report.approvalStatus),
  ("completed_tasks", .int report.completedTasks),
  ("failed_tasks", .int report.failedTasks),
  ("blocked_tasks", .int report.blockedTasks),
  ("errors", .arr (report.errors.map .str)),
  ("metadata", .obj report.metadata)]

/-- `model_dump(mode="json")` of an execution state. -/
def ExecutionState.modelDump (state : ExecutionState) : Dict String Json := [
  ("execution_id", .str state.executionId),
  ("status", .str state.status.value),
  ("principal_id", .ofText? state.principalId),
  ("session_id", .ofText? state.sessionId),
  ("request", .ofText? state.request),
  ("pending_approval_id", .ofText? state.pendingApprovalId),
  ("pending_task_id", .ofText? state.pendingTaskId),
  ("result_available", .bool state.resultAvailable),
  ("error", .ofText? state.error),
  ("completed_tasks", .arr (state.completedTasks.map .str)),
  ("failed_tasks", .arr (state.failedTasks.map .str)),
  ("metadata", .obj state.metadata)]

/-! ## The record -/

/-- State captured while the orchestrator coordinates one request; the fields the coordinator
does not read are kept as their dumps. -/
structure PipelineState where
  request : String
  executionPlan : Option ExecutionPlan := none
  runtimeResult : Option RuntimeResult := none
  executionReport : Option ExecutionReport := none
  workflowState : Option WorkflowState := none
  rest : Dict String Json := []
  deriving Inhabited

/-- `model_dump(mode="json")` of a pipeline state. -/
def PipelineState.modelDump (pipeline : PipelineState) : Dict String Json :=
  Dict.update pipeline.rest [
    ("request", .str pipeline.request),
    ("execution_plan", (pipeline.executionPlan.map ExecutionPlan.modelDump).getD .null),
    ("runtime_result", (pipeline.runtimeResult.map RuntimeResult.modelDump).getD .null),
    ("execution_report", (pipeline.executionReport.map ExecutionReport.modelDump).getD .null),
    ("workflow_state", (pipeline.workflowState.map WorkflowState.modelDump).getD .null)]

/-- `_ActiveExecution`, its task and its events aside. -/
structure ActiveExecution where
  state : ExecutionState
  conversation : Option (List Json) := none
  pipelineState : Option PipelineState := none
  resolvedApprovals : List String := []
  cancelEvent : Bool := false
  failureException : Option String := none
  checkpointGeneration : ℕ := 0
  operationOutcomes : Dict String String := []
  operationResults : Dict String Json := []
  retryAttempts : Dict String ℤ := []
  recovered : Bool := false
  deriving Inhabited

/-- What a call of the store's `save_checkpoint` comes to. -/
inductive SaveOutcome where
  | saved
  /-- A `CheckpointError`. -/
  | rejected
  /-- Any other exception. -/
  | raised (exception : String)
  deriving Repr, DecidableEq, Inhabited

inductive EvidenceType where
  | executionCreated
  | executionStateChanged (fromStatus : ExecutionStatus) (error : Option String)
  | approvalRequested
  | approvalResolved (approvalId decision : String)
  | executionDenied
  | executionTimedOut
  | executionCancelled
  deriving Repr, DecidableEq, Inhabited

/-- The coordinator's collaborators. -/
structure Coordinator (κ : Type) where
  /-- `save_checkpoint` on the world behind the store, where there is a store. -/
  save : Option (κ → RecoveryCheckpoint → κ × SaveOutcome) := none
  /-- Recording evidence of a state, where it is recorded; the text is what is raised. -/
  evidence : Option (κ → EvidenceType → ExecutionState → κ × Option String) := none
  /-- `str` of a list or a dictionary. -/
  textOfContainer : Json → String

/-- A coordinator without a store and without evidence. -/
def storeless : Coordinator Unit where
  textOfContainer _ := ""

/-- The record and the world after a stretch of the coordinator's code, and the exception that
left it, if one did. -/
structure Ran (κ : Type) where
  record : ActiveExecution
  world : κ
  raised : Option String := none

namespace Ran

variable {κ : Type}

/-- What follows a stretch of code runs where that stretch raised nothing. -/
def andThen (ran : Ran κ) (next : ActiveExecution → κ → Ran κ) : Ran κ :=
  match ran.raised with
  | none => next ran.record ran.world
  | some _ => ran

/-- `except Exception as exc`. -/
def handle (ran : Ran κ) (handler : String → ActiveExecution → κ → Ran κ) : Ran κ :=
  match ran.raised with
  | none => ran
  | some exception => handler exception ran.record ran.world

@[simp] lemma andThen_of_none {ran : Ran κ} (h : ran.raised = none)
    (next : ActiveExecution → κ → Ran κ) : ran.andThen next = next ran.record ran.world := by
  simp [andThen, h]

@[simp] lemma andThen_of_some {ran : Ran κ} {exception : String} (h : ran.raised = some exception)
    (next : ActiveExecution → κ → Ran κ) : ran.andThen next = ran := by
  simp [andThen, h]

@[simp] lemma handle_of_none {ran : Ran κ} (h : ran.raised = none)
    (handler : String → ActiveExecution → κ → Ran κ) : ran.handle handler = ran := by
  simp [handle, h]

@[simp] lemma handle_of_some {ran : Ran κ} {exception : String} (h : ran.raised = some exception)
    (handler : String → ActiveExecution → κ → Ran κ) :
    ran.handle handler = handler exception ran.record ran.world := by
  simp [handle, h]

lemma andThen_record {P : ActiveExecution → Prop} {ran : Ran κ}
    {next : ActiveExecution → κ → Ran κ} (h : P ran.record)
    (hnext : ∀ record world, P record → P (next record world).record) :
    P (ran.andThen next).record := by
  cases hraised : ran.raised with
  | none => rw [andThen_of_none hraised]; exact hnext _ _ h
  | some exception => rw [andThen_of_some hraised]; exact h

end Ran

namespace Coordinator

variable {κ : Type} (coordinator : Coordinator κ)

/-- The snapshot `_save_checkpoint` takes of a record. -/
def snapshot (record : ActiveExecution) (generation : ℕ) (recoverySafe : Bool) :
    RecoveryCheckpoint where
  generation := (generation : ℤ) + 1
  executionId := record.state.executionId
  principalId := record.state.principalId.getD ""
  sessionId := record.state.sessionId.getD ""
  executionState := record.state.modelDump
  pipelineState := record.pipelineState.map PipelineState.modelDump
  conversation := record.conversation.filter fun items => !items.isEmpty
  resolvedApprovalIds := record.resolvedApprovals.insertionSort fun a b => a ≤ b
  operationOutcomes := record.operationOutcomes
  operationResults := record.operationResults
  retryAttempts := record.retryAttempts
  recoverySafe := recoverySafe
  generation_pos := one_le_generation generation

def saveCheckpoint (record : ActiveExecution) (world : κ) (recoverySafe : Bool := false) : Ran κ :=
  match coordinator.save with
  | none => { record := record, world := world }
  | some save =>
      let saved := save world (snapshot record record.checkpointGeneration recoverySafe)
      { record := { record with checkpointGeneration := record.checkpointGeneration + 1 }
        world := saved.1
        raised := match saved.2 with | .raised exception => some exception | _ => none }

section Save

variable (record : ActiveExecution) (world : κ) (recoverySafe : Bool)

@[simp] lemma saveCheckpoint_state :
    (coordinator.saveCheckpoint record world recoverySafe).record.state = record.state := by
  unfold saveCheckpoint
  split <;> rfl

@[simp] lemma saveCheckpoint_pipelineState :
    (coordinator.saveCheckpoint record world recoverySafe).record.pipelineState =
      record.pipelineState := by
  unfold saveCheckpoint
  split <;> rfl

@[simp] lemma saveCheckpoint_resolvedApprovals :
    (coordinator.saveCheckpoint record world recoverySafe).record.resolvedApprovals =
      record.resolvedApprovals := by
  unfold saveCheckpoint
  split <;> rfl

end Save

/-- A stretch of code with the evidence behind it, which may raise. -/
def recorded (ran : Ran κ) (evidence : EvidenceType) : Ran κ :=
  ran.andThen fun record world =>
    match coordinator.evidence with
    | none => { record := record, world := world }
    | some recorder =>
        let said := recorder world evidence record.state
        { record := record, world := said.1, raised := said.2 }

@[simp] lemma recorded_record (ran : Ran κ) (evidence : EvidenceType) :
    (coordinator.recorded ran evidence).record = ran.record := by
  unfold recorded Ran.andThen
  split
  · split <;> rfl
  · rfl

def transition (record : ActiveExecution) (world : κ) (status : ExecutionStatus)
    (error : Option String := none) : Ran κ :=
  match record.state.transition status error with
  | .error message => { record := record, world := world, raised := some message }
  | .ok state =>
      coordinator.recorded
        (coordinator.saveCheckpoint { record with state := state } world (status = .planning))
        (.executionStateChanged record.state.status error)

lemma transition_of_mem {record : ActiveExecution} {status : ExecutionStatus}
    (hmem : status ∈ record.state.status.publicTransitions) (hne : status ≠ record.state.status)
    (world : κ) (error : Option String) :
    coordinator.transition record world status error =
      coordinator.recorded
        (coordinator.saveCheckpoint
          { record with state :=
              { record.state with status := status, error := error <|> record.state.error } }
          world (status = .planning))
        (.executionStateChanged record.state.status error) := by
  rw [transition, ExecutionState.transition_of_mem hmem hne]

@[simp] lemma transition_pipelineState (record : ActiveExecution) (world : κ)
    (status : ExecutionStatus) (error : Option String) :
    (coordinator.transition record world status error).record.pipelineState =
      record.pipelineState := by
  unfold transition
  split
  · rfl
  · rw [recorded_record, saveCheckpoint_pipelineState]

/-! ### Reliability -/

/-- The truth state of a terminal status. -/
def truthState : ExecutionStatus → ExecutionTruthState
  | .denied => .denied
  | .cancelled => .cancelled
  | .timedOut => .timedOut
  | _ => .failed

/-- The operation outcome that a result reports, written into the record. -/
def noteOutcome (record : ActiveExecution) (result : RuntimeResult) : ActiveExecution :=
  let operationId := (Dict.get? result.metadata "operation_id").filter Json.truthy
  let outcome := (Dict.get? result.metadata "operation_outcome").filter Json.truthy
  match operationId, outcome with
  | some operationId, some outcome =>
      let id := operationId.text coordinator.textOfContainer
      let text := outcome.text coordinator.textOfContainer
      { record with operationOutcomes := Dict.set record.operationOutcomes id text }
  | _, _ => record

/-- The loop of `_capture_workflow_reliability`; the text is what `int` raised. -/
def captureResults (record : ActiveExecution) : List RuntimeResult → ActiveExecution × Option String
  | [] => (record, none)
  | result :: rest =>
      let record := coordinator.noteOutcome record result
      match Dict.get? result.metadata "retry_count" with
      | none | some .null => captureResults record rest
      | some retryCount =>
          match Json.toInt Text.digitValue retryCount with
          | .error _ => (record, some "int() raised")
          | .ok count =>
              captureResults
                { record with
                  retryAttempts := Dict.set record.retryAttempts result.taskId (count + 1) } rest

def captureWorkflowReliability (record : ActiveExecution) (world : κ) (pipeline : PipelineState) :
    Ran κ :=
  match pipeline.workflowState with
  | none => { record := record, world := world }
  | some workflow =>
      let record := { record with state := { record.state with
        completedTasks := workflow.completedTaskIds, failedTasks := workflow.failedTaskIds } }
      let captured := coordinator.captureResults record workflow.results
      { record := captured.1, world := world, raised := captured.2 }

def setTerminalResult (record : ActiveExecution) (status : ExecutionStatus) (error : String)
    (preserveRuntimeResult : Bool := false) : ActiveExecution :=
  let planId := ((record.pipelineState.bind PipelineState.executionPlan).map
    ExecutionPlan.planId).getD record.state.executionId
  let report : ExecutionReport := {
    planId := planId
    success := false
    executionState := truthState status
    approvalStatus := status.value
    errors := [error]
    metadata := [("execution_id", .str record.state.executionId),
      ("lifecycle_status", .str status.value)] }
  let pipeline := record.pipelineState.getD { request := record.state.request.getD "" }
  let kept := if preserveRuntimeResult then pipeline.runtimeResult else none
  let result : RuntimeResult := kept.getD {
    taskId := orText record.state.pendingTaskId record.state.executionId
    status := if status = .cancelled then .cancelled else .failed
    error := some error }
  let result := { result with
    metadata := Dict.update result.metadata [
      ("execution_report", report.modelDump), ("execution_id", .str record.state.executionId)] }
  { record with
    pipelineState := some
      { pipeline with runtimeResult := some result, executionReport := some report }
    state := { record.state with resultAvailable := true } }

/-- Whether `int` accepts the retry count of a result, if it has one. -/
def Readable (result : RuntimeResult) : Prop :=
  match Dict.get? result.metadata "retry_count" with
  | none | some .null => True
  | some retryCount => (Json.toInt Text.digitValue retryCount).toBool = true

/-- The two records have the same public state, pipeline state and resolved approvals. -/
structure SamePublic (record record' : ActiveExecution) : Prop where
  state : record'.state = record.state
  pipelineState : record'.pipelineState = record.pipelineState
  resolvedApprovals : record'.resolvedApprovals = record.resolvedApprovals

lemma SamePublic.trans {a b c : ActiveExecution} (h : SamePublic a b) (h' : SamePublic b c) :
    SamePublic a c :=
  ⟨h'.state.trans h.state, h'.pipelineState.trans h.pipelineState,
    h'.resolvedApprovals.trans h.resolvedApprovals⟩

lemma samePublic_noteOutcome (record : ActiveExecution) (result : RuntimeResult) :
    SamePublic record (coordinator.noteOutcome record result) := by
  unfold noteOutcome
  dsimp only
  split <;> exact ⟨rfl, rfl, rfl⟩

/-- Reading the results raises exactly if one of them is unreadable. -/
lemma captureResults_spec (record : ActiveExecution) (results : List RuntimeResult) :
    ((coordinator.captureResults record results).2 = none ↔
      ∀ r ∈ results, Readable r) ∧
    SamePublic record (coordinator.captureResults record results).1 := by
  induction results generalizing record with
  | nil =>
      constructor
      · simp [captureResults]
      · exact ⟨rfl, rfl, rfl⟩
  | cons result rest ih =>
      have hnoted := samePublic_noteOutcome coordinator record result
      have hall : (∀ r ∈ result :: rest, Readable r) ↔
          Readable result ∧ ∀ r ∈ rest, Readable r := List.forall_mem_cons
      rw [captureResults, hall, Readable]
      split
      · exact ⟨by simp [ih], hnoted.trans (ih _).2⟩
      · exact ⟨by simp [ih], hnoted.trans (ih _).2⟩
      · split
        · rename_i hint
          exact ⟨by simp [hint, Except.toBool], hnoted⟩
        · rename_i count hint
          refine ⟨by simp [ih, hint, Except.toBool], hnoted.trans ?_⟩
          exact ⟨(ih _).2.state, (ih _).2.pipelineState, (ih _).2.resolvedApprovals⟩

/-! ### Settling a pipeline -/

/-- The part of `_settle_pipeline` for a result that is not paused. -/
def settleResult (record : ActiveExecution) (world : κ) (result : Option RuntimeResult) : Ran κ :=
  let record := { record with state := { record.state with
    pendingApprovalId := none, pendingTaskId := none, resultAvailable := result.isSome } }
  let settled : Ran κ :=
    match result with
    | some result =>
        if result.status = .completed then coordinator.transition record world .completed
        else if result.status = .cancelled then coordinator.transition record world .cancelled
        else coordinator.transition record world .failed result.error
    | none => coordinator.transition record world .failed (some "Pipeline produced no result.")
  settled.andThen fun record world => coordinator.saveCheckpoint record world

def settlePipeline (record : ActiveExecution) (world : κ) (pipeline : PipelineState) : Ran κ :=
  (coordinator.captureWorkflowReliability record world pipeline).andThen fun record world =>
    match pipeline.runtimeResult with
    | some result =>
        if result.status = .paused then
          let record := { record with state := { record.state with
            pendingApprovalId := some result.taskId, pendingTaskId := some result.taskId } }
          coordinator.recorded
            ((coordinator.transition record world .awaitingApproval).andThen fun record world =>
              coordinator.saveCheckpoint record world) .approvalRequested
        else coordinator.settleResult record world (some result)
    | none => coordinator.settleResult record world none

/-- The status that a pipeline's result leads to. -/
def settledStatus : Option RuntimeResult → ExecutionStatus
  | some result =>
      if result.status = .paused then .awaitingApproval
      else if result.status = .completed then .completed
      else if result.status = .cancelled then .cancelled
      else .failed
  | none => .failed

lemma transition_andThen_save {record : ActiveExecution} {status : ExecutionStatus}
    (hmem : status ∈ record.state.status.publicTransitions) (hne : status ≠ record.state.status)
    (world : κ) (error : Option String) :
    ((coordinator.transition record world status error).andThen fun record world =>
      coordinator.saveCheckpoint record world).record.state =
        { record.state with status := status, error := error <|> record.state.error } := by
  have hmoved : (coordinator.transition record world status error).record.state =
      { record.state with status := status, error := error <|> record.state.error } := by
    rw [transition_of_mem coordinator hmem hne, recorded_record, saveCheckpoint_state]
  exact Ran.andThen_record (P := fun r => r.state = _) hmoved fun r world h => by
    rw [saveCheckpoint_state, h]

lemma captureWorkflowReliability_spec (record : ActiveExecution) (world : κ)
    {pipeline : PipelineState} {workflow : WorkflowState}
    (hworkflow : pipeline.workflowState = some workflow) :
    ((coordinator.captureWorkflowReliability record world pipeline).raised = none ↔
      ∀ r ∈ workflow.results, Readable r) ∧
    SamePublic { record with state := { record.state with
        completedTasks := workflow.completedTaskIds, failedTasks := workflow.failedTaskIds } }
      (coordinator.captureWorkflowReliability record world pipeline).record := by
  unfold captureWorkflowReliability
  rw [hworkflow]
  exact coordinator.captureResults_spec _ _

lemma settledStatus_spec (result : Option RuntimeResult) :
    settledStatus result ∈ ExecutionStatus.running.publicTransitions ∧
      settledStatus result ≠ .running := by
  unfold settledStatus
  split
  · split
    · decide
    · split
      · decide
      · split <;> decide
  · decide

/-- A result that is not paused takes the execution to its status, and a checkpoint is written. -/
lemma settleResult_eq (record : ActiveExecution) (world : κ) {result : Option RuntimeResult}
    (hopen : ∀ r, result = some r → r.status ≠ .paused) :
    ∃ error, coordinator.settleResult record world result =
      (coordinator.transition { record with state := { record.state with
          pendingApprovalId := none, pendingTaskId := none, resultAvailable := result.isSome } }
        world (settledStatus result) error).andThen fun record world =>
          coordinator.saveCheckpoint record world := by
  unfold settleResult
  cases result with
  | none => exact ⟨_, rfl⟩
  | some result =>
      have hpaused : result.status ≠ .paused := hopen result rfl
      simp only [settledStatus, if_neg hpaused]
      split
      · exact ⟨_, rfl⟩
      · split
        · exact ⟨_, rfl⟩
        · exact ⟨_, rfl⟩

lemma status_settleResult {record : ActiveExecution} (hrunning : record.state.status = .running)
    (world : κ) {result : Option RuntimeResult}
    (hopen : ∀ r, result = some r → r.status ≠ .paused) :
    (coordinator.settleResult record world result).record.state.status = settledStatus result := by
  obtain ⟨error, heq⟩ := coordinator.settleResult_eq record world hopen
  obtain ⟨hmem, hne⟩ := settledStatus_spec result
  rw [heq, transition_andThen_save]
  · exact hrunning ▸ hmem
  · exact hrunning ▸ hne

/-- From `running`, a pipeline whose results are readable is settled as its result says; one with
an unreadable result is not settled. -/
lemma status_settlePipeline (record : ActiveExecution) (world : κ) (pipeline : PipelineState)
    (hrunning : record.state.status = .running) {workflow : WorkflowState}
    (hworkflow : pipeline.workflowState = some workflow) :
    ((∀ r ∈ workflow.results, Readable r) →
      (coordinator.settlePipeline record world pipeline).record.state.status =
        settledStatus pipeline.runtimeResult) ∧
    ((¬ ∀ r ∈ workflow.results, Readable r) →
      (coordinator.settlePipeline record world pipeline).record.state.status = .running) := by
  obtain ⟨hraised, hsame⟩ := coordinator.captureWorkflowReliability_spec record world hworkflow
  have hstatus : (coordinator.captureWorkflowReliability record world pipeline).record.state.status
      = .running := by
    rw [hsame.state]
    exact hrunning
  unfold settlePipeline
  constructor
  · intro hreadable
    rw [Ran.andThen_of_none (hraised.mpr hreadable)]
    cases hresult : pipeline.runtimeResult with
    | none => exact coordinator.status_settleResult hstatus _ (by simp)
    | some result =>
        by_cases hpaused : result.status = .paused
        · simp only [settledStatus, if_pos hpaused, recorded_record]
          rw [transition_andThen_save]
          · exact hstatus ▸ by decide
          · exact hstatus ▸ by decide
        · simp only [if_neg hpaused]
          refine coordinator.status_settleResult hstatus _ fun r hr => ?_
          obtain rfl := Option.some.inj hr
          exact hpaused
  · intro hunreadable
    cases hnone : (coordinator.captureWorkflowReliability record world pipeline).raised with
    | none => exact absurd (hraised.mp hnone) hunreadable
    | some exception => rw [Ran.andThen_of_some hnone, hstatus]

lemma settlePipeline_pipelineState (record : ActiveExecution) (world : κ)
    (pipeline : PipelineState) :
    (coordinator.settlePipeline record world pipeline).record.pipelineState =
      record.pipelineState := by
  have hsave : ∀ (r : ActiveExecution) (world : κ), r.pipelineState = record.pipelineState →
      (coordinator.saveCheckpoint r world).record.pipelineState = record.pipelineState := by
    intro r world h
    rw [saveCheckpoint_pipelineState, h]
  have hresult : ∀ (r : ActiveExecution) (world : κ) (result : Option RuntimeResult),
      r.pipelineState = record.pipelineState →
      (coordinator.settleResult r world result).record.pipelineState = record.pipelineState := by
    intro r world result h
    unfold settleResult
    refine Ran.andThen_record (P := fun r => r.pipelineState = record.pipelineState) ?_ hsave
    cases result with
    | none => rw [transition_pipelineState, h]
    | some result =>
        dsimp only
        split
        · rw [transition_pipelineState, h]
        · split <;> rw [transition_pipelineState, h]
  unfold settlePipeline
  refine Ran.andThen_record (P := fun r => r.pipelineState = record.pipelineState) ?_ ?_
  · unfold captureWorkflowReliability
    split
    · rfl
    · rename_i workflow hworkflow
      exact (coordinator.captureResults_spec _ _).2.pipelineState
  · intro r world h
    split
    · split
      · rw [recorded_record]
        refine Ran.andThen_record (P := fun r => r.pipelineState = record.pipelineState) ?_ hsave
        rw [transition_pipelineState, h]
      · exact hresult _ _ _ h
    · exact hresult _ _ _ h

/-! ### The runtime's boundary -/

/-- The arguments of the callback `_runtime_checkpoint`. -/
structure Details where
  pipelineState : Option PipelineState := none
  taskId : Option String := none
  operationId : Option String := none
  outcome : Option String := none
  retryAttempt : Option ℤ := none
  result : Option Json := none
  recoverySafe : Bool := false

/-- The details of a boundary of the runtime engine. -/
def Details.ofBoundary (boundary : Boundary) : Details where
  taskId := some boundary.taskId
  operationId := some boundary.operationId
  outcome := some boundary.outcome.value
  retryAttempt := some boundary.retryAttempt
  result := boundary.result
  recoverySafe := boundary.recoverySafe

/-- What `_runtime_checkpoint` writes into the record before it saves. -/
def noteDetails (record : ActiveExecution) (details : Details) : ActiveExecution :=
  let named := details.operationId.filter fun id => id ≠ ""
  let record :=
    match named, details.outcome.filter fun o => o ≠ "" with
    | some id, some outcome =>
        { record with operationOutcomes := Dict.set record.operationOutcomes id outcome }
    | _, _ => record
  let record :=
    match named, details.result with
    | some id, some result =>
        { record with operationResults := Dict.set record.operationResults id result }
    | _, _ => record
  match details.taskId.filter fun id => id ≠ "", details.retryAttempt with
  | some id, some attempt =>
      { record with retryAttempts := Dict.set record.retryAttempts id attempt }
  | _, _ => record

def runtimeCheckpoint (record : ActiveExecution) (world : κ) (details : Details) : Ran κ :=
  let captured : Ran κ :=
    match details.pipelineState with
    | none => { record := record, world := world }
    | some pipeline =>
        coordinator.captureWorkflowReliability { record with pipelineState := some pipeline } world
          pipeline
  captured.andThen fun record world =>
    coordinator.saveCheckpoint (noteDetails record details) world details.recoverySafe

end Coordinator

end Samaktha
