import Samaktha.Coordination.Record
import Samaktha.Foundation.Text

/-!
# The life of an execution

One execution under the coordinator, as a machine: `start_execution`, the two tasks
`_run_initial` and `_run_resume`, `submit_approval`, the callbacks of a running pipeline, and
the cancellation and the timeout.  A move is one stretch of code between two awaits, with what
arrives at the await (`Outcome`) chosen by the environment, so a list of moves is one
interleaving.

The part of `cancel_execution` and of `timeout_execution` behind their await is a move of its
own; which task they wait for is not tracked, so it may come at any later time.  Events and the
pruning of ended executions are left out.
-/

namespace Samaktha

inductive Decision where
  | allow
  | deny
  deriving Repr, DecidableEq, Inhabited

def Decision.value : Decision → String
  | .allow => "allow"
  | .deny => "deny"

/-- The task of a record. -/
inductive Work where
  /-- There is none, or it is done. -/
  | none
  /-- `_run_initial`, waiting for capacity. -/
  | queued
  /-- `_run_initial`, waiting for its pipeline. -/
  | initial
  /-- `_run_resume`, waiting for its pipeline. -/
  | resume (decision : Decision)
  deriving Repr, DecidableEq, Inhabited

/-- What comes out of the wait for a pipeline. -/
inductive Outcome where
  | returned (pipeline : PipelineState)
  | raised (exception : String)
  | cancelled
  /-- An `asyncio.TimeoutError`, with its text. -/
  | timedOut (text : String)
  deriving Inhabited

namespace Coordinator

variable {κ : Type} (coordinator : Coordinator κ)

/-- `start_execution` behind the registration of the record. -/
def announce (record : ActiveExecution) (world : κ) : Ran κ :=
  (coordinator.recorded (coordinator.saveCheckpoint record world true) .executionCreated).andThen
    fun record world => coordinator.transition record world .planning

/-! ## Handlers -/

/-- `except asyncio.CancelledError`, up to the save of `_run_initial`. -/
def onCancelled (record : ActiveExecution) (world : κ) : Ran κ :=
  let moved : Ran κ :=
    if record.state.terminal then { record := record, world := world }
    else coordinator.transition record world .cancelled
  moved.andThen fun record world =>
    let status := if record.state.status = .timedOut then .timedOut else .cancelled
    { record := setTerminalResult record status (orText record.state.error "Execution cancelled.")
      world := world }

/-- `except asyncio.TimeoutError`, up to its save. -/
def onTimeout (text : String) (record : ActiveExecution) (world : κ) : Ran κ :=
  let error := if text = "" then "Execution timed out." else text
  let moved : Ran κ :=
    if record.state.terminal then { record := record, world := world }
    else coordinator.transition record world .timedOut (some error)
  moved.andThen fun record world =>
    { record := setTerminalResult record .timedOut error, world := world }

/-- `except Exception`, up to the save of `_run_initial`. -/
def onException (exception : String) (record : ActiveExecution) (world : κ) : Ran κ :=
  let record := { record with failureException := some exception }
  let moved : Ran κ :=
    if record.state.terminal then { record := record, world := world }
    else coordinator.transition record world .failed (some exception)
  moved.andThen fun record world =>
    { record := setTerminalResult record .failed exception, world := world }

/-- A handler of `_run_initial` ends with a save. -/
def andSave (ran : Ran κ) : Ran κ :=
  ran.andThen fun record world => coordinator.saveCheckpoint record world

/-! ## `_run_initial` -/

/-- The body up to the pipeline. -/
def enterInitial (record : ActiveExecution) (world : κ) : Ran κ :=
  if record.state.status = .planning ∨ record.state.status = .recovering then
    coordinator.transition record world .running
  else { record := record, world := world }

/-- The body behind the pipeline, and the handlers. -/
def finishInitial (record : ActiveExecution) (world : κ) : Outcome → Ran κ
  | .returned pipeline =>
      (coordinator.settlePipeline { record with pipelineState := some pipeline } world
        pipeline).handle fun exception record world =>
          coordinator.andSave (coordinator.onException exception record world)
  | .raised exception => coordinator.andSave (coordinator.onException exception record world)
  | .cancelled => coordinator.andSave (coordinator.onCancelled record world)
  | .timedOut text => coordinator.andSave (coordinator.onTimeout text record world)

/-! ## `_run_resume` -/

/-- The branch of a denial. -/
def denied (record : ActiveExecution) (world : κ) (pipeline : PipelineState) : Ran κ :=
  let record := { record with state := { record.state with
    pendingApprovalId := none
    pendingTaskId := none
    resultAvailable := pipeline.runtimeResult.isSome } }
  let error := orText (pipeline.runtimeResult.bind RuntimeResult.error) "Execution denied by user."
  coordinator.recorded
    (coordinator.transition (setTerminalResult record .denied error true) world .denied)
    .executionDenied

/-- The body behind the pipeline, and the handlers. -/
def finishResume (record : ActiveExecution) (world : κ) (decision : Decision) : Outcome → Ran κ
  | .returned pipeline =>
      let record := { record with pipelineState := some pipeline }
      let ran : Ran κ :=
        match decision with
        | .deny => coordinator.denied record world pipeline
        | .allow => coordinator.settlePipeline record world pipeline
      ran.handle coordinator.onException
  | .raised exception => coordinator.onException exception record world
  | .cancelled => coordinator.onCancelled record world
  | .timedOut text => coordinator.onException text record world

/-! ## `submit_approval` -/

/-- `decision.strip().lower()`, where it is a decision. -/
def normalizedDecision (decision : String) : Option Decision :=
  let normalized := Text.lower (Text.strip decision)
  if normalized = "allow" then some .allow
  else if normalized = "deny" then some .deny
  else none

/-- The error that `submit_approval` raises before it changes anything, or the decision. -/
def checkSubmission (record : ActiveExecution) (principalId approvalId decision : String) :
    Except String Decision :=
  if record.state.principalId ≠ some principalId then .error "Execution access denied."
  else if record.state.status ≠ .awaitingApproval then
    .error "Execution is not awaiting approval."
  else if record.state.pendingApprovalId ≠ some approvalId then
    .error "Approval ID does not match this execution."
  else if approvalId ∈ record.resolvedApprovals then
    .error "Approval has already been resolved."
  else match normalizedDecision decision with
    | none => .error "Approval decision must be allow or deny."
    | some decision =>
        if record.pipelineState.isNone || record.state.pendingTaskId.isNone then
          .error "Pending pipeline state is unavailable."
        else .ok decision

/-- An accepted submission, up to its transitions. -/
def resolveApproval (record : ActiveExecution) (world : κ) (approvalId : String)
    (decision : Decision) : Ran κ :=
  coordinator.recorded
    (coordinator.saveCheckpoint
      { record with resolvedApprovals := record.resolvedApprovals.insert approvalId } world)
    (.approvalResolved approvalId decision.value)

/-- An accepted submission, up to the start of `_run_resume`. -/
def acceptSubmission (record : ActiveExecution) (world : κ) (approvalId : String)
    (decision : Decision) : Ran κ :=
  (coordinator.resolveApproval record world approvalId decision).andThen fun record world =>
    match decision with
    | .allow =>
        (coordinator.transition record world .approved).andThen fun record world =>
          coordinator.transition record world .running
    | .deny => { record := record, world := world }

/-! ## Cancellation and timeout -/

/-- The end that cancellation and timeout share. -/
def closeWith (record : ActiveExecution) (world : κ) (status : ExecutionStatus) (error : String) :
    Ran κ :=
  let record := setTerminalResult record status error
  coordinator.recorded
    (coordinator.saveCheckpoint { record with state := { record.state with
      pendingApprovalId := none, pendingTaskId := none } } world)
    (if status = .cancelled then .executionCancelled else .executionTimedOut)

/-- `cancel_execution` behind its await. -/
def cancelTail (record : ActiveExecution) (world : κ) : Ran κ :=
  let moved : Ran κ :=
    if record.state.terminal then { record := record, world := world }
    else coordinator.transition record world .cancelled
  moved.andThen fun record world =>
    coordinator.closeWith record world .cancelled "Execution cancelled."

/-- `timeout_execution` up to its await. -/
def timeoutHead (record : ActiveExecution) (world : κ) (error : String) : Ran κ :=
  (coordinator.transition record world .timedOut (some error)).andThen fun record world =>
    { record := { record with cancelEvent := true }, world := world }

end Coordinator

/-! ## The machine -/

/-- An execution, the world behind its store, and its task. -/
structure Session (κ : Type) where
  record : ActiveExecution
  world : κ
  work : Work := .none

/-- A stretch of the coordinator's code. -/
inductive Move where
  /-- `start_execution`, behind the registration of the record. -/
  | start
  /-- `recover_pending`. -/
  | recover
  /-- `_run_initial` obtains capacity. -/
  | enter
  /-- The pipeline of the running task is done. -/
  | finish (outcome : Outcome)
  /-- The pipeline calls `_runtime_checkpoint`. -/
  | checkpoint (details : Coordinator.Details)
  | submit (principalId approvalId decision : String)
  /-- `cancel_execution` up to its await. -/
  | cancel
  | cancelTail
  | timeout (error : String)
  /-- `timeout_execution` behind its await. -/
  | timeoutTail (error : String)
  deriving Inhabited

namespace Session

variable {κ : Type} (coordinator : Coordinator κ)

/-- The session after a stretch of code. -/
def after (ran : Ran κ) (work : Work) : Session κ :=
  { record := ran.record, world := ran.world, work := work }

def step (s : Session κ) : Move → Option (Session κ)
  | .start =>
      if s.work = .none ∧ s.record.state.status = .created then
        let ran := coordinator.announce s.record s.world
        some (after ran (if ran.raised.isNone then .queued else .none))
      else none
  | .recover =>
      if s.work = .none ∧ s.record.state.status = .recovering then some { s with work := .queued }
      else none
  | .enter =>
      if s.work = .queued then
        if s.record.cancelEvent || s.record.state.terminal then some { s with work := .none }
        else
          let ran := coordinator.enterInitial s.record s.world
          match ran.raised with
          | none => some (after ran .initial)
          | some exception =>
              some (after (coordinator.andSave
                (coordinator.onException exception ran.record ran.world)) .none)
      else none
  | .finish outcome =>
      match s.work, outcome with
      | .queued, .cancelled =>
          some (after (coordinator.finishInitial s.record s.world .cancelled) .none)
      | .initial, outcome => some (after (coordinator.finishInitial s.record s.world outcome) .none)
      | .resume decision, outcome =>
          some (after (coordinator.finishResume s.record s.world decision outcome) .none)
      | _, _ => none
  | .checkpoint details =>
      if s.work = .none ∨ s.work = .queued then none
      else some (after (coordinator.runtimeCheckpoint s.record s.world details) s.work)
  | .submit principalId approvalId decision =>
      match Coordinator.checkSubmission s.record principalId approvalId decision with
      | .error _ => some s
      | .ok decision =>
          let ran := coordinator.acceptSubmission s.record s.world approvalId decision
          some (after ran (if ran.raised.isNone then .resume decision else s.work))
  | .cancel =>
      if s.record.state.terminal then some s
      else some { s with record := { s.record with cancelEvent := true } }
  | .cancelTail =>
      if s.record.cancelEvent then some (after (coordinator.cancelTail s.record s.world) s.work)
      else none
  | .timeout error =>
      if s.record.state.terminal then some s
      else some (after (coordinator.timeoutHead s.record s.world error) s.work)
  | .timeoutTail error =>
      if s.record.state.status = .timedOut then
        some (after (coordinator.closeWith s.record s.world .timedOut error) s.work)
      else none

/-- The life of an execution. -/
def machine : Machine (Session κ) Move := ⟨step coordinator⟩

end Session

end Samaktha
