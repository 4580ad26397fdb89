import Samaktha.Foundation.Machine
import Samaktha.Runtime.Governance

/-!
# The runtime engine

`RuntimeEngine.run` for any number of calls at once, as a machine.  A call is suspended only
in its executor and in the delay before a retry, so one move runs a call from one suspension
point to the next: `turn` runs an iteration of the loop up to the executor (or to the end of
the call), `finish` takes the executor's result through classification, checkpoint and retry
decision, `raise` and `cancel` end a call at a suspension point.  The moves of different calls
interleave without restriction.

Shared state is what the calls really share: the set of consumed mutation permits, the
metadata of a context that several calls may use (`runtime_retry_attempt`,
`cancel_requested`), and the *world* behind the checkpoint callback, of any type `κ`.

Outside the engine, and so parameters of `EngineConfig`: which action types have an executor,
the tool reliability resolver (a function of the task), the revalidation of recovered tool
evidence and the data model's own validation.  A retry whose delay is zero does not suspend;
the machine also lets other calls move there, which only adds runs.

`State.log` is a ghost: every executor call, with the world it was made in and how it ended.
-/

namespace Samaktha

/-- What a call hands to the checkpoint callback. -/
structure Boundary where
  taskId : String
  operationId : String
  outcome : OperationOutcome
  retryAttempt : ℕ
  result : Option Json := none
  recoverySafe : Bool
  deriving Repr, Inhabited

/-- The engine's collaborators; the callback takes the shared context's number and returns
the world it leaves and whether it returned normally. -/
structure EngineConfig (κ : Type) where
  platform : Platform
  /-- `str` of a value that is not a text. -/
  textOf : Value → String
  /-- `str` of a list or a dictionary. -/
  textOfContainer : Json → String
  retryPolicy : RetryPolicy := { maxAttempts := 1 }
  /-- The tool reliability resolver; `none` where there is none or it has no answer. -/
  toolReliability : RuntimeTask → Option SideEffectClass
  /-- Whether the dispatcher has an executor for an action type. -/
  registered : String → Bool
  /-- `RuntimeResult.model_validate`; `none` where it raises. -/
  validateResult : Json → Option RuntimeResult
  /-- `_validate_recovered_tool_security`. -/
  recoveredToolSecurity : RuntimeContext → RuntimeTask → RoutingDecision → Option RuntimeResult
  contexts : ℕ → RuntimeContext
  checkpoint : ℕ → κ → Boundary → κ × Bool

namespace Engine

/-- Where a call stands. -/
inductive Phase where
  /-- Before an iteration of the loop; `previous` is the result a retry was decided on. -/
  | ready (attempt : ℕ) (previous : Option RuntimeResult)
  /-- In the executor; `entry` is the position of the executor call in the log. -/
  | executing (attempt entry : ℕ)
  | returned (result : RuntimeResult)
  | raised
  deriving Inhabited

structure Call where
  context : ℕ
  task : RuntimeTask
  routing : RoutingDecision
  phase : Phase := .ready 1 none
  deriving Inhabited

/-- How an executor call ended. -/
inductive Ended where
  | outcome (o : OperationOutcome)
  /-- By an exception or a cancellation that no result reports. -/
  | interrupted
  deriving Repr, DecidableEq

/-- An executor call. -/
structure Dispatch (κ : Type) where
  call : ℕ
  task : RuntimeTask
  attempt : ℕ
  world : κ
  ended : Option Ended := none

structure State (κ : Type) where
  /-- `_consumed_mutation_permits`, each permit with the call that added it. -/
  consumed : Dict String ℕ := []
  /-- `context.metadata["runtime_retry_attempt"]`. -/
  retryAttempt : ℕ → ℕ := fun _ => 1
  /-- `context.metadata["cancel_requested"]`. -/
  cancelRequested : ℕ → Bool := fun _ => false
  world : κ
  calls : List Call := []
  log : List (Dispatch κ) := []

inductive Move where
  /-- A new call of `run`. -/
  | start (context : ℕ) (task : RuntimeTask) (routing : RoutingDecision)
  /-- A call runs its next iteration, at a clock reading. -/
  | turn (call : ℕ) (now : ℤ)
  /-- The executor of a call returns. -/
  | finish (call : ℕ) (result : RuntimeResult)
  /-- The executor of a call raises. -/
  | raise (call : ℕ)
  /-- A call is cancelled at a suspension point. -/
  | cancel (call : ℕ)
  /-- `cancel_requested` is set in a context. -/
  | requestCancel (context : ℕ)

section Rules

variable {κ : Type} (cfg : EngineConfig κ)

def sideEffectClass (task : RuntimeTask) : SideEffectClass :=
  if task.actionType ≠ "tool" then .readOnly
  else
    let declared := (Dict.get? task.metadata "side_effect_class").bind fun value =>
      value.str?.bind SideEffectClass.ofValue?
    match declared with
    | some cls => cls
    | none =>
        match Dict.get? task.metadata "idempotent" with
        | some (.bool true) => .idempotentMutation
        | _ => (cfg.toolReliability task).getD .nonIdempotentMutation

def operationId (context : RuntimeContext) (task : RuntimeTask) : String :=
  let digest := orText (task.permit.map ExecutionPermit.operationDigest) task.taskId
  context.requestId ++ ":" ++ task.taskId ++ ":" ++ digest

/-- The first truthy of some metadata values and the error, as a text. -/
def failureText (result : RuntimeResult) (keys : List String) : String :=
  match keys.findSome? fun key => (Dict.get? result.metadata key).filter Json.truthy with
  | some value => value.text cfg.textOfContainer
  | none => result.error.getD ""

/-- The failure class of a result in `run`. -/
def resultFailure (task : RuntimeTask) (result : RuntimeResult) : FailureType :=
  classifyFailure (failureText cfg result ["failure_type", "provider_finish_reason"])
    task.actionType

/-- The outcome a result declares in its metadata. -/
def declaredOutcome (result : RuntimeResult) : Option OperationOutcome :=
  ((Dict.get? result.metadata "operation_outcome").bind Json.str?).bind OperationOutcome.ofValue?

def operationOutcome (task : RuntimeTask) (result : RuntimeResult) : OperationOutcome :=
  match declaredOutcome result with
  | some outcome => outcome
  | none =>
      if result.status = .completed then .completed
      else
        match classifyFailure (failureText cfg result ["failure_type"]) task.actionType with
        | .cancelled => .cancelled
        | .toolTimeout => .timedOutUnknown
        | _ => if task.actionType = "tool" then .failedAfterEffectUnknown else .failedBeforeEffect

/-- The result of an attempt with the metadata `run` adds. -/
def annotate (context : RuntimeContext) (task : RuntimeTask) (attempt : ℕ)
    (result : RuntimeResult) : RuntimeResult :=
  { result with
    metadata := Dict.update result.metadata [
      ("failure_type", if result.status = .completed then .null
        else .str (resultFailure cfg task result).value),
      ("retry_attempt", .int attempt),
      ("retry_count", .int (attempt - 1 : ℤ)),
      ("side_effect_class", .str (sideEffectClass cfg task).value),
      ("operation_outcome", .str (operationOutcome cfg task result).value),
      ("operation_id", .str (operationId context task))] }

/-- The boundary before an attempt. -/
def startBoundary (context : RuntimeContext) (task : RuntimeTask) (attempt : ℕ) : Boundary where
  taskId := task.taskId
  operationId := operationId context task
  outcome := .started
  retryAttempt := attempt
  recoverySafe := sideEffectClass cfg task ≠ .nonIdempotentMutation

/-- The boundary after an attempt. -/
def endBoundary (context : RuntimeContext) (task : RuntimeTask) (attempt : ℕ)
    (result : RuntimeResult) : Boundary where
  taskId := task.taskId
  operationId := operationId context task
  outcome := operationOutcome cfg task result
  retryAttempt := attempt
  result :=
    if operationOutcome cfg task result = .completed then
      some (annotate cfg context task attempt result).modelDump
    else none
  recoverySafe :=
    operationOutcome cfg task result = .completed
      || sideEffectClass cfg task ≠ .nonIdempotentMutation
      || operationOutcome cfg task result = .failedBeforeEffect

/-- The phase an attempt's result leads to, once the checkpoint has returned. -/
def nextPhase (cancelled : Bool) (context : RuntimeContext) (task : RuntimeTask) (attempt : ℕ)
    (result : RuntimeResult) : Phase :=
  if result.status = .completed ∨ result.status = .cancelled ∨ result.status = .paused then
    .returned (annotate cfg context task attempt result)
  else if cancelled then .returned (annotate cfg context task attempt result)
  else if !cfg.retryPolicy.allows (resultFailure cfg task result) attempt
      (sideEffectClass cfg task) (operationOutcome cfg task result) then
    .returned (annotate cfg context task attempt result)
  else .ready (attempt + 1) (some (annotate cfg context task attempt result))

/-- A state with one call's phase replaced. -/
def State.setPhase (s : State κ) (i : ℕ) (call : Call) (phase : Phase) : State κ :=
  { s with calls := s.calls.set i { call with phase := phase } }

/-- The second half of an iteration: classification, checkpoint, retry decision. -/
def settle (s : State κ) (i : ℕ) (call : Call) (attempt : ℕ) (result : RuntimeResult) :
    State κ :=
  let context := cfg.contexts call.context
  let saved := cfg.checkpoint call.context s.world
    (endBoundary cfg context call.task attempt result)
  State.setPhase { s with world := saved.1 } i call
    (if saved.2 then
      nextPhase cfg (s.cancelRequested call.context) context call.task attempt result
    else .raised)

/-- The result where a mutation's permit was consumed by an earlier call. -/
def permitReplayed (task : RuntimeTask) (routing : RoutingDecision) : RuntimeResult where
  taskId := task.taskId
  status := .failed
  routing := some routing
  error := some "Runtime execution blocked: mutation permit was already consumed."
  metadata := Dict.update [("diagnostic", .str "permit_replayed")] (taskAuthorizationMetadata task)

/-- The result where no executor is registered. -/
def executorNotRegistered (task : RuntimeTask) (routing : RoutingDecision) : RuntimeResult where
  taskId := task.taskId
  status := .failed
  routing := some routing
  error := some ("No runtime executor registered for action type: " ++ task.actionType)
  metadata := [("diagnostic", .str "executor_not_registered")]

/-- The executor of a call is invoked. -/
def State.dispatch (s : State κ) (i : ℕ) (call : Call) (attempt : ℕ) : State κ :=
  State.setPhase
    { s with
      log := s.log ++ [{ call := i, task := call.task, attempt := attempt, world := s.world }] }
    i call (.executing attempt s.log.length)

/-- `_run_once` after the permit gate and the replay guard. -/
def invoke (s : State κ) (i : ℕ) (call : Call) (attempt : ℕ) : State κ :=
  if cfg.registered call.task.actionType then s.dispatch i call attempt
  else settle cfg s i call attempt (executorNotRegistered call.task call.routing)

/-- Whether the replay guard applies: a non-idempotent mutation on the first attempt its
context's metadata shows. -/
def guardApplies (s : State κ) (call : Call) : Bool :=
  call.task.permit.isSome && sideEffectClass cfg call.task = .nonIdempotentMutation
    && s.retryAttempt call.context = 1

def permitId (task : RuntimeTask) : Option String := task.permit.map ExecutionPermit.permitId

/-- `_run_once`, up to the executor. -/
def runOnce (s : State κ) (i : ℕ) (call : Call) (attempt : ℕ) (now : ℤ) : State κ :=
  match enforceCapPermit cfg.platform cfg.textOf (cfg.contexts call.context) call.task
      call.routing now with
  | .error _ => s.setPhase i call .raised
  | .ok (some blocked) => settle cfg s i call attempt blocked
  | .ok none =>
      if guardApplies cfg s call then
        let permit := (permitId call.task).getD ""
        if (s.consumed.get? permit).isSome then
          settle cfg s i call attempt (permitReplayed call.task call.routing)
        else invoke cfg { s with consumed := s.consumed.set permit i } i call attempt
      else invoke cfg s i call attempt

/-- The result recovered for an operation, if there is one. -/
def recoveredResult (context : RuntimeContext) (task : RuntimeTask) : Option Json :=
  match Dict.get? context.recoveredOperationResults (operationId context task) with
  | none | some .null => none
  | some result => some result

/-- An iteration for an operation whose result was recovered. -/
def reuse (s : State κ) (i : ℕ) (call : Call) (attempt : ℕ) (recovered : Json) (now : ℤ) :
    State κ :=
  let context := cfg.contexts call.context
  s.setPhase i call <|
    match enforceCapPermit cfg.platform cfg.textOf context call.task call.routing now with
    | .error _ => .raised
    | .ok (some blocked) => .returned blocked
    | .ok none =>
        match cfg.recoveredToolSecurity context call.task call.routing with
        | some blocked => .returned blocked
        | none =>
            match cfg.validateResult recovered with
            | none => .raised
            | some restored =>
                .returned { restored with
                  metadata := Dict.update restored.metadata [
                    ("duplicate_suppressed", .bool true),
                    ("operation_id", .str (operationId context call.task)),
                    ("retry_attempt", .int attempt)] }

/-- An iteration of the loop, up to the executor. -/
def iterate (s : State κ) (i : ℕ) (call : Call) (attempt : ℕ) (now : ℤ) : State κ :=
  let context := cfg.contexts call.context
  let s := { s with retryAttempt := Function.update s.retryAttempt call.context attempt }
  match recoveredResult context call.task with
  | some recovered => reuse cfg s i call attempt recovered now
  | none =>
      let saved := cfg.checkpoint call.context s.world (startBoundary cfg context call.task attempt)
      let s := { s with world := saved.1 }
      if saved.2 then runOnce cfg s i call attempt now else s.setPhase i call .raised

/-- An executor's result with the metadata `_run_once` adds. -/
def executed (context : RuntimeContext) (task : RuntimeTask) (result : RuntimeResult) :
    RuntimeResult :=
  { result with
    metadata := Dict.update (Dict.update result.metadata (taskAuthorizationMetadata task)) [
      ("runtime_action_type", .str task.actionType),
      ("runtime_request_id", .str context.requestId)] }

/-- An executor call of the log ends. -/
def State.endDispatch (s : State κ) (entry : ℕ) (ended : Ended) : State κ :=
  { s with log := s.log.modify entry fun d => { d with ended := some ended } }

/-- One move of the engine. -/
def step (s : State κ) : Move → Option (State κ)
  | .start context task routing =>
      some { s with calls := s.calls ++ [{ context := context, task := task, routing := routing }] }
  | .turn i now =>
      match s.calls[i]? with
      | some call =>
          match call.phase with
          | .ready attempt previous =>
              match previous, s.cancelRequested call.context with
              | some result, true => some (s.setPhase i call (.returned result))
              | _, _ => some (iterate cfg s i call attempt now)
          | _ => none
      | none => none
  | .finish i result =>
      match s.calls[i]? with
      | some call =>
          match call.phase with
          | .executing attempt entry =>
              let result := executed (cfg.contexts call.context) call.task result
              let ended := .outcome (operationOutcome cfg call.task result)
              some (settle cfg (s.endDispatch entry ended) i call attempt result)
          | _ => none
      | none => none
  | .raise i =>
      match s.calls[i]? with
      | some call =>
          match call.phase with
          | .executing _ entry => some ((s.endDispatch entry .interrupted).setPhase i call .raised)
          | _ => none
      | none => none
  | .cancel i =>
      match s.calls[i]? with
      | some call =>
          match call.phase with
          | .executing _ entry => some ((s.endDispatch entry .interrupted).setPhase i call .raised)
          | .ready _ _ => some (s.setPhase i call .raised)
          | _ => none
      | none => none
  | .requestCancel context =>
      some { s with cancelRequested := Function.update s.cancelRequested context true }

def machine : Machine (State κ) Move := ⟨step cfg⟩

end Rules

end Engine

end Samaktha
