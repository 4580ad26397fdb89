import Samaktha.Runtime.PermitReplay
import Samaktha.Runtime.ToolArguments

/-!
# What an attempt says of its outcome

`ToolExecutor.execute` with all of its refusals, below `RuntimeEngine.run`, which derives the
outcome of an operation from the result it gets.  The tool guard, the governance engine, the tool
security enforcer and the tool manager answer from outside (`ToolWorld`).

`Attempt` is what became of an attempt, and `Explains` what that says of the outcome that is
recorded: `explains_execute` for the tool executor, `Undeclared.harmless` for what stands before
it.
-/

namespace Samaktha

namespace ToolExecutor

/-! ## The tool executor -/

structure ToolResult where
  ok : Bool
  data : Dict String Json := []
  error : Option String := none
  metadata : Dict String Json := []
  deriving Repr, Inhabited

/-- How a call of the tool manager ends. -/
inductive Managed where
  /-- The dispatcher fails before the tool is called: it is not there, unavailable, lacks a
  permission, or the arguments do not fit its schema. -/
  | refused (error : String)
  /-- The tool is called. -/
  | ran (result : ToolResult)
  /-- The manager raises, before or after the tool is called. -/
  | raised (called : Bool) (error : String)
  deriving Repr, Inhabited

structure GuardDecision where
  allowed : Bool
  reason : Option String := none
  policyId : Option String := none
  securityLevel : String := "low"
  deriving Repr, Inhabited

/-- What a governance violation says. -/
structure PolicyViolation where
  code : String
  message : String
  decision : String
  risk : String
  deriving Repr, Inhabited

/-- A decision of the tool security enforcer. -/
structure SecurityVerdict where
  allowed : Bool
  message : Option String := none
  reasonCode : String
  policyReference : String := ""
  scopeRoot : Option String := none
  deriving Repr, Inhabited

/-- What the collaborators of one execution answer, where they are configured. -/
structure ToolWorld where
  guard : Option GuardDecision := none
  /-- The violation, or `none` for a decision that lets the tool through. -/
  governance : Option (Option PolicyViolation) := none
  /-- The id of the record that governance keeps of the execution. -/
  recordId : String := ""
  /-- `should_rollback`. -/
  rollback : Bool × List String := (false, [])
  security : Option SecurityVerdict := none
  managed : Managed
  deriving Inhabited

def toolJson (task : RuntimeTask) : Json :=
  if task.actionType = "tool" then ((Dict.get? task.metadata "tool").map Value.toJson).getD .null
  else .str task.actionType

/-- Whether `tool_id == "internet"`. -/
def isInternet (task : RuntimeTask) : Bool :=
  if task.actionType = "tool" then
    (Dict.get? task.metadata "tool").bind Value.str? = some "internet"
  else task.actionType = "internet"

/-- `task.inputs.get("action", "")`. -/
def actionJson (task : RuntimeTask) : Json :=
  ((Dict.get? task.inputs "action").map Value.toJson).getD (.str "")

/-- A result of a task, without an output. -/
def taskResult (task : RuntimeTask) (routing : RoutingDecision) (status : TaskStatus)
    (error : Option String) (metadata : Dict String Json) : RuntimeResult where
  taskId := task.taskId
  status := status
  routing := some routing
  error := error
  metadata := metadata

/-- The result where the permit of an internet task closes the network. -/
def networkDenied (task : RuntimeTask) (routing : RoutingDecision) (permit : ExecutionPermit) :
    RuntimeResult :=
  taskResult task routing .failed
    (some "Runtime execution blocked: Network access is disabled by CAP constraints.") [
      ("diagnostic", .str "network_constraint_denied"),
      ("security_blocked", .bool true),
      ("failure_type", .str "network_constraint_denied"),
      ("operation_outcome", .str "failed_before_effect"),
      ("tool", toolJson task),
      ("permit_id", .str permit.permitId),
      ("operation_digest", .str permit.operationDigest),
      ("authorization_decision", .str permit.decision.value)]

/-- The text of a denial by the tool guard. -/
def GuardDecision.text (decision : GuardDecision) : String :=
  orText decision.reason "Tool execution blocked by security policy"

/-- The result of a denial by the tool guard. -/
def guardDenied (task : RuntimeTask) (routing : RoutingDecision) (decision : GuardDecision) :
    RuntimeResult :=
  taskResult task routing .failed (some decision.text) [
    ("security_blocked", .bool true),
    ("security_reason", .ofText? decision.reason),
    ("security_policy_id", .ofText? decision.policyId),
    ("security_level", .str decision.securityLevel),
    ("tool", toolJson task)]

def PolicyViolation.text (violation : PolicyViolation) : String :=
  orText (some violation.message) "Tool execution blocked by governance policy"

/-- The result of a governance violation. -/
def governanceBlocked (task : RuntimeTask) (routing : RoutingDecision)
    (violation : PolicyViolation) (recordId : String) : RuntimeResult :=
  taskResult task routing .failed (some violation.text) [
    ("governance_blocked", .bool true),
    ("governance_violation", .str violation.code),
    ("governance_reason", .str violation.message),
    ("governance_decision", .str violation.decision),
    ("governance_risk", .str violation.risk),
    ("record_id", .str recordId),
    ("tool", toolJson task)]

/-- The result of a denial by the tool security enforcer. -/
def securityDenied (task : RuntimeTask) (routing : RoutingDecision) (verdict : SecurityVerdict)
    (recordId : Option String) : RuntimeResult :=
  taskResult task routing .failed verdict.message (Dict.update [
    ("security_blocked", .bool true),
    ("security_reason", .str verdict.reasonCode),
    ("security_policy_id", .str verdict.policyReference),
    ("security_scope", .ofText? verdict.scopeRoot),
    ("failure_type", .str "tool_security_denied"),
    ("operation_outcome", .str "failed_before_effect"),
    ("tool", toolJson task),
    ("action", actionJson task)]
    ((recordId.map fun recordId => [("record_id", Json.str recordId)]).getD []))

/-- The result of a task whose tool manager gave a result. -/
def managedResult (task : RuntimeTask) (routing : RoutingDecision) (result : ToolResult) :
    RuntimeResult :=
  let arguments : Dict String Json := [
    ("tool", toolJson task),
    ("action", actionJson task),
    ("args", task.inputs.toValue.toJson)]
  if result.ok then { taskResult task routing .completed none arguments with
    output := result.data }
  else if result.error = some "MULTIPLE_MATCHES" then
    { taskResult task routing .paused result.error arguments with
      pause := some {
        reason := "multiple_matches"
        metadata := [("candidates", (Dict.get? result.data "candidates").getD (.arr []))] } }
  else
    taskResult task routing .failed (some (orText result.error "Tool execution failed"))
      (Dict.update result.metadata [("tool", toolJson task), ("action", actionJson task)])

/-- What a call of the tool manager comes to. -/
def Managed.result (task : RuntimeTask) (routing : RoutingDecision) : Managed → RuntimeResult
  | .refused error => managedResult task routing { ok := false, error := some error }
  | .ran result => managedResult task routing result
  | .raised _ error => taskResult task routing .failed (some error) []

/-- What is added to a result of the tool manager: the record of governance, and the arguments. -/
def reported (task : RuntimeTask) (world : ToolWorld) (result : RuntimeResult) : RuntimeResult :=
  let recorded := if world.governance.isSome then
      Dict.update result.metadata [
        ("record_id", .str world.recordId),
        ("governance_rollback", .bool world.rollback.1),
        ("governance_rollback_reasons", .arr (world.rollback.2.map Json.str))]
    else result.metadata
  let action := match Dict.get? task.inputs "action" with
    | some action =>
        if action.truthy then action.toJson
        else ((Dict.get? task.inputs "Action").map Value.toJson).getD (.str "")
    | none => ((Dict.get? task.inputs "Action").map Value.toJson).getD (.str "")
  { result with
    metadata := Dict.update recorded [
      ("tool", toolJson task),
      ("action", action),
      ("args", task.inputs.toValue.toJson)] }

/-- `ToolExecutor.execute`. -/
def execute (task : RuntimeTask) (routing : RoutingDecision) (world : ToolWorld) :
    RuntimeResult :=
  match task.permit.filter fun permit => isInternet task && !permit.constraints.networkAllowed with
  | some permit => networkDenied task routing permit
  | none =>
      match world.guard.filter fun decision => !decision.allowed with
      | some decision => guardDenied task routing decision
      | none =>
          match world.governance.join with
          | some violation => governanceBlocked task routing violation world.recordId
          | none =>
              match world.security.filter fun verdict => !verdict.allowed with
              | some verdict => securityDenied task routing verdict
                  (if world.governance.isSome then some world.recordId else none)
              | none => reported task world (world.managed.result task routing)

end ToolExecutor

namespace Engine

open ToolExecutor

/-! ## What blocks an attempt -/

/-- Why an attempt did not come to its tool. -/
inductive Obstacle where
  /-- The gate refuses the task, or asks for an approval. -/
  | gate
  /-- The permit of a mutation was consumed before. -/
  | replayed
  | noExecutor
  /-- The gate does not let a recovered result be used. -/
  | recoveredGate
  /-- The tool security enforcer does not let a recovered result be used. -/
  | recoveredSecurity
  /-- The permit of an internet task closes the network. -/
  | network
  /-- The tool security enforcer denies the arguments. -/
  | security
  /-- The tool guard, governance or the tool manager refuses, with a text. -/
  | refused (error : String)
  deriving Repr, DecidableEq

/-- What a text makes of a failure that declares no outcome: a task that is not of the type
`tool`, whose text does not speak of a cancellation, is taken to have done nothing. -/
def undeclaredHarmless (task : RuntimeTask) (error : String) : Bool :=
  task.actionType ≠ "tool" && !Text.contains (Text.lower error) "cancel"

/-- Whether the outcome that is recorded where an attempt is blocked says that nothing was
done. -/
def Obstacle.harmless (task : RuntimeTask) : Obstacle → Bool
  | .network | .security | .recoveredSecurity => true
  | .gate | .replayed => task.actionType ≠ "tool"
  | .recoveredGate => false
  | .noExecutor => undeclaredHarmless task
      ("No runtime executor registered for action type: " ++ task.actionType)
  | .refused error => undeclaredHarmless task error

inductive Attempt where
  | blocked (obstacle : Obstacle)
  /-- A recovered result was used. -/
  | restored
  /-- The tool was called; its result declares an outcome, or none. -/
  | called (declared : Option OperationOutcome)
  /-- An executor other than the tool executor ran. -/
  | other
  deriving Repr, DecidableEq

/-- The attempt did not come to a tool or to another executor, and used no recovered result. -/
def Attempt.isBlocked : Attempt → Bool
  | .blocked _ => true
  | _ => false

/-- The outcome a dictionary of metadata declares. -/
def declaredIn (metadata : Dict String Json) : Option OperationOutcome :=
  ((Dict.get? metadata "operation_outcome").bind Json.str?).bind OperationOutcome.ofValue?

/-- What became of an attempt at the tool manager. -/
def managedAttempt : Managed → Attempt
  | .refused error => .blocked (.refused (orText (some error) "Tool execution failed"))
  | .ran result => .called (declaredIn result.metadata)
  | .raised true _ => .called none
  | .raised false error => .blocked (.refused error)

/-- What became of an attempt in the tool executor. -/
def toolAttempt (task : RuntimeTask) (world : ToolWorld) : Attempt :=
  match task.permit.filter fun permit => isInternet task && !permit.constraints.networkAllowed with
  | some _ => .blocked .network
  | none =>
      match world.guard.filter fun decision => !decision.allowed with
      | some decision => .blocked (.refused decision.text)
      | none =>
          match world.governance.join with
          | some violation => .blocked (.refused violation.text)
          | none =>
              match world.security.filter fun verdict => !verdict.allowed with
              | some _ => .blocked .security
              | none => managedAttempt world.managed

/-- The outcome that is recorded with a result says that nothing was done. -/
def RecordedHarmless (result : RuntimeResult) : Prop :=
  ∃ outcome, declaredOutcome result = some outcome ∧ outcome.harmless = true

variable {κ : Type} (cfg : EngineConfig κ)

/-! ## Classification -/

lemma ite_ne {α : Type} {p : Prop} [Decidable p] {a b c : α} (ha : a ≠ c) (hb : b ≠ c) :
    (if p then a else b) ≠ c := by
  split
  · exact ha
  · exact hb

/-- A failure is read as a cancellation exactly where its text speaks of one. -/
lemma classifyFailure_eq_cancelled_iff {error actionType : String} :
    classifyFailure error actionType = .cancelled ↔
      Text.contains (Text.lower error) "cancel" = true := by
  unfold classifyFailure
  dsimp only
  constructor
  · intro h
    by_contra hnot
    rw [if_neg hnot] at h
    revert h
    repeat' apply ite_ne
    all_goals simp only [ne_eq, reduceCtorEq, not_false_eq_true]
  · intro h
    rw [if_pos h]

lemma classifyFailure_ne_toolTimeout {actionType : String} (h : actionType ≠ "tool")
    (error : String) : classifyFailure error actionType ≠ .toolTimeout := by
  unfold classifyFailure
  dsimp only
  rw [if_neg h]
  repeat' apply ite_ne
  all_goals simp only [ne_eq, reduceCtorEq, not_false_eq_true]

lemma harmless_of_tool {task : RuntimeTask} {result : RuntimeResult}
    (htool : task.actionType = "tool") (hdeclared : declaredOutcome result = none) :
    (operationOutcome cfg task result).harmless = false := by
  unfold operationOutcome
  rw [hdeclared]
  dsimp only
  split
  · rfl
  · split
    · rfl
    · rfl
    · rfl

/-- The outcome of a failure that declares none, and neither a failure class, is read off its
text. -/
lemma harmless_undeclared {task : RuntimeTask} {result : RuntimeResult} {error : String}
    (hstatus : result.status ≠ .completed) (hdeclared : declaredOutcome result = none)
    (hclass : Dict.get? result.metadata "failure_type" = none)
    (herror : result.error = some error) :
    (operationOutcome cfg task result).harmless = undeclaredHarmless task error := by
  by_cases htool : task.actionType = "tool"
  · rw [harmless_of_tool cfg htool hdeclared, undeclaredHarmless]
    simp [htool]
  · have htext : failureText cfg result ["failure_type"] = error := by
      simp [failureText, hclass, herror]
    unfold operationOutcome undeclaredHarmless
    rw [hdeclared]
    dsimp only
    rw [if_neg hstatus, htext, if_neg htool]
    cases hcancel : Text.contains (Text.lower error) "cancel" with
    | true =>
        rw [classifyFailure_eq_cancelled_iff.mpr hcancel]
        simp [OperationOutcome.harmless]
    | false =>
        have hnot : classifyFailure error task.actionType ≠ .cancelled := fun h => by
          rw [classifyFailure_eq_cancelled_iff.mp h] at hcancel
          cases hcancel
        have htimeout := classifyFailure_ne_toolTimeout htool error
        split
        · exact absurd ‹_› hnot
        · exact absurd ‹_› htimeout
        · simp [OperationOutcome.harmless, htool]

/-- A result that did not complete and declares neither an outcome nor a failure class. -/
structure Undeclared (result : RuntimeResult) (error : String) : Prop where
  status : result.status ≠ .completed
  outcome : Dict.get? result.metadata "operation_outcome" = none
  failureType : Dict.get? result.metadata "failure_type" = none
  error : result.error = some error

lemma Undeclared.harmless {task : RuntimeTask} {result : RuntimeResult} {error : String}
    (h : Undeclared result error) :
    (operationOutcome cfg task result).harmless = undeclaredHarmless task error := by
  have hdeclared : declaredOutcome result = none := by
    unfold declaredOutcome
    rw [h.outcome]
    rfl
  exact harmless_undeclared cfg h.status hdeclared h.failureType h.error

/-! ## Refusals of the gate -/

/-- The text does not speak of a cancellation. -/
def Uncancelled (error : String) : Prop := Text.contains (Text.lower error) "cancel" = false

lemma uncancelled_of_permitRefusal {platform : Platform} {textOf : Value → String}
    {permit : ExecutionPermit} {context : RuntimeContext} {task : RuntimeTask} {now : ℤ}
    {diagnostic error : String}
    (h : permitRefusal platform textOf permit context task now = some (diagnostic, error)) :
    Uncancelled error := by
  unfold permitRefusal at h
  repeat' split at h
  all_goals first
    | (obtain ⟨-, rfl⟩ := Prod.mk.inj (Option.some.inj h)
       exact Text.not_contains_lower_of_chars rfl rfl rfl)
    | cases h

lemma uncancelled_of_constraintRefusal {platform : Platform} {permit : ExecutionPermit}
    {task : RuntimeTask} {routing : RoutingDecision} {permissions : List Value}
    {diagnostic error : String}
    (h : constraintRefusal platform permit task routing permissions = some (diagnostic, error)) :
    Uncancelled error := by
  unfold constraintRefusal at h
  repeat' split at h
  all_goals first
    | (obtain ⟨-, rfl⟩ := Prod.mk.inj (Option.some.inj h)
       exact Text.not_contains_lower_of_chars rfl rfl rfl)
    | cases h

lemma undeclared_blocked (task : RuntimeTask) (routing : RoutingDecision)
    (diagnostic error : String) (permit : Option ExecutionPermit) :
    Undeclared (blocked task routing diagnostic error
      ((permit.map authorizationMetadata).getD [])) error := by
  cases permit with
  | none => exact ⟨fun h => (by cases h), rfl, rfl, rfl⟩
  | some permit => exact ⟨fun h => (by cases h), rfl, rfl, rfl⟩

lemma undeclared_of_gate {platform : Platform} {textOf : Value → String}
    {context : RuntimeContext} {task : RuntimeTask} {routing : RoutingDecision} {now : ℤ}
    {result : RuntimeResult}
    (h : enforceCapPermit platform textOf context task routing now = .ok (some result)) :
    ∃ error, Undeclared result error ∧ Uncancelled error := by
  unfold enforceCapPermit at h
  cases hpermit : task.permit with
  | none =>
      rw [hpermit] at h
      obtain rfl := Option.some.inj (Except.ok.inj h)
      exact ⟨_, undeclared_blocked task routing _ _ none,
        Text.not_contains_lower_of_chars rfl rfl rfl⟩
  | some permit =>
      rw [hpermit] at h
      dsimp only at h
      split at h
      · obtain rfl := Option.some.inj (Except.ok.inj h)
        exact ⟨_, ⟨fun h => (by cases h), rfl, rfl, rfl⟩,
          Text.not_contains_lower_of_chars rfl rfl rfl⟩
      · split at h
        · obtain rfl := Option.some.inj (Except.ok.inj h)
          exact ⟨_, undeclared_blocked task routing _ _ (some permit),
            Text.not_contains_lower_of_chars rfl rfl rfl⟩
        · split at h
          · rename_i hrefusal
            obtain rfl := Option.some.inj (Except.ok.inj h)
            exact ⟨_, undeclared_blocked task routing _ _ (some permit),
              uncancelled_of_permitRefusal hrefusal⟩
          · split at h
            · cases h
            · split at h
              · rename_i hrefusal
                obtain rfl := Option.some.inj (Except.ok.inj h)
                exact ⟨_, undeclared_blocked task routing _ _ (some permit),
                  uncancelled_of_constraintRefusal hrefusal⟩
              · cases h

lemma undeclared_permitReplayed (task : RuntimeTask) (routing : RoutingDecision) :
    Undeclared (permitReplayed task routing)
      "Runtime execution blocked: mutation permit was already consumed." := by
  refine ⟨fun h => (by cases h), ?_, ?_, rfl⟩ <;>
    (unfold permitReplayed taskAuthorizationMetadata; cases task.permit <;> rfl)

lemma undeclaredHarmless_of_uncancelled {error : String} (h : Uncancelled error)
    (task : RuntimeTask) : undeclaredHarmless task error = decide (task.actionType ≠ "tool") := by
  unfold undeclaredHarmless
  rw [h, Bool.not_false, Bool.and_true]

/-! ## What the last attempt explains -/

/-- What an attempt says of the result that was returned for it: where it was blocked, whether
nothing was done; where the tool of a mutation was called and nothing is recorded to have been
done, that the tool said so. -/
def Explains (task : RuntimeTask) (result : RuntimeResult) : Attempt → Prop
  | .blocked obstacle => RecordedHarmless result ↔ obstacle.harmless task = true
  | .called declared => sideEffectClass cfg task = .nonIdempotentMutation →
      RecordedHarmless result → ∃ outcome, declared = some outcome ∧ outcome.harmless = true
  | .restored => True
  | .other => True

/-- `_validate_recovered_tool_security`, where `denial` gives the message and the reason with which
the tool security enforcer denies the arguments of a task. -/
def validateRecoveredToolSecurity (textOf : Value → String)
    (denial : RuntimeContext → RuntimeTask → Option (String × String)) (context : RuntimeContext)
    (task : RuntimeTask) (routing : RoutingDecision) : Option RuntimeResult :=
  if task.actionType ≠ "tool" then none
  else (denial context task).map fun (message, reason) =>
    taskResult task routing .failed (some message) [
      ("security_blocked", .bool true),
      ("security_reason", .str reason),
      ("failure_type", .str FailureType.toolSecurityDenied.value),
      ("operation_outcome", .str OperationOutcome.failedBeforeEffect.value),
      ("recovery_security_revalidated", .bool true),
      ("tool", match Dict.get? task.metadata "tool" with
        | some tool => if tool.truthy then .str (tool.str?.getD (textOf tool)) else .str ""
        | none => .str "")]

lemma recordedHarmless_iff {result : RuntimeResult} {outcome : OperationOutcome}
    (h : declaredOutcome result = some outcome) :
    RecordedHarmless result ↔ outcome.harmless = true := by
  constructor
  · rintro ⟨other, hother, hharmless⟩
    obtain rfl := Option.some.inj (h.symm.trans hother)
    exact hharmless
  · intro hharmless
    exact ⟨outcome, h, hharmless⟩

lemma recordedHarmless_annotate (context : RuntimeContext) (task : RuntimeTask) (attempt : ℕ)
    (result : RuntimeResult) :
    RecordedHarmless (annotate cfg context task attempt result) ↔
      (operationOutcome cfg task result).harmless = true := by
  refine recordedHarmless_iff ?_
  have hget : Dict.get? (annotate cfg context task attempt result).metadata "operation_outcome" =
      some (.str (operationOutcome cfg task result).value) := by
    unfold annotate
    dsimp only
    rw [Dict.get?_update]
    rfl
  unfold declaredOutcome
  rw [hget]
  exact OperationOutcome.ofValue?_value _

/-! ## Results of the tool executor -/

/-- The keys that nothing adds to a result of the tool executor. -/
def outcomeKeys : List String := ["operation_outcome", "failure_type"]

lemma get?_executed (context : RuntimeContext) (task : RuntimeTask) (result : RuntimeResult)
    {key : String} (hkey : key ∈ outcomeKeys) :
    Dict.get? (executed context task result).metadata key = Dict.get? result.metadata key := by
  have hadded : Dict.get? (Dict.ofList (taskAuthorizationMetadata task)) key = none ∧
      Dict.get? (Dict.ofList [("runtime_action_type", Json.str task.actionType),
        ("runtime_request_id", Json.str context.requestId)]) key = none := by
    unfold taskAuthorizationMetadata
    rcases List.mem_pair.mp hkey with rfl | rfl
    · cases task.permit <;> exact ⟨rfl, rfl⟩
    · cases task.permit <;> exact ⟨rfl, rfl⟩
  unfold executed
  dsimp only
  rw [Dict.get?_update, Dict.get?_update, hadded.1, hadded.2]
  rfl

lemma get?_reported (task : RuntimeTask) (world : ToolWorld) (result : RuntimeResult)
    {key : String} (hkey : key ∈ outcomeKeys) :
    Dict.get? (reported task world result).metadata key = Dict.get? result.metadata key := by
  unfold reported
  dsimp only
  rcases List.mem_pair.mp hkey with rfl | rfl
  · rw [Dict.get?_update]
    cases world.governance with
    | none => rfl
    | some decision =>
        show (none : Option Json).or (Dict.get? (Dict.update _ _) _) = _
        rw [Dict.get?_update]
        rfl
  · rw [Dict.get?_update]
    cases world.governance with
    | none => rfl
    | some decision =>
        show (none : Option Json).or (Dict.get? (Dict.update _ _) _) = _
        rw [Dict.get?_update]
        rfl

lemma Undeclared.executed {result : RuntimeResult} {error : String} (h : Undeclared result error)
    (context : RuntimeContext) (task : RuntimeTask) :
    Undeclared (Engine.executed context task result) error where
  status := h.status
  outcome := (get?_executed context task result (by decide)).trans h.outcome
  failureType := (get?_executed context task result (by decide)).trans h.failureType
  error := h.error

lemma Undeclared.reported {result : RuntimeResult} {error : String} (h : Undeclared result error)
    (task : RuntimeTask) (world : ToolWorld) :
    Undeclared (ToolExecutor.reported task world result) error where
  status := h.status
  outcome := (get?_reported task world result (by decide)).trans h.outcome
  failureType := (get?_reported task world result (by decide)).trans h.failureType
  error := h.error

lemma declaredOutcome_executed (context : RuntimeContext) (task : RuntimeTask)
    (result : RuntimeResult) :
    declaredOutcome (executed context task result) = declaredOutcome result := by
  unfold declaredOutcome
  rw [get?_executed context task result (by decide)]

lemma declaredOutcome_reported (task : RuntimeTask) (world : ToolWorld) (result : RuntimeResult) :
    declaredOutcome (reported task world result) = declaredOutcome result := by
  unfold declaredOutcome
  rw [get?_reported task world result (by decide)]

lemma explains_undeclared {task : RuntimeTask} {result : RuntimeResult} {error : String}
    (h : Undeclared result error) (context : RuntimeContext) (attempt : ℕ) :
    Explains cfg task (annotate cfg context task attempt (executed context task result))
      (.blocked (.refused error)) := by
  show _ ↔ _
  rw [recordedHarmless_annotate, (h.executed context task).harmless cfg]
  rfl

lemma explains_declared {task : RuntimeTask} {result : RuntimeResult} {obstacle : Obstacle}
    (h : declaredOutcome result = some .failedBeforeEffect)
    (hobstacle : obstacle.harmless task = true) (context : RuntimeContext) (attempt : ℕ) :
    Explains cfg task (annotate cfg context task attempt (executed context task result))
      (.blocked obstacle) := by
  show _ ↔ _
  rw [recordedHarmless_annotate, hobstacle, operationOutcome, declaredOutcome_executed, h]
  exact iff_of_true rfl rfl

lemma explains_called {task : RuntimeTask} {result : RuntimeResult}
    {declared : Option OperationOutcome}
    (h : declaredOutcome result = none ∨ declaredOutcome result = declared)
    (context : RuntimeContext) (attempt : ℕ) :
    Explains cfg task (annotate cfg context task attempt (executed context task result))
      (.called declared) := by
  intro hclass hrecorded
  have htool := actionType_of_nonIdempotent cfg hclass
  rw [recordedHarmless_annotate] at hrecorded
  cases hresult : declaredOutcome (executed context task result) with
  | none =>
      rw [harmless_of_tool cfg htool hresult] at hrecorded
      cases hrecorded
  | some outcome =>
      rw [operationOutcome, hresult] at hrecorded
      rw [declaredOutcome_executed] at hresult
      rcases h with hnone | hdeclared
      · rw [hnone] at hresult
        cases hresult
      · exact ⟨outcome, hdeclared.symm.trans hresult, hrecorded⟩

lemma declaredOutcome_managedResult (task : RuntimeTask) (routing : RoutingDecision)
    (result : ToolResult) :
    declaredOutcome (managedResult task routing result) = none ∨
      declaredOutcome (managedResult task routing result) = declaredIn result.metadata := by
  unfold managedResult
  dsimp only
  split
  · exact .inl rfl
  · split
    · exact .inl rfl
    · refine .inr ?_
      unfold declaredOutcome declaredIn taskResult
      dsimp only
      rw [Dict.get?_update]
      rfl

lemma undeclared_managedResult (task : RuntimeTask) (routing : RoutingDecision) (error : String) :
    Undeclared (managedResult task routing { ok := false, error := some error })
      (orText (some error) "Tool execution failed") := by
  unfold managedResult
  dsimp only
  rw [if_neg Bool.false_ne_true]
  split
  · rename_i hmatches
    obtain rfl := Option.some.inj hmatches
    exact ⟨fun h => (by cases h), rfl, rfl, rfl⟩
  · exact ⟨fun h => (by cases h), rfl, rfl, rfl⟩

lemma explains_execute (context : RuntimeContext) (task : RuntimeTask) (routing : RoutingDecision)
    (world : ToolWorld) (attempt : ℕ) :
    Explains cfg task
      (annotate cfg context task attempt (executed context task (execute task routing world)))
      (toolAttempt task world) := by
  unfold execute toolAttempt
  cases task.permit.filter fun permit =>
      isInternet task && !permit.constraints.networkAllowed with
  | some permit => exact explains_declared cfg rfl rfl context attempt
  | none =>
      cases world.guard.filter fun decision => !decision.allowed with
      | some decision =>
          have hdenied : Undeclared (guardDenied task routing decision) decision.text :=
            ⟨fun h => (by cases h), rfl, rfl, rfl⟩
          exact explains_undeclared cfg hdenied context attempt
      | none =>
          cases world.governance.join with
          | some violation =>
              have hblocked : Undeclared
                  (governanceBlocked task routing violation world.recordId) violation.text :=
                ⟨fun h => (by cases h), rfl, rfl, rfl⟩
              exact explains_undeclared cfg hblocked context attempt
          | none =>
              cases world.security.filter fun verdict => !verdict.allowed with
              | some verdict =>
                  refine explains_declared cfg ?_ rfl context attempt
                  unfold declaredOutcome securityDenied taskResult
                  dsimp only
                  rw [Dict.get?_update]
                  cases world.governance <;> rfl
              | none =>
                  show Explains cfg task _ (managedAttempt world.managed)
                  cases world.managed with
                  | refused error =>
                      exact explains_undeclared cfg
                        ((undeclared_managedResult task routing error).reported task world)
                        context attempt
                  | ran result =>
                      refine explains_called cfg ?_ context attempt
                      rw [declaredOutcome_reported]
                      exact declaredOutcome_managedResult task routing result
                  | raised called error =>
                      have hraised : Undeclared (taskResult task routing .failed (some error) [])
                          error := ⟨fun h => (by cases h), rfl, rfl, rfl⟩
                      cases called with
                      | true =>
                          refine explains_called cfg (.inl ?_) context attempt
                          rw [declaredOutcome_reported]
                          rfl
                      | false =>
                          exact explains_undeclared cfg (hraised.reported task world) context
                            attempt

end Engine

end Samaktha
