import Samaktha.Contracts.Planning
import Samaktha.Runtime.Reliability

/-!
# The permit gate

`enforceCapPermit` is the one test between a task and its executor.  It raises where
`required_permissions` is not iterable, lets a task through with `none`, and otherwise returns
the result that stands for the task: a pause where CAP asks the user, a failure in every
other case.

`enforceCapPermit_eq_none` says what a task that is let through satisfies, and
`enforceCapPermit_eq_some` what the gate answers otherwise: a refusal carries its own text and
no failure class, so that the classification reads the text.

The pause's summary of the arguments, which is shown to the user and read by nothing else, is
left out.
-/

namespace Samaktha

namespace Value

/-- The items of an iterable value; `none` where iteration raises `TypeError`. -/
def items? : Value → Option (List Value)
  | list xs => some xs
  | tuple xs => some xs
  | str s => some (s.toList.map fun c => str (String.ofList [c]))
  | enum s => some (s.toList.map fun c => str (String.ofList [c]))
  | dict kvs => some (kvs.map fun kv =>
      match kv.1 with
      | .str s => str s
      | .other _ text => other text true)
  | _ => Option.none

end Value

/-- `task.metadata.get("tool")`, as the text `normalize_target` makes of it: `str` of the
value.  Values that are not texts are read by `textOf`. -/
def toolId (textOf : Value → String) (metadata : Dict String Value) : Option String :=
  match Dict.get? metadata "tool" with
  | none => none
  | some value => if value.isNone then none else some ((value.str?).getD (textOf value))

/-- `authorization_metadata`, the fields of the permit that travel with every result. -/
def authorizationMetadata (permit : ExecutionPermit) : Dict String Json :=
  [("permit_id", .str permit.permitId),
    ("operation_digest", .str permit.operationDigest),
    ("authorization_decision", .str permit.decision.value),
    ("authorization_source", .str permit.approvalSource),
    ("policy_reference", .str permit.policyReference)]

def taskAuthorizationMetadata (task : RuntimeTask) : Dict String Json :=
  match task.permit with
  | none => []
  | some permit => authorizationMetadata permit

def blocked (task : RuntimeTask) (routing : RoutingDecision) (diagnostic error : String)
    (metadata : Dict String Json := []) : RuntimeResult where
  taskId := task.taskId
  status := .failed
  routing := some routing
  error := some error
  metadata := Dict.update [("diagnostic", .str diagnostic)] metadata

/-- The subject a permit must carry in a context. -/
def expectedSubject (context : RuntimeContext) : String :=
  let derived := authorizationSubjectId context.userId context.sessionId context.requestId
  if (context.userId.getD "" ≠ "") || (context.sessionId.getD "" ≠ "") then derived
  else orText context.authorizationSubject derived

variable (platform : Platform) (textOf : Value → String)

/-- The target the gate recomputes for a task. -/
def gateTarget (task : RuntimeTask) : String :=
  authorizationTarget task.actionType
    (if task.actionType = "tool" then toolId textOf task.metadata else none)

/-- The operation digest the gate recomputes for a task. -/
def gateDigest (task : RuntimeTask) : String :=
  operationDigest platform task.actionType (some (gateTarget textOf task))
    (authorizationPayload task.actionType task.inputs)

/-- Whether the operation a permit is bound to is the task's own. -/
def operationMatches (permit : ExecutionPermit) (task : RuntimeTask) : Bool :=
  permit.actionType = task.actionType && permit.target = some (gateTarget textOf task)
    && permit.operationDigest = gateDigest platform textOf task

/-- The pause returned where CAP asks the user. -/
def approvalPause (permit : ExecutionPermit) (task : RuntimeTask) (routing : RoutingDecision) :
    RuntimeResult where
  taskId := task.taskId
  status := .paused
  routing := some routing
  pause := some {
    reason := "cap_approval"
    metadata := [
      ("action_type", .str task.actionType),
      ("action", match Dict.get? task.inputs "action" with
        | some action => if action.truthy then action.toJson else .str task.actionType
        | none => .str task.actionType),
      ("target", match permit.target with | some target => .str target | none => .null),
      ("tool", ((Dict.get? task.metadata "tool").map Value.toJson).getD .null),
      ("risk", .str permit.risk.value),
      ("permissions", .arr (permit.requiredPermissions.map fun scope => .str scope.value)),
      ("operation_digest", .str permit.operationDigest)] }
  error := some "approval required: CAP governance requests user confirmation"
  metadata :=
    Dict.update [("diagnostic", .str "approval_required")] (authorizationMetadata permit)

/-- The checks of an ALLOW permit that come before the permissions are read, in the order of
the source: the diagnostic and the text of the first that fails. -/
def permitRefusal (permit : ExecutionPermit) (context : RuntimeContext) (task : RuntimeTask)
    (now : ℤ) : Option (String × String) :=
  if !permit.verifyIntegrity platform then
    some ("permit_integrity_invalid",
      "Runtime execution blocked: ExecutionPermit integrity validation failed.")
  else if permit.isNotYetValid now then
    some ("permit_not_yet_valid",
      "Runtime execution blocked: ExecutionPermit is not yet valid.")
  else if permit.isExpired now then
    some ("permit_expired", "Runtime execution blocked: ExecutionPermit has expired.")
  else if permit.subjectId ≠ expectedSubject context then
    some ("permit_subject_mismatch",
      "Runtime execution blocked: ExecutionPermit subject does not match.")
  else if permit.sessionId ≠ none && context.sessionId ≠ permit.sessionId then
    some ("permit_session_mismatch",
      "Runtime execution blocked: ExecutionPermit session does not match.")
  else if permit.workspaceId ≠ none && context.workspaceId ≠ permit.workspaceId then
    some ("permit_workspace_mismatch",
      "Runtime execution blocked: ExecutionPermit workspace does not match.")
  else if permit.actionId ≠ task.taskId then
    some ("permit_action_mismatch",
      "Runtime execution blocked: ExecutionPermit action does not match.")
  else if !operationMatches platform textOf permit task then
    some ("permit_operation_mismatch",
      "Runtime execution blocked: ExecutionPermit operation binding does not match.")
  else none

/-- The checks of an ALLOW permit that follow, on the permissions the task lists. -/
def constraintRefusal (permit : ExecutionPermit) (task : RuntimeTask)
    (routing : RoutingDecision) (permissions : List Value) : Option (String × String) :=
  if permissions.map Value.str? ≠ permit.requiredPermissions.map fun s => some s.value then
    some ("permit_permissions_mismatch",
      "Runtime execution blocked: ExecutionPermit permissions do not match.")
  else if platform.validateConstraints
      ((Dict.get? task.metadata "execution_constraints").getD (.dict [])) ≠
        some permit.constraints then
    some ("permit_constraints_mismatch",
      "Runtime execution blocked: ExecutionPermit constraints do not match.")
  else if isProviderAction task.actionType
      && routing.executionConstraints ≠ permit.constraints then
    some ("routing_constraints_mismatch",
      "Runtime execution blocked: Router did not preserve CAP constraints.")
  else none

/-- `enforce_cap_permit` with a context, at a clock reading. -/
def enforceCapPermit (context : RuntimeContext) (task : RuntimeTask)
    (routing : RoutingDecision) (now : ℤ) : Except String (Option RuntimeResult) :=
  match task.permit with
  | none => .ok (some (blocked task routing "unapproved_task"
      "Runtime execution blocked: Task lacks a valid ExecutionPermit from CAP."))
  | some permit =>
      let authorization := authorizationMetadata permit
      if permit.decision = .askUser then .ok (some (approvalPause permit task routing))
      else if permit.decision ≠ .allow then
        .ok (some (blocked task routing "approval_blocked"
          "approval required: CAP governance blocked user request" authorization))
      else
        match permitRefusal platform textOf permit context task now with
        | some (diagnostic, error) =>
            .ok (some (blocked task routing diagnostic error authorization))
        | none =>
            match ((Dict.get? task.metadata "required_permissions").getD (.tuple [])).items? with
            | none => .error "TypeError: required_permissions is not iterable"
            | some permissions =>
                match constraintRefusal platform permit task routing permissions with
                | some (diagnostic, error) =>
                    .ok (some (blocked task routing diagnostic error authorization))
                | none => .ok none

/-! ## What the gate lets through -/

lemma permitRefusal_eq_none {permit : ExecutionPermit} {context : RuntimeContext}
    {task : RuntimeTask} {now : ℤ}
    (h : permitRefusal platform textOf permit context task now = none) :
    permit.verifyIntegrity platform = true ∧ permit.isExpired now = false ∧
      permit.subjectId = expectedSubject context ∧ permit.actionId = task.taskId ∧
      operationMatches platform textOf permit task = true := by
  unfold permitRefusal at h
  repeat' split at h
  all_goals first | (cases h; done) | skip
  rename_i hintegrity hearly hexpired hsubject hsession hworkspace haction hoperation
  refine ⟨by simpa using hintegrity, by simpa using hexpired, by simpa using hsubject,
    by simpa using haction, by simpa using hoperation⟩

lemma enforceCapPermit_eq_none {context : RuntimeContext} {task : RuntimeTask}
    {routing : RoutingDecision} {now : ℤ}
    (h : enforceCapPermit platform textOf context task routing now = .ok none) :
    ∃ permit, task.permit = some permit ∧ permit.decision = .allow ∧
      permitRefusal platform textOf permit context task now = none := by
  unfold enforceCapPermit at h
  cases hpermit : task.permit with
  | none => simp [hpermit] at h
  | some permit =>
      simp only [hpermit] at h
      split at h
      · simp at h
      · split at h
        · simp at h
        · rename_i hallow
          cases hrefusal : permitRefusal platform textOf permit context task now with
          | some refusal =>
              simp [hrefusal] at h
          | none => exact ⟨permit, rfl, by simpa using hallow, hrefusal⟩

lemma operationMatches_of_enforceCapPermit {context : RuntimeContext} {task : RuntimeTask}
    {routing : RoutingDecision} {now : ℤ}
    (h : enforceCapPermit platform textOf context task routing now = .ok none) :
    ∃ permit, task.permit = some permit ∧ permit.operationDigest = gateDigest platform textOf task
      ∧ permit.target = some (gateTarget textOf task) ∧ permit.actionType = task.actionType := by
  obtain ⟨permit, hpermit, -, hrefusal⟩ := enforceCapPermit_eq_none platform textOf h
  have hmatch := (permitRefusal_eq_none platform textOf hrefusal).2.2.2.2
  simp only [operationMatches, Bool.and_eq_true, decide_eq_true_eq] at hmatch
  exact ⟨permit, hpermit, hmatch.2, hmatch.1.2, hmatch.1.1⟩

/-! ## What the gate answers -/

/-- The texts that are read as a refusal by CAP. -/
def refusalText (error : String) : Bool :=
  Text.contains (Text.lower error) "permit" || Text.contains (Text.lower error) "governance"

lemma refused_of_refusalText {error : String} (h : refusalText error = true)
    (actionType : String) : (classifyFailure error actionType).refused = true := by
  rcases Bool.or_eq_true_iff.mp h with h | h
  · exact classifyFailure_of_permit h actionType
  · exact classifyFailure_of_governance h actionType

lemma refusalText_of_permit {error : String}
    (h : Text.contains (Text.lower error) "permit" = true) : refusalText error = true := by
  rw [refusalText, h, Bool.true_or]

lemma refusalText_of_governance {error : String}
    (h : Text.contains (Text.lower error) "governance" = true) : refusalText error = true := by
  rw [refusalText, h, Bool.or_true]

lemma refusalText_of_permitRefusal {permit : ExecutionPermit} {context : RuntimeContext}
    {task : RuntimeTask} {now : ℤ} {diagnostic error : String}
    (h : permitRefusal platform textOf permit context task now = some (diagnostic, error)) :
    refusalText error = true := by
  unfold permitRefusal at h
  repeat' split at h
  all_goals first
    | (obtain ⟨-, rfl⟩ := Prod.mk.inj (Option.some.inj h)
       exact refusalText_of_permit (Text.contains_lower_of_chars rfl rfl rfl))
    | cases h

/-- Every refusal of the second group speaks of the permit, except the one that only concerns
tasks of a provider. -/
lemma refusalText_of_constraintRefusal {permit : ExecutionPermit} {task : RuntimeTask}
    {routing : RoutingDecision} {permissions : List Value} {diagnostic error : String}
    (htool : isProviderAction task.actionType = false)
    (h : constraintRefusal platform permit task routing permissions = some (diagnostic, error)) :
    refusalText error = true := by
  unfold constraintRefusal at h
  split at h
  · obtain ⟨-, rfl⟩ := Prod.mk.inj (Option.some.inj h)
    exact refusalText_of_permit (Text.contains_lower_of_chars rfl rfl rfl)
  · split at h
    · obtain ⟨-, rfl⟩ := Prod.mk.inj (Option.some.inj h)
      exact refusalText_of_permit (Text.contains_lower_of_chars rfl rfl rfl)
    · -- the router's refusal is the one left, and it needs a provider
      rw [htool] at h
      simp at h

/-- A result of the gate that is read as a refusal: it failed, and neither a failure class nor
an outcome of its own stands in its metadata. -/
structure Refusal (result : RuntimeResult) : Prop where
  status : result.status = .failed
  text : ∃ error, result.error = some error ∧ refusalText error = true
  failureType : Dict.get? result.metadata "failure_type" = none
  finishReason : Dict.get? result.metadata "provider_finish_reason" = none
  outcome : Dict.get? result.metadata "operation_outcome" = none

lemma refusal_blocked {task : RuntimeTask} {routing : RoutingDecision} {error : String}
    (herror : refusalText error = true) (diagnostic : String)
    (permit : Option ExecutionPermit) :
    Refusal (blocked task routing diagnostic error
      ((permit.map authorizationMetadata).getD [])) := by
  refine ⟨rfl, ⟨error, rfl, herror⟩, ?_, ?_, ?_⟩ <;> cases permit <;> rfl

lemma enforceCapPermit_eq_some {context : RuntimeContext} {task : RuntimeTask}
    {routing : RoutingDecision} {now : ℤ} {result : RuntimeResult}
    (htool : isProviderAction task.actionType = false)
    (h : enforceCapPermit platform textOf context task routing now = .ok (some result)) :
    result.status = .paused ∨ Refusal result := by
  unfold enforceCapPermit at h
  cases hpermit : task.permit with
  | none =>
      simp only [hpermit, Except.ok.injEq, Option.some.injEq] at h
      subst h
      refine .inr (refusal_blocked ?_ _ none)
      exact refusalText_of_permit (Text.contains_lower_of_chars rfl rfl rfl)
  | some permit =>
      simp only [hpermit] at h
      split at h
      · simp only [Except.ok.injEq, Option.some.injEq] at h
        subst h
        exact .inl rfl
      · split at h
        · simp only [Except.ok.injEq, Option.some.injEq] at h
          subst h
          refine .inr (refusal_blocked ?_ _ (some permit))
          exact refusalText_of_governance (Text.contains_lower_of_chars rfl rfl rfl)
        · split at h
          · rename_i diagnostic error hrefusal
            simp only [Except.ok.injEq, Option.some.injEq] at h
            subst h
            have htext := refusalText_of_permitRefusal platform textOf hrefusal
            exact .inr (refusal_blocked htext _ (some permit))
          · split at h
            · cases h
            · split at h
              · rename_i diagnostic error hrefusal
                simp only [Except.ok.injEq, Option.some.injEq] at h
                subst h
                have htext := refusalText_of_constraintRefusal platform htool hrefusal
                exact .inr (refusal_blocked htext _ (some permit))
              · simp at h

/-! ## The mismatch diagnostic -/

lemma operationMatches_of_permitRefusal {permit : ExecutionPermit} {context : RuntimeContext}
    {task : RuntimeTask} {now : ℤ} {error : String}
    (h : permitRefusal platform textOf permit context task now =
      some ("permit_operation_mismatch", error)) :
    operationMatches platform textOf permit task = false := by
  unfold permitRefusal at h
  split_ifs at h with h₁ h₂ h₃ h₄ h₅ h₆ h₇ h₈
  all_goals first
    | (simp only [Option.some.injEq, Prod.mk.injEq] at h
       exact absurd h.1 (by decide))
    | simpa using h₈

lemma ne_mismatch_of_constraintRefusal {permit : ExecutionPermit} {task : RuntimeTask}
    {routing : RoutingDecision} {permissions : List Value} {diagnostic error : String}
    (h : constraintRefusal platform permit task routing permissions = some (diagnostic, error)) :
    diagnostic ≠ "permit_operation_mismatch" := by
  unfold constraintRefusal at h
  split_ifs at h with h₁ h₂ h₃
  all_goals
    obtain ⟨rfl, -⟩ := Prod.mk.inj (Option.some.inj h)
    decide

/-- A result of the gate that names the operation was given because the operation does not
match. -/
lemma operationMatches_of_mismatch {context : RuntimeContext} {task : RuntimeTask}
    {routing : RoutingDecision} {now : ℤ} {permit : ExecutionPermit} {result : RuntimeResult}
    (hpermit : task.permit = some permit)
    (h : enforceCapPermit platform textOf context task routing now = .ok (some result))
    (hdiagnostic : Dict.get? result.metadata "diagnostic" =
      some (.str "permit_operation_mismatch")) :
    operationMatches platform textOf permit task = false := by
  have hblocked : ∀ diagnostic error, Dict.get? (blocked task routing diagnostic error
      (authorizationMetadata permit)).metadata "diagnostic" = some (.str diagnostic) :=
    fun _ _ => rfl
  unfold enforceCapPermit at h
  simp only [hpermit] at h
  split at h
  · obtain rfl := Option.some.inj (Except.ok.inj h)
    exact absurd (Json.str.inj (Option.some.inj hdiagnostic)) (by decide)
  · split at h
    · obtain rfl := Option.some.inj (Except.ok.inj h)
      rw [hblocked] at hdiagnostic
      exact absurd (Json.str.inj (Option.some.inj hdiagnostic)) (by decide)
    · split at h
      · rename_i diagnostic error hrefusal
        obtain rfl := Option.some.inj (Except.ok.inj h)
        rw [hblocked] at hdiagnostic
        obtain rfl := Json.str.inj (Option.some.inj hdiagnostic)
        exact operationMatches_of_permitRefusal platform textOf hrefusal
      · split at h
        · cases h
        · split at h
          · rename_i diagnostic error hrefusal
            obtain rfl := Option.some.inj (Except.ok.inj h)
            rw [hblocked] at hdiagnostic
            exact absurd (Json.str.inj (Option.some.inj hdiagnostic))
              (ne_mismatch_of_constraintRefusal platform hrefusal)
          · cases h

/-- A permit that is bound to no session and no workspace and passes the checks on itself and
on its principal. -/
structure Effective (permit : ExecutionPermit) (context : RuntimeContext) (task : RuntimeTask)
    (now : ℤ) : Prop where
  allow : permit.decision = .allow
  integrity : permit.verifyIntegrity platform = true
  early : permit.isNotYetValid now = false
  expired : permit.isExpired now = false
  subject : permit.subjectId = expectedSubject context
  session : permit.sessionId = none
  workspace : permit.workspaceId = none
  action : permit.actionId = task.taskId

lemma permitRefusal_of_effective {permit : ExecutionPermit} {context : RuntimeContext}
    {task : RuntimeTask} {now : ℤ} (h : Effective platform permit context task now) :
    permitRefusal platform textOf permit context task now =
      if operationMatches platform textOf permit task then none
      else some ("permit_operation_mismatch",
        "Runtime execution blocked: ExecutionPermit operation binding does not match.") := by
  unfold permitRefusal
  simp only [h.integrity, h.early, h.expired, h.subject, h.session, h.workspace, h.action]
  cases operationMatches platform textOf permit task with
  | false => simp
  | true => simp

lemma enforceCapPermit_of_mismatch {context : RuntimeContext} {task : RuntimeTask}
    {now : ℤ} {permit : ExecutionPermit} (routing : RoutingDecision)
    (hpermit : task.permit = some permit) (h : Effective platform permit context task now)
    (hoperation : operationMatches platform textOf permit task = false) :
    enforceCapPermit platform textOf context task routing now =
      .ok (some (blocked task routing "permit_operation_mismatch"
        "Runtime execution blocked: ExecutionPermit operation binding does not match."
        (authorizationMetadata permit))) := by
  have hrefusal := permitRefusal_of_effective platform textOf h
  unfold enforceCapPermit
  simp [hpermit, h.allow, hrefusal, hoperation]

lemma enforceCapPermit_of_match {context : RuntimeContext} {task : RuntimeTask}
    {now : ℤ} {permit : ExecutionPermit} (routing : RoutingDecision)
    (hpermit : task.permit = some permit) (h : Effective platform permit context task now)
    (hoperation : operationMatches platform textOf permit task = true)
    (hlisted : Dict.get? task.metadata "required_permissions" = none)
    (hrequired : permit.requiredPermissions = [])
    (hconstraints : platform.validateConstraints
      ((Dict.get? task.metadata "execution_constraints").getD (.dict [])) = some permit.constraints)
    (htool : isProviderAction task.actionType = false) :
    enforceCapPermit platform textOf context task routing now = .ok none := by
  have hrefusal := permitRefusal_of_effective platform textOf h
  unfold enforceCapPermit
  simp [hpermit, h.allow, hrefusal, hoperation, hlisted, Value.items?, constraintRefusal,
    hrequired, hconstraints, htool]

end Samaktha
