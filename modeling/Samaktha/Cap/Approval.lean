import Samaktha.Contracts.Policy

/-!
# Policy and approval

CAP turns a planned action into a policy decision (`PolicyEngine.evaluate`) and a policy
decision into a signed permit (`ApprovalEngine.authorize`); a permit that asks the user is
resolved once (`ApprovalEngine.resolve`).

The privacy classifier, a list of patterns over the action's text, and the store of remembered
permissions are fields of `Cap`.
-/

namespace Samaktha

/-- A planned action submitted for trust evaluation. -/
structure PlannedAction where
  actionId : String
  actionType : String
  description : String
  target : Option String := none
  payload : Inputs := []
  requestedPermissions : List PermissionScope := []
  metadata : Dict String Value := []
  deriving Inhabited

/-- The policy's verdict on an action. -/
structure PolicyDecision where
  actionId : String
  allowed : Bool
  risk : ActionRisk
  requiredPermissions : List PermissionScope
  approvalRequired : Bool
  useLocalModel : Bool
  constraints : ExecutionConstraints := {}
  reasons : List String := []
  deriving Inhabited

inductive PermissionDecision where
  | allowed
  | denied
  | unknown
  deriving Repr, DecidableEq, Inhabited

structure Cap where
  /-- `PrivacyClassifier.classify`, its category. -/
  classify : PlannedAction → PrivacyCategory
  /-- `PermissionStore.get`, where there is a store. -/
  permissionStore : Option (String → String → PermissionScope → PermissionDecision) := none

namespace PolicyEngine

def readActions : List String := ["read", "list", "search", "summarize", "inspect"]

def writeActions : List String := ["write", "create", "update", "edit", "save", "organize"]

def deleteActions : List String := ["delete", "remove", "destroy"]

def executeActions : List String := ["execute", "run", "shell", "command"]

def networkActions : List String := ["send", "email", "post", "request", "upload", "download"]

def internetActions : List String :=
  ["internet", "web_search", "search_web", "fetch_url", "browse"]

/-- `_required_permissions`: every scope once, in the order of its first mention. -/
def requiredPermissions (actionType : String) (action : PlannedAction) : List PermissionScope :=
  let added (actions : List String) (scope : PermissionScope) : List PermissionScope :=
    if actionType ∈ actions then [scope] else []
  let permissions := action.requestedPermissions ++ added readActions .read
    ++ added writeActions .write ++ added deleteActions .delete
    ++ added executeActions .execute ++ added networkActions .network
    ++ added internetActions .network
  permissions.foldl (fun seen scope => if scope ∈ seen then seen else seen ++ [scope]) []

def riskFor (actionType : String) (privacy : PrivacyCategory)
    (permissions : List PermissionScope) : ActionRisk :=
  if privacy = .critical ∨ .delete ∈ permissions ∨ .execute ∈ permissions then .critical
  else if privacy = .sensitive ∨ .write ∈ permissions ∨ .network ∈ permissions then .high
  else if privacy = .personal ∨ privacy = .internal then .medium
  else if actionType ∉ readActions then .medium
  else .low

def approvalRequired (risk : ActionRisk) (permissions : List PermissionScope) : Bool :=
  risk = .high || risk = .critical ||
    [PermissionScope.write, .delete, .execute, .network, .read].any fun s => s ∈ permissions

def reasons (risk : ActionRisk) (approval useLocalModel : Bool) : List String :=
  ["Classified action risk as " ++ risk.value ++ "."]
    ++ (if approval then ["Human approval is required before execution."] else [])
    ++ (if useLocalModel then ["Sensitive data should stay on a local model boundary."] else [])

def evaluate (cap : Cap) (action : PlannedAction) : PolicyDecision :=
  let normalizedType := normalizeActionType action.actionType
  let privacy := cap.classify action
  let permissions := requiredPermissions normalizedType action
  let risk := riskFor normalizedType privacy permissions
  let approval := approvalRequired risk permissions
  let useLocalModel := privacy = .sensitive || privacy = .critical
  { actionId := action.actionId
    allowed := !approval && risk ≠ .critical
    risk := risk
    requiredPermissions := permissions
    approvalRequired := approval
    useLocalModel := useLocalModel
    constraints := {
      requiresLocalModel := useLocalModel, networkAllowed := true, privacyCategory := privacy }
    reasons := reasons risk approval useLocalModel }

end PolicyEngine

/-! ## Permits -/

/-- The identifier and the instant a permit is issued with. -/
structure Stamp where
  permitId : String
  now : ℤ
  deriving Repr, Inhabited

/-- The principal a permit is issued to. -/
structure Principal where
  subjectId : String
  sessionId : Option String := none
  workspaceId : Option String := none
  deriving Repr, Inhabited

variable (platform : Platform)

namespace ExecutionPermit

def sign (values : ExecutionPermit) : ExecutionPermit :=
  { values with integrityDigest := platform.signPermit { values with integrityDigest := "" } }

def issue (action : PlannedAction) (principal : Principal) (policy : PolicyDecision)
    (decision : ApprovalDecision) (reasons : List String) (approvalSource : String)
    (stamp : Stamp) : ExecutionPermit :=
  sign platform {
    permitId := stamp.permitId
    actionId := action.actionId
    subjectId := principal.subjectId
    sessionId := principal.sessionId
    workspaceId := principal.workspaceId
    actionType := normalizeActionType action.actionType
    target := normalizeTarget action.target
    operationDigest := Samaktha.operationDigest platform action.actionType action.target
      action.payload
    requiredPermissions := policy.requiredPermissions
    risk := policy.risk
    constraints := policy.constraints
    policyReference := "cap.policy_engine"
    approvalSource := approvalSource
    issuedAt := stamp.now
    expiresAt := stamp.now + permitLifetime
    decision := decision
    reasons := reasons }

/-- `resolve_pending`: the pending permit, reissued with the final decision. -/
def resolvePending (pending : ExecutionPermit) (decision : ApprovalDecision)
    (reasons : List String) (approvalSource : String) (stamp : Stamp) : ExecutionPermit :=
  sign platform { pending with
    permitId := stamp.permitId
    issuedAt := stamp.now
    expiresAt := stamp.now + permitLifetime
    decision := decision
    reasons := reasons
    approvalSource := approvalSource
    issuedBy := "cap.approval_engine" }

@[simp] lemma sign_operationDigest (values : ExecutionPermit) :
    (sign platform values).operationDigest = values.operationDigest := rfl

lemma verifyIntegrity_sign (values : ExecutionPermit) :
    (sign platform values).verifyIntegrity platform = true := by
  simp [verifyIntegrity, signature, sign]

lemma resolvePending_binding (pending : ExecutionPermit) (decision : ApprovalDecision)
    (reasons : List String) (approvalSource : String) (stamp : Stamp) :
    let permit := resolvePending platform pending decision reasons approvalSource stamp
    permit.actionId = pending.actionId ∧ permit.subjectId = pending.subjectId ∧
      permit.actionType = pending.actionType ∧ permit.target = pending.target ∧
      permit.operationDigest = pending.operationDigest :=
  ⟨rfl, rfl, rfl, rfl, rfl⟩

end ExecutionPermit

/-! ## Approval -/

/-- The outcome of CAP's decision. -/
structure ApprovalOutcome where
  decision : ApprovalDecision
  actionId : String
  reasons : List String := []
  deriving Inhabited

/-- Input of the approval engine. -/
structure ApprovalRequest where
  action : PlannedAction
  policy : PolicyDecision
  operation : Option PlannedAction := none
  rememberPermission : Bool := false

/-- A human decision submitted for a pending action. -/
structure ApprovalSubmission where
  actionId : String
  decision : ApprovalDecision
  reasons : List String := []

namespace ApprovalEngine

/-- The loop of `_remembered_permission` over the scopes of the policy. -/
def rememberedScopes (get : PermissionScope → PermissionDecision) :
    List PermissionScope → PermissionDecision
  | [] => .allowed
  | scope :: rest => if get scope = .allowed then rememberedScopes get rest else get scope

def rememberedPermission (cap : Cap) (request : ApprovalRequest) (subjectId : String) :
    PermissionDecision :=
  match cap.permissionStore with
  | none => .unknown
  | some get =>
      if request.policy.requiredPermissions.isEmpty then .unknown
      else rememberedScopes (get subjectId (orText request.action.target request.action.actionType))
        request.policy.requiredPermissions

/-- `decide`; what it stores in the permission store is left out. -/
def decide (cap : Cap) (request : ApprovalRequest) (subjectId : String) : ApprovalOutcome :=
  let outcome (decision : ApprovalDecision) (reasons : List String) : ApprovalOutcome :=
    { decision := decision, actionId := request.action.actionId, reasons := reasons }
  if !request.policy.allowed && !request.policy.approvalRequired then
    outcome .deny request.policy.reasons
  else if request.policy.approvalRequired then
    match rememberedPermission cap request subjectId with
    | .allowed => outcome .allow ["Remembered permission allows this action."]
    | .denied => outcome .deny ["Remembered permission denies this action."]
    | .unknown => outcome .askUser request.policy.reasons
  else if request.rememberPermission && cap.permissionStore.isSome then
    outcome .storePermission ["Permission can be remembered for future requests."]
  else outcome .allow request.policy.reasons

/-- `authorize`: CAP's sole executable authorization artifact. -/
def authorize (cap : Cap) (request : ApprovalRequest) (principal : Principal) (stamp : Stamp) :
    ExecutionPermit :=
  let outcome := decide cap request principal.subjectId
  let decision := if outcome.decision = .storePermission then .allow else outcome.decision
  let source :=
    if Text.contains (" ".intercalate outcome.reasons) "Remembered permission" then
      "remembered_permission"
    else "cap_policy"
  ExecutionPermit.issue platform (request.operation.getD request.action) principal request.policy
    decision outcome.reasons source stamp

def resolve (pending : ExecutionPermit) (submission : ApprovalSubmission) (subjectId : String)
    (source : String) (stamp : Stamp) : Except String ExecutionPermit :=
  if !pending.verifyIntegrity platform then
    .error "Pending ExecutionPermit integrity validation failed."
  else if pending.isExpired stamp.now then .error "Pending ExecutionPermit has expired."
  else if pending.decision ≠ .askUser then
    .error "ExecutionPermit is not awaiting human approval."
  else if submission.actionId ≠ pending.actionId then
    .error "Approval submission does not match the pending action."
  else if subjectId ≠ pending.subjectId then
    .error "Approval subject does not match the pending permit."
  else if submission.decision ≠ .allow ∧ submission.decision ≠ .deny then
    .error "Human approval must resolve to allow or deny."
  else
    .ok (ExecutionPermit.resolvePending platform pending submission.decision submission.reasons
      source stamp)

end ApprovalEngine

lemma authorize_binding (cap : Cap) (action operation : PlannedAction) (policy : PolicyDecision)
    (remember : Bool) (principal : Principal) (stamp : Stamp) :
    let permit := ApprovalEngine.authorize platform cap
      { action := action, policy := policy, operation := some operation,
        rememberPermission := remember } principal stamp
    permit.verifyIntegrity platform = true ∧
      permit.actionType = normalizeActionType operation.actionType ∧
      permit.target = normalizeTarget operation.target ∧
      permit.operationDigest =
        operationDigest platform operation.actionType operation.target operation.payload := by
  intro permit
  refine ⟨?_, rfl, rfl, rfl⟩
  exact ExecutionPermit.verifyIntegrity_sign platform _

end Samaktha
