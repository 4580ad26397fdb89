import Samaktha.Governance.Policies

/-!
# Evaluation and enforcement

`RiskClassifier`, `ApprovalPolicyEngine` and `GovernanceEngine.evaluate` with the three functions
that enforce its decision.  The decision falls in two steps: what the policy says of the subject
(`policyDecision`), and what a permit makes of that; a permit lifts a request for approval, never
a denial.  The audit log and the metrics are left out.
-/

namespace Samaktha

namespace ActionRisk

def rank : ActionRisk → ℕ
  | low => 0
  | medium => 1
  | high => 2
  | critical => 3

end ActionRisk

def riskAtLeast (risk threshold : ActionRisk) : Bool := threshold.rank ≤ risk.rank

/-- Whether a rule for a target and a type, each of which may be left open, is for a subject. -/
def matchesTarget (ruleTarget : String) (ruleType : Option TargetType) (targetType : TargetType)
    (target : String) : Bool :=
  (ruleTarget = "*" || ruleTarget = target) && (ruleType = none || ruleType = some targetType)

namespace RiskClassifier

/-- Whether a risk rule is for a subject with these permissions. -/
def applies (rule : RiskRule) (targetType : TargetType) (target : String)
    (permissions : List ToolPermission) : Bool :=
  matchesTarget rule.target rule.targetType targetType target &&
    (rule.scopes.isEmpty || permissions.any fun p => p ∈ rule.scopes)

/-- The classification where no rule applies. -/
def classifyScopes (permissions : List ToolPermission) (approvalRequired : Bool)
    (default : ActionRisk) : ActionRisk × List String :=
  if permissions.any fun p => p ∈ [.admin, .delete] then
    (.critical, ["destructive permission declared"])
  else if approvalRequired || permissions.any fun p => p ∈ [.execute, .network] then
    (.high, [if approvalRequired then "approval is required"
      else "execute/network permission declared"])
  else if permissions.any fun p => p ∈ [.write, .modify] then
    (.medium, ["write/modify permission declared"])
  else (default, ["default risk applied"])

def classify (targetType : TargetType) (target : String) (permissions : List ToolPermission)
    (approvalRequired : Bool) (policy : Option GovernancePolicy) : ActionRisk × List String :=
  match policy with
  | none => classifyScopes permissions approvalRequired .low
  | some policy =>
      match policy.risks.find? fun rule => applies rule targetType target permissions with
      | some rule => (rule.risk, ["risk rule '" ++ rule.target ++ "' matched"])
      | none => classifyScopes permissions approvalRequired policy.defaultRisk

end RiskClassifier

namespace ApprovalPolicyEngine

/-- `_matches_rule`. -/
def applies (rule : ApprovalRule) (targetType : TargetType) (target : String)
    (risk : ActionRisk) : Bool :=
  matchesTarget rule.target rule.targetType targetType target &&
    (rule.riskAtLeast.map (riskAtLeast risk)).getD true

def required (targetType : TargetType) (target : String) (risk : ActionRisk)
    (policy : Option GovernancePolicy) (ruleApproval : Option Bool) : Bool × List String :=
  match policy.bind fun policy =>
      policy.approvals.find? fun rule => applies rule targetType target risk with
  | some rule =>
      (rule.require, [if rule.require then "approval required by policy rule"
        else "approval exempted by policy rule"])
  | none =>
      match ruleApproval with
      | some approval => (approval, ["target permission rule requires approval"])
      | none =>
          if riskAtLeast risk .high then (true, ["high/critical risk requires approval"])
          else if (policy.map GovernancePolicy.defaultApprovalRequired).getD false then
            (true, ["policy default requires approval"])
          else (false, ["no approval required"])

def decision (targetType : TargetType) (target : String) (risk : ActionRisk)
    (deniedPermissions : List ToolPermission) (policy : Option GovernancePolicy)
    (ruleApproval : Option Bool) : ApprovalDecision × List String :=
  if deniedPermissions ≠ [] then
    (.deny, ["missing granted permission(s): "
      ++ ", ".intercalate (deniedPermissions.map ToolPermission.value)])
  else
    let (approvalRequired, reasons) := required targetType target risk policy ruleApproval
    if approvalRequired then (.askUser, reasons ++ ["human approval requested"])
    else (.allow, reasons)

end ApprovalPolicyEngine

/-- The arguments of `evaluate`. -/
structure EvaluationRequest where
  targetType : TargetType
  target : String
  declaredPermissions : List ToolPermission := []
  requestedPermissions : List ToolPermission := []
  policyId : Option String := none
  subject : Option String := none
  grantFromDeclared : Bool := false
  permit : Option ExecutionPermit := none
  deriving Repr, DecidableEq, Inhabited

/-- Deterministic governance outcome for a single subject. -/
structure GovernanceDecision where
  targetType : TargetType
  target : String
  decision : ApprovalDecision
  risk : ActionRisk
  grantedPermissions : List ToolPermission := []
  requiredPermissions : List ToolPermission := []
  approvalRequired : Bool := false
  policyId : Option String := none
  policyHits : List String := []
  reasons : List String := []
  permitId : Option String := none
  operationDigest : Option String := none
  authorizationSource : Option String := none
  deriving Repr, DecidableEq, Inhabited

/-- Structured description of a governance violation. -/
structure PolicyViolation where
  code : String
  message : String
  targetType : TargetType
  target : String
  decision : GovernanceDecision
  deriving Repr, DecidableEq, Inhabited

namespace EvaluationRequest

variable (request : EvaluationRequest) (policy : Option GovernancePolicy)

/-- The permission rule for the subject. -/
def rule : Option PermissionRule :=
  policy.bind fun policy => policy.ruleFor request.targetType request.target

def granted : List ToolPermission :=
  match request.rule policy, request.grantFromDeclared with
  | some rule, false => rule.permissions.eraseDups
  | _, _ => request.declaredPermissions.eraseDups

/-- The declared and the requested permissions. -/
def combined : List ToolPermission :=
  (request.declaredPermissions.eraseDups ++ request.requestedPermissions.eraseDups).eraseDups

/-- The permissions that are not granted. -/
def denied : List ToolPermission :=
  request.combined.filter fun p => p ∉ request.granted policy

/-- The risk of the subject, and why. -/
def risk : ActionRisk × List String :=
  RiskClassifier.classify request.targetType request.target request.combined
    (((request.rule policy).map PermissionRule.approvalRequired).getD false) policy

/-- What the policy says of the subject, and why. -/
def policyDecision : ApprovalDecision × List String :=
  ApprovalPolicyEngine.decision request.targetType request.target (request.risk policy).1
    (request.denied policy) policy ((request.rule policy).map PermissionRule.approvalRequired)

end EvaluationRequest

namespace GovernanceEngine

variable (platform : Platform) (now : ℤ) (engine : GovernanceEngine)

/-- Whether a permit is good for the subject of a request. -/
def permitValid (permit : ExecutionPermit) (subject : Option String) : Bool :=
  permit.verifyIntegrity platform && !permit.isExpired now && permit.decision = .allow &&
    (subject = none || subject = some permit.subjectId)

/-- What a permit makes of a decision. -/
def withPermit (permit : Option ExecutionPermit) (subject : Option String)
    (decided : ApprovalDecision × List String) : ApprovalDecision × List String :=
  match permit with
  | none => decided
  | some permit =>
      if !permitValid platform now permit subject then
        (.deny, decided.2 ++ ["invalid CAP ExecutionPermit"])
      else if decided.1 = .askUser then
        (.allow, decided.2 ++ ["human approval satisfied by exact CAP ExecutionPermit"])
      else decided

def evaluate (request : EvaluationRequest) : GovernanceDecision :=
  let policy := engine.resolvePolicy request.policyId
  let risk := request.risk policy
  let approval := request.policyDecision policy
  let decided := withPermit platform now request.permit request.subject
    (approval.1, risk.2 ++ approval.2)
  { targetType := request.targetType
    target := request.target
    decision := decided.1
    risk := risk.1
    grantedPermissions := request.granted policy
    requiredPermissions := ((request.rule policy).map fun rule =>
      rule.permissions.eraseDups).getD []
    approvalRequired := decided.1 = .askUser
    policyId := policy.map GovernancePolicy.key
    policyHits := decided.2
    reasons := decided.2
    permitId := request.permit.map ExecutionPermit.permitId
    operationDigest := request.permit.map ExecutionPermit.operationDigest
    authorizationSource := request.permit.map ExecutionPermit.approvalSource }

def denialMessage (decision : GovernanceDecision) : String :=
  let reasons := if decision.reasons = [] then decision.decision.value
    else "; ".intercalate decision.reasons
  "Governance " ++ decision.decision.value ++ " for " ++ decision.targetType.value ++ " '"
    ++ decision.target ++ "': " ++ reasons

/-- Returns an allowed decision, and raises for any other. -/
def enforced (code : String) (decision : GovernanceDecision) :
    Except PolicyViolation GovernanceDecision :=
  if decision.decision = .allow then .ok decision
  else .error {
    code := code
    message := denialMessage decision
    targetType := decision.targetType
    target := decision.target
    decision := decision }

def enforceTool (toolId : String) (declared requested : List ToolPermission)
    (policyId subject : Option String) (permit : Option ExecutionPermit) :
    Except PolicyViolation GovernanceDecision :=
  enforced "permission_denied" (engine.evaluate platform now {
    targetType := .tool
    target := toolId
    declaredPermissions := declared
    requestedPermissions := requested
    policyId := policyId
    subject := subject
    permit := permit })

def enforceProvider (providerId : String) (requested : List ToolPermission)
    (policyId subject : Option String) (permit : Option ExecutionPermit) :
    Except PolicyViolation GovernanceDecision :=
  enforced "provider_blocked" (engine.evaluate platform now {
    targetType := .provider
    target := providerId
    requestedPermissions := requested
    policyId := policyId
    subject := subject
    permit := permit })

def enforceCapability (capability toolId : String) (declared : List ToolPermission)
    (policyId subject : Option String) (permit : Option ExecutionPermit) :
    Except PolicyViolation GovernanceDecision :=
  let decision := engine.evaluate platform now {
    targetType := .capability
    target := capability
    declaredPermissions := declared
    policyId := policyId
    subject := subject
    permit := permit
    grantFromDeclared := true }
  let missing := decision.requiredPermissions.filter fun p => p ∉ decision.grantedPermissions
  if missing ≠ [] then
    .error {
      code := "capability_permissions_missing"
      message := "Capability '" ++ capability ++ "' (tool '" ++ toolId
        ++ "') requires permission(s): " ++ ", ".intercalate (missing.map ToolPermission.value)
      targetType := .capability
      target := capability
      decision := decision }
  else enforced "permission_denied" decision

/-! ## What is enforced -/

/-- Everything declared and requested is granted, the policy does not deny, and it allows or a
good permit of the subject was given. -/
structure Authorized (request : EvaluationRequest) : Prop where
  granted : ∀ p ∈ request.declaredPermissions ++ request.requestedPermissions,
    p ∈ request.granted (engine.resolvePolicy request.policyId)
  undenied : (engine.evaluate platform now { request with permit := none }).decision ≠ .deny
  approved : (engine.evaluate platform now { request with permit := none }).decision = .allow ∨
    ∃ permit, request.permit = some permit ∧ permit.verifyIntegrity platform = true ∧
      permit.isExpired now = false ∧ permit.decision = .allow ∧
      ∀ subject, request.subject = some subject → permit.subjectId = subject

section

variable {platform : Platform} {now : ℤ} {engine : GovernanceEngine} {request : EvaluationRequest}

lemma evaluate_without_permit :
    (engine.evaluate platform now { request with permit := none }).decision =
      (request.policyDecision (engine.resolvePolicy request.policyId)).1 := rfl

/-- The policy denies exactly where a permission is not granted. -/
lemma policyDecision_eq_deny_iff {policy : Option GovernancePolicy} :
    (request.policyDecision policy).1 = .deny ↔ request.denied policy ≠ [] := by
  unfold EvaluationRequest.policyDecision ApprovalPolicyEngine.decision
  by_cases hdenied : request.denied policy = []
  · rw [if_neg (not_not_intro hdenied)]
    refine iff_of_false ?_ (not_not_intro hdenied)
    dsimp only
    split
    · exact ApprovalDecision.noConfusion
    · exact ApprovalDecision.noConfusion
  · rw [if_pos hdenied]
    exact ⟨fun _ => hdenied, fun _ => rfl⟩

lemma granted_of_denied_eq_nil {policy : Option GovernancePolicy} (h : request.denied policy = [])
    {p : ToolPermission} (hmem : p ∈ request.declaredPermissions ++ request.requestedPermissions) :
    p ∈ request.granted policy := by
  by_contra hnot
  have hcombined : p ∈ request.combined := by
    rw [EvaluationRequest.combined, List.mem_eraseDups]
    rcases List.mem_append.mp hmem with hdeclared | hrequested
    · exact List.mem_append_left _ (List.mem_eraseDups.mpr hdeclared)
    · exact List.mem_append_right _ (List.mem_eraseDups.mpr hrequested)
  have hdenied : p ∈ request.denied policy :=
    List.mem_filter.mpr ⟨hcombined, decide_eq_true hnot⟩
  rw [h] at hdenied
  cases hdenied

/-- A permit lifts a request for approval if it is good, and nothing else. -/
lemma withPermit_eq_allow_iff {permit : Option ExecutionPermit} {subject : Option String}
    {decided : ApprovalDecision × List String} :
    (withPermit platform now permit subject decided).1 = .allow ↔
      (permit = none ∧ decided.1 = .allow) ∨
        ∃ given, permit = some given ∧ permitValid platform now given subject = true ∧
          (decided.1 = .allow ∨ decided.1 = .askUser) := by
  cases permit with
  | none => simp [withPermit]
  | some given =>
      unfold withPermit
      cases hvalid : permitValid platform now given subject with
      | false => simp [hvalid]
      | true =>
          by_cases hask : decided.1 = .askUser
          · simp [hask, hvalid]
          · simp [hask, hvalid]

lemma permitValid_eq_true_iff {permit : ExecutionPermit} {subject : Option String} :
    permitValid platform now permit subject = true ↔
      permit.verifyIntegrity platform = true ∧ permit.isExpired now = false ∧
        permit.decision = .allow ∧ ∀ s, subject = some s → permit.subjectId = s := by
  unfold permitValid
  simp only [Bool.and_eq_true, Bool.not_eq_true', decide_eq_true_eq, Bool.or_eq_true, and_assoc]
  refine and_congr_right fun _ => and_congr_right fun _ => and_congr_right fun _ => ?_
  cases subject with
  | none => exact iff_of_true (.inl rfl) (fun s hs => by cases hs)
  | some s =>
      constructor
      · rintro (hnone | hsame) t ht
        · cases hnone
        · rw [← Option.some.inj hsame, Option.some.inj ht]
      · intro hsame
        exact .inr (congrArg some (hsame s rfl).symm)

lemma authorized_of_allow (h : (engine.evaluate platform now request).decision = .allow) :
    engine.Authorized platform now request := by
  have hcases := withPermit_eq_allow_iff.mp h
  have hdecided : (request.policyDecision (engine.resolvePolicy request.policyId)).1 = .allow ∨
      (request.policyDecision (engine.resolvePolicy request.policyId)).1 = .askUser := by
    rcases hcases with ⟨-, hallow⟩ | ⟨given, -, -, hdecided⟩
    · exact .inl hallow
    · exact hdecided
  have hundenied : (request.policyDecision (engine.resolvePolicy request.policyId)).1 ≠ .deny := by
    rcases hdecided with hallow | hask
    · rw [hallow]
      decide
    · rw [hask]
      decide
  refine ⟨fun p hmem => ?_, hundenied, ?_⟩
  · refine granted_of_denied_eq_nil ?_ hmem
    by_contra hdenied
    exact hundenied (policyDecision_eq_deny_iff.mpr hdenied)
  · rcases hcases with ⟨-, hallow⟩ | ⟨given, hgiven, hvalid, -⟩
    · exact .inl hallow
    · exact .inr ⟨given, hgiven, permitValid_eq_true_iff.mp hvalid⟩

lemma allow_of_enforced {code : String} {decision returned : GovernanceDecision}
    (h : enforced code decision = .ok returned) : decision.decision = .allow := by
  unfold enforced at h
  split at h
  · assumption
  · cases h

lemma covers_of_enforced {capability toolId : String} {declared : List ToolPermission}
    {policyId subject : Option String} {permit : Option ExecutionPermit}
    {returned : GovernanceDecision}
    (h : engine.enforceCapability platform now capability toolId declared policyId subject permit =
      .ok returned) {policy : GovernancePolicy}
    (hpolicy : engine.resolvePolicy policyId = some policy)
    {rule : PermissionRule} (hrule : policy.ruleFor .capability capability = some rule)
    {p : ToolPermission} (hmem : p ∈ rule.permissions) : p ∈ declared := by
  unfold enforceCapability at h
  dsimp only at h
  split at h
  · cases h
  · rename_i hmissing
    by_contra hnot
    refine hmissing (List.ne_nil_of_mem (a := p) (List.mem_filter.mpr ⟨?_, decide_eq_true ?_⟩))
    · simp only [evaluate, EvaluationRequest.rule, hpolicy, Option.bind_some, hrule,
        Option.map_some, Option.getD_some]
      exact List.mem_eraseDups.mpr hmem
    · intro hgranted
      refine hnot (List.mem_eraseDups.mp ?_)
      simpa only [evaluate, EvaluationRequest.granted, EvaluationRequest.rule, hpolicy,
        Option.bind_some, hrule] using hgranted

lemma deny_of_denied {permit : ExecutionPermit}
    (h : (engine.evaluate platform now { request with permit := none }).decision = .deny) :
    (engine.evaluate platform now { request with permit := some permit }).decision = .deny := by
  rw [evaluate_without_permit] at h
  show (withPermit platform now (some permit) request.subject
    ((request.policyDecision (engine.resolvePolicy request.policyId)).1, _)).1 = .deny
  rw [h]
  unfold withPermit
  dsimp only
  split
  · rfl
  · rfl

/-- What `enforce_tool`, `enforce_provider` and `enforce_capability` let through is authorized; a
permit does not lift a denial; and the tool of a capability that is let through declares the
permissions which the capability's rule requires. -/
theorem enforce_sound (platform : Platform) (now : ℤ) (engine : GovernanceEngine)
    (target toolId : String) (declared requested : List ToolPermission)
    (policyId subject : Option String) (permit : Option ExecutionPermit)
    (returned : GovernanceDecision) :
    (engine.enforceTool platform now target declared requested policyId subject permit =
        .ok returned →
      engine.Authorized platform now {
        targetType := .tool, target := target, declaredPermissions := declared
        requestedPermissions := requested, policyId := policyId, subject := subject
        permit := permit }) ∧
    (engine.enforceProvider platform now target requested policyId subject permit = .ok returned →
      engine.Authorized platform now {
        targetType := .provider, target := target, requestedPermissions := requested
        policyId := policyId, subject := subject, permit := permit }) ∧
    (engine.enforceCapability platform now target toolId declared policyId subject permit =
        .ok returned →
      engine.Authorized platform now {
        targetType := .capability, target := target, declaredPermissions := declared
        policyId := policyId, subject := subject, permit := permit, grantFromDeclared := true } ∧
      ∀ policy rule, engine.resolvePolicy policyId = some policy →
        policy.ruleFor .capability target = some rule → ∀ p ∈ rule.permissions, p ∈ declared) ∧
    ∀ (request : EvaluationRequest) (given : ExecutionPermit),
      (engine.evaluate platform now { request with permit := none }).decision = .deny →
        (engine.evaluate platform now { request with permit := some given }).decision ≠ .allow := by
  refine ⟨fun h => authorized_of_allow (allow_of_enforced h),
    fun h => authorized_of_allow (allow_of_enforced h),
    fun h => ⟨?_, fun policy rule hpolicy hrule p hmem => covers_of_enforced h hpolicy hrule hmem⟩,
    fun request given hdenied => ?_⟩
  · unfold enforceCapability at h
    dsimp only at h
    split at h
    · cases h
    · exact authorized_of_allow (allow_of_enforced h)
  · rw [deny_of_denied hdenied]
    decide

/-- A platform on which every permit is signed alike. -/
def plainPlatform : Platform where
  digest _ := ""
  signPermit _ := ""
  validateConstraints _ := none

/-- A permit for the subject `local`. -/
def samplePermit : ExecutionPermit where
  permitId := "p"
  actionId := "a"
  subjectId := "local"
  actionType := "shell"
  target := none
  operationDigest := ""
  risk := .high
  constraints := {}
  policyReference := ""
  approvalSource := "user"
  issuedAt := 0
  expiresAt := 900
  decision := .allow

/-- A tool that executes, under a permit. -/
def executing : EvaluationRequest where
  targetType := .tool
  target := "shell"
  declaredPermissions := [.execute]
  subject := some "local"
  permit := some samplePermit

/-- A tool that executes is let through under a permit; a provider that asks for what nothing
grants stays denied under it. -/
theorem enforce_sound_sample :
    Authorized plainPlatform 0 {} executing ∧
      (evaluate plainPlatform 0 {} {
        targetType := .provider, target := "mail", requestedPermissions := [.network]
        permit := some samplePermit }).decision ≠ .allow :=
  let sound := enforce_sound plainPlatform 0 {} "shell" "" [.execute] [] none (some "local")
    (some samplePermit) (evaluate plainPlatform 0 {} executing)
  ⟨sound.1 (by rfl), sound.2.2.2
    { targetType := .provider, target := "mail", requestedPermissions := [.network] } samplePermit
    (by rfl)⟩

end

end GovernanceEngine

end Samaktha
