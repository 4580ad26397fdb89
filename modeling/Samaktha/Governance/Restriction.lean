import Samaktha.Governance.Evaluation

/-!
# Policies that only restrict

A policy that exempts nothing from approval and lowers no risk is compared with no policy at all.
It is at least as strict, with one exception: a permission rule that does not ask for approval
takes away the approval that a high risk asks for, since its flag is read as an answer
(`restriction_iff`).
-/

namespace Samaktha

/-- Denial is stricter than a request for approval, and that stricter than permission. -/
def ApprovalDecision.strictness : ApprovalDecision → ℕ
  | deny => 2
  | askUser => 1
  | _ => 0

namespace GovernanceEngine

/-- The built-in classification of a request. -/
def builtinRisk (request : EvaluationRequest) : ActionRisk := (request.risk none).1

/-- The policy has no rule that exempts from approval, and none that lowers the risk of the
request. -/
structure RestrictsOnly (policy : GovernancePolicy) (request : EvaluationRequest) : Prop where
  approvals : ∀ rule ∈ policy.approvals, rule.require = true
  risks : ∀ rule ∈ policy.risks,
    RiskClassifier.applies rule request.targetType request.target request.combined = true →
      (builtinRisk request).rank ≤ rule.risk.rank

/-- A permission rule grants all that is asked for and leaves `approval_required` unset, the
built-in classification is high, no approval rule applies, and there is no permit. -/
structure Exempted (policy : GovernancePolicy) (request : EvaluationRequest) : Prop where
  rule : ∃ rule, policy.ruleFor request.targetType request.target = some rule ∧
    rule.approvalRequired = false
  risky : riskAtLeast (builtinRisk request) .high = true
  granted : request.denied (some policy) = []
  unruled : ∀ rule ∈ policy.approvals, ApprovalPolicyEngine.applies rule request.targetType
    request.target (request.risk (some policy)).1 = false
  unpermitted : request.permit = none

variable {platform : Platform} {now : ℤ} {engine : GovernanceEngine} {policy : GovernancePolicy}
  {request : EvaluationRequest}

/-! ## Risk -/

lemma rank_classifyScopes (permissions : List ToolPermission) (approval : Bool)
    (default : ActionRisk) :
    (RiskClassifier.classifyScopes permissions false .low).1.rank ≤
      (RiskClassifier.classifyScopes permissions approval default).1.rank := by
  unfold RiskClassifier.classifyScopes
  split
  · exact le_rfl
  · cases approval with
    | true =>
        simp only [Bool.false_or, Bool.true_or, if_true]
        split
        · exact le_rfl
        · split <;> decide
    | false =>
        split
        · exact le_rfl
        · split
          · exact le_rfl
          · exact Nat.zero_le _

lemma rank_risk (h : RestrictsOnly policy request) :
    (builtinRisk request).rank ≤ (request.risk (some policy)).1.rank := by
  unfold EvaluationRequest.risk RiskClassifier.classify
  dsimp only
  split
  · rename_i rule hfind
    have happlies : RiskClassifier.applies rule request.targetType request.target
        request.combined = true :=
      List.find?_some (p := fun rule => RiskClassifier.applies rule request.targetType
        request.target request.combined) hfind
    exact h.risks rule (List.mem_of_find?_eq_some hfind) happlies
  · exact rank_classifyScopes _ _ _

lemma riskAtLeast_of_le {risk risk' threshold : ActionRisk} (hle : risk.rank ≤ risk'.rank)
    (h : riskAtLeast risk threshold = true) : riskAtLeast risk' threshold = true :=
  decide_eq_true ((of_decide_eq_true h).trans hle)

/-! ## Decisions -/

/-- Without a policy, what is requested among what is declared is not denied, and approval is asked
for from a high risk on. -/
lemma policyDecision_none (hrequested : ∀ p ∈ request.requestedPermissions,
    p ∈ request.declaredPermissions) :
    (request.policyDecision none).1 =
      if riskAtLeast (builtinRisk request) .high then .askUser else .allow := by
  have hdenied : request.denied none = [] := by
    refine List.filter_eq_nil_iff.mpr fun p hmem => ?_
    have hdeclared : p ∈ request.declaredPermissions := by
      rcases List.mem_append.mp (List.mem_eraseDups.mp hmem) with hdeclared | hasked
      · exact List.mem_eraseDups.mp hdeclared
      · exact hrequested p (List.mem_eraseDups.mp hasked)
    rw [decide_eq_true_eq, not_not]
    exact List.mem_eraseDups.mpr hdeclared
  unfold EvaluationRequest.policyDecision ApprovalPolicyEngine.decision
  rw [if_neg (not_not_intro hdenied)]
  show (if (ApprovalPolicyEngine.required request.targetType request.target (builtinRisk request)
    none none).1 then _ else _ : ApprovalDecision × List String).1 = _
  unfold ApprovalPolicyEngine.required
  dsimp only [Option.bind_none, Option.map_none, Option.getD_none]
  cases riskAtLeast (builtinRisk request) .high with
  | true => rfl
  | false => rfl

lemma strictness_policyDecision :
    (request.policyDecision (some policy)).1.strictness =
      if request.denied (some policy) ≠ [] then 2
      else if (ApprovalPolicyEngine.required request.targetType request.target
        (request.risk (some policy)).1 (some policy)
        ((request.rule (some policy)).map PermissionRule.approvalRequired)).1 then 1
      else 0 := by
  unfold EvaluationRequest.policyDecision ApprovalPolicyEngine.decision
  split
  · rfl
  · dsimp only
    split <;> rfl

/-- The policy lets a risky request through without approval exactly where it is exempted. -/
lemma required_eq_false_iff (h : RestrictsOnly policy request)
    (hrisky : riskAtLeast (builtinRisk request) .high = true) :
    (ApprovalPolicyEngine.required request.targetType request.target
        (request.risk (some policy)).1 (some policy)
        ((request.rule (some policy)).map PermissionRule.approvalRequired)).1 = false ↔
      (∃ rule, policy.ruleFor request.targetType request.target = some rule ∧
        rule.approvalRequired = false) ∧
      ∀ rule ∈ policy.approvals, ApprovalPolicyEngine.applies rule request.targetType
        request.target (request.risk (some policy)).1 = false := by
  have hhigh := riskAtLeast_of_le (rank_risk h) hrisky
  unfold ApprovalPolicyEngine.required
  dsimp only [Option.bind_some]
  cases hfind : policy.approvals.find? fun rule => ApprovalPolicyEngine.applies rule
      request.targetType request.target (request.risk (some policy)).1 with
  | some rule =>
      have happlies : ApprovalPolicyEngine.applies rule request.targetType request.target
          (request.risk (some policy)).1 = true :=
        List.find?_some (p := fun rule => ApprovalPolicyEngine.applies rule request.targetType
          request.target (request.risk (some policy)).1) hfind
      have hmem := List.mem_of_find?_eq_some hfind
      dsimp only
      rw [h.approvals rule hmem]
      refine iff_of_false (by decide) fun hnone => ?_
      rw [hnone.2 rule hmem] at happlies
      cases happlies
  | none =>
      have hunruled : ∀ rule ∈ policy.approvals, ApprovalPolicyEngine.applies rule
          request.targetType request.target (request.risk (some policy)).1 = false :=
        fun rule hmem => Bool.eq_false_iff.mpr (List.find?_eq_none.mp hfind rule hmem)
      have hsame : request.rule (some policy) =
          policy.ruleFor request.targetType request.target := rfl
      rw [hsame]
      cases hrule : policy.ruleFor request.targetType request.target with
      | none =>
          rw [Option.map_none]
          dsimp only
          rw [hhigh, if_pos rfl]
          refine iff_of_false (by decide) fun hnone => ?_
          obtain ⟨⟨rule, hsome, -⟩, -⟩ := hnone
          cases hsome
      | some rule =>
          rw [Option.map_some]
          exact ⟨fun hfalse => ⟨⟨rule, rfl, hfalse⟩, hunruled⟩, fun hnone => by
            obtain ⟨⟨found, hfound, hflag⟩, -⟩ := hnone
            rw [Option.some.inj hfound]
            exact hflag⟩

/-- Without a permit, such a policy is at least as strict unless the request is exempted. -/
lemma strictness_le_iff (h : RestrictsOnly policy request)
    (hrequested : ∀ p ∈ request.requestedPermissions, p ∈ request.declaredPermissions)
    (hpermit : request.permit = none) :
    (request.policyDecision none).1.strictness ≤
        (request.policyDecision (some policy)).1.strictness ↔ ¬ Exempted policy request := by
  rw [policyDecision_none hrequested, strictness_policyDecision]
  cases hrisky : riskAtLeast (builtinRisk request) .high with
  | false =>
      refine iff_of_true (Nat.zero_le _) fun hexempted => ?_
      rw [hexempted.risky] at hrisky
      cases hrisky
  | true =>
      rw [if_pos rfl]
      by_cases hgranted : request.denied (some policy) = []
      · rw [if_neg (not_not_intro hgranted)]
        have hrequired := required_eq_false_iff h hrisky
        constructor
        · intro hle hexempted
          rw [hrequired.mpr ⟨hexempted.rule, hexempted.unruled⟩] at hle
          exact absurd hle (by decide)
        · intro hnot
          split
          · exact le_rfl
          · rename_i hfalse
            obtain ⟨hrule, hunruled⟩ := hrequired.mp (Bool.eq_false_iff.mpr hfalse)
            exact absurd ⟨hrule, hrisky, hgranted, hunruled, hpermit⟩ hnot
      · rw [if_pos hgranted]
        exact iff_of_true (by decide) fun hexempted => hgranted hexempted.granted

/-- An engine without policies. -/
def ungoverned : GovernanceEngine := {}

lemma resolvePolicy_ungoverned (policyId : Option String) :
    ungoverned.resolvePolicy policyId = none := by
  unfold resolvePolicy
  split
  · rfl
  · split <;> rfl

lemma decision_evaluate (engine : GovernanceEngine) (request : EvaluationRequest) :
    (engine.evaluate platform now request).decision =
      (withPermit platform now request.permit request.subject
        ((request.policyDecision (engine.resolvePolicy request.policyId)).1,
          (request.risk (engine.resolvePolicy request.policyId)).2 ++
            (request.policyDecision (engine.resolvePolicy request.policyId)).2)).1 := rfl

lemma strictness_le_of_permit (hrequested : ∀ p ∈ request.requestedPermissions,
    p ∈ request.declaredPermissions) {permit : ExecutionPermit}
    (hpermit : request.permit = some permit) :
    (ungoverned.evaluate platform now request).decision.strictness ≤
      (engine.evaluate platform now request).decision.strictness := by
  rw [decision_evaluate ungoverned, decision_evaluate engine, hpermit, resolvePolicy_ungoverned,
    policyDecision_none hrequested]
  unfold withPermit
  dsimp only
  cases permitValid platform now permit request.subject with
  | false => exact le_rfl
  | true =>
      cases riskAtLeast (builtinRisk request) .high with
      | true => exact Nat.zero_le _
      | false => exact Nat.zero_le _

/-- For every target and all permissions, the requested among the declared, a policy that exempts
nothing and lowers no risk is at least as strict as no policy exactly when the request is not
exempted by a permission rule that does not ask for approval. -/
theorem restriction_iff (hpolicy : engine.resolvePolicy request.policyId = some policy)
    (hrequested : ∀ p ∈ request.requestedPermissions, p ∈ request.declaredPermissions)
    (h : RestrictsOnly policy request) :
    (ungoverned.evaluate platform now request).decision.strictness ≤
        (engine.evaluate platform now request).decision.strictness ↔
      ¬ Exempted policy request := by
  cases hpermit : request.permit with
  | none =>
      have hnone := resolvePolicy_ungoverned request.policyId
      rw [decision_evaluate ungoverned, decision_evaluate engine, hpermit, hpolicy, hnone]
      exact strictness_le_iff h hrequested hpermit
  | some permit =>
      refine iff_of_true (strictness_le_of_permit hrequested hpermit) fun hexempted => ?_
      rw [hexempted.unpermitted] at hpermit
      cases hpermit

/-! ### A rule that only grants -/

/-- A policy whose only rule lets the shell execute, with `approval_required` or not. -/
def shellPolicy (approvalRequired : Bool) : GovernancePolicy where
  policyId := "shell"
  version := "1.0.0"
  name := "Shell"
  tools := [{
    target := "shell"
    permissions := [.execute]
    approvalRequired := approvalRequired }]

/-- The shell asks for what it declares. -/
def shellRequest : EvaluationRequest where
  targetType := .tool
  target := "shell"
  declaredPermissions := [.execute]

/-- With approval required the policy does not relax anything. -/
theorem restriction_iff_sample :
    (ungoverned.evaluate plainPlatform 0 shellRequest).decision.strictness ≤
      ((applyAll {} [.setDefault (shellPolicy true)]).evaluate plainPlatform 0
        shellRequest).decision.strictness := by
  have hpolicy : (applyAll {} [.setDefault (shellPolicy true)]).resolvePolicy
      shellRequest.policyId = some (shellPolicy true) := by decide
  refine (restriction_iff hpolicy (fun p hmem => by cases hmem)
    ⟨fun _ hmem => absurd hmem List.not_mem_nil,
      fun _ hmem => absurd hmem List.not_mem_nil⟩).mpr fun hexempted => ?_
  obtain ⟨rule, hrule, hflag⟩ := hexempted.rule
  obtain rfl := Option.some.inj hrule
  cases hflag

/-- With the flag at its default the shell needs approval without the policy and none with it. -/
theorem rule_exempts :
    (ungoverned.evaluate plainPlatform 0 shellRequest).decision = .askUser ∧
      ((applyAll {} [.setDefault (shellPolicy false)]).evaluate plainPlatform 0
        shellRequest).decision = .allow ∧
      (shellPolicy false).approvals = [] ∧ (shellPolicy false).risks = [] :=
  ⟨by decide, by decide, rfl, rfl⟩

end GovernanceEngine

end Samaktha
