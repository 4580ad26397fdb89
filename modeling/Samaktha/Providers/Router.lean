import Samaktha.Contracts.Planning
import Samaktha.Providers.Health
import Mathlib.Algebra.Order.Field.Rat
import Mathlib.Data.List.Sort

/-!
# The model router

`ModelRouter.route` with the registries it reads, the scoring engine, and the health checker that
it asks about every candidate.  A request that has to stay on the machine is answered with a
candidate that is local and no mock, or with none (`selectsFrom_route`,
`staysLocal_eligibleCandidates`).

Latencies and prices are exact numbers.  The text of a latency is a function of the router, and
the router's own metrics, its log lines and its trace events are left out.
-/

namespace Samaktha

/-! ## Requests and registrations -/

/-- Model selection request that must be sent through the router. -/
structure RouterRequest where
  purpose : String
  complexity : GoalComplexity
  estimatedContextTokens : ℤ
  requiresLocalModel : Bool
  requiresCode : Bool
  requiresReasoning : Bool
  requiresFastResponse : Bool := false
  maxLatencyMs : Option ℚ := none
  maxCostPer1kTokens : Option ℚ := none
  executionConstraints : ExecutionConstraints := {}
  deriving Inhabited

def RouterRequest.requiresLocal (request : RouterRequest) : Bool :=
  request.requiresLocalModel || request.executionConstraints.requiresLocalModel

/-- Router-local metadata for an available provider model. -/
structure ProviderModelRegistration where
  providerId : String
  modelId : String
  capabilities : List String := []
  executionLocation : ExecutionLocation := .cloud
  metadata : Dict String String := []
  deriving Repr, DecidableEq, Inhabited

def ProviderModelRegistration.providerKind (registration : ProviderModelRegistration) : String :=
  (Dict.get? registration.metadata "provider_kind").getD "cloud"

/-- Whether a candidate may answer a request that has to stay on the machine. -/
def ProviderModelRegistration.staysLocal (candidate : ProviderModelRegistration) : Bool :=
  candidate.executionLocation = .local && candidate.providerKind ≠ "mock"

/-- `RouterRegistry._normalize`. -/
def normalizeCapability (value : String) : String :=
  Text.replaceChar ' ' '_' (Text.replaceChar '-' '_' (Text.lower (Text.strip value)))

/-- `RouterRegistry.candidates`, of the registrations in their order. -/
def registryCandidates (registrations : List ProviderModelRegistration) (capability : String) :
    List ProviderModelRegistration :=
  registrations.filter fun registration =>
    (registration.capabilities.map normalizeCapability).contains (normalizeCapability capability)

/-- Performance characteristics of a provider's model. -/
structure ProviderCapability where
  providerId : String
  modelId : String
  executionLocation : ExecutionLocation := .cloud
  reasoningScore : ℤ := 5
  codingScore : ℤ := 5
  speedScore : ℤ := 5
  privacyScore : ℤ := 5
  costScore : ℤ := 5
  contextWindow : ℤ := 0
  inputCostPer1k : ℚ := 0
  outputCostPer1k : ℚ := 0
  latencyMs : Option ℚ := none
  deriving Inhabited

/-- Metadata describing a model independently from its provider. -/
structure ModelInfo where
  modelId : String
  contextWindow : ℤ
  reasoningScore : ℤ
  codingScore : ℤ
  speedScore : ℤ
  costScore : ℤ
  privacyScore : ℤ
  executionLocation : ExecutionLocation := .cloud
  inputCostPer1k : ℚ := 0
  outputCostPer1k : ℚ := 0
  deriving Inhabited

/-- Policy constraints that guide provider selection. -/
structure RoutingPolicy where
  requirePrivateExecution : Bool := false
  preferLocal : Bool := false
  preferLowCost : Bool := false
  preferFastResponse : Bool := false
  maxLatencyMs : Option ℚ := none
  maxCostPer1kTokens : Option ℚ := none
  requireContextTokens : Option ℤ := none
  deriving Inhabited

/-! ## Scores -/

/-- Computed suitability score for one provider and model. -/
structure ProviderScore where
  providerId : String
  modelId : String
  score : ℤ
  reasons : List String
  deriving Repr, DecidableEq, Inhabited

namespace ScoringEngine

/-- `a or b` of two optional numbers, where zero is no limit. -/
def limit (a b : Option ℚ) : Option ℚ :=
  match a with
  | some x => if x = 0 then b else some x
  | none => b

def eligible (request : RouterRequest) (cap : ProviderCapability) (policy : RoutingPolicy) :
    Bool :=
  let requiredContext :=
    max request.estimatedContextTokens (policy.requireContextTokens.getD 0)
  if cap.contextWindow ≠ 0 && cap.contextWindow < requiredContext then false
  else if (limit request.maxLatencyMs policy.maxLatencyMs).any fun latencyLimit =>
      cap.latencyMs.any fun latency => latency > latencyLimit then false
  else !(limit request.maxCostPer1kTokens policy.maxCostPer1kTokens).any fun costLimit =>
      let cost := cap.inputCostPer1k + cap.outputCostPer1k
      cost > costLimit && cost > 0

/-- `_score`: each contribution with the reason it leaves. -/
def score (request : RouterRequest) (cap : ProviderCapability) (policy : RoutingPolicy) :
    ProviderScore :=
  let factor : ℤ := if request.complexity = .high then 2 else 1
  let code : ℤ × List String :=
    if request.requiresCode then
      (cap.codingScore * (3 * factor),
        ["coding_score=" ++ toString cap.codingScore ++
          " (weight=" ++ toString (3 * factor) ++ ")"])
    else (0, [])
  let reasoning : ℤ × List String :=
    if request.requiresReasoning || request.complexity = .high then
      (cap.reasoningScore * (3 * factor),
        ["reasoning_score=" ++ toString cap.reasoningScore ++
          " (weight=" ++ toString (3 * factor) ++ ")"])
    else (0, [])
  let speed : ℤ × List String :=
    if request.requiresFastResponse || policy.preferFastResponse then
      (cap.speedScore * 2, ["speed_score=" ++ toString cap.speedScore ++ " (weight=2)"])
    else (0, [])
  let privacy : ℤ × List String :=
    if request.requiresLocalModel || policy.requirePrivateExecution || policy.preferLocal then
      (cap.privacyScore * 5 - (if cap.privacyScore < 5 then 50 else 0),
        ["privacy_score=" ++ toString cap.privacyScore ++ " (weight=5)"] ++
          if cap.privacyScore < 5 then ["penalty: low privacy score for private request"] else [])
    else (0, [])
  let cost : ℤ × List String :=
    if policy.preferLowCost then
      (cap.costScore * 2, ["cost_score=" ++ toString cap.costScore ++ " (weight=2)"])
    else (0, [])
  let reasons := code.2 ++ reasoning.2 ++ speed.2 ++ privacy.2 ++ cost.2
  { providerId := cap.providerId
    modelId := cap.modelId
    score := cap.speedScore * 1 + code.1 + reasoning.1 + speed.1 + privacy.1 + cost.1
    reasons := if reasons.isEmpty then ["base speed_score=" ++ toString cap.speedScore]
      else reasons }

/-- `rank`: a stable sort, the highest score first. -/
def rank (request : RouterRequest) (capabilities : List ProviderCapability)
    (policy : RoutingPolicy) : List ProviderScore :=
  ((capabilities.filter fun cap => eligible request cap policy).map fun cap =>
    score request cap policy).insertionSort fun s t => t.score ≤ s.score

end ScoringEngine

/-! ## The router -/

/-- A router, without the health checker that it shares. -/
structure ModelRouter where
  registrations : List ProviderModelRegistration := []
  capabilityRegistry : Option (Dict (String × String) ProviderCapability) := none
  policy : RoutingPolicy := {}
  /-- The models by their ids, where there is a model manager. -/
  modelManager : Option (Dict String ModelInfo) := none
  preferredProvider : Option String := none
  /-- `str` of a latency. -/
  latencyText : Option ℚ → String := fun _ => ""

namespace ModelRouter

def capabilityFromRequest (request : RouterRequest) : String :=
  let purpose := Text.lower request.purpose
  if Text.contains purpose "tool_execution" || Text.contains purpose "tool execution" then
    "tool_execution"
  else if request.requiresCode then "code_generation"
  else "text_generation"

def modelIsEligible (models : Dict String ModelInfo) (modelId : String) (request : RouterRequest) :
    Bool :=
  match Dict.get? models modelId with
  | none => true
  | some model =>
      if request.executionConstraints.requiresLocalModel && model.executionLocation ≠ .local then
        false
      else if model.contextWindow < request.estimatedContextTokens then false
      else if request.requiresCode && model.codingScore ≤ 0 then false
      else if request.requiresReasoning && model.reasoningScore ≤ 0 then false
      else true

/-- The capability data of a candidate: what its model says, or what was registered. -/
def capabilityOf (router : ModelRouter) (candidate : ProviderModelRegistration) :
    Option ProviderCapability :=
  match router.modelManager.bind fun models => Dict.get? models candidate.modelId with
  | some model => some {
      providerId := candidate.providerId
      modelId := candidate.modelId
      executionLocation := model.executionLocation
      reasoningScore := model.reasoningScore
      codingScore := model.codingScore
      speedScore := model.speedScore
      privacyScore := model.privacyScore
      costScore := model.costScore
      contextWindow := model.contextWindow
      inputCostPer1k := model.inputCostPer1k
      outputCostPer1k := model.outputCostPer1k }
  | none => router.capabilityRegistry.bind fun registered =>
      Dict.get? registered (candidate.providerId, candidate.modelId)

def capabilitiesForCandidates (router : ModelRouter)
    (candidates : List ProviderModelRegistration) : List ProviderCapability :=
  candidates.filterMap router.capabilityOf

/-- `scoreable_caps`: the capability data of the candidates, where the router has any. -/
def scoreableCaps (router : ModelRouter) (candidates : List ProviderModelRegistration) :
    List ProviderCapability :=
  if router.capabilityRegistry.isSome || router.modelManager.isSome then
    (router.capabilitiesForCandidates candidates).filter fun cap =>
      (candidates.map ProviderModelRegistration.providerId).contains cap.providerId
  else []

/-- The candidates that the health checker lets through, in turn; the `n`-th of them is checked
when the clock shows `clock n`. -/
def availableCandidates (clock : ℕ → ℤ) : ℕ → ProviderHealthChecker →
    List ProviderModelRegistration → List ProviderModelRegistration × ProviderHealthChecker
  | _, health, [] => ([], health)
  | n, health, candidate :: candidates =>
      let (available, health) := health.isAvailable candidate.providerId (clock n)
      let (rest, health) := availableCandidates clock (n + 1) health candidates
      (if available then candidate :: rest else rest, health)

/-- The registered candidates for a capability, by location. -/
def locatedCandidates (router : ModelRouter) (request : RouterRequest) :
    List ProviderModelRegistration :=
  let candidates := registryCandidates router.registrations (capabilityFromRequest request)
  if request.requiresLocal then candidates.filter ProviderModelRegistration.staysLocal
  else candidates

/-- The candidates for text whose models can code. -/
def codingCandidates (router : ModelRouter) (models : Dict String ModelInfo)
    (request : RouterRequest) : List ProviderModelRegistration :=
  (registryCandidates router.registrations "text_generation").filter fun candidate =>
    ((Dict.get? models candidate.modelId).any fun model => model.codingScore > 0) &&
      (!request.requiresLocal || candidate.staysLocal)

/-- The candidates before health is asked: by capability, by location, by what their models say
of code, and by the limits of their models. -/
def eligibleCandidates (router : ModelRouter) (request : RouterRequest) :
    List ProviderModelRegistration :=
  let candidates := router.locatedCandidates request
  match router.modelManager with
  | none => candidates
  | some models =>
      let candidates :=
        if candidates.isEmpty && capabilityFromRequest request = "code_generation" then
          router.codingCandidates models request
        else candidates
      candidates.filter fun candidate => modelIsEligible models candidate.modelId request

/-- A decision that selects nothing. -/
def nothing (request : RouterRequest) (summary constraint : String) : RoutingDecision where
  providerId := ""
  modelId := ""
  reasoningSummary := summary
  constraints := [constraint]
  executionConstraints := request.executionConstraints
  metadata := [("capability", .str (capabilityFromRequest request))]

/-- A decision that selects a candidate. -/
def selecting (request : RouterRequest) (candidate : ProviderModelRegistration) (summary : String)
    (scored : Dict String Json) : RoutingDecision where
  providerId := candidate.providerId
  modelId := candidate.modelId
  reasoningSummary := summary
  executionConstraints := request.executionConstraints
  metadata := Dict.update (("capability", .str (capabilityFromRequest request)) :: scored)
    (candidate.metadata.map fun kv => (kv.1, Json.str kv.2))

/-- The choice among the candidates that are left: the preferred provider, the best score, or the
first candidate. -/
def choose (router : ModelRouter) (request : RouterRequest)
    (candidate : ProviderModelRegistration) (candidates : List ProviderModelRegistration) :
    RoutingDecision :=
  let capability := capabilityFromRequest request
  let all := candidate :: candidates
  let preferred := (router.preferredProvider.filter (· ≠ "")).bind fun providerId =>
    all.find? fun c => c.providerId = providerId
  match preferred with
  | some preferred =>
      selecting request preferred ("Configured provider selected: " ++ preferred.providerId ++
        "/" ++ preferred.modelId) []
  | none =>
      let scoreableCaps := router.scoreableCaps all
      if scoreableCaps.isEmpty then
        selecting request candidate ("Selected " ++ candidate.providerId ++ "/" ++
          candidate.modelId ++ " for capability: " ++ capability) []
      else match ScoringEngine.rank request scoreableCaps router.policy with
        | [] => nothing request "No eligible model satisfies routing constraints"
            "routing_constraints"
        | best :: _ =>
            let matched := (all.find? fun c =>
              c.providerId = best.providerId && c.modelId = best.modelId).getD candidate
            let cap := scoreableCaps.find? fun cap =>
              cap.providerId = best.providerId && cap.modelId = best.modelId
            selecting request matched ("Scored selection: " ++ matched.providerId ++ "/" ++
                matched.modelId ++ " (score=" ++ toString best.score ++ ") for capability: " ++
                capability ++ ". Factors: " ++ "; ".intercalate (best.reasons.take 3)) [
              ("score", .str (toString best.score)),
              ("scoring_version", .str "v0.2"),
              ("context_window",
                .str (toString ((cap.map ProviderCapability.contextWindow).getD 0))),
              ("latency_ms", .str ((cap.map fun cap => router.latencyText cap.latencyMs).getD
                "unknown"))]

/-- `route`; without a health checker no candidate is asked about. -/
def route (router : ModelRouter) (health : Option ProviderHealthChecker) (clock : ℕ → ℤ)
    (request : RouterRequest) : RoutingDecision × Option ProviderHealthChecker :=
  let capability := capabilityFromRequest request
  let candidates := router.eligibleCandidates request
  if router.modelManager.isSome && candidates.isEmpty then
    (nothing request ("No registered model satisfies capability: " ++ capability)
      ("model_constraints:" ++ capability), health)
  else
    match health with
    | some checker =>
        match availableCandidates clock 0 checker candidates with
        | ([], checker) =>
            (nothing request "No registered provider is currently available"
              ("health_constraints:" ++ capability), some checker)
        | (candidate :: candidates, checker) =>
            (router.choose request candidate candidates, some checker)
    | none =>
        match candidates with
        | [] => (nothing request ("No registered provider supports capability: " ++ capability)
            ("missing_capability:" ++ capability), none)
        | candidate :: candidates => (router.choose request candidate candidates, none)

/-! ## What a decision selects -/

/-- The decision selects nothing, or one of some candidates. -/
def SelectsFrom (candidates : List ProviderModelRegistration) (decision : RoutingDecision) :
    Prop :=
  (decision.providerId = "" ∧ decision.modelId = "") ∨
    ∃ candidate ∈ candidates,
      decision.providerId = candidate.providerId ∧ decision.modelId = candidate.modelId

lemma SelectsFrom.mono {candidates others : List ProviderModelRegistration}
    {decision : RoutingDecision} (h : SelectsFrom candidates decision)
    (hsub : ∀ candidate ∈ candidates, candidate ∈ others) : SelectsFrom others decision :=
  h.imp_right fun ⟨candidate, hmem, hids⟩ => ⟨candidate, hsub candidate hmem, hids⟩

variable (router : ModelRouter) (request : RouterRequest)

lemma selectsFrom_choose (candidate : ProviderModelRegistration)
    (candidates : List ProviderModelRegistration) :
    SelectsFrom (candidate :: candidates) (router.choose request candidate candidates) := by
  have hselecting : ∀ c ∈ candidate :: candidates, ∀ summary scored,
      SelectsFrom (candidate :: candidates) (selecting request c summary scored) :=
    fun c hc summary scored => .inr ⟨c, hc, rfl, rfl⟩
  have hfirst : candidate ∈ candidate :: candidates := List.mem_cons_self
  unfold choose
  dsimp only
  split
  · rename_i preferred hpreferred
    obtain ⟨providerId, -, hfind⟩ := Option.bind_eq_some_iff.mp hpreferred
    exact hselecting preferred (List.mem_of_find?_eq_some hfind) _ _
  · split
    · exact hselecting candidate hfirst _ _
    · split
      · exact .inl ⟨rfl, rfl⟩
      · refine hselecting _ ?_ _ _
        cases hfind : (candidate :: candidates).find? _ with
        | none => exact hfirst
        | some matched => exact List.mem_of_find?_eq_some hfind

lemma mem_availableCandidates {clock : ℕ → ℤ} {n : ℕ} {health : ProviderHealthChecker}
    {candidates : List ProviderModelRegistration} {candidate : ProviderModelRegistration}
    (h : candidate ∈ (availableCandidates clock n health candidates).1) :
    candidate ∈ candidates := by
  induction candidates generalizing n health with
  | nil => exact h
  | cons c candidates ih =>
      rw [availableCandidates] at h
      dsimp only at h
      split at h
      · rcases List.mem_cons.mp h with rfl | hrest
        · exact List.mem_cons_self
        · exact List.mem_cons_of_mem c (ih hrest)
      · exact List.mem_cons_of_mem c (ih h)

lemma selectsFrom_route (health : Option ProviderHealthChecker) (clock : ℕ → ℤ) :
    SelectsFrom (router.eligibleCandidates request) (router.route health clock request).1 := by
  unfold route
  dsimp only
  split
  · exact .inl ⟨rfl, rfl⟩
  · cases health with
    | none =>
        dsimp only
        cases hcandidates : router.eligibleCandidates request with
        | nil => exact .inl ⟨rfl, rfl⟩
        | cons candidate candidates => exact router.selectsFrom_choose request candidate candidates
    | some checker =>
        dsimp only
        have hmem : ∀ candidate ∈ (availableCandidates clock 0 checker
            (router.eligibleCandidates request)).1, candidate ∈ router.eligibleCandidates request :=
          fun candidate hcandidate => mem_availableCandidates hcandidate
        split
        · exact .inl ⟨rfl, rfl⟩
        · rename_i candidate candidates checker' hresult
          refine (router.selectsFrom_choose request candidate candidates).mono fun c hc => ?_
          rw [hresult] at hmem
          exact hmem c hc

lemma executionConstraints_route (health : Option ProviderHealthChecker) (clock : ℕ → ℤ) :
    (router.route health clock request).1.executionConstraints = request.executionConstraints := by
  have hchoose : ∀ candidate candidates,
      (router.choose request candidate candidates).executionConstraints =
        request.executionConstraints := by
    intro candidate candidates
    unfold choose
    dsimp only
    split
    · rfl
    · split
      · rfl
      · split <;> rfl
  unfold route
  dsimp only
  split
  · rfl
  · cases health with
    | none =>
        dsimp only
        split
        · rfl
        · exact hchoose _ _
    | some checker =>
        dsimp only
        split
        · rfl
        · exact hchoose _ _

/-- Where the request has to stay on the machine, the eligible candidates are local and no
mocks. -/
lemma staysLocal_eligibleCandidates (hlocal : request.requiresLocal = true)
    {candidate : ProviderModelRegistration} (h : candidate ∈ router.eligibleCandidates request) :
    candidate ∈ router.registrations ∧ candidate.staysLocal = true := by
  have hregistered : ∀ capability, ∀ c ∈ registryCandidates router.registrations capability,
      c ∈ router.registrations := fun _ _ hc => List.mem_of_mem_filter hc
  have hlocated : ∀ c ∈ router.locatedCandidates request,
      c ∈ router.registrations ∧ c.staysLocal = true := by
    intro c hc
    unfold locatedCandidates at hc
    dsimp only at hc
    rw [if_pos hlocal] at hc
    obtain ⟨hmem, hstays⟩ := List.mem_filter.mp hc
    exact ⟨hregistered _ c hmem, hstays⟩
  unfold eligibleCandidates at h
  cases hmodels : router.modelManager with
  | none =>
      rw [hmodels] at h
      exact hlocated candidate h
  | some models =>
      rw [hmodels] at h
      dsimp only at h
      replace h := List.mem_of_mem_filter h
      split at h
      · obtain ⟨hmem, hcond⟩ := List.mem_filter.mp h
        rw [hlocal, Bool.and_eq_true] at hcond
        exact ⟨hregistered _ candidate hmem, hcond.2⟩
      · exact hlocated candidate h

end ModelRouter

end Samaktha
