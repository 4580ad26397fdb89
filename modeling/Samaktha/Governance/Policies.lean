import Samaktha.Governance.Records
import Samaktha.Contracts.Policy
import Samaktha.Plugins.Dependencies
import Mathlib.Data.List.MinMax

/-!
# Policies and their resolution

`GovernancePolicy`, the registry of policies under their keys `id@version`, and how the engine
finds the policy for a reference.  A registry carries its invariant: every policy is valid and
stands under its own key.

`has` answers for a bare id, but `get` reads keys only, so a bare id resolves to nothing
(`resolvePolicy_bare`).  Where a reference is looked up with `latest`, the version is compared
without its pre-release part, and ties go to the greater text.
-/

namespace Samaktha

/-- Fine-grained permissions a tool may require at runtime. -/
inductive ToolPermission where
  | read
  | write
  | modify
  | delete
  | execute
  | network
  | admin
  deriving Repr, DecidableEq, Inhabited

def ToolPermission.value : ToolPermission → String
  | read => "read"
  | write => "write"
  | modify => "modify"
  | delete => "delete"
  | execute => "execute"
  | network => "network"
  | admin => "admin"

/-- A declared permission and approval requirement for one target. -/
structure PermissionRule where
  target : String
  permissions : List ToolPermission := []
  approvalRequired : Bool := false
  deriving Repr, DecidableEq, Inhabited

/-- Classifies a target, or permissions, to a risk level. -/
structure RiskRule where
  target : String := "*"
  targetType : Option TargetType := none
  risk : ActionRisk
  scopes : List ToolPermission := []
  deriving Repr, DecidableEq, Inhabited

/-- Requires approval for a target type and a risk threshold, or exempts from it. -/
structure ApprovalRule where
  target : String := "*"
  targetType : Option TargetType := none
  riskAtLeast : Option ActionRisk := none
  require : Bool := true
  deriving Repr, DecidableEq, Inhabited

/-- A policy-as-code governance document; what is not read here is left out. -/
structure GovernancePolicy where
  policyId : String
  version : String
  name : String
  defaultRisk : ActionRisk := .low
  defaultApprovalRequired : Bool := false
  capabilities : List PermissionRule := []
  providers : List PermissionRule := []
  tools : List PermissionRule := []
  risks : List RiskRule := []
  approvals : List ApprovalRule := []
  deriving Repr, DecidableEq, Inhabited

namespace GovernancePolicy

def key (policy : GovernancePolicy) : String := policy.policyId ++ "@" ++ policy.version

/-- The rules for a target type. -/
def rulesFor (policy : GovernancePolicy) : TargetType → List PermissionRule
  | .tool => policy.tools
  | .provider => policy.providers
  | .capability => policy.capabilities
  | .action => []

/-- `rule_for`: the first permission rule for a target. -/
def ruleFor (policy : GovernancePolicy) (targetType : TargetType) (target : String) :
    Option PermissionRule :=
  (policy.rulesFor targetType).find? fun rule => rule.target = target

end GovernancePolicy

/-! ## Validation -/

inductive PolicyProblem where
  | emptyId
  | emptyName
  | badVersion (version : String)
  | duplicateRule (targetType : TargetType) (target : String)
  deriving Repr, DecidableEq, Inhabited

/-- The text of a problem; `quoted` is `repr` of a string. -/
def PolicyProblem.text (quoted : String → String) : PolicyProblem → String
  | emptyId => "policy_id must not be empty."
  | emptyName => "name must not be empty."
  | badVersion version =>
      "Invalid policy version: Invalid semantic version: " ++ quoted version ++ "."
  | duplicateRule targetType target =>
      "Duplicate " ++ targetType.value ++ " permission rule for " ++ quoted target ++ "."

/-- The rules whose target has been seen. -/
def duplicateRules (targetType : TargetType) : List String → List PermissionRule →
    List PolicyProblem
  | _, [] => []
  | seen, rule :: rest =>
      if rule.target ∈ seen then
        .duplicateRule targetType rule.target :: duplicateRules targetType seen rest
      else duplicateRules targetType (rule.target :: seen) rest

def validatePolicy (policy : GovernancePolicy) : List PolicyProblem :=
  (if Text.strip policy.policyId = "" then [.emptyId] else [])
    ++ (if Text.strip policy.name = "" then [.emptyName] else [])
    ++ (if SemanticVersion.parse policy.version = none then [.badVersion policy.version] else [])
    ++ duplicateRules .tool [] policy.tools
    ++ duplicateRules .provider [] policy.providers
    ++ duplicateRules .capability [] policy.capabilities

/-! ## The registry -/

/-- What `register` raises. -/
inductive PolicyError where
  /-- `PolicyRegistrationError` -/
  | registered (key : String)
  /-- `PolicyValidationError` -/
  | invalid (problems : List PolicyProblem)
  deriving Repr, DecidableEq, Inhabited

structure PolicyRegistry where
  policies : Dict String GovernancePolicy
  keyed : Dict.KeyedBy GovernancePolicy.key policies
  valid : ∀ key policy, (key, policy) ∈ policies → validatePolicy policy = []

namespace PolicyRegistry

def empty : PolicyRegistry where
  policies := []
  keyed := Dict.KeyedBy.nil
  valid _ _ hmem := absurd hmem List.not_mem_nil

def register (registry : PolicyRegistry) (policy : GovernancePolicy) :
    Except PolicyError PolicyRegistry :=
  if policy.key ∈ registry.policies.keys then .error (.registered policy.key)
  else if h : validatePolicy policy = [] then
    .ok {
      policies := registry.policies.set policy.key policy
      keyed := registry.keyed.set rfl
      valid := fun key stored hmem => by
        obtain hnew | hold := Dict.mem_of_mem_set hmem
        · rw [(Prod.mk.inj hnew).2]
          exact h
        · exact registry.valid key stored hold }
  else .error (.invalid (validatePolicy policy))

def get (registry : PolicyRegistry) (policyKey : String) : Option GovernancePolicy :=
  registry.policies.get? policyKey

def registered (registry : PolicyRegistry) : List GovernancePolicy :=
  registry.policies.map Prod.snd

/-- The registered policies of an id. -/
def matching (registry : PolicyRegistry) (policyId : String) : List GovernancePolicy :=
  registry.registered.filter fun policy => policy.policyId = policyId

/-- `_version_tuple`, and the key. -/
def rank (policy : GovernancePolicy) : ℕ ×ₗ ℕ ×ₗ ℕ ×ₗ String :=
  let version := (SemanticVersion.parse policy.version).getD ⟨0, 0, 0⟩
  toLex (version.major, toLex (version.minor, toLex (version.patch, policy.key)))

def latest (registry : PolicyRegistry) (policyId : String) : Option GovernancePolicy :=
  (registry.matching policyId).argmax rank

/-- Whether a reference has the form of a key. -/
def versioned (reference : String) : Bool := reference.toList.contains '@'

def has (registry : PolicyRegistry) (policyKey : String) : Bool :=
  (registry.get policyKey).isSome ||
    (!versioned policyKey && (registry.latest policyKey).isSome)

end PolicyRegistry

/-! ## The engine's policy -/

/-- `GovernanceEngine`, as far as it resolves policies. -/
structure GovernanceEngine where
  registry : PolicyRegistry := .empty
  defaultPolicyId : Option String := none

/-- A registration: with the registry, or as the default policy. -/
inductive PolicyRegistration where
  /-- `registry.register` -/
  | register (policy : GovernancePolicy)
  /-- `set_default_policy` -/
  | setDefault (policy : GovernancePolicy)

namespace GovernanceEngine

/-- A registration; one that raises changes nothing. -/
def apply (engine : GovernanceEngine) : PolicyRegistration → GovernanceEngine
  | .register policy =>
      match engine.registry.register policy with
      | .ok registry => { engine with registry := registry }
      | .error _ => engine
  | .setDefault policy =>
      match engine.registry.register policy with
      | .ok registry => { registry := registry, defaultPolicyId := some policy.key }
      | .error _ => engine

/-- The engine after some registrations. -/
def applyAll (engine : GovernanceEngine) (registrations : List PolicyRegistration) :
    GovernanceEngine :=
  registrations.foldl apply engine

/-- The reference that is resolved: the one that is given, or the default. -/
def reference (engine : GovernanceEngine) (policyId : Option String) : Option String :=
  (policyId.filter fun id => id ≠ "").or engine.defaultPolicyId

def resolvePolicy (engine : GovernanceEngine) (policyId : Option String) :
    Option GovernancePolicy :=
  match engine.reference policyId with
  | none => none
  | some resolved =>
      if engine.registry.has resolved then engine.registry.get resolved
      else engine.registry.latest resolved

end GovernanceEngine

/-! ## Semantic precedence -/

inductive PreIdentifier where
  | number (n : ℕ)
  | word (text : List Char)
  deriving Repr, DecidableEq, Inhabited

/-- Numbers are compared as such, words by their characters, and numbers come before words. -/
def PreIdentifier.lt : PreIdentifier → PreIdentifier → Bool
  | number m, number n => m < n
  | number _, word _ => true
  | word _, number _ => false
  | word a, word b => a < b

/-- A shorter list of identifiers comes before the longer ones that begin with it. -/
def preReleaseLt : List PreIdentifier → List PreIdentifier → Bool
  | _, [] => false
  | [], _ :: _ => true
  | a :: as, b :: bs => a.lt b || (a = b && preReleaseLt as bs)

/-- A version with the pre-release that it is of, if it is of one. -/
structure Precedence where
  version : SemanticVersion
  preRelease : Option (List PreIdentifier)
  deriving Repr, DecidableEq, Inhabited

namespace Precedence

/-- The order of semantic versions: a pre-release comes before its release, and build metadata
does not count. -/
def lt (v w : Precedence) : Bool :=
  v.version.lt w.version || (v.version = w.version &&
    match v.preRelease, w.preRelease with
    | some a, some b => preReleaseLt a b
    | some _, none => true
    | none, _ => false)

def identifierOf (cs : List Char) : PreIdentifier :=
  if cs ≠ [] ∧ cs.all Char.isDigit then
    .number (cs.foldl (fun n c => 10 * n + (c.toNat - '0'.toNat)) 0)
  else .word cs

/-- The pre-release of a version text: what follows the first hyphen, unless a plus comes first. -/
def preReleaseOf (cs : List Char) : Option (List PreIdentifier) :=
  match cs.dropWhile fun c => c ≠ '-' ∧ c ≠ '+' with
  | '-' :: suffix => some ((suffix.splitOn '.').map identifierOf)
  | _ => none

/-- The precedence of a policy among those of its id. -/
def ofPolicy (policy : GovernancePolicy) : Precedence where
  version := (SemanticVersion.parse policy.version).getD ⟨0, 0, 0⟩
  preRelease := preReleaseOf (Text.strip policy.version).toList

end Precedence

/-! ## What a reference resolves to -/

namespace PolicyRegistry

lemma get_of_registered {registry : PolicyRegistry} {policy : GovernancePolicy}
    (h : policy ∈ registry.registered) : registry.get policy.key = some policy := by
  obtain ⟨⟨key, stored⟩, hmem, rfl⟩ := List.mem_map.mp h
  exact registry.keyed.get?_of_mem hmem

lemma registered_of_get {registry : PolicyRegistry} {key : String} {policy : GovernancePolicy}
    (h : registry.get key = some policy) : policy ∈ registry.registered ∧ policy.key = key :=
  ⟨List.mem_map.mpr ⟨(key, policy), Dict.mem_of_get? h, rfl⟩, registry.keyed.eq_of_get? h⟩

lemma get_eq_none_iff {registry : PolicyRegistry} {key : String} :
    registry.get key = none ↔ ∀ policy ∈ registry.registered, policy.key ≠ key := by
  constructor
  · rintro hnone policy hmem rfl
    rw [get_of_registered hmem] at hnone
    cases hnone
  · intro hall
    cases hget : registry.get key with
    | none => rfl
    | some policy =>
        obtain ⟨hmem, hkey⟩ := registered_of_get hget
        exact absurd hkey (hall policy hmem)

lemma versioned_key (policy : GovernancePolicy) : versioned policy.key = true := by
  unfold versioned GovernancePolicy.key
  rw [String.toList_append, String.toList_append]
  simp

end PolicyRegistry

/-- Among policies of one id, the order of their texts agrees with the order of versions: the one
that ranks last is not exceeded by another. -/
def TextsAgree (policies : List GovernancePolicy) : Prop :=
  ∀ policy ∈ policies,
    (∀ other ∈ policies, PolicyRegistry.rank other ≤ PolicyRegistry.rank policy) →
      ∀ other ∈ policies, (Precedence.ofPolicy policy).lt (Precedence.ofPolicy other) = false

namespace GovernanceEngine

variable {engine : GovernanceEngine} {policyId : Option String}

/-- A reference resolves to the policy of that key, else to one of that id that no other of the id
exceeds; to nothing only where there is no reference, or nothing under it. -/
structure ResolvesRight (engine : GovernanceEngine) (policyId : Option String) : Prop where
  exact : ∀ reference policy, engine.reference policyId = some reference →
    policy ∈ engine.registry.registered → policy.key = reference →
      engine.resolvePolicy policyId = some policy
  highest : ∀ reference, engine.reference policyId = some reference →
    (∀ policy ∈ engine.registry.registered, policy.key ≠ reference) →
    engine.registry.matching reference ≠ [] →
      ∃ policy ∈ engine.registry.matching reference, engine.resolvePolicy policyId = some policy ∧
        ∀ other ∈ engine.registry.matching reference,
          (Precedence.ofPolicy policy).lt (Precedence.ofPolicy other) = false
  closed : engine.resolvePolicy policyId = none →
    ∀ reference, engine.reference policyId = some reference →
      (∀ policy ∈ engine.registry.registered, policy.key ≠ reference) ∧
        engine.registry.matching reference = []

/-- The reference is a registered key, or nothing is registered under it, or it is an id with an
at sign whose versions sort like their texts. -/
def Resolvable (engine : GovernanceEngine) (policyId : Option String) : Prop :=
  ∀ reference, engine.reference policyId = some reference →
    (∃ policy ∈ engine.registry.registered, policy.key = reference) ∨
      engine.registry.matching reference = [] ∨
      (PolicyRegistry.versioned reference = true ∧
        TextsAgree (engine.registry.matching reference))

lemma resolvePolicy_key {policy : GovernancePolicy}
    (hmem : policy ∈ engine.registry.registered)
    (h : engine.reference policyId = some policy.key) :
    engine.resolvePolicy policyId = some policy := by
  have hget := PolicyRegistry.get_of_registered hmem
  rw [resolvePolicy, h]
  dsimp only
  rw [PolicyRegistry.has, hget, Option.isSome_some, Bool.true_or, if_pos rfl]

lemma resolvePolicy_bare {reference : String} (h : engine.reference policyId = some reference)
    (hbare : PolicyRegistry.versioned reference = false)
    (hsome : engine.registry.matching reference ≠ []) :
    engine.resolvePolicy policyId = none := by
  have hget : engine.registry.get reference = none := by
    refine PolicyRegistry.get_eq_none_iff.mpr fun policy _ hkey => ?_
    rw [← hkey, PolicyRegistry.versioned_key] at hbare
    cases hbare
  have hlatest : (engine.registry.latest reference).isSome = true := by
    rw [Option.isSome_iff_ne_none, PolicyRegistry.latest, ne_eq, List.argmax_eq_none]
    exact hsome
  rw [resolvePolicy, h]
  dsimp only
  rw [PolicyRegistry.has, hget, hbare, hlatest]
  rfl

lemma resolvePolicy_latest {reference : String} (h : engine.reference policyId = some reference)
    (hnokey : ∀ policy ∈ engine.registry.registered, policy.key ≠ reference)
    (hother : PolicyRegistry.versioned reference = true ∨
      engine.registry.matching reference = []) :
    engine.resolvePolicy policyId = engine.registry.latest reference := by
  have hget := PolicyRegistry.get_eq_none_iff.mpr hnokey
  have hhas : engine.registry.has reference = false := by
    rw [PolicyRegistry.has, hget]
    rcases hother with hversioned | hnone
    · rw [hversioned]
      rfl
    · rw [PolicyRegistry.latest, hnone, List.argmax_nil, Option.isSome_none, Bool.and_false,
        Bool.or_false]
  rw [resolvePolicy, h]
  dsimp only
  rw [hhas, if_neg Bool.false_ne_true]

lemma mem_latest {registry : PolicyRegistry} {reference : String} {policy : GovernancePolicy}
    (h : registry.latest reference = some policy) :
    policy ∈ registry.matching reference ∧
      ∀ other ∈ registry.matching reference,
        PolicyRegistry.rank other ≤ PolicyRegistry.rank policy :=
  ⟨List.argmax_mem h, fun _ hmem => List.le_of_mem_argmax hmem h⟩

lemma latest_eq_of_rank {registry : PolicyRegistry} {reference : String}
    {policy : GovernancePolicy} (hmem : policy ∈ registry.matching reference)
    (hlast : ∀ other ∈ registry.matching reference,
      PolicyRegistry.rank other ≤ PolicyRegistry.rank policy) :
    registry.latest reference = some policy := by
  cases hlatest : registry.latest reference with
  | none =>
      rw [PolicyRegistry.latest, List.argmax_eq_none] at hlatest
      rw [hlatest] at hmem
      cases hmem
  | some found =>
      obtain ⟨hfound, hmax⟩ := mem_latest hlatest
      have hrank := le_antisymm (hmax policy hmem) (hlast found hfound)
      have hkey : policy.key = found.key :=
        congrArg (fun r : ℕ ×ₗ ℕ ×ₗ ℕ ×ₗ String =>
          (ofLex (ofLex (ofLex r).2).2).2) hrank
      have hget := PolicyRegistry.get_of_registered (List.mem_of_mem_filter hmem)
      rw [hkey, PolicyRegistry.get_of_registered (List.mem_of_mem_filter hfound)] at hget
      exact hget

/-- The resolution is right exactly for the references that are resolvable. -/
lemma resolvesRight_iff : engine.ResolvesRight policyId ↔ engine.Resolvable policyId := by
  constructor
  · intro hright reference href
    by_contra hnot
    obtain ⟨hnokey, hrest⟩ := not_or.mp hnot
    obtain ⟨hsome, hagree⟩ := not_or.mp hrest
    have hkeys : ∀ policy ∈ engine.registry.registered, policy.key ≠ reference :=
      fun policy hmem hkey => hnokey ⟨policy, hmem, hkey⟩
    obtain ⟨policy, hmem, hresolve, hhighest⟩ := hright.highest reference href hkeys hsome
    cases hversioned : PolicyRegistry.versioned reference with
    | false =>
        rw [resolvePolicy_bare href hversioned hsome] at hresolve
        cases hresolve
    | true =>
        refine hagree ⟨hversioned, fun last hlast hrank => ?_⟩
        rw [resolvePolicy_latest href hkeys (.inl hversioned), latest_eq_of_rank hlast hrank]
          at hresolve
        obtain rfl := Option.some.inj hresolve
        exact hhighest
  · intro hresolvable
    refine ⟨fun reference policy href hmem hkey => ?_, fun reference href hkeys hsome => ?_,
      fun hnone reference href => ?_⟩
    · exact resolvePolicy_key hmem (hkey ▸ href)
    · rcases hresolvable reference href with ⟨policy, hmem, hkey⟩ | hempty | ⟨hversioned, hagree⟩
      · exact absurd hkey (hkeys policy hmem)
      · exact absurd hempty hsome
      · cases hlatest : engine.registry.latest reference with
        | none => exact absurd (List.argmax_eq_none.mp hlatest) hsome
        | some policy =>
            obtain ⟨hmem, hmax⟩ := mem_latest hlatest
            refine ⟨policy, hmem, ?_, hagree policy hmem hmax⟩
            rw [resolvePolicy_latest href hkeys (.inl hversioned), hlatest]
    · rcases hresolvable reference href with ⟨policy, hmem, hkey⟩ | hempty | ⟨hversioned, -⟩
      · rw [resolvePolicy_key hmem (hkey ▸ href)] at hnone
        cases hnone
      · refine ⟨fun policy hmem hkey => ?_, hempty⟩
        rw [resolvePolicy_key hmem (hkey ▸ href)] at hnone
        cases hnone
      · by_cases hkeys : ∀ policy ∈ engine.registry.registered, policy.key ≠ reference
        · rw [resolvePolicy_latest href hkeys (.inl hversioned)] at hnone
          exact ⟨hkeys, List.argmax_eq_none.mp hnone⟩
        · push Not at hkeys
          obtain ⟨policy, hmem, hkey⟩ := hkeys
          rw [resolvePolicy_key hmem (hkey ▸ href)] at hnone
          cases hnone

/-- After any registrations, a reference resolves to the policy it is for exactly when it is a
registered key, or nothing is registered under it, or it is an id with an at sign whose versions
sort like their texts. -/
theorem resolve_policy_iff (registrations : List PolicyRegistration) (defaultId : Option String)
    (policyId : Option String) :
    let engine := applyAll { defaultPolicyId := defaultId } registrations
    engine.ResolvesRight policyId ↔ engine.Resolvable policyId :=
  resolvesRight_iff

/-! ### A bare id -/

/-- A policy that forbids everything to a tool. -/
def corp : GovernancePolicy where
  policyId := "corp"
  version := "1.0.0"
  name := "Corp"
  tools := [{ target := "shell" }]

/-- It is registered and nothing registered exceeds it, but its id resolves to no policy. -/
theorem bare_id_fails_open :
    let engine := applyAll {} [.register corp]
    engine.registry.has "corp" = true ∧ engine.registry.latest "corp" = some corp ∧
      engine.resolvePolicy (some "corp") = none ∧
      engine.resolvePolicy (some "corp@1.0.0") = some corp :=
  ⟨by decide, by decide, by decide, by decide⟩

end GovernanceEngine

end Samaktha
