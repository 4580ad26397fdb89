import Samaktha.Cap.Approval
import Mathlib.Data.List.Perm.Basic

/-!
# Remembered permissions

`InMemoryPermissionStore`, under its normalized keys, and what `decide` makes of it.  The lookup
stops at the first scope that is not allowed, so an unknown scope hides a denied one behind it:
a denial wins in every order of the scopes exactly when no unknown scope can stand before it
(`remembered_denial_wins_iff`).
-/

namespace Samaktha

structure PermissionKey where
  subjectId : String
  resource : String
  scope : PermissionScope
  deriving Repr, DecidableEq, Inhabited

/-- A remembered permission decision. -/
structure PermissionRecord where
  subjectId : String
  resource : String
  scope : PermissionScope
  decision : PermissionDecision
  deriving Repr, Inhabited

abbrev PermissionStore := Dict PermissionKey PermissionDecision

namespace PermissionStore

variable [Casing]

/-- `_key` of a subject, a resource and a scope. -/
def key (subjectId resource : String) (scope : PermissionScope) : PermissionKey where
  subjectId := subjectId
  resource := Casing.lower (Text.strip resource)
  scope := scope

def get (store : PermissionStore) (subjectId resource : String) (scope : PermissionScope) :
    PermissionDecision :=
  (Dict.get? store (key subjectId resource scope)).getD .unknown

def set (store : PermissionStore) (record : PermissionRecord) : PermissionStore :=
  Dict.set store (key record.subjectId record.resource record.scope) record.decision

def revoke (store : PermissionStore) (subjectId resource : String) (scope : PermissionScope) :
    PermissionStore :=
  Dict.erase store (key subjectId resource scope)

/-- A decision is read back under every spelling of its resource, and no other decision is
changed. -/
lemma get_set (store : PermissionStore) (record : PermissionRecord) (subjectId resource : String)
    (scope : PermissionScope) :
    (store.set record).get subjectId resource scope =
      if key record.subjectId record.resource record.scope = key subjectId resource scope then
        record.decision
      else store.get subjectId resource scope := by
  unfold get set
  rw [Dict.get?_set]
  split <;> rfl

lemma get_revoke (store : PermissionStore) (subjectId resource : String) (scope : PermissionScope) :
    (store.revoke subjectId resource scope).get subjectId resource scope = .unknown := by
  unfold get revoke
  rw [Dict.get?_erase_self]
  rfl

end PermissionStore

namespace ApprovalEngine

section

variable [Casing]

/-- CAP with a store of remembered permissions, or none. -/
def capWith (classify : PlannedAction → PrivacyCategory) (store : Option PermissionStore) :
    Cap where
  classify := classify
  permissionStore := store.map PermissionStore.get

def storeAllowPermissions (store : PermissionStore) (request : ApprovalRequest)
    (subjectId : String) : PermissionStore :=
  request.policy.requiredPermissions.foldl (fun store scope => store.set {
    subjectId := subjectId
    resource := orText request.action.target request.action.actionType
    scope := scope
    decision := .allowed }) store

def decideStoring (classify : PlannedAction → PrivacyCategory) (store : Option PermissionStore)
    (request : ApprovalRequest) (subjectId : String) :
    ApprovalOutcome × Option PermissionStore :=
  let outcome := decide (capWith classify store) request subjectId
  (outcome,
    if outcome.decision = .storePermission then
      store.map fun store => storeAllowPermissions store request subjectId
    else store)

/-- What is remembered of a scope for the resource of a request. -/
def remembered (store : Option PermissionStore) (request : ApprovalRequest) (subjectId : String)
    (scope : PermissionScope) : PermissionDecision :=
  (store.map fun store =>
    store.get subjectId (orText request.action.target request.action.actionType) scope).getD
      .unknown

/-- The request with its required scopes in another order, or with other ones. -/
def withScopes (request : ApprovalRequest) (scopes : List PermissionScope) : ApprovalRequest :=
  { request with policy := { request.policy with requiredPermissions := scopes } }

/-- A remembered denial wins, a request is allowed without asking only on remembered permissions
for all of its scopes, and their order does not matter. -/
structure DenialWins (classify : PlannedAction → PrivacyCategory) (store : Option PermissionStore)
    (request : ApprovalRequest) (subjectId : String) : Prop where
  denied : (∃ scope ∈ request.policy.requiredPermissions,
      remembered store request subjectId scope = .denied) →
    (decideStoring classify store request subjectId).1.decision = .deny
  allowed : (decideStoring classify store request subjectId).1.decision = .allow →
    request.policy.requiredPermissions ≠ [] ∧
      ∀ scope ∈ request.policy.requiredPermissions,
        remembered store request subjectId scope = .allowed
  order : ∀ scopes, scopes.Perm request.policy.requiredPermissions →
    (decideStoring classify store (withScopes request scopes) subjectId).1 =
      (decideStoring classify store request subjectId).1

end

/-! ## The loop over the scopes -/

section

variable {get : PermissionScope → PermissionDecision} {scopes : List PermissionScope}

lemma rememberedScopes_eq_allowed_iff :
    rememberedScopes get scopes = .allowed ↔ ∀ scope ∈ scopes, get scope = .allowed := by
  induction scopes with
  | nil => simp [rememberedScopes]
  | cons scope rest ih =>
      rw [rememberedScopes, List.forall_mem_cons]
      by_cases hallowed : get scope = .allowed
      · rw [if_pos hallowed, ih]
        exact ⟨fun h => ⟨hallowed, h⟩, fun h => h.2⟩
      · rw [if_neg hallowed]
        exact ⟨fun h => absurd h hallowed, fun h => absurd h.1 hallowed⟩

lemma rememberedScopes_mem (h : rememberedScopes get scopes ≠ .allowed) :
    ∃ scope ∈ scopes, get scope = rememberedScopes get scopes := by
  induction scopes with
  | nil => exact absurd rfl h
  | cons scope rest ih =>
      rw [rememberedScopes] at h ⊢
      by_cases hallowed : get scope = .allowed
      · rw [if_pos hallowed] at h ⊢
        obtain ⟨found, hmem, hfound⟩ := ih h
        exact ⟨found, List.mem_cons_of_mem _ hmem, hfound⟩
      · rw [if_neg hallowed]
        exact ⟨scope, List.mem_cons_self, rfl⟩

lemma rememberedScopes_of_known (hknown : ∀ scope ∈ scopes, get scope ≠ .unknown)
    (hdenied : ∃ scope ∈ scopes, get scope = .denied) : rememberedScopes get scopes = .denied := by
  obtain ⟨denied, hmem, hdenied⟩ := hdenied
  have hne : rememberedScopes get scopes ≠ .allowed := by
    intro hallowed
    rw [rememberedScopes_eq_allowed_iff.mp hallowed denied hmem] at hdenied
    cases hdenied
  obtain ⟨found, hfound, heq⟩ := rememberedScopes_mem hne
  have hanswer := hknown found hfound
  rw [heq] at hanswer
  cases hscopes : rememberedScopes get scopes with
  | allowed => exact absurd hscopes hne
  | denied => rfl
  | unknown => exact absurd hscopes hanswer

lemma rememberedScopes_of_undenied (hundenied : ∀ scope ∈ scopes, get scope ≠ .denied)
    (hunknown : ∃ scope ∈ scopes, get scope = .unknown) :
    rememberedScopes get scopes = .unknown := by
  obtain ⟨unknown, hmem, hunknown⟩ := hunknown
  have hne : rememberedScopes get scopes ≠ .allowed := by
    intro hallowed
    rw [rememberedScopes_eq_allowed_iff.mp hallowed unknown hmem] at hunknown
    cases hunknown
  obtain ⟨found, hfound, heq⟩ := rememberedScopes_mem hne
  have hanswer := hundenied found hfound
  rw [heq] at hanswer
  cases hscopes : rememberedScopes get scopes with
  | allowed => exact absurd hscopes hne
  | denied => exact absurd hscopes hanswer
  | unknown => rfl

lemma rememberedScopes_perm {scopes' : List PermissionScope} (hperm : scopes'.Perm scopes)
    (hclear : ¬ ((∃ scope ∈ scopes, get scope = .denied) ∧
      ∃ scope ∈ scopes, get scope = .unknown)) :
    rememberedScopes get scopes' = rememberedScopes get scopes := by
  have hmem : ∀ {p : PermissionScope → Prop}, (∃ scope ∈ scopes, p scope) →
      ∃ scope ∈ scopes', p scope := by
    rintro p ⟨scope, hscope, hp⟩
    exact ⟨scope, hperm.mem_iff.mpr hscope, hp⟩
  by_cases hdenied : ∃ scope ∈ scopes, get scope = .denied
  · have hknown : ∀ scope ∈ scopes, get scope ≠ .unknown :=
      fun scope hscope hunknown => hclear ⟨hdenied, scope, hscope, hunknown⟩
    rw [rememberedScopes_of_known hknown hdenied,
      rememberedScopes_of_known (fun scope hscope => hknown scope (hperm.mem_iff.mp hscope))
        (hmem hdenied)]
  · have hundenied : ∀ scope ∈ scopes, get scope ≠ .denied :=
      fun scope hscope heq => hdenied ⟨scope, hscope, heq⟩
    by_cases hunknown : ∃ scope ∈ scopes, get scope = .unknown
    · rw [rememberedScopes_of_undenied hundenied hunknown,
        rememberedScopes_of_undenied
          (fun scope hscope => hundenied scope (hperm.mem_iff.mp hscope)) (hmem hunknown)]
    · have hallowed : ∀ scope ∈ scopes, get scope = .allowed := by
        intro scope hscope
        cases hget : get scope with
        | allowed => rfl
        | denied => exact absurd hget (hundenied scope hscope)
        | unknown => exact absurd ⟨scope, hscope, hget⟩ hunknown
      rw [rememberedScopes_eq_allowed_iff.mpr hallowed, rememberedScopes_eq_allowed_iff.mpr]
      exact fun scope hscope => hallowed scope (hperm.mem_iff.mp hscope)

end

/-! ## The decision -/

section

variable [Casing] {classify : PlannedAction → PrivacyCategory} {store : Option PermissionStore}
  {request : ApprovalRequest} {subjectId : String}

lemma rememberedPermission_eq :
    rememberedPermission (capWith classify store) request subjectId =
      if request.policy.requiredPermissions = [] then .unknown
      else rememberedScopes (remembered store request subjectId)
        request.policy.requiredPermissions := by
  unfold rememberedPermission capWith
  cases store with
  | none =>
      cases request.policy.requiredPermissions with
      | nil => rfl
      | cons scope rest =>
          rw [if_neg (List.cons_ne_nil _ _)]
          rfl
  | some store => simp only [Option.map_some, List.isEmpty_iff]; rfl

/-- What a remembered permission makes of a request that needs approval. -/
def outcomeOf (request : ApprovalRequest) : PermissionDecision → ApprovalOutcome
  | .allowed => {
      decision := .allow
      actionId := request.action.actionId
      reasons := ["Remembered permission allows this action."] }
  | .denied => {
      decision := .deny
      actionId := request.action.actionId
      reasons := ["Remembered permission denies this action."] }
  | .unknown => {
      decision := .askUser
      actionId := request.action.actionId
      reasons := request.policy.reasons }

lemma decideStoring_required (hrequired : request.policy.approvalRequired = true) :
    (decideStoring classify store request subjectId).1 =
      outcomeOf request (rememberedPermission (capWith classify store) request subjectId) := by
  unfold decideStoring decide
  dsimp only
  rw [hrequired, Bool.not_true, Bool.and_false, if_neg Bool.false_ne_true, if_pos rfl]
  cases rememberedPermission (capWith classify store) request subjectId <;> rfl

lemma allowed_of_decided (hrequired : request.policy.approvalRequired = true)
    (h : (decideStoring classify store request subjectId).1.decision = .allow) :
    request.policy.requiredPermissions ≠ [] ∧
      ∀ scope ∈ request.policy.requiredPermissions,
        remembered store request subjectId scope = .allowed := by
  rw [decideStoring_required hrequired, rememberedPermission_eq] at h
  by_cases hnone : request.policy.requiredPermissions = []
  · rw [if_pos hnone] at h
    cases h
  · rw [if_neg hnone] at h
    refine ⟨hnone, rememberedScopes_eq_allowed_iff.mp ?_⟩
    cases hscopes : rememberedScopes (remembered store request subjectId)
        request.policy.requiredPermissions with
    | allowed => rfl
    | denied => rw [hscopes] at h; cases h
    | unknown => rw [hscopes] at h; cases h

lemma decideStoring_withScopes (hrequired : request.policy.approvalRequired = true)
    (scopes : List PermissionScope) :
    (decideStoring classify store (withScopes request scopes) subjectId).1 =
      outcomeOf request (if scopes = [] then .unknown
        else rememberedScopes (remembered store request subjectId) scopes) := by
  have hscopes : (withScopes request scopes).policy.approvalRequired = true := hrequired
  rw [decideStoring_required hscopes, rememberedPermission_eq]
  rfl

/-- A remembered denial wins, in any order of the scopes, exactly when it is not the case that one
required scope is denied and another one unknown. -/
theorem remembered_denial_wins_iff (hrequired : request.policy.approvalRequired = true) :
    DenialWins classify store request subjectId ↔
      ¬ ((∃ scope ∈ request.policy.requiredPermissions,
          remembered store request subjectId scope = .denied) ∧
        ∃ scope ∈ request.policy.requiredPermissions,
          remembered store request subjectId scope = .unknown) := by
  constructor
  · rintro hwins ⟨hdenied, unknown, hmem, hunknown⟩
    -- with the unknown scope in front the user is asked
    have hfront := hwins.order _ (List.perm_cons_erase hmem).symm
    rw [decideStoring_withScopes hrequired, if_neg (List.cons_ne_nil _ _), rememberedScopes,
      hunknown] at hfront
    have hdeny := hwins.denied hdenied
    rw [← hfront] at hdeny
    cases hdeny
  · intro hclear
    refine ⟨fun hdenied => ?_, allowed_of_decided hrequired, fun scopes hperm => ?_⟩
    · have hknown : ∀ scope ∈ request.policy.requiredPermissions,
          remembered store request subjectId scope ≠ .unknown :=
        fun scope hscope hunknown => hclear ⟨hdenied, scope, hscope, hunknown⟩
      have hsome : request.policy.requiredPermissions ≠ [] := by
        obtain ⟨scope, hscope, -⟩ := hdenied
        exact List.ne_nil_of_mem hscope
      rw [decideStoring_required hrequired, rememberedPermission_eq, if_neg hsome,
        rememberedScopes_of_known hknown hdenied]
      rfl
    · rw [decideStoring_withScopes hrequired, decideStoring_required hrequired,
        rememberedPermission_eq, rememberedScopes_perm hperm hclear]
      refine congrArg (outcomeOf request) (if_congr ?_ rfl rfl)
      constructor
      · rintro rfl
        exact hperm.nil_eq.symm
      · intro hnone
        rw [hnone] at hperm
        exact hperm.eq_nil

end

/-! ### A denial behind an unknown scope -/

section

attribute [local instance] Casing.ascii

/-- A request for a file under some scopes. -/
def sampleRequest (scopes : List PermissionScope) : ApprovalRequest where
  action := { actionId := "a", actionType := "write", description := "", target := "/tmp/x" }
  policy := {
    actionId := "a"
    allowed := false
    risk := .high
    requiredPermissions := scopes
    approvalRequired := true
    useLocalModel := false }

/-- Writing the file was denied, under another spelling of its path. -/
def deniedStore : Option PermissionStore :=
  some (PermissionStore.set [] ⟨"local", " /TMP/X", .write, .denied⟩)

theorem remembered_denial_wins_iff_sample :
    DenialWins (fun _ => .public) deniedStore (sampleRequest [.write]) "local" :=
  (remembered_denial_wins_iff rfl).mpr (by decide)

/-- Reading and writing: the user is asked, or the request is denied, by the order of the two. -/
theorem unknown_hides_denial :
    (decideStoring (fun _ => .public) deniedStore (sampleRequest [.read, .write])
        "local").1.decision = .askUser ∧
      (decideStoring (fun _ => .public) deniedStore (sampleRequest [.write, .read])
        "local").1.decision = .deny ∧
      remembered deniedStore (sampleRequest [.read, .write]) "local" .write = .denied :=
  ⟨by decide, by decide, by decide⟩

end

/-! ## What is remembered in the long run -/

section

variable [Casing]

/-- A decision stores permissions. -/
def Stores (request : ApprovalRequest) : Bool :=
  request.policy.allowed && !request.policy.approvalRequired && request.rememberPermission

/-- A decision stores the permission that is kept under a key. -/
def StoresAt (key : PermissionKey) (decided : ApprovalRequest × String) : Prop :=
  Stores decided.1 = true ∧ ∃ scope ∈ decided.1.policy.requiredPermissions,
    PermissionStore.key decided.2 (orText decided.1.action.target decided.1.action.actionType)
      scope = key

instance (key : PermissionKey) : DecidablePred (StoresAt key) := fun decided => by
  unfold StoresAt
  infer_instance

/-- Decisions one after the other, with the subjects that asked for them. -/
def decideAll (classify : PlannedAction → PrivacyCategory) (store : Option PermissionStore)
    (requests : List (ApprovalRequest × String)) : Option PermissionStore :=
  requests.foldl (fun store decided => (decideStoring classify store decided.1 decided.2).2) store

lemma get_storeAllow (store : PermissionStore) (request : ApprovalRequest)
    (asker subjectId resource : String) (scope : PermissionScope) :
    (storeAllowPermissions store request asker).get subjectId resource scope =
      if ∃ required ∈ request.policy.requiredPermissions,
          PermissionStore.key asker (orText request.action.target request.action.actionType)
            required = PermissionStore.key subjectId resource scope then .allowed
      else store.get subjectId resource scope := by
  unfold storeAllowPermissions
  induction request.policy.requiredPermissions generalizing store with
  | nil => simp
  | cons required rest ih =>
      rw [List.foldl_cons, ih, PermissionStore.get_set]
      simp only [List.exists_mem_cons_iff]
      by_cases hrest : ∃ required ∈ rest, PermissionStore.key asker
          (orText request.action.target request.action.actionType) required =
            PermissionStore.key subjectId resource scope
      · rw [if_pos hrest, if_pos (.inr hrest)]
      · rw [if_neg hrest]
        simp only [hrest, or_false]

lemma decideStoring_store (classify : PlannedAction → PrivacyCategory) (store : PermissionStore)
    (request : ApprovalRequest) (subjectId : String) :
    (decideStoring classify (some store) request subjectId).2 =
      some (if Stores request then storeAllowPermissions store request subjectId else store) := by
  have hstoring : (decide (capWith classify (some store)) request subjectId).decision =
      .storePermission ↔ Stores request = true := by
    unfold decide Stores
    cases hallowed : request.policy.allowed <;>
      cases hrequired : request.policy.approvalRequired <;>
      cases request.rememberPermission <;>
      cases rememberedPermission (capWith classify (some store)) request subjectId <;>
      simp [capWith]
  unfold decideStoring
  by_cases h : Stores request = true
  · simp [hstoring.mpr h, h]
  · simp [mt hstoring.mp h, h]

/-- In the long run a permission is remembered as allowed where some request that needed no approval
asked for it to be remembered, under any spelling of its resource and even over a denial, and
everything else stays as it was. -/
theorem remembered_run (classify : PlannedAction → PrivacyCategory) (store : PermissionStore)
    (requests : List (ApprovalRequest × String)) (subjectId resource : String)
    (scope : PermissionScope) :
    (decideAll classify (some store) requests).map (·.get subjectId resource scope) =
      some (if ∃ decided ∈ requests, StoresAt (PermissionStore.key subjectId resource scope) decided
        then .allowed else store.get subjectId resource scope) := by
  induction requests generalizing store with
  | nil => simp [decideAll]
  | cons decided rest ih =>
      have hstep : decideAll classify (some store) (decided :: rest) = decideAll classify
          (some (if Stores decided.1 then storeAllowPermissions store decided.1 decided.2
            else store)) rest := by
        rw [decideAll, List.foldl_cons, decideStoring_store]
        rfl
      rw [hstep, ih]
      simp only [List.exists_mem_cons_iff]
      by_cases hrest : ∃ decided ∈ rest,
          StoresAt (PermissionStore.key subjectId resource scope) decided
      · rw [if_pos hrest, if_pos (.inr hrest)]
      · rw [if_neg hrest]
        simp only [hrest, or_false]
        by_cases hstores : Stores decided.1 = true
        · simp only [StoresAt, hstores, if_true, true_and, get_storeAllow]
        · simp [StoresAt, hstores]

end

end ApprovalEngine

end Samaktha
