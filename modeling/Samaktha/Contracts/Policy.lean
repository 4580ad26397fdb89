import Samaktha.Foundation.Value
import Samaktha.Foundation.Text

/-!
# CAP's vocabulary: operations and permits

The normal form of an operation's payload, the digest that binds it, the part of a task's
inputs that is bound, and `ExecutionPermit`.

Three functions of the platform are parameters, collected in `Platform`: `digest` is SHA-256
of the canonical JSON text of its argument (written with sorted keys, so it is a function of
the JSON value), `signPermit` is the HMAC of a permit's other fields, and
`validateConstraints` is the data model's own validation.  Dates are carried as seconds since
the epoch.  Texts are sequences of Unicode scalar values, so the encoding to
UTF-8 cannot fail.
-/

namespace Samaktha

/-- Outcomes of CAP's approval. -/
inductive ApprovalDecision where
  | allow
  | deny
  | askUser
  | storePermission
  deriving Repr, DecidableEq, Inhabited

def ApprovalDecision.value : ApprovalDecision → String
  | allow => "allow"
  | deny => "deny"
  | askUser => "ask_user"
  | storePermission => "store_permission"

inductive PermissionScope where
  | read
  | write
  | delete
  | execute
  | network
  | modelCloud
  | modelLocal
  deriving Repr, DecidableEq, Inhabited

def PermissionScope.value : PermissionScope → String
  | read => "read"
  | write => "write"
  | delete => "delete"
  | execute => "execute"
  | network => "network"
  | modelCloud => "model_cloud"
  | modelLocal => "model_local"

inductive ActionRisk where
  | low
  | medium
  | high
  | critical
  deriving Repr, DecidableEq, Inhabited

/-- The text of a risk level. -/
def ActionRisk.value : ActionRisk → String
  | low => "low"
  | medium => "medium"
  | high => "high"
  | critical => "critical"

inductive PrivacyCategory where
  | «public»
  | internal
  | personal
  | sensitive
  | critical
  deriving Repr, DecidableEq, Inhabited

def PrivacyCategory.value : PrivacyCategory → String
  | «public» => "public"
  | internal => "internal"
  | personal => "personal"
  | sensitive => "sensitive"
  | critical => "critical"

/-- CAP-owned requirements that routing and execution must preserve. -/
structure ExecutionConstraints where
  requiresLocalModel : Bool := false
  networkAllowed : Bool := true
  privacyCategory : PrivacyCategory := .public
  deriving Repr, DecidableEq, Inhabited

/-- `model_dump(mode="json")` of the constraints. -/
def ExecutionConstraints.modelDump (constraints : ExecutionConstraints) : Json :=
  .obj [
    ("requires_local_model", .bool constraints.requiresLocalModel),
    ("network_allowed", .bool constraints.networkAllowed),
    ("privacy_category", .str constraints.privacyCategory.value)]

/-! ## Normal forms -/

def incidentalOperationKeys : List String := ["_cap_permit", "plan_task_id", "plan_task_kind"]

def normalizeActionType (actionType : String) : String :=
  Text.replaceChar ' ' '_' (Text.replaceChar '-' '_' (Text.lower (Text.strip actionType)))

def normalizeTarget (target : Option String) : Option String :=
  match target with
  | none => none
  | some text =>
      let normalized := Text.strip text
      if normalized = "" then none else some normalized

def normalizeOperationPayload (value : Value) : Json :=
  value.toJsonWithout incidentalOperationKeys

/-- The action types whose executor is a provider. -/
def isProviderAction (actionType : String) : Bool :=
  actionType = "text_generation" || actionType = "code_generation" || actionType = "provider"

/-- The delimiter the workflow puts before the user's request. -/
def userRequestMarker : String := "[USER REQUEST]\n"

/-- The inputs of a task: a dictionary with string keys. -/
abbrev Inputs := Dict String Value

/-- The dictionary value of some inputs. -/
def Inputs.toValue (inputs : Inputs) : Value :=
  .dict (inputs.map fun kv => (.str kv.1, kv.2))

lemma Inputs.toJsonWithout_toValue (excluded : List String) (inputs : Inputs) :
    inputs.toValue.toJsonWithout excluded =
      .obj (Dict.ofList (Dict.sortByKey (Dict.filterKeys (fun k => decide (k ∉ excluded))
        (Dict.mapValues (Value.toJsonWithout excluded) inputs)))) := by
  have hitems : Value.itemsToJsonWithout excluded
      (inputs.map fun kv => (Key.str kv.1, kv.2)) =
        Dict.filterKeys (fun k => decide (k ∉ excluded))
          (Dict.mapValues (Value.toJsonWithout excluded) inputs) := by
    induction inputs with
    | nil => rfl
    | cons kv inputs ih =>
        obtain ⟨k, v⟩ := kv
        by_cases hk : k ∈ excluded
        · simpa [Value.itemsToJsonWithout, Key.text, hk, Dict.filterKeys, Dict.mapValues] using ih
        · simpa [Value.itemsToJsonWithout, Key.text, hk, Dict.filterKeys, Dict.mapValues] using ih
  rw [Inputs.toValue, Value.toJsonWithout, hitems]

/-- Two dictionaries have one JSON form exactly if they agree, in that form, on every key that
is not left out. -/
lemma Inputs.toJsonWithout_eq_iff (excluded : List String) {inputs inputs' : Inputs} :
    inputs.toValue.toJsonWithout excluded = inputs'.toValue.toJsonWithout excluded ↔
      ∀ key ∉ excluded,
        (Dict.get? (Dict.ofList inputs) key).map (Value.toJsonWithout excluded) =
          (Dict.get? (Dict.ofList inputs') key).map (Value.toJsonWithout excluded) := by
  let kept (d : Inputs) : Dict String Json :=
    Dict.filterKeys (fun k => decide (k ∉ excluded))
      (Dict.mapValues (Value.toJsonWithout excluded) d)
  have hget : ∀ (d : Inputs) (key : String), Dict.get? (Dict.ofList (kept d)) key =
      if key ∉ excluded then
        (Dict.get? (Dict.ofList d) key).map (Value.toJsonWithout excluded)
      else none := by
    intro d key
    show Dict.get? (Dict.ofList (Dict.filterKeys _ (Dict.mapValues _ d))) key = _
    rw [← Dict.filterKeys_ofList, ← Dict.mapValues_ofList, Dict.get?_filterKeys,
      Dict.get?_mapValues]
    simp only [decide_eq_true_eq]
  rw [toJsonWithout_toValue, toJsonWithout_toValue, Json.obj.injEq]
  constructor
  · intro heq key hkey
    have hread := congrArg (fun d => Dict.get? d key) heq
    simp only [Dict.get?_ofList_sortByKey] at hread
    have hleft := hget inputs key
    have hright := hget inputs' key
    rw [if_pos hkey] at hleft hright
    rw [← hleft, ← hright]
    exact hread
  · intro h
    refine Dict.ofList_sortByKey_eq fun key => ?_
    have hleft := hget inputs key
    have hright := hget inputs' key
    refine hleft.trans (Eq.trans ?_ hright.symm)
    split
    · exact h key ‹_›
    · rfl

/-- `authorization_payload`: the part of the inputs that defines the approved operation. -/
def authorizationPayload (actionType : String) (inputs : Inputs) : Inputs :=
  let messages := Dict.get? inputs "messages"
  let payload := Dict.erase (Dict.erase inputs "messages") "prepared_context"
  if isProviderAction (normalizeActionType actionType) then
    match (Dict.get? payload "prompt").bind Value.str? with
    | some prompt =>
        if (messages.map Value.truthy).getD false && Text.contains prompt userRequestMarker then
          Dict.set payload "prompt" (.str (Text.rsplitLast prompt userRequestMarker))
        else payload
    | none => payload
  else
    Dict.erase (Dict.erase payload "prompt") "system_prompt"

def authorizationTarget (actionType : String) (toolId : Option String) : String :=
  let normalized := normalizeActionType actionType
  if isProviderAction normalized then "provider:" ++ normalized
  else (normalizeTarget toolId).getD normalized

/-- Python's `a or b` on optional texts. -/
def orText (a : Option String) (b : String) : String :=
  match a with
  | some text => if text = "" then b else text
  | none => b

def authorizationSubjectId (userId sessionId : Option String) (requestId : String) : String :=
  orText userId (orText sessionId requestId)

/-! ## Permits -/

/-- A CAP authorization bound to one logical operation; `approval_provenance`, which nothing
here reads, is left out. -/
structure ExecutionPermit where
  permitId : String
  actionId : String
  subjectId : String
  sessionId : Option String := none
  workspaceId : Option String := none
  actionType : String
  target : Option String
  operationDigest : String
  requiredPermissions : List PermissionScope := []
  risk : ActionRisk
  constraints : ExecutionConstraints
  policyReference : String
  approvalSource : String
  issuedAt : ℤ
  expiresAt : ℤ
  decision : ApprovalDecision
  reasons : List String := []
  issuedBy : String := "cap.approval_engine"
  integrityDigest : String := ""
  deriving Repr, DecidableEq, Inhabited

/-- The functions of the platform the permits rest on. -/
structure Platform where
  /-- SHA-256, in hexadecimal, of the canonical text of a JSON value. -/
  digest : Json → String
  /-- The HMAC of a permit's fields other than `integrity_digest`. -/
  signPermit : ExecutionPermit → String
  /-- `ExecutionConstraints.model_validate`; `none` where it raises. -/
  validateConstraints : Value → Option ExecutionConstraints

def permitLifetime : ℤ := 15 * 60

def permitClockSkew : ℤ := 30

variable (platform : Platform)

def operationDigest (actionType : String) (target : Option String) (payload : Inputs) :
    String :=
  platform.digest (.obj [
    ("action_type", .str (normalizeActionType actionType)),
    ("payload", normalizeOperationPayload payload.toValue),
    ("target", match normalizeTarget target with | some t => .str t | none => .null)])

namespace ExecutionPermit

/-- `_sign_permit` of a permit: its other fields are signed. -/
def signature (permit : ExecutionPermit) : String :=
  platform.signPermit { permit with integrityDigest := "" }

def verifyIntegrity (permit : ExecutionPermit) : Bool :=
  permit.integrityDigest = permit.signature platform

/-- `is_expired` at a clock reading. -/
def isExpired (permit : ExecutionPermit) (now : ℤ) : Bool := permit.expiresAt ≤ now

/-- `is_not_yet_valid` at a clock reading. -/
def isNotYetValid (permit : ExecutionPermit) (now : ℤ) : Bool :=
  now + permitClockSkew < permit.issuedAt

end ExecutionPermit

/-! ## What is bound -/

lemma strip_normalizeActionType (actionType : String) :
    Text.strip (normalizeActionType actionType) = normalizeActionType actionType := by
  have hlower : Text.Trimmed (Text.lower (Text.strip actionType)).toList :=
    (Text.trimmed_strip actionType).lower
  exact Text.strip_of_trimmed
    ((hlower.replaceChar (a := '-') (b := '_') rfl).replaceChar (a := ' ') (b := '_') rfl)

lemma normalizeTarget_eq_some {target : Option String} {normalized : String}
    (h : normalizeTarget target = some normalized) :
    Text.strip normalized = normalized ∧ normalized ≠ "" := by
  cases target with
  | none => cases h
  | some text =>
      simp only [normalizeTarget] at h
      split at h
      · cases h
      · rename_i hne
        obtain rfl := Option.some.inj h
        exact ⟨Text.strip_strip text, hne⟩

lemma authorizationTarget_normalized {actionType : String}
    (ha : normalizeActionType actionType ≠ "") (toolId : Option String) :
    Text.strip (authorizationTarget actionType toolId) = authorizationTarget actionType toolId ∧
      authorizationTarget actionType toolId ≠ "" := by
  unfold authorizationTarget
  by_cases hprovider : isProviderAction (normalizeActionType actionType) = true
  · simp only [hprovider, if_true]
    simp only [isProviderAction, Bool.or_eq_true, decide_eq_true_eq] at hprovider
    rcases hprovider with (h | h) | h
    · rw [h]; exact ⟨rfl, by decide⟩
    · rw [h]; exact ⟨rfl, by decide⟩
    · rw [h]; exact ⟨rfl, by decide⟩
  · simp only [hprovider]
    cases htool : normalizeTarget toolId with
    | none => exact ⟨strip_normalizeActionType actionType, ha⟩
    | some target => exact normalizeTarget_eq_some htool

lemma normalizeTarget_authorizationTarget {actionType : String}
    (ha : normalizeActionType actionType ≠ "") (toolId : Option String) :
    normalizeTarget (some (authorizationTarget actionType toolId)) =
      some (authorizationTarget actionType toolId) := by
  obtain ⟨hstrip, hne⟩ := authorizationTarget_normalized ha toolId
  simp [normalizeTarget, hstrip, hne]

def boundPrompt (inputs : Inputs) : Option Value :=
  match (Dict.get? inputs "prompt").bind Value.str? with
  | some prompt =>
      if ((Dict.get? inputs "messages").map Value.truthy).getD false
          && Text.contains prompt userRequestMarker then
        some (.str (Text.rsplitLast prompt userRequestMarker))
      else Dict.get? inputs "prompt"
  | none => Dict.get? inputs "prompt"

lemma get?_authorizationPayload (actionType : String) (inputs : Inputs) (key : String) :
    Dict.get? (authorizationPayload actionType inputs) key =
      if key = "messages" ∨ key = "prepared_context" then none
      else if isProviderAction (normalizeActionType actionType) then
        if key = "prompt" then boundPrompt inputs else Dict.get? inputs key
      else if key = "prompt" ∨ key = "system_prompt" then none
      else Dict.get? inputs key := by
  have hread : ∀ key : String, Dict.get? (Dict.erase (Dict.erase inputs "messages")
      "prepared_context") key =
        if key = "messages" ∨ key = "prepared_context" then none else Dict.get? inputs key := by
    intro key
    rw [Dict.get?_erase, Dict.get?_erase]
    by_cases h₁ : "prepared_context" = key
    · simp [← h₁]
    · by_cases h₂ : "messages" = key
      · simp [← h₂]
      · simp [h₁, h₂, Ne.symm h₁, Ne.symm h₂]
  have hprompt : Dict.get? (Dict.erase (Dict.erase inputs "messages") "prepared_context")
      "prompt" = Dict.get? inputs "prompt" := by
    rw [hread]
    simp
  unfold authorizationPayload
  simp only [hprompt]
  by_cases hprovider : isProviderAction (normalizeActionType actionType) = true
  · rw [if_pos hprovider, if_pos hprovider]
    by_cases hkey : key = "prompt"
    · subst hkey
      rw [if_neg (by simp), if_pos rfl, boundPrompt]
      cases (Dict.get? inputs "prompt").bind Value.str? with
      | none => exact hprompt
      | some prompt =>
          dsimp only
          split
          · exact Dict.get?_set_self _ _ _
          · exact hprompt
    · rw [if_neg hkey]
      cases (Dict.get? inputs "prompt").bind Value.str? with
      | none => exact hread key
      | some prompt =>
          dsimp only
          split
          · rw [Dict.get?_set_of_ne (Ne.symm hkey), hread]
          · exact hread key
  · rw [if_neg hprovider, if_neg hprovider, Dict.get?_erase, Dict.get?_erase, hread]
    by_cases h₁ : "system_prompt" = key
    · simp [← h₁]
    · by_cases h₂ : "prompt" = key
      · simp [← h₂]
      · simp [h₁, h₂, Ne.symm h₁, Ne.symm h₂]

lemma nodupKeys_authorizationPayload (actionType : String) {inputs : Inputs}
    (h : Dict.NodupKeys inputs) : Dict.NodupKeys (authorizationPayload actionType inputs) := by
  have herased : Dict.NodupKeys (Dict.erase (Dict.erase inputs "messages") "prepared_context") :=
    (h.erase _).erase _
  unfold authorizationPayload
  dsimp only
  split
  · split
    · split
      · exact herased.set _ _
      · exact herased
    · exact herased
  · exact (herased.erase _).erase _

/-! ## What the digest determines -/

lemma normalizeOperationPayload_of_operationDigest
    (hdigest : Function.Injective platform.digest) {a a' : String} {t t' : Option String}
    {p p' : Inputs} (h : operationDigest platform a t p = operationDigest platform a' t' p') :
    normalizeOperationPayload p.toValue = normalizeOperationPayload p'.toValue := by
  have hobj := Json.obj.inj (hdigest h)
  simp only [List.cons.injEq, Prod.mk.injEq] at hobj
  exact hobj.2.1.2

lemma operationDigest_congr {a a' : String} {t t' : Option String} {p p' : Inputs}
    (ha : normalizeActionType a = normalizeActionType a')
    (ht : normalizeTarget t = normalizeTarget t')
    (hp : normalizeOperationPayload p.toValue = normalizeOperationPayload p'.toValue) :
    operationDigest platform a t p = operationDigest platform a' t' p' := by
  rw [operationDigest, operationDigest, ha, ht, hp]

end Samaktha
