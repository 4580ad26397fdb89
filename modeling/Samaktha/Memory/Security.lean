import Samaktha.Contracts.Memory

/-!
# The security manager

Ownership and clearance of a memory item, as the retriever checks them.
-/

namespace Samaktha

/-- The outcome of a security check. -/
structure SecurityDecision where
  allowed : Bool
  reason : String := ""
  securityLevel : SecurityLevel := .low
  deriving Repr, Inhabited

def SecurityLevel.rank : SecurityLevel → ℕ
  | low => 0
  | medium => 1
  | high => 2
  | critical => 3

namespace SecurityManager

variable (rules : Dict String SecurityLevel)

def checkReadAccess (memoryType : String) (memoryLevel userLevel : SecurityLevel) :
    SecurityDecision :=
  let required := (Dict.get? rules memoryType).getD .low
  if userLevel.rank < required.rank then
    { allowed := false
      reason := "Security level too low: need " ++ required.value ++ ", got " ++ userLevel.value
      securityLevel := required }
  else if userLevel.rank < memoryLevel.rank then
    { allowed := false
      reason := "Memory security level " ++ memoryLevel.value ++ " exceeds user clearance " ++
        userLevel.value
      securityLevel := memoryLevel }
  else { allowed := true, securityLevel := userLevel }

def checkWriteAccess (memoryType : String) (userLevel : SecurityLevel) : SecurityDecision :=
  let required := (Dict.get? rules memoryType).getD .low
  if userLevel.rank < required.rank then
    { allowed := false
      reason := "Write access denied: need " ++ required.value ++ ", got " ++ userLevel.value
      securityLevel := required }
  else { allowed := true, securityLevel := userLevel }

/-- An optional id that is set, is not empty, and is the item's. -/
def sameId (accessId itemId : Option String) : Bool :=
  match accessId with
  | some id => id ≠ "" && itemId = some id
  | none => false

def isInScope (item : MemoryItem) (access : MemoryAccessContext) : Bool :=
  if item.profileId.isSome && item.profileId ≠ access.profileId then false
  else if item.scope = .system then false
  else if item.ownerId ≠ access.principalId then false
  else
    match item.scope with
    | .session => sameId access.sessionId item.sessionId
    | .workspace => sameId access.workspaceId item.workspaceId
    | .user => true
    | .system => false

def canReadItem (item : MemoryItem) (access : MemoryAccessContext) : SecurityDecision :=
  if isInScope item access then
    checkReadAccess rules ((item.memoryType.filter (· ≠ "")).getD "context") item.privacyLevel
      access.securityLevel
  else { allowed := false, reason := "memory is outside access scope" }

/-- What the retriever requires of an item: scope, clearance, and that it is not private. -/
def eligible (access : MemoryAccessContext) (item : MemoryItem) : Bool :=
  isInScope item access && (canReadItem rules item access).allowed
    && item.retentionPolicy ≠ "private"

/-- The item is in scope of a context and readable under it. -/
def Readable (access : MemoryAccessContext) (item : MemoryItem) : Prop :=
  isInScope item access = true ∧ (canReadItem rules item access).allowed = true

variable {rules}

lemma readable_of_eligible {access : MemoryAccessContext} {item : MemoryItem}
    (h : eligible rules access item = true) : Readable rules access item := by
  rw [eligible, Bool.and_eq_true, Bool.and_eq_true] at h
  exact h.1

lemma ownerId_of_isInScope {access : MemoryAccessContext} {item : MemoryItem}
    (h : isInScope item access = true) : item.ownerId = access.principalId := by
  by_contra howner
  unfold isInScope at h
  rw [if_pos howner] at h
  split at h
  · cases h
  · split at h <;> cases h

end SecurityManager

end Samaktha
