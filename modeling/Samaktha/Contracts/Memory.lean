import Samaktha.Foundation.Json
import Samaktha.Foundation.Text

/-!
# Memory contracts

Items, documents and the access context of the memory subsystem.  Of an item's metadata, the
three entries that the modelled functions read (`memory_type`, `retention_policy`,
`created_at`) are fields of their own.  Instants are microseconds since the epoch, in UTC.
-/

namespace Samaktha

inductive SecurityLevel where
  | low
  | medium
  | high
  | critical
  deriving Repr, DecidableEq, Inhabited

def SecurityLevel.value : SecurityLevel → String
  | low => "low"
  | medium => "medium"
  | high => "high"
  | critical => "critical"

lemma SecurityLevel.value_injective : Function.Injective SecurityLevel.value := by
  intro a b h
  cases a <;> cases b <;> first | rfl | exact absurd h (by decide)

/-- The ownership boundary of a memory. -/
inductive MemoryScope where
  | session
  | user
  | workspace
  | system
  deriving Repr, DecidableEq, Inhabited

def defaultLocalPrincipalId : String := "local-default"

lemma named_defaultLocalPrincipalId : Text.strip defaultLocalPrincipalId ≠ "" := by decide

/-- Identity and clearance of a memory operation; the principal is not blank. -/
structure MemoryAccessContext where
  principalId : String := defaultLocalPrincipalId
  sessionId : Option String := none
  workspaceId : Option String := none
  profileId : Option String := none
  securityLevel : SecurityLevel := .low
  named : Text.strip principalId ≠ "" := by decide
  deriving DecidableEq

instance : Inhabited MemoryAccessContext := ⟨{}⟩

/-- A typed memory, or one of the two things that the retriever presents as one. -/
structure MemoryItem where
  id : String
  content : String
  /-- `metadata["memory_type"]`, where it is set. -/
  memoryType : Option String := none
  /-- `metadata["retention_policy"]`, where it is set. -/
  policy : Option String := none
  /-- `metadata["created_at"]` as an instant, where it is set and can be read as one. -/
  written : Option ℤ := none
  /-- The other entries of the metadata. -/
  metadata : Dict String Json := []
  ownerId : String := defaultLocalPrincipalId
  scope : MemoryScope := .user
  sessionId : Option String := none
  workspaceId : Option String := none
  profileId : Option String := none
  privacyLevel : SecurityLevel := .low
  retentionPolicy : String := "normal"
  createdAt : ℤ := 0
  deriving Inhabited

/-- The metadata of a stored document. -/
structure DocumentRecord where
  documentId : String
  name : String
  source : String := ""
  summary : String := ""
  ownerId : String := defaultLocalPrincipalId
  scope : MemoryScope := .user
  sessionId : Option String := none
  workspaceId : Option String := none
  profileId : Option String := none
  createdAt : ℤ := 0
  updatedAt : ℤ := 0
  deriving Inhabited

/-- A personal productivity entity: its text, and the attributes that a search looks at. -/
structure KnowledgeEntity where
  id : String
  text : String
  title : Option String := none
  name : Option String := none
  tags : List String := []
  deriving DecidableEq, Inhabited

end Samaktha
