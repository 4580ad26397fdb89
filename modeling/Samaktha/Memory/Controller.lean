import Samaktha.Foundation.Machine
import Samaktha.Memory.Retriever

/-!
# The memory controller

`MemoryController` over a memory manager and a memory cache, as a machine: the typed writes, the
deletions, and the three retrievals.  Items are objects in the source; the only one that is
changed after it was stored is a preference that a later one reinforces or revises, and the
controller then stores it again in both places that hold it.

`forgotten` is a ghost: the ids that a deletion or an expiry removed and that were not written
since.  So is the call that a cached result carries.

The archival, promotion and decay of memories are left out: they change entries of the metadata,
of which only the ranker, and an expiry by the retention policy, read anything.
-/

namespace Samaktha

/-- The kinds of memory that the controller writes. -/
inductive MemoryKind where
  | conversation
  | document
  | preference
  | workflow
  | tool
  | knowledge
  | system
  deriving Repr, DecidableEq, Inhabited

def MemoryKind.value : MemoryKind → String
  | conversation => "conversation"
  | document => "document"
  | preference => "preference"
  | workflow => "workflow"
  | tool => "tool"
  | knowledge => "knowledge"
  | system => "system"

/-- What a write is called with, and what it gets from the clock and the generator of ids. -/
structure MemoryDraft where
  id : String
  content : String
  createdAt : ℤ
  securityLevel : SecurityLevel := .low
  sessionId : Option String := none
  /-- Entries of `extra_metadata` that take the place of a standard one. -/
  extraType : Option String := none
  extraPolicy : Option String := none
  extraWritten : Option (Option ℤ) := none
  metadata : Dict String Json := []
  /-- What the metadata entries of a revised preference become. -/
  revision : Dict String Json := []
  deriving Inhabited

/-- A cached result, with the call that stored it. -/
structure CachedResult (Score : Type) where
  results : List (MemoryItem × Score)
  call : RetrieveCall

/-- The controller's state. -/
structure MemoryState (Score : Type) where
  manager : MemoryManager := {}
  recent : RecentCache := []
  retrievals : Dict String (CachedResult Score) := []
  forgotten : List String := []
  deriving Inhabited

/-- What is asked of the controller. -/
inductive MemoryMove where
  | write (kind : MemoryKind) (access : MemoryAccessContext) (draft : MemoryDraft)
  | writePreference (access : MemoryAccessContext) (draft : MemoryDraft)
  | storeDocument (record : DocumentRecord)
  | setKnowledge (entityType : String) (entities : List KnowledgeEntity)
  | deleteMemory (id : String) (access : MemoryAccessContext)
  | deleteByType (memoryType : String)
  | expireOldMemories (now : ℤ)
  | deleteAll
  | clearCache
  | retrieve (now : ℤ) (call : RetrieveCall)
  | retrieveRecent (access : MemoryAccessContext) (n : ℕ)
  | retrieveSemantic (access : MemoryAccessContext) (query : String) (topK : ℕ)

namespace MemoryController

open SecurityManager ContextMemoryStore MemoryRetriever

variable {Score : Type} [LinearOrder Score] (cfg : MemoryConfig Score)

/-! ## Writes -/

/-- Whether an optional text is set and not empty. -/
def isSet : Option String → Bool
  | some text => text ≠ ""
  | none => false

/-- The scope of a new memory. -/
def writeScope (kind : MemoryKind) (access : MemoryAccessContext) : MemoryScope :=
  match kind with
  | .preference => .user
  | .knowledge => if isSet access.workspaceId then .workspace else .user
  | .system => .system
  | _ => if isSet access.sessionId then .session else .user

/-- `value` as metadata. -/
def optionalText : Option String → Json
  | some text => .str text
  | none => .null

def scopeText : MemoryScope → String
  | .session => "session"
  | .user => "user"
  | .workspace => "workspace"
  | .system => "system"

/-- The item of a draft, before it has an owner. -/
def draftItem (kind : MemoryKind) (draft : MemoryDraft) : MemoryItem where
  id := draft.id
  content := draft.content
  memoryType := some (draft.extraType.getD kind.value)
  policy := some (draft.extraPolicy.getD "normal")
  written := draft.extraWritten.getD (some draft.createdAt)
  metadata := draft.metadata
  sessionId := draft.sessionId
  privacyLevel := draft.securityLevel
  createdAt := draft.createdAt

/-- The metadata entries that repeat the owner and the scope. -/
def ownershipEntries (item : MemoryItem) : Dict String Json := [
  ("owner_id", .str item.ownerId),
  ("scope", .str (scopeText item.scope)),
  ("session_id", optionalText item.sessionId),
  ("workspace_id", optionalText item.workspaceId),
  ("profile_id", optionalText item.profileId)]

def ownership (item : MemoryItem) (access : MemoryAccessContext) (scope : MemoryScope) :
    MemoryItem :=
  let owned : MemoryItem := { item with
    ownerId := access.principalId
    scope := scope
    sessionId := if scope = .session then access.sessionId else none
    workspaceId := if scope = .workspace then access.workspaceId else none
    profileId := access.profileId }
  { owned with metadata := Dict.update owned.metadata (ownershipEntries owned) }

/-- Stores a new item, in the manager and in the recent cache, and clears the cached results. -/
def storeNew (s : MemoryState Score) (item : MemoryItem) : MemoryState Score :=
  { s with
    manager := s.manager.storeMemory item
    recent := storeRecent cfg s.recent item.id (some item)
    retrievals := []
    forgotten := s.forgotten.filter (· ≠ item.id) }

/-- The typed writes other than `write_preference`; a write that is denied raises. -/
def write (s : MemoryState Score) (kind : MemoryKind) (access : MemoryAccessContext)
    (draft : MemoryDraft) : MemoryState Score :=
  if (checkWriteAccess cfg.accessRules kind.value draft.securityLevel).allowed then
    storeNew cfg s (ownership (draftItem kind draft) access (writeScope kind access))
  else s

/-! ## Preferences -/

/-- A preference of the principal, in user scope. -/
def ownPreference (access : MemoryAccessContext) (item : MemoryItem) : Bool :=
  item.memoryType = some "preference" && item.ownerId = access.principalId && item.scope = .user

/-- `_find_existing_preferences`: from the recent cache, or, where it holds none, from the
newest hundred of the store. -/
def findExistingPreferences (s : MemoryState Score) (access : MemoryAccessContext) :
    List MemoryItem × RecentCache :=
  match (cachedMemories s.recent).filter (ownPreference access) with
  | [] =>
      let items := (getRecentContext s.manager.items 100 false).filter (ownPreference access)
      (items, storeAll cfg s.recent items)
  | items => (items, s.recent)

/-- The metadata entries that a revision changes. -/
def revisedKeys : List String :=
  ["history", "importance", "access_counter", "updated_at", "last_accessed", "tags", "checksum"]

/-- A preference after a later one; only an update or a replacement changes its content. -/
def revise (item : MemoryItem) (draft : MemoryDraft) (relation : PreferenceRelation) : MemoryItem :=
  { item with
    content :=
      if relation = .update ∨ relation = .replace then draft.content else item.content
    metadata := Dict.update item.metadata (Dict.filterKeys (· ∈ revisedKeys) draft.revision) }

/-- `_build_new_item`. -/
def newPreference (access : MemoryAccessContext) (draft : MemoryDraft) : MemoryItem :=
  let item : MemoryItem := { draftItem .preference draft with
    ownerId := access.principalId
    scope := .user
    profileId := access.profileId }
  let entries := ownershipEntries { item with sessionId := none, workspaceId := none }
  { item with metadata := Dict.update item.metadata entries }

/-- What `resolve` decides: an existing preference that is revised, or a new one. -/
def resolve (existing : List MemoryItem) (access : MemoryAccessContext) (draft : MemoryDraft) :
    MemoryItem × Bool :=
  match (cfg.classify draft.content existing).bind fun found =>
      existing[found.1]?.map fun best => (best, found.2) with
  | some (best, .contradict) =>
      let item := newPreference access draft
      ({ item with metadata := Dict.set item.metadata "conflict_with" (.str best.id) }, true)
  | some (_, .new) => (newPreference access draft, true)
  | some (best, relation) => (revise best draft relation, false)
  | none => (newPreference access draft, true)

def writePreference (s : MemoryState Score) (access : MemoryAccessContext) (draft : MemoryDraft) :
    MemoryState Score :=
  if (checkWriteAccess cfg.accessRules "preference" draft.securityLevel).allowed then
    let found := findExistingPreferences cfg s access
    let s := { s with recent := found.2 }
    match resolve cfg found.1 access draft with
    | (item, true) => storeNew cfg s item
    | (item, false) =>
        { s with
          manager := s.manager.updateInPlace item
          recent := storeRecent cfg s.recent item.id (some item)
          retrievals := []
          forgotten := s.forgotten.filter (· ≠ item.id) }
  else s

/-! ## Deletion -/

/-- A memory is removed from the manager and marked in the recent cache. -/
def remove (s : MemoryState Score) (id : String) : MemoryState Score :=
  { s with
    manager := s.manager.deleteMemory id
    recent := storeRecent cfg s.recent id none
    forgotten := s.forgotten.insert id }

/-- The lifecycle manager's `delete_memory`, which looks at the newest thousand. -/
def lifecycleDelete (s : MemoryState Score) (id : String) : MemoryState Score :=
  if id ∈ (getRecentContext s.manager.items 1000 true).map MemoryItem.id then remove cfg s id else s

def deleteMemory (s : MemoryState Score) (id : String) (access : MemoryAccessContext) :
    MemoryState Score :=
  match Dict.get? s.manager.items id with
  | some item => if isInScope item access then lifecycleDelete cfg s id else s
  | none => s

def deleteByType (s : MemoryState Score) (memoryType : String) : MemoryState Score :=
  ((getRecentContext s.manager.items 1000 true).filter fun item =>
    item.memoryType = some memoryType).foldl (fun s item => lifecycleDelete cfg s item.id) s

def day : ℤ := 86400000000

/-- Whether the retention policy of an item has expired. -/
def expired (now : ℤ) (item : MemoryItem) : Bool :=
  match (Dict.get? cfg.policies (item.policy.getD "normal")).join, item.written with
  | some days, some written => days * day < now - written
  | _, _ => false

def expireOldMemories (s : MemoryState Score) (now : ℤ) : MemoryState Score :=
  ((getRecentContext s.manager.items 1000 false).filter (expired cfg now)).foldl
    (fun s item => remove cfg s item.id) s

def deleteAll (s : MemoryState Score) : MemoryState Score :=
  { manager := s.manager.deleteAllMemories
    recent := []
    retrievals := []
    forgotten := s.forgotten ++ Dict.keys s.manager.rows }

/-! ## Retrieval -/

/-- `retrieve`: from the retrieval cache, or computed and cached. -/
def retrieve (s : MemoryState Score) (now : ℤ) (call : RetrieveCall) :
    List (MemoryItem × Score) × MemoryState Score :=
  match Dict.get? s.retrievals (cacheKey call) with
  | some cached => (cached.results, s)
  | none =>
      let found := compute cfg s.manager now s.recent call
      (found.1, { s with
        recent := found.2
        retrievals := Dict.setBounded cfg.maxRetrievals s.retrievals (cacheKey call)
          ⟨found.1, call⟩ })

/-- The state after a move. -/
def after (s : MemoryState Score) : MemoryMove → MemoryState Score
  | .write kind access draft => write cfg s kind access draft
  | .writePreference access draft => writePreference cfg s access draft
  | .storeDocument record => { s with manager := s.manager.storeDocument record }
  | .setKnowledge entityType entities =>
      { s with manager := s.manager.setKnowledge entityType entities }
  | .deleteMemory id access => deleteMemory cfg s id access
  | .deleteByType memoryType => deleteByType cfg s memoryType
  | .expireOldMemories now => expireOldMemories cfg s now
  | .deleteAll => deleteAll s
  | .clearCache => { s with recent := [], retrievals := [] }
  | .retrieve now call => (retrieve cfg s now call).2
  | .retrieveRecent _ _ => s
  | .retrieveSemantic _ _ _ => s

/-- The items that a move returns. -/
def answer (s : MemoryState Score) : MemoryMove → List MemoryItem
  | .retrieve now call => (retrieve cfg s now call).1.map Prod.fst
  | .retrieveRecent access n => retrieveRecentOnly cfg s.manager access n
  | .retrieveSemantic access query topK =>
      retrieveSemanticOnly cfg s.manager s.recent access query topK
  | _ => []

def machine : Machine (MemoryState Score) MemoryMove := ⟨fun s move => some (after cfg s move)⟩

end MemoryController

end Samaktha
