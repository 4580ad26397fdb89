import Samaktha.Memory.Security
import Samaktha.Memory.Store

/-!
# The memory retriever

`MemoryRetriever.retrieve` with its stages, the two quick retrievals, and the key of the
retrieval cache.  Every stage that reads the recent-memory cache may also write to it, so the
stages return what they found together with the cache they leave.

Scores are floats in the source; here they are values of any linear order, and the arithmetic
that computes them (the similarity of the semantic index, the ranker's formula, which reads the
clock) is a parameter, as are the patterns for questions about the document history and the
text of an instant.  The orders by which results are sorted are the source's.

The skill stage is left out: it adds no candidate.
-/

namespace Samaktha

/-- What a new preference is to the one that is most like it. -/
inductive PreferenceRelation where
  | reinforce
  | update
  | replace
  | contradict
  | new
  deriving Repr, DecidableEq, Inhabited

/-- The memory subsystem's constants and arithmetic. -/
structure MemoryConfig (Score : Type) where
  accessRules : Dict String SecurityLevel := []
  /-- The similarity of a query and one of some items, where it is positive. -/
  similarity : String → List MemoryItem → MemoryItem → Option Score
  /-- The ranker's score at an instant; the similarity is zero where there is none. -/
  score : ℤ → MemoryItem → Option Score → Score
  /-- `str(created_at)`. -/
  instantText : ℤ → String
  /-- Whether a query asks about the document history. -/
  isDocumentHistoryQuery : String → Bool
  /-- Which of the existing preferences is most like a text, and how they are related. -/
  classify : String → List MemoryItem → Option (ℕ × PreferenceRelation)
  /-- The days after which a retention policy expires. -/
  policies : Dict String (Option ℕ) :=
    [("temporary", some 1), ("normal", some 90), ("private", none), ("critical", none)]
  topKRecent : ℕ := 10
  topKSemantic : ℕ := 10
  topKDocuments : ℕ := 5
  maxMemories : ℕ := 100
  maxRetrievals : ℕ := 50

structure IncludeFlags where
  recent : Bool := true
  semantic : Bool := true
  skills : Bool := true
  preferences : Bool := true
  documents : Bool := true
  personalKnowledge : Bool := true
  deriving DecidableEq, Inhabited

structure RetrieveCall where
  access : MemoryAccessContext
  query : String
  topK : ℤ := 15
  flags : IncludeFlags := {}
  deriving DecidableEq, Inhabited

/-- The recent-memory cache; a deleted memory is stored as `none`. -/
abbrev RecentCache := Dict String (Option MemoryItem)

namespace MemoryRetriever

open SecurityManager ContextMemoryStore

/-! ## The key of the retrieval cache -/

/-- `"".join("1" if flag else "0" for flag in flags)`. -/
def flagsText (flags : IncludeFlags) : String :=
  let digit (flag : Bool) : Char := if flag then '1' else '0'
  String.ofList [digit flags.recent, digit flags.semantic, digit flags.skills,
    digit flags.preferences, digit flags.documents, digit flags.personalKnowledge]

def orDash : Option String → String
  | some text => if text = "" then "-" else text
  | none => "-"

/-- The parts of the cache key, in order. -/
def keyParts (call : RetrieveCall) : List String := [
  call.access.principalId,
  orDash call.access.sessionId,
  orDash call.access.workspaceId,
  orDash call.access.profileId,
  call.access.securityLevel.value,
  call.query,
  toString call.topK,
  flagsText call.flags]

/-- `":".join(parts)`, as characters. -/
def joinColon : List String → List Char
  | [] => []
  | [part] => part.toList
  | part :: parts => part.toList ++ ':' :: joinColon parts

def cacheKey (call : RetrieveCall) : String := String.ofList (joinColon (keyParts call))

/-! ## Stages -/

section Stages

variable {Score : Type} [LinearOrder Score] (cfg : MemoryConfig Score)
  (manager : MemoryManager)

def storeRecent (recent : RecentCache) (id : String) (item : Option MemoryItem) : RecentCache :=
  Dict.setBounded cfg.maxMemories recent id item

/-- Items that are all stored in the recent cache, each under its id. -/
def storeAll (recent : RecentCache) (items : List MemoryItem) : RecentCache :=
  items.foldl (fun recent item => storeRecent cfg recent item.id (some item)) recent

/-- `get_recent_memory`; a deleted memory reads as absent. -/
def getRecent (recent : RecentCache) (id : String) : Option MemoryItem :=
  (Dict.get? recent id).join

/-- `items[-k:]`. -/
def lastOf {α : Type} (k : ℕ) (items : List α) : List α :=
  if k = 0 then items else items.drop (items.length - k)

/-- `items[:k]`. -/
def sliceTo {α : Type} (k : ℤ) (items : List α) : List α :=
  if 0 ≤ k then items.take k.toNat else items.take (items.length - k.natAbs)

/-- By id, then by the text of the instant, latest first; both sorts are stable. -/
def browseOrder (items : List MemoryItem) : List MemoryItem :=
  (items.insertionSort fun x y => x.id ≤ y.id).insertionSort fun x y =>
    cfg.instantText y.createdAt ≤ cfg.instantText x.createdAt

def eligibleItems (access : MemoryAccessContext) (items : List MemoryItem) : List MemoryItem :=
  items.filter (eligible cfg.accessRules access)

/-- The memories that the recent cache holds, oldest first. -/
def cachedMemories (recent : RecentCache) : List MemoryItem := recent.filterMap Prod.snd

/-- `_retrieve_recent`: the newest of the cache, or, where it is empty, of the store. -/
def retrieveRecent (recent : RecentCache) : List MemoryItem × RecentCache :=
  match cachedMemories recent with
  | [] =>
      let items := browseOrder cfg (getRecentContext manager.items cfg.topKRecent false)
      (items, storeAll cfg recent items)
  | cached => (browseOrder cfg (lastOf cfg.topKRecent cached), recent)

/-- `search` of the default engine: the items with a positive similarity, best first. -/
def semanticSearch (query : String) (items : List MemoryItem) (topK : ℕ) :
    List (String × Score) :=
  ((items.filterMap fun item => (cfg.similarity query items item).map fun s => (item.id, s)
    ).insertionSort fun x y => y.2 < x.2 ∨ (x.2 = y.2 ∧ x.1 ≤ y.1)).take topK

/-- One hit of the search is read from the recent cache or, failing that, from the store. -/
def materialize (state : List MemoryItem × RecentCache) (hit : String × Score) :
    List MemoryItem × RecentCache :=
  match getRecent state.2 hit.1 with
  | some item => (state.1 ++ [item], state.2)
  | none =>
      match Dict.get? manager.items hit.1 with
      | some item => (state.1 ++ [item], storeRecent cfg state.2 hit.1 (some item))
      | none => state

def retrieveSemantic (recent : RecentCache) (query : String) (eligibleItems : List MemoryItem) :
    (List MemoryItem × Dict String Score) × RecentCache :=
  let hits := semanticSearch cfg query eligibleItems cfg.topKSemantic
  let found := hits.foldl (materialize cfg manager) ([], recent)
  ((found.1, Dict.ofList hits), found.2)

/-- `_retrieve_preferences`: all of them enter the recent cache. -/
def retrievePreferences (recent : RecentCache) : List MemoryItem × RecentCache :=
  let prefs := getByType manager.items "preference" 50 false
  (prefs, storeAll cfg recent prefs)

def documentItem (record : DocumentRecord) : MemoryItem where
  id := record.documentId
  content := "Document: " ++ record.name ++ "\nSummary: " ++ record.summary
  memoryType := some "document"
  written := some record.createdAt
  metadata := [("doc_name", .str record.name), ("source_path", .str record.source)]
  ownerId := record.ownerId
  scope := record.scope
  sessionId := record.sessionId
  workspaceId := record.workspaceId
  profileId := record.profileId
  createdAt := record.createdAt

/-- The runs of `[a-z0-9]` in some characters. -/
def alnumRuns : List Char → List Char → List (List Char)
  | [], run => if run.isEmpty then [] else [run]
  | c :: cs, run =>
      if ('a' ≤ c && c ≤ 'z') || ('0' ≤ c && c ≤ '9') then alnumRuns cs (run ++ [c])
      else if run.isEmpty then alnumRuns cs []
      else run :: alnumRuns cs []

/-- The tokens of a query that are longer than one character. -/
def queryTokens (query : String) : List String :=
  ((alnumRuns (Text.lower query).toList []).filter fun run => 1 < run.length).map String.ofList

def retrieveDocuments (query : String) (access : MemoryAccessContext) : List MemoryItem :=
  let wrapped := eligibleItems cfg access (manager.listDocuments.map documentItem)
  let tokens := queryTokens query
  let matching := wrapped.filter fun item =>
    tokens.isEmpty || tokens.any fun token => Text.contains (Text.lower item.content) token
  let shown := if matching.isEmpty && cfg.isDocumentHistoryQuery query then wrapped else matching
  shown.take cfg.topKDocuments

/-- The presentation of a personal productivity entity. -/
def knowledgeItem (entityType : String) (entity : KnowledgeEntity) : MemoryItem where
  id := entityType ++ ":" ++ entity.id
  content := entity.text
  memoryType := some "personal_knowledge"
  metadata := [("entity_type", .str entityType)]

def retrievePersonalKnowledge (query : String) : List MemoryItem :=
  ["reminder", "note", "task", "contact", "calendar_event"].flatMap fun entityType =>
    (manager.searchPersonalKnowledge entityType query).map (knowledgeItem entityType)

/-- Adds the items whose ids are not among the candidates yet. -/
def mergeNew (candidates : List MemoryItem) (items : List MemoryItem) : List MemoryItem :=
  items.foldl (fun candidates item =>
    if item.id ∈ candidates.map MemoryItem.id then candidates else candidates ++ [item]) candidates

def rank (now : ℤ) (candidates : List MemoryItem) (scores : Dict String Score) :
    List (MemoryItem × Score) :=
  (candidates.map fun item => (item, cfg.score now item (Dict.get? scores item.id))).insertionSort
    fun x y => y.2 < x.2 ∨ (x.2 = y.2 ∧ x.1.id ≤ y.1.id)

def deduplicate (ranked : List (MemoryItem × Score)) : List (MemoryItem × Score) :=
  ranked.foldl (fun kept entry =>
    if entry.1.id ∈ kept.map fun e => e.1.id then kept else kept ++ [entry]) []

/-! ## Retrieval -/

/-- The candidates of a retrieval, the similarities, and the recent cache it leaves. -/
def candidates (recent : RecentCache) (call : RetrieveCall) :
    (List MemoryItem × Dict String Score) × RecentCache :=
  let first :=
    if call.flags.recent then
      let found := retrieveRecent cfg manager recent
      (eligibleItems cfg call.access found.1, found.2)
    else ([], recent)
  let second :=
    if call.flags.semantic then
      let found := retrieveSemantic cfg manager first.2 call.query
        (eligibleItems cfg call.access (getRecentContext manager.items 100000 true))
      ((mergeNew first.1 found.1.1, found.1.2), found.2)
    else ((first.1, []), first.2)
  let third :=
    if call.flags.preferences then
      let found := retrievePreferences cfg manager second.2
      (mergeNew second.1.1 (eligibleItems cfg call.access found.1), found.2)
    else (second.1.1, second.2)
  let fourth :=
    if call.flags.documents then
      mergeNew third.1 (retrieveDocuments cfg manager call.query call.access)
    else third.1
  let fifth :=
    if call.flags.personalKnowledge && call.access.principalId = defaultLocalPrincipalId then
      mergeNew fourth (eligibleItems cfg call.access
        (retrievePersonalKnowledge manager call.query))
    else fourth
  ((fifth, second.1.2), third.2)

/-- The result of a retrieval that is not answered from the retrieval cache, and the recent
cache it leaves. -/
def compute (now : ℤ) (recent : RecentCache) (call : RetrieveCall) :
    List (MemoryItem × Score) × RecentCache :=
  let found := candidates cfg manager recent call
  (sliceTo call.topK (deduplicate (rank cfg now found.1.1 found.1.2)), found.2)

def retrieveRecentOnly (access : MemoryAccessContext) (n : ℕ) : List MemoryItem :=
  (eligibleItems cfg access (getRecentContext manager.items 100000 true)).take n

def retrieveSemanticOnly (recent : RecentCache) (access : MemoryAccessContext) (query : String)
    (topK : ℕ) : List MemoryItem :=
  let items := eligibleItems cfg access (getRecentContext manager.items 100000 true)
  (semanticSearch cfg query items topK).filterMap fun hit =>
    match getRecent recent hit.1 with
    | some item => some item
    | none => Dict.get? manager.items hit.1

end Stages

end MemoryRetriever

end Samaktha
