import Samaktha.Foundation.Fields
import Samaktha.Contracts.Memory

/-!
# Who owns a session

`SessionManager` over the files of its sessions, which may be in any state: missing, unreadable, or
with any JSON value.  The index has an entry with the owner of each session, and a deletion looks
there.  But a session that is loaded is read from its own metadata file, repaired and migrated; what
the file does not say is filled in with defaults, the local principal among them, and the index is
not asked (`owner_readMetadata`).  So a session stays with the owner that the index names exactly
where its metadata file still names the same one, or names none and the owner is the local principal
(`owner_survives_iff`).

A manager without a bound on the history is modelled: no rotation, no archive.  Writes of files
succeed.
-/

namespace Samaktha

namespace SessionOwnership

/-! ## Models -/

/-- A field of type `str`. -/
def text (name : String) (default : Option String := none) : ModelField Json where
  name := name
  check
    | .str s => some (.str s)
    | _ => none
  default := default.map .str

/-- A field of type `str | None`. -/
def optionalText (name : String) : ModelField Json where
  name := name
  check
    | .str s => some (.str s)
    | .null => some .null
    | _ => none
  default := some .null

/-- A field of type `list[str]`. -/
def texts (name : String) : ModelField Json where
  name := name
  check
    | .arr xs => if xs.all fun x => x.str?.isSome then some (.arr xs) else none
    | _ => none
  default := some (.arr [])

/-- A field of type `int`, for a reading of integers. -/
def integer (readInt : Json → Option ℤ) (name : String) (default : ℤ) : ModelField Json where
  name := name
  check value := (readInt value).map .int
  default := some (.int default)

/-- A field whose values are lists of models. -/
def records (fields : List (ModelField Json)) (name : String) : ModelField Json where
  name := name
  check
    | .arr xs => (xs.mapM fun (x : Json) =>
        match x with
        | .obj kvs => (ModelField.construct fields kvs).toOption.map Json.obj
        | _ => none).map Json.arr
    | _ => none
  default := some (.arr [])

/-- What the libraries do, and how many sessions stay in the cache. -/
structure SessionRuntime where
  /-- The value of a decimal digit, in any script. -/
  digit : Char → Option ℕ
  /-- What the validation of a model reads as an integer. -/
  readInt : Json → Option ℤ
  maxCachedSessions : Option ℕ := some 256

variable (cfg : SessionRuntime)

def sessionMetadata : List (ModelField Json) := [
  text "session_id",
  text "principal_id" defaultLocalPrincipalId,
  optionalText "workspace_id",
  optionalText "profile_id",
  text "created_at",
  text "updated_at",
  text "title" "",
  text "summary" "",
  texts "tags",
  texts "projects",
  integer cfg.readInt "message_count" 0,
  texts "topic_summary",
  integer cfg.readInt "schema_version" 2,
  texts "tools_used",
  texts "providers_used",
  texts "files_created",
  texts "files_modified",
  texts "files_deleted",
  texts "approvals",
  texts "architecture_topics",
  texts "bugs_fixed",
  texts "repositories",
  texts "runtime_errors",
  texts "milestones"]

def sessionHistoryEntry : List (ModelField Json) := [
  text "id",
  text "timestamp",
  text "role",
  text "content",
  integer cfg.readInt "turn_number" 0,
  optionalText "intent",
  optionalText "execution_state",
  optionalText "approval_state",
  texts "task_ids",
  texts "tool_calls",
  optionalText "provider",
  texts "references",
  optionalText "runtime_summary",
  text "provenance" "unknown"]

def sessionMemoryEntry : List (ModelField Json) := [
  text "key",
  text "value",
  text "category" "fact",
  text "created_at",
  text "updated_at"]

def sessionMemory : List (ModelField Json) := [
  text "session_id",
  integer cfg.readInt "schema_version" 2,
  records sessionMemoryEntry "entries",
  records (sessionHistoryEntry cfg) "history",
  integer cfg.readInt "next_turn_number" 1]

/-- A session that was loaded: its metadata and its memory, field by field. -/
structure Session where
  metadata : Dict String Json
  memory : Dict String Json
  deriving Inhabited

/-- A field of type `str`. -/
def textOf (fields : Dict String Json) (name : String) : String :=
  ((Dict.get? fields name).bind Json.str?).getD ""

/-- A field whose values are lists. -/
def itemsOf (fields : Dict String Json) (name : String) : List Json :=
  match Dict.get? fields name with
  | some (.arr xs) => xs
  | _ => []

/-- The fields of the models in a list. -/
def recordsOf (fields : Dict String Json) (name : String) : List (Dict String Json) :=
  (itemsOf fields name).filterMap fun x =>
    match x with
    | .obj kvs => some kvs
    | _ => none

/-- `metadata.principal_id`. -/
def ownerOf (metadata : Dict String Json) : Option String :=
  (Dict.get? metadata "principal_id").bind Json.str?

/-! ## Migration -/

/-- The two kinds of files that are migrated. -/
inductive FileKind where
  | metadata
  | memory
  deriving Repr, DecidableEq, Inhabited

/-- `_METADATA_FIELD_DEFAULTS` and `_MEMORY_FIELD_DEFAULTS`. -/
def fieldDefaults : FileKind → Dict ℤ (Dict String Json)
  | .metadata => [
      (1, [
        ("tools_used", .arr []),
        ("providers_used", .arr []),
        ("files_created", .arr []),
        ("files_modified", .arr []),
        ("files_deleted", .arr []),
        ("approvals", .arr []),
        ("architecture_topics", .arr []),
        ("bugs_fixed", .arr []),
        ("repositories", .arr []),
        ("runtime_errors", .arr []),
        ("milestones", .arr []),
        ("topic_summary", .arr []),
        ("tags", .arr []),
        ("projects", .arr []),
        ("title", .str ""),
        ("summary", .str ""),
        ("message_count", .int 0),
        ("schema_version", .int 1)]),
      (2, [
        ("principal_id", .str "local-default"),
        ("workspace_id", .null),
        ("profile_id", .null),
        ("schema_version", .int 2)])]
  | .memory => [
      (1, [
        ("entries", .arr []),
        ("history", .arr []),
        ("next_turn_number", .int 1)]),
      (2, [("schema_version", .int 2)])]

/-- The schema version of a file: 0 where there is none that is an integer. -/
def currentVersion (data : Dict String Json) : Except IntError ℤ :=
  match Dict.get? data "schema_version" with
  | none => .ok 0
  | some .null => .ok 0
  | some value =>
      match value.toInt cfg.digit with
      | .ok version => .ok version
      | .error .overflowError => .error .overflowError
      | .error _ => .ok 0

/-- The defaults of the fields that are not there. -/
def addDefaults (defaults data : Dict String Json) : Dict String Json :=
  defaults.foldl (fun data kv => Dict.setDefault data kv.1 kv.2) data

/-- The versions from the one after the current one to the target. -/
def versionsAfter (version : ℤ) : List ℤ :=
  (List.range (2 - version).toNat).map fun i => version + 1 + i

/-- `migrate_session_data`; a version that is too large to be an integer raises. -/
def migrateSessionData (kind : FileKind) (data : Dict String Json) :
    Except IntError (Dict String Json) :=
  match currentVersion cfg data with
  | .error e => .error e
  | .ok version =>
      if 2 ≤ version then .ok data
      else
        .ok (Dict.set ((versionsAfter version).foldl (fun result v =>
          addDefaults ((Dict.get? (fieldDefaults kind) v).getD []) result) data)
          "schema_version" (.int 2))

/-! ## Loading -/

/-- What is found where a file should be. -/
inductive FileContent where
  | missing
  | unreadable
  | holds (value : Json)
  deriving Inhabited

/-- `metadata.json` and `session_memory.json`. -/
structure SessionFiles where
  metadata : FileContent := .missing
  memory : FileContent := .missing
  deriving Inhabited

/-- The object that a file holds, or what stands for it. -/
def rawFields (defaults : Dict String Json) : FileContent → Dict String Json
  | .holds (.obj kvs) => kvs
  | _ => defaults

/-- The fields that make up for a missing metadata file. -/
def newFields (id now : String) : Dict String Json :=
  [("session_id", .str id), ("created_at", .str now), ("updated_at", .str now)]

/-- The fields that are left without the invalid ones, with those that there have to be. -/
def repaired (id now : String) (invalid : List String) (raw : Dict String Json) :
    Dict String Json :=
  Dict.setDefault
    (Dict.setDefault (Dict.set (ModelField.eraseAll invalid raw) "session_id" (.str id))
      "created_at" (.str now))
    "updated_at" (.str now)

/-- `SessionMetadata(**raw)`, or what is recovered of it. -/
def readMetadata (id now : String) (raw : Dict String Json) : Dict String Json :=
  match ModelField.construct (sessionMetadata cfg) raw with
  | .ok metadata => metadata
  | .error invalid =>
      match ModelField.construct (sessionMetadata cfg) (repaired id now invalid raw) with
      | .ok metadata => metadata
      | .error _ => ModelField.build (sessionMetadata cfg) (newFields id now)

/-- `SessionMemory(**raw)`, or what is recovered of it. -/
def readMemory (id : String) (raw : Dict String Json) : Dict String Json :=
  match ModelField.construct (sessionMemory cfg) raw with
  | .ok memory => memory
  | .error invalid =>
      match ModelField.construct (sessionMemory cfg)
          (Dict.set (ModelField.eraseAll invalid raw) "session_id" (.str id)) with
      | .ok memory => memory
      | .error _ => ModelField.build (sessionMemory cfg) [("session_id", .str id)]

/-- What `_load_session_locked` reads from the files of a session. -/
def readSession (id now : String) (files : SessionFiles) : Except IntError Session :=
  match migrateSessionData cfg .metadata (rawFields (newFields id now) files.metadata),
      migrateSessionData cfg .memory (rawFields [("session_id", .str id)] files.memory) with
  | .ok metadata, .ok memory => .ok ⟨readMetadata cfg id now metadata, readMemory cfg id memory⟩
  | .error e, _ => .error e
  | .ok _, .error e => .error e

/-- The exceptions of a call. -/
inductive SessionError where
  | keyError
  | overflowError
  | permissionError
  deriving Repr, DecidableEq, Inhabited

/-- A manager: the index, the files of the sessions, and the sessions in the cache, the one that
was used last at the end. -/
structure ManagerState where
  index : Dict String (Dict String Json) := []
  files : Dict String SessionFiles := []
  cache : Dict String Session := []
  deriving Inhabited

def cacheSession (s : ManagerState) (id : String) (session : Session) : ManagerState :=
  let cache := Dict.erase s.cache id ++ [(id, session)]
  { s with
    cache :=
      match cfg.maxCachedSessions with
      | some bound => cache.drop (cache.length - bound)
      | none => cache }

def filesOf (s : ManagerState) (id : String) : SessionFiles := (Dict.get? s.files id).getD {}

def loadSessionLocked (s : ManagerState) (id now : String) :
    Except SessionError Session × ManagerState :=
  match Dict.get? s.cache id with
  | some session => (.ok session, { s with cache := Dict.erase s.cache id ++ [(id, session)] })
  | none =>
      if (Dict.get? s.index id).isNone then (.error .keyError, s)
      else
        match readSession cfg id now (filesOf s id) with
        | .ok session => (.ok session, cacheSession cfg s id session)
        | .error _ => (.error .overflowError, s)

def loadSession (s : ManagerState) (id now principalId : String) :
    Except SessionError Session × ManagerState :=
  match loadSessionLocked cfg s id now with
  | (.ok session, s) =>
      if ownerOf session.metadata = some principalId then (.ok session, s)
      else (.error .permissionError, s)
  | (.error e, s) => (.error e, s)

/-! ## Writing and deleting -/

def buildTopicSummary (session : Session) : List String :=
  let title := textOf session.metadata "title"
  let parts := (((textOf session.metadata "summary").splitOn "•").map Text.strip).filter (· ≠ "")
  let facts := ((recordsOf session.memory "entries").take 5).filterMap fun entry =>
    let label := Text.strip (textOf entry "key")
    if label = "" then none else some (textOf entry "category" ++ ": " ++ label)
  let tools := (((itemsOf session.metadata "tools_used").take 3).filterMap Json.str?).filterMap
    fun tool => if tool = "" then none else some ("tool: " ++ tool)
  let topics := (if title = "" then [] else [title]) ++ parts ++ facts ++ tools
  (topics.foldl (fun kept topic =>
    if Text.lower topic ∈ kept.map Text.lower then kept else kept ++ [topic]) []).take 8

/-- `_write_session`: under the id that the metadata has. -/
def writeSession (s : ManagerState) (session : Session) : Session × ManagerState :=
  let metadata := Dict.set session.metadata "topic_summary"
    (.arr ((buildTopicSummary session).map .str))
  let id := textOf metadata "session_id"
  ({ session with metadata := metadata },
    { s with
      files := Dict.set s.files id ⟨.holds (.obj metadata), .holds (.obj session.memory)⟩
      index := Dict.set s.index id metadata })

/-- The session with one more event, which has the next turn number. -/
def stamped (session : Session) (event : Dict String Json) (now : String) : Session :=
  let turn : ℤ := match Dict.get? session.memory "next_turn_number" with
    | some (.int n) => n
    | _ => 1
  let stampedEvent : Json := .obj (Dict.set event "turn_number" (.int turn))
  { metadata := Dict.set session.metadata "updated_at" (.str now)
    memory := Dict.set (Dict.set session.memory "next_turn_number" (.int (turn + 1)))
      "history" (.arr (itemsOf session.memory "history" ++ [stampedEvent])) }

def appendHistory (s : ManagerState) (id now : String) (event : Dict String Json) :
    Except SessionError Unit × ManagerState :=
  match loadSessionLocked cfg s id now with
  | (.error e, s) => (.error e, s)
  | (.ok session, s) =>
      if textOf event "id" ∈ (recordsOf session.memory "history").map (textOf · "id") then
        (.ok (), s)
      else
        let (session, s) := writeSession s (stamped session event now)
        (.ok (), cacheSession cfg s id session)

def deleteSession (s : ManagerState) (id principalId : String) : Bool × ManagerState :=
  match Dict.get? s.index id with
  | none => (false, s)
  | some metadata =>
      if ownerOf metadata = some principalId then
        (true, {
          index := Dict.erase s.index id
          files := Dict.erase s.files id
          cache := Dict.erase s.cache id })
      else (false, s)

/-! ## The owner that a file names -/

/-- The owner that metadata names: the local principal where they name none. -/
def namedOwner (raw : Dict String Json) : String :=
  (ownerOf raw).getD defaultLocalPrincipalId

/-- The owner that a metadata file names. -/
def filedOwner (file : FileContent) : String := namedOwner (rawFields [] file)

section Reading

variable {cfg} {raw : Dict String Json} {id now : String}

lemma nodup_sessionMetadata : ((sessionMetadata cfg).map ModelField.name).Nodup := by
  have hnames : (sessionMetadata cfg).map ModelField.name = ["session_id", "principal_id",
      "workspace_id", "profile_id", "created_at", "updated_at", "title", "summary", "tags",
      "projects", "message_count", "topic_summary", "schema_version", "tools_used",
      "providers_used", "files_created", "files_modified", "files_deleted", "approvals",
      "architecture_topics", "bugs_fixed", "repositories", "runtime_errors", "milestones"] := rfl
  rw [hnames]
  decide

def ownerField : ModelField Json := text "principal_id" defaultLocalPrincipalId

variable (cfg) in
lemma ownerField_mem : ownerField ∈ sessionMetadata cfg := List.mem_cons_of_mem _ List.mem_cons_self

lemma required_or_default {field : ModelField Json} (h : field ∈ sessionMetadata cfg) :
    (field.default ≠ none ∧
        (field.name ≠ "session_id" ∧ field.name ≠ "created_at" ∧ field.name ≠ "updated_at")) ∨
      field = text "session_id" ∨ field = text "created_at" ∨ field = text "updated_at" := by
  simp only [sessionMetadata, List.mem_cons, List.not_mem_nil, or_false] at h
  rcases h with rfl | rfl | rfl | rfl | rfl | rfl | rfl | rfl | rfl | rfl | rfl | rfl | rfl | rfl |
    rfl | rfl | rfl | rfl | rfl | rfl | rfl | rfl | rfl | rfl
  all_goals first
    | exact .inr (.inl rfl)
    | exact .inr (.inr (.inl rfl))
    | exact .inr (.inr (.inr rfl))
    | exact .inl ⟨Option.some_ne_none _, by simp [text, optionalText, texts, integer]⟩

lemma value_ownerField (raw : Dict String Json) :
    (ownerField.value raw).or ownerField.default = some (.str (namedOwner raw)) := by
  have hname : ownerField.name = "principal_id" := rfl
  rw [ModelField.value, namedOwner, ownerOf, hname]
  cases Dict.get? raw "principal_id" with
  | none => rfl
  | some value =>
      cases value with
      | str p => rfl
      | null => rfl
      | bool b => rfl
      | int n => rfl
      | float r => rfl
      | arr xs => rfl
      | obj kvs => rfl

lemma ownerOf_construct {metadata : Dict String Json}
    (h : ModelField.construct (sessionMetadata cfg) raw = .ok metadata) :
    ownerOf metadata = some (namedOwner raw) := by
  obtain ⟨hvalid, rfl⟩ := ModelField.construct_eq_ok_iff.mp h
  have hget := ModelField.get?_build raw nodup_sessionMetadata (ownerField_mem cfg)
  obtain ⟨x, hx⟩ := Option.ne_none_iff_exists'.mp (hvalid ownerField (ownerField_mem cfg))
  have hvalue := value_ownerField raw
  rw [hx, Option.some_or] at hvalue
  rw [ownerOf, show "principal_id" = ownerField.name from rfl, hget, hx, Option.some.inj hvalue]
  rfl

lemma get?_repaired_of_ne {invalid : List String} {key : String}
    (hkey : key ≠ "session_id" ∧ key ≠ "created_at" ∧ key ≠ "updated_at") :
    Dict.get? (repaired id now invalid raw) key =
      Dict.get? (ModelField.eraseAll invalid raw) key := by
  obtain ⟨hid, hcreated, hupdated⟩ := hkey
  rw [repaired, Dict.get?_setDefault, Dict.get?_setDefault, Dict.get?_set_of_ne hid.symm,
    if_neg hcreated.symm, if_neg hupdated.symm, Option.or_none, Option.or_none]

variable (raw id now) in
lemma get?_repaired_required {key : String}
    (hkey : key = "session_id" ∨ key = "created_at" ∨ key = "updated_at")
    (hfield : text key ∈ sessionMetadata cfg) :
    ∃ t, Dict.get? (repaired id now (ModelField.invalidNames (sessionMetadata cfg) raw) raw) key =
      some (.str t) := by
  have hkept : ∀ value, Dict.get? (ModelField.eraseAll
      (ModelField.invalidNames (sessionMetadata cfg) raw) raw) key = some value →
      ∃ t, value = .str t := by
    intro value hvalue
    have hcheck := ModelField.check_of_get?_eraseAll nodup_sessionMetadata hfield hvalue
    cases value with
    | str t => exact ⟨t, rfl⟩
    | null => exact absurd rfl hcheck
    | bool b => exact absurd rfl hcheck
    | int n => exact absurd rfl hcheck
    | float r => exact absurd rfl hcheck
    | arr xs => exact absurd rfl hcheck
    | obj kvs => exact absurd rfl hcheck
  rw [repaired, Dict.get?_setDefault, Dict.get?_setDefault, Dict.get?_set]
  by_cases hid : "session_id" = key
  · exact ⟨id, by rw [if_pos hid, Option.some_or, Option.some_or]⟩
  · rw [if_neg hid]
    cases hget : Dict.get? (ModelField.eraseAll
        (ModelField.invalidNames (sessionMetadata cfg) raw) raw) key with
    | some value =>
        obtain ⟨t, rfl⟩ := hkept value hget
        exact ⟨t, by rw [Option.some_or, Option.some_or]⟩
    | none =>
        rcases hkey with rfl | rfl | rfl
        · exact absurd rfl hid
        · exact ⟨now, rfl⟩
        · exact ⟨now, rfl⟩

variable (raw id now) in
lemma value_repaired_ne_none {field : ModelField Json} (h : field ∈ sessionMetadata cfg) :
    field.value (repaired id now (ModelField.invalidNames (sessionMetadata cfg) raw) raw) ≠
      none := by
  rcases required_or_default h with ⟨hdefault, hname⟩ | hrequired
  · have hvalue := ModelField.value_eraseAll raw nodup_sessionMetadata h
    rw [ModelField.value, get?_repaired_of_ne hname, ← ModelField.value, hvalue]
    intro hnone
    exact hdefault (Option.or_eq_none_iff.mp hnone).2
  · have hkey : ∃ key, field = text key ∧
        (key = "session_id" ∨ key = "created_at" ∨ key = "updated_at") := by
      rcases hrequired with hid | hcreated | hupdated
      · exact ⟨_, hid, .inl rfl⟩
      · exact ⟨_, hcreated, .inr (.inl rfl)⟩
      · exact ⟨_, hupdated, .inr (.inr rfl)⟩
    obtain ⟨key, rfl, hkey⟩ := hkey
    obtain ⟨t, ht⟩ := get?_repaired_required raw id now hkey h
    have hname : (text key).name = key := rfl
    rw [ModelField.value, hname, ht]
    exact Option.some_ne_none _

/-- The owner of what is read is the one that the file names, damaged or not: no default but that
of the owner itself comes in. -/
lemma owner_readMetadata (raw : Dict String Json) :
    ownerOf (readMetadata cfg id now raw) = some (namedOwner raw) := by
  unfold readMetadata
  split
  · rename_i metadata hread
    exact ownerOf_construct hread
  · rename_i invalid hread
    have hinvalid : invalid = ModelField.invalidNames (sessionMetadata cfg) raw := by
      rw [ModelField.construct] at hread
      split at hread
      · cases hread
      · exact (Except.error.inj hread).symm
    subst hinvalid
    have hvalid : ∀ field ∈ sessionMetadata cfg, field.value (repaired id now
        (ModelField.invalidNames (sessionMetadata cfg) raw) raw) ≠ none :=
      fun _ hfield => value_repaired_ne_none raw id now hfield
    have hagain := ModelField.construct_eq_ok_iff.mpr ⟨hvalid, rfl⟩
    rw [hagain]
    have hname : ownerField.name = "principal_id" := rfl
    have hvalue := ModelField.value_eraseAll raw nodup_sessionMetadata (ownerField_mem cfg)
    rw [value_ownerField, ModelField.value, hname] at hvalue
    rw [ownerOf, ← hname, ModelField.get?_build _ nodup_sessionMetadata (ownerField_mem cfg),
      ModelField.value, hname, get?_repaired_of_ne (by decide), hvalue]
    rfl

/-! ## The owner after a migration -/

lemma namedOwner_setDefault {key : String} {value : Json}
    (h : key = "principal_id" → value = .str defaultLocalPrincipalId) :
    namedOwner (Dict.setDefault raw key value) = namedOwner raw := by
  rw [namedOwner, ownerOf, Dict.get?_setDefault, namedOwner, ownerOf]
  cases Dict.get? raw "principal_id" with
  | some x => rfl
  | none =>
      by_cases hkey : key = "principal_id"
      · rw [if_pos hkey, h hkey]
        rfl
      · rw [if_neg hkey]
        rfl

lemma namedOwner_addDefaults {defaults : Dict String Json}
    (h : ∀ kv ∈ defaults, kv.1 = "principal_id" → kv.2 = .str defaultLocalPrincipalId) :
    namedOwner (addDefaults defaults raw) = namedOwner raw := by
  induction defaults generalizing raw with
  | nil => rfl
  | cons kv rest ih =>
      obtain ⟨hfirst, hrest⟩ := List.forall_mem_cons.mp h
      show namedOwner (addDefaults rest (Dict.setDefault raw kv.1 kv.2)) = _
      rw [ih hrest, namedOwner_setDefault hfirst]

lemma fieldDefaults_owner (kind : FileKind) (version : ℤ) :
    ∀ kv ∈ (Dict.get? (fieldDefaults kind) version).getD [],
      kv.1 = "principal_id" → kv.2 = .str defaultLocalPrincipalId := by
  cases kind with
  | metadata =>
      simp only [fieldDefaults, Dict.get?]
      split
      · simp
      · split
        · simp [defaultLocalPrincipalId]
        · simp
  | memory =>
      simp only [fieldDefaults, Dict.get?]
      split
      · simp
      · split
        · simp
        · simp

lemma namedOwner_migrate {kind : FileKind} {data : Dict String Json}
    (h : migrateSessionData cfg kind raw = .ok data) : namedOwner data = namedOwner raw := by
  have hversions : ∀ (versions : List ℤ) (result : Dict String Json),
      namedOwner (versions.foldl (fun result v =>
        addDefaults ((Dict.get? (fieldDefaults kind) v).getD []) result) result) =
      namedOwner result := by
    intro versions
    induction versions with
    | nil => exact fun _ => rfl
    | cons v rest ih =>
        intro result
        rw [List.foldl_cons, ih, namedOwner_addDefaults (fieldDefaults_owner kind v)]
  unfold migrateSessionData at h
  split at h
  · cases h
  · split at h
    · rw [← Except.ok.inj h]
    · rw [← Except.ok.inj h, namedOwner, ownerOf, Dict.get?_set_of_ne (by decide)]
      exact hversions _ raw

/-- The schema version of a file is a float that is no number. -/
def InfiniteVersion (file : FileContent) : Prop :=
  Dict.get? (rawFields [] file) "schema_version" = some (.float "inf") ∨
    Dict.get? (rawFields [] file) "schema_version" = some (.float "-inf")

lemma not_infiniteVersion {file : FileContent} (value : Option Json)
    (h : Dict.get? (rawFields [] file) "schema_version" = value)
    (hfinite : value ≠ some (.float "inf") ∧ value ≠ some (.float "-inf")) :
    ¬ InfiniteVersion file := by
  rw [InfiniteVersion, h, not_or]
  exact hfinite

variable (cfg) in
/-- A migration raises exactly where the schema version is infinite. -/
lemma migrate_isOk_iff (kind : FileKind) (data : Dict String Json) :
    (∃ result, migrateSessionData cfg kind data = .ok result) ↔
      ¬ (Dict.get? data "schema_version" = some (.float "inf") ∨
        Dict.get? data "schema_version" = some (.float "-inf")) := by
  have hversion : (∃ version, currentVersion cfg data = .ok version) ↔
      ¬ (Dict.get? data "schema_version" = some (.float "inf") ∨
        Dict.get? data "schema_version" = some (.float "-inf")) := by
    unfold currentVersion
    split
    · rename_i hnone
      exact iff_of_true ⟨0, rfl⟩ (by simp [hnone])
    · rename_i hnull
      exact iff_of_true ⟨0, rfl⟩ (by simp [hnull])
    · rename_i value hnull hsome
      rw [hsome, Option.some.injEq, Option.some.injEq, ← Json.toInt_eq_overflow_iff cfg.digit]
      split
      · rename_i version hint
        exact iff_of_true ⟨version, rfl⟩ (by simp [hint])
      · rename_i hint
        exact iff_of_false (by simp) (by simp [hint])
      · rename_i e hother hint
        exact iff_of_true ⟨0, rfl⟩ fun heq => hother (by rw [heq] at hint; cases hint; rfl)
  rw [← hversion]
  unfold migrateSessionData
  cases currentVersion cfg data with
  | error e => exact iff_of_false (by rintro ⟨_, ⟨⟩⟩) (by rintro ⟨_, ⟨⟩⟩)
  | ok version =>
      refine iff_of_true ?_ ⟨version, rfl⟩
      dsimp only
      split
      · exact ⟨_, rfl⟩
      · exact ⟨_, rfl⟩

lemma rawFields_defaults (defaults : Dict String Json)
    (hversion : Dict.get? defaults "schema_version" = none)
    (howner : Dict.get? defaults "principal_id" = none) (file : FileContent) :
    Dict.get? (rawFields defaults file) "schema_version" =
        Dict.get? (rawFields [] file) "schema_version" ∧
      namedOwner (rawFields defaults file) = filedOwner file := by
  have hnone : Dict.get? defaults "schema_version" = Dict.get? [] "schema_version" ∧
      namedOwner defaults = namedOwner [] := by
    rw [hversion, namedOwner, ownerOf, howner]
    exact ⟨rfl, rfl⟩
  cases file with
  | missing => exact hnone
  | unreadable => exact hnone
  | holds value =>
      cases value with
      | obj kvs => exact ⟨rfl, rfl⟩
      | null => exact hnone
      | bool b => exact hnone
      | int n => exact hnone
      | float r => exact hnone
      | str t => exact hnone
      | arr xs => exact hnone

/-- The files of a session are read, with the owner that the metadata file names, unless one of
them has an infinite schema version. -/
lemma readSession_spec (cfg : SessionRuntime) (id now : String) (files : SessionFiles) :
    (∀ session, readSession cfg id now files = .ok session →
        ownerOf session.metadata = some (filedOwner files.metadata)) ∧
      ((∃ session, readSession cfg id now files = .ok session) ↔
        ¬ InfiniteVersion files.metadata ∧ ¬ InfiniteVersion files.memory) := by
  obtain ⟨hversion, howner⟩ :=
    rawFields_defaults (newFields id now) (by rfl) (by rfl) files.metadata
  obtain ⟨hversion', -⟩ := rawFields_defaults [("session_id", .str id)] (by rfl) (by rfl)
    files.memory
  have hmetadata := migrate_isOk_iff cfg .metadata
    (rawFields (newFields id now) files.metadata)
  have hmemory := migrate_isOk_iff cfg .memory
    (rawFields [("session_id", .str id)] files.memory)
  rw [hversion] at hmetadata
  rw [hversion'] at hmemory
  rw [InfiniteVersion, InfiniteVersion, ← hmetadata, ← hmemory]
  unfold readSession
  constructor
  · intro session hread
    split at hread
    · rename_i metadata memory hmigrated _
      rw [← Except.ok.inj hread]
      show ownerOf (readMetadata cfg id now metadata) = _
      rw [owner_readMetadata, namedOwner_migrate hmigrated, howner]
    · cases hread
    · cases hread
  · split
    · rename_i metadata memory hfirst hsecond
      exact iff_of_true ⟨_, rfl⟩ ⟨⟨_, hfirst⟩, ⟨_, hsecond⟩⟩
    · rename_i e hfirst
      refine iff_of_false (fun ⟨_, h⟩ => (by cases h)) fun ⟨⟨_, h⟩, _⟩ => ?_
      rw [hfirst] at h
      cases h
    · rename_i e hfirst hsecond
      refine iff_of_false (fun ⟨_, h⟩ => (by cases h)) fun ⟨_, ⟨_, h⟩⟩ => ?_
      rw [hsecond] at h
      cases h

end Reading

/-! ## The owner of a session -/

/-- What a load gets names the owner: the session in the cache, or a metadata file that can be read
beside a memory file that can. -/
def NamesOwner (s : ManagerState) (id owner : String) : Prop :=
  match Dict.get? s.cache id with
  | some session => ownerOf session.metadata = some owner
  | none => ¬ InfiniteVersion (filesOf s id).metadata ∧ ¬ InfiniteVersion (filesOf s id).memory ∧
      filedOwner (filesOf s id).metadata = owner

def indexOwner (s : ManagerState) (id : String) : Option String :=
  (Dict.get? s.index id).bind ownerOf

/-- A session stays with its owner: it is loaded for the owner and for nobody else, as the owner's,
and after an event was appended to it the index has the same owner, who alone may delete it. -/
structure StaysWith (cfg : SessionRuntime) (s : ManagerState) (id now owner : String) : Prop where
  loads : ∀ principal, (∃ session, (loadSession cfg s id now principal).1 = .ok session) ↔
    principal = owner
  owned : ∀ principal session, (loadSession cfg s id now principal).1 = .ok session →
    ownerOf session.metadata = some owner
  indexed : ∀ event, indexOwner (appendHistory cfg s id now event).2 id = some owner
  deleted : ∀ event principal,
    (deleteSession (appendHistory cfg s id now event).2 id principal).1 = true ↔ principal = owner

section Owner

variable {cfg : SessionRuntime} {s : ManagerState} {id now owner : String}

lemma known_of_indexOwner (h : indexOwner s id = some owner) : Dict.get? s.index id ≠ none := by
  intro hnone
  rw [indexOwner, hnone] at h
  cases h

lemma index_loadSessionLocked : (loadSessionLocked cfg s id now).2.index = s.index := by
  unfold loadSessionLocked
  split
  · rfl
  · split
    · rfl
    · split
      · rfl
      · rfl

variable (cfg now) in
/-- A session that the index has is loaded as the owner's exactly where what is read names the
owner. -/
lemma loaded_iff (hindex : Dict.get? s.index id ≠ none) :
    (∃ session, (loadSessionLocked cfg s id now).1 = .ok session ∧
      ownerOf session.metadata = some owner) ↔ NamesOwner s id owner := by
  unfold loadSessionLocked NamesOwner
  cases hcache : Dict.get? s.cache id with
  | some session =>
      exact ⟨fun ⟨other, hother, howner⟩ => Except.ok.inj hother ▸ howner,
        fun howner => ⟨session, rfl, howner⟩⟩
  | none =>
      obtain ⟨howner, hread⟩ := readSession_spec cfg id now (filesOf s id)
      dsimp only
      rw [if_neg (by simpa using hindex), ← and_assoc, ← hread]
      cases hsession : readSession cfg id now (filesOf s id) with
      | ok session =>
          have hfiled := howner session hsession
          constructor
          · rintro ⟨other, hother, hsame⟩
            obtain rfl := Except.ok.inj hother
            exact ⟨⟨_, rfl⟩, Option.some.inj (hfiled.symm.trans hsame)⟩
          · rintro ⟨-, hsame⟩
            exact ⟨session, rfl, by rw [hfiled, hsame]⟩
      | error e =>
          refine iff_of_false ?_ ?_
          · rintro ⟨_, h, _⟩
            cases h
          · rintro ⟨⟨_, h⟩, _⟩
            cases h

lemma loadSession_eq_ok_iff {principal : String} {session : Session} :
    (loadSession cfg s id now principal).1 = .ok session ↔
      (loadSessionLocked cfg s id now).1 = .ok session ∧
        ownerOf session.metadata = some principal := by
  unfold loadSession
  split
  · rename_i loaded s' hload
    rw [hload]
    by_cases howner : ownerOf loaded.metadata = some principal
    · rw [if_pos howner]
      refine ⟨fun heq => ⟨heq, ?_⟩, fun ⟨heq, _⟩ => heq⟩
      rw [← Except.ok.inj heq]
      exact howner
    · rw [if_neg howner]
      refine iff_of_false (fun heq => (by cases heq)) fun ⟨heq, hother⟩ => howner ?_
      rw [Except.ok.inj heq]
      exact hother
  · rename_i e s' hload
    rw [hload]
    exact iff_of_false (fun heq => by cases heq) fun ⟨heq, _⟩ => by cases heq

lemma indexOwner_writeSession (session : Session) (other : String) :
    indexOwner (writeSession s session).2 other = if textOf (writeSession s session).1.metadata
      "session_id" = other then ownerOf session.metadata else indexOwner s other := by
  have howner : ownerOf (writeSession s session).1.metadata = ownerOf session.metadata := by
    show ownerOf (Dict.set session.metadata "topic_summary" _) = _
    rw [ownerOf, Dict.get?_set_of_ne (by decide)]
    rfl
  rw [← howner, indexOwner]
  show (Dict.get? (Dict.set s.index (textOf (writeSession s session).1.metadata "session_id")
    (writeSession s session).1.metadata) other).bind ownerOf = _
  rw [Dict.get?_set]
  split
  · rfl
  · rfl

lemma indexOwner_appendHistory (hindex : indexOwner s id = some owner) {session : Session}
    (hload : (loadSessionLocked cfg s id now).1 = .ok session)
    (howner : ownerOf session.metadata = some owner) (event : Dict String Json) :
    indexOwner (appendHistory cfg s id now event).2 id = some owner := by
  have hkept : indexOwner (loadSessionLocked cfg s id now).2 id = some owner := by
    rw [indexOwner, index_loadSessionLocked]
    exact hindex
  unfold appendHistory
  split
  · rename_i e s' heq
    rw [heq] at hload
    cases hload
  · rename_i loaded s' heq
    rw [heq] at hload hkept
    obtain rfl := Except.ok.inj hload
    split
    · exact hkept
    · have hstamped : ownerOf (stamped loaded event now).metadata = some owner := by
        rw [ownerOf, stamped, Dict.get?_set_of_ne (by decide)]
        exact howner
      show indexOwner (writeSession s' (stamped loaded event now)).2 id = some owner
      rw [indexOwner_writeSession]
      split
      · exact hstamped
      · exact hkept

/-- Only the owner in the index deletes a session. -/
lemma deleteSession_iff (principal : String) :
    (deleteSession s id principal).1 = true ↔ indexOwner s id = some principal := by
  unfold deleteSession indexOwner
  cases Dict.get? s.index id with
  | none => exact iff_of_false (by simp) (by simp)
  | some metadata =>
      show (if ownerOf metadata = some principal then (true, _) else (false, s)).1 = true ↔
        ownerOf metadata = some principal
      split
      · rename_i howner
        exact iff_of_true rfl howner
      · rename_i howner
        exact iff_of_false (by simp) howner

/-- A session stays with the owner that the index names exactly where the session in the cache, or
else its metadata file, names the same one. -/
theorem owner_survives_iff (hindex : indexOwner s id = some owner) :
    StaysWith cfg s id now owner ↔ NamesOwner s id owner := by
  rw [← loaded_iff cfg now (known_of_indexOwner hindex)]
  constructor
  · intro h
    obtain ⟨session, hsession⟩ := (h.loads owner).mpr rfl
    exact ⟨session, loadSession_eq_ok_iff.mp hsession⟩
  · rintro ⟨session, hload, howner⟩
    have hindexed := indexOwner_appendHistory hindex hload howner
    refine ⟨fun principal => ⟨?_, ?_⟩, fun principal other hother => ?_, hindexed,
      fun event principal => ?_⟩
    · rintro ⟨other, hother⟩
      obtain ⟨hsame, hprincipal⟩ := loadSession_eq_ok_iff.mp hother
      obtain rfl := Except.ok.inj (hload.symm.trans hsame)
      exact Option.some.inj (hprincipal.symm.trans howner)
    · rintro rfl
      exact ⟨session, loadSession_eq_ok_iff.mpr ⟨hload, howner⟩⟩
    · obtain ⟨hsame, -⟩ := loadSession_eq_ok_iff.mp hother
      obtain rfl := Except.ok.inj (hload.symm.trans hsame)
      exact howner
    · rw [deleteSession_iff, hindexed event, Option.some.injEq, eq_comm]

end Owner

/-! ### A lost metadata file -/

/-- Digits and integers as they are written. -/
def plainRuntime : SessionRuntime where
  digit c := if c.isDigit then some (c.toNat - 48) else none
  readInt
    | .int n => some n
    | _ => none

/-- The metadata of a session that somebody else than the local principal starts. -/
def aliceMetadata : Dict String Json :=
  ModelField.build (sessionMetadata plainRuntime)
    (("principal_id", .str "alice") :: newFields "s" "t0")

/-- The session is written; it is not in the cache of a new manager. -/
def started : ManagerState :=
  (writeSession {} ⟨aliceMetadata,
    ModelField.build (sessionMemory plainRuntime) [("session_id", .str "s")]⟩).2

/-- Its metadata file is lost. -/
def damaged : ManagerState :=
  { started with files := Dict.set started.files "s" ⟨.missing, (filesOf started "s").memory⟩ }

/-- The session stays with its owner while its files are there. -/
theorem owner_survives_sample : StaysWith plainRuntime started "s" "t1" "alice" := by
  have hindex : indexOwner started "s" = some "alice" := rfl
  have hnames : NamesOwner started "s" "alice" :=
    ⟨not_infiniteVersion (some (.int 2)) rfl (by simp),
      not_infiniteVersion (some (.int 2)) rfl (by simp), rfl⟩
  exact (owner_survives_iff hindex).mpr hnames

/-- Without its metadata file the local principal gets the session, and its owner does not. -/
theorem owner_lost :
    indexOwner damaged "s" = some "alice" ∧
      (∃ session, (loadSession plainRuntime damaged "s" "t1" "local-default").1 = .ok session) ∧
      ¬ StaysWith plainRuntime damaged "s" "t1" "alice" := by
  have hindex : indexOwner damaged "s" = some "alice" := rfl
  have hnames : NamesOwner damaged "s" "local-default" :=
    ⟨not_infiniteVersion none rfl (by simp),
      not_infiniteVersion (some (.int 2)) rfl (by simp), rfl⟩
  obtain ⟨session, hsession⟩ :=
    (loaded_iff plainRuntime "t1" (known_of_indexOwner hindex)).mpr hnames
  have hload : ∃ session,
      (loadSession plainRuntime damaged "s" "t1" "local-default").1 = .ok session :=
    ⟨session, loadSession_eq_ok_iff.mpr hsession⟩
  refine ⟨hindex, hload, fun h => ?_⟩
  exact absurd ((h.loads "local-default").mp hload) (by decide)

end SessionOwnership

end Samaktha
