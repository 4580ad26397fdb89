import Samaktha.Contracts.State
import Samaktha.Foundation.Text

/-!
# The checkpoint store

`CheckpointStore`: an in-memory cache, optional JSON files (one for each execution) and an
optional authenticated index over them.  Every operation returns its result, or the error it
raises, together with the state it leaves; `StoreError.other` is an exception that is not a
`CheckpointError`, which the callers' handlers let through.

The files are what `json.loads` makes of them (`FileText`), with the ways in which a text that
the store did not write can still upset the reader: a text that `json.loads` rejects with
something other than a decode error, lone surrogates that cannot be encoded again, and nesting
beyond the recursion limit.  A save is the list of its file-system steps (`saveSteps`), so that
a crash is a prefix of the list.

Outside the store: the HMAC under the store's key, as a function of the canonical text of a
JSON value and hence of the value with sorted keys, and the data model's own validation.  The
index is written only by the store, so an index file is carried by the dictionary it holds.
Messages of errors are left out, their codes are kept.
-/

namespace Samaktha

def checkpointSchemaVersion : ℤ := 1

inductive CheckpointFailureCode where
  | securityStateAccessDenied
  | integrityIndexMalformed
  | integrityIndexAuthenticationFailed
  | checkpointMalformed
  | checkpointAuthenticationFailed
  | checkpointAntiRollbackFailed
  | checkpointSchemaUnsupported
  | checkpointOrphaned
  | checkpointRecoveryUnsafe
  deriving Repr, DecidableEq, Inhabited

/-- What a store operation can raise. -/
inductive StoreError where
  | checkpoint (code : CheckpointFailureCode)
  | other (exception : String)
  deriving Repr, DecidableEq, Inhabited

lemma one_le_generation (n : ℕ) : (1 : ℤ) ≤ n + 1 := by omega

/-- A durable snapshot of an execution. -/
structure RecoveryCheckpoint where
  schemaVersion : ℤ := checkpointSchemaVersion
  generation : ℤ
  executionId : String
  principalId : String := ""
  sessionId : String := ""
  executionState : Dict String Json := []
  pipelineState : Option (Dict String Json) := none
  conversation : Option (List Json) := none
  resolvedApprovalIds : List String := []
  operationOutcomes : Dict String String := []
  operationResults : Dict String Json := []
  retryAttempts : Dict String ℤ := []
  recoverySafe : Bool := false
  createdAt : String := ""
  updatedAt : String := ""
  integrityDigest : Option String := none
  generation_pos : 1 ≤ generation
  deriving Repr

/-- `model_dump(mode="json")`, field by field. -/
def RecoveryCheckpoint.fields (c : RecoveryCheckpoint) : Dict String Json := [
  ("schema_version", .int c.schemaVersion),
  ("generation", .int c.generation),
  ("execution_id", .str c.executionId),
  ("principal_id", .str c.principalId),
  ("session_id", .str c.sessionId),
  ("execution_state", .obj c.executionState),
  ("pipeline_state", match c.pipelineState with | some p => .obj p | none => .null),
  ("conversation", match c.conversation with | some items => .arr items | none => .null),
  ("resolved_approval_ids", .arr (c.resolvedApprovalIds.map .str)),
  ("operation_outcomes", .obj (Dict.mapValues .str c.operationOutcomes)),
  ("operation_results", .obj c.operationResults),
  ("retry_attempts", .obj (Dict.mapValues .int c.retryAttempts)),
  ("recovery_safe", .bool c.recoverySafe),
  ("created_at", .str c.createdAt),
  ("updated_at", .str c.updatedAt),
  ("integrity_digest", match c.integrityDigest with | some d => .str d | none => .null)]

/-- `model_dump(mode="json")`. -/
def RecoveryCheckpoint.modelDump (c : RecoveryCheckpoint) : Json := .obj c.fields

/-- Equality of checkpoints as Python decides it: the order of dictionary keys is no part of
it. -/
def RecoveryCheckpoint.Same (c d : RecoveryCheckpoint) : Prop :=
  c.modelDump.sortKeys = d.modelDump.sortKeys

/-! ## Secret-bearing keys -/

def secretMarkers : List String := ["api_key", "apikey", "secret", "password", "credential"]

/-- Whether a key's text contains a secret marker. -/
def secretKey (key : String) : Bool := secretMarkers.any fun m => Text.contains (Text.lower key) m

mutual

def containsSecretKey : Json → Bool
  | .obj kvs => itemsContainSecretKey kvs
  | .arr xs => listContainsSecretKey xs
  | _ => false

def itemsContainSecretKey : List (String × Json) → Bool
  | [] => false
  | (key, child) :: rest => secretKey key || containsSecretKey child || itemsContainSecretKey rest

def listContainsSecretKey : List Json → Bool
  | [] => false
  | x :: xs => containsSecretKey x || listContainsSecretKey xs

end

/-! ## Files -/

/-- What, besides its value, a parsed text carries. -/
inductive Oddity where
  | plain
  /-- Lone surrogates, which cannot be encoded to UTF-8. -/
  | surrogates
  /-- Nested deeper than a recursive Python function can follow. -/
  | deep
  deriving Repr, DecidableEq, Inhabited

/-- The value `json.loads` returns: an object has every key once. -/
structure Parsed where
  payload : Json
  unique : ∀ kvs, payload = .obj kvs → Dict.NodupKeys kvs

/-- The content of a checkpoint file. -/
inductive FileText where
  /-- Bytes that are not UTF-8. -/
  | undecodable
  /-- Text that is not JSON. -/
  | malformed
  /-- Text on which `json.loads` raises another exception. -/
  | unparsable (exception : String)
  | json (parsed : Parsed) (oddity : Oddity)

structure IndexEntry where
  generation : ℤ
  integrityDigest : String
  deriving Repr, DecidableEq, Inhabited

structure IndexFile where
  entries : Dict String IndexEntry
  integrityDigest : String
  deriving Repr, Inhabited

/-- The files of the directory, the index, and the temporary files beside them; an opened
temporary file that is not written yet is `none`. -/
structure Disk where
  files : Dict String FileText := []
  index : Option IndexFile := none
  temps : Dict String (Option FileText) := []
  indexTemp : Option (Option IndexFile) := none

/-- The file-system steps of the store. -/
inductive FsStep where
  | openTemp (id : String)
  | writeTemp (id : String) (text : FileText)
  | replaceFile (id : String)
  | openIndexTemp
  | writeIndexTemp (index : IndexFile)
  | replaceIndex

namespace Disk

/-- One file-system step. -/
def apply (disk : Disk) : FsStep → Disk
  | .openTemp id => { disk with temps := disk.temps.set id none }
  | .writeTemp id text => { disk with temps := disk.temps.set id (some text) }
  | .replaceFile id =>
      match disk.temps.get? id with
      | some (some text) =>
          { disk with files := disk.files.set id text, temps := disk.temps.erase id }
      | some none =>
          { disk with files := disk.files.set id .malformed, temps := disk.temps.erase id }
      | none => disk
  | .openIndexTemp => { disk with indexTemp := some none }
  | .writeIndexTemp index => { disk with indexTemp := some (some index) }
  | .replaceIndex => { disk with index := disk.indexTemp.join, indexTemp := none }

/-- Several file-system steps. -/
def applyAll (disk : Disk) (steps : List FsStep) : Disk := steps.foldl apply disk

end Disk

/-! ## The store -/

/-- How a store is set up. -/
structure StoreConfig where
  /-- Whether there is a directory. -/
  directory : Bool := true
  /-- The HMAC, in hexadecimal, under the integrity key. -/
  integrityKey : Option (Json → String) := none
  /-- Whether there is an integrity index; it needs a key. -/
  indexed : Bool := false
  maxCachedTerminal : ℕ := 256
  /-- `RecoveryCheckpoint.model_validate`; `none` where it raises `ValidationError`. -/
  modelValidate : Json → Option RecoveryCheckpoint

inductive Cached where
  | snapshot (state : ExecutionState)
  | recovery (checkpoint : RecoveryCheckpoint)

/-- A store and the files under it. -/
structure StoreState where
  cache : Dict String Cached := []
  entries : Dict String IndexEntry := []
  disk : Disk := {}

namespace CheckpointStore

variable (cfg : StoreConfig)

/-- Whether `_path` accepts an execution id. -/
def validId (id : String) : Bool :=
  id ≠ "" && id.toList.all fun c => c.isAlphanum || c = '-' || c = '_'

def signature (hmac : Json → String) (payload : Json) : String :=
  hmac (payload.erase "integrity_digest").sortKeys

/-- The payload of the index, its digest aside. -/
def indexPayload (entries : Dict String IndexEntry) : Json := .obj [
  ("schema_version", .int 1),
  ("entries", .obj (Dict.mapValues (fun e => .obj [
    ("generation", .int e.generation), ("integrity_digest", .str e.integrityDigest)]) entries))]

/-- The index file for some entries. -/
def indexFile (hmac : Json → String) (entries : Dict String IndexEntry) : IndexFile :=
  ⟨entries, signature hmac (indexPayload entries)⟩

/-- `_save_integrity_index`, step by step. -/
def indexSteps (entries : Dict String IndexEntry) : List FsStep :=
  match cfg.integrityKey, cfg.indexed with
  | some hmac, true => [.openIndexTemp, .writeIndexTemp (indexFile hmac entries), .replaceIndex]
  | _, _ => []

def loadIndex (disk : Disk) : Except StoreError (Dict String IndexEntry) :=
  match cfg.integrityKey, cfg.indexed with
  | some hmac, true =>
      match disk.index with
      | none =>
          if disk.files.isEmpty then .ok []
          else .error (.checkpoint .integrityIndexAuthenticationFailed)
      | some file =>
          if file.integrityDigest = signature hmac (indexPayload file.entries) then .ok file.entries
          else .error (.checkpoint .integrityIndexAuthenticationFailed)
  | _, _ => .ok []

/-- The constructor, on the files that are there. -/
def openStore (disk : Disk) : Except StoreError StoreState :=
  (loadIndex cfg disk).map fun entries => { entries := entries, disk := disk }

/-! ### Pruning -/

/-- The status texts of ended executions. -/
def terminalValues : List String := ["completed", "failed", "denied", "cancelled", "timed_out"]

/-- Whether a cached object is of an ended execution. -/
def Cached.ended : Cached → Bool
  | .snapshot state => state.status.value ∈ terminalValues
  | .recovery c =>
      match (Dict.get? c.executionState "status").bind Json.str? with
      | some status => status ∈ terminalValues
      | none => false

/-- Removes the first ids of a list from the cache, one for each unit of the excess. -/
def evict (preserve : Option String) : List String → ℕ → Dict String Cached → Dict String Cached
  | [], _, cache => cache
  | _, 0, cache => cache
  | id :: ids, excess + 1, cache =>
      if some id = preserve then evict preserve ids (excess + 1) cache
      else evict preserve ids excess (cache.erase id)

/-- `_prune_cached_terminal`. -/
def prune (preserve : Option String) (cache : Dict String Cached) : Dict String Cached :=
  if cfg.directory then
    let terminalIds := (cache.filter fun kv => Cached.ended kv.2).map Prod.fst
    evict preserve terminalIds (terminalIds.length - max 1 cfg.maxCachedTerminal) cache
  else cache

/-! ### Saving -/

/-- The checkpoint with its time, before it is signed. -/
def stamped (c : RecoveryCheckpoint) (now : String) : RecoveryCheckpoint :=
  { c with updatedAt := now }

def payloadOf (c : RecoveryCheckpoint) (now : String) : Json :=
  let payload := (stamped c now).modelDump
  match cfg.integrityKey with
  | some hmac => payload.set "integrity_digest" (.str (signature hmac payload))
  | none => payload

/-- The checkpoint that is cached. -/
def signed (c : RecoveryCheckpoint) (now : String) : RecoveryCheckpoint :=
  match cfg.integrityKey with
  | some hmac =>
      { stamped c now with
        integrityDigest := some (signature hmac (stamped c now).modelDump) }
  | none => stamped c now

/-- The checks of `save_checkpoint` before it changes anything. -/
def refuse (s : StoreState) (c : RecoveryCheckpoint) (now : String) : Option StoreError :=
  if c.schemaVersion ≠ checkpointSchemaVersion then
    some (.checkpoint .checkpointSchemaUnsupported)
  else if containsSecretKey (payloadOf cfg c now) then some (.checkpoint .checkpointMalformed)
  else if (match s.cache.get? c.executionId with
      | some (.recovery existing) => decide (c.generation ≤ existing.generation)
      | _ => false) then
    some (.checkpoint .checkpointAntiRollbackFailed)
  else if (match s.entries.get? c.executionId with
      | some anchored => decide (c.generation ≤ anchored.generation)
      | none => false) then
    some (.checkpoint .checkpointAntiRollbackFailed)
  else none

lemma nodupKeys_fields (c : RecoveryCheckpoint) : Dict.NodupKeys c.fields := by
  simp [RecoveryCheckpoint.fields, Dict.NodupKeys, Dict.keys]

lemma payloadOf_eq (c : RecoveryCheckpoint) (now : String) :
    payloadOf cfg c now = (signed cfg c now).modelDump := by
  unfold payloadOf signed
  cases cfg.integrityKey <;> rfl

/-- The file a payload is written to: `json.dump` sorts the keys. -/
def fileText (c : RecoveryCheckpoint) : FileText :=
  .json ⟨c.modelDump.sortKeys, by
    intro kvs h
    rw [RecoveryCheckpoint.modelDump, Json.sortKeys_obj] at h
    obtain rfl := Json.obj.inj h
    refine Dict.NodupKeys.sortByKey ?_
    have hkeys : Dict.NodupKeys (Dict.mapValues Json.sortKeys c.fields) := by
      rw [Dict.NodupKeys, Dict.keys_mapValues]
      exact nodupKeys_fields c
    exact hkeys⟩ .plain

/-- The index entries after a save. -/
def anchoredEntries (s : StoreState) (c : RecoveryCheckpoint) : Dict String IndexEntry :=
  match cfg.indexed, c.integrityDigest with
  | true, some digest => s.entries.set c.executionId ⟨c.generation, digest⟩
  | _, _ => s.entries

/-- The file-system steps of a save of a signed checkpoint. -/
def saveSteps (s : StoreState) (c : RecoveryCheckpoint) : List FsStep :=
  [.openTemp c.executionId, .writeTemp c.executionId (fileText c), .replaceFile c.executionId]
    ++ indexSteps cfg (anchoredEntries cfg s c)

def saveCheckpoint (s : StoreState) (c : RecoveryCheckpoint) (now : String) :
    Except StoreError Unit × StoreState :=
  match refuse cfg s c now with
  | some error => (.error error, s)
  | none =>
      let c := signed cfg c now
      let cache := s.cache.set c.executionId (.recovery c)
      if !cfg.directory then (.ok (), { s with cache := cache })
      else if !validId c.executionId then
        (.error (.checkpoint .checkpointMalformed), { s with cache := cache })
      else
        (.ok (), {
          cache := prune cfg (some c.executionId) cache
          entries := anchoredEntries cfg s c
          disk := s.disk.applyAll (saveSteps cfg s c) })

/-- `save_checkpoint` of an execution state: a snapshot in memory. -/
def saveState (s : StoreState) (state : ExecutionState) : StoreState :=
  { s with cache := s.cache.set state.executionId (.snapshot state) }

/-! ### Loading -/

/-- Whether the payload is of the supported version. -/
def versionOk (payload : Json) : Bool :=
  ((payload.get? "schema_version").map fun v => v.eqInt checkpointSchemaVersion).getD false

/-- The digest of a payload, where it is a string. -/
def digestOf (payload : Json) : Option String := (payload.get? "integrity_digest").bind Json.str?

/-- `str.isascii`. -/
def isAscii (text : String) : Bool := text.toList.all fun c => c.toNat < 128

/-- The integrity checks of a load. -/
def authenticate (entries : Dict String IndexEntry) (id : String) (payload : Json)
    (oddity : Oddity) : Except StoreError Unit :=
  match cfg.integrityKey with
  | none => .ok ()
  | some hmac =>
      match digestOf payload with
      | none => .error (.checkpoint .checkpointAuthenticationFailed)
      | some digest =>
          if oddity = .surrogates then .error (.other "UnicodeEncodeError")
          else if !isAscii digest then .error (.other "TypeError")
          else if digest ≠ signature hmac payload then
            .error (.checkpoint .checkpointAuthenticationFailed)
          else if !cfg.indexed then .ok ()
          else
            match entries.get? id with
            | none => .error (.checkpoint .checkpointOrphaned)
            | some expected =>
                if ((payload.get? "generation").map fun g =>
                      g.eqInt expected.generation).getD false
                    && expected.integrityDigest = digest then .ok ()
                else .error (.checkpoint .checkpointAntiRollbackFailed)

/-- The validation at the end of a load. -/
def validate (id : String) (payload : Json) : Except StoreError RecoveryCheckpoint :=
  match cfg.modelValidate payload with
  | none => .error (.checkpoint .checkpointMalformed)
  | some loaded =>
      if loaded.executionId ≠ id then .error (.checkpoint .checkpointMalformed) else .ok loaded

/-- The checks of a load on a parsed file. -/
def readParsed (entries : Dict String IndexEntry) (id : String) (parsed : Parsed)
    (oddity : Oddity) : Except StoreError RecoveryCheckpoint :=
  if !versionOk parsed.payload then .error (.checkpoint .checkpointSchemaUnsupported)
  else if oddity = .deep then .error (.other "RecursionError")
  else if containsSecretKey parsed.payload then .error (.checkpoint .checkpointMalformed)
  else
    match authenticate cfg entries id parsed.payload oddity with
    | .error error => .error error
    | .ok () => validate cfg id parsed.payload

/-- The part of `load_checkpoint` that reads the directory. -/
def readCheckpoint (s : StoreState) (id : String) :
    Except StoreError (Option RecoveryCheckpoint) :=
  if !validId id then .error (.checkpoint .checkpointMalformed)
  else
    match s.disk.files.get? id with
    | none => .ok none
    | some .undecodable => .error (.checkpoint .checkpointMalformed)
    | some .malformed => .error (.checkpoint .checkpointMalformed)
    | some (.unparsable exception) => .error (.other exception)
    | some (.json parsed oddity) => (readParsed cfg s.entries id parsed oddity).map some

def loadCheckpoint (s : StoreState) (id : String) (refresh : Bool) :
    Except StoreError (Option Cached) × StoreState :=
  match (if refresh then none else s.cache.get? id) with
  | some cached => (.ok (some cached), s)
  | none =>
      if !cfg.directory then (.ok none, s)
      else
        match readCheckpoint cfg s id with
        | .error error => (.error error, s)
        | .ok none => (.ok none, s)
        | .ok (some loaded) =>
            (.ok (some (.recovery loaded)),
              { s with cache := prune cfg (some id) (s.cache.set id (.recovery loaded)) })

/-! ### Deleting and reconciling -/

def deleteCheckpoint (s : StoreState) (id : String) : Except StoreError Unit × StoreState :=
  let s := { s with cache := s.cache.erase id }
  if !cfg.directory then (.ok (), s)
  else if !validId id then (.error (.checkpoint .checkpointMalformed), s)
  else
    let disk := { s.disk with files := s.disk.files.erase id }
    if cfg.indexed then
      let entries := s.entries.erase id
      (.ok (), { s with entries := entries, disk := disk.applyAll (indexSteps cfg entries) })
    else (.ok (), { s with disk := disk })

/-- `CheckpointReconciliation`; a rejection is an id, its code, and whether the execution is
active. -/
structure Reconciliation where
  totalFiles : ℕ := 0
  validTerminalCount : ℕ := 0
  validRecoverableCount : ℕ := 0
  validRecoveryUnsafeCount : ℕ := 0
  rejected : List (String × CheckpointFailureCode × Bool) := []
  deriving Repr, Inhabited

/-- The report with one loaded checkpoint counted. -/
def Reconciliation.count (report : Reconciliation) : Option Cached → Reconciliation
  | none => report
  | some (.recovery c) =>
      if Cached.ended (.recovery c) then
        { report with validTerminalCount := report.validTerminalCount + 1 }
      else if c.recoverySafe then
        { report with validRecoverableCount := report.validRecoverableCount + 1 }
      else { report with validRecoveryUnsafeCount := report.validRecoveryUnsafeCount + 1 }
  | some (.snapshot state) =>
      if Cached.ended (.snapshot state) then
        { report with validTerminalCount := report.validTerminalCount + 1 }
      else { report with validRecoveryUnsafeCount := report.validRecoveryUnsafeCount + 1 }

/-- `reconcile` over the remaining file names. -/
def reconcileFiles (active : List String) :
    List String → StoreState → Reconciliation → Except StoreError Reconciliation × StoreState
  | [], s, report => (.ok report, s)
  | id :: ids, s, report =>
      match loadCheckpoint cfg s id true with
      | (.ok loaded, s) => reconcileFiles active ids s (report.count loaded)
      | (.error (.checkpoint code), s) =>
          reconcileFiles active ids s
            { report with rejected := report.rejected ++ [(id, code, decide (id ∈ active))] }
      | (.error (.other exception), s) => (.error (.other exception), s)

/-- The names of the checkpoint files, in order. -/
def fileNames (s : StoreState) : List String := (Dict.sortByKey s.disk.files).map Prod.fst

def reconcile (s : StoreState) (active : List String) :
    Except StoreError Reconciliation × StoreState :=
  if !cfg.directory then (.ok {}, s)
  else reconcileFiles cfg active (fileNames s) s { totalFiles := (fileNames s).length }

end CheckpointStore

end Samaktha
