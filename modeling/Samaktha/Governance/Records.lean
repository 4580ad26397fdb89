import Samaktha.Foundation.HashChain
import Samaktha.Foundation.JsonText
import Mathlib.Data.List.Sort
import Mathlib.Data.Prod.Lex

/-!
# Governance records

The two append-only stores of the governance layer, `ExecutionRecordStore` and
`GovernanceAuditLog`, with the hashes that chain their entries and the table that backs them.

The hash is SHA-256 of a text, in hexadecimal; here any function of texts.  The table keeps a
row for each key, and a row is the entry that is read back from it.  A write that raises is chosen
from outside.

The fields of a record and of an audit entry are read back as they were, but for the details of
an audit entry: the hash is taken over the details as they were given, and computed anew over
what was read back.  The two differ where a dictionary inside has keys that are not texts, which
are sorted as they are before the restart and as texts behind it, and where a data model is among
the details, which is hashed as its `str` and written field by field.
-/

namespace Samaktha

/-! ## Entries -/

/-- The kind of subject a governance rule or decision targets. -/
inductive TargetType where
  | tool
  | provider
  | capability
  | action
  deriving Repr, DecidableEq, Inhabited

def TargetType.value : TargetType → String
  | tool => "tool"
  | provider => "provider"
  | capability => "capability"
  | action => "action"

/-- Runtime outcome attached to an immutable execution record. -/
inductive DecisionStatus where
  | allowed
  | blocked
  | approvalRequired
  | executed
  | failed
  | rolledBack
  deriving Repr, DecidableEq, Inhabited

def DecisionStatus.value : DecisionStatus → String
  | allowed => "allowed"
  | blocked => "blocked"
  | approvalRequired => "approval_required"
  | executed => "executed"
  | failed => "failed"
  | rolledBack => "rolled_back"

/-- Immutable, append-only record of one execution decision or outcome. -/
structure ExecutionRecord where
  recordId : String
  recordedAt : String
  requestId : String
  taskId : String
  targetType : TargetType
  target : String
  decision : String
  risk : String
  status : DecisionStatus
  permissions : List String := []
  error : Option String := none
  permitId : Option String := none
  operationDigest : Option String := none
  authorizationSource : Option String := none
  previousHash : String := ""
  hash : String := ""
  deriving Repr, DecidableEq, Inhabited

/-- The details of an audit entry, any dictionary, as far as anything is seen of them. -/
structure AuditDetails where
  /-- What `json.dumps` writes of them, with `sort_keys` and `default=str`. -/
  dumped : Json := .obj []
  /-- What is read back of what the table writes of them; writing them raises where it is `none`. -/
  stored : Option (Dict String Json) := some []
  deriving Repr, Inhabited

/-- Details that were read back from the table. -/
def AuditDetails.ofJson (details : Dict String Json) : AuditDetails where
  dumped := (Json.obj details).sortKeys
  stored := some details

/-- The details as they are after a restart. -/
def AuditDetails.readBack (details : AuditDetails) : AuditDetails :=
  match details.stored with
  | some json => .ofJson json
  | none => details

@[simp] lemma AuditDetails.readBack_ofJson (details : Dict String Json) :
    (ofJson details).readBack = ofJson details := rfl

@[simp] lemma AuditDetails.readBack_readBack (details : AuditDetails) :
    details.readBack.readBack = details.readBack := by
  unfold readBack
  cases hstored : details.stored with
  | some json => rfl
  | none => simp [hstored]

/-- Immutable, append-only governance audit entry. -/
structure AuditEntry where
  seq : ℤ
  recordedAt : String
  category : String
  action : String
  subject : String
  result : String
  details : AuditDetails := {}
  previousHash : String := ""
  hash : String := ""
  deriving Repr, Inhabited

/-! ## Hashes -/

/-- The hash of a payload with sorted keys. -/
def chainHash (sha256 : String → String) (previousHash : String) (payload : Json) : String :=
  sha256 (previousHash ++ "|" ++ String.ofList payload.dumps)

def optionalText : Option String → Json
  | some text => .str text
  | none => .null

/-- The payload of `ExecutionRecord.recompute_hash`. -/
def ExecutionRecord.payload (record : ExecutionRecord) : Json := .obj [
  ("record_id", .str record.recordId),
  ("recorded_at", .str record.recordedAt),
  ("request_id", .str record.requestId),
  ("task_id", .str record.taskId),
  ("target_type", .str record.targetType.value),
  ("target", .str record.target),
  ("decision", .str record.decision),
  ("risk", .str record.risk),
  ("status", .str record.status.value),
  ("permissions", .arr (record.permissions.map .str)),
  ("error", optionalText record.error),
  ("permit_id", optionalText record.permitId),
  ("operation_digest", optionalText record.operationDigest),
  ("authorization_source", optionalText record.authorizationSource),
  ("previous_hash", .str record.previousHash)]

/-- `ExecutionRecord.recompute_hash`. -/
def ExecutionRecord.recomputeHash (sha256 : String → String) (record : ExecutionRecord) :
    String :=
  chainHash sha256 record.previousHash record.payload.sortKeys

def chainFor (sha256 : String → String) (previousHash : String) (record : ExecutionRecord) :
    String :=
  ExecutionRecord.recomputeHash sha256 { record with previousHash := previousHash }

/-- The payload of `AuditEntry.recompute_hash`, its keys sorted. -/
def AuditEntry.payload (entry : AuditEntry) : Json := .obj [
  ("action", .str entry.action),
  ("category", .str entry.category),
  ("details", entry.details.dumped),
  ("previous_hash", .str entry.previousHash),
  ("recorded_at", .str entry.recordedAt),
  ("result", .str entry.result),
  ("seq", .int entry.seq),
  ("subject", .str entry.subject)]

/-- `AuditEntry.recompute_hash`. -/
def AuditEntry.recomputeHash (sha256 : String → String) (entry : AuditEntry) : String :=
  chainHash sha256 entry.previousHash entry.payload

/-- The entry as it is after a restart. -/
def AuditEntry.readBack (entry : AuditEntry) : AuditEntry :=
  { entry with details := entry.details.readBack }

/-- The hash of an entry that follows a hash. -/
def AuditEntry.probe (sha256 : String → String) (previousHash : String) (entry : AuditEntry) :
    String :=
  AuditEntry.recomputeHash sha256 { entry with previousHash := previousHash }

/-! ## The table -/

/-- `SQLiteJsonTable.all`: the rows in the order of their keys. -/
def tableRows {α : Type} (table : Dict String α) : List α :=
  (Dict.sortByKey table).map Prod.snd

/-! ## Execution records -/

/-- Append-only, hash-chained execution record store, on a table. -/
structure ExecutionRecordStore where
  records : List ExecutionRecord := []
  byId : Dict String ExecutionRecord := []
  backing : Dict String ExecutionRecord := []
  deriving Inhabited

/-- What an append raises. -/
inductive RecordError where
  /-- `ValueError`: the record exists already. -/
  | exists (recordId : String)
  /-- What the table's write raised. -/
  | write
  /-- `TypeError`: `json.dumps` raises on the details. -/
  | details
  deriving Repr, DecidableEq, Inhabited

namespace ExecutionRecordStore

/-- `_load_backing`, on a table. -/
def load (backing : Dict String ExecutionRecord) : ExecutionRecordStore :=
  let rows := (tableRows backing).insertionSort fun r s => r.recordedAt ≤ s.recordedAt
  { records := rows
    byId := Dict.ofList (rows.map fun r => (r.recordId, r))
    backing := backing }

/-- `append`; `writeRaises` says whether the table's write raises. -/
def append (sha256 : String → String) (store : ExecutionRecordStore) (record : ExecutionRecord)
    (writeRaises : Bool) : Except RecordError ExecutionRecord × ExecutionRecordStore :=
  if (Dict.get? store.byId record.recordId).isSome then (.error (.exists record.recordId), store)
  else
    let previous := (store.records.getLast?.map ExecutionRecord.hash).getD ""
    let chained := { record with
      previousHash := previous
      hash := chainFor sha256 previous record }
    let store := { store with
      records := store.records ++ [chained]
      byId := Dict.set store.byId chained.recordId chained }
    if (Dict.get? store.backing chained.recordId).isSome then
      (.error (.exists record.recordId), store)
    else if writeRaises then (.error .write, store)
    else (.ok chained, { store with
      backing := Dict.set store.backing chained.recordId chained })

def verifyChain (sha256 : String → String) (store : ExecutionRecordStore) : Bool :=
  HashChain.verify ExecutionRecord.hash (chainFor sha256) "" store.records

end ExecutionRecordStore

/-! ## Audit entries -/

/-- Append-only, hash-chained governance audit trail, on a table. -/
structure GovernanceAuditLog where
  entries : List AuditEntry := []
  seq : ℤ := 0
  backing : Dict String AuditEntry := []
  deriving Inhabited

/-- What a call of `record` gives; there are details on which `json.dumps` raises. -/
structure AuditCall where
  category : String
  action : String
  subject : String
  result : String
  details : Option AuditDetails := some {}
  deriving Inhabited

namespace GovernanceAuditLog

/-- `_load_backing`, on a table. -/
def load (backing : Dict String AuditEntry) : GovernanceAuditLog :=
  let rows := (tableRows backing).insertionSort fun e f =>
    toLex (e.recordedAt, e.seq) ≤ toLex (f.recordedAt, f.seq)
  { entries := rows
    seq := rows.foldl (fun seq e => max seq (e.seq + 1)) 0
    backing := backing }

/-- The entry that a `record` seals. -/
def sealed (sha256 : String → String) (log : GovernanceAuditLog) (call : AuditCall)
    (details : AuditDetails) (now : String) : AuditEntry :=
  let entry : AuditEntry := {
    seq := log.seq
    recordedAt := now
    category := call.category
    action := call.action
    subject := call.subject
    result := call.result
    details := details
    previousHash := (log.entries.getLast?.map AuditEntry.hash).getD "" }
  { entry with hash := entry.recomputeHash sha256 }

/-- `record`; `now` is what the clock shows, and `writeRaises` says whether the table's write
raises. -/
def record (sha256 : String → String) (log : GovernanceAuditLog) (call : AuditCall) (now : String)
    (writeRaises : Bool) : Except RecordError AuditEntry × GovernanceAuditLog :=
  match call.details with
  | none => (.error .details, log)
  | some details =>
      let entry := log.sealed sha256 call details now
      let log := { log with entries := log.entries ++ [entry], seq := log.seq + 1 }
      if details.stored.isNone || writeRaises then (.error .write, log)
      else (.ok entry, { log with
        backing := Dict.set log.backing (toString entry.seq) entry.readBack })

def verifyChain (sha256 : String → String) (log : GovernanceAuditLog) : Bool :=
  HashChain.verify AuditEntry.hash (AuditEntry.probe sha256) "" log.entries

end GovernanceAuditLog

end Samaktha
