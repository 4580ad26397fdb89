import Samaktha.Contracts.Policy
import Samaktha.Evidence.Sanitizer

/-!
# The evidence store

The store keeps two tables: the events, numbered for each execution, and one summary for each
execution, which an upsert keeps beside the events.  `insertEvent` is the body of the
transactions of `append` and `append_many`; where it raises, the transaction is rolled back.

A store that is disabled raises in every call and has no tables; the store here is enabled.  The
indexes, the migrations and the queries of the timeline are left out.  Every insertion reads the
clock, and the text of its time is a parameter.

`insertEvent_spec` says what an insertion does to the tables.
-/

namespace Samaktha

namespace Evidence

/-! ## Events -/

inductive EvidenceEventType where
  | executionCreated | executionStateChanged | executionCompleted | executionFailed
  | executionCancelled | executionTimedOut | executionDenied
  | approvalRequested | approvalResolved
  | permitIssued | permitValidated | permitRejected
  | routerSelected | routerFallback
  | providerStarted | providerCompleted | providerFailed | providerRetryScheduled
  | providerRetryStarted
  | toolStarted | toolCompleted | toolFailed
  | securityAllowed | securityDenied | securityFilesystemDenied | securityShellDenied
  | securityNetworkDenied | securityWindowsDenied
  | retryScheduled | retryStarted | recoveryStarted | recoveryCompleted | recoveryFailed
  | checkpointSaved | checkpointRestored
  | workflowScheduled | workflowCompleted | workflowFailed
  | taskStarted | taskCompleted | taskFailed
  | pluginDiscovered | pluginInstalled | pluginEnabled | pluginLoaded | pluginUnloaded
  | pluginDisabled
  | memoryStarted | memoryCompleted
  | externalActionStarted | externalActionAccepted | externalActionConfirmed
  | externalActionUnknown | externalActionFailed
  deriving Repr, DecidableEq, Inhabited

inductive EvidenceSeverity where
  | debug | info | warning | error | critical
  deriving Repr, DecidableEq, Inhabited

structure EvidencePayload where
  eventType : EvidenceEventType
  eventVersion : ℤ := 1
  schemaVersion : ℤ := 1
  executionId : String
  sequenceNumber : ℕ := 0
  requestId : Option String := none
  traceId : Option String := none
  sessionId : Option String := none
  principalId : Option String := none
  taskId : Option String := none
  actionId : Option String := none
  permitId : Option String := none
  approvalId : Option String := none
  operationDigest : Option String := none
  retryAttempt : Option ℤ := none
  provider : Option String := none
  model : Option String := none
  toolName : Option String := none
  toolAction : Option String := none
  severity : EvidenceSeverity := .info
  timestamp : String
  durationMs : Option ℤ := none
  status : Option String := none
  failureType : Option String := none
  decision : Option String := none
  reasonCode : Option String := none
  metadata : Dict Key Datum := []

/-- `payload.model_copy`, with the number and the metadata that are stored. -/
def EvidencePayload.modelCopy (payload : EvidencePayload) (sequenceNumber : ℕ)
    (metadata : Dict Key Datum) : EvidencePayload :=
  { payload with sequenceNumber, metadata }

structure EvidenceEvent where
  evidenceId : String
  payload : EvidencePayload

abbrev EvidenceEvent.executionId (event : EvidenceEvent) : String := event.payload.executionId

/-- `ExecutionEvidenceSummary`, a row of the table of executions. -/
structure ExecutionEvidenceSummary where
  executionId : String
  principalId : String
  sessionId : String
  createdAt : String
  updatedAt : String
  terminalAt : Option String
  finalStatus : Option String
  requestSummary : Option String
  totalEvents : ℕ
  retryCount : ℕ
  approvalCount : ℕ
  securityDenialCount : ℕ
  recoveryCount : ℕ
  finalFailureType : Option String
  schemaVersion : ℤ
  deriving Repr, DecidableEq

structure EvidenceTables where
  events : List EvidenceEvent := []
  executions : Dict String ExecutionEvidenceSummary := []

/-- The events of an execution, in the order of their insertion. -/
def EvidenceTables.eventsOf (tables : EvidenceTables) (executionId : String) :
    List EvidenceEvent :=
  tables.events.filter fun event => event.executionId = executionId

/-- The numbers of the events of an execution. -/
def EvidenceTables.numbersOf (tables : EvidenceTables) (executionId : String) : List ℕ :=
  (tables.eventsOf executionId).map fun event => event.payload.sequenceNumber

/-! ## The summary of an execution -/

/-- The statuses that end an execution. -/
def terminalStatuses : List String := ["completed", "failed", "cancelled", "timed_out", "denied"]

def EvidencePayload.isTerminal (payload : EvidencePayload) : Bool :=
  payload.status.any terminalStatuses.contains

/-- The event types of a security denial. -/
def securityDenials : List EvidenceEventType :=
  [.securityDenied, .securityFilesystemDenied, .securityShellDenied, .securityNetworkDenied,
    .securityWindowsDenied]

/-- The event types of a recovery. -/
def recoveries : List EvidenceEventType := [.recoveryStarted, .recoveryCompleted]

/-- `payload.metadata.get("request_summary")[:200]`, or nothing where there is none; `none` where
the value cannot be cut, or the database takes no such value. -/
def requestSummary (metadata : Dict Key Datum) : Option (Option String) :=
  match Dict.get? metadata (.str "request_summary") with
  | none => some none
  | some value =>
      if !value.truthy then some none
      else
        match value with
        | .str text => some (some (String.ofList (text.toList.take 200)))
        | _ => none

/-- `_upsert_execution_summary`: the inserted row, or the updated one. -/
def upsertExecutionSummary (executions : Dict String ExecutionEvidenceSummary)
    (payload : EvidencePayload) (requestSummary : Option String) (now : String) :
    Dict String ExecutionEvidenceSummary :=
  let type := payload.eventType
  executions.set payload.executionId <|
    match executions.get? payload.executionId with
    | none =>
        { executionId := payload.executionId
          principalId := orText payload.principalId "unknown"
          sessionId := orText payload.sessionId "unknown"
          createdAt := now
          updatedAt := now
          terminalAt := if payload.isTerminal then some now else none
          finalStatus := if payload.isTerminal then payload.status else none
          requestSummary
          totalEvents := 1
          retryCount := 0
          approvalCount := 0
          securityDenialCount := 0
          recoveryCount := 0
          finalFailureType := if payload.isTerminal then payload.failureType else none
          schemaVersion := 1 }
    | some row =>
        { row with
          updatedAt := now
          terminalAt := if payload.isTerminal then some now else row.terminalAt
          finalStatus := if payload.isTerminal then payload.status else row.finalStatus
          totalEvents := row.totalEvents + 1
          retryCount := row.retryCount + if type = .retryScheduled then 1 else 0
          approvalCount := row.approvalCount + if type = .approvalResolved then 1 else 0
          securityDenialCount :=
            row.securityDenialCount + if type ∈ securityDenials then 1 else 0
          recoveryCount := row.recoveryCount + if type ∈ recoveries then 1 else 0
          finalFailureType :=
            if payload.isTerminal then payload.failureType else row.finalFailureType }

/-! ## Insertions -/

def isInteger64 (n : ℤ) : Bool := -2 ^ 63 ≤ n && n < 2 ^ 63

def EvidencePayload.integersFit (payload : EvidencePayload) : Bool :=
  isInteger64 payload.eventVersion && isInteger64 payload.schemaVersion &&
    payload.retryAttempt.all isInteger64 && payload.durationMs.all isInteger64

@[simp] lemma integersFit_modelCopy (payload : EvidencePayload) (sequenceNumber : ℕ)
    (metadata : Dict Key Datum) :
    (payload.modelCopy sequenceNumber metadata).integersFit = payload.integersFit := rfl

/-- `COALESCE(MAX(sequence_number), 0) + 1`. -/
def nextSequence (tables : EvidenceTables) (executionId : String) : ℕ :=
  (tables.numbersOf executionId).foldr max 0 + 1

variable (isLetter : Char → Bool) (maxPayloadBytes : ℕ)

/-- The metadata that is stored and the summary of the request that goes into the row of the
execution; `none` where one of the two cannot be made or written. -/
def storedMetadata (payload : EvidencePayload) : Option (Dict Key Datum × Option String) :=
  match sanitizeForEvidence isLetter payload.metadata false maxPayloadBytes with
  | none => none
  | some metadata =>
      if !(Datum.dict metadata).encodable then none
      else (requestSummary metadata).map fun summary => (metadata, summary)

/-- The body of a transaction for one event; `none` where it raises. -/
def insertEvent (tables : EvidenceTables) (event : EvidenceEvent) (now : String) :
    Option (EvidenceTables × EvidenceEvent) :=
  match storedMetadata isLetter maxPayloadBytes event.payload with
  | none => none
  | some (metadata, summary) =>
      let payload := event.payload.modelCopy (nextSequence tables event.executionId) metadata
      let updated := { event with payload }
      if tables.events.any fun row => row.evidenceId = event.evidenceId then none
      else if !payload.integersFit then none
      else
        some ({ events := tables.events ++ [updated]
                executions := upsertExecutionSummary tables.executions payload summary now },
          updated)

/-- `append`: the tables after the call, and the event it returns where it returns. -/
def append (tables : EvidenceTables) (event : EvidenceEvent) (now : String) :
    EvidenceTables × Option EvidenceEvent :=
  match insertEvent isLetter maxPayloadBytes tables event now with
  | none => (tables, none)
  | some (tables, updated) => (tables, some updated)

/-- The insertions of `append_many`, in one transaction. -/
def insertEvents (tables : EvidenceTables) :
    List (EvidenceEvent × String) → Option (EvidenceTables × List EvidenceEvent)
  | [] => some (tables, [])
  | (event, now) :: rest =>
      match insertEvent isLetter maxPayloadBytes tables event now with
      | none => none
      | some (tables, updated) =>
          (insertEvents tables rest).map fun result => (result.1, updated :: result.2)

def appendMany (tables : EvidenceTables) (events : List (EvidenceEvent × String)) :
    EvidenceTables × Option (List EvidenceEvent) :=
  if events.isEmpty then (tables, some [])
  else
    match insertEvents isLetter maxPayloadBytes tables events with
    | none => (tables, none)
    | some (tables, results) => (tables, some results)

/-! ## What an insertion does -/

/-- An event that the tables can hold. -/
def storable (event : EvidenceEvent) : Bool :=
  (storedMetadata isLetter maxPayloadBytes event.payload).isSome && event.payload.integersFit

variable {isLetter maxPayloadBytes}

lemma insertEvent_spec {tables tables' : EvidenceTables} {event row : EvidenceEvent} {now : String}
    (h : insertEvent isLetter maxPayloadBytes tables event now = some (tables', row)) :
    ∃ metadata summary,
      row = { event with
        payload := event.payload.modelCopy (nextSequence tables event.executionId) metadata } ∧
      tables' = { events := tables.events ++ [row]
                  executions := upsertExecutionSummary tables.executions row.payload summary now } ∧
      storable isLetter maxPayloadBytes event = true ∧
      ∀ stored ∈ tables.events, stored.evidenceId ≠ event.evidenceId := by
  unfold insertEvent at h
  cases hmeta : storedMetadata isLetter maxPayloadBytes event.payload with
  | none => simp [hmeta] at h
  | some stored =>
      obtain ⟨metadata, summary⟩ := stored
      simp only [hmeta] at h
      split at h
      · cases h
      · rename_i hid
        split at h
        · cases h
        · rename_i hints
          cases h
          refine ⟨metadata, summary, rfl, rfl, ?_, ?_⟩
          · rw [integersFit_modelCopy] at hints
            simpa [storable, hmeta] using hints
          · simpa using hid

variable (isLetter maxPayloadBytes) in
lemma insertEvent_isSome (tables : EvidenceTables) (event : EvidenceEvent) (now : String) :
    (insertEvent isLetter maxPayloadBytes tables event now).isSome = true ↔
      storable isLetter maxPayloadBytes event = true ∧
        ∀ stored ∈ tables.events, stored.evidenceId ≠ event.evidenceId := by
  unfold insertEvent storable
  cases hmeta : storedMetadata isLetter maxPayloadBytes event.payload with
  | none => simp
  | some stored =>
      dsimp only
      split
      · rename_i hid
        simp only [List.any_eq_true, decide_eq_true_eq] at hid
        obtain ⟨stored, hmem, heq⟩ := hid
        simp only [Option.isSome_none, Bool.false_eq_true, false_iff, not_and]
        exact fun _ hall => hall stored hmem heq
      · rename_i hid
        have hnew : ∀ stored ∈ tables.events, stored.evidenceId ≠ event.evidenceId := by
          simpa using hid
        split
        · rename_i hfit
          rw [integersFit_modelCopy] at hfit
          refine iff_of_false (by simp) fun h => ?_
          simp_all
        · rename_i hfit
          rw [integersFit_modelCopy] at hfit
          exact iff_of_true rfl ⟨by simpa using hfit, hnew⟩

lemma events_insertEvent {tables tables' : EvidenceTables} {event row : EvidenceEvent}
    {now : String}
    (h : insertEvent isLetter maxPayloadBytes tables event now = some (tables', row)) :
    tables'.events = tables.events ++ [row] := by
  obtain ⟨metadata, summary, -, rfl, -⟩ := insertEvent_spec h
  rfl

lemma executionId_insertEvent {tables tables' : EvidenceTables} {event row : EvidenceEvent}
    {now : String}
    (h : insertEvent isLetter maxPayloadBytes tables event now = some (tables', row)) :
    row.executionId = event.executionId ∧ row.payload.eventType = event.payload.eventType := by
  obtain ⟨metadata, summary, rfl, -⟩ := insertEvent_spec h
  exact ⟨rfl, rfl⟩

lemma eventsOf_insertEvent {tables tables' : EvidenceTables} {event row : EvidenceEvent}
    {now : String}
    (h : insertEvent isLetter maxPayloadBytes tables event now = some (tables', row))
    (executionId : String) :
    tables'.eventsOf executionId =
      tables.eventsOf executionId ++ if row.executionId = executionId then [row] else [] := by
  rw [EvidenceTables.eventsOf, events_insertEvent h, List.filter_append, EvidenceTables.eventsOf]
  by_cases hid : row.executionId = executionId <;> simp [hid]

/-! ## Numbers -/

/-- The events of every execution are numbered from one on. -/
def Numbered (tables : EvidenceTables) : Prop :=
  ∀ executionId, tables.numbersOf executionId =
    List.range' 1 (tables.eventsOf executionId).length

lemma foldr_max_range' (n : ℕ) : (List.range' 1 n).foldr max 0 = n := by
  induction n with
  | zero => rfl
  | succ n ih =>
      have hmax : ∀ (xs : List ℕ) (m : ℕ), xs.foldr max m = max (xs.foldr max 0) m := by
        intro xs m
        induction xs with
        | nil => simp
        | cons x xs ihx => rw [List.foldr_cons, List.foldr_cons, ihx, max_assoc]
      rw [List.range'_concat, List.foldr_append, hmax, ih]
      simp
      omega

lemma nextSequence_eq {tables : EvidenceTables} (h : Numbered tables) (executionId : String) :
    nextSequence tables executionId = (tables.eventsOf executionId).length + 1 := by
  rw [nextSequence, h executionId, foldr_max_range']

lemma Numbered.insertEvent {tables tables' : EvidenceTables} {event row : EvidenceEvent}
    {now : String} (hnumbered : Numbered tables)
    (h : insertEvent isLetter maxPayloadBytes tables event now = some (tables', row)) :
    Numbered tables' := by
  intro executionId
  obtain ⟨metadata, summary, hrow, -⟩ := insertEvent_spec h
  rw [EvidenceTables.numbersOf, eventsOf_insertEvent h, List.map_append]
  have hold : (tables.eventsOf executionId).map (fun event => event.payload.sequenceNumber) =
      List.range' 1 (tables.eventsOf executionId).length := hnumbered executionId
  by_cases hid : row.executionId = executionId
  · have hevent : event.executionId = executionId := by
      rw [← (executionId_insertEvent h).1, hid]
    have hseq : row.payload.sequenceNumber = (tables.eventsOf executionId).length + 1 := by
      rw [← nextSequence_eq hnumbered executionId, ← hevent, hrow]
      rfl
    rw [hold, if_pos hid, List.length_append, List.map_singleton, hseq, List.length_singleton,
      List.range'_concat]
    simp [Nat.add_comm]
  · rw [hold, if_neg hid]
    simp

end Evidence

end Samaktha
