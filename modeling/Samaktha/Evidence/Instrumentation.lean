import Samaktha.Contracts.State
import Samaktha.Evidence.Store

/-!
# The recorder

`EvidenceInstrumentation` has a method for each decision of the execution; every method makes one
event and appends it to the store.  `Method` is a call of a method with the arguments it takes
besides the identities of the execution, `Method.payload` the payload that the method emits.

The status of an event is a text, and the summary of the execution ends with five of them.
`Method.misreports` is the list of methods that emit one of the five although their event is none
of the execution's (`misreports_eq`).
-/

namespace Samaktha

namespace Evidence

/-- The first three arguments of every method. -/
structure ExecutionScope where
  executionId : String
  principalId : String
  sessionId : String
  deriving Repr, DecidableEq

/-- A method of `EvidenceInstrumentation` with its further arguments.  Times in seconds are
floats, by their `repr`; of an exception its type, module and text are read. -/
inductive Method where
  | executionCreated (request : String) (source : String := "interface")
  | executionStateChanged (fromStatus : String) (toStatus : ExecutionStatus)
      (error : Option String := none)
  | executionCompleted (durationMs : ℤ)
  | executionFailed (error : String) (failureType : Option String := none)
      (durationMs : Option ℤ := none)
  | executionCancelled (reason : String := "Execution cancelled.") (durationMs : Option ℤ := none)
  | executionTimedOut (timeoutS : String) (durationMs : Option ℤ := none)
  | executionDenied (reason : String) (durationMs : Option ℤ := none)
  | approvalRequested (approvalId taskId : String) (reason : String := "Approval required")
  | approvalResolved (approvalId decision : String) (reasons : List String)
      (taskId : Option String := none)
  | permitIssued (permitId actionId operationDigest risk : String)
      (requiredPermissions : List String)
  | permitValidated (permitId actionId result : String)
  | permitRejected (permitId reason : String)
  | routerSelected (taskId provider model executionLocation : String)
      (constraints : Option (Dict Key Datum) := none)
  | routerFallback (taskId fromProvider toProvider fromModel toModel reason : String)
  | providerStarted (taskId provider model : String) (streaming : Bool := false)
  | providerCompleted (taskId provider model : String) (durationMs : ℤ)
      (outputChars outputBytes : Option ℤ := none) (streaming : Bool := false)
  | providerFailed (taskId provider model error : String) (failureType : Option String := none)
      (durationMs : Option ℤ := none)
  | providerRetryScheduled (taskId provider model : String) (attempt : ℤ)
      (delayS failureType : String)
  | providerRetryStarted (taskId provider model : String) (attempt : ℤ)
  | toolStarted (taskId toolName toolAction : String) (actionId : Option String := none)
  | toolCompleted (taskId toolName toolAction : String) (durationMs : ℤ)
      (outputChars outputBytes : Option ℤ := none)
      (actionId sideEffectClass : Option String := none)
  | toolFailed (taskId toolName toolAction error : String) (failureType : Option String := none)
      (durationMs : Option ℤ := none) (actionId : Option String := none)
  | securityAllowed (toolName toolAction policyType : String) (scopeRoot : Option String := none)
  | securityDenied (toolName toolAction policyType reasonCode reasonMessage : String)
      (targetCategory : Option String := none)
  | securityFilesystemDenied (toolName toolAction reasonCode targetCategory : String)
  | securityShellDenied (toolName toolAction reasonCode detail : String)
  | securityNetworkDenied (toolName toolAction reasonCode : String)
      (targetHost targetIp : Option String := none)
  | securityWindowsDenied (toolName toolAction reasonCode detail : String)
  | retryScheduled (taskId : String) (attempt : ℤ) (delayS failureType : String)
      (sideEffectClass : Option String := none)
  | retryStarted (taskId : String) (attempt : ℤ)
  | recoveryStarted (generation : ℤ) (recoverySafe : Bool)
  | recoveryCompleted (generation : ℤ) (finalStatus : String)
  | recoveryFailed (generation : ℤ) (error : String)
  | checkpointSaved (generation : ℤ) (recoverySafe : Bool)
  | checkpointRestored (generation : ℤ)
  | workflowScheduled (workflowId : String) (totalSteps : ℤ)
  | workflowCompleted (workflowId : String) (completedTasks failedTasks durationMs : ℤ)
  | workflowFailed (workflowId error : String) (durationMs : Option ℤ := none)
  | taskStarted (taskId actionType : String)
  | taskCompleted (taskId : String) (durationMs : ℤ) (outputChars : Option ℤ := none)
  | taskFailed (taskId error : String) (failureType : Option String := none)
      (durationMs : Option ℤ := none)
  | recordException (type module message : String)
  | externalActionStarted (taskId integrationType provider operation : String)
      (externalRequestId : Option String := none)
  | externalActionAccepted (taskId integrationType provider operation externalRequestId : String)
      (externalResourceId : Option String := none) (durationMs : Option ℤ := none)
  | externalActionConfirmed (taskId integrationType provider operation externalRequestId : String)
      (externalResourceId : Option String := none) (durationMs : Option ℤ := none)
  | externalActionUnknown (taskId integrationType provider operation externalRequestId : String)
      (externalResourceId : Option String := none) (durationMs : Option ℤ := none)
  | externalActionFailed (taskId integrationType provider operation error failureType : String)
      (externalRequestId externalResourceId : Option String := none)
      (durationMs : Option ℤ := none)

/-! ## Metadata -/

def optionalText : Option String → Datum
  | some text => .str text
  | none => .none

def optionalInt : Option ℤ → Datum
  | some n => .int n
  | none => .none

def textList (texts : List String) : Datum := .list (texts.map .str)

/-- `text[:n]`. -/
def cut (text : String) (n : ℕ) : String := String.ofList (text.toList.take n)

/-- A metadata dictionary from its items. -/
def items (kvs : List (String × Datum)) : Dict Key Datum := kvs.map fun kv => (.str kv.1, kv.2)

/-- The metadata of the events that say only what went wrong. -/
def errorMetadata (error : String) : Dict Key Datum := items [("error", .str (cut error 500))]

/-- The metadata that the events of an external action share. -/
def externalMetadata (integrationType operation : String)
    (externalRequestId externalResourceId : Option String) : Dict Key Datum :=
  items [("integration_type", .str integrationType), ("operation", .str operation),
    ("external_request_id", optionalText externalRequestId),
    ("external_resource_id", optionalText externalResourceId)]

variable (isLetter : Char → Bool)

def sanitizeException (type module message : String) : Dict Key Datum :=
  items [("type", .str type), ("module", .str module),
    ("message", .str (cut (sanitizeString isLetter message) 500)), ("_sanitized", .bool true)]

/-! ## Methods -/

/-- `_emit`, with the arguments that every method gives. -/
def emit (scope : ExecutionScope) (timestamp : String) (eventType : EvidenceEventType)
    (status : String) : EvidencePayload where
  eventType
  executionId := scope.executionId
  principalId := some scope.principalId
  sessionId := some scope.sessionId
  timestamp
  status := some status

/-- A denial of the security layer. -/
def emitDenial (scope : ExecutionScope) (timestamp : String) (eventType : EvidenceEventType)
    (toolName toolAction reasonCode : String) (metadata : Dict Key Datum) : EvidencePayload :=
  { emit scope timestamp eventType "denied" with
    toolName := some toolName
    toolAction := some toolAction
    decision := some "denied"
    reasonCode := some reasonCode
    severity := .warning
    metadata }

def Method.payload (scope : ExecutionScope) (timestamp : String) : Method → EvidencePayload
  | executionCreated request source =>
      { emit scope timestamp .executionCreated "created" with
        requestId := some scope.executionId
        traceId := some scope.executionId
        metadata := items [("source", .str source), ("request_summary", .str (cut request 200))] }
  | executionStateChanged fromStatus toStatus error =>
      { emit scope timestamp .executionStateChanged toStatus.value with
        failureType :=
          if toStatus ∈ [.failed, .timedOut, .cancelled, .denied] then error else none
        metadata := items [("from_status", .str fromStatus), ("error", optionalText error)] }
  | executionCompleted durationMs =>
      { emit scope timestamp .executionCompleted "completed" with durationMs := some durationMs }
  | executionFailed error failureType durationMs =>
      { emit scope timestamp .executionFailed "failed" with
        failureType, durationMs, severity := .error, metadata := errorMetadata error }
  | executionCancelled reason durationMs =>
      { emit scope timestamp .executionCancelled "cancelled" with
        durationMs, severity := .warning, metadata := items [("reason", .str reason)] }
  | executionTimedOut timeoutS durationMs =>
      { emit scope timestamp .executionTimedOut "timed_out" with
        failureType := some "timeout", durationMs, severity := .error
        metadata := items [("timeout_seconds", .float timeoutS)] }
  | executionDenied reason durationMs =>
      { emit scope timestamp .executionDenied "denied" with
        durationMs, severity := .warning, metadata := items [("reason", .str reason)] }
  | approvalRequested approvalId taskId reason =>
      { emit scope timestamp .approvalRequested "requested" with
        approvalId := some approvalId, taskId := some taskId
        metadata := items [("reason", .str reason)] }
  | approvalResolved approvalId decision reasons taskId =>
      { emit scope timestamp .approvalResolved "resolved" with
        approvalId := some approvalId, taskId, decision := some decision
        metadata := items [("reasons", textList reasons)] }
  | permitIssued permitId actionId operationDigest risk requiredPermissions =>
      { emit scope timestamp .permitIssued "issued" with
        permitId := some permitId, actionId := some actionId
        operationDigest := some operationDigest, decision := some "issued"
        metadata := items [("risk", .str risk),
          ("required_permissions", textList requiredPermissions)] }
  | permitValidated permitId actionId result =>
      { emit scope timestamp .permitValidated result with
        permitId := some permitId, actionId := some actionId, decision := some result }
  | permitRejected permitId reason =>
      { emit scope timestamp .permitRejected "rejected" with
        permitId := some permitId, decision := some "rejected", severity := .warning
        metadata := items [("reason", .str reason)] }
  | routerSelected taskId provider model executionLocation constraints =>
      { emit scope timestamp .routerSelected "selected" with
        taskId := some taskId, provider := some provider, model := some model
        decision := some "selected"
        metadata := items [("execution_location", .str executionLocation),
          ("constraints", .dict (constraints.getD []))] }
  | routerFallback taskId fromProvider toProvider fromModel toModel reason =>
      { emit scope timestamp .routerFallback "fallback" with
        taskId := some taskId, provider := some toProvider, model := some toModel
        decision := some "fallback", severity := .warning
        metadata := items [("from_provider", .str fromProvider), ("from_model", .str fromModel),
          ("reason", .str reason)] }
  | providerStarted taskId provider model streaming =>
      { emit scope timestamp .providerStarted "started" with
        taskId := some taskId, provider := some provider, model := some model
        metadata := items [("streaming", .bool streaming)] }
  | providerCompleted taskId provider model durationMs outputChars outputBytes streaming =>
      { emit scope timestamp .providerCompleted "completed" with
        taskId := some taskId, provider := some provider, model := some model
        durationMs := some durationMs
        metadata := items [("output_chars", optionalInt outputChars),
          ("output_bytes", optionalInt outputBytes), ("streaming", .bool streaming)] }
  | providerFailed taskId provider model error failureType durationMs =>
      { emit scope timestamp .providerFailed "failed" with
        taskId := some taskId, provider := some provider, model := some model
        failureType, durationMs, severity := .error, metadata := errorMetadata error }
  | providerRetryScheduled taskId provider model attempt delayS failureType =>
      { emit scope timestamp .providerRetryScheduled "scheduled" with
        taskId := some taskId, provider := some provider, model := some model
        retryAttempt := some attempt, severity := .warning
        metadata := items [("delay_seconds", .float delayS), ("failure_type", .str failureType)] }
  | providerRetryStarted taskId provider model attempt =>
      { emit scope timestamp .providerRetryStarted "started" with
        taskId := some taskId, provider := some provider, model := some model
        retryAttempt := some attempt }
  | toolStarted taskId toolName toolAction actionId =>
      { emit scope timestamp .toolStarted "started" with
        taskId := some taskId, actionId, toolName := some toolName
        toolAction := some toolAction }
  | toolCompleted taskId toolName toolAction durationMs outputChars outputBytes actionId
      sideEffectClass =>
      { emit scope timestamp .toolCompleted "completed" with
        taskId := some taskId, actionId, toolName := some toolName
        toolAction := some toolAction, durationMs := some durationMs
        metadata := items [("output_chars", optionalInt outputChars),
          ("output_bytes", optionalInt outputBytes),
          ("side_effect_class", optionalText sideEffectClass)] }
  | toolFailed taskId toolName toolAction error failureType durationMs actionId =>
      { emit scope timestamp .toolFailed "failed" with
        taskId := some taskId, actionId, toolName := some toolName
        toolAction := some toolAction, failureType, durationMs, severity := .error
        metadata := errorMetadata error }
  | securityAllowed toolName toolAction policyType scopeRoot =>
      { emit scope timestamp .securityAllowed "allowed" with
        toolName := some toolName, toolAction := some toolAction, decision := some "allowed"
        metadata := items [("policy_type", .str policyType),
          ("scope_root", optionalText scopeRoot)] }
  | securityDenied toolName toolAction policyType reasonCode reasonMessage targetCategory =>
      emitDenial scope timestamp .securityDenied toolName toolAction reasonCode
        (items [("policy_type", .str policyType), ("reason_message", .str reasonMessage),
          ("target_category", optionalText targetCategory)])
  | securityFilesystemDenied toolName toolAction reasonCode targetCategory =>
      emitDenial scope timestamp .securityFilesystemDenied toolName toolAction reasonCode
        (items [("target_category", .str targetCategory)])
  | securityShellDenied toolName toolAction reasonCode detail =>
      emitDenial scope timestamp .securityShellDenied toolName toolAction reasonCode
        (items [("detail", .str detail)])
  | securityNetworkDenied toolName toolAction reasonCode targetHost targetIp =>
      emitDenial scope timestamp .securityNetworkDenied toolName toolAction reasonCode
        (items [("target_host", optionalText targetHost), ("target_ip", optionalText targetIp)])
  | securityWindowsDenied toolName toolAction reasonCode detail =>
      emitDenial scope timestamp .securityWindowsDenied toolName toolAction reasonCode
        (items [("detail", .str detail)])
  | retryScheduled taskId attempt delayS failureType sideEffectClass =>
      { emit scope timestamp .retryScheduled "scheduled" with
        taskId := some taskId, retryAttempt := some attempt, severity := .warning
        metadata := items [("delay_seconds", .float delayS), ("failure_type", .str failureType),
          ("side_effect_class", optionalText sideEffectClass)] }
  | retryStarted taskId attempt =>
      { emit scope timestamp .retryStarted "started" with
        taskId := some taskId, retryAttempt := some attempt }
  | recoveryStarted generation recoverySafe =>
      { emit scope timestamp .recoveryStarted "started" with
        metadata := items [("checkpoint_generation", .int generation),
          ("recovery_safe", .bool recoverySafe)] }
  | recoveryCompleted generation finalStatus =>
      { emit scope timestamp .recoveryCompleted finalStatus with
        metadata := items [("checkpoint_generation", .int generation)] }
  | recoveryFailed generation error =>
      { emit scope timestamp .recoveryFailed "failed" with
        failureType := some "recovery_failed", severity := .error
        metadata := items [("checkpoint_generation", .int generation),
          ("error", .str (cut error 500))] }
  | checkpointSaved generation recoverySafe =>
      { emit scope timestamp .checkpointSaved "saved" with
        metadata := items [("generation", .int generation),
          ("recovery_safe", .bool recoverySafe)] }
  | checkpointRestored generation =>
      { emit scope timestamp .checkpointRestored "restored" with
        metadata := items [("generation", .int generation)] }
  | workflowScheduled workflowId totalSteps =>
      { emit scope timestamp .workflowScheduled "scheduled" with
        taskId := some workflowId, metadata := items [("total_steps", .int totalSteps)] }
  | workflowCompleted workflowId completedTasks failedTasks durationMs =>
      { emit scope timestamp .workflowCompleted "completed" with
        taskId := some workflowId, durationMs := some durationMs
        metadata := items [("completed_tasks", .int completedTasks),
          ("failed_tasks", .int failedTasks)] }
  | workflowFailed workflowId error durationMs =>
      { emit scope timestamp .workflowFailed "failed" with
        taskId := some workflowId, failureType := some "workflow_failed", durationMs
        severity := .error, metadata := errorMetadata error }
  | taskStarted taskId actionType =>
      { emit scope timestamp .taskStarted "started" with
        taskId := some taskId, metadata := items [("action_type", .str actionType)] }
  | taskCompleted taskId durationMs outputChars =>
      { emit scope timestamp .taskCompleted "completed" with
        taskId := some taskId, durationMs := some durationMs
        metadata := items [("output_chars", optionalInt outputChars)] }
  | taskFailed taskId error failureType durationMs =>
      { emit scope timestamp .taskFailed "failed" with
        taskId := some taskId, failureType, durationMs, severity := .error
        metadata := errorMetadata error }
  | recordException type module message =>
      { emit scope timestamp .executionFailed "failed" with
        failureType := some "exception", severity := .error
        metadata := sanitizeException isLetter type module message }
  | externalActionStarted taskId integrationType provider operation externalRequestId =>
      { emit scope timestamp .externalActionStarted "started" with
        taskId := some taskId, provider := some provider
        metadata := items [("integration_type", .str integrationType),
          ("operation", .str operation),
          ("external_request_id", optionalText externalRequestId)] }
  | externalActionAccepted taskId integrationType provider operation externalRequestId
      externalResourceId durationMs =>
      { emit scope timestamp .externalActionAccepted "accepted" with
        taskId := some taskId, provider := some provider, durationMs
        metadata := externalMetadata integrationType operation (some externalRequestId)
          externalResourceId }
  | externalActionConfirmed taskId integrationType provider operation externalRequestId
      externalResourceId durationMs =>
      { emit scope timestamp .externalActionConfirmed "confirmed" with
        taskId := some taskId, provider := some provider, durationMs
        metadata := externalMetadata integrationType operation (some externalRequestId)
          externalResourceId }
  | externalActionUnknown taskId integrationType provider operation externalRequestId
      externalResourceId durationMs =>
      { emit scope timestamp .externalActionUnknown "unknown" with
        taskId := some taskId, provider := some provider, severity := .warning, durationMs
        metadata := externalMetadata integrationType operation (some externalRequestId)
          externalResourceId }
  | externalActionFailed taskId integrationType provider operation error failureType
      externalRequestId externalResourceId durationMs =>
      { emit scope timestamp .externalActionFailed "failed" with
        taskId := some taskId, provider := some provider, failureType := some failureType
        severity := .error, durationMs
        metadata := items [("integration_type", .str integrationType),
          ("operation", .str operation), ("error", .str (cut error 500)),
          ("external_request_id", optionalText externalRequestId),
          ("external_resource_id", optionalText externalResourceId)] }

/-! ## Ends -/

def EvidenceEventType.isExecution : EvidenceEventType → Bool
  | executionCreated | executionStateChanged | executionCompleted | executionFailed
  | executionCancelled | executionTimedOut | executionDenied => true
  | _ => false

/-- An event of the execution itself that says that it has ended. -/
def EvidencePayload.endsExecution (payload : EvidencePayload) : Bool :=
  payload.eventType.isExecution && payload.isTerminal

/-- The method emits a status that ends the summary, for an event that is none of the
execution's. -/
def Method.misreports : Method → Bool
  | providerCompleted .. | providerFailed .. | toolCompleted .. | toolFailed .. => true
  | securityDenied .. | securityFilesystemDenied .. | securityShellDenied .. => true
  | securityNetworkDenied .. | securityWindowsDenied .. => true
  | recoveryFailed .. | workflowCompleted .. | workflowFailed .. => true
  | taskCompleted .. | taskFailed .. | externalActionFailed .. => true
  | permitValidated _ _ result => terminalStatuses.contains result
  | recoveryCompleted _ finalStatus => terminalStatuses.contains finalStatus
  | _ => false

variable {isLetter}

@[simp] lemma executionId_payload (scope : ExecutionScope) (timestamp : String) (m : Method) :
    (m.payload isLetter scope timestamp).executionId = scope.executionId := by
  cases m <;> rfl

variable (isLetter) in
/-- The methods that misreport are those whose status ends the summary for an event that is none
of the execution's. -/
lemma misreports_eq (scope : ExecutionScope) (timestamp : String) (m : Method) :
    m.misreports = ((m.payload isLetter scope timestamp).isTerminal &&
      !(m.payload isLetter scope timestamp).eventType.isExecution) := by
  cases m with
  | executionStateChanged fromStatus toStatus error => exact (Bool.and_false _).symm
  | permitValidated permitId actionId result => exact (Bool.and_true _).symm
  | recoveryCompleted generation finalStatus => exact (Bool.and_true _).symm
  | _ => rfl

end Evidence

end Samaktha
