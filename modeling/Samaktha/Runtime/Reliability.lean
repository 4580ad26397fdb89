import Samaktha.Foundation.Text
import Mathlib.Algebra.Order.Field.Rat

/-!
# Failure classes and the retry decision

`classifyFailure` reads a failure off the text of an error, test by test in the order of the
source; `RetryPolicy.allows` decides whether a failed attempt may be repeated.  Delays are
rationals.

The fact the runtime rests on is `allows_nonIdempotent`: a repeated attempt of a
non-idempotent mutation is one whose last outcome proves that nothing was done.  A refusal by
CAP is never repeated (`allows_of_refused`), and `classifyFailure_of_permit` and
`classifyFailure_of_governance` say which texts are read as one.
-/

namespace Samaktha

/-- Stable reliability classes of failures. -/
inductive FailureType where
  | transientProviderFailure
  | rateLimited
  | providerTimeout
  | providerUnavailable
  | connectionError
  | toolTimeout
  | toolFailure
  | toolSecurityDenied
  | invalidRequest
  | configurationError
  | modelUnavailable
  | authorizationDenied
  | permitInvalid
  | permitExpired
  | cancelled
  | executionTimeout
  | checkpointInvalid
  | checkpointStale
  | recoveryFailed
  | unknownFailure
  | integrationNotConfigured
  | credentialUnavailable
  | credentialExpired
  | providerAuthFailed
  | providerRejected
  | externalRateLimit
  | externalTimeout
  | externalSubmissionUnknown
  | externalResourceNotFound
  | externalConflict
  deriving Repr, DecidableEq, Inhabited

/-- The text of a failure class. -/
def FailureType.value : FailureType → String
  | transientProviderFailure => "transient_provider_failure"
  | rateLimited => "rate_limited"
  | providerTimeout => "provider_timeout"
  | providerUnavailable => "provider_unavailable"
  | connectionError => "connection_error"
  | toolTimeout => "tool_timeout"
  | toolFailure => "tool_failure"
  | toolSecurityDenied => "tool_security_denied"
  | invalidRequest => "invalid_request"
  | configurationError => "configuration_error"
  | modelUnavailable => "model_unavailable"
  | authorizationDenied => "authorization_denied"
  | permitInvalid => "permit_invalid"
  | permitExpired => "permit_expired"
  | cancelled => "cancelled"
  | executionTimeout => "execution_timeout"
  | checkpointInvalid => "checkpoint_invalid"
  | checkpointStale => "checkpoint_stale"
  | recoveryFailed => "recovery_failed"
  | unknownFailure => "unknown_failure"
  | integrationNotConfigured => "integration_not_configured"
  | credentialUnavailable => "credential_unavailable"
  | credentialExpired => "credential_expired"
  | providerAuthFailed => "provider_auth_failed"
  | providerRejected => "provider_rejected"
  | externalRateLimit => "external_rate_limit"
  | externalTimeout => "external_timeout"
  | externalSubmissionUnknown => "external_submission_unknown"
  | externalResourceNotFound => "external_resource_not_found"
  | externalConflict => "external_conflict"

/-- What repeating an operation may do. -/
inductive SideEffectClass where
  | readOnly
  | idempotentMutation
  | nonIdempotentMutation
  deriving Repr, DecidableEq, Inhabited

namespace SideEffectClass

/-- The text of a side-effect class. -/
def value : SideEffectClass → String
  | readOnly => "read_only"
  | idempotentMutation => "idempotent_mutation"
  | nonIdempotentMutation => "non_idempotent_mutation"

/-- `SideEffectClass(text)`; `none` where it raises `ValueError`. -/
def ofValue? (text : String) : Option SideEffectClass :=
  [readOnly, idempotentMutation, nonIdempotentMutation].find? fun c => c.value = text

end SideEffectClass

/-- What is known of the effect of an operation. -/
inductive OperationOutcome where
  | notStarted
  | started
  | completed
  | failedBeforeEffect
  | failedAfterEffectUnknown
  | cancelled
  | timedOutUnknown
  deriving Repr, DecidableEq, Inhabited

namespace OperationOutcome

/-- The text of an outcome. -/
def value : OperationOutcome → String
  | notStarted => "not_started"
  | started => "started"
  | completed => "completed"
  | failedBeforeEffect => "failed_before_effect"
  | failedAfterEffectUnknown => "failed_after_effect_unknown"
  | cancelled => "cancelled"
  | timedOutUnknown => "timed_out_unknown"

/-- `OperationOutcome(text)`; `none` where it raises `ValueError`. -/
def ofValue? (text : String) : Option OperationOutcome :=
  [notStarted, started, completed, failedBeforeEffect, failedAfterEffectUnknown, cancelled,
    timedOutUnknown].find? fun o => o.value = text

/-- The outcomes that prove that nothing was done. -/
def harmless : OperationOutcome → Bool
  | notStarted | failedBeforeEffect => true
  | _ => false

lemma ofValue?_value (o : OperationOutcome) : ofValue? o.value = some o := by
  cases o <;> decide

end OperationOutcome

/-! ## Classification -/

/-- `classify_failure` on the text of an error. -/
def classifyFailure (error actionType : String) : FailureType :=
  let text := Text.lower error
  let has := Text.contains text
  if has "cancel" then .cancelled
  else if has "permit" && has "expired" then .permitExpired
  else if has "permit" || has "operation digest" || has "tamper" then .permitInvalid
  else if has "authoriz" || has "permission denied" || has "governance" then
    .authorizationDenied
  else if has "tool_security_denied" || (has "filesystem access" && has "denied") then
    .toolSecurityDenied
  else if has "rate limit" || has "rate_limited" || has "429" then .rateLimited
  else if has "model" && (has "not found" || has "invalid" || has "unknown" || has "unavailable")
    then .modelUnavailable
  else if has "configuration" || has "not configured" || has "api key" || has "credential" then
    .configurationError
  else if has "invalid request" || has "validation" || has "bad request" || has "400" then
    .invalidRequest
  else if has "timeout" || has "timed out" then
    if actionType = "tool" then .toolTimeout else .providerTimeout
  else if has "connection" || has "dns" || has "reset" || has "offline" then .connectionError
  else if has "server_error" || has "server error" || has "502" || has "503" || has "504" then
    .transientProviderFailure
  else if has "unavailable" then .providerUnavailable
  else if has "not configured" || has "not_configured" then .integrationNotConfigured
  else if has "credential" && (has "unavailable" || has "missing") then .credentialUnavailable
  else if has "credential" && has "expired" then .credentialExpired
  else if has "auth" && has "failed" then .providerAuthFailed
  else if has "rejected" || has "provider_rejected" then .providerRejected
  else if has "rate limit" || has "rate_limited" then .externalRateLimit
  else if has "submission_unknown" || (has "unknown" && has "submission") then
    .externalSubmissionUnknown
  else if has "not found" && has "external" then .externalResourceNotFound
  else if has "conflict" then .externalConflict
  else if actionType = "tool" then .toolFailure
  else .unknownFailure

/-- The classes that stand for a refusal by CAP or a cancellation. -/
def FailureType.refused : FailureType → Bool
  | cancelled | authorizationDenied | permitInvalid | permitExpired => true
  | _ => false

lemma classifyFailure_of_permit {error : String}
    (h : Text.contains (Text.lower error) "permit" = true) (actionType : String) :
    (classifyFailure error actionType).refused = true := by
  unfold classifyFailure
  simp only [h, Bool.true_and, Bool.true_or, if_true]
  split
  · rfl
  · split <;> rfl

lemma classifyFailure_of_governance {error : String}
    (h : Text.contains (Text.lower error) "governance" = true) (actionType : String) :
    (classifyFailure error actionType).refused = true := by
  unfold classifyFailure
  simp only [h, Bool.or_true, if_true]
  split
  · rfl
  · split
    · rfl
    · split <;> rfl

/-! ## Retries -/

def retryableByDefault : List FailureType :=
  [.transientProviderFailure, .rateLimited, .providerTimeout, .providerUnavailable,
    .connectionError]

/-- Bounded semantic retry policy. -/
structure RetryPolicy where
  maxAttempts : ℕ := 2
  initialDelayS : ℚ := 1 / 10
  maxDelayS : ℚ := 2
  backoffMultiplier : ℚ := 2
  retryableFailureTypes : List FailureType := retryableByDefault

namespace RetryPolicy

def delayForRetry (policy : RetryPolicy) (retryNumber : ℕ) : ℚ :=
  if retryNumber ≤ 0 then 0
  else min (policy.initialDelayS * policy.backoffMultiplier ^ (retryNumber - 1)) policy.maxDelayS

def allows (policy : RetryPolicy) (failureType : FailureType) (attempt : ℕ)
    (sideEffect : SideEffectClass) (outcome : OperationOutcome) : Bool :=
  if policy.maxAttempts ≤ attempt || failureType ∉ policy.retryableFailureTypes then false
  else if failureType.refused then false
  else if sideEffect = .nonIdempotentMutation then outcome.harmless
  else true

/-- An attempt of a non-idempotent mutation that is repeated did nothing, and was not
refused. -/
lemma allows_nonIdempotent {policy : RetryPolicy} {failureType : FailureType} {attempt : ℕ}
    {outcome : OperationOutcome}
    (h : policy.allows failureType attempt .nonIdempotentMutation outcome = true) :
    outcome.harmless = true ∧ failureType.refused = false := by
  unfold allows at h
  split at h
  · exact absurd h (by decide)
  · split at h
    · exact absurd h (by decide)
    · rename_i hrefused
      exact ⟨by simpa using h, by simpa using hrefused⟩

end RetryPolicy

end Samaktha
