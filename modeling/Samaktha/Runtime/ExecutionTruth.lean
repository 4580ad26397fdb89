import Samaktha.Runtime.CompletionClaims
import Samaktha.Workflow.Engine

/-!
# The execution truth gate

`enforceExecutionTruth` reads a provider's text beside the report of the execution and replaces
it where it claims more than the report shows.  Pydantic's reading of a report and of memory
evidence, `hashlib.sha256`, `Path.is_file`, `str` of a container and the table of word characters
are parameters, and they do not change between two uses of the gate.

Two of the replies quote the report: what waits for approval or has failed is answered with the
report's error texts, and the first with its plan id as well.  `keepsTruth_iff` says that the gate
keeps its promise exactly if no quoted text makes a claim of its own.
-/

namespace Samaktha

namespace ExecutionTruth

open Regex

/-! ## The evidence -/

/-- The report with the results of its tools. -/
structure FullReport extends ExecutionReport where
  toolResults : List Json := []
  deriving Repr, Inhabited

/-- The fields of a memory record the evidence is judged by. -/
structure MemoryEvidenceRecord where
  memoryId : String
  content : String
  createdAt : Option String
  provenance : Option String
  sourceAuthority : Option String
  deriving Repr, DecidableEq

/-- What a memory store acknowledged. -/
structure MemoryWriteEvidence where
  operation : String := "store"
  persisted : Bool
  record : MemoryEvidenceRecord
  contentDigest : String
  deriving Repr, DecidableEq

/-- What the gate is given for a report. -/
inductive ReportArgument where
  | none
  | report (r : FullReport)
  | dict (payload : List (String × Json))

/-- What the gate relies on: the word characters, pydantic's reading of the fields of a report
and of memory evidence, the digest, `str` of a list or a dictionary, and the file system. -/
structure Surroundings where
  wordChars : WordChars
  readReport : List (String × Json) → Option FullReport
  readEvidence : Option Json → Option MemoryWriteEvidence
  sha256 : String → String
  ofContainer : Json → String
  isFile : String → Except String Bool

variable (S : Surroundings)

def coerceReport : ReportArgument → Option FullReport
  | .none => .none
  | .report r => some r
  | .dict payload => S.readReport payload

/-- `_persisted_user_record`: whether the evidence passes its own check. -/
def MemoryWriteEvidence.persistedUserRecord (e : MemoryWriteEvidence) : Bool :=
  e.operation = "store" && e.persisted && e.record.memoryId ≠ "" && e.record.createdAt.isSome
    && e.record.provenance = some "user_message" && e.record.sourceAuthority = some "user_supplied"
    && e.contentDigest = S.sha256 e.record.content

/-- `MemoryWriteEvidence.model_validate`, `none` where it raises. -/
def modelValidate (value : Option Json) : Option MemoryWriteEvidence :=
  (S.readEvidence value).filter (MemoryWriteEvidence.persistedUserRecord S)

/-- `value or {}` before a `get`, which an object that is not a dictionary does not have. -/
def dictOrEmpty : Option Json → Except String (List (String × Json))
  | .none => .ok []
  | some (.obj kvs) => .ok kvs
  | some j => if j.truthy then .error "AttributeError" else .ok []

/-- `str(value or "")`. -/
def textOf : Option Json → String
  | .none => ""
  | some j => if j.truthy then j.text S.ofContainer else ""

def orElse (a b : Option Json) : Option Json :=
  match a with
  | some j => if j.truthy then some j else b
  | .none => b

/-- `isinstance(value, (int, float)) and value > 0`. -/
def positive : Json → Bool
  | .bool b => b
  | .int n => 0 < n
  | .float r => r ≠ "0.0" && r ≠ "nan" && r.toList.head? ≠ some '-'
  | _ => false

/-- `isinstance(value, (int, float))`; a truth value is an integer. -/
def isNumber : Json → Bool
  | .bool _ => true
  | .int _ => true
  | .float _ => true
  | _ => false

/-- `value == 0` of a number. -/
def isZero : Json → Bool
  | .bool b => !b
  | .int n => n = 0
  | .float r => r = "0.0" || r = "-0.0"
  | _ => false

def isTrue : Option Json → Bool
  | some (.bool true) => true
  | _ => false

/-- An empty file that was created at a path. -/
def createdAtPath (output : List (String × Json)) : Bool :=
  isTrue (Dict.get? output "created") && (Dict.get? output "path").any Json.truthy

/-- `value in {"partial", "failed"}`: a list or a dictionary has no hash. -/
def isFailedStatus : Option Json → Except String Bool
  | some (.str s) => .ok (s = "partial" || s = "failed")
  | some (.arr _) => .error "TypeError"
  | some (.obj _) => .error "TypeError"
  | _ => .ok false

/-- `output.get(key) == text`. -/
def hasText (output : List (String × Json)) (key text : String) : Bool :=
  match Dict.get? output key with
  | some (.str s) => s = text
  | _ => false

/-- The key under which a tool of records returns one. -/
def recordKey (toolId : String) : Option String :=
  Dict.get? [("reminder", "reminder"), ("notes", "note"), ("tasks", "task"),
    ("contacts", "contact"), ("calendar", "event")] toolId

/-- `_capability_evidence` after its first test. -/
def knownEvidence (toolId action : String) (output : List (String × Json)) : Option Bool :=
  if toolId = "memory" ∧ action = "store" then
    some (modelValidate S (Dict.get? output "memory_write_evidence")).isSome
  else if toolId = "notification" ∧ action = "send" then
    some (isTrue (Dict.get? output "sent"))
  else if toolId ∈ ["email", "message"] ∧ action ∈ ["compose", "draft"] then
    some (hasText output "status" "drafted")
  else if toolId ∈ ["email", "message"] ∧ action ∈ ["send", "reply", "forward"] then
    some (isTrue (Dict.get? output "externally_delivered"))
  else if toolId = "clipboard" ∧ action = "write" then
    some (isTrue (Dict.get? output "written"))
  else if toolId = "shell" ∧ action = "run" then
    some (Dict.get? output "output").isSome
  else if toolId ∈ ["resolver", "filesystem"] ∧ action = "write" then
    let written := (Dict.get? output "written_bytes").orElse fun _ => Dict.get? output "written"
    some (written.any fun n => positive n || isNumber n && isZero n && createdAtPath output)
  else if toolId ∈ ["resolver", "filesystem"] ∧ action ∈ ["move", "copy", "rename"] then
    some ((Dict.get? output "source").any Json.truthy
      && (Dict.get? output "destination").any Json.truthy)
  else if toolId ∈ ["resolver", "filesystem"] ∧ action = "delete" then
    some ((Dict.get? output "deleted").any fun
      | .str s => s ≠ ""
      | n => positive n)
  else
    match recordKey toolId with
    | some key =>
        if action ∈ ["create", "update", "snooze", "complete", "import"] then
          some ((Dict.get? output key).any fun record => record.isObj && record.truthy)
        else if action ∈ ["delete", "cancel"] then
          some ((Dict.get? output "message").any Json.truthy)
        else none
    | .none =>
        if toolId = "memory" ∧ "delete".toList.isPrefixOf action.toList then
          some (((Dict.get? output "deleted").orElse fun _ =>
            Dict.get? output "count").any positive)
        else none

def capabilityEvidence (toolId action : String) (output : List (String × Json)) :
    Except String (Option Bool) :=
  if isTrue (Dict.get? output "partial") then .ok (some false)
  else do
    if ← isFailedStatus (Dict.get? output "status") then return some false
    return knownEvidence S toolId action output

/-- The general evidence of an output: what it says was deleted, written or counted. -/
def generalEvidence (output : List (String × Json)) : Bool :=
  let counted : Bool :=
    match Dict.get? output "count" with
    | some n => if isNumber n then positive n else true
    | .none => true
  let writtenBytes : Bool :=
    match Dict.get? output "written_bytes" with
    | some n => if isNumber n then positive n || isZero n && createdAtPath output else counted
    | .none => counted
  let written : Bool :=
    match Dict.get? output "written" with
    | some (.bool b) => b
    | _ => writtenBytes
  match Dict.get? output "deleted" with
  | some n => if isNumber n then positive n else written
  | .none => written

def toolResultHasEffect (result : List (String × Json)) : Except String Bool :=
  match Dict.get? result "output" with
  | some (.obj output) => do
      let metadata ← dictOrEmpty (Dict.get? result "metadata")
      let toolId := textOf S (Dict.get? metadata "tool")
      let action := textOf S (orElse (Dict.get? metadata "action") (Dict.get? output "action"))
      match ← capabilityEvidence S toolId action output with
      | some specific => return specific
      | .none => return generalEvidence output
  | _ => .ok true

/-- The dictionaries among the results of tools that are completed. -/
def completedTools (results : List Json) : List (List (String × Json)) :=
  results.filterMap fun
    | .obj kvs => if hasText kvs "status" "completed" then some kvs else none
    | _ => none

/-- `any(...)` over a test that may raise. -/
def anyM (test : List (String × Json) → Except String Bool) :
    List (List (String × Json)) → Except String Bool
  | [] => .ok false
  | result :: results => do
      if ← test result then return true
      anyM test results

def hasRuntimeSuccess (report : FullReport) : Except String Bool :=
  if report.success then anyM (toolResultHasEffect S) (completedTools report.toolResults)
  else .ok false

/-- One round of `_has_existing_artifact_evidence`. -/
def isExistingArtifact (result : List (String × Json)) : Except String Bool :=
  match Dict.get? result "output" with
  | some (.obj output) => do
      let metadata ← dictOrEmpty (Dict.get? result "metadata")
      let action := textOf S (orElse (Dict.get? metadata "action") (Dict.get? output "action"))
      if action ∈ ["write", "copy", "move", "rename", "create"] then
        match orElse (Dict.get? output "path") (Dict.get? output "destination") with
        | some candidate =>
            if candidate.truthy then S.isFile (candidate.text S.ofContainer) else return false
        | .none => return false
      else return false
  | _ => .ok false

def hasExistingArtifactEvidence (report : FullReport) : Except String Bool :=
  if report.success then anyM (isExistingArtifact S) (completedTools report.toolResults)
  else .ok false

/-- The loop of `memory_write_from_report`. -/
def memoryWriteIn : List Json → Except String (Option MemoryWriteEvidence)
  | [] => .ok .none
  | .obj result :: results =>
      if hasText result "status" "completed" then do
        let metadata ← dictOrEmpty (Dict.get? result "metadata")
        if hasText metadata "tool" "memory" && hasText metadata "action" "store" then
          let output ← dictOrEmpty (Dict.get? result "output")
          match modelValidate S (Dict.get? output "memory_write_evidence") with
          | some evidence => return some evidence
          | .none => memoryWriteIn results
        else memoryWriteIn results
      else memoryWriteIn results
  | _ :: _ => .error "AttributeError"

def memoryWriteFromReport (report : ReportArgument) : Except String (Option MemoryWriteEvidence) :=
  match coerceReport S report with
  | some r => if r.success then memoryWriteIn S r.toolResults else .ok .none
  | .none => .ok .none

/-! ## The gate -/

/-- The errors of a report, or what stands in for them. -/
def reason (default : String) (report : FullReport) : String :=
  if report.errors = [] then default else "; ".intercalate report.errors

/-- The reason given to what waits for approval. -/
def approvalReason : FullReport → String := reason "CAP requires approval before execution."

def failureReason : FullReport → String := reason "Runtime reported a failure."

def approvalRequired (report : FullReport) : String :=
  "\n".intercalate [
    "Approval Required",
    "Reason: " ++ approvalReason report,
    "Requested action: " ++ report.planId,
    "Risk: execution changes are blocked until approval is granted.",
    "Awaiting approval."]

def failure (report : FullReport) : String :=
  "The runtime reported a failure.\nReason: " ++ failureReason report

/-- `pattern.search(text)`. -/
def occurs (pattern : Regex) (text : String) : Bool := found S.wordChars pattern text.toList

/-- Whether the text claims a memory that no evidence shows. -/
def deniesMemory (text : String) (report : ReportArgument) : Except String Bool :=
  if occurs S storedRe text then do
    let evidence ← memoryWriteFromReport S report
    return evidence.isNone && occurs S memoryClaimRe text
  else .ok false

/-- Whether the text claims an artifact that a successful report does not show. -/
def deniesArtifact (text : String) : Option FullReport → Except String Bool
  | some r =>
      if occurs S artifactClaimRe text && r.executionState = .succeeded then do
        return !(← hasExistingArtifactEvidence S r)
      else .ok false
  | .none => .ok false

/-- The answer to a text that claims completion. -/
def answerClaim (text : String) : Option FullReport → Except String String
  | .none => .ok FixedReply.noEvidence.text
  | some r =>
      match r.executionState with
      | .waitingApproval => .ok (approvalRequired r)
      | .executing => .ok FixedReply.executing.text
      | .failed => .ok (failure r)
      | .cancelled => .ok FixedReply.cancelled.text
      | .denied => .ok FixedReply.denied.text
      | .timedOut => .ok FixedReply.timedOut.text
      | .notStarted => .ok FixedReply.planned.text
      | .planned => .ok FixedReply.planned.text
      | .approved => .ok FixedReply.planned.text
      | .succeeded => do
          if ← hasRuntimeSuccess S r then return text
          return FixedReply.unreported.text

def enforceExecutionTruth (text : String) (report : ReportArgument) : Except String String :=
  if text = "" then .ok text
  else do
    let parsed := coerceReport S report
    if ← deniesMemory S text report then return FixedReply.noMemory.text
    if ← deniesArtifact S text parsed then return FixedReply.noArtifact.text
    if !occurs S completionRe text then return text
    answerClaim S text parsed

/-! ## What the replies quote -/

lemma approvalRequired_toList (report : FullReport) :
    (approvalRequired report).toList = "Approval Required\nReason: ".toList ++
      ((approvalReason report).toList ++ ("\nRequested action: ".toList ++ (report.planId.toList ++
      "\nRisk: execution changes are blocked until approval is granted.\nAwaiting approval.".toList
      ))) := by
  simp [approvalRequired]

variable {S}

/-- In the reply to what waits for approval a pattern is found exactly if it is found in a
text that is quoted. -/
lemma Framed.occurs_approvalRequired {r : Regex} (h : Framed r) (report : FullReport) :
    occurs S r (approvalRequired report) =
      (occurs S r (approvalReason report) || occurs S r report.planId) := by
  have hline : ∀ t, atWord S.wordChars ('\n' :: t) = false :=
    fun _ => S.wordChars.ascii _ (by decide)
  have hspace : ∀ t, atWord S.wordChars (' ' :: t) = false :=
    fun _ => S.wordChars.ascii _ (by decide)
  have haction : ∀ back t, foundFrom S.wordChars r back ("\nRequested action: ".toList ++ t) =
      found S.wordChars r t := by
    intro back t
    rw [foundFrom_append_left h.action, foundFrom_eq_found h.isLocal]
    simpa using hspace _
  unfold occurs
  rw [approvalRequired_toList, found, foundFrom_append_left h.approval,
    foundFrom_eq_found h.isLocal (by simpa using hspace _),
    found_append_right h.isLocal h.shutAction (by simpa using hline _), haction]
  congr 1
  have hrisk := found_append_right h.isLocal h.shutRisk (w := S.wordChars) (by simpa using hline _)
    report.planId.toList []
  rw [List.append_nil, foundFrom_eq_false_of_silent h.risk, Bool.or_false] at hrisk
  exact hrisk

lemma Framed.occurs_failure {r : Regex} (h : Framed r) (report : FullReport) :
    occurs S r (ExecutionTruth.failure report) = occurs S r (failureReason report) := by
  have hspace : ∀ t, atWord S.wordChars (' ' :: t) = false :=
    fun _ => S.wordChars.ascii _ (by decide)
  unfold occurs ExecutionTruth.failure
  rw [String.toList_append, found, foundFrom_append_left h.failure, foundFrom_eq_found h.isLocal]
  simpa using hspace _

/-- The texts of a report that its reply quotes. -/
def quoted (report : FullReport) : List String :=
  match report.executionState with
  | .waitingApproval => [approvalReason report, report.planId]
  | .failed => [failureReason report]
  | _ => []

/-- The reply that quotes the report, where there is one. -/
def quotingReply? (report : FullReport) : Option String :=
  match report.executionState with
  | .waitingApproval => some (approvalRequired report)
  | .failed => some (failure report)
  | _ => none

lemma state_of_quotingReply {report : FullReport} {reply : String}
    (hreply : quotingReply? report = some reply) :
    report.executionState = .waitingApproval ∨ report.executionState = .failed := by
  unfold quotingReply? at hreply
  split at hreply
  · rename_i hstate
    exact .inl hstate
  · rename_i hstate
    exact .inr hstate
  · simp at hreply

lemma occurs_quotingReply {r : Regex} (h : Framed r) {report : FullReport} {reply : String}
    (hreply : quotingReply? report = some reply) :
    occurs S r reply = (quoted report).any (occurs S r) := by
  unfold quotingReply? at hreply
  unfold quoted
  split at hreply
  · rename_i hstate
    rw [Option.some.injEq] at hreply
    subst hreply
    rw [h.occurs_approvalRequired]
    simp
  · rename_i hstate
    rw [Option.some.injEq] at hreply
    subst hreply
    rw [h.occurs_failure]
    simp
  · simp at hreply

lemma closes_approval :
    closes [seq textStart (word "Stored.")] "Approval Required\nReason: ".toList = true :=
  check_of_chars rfl (by decide +kernel)

lemma closes_failure : closes [seq textStart (word "Stored.")]
    "The runtime reported a failure.\nReason: ".toList = true :=
  check_of_chars rfl (by decide +kernel)

lemma occurs_memoryClaimRe {report : FullReport} {reply : String}
    (hreply : quotingReply? report = some reply) :
    occurs S memoryClaimRe reply = occurs S memoryPhraseRe reply := by
  have hstart : occurs S (seq textStart (word "Stored.")) reply = false := by
    unfold occurs
    unfold quotingReply? at hreply
    split at hreply
    · rw [Option.some.injEq] at hreply
      rw [← hreply, approvalRequired_toList]
      exact found_textStart_eq_false closes_approval _
    · rw [Option.some.injEq] at hreply
      subst hreply
      unfold failure
      rw [String.toList_append]
      exact found_textStart_eq_false closes_failure _
    · simp at hreply
  calc occurs S memoryClaimRe reply
      = (occurs S memoryPhraseRe reply || occurs S (seq textStart (word "Stored.")) reply) :=
        found_alt _ _ _ _
    _ = occurs S memoryPhraseRe reply := by rw [hstart, Bool.or_false]

lemma head_quotingReply {report : FullReport} {reply : String}
    (hreply : quotingReply? report = some reply) :
    reply.toList.head? = some 'A' ∨ reply.toList.head? = some 'T' := by
  unfold quotingReply? at hreply
  split at hreply
  · rw [Option.some.injEq] at hreply
    subst hreply
    exact .inl (by simp [approvalRequired])
  · rw [Option.some.injEq] at hreply
    subst hreply
    right
    unfold failure
    rw [String.toList_append, List.head?_append]
    simp
  · simp at hreply

/-! ## What the gate promises -/

/-- The report is of a success, and a completed tool result in it has an effect. -/
structure Evidenced (S : Surroundings) (report : FullReport) : Prop where
  succeeded : report.executionState = .succeeded
  success : report.success = true
  effect : ∃ result ∈ completedTools report.toolResults, toolResultHasEffect S result = .ok true

/-- The gate's answer claims completion only on evidence, and the gate leaves it as it is. -/
def KeepsTruth (S : Surroundings) (text : String) (report : ReportArgument) : Prop :=
  ∀ answer, enforceExecutionTruth S text report = .ok answer →
    (occurs S completionRe answer = true → ∃ r, coerceReport S report = some r ∧ Evidenced S r) ∧
      enforceExecutionTruth S answer report = .ok answer

/-- The gate answers the text with a reply that quotes the report `r`: the text claims
completion, and is not turned away as a claim of a memory, while what is reported waits for
approval or has failed. -/
structure AnsweredByQuoting (S : Surroundings) (text : String) (report : ReportArgument)
    (r : FullReport) : Prop where
  nonempty : text ≠ ""
  claims : occurs S completionRe text = true
  noMemory : deniesMemory S text report = .ok false
  parsed : coerceReport S report = some r
  quotes : r.executionState = .waitingApproval ∨ r.executionState = .failed

/-- A text that can be quoted beside the report: it claims no completion, and it speaks of a
memory only where the memory evidence can be read, and claims one only where there is some. -/
structure Quotable (S : Surroundings) (report : ReportArgument) (part : String) : Prop where
  noCompletion : occurs S completionRe part = false
  stored : occurs S storedRe part = true →
    ∃ evidence, memoryWriteFromReport S report = .ok evidence
  memory : occurs S memoryPhraseRe part = true →
    ∃ evidence, memoryWriteFromReport S report = .ok (some evidence)

lemma exists_effect_of_anyM {test : List (String × Json) → Except String Bool}
    {results : List (List (String × Json))} (h : anyM test results = .ok true) :
    ∃ result ∈ results, test result = .ok true := by
  induction results with
  | nil => simp [anyM] at h
  | cons result results ih =>
      obtain ⟨b, htest, hrest⟩ := bind_eq_ok h
      cases b with
      | true => exact ⟨result, List.mem_cons_self, htest⟩
      | false =>
          obtain ⟨other, hother, hresult⟩ := ih hrest
          exact ⟨other, List.mem_cons_of_mem _ hother, hresult⟩

lemma answerClaim_cases {text answer : String} {parsed : Option FullReport}
    (h : answerClaim S text parsed = .ok answer) :
    (∃ reply : FixedReply, answer = reply.text) ∨
      (∃ r, parsed = some r ∧ quotingReply? r = some answer) ∨
      answer = text ∧ ∃ r, parsed = some r ∧ Evidenced S r := by
  unfold answerClaim at h
  split at h
  · exact .inl ⟨.noEvidence, (Except.ok.inj h).symm⟩
  · rename_i r
    have hquoting : ∀ {reply}, Except.ok reply = Except.ok (ε := String) answer →
        quotingReply? r = some reply → quotingReply? r = some answer := by
      intro reply hreply hquote
      rw [hquote, Except.ok.inj hreply]
    split at h
    · rename_i hstate
      exact .inr (.inl ⟨r, rfl, hquoting h (by rw [quotingReply?, hstate])⟩)
    · exact .inl ⟨.executing, (Except.ok.inj h).symm⟩
    · rename_i hstate
      exact .inr (.inl ⟨r, rfl, hquoting h (by rw [quotingReply?, hstate])⟩)
    · exact .inl ⟨.cancelled, (Except.ok.inj h).symm⟩
    · exact .inl ⟨.denied, (Except.ok.inj h).symm⟩
    · exact .inl ⟨.timedOut, (Except.ok.inj h).symm⟩
    · exact .inl ⟨.planned, (Except.ok.inj h).symm⟩
    · exact .inl ⟨.planned, (Except.ok.inj h).symm⟩
    · exact .inl ⟨.planned, (Except.ok.inj h).symm⟩
    · rename_i hstate
      obtain ⟨b, heffect, h⟩ := bind_eq_ok h
      cases b with
      | false => exact .inl ⟨.unreported, (Except.ok.inj h).symm⟩
      | true =>
          refine .inr (.inr ⟨(Except.ok.inj h).symm, r, rfl, ?_⟩)
          unfold hasRuntimeSuccess at heffect
          split at heffect
          · rename_i hsuccess
            exact ⟨hstate, hsuccess, exists_effect_of_anyM heffect⟩
          · simp at heffect

lemma enforce_cases {text answer : String} {report : ReportArgument}
    (h : enforceExecutionTruth S text report = .ok answer) :
    (∃ reply : FixedReply, answer = reply.text) ∨
      (∃ r, AnsweredByQuoting S text report r ∧ quotingReply? r = some answer) ∨
      answer = text ∧ (occurs S completionRe text = true →
        ∃ r, coerceReport S report = some r ∧ Evidenced S r) := by
  unfold enforceExecutionTruth at h
  split at h
  · rename_i hempty
    refine .inr (.inr ⟨(Except.ok.inj h).symm, ?_⟩)
    have hnone : occurs S completionRe text = false := by
      have hsilent : silent completionRe [] = true := by decide +kernel
      rw [hempty, occurs, String.toList_empty]
      exact foundFrom_eq_false_of_silent hsilent _ _
    simp [hnone]
  · rename_i hne
    obtain ⟨memory, hmemory, h⟩ := bind_eq_ok h
    split at h
    · exact .inl ⟨.noMemory, (Except.ok.inj h).symm⟩
    · rename_i hfalse
      rw [Bool.not_eq_true] at hfalse
      obtain ⟨artifact, -, h⟩ := bind_eq_ok h
      split at h
      · exact .inl ⟨.noArtifact, (Except.ok.inj h).symm⟩
      · cases hclaims : occurs S completionRe text with
        | false =>
            rw [hclaims] at h
            exact .inr (.inr ⟨(Except.ok.inj h).symm, by simp⟩)
        | true =>
            rw [hclaims] at h
            rcases answerClaim_cases h with hfixed | ⟨r, hparsed, hreply⟩ | hsame
            · exact .inl hfixed
            · refine .inr (.inl ⟨r, ⟨hne, hclaims, hfalse ▸ hmemory, hparsed, ?_⟩, hreply⟩)
              exact state_of_quotingReply hreply
            · exact .inr (.inr ⟨hsame.1, fun _ => hsame.2⟩)

lemma enforce_of_undenied {text : String} {report : ReportArgument} (hne : text ≠ "")
    (hmemory : deniesMemory S text report = .ok false)
    (hartifact : deniesArtifact S text (coerceReport S report) = .ok false) :
    enforceExecutionTruth S text report =
      if occurs S completionRe text then answerClaim S text (coerceReport S report)
      else .ok text := by
  unfold enforceExecutionTruth
  rw [if_neg hne, hmemory]
  show (deniesArtifact S text (coerceReport S report) >>= fun artifact => _) = _
  rw [hartifact]
  cases occurs S completionRe text <;> rfl

lemma enforce_of_silent {text : String} (hstored : occurs S storedRe text = false)
    (hartifact : occurs S artifactClaimRe text = false)
    (hclaims : occurs S completionRe text = false) (report : ReportArgument) :
    enforceExecutionTruth S text report = .ok text := by
  by_cases hne : text = ""
  · rw [enforceExecutionTruth, if_pos hne]
  · have hmemory : deniesMemory S text report = .ok false := by
      rw [deniesMemory, hstored]
      rfl
    have hdenies : deniesArtifact S text (coerceReport S report) = .ok false := by
      unfold deniesArtifact
      split
      · simp [hartifact]
      · rfl
    rw [enforce_of_undenied hne hmemory hdenies, hclaims]
    rfl

lemma enforce_fixedReply (reply : FixedReply) (report : ReportArgument) :
    occurs S completionRe reply.text = false ∧
      enforceExecutionTruth S reply.text report = .ok reply.text := by
  obtain ⟨hstored, hartifact, hclaims⟩ := silent_fixedReply reply
  have hnone : occurs S completionRe reply.text = false :=
    foundFrom_eq_false_of_silent hclaims _ _
  exact ⟨hnone, enforce_of_silent (foundFrom_eq_false_of_silent hstored _ _)
    (foundFrom_eq_false_of_silent hartifact _ _) hnone report⟩

section Quoting

variable {report : ReportArgument} {r : FullReport} {reply : String}
  (hparsed : coerceReport S report = some r) (hreply : quotingReply? r = some reply)
include hparsed hreply

lemma deniesArtifact_of_quoting (text : String) :
    deniesArtifact S text (coerceReport S report) = .ok false := by
  rw [hparsed, deniesArtifact]
  rcases state_of_quotingReply hreply with hstate | hstate <;> simp [hstate]

lemma answerClaim_of_quoting (text : String) :
    answerClaim S text (coerceReport S report) = .ok reply := by
  rw [hparsed]
  unfold quotingReply? at hreply
  unfold answerClaim
  split at hreply
  · rename_i hstate
    rw [Option.some.injEq] at hreply
    simp only [hstate, hreply]
  · rename_i hstate
    rw [Option.some.injEq] at hreply
    simp only [hstate, hreply]
  · simp at hreply

/-- The gate leaves a quoting reply as it is exactly if it does not take it for a claim of a
memory. -/
lemma enforce_quotingReply_iff :
    enforceExecutionTruth S reply report = .ok reply ↔
      deniesMemory S reply report = .ok false := by
  have hhead := head_quotingReply hreply
  have hne : reply ≠ "" := by
    rintro rfl
    simp at hhead
  have hmemory : reply ≠ FixedReply.noMemory.text := by
    rintro rfl
    simp [FixedReply.text] at hhead
  constructor
  · intro h
    unfold enforceExecutionTruth at h
    rw [if_neg hne] at h
    obtain ⟨memory, hdenies, h⟩ := bind_eq_ok h
    cases memory with
    | false => exact hdenies
    | true => exact absurd (Except.ok.inj h).symm hmemory
  · intro hdenies
    rw [enforce_of_undenied hne hdenies (deniesArtifact_of_quoting hparsed hreply reply),
      answerClaim_of_quoting hparsed hreply, ite_self]

end Quoting

/-- The gate takes a quoting reply for no claim of a memory exactly if a quoted text that
speaks of a memory does so beside memory evidence that can be read. -/
lemma deniesMemory_quotingReply_iff {report : ReportArgument} {r : FullReport} {reply : String}
    (hreply : quotingReply? r = some reply) :
    deniesMemory S reply report = .ok false ↔
      ((∃ part ∈ quoted r, occurs S storedRe part = true) →
        ∃ evidence, memoryWriteFromReport S report = .ok evidence ∧
          ((∃ part ∈ quoted r, occurs S memoryPhraseRe part = true) → evidence ≠ none)) := by
  have hstored : occurs S storedRe reply = true ↔ ∃ part ∈ quoted r, occurs S storedRe part =
    true := by
    rw [occurs_quotingReply framed_storedRe hreply, List.any_eq_true]
  have hmemory : occurs S memoryClaimRe reply = true ↔
      ∃ part ∈ quoted r, occurs S memoryPhraseRe part = true := by
    rw [occurs_memoryClaimRe hreply, occurs_quotingReply framed_memoryPhraseRe hreply,
      List.any_eq_true]
  rw [← hstored, ← hmemory]
  unfold deniesMemory
  cases occurs S storedRe reply with
  | false => simp
  | true =>
      cases memoryWriteFromReport S report with
      | error e => simp [bind, Except.bind]
      | ok evidence =>
          cases evidence <;> cases occurs S memoryClaimRe reply <;>
            simp [bind, Except.bind, pure, Except.pure]

lemma AnsweredByQuoting.enforce {text : String} {report : ReportArgument} {r : FullReport}
    (h : AnsweredByQuoting S text report r) :
    ∃ reply, quotingReply? r = some reply ∧
      enforceExecutionTruth S text report = .ok reply := by
  have hreply : ∃ reply, quotingReply? r = some reply := by
    rcases h.quotes with hstate | hstate
    · exact ⟨approvalRequired r, by rw [quotingReply?, hstate]⟩
    · exact ⟨failure r, by rw [quotingReply?, hstate]⟩
  obtain ⟨reply, hreply⟩ := hreply
  refine ⟨reply, hreply, ?_⟩
  rw [enforce_of_undenied h.nonempty h.noMemory (deniesArtifact_of_quoting h.parsed hreply text),
    if_pos h.claims, answerClaim_of_quoting h.parsed hreply]

/-- A quoting reply keeps the promise exactly if each text it quotes can be quoted. -/
lemma quotingReply_kept_iff {report : ReportArgument} {r : FullReport} {reply : String}
    (hparsed : coerceReport S report = some r) (hreply : quotingReply? r = some reply) :
    (occurs S completionRe reply = false ∧ enforceExecutionTruth S reply report = .ok reply) ↔
      ∀ part ∈ quoted r, Quotable S report part := by
  rw [occurs_quotingReply framed_completionRe hreply, List.any_eq_false,
    enforce_quotingReply_iff hparsed hreply, deniesMemory_quotingReply_iff hreply]
  constructor
  · rintro ⟨hclaims, hmemory⟩ part hpart
    refine ⟨by simpa using hclaims part hpart, ?_, ?_⟩
    · intro hstored
      obtain ⟨evidence, hread, -⟩ := hmemory ⟨part, hpart, hstored⟩
      exact ⟨evidence, hread⟩
    · intro hphrase
      have hstored : occurs S storedRe part = true := found_storedRe_of_memoryPhrase hphrase
      obtain ⟨evidence, hread, hsome⟩ := hmemory ⟨part, hpart, hstored⟩
      obtain ⟨evidence, rfl⟩ := Option.ne_none_iff_exists'.mp (hsome ⟨part, hpart, hphrase⟩)
      exact ⟨evidence, hread⟩
  · intro hquotable
    refine ⟨fun part hpart => by simp [(hquotable part hpart).noCompletion], ?_⟩
    rintro ⟨part, hpart, hstored⟩
    obtain ⟨evidence, hread⟩ := (hquotable part hpart).stored hstored
    refine ⟨evidence, hread, ?_⟩
    rintro ⟨other, hother, hphrase⟩
    obtain ⟨found, hfound⟩ := (hquotable other hother).memory hphrase
    rw [hread, Except.ok.injEq] at hfound
    simp [hfound]

/-- The gate keeps its promise for a text and a report exactly if, where it answers by quoting,
each text that it quotes can be quoted. -/
theorem keepsTruth_iff (S : Surroundings) (text : String) (report : ReportArgument) :
    KeepsTruth S text report ↔
      ∀ r, AnsweredByQuoting S text report r → ∀ part ∈ quoted r, Quotable S report part := by
  constructor
  · intro hkeeps r hquoting
    obtain ⟨reply, hreply, henforce⟩ := hquoting.enforce
    obtain ⟨hsound, hsame⟩ := hkeeps reply henforce
    refine (quotingReply_kept_iff hquoting.parsed hreply).mp ⟨?_, hsame⟩
    -- a claim in the reply would need a success, which the report is not
    rw [← Bool.not_eq_true]
    intro hclaims
    obtain ⟨r', hparsed, hevidenced⟩ := hsound hclaims
    rw [hquoting.parsed, Option.some.injEq] at hparsed
    subst hparsed
    have hstate := hquoting.quotes
    rw [hevidenced.succeeded] at hstate
    simp at hstate
  · intro hquotable answer henforce
    rcases enforce_cases henforce with ⟨reply, rfl⟩ | ⟨r, hquoting, hreply⟩ | ⟨rfl, hsound⟩
    · obtain ⟨hnone, hsame⟩ := enforce_fixedReply (S := S) reply report
      exact ⟨by simp [hnone], hsame⟩
    · obtain ⟨hnone, hsame⟩ :=
        (quotingReply_kept_iff hquoting.parsed hreply).mpr (hquotable r hquoting)
      exact ⟨by simp [hnone], hsame⟩
    · exact ⟨hsound, henforce⟩

/-- Surroundings with the least table of word characters, in which nothing can be read. -/
def bareSurroundings : Surroundings where
  wordChars := .least
  readReport := fun _ => none
  readEvidence := fun _ => none
  sha256 := id
  ofContainer := fun _ => ""
  isFile := fun _ => .ok false

/-- The report of a failure with one error. -/
def failedWith (error : String) : ReportArgument :=
  .report { planId := "plan-1", success := false, executionState := .failed, errors := [error] }

/-- An error that says that something was deleted makes the reply a claim of completion, and an
error that speaks of remembering makes the gate answer its own reply with another. -/
theorem quoted_claims :
    ¬ KeepsTruth bareSurroundings "I created the file."
        (failedWith "disk full after the backup was deleted") ∧
      ∃ reply, enforceExecutionTruth bareSurroundings "I created the file."
          (failedWith "the model said: I'll remember it") = .ok reply ∧
        enforceExecutionTruth bareSurroundings reply
          (failedWith "the model said: I'll remember it") = .ok FixedReply.noMemory.text ∧
        reply ≠ FixedReply.noMemory.text := by
  constructor
  · intro hkeeps
    have henforce : enforceExecutionTruth bareSurroundings "I created the file."
        (failedWith "disk full after the backup was deleted") =
          .ok "The runtime reported a failure.\nReason: disk full after the backup was deleted" :=
      by decide +kernel
    have hclaims : occurs bareSurroundings completionRe
        "The runtime reported a failure.\nReason: disk full after the backup was deleted" =
          true := by
      decide +kernel
    obtain ⟨r, hparsed, hevidenced⟩ := (hkeeps _ henforce).1 hclaims
    simp only [coerceReport, failedWith, Option.some.injEq] at hparsed
    subst hparsed
    simpa using hevidenced.succeeded
  · refine ⟨"The runtime reported a failure.\nReason: the model said: I'll remember it",
      by decide +kernel, by decide +kernel, by decide +kernel⟩

end ExecutionTruth

end Samaktha
