import Samaktha.Contracts.Planning
import Samaktha.Providers.Manager

/-!
# Streamed answers

`ProviderExecutor.execute` on its two paths.  Streaming, it joins the tokens of every chunk of
`stream_provider` and reports the routed provider and model; otherwise it reports what
`execute_provider` says answered.

What governance refuses, and the payload that the task's inputs give, come from outside.  The
records, the events and the metrics of an execution are left out.
-/

namespace Samaktha

open ProviderManager

/-! ## The executor -/

/-- A refusal by governance, before anything is run. -/
structure GovernanceRefusal where
  message : String
  metadata : Dict String Json := []
  deriving Inhabited

/-- An execution of a provider task: what is known before it begins. -/
structure ProviderExecution where
  requestId : String
  task : RuntimeTask
  routing : RoutingDecision
  /-- `metadata["runtime_retry_attempt"]`. -/
  retryAttempt : ℤ := 1
  refusal : Option GovernanceRefusal := none
  /-- What the inputs give, or the text of what reading them raises. -/
  payload : Except String ProviderPayload

namespace ProviderExecution

def failed (execution : ProviderExecution) (error : String) : RuntimeResult where
  taskId := execution.task.taskId
  status := .failed
  routing := some execution.routing
  error := some error

/-- The result of a refusal. -/
def refused (execution : ProviderExecution) (refusal : GovernanceRefusal) : RuntimeResult :=
  { execution.failed (if refusal.message = "" then
      "Provider execution blocked by governance policy" else refusal.message) with
    metadata := refusal.metadata }

/-- The manager that a retry is prepared on. -/
def prepared (execution : ProviderExecution) (manager : ProviderManager) : ProviderManager :=
  if execution.retryAttempt > 1 then
    { manager with health := manager.health.clearCooldown execution.routing.providerId }
  else manager

def streamRequest (execution : ProviderExecution) (payload : ProviderPayload)
    (permit : ExecutionPermit) : StreamRequest where
  requestId := execution.requestId
  providerId := execution.routing.providerId
  prompt := payload.prompt
  messages := payload.messages
  capabilities := [execution.task.actionType]
  executionConstraints := permit.constraints
  modelId := some execution.routing.modelId

/-- The content of the chunks up to one that says the stream failed, or what that one says. -/
def joinChunks : List StreamChunk → Except String String
  | [] => .ok ""
  | chunk :: chunks =>
      match chunk.eventType with
      | .failed => .error (if chunk.content = "" then "Provider stream failed" else chunk.content)
      | .token => (joinChunks chunks).map (chunk.content ++ ·)
      | .started | .completed => joinChunks chunks

def streamResult (execution : ProviderExecution) (run : StreamRun) : RuntimeResult :=
  match joinChunks run.chunks, run.raised with
  | .error error, _ => execution.failed error
  | .ok _, some error => execution.failed error
  | .ok content, none => {
      taskId := execution.task.taskId
      status := .completed
      routing := some execution.routing
      output := [
        ("success", .bool true),
        ("content", .str content),
        ("provider_id", .str execution.routing.providerId),
        ("model_id", .str execution.routing.modelId),
        ("metadata", .obj [("streaming", .bool true)])]
      metadata := [
        ("provider_finish_reason", .null),
        ("provider_id", .str execution.routing.providerId),
        ("model_id", .str execution.routing.modelId)] }

/-- The output of a response: the dictionary of a provider of the older kind, or the response. -/
def responseOutput (response : ProviderResponse) : Dict String Json :=
  match response.legacyResponse with
  | some raw => [("response", .ofText? raw.response)]
  | none => [
      ("success", .bool response.success),
      ("message", .ofText? response.message),
      ("content", .str response.content),
      ("provider_id", .str response.providerId),
      ("model_id", .str response.modelId),
      ("finish_reason", .ofText? response.finishReason)]

/-- The result of an execution without a stream. -/
def executeResult (execution : ProviderExecution) (run : ExecuteRun) : RuntimeResult :=
  match run.result with
  | .error error => execution.failed error.message
  | .ok response => {
      taskId := execution.task.taskId
      status := if response.success then .completed else .failed
      routing := some execution.routing
      output := if response.success then responseOutput response else []
      error := if response.success then none else response.message
      metadata := [
        ("provider_finish_reason", .ofText? response.finishReason),
        ("provider_id", .str response.providerId),
        ("model_id", .str response.modelId)] }

/-- `ProviderExecutor.execute` with `streaming` set. -/
def executeStreaming (execution : ProviderExecution) (manager : ProviderManager)
    (world : ProviderWorld) : RuntimeResult × List StreamCall :=
  match execution.refusal with
  | some refusal => (execution.refused refusal, [])
  | none =>
      match execution.payload, execution.task.permit with
      | .error error, _ => (execution.failed error, [])
      | .ok _, none => (execution.failed "Provider streaming requires an ExecutionPermit.", [])
      | .ok payload, some permit =>
          let run := (execution.prepared manager).streamProvider world
            (execution.streamRequest payload permit)
          (execution.streamResult run, run.calls)

/-- `ProviderExecutor.execute` without `streaming`. -/
def executeDirect (execution : ProviderExecution) (manager : ProviderManager)
    (world : ProviderWorld) : RuntimeResult :=
  match execution.refusal with
  | some refusal => execution.refused refusal
  | none =>
      match execution.payload with
      | .error error => execution.failed error
      | .ok payload =>
          execution.executeResult ((execution.prepared manager).executeProvider world
            execution.routing.providerId payload (some execution.routing.modelId)
            [execution.task.actionType] (execution.task.permit.map ExecutionPermit.constraints))

end ProviderExecution

/-! ## Chunks -/

open ProviderExecution

/-- The text of some tokens. -/
def joinTokens (tokens : List String) : String := tokens.foldr (· ++ ·) ""

lemma joinTokens_append (xs ys : List String) :
    joinTokens (xs ++ ys) = joinTokens xs ++ joinTokens ys := by
  induction xs with
  | nil => exact (String.empty_append).symm
  | cons x xs ih => exact (congrArg (x ++ ·) ih).trans String.append_assoc.symm

lemma joinChunks_tokenChunks (streamId providerId : String) (n : ℕ) (tokens : List String)
    (rest : List StreamChunk) :
    joinChunks (tokenChunks streamId providerId n tokens ++ rest) =
      (joinChunks rest).map (joinTokens tokens ++ ·) := by
  induction tokens generalizing n with
  | nil =>
      show joinChunks rest = (joinChunks rest).map ("" ++ ·)
      cases joinChunks rest with
      | error error => rfl
      | ok content => exact congrArg Except.ok String.empty_append.symm
  | cons token tokens ih =>
      show (joinChunks (tokenChunks streamId providerId (n + 1) tokens ++ rest)).map _ = _
      rw [ih]
      cases joinChunks rest with
      | error error => rfl
      | ok content => exact congrArg Except.ok String.append_assoc.symm

lemma joinChunks_streamLoop {world : ProviderWorld} {request : StreamRequest} {n : ℕ}
    {manager : ProviderManager} {attempted : List String} {sequenceNumber : ℕ}
    {lastError : Option (String × String)} {candidates : List ProviderInfo} :
    joinChunks (streamLoop world request n manager attempted sequenceNumber lastError
        candidates).chunks =
      .ok (joinTokens ((streamLoop world request n manager attempted sequenceNumber lastError
        candidates).calls.flatMap StreamCall.tokens)) := by
  induction candidates generalizing n manager attempted sequenceNumber lastError with
  | nil => rfl
  | cons candidate candidates ih =>
      rw [streamLoop]
      dsimp only
      split
      · exact ih
      · split
        · exact ih
        · split
          · rename_i tokens _
            rw [joinChunks_tokenChunks, List.flatMap_singleton]
            exact congrArg Except.ok String.append_empty
          · rename_i tokens error _
            split
            · rw [joinChunks_tokenChunks, ih, List.flatMap_cons, joinTokens_append]
              rfl
            · rw [← List.append_nil (tokenChunks _ _ _ _), joinChunks_tokenChunks,
                List.flatMap_singleton]
              exact congrArg Except.ok String.append_empty

/-! ## The routed provider -/

lemma candidateInfos_eq {manager : ProviderManager} {providerId : String} {required : List String}
    {selected : ProviderInfo} (h : manager.getInfo providerId = some selected)
    (hrequired : required ≠ []) (constraints : Option ExecutionConstraints) :
    ∃ others, (∀ c ∈ others, c.providerId ≠ providerId) ∧
      manager.candidateInfos providerId required constraints =
        if eligible required constraints selected then selected :: others else others := by
  let others := (if manager.settings.fallbackEnabled then
      manager.listProviders.filter fun provider => provider.providerId ≠ providerId
    else []).filter (eligible required constraints)
  refine ⟨others, fun c hc => ?_, ?_⟩
  · have hmem := List.mem_of_mem_filter hc
    split at hmem
    · exact of_decide_eq_true (List.mem_filter.mp hmem).2
    · exact absurd hmem List.not_mem_nil
  · have hempty : required.isEmpty = false := by
      cases required with
      | nil => exact absurd rfl hrequired
      | cons _ _ => rfl
    unfold candidateInfos
    rw [h]
    dsimp only
    rw [hempty, if_neg Bool.false_ne_true]
    exact List.filter_cons

/-- The routed provider answers: it is registered under its id, meets the constraints and declares
what is required, is available, is asked for the routed model, and its stream ends without
raising. -/
def RoutedAnswers (manager : ProviderManager) (world : ProviderWorld) (request : StreamRequest)
    (modelId : String) : Prop :=
  ∃ selected, manager.getInfo request.providerId = some selected ∧
    selected.providerId = request.providerId ∧
    eligible request.capabilities (some request.executionConstraints) selected = true ∧
    (manager.getProviderStatus request.providerId (world.clock 0)).1.available = true ∧
    candidateModel selected request.modelId request.providerId = modelId ∧
    (world.executeStream 0 request.providerId (streamPayload request modelId)).2 = none

lemma RoutedAnswers.streamProvider {manager : ProviderManager} {world : ProviderWorld}
    {request : StreamRequest} {modelId : String} (h : RoutedAnswers manager world request modelId)
    (hcapabilities : request.capabilities ≠ []) :
    ∃ tokens, (manager.streamProvider world request).raised = none ∧
      (manager.streamProvider world request).calls =
        [⟨request.providerId, modelId, tokens, none⟩] := by
  obtain ⟨selected, hinfo, hid, heligible, havailable, rfl, hended⟩ := h
  obtain ⟨others, -, hcandidates⟩ := candidateInfos_eq hinfo hcapabilities
    (some request.executionConstraints)
  obtain ⟨tokens, hstream⟩ : ∃ tokens, world.executeStream 0 request.providerId
      (streamPayload request (candidateModel selected request.modelId request.providerId)) =
        (tokens, none) := ⟨_, Prod.ext rfl hended⟩
  have hgo : (!(manager.getProviderStatus request.providerId (world.clock 0)).1.available ||
      ((manager.getProviderStatus request.providerId (world.clock 0)).2.getInfo
        request.providerId).isNone) = false := by
    rw [getInfo_getProviderStatus, hinfo, havailable]
    rfl
  refine ⟨tokens, ?_⟩
  unfold ProviderManager.streamProvider
  rw [hinfo]
  dsimp only
  rw [hcandidates, if_pos heligible, streamLoop]
  dsimp only
  rw [if_neg (by simp), hid, hgo, if_neg Bool.false_ne_true, hstream]
  exact ⟨rfl, rfl⟩

/-- Where a call of the routed provider for a model ended without raising, the routed provider
answers. -/
lemma routedAnswers_of_call {manager : ProviderManager} {world : ProviderWorld}
    {request : StreamRequest} {call : StreamCall} (hcapabilities : request.capabilities ≠ [])
    (hmem : call ∈ (manager.streamProvider world request).calls)
    (hid : call.providerId = request.providerId) (herror : call.error = none) :
    RoutedAnswers manager world request call.modelId := by
  unfold ProviderManager.streamProvider at hmem
  cases hinfo : manager.getInfo request.providerId with
  | none =>
      rw [hinfo] at hmem
      exact absurd hmem List.not_mem_nil
  | some selected =>
      obtain ⟨others, hothers, hcandidates⟩ := candidateInfos_eq hinfo hcapabilities
        (some request.executionConstraints)
      rw [hinfo] at hmem
      dsimp only at hmem
      rw [hcandidates] at hmem
      have hnot : ∀ {n manager attempted sequenceNumber lastError},
          call ∉ (streamLoop world request n manager attempted sequenceNumber lastError
            others).calls := by
        intro n manager attempted sequenceNumber lastError hcall
        obtain ⟨c, hc, hcid⟩ := mem_of_streamLoop hcall
        exact hothers c hc (hcid.trans hid)
      split at hmem
      · rename_i heligible
        rw [streamLoop] at hmem
        dsimp only at hmem
        rw [if_neg (by simp)] at hmem
        split at hmem
        · exact absurd hmem hnot
        · rename_i hgo
          obtain ⟨havailable, -⟩ := by simpa using hgo
          split at hmem
          · rename_i tokens hstream
            obtain rfl := List.mem_singleton.mp hmem
            have hselected : selected.providerId = request.providerId := hid
            rw [hselected] at havailable hstream
            exact ⟨selected, hinfo, hselected, heligible, havailable, rfl,
              congrArg Prod.snd hstream⟩
          · split at hmem
            · rcases List.mem_cons.mp hmem with rfl | hrest
              · cases herror
              · exact absurd hrest hnot
            · obtain rfl := List.mem_singleton.mp hmem
              cases herror
      · exact absurd hmem hnot

/-! ## Results -/

lemma joinChunks_streamProvider (manager : ProviderManager) (world : ProviderWorld)
    (request : StreamRequest) :
    joinChunks (manager.streamProvider world request).chunks =
      .ok (joinTokens
        ((manager.streamProvider world request).calls.flatMap StreamCall.tokens)) := by
  unfold ProviderManager.streamProvider
  split
  · rfl
  · exact joinChunks_streamLoop

lemma streamResult_of_raised_none (execution : ProviderExecution) {manager : ProviderManager}
    {world : ProviderWorld} {request : StreamRequest}
    (h : (manager.streamProvider world request).raised = none) :
    execution.streamResult (manager.streamProvider world request) = {
      taskId := execution.task.taskId
      status := .completed
      routing := some execution.routing
      output := [
        ("success", .bool true),
        ("content", .str (joinTokens
          ((manager.streamProvider world request).calls.flatMap StreamCall.tokens))),
        ("provider_id", .str execution.routing.providerId),
        ("model_id", .str execution.routing.modelId),
        ("metadata", .obj [("streaming", .bool true)])]
      metadata := [
        ("provider_finish_reason", .null),
        ("provider_id", .str execution.routing.providerId),
        ("model_id", .str execution.routing.modelId)] } := by
  unfold streamResult
  rw [joinChunks_streamProvider, h]

lemma raised_none_of_completed {execution : ProviderExecution} {manager : ProviderManager}
    {world : ProviderWorld} {request : StreamRequest}
    (h : (execution.streamResult (manager.streamProvider world request)).status = .completed) :
    (manager.streamProvider world request).raised = none := by
  unfold streamResult at h
  rw [joinChunks_streamProvider] at h
  cases hraised : (manager.streamProvider world request).raised with
  | none => rfl
  | some error =>
      rw [hraised] at h
      cases h

/-- Whether a response says that the provider answered. -/
def RawResponse.succeeded (raw : RawResponse) : Bool :=
  (raw.response.isSome && raw.content.isNone) || raw.success.getD true

/-- A provider does the same on both paths: where its stream ends, its response is a success under
its own id, and where its stream raises, its response is none. -/
def SameOutcomes (world : ProviderWorld) : Prop :=
  ∀ n providerId streamed direct, streamed.modelId = direct.modelId →
    if (world.executeStream n providerId streamed).2 = none then
      ∃ raw, world.execute n providerId direct = .ok raw ∧ raw.succeeded = true ∧
        orText raw.providerId providerId = providerId
    else ∀ raw, world.execute n providerId direct = .ok raw → raw.succeeded = false

lemma normalizeResponse_of_succeeded (manager : ProviderManager) {raw : RawResponse}
    {providerId : String} (h : raw.succeeded = true)
    (hid : orText raw.providerId providerId = providerId) (modelId : String) :
    (manager.normalizeResponse raw providerId modelId).success = true ∧
      (manager.normalizeResponse raw providerId modelId).providerId = providerId := by
  unfold normalizeResponse
  split
  · refine ⟨rfl, ?_⟩
    show (if providerId = "" then providerId else providerId) = providerId
    exact ite_self _
  · rename_i hlegacy
    refine ⟨?_, hid⟩
    unfold RawResponse.succeeded at h
    cases hresponse : raw.response with
    | none =>
        rw [hresponse] at h
        exact h
    | some response =>
        cases hcontent : raw.content with
        | none => exact absurd hcontent (hlegacy response hresponse)
        | some content =>
            rw [hresponse, hcontent] at h
            exact h

lemma providerId_of_validateContext {manager : ProviderManager} {provider : ProviderInfo}
    {payload : ProviderPayload} {modelId : String} {response : ProviderResponse}
    (h : manager.validateContext provider payload modelId = some response) :
    response.providerId = provider.providerId := by
  unfold validateContext at h
  simp only [Option.ite_none_left_eq_some, Option.some.injEq] at h
  obtain ⟨-, -, rfl⟩ := h
  rfl

lemma RoutedAnswers.executeProvider {manager : ProviderManager} {world : ProviderWorld}
    {request : StreamRequest} {modelId : String} (h : RoutedAnswers manager world request modelId)
    (hcapabilities : request.capabilities ≠ []) (hsame : SameOutcomes world)
    (payload : ProviderPayload) :
    ∃ response, (manager.executeProvider world request.providerId payload request.modelId
        request.capabilities (some request.executionConstraints)).result = .ok response ∧
      response.providerId = request.providerId := by
  obtain ⟨selected, hinfo, hid, heligible, havailable, rfl, hended⟩ := h
  obtain ⟨others, -, hcandidates⟩ := candidateInfos_eq hinfo hcapabilities
    (some request.executionConstraints)
  unfold ProviderManager.executeProvider
  rw [hinfo]
  dsimp only
  rw [hcandidates, if_pos heligible, executeLoop]
  dsimp only
  rw [if_neg (by simp), hid, havailable, if_neg (by simp)]
  split
  · rename_i contextError hcontext
    exact ⟨contextError, rfl, (providerId_of_validateContext hcontext).trans hid⟩
  · have hgot : ((manager.getProviderStatus request.providerId (world.clock 0)).2.getInfo
        request.providerId).isNone = false := by
      rw [getInfo_getProviderStatus, hinfo]
      rfl
    rw [hgot, if_neg Bool.false_ne_true]
    have hboth := hsame 0 request.providerId
      (streamPayload request (candidateModel selected request.modelId request.providerId))
      { payload with modelId := candidateModel selected request.modelId request.providerId } rfl
    rw [if_pos hended] at hboth
    obtain ⟨raw, hraw, hsucceeded, hown⟩ := hboth
    rw [hraw]
    dsimp only
    obtain ⟨hsuccess, hreported⟩ := normalizeResponse_of_succeeded
      (manager.getProviderStatus request.providerId (world.clock 0)).2 hsucceeded hown
      (candidateModel selected request.modelId request.providerId)
    rw [hsuccess, Bool.true_or, if_pos rfl]
    exact ⟨_, rfl, hreported⟩

/-- The routed provider answers an execution, whose payload and permit there are. -/
def ProviderExecution.RoutedAnswers (execution : ProviderExecution) (manager : ProviderManager)
    (world : ProviderWorld) : Prop :=
  ∃ payload permit, execution.payload = .ok payload ∧ execution.task.permit = some permit ∧
    Samaktha.RoutedAnswers (execution.prepared manager) world
      (execution.streamRequest payload permit) execution.routing.modelId

/-- A streaming execution that ends completed gives the tokens of one call that ended without
raising, under the provider and the model of that call, and the provider that the execution
without a stream reports, exactly where the routed provider answers. -/
theorem streamed_answer_iff (execution : ProviderExecution) (manager : ProviderManager)
    (world : ProviderWorld) (hsame : SameOutcomes world)
    (hcompleted : (execution.executeStreaming manager world).1.status = .completed) :
    ((∃ call ∈ (execution.executeStreaming manager world).2, call.error = none ∧
        Dict.get? (execution.executeStreaming manager world).1.output "content" =
          some (.str (joinTokens call.tokens)) ∧
        Dict.get? (execution.executeStreaming manager world).1.metadata "provider_id" =
          some (.str call.providerId) ∧
        Dict.get? (execution.executeStreaming manager world).1.metadata "model_id" =
          some (.str call.modelId)) ∧
      Dict.get? (execution.executeDirect manager world).metadata "provider_id" =
        Dict.get? (execution.executeStreaming manager world).1.metadata "provider_id") ↔
      execution.RoutedAnswers manager world := by
  cases hrefusal : execution.refusal with
  | some refusal =>
      unfold executeStreaming at hcompleted
      rw [hrefusal] at hcompleted
      cases hcompleted
  | none =>
      cases hpayload : execution.payload with
      | error error =>
          unfold executeStreaming at hcompleted
          rw [hrefusal, hpayload] at hcompleted
          cases hcompleted
      | ok payload =>
          cases hpermit : execution.task.permit with
          | none =>
              unfold executeStreaming at hcompleted
              rw [hrefusal, hpayload, hpermit] at hcompleted
              cases hcompleted
          | some permit =>
              have hstreaming : execution.executeStreaming manager world =
                  (execution.streamResult ((execution.prepared manager).streamProvider world
                    (execution.streamRequest payload permit)),
                  ((execution.prepared manager).streamProvider world
                    (execution.streamRequest payload permit)).calls) := by
                unfold executeStreaming
                rw [hrefusal, hpayload, hpermit]
              have hdirect : execution.executeDirect manager world =
                  execution.executeResult ((execution.prepared manager).executeProvider world
                    execution.routing.providerId payload (some execution.routing.modelId)
                    [execution.task.actionType] (some permit.constraints)) := by
                unfold executeDirect
                rw [hrefusal, hpayload, hpermit]
                rfl
              have hcapabilities :
                  (execution.streamRequest payload permit).capabilities ≠ [] :=
                List.cons_ne_nil _ _
              rw [hstreaming] at hcompleted ⊢
              have hresult :=
                streamResult_of_raised_none execution (raised_none_of_completed hcompleted)
              rw [hresult, hdirect]
              constructor
              · rintro ⟨⟨call, hcall, herror, -, hprovider, hmodel⟩, -⟩
                have hid : execution.routing.providerId = call.providerId := by
                  simpa [Dict.get?_cons] using hprovider
                have hmid : execution.routing.modelId = call.modelId := by
                  simpa [Dict.get?_cons] using hmodel
                refine ⟨payload, permit, hpayload, hpermit, ?_⟩
                rw [hmid]
                exact routedAnswers_of_call hcapabilities hcall hid.symm herror
              · rintro ⟨payload', permit', hpayload', hpermit', hrouted⟩
                obtain rfl : payload = payload' := by
                  rw [hpayload] at hpayload'
                  exact Except.ok.inj hpayload'
                obtain rfl : permit = permit' := by
                  rw [hpermit] at hpermit'
                  exact Option.some.inj hpermit'
                obtain ⟨tokens, -, hcalls⟩ := hrouted.streamProvider hcapabilities
                obtain ⟨response, hresponse, hreported⟩ :=
                  hrouted.executeProvider hcapabilities hsame payload
                rw [hcalls]
                refine ⟨⟨_, List.mem_singleton_self _, rfl, ?_, rfl, rfl⟩, ?_⟩
                · simp [Dict.get?_cons]
                · have hrun : ((execution.prepared manager).executeProvider world
                      execution.routing.providerId payload (some execution.routing.modelId)
                      [execution.task.actionType] (some permit.constraints)).result =
                        .ok response := hresponse
                  have hown : response.providerId = execution.routing.providerId := hreported
                  unfold executeResult
                  rw [hrun]
                  simpa [Dict.get?_cons] using hown

/-- An execution routed to a provider and a model. -/
def sampleExecution (providerId modelId : String) : ProviderExecution where
  requestId := "q"
  task := {
    taskId := "t"
    actionType := "text_generation"
    permit := some default }
  routing := { providerId := providerId, modelId := modelId }
  payload := .ok { prompt := "p" }

/-- Two providers that are always there. -/
def sampleManager : ProviderManager where
  registry := [
    ("a", { providerId := "a", capabilities := [], models := ["m"] }),
    ("b", { providerId := "b", capabilities := [], models := ["n"] })]

/-- One provider breaks off after a token; the other one answers. -/
def breakingWorld (breaking : String) : ProviderWorld where
  clock := fun _ => 0
  failedAt := fun _ => 0
  execute := fun _ providerId _ =>
    if providerId = breaking then .ok { success := some false }
    else .ok { content := some "ok" }
  executeStream := fun _ providerId _ =>
    if providerId = breaking then (["half "], some { message := "broken" }) else (["o", "k"], none)

lemma sameOutcomes_breakingWorld (breaking : String) : SameOutcomes (breakingWorld breaking) := by
  intro n providerId streamed direct _
  by_cases h : providerId = breaking
  · simp [breakingWorld, h, RawResponse.succeeded]
  · simp [breakingWorld, h, RawResponse.succeeded, orText]

/-- The routed provider answers. -/
theorem streamed_answer_sample :
    (∃ call ∈ ((sampleExecution "a" "m").executeStreaming sampleManager (breakingWorld "b")).2,
        call.error = none ∧
        Dict.get? ((sampleExecution "a" "m").executeStreaming sampleManager
          (breakingWorld "b")).1.output "content" = some (.str (joinTokens call.tokens)) ∧
        Dict.get? ((sampleExecution "a" "m").executeStreaming sampleManager
          (breakingWorld "b")).1.metadata "provider_id" = some (.str call.providerId) ∧
        Dict.get? ((sampleExecution "a" "m").executeStreaming sampleManager
          (breakingWorld "b")).1.metadata "model_id" = some (.str call.modelId)) ∧
      Dict.get? ((sampleExecution "a" "m").executeDirect sampleManager
          (breakingWorld "b")).metadata "provider_id" =
        Dict.get? ((sampleExecution "a" "m").executeStreaming sampleManager
          (breakingWorld "b")).1.metadata "provider_id" := by
  refine (streamed_answer_iff (sampleExecution "a" "m") sampleManager (breakingWorld "b")
    (sameOutcomes_breakingWorld "b") (by decide)).mpr ?_
  exact ⟨_, _, rfl, rfl, _, rfl, rfl, by decide, by decide, by decide, by decide⟩

/-- Where the routed provider breaks off after a token, the answer is pieced together from two
providers and reported under the first. -/
theorem streamed_answer_not :
    ¬ ∀ (execution : ProviderExecution) (manager : ProviderManager) (world : ProviderWorld),
      SameOutcomes world → (execution.executeStreaming manager world).1.status = .completed →
      (∃ call ∈ (execution.executeStreaming manager world).2, call.error = none ∧
        Dict.get? (execution.executeStreaming manager world).1.output "content" =
          some (.str (joinTokens call.tokens)) ∧
        Dict.get? (execution.executeStreaming manager world).1.metadata "provider_id" =
          some (.str call.providerId) ∧
        Dict.get? (execution.executeStreaming manager world).1.metadata "model_id" =
          some (.str call.modelId)) ∧
      Dict.get? (execution.executeDirect manager world).metadata "provider_id" =
        Dict.get? (execution.executeStreaming manager world).1.metadata "provider_id" := by
  intro h
  obtain ⟨-, hsame⟩ := h (sampleExecution "a" "m") sampleManager (breakingWorld "a")
    (sameOutcomes_breakingWorld "a") (by decide)
  have hdirect : Dict.get? ((sampleExecution "a" "m").executeDirect sampleManager
      (breakingWorld "a")).metadata "provider_id" = some (.str "b") := rfl
  have hstreaming : Dict.get? ((sampleExecution "a" "m").executeStreaming sampleManager
      (breakingWorld "a")).1.metadata "provider_id" = some (.str "a") := rfl
  rw [hdirect, hstreaming] at hsame
  simp at hsame

end Samaktha
