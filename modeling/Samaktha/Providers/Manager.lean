import Samaktha.Contracts.Policy
import Samaktha.Foundation.Text
import Samaktha.Providers.Health

/-!
# The provider manager

`ProviderManager` and its three ways to run a request: `execute_provider`, `stream_provider` and
`execute_provider_stream`, each with a fallback loop of its own over the candidates of
`_candidate_infos`.

What the providers do and what the clock shows is chosen from outside, for each position of a
loop: a call ends with a raw response or raises, and a stream gives tokens and then ends or
raises.  Metrics, usage, cost and latencies are left out, as are the timestamps of chunks.
-/

namespace Samaktha

/-- Metadata describing an intelligence provider; `maximumContext` is the number under
`metadata["maximum_context"]`, and zero without one. -/
structure ProviderInfo where
  providerId : String
  capabilities : List String
  models : List String
  supportedModels : List String := []
  executionLocation : ExecutionLocation := .cloud
  maximumContext : ℤ := 0
  deriving Repr, DecidableEq, Inhabited

structure ProviderPayload where
  prompt : String := ""
  /-- The role and the content of each message. -/
  messages : List (String × String) := []
  maxTokens : Option ℤ := none
  modelId : String := ""
  deriving Repr, DecidableEq, Inhabited

/-- An exception of a provider, with the status code of its response. -/
structure ProviderError where
  message : String
  statusCode : Option ℤ := none
  deriving Repr, DecidableEq, Inhabited

/-- The dictionary that a provider returns. -/
structure RawResponse where
  success : Option Bool := none
  message : Option String := none
  content : Option String := none
  response : Option String := none
  providerId : Option String := none
  modelId : Option String := none
  finishReason : Option String := none
  statusCode : Option ℤ := none
  deriving Repr, DecidableEq, Inhabited

structure ProviderResponse where
  success : Bool := true
  message : Option String := none
  content : String := ""
  providerId : String := ""
  modelId : String := ""
  finishReason : Option String := none
  statusCode : Option ℤ := none
  /-- `metadata["legacy_response"]`. -/
  legacyResponse : Option RawResponse := none
  deriving Repr, DecidableEq, Inhabited

inductive StreamEventType where
  | started
  | token
  | completed
  | failed
  deriving Repr, DecidableEq, Inhabited

/-- A single piece of a streaming response. -/
structure StreamChunk where
  streamId : String
  eventType : StreamEventType
  content : String := ""
  sequenceNumber : ℕ
  /-- `metadata["provider_id"]`. -/
  providerId : String
  deriving Repr, DecidableEq, Inhabited

/-- Request to initiate a streaming connection with a provider. -/
structure StreamRequest where
  requestId : String
  providerId : String
  prompt : String := ""
  messages : List (String × String) := []
  capabilities : List String := []
  executionConstraints : ExecutionConstraints := {}
  /-- `metadata["model_id"]`. -/
  modelId : Option String := none
  deriving Inhabited

/-- What happens outside: at position `n` of a loop, the clock shows `clock n` when the candidate
is checked and `failedAt n` when it has failed. -/
structure ProviderWorld where
  clock : ℕ → ℤ
  failedAt : ℕ → ℤ
  execute : ℕ → String → ProviderPayload → Except ProviderError RawResponse
  executeStream : ℕ → String → ProviderPayload → List String × Option ProviderError

/-- Coordinates access to the providers, which are registered by their ids. -/
structure ProviderManager where
  registry : Dict String ProviderInfo := []
  settings : ProviderSettings := {}
  health : ProviderHealthChecker := {}
  deriving Inhabited

namespace ProviderManager

/-! ## Candidates -/

/-- `ProviderRegistry.get_info`. -/
def getInfo (manager : ProviderManager) (providerId : String) : Option ProviderInfo :=
  Dict.get? manager.registry providerId

/-- `ProviderRegistry.list_providers`. -/
def listProviders (manager : ProviderManager) : List ProviderInfo :=
  manager.registry.map Prod.snd

/-- Whether a candidate is eligible: local where that is required, and with the capabilities that
are required, where it declares any. -/
def eligible (required : List String) (constraints : Option ExecutionConstraints)
    (candidate : ProviderInfo) : Bool :=
  (!constraints.any ExecutionConstraints.requiresLocalModel ||
      candidate.executionLocation = .local) &&
    (candidate.capabilities.isEmpty || required.all candidate.capabilities.contains)

/-- `_candidate_infos`; no required capabilities are the same as an empty list of them. -/
def candidateInfos (manager : ProviderManager) (providerId : String)
    (requiredCapabilities : List String) (constraints : Option ExecutionConstraints) :
    List ProviderInfo :=
  match manager.getInfo providerId with
  | none => []
  | some selected =>
      let others := if manager.settings.fallbackEnabled then
          manager.listProviders.filter fun provider => provider.providerId ≠ providerId
        else []
      let required := if requiredCapabilities.isEmpty then selected.capabilities
        else requiredCapabilities
      (selected :: others).filter (eligible required constraints)

def getProviderStatus (manager : ProviderManager) (providerId : String) (now : ℤ) :
    ProviderStatus × ProviderManager :=
  match manager.health.getStatus providerId with
  | some cached =>
      if cached.cooldownUntil.isNone then (cached, manager)
      else
        let (status, health) :=
          manager.health.check providerId (manager.getInfo providerId).isSome now
        (status, { manager with health := health })
  | none =>
      let (status, health) :=
        manager.health.check providerId (manager.getInfo providerId).isSome now
      (status, { manager with health := health })

def markCooldown (manager : ProviderManager) (providerId : String) (now : ℤ) : ProviderManager :=
  { manager with health := manager.health.markCooldown providerId now }

def availableModels (provider : ProviderInfo) : List String :=
  if provider.supportedModels.isEmpty then provider.models else provider.supportedModels

def defaultModel (provider : Option ProviderInfo) : String :=
  match provider with
  | none => ""
  | some provider => (availableModels provider).headD ""

def candidateModel (provider : ProviderInfo) (requestedModel : Option String)
    (primaryProviderId : String) : String :=
  match requestedModel with
  | some requested =>
      if provider.providerId = primaryProviderId && requested ≠ "" &&
          (availableModels provider).contains requested then requested
      else defaultModel (some provider)
  | none => defaultModel (some provider)

/-- The texts that name a missing model. -/
def namesModel (text : String) : Bool :=
  let text := Text.lower text
  Text.contains text "model_not_found" || Text.contains text "model not found" ||
    Text.contains text "invalid_model"

/-- `_is_model_specific_error` and `_is_model_specific_response`. -/
def isModelSpecific (statusCode : Option ℤ) (message : String) : Bool :=
  statusCode = some 404 || statusCode = some 400 || namesModel message

/-! ## Execution -/

/-- A text that is given and not empty, or another one. -/
def orText (text : Option String) (other : String) : String :=
  match text with
  | some text => if text = "" then other else text
  | none => other

def normalizeResponse (manager : ProviderManager) (raw : RawResponse)
    (providerId modelId : String) : ProviderResponse :=
  match raw.response, raw.content with
  | some response, none => {
      success := true
      content := response
      providerId := orText (some providerId) providerId
      modelId := orText (some modelId) (defaultModel (manager.getInfo providerId))
      legacyResponse := some raw }
  | _, content => {
      success := raw.success.getD true
      message := raw.message
      content := content.getD ""
      providerId := orText raw.providerId providerId
      modelId := orText raw.modelId modelId
      finishReason := raw.finishReason
      statusCode := raw.statusCode }

def validateContext (manager : ProviderManager) (provider : ProviderInfo)
    (payload : ProviderPayload) (modelId : String) : Option ProviderResponse :=
  if provider.maximumContext ≤ 0 then none
  else
    let estimatedTokens : ℤ :=
      if payload.prompt = "" then 0 else max 1 (payload.prompt.length / 4)
    let requestedOutput : ℤ := match payload.maxTokens with
      | some maxTokens => if maxTokens = 0 then manager.settings.maxOutputTokens else maxTokens
      | none => manager.settings.maxOutputTokens
    if estimatedTokens + requestedOutput ≤ provider.maximumContext then none
    else some {
      success := false
      message := some "Context window exceeded"
      providerId := provider.providerId
      modelId := orText (some modelId) (defaultModel (some provider))
      finishReason := some "context_window_exceeded" }

def unavailableResponse (provider : ProviderInfo) (modelId : String) : ProviderResponse where
  success := false
  message := some ("Provider unavailable: " ++ provider.providerId)
  providerId := provider.providerId
  modelId := orText (some modelId) (defaultModel (some provider))
  finishReason := some "unavailable"

/-- The finish reasons that put a provider into cooldown. -/
def coolingReasons : List String :=
  ["rate_limited", "server_error", "timeout", "unavailable", "http_error"]

/-- A response that puts its provider into cooldown does so, unless it is about the model. -/
def afterResponse (manager : ProviderManager) (response : ProviderResponse) (providerId : String)
    (now : ℤ) : ProviderManager :=
  if response.finishReason.any coolingReasons.contains &&
      !isModelSpecific response.statusCode (response.message.getD "") then
    manager.markCooldown providerId now
  else manager

/-- How an execution went: the providers it ran, in order, and what it returned or raised. -/
structure ExecuteRun where
  invoked : List String := []
  result : Except ProviderError ProviderResponse
  manager : ProviderManager

/-- An execution that ran a provider first. -/
def ExecuteRun.after (providerId : String) (run : ExecuteRun) : ExecuteRun :=
  { run with invoked := providerId :: run.invoked }

/-- The loop of `execute_provider`, from position `n`. -/
def executeLoop (world : ProviderWorld) (payload : ProviderPayload) (modelId : Option String)
    (primaryId : String) : ℕ → ProviderManager → List String → Option ProviderResponse →
      List ProviderInfo → ExecuteRun
  | _, manager, _, finalResponse, [] => {
      result := .ok (finalResponse.getD {
        success := false
        message := some "No compatible provider is available"
        providerId := primaryId
        modelId := modelId.getD ""
        finishReason := some "unavailable" })
      manager := manager }
  | n, manager, attempted, finalResponse, candidate :: candidates =>
      if attempted.contains candidate.providerId then
        executeLoop world payload modelId primaryId (n + 1) manager attempted finalResponse
          candidates
      else
        let attempted := candidate.providerId :: attempted
        let candidateModel := candidateModel candidate modelId primaryId
        let (status, manager) := manager.getProviderStatus candidate.providerId (world.clock n)
        if !status.available then
          executeLoop world payload modelId primaryId (n + 1) manager attempted
            (some (unavailableResponse candidate candidateModel)) candidates
        else match manager.validateContext candidate payload candidateModel with
          | some contextError => { result := .ok contextError, manager := manager }
          | none =>
              if (manager.getInfo candidate.providerId).isNone then
                executeLoop world payload modelId primaryId (n + 1) manager attempted finalResponse
                  candidates
              else match world.execute n candidate.providerId
                  { payload with modelId := candidateModel } with
                | .error error => {
                    invoked := [candidate.providerId]
                    result := .error error
                    manager := manager }
                | .ok raw =>
                    let response :=
                      manager.normalizeResponse raw candidate.providerId candidateModel
                    let manager :=
                      manager.afterResponse response candidate.providerId (world.failedAt n)
                    if response.success || !manager.settings.fallbackEnabled then {
                      invoked := [candidate.providerId]
                      result := .ok response
                      manager := manager }
                    else
                      (executeLoop world payload modelId primaryId (n + 1) manager attempted
                        (some response) candidates).after candidate.providerId

def executeProvider (manager : ProviderManager) (world : ProviderWorld) (providerId : String)
    (payload : ProviderPayload) (modelId : Option String) (requiredCapabilities : List String)
    (constraints : Option ExecutionConstraints) : ExecuteRun :=
  match manager.getInfo providerId with
  | none => {
      result := .ok {
        success := false
        message := some ("Provider is not registered: " ++ providerId)
        providerId := providerId
        modelId := modelId.getD ""
        finishReason := some "unavailable" }
      manager := manager }
  | some _ =>
      executeLoop world payload modelId providerId 0 manager [] none
        (manager.candidateInfos providerId requiredCapabilities constraints)

/-! ## Streams -/

/-- A call of `execute_stream`: which provider it ran, which model it asked for, and what came of
it. -/
structure StreamCall where
  providerId : String
  modelId : String
  tokens : List String
  error : Option ProviderError
  deriving Repr, DecidableEq, Inhabited

/-- How a stream went: its chunks, the calls it made, and what it raised. -/
structure StreamRun where
  chunks : List StreamChunk := []
  calls : List StreamCall := []
  raised : Option String := none
  manager : ProviderManager

def tokenChunks (streamId providerId : String) : ℕ → List String → List StreamChunk
  | _, [] => []
  | sequenceNumber, token :: tokens => {
      streamId := streamId
      eventType := .token
      content := token
      sequenceNumber := sequenceNumber
      providerId := providerId } :: tokenChunks streamId providerId (sequenceNumber + 1) tokens

def streamPayload (request : StreamRequest) (candidateModel : String) : ProviderPayload where
  modelId := candidateModel
  messages := request.messages
  prompt := match request.messages.getLast? with
    | some message => message.2
    | none => request.prompt

/-- What `stream_provider` raises after its loop. -/
def streamError (primaryId : String) (lastError : Option (String × String)) : String :=
  match lastError with
  | none => "Provider '" ++ primaryId ++ "' is currently unavailable."
  | some (usedProvider, error) => "Provider '" ++ usedProvider ++ "' stream failed: " ++ error

/-- A stream that raises puts its provider into cooldown, unless the error is about the model. -/
def afterError (manager : ProviderManager) (error : ProviderError) (providerId : String)
    (now : ℤ) : ProviderManager :=
  if isModelSpecific error.statusCode error.message then manager
  else manager.markCooldown providerId now

/-- The loop of `stream_provider`, from position `n`; the last error comes with the provider that
raised it. -/
def streamLoop (world : ProviderWorld) (request : StreamRequest) : ℕ → ProviderManager →
    List String → ℕ → Option (String × String) → List ProviderInfo → StreamRun
  | _, manager, _, _, lastError, [] => {
      raised := some (streamError request.providerId lastError)
      manager := manager }
  | n, manager, attempted, sequenceNumber, lastError, candidate :: candidates =>
      if attempted.contains candidate.providerId then
        streamLoop world request (n + 1) manager attempted sequenceNumber lastError candidates
      else
        let attempted := candidate.providerId :: attempted
        let (status, manager) := manager.getProviderStatus candidate.providerId (world.clock n)
        if !status.available || (manager.getInfo candidate.providerId).isNone then
          streamLoop world request (n + 1) manager attempted sequenceNumber lastError candidates
        else
          let candidateModel := candidateModel candidate request.modelId request.providerId
          let streamId := "stream-" ++ request.requestId
          let payload := streamPayload request candidateModel
          match world.executeStream n candidate.providerId payload with
          | (tokens, none) => {
              chunks := tokenChunks streamId candidate.providerId sequenceNumber tokens ++ [{
                streamId := streamId
                eventType := .completed
                sequenceNumber := sequenceNumber + tokens.length
                providerId := candidate.providerId }]
              calls := [⟨candidate.providerId, candidateModel, tokens, none⟩]
              manager := manager }
          | (tokens, some error) =>
              let call := ⟨candidate.providerId, candidateModel, tokens, some error⟩
              let chunks := tokenChunks streamId candidate.providerId sequenceNumber tokens
              let manager := manager.afterError error candidate.providerId (world.failedAt n)
              let lastError := some (candidate.providerId, error.message)
              if manager.settings.fallbackEnabled then
                let rest := streamLoop world request (n + 1) manager attempted
                  (sequenceNumber + tokens.length) lastError candidates
                { rest with chunks := chunks ++ rest.chunks, calls := call :: rest.calls }
              else {
                chunks := chunks
                calls := [call]
                raised := some (streamError request.providerId lastError)
                manager := manager }

def streamProvider (manager : ProviderManager) (world : ProviderWorld) (request : StreamRequest) :
    StreamRun :=
  match manager.getInfo request.providerId with
  | none => {
      raised := some ("Provider '" ++ request.providerId ++ "' is not registered.")
      manager := manager }
  | some _ =>
      let run := streamLoop world request 0 manager [] 2 none
        (manager.candidateInfos request.providerId request.capabilities
          (some request.executionConstraints))
      { run with chunks := {
          streamId := "stream-" ++ request.requestId
          eventType := .started
          sequenceNumber := 1
          providerId := request.providerId } :: run.chunks }

/-- How a stream of tokens went: the tokens and the providers it ran. -/
structure TokenRun where
  tokens : List String := []
  invoked : List String := []
  manager : ProviderManager

/-- The loop of `execute_provider_stream`, from position `n`. -/
def executeStreamLoop (world : ProviderWorld) (payload : ProviderPayload)
    (modelId : Option String) (primaryId : String) :
    ℕ → ProviderManager → List ProviderInfo → TokenRun
  | _, manager, [] => { manager := manager }
  | n, manager, candidate :: candidates =>
      let (status, manager) := manager.getProviderStatus candidate.providerId (world.clock n)
      if !status.available then
        executeStreamLoop world payload modelId primaryId (n + 1) manager candidates
      else
        let candidateModel := candidateModel candidate modelId primaryId
        match manager.validateContext candidate payload candidateModel with
        | some _ => { manager := manager }
        | none =>
            if (manager.getInfo candidate.providerId).isNone then
              executeStreamLoop world payload modelId primaryId (n + 1) manager candidates
            else match world.executeStream n candidate.providerId
                { payload with modelId := candidateModel } with
              | (tokens, none) =>
                  { tokens := tokens, invoked := [candidate.providerId], manager := manager }
              | (tokens, some _) =>
                  if manager.settings.fallbackEnabled then
                    let rest :=
                      executeStreamLoop world payload modelId primaryId (n + 1) manager candidates
                    { rest with
                      tokens := tokens ++ rest.tokens
                      invoked := candidate.providerId :: rest.invoked }
                  else { tokens := tokens, invoked := [candidate.providerId], manager := manager }

def executeProviderStream (manager : ProviderManager) (world : ProviderWorld) (providerId : String)
    (payload : ProviderPayload) (modelId : Option String) (requiredCapabilities : List String)
    (constraints : Option ExecutionConstraints) : TokenRun :=
  match manager.getInfo providerId with
  | none => { manager := manager }
  | some _ =>
      executeStreamLoop world payload modelId providerId 0 manager
        (manager.candidateInfos providerId requiredCapabilities constraints)

/-! ## What a manager keeps -/

section

variable (manager : ProviderManager) (providerId : String) (now : ℤ)

@[simp] lemma registry_getProviderStatus :
    (manager.getProviderStatus providerId now).2.registry = manager.registry := by
  unfold getProviderStatus
  split
  · split <;> rfl
  · rfl

@[simp] lemma settings_getProviderStatus :
    (manager.getProviderStatus providerId now).2.settings = manager.settings := by
  unfold getProviderStatus
  split
  · split <;> rfl
  · rfl

@[simp] lemma getInfo_getProviderStatus (other : String) :
    (manager.getProviderStatus providerId now).2.getInfo other = manager.getInfo other :=
  congrArg (Dict.get? · other) (manager.registry_getProviderStatus providerId now)

@[simp] lemma settings_afterError (error : ProviderError) :
    (manager.afterError error providerId now).settings = manager.settings := by
  unfold afterError
  split <;> rfl

@[simp] lemma getInfo_afterError (error : ProviderError) (other : String) :
    (manager.afterError error providerId now).getInfo other = manager.getInfo other := by
  unfold afterError
  split <;> rfl

end

/-! ## What the loops run -/

lemma mem_of_executeLoop {world : ProviderWorld} {payload : ProviderPayload}
    {modelId : Option String} {primaryId : String} {n : ℕ} {manager : ProviderManager}
    {attempted : List String} {finalResponse : Option ProviderResponse}
    {candidates : List ProviderInfo} {providerId : String}
    (h : providerId ∈ (executeLoop world payload modelId primaryId n manager attempted
      finalResponse candidates).invoked) :
    ∃ candidate ∈ candidates, candidate.providerId = providerId := by
  induction candidates generalizing n manager attempted finalResponse with
  | nil => exact absurd h List.not_mem_nil
  | cons candidate candidates ih =>
      have hrest : ∀ {n manager attempted finalResponse},
          providerId ∈ (executeLoop world payload modelId primaryId n manager attempted
            finalResponse candidates).invoked →
          ∃ c ∈ candidate :: candidates, c.providerId = providerId := by
        intro n manager attempted finalResponse hmem
        obtain ⟨c, hc, hid⟩ := ih hmem
        exact ⟨c, List.mem_cons_of_mem candidate hc, hid⟩
      have hfirst : providerId ∈ [candidate.providerId] →
          ∃ c ∈ candidate :: candidates, c.providerId = providerId := fun hmem =>
        ⟨candidate, List.mem_cons_self, (List.mem_singleton.mp hmem).symm⟩
      rw [executeLoop] at h
      dsimp only at h
      split at h
      · exact hrest h
      · split at h
        · exact hrest h
        · split at h
          · exact absurd h List.not_mem_nil
          · split at h
            · exact hrest h
            · split at h
              · exact hfirst h
              · split at h
                · exact hfirst h
                · rcases List.mem_cons.mp h with rfl | hmem
                  · exact hfirst (List.mem_singleton_self _)
                  · exact hrest hmem

lemma mem_of_streamLoop {world : ProviderWorld} {request : StreamRequest} {n : ℕ}
    {manager : ProviderManager} {attempted : List String} {sequenceNumber : ℕ}
    {lastError : Option (String × String)} {candidates : List ProviderInfo}
    {call : StreamCall}
    (h : call ∈ (streamLoop world request n manager attempted sequenceNumber lastError
      candidates).calls) :
    ∃ candidate ∈ candidates, candidate.providerId = call.providerId := by
  induction candidates generalizing n manager attempted sequenceNumber lastError with
  | nil => exact absurd h List.not_mem_nil
  | cons candidate candidates ih =>
      have hrest : ∀ {n manager attempted sequenceNumber lastError},
          call ∈ (streamLoop world request n manager attempted sequenceNumber lastError
            candidates).calls →
          ∃ c ∈ candidate :: candidates, c.providerId = call.providerId := by
        intro n manager attempted sequenceNumber lastError hmem
        obtain ⟨c, hc, hcall⟩ := ih hmem
        exact ⟨c, List.mem_cons_of_mem candidate hc, hcall⟩
      have hfirst : candidate.providerId = call.providerId →
          ∃ c ∈ candidate :: candidates, c.providerId = call.providerId := fun hid =>
        ⟨candidate, List.mem_cons_self, hid⟩
      rw [streamLoop] at h
      dsimp only at h
      split at h
      · exact hrest h
      · split at h
        · exact hrest h
        · split at h
          · obtain rfl := List.mem_singleton.mp h
            exact hfirst rfl
          · split at h
            · rcases List.mem_cons.mp h with rfl | hmem
              · exact hfirst rfl
              · exact hrest hmem
            · obtain rfl := List.mem_singleton.mp h
              exact hfirst rfl

lemma mem_of_executeStreamLoop {world : ProviderWorld} {payload : ProviderPayload}
    {modelId : Option String} {primaryId : String} {n : ℕ} {manager : ProviderManager}
    {candidates : List ProviderInfo} {providerId : String}
    (h : providerId ∈ (executeStreamLoop world payload modelId primaryId n manager
      candidates).invoked) :
    ∃ candidate ∈ candidates, candidate.providerId = providerId := by
  induction candidates generalizing n manager with
  | nil => exact absurd h List.not_mem_nil
  | cons candidate candidates ih =>
      have hrest : ∀ {n manager},
          providerId ∈ (executeStreamLoop world payload modelId primaryId n manager
            candidates).invoked →
          ∃ c ∈ candidate :: candidates, c.providerId = providerId := by
        intro n manager hmem
        obtain ⟨c, hc, hid⟩ := ih hmem
        exact ⟨c, List.mem_cons_of_mem candidate hc, hid⟩
      have hfirst : providerId ∈ [candidate.providerId] →
          ∃ c ∈ candidate :: candidates, c.providerId = providerId := fun hmem =>
        ⟨candidate, List.mem_cons_self, (List.mem_singleton.mp hmem).symm⟩
      rw [executeStreamLoop] at h
      dsimp only at h
      split at h
      · exact hrest h
      · split at h
        · exact absurd h List.not_mem_nil
        · split at h
          · exact hrest h
          · split at h
            · exact hfirst h
            · split at h
              · rcases List.mem_cons.mp h with rfl | hmem
                · exact hfirst (List.mem_singleton_self _)
                · exact hrest hmem
              · exact hfirst h

end ProviderManager

end Samaktha
