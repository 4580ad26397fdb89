import Samaktha.Providers.Streaming

/-!
# Fallback

The three loops of `ProviderManager` on one list of candidates: which candidate would answer, which
candidates the loops pass over, and which ones end `execute_provider` before it has come to the one
that would answer.  What one candidate does to the health of its own provider changes nothing for
the others.
-/

namespace Samaktha

open ProviderManager

/-! ## One call on three paths -/

/-- A call with the providers, the clock and the arguments of all three ways to run it. -/
structure FallbackCall where
  manager : ProviderManager
  world : ProviderWorld
  providerId : String
  modelId : Option String := none
  requiredCapabilities : List String := []
  constraints : Option ExecutionConstraints := none
  /-- The payload of `execute_provider` and `execute_provider_stream`. -/
  payload : ProviderPayload := {}
  /-- What only the request of `stream_provider` has. -/
  requestId : String := ""
  prompt : String := ""
  messages : List (String × String) := []

namespace FallbackCall

def candidates (call : FallbackCall) : List ProviderInfo :=
  call.manager.candidateInfos call.providerId call.requiredCapabilities call.constraints

/-- The model that a candidate is asked for. -/
def model (call : FallbackCall) (candidate : ProviderInfo) : String :=
  candidateModel candidate call.modelId call.providerId

/-- The request of `stream_provider`. -/
def request (call : FallbackCall) : StreamRequest where
  requestId := call.requestId
  providerId := call.providerId
  prompt := call.prompt
  messages := call.messages
  capabilities := call.requiredCapabilities
  executionConstraints := call.constraints.getD {}
  modelId := call.modelId

def execute (call : FallbackCall) : ExecuteRun :=
  call.manager.executeProvider call.world call.providerId call.payload call.modelId
    call.requiredCapabilities call.constraints

def stream (call : FallbackCall) : StreamRun :=
  call.manager.streamProvider call.world call.request

def executeStream (call : FallbackCall) : TokenRun :=
  call.manager.executeProviderStream call.world call.providerId call.payload call.modelId
    call.requiredCapabilities call.constraints

/-! ## What becomes of a candidate at its position -/

/-- The candidate is enabled, configured and out of cooldown. -/
def available (call : FallbackCall) (x : ProviderInfo × ℕ) : Bool :=
  (call.manager.getProviderStatus x.1.providerId (call.world.clock x.2)).1.available

/-- The candidate has enough context. -/
def fits (call : FallbackCall) (x : ProviderInfo × ℕ) : Bool :=
  (call.manager.validateContext x.1 call.payload (call.model x.1)).isNone

/-- There is an instance of the candidate. -/
def present (call : FallbackCall) (x : ProviderInfo × ℕ) : Bool :=
  (call.manager.getInfo x.1.providerId).isSome

/-- What an execution of the candidate comes to. -/
def outcome (call : FallbackCall) (x : ProviderInfo × ℕ) : Except ProviderError RawResponse :=
  call.world.execute x.2 x.1.providerId { call.payload with modelId := call.model x.1 }

/-- The candidate answers with a success. -/
def succeeds (call : FallbackCall) (x : ProviderInfo × ℕ) : Bool :=
  match call.outcome x with
  | .ok raw => raw.succeeded
  | .error _ => false

def raises (call : FallbackCall) (x : ProviderInfo × ℕ) : Bool :=
  match call.outcome x with
  | .ok _ => false
  | .error _ => true

/-- A stream of the candidate ends without raising. -/
def streams (call : FallbackCall) (payload : ProviderPayload) (x : ProviderInfo × ℕ) : Bool :=
  (call.world.executeStream x.2 x.1.providerId payload).2.isNone

/-- The candidate is available, has enough context and an instance, and would succeed. -/
def suitable (call : FallbackCall) (x : ProviderInfo × ℕ) : Bool :=
  call.available x && call.fits x && call.present x && call.succeeds x

/-- The candidate is available, and either has too little context or raises. -/
def obstructs (call : FallbackCall) (x : ProviderInfo × ℕ) : Bool :=
  call.available x && (!call.fits x || (call.present x && call.raises x))

/-- Each candidate has one outcome on all three paths: its streams end where its execution
succeeds, and raise where that fails or raises. -/
def OutcomesAgree (call : FallbackCall) : Prop :=
  ∀ x ∈ call.candidates.zipIdx,
    call.streams (streamPayload call.request (call.model x.1)) x = call.succeeds x ∧
      call.streams { call.payload with modelId := call.model x.1 } x = call.succeeds x

/-- All three paths end with an answer of the candidate. -/
structure Selects (call : FallbackCall) (candidate : ProviderInfo) : Prop where
  succeeded : ∃ response, call.execute.result = .ok response ∧ response.success = true
  executed : call.execute.invoked.getLast? = some candidate.providerId
  ended : call.stream.raised = none
  streamed : ∃ last, call.stream.calls.getLast? = some last ∧
    last.providerId = candidate.providerId ∧ last.error = none
  streamedTokens : call.executeStream.invoked.getLast? = some candidate.providerId

/-- All three paths end with an answer of the first candidate that is suitable, where there is
one. -/
def Complete (call : FallbackCall) : Prop :=
  ∀ x, call.candidates.zipIdx.find? call.suitable = some x → call.Selects x.1

/-- No candidate before the first suitable one obstructs it. -/
def Unobstructed (call : FallbackCall) : Prop :=
  ∀ x, call.candidates.zipIdx.find? call.suitable = some x →
    ∀ y ∈ call.candidates.zipIdx, y.2 < x.2 → call.obstructs y = false

/-! ## What a candidate leaves to the others -/

/-- Two managers know the same of a provider. -/
structure SameFor (manager manager' : ProviderManager) (providerId : String) : Prop where
  registry : manager'.registry = manager.registry
  settings : manager'.settings = manager.settings
  healthSettings : manager'.health.settings = manager.health.settings
  status : manager'.health.getStatus providerId = manager.health.getStatus providerId
  cooldown : Dict.get? manager'.health.cooldowns providerId =
    Dict.get? manager.health.cooldowns providerId

namespace SameFor

variable {manager manager' : ProviderManager} {p q : String} {now : ℤ}

lemma refl (manager : ProviderManager) (p : String) : SameFor manager manager p :=
  ⟨rfl, rfl, rfl, rfl, rfl⟩

lemma getInfo (h : SameFor manager manager' p) (q : String) :
    manager'.getInfo q = manager.getInfo q :=
  congrArg (Dict.get? · q) h.registry

lemma check (h : SameFor manager manager' p) (hne : p ≠ q) (registered : Bool) :
    SameFor manager { manager' with health := (manager'.health.check q registered now).2 } p where
  registry := h.registry
  settings := h.settings
  healthSettings := ProviderHealthChecker.settings_check.trans h.healthSettings
  status := (ProviderHealthChecker.getStatus_check_of_ne hne).trans h.status
  cooldown := (ProviderHealthChecker.cooldowns_isInCooldown hne).trans h.cooldown

lemma getProviderStatus (h : SameFor manager manager' p) (hne : p ≠ q) :
    SameFor manager (manager'.getProviderStatus q now).2 p := by
  unfold ProviderManager.getProviderStatus
  split
  · split
    · exact h
    · exact h.check hne _
  · exact h.check hne _

lemma markCooldown (h : SameFor manager manager' p) (hne : p ≠ q) :
    SameFor manager (manager'.markCooldown q now) p := by
  unfold ProviderManager.markCooldown ProviderHealthChecker.markCooldown
  dsimp only
  split
  · exact ⟨h.registry, h.settings, h.healthSettings, h.status,
      (Dict.get?_set_of_ne hne.symm _ _).trans h.cooldown⟩
  · exact ⟨h.registry, h.settings, h.healthSettings,
      (Dict.get?_set_of_ne hne.symm _ _).trans h.status,
      (Dict.get?_set_of_ne hne.symm _ _).trans h.cooldown⟩

lemma afterResponse (h : SameFor manager manager' p) (hne : p ≠ q) (response : ProviderResponse) :
    SameFor manager (manager'.afterResponse response q now) p := by
  unfold ProviderManager.afterResponse
  split
  · exact h.markCooldown hne
  · exact h

lemma afterError (h : SameFor manager manager' p) (hne : p ≠ q) (error : ProviderError) :
    SameFor manager (manager'.afterError error q now) p := by
  unfold ProviderManager.afterError
  split
  · exact h
  · exact h.markCooldown hne

lemma available_eq (h : SameFor manager manager' p) :
    (manager'.getProviderStatus p now).1.available =
      (manager.getProviderStatus p now).1.available := by
  have hchecked : (manager'.health.check p (manager'.getInfo p).isSome now).1.available =
      (manager.health.check p (manager.getInfo p).isSome now).1.available := by
    rw [ProviderHealthChecker.available_check, ProviderHealthChecker.available_check, h.getInfo]
    have hcooldown : (manager'.health.isInCooldown p now).1 =
        (manager.health.isInCooldown p now).1 := by
      unfold ProviderHealthChecker.isInCooldown
      rw [h.cooldown]
      cases Dict.get? manager.health.cooldowns p with
      | none => rfl
      | some deadline =>
          dsimp only
          split <;> rfl
    unfold ProviderHealthChecker.isEnabled ProviderHealthChecker.isConfigured
    rw [h.healthSettings, hcooldown]
  unfold ProviderManager.getProviderStatus
  rw [h.status]
  cases manager.health.getStatus p with
  | none => exact hchecked
  | some cached =>
      dsimp only
      split
      · rfl
      · exact hchecked

end SameFor

variable {call : FallbackCall} {manager : ProviderManager} {candidate : ProviderInfo}
  {candidates : List ProviderInfo} {n : ℕ}

/-! ## The loop of `execute_provider` -/

/-- The loop of `execute_provider` for a call. -/
def executeFrom (call : FallbackCall) (n : ℕ) (manager : ProviderManager)
    (attempted : List String) (finalResponse : Option ProviderResponse)
    (candidates : List ProviderInfo) : ExecuteRun :=
  executeLoop call.world call.payload call.modelId call.providerId n manager attempted
    finalResponse candidates

/-- The loop has not come to these candidates and knows of their providers what the call began
with. -/
structure Ahead (call : FallbackCall) (manager : ProviderManager) (attempted : List String)
    (candidates : List ProviderInfo) : Prop where
  distinct : (candidates.map ProviderInfo.providerId).Nodup
  sameFor : ∀ c ∈ candidates, SameFor call.manager manager c.providerId
  notAttempted : ∀ c ∈ candidates, c.providerId ∉ attempted

namespace Ahead

variable {attempted : List String}

lemma tail (h : Ahead call manager attempted (candidate :: candidates))
    {manager' : ProviderManager}
    (hframe : ∀ p, p ≠ candidate.providerId → SameFor call.manager manager p →
      SameFor call.manager manager' p) :
    Ahead call manager' (candidate.providerId :: attempted) candidates := by
  obtain ⟨hnot, hdistinct⟩ := List.nodup_cons.mp h.distinct
  have hne : ∀ c ∈ candidates, c.providerId ≠ candidate.providerId := fun c hc heq =>
    hnot (heq ▸ List.mem_map_of_mem hc)
  refine ⟨hdistinct, fun c hc => hframe _ (hne c hc) (h.sameFor c (List.mem_cons_of_mem _ hc)), ?_⟩
  intro c hc hmem
  rcases List.mem_cons.mp hmem with heq | hmem
  · exact hne c hc heq
  · exact h.notAttempted c (List.mem_cons_of_mem _ hc) hmem

lemma head (h : Ahead call manager attempted (candidate :: candidates)) :
    SameFor call.manager manager candidate.providerId :=
  h.sameFor candidate List.mem_cons_self

lemma available_eq (h : Ahead call manager attempted (candidate :: candidates)) (n : ℕ) :
    (manager.getProviderStatus candidate.providerId (call.world.clock n)).1.available =
      call.available (candidate, n) :=
  h.head.available_eq

lemma getInfo_eq (h : Ahead call manager attempted (candidate :: candidates)) (n : ℕ) :
    ((manager.getProviderStatus candidate.providerId (call.world.clock n)).2.getInfo
      candidate.providerId).isNone = !call.present (candidate, n) := by
  rw [getInfo_getProviderStatus, h.head.getInfo]
  exact (Option.not_isSome _).symm

lemma contains_eq (h : Ahead call manager attempted (candidate :: candidates)) :
    ¬ attempted.contains candidate.providerId = true := fun hmem =>
  h.notAttempted candidate List.mem_cons_self (List.contains_iff_mem.mp hmem)

lemma fallbackEnabled (h : Ahead call manager attempted (candidate :: candidates)) (n : ℕ) :
    (manager.getProviderStatus candidate.providerId
        (call.world.clock n)).2.settings.fallbackEnabled =
      call.manager.settings.fallbackEnabled := by
  rw [settings_getProviderStatus, h.head.settings]

lemma tail_checked (h : Ahead call manager attempted (candidate :: candidates)) (n : ℕ) :
    Ahead call (manager.getProviderStatus candidate.providerId (call.world.clock n)).2
      (candidate.providerId :: attempted) candidates :=
  h.tail fun _ hne hsame => hsame.getProviderStatus hne

lemma tail_responded (h : Ahead call manager attempted (candidate :: candidates)) (n : ℕ)
    (response : ProviderResponse) :
    let checked := (manager.getProviderStatus candidate.providerId (call.world.clock n)).2
    Ahead call (checked.afterResponse response candidate.providerId (call.world.failedAt n))
      (candidate.providerId :: attempted) candidates :=
  h.tail fun _ hne hsame => (hsame.getProviderStatus hne).afterResponse hne response

lemma tail_raised (h : Ahead call manager attempted (candidate :: candidates)) (n : ℕ)
    (error : ProviderError) :
    let checked := (manager.getProviderStatus candidate.providerId (call.world.clock n)).2
    Ahead call (checked.afterError error candidate.providerId (call.world.failedAt n))
      (candidate.providerId :: attempted) candidates :=
  h.tail fun _ hne hsame => (hsame.getProviderStatus hne).afterError hne error

lemma validateContext_eq (h : Ahead call manager attempted (candidate :: candidates)) (n : ℕ) :
    (manager.getProviderStatus candidate.providerId (call.world.clock n)).2.validateContext
        candidate call.payload (call.model candidate) =
      call.manager.validateContext candidate call.payload (call.model candidate) := by
  unfold validateContext
  rw [settings_getProviderStatus, h.head.settings]

end Ahead

lemma success_normalizeResponse (manager : ProviderManager) (raw : RawResponse)
    (providerId modelId : String) :
    (manager.normalizeResponse raw providerId modelId).success = raw.succeeded := by
  unfold normalizeResponse RawResponse.succeeded
  cases raw.response with
  | none => simp
  | some response =>
      cases raw.content with
      | none => simp
      | some content => simp

@[simp] lemma settings_afterResponse (manager : ProviderManager) (response : ProviderResponse)
    (providerId : String) (now : ℤ) :
    (manager.afterResponse response providerId now).settings = manager.settings := by
  unfold afterResponse
  split <;> rfl

lemma executeFrom_cons {attempted : List String}
    (h : Ahead call manager attempted (candidate :: candidates))
    (hfallback : call.manager.settings.fallbackEnabled = true)
    (finalResponse : Option ProviderResponse) :
    let attempted' := candidate.providerId :: attempted
    let checked := (manager.getProviderStatus candidate.providerId (call.world.clock n)).2
    call.executeFrom n manager attempted finalResponse (candidate :: candidates) =
      if !call.available (candidate, n) then
        call.executeFrom (n + 1) checked attempted'
          (some (unavailableResponse candidate (call.model candidate))) candidates
      else match call.manager.validateContext candidate call.payload (call.model candidate) with
        | some contextError => { result := .ok contextError, manager := checked }
        | none =>
            if !call.present (candidate, n) then
              call.executeFrom (n + 1) checked attempted' finalResponse candidates
            else match call.outcome (candidate, n) with
              | .error error => {
                  invoked := [candidate.providerId]
                  result := .error error
                  manager := checked }
              | .ok raw =>
                  let response :=
                    checked.normalizeResponse raw candidate.providerId (call.model candidate)
                  let responded := checked.afterResponse response candidate.providerId
                    (call.world.failedAt n)
                  if raw.succeeded then {
                    invoked := [candidate.providerId]
                    result := .ok response
                    manager := responded }
                  else
                    (call.executeFrom (n + 1) responded attempted' (some response)
                      candidates).after candidate.providerId := by
  have hcontext := h.validateContext_eq n
  have hpresent := h.getInfo_eq n
  have henabled := (h.fallbackEnabled n).trans hfallback
  unfold executeFrom outcome model at *
  rw [executeLoop]
  dsimp only
  rw [if_neg h.contains_eq, h.available_eq, hcontext, hpresent]
  congr 1
  cases call.manager.validateContext candidate call.payload
      (candidateModel candidate call.modelId call.providerId) with
  | some contextError => rfl
  | none =>
      dsimp only
      congr 1
      cases call.world.execute n candidate.providerId { call.payload with
          modelId := candidateModel candidate call.modelId call.providerId } with
      | error error => rfl
      | ok raw =>
          dsimp only
          rw [success_normalizeResponse, settings_afterResponse, henabled, Bool.not_true,
            Bool.or_false]

/-- A candidate that is not suitable and does not obstruct is passed over, or runs and fails. -/
lemma executeFrom_step {attempted : List String}
    (h : Ahead call manager attempted (candidate :: candidates))
    (hfallback : call.manager.settings.fallbackEnabled = true)
    (hsuitable : call.suitable (candidate, n) = false)
    (hobstructs : call.obstructs (candidate, n) = false)
    (finalResponse : Option ProviderResponse) :
    ∃ manager' finalResponse',
      Ahead call manager' (candidate.providerId :: attempted) candidates ∧
      (call.executeFrom n manager attempted finalResponse (candidate :: candidates) =
          call.executeFrom (n + 1) manager' (candidate.providerId :: attempted) finalResponse'
            candidates ∨
        call.executeFrom n manager attempted finalResponse (candidate :: candidates) =
          (call.executeFrom (n + 1) manager' (candidate.providerId :: attempted) finalResponse'
            candidates).after candidate.providerId) := by
  rw [executeFrom_cons h hfallback]
  cases havailable : call.available (candidate, n) with
  | false => exact ⟨_, _, h.tail_checked n, .inl rfl⟩
  | true =>
      simp only [obstructs, suitable, havailable, Bool.true_and, Bool.or_eq_false_iff,
        Bool.not_eq_false'] at hobstructs hsuitable
      obtain ⟨hfits, hraises⟩ := hobstructs
      have hcontext : call.manager.validateContext candidate call.payload (call.model candidate) =
          none := Option.isNone_iff_eq_none.mp hfits
      rw [hcontext]
      cases hpresent : call.present (candidate, n) with
      | false => exact ⟨_, _, h.tail_checked n, .inl rfl⟩
      | true =>
          rw [hpresent, Bool.true_and] at hraises
          rw [hfits, hpresent, Bool.true_and, Bool.true_and] at hsuitable
          unfold raises at hraises
          unfold succeeds at hsuitable
          cases houtcome : call.outcome (candidate, n) with
          | error error =>
              rw [houtcome] at hraises
              cases hraises
          | ok raw =>
              rw [houtcome] at hsuitable
              dsimp only at hsuitable ⊢
              rw [hsuitable]
              exact ⟨_, _, h.tail_responded n _, .inr rfl⟩

lemma executeFrom_obstructed {attempted : List String}
    (h : Ahead call manager attempted (candidate :: candidates))
    (hfallback : call.manager.settings.fallbackEnabled = true)
    (hobstructs : call.obstructs (candidate, n) = true)
    (finalResponse : Option ProviderResponse) (response : ProviderResponse)
    (hresult : (call.executeFrom n manager attempted finalResponse
      (candidate :: candidates)).result = .ok response) :
    response.success = false := by
  rw [executeFrom_cons h hfallback] at hresult
  obtain ⟨havailable, hwhy⟩ := Bool.and_eq_true_iff.mp hobstructs
  rw [havailable, Bool.not_true, if_neg Bool.false_ne_true] at hresult
  cases hcontext : call.manager.validateContext candidate call.payload (call.model candidate) with
  | some contextError =>
      rw [hcontext] at hresult
      obtain rfl : contextError = response := Except.ok.inj hresult
      unfold validateContext at hcontext
      simp only [Option.ite_none_left_eq_some, Option.some.injEq] at hcontext
      obtain ⟨-, -, rfl⟩ := hcontext
      rfl
  | none =>
      have hfits : call.fits (candidate, n) = true := Option.isNone_iff_eq_none.mpr hcontext
      rw [hfits, Bool.not_true, Bool.false_or] at hwhy
      obtain ⟨hpresent, hraises⟩ := Bool.and_eq_true_iff.mp hwhy
      rw [hcontext] at hresult
      dsimp only at hresult
      rw [hpresent, Bool.not_true, if_neg Bool.false_ne_true] at hresult
      unfold raises at hraises
      cases houtcome : call.outcome (candidate, n) with
      | error error =>
          rw [houtcome] at hresult
          cases hresult
      | ok raw =>
          rw [houtcome] at hraises
          cases hraises

lemma executeFrom_suitable {attempted : List String}
    (h : Ahead call manager attempted (candidate :: candidates))
    (hfallback : call.manager.settings.fallbackEnabled = true)
    (hsuitable : call.suitable (candidate, n) = true)
    (finalResponse : Option ProviderResponse) :
    (∃ response, (call.executeFrom n manager attempted finalResponse
        (candidate :: candidates)).result = .ok response ∧ response.success = true) ∧
      (call.executeFrom n manager attempted finalResponse (candidate :: candidates)).invoked =
        [candidate.providerId] := by
  rw [executeFrom_cons h hfallback]
  simp only [suitable, Bool.and_eq_true] at hsuitable
  obtain ⟨⟨⟨havailable, hfits⟩, hpresent⟩, hsucceeds⟩ := hsuitable
  have hcontext : call.manager.validateContext candidate call.payload (call.model candidate) =
      none := Option.isNone_iff_eq_none.mp hfits
  rw [havailable, hcontext, hpresent]
  unfold succeeds at hsucceeds
  cases houtcome : call.outcome (candidate, n) with
  | error error =>
      rw [houtcome] at hsucceeds
      cases hsucceeds
  | ok raw =>
      rw [houtcome] at hsucceeds
      dsimp only at hsucceeds ⊢
      rw [hsucceeds]
      exact ⟨⟨_, rfl, (success_normalizeResponse _ _ _ _).trans hsucceeds⟩, rfl⟩

/-! ## Runs -/

lemma find?_zipIdx_cons {p : ProviderInfo × ℕ → Bool} {x : ProviderInfo × ℕ}
    (h : ((candidate :: candidates).zipIdx n).find? p = some x) :
    (p (candidate, n) = true ∧ x = (candidate, n)) ∨
      (p (candidate, n) = false ∧ (candidates.zipIdx (n + 1)).find? p = some x ∧ n < x.2) := by
  rw [List.zipIdx_cons, List.find?_cons] at h
  cases hp : p (candidate, n) with
  | true =>
      rw [hp] at h
      exact .inl ⟨rfl, (Option.some.inj h).symm⟩
  | false =>
      rw [hp] at h
      exact .inr ⟨rfl, h, List.le_snd_of_mem_zipIdx (List.mem_of_find?_eq_some h)⟩

lemma executeFrom_found {attempted : List String} {x : ProviderInfo × ℕ}
    (h : Ahead call manager attempted candidates)
    (hfallback : call.manager.settings.fallbackEnabled = true)
    (hfind : (candidates.zipIdx n).find? call.suitable = some x)
    (hclear : ∀ y ∈ candidates.zipIdx n, y.2 < x.2 → call.obstructs y = false)
    (finalResponse : Option ProviderResponse) :
    (∃ response, (call.executeFrom n manager attempted finalResponse candidates).result =
        .ok response ∧ response.success = true) ∧
      (call.executeFrom n manager attempted finalResponse candidates).invoked.getLast? =
        some x.1.providerId := by
  induction candidates generalizing n manager attempted finalResponse with
  | nil => cases hfind
  | cons candidate candidates ih =>
      rcases find?_zipIdx_cons hfind with ⟨hsuitable, rfl⟩ | ⟨hsuitable, hfind, hlt⟩
      · obtain ⟨hresult, hinvoked⟩ := executeFrom_suitable h hfallback hsuitable finalResponse
        exact ⟨hresult, congrArg List.getLast? hinvoked⟩
      · have hmem : ∀ y ∈ candidates.zipIdx (n + 1), y ∈ (candidate :: candidates).zipIdx n :=
          fun y hy => List.mem_cons_of_mem _ hy
        obtain ⟨manager', finalResponse', hahead, heq | heq⟩ := executeFrom_step h hfallback
          hsuitable (hclear (candidate, n) List.mem_cons_self hlt) finalResponse
        · rw [heq]
          exact ih hahead hfind (fun y hy => hclear y (hmem y hy)) finalResponse'
        · obtain ⟨hresult, hlast⟩ :=
            ih hahead hfind (fun y hy => hclear y (hmem y hy)) finalResponse'
          rw [heq]
          refine ⟨hresult, ?_⟩
          show (candidate.providerId :: _).getLast? = _
          rw [List.getLast?_cons, hlast, Option.getD_some]

lemma executeFrom_not_found {attempted : List String} {x : ProviderInfo × ℕ}
    (h : Ahead call manager attempted candidates)
    (hfallback : call.manager.settings.fallbackEnabled = true)
    (hfind : (candidates.zipIdx n).find? call.suitable = some x)
    {y : ProviderInfo × ℕ} (hy : y ∈ candidates.zipIdx n) (hlt : y.2 < x.2)
    (hobstructs : call.obstructs y = true)
    (finalResponse : Option ProviderResponse) (response : ProviderResponse)
    (hresult : (call.executeFrom n manager attempted finalResponse candidates).result =
      .ok response) :
    response.success = false := by
  induction candidates generalizing n manager attempted finalResponse with
  | nil => cases hfind
  | cons candidate candidates ih =>
      cases hhead : call.obstructs (candidate, n) with
      | true => exact executeFrom_obstructed h hfallback hhead finalResponse response hresult
      | false =>
          rcases find?_zipIdx_cons hfind with ⟨-, rfl⟩ | ⟨hsuitable, hfind, -⟩
          · exact absurd hlt (not_lt.mpr (List.le_snd_of_mem_zipIdx hy))
          · have hbehind : y ∈ candidates.zipIdx (n + 1) := by
              rcases List.mem_cons.mp hy with rfl | hbehind
              · rw [hhead] at hobstructs
                cases hobstructs
              · exact hbehind
            obtain ⟨manager', finalResponse', hahead, heq | heq⟩ :=
              executeFrom_step h hfallback hsuitable hhead finalResponse
            · rw [heq] at hresult
              exact ih hahead hfind hbehind finalResponse' hresult
            · rw [heq] at hresult
              exact ih hahead hfind hbehind finalResponse' hresult

/-! ## The loops of the streams -/

lemma not_streams {x : ProviderInfo × ℕ} (hsuitable : call.suitable x = false)
    (hobstructs : call.obstructs x = false) :
    (call.available x && call.present x && call.succeeds x) = false := by
  unfold suitable at hsuitable
  unfold obstructs at hobstructs
  revert hsuitable hobstructs
  cases call.available x <;> cases call.fits x <;> cases call.present x <;>
    cases call.succeeds x <;> simp

lemma executeStream_eq (call : FallbackCall) (payload : ProviderPayload)
    (candidate : ProviderInfo) (n : ℕ) :
    ∃ tokens, if call.streams payload (candidate, n) then
        call.world.executeStream n candidate.providerId payload = (tokens, none)
      else ∃ error,
        call.world.executeStream n candidate.providerId payload = (tokens, some error) := by
  unfold streams
  rcases call.world.executeStream n candidate.providerId payload with ⟨tokens, none | error⟩
  · exact ⟨tokens, rfl⟩
  · exact ⟨tokens, error, rfl⟩

lemma streamLoop_found {attempted : List String} {x : ProviderInfo × ℕ}
    (h : Ahead call manager attempted candidates)
    (hfallback : call.manager.settings.fallbackEnabled = true)
    (hagree : ∀ y ∈ candidates.zipIdx n,
      call.streams (streamPayload call.request (call.model y.1)) y = call.succeeds y)
    (hfind : (candidates.zipIdx n).find? call.suitable = some x)
    (hclear : ∀ y ∈ candidates.zipIdx n, y.2 < x.2 → call.obstructs y = false)
    (sequenceNumber : ℕ) (lastError : Option (String × String)) :
    let run := streamLoop call.world call.request n manager attempted sequenceNumber lastError
      candidates
    run.raised = none ∧ ∃ last, run.calls.getLast? = some last ∧
      last.providerId = x.1.providerId ∧ last.error = none := by
  induction candidates generalizing n manager attempted sequenceNumber lastError with
  | nil => cases hfind
  | cons candidate candidates ih =>
      have hmem : ∀ y ∈ candidates.zipIdx (n + 1), y ∈ (candidate :: candidates).zipIdx n :=
        fun y hy => List.mem_cons_of_mem _ hy
      obtain ⟨tokens, hstream⟩ := call.executeStream_eq (streamPayload call.request
        (candidateModel candidate call.request.modelId call.request.providerId)) candidate n
      have houtcome : call.streams (streamPayload call.request
          (candidateModel candidate call.request.modelId call.request.providerId))
          (candidate, n) = call.succeeds (candidate, n) :=
        hagree (candidate, n) List.mem_cons_self
      rw [houtcome] at hstream
      dsimp only
      rw [streamLoop]
      dsimp only
      rw [if_neg h.contains_eq, h.available_eq, h.getInfo_eq, ← Bool.not_and]
      rcases find?_zipIdx_cons hfind with ⟨hsuitable, rfl⟩ | ⟨hsuitable, hfind, hlt⟩
      · simp only [suitable, Bool.and_eq_true] at hsuitable
        obtain ⟨⟨⟨havailable, -⟩, hpresent⟩, hsucceeds⟩ := hsuitable
        rw [if_pos hsucceeds] at hstream
        rw [havailable, hpresent, hstream]
        exact ⟨rfl, _, rfl, rfl, rfl⟩
      · have hnot := not_streams hsuitable (hclear (candidate, n) List.mem_cons_self hlt)
        have hclear' : ∀ y ∈ candidates.zipIdx (n + 1), y.2 < x.2 → call.obstructs y = false :=
          fun y hy => hclear y (hmem y hy)
        have hagree' := fun y hy => hagree y (hmem y hy)
        cases hgo : call.available (candidate, n) && call.present (candidate, n) with
        | false => exact ih (h.tail_checked n) hagree' hfind hclear' sequenceNumber lastError
        | true =>
            rw [hgo, Bool.true_and] at hnot
            rw [hnot, if_neg Bool.false_ne_true] at hstream
            obtain ⟨error, hraised⟩ := hstream
            have henabled : (afterError (manager.getProviderStatus candidate.providerId
                (call.world.clock n)).2 error candidate.providerId
                (call.world.failedAt n)).settings.fallbackEnabled = true := by
              rw [settings_afterError, h.fallbackEnabled, hfallback]
            rw [hraised]
            dsimp only
            rw [henabled, Bool.not_true, if_neg Bool.false_ne_true, if_pos rfl]
            obtain ⟨hended, last, hlast, hid, herror⟩ := ih (h.tail_raised n error) hagree' hfind
              hclear' (sequenceNumber + tokens.length)
              (some (candidate.providerId, error.message))
            refine ⟨hended, last, ?_, hid, herror⟩
            rw [List.getLast?_cons, hlast, Option.getD_some]

lemma executeStreamLoop_found {attempted : List String} {x : ProviderInfo × ℕ}
    (h : Ahead call manager attempted candidates)
    (hfallback : call.manager.settings.fallbackEnabled = true)
    (hagree : ∀ y ∈ candidates.zipIdx n,
      call.streams { call.payload with modelId := call.model y.1 } y = call.succeeds y)
    (hfind : (candidates.zipIdx n).find? call.suitable = some x)
    (hclear : ∀ y ∈ candidates.zipIdx n, y.2 < x.2 → call.obstructs y = false) :
    (executeStreamLoop call.world call.payload call.modelId call.providerId n manager
      candidates).invoked.getLast? = some x.1.providerId := by
  induction candidates generalizing n manager attempted with
  | nil => cases hfind
  | cons candidate candidates ih =>
      have hmem : ∀ y ∈ candidates.zipIdx (n + 1), y ∈ (candidate :: candidates).zipIdx n :=
        fun y hy => List.mem_cons_of_mem _ hy
      obtain ⟨tokens, hstream⟩ := call.executeStream_eq
        { call.payload with modelId := call.model candidate } candidate n
      rw [hagree (candidate, n) List.mem_cons_self] at hstream
      have hcontext := h.validateContext_eq n
      unfold model at hstream hcontext
      rw [executeStreamLoop]
      dsimp only
      rw [h.available_eq, hcontext, h.getInfo_eq]
      rcases find?_zipIdx_cons hfind with ⟨hsuitable, rfl⟩ | ⟨hsuitable, hfind, hlt⟩
      · simp only [suitable, Bool.and_eq_true] at hsuitable
        obtain ⟨⟨⟨havailable, hfits⟩, hpresent⟩, hsucceeds⟩ := hsuitable
        have hnone : call.manager.validateContext candidate call.payload
          (candidateModel candidate call.modelId call.providerId) = none :=
          Option.isNone_iff_eq_none.mp hfits
        rw [if_pos hsucceeds] at hstream
        rw [havailable, hpresent, hnone, hstream]
        rfl
      · have hobstructs := hclear (candidate, n) List.mem_cons_self hlt
        have hnot := not_streams hsuitable hobstructs
        have hclear' : ∀ y ∈ candidates.zipIdx (n + 1), y.2 < x.2 → call.obstructs y = false :=
          fun y hy => hclear y (hmem y hy)
        have hrest : (executeStreamLoop call.world call.payload call.modelId call.providerId (n + 1)
            (manager.getProviderStatus candidate.providerId (call.world.clock n)).2
            candidates).invoked.getLast? = some x.1.providerId :=
          ih (h.tail_checked n) (fun y hy => hagree y (hmem y hy)) hfind hclear'
        cases havailable : call.available (candidate, n) with
        | false => exact hrest
        | true =>
            rw [obstructs, havailable, Bool.true_and, Bool.or_eq_false_iff,
              Bool.not_eq_false'] at hobstructs
            have hnone : call.manager.validateContext candidate call.payload
              (candidateModel candidate call.modelId call.providerId) = none :=
              Option.isNone_iff_eq_none.mp hobstructs.1
            rw [hnone]
            cases hpresent : call.present (candidate, n) with
            | false => exact hrest
            | true =>
                rw [havailable, hpresent, Bool.true_and, Bool.true_and] at hnot
                rw [hnot, if_neg Bool.false_ne_true] at hstream
                obtain ⟨error, hraised⟩ := hstream
                rw [hraised, Bool.not_true, if_neg Bool.false_ne_true]
                dsimp only
                rw [if_neg Bool.false_ne_true, h.fallbackEnabled, hfallback, if_pos rfl,
                  List.getLast?_cons, hrest, Option.getD_some]

/-! ## Completeness -/

lemma candidateInfos_getD (manager : ProviderManager) (providerId : String)
    (required : List String) (constraints : Option ExecutionConstraints) :
    manager.candidateInfos providerId required (some (constraints.getD {})) =
      manager.candidateInfos providerId required constraints := by
  cases constraints with
  | none => rfl
  | some constraints => rfl

lemma ahead_start (hdistinct : (call.candidates.map ProviderInfo.providerId).Nodup) :
    Ahead call call.manager [] call.candidates :=
  ⟨hdistinct, fun _ _ => .refl _ _, fun _ _ => List.not_mem_nil⟩

lemma getInfo_of_find {x : ProviderInfo × ℕ}
    (hfind : call.candidates.zipIdx.find? call.suitable = some x) :
    ∃ selected, call.manager.getInfo call.providerId = some selected := by
  cases hinfo : call.manager.getInfo call.providerId with
  | none =>
      unfold candidates candidateInfos at hfind
      rw [hinfo] at hfind
      cases hfind
  | some selected => exact ⟨selected, rfl⟩

section

variable {selected : ProviderInfo} (hinfo : call.manager.getInfo call.providerId = some selected)

include hinfo

lemma execute_eq :
    call.execute = call.executeFrom 0 call.manager [] none call.candidates := by
  unfold execute executeProvider
  rw [hinfo]
  rfl

lemma stream_eq :
    call.stream.raised = (streamLoop call.world call.request 0 call.manager [] 2 none
        call.candidates).raised ∧
      call.stream.calls = (streamLoop call.world call.request 0 call.manager [] 2 none
        call.candidates).calls := by
  have hinfo' : call.manager.getInfo call.request.providerId = some selected := hinfo
  unfold stream streamProvider
  rw [hinfo']
  dsimp only [request]
  rw [candidateInfos_getD]
  exact ⟨rfl, rfl⟩

lemma executeStream_eq_loop :
    call.executeStream = executeStreamLoop call.world call.payload call.modelId call.providerId 0
      call.manager call.candidates := by
  unfold executeStream executeProviderStream
  rw [hinfo]
  rfl

end

lemma selects_of_clear {x : ProviderInfo × ℕ}
    (hfallback : call.manager.settings.fallbackEnabled = true)
    (hdistinct : (call.candidates.map ProviderInfo.providerId).Nodup)
    (hagree : call.OutcomesAgree)
    (hfind : call.candidates.zipIdx.find? call.suitable = some x)
    (hclear : ∀ y ∈ call.candidates.zipIdx, y.2 < x.2 → call.obstructs y = false) :
    call.Selects x.1 := by
  have hahead := ahead_start hdistinct
  obtain ⟨selected, hinfo⟩ := getInfo_of_find hfind
  obtain ⟨hresult, hinvoked⟩ := executeFrom_found hahead hfallback hfind hclear none
  obtain ⟨hended, hlast⟩ := streamLoop_found hahead hfallback
    (fun y hy => (hagree y hy).1) hfind hclear 2 none
  have htokens := executeStreamLoop_found hahead hfallback
    (fun y hy => (hagree y hy).2) hfind hclear
  obtain ⟨hraised, hcalls⟩ := stream_eq hinfo
  rw [← execute_eq hinfo] at hresult hinvoked
  rw [← hraised] at hended
  rw [← hcalls] at hlast
  rw [← executeStream_eq_loop hinfo] at htokens
  exact ⟨hresult, hinvoked, hended, hlast, htokens⟩

/-- With fallback enabled, all three paths end with the first suitable candidate exactly where no
candidate before it obstructs it. -/
theorem complete_iff (call : FallbackCall)
    (hfallback : call.manager.settings.fallbackEnabled = true)
    (hdistinct : (call.candidates.map ProviderInfo.providerId).Nodup)
    (hagree : call.OutcomesAgree) :
    call.Complete ↔ call.Unobstructed := by
  constructor
  · intro hcomplete x hfind y hy hlt
    obtain ⟨response, hresult, hsuccess⟩ := (hcomplete x hfind).succeeded
    obtain ⟨selected, hinfo⟩ := getInfo_of_find hfind
    rw [execute_eq hinfo] at hresult
    by_contra hobstructs
    have hfailed := executeFrom_not_found (ahead_start hdistinct) hfallback hfind hy hlt
      (Bool.of_not_eq_false hobstructs) none response hresult
    rw [hfailed] at hsuccess
    cases hsuccess
  · intro hunobstructed x hfind
    exact selects_of_clear hfallback hdistinct hagree hfind (hunobstructed x hfind)

/-- A call of two providers, of which the second one answers; the streams of the first one raise
before they have given a token. -/
def sampleCall (first : Except ProviderError RawResponse) : FallbackCall where
  manager := sampleManager
  world := {
    clock := fun _ => 0
    failedAt := fun _ => 0
    execute := fun _ providerId _ =>
      if providerId = "a" then first else .ok { content := some "ok" }
    executeStream := fun _ providerId _ =>
      if providerId = "a" then ([], some { message := "broken" }) else (["o", "k"], none) }
  providerId := "a"

/-- A first provider that answers with a failure leaves the answer to the second one. -/
theorem complete_sample :
    (sampleCall (.ok { success := some false })).candidates.zipIdx.find?
        (sampleCall (.ok { success := some false })).suitable =
      some (⟨"b", [], ["n"], [], .cloud, 0⟩, 1) ∧
    (sampleCall (.ok { success := some false })).Complete := by
  refine ⟨by decide, (complete_iff (sampleCall (.ok { success := some false })) rfl (by decide)
    (by unfold OutcomesAgree; decide)).mpr ?_⟩
  intro x hfind
  have hsecond : (sampleCall (.ok { success := some false })).candidates.zipIdx.find?
      (sampleCall (.ok { success := some false })).suitable =
        some (⟨"b", [], ["n"], [], .cloud, 0⟩, 1) := by decide
  obtain rfl := Option.some.inj (hsecond.symm.trans hfind)
  decide

/-- A first provider that raises keeps an execution from the second one. -/
theorem raising_hides :
    ¬ ∀ call : FallbackCall, call.manager.settings.fallbackEnabled = true →
      (call.candidates.map ProviderInfo.providerId).Nodup → call.OutcomesAgree →
      call.Complete := by
  intro h
  have hcomplete := h (sampleCall (.error { message := "down" })) rfl (by decide)
    (by unfold OutcomesAgree; decide)
  have hsecond : (sampleCall (.error { message := "down" })).candidates.zipIdx.find?
      (sampleCall (.error { message := "down" })).suitable =
        some (⟨"b", [], ["n"], [], .cloud, 0⟩, 1) := by decide
  obtain ⟨response, hresult, -⟩ := (hcomplete _ hsecond).succeeded
  have hraised : (sampleCall (.error { message := "down" })).execute.result =
      .error { message := "down" } := rfl
  rw [hraised] at hresult
  cases hresult

end FallbackCall

namespace ProviderManager

/-! ## Each provider once -/

/-- What the loop calls are candidates that it has not attempted, each once and in their order, and
a success is the answer of the one it called last. -/
structure OnceInTurn (world : ProviderWorld) (payload : ProviderPayload)
    (attempted ids : List String)
    (run : ExecuteRun) : Prop where
  sublist : run.invoked.Sublist ids
  nodup : run.invoked.Nodup
  new : ∀ id ∈ run.invoked, id ∉ attempted
  answered : ∀ response, run.result = .ok response → response.success = true →
    ∃ n id model raw manager, run.invoked.getLast? = some id ∧
      world.execute n id { payload with modelId := model } = .ok raw ∧
      response = normalizeResponse manager raw id model

variable {world : ProviderWorld} {payload : ProviderPayload}

lemma success_validateContext {manager : ProviderManager} {provider : ProviderInfo}
    {modelId : String}
    {response : ProviderResponse}
    (h : manager.validateContext provider payload modelId = some response) :
    response.success = false := by
  unfold validateContext at h
  split at h
  · cases h
  · rw [Option.ite_none_left_eq_some] at h
    exact Option.some.inj h.2 ▸ rfl

lemma OnceInTurn.skip {attempted ids : List String} {run : ExecuteRun} {id : String}
    (h : OnceInTurn world payload (id :: attempted) ids run) :
    OnceInTurn world payload attempted (id :: ids) run :=
  ⟨h.sublist.cons id, h.nodup, fun i hi hmem => h.new i hi (List.mem_cons_of_mem id hmem),
    h.answered⟩

lemma OnceInTurn.call {attempted ids : List String} {run : ExecuteRun} {id : String}
    (h : OnceInTurn world payload (id :: attempted) ids run) (hnew : id ∉ attempted) :
    OnceInTurn world payload attempted (id :: ids) (run.after id) := by
  refine ⟨h.sublist.cons_cons id, ?_, fun i hi => ?_, fun response hresponse hsuccess => ?_⟩
  · exact List.nodup_cons.mpr ⟨fun hmem => h.new id hmem List.mem_cons_self, h.nodup⟩
  · rcases List.mem_cons.mp hi with rfl | hi
    · exact hnew
    · exact fun hmem => h.new i hi (List.mem_cons_of_mem id hmem)
  · obtain ⟨n, last, model, raw, manager, hlast, hanswer⟩ :=
      h.answered response hresponse hsuccess
    refine ⟨n, last, model, raw, manager, ?_, hanswer⟩
    simp [ExecuteRun.after, List.getLast?_cons, hlast]

lemma onceInTurn_executeLoop (modelId : Option String) (primaryId : String)
    (candidates : List ProviderInfo) :
    ∀ (n : ℕ) (manager : ProviderManager) (attempted : List String)
      (finalResponse : Option ProviderResponse), finalResponse.all (!·.success) = true →
      OnceInTurn world payload attempted (candidates.map ProviderInfo.providerId)
        (executeLoop world payload modelId primaryId n manager attempted finalResponse
          candidates) := by
  induction candidates with
  | nil =>
      intro n manager attempted finalResponse hfinal
      refine ⟨List.Sublist.refl _, List.nodup_nil, fun id hid => (by cases hid), ?_⟩
      intro response hresponse hsuccess
      obtain rfl := Except.ok.inj hresponse
      cases finalResponse with
      | none => cases hsuccess
      | some response =>
          rw [Option.getD_some] at hsuccess
          simp [hsuccess] at hfinal
  | cons candidate rest ih =>
      intro n manager attempted finalResponse hfinal
      rw [executeLoop]
      split
      · rename_i hseen
        have hrest := ih (n + 1) manager attempted finalResponse hfinal
        exact ⟨hrest.sublist.cons _, hrest.nodup, hrest.new, hrest.answered⟩
      · rename_i hnew
        have hnew : candidate.providerId ∉ attempted := by simpa using hnew
        have hone : [candidate.providerId].Sublist
            ((candidate :: rest).map ProviderInfo.providerId) :=
          List.singleton_sublist.mpr (List.mem_map_of_mem List.mem_cons_self)
        have honly : ∀ id ∈ [candidate.providerId], id ∉ attempted :=
          fun id hid => List.mem_singleton.mp hid ▸ hnew
        dsimp only
        split
        · exact (ih _ _ _ _ rfl).skip
        · split
          · rename_i contextError hcontext
            refine ⟨List.nil_sublist _, List.nodup_nil, fun id hid => (by cases hid), ?_⟩
            intro response hresponse hsuccess
            obtain rfl := Except.ok.inj hresponse
            rw [success_validateContext hcontext] at hsuccess
            cases hsuccess
          · split
            · exact (ih _ _ _ _ hfinal).skip
            · split
              · refine ⟨hone, List.nodup_singleton _, honly, fun response hresponse => ?_⟩
                cases hresponse
              · rename_i raw hraw
                split
                · refine ⟨hone, List.nodup_singleton _, honly, fun response hresponse _ => ?_⟩
                  exact ⟨n, _, _, raw, _, rfl, hraw, (Except.ok.inj hresponse).symm⟩
                · rename_i hfailed
                  simp only [Bool.or_eq_true, not_or] at hfailed
                  exact (ih _ _ _ _ (by simpa using hfailed.1)).call hnew

/-- With or without fallback, `execute_provider` calls eligible candidates in their order and none
of them twice, and reports a success only as the answer of the last one that it called. -/
theorem invoked_once (manager : ProviderManager) (world : ProviderWorld) (providerId : String)
    (payload : ProviderPayload) (modelId : Option String) (requiredCapabilities : List String)
    (constraints : Option ExecutionConstraints) :
    OnceInTurn world payload []
      ((manager.candidateInfos providerId requiredCapabilities constraints).map
        ProviderInfo.providerId)
      (manager.executeProvider world providerId payload modelId requiredCapabilities
        constraints) := by
  unfold executeProvider
  split
  · refine ⟨List.nil_sublist _, List.nodup_nil, fun id hid => (by cases hid), ?_⟩
    intro response hresponse hsuccess
    rw [← Except.ok.inj hresponse] at hsuccess
    cases hsuccess
  · exact onceInTurn_executeLoop modelId providerId _ 0 manager [] none rfl

end ProviderManager

end Samaktha
