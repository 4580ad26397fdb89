import Samaktha.Providers.Manager
import Samaktha.Providers.Router
import Mathlib.Data.List.Dedup

/-!
# Requests that stay on the machine

A request can ask for a local model in two places, its own flag and the flag of its execution
constraints.  The router heeds both; the decision that it makes carries the constraints only, and
the provider manager, which falls back to other providers, filters them by those constraints
only.
-/

namespace Samaktha

open ProviderManager

variable {registry : Dict String ProviderInfo} {settings : ProviderSettings}

/-! ## Carrying out a decision -/

/-- The ways to carry out a decision. -/
inductive ProviderPath where
  | executeProvider
  | streamProvider
  | executeProviderStream
  deriving Repr, DecidableEq, Inhabited

/-- The providers that are run for a decision, with the constraints of the decision. -/
def providersRun (manager : ProviderManager) (world : ProviderWorld) (decision : RoutingDecision)
    (requestId : String) (payload : ProviderPayload) (required : List String) :
    ProviderPath → List String
  | .executeProvider =>
      (manager.executeProvider world decision.providerId payload (some decision.modelId) required
        (some decision.executionConstraints)).invoked
  | .streamProvider =>
      (manager.streamProvider world {
        requestId := requestId
        providerId := decision.providerId
        prompt := payload.prompt
        messages := payload.messages
        capabilities := required
        executionConstraints := decision.executionConstraints
        modelId := some decision.modelId }).calls.map StreamCall.providerId
  | .executeProviderStream =>
      (manager.executeProviderStream world decision.providerId payload (some decision.modelId)
        required (some decision.executionConstraints)).invoked

lemma mem_of_providersRun {manager : ProviderManager} {world : ProviderWorld}
    {decision : RoutingDecision} {requestId : String} {payload : ProviderPayload}
    {required : List String} {path : ProviderPath} {providerId : String}
    (h : providerId ∈ providersRun manager world decision requestId payload required path) :
    ∃ candidate ∈ manager.candidateInfos decision.providerId required
        (some decision.executionConstraints), candidate.providerId = providerId := by
  cases path with
  | executeProvider =>
      unfold providersRun executeProvider at h
      dsimp only at h
      split at h
      · exact absurd h List.not_mem_nil
      · exact mem_of_executeLoop h
  | streamProvider =>
      obtain ⟨call, hcall, rfl⟩ := List.mem_map.mp h
      unfold streamProvider at hcall
      dsimp only at hcall
      split at hcall
      · exact absurd hcall List.not_mem_nil
      · exact mem_of_streamLoop hcall
  | executeProviderStream =>
      unfold providersRun executeProviderStream at h
      dsimp only at h
      split at h
      · exact absurd h List.not_mem_nil
      · exact mem_of_executeStreamLoop h

/-! ## What can be run -/

/-- The health in which every provider is configured, and all of some providers but one are in
cooldown. -/
def onlyOne (providerIds : List String) (providerId : String) : ProviderHealthChecker where
  settings := {
    openaiApiKey := some "key"
    groqApiKey := some "key"
    openrouterApiKey := some "key"
    localBaseUrl := some "url" }
  cooldowns := (providerIds.dedup.filter (· ≠ providerId)).map fun other => (other, 1)

/-- One provider is up, and some others are in cooldown at time zero. -/
structure Alone (health : ProviderHealthChecker) (providerIds : List String)
    (providerId : String) : Prop where
  enabled : health.isEnabled providerId = true
  configured : health.isConfigured providerId = true
  unchecked : health.getStatus providerId = none
  free : Dict.get? health.cooldowns providerId = none
  cooling : ∀ other ∈ providerIds, other ≠ providerId → Dict.get? health.cooldowns other = some 1
  cached : ∀ other status, health.getStatus other = some status → status.cooldownUntil.isSome

lemma get?_map_const {v : ℤ} (keys : List String) (key : String) :
    Dict.get? (keys.map fun other => (other, v)) key = if key ∈ keys then some v else none := by
  induction keys with
  | nil => rfl
  | cons k keys ih =>
      rw [List.map_cons, Dict.get?_cons, ih]
      by_cases h : k = key
      · simp [h]
      · have h' : ¬ key = k := fun heq => h heq.symm
        simp [h, h']

lemma alone_onlyOne (providerIds : List String) (providerId : String) :
    Alone (onlyOne providerIds providerId) providerIds providerId where
  enabled := by
    unfold ProviderHealthChecker.isEnabled onlyOne
    simp only [Dict.get?_cons, Dict.get?_nil]
    split_ifs <;> rfl
  configured := by
    unfold ProviderHealthChecker.isConfigured onlyOne
    simp only [Dict.get?_cons, Dict.get?_nil]
    split_ifs <;> rfl
  unchecked := rfl
  free := by
    unfold onlyOne
    rw [get?_map_const, if_neg]
    simp
  cooling := by
    intro other hmem hne
    unfold onlyOne
    rw [get?_map_const, if_pos]
    exact List.mem_filter.mpr ⟨List.mem_dedup.mpr hmem, decide_eq_true hne⟩
  cached := by
    intro other status h
    cases h

namespace Alone

variable {health : ProviderHealthChecker} {providerIds : List String} {providerId other : String}

lemma check_other (h : Alone health providerIds providerId) (hmem : other ∈ providerIds)
    (hne : other ≠ providerId) (registered : Bool) :
    (health.check other registered 0).1.available = false ∧
      Alone (health.check other registered 0).2 providerIds providerId := by
  have hcool := h.cooling other hmem hne
  have hin : health.isInCooldown other 0 = (true, health) := by
    unfold ProviderHealthChecker.isInCooldown
    rw [hcool]
    exact if_neg (by decide)
  have hcooldowns : (health.check other registered 0).2.cooldowns = health.cooldowns := by
    rw [ProviderHealthChecker.cooldowns_check, hin]
  have hsettings : (health.check other registered 0).2.settings = health.settings :=
    ProviderHealthChecker.settings_check
  refine ⟨?_, ?_, ?_, ?_, ?_, ?_, ?_⟩
  · rw [ProviderHealthChecker.available_check, hin, Bool.not_true, Bool.and_false]
  · unfold ProviderHealthChecker.isEnabled
    rw [hsettings]
    exact h.enabled
  · unfold ProviderHealthChecker.isConfigured
    rw [hsettings]
    exact h.configured
  · rw [ProviderHealthChecker.getStatus_check_of_ne hne.symm]
    exact h.unchecked
  · rw [hcooldowns]
    exact h.free
  · intro third hthird hthirdne
    rw [hcooldowns]
    exact h.cooling third hthird hthirdne
  · intro third status hstatus
    by_cases heq : third = other
    · subst heq
      rw [ProviderHealthChecker.getStatus_check_self] at hstatus
      obtain rfl := Option.some.inj hstatus
      rw [ProviderHealthChecker.cooldownUntil_check, hcooldowns, hcool]
      rfl
    · rw [ProviderHealthChecker.getStatus_check_of_ne heq] at hstatus
      exact h.cached third status hstatus

lemma available_self {manager : ProviderManager}
    (h : Alone manager.health providerIds providerId)
    (hinfo : (manager.getInfo providerId).isSome = true) :
    (manager.getProviderStatus providerId 0).1.available = true := by
  unfold getProviderStatus
  rw [h.unchecked]
  dsimp only
  rw [ProviderHealthChecker.available_check, h.enabled, h.configured, hinfo]
  unfold ProviderHealthChecker.isInCooldown
  rw [h.free]
  rfl

lemma unavailable_other {manager : ProviderManager}
    (h : Alone manager.health providerIds providerId) (hmem : other ∈ providerIds)
    (hne : other ≠ providerId) :
    (manager.getProviderStatus other 0).1.available = false ∧
      Alone (manager.getProviderStatus other 0).2.health providerIds providerId := by
  have hcheck := h.check_other hmem hne (manager.getInfo other).isSome
  unfold getProviderStatus
  split
  · rename_i cached hcached
    have hcooling := h.cached other cached hcached
    split
    · rename_i hnone
      rw [Option.isNone_iff_eq_none.mp hnone] at hcooling
      cases hcooling
    · exact hcheck
  · exact hcheck

end Alone

/-- The clock stands still, and every stream ends without a token. -/
def quietWorld : ProviderWorld where
  clock := fun _ => 0
  failedAt := fun _ => 0
  execute := fun _ _ _ => .ok {}
  executeStream := fun _ _ _ => ([], none)

lemma mem_streamLoop_of_alone {request : StreamRequest} {n : ℕ} {manager : ProviderManager}
    {attempted : List String} {sequenceNumber : ℕ} {lastError : Option (String × String)}
    {candidates : List ProviderInfo} {providerIds : List String} {candidate : ProviderInfo}
    (halone : Alone manager.health providerIds candidate.providerId)
    (hids : ∀ c ∈ candidates, c.providerId ∈ providerIds)
    (hinfo : (manager.getInfo candidate.providerId).isSome = true)
    (hattempted : candidate.providerId ∉ attempted) (hmem : candidate ∈ candidates) :
    candidate.providerId ∈ (streamLoop quietWorld request n manager attempted sequenceNumber
      lastError candidates).calls.map StreamCall.providerId := by
  induction candidates generalizing n manager attempted sequenceNumber lastError with
  | nil => exact absurd hmem List.not_mem_nil
  | cons c candidates ih =>
      have hrest := fun other hother => hids other (List.mem_cons_of_mem c hother)
      have htail : c.providerId ≠ candidate.providerId → candidate ∈ candidates := fun hne =>
        (List.mem_cons.mp hmem).resolve_left fun heq => hne (congrArg _ heq.symm)
      rw [streamLoop]
      dsimp only
      split
      · rename_i hseen
        have hseen : c.providerId ∈ attempted := by simpa using hseen
        have hne : c.providerId ≠ candidate.providerId := fun heq => hattempted (heq ▸ hseen)
        exact ih halone hrest hinfo hattempted (htail hne)
      · by_cases heq : c.providerId = candidate.providerId
        · have hup := halone.available_self hinfo
          obtain ⟨info, hget⟩ := Option.isSome_iff_exists.mp hinfo
          have hgo : (!((manager.getProviderStatus c.providerId 0).1.available) ||
              ((manager.getProviderStatus c.providerId 0).2.getInfo c.providerId).isNone) =
                false := by
            rw [getInfo_getProviderStatus, heq, hup, hget]
            rfl
          rw [if_neg (by rw [show quietWorld.clock n = 0 from rfl, hgo]; exact Bool.false_ne_true)]
          exact List.mem_singleton.mpr heq.symm
        · obtain ⟨hdown, hstill⟩ :=
            halone.unavailable_other (hids c List.mem_cons_self) heq
          rw [if_pos (by rw [show quietWorld.clock n = 0 from rfl, hdown]; rfl)]
          refine ih hstill hrest ?_ ?_ (htail heq)
          · rw [getInfo_getProviderStatus]
            exact hinfo
          · exact List.not_mem_cons_of_ne_of_not_mem (fun h => heq h.symm) hattempted

/-! ## The condition -/

/-- What a routing decision can run: the routed provider and, with fallback, every other one,
where it has the capabilities that are required and, if the constraints require a local model,
is registered as local. -/
def Runnable (registry : Dict String ProviderInfo) (settings : ProviderSettings)
    (providerId : String) (required : List String) (constraints : ExecutionConstraints)
    (info : ProviderInfo) : Prop :=
  ∃ selected, Dict.get? registry providerId = some selected ∧
    (info = selected ∨ settings.fallbackEnabled = true ∧ info ∈ registry.map Prod.snd ∧
      info.providerId ≠ providerId) ∧
    (info.capabilities = [] ∨
      ∀ capability ∈ (if required = [] then selected.capabilities else required),
        capability ∈ info.capabilities) ∧
    (constraints.requiresLocalModel = true → info.executionLocation = .local)

lemma mem_candidateInfos_iff {health : ProviderHealthChecker} {providerId : String}
    {required : List String} {constraints : ExecutionConstraints} {info : ProviderInfo} :
    info ∈ candidateInfos { registry := registry, settings := settings, health := health }
        providerId required (some constraints) ↔
      Runnable registry settings providerId required constraints info := by
  unfold candidateInfos Runnable getInfo
  dsimp only
  cases hselected : Dict.get? registry providerId with
  | none => simp
  | some selected =>
      have hothers : info ∈ (if settings.fallbackEnabled then
            (registry.map Prod.snd).filter fun provider => provider.providerId ≠ providerId
          else []) ↔ settings.fallbackEnabled = true ∧ info ∈ registry.map Prod.snd ∧
            info.providerId ≠ providerId := by
        cases settings.fallbackEnabled <;> simp [List.mem_filter]
      have hrequired : (if required.isEmpty then selected.capabilities else required) =
          if required = [] then selected.capabilities else required := by
        cases required <;> rfl
      have hlocation : (!constraints.requiresLocalModel || info.executionLocation = .local) = true ↔
          (constraints.requiresLocalModel = true → info.executionLocation = .local) := by
        cases constraints.requiresLocalModel <;> simp
      have heligible : ∀ capabilities : List String,
          eligible capabilities (some constraints) info = true ↔
            (info.capabilities = [] ∨ ∀ capability ∈ capabilities,
              capability ∈ info.capabilities) ∧
            (constraints.requiresLocalModel = true → info.executionLocation = .local) := by
        intro capabilities
        unfold eligible
        rw [Bool.and_eq_true, Option.any_some, hlocation, Bool.or_eq_true, List.isEmpty_iff,
          List.all_eq_true, and_comm]
        simp
      show info ∈ List.filter _ (selected :: if settings.fallbackEnabled then
            (registry.map Prod.snd).filter fun provider => provider.providerId ≠ providerId
          else []) ↔ _
      rw [List.mem_filter, List.mem_cons, hothers, heligible, hrequired]
      constructor
      · rintro ⟨hmem, hcapable, hlocal⟩
        exact ⟨selected, rfl, hmem, hcapable, hlocal⟩
      · rintro ⟨selected', hsame, hmem, hcapable, hlocal⟩
        obtain rfl := Option.some.inj hsame
        exact ⟨hmem, hcapable, hlocal⟩

/-- Whether the provider under an id is local. -/
def RunsLocally (registry : Dict String ProviderInfo) (providerId : String) : Prop :=
  ∀ info, Dict.get? registry providerId = some info → info.executionLocation = .local

/-- Where the infos are kept under their own ids, constraints that require a local model are
enough. -/
lemma runsLocally_of_requiresLocalModel {providerId : String} {required : List String}
    {constraints : ExecutionConstraints} (hkeyed : Dict.KeyedBy ProviderInfo.providerId registry)
    (hconstraints : constraints.requiresLocalModel = true) {info : ProviderInfo}
    (h : Runnable registry settings providerId required constraints info) :
    RunsLocally registry info.providerId := by
  obtain ⟨selected, hselected, hchoice, -, hlocal⟩ := h
  have hown : Dict.get? registry info.providerId = some info := by
    rcases hchoice with rfl | ⟨-, hmem, -⟩
    · rw [hkeyed.eq_of_get? hselected]
      exact hselected
    · obtain ⟨⟨key, info'⟩, hpair, rfl⟩ := List.mem_map.mp hmem
      have hget := hkeyed.get?_of_mem hpair
      rw [hkeyed.eq_of_get? hget]
      exact hget
  intro registered hregistered
  obtain rfl := Option.some.inj (hown.symm.trans hregistered)
  exact hlocal hconstraints

lemma mem_providersRun_of_runnable {decision : RoutingDecision} {required : List String}
    {info selected registered : ProviderInfo}
    (hrunnable : Runnable registry settings decision.providerId required
      decision.executionConstraints info)
    (hselected : Dict.get? registry decision.providerId = some selected)
    (hregistered : Dict.get? registry info.providerId = some registered) :
    info.providerId ∈ providersRun {
        registry := registry
        settings := settings
        health := onlyOne ((candidateInfos { registry := registry, settings := settings }
          decision.providerId required (some decision.executionConstraints)).map
            ProviderInfo.providerId) info.providerId }
      quietWorld decision "" {} required .streamProvider := by
  unfold providersRun streamProvider getInfo
  dsimp only
  rw [hselected]
  refine mem_streamLoop_of_alone (alone_onlyOne _ _) (fun c hc => List.mem_map_of_mem hc) ?_
    List.not_mem_nil (mem_candidateInfos_iff.mpr hrunnable)
  exact Option.isSome_iff_exists.mpr ⟨registered, hregistered⟩

/-- A request that has to stay on the machine is routed to a local candidate that is no mock, or
to nothing.  Carrying the decision out never runs a provider that is not local, on any path and
whatever happens, exactly where no provider that the constraints let it run is under the id of
such a one. -/
theorem staysLocal_iff (router : ModelRouter) (checker : Option ProviderHealthChecker)
    (clock : ℕ → ℤ) (request : RouterRequest) (hlocal : request.requiresLocal = true)
    (registry : Dict String ProviderInfo) (settings : ProviderSettings) (required : List String) :
    (ModelRouter.SelectsFrom
        (router.registrations.filter ProviderModelRegistration.staysLocal)
        (router.route checker clock request).1 ∧
      ∀ health world requestId payload path, ∀ providerId ∈ providersRun
        { registry := registry, settings := settings, health := health } world
        (router.route checker clock request).1 requestId payload required path,
          RunsLocally registry providerId) ↔
      ∀ info, Runnable registry settings (router.route checker clock request).1.providerId required
        request.executionConstraints info → RunsLocally registry info.providerId := by
  have hconstraints := router.executionConstraints_route request checker clock
  constructor
  · rintro ⟨-, hall⟩ info hrunnable registered hregistered
    have hselected := hrunnable
    obtain ⟨selected, hselected, -⟩ := hselected
    rw [← hconstraints] at hrunnable
    have hrun := mem_providersRun_of_runnable hrunnable hselected hregistered
    exact hall _ quietWorld "" {} .streamProvider info.providerId hrun registered hregistered
  · intro hcondition
    refine ⟨?_, fun health world requestId payload path providerId hrun => ?_⟩
    · refine (router.selectsFrom_route request checker clock).mono fun candidate hcandidate => ?_
      exact List.mem_filter.mpr (router.staysLocal_eligibleCandidates request hlocal hcandidate)
    · obtain ⟨info, hmem, rfl⟩ := mem_of_providersRun hrun
      rw [hconstraints] at hmem
      exact hcondition info (mem_candidateInfos_iff.mp hmem)

/-- A router that knows a local model. -/
def sampleRouter : ModelRouter where
  registrations := [{
    providerId := "local"
    modelId := "m"
    capabilities := ["text_generation"]
    executionLocation := .local }]

/-- A request that has to stay on the machine, by its own flag or by its constraints. -/
def sampleRequest (requiresLocalModel : Bool) (constraints : ExecutionConstraints) :
    RouterRequest where
  purpose := ""
  complexity := .low
  estimatedContextTokens := 0
  requiresLocalModel := requiresLocalModel
  requiresCode := false
  requiresReasoning := false
  executionConstraints := constraints

/-- A local provider and one in the cloud. -/
def sampleProviders : Dict String ProviderInfo := [
  ("local", {
    providerId := "local"
    capabilities := ["text_generation"]
    models := ["m"]
    executionLocation := .local }),
  ("openai", {
    providerId := "openai"
    capabilities := ["text_generation"]
    models := ["gpt"] })]

/-- The flag of the constraints keeps the request on the machine. -/
theorem staysLocal_sample :
    ModelRouter.SelectsFrom
        (sampleRouter.registrations.filter ProviderModelRegistration.staysLocal)
        (sampleRouter.route none (fun _ => 0)
          (sampleRequest false { requiresLocalModel := true })).1 ∧
      ∀ health world requestId payload path, ∀ providerId ∈ providersRun
        { registry := sampleProviders, settings := {}, health := health } world
        (sampleRouter.route none (fun _ => 0)
          (sampleRequest false { requiresLocalModel := true })).1 requestId payload
          ["text_generation"] path, RunsLocally sampleProviders providerId := by
  refine (staysLocal_iff sampleRouter none (fun _ => 0)
    (sampleRequest false { requiresLocalModel := true }) rfl sampleProviders {}
    ["text_generation"]).mpr fun info hrunnable => ?_
  have hkeyed : Dict.KeyedBy ProviderInfo.providerId sampleProviders := by
    refine ⟨?_, fun providerId info hmem => ?_⟩
    · show (["local", "openai"] : List String).Nodup
      decide
    · simp only [sampleProviders, List.mem_cons, Prod.mk.injEq, List.not_mem_nil, or_false] at hmem
      rcases hmem with ⟨rfl, rfl⟩ | ⟨rfl, rfl⟩ <;> rfl
  exact runsLocally_of_requiresLocalModel hkeyed rfl hrunnable

/-- The flag of the request alone does not: where the local stream fails, the one in the cloud
answers. -/
theorem staysLocal_not :
    ¬ ∀ (router : ModelRouter) (checker : Option ProviderHealthChecker) (clock : ℕ → ℤ)
      (request : RouterRequest) (registry : Dict String ProviderInfo)
      (settings : ProviderSettings) (required : List String), request.requiresLocal = true →
      ModelRouter.SelectsFrom
          (router.registrations.filter ProviderModelRegistration.staysLocal)
          (router.route checker clock request).1 ∧
        ∀ health world requestId payload path, ∀ providerId ∈ providersRun
          { registry := registry, settings := settings, health := health } world
          (router.route checker clock request).1 requestId payload required path,
            RunsLocally registry providerId := by
  intro h
  have hrun := (h sampleRouter none (fun _ => 0) (sampleRequest true {}) sampleProviders {}
    ["text_generation"] rfl).2
    { settings := { openaiApiKey := some "key", localBaseUrl := some "u" } }
    { clock := fun _ => 0
      failedAt := fun _ => 0
      execute := fun _ _ _ => .ok {}
      executeStream := fun n _ _ => if n = 0 then ([], some { message := "" }) else (["a"], none) }
    "q" { prompt := "private" } .streamProvider "openai" (by decide)
  have hcloud := hrun _ rfl
  exact absurd hcloud (by decide)

end Samaktha
