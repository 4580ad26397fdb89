import Samaktha.Foundation.Dict

/-!
# Provider health

`ProviderHealthChecker`: whether a provider is enabled, configured and out of cooldown, from the
settings, the cooldowns and the cached statuses.  Times are microseconds, and every call reads
the clock once.  The counters of a status, which no check reads, are left out.
-/

namespace Samaktha

/-- Where a provider or a model performs inference. -/
inductive ExecutionLocation where
  | local
  | cloud
  deriving Repr, DecidableEq, Inhabited

/-- The settings of providers that health and execution read. -/
structure ProviderSettings where
  openaiEnabled : Bool := true
  openaiApiKey : Option String := none
  groqEnabled : Bool := true
  groqApiKey : Option String := none
  openrouterEnabled : Bool := true
  openrouterApiKey : Option String := none
  localEnabled : Bool := true
  localBaseUrl : Option String := none
  mockEnabled : Bool := true
  cooldownSeconds : ℤ := 60
  fallbackEnabled : Bool := true
  maxOutputTokens : ℤ := 1024
  deriving Repr, DecidableEq, Inhabited

/-- Current deterministic health state for a provider. -/
structure ProviderStatus where
  providerId : String
  enabled : Bool
  configured : Bool
  available : Bool
  reachable : Bool := false
  rateLimited : Bool := false
  cooldownUntil : Option ℤ := none
  lastChecked : Option ℤ := none
  lastError : Option String := none
  deriving Repr, DecidableEq, Inhabited

/-- Tracks provider availability. -/
structure ProviderHealthChecker where
  settings : ProviderSettings := {}
  statusCache : Dict String ProviderStatus := []
  cooldowns : Dict String ℤ := []
  deriving Inhabited

namespace ProviderHealthChecker

def getStatus (health : ProviderHealthChecker) (providerId : String) : Option ProviderStatus :=
  Dict.get? health.statusCache providerId

def isEnabled (health : ProviderHealthChecker) (providerId : String) : Bool :=
  (Dict.get? [
    ("mock", health.settings.mockEnabled),
    ("openai", health.settings.openaiEnabled),
    ("groq", health.settings.groqEnabled),
    ("openrouter", health.settings.openrouterEnabled),
    ("local", health.settings.localEnabled)] providerId).getD true

/-- `bool` of an optional text. -/
def given : Option String → Bool
  | some text => text ≠ ""
  | none => false

def isConfigured (health : ProviderHealthChecker) (providerId : String) : Bool :=
  (Dict.get? [
    ("mock", true),
    ("openai", given health.settings.openaiApiKey),
    ("groq", given health.settings.groqApiKey),
    ("openrouter", given health.settings.openrouterApiKey),
    ("local", given health.settings.localBaseUrl)] providerId).getD true

/-- `is_in_cooldown`: a cooldown that is over is dropped. -/
def isInCooldown (health : ProviderHealthChecker) (providerId : String) (now : ℤ) :
    Bool × ProviderHealthChecker :=
  match Dict.get? health.cooldowns providerId with
  | none => (false, health)
  | some deadline =>
      if deadline ≤ now then
        (false, { health with cooldowns := Dict.erase health.cooldowns providerId })
      else (true, health)

/-- `mark_cooldown`, for some seconds or for those of the settings. -/
def markCooldown (health : ProviderHealthChecker) (providerId : String) (now : ℤ)
    (seconds : Option ℤ := none) : ProviderHealthChecker :=
  let deadline := now + 1000000 * seconds.getD health.settings.cooldownSeconds
  let health := { health with cooldowns := Dict.set health.cooldowns providerId deadline }
  match Dict.get? health.statusCache providerId with
  | none => health
  | some status => { health with
      statusCache := Dict.set health.statusCache providerId { status with
        available := false
        rateLimited := true
        cooldownUntil := some deadline
        lastChecked := some now
        lastError := some "Provider is in cooldown" } }

def clearCooldown (health : ProviderHealthChecker) (providerId : String) :
    ProviderHealthChecker :=
  { health with cooldowns := Dict.erase health.cooldowns providerId }

def lastErrorOf (registered enabled configured : Bool) : Option String :=
  if !registered then some "Provider is not registered"
  else if !enabled then some "Provider is disabled"
  else if !configured then some "Provider configuration is incomplete"
  else none

/-- `check`; `registered` says whether there is a provider with the id. -/
def check (health : ProviderHealthChecker) (providerId : String) (registered : Bool) (now : ℤ) :
    ProviderStatus × ProviderHealthChecker :=
  let enabled := health.isEnabled providerId
  let configured := registered && health.isConfigured providerId
  let (inCooldown, health) := health.isInCooldown providerId now
  let available := enabled && configured && !inCooldown
  let existing := health.getStatus providerId
  let reachable := available && registered &&
    (existing.map ProviderStatus.reachable).getD true
  let lastError := lastErrorOf registered enabled configured
  let lastError := if inCooldown && lastError.isNone then some "Provider is in cooldown"
    else lastError
  let lastError := if !reachable && lastError.isNone then
      some "Provider is currently unreachable"
    else lastError
  let status : ProviderStatus := match existing with
    | some status => { status with
        enabled := enabled
        configured := configured
        available := available
        rateLimited := inCooldown
        cooldownUntil := Dict.get? health.cooldowns providerId
        lastChecked := some now
        lastError := lastError.or status.lastError }
    | none => {
        providerId := providerId
        enabled := enabled
        configured := configured
        available := available
        reachable := reachable
        rateLimited := inCooldown
        cooldownUntil := Dict.get? health.cooldowns providerId
        lastChecked := some now
        lastError := lastError }
  (status, { health with statusCache := Dict.set health.statusCache providerId status })

/-- `is_available`: a cached status decides, once a cooldown of its own that is over is dropped;
without one, the settings and the cooldowns do. -/
def isAvailable (health : ProviderHealthChecker) (providerId : String) (now : ℤ) :
    Bool × ProviderHealthChecker :=
  match health.getStatus providerId with
  | some status =>
      if status.cooldownUntil.any (fun deadline => deadline ≤ now) then
        let available := status.enabled && status.configured
        let status := { status with
          available := available
          rateLimited := false
          cooldownUntil := none
          lastChecked := some now
          lastError := if available then none else status.lastError }
        (available, { health with
          cooldowns := Dict.erase health.cooldowns providerId
          statusCache := Dict.set health.statusCache providerId status })
      else (status.available, health)
  | none =>
      if health.isEnabled providerId && health.isConfigured providerId then
        let (inCooldown, health) := health.isInCooldown providerId now
        (!inCooldown, health)
      else (false, health)

/-! ## What a check leaves -/

variable {health : ProviderHealthChecker} {providerId other : String} {registered : Bool} {now : ℤ}

lemma cooldowns_isInCooldown (h : other ≠ providerId) :
    Dict.get? (health.isInCooldown providerId now).2.cooldowns other =
      Dict.get? health.cooldowns other := by
  unfold isInCooldown
  cases Dict.get? health.cooldowns providerId with
  | none => rfl
  | some deadline =>
      dsimp only
      split
      · exact Dict.get?_erase_of_ne h.symm _
      · rfl

lemma settings_isInCooldown :
    (health.isInCooldown providerId now).2.settings = health.settings := by
  unfold isInCooldown
  split
  · rfl
  · split <;> rfl

lemma statusCache_isInCooldown :
    (health.isInCooldown providerId now).2.statusCache = health.statusCache := by
  unfold isInCooldown
  split
  · rfl
  · split <;> rfl

lemma available_check :
    (health.check providerId registered now).1.available =
      (health.isEnabled providerId && (registered && health.isConfigured providerId) &&
        !(health.isInCooldown providerId now).1) := by
  unfold check
  dsimp only
  split <;> rfl

lemma cooldowns_check :
    (health.check providerId registered now).2.cooldowns =
      (health.isInCooldown providerId now).2.cooldowns := rfl

lemma settings_check : (health.check providerId registered now).2.settings = health.settings :=
  settings_isInCooldown

lemma getStatus_check_of_ne (h : other ≠ providerId) :
    (health.check providerId registered now).2.getStatus other = health.getStatus other := by
  show Dict.get?
    (Dict.set (health.isInCooldown providerId now).2.statusCache providerId _) other = _
  rw [Dict.get?_set_of_ne h.symm, statusCache_isInCooldown]
  rfl

lemma getStatus_check_self :
    (health.check providerId registered now).2.getStatus providerId =
      some (health.check providerId registered now).1 :=
  Dict.get?_set_self _ _ _

lemma cooldownUntil_check :
    (health.check providerId registered now).1.cooldownUntil =
      Dict.get? (health.check providerId registered now).2.cooldowns providerId := by
  unfold check
  dsimp only
  split <;> rfl

end ProviderHealthChecker

end Samaktha
