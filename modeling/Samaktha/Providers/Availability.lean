import Samaktha.Providers.Manager
import Samaktha.Foundation.Machine

/-!
# Who is available

The router asks `is_available`, the manager asks `get_provider_status`, and both go back to
`check`.  They answer from two places: the table of cooldowns, and a cached status with a stamp of
its own.  A cooldown that is marked goes to both, one that is cleared leaves the stamp behind, so
that a provider may be out for the router and not for the manager (`availability_agrees_iff`).

A history is a list of calls, queries included, and of moments at which time passes; the ledger
has, for each provider, the end of the last cooldown that was marked and not cleared.
-/

namespace Samaktha

/-- A call of the history, or time that passes. -/
inductive HealthCall where
  /-- `check`, with the provider that is registered under the id. -/
  | check (providerId : String)
  /-- `mark_cooldown` -/
  | mark (providerId : String) (seconds : Option ℤ)
  /-- `clear_cooldown` -/
  | clear (providerId : String)
  /-- `prepare_semantic_retry` -/
  | retry (providerId : String)
  /-- `is_available` -/
  | isAvailable (providerId : String)
  /-- `get_provider_status` -/
  | status (providerId : String)
  | advance (microseconds : ℕ)
  deriving Repr, DecidableEq, Inhabited

/-- A manager with its health checker, the clock, and the ledger of cooldowns. -/
structure HealthHistory where
  manager : ProviderManager
  now : ℤ
  ledger : Dict String ℤ := []

namespace HealthHistory

/-- A manager before its first call. -/
def new (registry : Dict String ProviderInfo) (settings : ProviderSettings) (now : ℤ) :
    HealthHistory where
  manager := { registry := registry, settings := settings, health := { settings := settings } }
  now := now

/-- The history with another health checker. -/
def withHealth (s : HealthHistory) (health : ProviderHealthChecker) : HealthHistory :=
  { s with manager := { s.manager with health := health } }

/-- Whether there is a provider with the id. -/
def registered (s : HealthHistory) (providerId : String) : Bool :=
  (s.manager.getInfo providerId).isSome

/-- `clear_cooldown`, in the ledger too. -/
def clear (s : HealthHistory) (providerId : String) : HealthHistory :=
  { s.withHealth (s.manager.health.clearCooldown providerId) with
    ledger := Dict.erase s.ledger providerId }

def apply (s : HealthHistory) : HealthCall → HealthHistory
  | .check providerId =>
      s.withHealth (s.manager.health.check providerId (s.registered providerId) s.now).2
  | .mark providerId seconds =>
      { s.withHealth (s.manager.health.markCooldown providerId s.now seconds) with
        ledger := Dict.set s.ledger providerId
          (s.now + 1000000 * seconds.getD s.manager.health.settings.cooldownSeconds) }
  | .clear providerId => s.clear providerId
  | .retry providerId => s.clear providerId
  | .isAvailable providerId =>
      s.withHealth (s.manager.health.isAvailable providerId s.now).2
  | .status providerId =>
      { s with manager := (s.manager.getProviderStatus providerId s.now).2 }
  | .advance microseconds => { s with now := s.now + microseconds }

def machine : Machine HealthHistory HealthCall := ⟨fun s call => some (s.apply call)⟩

/-- The router, a fresh check and the manager answer alike, and in the negative exactly while the
last cooldown that was marked and not cleared is in force. -/
structure Agrees (s : HealthHistory) (providerId : String) : Prop where
  checked : (s.manager.health.isAvailable providerId s.now).1 =
    (s.manager.health.check providerId (s.registered providerId) s.now).1.available
  managed : (s.manager.getProviderStatus providerId s.now).1.available =
    (s.manager.health.check providerId (s.registered providerId) s.now).1.available
  cooling : (s.manager.health.isAvailable providerId s.now).1 = false ↔
    ∃ deadline, Dict.get? s.ledger providerId = some deadline ∧ s.now < deadline

/-- The call does not clear a cooldown of the provider while the cached status bears its stamp. -/
def LeavesNoStamp (providerId : String) (s : HealthHistory) : HealthCall → Prop
  | .clear other | .retry other =>
      other = providerId →
        ∀ status, s.manager.health.getStatus providerId = some status →
          ∀ deadline, status.cooldownUntil = some deadline → deadline ≤ s.now
  | _ => True

/-! ## What a call changes -/

section

variable {s : HealthHistory} {p q : String}

/-- The cached status of a provider. -/
def cached (s : HealthHistory) (p : String) : Option ProviderStatus := s.manager.health.getStatus p

/-- Its entry in the table of cooldowns. -/
def cooldown (s : HealthHistory) (p : String) : Option ℤ := Dict.get? s.manager.health.cooldowns p

/-- The provider a call is about. -/
def about : HealthCall → Option String
  | .check p | .mark p _ | .clear p | .retry p | .isAvailable p | .status p => some p
  | .advance _ => none

lemma cooldowns_isAvailable_of_ne (h : q ≠ p) (health : ProviderHealthChecker) (now : ℤ) :
    Dict.get? (health.isAvailable q now).2.cooldowns p = Dict.get? health.cooldowns p := by
  unfold ProviderHealthChecker.isAvailable
  split
  · split
    · exact Dict.get?_erase_of_ne h _
    · rfl
  · split
    · exact ProviderHealthChecker.cooldowns_isInCooldown h.symm
    · rfl

lemma getStatus_isAvailable_of_ne (h : q ≠ p) (health : ProviderHealthChecker) (now : ℤ) :
    (health.isAvailable q now).2.getStatus p = health.getStatus p := by
  unfold ProviderHealthChecker.isAvailable
  split
  · split
    · exact Dict.get?_set_of_ne h _ _
    · rfl
  · split
    · exact congrArg (Dict.get? · p) ProviderHealthChecker.statusCache_isInCooldown
    · rfl

lemma settings_isAvailable (health : ProviderHealthChecker) (now : ℤ) :
    (health.isAvailable q now).2.settings = health.settings := by
  unfold ProviderHealthChecker.isAvailable
  split
  · split <;> rfl
  · split
    · exact ProviderHealthChecker.settings_isInCooldown
    · rfl

lemma getStatus_markCooldown_of_ne (h : q ≠ p) (health : ProviderHealthChecker)
    (seconds : Option ℤ) (now : ℤ) :
    (health.markCooldown q now seconds).getStatus p = health.getStatus p := by
  unfold ProviderHealthChecker.markCooldown
  dsimp only
  split
  · rfl
  · exact Dict.get?_set_of_ne h _ _

lemma cooldowns_markCooldown (health : ProviderHealthChecker) (seconds : Option ℤ) (now : ℤ) :
    (health.markCooldown q now seconds).cooldowns =
      Dict.set health.cooldowns q
        (now + 1000000 * seconds.getD health.settings.cooldownSeconds) := by
  unfold ProviderHealthChecker.markCooldown
  dsimp only
  split <;> rfl

lemma settings_markCooldown (health : ProviderHealthChecker) (seconds : Option ℤ) (now : ℤ) :
    (health.markCooldown q now seconds).settings = health.settings := by
  unfold ProviderHealthChecker.markCooldown
  dsimp only
  split <;> rfl

lemma apply_status (s : HealthHistory) (p : String) :
    s.apply (.status p) = s.apply (.check p) ∨ s.apply (.status p) = s := by
  have hstep : s.apply (.status p) =
      { s with manager := (s.manager.getProviderStatus p s.now).2 } := rfl
  rw [hstep, ProviderManager.getProviderStatus]
  cases s.manager.health.getStatus p with
  | none => exact .inl rfl
  | some cached =>
      cases hstamp : cached.cooldownUntil.isNone with
      | true =>
          right
          dsimp only
          rw [if_pos hstamp]
      | false =>
          left
          dsimp only
          rw [if_neg (Bool.eq_false_iff.mp hstamp)]
          rfl

lemma settings_apply (s : HealthHistory) (call : HealthCall) :
    (s.apply call).manager.health.settings = s.manager.health.settings ∧
      (s.apply call).manager.registry = s.manager.registry := by
  have hcheck : ∀ p, (s.apply (.check p)).manager.health.settings = s.manager.health.settings ∧
      (s.apply (.check p)).manager.registry = s.manager.registry :=
    fun p => ⟨ProviderHealthChecker.settings_check, rfl⟩
  cases call with
  | check p => exact hcheck p
  | mark p seconds => exact ⟨settings_markCooldown _ _ _, rfl⟩
  | clear p => exact ⟨rfl, rfl⟩
  | retry p => exact ⟨rfl, rfl⟩
  | isAvailable p => exact ⟨settings_isAvailable _ _, rfl⟩
  | status p =>
      rcases apply_status s p with h | h
      · rw [h]
        exact hcheck p
      · rw [h]
        exact ⟨rfl, rfl⟩
  | advance d => exact ⟨rfl, rfl⟩

lemma apply_of_ne {call : HealthCall} (h : ∀ q, about call = some q → q ≠ p) :
    (s.apply call).cached p = s.cached p ∧ (s.apply call).cooldown p = s.cooldown p ∧
      Dict.get? (s.apply call).ledger p = Dict.get? s.ledger p := by
  have hcheck : ∀ q, q ≠ p → (s.apply (.check q)).cached p = s.cached p ∧
      (s.apply (.check q)).cooldown p = s.cooldown p ∧
      Dict.get? (s.apply (.check q)).ledger p = Dict.get? s.ledger p :=
    fun q hne => ⟨ProviderHealthChecker.getStatus_check_of_ne hne.symm,
      ProviderHealthChecker.cooldowns_isInCooldown hne.symm, rfl⟩
  have hclear : ∀ q, q ≠ p → (s.clear q).cached p = s.cached p ∧
      (s.clear q).cooldown p = s.cooldown p ∧
      Dict.get? (s.clear q).ledger p = Dict.get? s.ledger p :=
    fun q hne => ⟨rfl, Dict.get?_erase_of_ne hne _, Dict.get?_erase_of_ne hne _⟩
  cases call with
  | check q => exact hcheck q (h q rfl)
  | mark q seconds =>
      refine ⟨getStatus_markCooldown_of_ne (h q rfl) _ _ _, ?_,
        Dict.get?_set_of_ne (h q rfl) _ _⟩
      exact (congrArg (Dict.get? · p) (cooldowns_markCooldown _ _ _)).trans
        (Dict.get?_set_of_ne (h q rfl) _ _)
  | clear q => exact hclear q (h q rfl)
  | retry q => exact hclear q (h q rfl)
  | isAvailable q =>
      exact ⟨getStatus_isAvailable_of_ne (h q rfl) _ _, cooldowns_isAvailable_of_ne (h q rfl) _ _,
        rfl⟩
  | status q =>
      rcases apply_status s q with heq | heq
      · rw [heq]
        exact hcheck q (h q rfl)
      · rw [heq]
        exact ⟨rfl, rfl, rfl⟩
  | advance d => exact ⟨rfl, rfl, rfl⟩

end

/-! ## The stamp and the table -/

/-- The provider is registered, enabled and configured. -/
structure Up (s : HealthHistory) (p : String) : Prop where
  registered : s.registered p = true
  enabled : s.manager.health.isEnabled p = true
  configured : s.manager.health.isConfigured p = true

/-- As far as deadlines are still ahead, the table has what the ledger has, and the cached status
bears the stamp of what the table has; it is available where it bears no stamp. -/
structure Stamped (s : HealthHistory) (p : String) : Prop where
  ledger : ∀ deadline, s.now < deadline →
    (s.cooldown p = some deadline ↔ Dict.get? s.ledger p = some deadline)
  status : ∀ status, s.cached p = some status →
    status.enabled = true ∧ status.configured = true ∧
      status.available = status.cooldownUntil.isNone
  stamp : ∀ status, s.cached p = some status → ∀ deadline, s.now < deadline →
    s.cooldown p = some deadline → status.cooldownUntil = some deadline

/-- A stamp that is still ahead is in the table. -/
def Backed (s : HealthHistory) (p : String) : Prop :=
  ∀ status, s.cached p = some status → ∀ deadline, s.now < deadline →
    status.cooldownUntil = some deadline → s.cooldown p = some deadline

section

variable {s : HealthHistory} {p : String} {call : HealthCall}

lemma Up.apply (h : Up s p) (call : HealthCall) : Up (s.apply call) p := by
  obtain ⟨hsettings, hregistry⟩ := settings_apply s call
  refine ⟨?_, ?_, ?_⟩
  · have hregistered := h.registered
    unfold HealthHistory.registered ProviderManager.getInfo at hregistered ⊢
    rw [hregistry, hregistered]
  · have henabled := h.enabled
    unfold ProviderHealthChecker.isEnabled at henabled ⊢
    rw [hsettings, henabled]
  · have hconfigured := h.configured
    unfold ProviderHealthChecker.isConfigured at hconfigured ⊢
    rw [hsettings, hconfigured]

lemma isInCooldown_eq (health : ProviderHealthChecker) (now : ℤ) :
    Dict.get? (health.isInCooldown p now).2.cooldowns p =
        (Dict.get? health.cooldowns p).filter (fun deadline => now < deadline) ∧
      (health.isInCooldown p now).1 =
        ((Dict.get? health.cooldowns p).filter fun deadline => now < deadline).isSome := by
  unfold ProviderHealthChecker.isInCooldown
  cases hget : Dict.get? health.cooldowns p with
  | none => exact ⟨hget, rfl⟩
  | some deadline =>
      dsimp only
      by_cases hover : deadline ≤ now
      · have hahead : ¬ now < deadline := not_lt.mpr hover
        rw [if_pos hover, Option.filter_some_neg (by simpa using hahead)]
        exact ⟨Dict.get?_erase_self _ _, rfl⟩
      · have hahead : now < deadline := not_le.mp hover
        rw [if_neg hover, Option.filter_some_pos (by simpa using hahead)]
        exact ⟨hget, rfl⟩

lemma filter_ahead_eq_some_iff {o : Option ℤ} {now deadline : ℤ} :
    (o.filter fun d => now < d) = some deadline ↔ o = some deadline ∧ now < deadline := by
  rw [Option.filter_eq_some_iff, decide_eq_true_eq]

lemma check_self (h : Up s p) :
    (s.apply (.check p)).cooldown p = (s.cooldown p).filter (fun d => s.now < d) ∧
      ∃ status, (s.apply (.check p)).cached p = some status ∧
        status = (s.manager.health.check p (s.registered p) s.now).1 ∧
        status.enabled = true ∧ status.configured = true ∧
        status.cooldownUntil = (s.cooldown p).filter (fun d => s.now < d) ∧
        status.available = status.cooldownUntil.isNone := by
  have hcooldown := (isInCooldown_eq (p := p) s.manager.health s.now).1
  have hstamp : (s.manager.health.check p (s.registered p) s.now).1.cooldownUntil =
      (s.cooldown p).filter (fun d => s.now < d) :=
    ProviderHealthChecker.cooldownUntil_check.trans hcooldown
  refine ⟨hcooldown, _, ProviderHealthChecker.getStatus_check_self, rfl, ?_, ?_, hstamp, ?_⟩
  · rw [← h.enabled]
    unfold ProviderHealthChecker.check
    dsimp only
    split <;> rfl
  · have hconfigured : (s.registered p && s.manager.health.isConfigured p) = true := by
      rw [h.registered, h.configured]
      rfl
    rw [← hconfigured]
    unfold ProviderHealthChecker.check
    dsimp only
    split <;> rfl
  · rw [hstamp, ProviderHealthChecker.available_check, h.enabled, h.registered, h.configured,
      (isInCooldown_eq s.manager.health s.now).2, Bool.true_and, Bool.true_and, Bool.true_and,
      Option.not_isSome]
    rfl

lemma mark_self (s : HealthHistory) (p : String) (seconds : Option ℤ) :
    ∃ deadline, (s.apply (.mark p seconds)).cooldown p = some deadline ∧
      Dict.get? (s.apply (.mark p seconds)).ledger p = some deadline ∧
      (s.apply (.mark p seconds)).cached p = (s.cached p).map fun status => { status with
        available := false
        rateLimited := true
        cooldownUntil := some deadline
        lastChecked := some s.now
        lastError := some "Provider is in cooldown" } := by
  refine ⟨_, ?_, Dict.get?_set_self _ _ _, ?_⟩
  · exact (congrArg (Dict.get? · p) (cooldowns_markCooldown _ _ _)).trans
      (Dict.get?_set_self _ _ _)
  · show Dict.get? (s.manager.health.markCooldown p s.now seconds).statusCache p =
      (Dict.get? s.manager.health.statusCache p).map _
    unfold ProviderHealthChecker.markCooldown
    dsimp only
    cases hget : Dict.get? s.manager.health.statusCache p with
    | none => exact hget
    | some status => exact Dict.get?_set_self _ _ _

lemma clear_self (s : HealthHistory) (p : String) :
    (s.clear p).cached p = s.cached p ∧ (s.clear p).cooldown p = none ∧
      Dict.get? (s.clear p).ledger p = none :=
  ⟨rfl, Dict.get?_erase_self _ _, Dict.get?_erase_self _ _⟩

/-- What `is_available` leaves: it drops a stamp that is over, or, without a cached status, a
cooldown that is over; or it changes nothing. -/
lemma isAvailable_self (h : Up s p) :
    (∃ status deadline, s.cached p = some status ∧ status.cooldownUntil = some deadline ∧
        deadline ≤ s.now ∧ (s.apply (.isAvailable p)).cooldown p = none ∧
        ∃ status', (s.apply (.isAvailable p)).cached p = some status' ∧
          status'.enabled = status.enabled ∧ status'.configured = status.configured ∧
          status'.available = (status.enabled && status.configured) ∧
          status'.cooldownUntil = none ∧
          (s.manager.health.isAvailable p s.now).1 = (status.enabled && status.configured)) ∨
      (∃ status, s.cached p = some status ∧
        (∀ deadline, status.cooldownUntil = some deadline → s.now < deadline) ∧
        (s.apply (.isAvailable p)).cached p = some status ∧
        (s.apply (.isAvailable p)).cooldown p = s.cooldown p ∧
        (s.manager.health.isAvailable p s.now).1 = status.available) ∨
      (s.cached p = none ∧ (s.apply (.isAvailable p)).cached p = none ∧
        (s.apply (.isAvailable p)).cooldown p = (s.cooldown p).filter (fun d => s.now < d) ∧
        (s.manager.health.isAvailable p s.now).1 =
          ((s.cooldown p).filter fun d => s.now < d).isNone) := by
  have happly : s.apply (.isAvailable p) =
      s.withHealth (s.manager.health.isAvailable p s.now).2 := rfl
  cases hcached : s.cached p with
  | none =>
      right
      right
      have hvalue : s.manager.health.isAvailable p s.now =
          (!(s.manager.health.isInCooldown p s.now).1,
            (s.manager.health.isInCooldown p s.now).2) := by
        unfold ProviderHealthChecker.isAvailable
        rw [show s.manager.health.getStatus p = none from hcached]
        dsimp only
        rw [h.enabled, h.configured]
        rfl
      obtain ⟨hcooldown, hin⟩ := isInCooldown_eq (p := p) s.manager.health s.now
      refine ⟨rfl, ?_, ?_, ?_⟩
      · rw [happly, hvalue]
        exact (congrArg (Dict.get? · p) ProviderHealthChecker.statusCache_isInCooldown).trans
          hcached
      · rw [happly, hvalue]
        exact hcooldown
      · rw [hvalue, hin, Option.not_isSome]
        rfl
  | some status =>
      by_cases hover : status.cooldownUntil.any (fun deadline => deadline ≤ s.now) = true
      · left
        obtain ⟨deadline, hstamp, hle⟩ : ∃ deadline, status.cooldownUntil = some deadline ∧
            deadline ≤ s.now := by
          cases hstamp : status.cooldownUntil with
          | none =>
              rw [hstamp] at hover
              cases hover
          | some deadline =>
              rw [hstamp] at hover
              exact ⟨deadline, rfl, of_decide_eq_true hover⟩
        let reset : ProviderStatus := { status with
          available := status.enabled && status.configured
          rateLimited := false
          cooldownUntil := none
          lastChecked := some s.now
          lastError := if status.enabled && status.configured then none else status.lastError }
        have hvalue : s.manager.health.isAvailable p s.now =
            (status.enabled && status.configured, { s.manager.health with
              cooldowns := Dict.erase s.manager.health.cooldowns p
              statusCache := Dict.set s.manager.health.statusCache p reset }) := by
          unfold ProviderHealthChecker.isAvailable
          rw [show s.manager.health.getStatus p = some status from hcached]
          dsimp only
          rw [if_pos hover]
        refine ⟨status, deadline, rfl, hstamp, hle, ?_, reset, ?_, rfl, rfl, rfl, rfl, ?_⟩
        · rw [happly, hvalue]
          exact Dict.get?_erase_self _ _
        · rw [happly, hvalue]
          exact Dict.get?_set_self _ _ _
        · rw [hvalue]
      · right
        left
        have hvalue : s.manager.health.isAvailable p s.now =
            (status.available, s.manager.health) := by
          unfold ProviderHealthChecker.isAvailable
          rw [show s.manager.health.getStatus p = some status from hcached]
          dsimp only
          rw [if_neg hover]
        refine ⟨status, rfl, fun deadline hstamp => ?_, ?_, ?_, ?_⟩
        · rw [hstamp] at hover
          simpa using hover
        · rw [happly, hvalue]
          exact hcached
        · rw [happly, hvalue]
          rfl
        · rw [hvalue]

/-! ## The invariant -/

lemma stamped_new (registry : Dict String ProviderInfo) (settings : ProviderSettings) (now : ℤ) :
    Stamped (new registry settings now) p := by
  refine ⟨fun deadline _ => Iff.rfl, fun status h => ?_, fun status h => ?_⟩
  · cases h
  · cases h

lemma backed_new (registry : Dict String ProviderInfo) (settings : ProviderSettings) (now : ℤ) :
    Backed (new registry settings now) p := by
  intro status h
  cases h

lemma stamped_check (hup : Up s p) (h : Stamped s p) :
    Stamped (s.apply (.check p)) p ∧ Backed (s.apply (.check p)) p := by
  obtain ⟨hcooldown, status, hcached, -, henabled, hconfigured, hstamp, havailable⟩ :=
    check_self hup
  have hkept : ∀ status', (s.apply (.check p)).cached p = some status' →
      status'.cooldownUntil = (s.apply (.check p)).cooldown p := by
    intro status' h'
    rw [hcached] at h'
    rw [← Option.some.inj h', hstamp, hcooldown]
  refine ⟨⟨fun deadline hahead => ?_, fun status' h' => ?_, fun status' h' deadline _ hget => ?_⟩,
    fun status' h' deadline _ hget => ?_⟩
  · rw [hcooldown, filter_ahead_eq_some_iff]
    exact (and_iff_left hahead).trans (h.ledger deadline hahead)
  · rw [hcached] at h'
    obtain rfl := Option.some.inj h'
    exact ⟨henabled, hconfigured, havailable⟩
  · rw [hkept status' h', hget]
  · rw [← hkept status' h', hget]

lemma stamped_mark (h : Stamped s p) (seconds : Option ℤ) :
    Stamped (s.apply (.mark p seconds)) p ∧ Backed (s.apply (.mark p seconds)) p := by
  obtain ⟨deadline, hcooldown, hledger, hcached⟩ := mark_self s p seconds
  have hkept : ∀ status', (s.apply (.mark p seconds)).cached p = some status' →
      (∃ status, s.cached p = some status ∧ status'.enabled = status.enabled ∧
        status'.configured = status.configured) ∧ status'.available = false ∧
        status'.cooldownUntil = some deadline := by
    intro status' h'
    rw [hcached] at h'
    obtain ⟨status, hstatus, rfl⟩ := Option.map_eq_some_iff.mp h'
    exact ⟨⟨status, hstatus, rfl, rfl⟩, rfl, rfl⟩
  refine ⟨⟨fun d _ => ?_, fun status' h' => ?_, fun status' h' d _ hget => ?_⟩,
    fun status' h' d _ hget => ?_⟩
  · rw [hcooldown, hledger]
  · obtain ⟨⟨status, hstatus, henabled, hconfigured⟩, havailable, hstamp⟩ := hkept status' h'
    obtain ⟨hon, hset, -⟩ := h.status status hstatus
    exact ⟨henabled.trans hon, hconfigured.trans hset, by rw [havailable, hstamp]; rfl⟩
  · rw [(hkept status' h').2.2, ← hcooldown, hget]
  · rw [hcooldown, ← (hkept status' h').2.2, hget]

lemma stamped_clear (h : Stamped s p) : Stamped (s.clear p) p := by
  obtain ⟨hcached, hcooldown, hledger⟩ := clear_self s p
  refine ⟨fun deadline _ => ?_, fun status h' => ?_, fun status h' deadline _ hget => ?_⟩
  · rw [hcooldown, hledger]
  · rw [hcached] at h'
    exact h.status status h'
  · rw [hcooldown] at hget
    cases hget

lemma stamped_isAvailable (hup : Up s p) (h : Stamped s p) :
    Stamped (s.apply (.isAvailable p)) p ∧
      (Backed s p → Backed (s.apply (.isAvailable p)) p) := by
  have hledger : Dict.get? (s.apply (.isAvailable p)).ledger p = Dict.get? s.ledger p := rfl
  rcases isAvailable_self hup with
    ⟨status, deadline, hcached, hstamp, hover, hcooldown, status', hcached', henabled, hconfigured,
      havailable, hunstamped, -⟩ |
    ⟨status, hcached, hahead, hcached', hcooldown, -⟩ | ⟨hcached, hcached', hcooldown, -⟩
  · obtain ⟨hon, hset, -⟩ := h.status status hcached
    refine ⟨⟨fun d hd => ?_, fun found hfound => ?_, fun found hfound d _ hget => ?_⟩,
      fun _ found hfound d _ hget => ?_⟩
    · -- the table had nothing ahead, since the stamp was over
      rw [hcooldown, hledger, ← h.ledger d hd]
      refine iff_of_false (fun hnone => by cases hnone) fun hget => ?_
      have hsome := h.stamp status hcached d hd hget
      rw [hstamp] at hsome
      rw [← Option.some.inj hsome] at hd
      exact absurd hover (not_le.mpr hd)
    · rw [hcached'] at hfound
      obtain rfl := Option.some.inj hfound
      refine ⟨henabled.trans hon, hconfigured.trans hset, ?_⟩
      rw [havailable, hunstamped, hon, hset]
      rfl
    · rw [hcooldown] at hget
      cases hget
    · rw [hcached'] at hfound
      rw [← Option.some.inj hfound, hunstamped] at hget
      cases hget
  · refine ⟨⟨fun d hd => ?_, fun found hfound => ?_, fun found hfound d hd hget => ?_⟩,
      fun hbacked found hfound d hd hget => ?_⟩
    · rw [hcooldown, hledger]
      exact h.ledger d hd
    · rw [hcached'] at hfound
      exact h.status found (hcached.trans hfound)
    · rw [hcached'] at hfound
      rw [hcooldown] at hget
      exact h.stamp found (hcached.trans hfound) d hd hget
    · rw [hcached'] at hfound
      rw [hcooldown]
      exact hbacked found (hcached.trans hfound) d hd hget
  · refine ⟨⟨fun d hd => ?_, fun found hfound => ?_, fun found hfound => ?_⟩,
      fun _ found hfound => ?_⟩
    · rw [hcooldown, hledger, filter_ahead_eq_some_iff]
      exact (and_iff_left hd).trans (h.ledger d hd)
    · rw [hcached'] at hfound
      cases hfound
    · rw [hcached'] at hfound
      cases hfound
    · rw [hcached'] at hfound
      cases hfound

lemma now_le_apply (s : HealthHistory) (call : HealthCall) : s.now ≤ (s.apply call).now := by
  cases call with
  | status p =>
      rcases apply_status s p with h | h
      · rw [h]
        exact le_rfl
      · rw [h]
  | advance d =>
      show s.now ≤ s.now + d
      omega
  | check p => exact le_rfl
  | mark p seconds => exact le_rfl
  | clear p => exact le_rfl
  | retry p => exact le_rfl
  | isAvailable p => exact le_rfl

lemma stamped_of_ne (h : Stamped s p) (hne : ∀ q, about call = some q → q ≠ p) :
    Stamped (s.apply call) p ∧ (Backed s p → Backed (s.apply call) p) := by
  obtain ⟨hcached, hcooldown, hledger⟩ := apply_of_ne hne
  have hlater : ∀ d, (s.apply call).now < d → s.now < d :=
    fun d hd => (now_le_apply s call).trans_lt hd
  refine ⟨⟨fun d hd => ?_, fun status h' => ?_, fun status h' d hd hget => ?_⟩,
    fun hbacked status h' d hd hget => ?_⟩
  · rw [hcooldown, hledger]
    exact h.ledger d (hlater d hd)
  · rw [hcached] at h'
    exact h.status status h'
  · rw [hcached] at h'
    rw [hcooldown] at hget
    exact h.stamp status h' d (hlater d hd) hget
  · rw [hcached] at h'
    rw [hcooldown]
    exact hbacked status h' d (hlater d hd) hget

/-- A clear is backed where it leaves no stamp that is still ahead. -/
lemma backed_clear_iff :
    Backed (s.clear p) p ↔ ∀ status, s.cached p = some status →
      ∀ deadline, status.cooldownUntil = some deadline → deadline ≤ s.now := by
  obtain ⟨hcached, hcooldown, -⟩ := clear_self s p
  constructor
  · intro hbacked status hstatus deadline hstamp
    by_contra hahead
    have hget := hbacked status (hcached.trans hstatus) deadline (not_le.mp hahead) hstamp
    rw [hcooldown] at hget
    cases hget
  · intro hover status hstatus deadline hahead hstamp
    rw [hcached] at hstatus
    exact absurd hahead (not_lt.mpr (hover status hstatus deadline hstamp))

/-- Every call keeps what the table and the stamp have, and the stamp stays backed exactly where
no clear leaves it behind. -/
lemma stamped_apply (hup : Up s p) (h : Stamped s p) (call : HealthCall) :
    Stamped (s.apply call) p ∧
      (Backed s p → (LeavesNoStamp p s call ↔ Backed (s.apply call) p)) := by
  have hquiet : ∀ {call : HealthCall}, LeavesNoStamp p s call →
      Stamped (s.apply call) p ∧ (Backed s p → Backed (s.apply call) p) →
      Stamped (s.apply call) p ∧
        (Backed s p → (LeavesNoStamp p s call ↔ Backed (s.apply call) p)) :=
    fun hguard hboth => ⟨hboth.1, fun hbacked => iff_of_true hguard (hboth.2 hbacked)⟩
  have hother : ∀ (call : HealthCall) {q : String}, about call = some q → q ≠ p →
      Stamped (s.apply call) p ∧ (Backed s p → Backed (s.apply call) p) := by
    intro call q habout hne
    refine stamped_of_ne h fun r hr => ?_
    rw [habout] at hr
    exact Option.some.inj hr ▸ hne
  have hclear : ∀ q, Stamped (s.clear q) p ∧ (Backed s p →
      ((q = p → ∀ status, s.cached p = some status →
        ∀ deadline, status.cooldownUntil = some deadline → deadline ≤ s.now) ↔
          Backed (s.clear q) p)) := by
    intro q
    by_cases hq : q = p
    · subst hq
      refine ⟨stamped_clear h, fun _ => ?_⟩
      rw [backed_clear_iff]
      exact ⟨fun hover => hover rfl, fun hover _ => hover⟩
    · obtain ⟨hstamped, hbacked⟩ := hother (.clear q) rfl hq
      exact ⟨hstamped, fun hb => iff_of_true (fun heq => absurd heq hq) (hbacked hb)⟩
  cases call with
  | check q =>
      refine hquiet trivial ?_
      by_cases hq : q = p
      · subst hq
        exact ⟨(stamped_check hup h).1, fun _ => (stamped_check hup h).2⟩
      · exact hother _ rfl hq
  | mark q seconds =>
      refine hquiet trivial ?_
      by_cases hq : q = p
      · subst hq
        exact ⟨(stamped_mark h seconds).1, fun _ => (stamped_mark h seconds).2⟩
      · exact hother _ rfl hq
  | clear q => exact hclear q
  | retry q => exact hclear q
  | isAvailable q =>
      refine hquiet trivial ?_
      by_cases hq : q = p
      · subst hq
        exact stamped_isAvailable hup h
      · exact hother _ rfl hq
  | status q =>
      refine hquiet trivial ?_
      rcases apply_status s q with heq | heq
      · rw [heq]
        by_cases hq : q = p
        · subst hq
          exact ⟨(stamped_check hup h).1, fun _ => (stamped_check hup h).2⟩
        · exact hother (.check q) rfl hq
      · rw [heq]
        exact ⟨h, id⟩
  | advance d => exact hquiet trivial (stamped_of_ne h fun q hq => by cases hq)

/-! ## The answers -/

lemma available_check_eq (hup : Up s p) :
    (s.manager.health.check p (s.registered p) s.now).1.available =
      ((s.cooldown p).filter fun d => s.now < d).isNone := by
  obtain ⟨-, status, -, hstatus, -, -, hstamp, havailable⟩ := check_self hup
  rw [← hstatus, havailable, hstamp]

lemma available_getProviderStatus_eq (hup : Up s p) (h : Stamped s p) :
    (s.manager.getProviderStatus p s.now).1.available =
      (s.manager.health.check p (s.registered p) s.now).1.available := by
  unfold ProviderManager.getProviderStatus
  cases hcached : s.manager.health.getStatus p with
  | none => rfl
  | some status =>
      dsimp only
      cases hstamp : status.cooldownUntil.isNone with
      | false => rfl
      | true =>
          have hnone := Option.isNone_iff_eq_none.mp hstamp
          rw [if_pos rfl, (h.status status hcached).2.2, hstamp, available_check_eq hup]
          refine (Option.isNone_iff_eq_none.mpr (Option.filter_eq_none_iff.mpr ?_)).symm
          intro deadline hget hahead
          have hsome := h.stamp status hcached deadline (of_decide_eq_true hahead) hget
          rw [hnone] at hsome
          cases hsome

/-- The router answers like the other two exactly where the stamp is backed. -/
lemma isAvailable_eq_iff (hup : Up s p) (h : Stamped s p) :
    (s.manager.health.isAvailable p s.now).1 =
        (s.manager.health.check p (s.registered p) s.now).1.available ↔ Backed s p := by
  rw [available_check_eq hup]
  have hquiet : ∀ status, s.cached p = some status →
      (∀ deadline, status.cooldownUntil = some deadline → deadline ≤ s.now) →
      ((s.cooldown p).filter fun d => s.now < d).isNone = true := by
    intro status hcached hover
    refine Option.isNone_iff_eq_none.mpr (Option.filter_eq_none_iff.mpr ?_)
    intro d hget hahead
    have hsome := h.stamp status hcached d (of_decide_eq_true hahead) hget
    exact absurd (hover d hsome) (not_le.mpr (of_decide_eq_true hahead))
  rcases isAvailable_self hup with
    ⟨status, deadline, hcached, hstamp, hover, -, -, -, -, -, -, -, hvalue⟩ |
    ⟨status, hcached, hahead, -, -, hvalue⟩ | ⟨hcached, -, -, hvalue⟩
  · obtain ⟨hon, hset, -⟩ := h.status status hcached
    have hpast : ∀ d, status.cooldownUntil = some d → d ≤ s.now := by
      intro d hd
      rw [hstamp] at hd
      exact Option.some.inj hd ▸ hover
    rw [hvalue, hon, hset, hquiet status hcached hpast]
    refine iff_of_true rfl fun found hfound d hd hget => ?_
    obtain rfl := Option.some.inj (hcached.symm.trans hfound)
    exact absurd hd (not_lt.mpr (hpast d hget))
  · rw [hvalue, (h.status status hcached).2.2]
    cases hstamp : status.cooldownUntil with
    | none =>
        rw [hquiet status hcached (by rw [hstamp]; exact fun d hd => by cases hd)]
        refine iff_of_true rfl fun found hfound d _ hget => ?_
        obtain rfl := Option.some.inj (hcached.symm.trans hfound)
        rw [hstamp] at hget
        cases hget
    | some deadline =>
        constructor
        · intro hsame found hfound d hd hget
          obtain rfl := Option.some.inj (hcached.symm.trans hfound)
          cases hfilter : (s.cooldown p).filter fun d => s.now < d with
          | none =>
              rw [hfilter] at hsame
              cases hsame
          | some kept =>
              obtain ⟨hkept, hlater⟩ := filter_ahead_eq_some_iff.mp hfilter
              have hsome := h.stamp status hcached kept hlater hkept
              rw [hget] at hsome
              rw [hkept, hsome]
        · intro hbacked
          have hkept := hbacked status hcached deadline (hahead deadline hstamp) hstamp
          have hlater : decide (s.now < deadline) = true := decide_eq_true (hahead deadline hstamp)
          rw [hkept, Option.filter_some, if_pos hlater]
  · rw [hvalue]
    refine iff_of_true rfl fun found hfound => ?_
    rw [hcached] at hfound
    cases hfound

lemma agrees_iff_backed (hup : Up s p) (h : Stamped s p) : Agrees s p ↔ Backed s p := by
  constructor
  · intro hagrees
    exact (isAvailable_eq_iff hup h).mp hagrees.checked
  · intro hbacked
    have hchecked := (isAvailable_eq_iff hup h).mpr hbacked
    refine ⟨hchecked, available_getProviderStatus_eq hup h, ?_⟩
    rw [hchecked, available_check_eq hup, Option.isNone_eq_false_iff, Option.isSome_iff_exists]
    refine exists_congr fun deadline => ?_
    rw [filter_ahead_eq_some_iff]
    exact and_congr_left fun hahead => h.ledger deadline hahead

end

/-! ## Histories -/

/-- Over every history of a new manager, for a provider that is registered, enabled and
configured: the router, a fresh check, the manager and the ledger agree at every moment exactly
when no cooldown is cleared while the cached status bears its stamp. -/
theorem availability_agrees_iff {registry : Dict String ProviderInfo}
    {settings : ProviderSettings} {now : ℤ} {p : String}
    (hup : Up (new registry settings now) p) (calls : List HealthCall) :
    machine.Guarded (LeavesNoStamp p) (new registry settings now) calls ↔
      ∀ earlier s, earlier <+: calls →
        machine.run (new registry settings now) earlier = some s → Agrees s p := by
  refine machine.guarded_iff_forall (I := fun s => Up s p ∧ Stamped s p) ?_ ?_
    ⟨hup, stamped_new registry settings now⟩
    ((agrees_iff_backed hup (stamped_new registry settings now)).mpr
      (backed_new registry settings now))
  · rintro s call t ⟨hup, hstamped⟩ ht
    obtain rfl := Option.some.inj ht
    exact ⟨hup.apply call, (stamped_apply hup hstamped call).1⟩
  · rintro s call ⟨hup, hstamped⟩ hagrees
    have hbacked := (agrees_iff_backed hup hstamped).mp hagrees
    obtain ⟨hstamped', hiff⟩ := stamped_apply hup hstamped call
    rw [hiff hbacked, ← agrees_iff_backed (hup.apply call) hstamped']
    constructor
    · intro hafter t ht
      obtain rfl := Option.some.inj ht
      exact hafter
    · intro hall
      exact hall _ rfl

/-! ### A retry in a cooldown -/

/-- The mock provider alone. -/
def mockHistory : HealthHistory := new [("mock", ⟨"mock", [], [], [], .local, 0⟩)] {} 0

/-- Checked, and put into cooldown for a minute. -/
def coolingMock : HealthHistory := (mockHistory.apply (.check "mock")).apply (.mark "mock" none)

/-- A minute later the cooldown is over for all. -/
theorem availability_agrees_iff_sample :
    Agrees ((coolingMock.apply (.advance 60000000)).apply (.clear "mock")) "mock" := by
  have hup : Up (new [("mock", ⟨"mock", [], [], [], .local, 0⟩)] {} 0) "mock" :=
    ⟨by decide, by decide, by decide⟩
  refine (availability_agrees_iff hup
    [.check "mock", .mark "mock" none, .advance 60000000, .clear "mock"]).mp
    ⟨trivial, fun _ h₁ => ?_⟩ _ _ (List.prefix_refl _) rfl
  obtain rfl := Option.some.inj h₁
  refine ⟨trivial, fun _ h₂ => ?_⟩
  obtain rfl := Option.some.inj h₂
  refine ⟨trivial, fun _ h₃ => ?_⟩
  obtain rfl := Option.some.inj h₃
  refine ⟨fun _ status hstatus deadline hstamp => ?_, fun _ _ => trivial⟩
  obtain rfl := Option.some.inj hstatus
  rw [← Option.some.inj hstamp]
  decide

/-- The retry clears the cooldown: a fresh check and the manager find the provider available, the
router does not. -/
theorem retry_hides :
    let s := coolingMock.apply (.retry "mock")
    (s.manager.health.isAvailable "mock" s.now).1 = false ∧
      (s.manager.health.check "mock" (s.registered "mock") s.now).1.available = true ∧
      (s.manager.getProviderStatus "mock" s.now).1.available = true ∧
      Dict.get? s.ledger "mock" = none :=
  ⟨by decide, by decide, by decide, by decide⟩

end HealthHistory

end Samaktha
