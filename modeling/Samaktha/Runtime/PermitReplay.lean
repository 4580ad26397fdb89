import Samaktha.Runtime.Engine

/-!
# A mutation permit is effective at most once

Over every interleaving of `run` calls on one engine, two executor calls of non-idempotent
mutations with one permit id are ordered so that the earlier one had ended, with an outcome
that proves that nothing was done, before the later one was made.

The invariant (`Inv`) follows the permit: an executor call of a mutation was made by the call
of `run` that consumed the permit (`Inv.claimed`); a call that is about to repeat an attempt
has consumed its permit and has done nothing so far (`Inv.waiting`); a call in its executor
has done nothing before (`Inv.executing`).  The replay guard reads the attempt number from
metadata that other calls overwrite, which is harmless because an iteration writes and reads
it without suspending (`iterated_iterate`).
-/

namespace Samaktha

namespace Engine

variable {κ : Type} (cfg : EngineConfig κ)

/-- The executor call ended with an outcome that proves that nothing was done. -/
def Dispatch.harmless (d : Dispatch κ) : Bool :=
  match d.ended with
  | some (.outcome o) => o.harmless
  | _ => false

/-- The executor call ended in any other way. -/
def Dispatch.effective (d : Dispatch κ) : Bool := d.ended.isSome && !d.harmless

/-- The executor call is one of a non-idempotent mutation. -/
def Dispatch.mutation (d : Dispatch κ) : Bool :=
  sideEffectClass cfg d.task = .nonIdempotentMutation

/-- The executor call is one of a non-idempotent mutation, with a given permit. -/
def Dispatch.carries (permit : String) (d : Dispatch κ) : Bool :=
  d.mutation cfg && permitId d.task = some permit

/-! ## What an iteration does -/

lemma actionType_of_nonIdempotent {task : RuntimeTask}
    (h : sideEffectClass cfg task = .nonIdempotentMutation) : task.actionType = "tool" := by
  by_contra hne
  rw [sideEffectClass, if_pos hne] at h
  cases h

lemma isProviderAction_of_nonIdempotent {task : RuntimeTask}
    (h : sideEffectClass cfg task = .nonIdempotentMutation) :
    isProviderAction task.actionType = false := by
  rw [actionType_of_nonIdempotent cfg h]
  decide

/-- A call's phase that no move leaves. -/
def Phase.ended : Phase → Bool
  | .returned _ => true
  | .raised => true
  | _ => false

lemma nextPhase_cases (cancelled : Bool) (context : RuntimeContext) (task : RuntimeTask)
    (attempt : ℕ) (result : RuntimeResult) :
    (nextPhase cfg cancelled context task attempt result).ended = true ∨
      (result.status ≠ .paused ∧
        cfg.retryPolicy.allows (resultFailure cfg task result) attempt (sideEffectClass cfg task)
          (operationOutcome cfg task result) = true ∧
        nextPhase cfg cancelled context task attempt result =
          .ready (attempt + 1) (some (annotate cfg context task attempt result))) := by
  unfold nextPhase
  split
  · exact .inl rfl
  · rename_i hstatus
    split
    · exact .inl rfl
    · split
      · exact .inl rfl
      · rename_i hallows
        exact .inr ⟨fun h => hstatus (.inr (.inr h)), by simpa using hallows, rfl⟩

lemma resultFailure_of_refusal {task : RuntimeTask} {result : RuntimeResult}
    (h : Refusal result) : (resultFailure cfg task result).refused = true := by
  obtain ⟨error, herror, htext⟩ := h.text
  have hkeys : failureText cfg result ["failure_type", "provider_finish_reason"] = error := by
    simp [failureText, h.failureType, h.finishReason, herror]
  rw [resultFailure, hkeys]
  exact refused_of_refusalText htext task.actionType

lemma refusal_permitReplayed (task : RuntimeTask) (routing : RoutingDecision) :
    Refusal (permitReplayed task routing) := by
  have htext : refusalText "Runtime execution blocked: mutation permit was already consumed." =
      true := refusalText_of_permit (Text.contains_lower_of_chars rfl rfl rfl)
  refine ⟨rfl, ⟨_, rfl, htext⟩, ?_, ?_, ?_⟩ <;>
    (unfold permitReplayed taskAuthorizationMetadata; cases task.permit <;> rfl)

lemma settle_spec (s : State κ) (i : ℕ) (call : Call) (attempt : ℕ) (result : RuntimeResult) :
    (settle cfg s i call attempt result).log = s.log ∧
      (settle cfg s i call attempt result).consumed = s.consumed ∧
      ∃ phase, (settle cfg s i call attempt result).calls =
          s.calls.set i { call with phase := phase } ∧
        (phase.ended = true ∨ (result.status ≠ .paused ∧
          cfg.retryPolicy.allows (resultFailure cfg call.task result) attempt
            (sideEffectClass cfg call.task) (operationOutcome cfg call.task result) = true ∧
          ∃ previous, phase = .ready (attempt + 1) (some previous))) := by
  refine ⟨rfl, rfl, _, rfl, ?_⟩
  split
  · rcases nextPhase_cases cfg (s.cancelRequested call.context) (cfg.contexts call.context)
      call.task attempt result with h | ⟨hstatus, hallows, hphase⟩
    · exact .inl h
    · exact .inr ⟨hstatus, hallows, _, hphase⟩
  · exact .inl rfl

/-- The set of consumed permits after an iteration of a call: as before, or with the call's own
fresh permit. -/
def Claims (s t : State κ) (i : ℕ) (call : Call) : Prop :=
  t.consumed = s.consumed ∨ ∃ permit, permitId call.task = some permit ∧
    s.consumed.get? permit = none ∧ t.consumed = s.consumed.set permit i

/-- What an iteration of a call does, up to the world and the metadata of contexts. -/
inductive Iterated (s t : State κ) (i : ℕ) (call : Call) (attempt : ℕ) : Prop
  | ended (phase : Phase) (hphase : phase.ended = true)
      (hcalls : t.calls = s.calls.set i { call with phase := phase }) (hlog : t.log = s.log)
      (hclaims : Claims s t i call)
  | retried (previous : RuntimeResult)
      (hclass : sideEffectClass cfg call.task ≠ .nonIdempotentMutation)
      (hcalls : t.calls =
        s.calls.set i { call with phase := .ready (attempt + 1) (some previous) })
      (hlog : t.log = s.log) (hconsumed : t.consumed = s.consumed)
  | dispatched (world : κ)
      (hcalls : t.calls = s.calls.set i { call with phase := .executing attempt s.log.length })
      (hlog : t.log = s.log ++
        [{ call := i, task := call.task, attempt := attempt, world := world }])
      (hclaims : sideEffectClass cfg call.task = .nonIdempotentMutation →
        ∃ permit, permitId call.task = some permit ∧
          ((attempt = 1 ∧ s.consumed.get? permit = none ∧ t.consumed = s.consumed.set permit i) ∨
            (attempt ≠ 1 ∧ t.consumed = s.consumed)))
      (hother : sideEffectClass cfg call.task ≠ .nonIdempotentMutation →
        t.consumed = s.consumed)

lemma settled_mutation (s : State κ) (i attempt : ℕ) {call : Call}
    {result : RuntimeResult} (hclass : sideEffectClass cfg call.task = .nonIdempotentMutation)
    (hresult : result.status = .paused ∨ (resultFailure cfg call.task result).refused = true ∨
      (operationOutcome cfg call.task result).harmless = false) :
    ∃ phase : Phase, phase.ended = true ∧ (settle cfg s i call attempt result).calls =
      s.calls.set i { call with phase := phase } := by
  obtain ⟨-, -, phase, hcalls, hphase⟩ := settle_spec cfg s i call attempt result
  rcases hphase with hended | ⟨hstatus, hallows, -⟩
  · exact ⟨phase, hended, hcalls⟩
  · -- the policy allowed another attempt, which each of the three cases excludes
    rw [hclass] at hallows
    obtain ⟨hharmless, hrefused⟩ := RetryPolicy.allows_nonIdempotent hallows
    rcases hresult with h | h | h
    · exact absurd h hstatus
    · rw [h] at hrefused
      cases hrefused
    · rw [h] at hharmless
      cases hharmless

lemma harmless_executorNotRegistered {task : RuntimeTask} (routing : RoutingDecision)
    (htool : task.actionType = "tool") :
    (operationOutcome cfg task (executorNotRegistered task routing)).harmless = false := by
  have hdeclared : declaredOutcome (executorNotRegistered task routing) = none := rfl
  have hstatus : (executorNotRegistered task routing).status ≠ .completed := by
    intro h
    cases h
  rw [operationOutcome, hdeclared]
  simp only [if_neg hstatus, if_pos htool]
  split <;> rfl

/-- The set of consumed permits as the replay guard leaves it. -/
def Guarded (s u : State κ) (i : ℕ) (call : Call) (attempt : ℕ) : Prop :=
  (u.consumed = s.consumed ∧ (sideEffectClass cfg call.task = .nonIdempotentMutation →
      attempt ≠ 1 ∧ (permitId call.task).isSome = true)) ∨
    (attempt = 1 ∧ sideEffectClass cfg call.task = .nonIdempotentMutation ∧
      ∃ permit, permitId call.task = some permit ∧ s.consumed.get? permit = none ∧
        u.consumed = s.consumed.set permit i)

lemma Iterated.of_settle {s u : State κ} {i : ℕ} {call : Call} {attempt : ℕ}
    (hcalls : u.calls = s.calls) (hlog : u.log = s.log) (hclaims : Claims s u i call)
    (hother : sideEffectClass cfg call.task ≠ .nonIdempotentMutation → u.consumed = s.consumed)
    {result : RuntimeResult}
    (hresult : sideEffectClass cfg call.task = .nonIdempotentMutation →
      result.status = .paused ∨ (resultFailure cfg call.task result).refused = true ∨
        (operationOutcome cfg call.task result).harmless = false) :
    Iterated cfg s (settle cfg u i call attempt result) i call attempt := by
  obtain ⟨hlog', hconsumed, phase, hcalls', hphase⟩ := settle_spec cfg u i call attempt result
  rw [hlog] at hlog'
  rw [hcalls] at hcalls'
  have hclaims' : Claims s (settle cfg u i call attempt result) i call := by
    rw [Claims, hconsumed]
    exact hclaims
  by_cases hclass : sideEffectClass cfg call.task = .nonIdempotentMutation
  · obtain ⟨phase, hended, hcalls''⟩ := settled_mutation cfg u i attempt hclass
      (hresult hclass)
    rw [hcalls] at hcalls''
    exact .ended phase hended hcalls'' hlog' hclaims'
  · rcases hphase with hended | ⟨-, -, previous, rfl⟩
    · exact .ended phase hended hcalls' hlog' hclaims'
    · exact .retried previous hclass hcalls' hlog' (hconsumed.trans (hother hclass))

lemma Iterated.of_invoke {s u : State κ} {i : ℕ} {call : Call} {attempt : ℕ}
    (hcalls : u.calls = s.calls) (hlog : u.log = s.log)
    (hguard : Guarded cfg s u i call attempt) :
    Iterated cfg s (invoke cfg u i call attempt) i call attempt := by
  have hother : sideEffectClass cfg call.task ≠ .nonIdempotentMutation →
      u.consumed = s.consumed := by
    intro hclass
    rcases hguard with ⟨hsame, -⟩ | ⟨-, hmutation, -⟩
    · exact hsame
    · exact absurd hmutation hclass
  unfold invoke
  split
  · refine .dispatched u.world ?_ ?_ ?_ hother
    · simp [State.dispatch, State.setPhase, hcalls, hlog]
    · simp [State.dispatch, State.setPhase, hlog]
    · intro hclass
      rcases hguard with ⟨hsame, hunguarded⟩ | ⟨hfirst, -, permit, hpermit, hfresh, hset⟩
      · obtain ⟨hattempt, hsome⟩ := hunguarded hclass
        obtain ⟨permit, hpermit⟩ := Option.isSome_iff_exists.mp hsome
        exact ⟨permit, hpermit, .inr ⟨hattempt, hsame⟩⟩
      · exact ⟨permit, hpermit, .inl ⟨hfirst, hfresh, hset⟩⟩
  · have hclaims : Claims s u i call := by
      rcases hguard with ⟨hsame, -⟩ | ⟨-, -, hclaim⟩
      · exact .inl hsame
      · exact .inr hclaim
    refine .of_settle cfg hcalls hlog hclaims hother fun hclass => .inr (.inr ?_)
    exact harmless_executorNotRegistered cfg call.routing (actionType_of_nonIdempotent cfg hclass)

lemma Iterated.of_runOnce {s u : State κ} {i : ℕ} {call : Call} {attempt : ℕ} {now : ℤ}
    (hcalls : u.calls = s.calls) (hlog : u.log = s.log) (hconsumed : u.consumed = s.consumed)
    (hattempt : u.retryAttempt call.context = attempt) :
    Iterated cfg s (runOnce cfg u i call attempt now) i call attempt := by
  unfold runOnce
  split
  · refine .ended .raised rfl ?_ ?_ (.inl hconsumed)
    · simp [State.setPhase, hcalls]
    · simp [State.setPhase, hlog]
  · rename_i result hgate
    refine .of_settle cfg hcalls hlog (.inl hconsumed) (fun _ => hconsumed) fun hclass => ?_
    have hprovider := isProviderAction_of_nonIdempotent cfg hclass
    rcases enforceCapPermit_eq_some cfg.platform cfg.textOf hprovider hgate with h | h
    · exact .inl h
    · exact .inr (.inl (resultFailure_of_refusal cfg h))
  · rename_i hgate
    obtain ⟨permit, hpermit, -, -⟩ := enforceCapPermit_eq_none cfg.platform cfg.textOf hgate
    have hid : permitId call.task = some permit.permitId := by rw [permitId, hpermit]; rfl
    split
    · rename_i happlies
      simp only [guardApplies, hpermit, Option.isSome_some, Bool.true_and, Bool.and_eq_true,
        decide_eq_true_eq, hattempt] at happlies
      obtain ⟨hclass, hfirst⟩ := happlies
      simp only [hid, Option.getD_some]
      split
      · refine .of_settle cfg hcalls hlog (.inl hconsumed) (fun _ => hconsumed) fun _ => ?_
        have hrefusal := refusal_permitReplayed call.task call.routing
        exact .inr (.inl (resultFailure_of_refusal cfg hrefusal))
      · rename_i hfresh
        have hnone : s.consumed.get? permit.permitId = none := by
          rw [← hconsumed]
          simpa using hfresh
        refine .of_invoke cfg hcalls hlog (.inr ⟨hfirst, hclass, permit.permitId, hid, hnone, ?_⟩)
        show u.consumed.set permit.permitId i = s.consumed.set permit.permitId i
        rw [hconsumed]
    · rename_i hskip
      refine .of_invoke cfg hcalls hlog (.inl ⟨hconsumed, fun hclass => ⟨?_, by rw [hid]; rfl⟩⟩)
      rintro rfl
      apply hskip
      simp [guardApplies, hpermit, hclass, hattempt]

lemma iterated_iterate (s : State κ) (i : ℕ) (call : Call) (attempt : ℕ) (now : ℤ) :
    Iterated cfg s (iterate cfg s i call attempt now) i call attempt := by
  unfold iterate
  dsimp only
  split
  · rename_i recovered hrecovered
    -- a recovered result is returned, or the call fails: no executor either way
    have hended : ∀ phase : Phase, phase.ended = true →
        Iterated cfg s (State.setPhase
          { s with retryAttempt := Function.update s.retryAttempt call.context attempt } i call
          phase) i call attempt :=
      fun phase hphase => .ended phase hphase rfl rfl (.inl rfl)
    unfold reuse
    dsimp only
    split
    · exact hended _ rfl
    · exact hended _ rfl
    · split
      · exact hended _ rfl
      · split <;> exact hended _ rfl
  · split
    · refine .of_runOnce cfg rfl rfl rfl ?_
      simp
    · exact .ended .raised rfl rfl rfl (.inl rfl)

/-! ## The invariant -/

/-- The executor calls of a call of `run` that are in the log proved that nothing was done. -/
def QuietSoFar (s : State κ) (i : ℕ) : Prop :=
  ∀ d ∈ s.log, d.call = i → d.harmless = true

/-- A call of `run` is the one that consumed its permit. -/
def Holds (s : State κ) (i : ℕ) (task : RuntimeTask) : Prop :=
  ∃ permit, permitId task = some permit ∧ s.consumed.get? permit = some i

/-- What is known of a mutation's call, by its phase. -/
def PhaseInv (s : State κ) (i : ℕ) (task : RuntimeTask) : Phase → Prop
  | .ready attempt _ =>
      (attempt = 1 ∧ ∀ d ∈ s.log, d.call ≠ i) ∨
        (1 < attempt ∧ Holds s i task ∧ QuietSoFar s i)
  | .executing attempt entry =>
      1 ≤ attempt ∧ ∀ (j : ℕ) (d : Dispatch κ), s.log[j]? = some d → d.call = i → j ≠ entry →
        d.harmless = true
  | .returned _ => True
  | .raised => True

/-- The invariant of the engine. -/
structure Inv (s : State κ) : Prop where
  /-- An executor call was made by a call of `run` of the same task. -/
  known : ∀ d ∈ s.log, ∃ call, s.calls[d.call]? = some call ∧ call.task = d.task
  /-- A call in its executor has an open entry in the log. -/
  executing : ∀ (i : ℕ) (call : Call) (attempt entry : ℕ), s.calls[i]? = some call →
    call.phase = .executing attempt entry →
    ∃ d, s.log[entry]? = some d ∧ d.call = i ∧ d.ended = none
  /-- An executor call of a mutation was made by the call that consumed the permit. -/
  claimed : ∀ d ∈ s.log, d.mutation cfg = true → Holds s d.call d.task
  phases : ∀ (i : ℕ) (call : Call), s.calls[i]? = some call →
    sideEffectClass cfg call.task = .nonIdempotentMutation → PhaseInv s i call.task call.phase
  /-- Of two executor calls with one permit the earlier one did nothing. -/
  ordered : ∀ (j k : ℕ) (d e : Dispatch κ), j < k → s.log[j]? = some d → s.log[k]? = some e →
    ∀ permit, d.carries cfg permit = true → e.carries cfg permit = true → d.harmless = true

lemma inv_init (world : κ) (retryAttempt : ℕ → ℕ) (cancelRequested : ℕ → Bool) :
    Inv cfg {
      world := world, retryAttempt := retryAttempt, cancelRequested := cancelRequested } where
  known := by simp
  executing := by simp
  claimed := by simp
  phases := by simp
  ordered := by simp

lemma Holds.mono {s t : State κ} {i j : ℕ} {call : Call} {task : RuntimeTask}
    (hclaims : Claims s t i call) (h : Holds s j task) : Holds t j task := by
  obtain ⟨permit, hpermit, hget⟩ := h
  refine ⟨permit, hpermit, ?_⟩
  rcases hclaims with hsame | ⟨fresh, -, hnone, hset⟩
  · rw [hsame, hget]
  · have hne : fresh ≠ permit := by
      rintro rfl
      rw [hnone] at hget
      cases hget
    rw [hset, Dict.get?_set_of_ne hne, hget]

lemma PhaseInv.mono {s t : State κ} {i : ℕ} {task : RuntimeTask} {phase : Phase}
    (hlog : t.log = s.log) (hholds : Holds s i task → Holds t i task)
    (h : PhaseInv s i task phase) : PhaseInv t i task phase := by
  cases phase with
  | ready attempt previous =>
      rcases h with ⟨hfirst, hnone⟩ | ⟨hlater, hheld, hquiet⟩
      · exact .inl ⟨hfirst, by rw [hlog]; exact hnone⟩
      · exact .inr ⟨hlater, hholds hheld, by rw [QuietSoFar, hlog]; exact hquiet⟩
  | executing attempt entry => exact ⟨h.1, by rw [hlog]; exact h.2⟩
  | returned result => trivial
  | raised => trivial

lemma PhaseInv.append {s t : State κ} {i : ℕ} {task : RuntimeTask} {phase : Phase}
    {new : Dispatch κ} (hlog : t.log = s.log ++ [new]) (hnew : new.call ≠ i)
    (hholds : Holds s i task → Holds t i task) (h : PhaseInv s i task phase) :
    PhaseInv t i task phase := by
  cases phase with
  | ready attempt previous =>
      rcases h with ⟨hfirst, hnone⟩ | ⟨hlater, hheld, hquiet⟩
      · refine .inl ⟨hfirst, fun d hd => ?_⟩
        rw [hlog] at hd
        rcases List.mem_append.mp hd with hd | hd
        · exact hnone d hd
        · rwa [List.mem_singleton.mp hd]
      · refine .inr ⟨hlater, hholds hheld, fun d hd hdi => ?_⟩
        rw [hlog] at hd
        rcases List.mem_append.mp hd with hd | hd
        · exact hquiet d hd hdi
        · rw [List.mem_singleton.mp hd] at hdi
          exact absurd hdi hnew
  | executing attempt entry =>
      refine ⟨h.1, fun k d hd hdi hk => ?_⟩
      rw [hlog] at hd
      by_cases hlt : k < s.log.length
      · rw [List.getElem?_append_left hlt] at hd
        exact h.2 k d hd hdi hk
      · rw [List.getElem?_append_right (by omega)] at hd
        rw [List.mem_singleton.mp (List.mem_of_getElem? hd)] at hdi
        exact absurd hdi hnew
  | returned result => trivial
  | raised => trivial

lemma lt_of_getElem?_eq_some {α : Type} {xs : List α} {i : ℕ} {x : α} (h : xs[i]? = some x) :
    i < xs.length := (List.getElem?_eq_some_iff.mp h).1

lemma Inv.setPhase {s t : State κ} (h : Inv cfg s) {i : ℕ} {call : Call} {phase : Phase}
    (hcall : s.calls[i]? = some call)
    (hcalls : t.calls = s.calls.set i { call with phase := phase }) (hlog : t.log = s.log)
    (hclaims : Claims s t i call) (hidle : ∀ attempt entry, phase ≠ .executing attempt entry)
    (hphase : sideEffectClass cfg call.task = .nonIdempotentMutation →
      PhaseInv t i call.task phase) : Inv cfg t where
  known := by
    intro d hd
    rw [hlog] at hd
    obtain ⟨c, hc, htask⟩ := h.known d hd
    by_cases hi : i = d.call
    · subst hi
      obtain rfl : call = c := Option.some.inj (hcall.symm.trans hc)
      refine ⟨{ call with phase := phase }, ?_, htask⟩
      rw [hcalls, List.getElem?_set_self (lt_of_getElem?_eq_some hcall)]
    · exact ⟨c, by rw [hcalls, List.getElem?_set_ne hi, hc], htask⟩
  executing := by
    intro j c attempt entry hc hexec
    rw [hcalls] at hc
    by_cases hi : i = j
    · subst hi
      rw [List.getElem?_set_self (lt_of_getElem?_eq_some hcall)] at hc
      obtain rfl := Option.some.inj hc
      exact absurd hexec (hidle attempt entry)
    · rw [List.getElem?_set_ne hi] at hc
      rw [hlog]
      exact h.executing j c attempt entry hc hexec
  claimed := by
    intro d hd hmutation
    rw [hlog] at hd
    exact (h.claimed d hd hmutation).mono hclaims
  phases := by
    intro j c hc hclass
    rw [hcalls] at hc
    by_cases hi : i = j
    · subst hi
      rw [List.getElem?_set_self (lt_of_getElem?_eq_some hcall)] at hc
      obtain rfl := Option.some.inj hc
      exact hphase hclass
    · rw [List.getElem?_set_ne hi] at hc
      exact (h.phases j c hc hclass).mono hlog fun hheld => hheld.mono hclaims
  ordered := by
    rw [hlog]
    exact h.ordered

/-- A call of a mutation that runs its iteration has done nothing so far, and holds its permit
unless this is its first attempt. -/
lemma Inv.quietSoFar {s : State κ} (h : Inv cfg s) {i : ℕ} {call : Call} {attempt : ℕ}
    {previous : Option RuntimeResult} (hcall : s.calls[i]? = some call)
    (hready : call.phase = .ready attempt previous)
    (hclass : sideEffectClass cfg call.task = .nonIdempotentMutation) :
    QuietSoFar s i ∧ 1 ≤ attempt ∧ (attempt ≠ 1 → Holds s i call.task) := by
  have hphase := h.phases i call hcall hclass
  rw [hready] at hphase
  rcases hphase with ⟨hfirst, hnone⟩ | ⟨hlater, hheld, hquiet⟩
  · exact ⟨fun d hd hdi => absurd hdi (hnone d hd), by omega, fun hne => absurd hfirst hne⟩
  · exact ⟨hquiet, by omega, fun _ => hheld⟩

lemma Inv.dispatched {s t : State κ} (h : Inv cfg s) {i : ℕ} {call : Call} {attempt : ℕ}
    {previous : Option RuntimeResult} (hcall : s.calls[i]? = some call)
    (hready : call.phase = .ready attempt previous) {world : κ}
    (hcalls : t.calls = s.calls.set i { call with phase := .executing attempt s.log.length })
    (hlog : t.log = s.log ++ [{ call := i, task := call.task, attempt := attempt, world := world }])
    (hclaims : sideEffectClass cfg call.task = .nonIdempotentMutation →
      ∃ permit, permitId call.task = some permit ∧
        ((attempt = 1 ∧ s.consumed.get? permit = none ∧ t.consumed = s.consumed.set permit i) ∨
          (attempt ≠ 1 ∧ t.consumed = s.consumed)))
    (hother : sideEffectClass cfg call.task ≠ .nonIdempotentMutation →
      t.consumed = s.consumed) : Inv cfg t := by
  have hlt := lt_of_getElem?_eq_some hcall
  have hclaims' : Claims s t i call := by
    by_cases hclass : sideEffectClass cfg call.task = .nonIdempotentMutation
    · obtain ⟨permit, hpermit, ⟨-, hnone, hset⟩ | ⟨-, hsame⟩⟩ := hclaims hclass
      · exact .inr ⟨permit, hpermit, hnone, hset⟩
      · exact .inl hsame
    · exact .inl (hother hclass)
  have hholds : sideEffectClass cfg call.task = .nonIdempotentMutation → Holds t i call.task := by
    intro hclass
    obtain ⟨permit, hpermit, ⟨-, -, hset⟩ | ⟨hattempt, hsame⟩⟩ := hclaims hclass
    · exact ⟨permit, hpermit, by rw [hset, Dict.get?_set_self]⟩
    · exact ((h.quietSoFar cfg hcall hready hclass).2.2 hattempt).mono hclaims'
  refine ⟨?_, ?_, ?_, ?_, ?_⟩
  · intro d hd
    rw [hlog] at hd
    rcases List.mem_append.mp hd with hd | hd
    · obtain ⟨c, hc, htask⟩ := h.known d hd
      by_cases hi : i = d.call
      · subst hi
        obtain rfl : call = c := Option.some.inj (hcall.symm.trans hc)
        refine ⟨{ call with phase := .executing attempt s.log.length }, ?_, htask⟩
        rw [hcalls, List.getElem?_set_self hlt]
      · exact ⟨c, by rw [hcalls, List.getElem?_set_ne hi, hc], htask⟩
    · obtain rfl := List.mem_singleton.mp hd
      refine ⟨{ call with phase := .executing attempt s.log.length }, ?_, rfl⟩
      rw [hcalls, List.getElem?_set_self hlt]
  · intro j c attempt' entry hc hexec
    rw [hcalls] at hc
    by_cases hi : i = j
    · subst hi
      rw [List.getElem?_set_self hlt] at hc
      obtain rfl := Option.some.inj hc
      obtain ⟨rfl, rfl⟩ := Phase.executing.inj hexec
      exact ⟨_, by rw [hlog, List.getElem?_concat_length], rfl, rfl⟩
    · rw [List.getElem?_set_ne hi] at hc
      obtain ⟨d, hd, hdc, hopen⟩ := h.executing j c attempt' entry hc hexec
      exact ⟨d, by rw [hlog, List.getElem?_append_left (lt_of_getElem?_eq_some hd), hd], hdc, hopen⟩
  · intro d hd hmutation
    rw [hlog] at hd
    rcases List.mem_append.mp hd with hd | hd
    · exact (h.claimed d hd hmutation).mono hclaims'
    · obtain rfl := List.mem_singleton.mp hd
      exact hholds (by simpa [Dispatch.mutation] using hmutation)
  · intro j c hc hclass
    rw [hcalls] at hc
    by_cases hi : i = j
    · subst hi
      rw [List.getElem?_set_self hlt] at hc
      obtain rfl := Option.some.inj hc
      obtain ⟨hquiet, hpos, -⟩ := h.quietSoFar cfg hcall hready hclass
      refine ⟨hpos, fun k d hd hdi hk => ?_⟩
      rw [hlog] at hd
      have hklt : k < s.log.length := by
        have hk' := lt_of_getElem?_eq_some hd
        rw [List.length_append, List.length_singleton] at hk'
        omega
      rw [List.getElem?_append_left hklt] at hd
      exact hquiet d (List.mem_of_getElem? hd) hdi
    · rw [List.getElem?_set_ne hi] at hc
      exact (h.phases j c hc hclass).append hlog hi fun hheld => hheld.mono hclaims'
  · intro j k d e hjk hd he permit hcd hce
    rw [hlog] at hd he
    have hke := lt_of_getElem?_eq_some he
    rw [List.length_append, List.length_singleton] at hke
    have hjlt : j < s.log.length := by omega
    rw [List.getElem?_append_left hjlt] at hd
    by_cases hklt : k < s.log.length
    · rw [List.getElem?_append_left hklt] at he
      exact h.ordered j k d e hjk hd he permit hcd hce
    · rw [List.getElem?_append_right (by omega)] at he
      obtain rfl := List.mem_singleton.mp (List.mem_of_getElem? he)
      simp only [Dispatch.carries, Dispatch.mutation, Bool.and_eq_true,
        decide_eq_true_eq] at hcd hce
      obtain ⟨hclass, hid⟩ := hce
      have hmem := List.mem_of_getElem? hd
      obtain ⟨permit', hpermit', hget⟩ :=
        h.claimed d hmem (by simpa [Dispatch.mutation] using hcd.1)
      obtain rfl : permit' = permit := Option.some.inj (hpermit'.symm.trans hcd.2)
      obtain ⟨permit'', hpermit'', ⟨-, hnone, -⟩ | ⟨hattempt, -⟩⟩ := hclaims hclass
      · -- a first attempt is made with a permit no entry of the log carries
        obtain rfl : permit'' = permit' := Option.some.inj (hpermit''.symm.trans hid)
        rw [hnone] at hget
        cases hget
      · obtain ⟨hquiet, -, hheld⟩ := h.quietSoFar cfg hcall hready hclass
        obtain ⟨own, hown, hgetown⟩ := hheld hattempt
        obtain rfl : own = permit' := Option.some.inj (hown.symm.trans hid)
        exact hquiet d hmem (Option.some.inj (hget.symm.trans hgetown))

/-! ## The end of an executor call -/

/-- An entry of the log after the end of an executor call: the same entry, ended if it is the
one. -/
lemma endDispatch_getElem? (s : State κ) (entry : ℕ) (ended : Ended) (k : ℕ) :
    (s.endDispatch entry ended).log[k]? =
      (s.log[k]?).map fun d => if entry = k then { d with ended := some ended } else d := by
  rw [State.endDispatch, List.getElem?_modify]
  rfl

lemma of_endDispatch {s : State κ} {entry k : ℕ} {ended : Ended} {d : Dispatch κ}
    (hd : (s.endDispatch entry ended).log[k]? = some d) :
    ∃ e, s.log[k]? = some e ∧ d.call = e.call ∧ d.task = e.task ∧
      (entry ≠ k → d = e) ∧ (entry = k → d.ended = some ended) := by
  rw [endDispatch_getElem?] at hd
  obtain ⟨e, he, rfl⟩ := Option.map_eq_some_iff.mp hd
  by_cases hk : entry = k
  · exact ⟨e, he, by simp [hk], by simp [hk], fun h => absurd hk h, by simp [hk]⟩
  · exact ⟨e, he, by simp [hk], by simp [hk], by simp [hk], fun h => absurd h hk⟩

lemma mem_of_endDispatch {s : State κ} {entry : ℕ} {ended : Ended} {d : Dispatch κ}
    (hd : d ∈ (s.endDispatch entry ended).log) :
    ∃ e ∈ s.log, d.call = e.call ∧ d.task = e.task := by
  obtain ⟨k, hk⟩ := List.getElem?_of_mem hd
  obtain ⟨e, he, hcall, htask, -, -⟩ := of_endDispatch hk
  exact ⟨e, List.mem_of_getElem? he, hcall, htask⟩

lemma Inv.endDispatch {s t : State κ} (h : Inv cfg s) {i : ℕ} {call : Call}
    {attempt entry : ℕ} (hcall : s.calls[i]? = some call)
    (hexec : call.phase = .executing attempt entry) {ended : Ended} {phase : Phase}
    (hcalls : t.calls = s.calls.set i { call with phase := phase })
    (hlog : t.log = (s.endDispatch entry ended).log) (hconsumed : t.consumed = s.consumed)
    (hphase : phase.ended = true ∨
      ((∃ previous, phase = .ready (attempt + 1) (some previous)) ∧
        (sideEffectClass cfg call.task = .nonIdempotentMutation →
          ∃ o : OperationOutcome, ended = .outcome o ∧ o.harmless = true))) : Inv cfg t := by
  have hlt := lt_of_getElem?_eq_some hcall
  obtain ⟨own, hown, howncall, hopen⟩ := h.executing i call attempt entry hcall hexec
  have hholds : ∀ (j : ℕ) (task : RuntimeTask), Holds s j task → Holds t j task := by
    intro j task hheld
    rwa [Holds, hconsumed]
  refine ⟨?_, ?_, ?_, ?_, ?_⟩
  · intro d hd
    rw [hlog] at hd
    obtain ⟨e, he, hdcall, hdtask⟩ := mem_of_endDispatch hd
    obtain ⟨c, hc, htask⟩ := h.known e he
    rw [hdcall, hdtask, hcalls]
    by_cases hi : i = e.call
    · subst hi
      obtain rfl : call = c := Option.some.inj (hcall.symm.trans hc)
      exact ⟨{ call with phase := phase }, List.getElem?_set_self hlt, htask⟩
    · exact ⟨c, by rw [List.getElem?_set_ne hi, hc], htask⟩
  · intro j c attempt' entry' hc hexec'
    rw [hcalls] at hc
    by_cases hi : i = j
    · subst hi
      rw [List.getElem?_set_self hlt] at hc
      obtain rfl := Option.some.inj hc
      rcases hphase with hended | ⟨⟨previous, rfl⟩, -⟩
      · change phase = _ at hexec'
        rw [hexec'] at hended
        cases hended
      · cases hexec'
    · rw [List.getElem?_set_ne hi] at hc
      obtain ⟨d, hd, hdj, hdopen⟩ := h.executing j c attempt' entry' hc hexec'
      have hne : entry ≠ entry' := by
        rintro rfl
        obtain rfl : own = d := Option.some.inj (hown.symm.trans hd)
        exact hi (howncall.symm.trans hdj)
      exact ⟨d, by rw [hlog, endDispatch_getElem?, hd]; simp [hne], hdj, hdopen⟩
  · intro d hd hmutation
    rw [hlog] at hd
    obtain ⟨e, he, hdcall, hdtask⟩ := mem_of_endDispatch hd
    rw [Dispatch.mutation, hdtask] at hmutation
    rw [hdcall, hdtask]
    exact hholds _ _ (h.claimed e he hmutation)
  · intro j c hc hclass
    rw [hcalls] at hc
    by_cases hi : i = j
    · subst hi
      rw [List.getElem?_set_self hlt] at hc
      obtain rfl := Option.some.inj hc
      rcases hphase with hended | ⟨⟨previous, rfl⟩, hquiet⟩
      · cases phase <;> trivial
      · obtain ⟨o, rfl, ho⟩ := hquiet hclass
        have hbefore := h.phases i call hcall hclass
        rw [hexec] at hbefore
        have hmem := List.mem_of_getElem? hown
        obtain ⟨c', hc', htask⟩ := h.known own hmem
        rw [howncall, hcall] at hc'
        obtain rfl := Option.some.inj hc'
        have hheld := h.claimed own hmem (by
          rw [Dispatch.mutation, ← htask]
          simpa using hclass)
        rw [howncall, ← htask] at hheld
        refine .inr ⟨by have := hbefore.1; omega, hholds _ _ hheld, fun d hd hdi => ?_⟩
        rw [hlog] at hd
        obtain ⟨k, hk⟩ := List.getElem?_of_mem hd
        obtain ⟨e, he, hdcall, -, hsame, hnow⟩ := of_endDispatch hk
        by_cases hek : entry = k
        · rw [Dispatch.harmless, hnow hek]
          exact ho
        · rw [hsame hek]
          exact hbefore.2 k e he (hdcall.symm.trans hdi) fun hke => hek hke.symm
    · rw [List.getElem?_set_ne hi] at hc
      -- the entry that changes is not one of call `j`
      have hentry : ∀ (k : ℕ) (d e : Dispatch κ), s.log[k]? = some e → d.call = e.call →
          d.call = j → (entry ≠ k → d = e) → d = e := by
        intro k d e he hdcall hdj hsame
        refine hsame ?_
        rintro rfl
        obtain rfl : own = e := Option.some.inj (hown.symm.trans he)
        exact hi (howncall.symm.trans (hdcall.symm.trans hdj))
      have hbefore := h.phases j c hc hclass
      cases hp : c.phase with
      | ready attempt' previous' =>
          rw [hp] at hbefore
          rcases hbefore with ⟨hfirst, hnone⟩ | ⟨hlater, hheld, hquiet⟩
          · refine .inl ⟨hfirst, fun d hd => ?_⟩
            rw [hlog] at hd
            obtain ⟨e, he, hdcall, -⟩ := mem_of_endDispatch hd
            rw [hdcall]
            exact hnone e he
          · refine .inr ⟨hlater, hholds _ _ hheld, fun d hd hdj => ?_⟩
            rw [hlog] at hd
            obtain ⟨k, hk⟩ := List.getElem?_of_mem hd
            obtain ⟨e, he, hdcall, -, hsame, -⟩ := of_endDispatch hk
            obtain rfl := hentry k d e he hdcall hdj hsame
            exact hquiet d (List.mem_of_getElem? he) hdj
      | executing attempt' entry' =>
          rw [hp] at hbefore
          refine ⟨hbefore.1, fun k d hd hdj hk => ?_⟩
          rw [hlog] at hd
          obtain ⟨e, he, hdcall, -, hsame, -⟩ := of_endDispatch hd
          obtain rfl := hentry k d e he hdcall hdj hsame
          exact hbefore.2 k d he hdj hk
      | returned result => trivial
      | raised => trivial
  · intro j k d e hjk hd he permit hcd hce
    rw [hlog] at hd he
    obtain ⟨d', hd', -, hdtask, hdsame, -⟩ := of_endDispatch hd
    obtain ⟨e', he', -, hetask, -, -⟩ := of_endDispatch he
    rw [Dispatch.carries, Dispatch.mutation, hdtask] at hcd
    rw [Dispatch.carries, Dispatch.mutation, hetask] at hce
    have hharmless := h.ordered j k d' e' hjk hd' he' permit hcd hce
    by_cases hej : entry = j
    · -- an open entry is not harmless, so no later entry carries its permit
      subst hej
      obtain rfl : own = d' := Option.some.inj (hown.symm.trans hd')
      rw [Dispatch.harmless, hopen] at hharmless
      cases hharmless
    · rw [hdsame hej]
      exact hharmless

/-! ## Steps and runs -/

lemma Inv.iterated {s t : State κ} (h : Inv cfg s) {i : ℕ} {call : Call} {attempt : ℕ}
    {previous : Option RuntimeResult} (hcall : s.calls[i]? = some call)
    (hready : call.phase = .ready attempt previous)
    (hiter : Iterated cfg s t i call attempt) : Inv cfg t := by
  cases hiter with
  | ended phase hphase hcalls hlog hclaims =>
      refine h.setPhase cfg hcall hcalls hlog hclaims ?_ fun _ => ?_
      · rintro attempt' entry rfl
        cases hphase
      · cases phase <;> trivial
  | retried next hclass hcalls hlog hconsumed =>
      refine h.setPhase cfg hcall hcalls hlog (.inl hconsumed) ?_ fun hmutation => ?_
      · rintro attempt' entry hexec
        cases hexec
      · exact absurd hmutation hclass
  | dispatched world hcalls hlog hclaims hother =>
      exact h.dispatched cfg hcall hready hcalls hlog hclaims hother

lemma Inv.finished {s : State κ} (h : Inv cfg s) {i : ℕ} {call : Call} {attempt entry : ℕ}
    (hcall : s.calls[i]? = some call) (hexec : call.phase = .executing attempt entry)
    (result : RuntimeResult) :
    Inv cfg (settle cfg (s.endDispatch entry (.outcome (operationOutcome cfg call.task result))) i
      call attempt result) := by
  obtain ⟨hlog, hconsumed, phase, hcalls, hphase⟩ := settle_spec cfg
    (s.endDispatch entry (.outcome (operationOutcome cfg call.task result))) i call attempt result
  refine h.endDispatch cfg hcall hexec hcalls hlog hconsumed ?_
  rcases hphase with hended | ⟨-, hallows, hprevious⟩
  · exact .inl hended
  · refine .inr ⟨hprevious, fun hclass => ?_⟩
    rw [hclass] at hallows
    exact ⟨_, rfl, (RetryPolicy.allows_nonIdempotent hallows).1⟩

/-- Every move of the engine keeps the invariant. -/
theorem inv_step (s : State κ) (move : Move) (t : State κ) (h : Inv cfg s)
    (hstep : (machine cfg).step s move = some t) : Inv cfg t := by
  change step cfg s move = some t at hstep
  cases move with
  | start context task routing =>
      obtain rfl := Option.some.inj hstep
      have hnew : ∀ (j : ℕ) (c : Call), (s.calls ++
          [{ context := context, task := task, routing := routing }])[j]? = some c →
          s.calls[j]? = some c ∨ (j = s.calls.length ∧ c.phase = .ready 1 none) := by
        intro j c hc
        by_cases hj : j < s.calls.length
        · rw [List.getElem?_append_left hj] at hc
          exact .inl hc
        · have hlen := lt_of_getElem?_eq_some hc
          rw [List.length_append, List.length_singleton] at hlen
          rw [List.getElem?_append_right (by omega)] at hc
          obtain rfl := List.mem_singleton.mp (List.mem_of_getElem? hc)
          exact .inr ⟨by omega, rfl⟩
      refine ⟨?_, ?_, h.claimed, ?_, h.ordered⟩
      · intro d hd
        obtain ⟨c, hc, htask⟩ := h.known d hd
        exact ⟨c, by rw [List.getElem?_append_left (lt_of_getElem?_eq_some hc), hc], htask⟩
      · intro j c attempt entry hc hexec
        rcases hnew j c hc with hold | ⟨-, hready⟩
        · exact h.executing j c attempt entry hold hexec
        · rw [hready] at hexec
          cases hexec
      · intro j c hc hclass
        rcases hnew j c hc with hold | ⟨rfl, hready⟩
        · exact h.phases j c hold hclass
        · rw [hready]
          refine .inl ⟨rfl, fun d hd hdc => ?_⟩
          obtain ⟨c', hc', -⟩ := h.known d hd
          have hlt := lt_of_getElem?_eq_some hc'
          omega
  | turn i now =>
      simp only [step] at hstep
      split at hstep
      · rename_i call hcall
        split at hstep
        · rename_i attempt previous hready
          split at hstep
          · rename_i result _ _
            obtain rfl := Option.some.inj hstep
            exact h.setPhase cfg hcall rfl rfl (.inl rfl) (fun _ _ => by simp) fun _ => trivial
          · obtain rfl := Option.some.inj hstep
            exact h.iterated cfg hcall hready (iterated_iterate cfg s i call attempt now)
        · cases hstep
      · cases hstep
  | finish i result =>
      simp only [step] at hstep
      split at hstep
      · rename_i call hcall
        split at hstep
        · rename_i attempt entry hexec
          obtain rfl := Option.some.inj hstep
          exact h.finished cfg hcall hexec _
        · cases hstep
      · cases hstep
  | raise i =>
      simp only [step] at hstep
      split at hstep
      · rename_i call hcall
        split at hstep
        · rename_i attempt entry hexec
          obtain rfl := Option.some.inj hstep
          exact h.endDispatch cfg hcall hexec rfl rfl rfl (.inl rfl)
        · cases hstep
      · cases hstep
  | cancel i =>
      simp only [step] at hstep
      split at hstep
      · rename_i call hcall
        split at hstep
        · rename_i attempt entry hexec
          obtain rfl := Option.some.inj hstep
          exact h.endDispatch cfg hcall hexec rfl rfl rfl (.inl rfl)
        · obtain rfl := Option.some.inj hstep
          exact h.setPhase cfg hcall rfl rfl (.inl rfl) (fun _ _ => by simp) fun _ => trivial
        · cases hstep
      · cases hstep
  | requestCancel context =>
      obtain rfl := Option.some.inj hstep
      exact ⟨h.known, h.executing, h.claimed, h.phases, h.ordered⟩

/-- A fresh engine: nothing consumed, no call made. -/
def State.fresh (world : κ) (retryAttempt : ℕ → ℕ) (cancelRequested : ℕ → Bool) : State κ where
  world := world
  retryAttempt := retryAttempt
  cancelRequested := cancelRequested

/-- The invariant holds in every state an engine reaches. -/
theorem inv_run {world : κ} {retryAttempt : ℕ → ℕ} {cancelRequested : ℕ → Bool}
    {moves : List Move} {s : State κ}
    (hrun : (machine cfg).run (.fresh world retryAttempt cancelRequested) moves = some s) :
    Inv cfg s :=
  (machine cfg).run_invariant (inv_step cfg) (inv_init cfg world retryAttempt cancelRequested) hrun

/-- In every state an engine reaches, of two executor calls of mutations with one permit the
earlier one ended with an outcome that proves that nothing was done; so at most one of them
ended in any other way. -/
theorem mutation_permit_effective_once {world : κ} {retryAttempt : ℕ → ℕ}
    {cancelRequested : ℕ → Bool} {moves : List Move} {s : State κ}
    (hrun : (machine cfg).run (.fresh world retryAttempt cancelRequested) moves = some s)
    (permit : String) :
    (s.log.filter fun d => d.carries cfg permit && d.effective).length ≤ 1 ∧
      ∀ (i j : ℕ) (d e : Dispatch κ), i < j → s.log[i]? = some d → s.log[j]? = some e →
        d.carries cfg permit = true → e.carries cfg permit = true →
        d.harmless = true ∧ d.effective = false := by
  have h := inv_run cfg hrun
  have hpair : ∀ (i j : ℕ) (d e : Dispatch κ), i < j → s.log[i]? = some d →
      s.log[j]? = some e → d.carries cfg permit = true → e.carries cfg permit = true →
      d.harmless = true ∧ d.effective = false := by
    intro i j d e hij hd he hcd hce
    have hharmless := h.ordered i j d e hij hd he permit hcd hce
    exact ⟨hharmless, by rw [Dispatch.effective, hharmless, Bool.not_true, Bool.and_false]⟩
  refine ⟨?_, hpair⟩
  have hordered : s.log.Pairwise fun d e =>
      d.carries cfg permit = true → e.carries cfg permit = true → d.effective = false := by
    rw [List.pairwise_iff_getElem]
    intro i j hi hj hij hcd hce
    exact (hpair i j _ _ hij (List.getElem?_eq_getElem hi) (List.getElem?_eq_getElem hj) hcd hce).2
  have hfiltered := hordered.filter fun d => d.carries cfg permit && d.effective
  cases hf : s.log.filter (fun d => d.carries cfg permit && d.effective) with
  | nil => simp
  | cons x xs =>
      cases xs with
      | nil => simp
      | cons y rest =>
          -- two effective calls would be a pair whose first did nothing
          have hx := (List.mem_filter.mp (hf ▸ List.mem_cons_self)).2
          have hy := (List.mem_filter.mp (hf ▸ List.mem_cons_of_mem x List.mem_cons_self)).2
          rw [hf] at hfiltered
          simp only [Bool.and_eq_true] at hx hy
          have hquiet := (List.pairwise_cons.mp hfiltered).1 y List.mem_cons_self hx.1 hy.1
          rw [hx.2] at hquiet
          cases hquiet

/-! ### A run with a retry and a replay -/

/-- A permit for one tool operation. -/
def samplePermit : ExecutionPermit where
  permitId := "p"
  actionId := "t"
  subjectId := "u"
  actionType := "tool"
  target := some "mail"
  operationDigest := "sha"
  risk := .high
  constraints := {}
  policyReference := "cap"
  approvalSource := "human"
  issuedAt := 0
  expiresAt := 900
  decision := .allow
  integrityDigest := "mac"

def sampleTask : RuntimeTask where
  taskId := "t"
  actionType := "tool"
  metadata := [("tool", .str "mail")]
  permit := some samplePermit

/-- An engine that retries once and whose checkpoint callback does nothing. -/
def sampleConfig : EngineConfig Unit where
  platform := ⟨fun _ => "sha", fun _ => "mac", fun _ => some {}⟩
  textOf := fun _ => ""
  textOfContainer := fun _ => ""
  retryPolicy := { maxAttempts := 2 }
  toolReliability := fun _ => none
  registered := fun _ => true
  validateResult := fun _ => none
  recoveredToolSecurity := fun _ _ _ => none
  contexts := fun _ => { requestId := "r", userId := some "u" }
  checkpoint := fun _ world _ => (world, true)

/-- Two calls of the task share a context: the first fails before its effect and is retried
while the second is turned away, then completes. -/
def sampleMoves : List Move :=
  [.start 0 sampleTask ⟨"", "", "", [], {}, []⟩, .start 0 sampleTask ⟨"", "", "", [], {}, []⟩,
    .turn 0 1,
    .finish 0 { taskId := "t", status := .failed, error := some "dns",
                metadata := [("operation_outcome", .str "failed_before_effect")] },
    .turn 1 2, .turn 0 3, .finish 0 { taskId := "t", status := .completed }]

theorem mutation_permit_effective_once_sample :
    ∃ s, (machine sampleConfig).run (.fresh () (fun _ => 1) fun _ => false) sampleMoves = some s ∧
      s.log.length = 2 ∧
      (s.log.filter fun d => d.carries sampleConfig "p" && d.effective).length ≤ 1 ∧
      ∀ (i j : ℕ) (d e : Dispatch Unit), i < j → s.log[i]? = some d → s.log[j]? = some e →
        d.carries sampleConfig "p" = true → e.carries sampleConfig "p" = true →
        d.harmless = true ∧ d.effective = false := by
  have hlen : ((machine sampleConfig).run (.fresh () (fun _ => 1) fun _ => false)
      sampleMoves).map (fun s => s.log.length) = some 2 := by decide
  obtain ⟨s, hrun, hlog⟩ := Option.map_eq_some_iff.mp hlen
  exact ⟨s, hrun, hlog, mutation_permit_effective_once sampleConfig hrun "p"⟩

end Engine

end Samaktha
