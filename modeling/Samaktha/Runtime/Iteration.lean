import Samaktha.Runtime.Outcomes

/-!
# An iteration and its checkpoints

What one move of the runtime engine does to the world behind its checkpoint callback, to its calls
and to the log of its executor calls.  A call is `known` while it is known whether its effect has
happened: before an attempt, and behind a result whose outcome tells.
-/

namespace Samaktha

namespace Engine

variable {κ : Type} (cfg : EngineConfig κ)

/-- A result that did not complete and declares no outcome. -/
structure Unattempted (result : RuntimeResult) : Prop where
  status : result.status ≠ .completed
  outcome : declaredOutcome result = none

lemma Undeclared.unattempted {result : RuntimeResult} {error : String}
    (h : Undeclared result error) : Unattempted result := by
  refine ⟨h.status, ?_⟩
  unfold declaredOutcome
  rw [h.outcome]
  rfl

lemma unattempted_executorNotRegistered (task : RuntimeTask) (routing : RoutingDecision) :
    Unattempted (executorNotRegistered task routing) := ⟨fun h => (by cases h), rfl⟩

/-- An outcome that tells whether the effect has happened. -/
def tells (outcome : OperationOutcome) : Bool := outcome = .completed || outcome.harmless

/-- Whether the effect of a call is known: it stands before an attempt, or has returned a result
that tells. -/
def Phase.known : Phase → Bool
  | .ready _ _ => true
  | .returned result => (declaredOutcome result).any tells
  | .executing _ _ | .raised => false

lemma Unattempted.tells {task : RuntimeTask} {result : RuntimeResult} (h : Unattempted result)
    (hclass : sideEffectClass cfg task = .nonIdempotentMutation) :
    tells (operationOutcome cfg task result) = false := by
  have htool := actionType_of_nonIdempotent cfg hclass
  have hharmless := harmless_of_tool cfg htool h.outcome
  have hcompleted : operationOutcome cfg task result ≠ .completed := by
    unfold operationOutcome
    rw [h.outcome]
    dsimp only
    rw [if_neg h.status, if_pos htool]
    split <;> exact fun h => by cases h
  simp [Engine.tells, hcompleted, hharmless]

lemma recoverySafe_of_tells {context : RuntimeContext} {task : RuntimeTask} {attempt : ℕ}
    {result : RuntimeResult} (hclass : sideEffectClass cfg task = .nonIdempotentMutation)
    (htells : tells (operationOutcome cfg task result) = false) :
    (endBoundary cfg context task attempt result).recoverySafe = false := by
  simp only [tells, Bool.or_eq_false_iff, decide_eq_false_iff_not] at htells
  have hbefore : operationOutcome cfg task result ≠ .failedBeforeEffect := by
    intro heq
    rw [heq] at htells
    cases htells.2
  simp [endBoundary, htells.1, hbefore, hclass]

lemma declaredOutcome_annotate (context : RuntimeContext) (task : RuntimeTask) (attempt : ℕ)
    (result : RuntimeResult) :
    declaredOutcome (annotate cfg context task attempt result) =
      some (operationOutcome cfg task result) := by
  have hget : Dict.get? (annotate cfg context task attempt result).metadata "operation_outcome" =
      some (.str (operationOutcome cfg task result).value) := by
    rw [annotate, Dict.get?_update]
    rfl
  rw [declaredOutcome, hget, Option.bind_some, Json.str?, Option.bind_some,
    OperationOutcome.ofValue?_value]

lemma tells_of_known {cancelled : Bool} {context : RuntimeContext} {task : RuntimeTask}
    {attempt : ℕ} {result : RuntimeResult}
    (hclass : sideEffectClass cfg task = .nonIdempotentMutation)
    (h : (nextPhase cfg cancelled context task attempt result).known = true) :
    tells (operationOutcome cfg task result) = true := by
  have hreturned : (Phase.returned (annotate cfg context task attempt result)).known =
      tells (operationOutcome cfg task result) := by
    rw [Phase.known, declaredOutcome_annotate, Option.any_some]
  unfold nextPhase at h
  split at h
  · rwa [hreturned] at h
  · split at h
    · rwa [hreturned] at h
    · split at h
      · rwa [hreturned] at h
      · rename_i hallows
        rw [Bool.not_eq_true, Bool.not_eq_false', hclass] at hallows
        rw [tells, (RetryPolicy.allows_nonIdempotent hallows).1, Bool.or_true]

/-- The world and the answer after the checkpoint before an attempt of a call. -/
def afterStart (s : State κ) (call : Call) (attempt : ℕ) : κ × Bool :=
  cfg.checkpoint call.context s.world
    (startBoundary cfg (cfg.contexts call.context) call.task attempt)

/-- A call takes another phase, and its effect is not known if it is a mutation's. -/
def Leaves (s t : State κ) (i : ℕ) (call : Call) : Prop :=
  ∃ phase : Phase, t.calls = s.calls.set i { call with phase := phase } ∧
    (sideEffectClass cfg call.task = .nonIdempotentMutation → phase.known = false)

/-- What an iteration of a call does to the world, the calls and the log. -/
inductive Turned (s t : State κ) (i : ℕ) (call : Call) (attempt : ℕ) : Prop
  | idle (hworld : t.world = s.world)
      (hcalls : ∃ phase : Phase, t.calls = s.calls.set i { call with phase := phase })
      (hlog : t.log = s.log)
  | started (hnew : recoveredResult (cfg.contexts call.context) call.task = none)
      (hworld : t.world = (afterStart cfg s call attempt).1) (hcalls : Leaves cfg s t i call)
      (hlog : t.log = s.log)
  | refused (result : RuntimeResult) (hresult : Unattempted result)
      (hnew : recoveredResult (cfg.contexts call.context) call.task = none)
      (hreturned : (afterStart cfg s call attempt).2 = true)
      (hworld : t.world = (cfg.checkpoint call.context (afterStart cfg s call attempt).1
        (endBoundary cfg (cfg.contexts call.context) call.task attempt result)).1)
      (hcalls : Leaves cfg s t i call) (hlog : t.log = s.log)
  | dispatched (hnew : recoveredResult (cfg.contexts call.context) call.task = none)
      (hreturned : (afterStart cfg s call attempt).2 = true)
      (hworld : t.world = (afterStart cfg s call attempt).1) (hcalls : Leaves cfg s t i call)
      (hlog : t.log = s.log ++ [{
        call := i
        task := call.task
        attempt := attempt
        world := (afterStart cfg s call attempt).1 }])

lemma settle_calls (s : State κ) (i : ℕ) (call : Call) (attempt : ℕ) (result : RuntimeResult) :
    ∃ phase, (settle cfg s i call attempt result).calls =
        s.calls.set i { call with phase := phase } ∧
      (phase = .raised ∨ phase = nextPhase cfg (s.cancelRequested call.context)
        (cfg.contexts call.context) call.task attempt result) := by
  unfold settle
  dsimp only
  split
  · exact ⟨_, rfl, .inr rfl⟩
  · exact ⟨_, rfl, .inl rfl⟩

lemma turned_runOnce {s u : State κ} {i : ℕ} {call : Call} {attempt : ℕ} {now : ℤ}
    (hnew : recoveredResult (cfg.contexts call.context) call.task = none)
    (hreturned : (afterStart cfg s call attempt).2 = true)
    (hworld : u.world = (afterStart cfg s call attempt).1) (hcalls : u.calls = s.calls)
    (hlog : u.log = s.log) :
    Turned cfg s (runOnce cfg u i call attempt now) i call attempt := by
  have hsettle : ∀ (v : State κ) (result : RuntimeResult), v.world = u.world →
      v.calls = u.calls → v.log = u.log → Unattempted result →
      Turned cfg s (settle cfg v i call attempt result) i call attempt := by
    intro v result hv hvcalls hvlog hresult
    refine .refused result hresult hnew hreturned ?_ ?_ (hvlog.trans hlog)
    · rw [← hworld, ← hv]
      rfl
    · obtain ⟨phase, hsettled, hphase⟩ := settle_calls cfg v i call attempt result
      refine ⟨phase, by rw [hsettled, hvcalls, hcalls], fun hclass => ?_⟩
      rcases hphase with rfl | rfl
      · rfl
      · rw [← Bool.not_eq_true]
        intro hknown
        have htells := tells_of_known cfg hclass hknown
        rw [hresult.tells cfg hclass] at htells
        cases htells
  have hinvoke : ∀ v : State κ, v.world = u.world → v.calls = u.calls → v.log = u.log →
      Turned cfg s (invoke cfg v i call attempt) i call attempt := by
    intro v hv hvcalls hvlog
    unfold invoke
    split
    · refine .dispatched hnew hreturned (hv.trans hworld) ⟨.executing attempt v.log.length, ?_,
        fun _ => rfl⟩ ?_
      · rw [← hcalls, ← hvcalls]
        rfl
      · show v.log ++ [_] = _
        rw [hvlog, hlog, hv, hworld]
    · exact hsettle v _ hv hvcalls hvlog
        (unattempted_executorNotRegistered call.task call.routing)
  unfold runOnce
  split
  · exact .started hnew hworld ⟨.raised, by rw [← hcalls]; rfl, fun _ => rfl⟩ hlog
  · rename_i result hgate
    obtain ⟨error, hresult, -⟩ := undeclared_of_gate hgate
    exact hsettle u result rfl rfl rfl hresult.unattempted
  · split
    · dsimp only
      split
      · exact hsettle u _ rfl rfl rfl
          (undeclared_permitReplayed call.task call.routing).unattempted
      · exact hinvoke _ rfl rfl rfl
    · exact hinvoke u rfl rfl rfl

lemma turned_iterate (s : State κ) (i : ℕ) (call : Call) (attempt : ℕ) (now : ℤ) :
    Turned cfg s (iterate cfg s i call attempt now) i call attempt := by
  unfold iterate
  dsimp only
  split
  · exact .idle rfl ⟨_, rfl⟩ rfl
  · rename_i hnew
    split
    · rename_i hreturned
      exact turned_runOnce cfg hnew hreturned rfl rfl rfl
    · exact .started hnew rfl ⟨.raised, rfl, fun _ => rfl⟩ rfl

/-- The entries of a log, but for how they ended. -/
def SameEntries (log log' : List (Dispatch κ)) : Prop :=
  ∀ d' ∈ log', ∃ d ∈ log, d'.task = d.task ∧ d'.world = d.world

lemma sameEntries_refl (log : List (Dispatch κ)) : SameEntries log log :=
  fun d hd => ⟨d, hd, rfl, rfl⟩

lemma sameEntries_endDispatch (s : State κ) (entry : ℕ) (ended : Ended) :
    SameEntries s.log (s.endDispatch entry ended).log := by
  intro d' hd'
  obtain ⟨k, hk⟩ := List.getElem?_of_mem hd'
  rw [endDispatch_getElem?] at hk
  obtain ⟨d, hd, rfl⟩ := Option.map_eq_some_iff.mp hk
  refine ⟨d, List.mem_of_getElem? hd, ?_⟩
  split <;> exact ⟨rfl, rfl⟩

/-- The calls whose effect is not known stay with one that is not. -/
def Persists (s t : State κ) : Prop :=
  ∀ call ∈ s.calls, call.phase.known = false →
    ∃ call' ∈ t.calls, call'.task = call.task ∧ call'.phase.known = false

lemma persists_of_append {s t : State κ} {added : List Call} (h : t.calls = s.calls ++ added) :
    Persists s t :=
  fun call hcall hknown => ⟨call, h ▸ List.mem_append_left _ hcall, rfl, hknown⟩

lemma persists_of_set {s t : State κ} {i : ℕ} {call : Call} {phase : Phase}
    (hcall : s.calls[i]? = some call) (h : t.calls = s.calls.set i { call with phase := phase })
    (hphase : call.phase.known = true ∨ phase.known = false) : Persists s t := by
  intro other hother hknown
  obtain ⟨k, hk⟩ := List.mem_iff_getElem?.mp hother
  have hlength : i < s.calls.length := (List.getElem?_eq_some_iff.mp hcall).1
  by_cases hki : k = i
  · subst hki
    obtain rfl := Option.some.inj (hcall.symm.trans hk)
    refine ⟨{ call with phase := phase }, List.mem_of_getElem? (i := k) ?_, rfl, ?_⟩
    · rw [h, List.getElem?_set_self hlength]
    · exact hphase.resolve_left fun hbefore => by
        rw [hknown] at hbefore
        cases hbefore
  · refine ⟨other, List.mem_of_getElem? (i := k) ?_, rfl, hknown⟩
    rw [h, List.getElem?_set_ne (Ne.symm hki), hk]

/-- What a move does to the world, the calls and the log. -/
inductive MoveEffect (s t : State κ) : Move → Prop
  | turned {i : ℕ} {now : ℤ} {call : Call} {attempt : ℕ} {previous : Option RuntimeResult}
      (hcall : s.calls[i]? = some call) (hphase : call.phase = .ready attempt previous)
      (hgoes : ∀ result, previous = some result → s.cancelRequested call.context = false)
      (hturned : Turned cfg s t i call attempt) : MoveEffect s t (.turn i now)
  | finished {i : ℕ} {result : RuntimeResult} {call : Call} {attempt entry : ℕ}
      (hcall : s.calls[i]? = some call) (hphase : call.phase = .executing attempt entry)
      (hworld : t.world = (cfg.checkpoint call.context s.world (endBoundary cfg
        (cfg.contexts call.context) call.task attempt
          (executed (cfg.contexts call.context) call.task result))).1)
      (hcalls : t.calls = s.calls.set i { call with
        phase := if (cfg.checkpoint call.context s.world (endBoundary cfg
            (cfg.contexts call.context) call.task attempt
              (executed (cfg.contexts call.context) call.task result))).2 then
          nextPhase cfg (s.cancelRequested call.context) (cfg.contexts call.context) call.task
            attempt (executed (cfg.contexts call.context) call.task result)
        else .raised })
      (hlog : SameEntries s.log t.log) : MoveEffect s t (.finish i result)
  | other {move : Move} (hworld : t.world = s.world) (hcalls : Persists s t)
      (hlog : SameEntries s.log t.log) : MoveEffect s t move

lemma moveEffect_of_step {s t : State κ} {move : Move} (hstep : step cfg s move = some t) :
    MoveEffect cfg s t move := by
  cases move with
  | start _ task routing =>
      obtain rfl := Option.some.inj hstep
      exact .other rfl (persists_of_append rfl) (sameEntries_refl _)
  | requestCancel _ =>
      obtain rfl := Option.some.inj hstep
      exact .other rfl (persists_of_append (List.append_nil _).symm) (sameEntries_refl _)
  | turn i now =>
      simp only [step] at hstep
      split at hstep
      · rename_i call hcall
        split at hstep
        · rename_i attempt previous hphase
          split at hstep
          · obtain rfl := Option.some.inj hstep
            refine .other rfl (persists_of_set hcall rfl (.inl ?_)) (sameEntries_refl _)
            rw [hphase]
            rfl
          · rename_i hgoes
            obtain rfl := Option.some.inj hstep
            refine .turned hcall hphase (fun result hprevious => ?_)
              (turned_iterate cfg s i call attempt now)
            exact Bool.eq_false_iff.mpr fun hcancel => hgoes result hprevious hcancel
        · cases hstep
      · cases hstep
  | finish i result =>
      simp only [step] at hstep
      split at hstep
      · rename_i call hcall
        split at hstep
        · rename_i attempt entry hphase
          obtain rfl := Option.some.inj hstep
          exact .finished hcall hphase rfl rfl (sameEntries_endDispatch s entry _)
        · cases hstep
      · cases hstep
  | raise i =>
      simp only [step] at hstep
      split at hstep
      · rename_i call hcall
        split at hstep
        · rename_i entry _
          obtain rfl := Option.some.inj hstep
          exact .other rfl (persists_of_set hcall rfl (.inr rfl))
            (sameEntries_endDispatch s entry _)
        · cases hstep
      · cases hstep
  | cancel i =>
      simp only [step] at hstep
      split at hstep
      · rename_i call hcall
        split at hstep
        · rename_i entry _
          obtain rfl := Option.some.inj hstep
          exact .other rfl (persists_of_set hcall rfl (.inr rfl))
            (sameEntries_endDispatch s entry _)
        · obtain rfl := Option.some.inj hstep
          exact .other rfl (persists_of_set hcall rfl (.inr rfl)) (sameEntries_refl _)
        · cases hstep
      · cases hstep

end Engine

end Samaktha
