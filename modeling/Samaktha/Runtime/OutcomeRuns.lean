import Samaktha.Runtime.Outcomes

/-!
# What is recorded of an operation

The engine with the tool executor in place, for any number of calls at once: beside the engine's
state stands what became of the attempts of every call.  `Told` is what is known of a result that
a call returns, `PhaseTold` what a run keeps of every call; `iterate_turned` and `settled_told` say
what an iteration and an executor's result do to it.
-/

namespace Samaktha

namespace Engine

open ToolExecutor

/-- The executors of action types, by the name they are registered under. -/
def actionExecutorMap : Dict String String := [
  ("text_generation", "provider"),
  ("provider", "provider"),
  ("tool_execution", "tool"),
  ("tool", "tool"),
  ("filesystem", "tool"),
  ("pdf", "tool"),
  ("memory", "tool"),
  ("windows", "tool"),
  ("internet", "tool")]

/-- The executor that `dispatch` looks up. -/
def executorName (actionType : String) : String :=
  let normalized := normalizeActionType actionType
  (Dict.get? actionExecutorMap normalized).getD normalized

/-- The task goes to the tool executor. -/
def forTool (task : RuntimeTask) : Bool := executorName task.actionType = "tool"

/-- An engine, and what became of the attempts of its calls. -/
structure Observed (κ : Type) where
  engine : State κ
  attempts : ℕ → List Attempt := fun _ => []

inductive ObservedMove where
  /-- A move of the engine, except for a result of the tool executor. -/
  | engine (move : Move)
  /-- The tool executor of a call returns. -/
  | tool (call : ℕ) (world : ToolWorld)

variable {κ : Type} (cfg : EngineConfig κ)

/-- What becomes of an attempt before it comes to an executor, if it does not. -/
def turned (s : State κ) (call : Call) (attempt : ℕ) (now : ℤ) : List Attempt :=
  let context := cfg.contexts call.context
  let gate := enforceCapPermit cfg.platform cfg.textOf context call.task call.routing now
  match recoveredResult context call.task with
  | some _ =>
      match gate with
      | .error _ => []
      | .ok (some _) => [.blocked .recoveredGate]
      | .ok none =>
          match cfg.recoveredToolSecurity context call.task call.routing with
          | some _ => [.blocked .recoveredSecurity]
          | none => [.restored]
  | none =>
      match gate with
      | .error _ => []
      | .ok (some _) => [.blocked .gate]
      | .ok none =>
          let s := { s with retryAttempt := Function.update s.retryAttempt call.context attempt }
          if guardApplies cfg s call && (s.consumed.get? ((permitId call.task).getD "")).isSome then
            [.blocked .replayed]
          else if cfg.registered call.task.actionType then []
          else [.blocked .noExecutor]

namespace Observed

/-- The attempts after another one of a call. -/
def noted (s : Observed κ) (i : ℕ) (new : List Attempt) : ℕ → List Attempt :=
  Function.update s.attempts i (s.attempts i ++ new)

/-- The attempts after a move of the engine. -/
def after (s : Observed κ) : Move → ℕ → List Attempt
  | .turn i now =>
      match s.engine.calls[i]? with
      | some call =>
          match call.phase with
          | .ready attempt previous =>
              if previous.isSome && s.engine.cancelRequested call.context then s.attempts
              else s.noted i (turned cfg s.engine call attempt now)
          | _ => s.attempts
      | none => s.attempts
  | .finish i _ => s.noted i [.other]
  | _ => s.attempts

/-- The move is a result of the tool executor. -/
def ofTool (s : Observed κ) : Move → Bool
  | .finish i _ => s.engine.calls[i]?.any fun call => forTool call.task
  | _ => false

def step (s : Observed κ) : ObservedMove → Option (Observed κ)
  | .engine move =>
      if s.ofTool move then none
      else (Engine.step cfg s.engine move).map fun engine =>
        { engine := engine, attempts := s.after cfg move }
  | .tool i world =>
      match s.engine.calls[i]? with
      | some call =>
          if forTool call.task then
            (Engine.step cfg s.engine (.finish i (execute call.task call.routing world))).map
              fun engine =>
                { engine := engine, attempts := s.noted i [toolAttempt call.task world] }
          else none
      | none => none

def machine : Machine (Observed κ) ObservedMove := ⟨step cfg⟩

end Observed

/-! ## What is known of a call -/

/-- Where the attempts are those of a mutation, every tool that was called said that nothing was
done. -/
def ToldQuiet (task : RuntimeTask) (attempts : List Attempt) : Prop :=
  sideEffectClass cfg task = .nonIdempotentMutation → ∀ declared, .called declared ∈ attempts →
    ∃ outcome, declared = some outcome ∧ outcome.harmless = true

/-- The last attempt explains what is recorded with a result, and the ones before it did
nothing. -/
def Told (task : RuntimeTask) (attempts : List Attempt) (result : RuntimeResult) : Prop :=
  ∃ before last, attempts = before ++ [last] ∧ ToldQuiet cfg task before ∧
    Explains cfg task result last

/-- The engine, with its own check of recovered results. -/
def withEnforcer (denial : RuntimeContext → RuntimeTask → Option (String × String)) :
    EngineConfig κ :=
  { cfg with recoveredToolSecurity := validateRecoveredToolSecurity cfg.textOf denial }

/-- What is known of a call's attempts, by its phase. -/
def PhaseTold (task : RuntimeTask) (attempts : List Attempt) : Phase → Prop
  | .ready _ none => attempts = []
  | .ready _ (some result) => Told cfg task attempts result ∧ ToldQuiet cfg task attempts
  | .executing _ _ => ToldQuiet cfg task attempts
  | .returned result => Told cfg task attempts result
  | .raised => True

/-- The invariant of the observed engine. -/
structure Observed.Inv (s : Observed κ) : Prop where
  fresh : ∀ i, s.engine.calls.length ≤ i → s.attempts i = []
  told : ∀ (i : ℕ) (call : Call), s.engine.calls[i]? = some call →
    PhaseTold cfg call.task (s.attempts i) call.phase

lemma nextPhase_eq (cancelled : Bool) (context : RuntimeContext) (task : RuntimeTask)
    (attempt : ℕ) (result : RuntimeResult) :
    nextPhase cfg cancelled context task attempt result =
        .returned (annotate cfg context task attempt result) ∨
      (cfg.retryPolicy.allows (resultFailure cfg task result) attempt (sideEffectClass cfg task)
          (operationOutcome cfg task result) = true ∧
        nextPhase cfg cancelled context task attempt result =
          .ready (attempt + 1) (some (annotate cfg context task attempt result))) := by
  unfold nextPhase
  split
  · exact .inl rfl
  · split
    · exact .inl rfl
    · split
      · exact .inl rfl
      · rename_i hallows
        exact .inr ⟨by simpa using hallows, rfl⟩

/-- A result that the last attempt explains is told, whether it is returned or followed by another
attempt. -/
lemma settled_told (s : State κ) (i : ℕ) (call : Call) (attempt : ℕ) {result : RuntimeResult}
    {attempts : List Attempt} {last : Attempt} (hquiet : ToldQuiet cfg call.task attempts)
    (hlast : Explains cfg call.task
      (annotate cfg (cfg.contexts call.context) call.task attempt result) last) :
    ∃ phase, (settle cfg s i call attempt result).calls =
        s.calls.set i { call with phase := phase } ∧
      PhaseTold cfg call.task (attempts ++ [last]) phase := by
  refine ⟨_, rfl, ?_⟩
  have htold : Told cfg call.task (attempts ++ [last])
      (annotate cfg (cfg.contexts call.context) call.task attempt result) :=
    ⟨attempts, last, rfl, hquiet, hlast⟩
  split
  · rcases nextPhase_eq cfg (s.cancelRequested call.context) (cfg.contexts call.context) call.task
      attempt result with hphase | ⟨hallows, hphase⟩
    · rw [hphase]
      exact htold
    · rw [hphase]
      refine ⟨htold, fun hclass declared hmem => ?_⟩
      rcases List.mem_append.mp hmem with hmem | hmem
      · exact hquiet hclass declared hmem
      · -- the tool was called in the last attempt, and the policy repeats what did nothing
        obtain rfl := List.mem_singleton.mp hmem
        rw [hclass] at hallows
        obtain ⟨hharmless, -⟩ := RetryPolicy.allows_nonIdempotent hallows
        exact hlast hclass ((recordedHarmless_annotate cfg _ _ _ _).mpr hharmless)
  · trivial

lemma explains_of_undeclared {task : RuntimeTask} {result : RuntimeResult} {error : String}
    (h : Undeclared result error) {obstacle : Obstacle}
    (hobstacle : obstacle.harmless task = undeclaredHarmless task error)
    (context : RuntimeContext) (attempt : ℕ) :
    Explains cfg task (annotate cfg context task attempt result) (.blocked obstacle) := by
  show _ ↔ _
  rw [recordedHarmless_annotate, h.harmless cfg, hobstacle]

lemma not_recordedHarmless_of_undeclared {result : RuntimeResult} {error : String}
    (h : Undeclared result error) : ¬ RecordedHarmless result := by
  rintro ⟨outcome, hdeclared, -⟩
  unfold declaredOutcome at hdeclared
  rw [h.outcome] at hdeclared
  cases hdeclared

lemma recordedHarmless_of_recovered {textOf : Value → String}
    {denial : RuntimeContext → RuntimeTask → Option (String × String)} {context : RuntimeContext}
    {task : RuntimeTask} {routing : RoutingDecision} {result : RuntimeResult}
    (h : validateRecoveredToolSecurity textOf denial context task routing = some result) :
    RecordedHarmless result := by
  unfold validateRecoveredToolSecurity at h
  split at h
  · cases h
  · obtain ⟨⟨message, reason⟩, -, rfl⟩ := Option.map_eq_some_iff.mp h
    exact ⟨.failedBeforeEffect, rfl, rfl⟩

section

variable {denial : RuntimeContext → RuntimeTask → Option (String × String)}
  (hsecurity : cfg.recoveredToolSecurity = validateRecoveredToolSecurity cfg.textOf denial)
  {s : State κ} {i attempt : ℕ} {call : Call} {now : ℤ} {attempts : List Attempt}

include hsecurity

lemma reuse_turned {recovered : Json}
    (hrecovered : recoveredResult (cfg.contexts call.context) call.task = some recovered)
    (hquiet : ToldQuiet cfg call.task attempts) (u : State κ) :
    ∃ phase, (reuse cfg u i call attempt recovered now).calls =
        u.calls.set i { call with phase := phase } ∧
      PhaseTold cfg call.task (attempts ++ turned cfg s call attempt now) phase := by
  refine ⟨_, rfl, ?_⟩
  unfold turned
  dsimp only
  rw [hrecovered]
  cases hgate : enforceCapPermit cfg.platform cfg.textOf (cfg.contexts call.context) call.task
      call.routing now with
  | error error => trivial
  | ok blocked =>
      cases blocked with
      | some result =>
          obtain ⟨error, hundeclared, -⟩ := undeclared_of_gate hgate
          refine ⟨attempts, _, rfl, hquiet, iff_of_false ?_ fun h => (by cases h)⟩
          exact not_recordedHarmless_of_undeclared hundeclared
      | none =>
          dsimp only
          cases hdenied : cfg.recoveredToolSecurity (cfg.contexts call.context) call.task
              call.routing with
          | some result =>
              rw [hsecurity] at hdenied
              refine ⟨attempts, _, rfl, hquiet, iff_of_true ?_ rfl⟩
              exact recordedHarmless_of_recovered hdenied
          | none =>
              dsimp only
              cases cfg.validateResult recovered with
              | none => trivial
              | some restored => exact ⟨attempts, _, rfl, hquiet, trivial⟩

omit hsecurity in
lemma invoke_turned (u : State κ) (hquiet : ToldQuiet cfg call.task attempts) :
    ∃ phase, (invoke cfg u i call attempt).calls = u.calls.set i { call with phase := phase } ∧
      PhaseTold cfg call.task (attempts ++
        if cfg.registered call.task.actionType then [] else [.blocked .noExecutor]) phase := by
  unfold invoke
  split
  · refine ⟨_, rfl, ?_⟩
    rw [List.append_nil]
    exact hquiet
  · have hmissing : Undeclared (executorNotRegistered call.task call.routing)
        ("No runtime executor registered for action type: " ++ call.task.actionType) :=
      ⟨fun h => (by cases h), rfl, rfl, rfl⟩
    exact settled_told cfg u i call attempt hquiet (explains_of_undeclared cfg hmissing rfl _ _)

lemma iterate_turned (hquiet : ToldQuiet cfg call.task attempts) :
    ∃ phase, (iterate cfg s i call attempt now).calls =
        s.calls.set i { call with phase := phase } ∧
      PhaseTold cfg call.task (attempts ++ turned cfg s call attempt now) phase := by
  unfold iterate
  dsimp only
  cases hrecovered : recoveredResult (cfg.contexts call.context) call.task with
  | some recovered => exact reuse_turned cfg hsecurity hrecovered hquiet _
  | none =>
      dsimp only
      split
      · unfold runOnce turned
        dsimp only
        rw [hrecovered]
        dsimp only
        cases hgate : enforceCapPermit cfg.platform cfg.textOf (cfg.contexts call.context)
            call.task call.routing now with
        | error error => exact ⟨_, rfl, trivial⟩
        | ok blocked =>
            cases blocked with
            | some result =>
                obtain ⟨error, hundeclared, huncancelled⟩ := undeclared_of_gate hgate
                have hobstacle : Obstacle.gate.harmless call.task =
                    undeclaredHarmless call.task error :=
                  (undeclaredHarmless_of_uncancelled huncancelled call.task).symm
                exact settled_told cfg _ i call attempt hquiet
                  (explains_of_undeclared cfg hundeclared hobstacle _ _)
            | none =>
                -- the guard reads the attempt that this iteration wrote, whatever the world
                have hguard : ∀ u : State κ, u.retryAttempt call.context = attempt →
                    guardApplies cfg u call = guardApplies cfg { s with
                      retryAttempt := Function.update s.retryAttempt call.context attempt }
                      call := by
                  intro u hu
                  simp only [guardApplies, hu, Function.update_self]
                dsimp only
                rw [hguard _ (Function.update_self _ _ _)]
                split
                · rename_i happlies
                  rw [happlies, Bool.true_and]
                  split
                  · have hobstacle : Obstacle.replayed.harmless call.task =
                        undeclaredHarmless call.task
                          "Runtime execution blocked: mutation permit was already consumed." :=
                      (undeclaredHarmless_of_uncancelled
                        (Text.not_contains_lower_of_chars rfl rfl rfl) call.task).symm
                    exact settled_told cfg _ i call attempt hquiet (explains_of_undeclared cfg
                      (undeclared_permitReplayed call.task call.routing) hobstacle _ _)
                  · exact invoke_turned cfg _ hquiet
                · rename_i hskip
                  rw [Bool.not_eq_true] at hskip
                  rw [hskip, Bool.false_and, if_neg Bool.false_ne_true]
                  exact invoke_turned cfg _ hquiet
      · exact ⟨_, rfl, trivial⟩

end

/-! ## The invariant -/

namespace Observed

variable {cfg} {s t : Observed κ}

lemma Inv.set (h : Inv cfg s) {i : ℕ} {call : Call} {phase : Phase} {new : List Attempt}
    (hcall : s.engine.calls[i]? = some call)
    (hcalls : t.engine.calls = s.engine.calls.set i { call with phase := phase })
    (hattempts : t.attempts = s.noted i new)
    (htold : PhaseTold cfg call.task (s.attempts i ++ new) phase) : Inv cfg t := by
  have hlt : i < s.engine.calls.length := lt_of_getElem?_eq_some hcall
  constructor
  · intro j hj
    rw [hcalls, List.length_set] at hj
    rw [hattempts, noted, Function.update_of_ne (by omega)]
    exact h.fresh j hj
  · intro j other hother
    rw [hcalls, List.getElem?_set] at hother
    by_cases hij : i = j
    · subst hij
      rw [if_pos rfl, if_pos hlt] at hother
      obtain rfl := Option.some.inj hother
      rw [hattempts, noted, Function.update_self]
      exact htold
    · rw [if_neg hij] at hother
      rw [hattempts, noted, Function.update_of_ne (Ne.symm hij)]
      exact h.told j other hother

/-- A new call has made no attempt. -/
lemma Inv.start (h : Inv cfg s) {context : ℕ} {task : RuntimeTask} {routing : RoutingDecision}
    (hcalls : t.engine.calls =
      s.engine.calls ++ [{ context := context, task := task, routing := routing }])
    (hattempts : t.attempts = s.attempts) : Inv cfg t := by
  constructor
  · intro i hi
    rw [hcalls, List.length_append] at hi
    rw [hattempts]
    exact h.fresh i (by omega)
  · intro i call hcall
    rw [hcalls] at hcall
    rw [hattempts]
    rcases Nat.lt_or_ge i s.engine.calls.length with hlt | hge
    · rw [List.getElem?_append_left hlt] at hcall
      exact h.told i call hcall
    · rw [List.getElem?_append_right hge] at hcall
      obtain rfl := List.mem_singleton.mp (List.mem_of_getElem? hcall)
      exact h.fresh i hge

lemma Inv.congr (h : Inv cfg s) (hcalls : t.engine.calls = s.engine.calls)
    (hattempts : t.attempts = s.attempts) : Inv cfg t := by
  constructor
  · intro i hi
    rw [hcalls] at hi
    rw [hattempts]
    exact h.fresh i hi
  · intro i call hcall
    rw [hcalls] at hcall
    rw [hattempts]
    exact h.told i call hcall

lemma Inv.returned (h : Inv cfg s) {i : ℕ} {call : Call} {result : RuntimeResult}
    (hcall : s.engine.calls[i]? = some call) (htold : Told cfg call.task (s.attempts i) result)
    (hcalls : t.engine.calls = s.engine.calls.set i { call with phase := .returned result })
    (hattempts : t.attempts = s.attempts) : Inv cfg t := by
  have hnoted : t.attempts = s.noted i [] := by
    rw [hattempts, noted, List.append_nil, Function.update_eq_self]
  refine h.set hcall hcalls hnoted ?_
  rw [List.append_nil]
  exact htold

lemma Inv.raise (h : Inv cfg s) {i : ℕ} {call : Call}
    (hcall : s.engine.calls[i]? = some call)
    (hcalls : t.engine.calls = s.engine.calls.set i { call with phase := .raised })
    (hattempts : t.attempts = s.attempts) : Inv cfg t := by
  have hnoted : t.attempts = s.noted i [] := by
    rw [hattempts, noted, List.append_nil, Function.update_eq_self]
  exact h.set hcall hcalls hnoted trivial

section

variable {denial : RuntimeContext → RuntimeTask → Option (String × String)}
  (hsecurity : cfg.recoveredToolSecurity = validateRecoveredToolSecurity cfg.textOf denial)

lemma Inv.finish (h : Inv cfg s) {i attempt entry : ℕ} {call : Call} {last : Attempt}
    {result : RuntimeResult} {u : State κ} (hcall : s.engine.calls[i]? = some call)
    (hphase : call.phase = .executing attempt entry)
    (hengine : t.engine = settle cfg u i call attempt result) (hcalls : u.calls = s.engine.calls)
    (hattempts : t.attempts = s.noted i [last])
    (hlast : Explains cfg call.task
      (annotate cfg (cfg.contexts call.context) call.task attempt result) last) :
    Inv cfg t := by
  have hquiet := h.told i call hcall
  rw [hphase] at hquiet
  obtain ⟨phase, hset, htold⟩ := settled_told cfg u i call attempt hquiet hlast
  rw [← hengine, hcalls] at hset
  exact h.set hcall hset hattempts htold

include hsecurity

lemma Inv.turn (h : Inv cfg s) {i attempt : ℕ} {now : ℤ} {call : Call}
    {previous : Option RuntimeResult} (hcall : s.engine.calls[i]? = some call)
    (hphase : call.phase = .ready attempt previous)
    (hengine : t.engine = iterate cfg s.engine i call attempt now)
    (hattempts : t.attempts = s.noted i (turned cfg s.engine call attempt now)) :
    Inv cfg t := by
  have hready := h.told i call hcall
  rw [hphase] at hready
  have hquiet : ToldQuiet cfg call.task (s.attempts i) := by
    cases previous with
    | none =>
        have hnone : s.attempts i = [] := hready
        rw [hnone]
        exact fun _ _ hmem => absurd hmem List.not_mem_nil
    | some result => exact hready.2
  obtain ⟨phase, hcalls, htold⟩ := iterate_turned cfg hsecurity hquiet
  rw [← hengine] at hcalls
  exact h.set hcall hcalls hattempts htold

/-- Every move keeps the invariant. -/
theorem inv_step (s : Observed κ) (move : ObservedMove) (t : Observed κ) (h : Inv cfg s)
    (hstep : step cfg s move = some t) : Inv cfg t := by
  cases move with
  | tool i world =>
      unfold step at hstep
      cases hcall : s.engine.calls[i]? with
      | none => simp [hcall] at hstep
      | some call =>
          simp only [hcall] at hstep
          split at hstep
          · obtain ⟨engine, hfinish, rfl⟩ := Option.map_eq_some_iff.mp hstep
            unfold Engine.step at hfinish
            simp only [hcall] at hfinish
            split at hfinish
            · rename_i attempt entry hphase
              obtain rfl := Option.some.inj hfinish
              exact h.finish hcall hphase rfl rfl rfl
                (explains_execute cfg _ call.task call.routing world attempt)
            · cases hfinish
          · cases hstep
  | engine move =>
      unfold step at hstep
      dsimp only at hstep
      split at hstep
      · cases hstep
      · rename_i hother
        obtain ⟨engine, hmove, rfl⟩ := Option.map_eq_some_iff.mp hstep
        cases move with
        | start context task routing =>
            obtain rfl := Option.some.inj hmove
            exact h.start rfl rfl
        | turn i now =>
            unfold Engine.step at hmove
            cases hcall : s.engine.calls[i]? with
            | none => simp [hcall] at hmove
            | some call =>
                simp only [hcall] at hmove
                split at hmove
                · rename_i attempt previous hphase
                  split at hmove
                  · -- a retry that was cancelled returns the result before it
                    rename_i result hcancel
                    obtain rfl := Option.some.inj hmove
                    have hafter : s.after cfg (.turn i now) = s.attempts := by
                      simp [after, hcall, hphase, hcancel]
                    have hready := h.told i call hcall
                    rw [hphase] at hready
                    exact h.returned hcall hready.1 rfl hafter
                  · rename_i previous _ _ hgo
                    obtain rfl := Option.some.inj hmove
                    have hcancel : (previous.isSome &&
                        s.engine.cancelRequested call.context) = false := by
                      cases previous with
                      | none => rfl
                      | some result =>
                          cases hrequested : s.engine.cancelRequested call.context with
                          | false => rfl
                          | true => exact absurd hrequested (hgo result rfl)
                    have hafter : s.after cfg (.turn i now) =
                        s.noted i (turned cfg s.engine call attempt now) := by
                      simp only [after, hcall, hphase, hcancel, Bool.false_eq_true, if_false]
                    exact h.turn hsecurity hcall hphase rfl hafter
                · cases hmove
        | finish i result =>
            unfold Engine.step at hmove
            cases hcall : s.engine.calls[i]? with
            | none => simp [hcall] at hmove
            | some call =>
                simp only [hcall] at hmove
                split at hmove
                · rename_i attempt entry hphase
                  obtain rfl := Option.some.inj hmove
                  exact h.finish hcall hphase rfl rfl rfl trivial
                · cases hmove
        | raise i =>
            unfold Engine.step at hmove
            cases hcall : s.engine.calls[i]? with
            | none => simp [hcall] at hmove
            | some call =>
                simp only [hcall] at hmove
                split at hmove
                · obtain rfl := Option.some.inj hmove
                  exact h.raise hcall rfl rfl
                · cases hmove
        | cancel i =>
            unfold Engine.step at hmove
            cases hcall : s.engine.calls[i]? with
            | none => simp [hcall] at hmove
            | some call =>
                simp only [hcall] at hmove
                split at hmove
                · obtain rfl := Option.some.inj hmove
                  exact h.raise hcall rfl rfl
                · obtain rfl := Option.some.inj hmove
                  exact h.raise hcall rfl rfl
                · cases hmove
        | requestCancel context =>
            obtain rfl := Option.some.inj hmove
            exact h.congr rfl rfl

end

end Observed

/-! ## What is recorded -/

/-- What is recorded with a result is sound: that nothing was done where every attempt was
blocked, and only what the tool itself said where that of a mutation was called and did not
complete. -/
structure RecordedSound (task : RuntimeTask) (attempts : List Attempt) (result : RuntimeResult) :
    Prop where
  blocked : (∀ a ∈ attempts, a.isBlocked = true) → RecordedHarmless result
  called : sideEffectClass cfg task = .nonIdempotentMutation → result.status ≠ .completed →
    ∀ declared, .called declared ∈ attempts → RecordedHarmless result →
      ∃ outcome, declared = some outcome ∧ outcome.harmless = true

/-- Where every attempt was blocked, the last one was by an obstacle whose outcome says that
nothing was done. -/
def BlockedCleanly (task : RuntimeTask) (attempts : List Attempt) : Prop :=
  (∀ a ∈ attempts, a.isBlocked = true) → ∀ obstacle,
    attempts.getLast? = some (.blocked obstacle) → obstacle.harmless task = true

/-- What is recorded with a told result is sound exactly where its attempts were blocked
cleanly. -/
lemma recordedSound_of_told {task : RuntimeTask} {attempts : List Attempt} {result : RuntimeResult}
    (h : Told cfg task attempts result) :
    RecordedSound cfg task attempts result ↔ BlockedCleanly task attempts := by
  obtain ⟨before, last, rfl, hquiet, hlast⟩ := h
  have hgetLast : (before ++ [last]).getLast? = some last := by simp
  constructor
  · intro hsound hall obstacle hobstacle
    obtain rfl := Option.some.inj (hgetLast.symm.trans hobstacle)
    exact hlast.mp (hsound.blocked hall)
  · intro hcleanly
    constructor
    · intro hall
      have hblocked := hall last (List.mem_append_right before (List.mem_singleton_self last))
      cases last with
      | blocked obstacle => exact hlast.mpr (hcleanly hall obstacle hgetLast)
      | restored => cases hblocked
      | called declared => cases hblocked
      | other => cases hblocked
    · intro hclass _ declared hmem hrecorded
      rcases List.mem_append.mp hmem with hmem | hmem
      · exact hquiet hclass declared hmem
      · obtain rfl := List.mem_singleton.mp hmem
        exact hlast hclass hrecorded

/-- An engine that has made no attempt. -/
def Observed.fresh (world : κ) (retryAttempt : ℕ → ℕ) (cancelRequested : ℕ → Bool) :
    Observed κ where
  engine := .fresh world retryAttempt cancelRequested

/-- In every state an engine reaches, what is recorded with the result of a call is sound exactly
where its attempts were blocked cleanly, if they all were. -/
theorem recorded_sound_iff (denial : RuntimeContext → RuntimeTask → Option (String × String))
    {world : κ} {retryAttempt : ℕ → ℕ} {cancelRequested : ℕ → Bool} {moves : List ObservedMove}
    {s : Observed κ} {i : ℕ} {call : Call} {result : RuntimeResult}
    (hrun : (Observed.machine (withEnforcer cfg denial)).run
      (.fresh world retryAttempt cancelRequested) moves = some s)
    (hcall : s.engine.calls[i]? = some call) (hreturned : call.phase = .returned result) :
    RecordedSound (withEnforcer cfg denial) call.task (s.attempts i) result ↔
      BlockedCleanly call.task (s.attempts i) := by
  have hinit : Observed.Inv (withEnforcer cfg denial)
      (.fresh world retryAttempt cancelRequested) :=
    ⟨fun _ _ => rfl, fun _ _ hnone => by cases hnone⟩
  have hinv : Observed.Inv (withEnforcer cfg denial) s :=
    (Observed.machine (withEnforcer cfg denial)).run_invariant
      (Observed.inv_step rfl) hinit hrun
  have htold := hinv.told i call hcall
  rw [hreturned] at htold
  exact recordedSound_of_told (withEnforcer cfg denial) htold

/-! ### A mail that two boundaries turn away -/

def Phase.result? : Phase → Option RuntimeResult
  | .returned result => some result
  | _ => none

lemma Phase.eq_returned {phase : Phase} {result : RuntimeResult}
    (h : phase.result? = some result) : phase = .returned result := by
  cases phase with
  | returned other => exact congrArg Phase.returned (Option.some.inj h)
  | ready _ _ => cases h
  | executing _ _ => cases h
  | raised => cases h

/-- A mail whose execution meets a world. -/
def sampleMail (world : ToolWorld) : List ObservedMove :=
  [.engine (.start 0 sampleTask default), .engine (.turn 0 1), .tool 0 world]

/-- The outcome that is recorded for the first call, and its attempts. -/
def firstRecorded (s : Observed Unit) : Option OperationOutcome × List Attempt :=
  (((s.engine.calls[0]?).bind fun call => call.phase.result?).bind declaredOutcome, s.attempts 0)

lemma returned_of_recorded {s : Observed Unit} {outcome : OperationOutcome}
    (h : (firstRecorded s).1 = some outcome) :
    ∃ call result, s.engine.calls[0]? = some call ∧ call.phase = .returned result ∧
      declaredOutcome result = some outcome := by
  obtain ⟨result, hresult, hdeclared⟩ := Option.bind_eq_some_iff.mp h
  obtain ⟨call, hcall, hphase⟩ := Option.bind_eq_some_iff.mp hresult
  exact ⟨call, result, hcall, Phase.eq_returned hphase, hdeclared⟩

/-- The tool security enforcer denies the mail. -/
theorem recorded_sound_sample :
    ∃ s call result, (Observed.machine (withEnforcer sampleConfig fun _ _ => none)).run
        (.fresh () (fun _ => 1) fun _ => false)
        (sampleMail { security := some { allowed := false, reasonCode := "scope" },
                      managed := .refused "" }) = some s ∧
      s.engine.calls[0]? = some call ∧ call.phase = .returned result ∧
      RecordedSound (withEnforcer sampleConfig fun _ _ => none) call.task (s.attempts 0)
        result := by
  have hrecorded : ((Observed.machine (withEnforcer sampleConfig fun _ _ => none)).run
      (.fresh () (fun _ => 1) fun _ => false)
      (sampleMail { security := some { allowed := false, reasonCode := "scope" },
                    managed := .refused "" })).map firstRecorded =
        some (some .failedBeforeEffect, [.blocked .security]) := by decide
  obtain ⟨s, hrun, hvalues⟩ := Option.map_eq_some_iff.mp hrecorded
  obtain ⟨houtcome, hattempts⟩ := Prod.mk.inj hvalues
  obtain ⟨call, result, hcall, hphase, -⟩ := returned_of_recorded houtcome
  refine ⟨s, call, result, hrun, hcall, hphase,
    (recorded_sound_iff sampleConfig (fun _ _ => none) hrun hcall hphase).mpr ?_⟩
  intro _ obstacle hlast
  have hsecurity : s.attempts 0 = [.blocked .security] := hattempts
  rw [hsecurity] at hlast
  obtain rfl := Attempt.blocked.inj (Option.some.inj hlast)
  rfl

/-- A mail that the tool guard denies is recorded with an unknown effect. -/
theorem guard_recorded_unknown :
    ¬ ∀ (cfg : EngineConfig Unit) (denial : RuntimeContext → RuntimeTask → Option (String × String))
      (moves : List ObservedMove) (s : Observed Unit) (i : ℕ) (call : Call)
      (result : RuntimeResult),
      (Observed.machine (withEnforcer cfg denial)).run (.fresh () (fun _ => 1) fun _ => false)
        moves = some s → s.engine.calls[i]? = some call → call.phase = .returned result →
      RecordedSound (withEnforcer cfg denial) call.task (s.attempts i) result := by
  intro h
  have hrecorded : ((Observed.machine (withEnforcer sampleConfig fun _ _ => none)).run
      (.fresh () (fun _ => 1) fun _ => false)
      (sampleMail { guard := some { allowed := false, reason := some "Tool mail is blocked" },
                    managed := .refused "" })).map firstRecorded =
        some (some .failedAfterEffectUnknown, [.blocked (.refused "Tool mail is blocked")]) := by
    decide
  obtain ⟨s, hrun, hvalues⟩ := Option.map_eq_some_iff.mp hrecorded
  obtain ⟨houtcome, hattempts⟩ := Prod.mk.inj hvalues
  obtain ⟨call, result, hcall, hphase, hdeclared⟩ := returned_of_recorded houtcome
  have hsound := h sampleConfig (fun _ _ => none) _ s 0 call result hrun hcall hphase
  have hguard : s.attempts 0 = [.blocked (.refused "Tool mail is blocked")] := hattempts
  have hharmless := hsound.blocked (by rw [hguard]; decide)
  rw [recordedHarmless_iff hdeclared] at hharmless
  cases hharmless

end Engine

end Samaktha
