import Samaktha.Runtime.Batch

/-!
# The gate on every path

`RuntimeEngine.run` alone, `run_batch` through the pool, `run_batch` through the scheduler and
every retry reach an executor through one line, in the move in which the gate has let the task
through: `Gated`.  What that means for the task, its permit, its context and its routing is
`Cleared`, which `enforceCapPermit_eq_none_iff` shows to be exactly what the gate asks.

`Engine.Moved` says once what a move of the engine does to its calls.  From it, `Attempts`
holds in every run: a call whose last attempt the gate blocks never returns a completed result.
-/

namespace Samaktha

/-! ## What the gate asks -/

section Gate

variable (platform : Platform) (textOf : Value → String)

/-- Everything the gate asks of an ALLOW permit. -/
structure Cleared (permit : ExecutionPermit) (context : RuntimeContext) (task : RuntimeTask)
    (routing : RoutingDecision) (now : ℤ) : Prop where
  allow : permit.decision = .allow
  integrity : permit.verifyIntegrity platform = true
  begun : permit.issuedAt ≤ now + permitClockSkew
  unexpired : now < permit.expiresAt
  subject : permit.subjectId = expectedSubject context
  /-- A permit without a session is valid in every session of its subject. -/
  session : permit.sessionId = none ∨ context.sessionId = permit.sessionId
  workspace : permit.workspaceId = none ∨ context.workspaceId = permit.workspaceId
  action : permit.actionId = task.taskId
  actionType : permit.actionType = task.actionType
  target : permit.target = some (gateTarget textOf task)
  digest : permit.operationDigest = gateDigest platform textOf task
  permissions : ∃ listed,
    ((Dict.get? task.metadata "required_permissions").getD (.tuple [])).items? = some listed ∧
      listed.map Value.str? = permit.requiredPermissions.map fun scope => some scope.value
  constraints : platform.validateConstraints
    ((Dict.get? task.metadata "execution_constraints").getD (.dict [])) = some permit.constraints
  routed : isProviderAction task.actionType = true →
    routing.executionConstraints = permit.constraints

variable {platform textOf} {permit : ExecutionPermit} {context : RuntimeContext}
  {task : RuntimeTask} {routing : RoutingDecision} {now : ℤ}

lemma permitRefusal_eq_none_iff :
    permitRefusal platform textOf permit context task now = none ↔
      permit.verifyIntegrity platform = true ∧ permit.isNotYetValid now = false ∧
      permit.isExpired now = false ∧ permit.subjectId = expectedSubject context ∧
      (permit.sessionId = none ∨ context.sessionId = permit.sessionId) ∧
      (permit.workspaceId = none ∨ context.workspaceId = permit.workspaceId) ∧
      permit.actionId = task.taskId ∧ operationMatches platform textOf permit task = true := by
  unfold permitRefusal
  split_ifs with h₁ h₂ h₃ h₄ h₅ h₆ h₇ h₈ <;> simp_all
  all_goals tauto

lemma constraintRefusal_eq_none_iff {permissions : List Value} :
    constraintRefusal platform permit task routing permissions = none ↔
      permissions.map Value.str? = (permit.requiredPermissions.map fun s => some s.value) ∧
      platform.validateConstraints
        ((Dict.get? task.metadata "execution_constraints").getD (.dict [])) =
          some permit.constraints ∧
      (isProviderAction task.actionType = true →
        routing.executionConstraints = permit.constraints) := by
  unfold constraintRefusal
  split_ifs with h₁ h₂ h₃ <;> simp_all

lemma operationMatches_eq_true_iff :
    operationMatches platform textOf permit task = true ↔
      permit.actionType = task.actionType ∧ permit.target = some (gateTarget textOf task) ∧
        permit.operationDigest = gateDigest platform textOf task := by
  simp [operationMatches, and_assoc]

/-- The gate lets a task through exactly where it carries a permit that clears it. -/
theorem enforceCapPermit_eq_none_iff :
    enforceCapPermit platform textOf context task routing now = .ok none ↔
      ∃ permit, task.permit = some permit ∧
        Cleared platform textOf permit context task routing now := by
  constructor
  · intro h
    obtain ⟨permit, hpermit, hallow, hrefusal⟩ := enforceCapPermit_eq_none platform textOf h
    refine ⟨permit, hpermit, ?_⟩
    unfold enforceCapPermit at h
    simp only [hpermit, hallow, hrefusal] at h
    obtain ⟨hintegrity, hearly, hexpired, hsubject, hsession, hworkspace, haction, hmatches⟩ :=
      permitRefusal_eq_none_iff.mp hrefusal
    obtain ⟨hactionType, htarget, hdigest⟩ := operationMatches_eq_true_iff.mp hmatches
    split at h
    · cases h
    · split at h
      · cases h
      · split at h
        · cases h
        · rename_i listed hlisted
          split at h
          · cases h
          · rename_i hconstraint
            obtain ⟨hpermissions, hconstraints, hrouted⟩ :=
              constraintRefusal_eq_none_iff.mp hconstraint
            refine ⟨hallow, hintegrity, ?_, ?_, hsubject, hsession, hworkspace, haction,
              hactionType, htarget, hdigest, ⟨listed, hlisted, hpermissions⟩, hconstraints, hrouted⟩
            · simpa [ExecutionPermit.isNotYetValid] using hearly
            · simpa [ExecutionPermit.isExpired] using hexpired
  · rintro ⟨permit, hpermit, h⟩
    have hrefusal : permitRefusal platform textOf permit context task now = none := by
      refine permitRefusal_eq_none_iff.mpr ⟨h.integrity, ?_, ?_, h.subject, h.session,
        h.workspace, h.action, operationMatches_eq_true_iff.mpr ⟨h.actionType, h.target, h.digest⟩⟩
      · simpa [ExecutionPermit.isNotYetValid] using h.begun
      · simpa [ExecutionPermit.isExpired] using h.unexpired
    obtain ⟨listed, hlisted, hpermissions⟩ := h.permissions
    have hconstraint : constraintRefusal platform permit task routing listed = none :=
      constraintRefusal_eq_none_iff.mpr ⟨hpermissions, h.constraints, h.routed⟩
    unfold enforceCapPermit
    simp [hpermit, h.allow, hrefusal, hlisted, hconstraint]

lemma status_of_enforceCapPermit {result : RuntimeResult}
    (h : enforceCapPermit platform textOf context task routing now = .ok (some result)) :
    result.status ≠ .completed := by
  have hblocked : ∀ diagnostic error metadata,
      (blocked task routing diagnostic error metadata).status ≠ .completed := by
    intro diagnostic error metadata hstatus
    cases hstatus
  unfold enforceCapPermit at h
  split at h
  · obtain rfl := Option.some.inj (Except.ok.inj h)
    exact hblocked _ _ _
  · dsimp only at h
    split at h
    · obtain rfl := Option.some.inj (Except.ok.inj h)
      intro hstatus
      cases hstatus
    · split at h
      · obtain rfl := Option.some.inj (Except.ok.inj h)
        exact hblocked _ _ _
      · split at h
        · obtain rfl := Option.some.inj (Except.ok.inj h)
          exact hblocked _ _ _
        · split at h
          · cases h
          · split at h
            · obtain rfl := Option.some.inj (Except.ok.inj h)
              exact hblocked _ _ _
            · cases h

end Gate

/-! ## What a move of the engine does to the calls -/

namespace Engine

variable {κ : Type} (cfg : EngineConfig κ)

/-- A phase in which nothing is executed and no completion is reported. -/
def Quiet : Phase → Prop
  | .ready _ previous => ∀ result, previous = some result → result.status ≠ .completed
  | .executing _ _ => False
  | .returned result => result.status ≠ .completed
  | .raised => True

/-- A phase that an attempt with a result leads to. -/
def Settled (result : RuntimeResult) : Phase → Prop
  | .ready _ previous => ∀ result, previous = some result → result.status ≠ .completed
  | .executing _ _ => False
  | .returned final => final.status = result.status ∧ final.taskId = result.taskId
  | .raised => True

lemma quiet_of_settled {result : RuntimeResult} (hstatus : result.status ≠ .completed)
    {phase : Phase} (h : Settled result phase) : Quiet phase := by
  cases phase with
  | ready attempt previous => exact h
  | executing attempt entry => exact h
  | returned final =>
      intro hfinal
      exact hstatus (h.1 ▸ hfinal)
  | raised => trivial

lemma settled_nextPhase (cancelled : Bool) (context : RuntimeContext) (task : RuntimeTask)
    (attempt : ℕ) (result : RuntimeResult) :
    Settled result (nextPhase cfg cancelled context task attempt result) := by
  unfold nextPhase
  split
  · exact ⟨rfl, rfl⟩
  · rename_i hstatus
    split
    · exact ⟨rfl, rfl⟩
    · split
      · exact ⟨rfl, rfl⟩
      · intro previous hprevious hcompleted
        obtain rfl := Option.some.inj hprevious
        exact hstatus (.inl hcompleted)

lemma settled_settle (s : State κ) (i : ℕ) (call : Call) (attempt : ℕ) (result : RuntimeResult) :
    (settle cfg s i call attempt result).log = s.log ∧ ∃ phase,
      (settle cfg s i call attempt result).calls = s.calls.set i { call with phase := phase } ∧
        Settled result phase := by
  refine ⟨rfl, _, rfl, ?_⟩
  split
  · exact settled_nextPhase cfg _ _ _ _ _
  · trivial

/-- The gate lets a call through at a clock reading. -/
def LetThrough (call : Call) (now : ℤ) : Prop :=
  enforceCapPermit cfg.platform cfg.textOf (cfg.contexts call.context) call.task call.routing now =
    .ok none

/-- A result that an attempt may return in place of an executor's: what the revalidation of
recovered evidence answers, or the recovered result itself. -/
def Recovered (call : Call) (result : RuntimeResult) : Prop :=
  cfg.recoveredToolSecurity (cfg.contexts call.context) call.task call.routing = some result ∨
    ∃ recovered, recoveredResult (cfg.contexts call.context) call.task = some recovered ∧
      cfg.validateResult recovered = some result

/-- What a move does, up to the world, the metadata of contexts and how executor calls end. -/
inductive Moved (s t : State κ) : Move → Prop
  | unchanged {move : Move} (hcalls : t.calls = s.calls)
      (hlog : t.log.map Dispatch.call = s.log.map Dispatch.call) : Moved s t move
  | started (context : ℕ) (task : RuntimeTask) (routing : RoutingDecision)
      (hcalls : t.calls =
        s.calls ++ [{ context := context, task := task, routing := routing }])
      (hlog : t.log = s.log) : Moved s t (.start context task routing)
  /-- A call goes on without an executor and without a completion. -/
  | quiet {move : Move} (i : ℕ) (call : Call) (phase : Phase) (hcall : s.calls[i]? = some call)
      (hsuspended : RunBatch.suspended call.phase = true) (hquiet : Quiet phase)
      (hcalls : t.calls = s.calls.set i { call with phase := phase })
      (hlog : t.log.map Dispatch.call = s.log.map Dispatch.call) : Moved s t move
  /-- A call whose context is cancelled returns the result its retry was decided on. -/
  | stopped (i : ℕ) (now : ℤ) (call : Call) (attempt : ℕ) (result : RuntimeResult)
      (hcall : s.calls[i]? = some call) (hready : call.phase = .ready attempt (some result))
      (hcalls : t.calls = s.calls.set i { call with phase := .returned result })
      (hlog : t.log = s.log) : Moved s t (.turn i now)
  /-- A result is returned in place of an executor's. -/
  | restored (i : ℕ) (now : ℤ) (call : Call) (attempt : ℕ) (previous : Option RuntimeResult)
      (source result : RuntimeResult) (hcall : s.calls[i]? = some call)
      (hready : call.phase = .ready attempt previous) (hgate : LetThrough cfg call now)
      (hsource : Recovered cfg call source) (hid : result.taskId = source.taskId)
      (hstatus : result.status = source.status)
      (hcalls : t.calls = s.calls.set i { call with phase := .returned result })
      (hlog : t.log = s.log) : Moved s t (.turn i now)
  /-- The executor of a call is invoked. -/
  | dispatched (i : ℕ) (now : ℤ) (call : Call) (attempt : ℕ) (previous : Option RuntimeResult)
      (world : κ) (hcall : s.calls[i]? = some call)
      (hready : call.phase = .ready attempt previous) (hgate : LetThrough cfg call now)
      (hcalls : t.calls = s.calls.set i { call with phase := .executing attempt s.log.length })
      (hlog : t.log = s.log ++
        [{ call := i, task := call.task, attempt := attempt, world := world }]) :
      Moved s t (.turn i now)
  /-- The executor of a call has returned. -/
  | finished (i : ℕ) (call : Call) (attempt entry : ℕ) (result : RuntimeResult) (phase : Phase)
      (hcall : s.calls[i]? = some call) (hexec : call.phase = .executing attempt entry)
      (hphase : Settled result phase)
      (hcalls : t.calls = s.calls.set i { call with phase := phase })
      (hlog : t.log.map Dispatch.call = s.log.map Dispatch.call) : Moved s t (.finish i result)

variable {cfg}

lemma Moved.of_settle {s u : State κ} {i : ℕ} {now : ℤ} {call : Call} {attempt : ℕ}
    {previous : Option RuntimeResult} (hcall : s.calls[i]? = some call)
    (hready : call.phase = .ready attempt previous) (hcalls : u.calls = s.calls)
    (hlog : u.log = s.log) {result : RuntimeResult} (hstatus : result.status ≠ .completed) :
    Moved cfg s (settle cfg u i call attempt result) (.turn i now) := by
  obtain ⟨hlog', phase, hcalls', hphase⟩ := settled_settle cfg u i call attempt result
  refine .quiet i call phase hcall (by rw [hready]; rfl) (quiet_of_settled hstatus hphase) ?_ ?_
  · rw [hcalls', hcalls]
  · rw [hlog', hlog]

lemma Moved.of_invoke {s u : State κ} {i : ℕ} {now : ℤ} {call : Call} {attempt : ℕ}
    {previous : Option RuntimeResult} (hcall : s.calls[i]? = some call)
    (hready : call.phase = .ready attempt previous) (hgate : LetThrough cfg call now)
    (hcalls : u.calls = s.calls) (hlog : u.log = s.log) :
    Moved cfg s (invoke cfg u i call attempt) (.turn i now) := by
  unfold invoke
  split
  · refine .dispatched i now call attempt previous u.world hcall hready hgate ?_ ?_
    · simp [State.dispatch, State.setPhase, hcalls, hlog]
    · simp [State.dispatch, State.setPhase, hlog]
  · exact .of_settle hcall hready hcalls hlog (by simp [executorNotRegistered])

lemma Moved.of_runOnce {s u : State κ} {i : ℕ} {now : ℤ} {call : Call} {attempt : ℕ}
    {previous : Option RuntimeResult} (hcall : s.calls[i]? = some call)
    (hready : call.phase = .ready attempt previous) (hcalls : u.calls = s.calls)
    (hlog : u.log = s.log) : Moved cfg s (runOnce cfg u i call attempt now) (.turn i now) := by
  unfold runOnce
  split
  · refine .quiet i call .raised hcall (by rw [hready]; rfl) trivial ?_ ?_
    · simp [State.setPhase, hcalls]
    · simp [State.setPhase, hlog]
  · rename_i result hgate
    exact .of_settle hcall hready hcalls hlog (status_of_enforceCapPermit hgate)
  · rename_i hgate
    split
    · dsimp only
      split
      · exact .of_settle hcall hready hcalls hlog (by simp [permitReplayed])
      · exact .of_invoke hcall hready hgate hcalls hlog
    · exact .of_invoke hcall hready hgate hcalls hlog

lemma Moved.of_reuse {s u : State κ} {i : ℕ} {now : ℤ} {call : Call} {attempt : ℕ}
    {previous : Option RuntimeResult} {recovered : Json}
    (hcall : s.calls[i]? = some call) (hready : call.phase = .ready attempt previous)
    (hrecovered : recoveredResult (cfg.contexts call.context) call.task = some recovered)
    (hcalls : u.calls = s.calls) (hlog : u.log = s.log) :
    Moved cfg s (reuse cfg u i call attempt recovered now) (.turn i now) := by
  have hended : ∀ phase, Quiet phase → Moved cfg s (u.setPhase i call phase) (.turn i now) := by
    intro phase hquiet
    refine .quiet i call phase hcall (by rw [hready]; rfl) hquiet ?_ ?_
    · simp [State.setPhase, hcalls]
    · simp [State.setPhase, hlog]
  unfold reuse
  dsimp only
  split
  · exact hended _ trivial
  · rename_i blocked hgate
    exact hended _ (status_of_enforceCapPermit hgate)
  · rename_i hgate
    split
    · rename_i blocked hblocked
      exact .restored i now call attempt previous blocked blocked hcall hready hgate (.inl hblocked)
        rfl rfl (by rw [← hcalls]; rfl) hlog
    · split
      · exact hended _ trivial
      · rename_i restored hvalid
        refine .restored i now call attempt previous restored _ hcall hready hgate
          (.inr ⟨recovered, hrecovered, hvalid⟩) ?_ ?_ (by rw [← hcalls]; rfl) hlog
        · rfl
        · rfl

lemma callers_endDispatch (s : State κ) (entry : ℕ) (ended : Ended) :
    (s.endDispatch entry ended).log.map Dispatch.call = s.log.map Dispatch.call := by
  refine List.ext_getElem? fun k => ?_
  rw [List.getElem?_map, List.getElem?_map, State.endDispatch, List.getElem?_modify]
  cases s.log[k]? with
  | none => rfl
  | some d => by_cases hk : entry = k <;> simp [hk]

/-- Every move of the engine is one of these. -/
theorem moved_of_step {s t : State κ} {move : Move} (hstep : step cfg s move = some t) :
    Moved cfg s t move := by
  cases move with
  | start context task routing =>
      obtain rfl := Option.some.inj hstep
      exact .started context task routing rfl rfl
  | turn i now =>
      simp only [step] at hstep
      split at hstep
      · rename_i call hcall
        split at hstep
        · rename_i attempt previous hphase
          split at hstep
          · rename_i result _
            obtain rfl := Option.some.inj hstep
            exact .stopped i now call attempt result hcall hphase rfl rfl
          · obtain rfl := Option.some.inj hstep
            unfold iterate
            dsimp only
            split
            · rename_i recovered hrecovered
              exact .of_reuse hcall hphase hrecovered rfl rfl
            · split
              · exact .of_runOnce hcall hphase rfl rfl
              · exact .quiet i call .raised hcall (by rw [hphase]; rfl) trivial rfl rfl
        · cases hstep
      · cases hstep
  | finish i result =>
      simp only [step] at hstep
      split at hstep
      · rename_i call hcall
        split at hstep
        · rename_i attempt entry hexec
          obtain rfl := Option.some.inj hstep
          obtain ⟨hlog, phase, hcalls, hsettled⟩ := settled_settle cfg
            (s.endDispatch entry (.outcome (operationOutcome cfg call.task
              (executed (cfg.contexts call.context) call.task result)))) i call attempt
            (executed (cfg.contexts call.context) call.task result)
          refine .finished i call attempt entry result phase hcall hexec ?_ hcalls ?_
          · cases phase <;> exact hsettled
          · rw [hlog, callers_endDispatch]
        · cases hstep
      · cases hstep
  | raise i =>
      simp only [step] at hstep
      split at hstep
      · rename_i call hcall
        split at hstep
        · rename_i attempt entry hexec
          obtain rfl := Option.some.inj hstep
          exact .quiet i call .raised hcall (by rw [hexec]; rfl) trivial rfl
            (callers_endDispatch s entry .interrupted)
        · cases hstep
      · cases hstep
  | cancel i =>
      simp only [step] at hstep
      split at hstep
      · rename_i call hcall
        split at hstep
        · rename_i attempt entry hexec
          obtain rfl := Option.some.inj hstep
          exact .quiet i call .raised hcall (by rw [hexec]; rfl) trivial rfl
            (callers_endDispatch s entry .interrupted)
        · rename_i attempt previous hphase
          obtain rfl := Option.some.inj hstep
          exact .quiet i call .raised hcall (by rw [hphase]; rfl) trivial rfl rfl
        · cases hstep
      · cases hstep
  | requestCancel context =>
      obtain rfl := Option.some.inj hstep
      exact .unchanged rfl rfl

end Engine

namespace RunBatch

open Engine (Phase Call Moved)

variable {κ : Type} (cfg : BatchConfig κ)

/-! ## The executor is invoked in the move that passes the gate -/

/-- A move invokes no executor, or it is an attempt of a call whose task carries a permit that
clears it there and then. -/
def Gated (s : State κ) (move : Move) (t : State κ) : Prop :=
  t.engine.log.length = s.engine.log.length ∨
    ∃ contexts i now call attempt previous permit world,
      move = .engine contexts (.turn i now) ∧ s.engine.calls[i]? = some call ∧
        call.phase = .ready attempt previous ∧
        t.engine.log = s.engine.log ++
          [{ call := i, task := call.task, attempt := attempt, world := world }] ∧
        call.task.permit = some permit ∧
        Cleared cfg.engine.platform cfg.engine.textOf permit (contexts call.context) call.task
          call.routing now

lemma engine_of_step {s t : State κ} {contexts : ℕ → RuntimeContext} {move : Engine.Move}
    (h : step cfg s (.engine contexts move) = some t) :
    Moved (atContexts cfg contexts) s.engine t.engine move ∧ t.batches = s.batches ∧
      t.gate = asked s contexts move := by
  obtain ⟨engine, hengine, rfl⟩ := Option.map_eq_some_iff.mp h
  exact ⟨Engine.moved_of_step hengine, rfl, rfl⟩

lemma log_of_enter (s : State κ) (k : ℕ) (b : Batch) (books : Books) (refused : String → Bool)
    (levels : List (List String)) :
    (enter s k b books refused levels).engine.log = s.engine.log := by
  cases levels <;> rfl

lemma log_of_begin (s : State κ) (context : ℕ) (tasks : List (RuntimeTask × RoutingDecision)) :
    (begin s context tasks).engine.log = s.engine.log := by
  unfold begin
  split
  · rfl
  · split <;> rfl

lemma length_of_callers {log log' : List (Engine.Dispatch κ)}
    (h : log'.map Engine.Dispatch.call = log.map Engine.Dispatch.call) :
    log'.length = log.length := by
  simpa using congrArg List.length h

/-- Every move is gated. -/
theorem gated_of_step {s t : State κ} {move : Move} (h : step cfg s move = some t) :
    Gated cfg s move t := by
  cases move with
  | engine contexts move =>
      obtain ⟨hmoved, -, -⟩ := engine_of_step cfg h
      cases hmoved with
      | unchanged hcalls hlog => exact .inl (length_of_callers hlog)
      | started context task routing hcalls hlog => exact .inl (congrArg List.length hlog)
      | quiet i call phase hcall hsuspended hquiet hcalls hlog =>
          exact .inl (length_of_callers hlog)
      | stopped i now call attempt result hcall hready hcalls hlog =>
          exact .inl (congrArg List.length hlog)
      | restored i now call attempt previous source result hcall hready hgate hsource hid hstatus
          hcalls hlog => exact .inl (congrArg List.length hlog)
      | finished i call attempt entry result phase hcall hexec hphase hcalls hlog =>
          exact .inl (length_of_callers hlog)
      | dispatched i now call attempt previous world hcall hready hgate hcalls hlog =>
          obtain ⟨permit, hpermit, hcleared⟩ := enforceCapPermit_eq_none_iff.mp hgate
          exact .inr ⟨contexts, i, now, call, attempt, previous, permit, world, rfl, hcall, hready,
            hlog, hpermit, hcleared⟩
  | alter i task routing =>
      simp only [step] at h
      split at h
      · split at h
        · obtain rfl := Option.some.inj h
          exact .inl rfl
        · cases h
      · cases h
  | batch context tasks =>
      obtain rfl := Option.some.inj h
      exact .inl (congrArg List.length (log_of_begin s context tasks))
  | advance k refused =>
      simp only [step] at h
      split at h
      · split at h
        · rename_i b _ _ books levels _
          obtain rfl := Option.some.inj h
          exact .inl (congrArg List.length (log_of_enter s k b books refused levels))
        · cases h
      · cases h
  | gather k errors =>
      simp only [step] at h
      split at h
      · split at h
        · obtain ⟨results, -, rfl⟩ := Option.map_eq_some_iff.mp h
          exact .inl rfl
        · obtain ⟨items, -, rfl⟩ := Option.map_eq_some_iff.mp h
          exact .inl rfl
        · cases h
      · cases h
  | abandon k =>
      simp only [step] at h
      split at h
      · obtain rfl := Option.some.inj h
        exact .inl rfl
      · cases h

/-! ## A completion was let through -/

/-- The gate let a task through. -/
def Check.Passed (check : Check) : Prop :=
  enforceCapPermit cfg.engine.platform cfg.engine.textOf check.context check.task check.routing
    check.now = .ok none

/-- The last attempt of a call was one of a task with the given id and passed the gate. -/
def LastPassed (s : State κ) (i : ℕ) (id : String) : Prop :=
  ∃ check, s.gate i = some check ∧ check.task.taskId = id ∧ check.Passed cfg

/-- What is known of a call, by its phase. -/
def PhasePassed (s : State κ) (i : ℕ) (id : String) : Phase → Prop
  | .ready _ previous => ∀ result, previous = some result → result.status ≠ .completed
  | .executing _ _ => LastPassed cfg s i id
  | .returned result => result.status = .completed → LastPassed cfg s i id
  | .raised => True

/-- The calls of an engine whose completions were let through. -/
def Attempts (s : State κ) : Prop :=
  ∀ (i : ℕ) (call : Call), s.engine.calls[i]? = some call →
    PhasePassed cfg s i call.task.taskId call.phase

variable {cfg}

lemma phasePassed_of_quiet {s : State κ} {i : ℕ} {id : String} {phase : Phase}
    (h : Engine.Quiet phase) : PhasePassed cfg s i id phase := by
  cases phase with
  | ready attempt previous => exact h
  | executing attempt entry => exact h.elim
  | returned result =>
      intro hcompleted
      exact absurd hcompleted h
  | raised => trivial

lemma phasePassed_of_settled {s : State κ} {i : ℕ} {id : String} {result : RuntimeResult}
    (hpassed : LastPassed cfg s i id) {phase : Phase} (h : Engine.Settled result phase) :
    PhasePassed cfg s i id phase := by
  cases phase with
  | ready attempt previous => exact h
  | executing attempt entry => exact h.elim
  | returned result => exact fun _ => hpassed
  | raised => trivial

lemma asked_of_turn {s : State κ} (contexts : ℕ → RuntimeContext) {i : ℕ} {now : ℤ} {call : Call}
    {attempt : ℕ} {previous : Option RuntimeResult} (hcall : s.engine.calls[i]? = some call)
    (hready : call.phase = .ready attempt previous) :
    asked s contexts (.turn i now) i =
      some ⟨attempt, contexts call.context, call.task, call.routing, now⟩ := by
  simp [asked, question, hcall, hready]

lemma asked_of_not_ready {s : State κ} (contexts : ℕ → RuntimeContext) (move : Engine.Move)
    {j : ℕ} {call : Call} (hcall : s.engine.calls[j]? = some call)
    (hphase : ∀ attempt previous, call.phase ≠ .ready attempt previous) :
    asked s contexts move j = s.gate j := by
  cases move with
  | turn i now =>
      by_cases hij : i = j
      · subst hij
        cases hp : call.phase with
        | ready attempt previous => exact absurd hp (hphase attempt previous)
        | executing attempt entry => simp [asked, question, hcall, hp]
        | returned result => simp [asked, question, hcall, hp]
        | raised => simp [asked, question, hcall, hp]
      · unfold asked question
        dsimp only
        cases s.engine.calls[i]? with
        | none => rfl
        | some other =>
            cases hp : other.phase with
            | ready attempt previous => simp [hp, Function.update_of_ne (Ne.symm hij)]
            | executing attempt entry => simp [hp]
            | returned result => simp [hp]
            | raised => simp [hp]
  | _ => rfl

lemma PhasePassed.mono {s t : State κ} {i : ℕ} {id : String} {phase : Phase}
    (h : PhasePassed cfg s i id phase)
    (hgate : (∀ attempt previous, phase ≠ .ready attempt previous) → t.gate i = s.gate i) :
    PhasePassed cfg t i id phase := by
  have hlast : (∀ attempt previous, phase ≠ .ready attempt previous) → LastPassed cfg s i id →
      LastPassed cfg t i id := by
    rintro hphase ⟨check, hcheck, hid, hpassed⟩
    exact ⟨check, (hgate hphase).trans hcheck, hid, hpassed⟩
  cases phase with
  | ready attempt previous => exact h
  | executing attempt entry =>
      refine hlast (fun _ _ hphase => ?_) h
      cases hphase
  | returned result =>
      intro hcompleted
      refine hlast (fun _ _ hphase => ?_) (h hcompleted)
      cases hphase
  | raised => trivial

lemma Attempts.set {s t : State κ} (h : Attempts cfg s) {i : ℕ} {call' : Call}
    (hcalls : t.engine.calls = s.engine.calls.set i call')
    (hgate : ∀ (j : ℕ) (call : Call), s.engine.calls[j]? = some call →
      (∀ attempt previous, call.phase ≠ .ready attempt previous) → t.gate j = s.gate j)
    (hphase : PhasePassed cfg t i call'.task.taskId call'.phase) : Attempts cfg t := by
  intro j c hc
  rw [hcalls] at hc
  by_cases hij : i = j
  · subst hij
    have hlt := (List.getElem?_eq_some_iff.mp hc).1
    rw [List.length_set] at hlt
    rw [List.getElem?_set_self hlt] at hc
    obtain rfl := Option.some.inj hc
    exact hphase
  · rw [List.getElem?_set_ne hij] at hc
    exact (h j c hc).mono (hgate j c hc)

lemma Attempts.append {s t : State κ} (h : Attempts cfg s) {extra : List Call}
    (hcalls : t.engine.calls = s.engine.calls ++ extra) (hgate : t.gate = s.gate)
    (hextra : ∀ call ∈ extra, call.phase = .ready 1 none) : Attempts cfg t := by
  intro j c hc
  rw [hcalls] at hc
  by_cases hj : j < s.engine.calls.length
  · rw [List.getElem?_append_left hj] at hc
    exact (h j c hc).mono fun _ => congrFun hgate j
  · rw [List.getElem?_append_right (by omega)] at hc
    rw [hextra c (List.mem_of_getElem? hc)]
    intro result hresult
    cases hresult

lemma launch_calls (context : ℕ) (refused : String → Bool)
    (tasks : List (RuntimeTask × RoutingDecision)) (calls : List Call) :
    ∃ extra, (launch context refused tasks calls).2 = calls ++ extra ∧
      ∀ call ∈ extra, call.phase = .ready 1 none := by
  induction tasks generalizing calls with
  | nil => exact ⟨[], by simp [launch], by simp⟩
  | cons entry rest ih =>
      obtain ⟨task, routing⟩ := entry
      unfold launch
      split
      · exact ih calls
      · obtain ⟨extra, hextra, hready⟩ := ih (calls ++
          [{ context := context, task := task, routing := routing }])
        refine ⟨{ context := context, task := task, routing := routing } :: extra, ?_, ?_⟩
        · dsimp only
          rw [hextra, List.append_assoc, List.singleton_append]
        · intro call hcall
          rcases List.mem_cons.mp hcall with rfl | hcall
          · rfl
          · exact hready call hcall

/-- Every move keeps it. -/
theorem attempts_step (s : State κ) (move : Move) (t : State κ) (h : Attempts cfg s)
    (hstep : (machine cfg).step s move = some t) : Attempts cfg t := by
  change step cfg s move = some t at hstep
  cases move with
  | engine contexts move =>
      obtain ⟨hmoved, -, hgate⟩ := engine_of_step cfg hstep
      have hframe : ∀ (j : ℕ) (call : Call), s.engine.calls[j]? = some call →
          (∀ attempt previous, call.phase ≠ .ready attempt previous) →
          t.gate j = s.gate j := by
        intro j call hcall hphase
        rw [hgate, asked_of_not_ready contexts move hcall hphase]
      cases hmoved with
      | unchanged hcalls hlog =>
          intro j c hc
          rw [hcalls] at hc
          exact (h j c hc).mono (hframe j c hc)
      | started context task routing hcalls hlog =>
          refine h.append hcalls ?_ ?_
          · rw [hgate]
            rfl
          · intro call hcall
            rw [List.mem_singleton.mp hcall]
      | quiet i call phase hcall hsuspended hquiet hcalls hlog =>
          exact h.set hcalls hframe (phasePassed_of_quiet hquiet)
      | stopped i now call attempt result hcall hready hcalls hlog =>
          have hbefore := h i call hcall
          rw [hready] at hbefore
          exact h.set hcalls hframe fun hcompleted => absurd hcompleted (hbefore result rfl)
      | restored i now call attempt previous source result hcall hready hpassed hsource hid hstatus
          hcalls hlog =>
          refine h.set hcalls hframe fun _ => ?_
          exact ⟨_, (congrFun hgate i).trans (asked_of_turn contexts hcall hready), rfl, hpassed⟩
      | dispatched i now call attempt previous world hcall hready hpassed hcalls hlog =>
          refine h.set hcalls hframe ?_
          exact ⟨_, (congrFun hgate i).trans (asked_of_turn contexts hcall hready), rfl, hpassed⟩
      | finished i call attempt entry result phase hcall hexec hphase hcalls hlog =>
          have hbefore := h i call hcall
          rw [hexec] at hbefore
          refine h.set hcalls hframe (phasePassed_of_settled ?_ hphase)
          obtain ⟨check, hcheck, hid, hpassed⟩ := hbefore
          refine ⟨check, ?_, hid, hpassed⟩
          rw [hframe i call hcall (by rw [hexec]; simp), hcheck]
  | alter i task routing =>
      simp only [step] at hstep
      split at hstep
      · rename_i call hcall
        split at hstep
        · rename_i hallowed
          obtain rfl := Option.some.inj hstep
          simp only [Bool.and_eq_true, decide_eq_true_eq] at hallowed
          refine h.set rfl (fun _ _ _ _ => rfl) ?_
          dsimp only
          rw [hallowed.2]
          exact (h i call hcall).mono fun _ => rfl
        · cases hstep
      · cases hstep
  | batch context tasks =>
      obtain rfl := Option.some.inj hstep
      unfold begin
      split
      · obtain ⟨extra, hextra, hready⟩ := launch_calls context (fun _ => false) tasks
          s.engine.calls
        exact h.append hextra rfl hready
      · split
        · exact h
        · exact h
  | advance k refused =>
      simp only [step] at hstep
      split at hstep
      · split at hstep
        · rename_i b _ _ books levels _
          obtain rfl := Option.some.inj hstep
          cases levels with
          | nil => exact h
          | cons level levels =>
              obtain ⟨extra, hextra, hready⟩ := launch_calls b.context refused
                (triage (taskMap b.tasks) (graphOf b.tasks) level books).2 s.engine.calls
              exact h.append hextra rfl hready
        · cases hstep
      · cases hstep
  | gather k errors =>
      simp only [step] at hstep
      split at hstep
      · split at hstep
        · obtain ⟨results, -, rfl⟩ := Option.map_eq_some_iff.mp hstep
          exact h
        · obtain ⟨items, -, rfl⟩ := Option.map_eq_some_iff.mp hstep
          exact h
        · cases hstep
      · cases hstep
  | abandon k =>
      simp only [step] at hstep
      split at hstep
      · obtain rfl := Option.some.inj hstep
        exact h
      · cases hstep

end RunBatch

end Samaktha
