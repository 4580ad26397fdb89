import Samaktha.Coordination.Journal

/-!
# Safe checkpoints expose no mutation

A mutation is exposed in a checkpoint if a restart from it would dispatch the mutation again though
its effect may have happened.  `KeepsSafe` says of each move when it keeps the safe checkpoints free
of exposed mutations: while a mutation is open, nothing but its own end may write a safe one.

What a checkpoint would say of a mutation is traced to the calls and to the results of the batches
(`Traced`), so that the condition is on these, and not on the checkpoint.
-/

namespace Samaktha

namespace Coordinator

variable {σ : Type} (coordinator : Coordinator σ) (context : RuntimeContext)
  (base : EngineConfig Unit) (plan : ExecutionPlan)

/-! ## What a step must meet -/

/-- A call of a mutation for an operation is in its executor, was interrupted, or has ended with an
outcome that does not tell; or such an outcome is what some results report of it. -/
def Unknown (s : Engine.State (RunningExecution σ)) (results : List RuntimeResult)
    (operationId : String) : Prop :=
  (∃ call ∈ s.calls, coordinator.IsMutation context base call.task ∧
    Engine.operationId context call.task = operationId ∧ call.phase.known = false) ∨
  ∃ outcome ∈ RecoveryCheckpoint.danglingOutcomes,
    coordinator.reported results operationId = some outcome.value

/-- A mutation whose executor was invoked is open: its task is not among those that are listed,
there is no result for its operation, and whether its effect has happened is not known. -/
structure Open (s : Engine.State (RunningExecution σ)) (listed : List String)
    (results : List RuntimeResult) (task : RuntimeTask) : Prop where
  unlisted : task.taskId ∉ listed
  unanswered : Dict.get? s.world.record.operationResults (Engine.operationId context task) = none
  unknown : coordinator.Unknown context base s results (Engine.operationId context task)

/-- No other mutation is open, and none shares its operation with a task of another class. -/
def Apart (s : Engine.State (RunningExecution σ)) (task : RuntimeTask) : Prop :=
  ∀ d ∈ s.log, coordinator.IsMutation context base d.task →
    if Engine.operationId context d.task = Engine.operationId context task then
      coordinator.IsMutation context base task
    else ¬ coordinator.Open context base s s.world.listed s.world.shown d.task

/-- The tasks that the loop of the workflow engine has listed as completed or failed. -/
def loopListed (loop : Workflow.Loop) : List String :=
  loop.state.completedTaskIds ++ loop.state.failedTaskIds

/-- The condition under which a step keeps an execution safe to replay: a task that is no mutation
begins, and an attempt ends with a safe checkpoint, while no other mutation is open; a mutation
begins with a checkpoint that the store takes, or behind one that is not safe; and the results of a
batch name the task of every mutation that is open when they are taken in. -/
def KeepsSafe (s : Engine.State (RunningExecution σ)) : ExecutionMove → Prop
  | .runtime (.turn i _) => ∀ call attempt previous, s.calls[i]? = some call →
      call.phase = .ready attempt previous →
      (∀ result, previous = some result → s.cancelRequested call.context = false) →
      Engine.recoveredResult context call.task = none →
        if coordinator.IsMutation context base call.task then
          LastUnsafe s.world ∨
            coordinator.takes s.world (coordinator.startDetails context base call.task attempt)
        else coordinator.Apart context base s call.task
  | .runtime (.finish i result) => ∀ call attempt entry, s.calls[i]? = some call →
      call.phase = .executing attempt entry →
        (Engine.endBoundary (coordinator.engine context base) context call.task attempt
          (Engine.executed context call.task result)).recoverySafe = true →
        coordinator.Apart context base s call.task
  | .collect results => s.world.pipeline.isSome = true → (∀ r ∈ results, r.status ≠ .paused) →
      ∀ d ∈ s.log, coordinator.IsMutation context base d.task →
        coordinator.Open context base s (loopListed s.world.loop)
          (s.world.loop.state.results ++ results) d.task →
        ∃ r ∈ results, r.taskId = d.task.taskId
  | _ => True

/-! ## What the record remembers of a mutation -/

section Remembers

variable {coordinator} {context} {base} {e : RunningExecution σ} {details : Details}
  {after : RunningExecution σ × Bool} {operationId : String}

/-- What a checkpoint would say of an operation does not tell. -/
def Dangles (coordinator : Coordinator σ) (e : RunningExecution σ) (operationId : String) : Prop :=
  ∃ outcome ∈ RecoveryCheckpoint.danglingOutcomes,
    Dict.get? (coordinator.captured e).operationOutcomes operationId = some outcome.value

lemma Checkpointed.shown (h : coordinator.Checkpointed e details after) :
    after.1.shown = e.shown := by
  unfold RunningExecution.shown
  rw [h.pipeline]

lemma Checkpointed.captured_of_ne (h : coordinator.Checkpointed e details after)
    (hne : details.operationId ≠ some operationId) :
    Dict.get? (coordinator.captured after.1).operationOutcomes operationId =
      Dict.get? (coordinator.captured e).operationOutcomes operationId := by
  have hrecord : Dict.get? after.1.record.operationOutcomes operationId =
      Dict.get? (coordinator.captured e).operationOutcomes operationId := by
    rcases h.record with ⟨-, -, houtcomes⟩ | ⟨-, hsame⟩
    · rw [houtcomes]
      exact (noteDetails_of_ne (coordinator.captured e)
        { details with pipelineState := e.pipeline } hne).2
    · rw [hsame]
  rw [captured_outcome, h.shown, hrecord, captured_outcome, ← Option.or_assoc, Option.or_self]

/-- A boundary that the callback has passed is what is said of its operation, if no result reports
of it. -/
lemma Checkpointed.dangles_self {boundary : Boundary}
    (h : coordinator.Checkpointed e (.ofBoundary boundary) after) (hid : boundary.operationId ≠ "")
    (hreturned : after.2 = true) (hdangles : Dangles coordinator after.1 boundary.operationId) :
    (∃ outcome ∈ RecoveryCheckpoint.danglingOutcomes,
      coordinator.reported e.shown boundary.operationId = some outcome.value) ∨
    boundary.outcome ∈ RecoveryCheckpoint.danglingOutcomes := by
  obtain ⟨outcome, hmem, hget⟩ := hdangles
  have hrecord : Dict.get? after.1.record.operationOutcomes boundary.operationId =
      some boundary.outcome.value := by
    rcases h.record with ⟨-, -, houtcomes⟩ | ⟨hraised, -⟩
    · rw [houtcomes]
      exact (noteDetails_self (coordinator.captured e) hid e.pipeline).1
    · exact absurd (hreturned.symm.trans hraised) Bool.true_eq_false.mp
  rw [captured_outcome, h.shown, hrecord] at hget
  cases hreported : coordinator.reported e.shown boundary.operationId with
  | some text =>
      rw [hreported, Option.some_or] at hget
      exact .inl ⟨outcome, hmem, hget⟩
  | none =>
      rw [hreported, Option.none_or] at hget
      have hvalue := congrArg OperationOutcome.ofValue? (Option.some.inj hget)
      rw [OperationOutcome.ofValue?_value, OperationOutcome.ofValue?_value] at hvalue
      exact .inr (Option.some.inj hvalue ▸ hmem)

end Remembers

/-! ## What a checkpoint keeps -/

section Keeps

variable {coordinator} {context} {base} {plan} {e : RunningExecution σ} {details : Details}
  {after : RunningExecution σ × Bool} {log : List (Engine.Dispatch (RunningExecution σ))}
  {task : RuntimeTask} {boundary : Boundary}

/-- A checkpoint that is not safe keeps an execution safe to replay, and so does one that covers
the mutations. -/
lemma ReplaySafe.checkpoint (h : coordinator.ReplaySafe context base e log)
    (hafter : coordinator.Checkpointed e details after)
    (hcovers : details.recoverySafe = true →
      coordinator.Covers context base (coordinator.offered e details) log) :
    coordinator.ReplaySafe context base after.1 log := by
  intro c hlast hsafe
  rcases hafter.last with hsame | hoffered
  · exact h c (hsame ▸ hlast) hsafe
  · obtain rfl := Option.some.inj (hoffered.symm.trans hlast)
    exact hcovers hsafe

/-- What is offered for one operation says of another one what the callback has read. -/
lemma exposes_offered_iff {operationId taskId : String}
    (h : details.operationId ≠ some operationId) :
    (coordinator.offered e details).Exposes operationId taskId ↔
      (coordinator.seen e).Exposes operationId taskId := by
  have hnoted := noteDetails_of_ne (coordinator.captured e)
    { details with pipelineState := e.pipeline } h
  exact exposes_snapshot_iff noteDetails_pipelineState hnoted.1 hnoted.2

/-- What the callback has read exposes no mutation but one of the task's own operation, and the task
is then a mutation itself. -/
def StandsAlone (coordinator : Coordinator σ) (context : RuntimeContext) (base : EngineConfig Unit)
    (e : RunningExecution σ) (log : List (Engine.Dispatch (RunningExecution σ)))
    (task : RuntimeTask) : Prop :=
  ∀ d ∈ log, coordinator.IsMutation context base d.task →
    if Engine.operationId context d.task = Engine.operationId context task then
      coordinator.IsMutation context base task
    else ¬ (coordinator.seen e).Exposes (Engine.operationId context d.task) d.task.taskId

/-- A task that stands alone covers the mutations with a checkpoint of its own operation, if that
does not expose itself. -/
lemma StandsAlone.covers (h : StandsAlone coordinator context base e log task)
    (hid : boundary.operationId = Engine.operationId context task)
    (hself : coordinator.IsMutation context base task → ∀ taskId,
      ¬ (coordinator.offered e (.ofBoundary boundary)).Exposes
        (Engine.operationId context task) taskId) :
    coordinator.Covers context base (coordinator.offered e (.ofBoundary boundary)) log := by
  intro d hd hmutation hexposes
  have hcase := h d hd hmutation
  split at hcase
  · rename_i hsame
    rw [hsame] at hexposes
    exact hself hcase _ hexposes
  · rename_i hother
    refine hcase ((exposes_offered_iff fun heq => hother ?_).mp hexposes)
    exact (Option.some.inj heq).symm.trans hid

lemma StandsAlone.checkpoint (h : StandsAlone coordinator context base e log task)
    (hid : boundary.operationId = Engine.operationId context task)
    (hafter : coordinator.Checkpointed e (.ofBoundary boundary) after)
    (hreturned : after.2 = true) :
    StandsAlone coordinator context base after.1 log task := by
  intro d hd hmutation
  have hcase := h d hd hmutation
  split
  · rename_i hsame
    rwa [if_pos hsame] at hcase
  · rename_i hother
    rw [if_neg hother] at hcase
    have hne : (Details.ofBoundary boundary).operationId ≠
        some (Engine.operationId context d.task) := fun heq =>
      hother ((Option.some.inj heq).symm.trans hid)
    have hnoted := noteDetails_of_ne (coordinator.captured e)
      { Details.ofBoundary boundary with pipelineState := e.pipeline } hne
    obtain ⟨hstate, hresults, houtcomes⟩ := hafter.record.resolve_right fun hraised =>
      absurd (hreturned.symm.trans hraised.1) Bool.true_eq_false.mp
    intro hexposes
    refine hcase ((coordinator.exposes_seen_iff hafter.pipeline ?_ ?_ ?_).mp hexposes)
    · rw [hstate]
      exact noteDetails_pipelineState
    · rw [hresults]
      exact hnoted.1
    · rw [houtcomes]
      exact hnoted.2

/-- A safe checkpoint after a mutation's attempt does not expose the mutation: its operation is
answered, or failed before its effect. -/
lemma not_exposes_end {attempt : ℕ} {result : RuntimeResult} (taskId : String)
    (hmutation : coordinator.IsMutation context base task)
    (hsafe : (Engine.endBoundary (coordinator.engine context base) context task attempt
      result).recoverySafe = true) :
    ¬ (coordinator.offered e (.ofBoundary (Engine.endBoundary (coordinator.engine context base)
      context task attempt result))).Exposes (Engine.operationId context task) taskId := by
  intro hexposes
  have hid : (Engine.endBoundary (coordinator.engine context base) context task attempt
      result).operationId ≠ "" := operationId_ne_empty context task
  obtain ⟨houtcome, hanswer⟩ := noteDetails_self (coordinator.captured e) hid e.pipeline
  have hended : Engine.operationOutcome (coordinator.engine context base) task result =
      .completed ∨ Engine.operationOutcome (coordinator.engine context base) task result =
        .failedBeforeEffect := by
    have hclass : Engine.sideEffectClass (coordinator.engine context base) task =
        .nonIdempotentMutation := hmutation
    simpa [Engine.endBoundary, hclass] using hsafe
  rcases hended with hcompleted | hbefore
  · have hresult := hanswer _ (if_pos hcompleted)
    have hnone := hexposes.unanswered
    exact absurd (hresult.symm.trans hnone) (Option.some_ne_none _)
  · obtain ⟨outcome, hmem, hget⟩ := hexposes.dangling
    have hvalue := Option.some.inj (houtcome.symm.trans hget)
    have hsame := congrArg OperationOutcome.ofValue? hvalue
    rw [OperationOutcome.ofValue?_value, OperationOutcome.ofValue?_value] at hsame
    have heq : outcome = .failedBeforeEffect := (Option.some.inj hsame).symm.trans hbefore
    rw [heq] at hmem
    revert hmem
    decide

lemma ReplaySafe.turn {s t : Engine.State (RunningExecution σ)} {i attempt : ℕ} {call : Engine.Call}
    (h : coordinator.ReplaySafe context base s.world s.log)
    (hguard : Engine.recoveredResult context call.task = none →
      if coordinator.IsMutation context base call.task then
        LastUnsafe s.world ∨
          coordinator.takes s.world (coordinator.startDetails context base call.task attempt)
      else StandsAlone coordinator context base s.world s.log call.task)
    (hturned : Engine.Turned (coordinator.engine context base) s t i call attempt) :
    coordinator.ReplaySafe context base t.world t.log := by
  have hfirst := coordinator.checkpointed s.world
    (coordinator.startDetails context base call.task attempt)
  have hlast := h.checkpoint hfirst
  by_cases hmutation : coordinator.IsMutation context base call.task
  · have hrisky : (coordinator.startDetails context base call.task attempt).recoverySafe = false :=
      decide_eq_false (not_not_intro hmutation)
    have hstarted := hlast fun hsafe => by
      rw [hrisky] at hsafe
      cases hsafe
    cases hturned with
    | idle hworld _ hlog => rwa [hworld, hlog]
    | started _ hworld _ hlog => rw [hworld, hlog]; exact hstarted
    | refused result hresult _ hreturned hworld _ hlog =>
        rw [hworld, hlog]
        refine hstarted.checkpoint (coordinator.checkpointed _ _) fun hsafe => ?_
        have hend : (Engine.endBoundary (coordinator.engine context base) context call.task attempt
            result).recoverySafe = false :=
          Engine.recoverySafe_of_tells _ hmutation (hresult.tells _ hmutation)
        exact absurd (hend.symm.trans hsafe) Bool.false_ne_true
    | dispatched hnew hreturned hworld _ hlog =>
        have htaken := hguard hnew
        rw [if_pos hmutation] at htaken
        have hlastUnsafe := lastUnsafe_of_takes htaken hmutation hfirst hreturned
        intro c hc hsafe
        rw [hworld] at hc
        exact absurd ((hlastUnsafe c hc).symm.trans hsafe) Bool.false_ne_true
  · have halone : Engine.recoveredResult context call.task = none →
        StandsAlone coordinator context base s.world s.log call.task := fun hnew => by
      have hcase := hguard hnew
      rwa [if_neg hmutation] at hcase
    have hstarted := fun hnew => hlast fun _ =>
      (halone hnew).covers rfl fun hself => absurd hself hmutation
    cases hturned with
    | idle hworld _ hlog => rwa [hworld, hlog]
    | started hnew hworld _ hlog => rw [hworld, hlog]; exact hstarted hnew
    | refused result hresult hnew hreturned hworld _ hlog =>
        rw [hworld, hlog]
        have hagain := (halone hnew).checkpoint rfl hfirst hreturned
        exact (hstarted hnew).checkpoint (coordinator.checkpointed _ _) fun _ =>
          hagain.covers rfl fun hself => absurd hself hmutation
    | dispatched hnew hreturned hworld _ hlog =>
        intro c hc hsafe d hd
        rw [hworld] at hc
        rw [hlog] at hd
        rcases List.mem_append.mp hd with hold | hadded
        · exact hstarted hnew c hc hsafe d hold
        · obtain rfl := List.mem_singleton.mp hadded
          exact fun hself => absurd hself hmutation

lemma ReplaySafe.sameEntries {log' : List (Engine.Dispatch (RunningExecution σ))}
    (h : coordinator.ReplaySafe context base e log) (hsame : Engine.SameEntries log log') :
    coordinator.ReplaySafe context base e log' := by
  intro c hlast hsafe d' hd'
  obtain ⟨d, hd, htask, -⟩ := hsame d' hd'
  rw [htask]
  exact h c hlast hsafe d hd

lemma ReplaySafe.finish {attempt : ℕ} {result : RuntimeResult}
    (h : coordinator.ReplaySafe context base e log)
    (hguard : (Engine.endBoundary (coordinator.engine context base) context task attempt
        result).recoverySafe = true →
      StandsAlone coordinator context base e log task) :
    coordinator.ReplaySafe context base (coordinator.checkpoint e (.ofBoundary
      (Engine.endBoundary (coordinator.engine context base) context task attempt result))).1 log :=
  h.checkpoint (coordinator.checkpointed _ _) fun hsafe =>
    (hguard hsafe).covers rfl fun hmutation taskId => not_exposes_end taskId hmutation hsafe

end Keeps

/-! ## What is traced to the calls -/

section Traces

variable {coordinator} {context} {base} {plan} {s t : Engine.State (RunningExecution σ)}
  {call : Engine.Call} {i attempt : ℕ}

/-- The loop has taken in what is shown, and of each mutation whose executor was invoked the record
only says what does not tell if it is not known whether its effect has happened. -/
structure Traced (coordinator : Coordinator σ) (context : RuntimeContext)
    (base : EngineConfig Unit) (s : Engine.State (RunningExecution σ)) : Prop where
  grown : s.world.Grown
  known : ∀ d ∈ s.log, coordinator.IsMutation context base d.task →
    Dangles coordinator s.world (Engine.operationId context d.task) →
    coordinator.Unknown context base s s.world.shown (Engine.operationId context d.task)

lemma settledIds_seen (e : RunningExecution σ) : (coordinator.seen e).settledIds = e.listed := by
  have hlisted : ∀ workflow : WorkflowState,
      listedIds workflow.modelDump "completed_task_ids" ++
        listedIds workflow.modelDump "failed_task_ids" =
      workflow.completedTaskIds ++ workflow.failedTaskIds := by
    intro workflow
    have htexts : ∀ ids : List String, (ids.map Json.str).filterMap Json.str? = ids := by
      intro ids
      rw [List.filterMap_map]
      exact List.filterMap_some
    exact congrArg₂ (· ++ ·) (htexts _) (htexts _)
  unfold RecoveryCheckpoint.settledIds RunningExecution.listed seen snapshot
  dsimp only
  rw [(coordinator.captured_spec e).1]
  cases e.pipeline.or e.record.pipelineState with
  | none => rfl
  | some pipeline =>
      have hdumped : Dict.get? pipeline.modelDump "workflow_state" =
          some ((pipeline.workflowState.map WorkflowState.modelDump).getD .null) := by
        rw [PipelineState.modelDump, Dict.get?_update]
        rfl
      rw [Option.map_some, Option.bind_some, Option.bind_some, hdumped]
      cases pipeline.workflowState with
      | none => rfl
      | some workflow => exact hlisted workflow

lemma Traced.open_of_exposes (h : Traced coordinator context base s)
    {d : Engine.Dispatch (RunningExecution σ)} (hd : d ∈ s.log)
    (hmutation : coordinator.IsMutation context base d.task)
    (hexposes : (coordinator.seen s.world).Exposes (Engine.operationId context d.task)
      d.task.taskId) :
    coordinator.Open context base s s.world.listed s.world.shown d.task where
  unlisted := by
    have hlisted : (coordinator.seen s.world).settledIds = s.world.listed := settledIds_seen s.world
    exact hlisted ▸ hexposes.unsettled
  unanswered := by
    rw [← (coordinator.captured_spec s.world).2]
    exact hexposes.unanswered
  unknown := h.known d hd hmutation hexposes.dangling

lemma Traced.standsAlone (h : Traced coordinator context base s) {task : RuntimeTask}
    (hapart : coordinator.Apart context base s task) :
    StandsAlone coordinator context base s.world s.log task := by
  intro d hd hmutation
  have hcase := hapart d hd hmutation
  split
  · rename_i hsame
    rwa [if_pos hsame] at hcase
  · rename_i hother
    rw [if_neg hother] at hcase
    exact fun hexposes => hcase (h.open_of_exposes hd hmutation hexposes)

lemma Unknown.mono {results results' : List RuntimeResult} {operationId : String}
    (h : coordinator.Unknown context base s results operationId)
    (hcalls : Engine.Persists s t)
    (hresults : coordinator.reported results operationId =
      coordinator.reported results' operationId) :
    coordinator.Unknown context base t results' operationId := by
  rcases h with ⟨call, hcall, hmutation, hid, hknown⟩ | ⟨outcome, hmem, hreported⟩
  · obtain ⟨call', hcall', htask, hknown'⟩ := hcalls call hcall hknown
    exact .inl ⟨call', hcall', htask ▸ hmutation, htask ▸ hid, hknown'⟩
  · exact .inr ⟨outcome, hmem, hresults ▸ hreported⟩

lemma unknown_of_leaves {results : List RuntimeResult} (hcall : s.calls[i]? = some call)
    (hleaves : Engine.Leaves (coordinator.engine context base) s t i call)
    (hmutation : coordinator.IsMutation context base call.task) :
    coordinator.Unknown context base t results (Engine.operationId context call.task) := by
  obtain ⟨phase, hcalls, hknown⟩ := hleaves
  refine .inl ⟨{ call with phase := phase }, ?_, hmutation, rfl, hknown hmutation⟩
  rw [hcalls]
  exact List.mem_set (List.getElem?_eq_some_iff.mp hcall).1 _

lemma Traced.leaves (h : Traced coordinator context base s) (hcall : s.calls[i]? = some call)
    (hready : call.phase.known = true)
    (hclass : ∀ d ∈ s.log, coordinator.IsMutation context base d.task →
      Engine.operationId context d.task = Engine.operationId context call.task →
      coordinator.IsMutation context base call.task)
    (hgrown : t.world.Grown) (hshown : t.world.shown = s.world.shown)
    (hother : ∀ operationId, Engine.operationId context call.task ≠ operationId →
      Dict.get? (coordinator.captured t.world).operationOutcomes operationId =
        Dict.get? (coordinator.captured s.world).operationOutcomes operationId)
    (hleaves : Engine.Leaves (coordinator.engine context base) s t i call)
    (hlog : ∀ d ∈ t.log, d ∈ s.log ∨ d.task = call.task) :
    Traced coordinator context base t where
  grown := hgrown
  known := by
    intro d hd hmutation hdangles
    by_cases hid : Engine.operationId context d.task = Engine.operationId context call.task
    · have hself : coordinator.IsMutation context base call.task := by
        rcases hlog d hd with hold | htask
        · exact hclass d hold hmutation hid
        · exact htask ▸ hmutation
      rw [hid]
      exact unknown_of_leaves hcall hleaves hself
    · have hold : d ∈ s.log := (hlog d hd).resolve_right fun htask => hid (by rw [htask])
      obtain ⟨outcome, hmem, hget⟩ := hdangles
      have hunknown := h.known d hold hmutation ⟨outcome, hmem, hother _ (Ne.symm hid) ▸ hget⟩
      obtain ⟨phase, hcalls, -⟩ := hleaves
      exact hunknown.mono (Engine.persists_of_set hcall hcalls (.inl hready)) (by rw [hshown])

lemma Traced.turn {previous : Option RuntimeResult} (h : Traced coordinator context base s)
    (hcall : s.calls[i]? = some call) (hphase : call.phase = .ready attempt previous)
    (hguard : Engine.recoveredResult context call.task = none →
      coordinator.IsMutation context base call.task ∨
        coordinator.Apart context base s call.task)
    (hturned : Engine.Turned (coordinator.engine context base) s t i call attempt) :
    Traced coordinator context base t := by
  have hready : call.phase.known = true := by
    rw [hphase]
    rfl
  have hclass : Engine.recoveredResult context call.task = none →
      ∀ d ∈ s.log, coordinator.IsMutation context base d.task →
        Engine.operationId context d.task = Engine.operationId context call.task →
        coordinator.IsMutation context base call.task := by
    intro hnew d hd hmutation hid
    rcases hguard hnew with hself | hapart
    · exact hself
    · have hcase := hapart d hd hmutation
      rwa [if_pos hid] at hcase
  have hne : ∀ {boundary : Boundary} {operationId : String},
      boundary.operationId = Engine.operationId context call.task →
      Engine.operationId context call.task ≠ operationId →
      (Details.ofBoundary boundary).operationId ≠ some operationId := fun hid hother heq =>
    hother (hid ▸ Option.some.inj heq)
  have hfirst := coordinator.checkpointed s.world
    (coordinator.startDetails context base call.task attempt)
  have hgrown : ∀ {e : RunningExecution σ}, e.shown = s.world.shown → e.loop = s.world.loop →
      e.Grown := by
    intro e hshown hloop
    unfold RunningExecution.Grown
    rw [hshown, hloop]
    exact h.grown
  cases hturned with
  | idle hworld hcalls hlog =>
      obtain ⟨phase, hcalls⟩ := hcalls
      refine ⟨hworld ▸ h.grown, fun d hd hmutation hdangles => ?_⟩
      rw [hlog] at hd
      rw [hworld] at hdangles ⊢
      exact (h.known d hd hmutation hdangles).mono
        (Engine.persists_of_set hcall hcalls (.inl hready)) rfl
  | started hnew hworld hleaves hlog =>
      refine h.leaves hcall hready (hclass hnew) ?_ ?_ (fun operationId hother => ?_) hleaves
        (fun d hd => .inl (hlog ▸ hd))
      · rw [hworld]
        exact hgrown hfirst.shown hfirst.loop
      · rw [hworld]
        exact hfirst.shown
      · rw [hworld]
        exact hfirst.captured_of_ne (hne rfl hother)
  | refused result hresult hnew hreturned hworld hleaves hlog =>
      have hsecond := coordinator.checkpointed
        (coordinator.checkpoint s.world
          (coordinator.startDetails context base call.task attempt)).1
        (.ofBoundary (Engine.endBoundary (coordinator.engine context base) context call.task attempt
          result))
      refine h.leaves hcall hready (hclass hnew) ?_ ?_ (fun operationId hother => ?_) hleaves
        (fun d hd => .inl (hlog ▸ hd))
      · rw [hworld]
        exact hgrown (hsecond.shown.trans hfirst.shown) (hsecond.loop.trans hfirst.loop)
      · rw [hworld]
        exact hsecond.shown.trans hfirst.shown
      · rw [hworld]
        exact (hsecond.captured_of_ne (hne rfl hother)).trans
          (hfirst.captured_of_ne (hne rfl hother))
  | dispatched hnew hreturned hworld hleaves hlog =>
      refine h.leaves hcall hready (hclass hnew) ?_ ?_ (fun operationId hother => ?_) hleaves
        (fun d hd => ?_)
      · rw [hworld]
        exact hgrown hfirst.shown hfirst.loop
      · rw [hworld]
        exact hfirst.shown
      · rw [hworld]
        exact hfirst.captured_of_ne (hne rfl hother)
      · rw [hlog] at hd
        rcases List.mem_append.mp hd with hold | hadded
        · exact .inl hold
        · obtain rfl := List.mem_singleton.mp hadded
          exact .inr rfl

lemma Unknown.set {results : List RuntimeResult} {operationId : String}
    {phase : Engine.Phase}
    (h : coordinator.Unknown context base s results operationId)
    (hcall : s.calls[i]? = some call)
    (hcalls : t.calls = s.calls.set i { call with phase := phase })
    (hother : Engine.operationId context call.task ≠ operationId) :
    coordinator.Unknown context base t results operationId := by
  rcases h with ⟨other, hmem, hmutation, hid, hknown⟩ | hreported
  · refine .inl ⟨other, ?_, hmutation, hid, hknown⟩
    obtain ⟨k, hk⟩ := List.getElem?_of_mem hmem
    have hne : i ≠ k := by
      rintro rfl
      obtain rfl := Option.some.inj (hcall.symm.trans hk)
      exact hother hid
    rw [hcalls]
    refine List.mem_of_getElem? (i := k) ?_
    rw [List.getElem?_set_ne hne, hk]
  · exact .inr hreported

lemma not_dangling_of_tells {outcome : OperationOutcome} (h : Engine.tells outcome = true) :
    outcome ∉ RecoveryCheckpoint.danglingOutcomes := by
  cases outcome <;> revert h <;> decide

/-- The end of an attempt keeps what is traced: afterwards the effect of its operation is known, or
the call has not ended with a result that tells. -/
lemma Traced.finish {result : RuntimeResult} (h : Traced coordinator context base s)
    (hcall : s.calls[i]? = some call)
    (hguard : (Engine.endBoundary (coordinator.engine context base) context call.task attempt
        result).recoverySafe = true → coordinator.Apart context base s call.task)
    (hworld : t.world = (coordinator.checkpoint s.world (.ofBoundary (Engine.endBoundary
      (coordinator.engine context base) context call.task attempt result))).1)
    (hcalls : t.calls = s.calls.set i { call with
      phase := if (coordinator.checkpoint s.world (.ofBoundary (Engine.endBoundary
            (coordinator.engine context base) context call.task attempt result))).2 then
          Engine.nextPhase (coordinator.engine context base) (s.cancelRequested call.context)
            context call.task attempt result
        else .raised })
    (hlog : Engine.SameEntries s.log t.log) :
    Traced coordinator context base t := by
  have hafter := coordinator.checkpointed s.world (.ofBoundary (Engine.endBoundary
    (coordinator.engine context base) context call.task attempt result))
  have hshown : t.world.shown = s.world.shown := by
    rw [hworld]
    exact hafter.shown
  refine ⟨?_, fun d' hd' hmutation hdangles => ?_⟩
  · have hloop : t.world.loop = s.world.loop := by
      rw [hworld]
      exact hafter.loop
    unfold RunningExecution.Grown
    rw [hshown, hloop]
    exact h.grown
  obtain ⟨d, hd, htask, -⟩ := hlog d' hd'
  rw [htask] at hmutation hdangles ⊢
  rw [hworld] at hdangles
  by_cases hid : Engine.operationId context d.task = Engine.operationId context call.task
  · have hself : coordinator.IsMutation context base call.task := by
      by_cases hsafe : (Engine.endBoundary (coordinator.engine context base) context call.task
          attempt result).recoverySafe = true
      · have hcase := hguard hsafe d hd hmutation
        rwa [if_pos hid] at hcase
      · by_contra hother
        refine hsafe ?_
        have hclass : Engine.sideEffectClass (coordinator.engine context base) call.task ≠
            .nonIdempotentMutation := hother
        simp [Engine.endBoundary, hclass]
    have hleft : ∀ phase : Engine.Phase, t.calls = s.calls.set i { call with phase := phase } →
        phase.known = false → coordinator.Unknown context base t t.world.shown
          (Engine.operationId context d.task) := fun phase hset hknown =>
      hid ▸ unknown_of_leaves hcall ⟨phase, hset, fun _ => hknown⟩ hself
    cases hreturned : (coordinator.checkpoint s.world (.ofBoundary (Engine.endBoundary
        (coordinator.engine context base) context call.task attempt result))).2 with
    | false =>
        rw [hreturned] at hcalls
        exact hleft .raised hcalls rfl
    | true =>
        rw [hreturned, if_pos rfl] at hcalls
        cases hknown : (Engine.nextPhase (coordinator.engine context base)
            (s.cancelRequested call.context) context call.task attempt result).known with
        | false => exact hleft _ hcalls hknown
        | true =>
            have htells := Engine.tells_of_known _ hself hknown
            rw [hid] at hdangles ⊢
            rcases hafter.dangles_self (operationId_ne_empty context call.task) hreturned
              hdangles with hreported | hdangling
            · exact .inr (hshown.symm ▸ hreported)
            · exact absurd hdangling (not_dangling_of_tells htells)
  · obtain ⟨outcome, hmem, hget⟩ := hdangles
    have hne : (Details.ofBoundary (Engine.endBoundary (coordinator.engine context base) context
        call.task attempt result)).operationId ≠ some (Engine.operationId context d.task) :=
      fun heq => hid (Option.some.inj heq).symm
    have hunknown := h.known d hd hmutation
      ⟨outcome, hmem, (hafter.captured_of_ne hne) ▸ hget⟩
    rw [hshown]
    exact hunknown.set hcall hcalls (Ne.symm hid)

lemma Traced.showing {loop : Workflow.Loop} (h : Traced coordinator context base s)
    (hloop : s.world.loop.state.results <+: loop.state.results) :
    Traced coordinator context base { s with world := s.world.showing loop } := by
  obtain ⟨hgrown, hshown⟩ := h.grown.showing hloop
  refine ⟨hgrown, fun d hd hmutation hdangles => ?_⟩
  obtain ⟨outcome, hmem, hget⟩ := hdangles
  rw [captured_outcome] at hget
  cases hreported : coordinator.reported (s.world.showing loop).shown
      (Engine.operationId context d.task) with
  | some text =>
      rw [hreported, Option.some_or] at hget
      exact .inr ⟨outcome, hmem, hreported.trans hget⟩
  | none =>
      rw [hreported, Option.none_or] at hget
      have hbefore := coordinator.reported_none_of_prefix hshown hreported
      have hunknown := h.known d hd hmutation ⟨outcome, hmem, by
        rw [captured_outcome, hbefore, Option.none_or]
        exact hget⟩
      exact hunknown.mono (Engine.persists_of_append (List.append_nil _).symm)
        (hbefore.trans hreported.symm)

lemma Traced.loop {loop : Workflow.Loop} (h : Traced coordinator context base s)
    (hloop : s.world.loop.state.results <+: loop.state.results) :
    Traced coordinator context base { s with world := { s.world with loop := loop } } :=
  ⟨h.grown.trans hloop, h.known⟩

lemma Traced.collect (h : Traced coordinator context base s) :
    Traced coordinator context base { s with world := coordinator.collect s.world } := by
  have hafter := coordinator.checkpointed s.world batchDetails
  unfold Coordinator.collect
  split
  · refine ⟨?_, fun d hd hmutation hdangles => ?_⟩
    · show (coordinator.checkpoint s.world batchDetails).1.Grown
      unfold RunningExecution.Grown
      rw [hafter.shown, hafter.loop]
      exact h.grown
    · obtain ⟨outcome, hmem, hget⟩ := hdangles
      have hnone : batchDetails.operationId ≠ some (Engine.operationId context d.task) :=
        (Option.some_ne_none _).symm
      have hsame := hafter.captured_of_ne hnone
      have hunknown := h.known d hd hmutation ⟨outcome, hmem, hsame ▸ hget⟩
      exact hunknown.mono (Engine.persists_of_append (List.append_nil _).symm)
        (by rw [hafter.shown])
  · exact h

end Traces

/-! ## Runs -/

section Runs

variable {coordinator} {context} {base} {plan} {s t : Engine.State (RunningExecution σ)}

/-- An execution is safe to replay, and what its record says of the mutations is traced. -/
structure SafeState (coordinator : Coordinator σ) (context : RuntimeContext)
    (base : EngineConfig Unit) (s : Engine.State (RunningExecution σ)) : Prop where
  safe : coordinator.ReplaySafe context base s.world s.log
  traced : Traced coordinator context base s

lemma SafeState.runtime {move : Engine.Move} (h : SafeState coordinator context base s)
    (hguard : coordinator.KeepsSafe context base s (.runtime move))
    (hstep : Engine.step (coordinator.engine context base) s move = some t) :
    SafeState coordinator context base t := by
  cases Engine.moveEffect_of_step _ hstep with
  | @turned i _ call attempt previous hcall hphase hgoes hturned =>
      have hmeets := hguard call attempt previous hcall hphase hgoes
      refine ⟨h.safe.turn (fun hnew => ?_) hturned,
        h.traced.turn hcall hphase (fun hnew => ?_) hturned⟩
      · have hcase := hmeets hnew
        split
        · rename_i hmutation
          rwa [if_pos hmutation] at hcase
        · rename_i hmutation
          rw [if_neg hmutation] at hcase
          exact h.traced.standsAlone hcase
      · have hcase := hmeets hnew
        by_cases hmutation : coordinator.IsMutation context base call.task
        · exact .inl hmutation
        · rw [if_neg hmutation] at hcase
          exact .inr hcase
  | @finished i result call attempt entry hcall hphase hworld hcalls hlog =>
      have hmeets := hguard call attempt entry hcall hphase
      refine ⟨?_, h.traced.finish hcall hmeets hworld hcalls hlog⟩
      rw [hworld]
      exact (h.safe.finish fun hsafe => h.traced.standsAlone (hmeets hsafe)).sameEntries hlog
  | other hworld hcalls hlog =>
      refine ⟨?_, hworld ▸ h.traced.grown, fun d' hd' hmutation hdangles => ?_⟩
      · rw [hworld]
        exact h.safe.sameEntries hlog
      · obtain ⟨d, hd, htask, -⟩ := hlog d' hd'
        rw [htask] at hmutation hdangles ⊢
        rw [hworld] at hdangles ⊢
        exact (h.traced.known d hd hmutation hdangles).mono hcalls rfl

lemma apart_of_forall {task : RuntimeTask}
    (h : ∀ d ∈ s.log, coordinator.IsMutation context base d.task →
      Engine.operationId context d.task = Engine.operationId context task ∧
        coordinator.IsMutation context base task) :
    coordinator.Apart context base s task := by
  intro d hd hmutation
  obtain ⟨hid, hself⟩ := h d hd hmutation
  rwa [if_pos hid]

/-- The results of a batch that name the task of every executor that was invoked meet the
condition. -/
lemma keepsSafe_collect {results : List RuntimeResult}
    (h : ∀ d ∈ s.log, ∃ r ∈ results, r.taskId = d.task.taskId) :
    coordinator.KeepsSafe context base s (.collect results) :=
  fun _ _ d hd _ _ => h d hd

lemma covers_collect {results : List RuntimeResult} (h : SafeState coordinator context base s)
    (hguard : coordinator.KeepsSafe context base s (.collect results))
    (hpipeline : s.world.pipeline.isSome = true) (hpaused : ∀ r ∈ results, r.status ≠ .paused) :
    coordinator.Covers context base (coordinator.seen
      (s.world.showing (Workflow.takeResults plan s.world.loop results))) s.log := by
  obtain ⟨pipeline, hsome⟩ := Option.isSome_iff_exists.mp hpipeline
  have htaken : Workflow.takeResults plan s.world.loop results =
      results.foldl Workflow.settleResult s.world.loop :=
    Workflow.takeResults_of_forall plan hpaused
  have hresults : (Workflow.takeResults plan s.world.loop results).state.results =
      s.world.loop.state.results ++ results := by
    rw [htaken]
    exact Workflow.results_foldl results s.world.loop
  have htraced : Traced coordinator context base { s with
      world := s.world.showing (Workflow.takeResults plan s.world.loop results) } :=
    h.traced.showing (hresults ▸ List.prefix_append _ _)
  intro d hd hmutation hexposes
  obtain ⟨hunlisted, hunanswered, hunknown⟩ := htraced.open_of_exposes hd hmutation hexposes
  rw [RunningExecution.shown_showing, if_pos hpipeline, hresults] at hunknown
  have hlisted : (s.world.showing (Workflow.takeResults plan s.world.loop results)).listed =
      loopListed (Workflow.takeResults plan s.world.loop results) := by
    unfold RunningExecution.listed RunningExecution.showing
    rw [hsome]
    rfl
  have hmem : ∀ id, id ∈ loopListed s.world.loop ∨ (∃ r ∈ results, r.taskId = id) →
      id ∈ loopListed (Workflow.takeResults plan s.world.loop results) := by
    intro id hid
    rw [htaken]
    unfold loopListed at hid ⊢
    rw [List.mem_append, Workflow.mem_completedTaskIds_foldl, Workflow.mem_failedTaskIds_foldl]
    rcases hid with hid | ⟨r, hr, hid⟩
    · rcases List.mem_append.mp hid with hid | hid
      · exact .inl (.inl hid)
      · exact .inr (.inl hid)
    · by_cases hcompleted : r.status = .completed
      · exact .inl (.inr ⟨r, hr, hcompleted, hid⟩)
      · exact .inr (.inr ⟨r, hr, hcompleted, hid⟩)
  rw [hlisted] at hunlisted
  have hnamed := hguard hpipeline hpaused d hd hmutation
    ⟨fun hid => hunlisted (hmem _ (.inl hid)), hunanswered, hunknown⟩
  exact hunlisted (hmem _ (.inr hnamed))

lemma ReplaySafe.collect {e : RunningExecution σ}
    {log : List (Engine.Dispatch (RunningExecution σ))}
    (h : coordinator.ReplaySafe context base e log)
    (hcovers : e.pipeline.isSome = true →
      coordinator.Covers context base (coordinator.seen e) log) :
    coordinator.ReplaySafe context base (coordinator.collect e) log := by
  unfold Coordinator.collect
  split
  · rename_i hsome
    refine h.checkpoint (coordinator.checkpointed _ _) fun _ d hd hmutation hexposes => ?_
    have hnone : batchDetails.operationId ≠ some (Engine.operationId context d.task) :=
      (Option.some_ne_none _).symm
    exact hcovers hsome d hd hmutation ((exposes_offered_iff hnone).mp hexposes)
  · exact h

lemma SafeState.collected {results : List RuntimeResult} (h : SafeState coordinator context base s)
    (hguard : coordinator.KeepsSafe context base s (.collect results)) :
    SafeState coordinator context base { s with
      world := coordinator.collected s.world
        (Workflow.takeResults plan s.world.loop results) } := by
  have hstarts := Workflow.results_prefix_takeResults plan s.world.loop results
  unfold Coordinator.collected
  split
  · refine ⟨h.safe, h.traced.loop ?_⟩
    have hsame : ∀ loop : Workflow.Loop, (Workflow.reported loop).state = loop.state := by
      intro loop
      unfold Workflow.reported
      split <;> rfl
    rw [hsame]
    exact hstarts
  · rename_i hgoes
    have hpaused : ∀ r ∈ results, r.status ≠ .paused := by
      rcases Workflow.exists_first_paused results with hnone | ⟨before, paused, after, rfl,
        hbefore, hstatus⟩
      · exact hnone
      · rw [Workflow.takeResults_of_paused plan hbefore hstatus] at hgoes
        exact absurd rfl hgoes
    have hsafe : coordinator.ReplaySafe context base
        (s.world.showing (Workflow.takeResults plan s.world.loop results)) s.log := h.safe
    refine ⟨hsafe.collect fun hsome => ?_, (h.traced.showing hstarts).collect⟩
    refine covers_collect h hguard ?_ hpaused
    simpa [RunningExecution.showing] using hsome

/-- What a step keeps under its condition. -/
theorem SafeState.step {move : ExecutionMove} (h : SafeState coordinator context base s)
    (hguard : coordinator.KeepsSafe context base s move)
    (hstep : (coordinator.executionMachine context base plan).step s move = some t) :
    SafeState coordinator context base t := by
  cases move with
  | runtime move => exact h.runtime hguard hstep
  | dispatch handed =>
      simp only [executionMachine, executionStep] at hstep
      split at hstep
      · cases hstep
      obtain rfl := Option.some.inj hstep
      have hstarts := Workflow.results_prefix_runInternal plan s.world.loop
      cases handed with
      | true => exact ⟨h.safe, h.traced.showing hstarts⟩
      | false => exact ⟨h.safe, h.traced.loop hstarts⟩
  | collect results =>
      simp only [executionMachine, executionStep] at hstep
      split at hstep
      · cases hstep
      obtain rfl := Option.some.inj hstep
      exact h.collected hguard

lemma safeState_fresh {e : RunningExecution σ} :
    SafeState coordinator context base (fresh plan e) := by
  refine ⟨fun _ _ _ d hd => (by cases hd), ?_, fun d hd => (by cases hd)⟩
  unfold RunningExecution.Grown RunningExecution.shown fresh
  dsimp only
  rw [Workflow.results_start]
  cases e.pipeline.bind PipelineState.workflowState <;> exact List.prefix_rfl

/-- In a run whose steps all keep the execution safe to replay, a safe checkpoint that was saved
last, and so one that a restart recovers from, exposes no mutation whose executor was invoked. -/
theorem replay_safe_of_guarded {e : RunningExecution σ} {moves : List ExecutionMove}
    (hguard : (coordinator.executionMachine context base plan).Guarded
      (coordinator.KeepsSafe context base) (fresh plan e) moves)
    (hrun : (coordinator.executionMachine context base plan).run (fresh plan e) moves = some s) :
    coordinator.ReplaySafe context base s.world s.log ∧
      ∀ c, s.world.journal.last = some c → c.recovers = true →
        coordinator.Covers context base c s.log := by
  have hsafe := ((coordinator.executionMachine context base plan).guarded_invariant
    (fun _ _ _ h hmeets hstep => h.step hmeets hstep) safeState_fresh hguard hrun).safe
  exact ⟨hsafe, fun c hlast hrecovers =>
    hsafe c hlast (RecoveryCheckpoint.recoverySafe_of_recovers hrecovers)⟩

end Runs

/-! ### A mutation that is covered up -/

/-- A coordinator whose store takes every checkpoint. -/
def trusting : Coordinator Unit where
  save := some fun store _ => (store, .saved)
  textOfContainer _ := ""

/-- A batch whose mutation begins when the task that reads is over. -/
def oneAfterTheOther : List ExecutionMove :=
  [.dispatch true, startOf readTask, startOf Engine.sampleTask, .runtime (.turn 0 1),
    .runtime (.finish 0 (completedResult readTask)), .runtime (.turn 1 2),
    .runtime (.finish 1 (completedResult Engine.sampleTask)),
    .collect [completedResult readTask, completedResult Engine.sampleTask]]

theorem replay_safe_of_guarded_sample :
    ∃ s, (trusting.executionMachine sampleContext Engine.sampleConfig samplePlan).run
        (fresh samplePlan (sampleExecution ())) oneAfterTheOther = some s ∧
      s.log.length = 2 ∧ (s.world.journal.last.map RecoveryCheckpoint.recoverySafe) = some true ∧
      trusting.ReplaySafe sampleContext Engine.sampleConfig s.world s.log := by
  have hlook : ((trusting.executionMachine sampleContext Engine.sampleConfig samplePlan).run
      (fresh samplePlan (sampleExecution ())) oneAfterTheOther).map (fun s =>
        (s.log.length, s.world.journal.last.map RecoveryCheckpoint.recoverySafe)) =
      some (2, some true) := by decide +kernel
  obtain ⟨s, hrun, hend⟩ := Option.map_eq_some_iff.mp hlook
  have hguard : (trusting.executionMachine sampleContext Engine.sampleConfig samplePlan).Guarded
      (trusting.KeepsSafe sampleContext Engine.sampleConfig)
      (fresh samplePlan (sampleExecution ())) oneAfterTheOther := by
    refine ⟨trivial, fun _ h₁ => ?_⟩
    obtain rfl := Option.some.inj h₁
    refine ⟨trivial, fun _ h₂ => ?_⟩
    obtain rfl := Option.some.inj h₂
    refine ⟨trivial, fun _ h₃ => ?_⟩
    obtain rfl := Option.some.inj h₃
    refine ⟨fun call attempt previous hcall _ _ _ => ?_, fun _ h₄ => ?_⟩
    · obtain rfl := Option.some.inj hcall
      exact fun d hd => by cases hd
    obtain rfl := Option.some.inj h₄
    refine ⟨fun call attempt entry hcall _ _ => ?_, fun _ h₅ => ?_⟩
    · obtain rfl := Option.some.inj hcall
      exact apart_of_forall (by decide +kernel)
    obtain rfl := Option.some.inj h₅
    refine ⟨fun call attempt previous hcall _ _ _ => ?_, fun _ h₆ => ?_⟩
    · obtain rfl := Option.some.inj hcall
      exact .inr ⟨_, rfl, rfl⟩
    obtain rfl := Option.some.inj h₆
    refine ⟨fun call attempt entry hcall _ _ => ?_, fun _ h₇ => ?_⟩
    · obtain rfl := Option.some.inj hcall
      exact apart_of_forall (by decide +kernel)
    obtain rfl := Option.some.inj h₇
    exact ⟨keepsSafe_collect (by decide +kernel), fun _ _ => trivial⟩
  exact ⟨s, hrun, congrArg Prod.fst hend, congrArg Prod.snd hend,
    (replay_safe_of_guarded hguard hrun).1⟩

/-- The checkpoint of a task that reads is saved while a mutation is in its executor. -/
def coveredUp : List ExecutionMove :=
  [.dispatch true, startOf Engine.sampleTask, startOf readTask, .runtime (.turn 0 1),
    .runtime (.turn 1 2)]

/-- The checkpoint is safe, and the mutation is exposed in it. -/
theorem mutation_covered_up :
    ¬ ∀ (σ : Type) (coordinator : Coordinator σ) (context : RuntimeContext)
      (base : EngineConfig Unit) (plan : ExecutionPlan) (e : RunningExecution σ)
      (moves : List ExecutionMove) (s : Engine.State (RunningExecution σ)),
      (coordinator.executionMachine context base plan).run (fresh plan e) moves = some s →
      coordinator.ReplaySafe context base s.world s.log := by
  intro h
  have hlook : ((trusting.executionMachine sampleContext Engine.sampleConfig samplePlan).run
      (fresh samplePlan (sampleExecution ())) coveredUp).map (fun s =>
        decide (trusting.ReplaySafe sampleContext Engine.sampleConfig s.world s.log)) =
      some false := by decide +kernel
  obtain ⟨s, hrun, hsafe⟩ := Option.map_eq_some_iff.mp hlook
  exact of_decide_eq_false hsafe
    (h Unit trusting sampleContext Engine.sampleConfig samplePlan _ _ s hrun)

end Coordinator

end Samaktha
