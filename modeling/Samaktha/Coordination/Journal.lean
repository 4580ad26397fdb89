import Samaktha.Coordination.Record
import Samaktha.Runtime.Iteration
import Samaktha.Workflow.Ending

/-!
# Checkpoints of a running execution

The batches of one execution run any number of `RuntimeEngine.run` calls at once.  Each call writes
the coordinator's checkpoint before and after its executor, and the workflow engine writes one after
each batch; all of them share the record, the store and one flag, `recovery_safe`, that the last of
them has set.

The machine here is the runtime engine with the coordinator's `_runtime_checkpoint` as its callback,
interleaved with the two things the loop of `WorkflowEngine.execute` does to the pipeline state: it
puts its state into it before a batch, and takes in the results of the batch, puts its state into it
again and writes a checkpoint.

A journal remembers the last checkpoint that the store has taken.
-/

namespace Samaktha

/-! ## The journal -/

/-- The world behind a checkpoint store, with the last checkpoint that it has taken. -/
structure Journal (σ : Type) where
  store : σ
  last : Option RecoveryCheckpoint := none

/-- An execution while its batches run: its record, the store, the pipeline state that the context's
metadata refers to, and the loop of the workflow engine. -/
structure RunningExecution (σ : Type) where
  record : ActiveExecution
  journal : Journal σ
  pipeline : Option PipelineState := none
  loop : Workflow.Loop := { state := { workflowId := "" } }

namespace RunningExecution

variable {σ : Type}

/-- The tasks that the workflow state of an execution lists as completed or failed. -/
def listed (e : RunningExecution σ) : List String :=
  match (e.pipeline.or e.record.pipelineState).bind PipelineState.workflowState with
  | some workflow => workflow.completedTaskIds ++ workflow.failedTaskIds
  | none => []

/-- The results that the workflow state in the pipeline state shows. -/
def shown (e : RunningExecution σ) : List RuntimeResult :=
  match e.pipeline.bind PipelineState.workflowState with
  | some workflow => workflow.results
  | none => []

/-- The workflow engine goes on with a loop whose state it has put into the pipeline state. -/
def showing (e : RunningExecution σ) (loop : Workflow.Loop) : RunningExecution σ :=
  { e with
    loop := loop
    pipeline := e.pipeline.map fun pipeline =>
      { pipeline with workflowState := some loop.state } }

/-- The loop has taken in every result that the pipeline state shows. -/
def Grown (e : RunningExecution σ) : Prop := e.shown <+: e.loop.state.results

lemma shown_showing (e : RunningExecution σ) (loop : Workflow.Loop) :
    (e.showing loop).shown = if e.pipeline.isSome then loop.state.results else [] := by
  unfold shown showing
  cases e.pipeline <;> rfl

lemma Grown.showing {e : RunningExecution σ} {loop : Workflow.Loop} (h : e.Grown)
    (hloop : e.loop.state.results <+: loop.state.results) :
    (e.showing loop).Grown ∧ e.shown <+: (e.showing loop).shown := by
  unfold Grown at h ⊢
  rw [shown_showing]
  cases hpipeline : e.pipeline with
  | none =>
      have hnone : e.shown = [] := by
        unfold shown
        rw [hpipeline]
        rfl
      rw [hnone]
      exact ⟨List.nil_prefix, List.nil_prefix⟩
  | some pipeline => exact ⟨List.prefix_rfl, h.trans hloop⟩

end RunningExecution

/-- The task ids that a dumped workflow state lists under a key. -/
def listedIds (workflow : Json) (key : String) : List String :=
  match workflow.get? key with
  | some (.arr items) => items.filterMap Json.str?
  | _ => []

namespace RecoveryCheckpoint

/-- The tasks that are completed or failed in the workflow state of a checkpoint. -/
def settledIds (c : RecoveryCheckpoint) : List String :=
  match c.pipelineState.bind fun pipeline => Dict.get? pipeline "workflow_state" with
  | some workflow => listedIds workflow "completed_task_ids" ++ listedIds workflow "failed_task_ids"
  | none => []

/-- The recorded outcomes after which the effect of an operation may have happened. -/
def danglingOutcomes : List OperationOutcome :=
  [.started, .failedAfterEffectUnknown, .timedOutUnknown, .cancelled]

/-- The operation of a task is neither settled nor answered in a checkpoint, and its effect may have
happened. -/
structure Exposes (c : RecoveryCheckpoint) (operationId taskId : String) : Prop where
  unsettled : taskId ∉ c.settledIds
  unanswered : Dict.get? c.operationResults operationId = none
  dangling : ∃ outcome ∈ danglingOutcomes,
    Dict.get? c.operationOutcomes operationId = some outcome.value

instance (c : RecoveryCheckpoint) (operationId taskId : String) :
    Decidable (c.Exposes operationId taskId) :=
  decidable_of_iff (taskId ∉ c.settledIds ∧ (Dict.get? c.operationResults operationId).isNone ∧
      ∃ outcome ∈ danglingOutcomes,
        Dict.get? c.operationOutcomes operationId = some outcome.value)
    ⟨fun h => ⟨h.1, Option.isNone_iff_eq_none.mp h.2.1, h.2.2⟩,
      fun h => ⟨h.unsettled, Option.isNone_iff_eq_none.mpr h.unanswered, h.dangling⟩⟩

/-- Whether `_restore_checkpoints` puts the execution into `RECOVERING`. -/
def recovers (c : RecoveryCheckpoint) : Bool :=
  c.recoverySafe &&
    ((Dict.get? c.executionState "status").bind Json.str?).any fun text =>
      [ExecutionStatus.created, .planning, .approved, .running, .recovering].any fun status =>
        status.value = text

lemma recoverySafe_of_recovers {c : RecoveryCheckpoint} (h : c.recovers = true) :
    c.recoverySafe = true := by
  unfold recovers at h
  exact (Bool.and_eq_true_iff.mp h).1

end RecoveryCheckpoint

namespace Coordinator

variable {σ : Type} (coordinator : Coordinator σ)

/-- A coordinator that remembers the last checkpoint its store has taken. -/
def journaled : Coordinator (Journal σ) where
  save := coordinator.save.map fun save journal checkpoint =>
    let saved := save journal.store checkpoint
    ({ store := saved.1
       last := if saved.2 = .saved then some checkpoint else journal.last }, saved.2)
  textOfContainer := coordinator.textOfContainer
  evidence := coordinator.evidence.map fun recorder journal evidence state =>
    let said := recorder journal.store evidence state
    ({ journal with store := said.1 }, said.2)

/-- The checkpoint callback of a running execution. -/
def checkpoint (e : RunningExecution σ) (details : Details) : RunningExecution σ × Bool :=
  let ran := coordinator.journaled.runtimeCheckpoint e.record e.journal
    { details with pipelineState := e.pipeline }
  ({ e with record := ran.record, journal := ran.world }, ran.raised.isNone)

/-- The record with what the callback first reads out of the pipeline state. -/
def captured (e : RunningExecution σ) : ActiveExecution :=
  match e.pipeline with
  | none => e.record
  | some pipeline =>
      (coordinator.journaled.captureWorkflowReliability
        { e.record with pipelineState := some pipeline } e.journal pipeline).record

/-- What a checkpoint would say of the record that the callback reads. -/
def seen (e : RunningExecution σ) : RecoveryCheckpoint := snapshot (coordinator.captured e) 0 false

/-! ## One checkpoint -/

/-- Whether an operation is exposed is a matter of its own entries and of the pipeline state. -/
lemma exposes_snapshot_iff {record record' : ActiveExecution} {g g' : ℕ} {safe safe' : Bool}
    {operationId taskId : String}
    (hpipeline : record'.pipelineState = record.pipelineState)
    (hresult : Dict.get? record'.operationResults operationId =
      Dict.get? record.operationResults operationId)
    (houtcome : Dict.get? record'.operationOutcomes operationId =
      Dict.get? record.operationOutcomes operationId) :
    (snapshot record' g' safe').Exposes operationId taskId ↔
      (snapshot record g safe).Exposes operationId taskId := by
  have hids : (snapshot record' g' safe').settledIds = (snapshot record g safe).settledIds := by
    unfold RecoveryCheckpoint.settledIds snapshot
    dsimp only
    rw [hpipeline]
  have hsame : ∀ {c d : RecoveryCheckpoint}, c.settledIds = d.settledIds →
      Dict.get? c.operationResults operationId = Dict.get? d.operationResults operationId →
      Dict.get? c.operationOutcomes operationId = Dict.get? d.operationOutcomes operationId →
      c.Exposes operationId taskId → d.Exposes operationId taskId := by
    intro c d hid hres hout h
    refine ⟨hid ▸ h.unsettled, hres ▸ h.unanswered, ?_⟩
    obtain ⟨outcome, hmem, hget⟩ := h.dangling
    exact ⟨outcome, hmem, hout ▸ hget⟩
  exact ⟨hsame hids hresult houtcome, hsame hids.symm hresult.symm houtcome.symm⟩

/-! ### What is written into the record -/

section NoteDetails

variable {record : ActiveExecution} {details : Details}

@[simp] lemma noteDetails_pipelineState :
    (noteDetails record details).pipelineState = record.pipelineState := by
  unfold noteDetails
  dsimp only
  split <;> split <;> split <;> rfl

lemma noteDetails_of_ne (record : ActiveExecution) (details : Details) {operationId : String}
    (h : details.operationId ≠ some operationId) :
    Dict.get? (noteDetails record details).operationResults operationId =
        Dict.get? record.operationResults operationId ∧
      Dict.get? (noteDetails record details).operationOutcomes operationId =
        Dict.get? record.operationOutcomes operationId := by
  have hne : ∀ id, (details.operationId.filter fun id => id ≠ "") = some id → id ≠ operationId := by
    rintro id hid rfl
    exact h (Option.eq_some_of_filter_eq_some hid)
  unfold noteDetails
  dsimp only
  constructor
  · split <;> split <;> split
    all_goals first
      | rfl
      | exact Dict.get?_set_of_ne (hne _ ‹_›) _ _
  · split <;> split <;> split
    all_goals first
      | rfl
      | exact Dict.get?_set_of_ne (hne _ ‹_›) _ _

lemma value_ne_empty (outcome : OperationOutcome) : outcome.value ≠ "" := by
  cases outcome <;> decide

lemma noteDetails_self (record : ActiveExecution) {boundary : Boundary}
    (hid : boundary.operationId ≠ "") (pipeline : Option PipelineState) :
    Dict.get? (noteDetails record
        { Details.ofBoundary boundary with pipelineState := pipeline }).operationOutcomes
        boundary.operationId = some boundary.outcome.value ∧
      ∀ result, boundary.result = some result →
        Dict.get? (noteDetails record
          { Details.ofBoundary boundary with pipelineState := pipeline }).operationResults
          boundary.operationId = some result := by
  have hnamed : ((some boundary.operationId).filter fun id => id ≠ "") =
      some boundary.operationId := by
    rw [Option.filter_some, if_pos (decide_eq_true hid)]
  have houtcome : ((some boundary.outcome.value).filter fun text => text ≠ "") =
      some boundary.outcome.value := by
    rw [Option.filter_some, if_pos (decide_eq_true (value_ne_empty boundary.outcome))]
  unfold noteDetails Details.ofBoundary
  dsimp only
  rw [hnamed, houtcome]
  dsimp only
  constructor
  · split <;> split <;> exact Dict.get?_set_self _ _ _
  · intro result hresult
    rw [hresult]
    dsimp only
    split <;> exact Dict.get?_set_self _ _ _

end NoteDetails

/-! ### What is read out of the pipeline state -/

lemma noteOutcome_results (record : ActiveExecution) (result : RuntimeResult) :
    (coordinator.noteOutcome record result).operationResults = record.operationResults := by
  unfold noteOutcome
  dsimp only
  split <;> rfl

lemma noteOutcome_outcome (result : RuntimeResult) (operationId : String) :
    (∃ text, ∀ record, Dict.get? (coordinator.noteOutcome record result).operationOutcomes
        operationId = some text) ∨
      ∀ record, Dict.get? (coordinator.noteOutcome record result).operationOutcomes operationId =
        Dict.get? record.operationOutcomes operationId := by
  unfold noteOutcome
  dsimp only
  split
  · rename_i id outcome _ _
    by_cases heq : id.text coordinator.textOfContainer = operationId
    · subst heq
      exact .inl ⟨_, fun record => Dict.get?_set_self _ _ _⟩
    · exact .inr fun record => Dict.get?_set_of_ne heq _ _
  · exact .inr fun record => rfl

lemma captureResults_results (record : ActiveExecution) (results : List RuntimeResult) :
    (coordinator.captureResults record results).1.operationResults = record.operationResults := by
  induction results generalizing record with
  | nil => rfl
  | cons result rest ih =>
      have hnoted := coordinator.noteOutcome_results record result
      unfold captureResults
      dsimp only
      split
      · rw [ih, hnoted]
      · rw [ih, hnoted]
      · split
        · exact hnoted
        · rw [ih]
          exact hnoted

lemma captureResults_outcome (results : List RuntimeResult) (operationId : String) :
    (∃ text, ∀ record, Dict.get? (coordinator.captureResults record results).1.operationOutcomes
        operationId = some text) ∨
      ∀ record, Dict.get? (coordinator.captureResults record results).1.operationOutcomes
        operationId = Dict.get? record.operationOutcomes operationId := by
  induction results with
  | nil => exact .inr fun record => rfl
  | cons result rest ih =>
      -- what follows the result starts from its record, with another retry count at most
      have hrest : (∃ next : ActiveExecution → ActiveExecution,
            (∀ record, (next record).operationOutcomes = record.operationOutcomes) ∧
              ∀ record, coordinator.captureResults record (result :: rest) =
                coordinator.captureResults (next (coordinator.noteOutcome record result)) rest) ∨
          ∀ record, (coordinator.captureResults record (result :: rest)).1 =
            coordinator.noteOutcome record result := by
        simp only [captureResults]
        split
        · exact .inl ⟨id, fun _ => rfl, fun _ => rfl⟩
        · exact .inl ⟨id, fun _ => rfl, fun _ => rfl⟩
        · split
          · exact .inr fun record => rfl
          · rename_i count _
            exact .inl ⟨fun record => { record with
              retryAttempts := Dict.set record.retryAttempts result.taskId (count + 1) },
              fun _ => rfl, fun _ => rfl⟩
      rcases hrest with ⟨next, hnext, hcapture⟩ | hcapture
      · rcases ih with ⟨text, htext⟩ | hkept
        · exact .inl ⟨text, fun record => by rw [hcapture, htext]⟩
        · rcases coordinator.noteOutcome_outcome result operationId with ⟨text, htext⟩ | hsame
          · exact .inl ⟨text, fun record => by rw [hcapture, hkept, hnext, htext]⟩
          · exact .inr fun record => by rw [hcapture, hkept, hnext, hsame]
      · rcases coordinator.noteOutcome_outcome result operationId with ⟨text, htext⟩ | hsame
        · exact .inl ⟨text, fun record => by rw [hcapture, htext]⟩
        · exact .inr fun record => by rw [hcapture, hsame]

/-- The pipeline state, and the answers, of the record that the callback reads. -/
lemma captured_spec (e : RunningExecution σ) :
    (coordinator.captured e).pipelineState = (e.pipeline.or e.record.pipelineState) ∧
      (coordinator.captured e).operationResults = e.record.operationResults := by
  unfold captured
  split
  · rename_i hpipeline
    rw [hpipeline]
    exact ⟨rfl, rfl⟩
  · rename_i pipeline hpipeline
    rw [hpipeline]
    unfold captureWorkflowReliability
    split
    · exact ⟨rfl, rfl⟩
    · rename_i workflow _
      exact ⟨(coordinator.journaled.captureResults_spec _ _).2.pipelineState,
        coordinator.journaled.captureResults_results _ _⟩

/-- The outcome of an operation that some results report. -/
def reported (results : List RuntimeResult) (operationId : String) : Option String :=
  Dict.get? (coordinator.journaled.captureResults { state := { executionId := "" } }
    results).1.operationOutcomes operationId

lemma captureResults_append (record : ActiveExecution) (results more : List RuntimeResult) :
    (coordinator.captureResults record (results ++ more)).1 =
        (coordinator.captureResults record results).1 ∨
      coordinator.captureResults record (results ++ more) =
        coordinator.captureResults (coordinator.captureResults record results).1 more := by
  induction results generalizing record with
  | nil => exact .inr rfl
  | cons result rest ih =>
      rw [List.cons_append, captureResults, captureResults]
      split
      · exact ih _
      · exact ih _
      · split
        · exact .inl rfl
        · exact ih _

lemma reported_none_of_prefix {results more : List RuntimeResult} {operationId : String}
    (hstarts : results <+: more) (h : coordinator.reported more operationId = none) :
    coordinator.reported results operationId = none := by
  obtain ⟨rest, rfl⟩ := hstarts
  unfold reported at h ⊢
  rcases coordinator.journaled.captureResults_append { state := { executionId := "" } } results
    rest with hsame | happend
  · rwa [hsame] at h
  · rw [happend] at h
    rcases coordinator.journaled.captureResults_outcome rest operationId with ⟨text, htext⟩ | hkept
    · rw [htext] at h
      cases h
    · rwa [hkept] at h

lemma captured_outcome (e : RunningExecution σ) (operationId : String) :
    Dict.get? (coordinator.captured e).operationOutcomes operationId =
      (coordinator.reported e.shown operationId).or
        (Dict.get? e.record.operationOutcomes operationId) := by
  unfold captured captureWorkflowReliability RunningExecution.shown
  cases e.pipeline with
  | none => rfl
  | some pipeline =>
      dsimp only [Option.bind_some]
      cases pipeline.workflowState with
      | none => rfl
      | some workflow =>
          dsimp only
          unfold reported
          rcases coordinator.journaled.captureResults_outcome workflow.results operationId with
            ⟨text, htext⟩ | hkept
          · rw [htext, htext, Option.some_or]
          · rw [hkept, hkept]
            rfl

/-- A record that agrees on an operation with what the callback read is read in the same way
again. -/
lemma exposes_seen_iff {e e' : RunningExecution σ} {operationId taskId : String}
    (hpipeline : e'.pipeline = e.pipeline)
    (hstate : e'.record.pipelineState = (coordinator.captured e).pipelineState)
    (hresult : Dict.get? e'.record.operationResults operationId =
      Dict.get? (coordinator.captured e).operationResults operationId)
    (houtcome : Dict.get? e'.record.operationOutcomes operationId =
      Dict.get? (coordinator.captured e).operationOutcomes operationId) :
    (coordinator.seen e').Exposes operationId taskId ↔
      (coordinator.seen e).Exposes operationId taskId := by
  obtain ⟨hstate₁, hresults₁⟩ := coordinator.captured_spec e
  obtain ⟨hstate₂, hresults₂⟩ := coordinator.captured_spec e'
  refine exposes_snapshot_iff ?_ ?_ ?_
  · rw [hstate₂, hpipeline, hstate, hstate₁]
    cases e.pipeline <;> rfl
  · rw [hresults₂, hresult]
  · have hshown : e'.shown = e.shown := by
      unfold RunningExecution.shown
      rw [hpipeline]
    rw [captured_outcome, hshown, houtcome, captured_outcome, ← Option.or_assoc, Option.or_self]

/-! ### The checkpoint -/

/-- The record that a checkpoint saves. -/
def noted (e : RunningExecution σ) (details : Details) : ActiveExecution :=
  noteDetails (coordinator.captured e) { details with pipelineState := e.pipeline }

/-- The checkpoint that is handed to the store. -/
def offered (e : RunningExecution σ) (details : Details) : RecoveryCheckpoint :=
  snapshot (coordinator.noted e details) (coordinator.noted e details).checkpointGeneration
    details.recoverySafe

/-- Whether the store takes the checkpoint it is offered. -/
def takes (e : RunningExecution σ) (details : Details) : Prop :=
  ∃ save, coordinator.save = some save ∧
    (save e.journal.store (coordinator.offered e details)).2 = .saved

structure Checkpointed (e : RunningExecution σ) (details : Details)
    (after : RunningExecution σ × Bool) : Prop where
  pipeline : after.1.pipeline = e.pipeline
  last : after.1.journal.last = e.journal.last ∨
    after.1.journal.last = some (coordinator.offered e details)
  taken : coordinator.takes e details → after.2 = true →
    after.1.journal.last = some (coordinator.offered e details)
  record : (after.1.record.pipelineState = (coordinator.noted e details).pipelineState ∧
      after.1.record.operationResults = (coordinator.noted e details).operationResults ∧
      after.1.record.operationOutcomes = (coordinator.noted e details).operationOutcomes) ∨
    after.2 = false ∧ after.1.record = coordinator.captured e
  loop : after.1.loop = e.loop

lemma runtimeCheckpoint_eq (e : RunningExecution σ) (details : Details) :
    ∃ raised, coordinator.journaled.runtimeCheckpoint e.record e.journal
        { details with pipelineState := e.pipeline } =
      (Ran.mk (coordinator.captured e) e.journal raised).andThen fun record journal =>
        coordinator.journaled.saveCheckpoint
          (noteDetails record { details with pipelineState := e.pipeline }) journal
          details.recoverySafe := by
  unfold runtimeCheckpoint captured
  cases e.pipeline with
  | none => exact ⟨none, rfl⟩
  | some pipeline =>
      have heq : coordinator.journaled.captureWorkflowReliability
          { e.record with pipelineState := some pipeline } e.journal pipeline =
          Ran.mk (coordinator.journaled.captureWorkflowReliability
            { e.record with pipelineState := some pipeline } e.journal pipeline).record e.journal
            (coordinator.journaled.captureWorkflowReliability
              { e.record with pipelineState := some pipeline } e.journal pipeline).raised := by
        unfold captureWorkflowReliability
        split <;> rfl
      exact ⟨_, congrArg (fun ran => ran.andThen fun record journal =>
        coordinator.journaled.saveCheckpoint
          (noteDetails record { details with pipelineState := some pipeline }) journal
          details.recoverySafe) heq⟩

/-- The record and the journal after a save. -/
lemma saveCheckpoint_spec (record : ActiveExecution) (journal : Journal σ) (recoverySafe : Bool) :
    let checkpoint := snapshot record record.checkpointGeneration recoverySafe
    let ran := coordinator.journaled.saveCheckpoint record journal recoverySafe
    (ran.world.last = journal.last ∨ ran.world.last = some checkpoint) ∧
      ((∃ save, coordinator.save = some save ∧ (save journal.store checkpoint).2 = .saved) →
        ran.world.last = some checkpoint) ∧
      ran.record.pipelineState = record.pipelineState ∧
      ran.record.operationResults = record.operationResults ∧
      ran.record.operationOutcomes = record.operationOutcomes := by
  intro checkpoint ran
  have hran : ran = coordinator.journaled.saveCheckpoint record journal recoverySafe := rfl
  unfold saveCheckpoint journaled at hran
  cases hsave : coordinator.save with
  | none =>
      rw [hsave] at hran
      rw [hran]
      refine ⟨.inl rfl, ?_, rfl, rfl, rfl⟩
      rintro ⟨save, h, -⟩
      cases h
  | some save =>
      rw [hsave] at hran
      rw [hran]
      refine ⟨?_, ?_, rfl, rfl, rfl⟩
      · by_cases hsaved : (save journal.store checkpoint).2 = .saved
        · exact .inr (if_pos hsaved)
        · exact .inl (if_neg hsaved)
      · rintro ⟨save', h, hsaved⟩
        obtain rfl := Option.some.inj h
        exact if_pos hsaved

lemma checkpointed (e : RunningExecution σ) (details : Details) :
    coordinator.Checkpointed e details (coordinator.checkpoint e details) := by
  obtain ⟨raised, heq⟩ := coordinator.runtimeCheckpoint_eq e details
  unfold checkpoint
  rw [heq]
  cases raised with
  | some exception =>
      rw [Ran.andThen_of_some rfl]
      exact ⟨rfl, .inl rfl, fun _ h => (by cases h), .inr ⟨rfl, rfl⟩, rfl⟩
  | none =>
      rw [Ran.andThen_of_none rfl]
      obtain ⟨hlast, htaken, hstate, hresults, houtcomes⟩ :=
        coordinator.saveCheckpoint_spec (coordinator.noted e details) e.journal
          details.recoverySafe
      exact ⟨rfl, hlast, fun h _ => htaken h, .inl ⟨hstate, hresults, houtcomes⟩, rfl⟩

end Coordinator

inductive ExecutionMove where
  /-- A move of the runtime engine. -/
  | runtime (move : Engine.Move)
  /-- The workflow engine has done the internal tasks of a batch, and hands the rest to the
  runtime, if any is left. -/
  | dispatch (handed : Bool)
  /-- The workflow engine takes in the results of a batch, and writes a checkpoint. -/
  | collect (results : List RuntimeResult)

namespace Coordinator

variable {σ : Type} (coordinator : Coordinator σ) (context : RuntimeContext)
  (base : EngineConfig Unit) (plan : ExecutionPlan)

/-- The runtime engine of an execution: its checkpoints are the coordinator's, and its calls share
the one context. -/
def engine : EngineConfig (RunningExecution σ) where
  platform := base.platform
  textOf := base.textOf
  textOfContainer := base.textOfContainer
  retryPolicy := base.retryPolicy
  toolReliability := base.toolReliability
  registered := base.registered
  validateResult := base.validateResult
  recoveredToolSecurity := base.recoveredToolSecurity
  contexts _ := context
  checkpoint _ e boundary := coordinator.checkpoint e (Details.ofBoundary boundary)

/-- The details of the checkpoint after a batch. -/
def batchDetails : Details where
  recoverySafe := true

/-- The checkpoint after a batch, where there is a pipeline state. -/
def collect (e : RunningExecution σ) : RunningExecution σ :=
  if e.pipeline.isSome then (coordinator.checkpoint e batchDetails).1 else e

/-- A batch is over: the loop returns at a paused result, and else goes on behind a checkpoint. -/
def collected (e : RunningExecution σ) (loop : Workflow.Loop) : RunningExecution σ :=
  if loop.result.isSome then { e with loop := Workflow.reported loop }
  else coordinator.collect (e.showing loop)

def executionStep (s : Engine.State (RunningExecution σ)) :
    ExecutionMove → Option (Engine.State (RunningExecution σ))
  | .runtime move => Engine.step (coordinator.engine context base) s move
  | .dispatch handed =>
      if s.world.loop.result.isSome || s.world.loop.raised then none
      else
        let loop := Workflow.runInternal plan s.world.loop
        some { s with
          world := if handed then s.world.showing loop else { s.world with loop := loop } }
  | .collect results =>
      if s.world.loop.result.isSome || s.world.loop.raised then none
      else some { s with
        world := coordinator.collected s.world
          (Workflow.takeResults plan s.world.loop results) }

def executionMachine : Machine (Engine.State (RunningExecution σ)) ExecutionMove :=
  ⟨coordinator.executionStep context base plan⟩

/-- Whether a task is a non-idempotent mutation. -/
def IsMutation (task : RuntimeTask) : Prop :=
  Engine.sideEffectClass (coordinator.engine context base) task = .nonIdempotentMutation

instance (task : RuntimeTask) : Decidable (coordinator.IsMutation context base task) :=
  inferInstanceAs (Decidable (_ = _))

/-- No mutation whose executor was invoked is exposed in a checkpoint. -/
def Covers (c : RecoveryCheckpoint) (log : List (Engine.Dispatch (RunningExecution σ))) : Prop :=
  ∀ d ∈ log, coordinator.IsMutation context base d.task →
    ¬ c.Exposes (Engine.operationId context d.task) d.task.taskId

/-- Where the last checkpoint that was saved is safe, no mutation whose executor was invoked is
exposed in it. -/
def ReplaySafe (e : RunningExecution σ) (log : List (Engine.Dispatch (RunningExecution σ))) :
    Prop :=
  ∀ c, e.journal.last = some c → c.recoverySafe = true → coordinator.Covers context base c log

instance (c : RecoveryCheckpoint) (log : List (Engine.Dispatch (RunningExecution σ))) :
    Decidable (coordinator.Covers context base c log) :=
  inferInstanceAs (Decidable (∀ d ∈ log, _ → ¬ c.Exposes _ _))

instance (e : RunningExecution σ) (log : List (Engine.Dispatch (RunningExecution σ))) :
    Decidable (coordinator.ReplaySafe context base e log) :=
  decidable_of_iff (∀ c ∈ e.journal.last, c.recoverySafe = true →
    coordinator.Covers context base c log) Iff.rfl

/-- The state in which `execute` begins its loop for an execution. -/
def fresh (e : RunningExecution σ) : Engine.State (RunningExecution σ) where
  world := { e with
    loop := Workflow.start plan (e.pipeline.bind PipelineState.workflowState) [] }

/-- The checkpoint before an attempt. -/
def startDetails (task : RuntimeTask) (attempt : ℕ) : Details :=
  .ofBoundary (Engine.startBoundary (coordinator.engine context base) context task attempt)

/-- The last checkpoint that was saved is not safe. -/
def LastUnsafe (e : RunningExecution σ) : Prop :=
  ∀ c, e.journal.last = some c → c.recoverySafe = false

lemma operationId_ne_empty (context : RuntimeContext) (task : RuntimeTask) :
    Engine.operationId context task ≠ "" := by
  intro h
  unfold Engine.operationId at h
  have hlength := congrArg String.length h
  simp at hlength

section Start

variable {coordinator} {context} {base} {e : RunningExecution σ}
  {after : RunningExecution σ × Bool} {task : RuntimeTask}

lemma lastUnsafe_of_takes {attempt : ℕ}
    (h : LastUnsafe e ∨ coordinator.takes e (coordinator.startDetails context base task attempt))
    (hmutation : coordinator.IsMutation context base task)
    (hafter : coordinator.Checkpointed e (coordinator.startDetails context base task attempt) after)
    (hreturned : after.2 = true) : LastUnsafe after.1 := by
  have hstart : (coordinator.offered e
      (coordinator.startDetails context base task attempt)).recoverySafe = false :=
    decide_eq_false (not_not_intro hmutation)
  intro c hlast
  rcases h with hrisky | htakes
  · rcases hafter.last with hsame | hoffered
    · exact hrisky c (hsame ▸ hlast)
    · obtain rfl := Option.some.inj (hoffered.symm.trans hlast)
      exact hstart
  · obtain rfl := Option.some.inj ((hafter.taken htakes hreturned).symm.trans hlast)
    exact hstart

end Start

/-! ## A sample -/

/-- The context of an execution of one user. -/
def sampleContext : RuntimeContext := { requestId := "r", userId := some "u" }

/-- An execution that has just begun to run, with a store. -/
def sampleExecution {σ : Type} (store : σ) : RunningExecution σ where
  record := { state := { executionId := "r", status := .running } }
  journal := { store := store }
  pipeline := some { request := "send it" }

/-- A task that only reads. -/
def readTask : RuntimeTask where
  taskId := "q"
  actionType := "tool"
  metadata := [("tool", .str "mail"), ("side_effect_class", .str "read_only")]
  permit := some { Engine.samplePermit with permitId := "read", actionId := "q" }

/-- A plan of the two tasks. -/
def samplePlan : ExecutionPlan where
  planId := "plan"
  tasks := [{ taskId := "q", kind := .executeViaRuntime, executionActionType := "tool" },
    { taskId := "t", kind := .executeViaRuntime, executionActionType := "tool" }]

/-- The call of a task. -/
def startOf (task : RuntimeTask) : ExecutionMove :=
  .runtime (.start 0 task ⟨"", "", "", [], {}, []⟩)

/-- The result of a task that has completed. -/
def completedResult (task : RuntimeTask) : RuntimeResult :=
  { taskId := task.taskId, status := .completed }

end Coordinator

end Samaktha
