import Samaktha.Coordination.Approvals

/-!
# Callers racing for one execution

The machine of `Coordination.Lifecycle` with its tasks in full: a task is created, waits for its
first turn, runs and ends; `task.cancel()` reaches the task that is there and no later one; and
the callers of `cancel_execution` and `timeout_execution` that wait for the task come back on
their own.  Any number of callers of every kind may be under way.

A cancelled task that has not had its first turn never runs.  A cancelled task that runs is left
by the `CancelledError`, or by what the code that it interrupts makes of it, so no pipeline
returns to it.  A caller that waits for the task and is cancelled itself cancels the task too.

`resumed_once` says of every run that an approval is accepted at most once and resumes at most
once, and never an execution that has ended, provided that no timeout loses its save between
the acceptance and the first turn of the resume.
-/

namespace Samaktha

/-- What a task of the coordinator runs. -/
inductive TaskJob where
  /-- `_run_initial`. -/
  | initial
  /-- `_run_resume`. -/
  | resume (approvalId : String) (decision : Decision)
  deriving Repr, DecidableEq, Inhabited

/-- Where the task of a record stands. -/
inductive TaskStage where
  /-- There is none, or it is done. -/
  | none
  /-- It has not had its first turn. -/
  | created (job : TaskJob)
  /-- `_run_initial` waits for capacity. -/
  | queued
  /-- It waits for its pipeline. -/
  | running (job : TaskJob)
  deriving Repr, DecidableEq, Inhabited

namespace TaskStage

/-- What the record is like while a task stands here is what it is like during this work. -/
def work : TaskStage → Work
  | none => .none
  | created .initial | queued => .queued
  | running .initial => .initial
  | created (.resume _ decision) | running (.resume _ decision) => .resume decision

/-- The task is a resume, or has started its pipeline. -/
def live : TaskStage → Bool
  | created (.resume _ _) | running _ => true
  | _ => false

end TaskStage

/-- An execution, the world behind its store, its task, and who waits for it. -/
structure Race (κ : Type) where
  record : ActiveExecution
  world : κ
  stage : TaskStage := .none
  /-- The task has been cancelled. -/
  cancelling : Bool := false
  /-- The calls of `cancel_execution`, and those of `timeout_execution` with their error, that
  are behind their await. -/
  closers : List (Option String) := []
  /-- The approvals that were accepted. -/
  accepted : List String := []
  /-- The resumes that had their first turn, with the status of the execution there. -/
  resumed : List (String × ExecutionStatus) := []

namespace Race

/-- A stretch of the coordinator's code. -/
inductive Move where
  /-- `start_execution`, behind the registration of the record. -/
  | start
  /-- `recover_pending`. -/
  | recover
  /-- The first turn of the task. -/
  | begin
  /-- The end of a task that was cancelled before its first turn. -/
  | drop
  /-- `_run_initial` obtains capacity. -/
  | enter
  /-- What the task waits for is done. -/
  | finish (outcome : Outcome)
  /-- The pipeline calls `_runtime_checkpoint`. -/
  | checkpoint (details : Coordinator.Details)
  | submit (principalId approvalId decision : String)
  | cancel
  | timeout (error : String)
  /-- One of the callers that wait for the task comes back. -/
  | close (index : ℕ)
  /-- A caller that waits for the task is cancelled. -/
  | abandon
  deriving Inhabited

variable {κ : Type} (coordinator : Coordinator κ)

/-- The race after a stretch of code. -/
def after (s : Race κ) (ran : Ran κ) : Race κ := { s with record := ran.record, world := ran.world }

/-- The race once its task is done. -/
def idle (s : Race κ) : Race κ := { s with stage := .none, cancelling := false }

/-- The race with a new task. -/
def withTask (s : Race κ) (job : TaskJob) : Race κ :=
  { s with stage := .created job, cancelling := false }

/-- `cancel_execution` and `timeout_execution` behind their await. -/
def closing (record : ActiveExecution) (world : κ) : Option String → Ran κ
  | none => coordinator.cancelTail record world
  | some error => coordinator.closeWith record world .timedOut error

/-- `cancel_execution` and `timeout_execution` at their await. -/
def await (s : Race κ) (closer : Option String) : Race κ :=
  if s.stage = .none then s.after (closing coordinator s.record s.world closer)
  else { s with cancelling := true, closers := s.closers ++ [closer] }

/-- The code of a task behind its pipeline. -/
def finishJob (s : Race κ) (job : TaskJob) (outcome : Outcome) : Ran κ :=
  match job with
  | .initial => coordinator.finishInitial s.record s.world outcome
  | .resume _ decision => coordinator.finishResume s.record s.world decision outcome

def step (s : Race κ) : Move → Option (Race κ)
  | .start =>
      if s.stage = .none ∧ s.record.state.status = .created then
        let ran := coordinator.announce s.record s.world
        some (if ran.raised.isNone then (s.after ran).withTask .initial else s.after ran)
      else none
  | .recover =>
      if s.stage = .none ∧ s.record.state.status = .recovering then some (s.withTask .initial)
      else none
  | .begin =>
      if s.cancelling then none
      else match s.stage with
        | .created .initial => some { s with stage := .queued }
        | .created (.resume approvalId decision) =>
            some { s with
              stage := .running (.resume approvalId decision)
              resumed := s.resumed ++ [(approvalId, s.record.state.status)] }
        | _ => none
  | .drop =>
      match s.stage with
      | .created _ => if s.cancelling then some s.idle else none
      | _ => none
  | .enter =>
      if s.stage = .queued ∧ s.cancelling = false then
        if s.record.cancelEvent || s.record.state.terminal then some s.idle
        else
          let ran := coordinator.enterInitial s.record s.world
          match ran.raised with
          | none => some { s.after ran with stage := .running .initial }
          | some exception =>
              some (s.after (coordinator.andSave
                (coordinator.onException exception ran.record ran.world))).idle
      else none
  | .finish outcome =>
      match s.stage, outcome with
      | .queued, .cancelled =>
          some (s.after (coordinator.finishInitial s.record s.world .cancelled)).idle
      | .running job, .returned pipeline =>
          if s.cancelling then none
          else some (s.after (finishJob coordinator s job (.returned pipeline))).idle
      | .running job, outcome => some (s.after (finishJob coordinator s job outcome)).idle
      | _, _ => none
  | .checkpoint details =>
      match s.stage with
      | .running _ => some (s.after (coordinator.runtimeCheckpoint s.record s.world details))
      | _ => none
  | .submit principalId approvalId decision =>
      match Coordinator.checkSubmission s.record principalId approvalId decision with
      | .error _ => some s
      | .ok decision =>
          let ran := coordinator.acceptSubmission s.record s.world approvalId decision
          let s := { s.after ran with accepted := s.accepted ++ [approvalId] }
          some (if ran.raised.isNone then s.withTask (.resume approvalId decision) else s)
  | .cancel =>
      if s.record.state.terminal then some s
      else some (await coordinator { s with record := { s.record with cancelEvent := true } } none)
  | .timeout error =>
      if s.record.state.terminal then some s
      else
        let ran := coordinator.timeoutHead s.record s.world error
        some (if ran.raised.isNone then await coordinator (s.after ran) (some error)
          else s.after ran)
  | .close index =>
      match s.closers[index]? with
      | none => none
      | some closer =>
          some { s.after (closing coordinator s.record s.world closer) with
            closers := s.closers.eraseIdx index }
  | .abandon => if s.stage = .none then none else some { s with cancelling := true }

/-- The race for an execution. -/
def machine : Machine (Race κ) Move := ⟨step coordinator⟩

end Race

/-! ## What every stretch of code keeps -/

section Keeps

variable {κ : Type} (coordinator : Coordinator κ)

/-- The status and the error of an execution that has ended stay, and so do the approvals that
are resolved and the event that cancels. -/
structure Keeps (record record' : ActiveExecution) : Prop where
  resolved : record'.resolvedApprovals = record.resolvedApprovals
  event : record'.cancelEvent = record.cancelEvent
  ended : record.state.terminal = true →
    record'.state.status = record.state.status ∧ record'.state.error = record.state.error

namespace Keeps

variable {record record' : ActiveExecution}

lemma refl (record : ActiveExecution) : Keeps record record := ⟨rfl, rfl, fun _ => ⟨rfl, rfl⟩⟩

lemma trans {a b c : ActiveExecution} (h : Keeps a b) (h' : Keeps b c) : Keeps a c := by
  refine ⟨h'.resolved.trans h.resolved, h'.event.trans h.event, fun hterminal => ?_⟩
  obtain ⟨hstatus, herror⟩ := h.ended hterminal
  have hb : b.state.terminal = true := by
    rw [ExecutionState.terminal, hstatus]
    exact hterminal
  obtain ⟨hstatus', herror'⟩ := h'.ended hb
  exact ⟨hstatus'.trans hstatus, herror'.trans herror⟩

lemma terminal (h : Keeps record record') (hterminal : record.state.terminal = true) :
    record'.state.terminal = true := by
  rw [ExecutionState.terminal, (h.ended hterminal).1]
  exact hterminal

lemma andThen {ran : Ran κ} {next : ActiveExecution → κ → Ran κ} (h : Keeps record ran.record)
    (hnext : ∀ r world, Keeps r (next r world).record) : Keeps record (ran.andThen next).record :=
  Ran.andThen_record (P := Keeps record) h fun r world hr => hr.trans (hnext r world)

lemma handle {ran : Ran κ} {handler : String → ActiveExecution → κ → Ran κ}
    (h : Keeps record ran.record) (hhandler : ∀ exception r world,
      Keeps r (handler exception r world).record) : Keeps record (ran.handle handler).record := by
  cases hraised : ran.raised with
  | none => rw [Ran.handle_of_none hraised]; exact h
  | some exception => rw [Ran.handle_of_some hraised]; exact h.trans (hhandler exception _ _)

end Keeps

lemma keeps_saveCheckpoint (record : ActiveExecution) (world : κ) (recoverySafe : Bool) :
    Keeps record (coordinator.saveCheckpoint record world recoverySafe).record := by
  unfold Coordinator.saveCheckpoint
  split <;> exact ⟨rfl, rfl, fun _ => ⟨rfl, rfl⟩⟩

lemma keeps_transition (record : ActiveExecution) (world : κ) (status : ExecutionStatus)
    (error : Option String) :
    Keeps record (coordinator.transition record world status error).record := by
  unfold Coordinator.transition
  split
  · exact Keeps.refl record
  · rename_i state hstate
    rw [Coordinator.recorded_record]
    refine Keeps.trans ?_ (keeps_saveCheckpoint coordinator _ _ _)
    refine ⟨rfl, rfl, fun hterminal => ?_⟩
    rcases ExecutionState.transition_eq_ok hstate with ⟨-, rfl⟩ | ⟨hmem, -⟩
    · exact ⟨rfl, rfl⟩
    · rw [ExecutionStatus.publicTransitions_of_terminal hterminal] at hmem
      exact absurd hmem List.not_mem_nil

lemma keeps_closing (record : ActiveExecution) (world : κ) (status : ExecutionStatus)
    (error : Option String) :
    Keeps record (if record.state.terminal then ({ record := record, world := world } : Ran κ)
      else coordinator.transition record world status error).record := by
  split
  · exact Keeps.refl record
  · exact keeps_transition coordinator record world status error

lemma keeps_setTerminalResult (record : ActiveExecution) (status : ExecutionStatus)
    (error : String) (preserve : Bool) :
    Keeps record (Coordinator.setTerminalResult record status error preserve) :=
  ⟨rfl, rfl, fun _ => ⟨rfl, rfl⟩⟩

lemma keeps_captureResults (record : ActiveExecution) (results : List RuntimeResult) :
    Keeps record (coordinator.captureResults record results).1 := by
  induction results generalizing record with
  | nil => exact Keeps.refl record
  | cons result rest ih =>
      have hnoted : Keeps record (coordinator.noteOutcome record result) := by
        unfold Coordinator.noteOutcome
        dsimp only
        split <;> exact ⟨rfl, rfl, fun _ => ⟨rfl, rfl⟩⟩
      rw [Coordinator.captureResults]
      split
      · exact hnoted.trans (ih _)
      · exact hnoted.trans (ih _)
      · split
        · exact hnoted
        · refine (hnoted.trans ?_).trans (ih _)
          exact ⟨rfl, rfl, fun _ => ⟨rfl, rfl⟩⟩

lemma keeps_captureWorkflowReliability (record : ActiveExecution) (world : κ)
    (pipeline : PipelineState) :
    Keeps record (coordinator.captureWorkflowReliability record world pipeline).record := by
  unfold Coordinator.captureWorkflowReliability
  split
  · exact Keeps.refl record
  · refine Keeps.trans ?_ (keeps_captureResults coordinator _ _)
    exact ⟨rfl, rfl, fun _ => ⟨rfl, rfl⟩⟩

lemma keeps_noteDetails (record : ActiveExecution) (details : Coordinator.Details) :
    Keeps record (Coordinator.noteDetails record details) := by
  unfold Coordinator.noteDetails
  dsimp only
  constructor
  · split <;> split <;> split <;> rfl
  · split <;> split <;> split <;> rfl
  · intro _
    constructor <;> (split <;> split <;> split <;> rfl)

lemma keeps_runtimeCheckpoint (record : ActiveExecution) (world : κ)
    (details : Coordinator.Details) :
    Keeps record (coordinator.runtimeCheckpoint record world details).record := by
  unfold Coordinator.runtimeCheckpoint
  refine Keeps.andThen ?_ fun r world =>
    (keeps_noteDetails r details).trans (keeps_saveCheckpoint coordinator _ world _)
  split
  · exact Keeps.refl record
  · refine Keeps.trans ?_ (keeps_captureWorkflowReliability coordinator _ world _)
    exact ⟨rfl, rfl, fun _ => ⟨rfl, rfl⟩⟩

lemma keeps_settleResult (record : ActiveExecution) (world : κ) (result : Option RuntimeResult) :
    Keeps record (coordinator.settleResult record world result).record := by
  have hcleared : Keeps record { record with state := { record.state with
      pendingApprovalId := none, pendingTaskId := none, resultAvailable := result.isSome } } :=
    ⟨rfl, rfl, fun _ => ⟨rfl, rfl⟩⟩
  unfold Coordinator.settleResult
  refine Keeps.andThen (hcleared.trans ?_) fun r world => keeps_saveCheckpoint coordinator r world _
  cases result with
  | none => exact keeps_transition coordinator _ _ _ _
  | some result =>
      dsimp only
      split
      · exact keeps_transition coordinator _ _ _ _
      · split <;> exact keeps_transition coordinator _ _ _ _

lemma keeps_settlePipeline (record : ActiveExecution) (world : κ) (pipeline : PipelineState) :
    Keeps record (coordinator.settlePipeline record world pipeline).record := by
  unfold Coordinator.settlePipeline
  refine (keeps_captureWorkflowReliability coordinator record world pipeline).andThen ?_
  intro r world
  split
  · split
    · rw [Coordinator.recorded_record]
      refine Keeps.trans ?_ ((keeps_transition coordinator _ world _ _).andThen fun r world =>
        keeps_saveCheckpoint coordinator r world _)
      exact ⟨rfl, rfl, fun _ => ⟨rfl, rfl⟩⟩
    · exact keeps_settleResult coordinator r world _
  · exact keeps_settleResult coordinator r world _

lemma keeps_andSave {record : ActiveExecution} {ran : Ran κ} (h : Keeps record ran.record) :
    Keeps record (coordinator.andSave ran).record :=
  h.andThen fun r world => keeps_saveCheckpoint coordinator r world _

lemma keeps_onCancelled (record : ActiveExecution) (world : κ) :
    Keeps record (coordinator.onCancelled record world).record :=
  (keeps_closing coordinator record world _ _).andThen fun r _ =>
    keeps_setTerminalResult r _ _ _

lemma keeps_onTimeout (text : String) (record : ActiveExecution) (world : κ) :
    Keeps record (coordinator.onTimeout text record world).record :=
  (keeps_closing coordinator record world _ _).andThen fun r _ =>
    keeps_setTerminalResult r _ _ _

lemma keeps_onException (exception : String) (record : ActiveExecution) (world : κ) :
    Keeps record (coordinator.onException exception record world).record := by
  have hnoted : Keeps record { record with failureException := some exception } :=
    ⟨rfl, rfl, fun _ => ⟨rfl, rfl⟩⟩
  exact hnoted.trans ((keeps_closing coordinator _ world _ _).andThen fun r _ =>
    keeps_setTerminalResult r _ _ _)

lemma keeps_enterInitial (record : ActiveExecution) (world : κ) :
    Keeps record (coordinator.enterInitial record world).record := by
  unfold Coordinator.enterInitial
  split
  · exact keeps_transition coordinator _ _ _ _
  · exact Keeps.refl record

lemma keeps_finishInitial (record : ActiveExecution) (world : κ) (outcome : Outcome) :
    Keeps record (coordinator.finishInitial record world outcome).record := by
  cases outcome with
  | returned pipeline =>
      refine Keeps.handle (Keeps.trans ?_ (keeps_settlePipeline coordinator _ world pipeline))
        fun exception r world => keeps_andSave coordinator (keeps_onException coordinator _ r world)
      exact ⟨rfl, rfl, fun _ => ⟨rfl, rfl⟩⟩
  | raised exception =>
      exact keeps_andSave coordinator (keeps_onException coordinator _ record world)
  | cancelled => exact keeps_andSave coordinator (keeps_onCancelled coordinator record world)
  | timedOut text => exact keeps_andSave coordinator (keeps_onTimeout coordinator _ record world)

lemma keeps_finishResume (record : ActiveExecution) (world : κ) (decision : Decision)
    (outcome : Outcome) :
    Keeps record (coordinator.finishResume record world decision outcome).record := by
  cases outcome with
  | returned pipeline =>
      refine Keeps.handle ?_ fun exception r world => keeps_onException coordinator _ r world
      cases decision with
      | allow =>
          refine Keeps.trans ?_ (keeps_settlePipeline coordinator _ world pipeline)
          exact ⟨rfl, rfl, fun _ => ⟨rfl, rfl⟩⟩
      | deny =>
          dsimp only [Coordinator.denied]
          rw [Coordinator.recorded_record]
          refine Keeps.trans ?_ (keeps_transition coordinator _ world _ _)
          exact ⟨rfl, rfl, fun _ => ⟨rfl, rfl⟩⟩
  | raised exception | timedOut exception => exact keeps_onException coordinator _ record world
  | cancelled => exact keeps_onCancelled coordinator record world

lemma keeps_finishJob (s : Race κ) (job : TaskJob) (outcome : Outcome) :
    Keeps s.record (s.finishJob coordinator job outcome).record := by
  cases job with
  | initial => exact keeps_finishInitial coordinator s.record s.world outcome
  | resume approvalId decision =>
      exact keeps_finishResume coordinator s.record s.world decision outcome

lemma keeps_closeWith (record : ActiveExecution) (world : κ) (status : ExecutionStatus)
    (error : String) : Keeps record (coordinator.closeWith record world status error).record := by
  rw [Coordinator.closeWith, Coordinator.recorded_record]
  refine Keeps.trans ?_ (keeps_saveCheckpoint coordinator _ world _)
  exact ⟨rfl, rfl, fun _ => ⟨rfl, rfl⟩⟩

lemma keeps_cancelTail (record : ActiveExecution) (world : κ) :
    Keeps record (coordinator.cancelTail record world).record :=
  (keeps_closing coordinator record world _ _).andThen fun r world =>
    keeps_closeWith coordinator r world _ _

lemma keeps_raceClosing (record : ActiveExecution) (world : κ) (closer : Option String) :
    Keeps record (Race.closing coordinator record world closer).record := by
  cases closer with
  | none => exact keeps_cancelTail coordinator record world
  | some error => exact keeps_closeWith coordinator record world _ error

end Keeps

/-! ## No stretch but the end of a pipeline opens an approval -/

section NotOpen

variable {κ : Type} (coordinator : Coordinator κ) {record : ActiveExecution}

lemma not_open_of_terminal (h : record.state.terminal = true) : ¬ Open record := by
  rintro ⟨hawaiting, -⟩
  rw [ExecutionState.terminal, hawaiting] at h
  cases h

lemma not_open_of_fits {work : Work} (hwork : work ≠ .none) (h : Fits record work) :
    ¬ Open record := by
  have hrow : ∀ status : ExecutionStatus, status ≠ .awaitingApproval →
      record.state.status = status → ¬ Open record := by
    rintro status hne hstatus ⟨hawaiting, -⟩
    exact hne (hstatus.symm.trans hawaiting)
  match work, h with
  | .none, _ => exact absurd rfl hwork
  | .queued, h =>
      rcases h with h | h | h
      · exact not_open_of_terminal h
      · exact hrow .planning (by decide) h
      · exact hrow .recovering (by decide) h
  | .initial, h | .resume .allow, h =>
      rcases h with h | h
      · exact not_open_of_terminal h
      · exact hrow .running (by decide) h
  | .resume .deny, h =>
      rcases h with h | h
      · exact not_open_of_terminal h
      · exact h.2

lemma not_open_closing (h : ¬ Open record) (world : κ) {status : ExecutionStatus}
    (hterminal : status.terminal = true) (error : Option String)
    {next : ActiveExecution → κ → Ran κ}
    (hnext : ∀ r world, ¬ Open r → ¬ Open (next r world).record) :
    ¬ Open (Ran.andThen (if record.state.terminal then { record := record, world := world }
      else coordinator.transition record world status error) next).record := by
  refine Ran.andThen_record (P := fun r => ¬ Open r) ?_ hnext
  split
  · exact h
  · rcases ended_transition coordinator record world hterminal error with hended | ⟨hran, -, -⟩
    · exact not_open_of_terminal hended
    · rw [hran]
      exact h

lemma not_open_closeWith (record : ActiveExecution) (world : κ) (status : ExecutionStatus)
    (error : String) : ¬ Open (coordinator.closeWith record world status error).record := by
  rintro ⟨-, id, hid, -⟩
  rw [Coordinator.closeWith, Coordinator.recorded_record, Coordinator.saveCheckpoint_state] at hid
  cases hid

/-- Where the execution has not ended and the table refuses the cancellation, it does not await an
approval. -/
lemma not_open_raceClosing (record : ActiveExecution) (world : κ) (closer : Option String) :
    ¬ Open (Race.closing coordinator record world closer).record := by
  cases closer with
  | some error => exact not_open_closeWith coordinator record world _ error
  | none =>
      refine Ran.andThen_record (P := fun r => ¬ Open r) ?_ fun r world _ =>
        not_open_closeWith coordinator r world _ _
      split
      · exact not_open_of_terminal ‹_›
      · have hcancelled : ExecutionStatus.cancelled.terminal = true := rfl
        rcases ended_transition coordinator record world hcancelled none with
          hended | ⟨hran, -, hnot⟩
        · exact not_open_of_terminal hended
        · rintro ⟨hawaiting, -⟩
          rw [hran] at hawaiting
          refine hnot ?_
          rw [hawaiting]
          decide

lemma not_open_andSave {ran : Ran κ} (h : ¬ Open ran.record) :
    ¬ Open (coordinator.andSave ran).record :=
  Ran.andThen_record (P := fun r => ¬ Open r) h fun r world hr =>
    (sameApprovals_saveCheckpoint coordinator r world false).open_iff.not.mpr hr

lemma not_open_setTerminalResult (h : ¬ Open record) (status : ExecutionStatus) (error : String) :
    ¬ Open (Coordinator.setTerminalResult record status error) :=
  (sameApprovals_setTerminalResult record status error false).open_iff.not.mpr h

lemma not_open_onCancelled (h : ¬ Open record) (world : κ) :
    ¬ Open (coordinator.onCancelled record world).record :=
  not_open_closing coordinator h world rfl _ fun _ _ hr => not_open_setTerminalResult hr _ _

lemma not_open_onTimeout (h : ¬ Open record) (text : String) (world : κ) :
    ¬ Open (coordinator.onTimeout text record world).record :=
  not_open_closing coordinator h world rfl _ fun _ _ hr => not_open_setTerminalResult hr _ _

lemma not_open_onException (h : ¬ Open record) (exception : String) (world : κ) :
    ¬ Open (coordinator.onException exception record world).record := by
  have hnoted : ¬ Open { record with failureException := some exception } := h
  exact not_open_closing coordinator hnoted world rfl _ fun _ _ hr =>
    not_open_setTerminalResult hr _ _

lemma not_open_finishJob {s : Race κ} (h : ¬ Open s.record) (job : TaskJob) {outcome : Outcome}
    (houtcome : ∀ pipeline, outcome ≠ .returned pipeline) :
    ¬ Open (s.finishJob coordinator job outcome).record := by
  cases outcome with
  | returned pipeline => exact absurd rfl (houtcome pipeline)
  | raised exception =>
      cases job with
      | initial => exact not_open_andSave coordinator (not_open_onException coordinator h _ _)
      | resume approvalId decision => exact not_open_onException coordinator h _ _
  | cancelled =>
      cases job with
      | initial => exact not_open_andSave coordinator (not_open_onCancelled coordinator h _)
      | resume approvalId decision => exact not_open_onCancelled coordinator h _
  | timedOut text =>
      cases job with
      | initial => exact not_open_andSave coordinator (not_open_onTimeout coordinator h _ _)
      | resume approvalId decision => exact not_open_onException coordinator h _ _

end NotOpen

/-! ## The invariant -/

namespace Race

variable {κ : Type} (coordinator : Coordinator κ)

/-- What holds of a race in every run. -/
structure Inv (s : Race κ) : Prop where
  /-- Whoever waits for the task has set the event first. -/
  called : s.closers ≠ [] → s.record.cancelEvent = true
  /-- Once the event is set no approval is open. -/
  shut : s.record.cancelEvent = true → ¬ Open s.record
  /-- Once the event is set a resume and a pipeline are on their way out. -/
  yields : s.stage.live = true → s.record.cancelEvent = true →
    s.record.state.terminal = true ∨ s.cancelling = true
  fits : s.stage ≠ .none → Fits s.record s.stage.work
  resolved : ∀ id ∈ s.accepted, id ∈ s.record.resolvedApprovals
  once : s.accepted.Nodup
  turns : (s.resumed.map Prod.fst).Nodup
  granted : ∀ id ∈ s.resumed.map Prod.fst, id ∈ s.accepted
  waiting : ∀ id decision, s.stage = .created (.resume id decision) →
    id ∈ s.accepted ∧ id ∉ s.resumed.map Prod.fst

lemma not_open_of_stage {record : ActiveExecution} {stage : TaskStage} (hstage : stage ≠ .none)
    (h : Fits record stage.work) : ¬ Open record := by
  refine not_open_of_fits ?_ h
  cases stage with
  | none => exact absurd rfl hstage
  | queued => exact fun h => by cases h
  | created job | running job => cases job <;> exact fun h => by cases h

lemma Inv.not_open {s : Race κ} (h : Inv s) (hstage : s.stage ≠ .none) : ¬ Open s.record :=
  not_open_of_stage hstage (h.fits hstage)

lemma Inv.after {s : Race κ} (h : Inv s) {ran : Ran κ} (hkeeps : Keeps s.record ran.record)
    (hopen : ¬ Open s.record → ¬ Open ran.record)
    (hfits : s.stage ≠ .none → Fits ran.record s.stage.work) : Inv (s.after ran) where
  called hclosers := by
    refine Eq.trans ?_ (h.called hclosers)
    exact hkeeps.event
  shut hevent := hopen (h.shut (hkeeps.event.symm.trans hevent))
  yields hlive hevent := by
    refine (h.yields hlive (hkeeps.event.symm.trans hevent)).imp_left fun hterminal => ?_
    exact hkeeps.terminal hterminal
  fits := hfits
  resolved id hid := by
    refine Eq.mpr (congrArg (id ∈ ·) ?_) (h.resolved id hid)
    exact hkeeps.resolved
  once := h.once
  turns := h.turns
  granted := h.granted
  waiting := h.waiting

lemma Inv.idle {s : Race κ} (h : Inv s) {ran : Ran κ} (hkeeps : Keeps s.record ran.record)
    (hopen : s.record.cancelEvent = true → ¬ Open ran.record) : Inv (s.after ran).idle where
  called hclosers := by
    refine Eq.trans ?_ (h.called hclosers)
    exact hkeeps.event
  shut hevent := hopen (hkeeps.event.symm.trans hevent)
  yields hlive := nomatch hlive
  fits hstage := (hstage rfl).elim
  resolved id hid := by
    refine Eq.mpr (congrArg (id ∈ ·) ?_) (h.resolved id hid)
    exact hkeeps.resolved
  once := h.once
  turns := h.turns
  granted := h.granted
  waiting _ _ hstage := nomatch hstage

lemma Inv.halt {s : Race κ} (h : Inv s) (hstage : s.stage ≠ .none) : Inv s.idle := by
  have hkeeps : Keeps s.record (Ran.record { record := s.record, world := s.world }) :=
    Keeps.refl s.record
  exact h.idle hkeeps fun _ => h.not_open hstage

lemma keeps_announce (record : ActiveExecution) (world : κ) :
    Keeps record (coordinator.announce record world).record := by
  refine Keeps.andThen ?_ fun r world => keeps_transition coordinator r world _ _
  rw [Coordinator.recorded_record]
  exact keeps_saveCheckpoint coordinator record world true

lemma status_announce {record : ActiveExecution} (hcreated : record.state.status = .created)
    (world : κ) :
    ((coordinator.announce record world).raised ≠ none ∧
      (coordinator.announce record world).record.state.status = .created) ∨
    ((coordinator.recorded (coordinator.saveCheckpoint record world true)
        .executionCreated).raised = none ∧
      (coordinator.announce record world).record.state.status = .planning) := by
  have hstatus : (coordinator.recorded (coordinator.saveCheckpoint record world true)
      .executionCreated).record.state.status = .created := by
    rw [Coordinator.recorded_record, Coordinator.saveCheckpoint_state]
    exact hcreated
  unfold Coordinator.announce
  cases hraised : (coordinator.recorded (coordinator.saveCheckpoint record world true)
      .executionCreated).raised with
  | none =>
      rw [Ran.andThen_of_none hraised]
      exact .inr ⟨rfl, status_transition coordinator hstatus (by decide) (by decide) _ _⟩
  | some exception =>
      rw [Ran.andThen_of_some hraised, hraised]
      exact .inl ⟨by simp, hstatus⟩

lemma inv_start {s t : Race κ} (h : Inv s) (hstep : s.step coordinator .start = some t) :
    Inv t := by
  simp only [step] at hstep
  split at hstep
  · rename_i hcreated
    obtain rfl := Option.some.inj hstep
    have hkeeps := keeps_announce coordinator s.record s.world
    have hopen : ¬ Open (coordinator.announce s.record s.world).record := by
      rintro ⟨hawaiting, -⟩
      rcases status_announce coordinator hcreated.2 s.world with hsame | ⟨-, hplanning⟩
      · rw [hsame.2] at hawaiting
        cases hawaiting
      · rw [hplanning] at hawaiting
        cases hawaiting
    have hafter := h.after hkeeps (fun _ => hopen) fun hstage => absurd hcreated.1 hstage
    split
    · rename_i hraised
      refine { hafter with
        fits := fun _ => .inr (.inl ?_)
        yields := fun h => by cases h
        waiting := fun _ _ h => by cases h }
      rcases status_announce coordinator hcreated.2 s.world with ⟨hlost, -⟩ | ⟨-, hplanning⟩
      · rw [Option.isNone_iff_eq_none.mp hraised] at hlost
        exact absurd rfl hlost
      · exact hplanning
    · exact hafter
  · cases hstep

lemma inv_enter {s t : Race κ} (h : Inv s) (hstep : s.step coordinator .enter = some t) :
    Inv t := by
  simp only [step] at hstep
  split at hstep
  · rename_i hqueued
    have hfits := h.fits (by simp [hqueued.1])
    rw [hqueued.1] at hfits
    split at hstep
    · obtain rfl := Option.some.inj hstep
      exact h.halt (by simp [hqueued.1])
    · rename_i hclear
      rw [Bool.or_eq_true, not_or] at hclear
      have hstatus : s.record.state.status = .planning ∨ s.record.state.status = .recovering :=
        hfits.resolve_left hclear.2
      have hrunning := status_enterInitial coordinator hstatus s.world
      have hkeeps := keeps_enterInitial coordinator s.record s.world
      split at hstep
      · obtain rfl := Option.some.inj hstep
        have hunset : (coordinator.enterInitial s.record s.world).record.cancelEvent ≠ true := by
          rw [hkeeps.event]
          exact hclear.1
        refine { h with
          called := fun hclosers => absurd (h.called hclosers) hclear.1
          shut := fun hevent => absurd hevent hunset
          yields := fun _ hevent => absurd hevent hunset
          fits := fun _ => .inr hrunning
          resolved := fun id hid => ?_
          waiting := fun _ _ h => by cases h }
        show id ∈ (coordinator.enterInitial s.record s.world).record.resolvedApprovals
        rw [hkeeps.resolved]
        exact h.resolved id hid
      · obtain rfl := Option.some.inj hstep
        refine h.idle (hkeeps.trans (keeps_andSave coordinator
          (keeps_onException coordinator _ _ _))) fun hevent => absurd hevent hclear.1
  · cases hstep

lemma inv_begin {s t : Race κ} (h : Inv s) (hstep : s.step coordinator .begin = some t) :
    Inv t := by
  simp only [step] at hstep
  split at hstep
  · cases hstep
  · split at hstep
    · rename_i hstage
      obtain rfl := Option.some.inj hstep
      refine { h with
        yields := fun h => by cases h
        fits := fun _ => ?_
        waiting := fun _ _ h => by cases h }
      have hfits := h.fits (by simp [hstage])
      rw [hstage] at hfits
      exact hfits
    · rename_i approvalId decision hstage
      obtain rfl := Option.some.inj hstep
      obtain ⟨haccepted, hfresh⟩ := h.waiting approvalId decision hstage
      have hfits := h.fits (by simp [hstage])
      rw [hstage] at hfits
      refine { h with
        yields := fun _ hevent => h.yields (by rw [hstage]; rfl) hevent
        fits := fun _ => hfits
        turns := ?_
        granted := ?_
        waiting := fun _ _ h => by cases h }
      · rw [List.map_append]
        refine h.turns.append (List.nodup_singleton _) ?_
        intro id hid hnew
        rw [List.mem_singleton.mp hnew] at hid
        exact hfresh hid
      · intro id hid
        rw [List.map_append] at hid
        rcases List.mem_append.mp hid with hold | hnew
        · exact h.granted id hold
        · rw [List.mem_singleton.mp hnew]
          exact haccepted
    · cases hstep

lemma finish_cases {s t : Race κ} {outcome : Outcome}
    (hstep : s.step coordinator (.finish outcome) = some t) :
    (s.stage = .queued ∧ outcome = .cancelled ∧
      t = (s.after (coordinator.finishInitial s.record s.world .cancelled)).idle) ∨
    ∃ job, s.stage = .running job ∧
      (∀ pipeline, outcome = .returned pipeline → s.cancelling = false) ∧
      t = (s.after (finishJob coordinator s job outcome)).idle := by
  cases hstage : s.stage with
  | none | created job => simp only [step, hstage] at hstep; cases hstep
  | queued =>
      cases outcome with
      | cancelled =>
          simp only [step, hstage, Option.some.injEq] at hstep
          exact .inl ⟨rfl, rfl, hstep.symm⟩
      | returned | raised | timedOut => simp only [step, hstage] at hstep; cases hstep
  | running job =>
      refine .inr ⟨job, rfl, ?_⟩
      cases outcome with
      | returned pipeline =>
          simp only [step, hstage] at hstep
          split at hstep
          · cases hstep
          · rename_i hcancelling
            exact ⟨fun _ _ => Bool.eq_false_iff.mpr hcancelling, (Option.some.inj hstep).symm⟩
      | raised | cancelled | timedOut =>
          simp only [step, hstage, Option.some.injEq] at hstep
          exact ⟨fun _ hreturned => (by cases hreturned), hstep.symm⟩

/-- The end of a pipeline keeps the invariant: once the event is set, the execution has ended or
the pipeline has not returned. -/
lemma inv_finish {s t : Race κ} {outcome : Outcome} (h : Inv s)
    (hstep : s.step coordinator (.finish outcome) = some t) : Inv t := by
  obtain ⟨hstage, rfl, rfl⟩ | ⟨job, hstage, hreturned, rfl⟩ := finish_cases coordinator hstep
  · have hopen := h.not_open (by simp [hstage])
    exact h.idle (keeps_finishInitial coordinator _ _ _) fun _ =>
      not_open_andSave coordinator (not_open_onCancelled coordinator hopen _)
  · have hkeeps := keeps_finishJob coordinator s job outcome
    refine h.idle hkeeps fun hevent => ?_
    rcases h.yields (by rw [hstage]; rfl) hevent with hterminal | hcancelling
    · exact not_open_of_terminal (hkeeps.terminal hterminal)
    · refine not_open_finishJob coordinator (h.not_open (by simp [hstage])) job ?_
      intro pipeline hpipeline
      rw [hreturned pipeline hpipeline] at hcancelling
      cases hcancelling

lemma inv_await {s : Race κ} (h : Inv s) {record : ActiveExecution} {world : κ}
    {closer : Option String} (hresolved : record.resolvedApprovals = s.record.resolvedApprovals)
    (hevent : record.cancelEvent = true) (hfits : s.stage ≠ .none → Fits record s.stage.work) :
    Inv (await coordinator { s with record := record, world := world } closer) := by
  have hkept : ∀ id ∈ s.accepted, id ∈ record.resolvedApprovals := by
    intro id hid
    rw [hresolved]
    exact h.resolved id hid
  unfold await
  split
  · rename_i hidle
    have hidle : s.stage = .none := hidle
    have hkeeps := keeps_raceClosing coordinator record world closer
    exact {
      called := fun _ => hkeeps.event.trans hevent
      shut := fun _ => not_open_raceClosing coordinator record world closer
      yields := fun hlive => by
        have hlive : s.stage.live = true := hlive
        rw [hidle] at hlive
        cases hlive
      fits := fun hstage => absurd hidle hstage
      resolved := fun id hid => by
        show id ∈ (closing coordinator record world closer).record.resolvedApprovals
        rw [hkeeps.resolved]
        exact hkept id hid
      once := h.once
      turns := h.turns
      granted := h.granted
      waiting := h.waiting }
  · rename_i hstage
    exact {
      called := fun _ => hevent
      shut := fun _ => not_open_of_stage hstage (hfits hstage)
      yields := fun _ _ => .inr rfl
      fits := hfits
      resolved := hkept
      once := h.once
      turns := h.turns
      granted := h.granted
      waiting := h.waiting }

lemma inv_cancel {s t : Race κ} (h : Inv s) (hstep : s.step coordinator .cancel = some t) :
    Inv t := by
  simp only [step] at hstep
  split at hstep
  · obtain rfl := Option.some.inj hstep
    exact h
  · rename_i hterminal
    obtain rfl := Option.some.inj hstep
    have hsame : SameApprovals s.record { s.record with cancelEvent := true } := ⟨rfl, rfl, rfl⟩
    exact inv_await coordinator h rfl rfl fun hstage =>
      (hsame.fits_iff _).mpr (h.fits hstage)

/-- A timeout whose save is not lost ends the execution and sets the event. -/
lemma timeoutHead_spec {s : Race κ} {error : String}
    (hraised : (coordinator.timeoutHead s.record s.world error).raised = none) :
    (coordinator.timeoutHead s.record s.world error).record =
      { (coordinator.transition s.record s.world .timedOut (some error)).record with
        cancelEvent := true } ∧
    (coordinator.transition s.record s.world .timedOut (some error)).record.state.status =
      .timedOut := by
  have hmoved : (coordinator.transition s.record s.world .timedOut (some error)).raised = none := by
    cases hsome : (coordinator.transition s.record s.world .timedOut (some error)).raised with
    | none => rfl
    | some exception =>
        rw [Coordinator.timeoutHead, Ran.andThen_of_some hsome, hsome] at hraised
        cases hraised
  refine ⟨by rw [Coordinator.timeoutHead, Ran.andThen_of_none hmoved], ?_⟩
  cases transited coordinator s.record s.world .timedOut (some error) with
  | kept hsame happrovals => exact happrovals.status.trans hsame.symm
  | moved hmem hstatus hpending hresolved => exact hstatus
  | refused hmem hne hran hsome =>
      rw [hmoved] at hsome
      cases hsome

lemma inv_timeout {s t : Race κ} {error : String} (h : Inv s)
    (hstep : s.step coordinator (.timeout error) = some t) : Inv t := by
  simp only [step] at hstep
  split at hstep
  · obtain rfl := Option.some.inj hstep
    exact h
  · obtain rfl := Option.some.inj hstep
    have hkeeps := keeps_transition coordinator s.record s.world .timedOut (some error)
    split
    · rename_i hraised
      obtain ⟨hrecord, htimedOut⟩ :=
        timeoutHead_spec coordinator (Option.isNone_iff_eq_none.mp hraised)
      have hterminal : (coordinator.timeoutHead s.record s.world error).record.state.terminal =
          true := by
        rw [hrecord, ExecutionState.terminal, htimedOut]
        rfl
      refine inv_await coordinator h ?_ ?_ fun _ => fits_of_terminal hterminal _
      · rw [hrecord]
        exact hkeeps.resolved
      · rw [hrecord]
    · rename_i hraised
      -- the transition was refused, or its save is lost
      have hsome : ∃ exception, (coordinator.transition s.record s.world .timedOut
          (some error)).raised = some exception := by
        cases hnone : (coordinator.transition s.record s.world .timedOut (some error)).raised with
        | none =>
            rw [Coordinator.timeoutHead, Ran.andThen_of_none hnone] at hraised
            exact absurd rfl hraised
        | some exception => exact ⟨exception, rfl⟩
      obtain ⟨exception, hexception⟩ := hsome
      rw [Coordinator.timeoutHead, Ran.andThen_of_some hexception]
      have htimedOut : ExecutionStatus.timedOut.terminal = true := rfl
      rcases ended_transition coordinator s.record s.world htimedOut (some error) with
        hended | ⟨hran, -, -⟩
      · exact h.after hkeeps (fun _ => not_open_of_terminal hended)
          fun _ => fits_of_terminal hended _
      · refine h.after hkeeps ?_ fun hstage => ?_
        · rw [hran]
          exact id
        · rw [hran]
          exact h.fits hstage

lemma status_closeWith (record : ActiveExecution) (world : κ) (status : ExecutionStatus)
    (error : String) :
    (coordinator.closeWith record world status error).record.state.status =
      record.state.status := by
  rw [Coordinator.closeWith, Coordinator.recorded_record, Coordinator.saveCheckpoint_state]
  rfl

lemma fits_closeWith {record : ActiveExecution} {stage : TaskStage} (hstage : stage ≠ .none)
    (h : Fits record stage.work) (world : κ) (status : ExecutionStatus) (error : String) :
    Fits (coordinator.closeWith record world status error).record stage.work := by
  have hstatus := status_closeWith coordinator record world status error
  have hterminal : (coordinator.closeWith record world status error).record.state.terminal =
      record.state.terminal := congrArg ExecutionStatus.terminal hstatus
  have hwedged : Wedged record → Wedged (coordinator.closeWith record world status error).record :=
    fun hw => ⟨hstatus.trans hw.1, not_open_closeWith coordinator record world status error⟩
  cases stage with
  | none => exact absurd rfl hstage
  | queued => exact h.imp hterminal.trans (Or.imp hstatus.trans hstatus.trans)
  | created job | running job =>
      rcases job with _ | ⟨id, _ | _⟩
      · first
          | exact h.imp hterminal.trans (Or.imp hstatus.trans hstatus.trans)
          | exact h.imp hterminal.trans hstatus.trans
      · exact h.imp hterminal.trans hstatus.trans
      · exact h.imp hterminal.trans hwedged

lemma fits_closing {record : ActiveExecution} {stage : TaskStage} (hstage : stage ≠ .none)
    (h : Fits record stage.work) (world : κ) (closer : Option String) :
    Fits (closing coordinator record world closer).record stage.work := by
  cases closer with
  | some error => exact fits_closeWith coordinator hstage h world _ error
  | none =>
      simp only [closing, Coordinator.cancelTail]
      split
      · exact fits_closeWith coordinator hstage h world _ _
      · exact fits_ending coordinator h world rfl none fun r world hr =>
          terminal_closeWith coordinator hr world _ _

lemma inv_close {s t : Race κ} {index : ℕ} (h : Inv s)
    (hstep : s.step coordinator (.close index) = some t) : Inv t := by
  simp only [step] at hstep
  split at hstep
  · cases hstep
  · rename_i closer hcloser
    obtain rfl := Option.some.inj hstep
    have hafter := h.after (keeps_raceClosing coordinator s.record s.world closer)
      (fun _ => not_open_raceClosing coordinator _ _ _)
      fun hstage => fits_closing coordinator hstage (h.fits hstage) _ _
    refine { hafter with called := fun hclosers => hafter.called ?_ }
    intro hnil
    have hnil : s.closers = [] := hnil
    rw [hnil] at hcloser
    cases hcloser

/-! ### Submissions -/

lemma keeps_acceptSubmission (record : ActiveExecution) (world : κ) (approvalId : String)
    (decision : Decision) :
    Keeps { record with resolvedApprovals := record.resolvedApprovals.insert approvalId }
      (coordinator.acceptSubmission record world approvalId decision).record := by
  have hresolved :
      Keeps { record with resolvedApprovals := record.resolvedApprovals.insert approvalId }
        (coordinator.resolveApproval record world approvalId decision).record := by
    rw [Coordinator.resolveApproval, Coordinator.recorded_record]
    exact keeps_saveCheckpoint coordinator _ world _
  refine hresolved.andThen fun r world => ?_
  cases decision with
  | deny => exact Keeps.refl r
  | allow =>
      exact (keeps_transition coordinator r world _ _).andThen fun r world =>
        keeps_transition coordinator r world _ _

lemma status_acceptSubmission {record : ActiveExecution}
    (hawaiting : record.state.status = .awaitingApproval) (world : κ) {approvalId : String}
    {decision : Decision}
    (hraised : (coordinator.acceptSubmission record world approvalId decision).raised = none) :
    (coordinator.acceptSubmission record world approvalId decision).record.state.status =
      match decision with | .allow => .running | .deny => .awaitingApproval := by
  unfold Coordinator.acceptSubmission at hraised ⊢
  have hsame := sameApprovals_resolveApproval coordinator record world approvalId decision
  cases hresolved : (coordinator.resolveApproval record world approvalId decision).raised with
  | some exception =>
      rw [Ran.andThen_of_some hresolved, hresolved] at hraised
      cases hraised
  | none =>
      rw [Ran.andThen_of_none hresolved] at hraised ⊢
      have hstatus := hsame.status.trans hawaiting
      cases decision with
      | deny => exact hstatus
      | allow =>
          have happroved (world : κ) := status_transition coordinator hstatus
            (show ExecutionStatus.approved ∈ _ by decide) (by decide) world none
          dsimp only at hraised ⊢
          cases hfirst : (coordinator.transition
              (coordinator.resolveApproval record world approvalId .allow).record
              (coordinator.resolveApproval record world approvalId .allow).world
              .approved).raised with
          | some exception =>
              rw [Ran.andThen_of_some hfirst, hfirst] at hraised
              cases hraised
          | none =>
              rw [Ran.andThen_of_none hfirst]
              exact status_transition coordinator (happroved _) (by decide) (by decide) _ _

lemma pending_transition (record : ActiveExecution) (world : κ) (status : ExecutionStatus)
    (error : Option String) :
    (coordinator.transition record world status error).record.state.pendingApprovalId =
      record.state.pendingApprovalId := by
  cases transited coordinator record world status error with
  | kept hsame happrovals => exact happrovals.pending
  | moved hmem hstatus hpending hresolved => exact hpending
  | refused hmem hne hran hraised => rw [hran]

lemma not_open_acceptSubmission {record : ActiveExecution} (world : κ) {approvalId : String}
    (hpending : record.state.pendingApprovalId = some approvalId) (decision : Decision) :
    ¬ Open (coordinator.acceptSubmission record world approvalId decision).record := by
  have hkept : (coordinator.acceptSubmission record world approvalId
      decision).record.state.pendingApprovalId = some approvalId := by
    refine Ran.andThen_record (P := fun r => r.state.pendingApprovalId = some approvalId) ?_ ?_
    · exact (sameApprovals_resolveApproval coordinator record world approvalId
        decision).pending.trans hpending
    · intro r world hr
      cases decision with
      | deny => exact hr
      | allow =>
          refine Ran.andThen_record (P := fun r => r.state.pendingApprovalId = some approvalId)
            ?_ ?_
          · rw [pending_transition, hr]
          · intro r world hr
            rw [pending_transition, hr]
  rintro ⟨-, id, hid, hnot⟩
  rw [hkept] at hid
  obtain rfl := Option.some.inj hid
  rw [(keeps_acceptSubmission coordinator record world approvalId decision).resolved] at hnot
  exact hnot List.mem_insert_self

lemma Inv.of_checkSubmission {s : Race κ} (h : Inv s) {principalId approvalId decision : String}
    {accepted : Decision}
    (haccepted : Coordinator.checkSubmission s.record principalId approvalId decision =
      .ok accepted) :
    s.stage = .none ∧ s.record.cancelEvent ≠ true ∧ approvalId ∉ s.accepted := by
  obtain ⟨hawaiting, hpending, hfresh⟩ := open_of_checkSubmission haccepted
  have hopen : Open s.record := ⟨hawaiting, approvalId, hpending, hfresh⟩
  refine ⟨?_, fun hevent => h.shut hevent hopen, fun hid => hfresh (h.resolved approvalId hid)⟩
  by_contra hstage
  exact h.not_open hstage hopen

lemma inv_submit {s t : Race κ} {principalId approvalId decision : String} (h : Inv s)
    (hstep : s.step coordinator (.submit principalId approvalId decision) = some t) : Inv t := by
  simp only [step] at hstep
  split at hstep
  · obtain rfl := Option.some.inj hstep
    exact h
  · rename_i accepted haccepted
    obtain rfl := Option.some.inj hstep
    obtain ⟨hidle, hunset, hnew⟩ := h.of_checkSubmission haccepted
    obtain ⟨hawaiting, hpending, -⟩ := open_of_checkSubmission haccepted
    have hkeeps := keeps_acceptSubmission coordinator s.record s.world approvalId accepted
    have hopen := not_open_acceptSubmission coordinator s.world hpending accepted
    have hevent : (coordinator.acceptSubmission s.record s.world approvalId
        accepted).record.cancelEvent ≠ true := by
      rw [hkeeps.event]
      exact hunset
    have hbase : Inv { s.after (coordinator.acceptSubmission s.record s.world approvalId
        accepted) with accepted := s.accepted ++ [approvalId] } := {
      called := fun hclosers => absurd (h.called hclosers) hunset
      shut := fun _ => hopen
      yields := fun _ hset => absurd hset hevent
      fits := fun hstage => absurd hidle hstage
      resolved := fun id hid => by
        show id ∈ (coordinator.acceptSubmission s.record s.world approvalId
          accepted).record.resolvedApprovals
        rw [hkeeps.resolved]
        rcases List.mem_append.mp hid with hold | hlast
        · exact List.mem_insert_of_mem (h.resolved id hold)
        · rw [List.mem_singleton.mp hlast]
          exact List.mem_insert_self
      once := by
        refine h.once.append (List.nodup_singleton _) fun id hid hlast => ?_
        rw [List.mem_singleton.mp hlast] at hid
        exact hnew hid
      turns := h.turns
      granted := fun id hid => List.mem_append_left _ (h.granted id hid)
      waiting := fun id d hstage => by
        have hstage : s.stage = .created (.resume id d) := hstage
        rw [hidle] at hstage
        cases hstage }
    split
    · rename_i hraised
      have hstatus := status_acceptSubmission coordinator hawaiting s.world
        (Option.isNone_iff_eq_none.mp hraised)
      refine { hbase with
        yields := fun _ hset => absurd hset hevent
        fits := fun _ => ?_
        waiting := fun id d hstage => ?_ }
      · cases accepted with
        | allow => exact .inr hstatus
        | deny => exact .inr ⟨hstatus, hopen⟩
      · obtain ⟨rfl, rfl⟩ : approvalId = id ∧ accepted = d := by
          simpa [withTask] using hstage
        refine ⟨List.mem_append_right _ (List.mem_singleton_self _), fun hid => ?_⟩
        exact hnew (h.granted _ hid)
    · exact hbase

/-- Every move keeps the invariant. -/
lemma inv_step {s t : Race κ} {move : Move} (h : Inv s)
    (hstep : (machine coordinator).step s move = some t) : Inv t := by
  cases move with
  | start => exact inv_start coordinator h hstep
  | recover =>
      simp only [machine, step] at hstep
      split at hstep
      · rename_i hrecovering
        obtain rfl := Option.some.inj hstep
        exact { h with
          yields := fun h => by cases h
          fits := fun _ => .inr (.inr hrecovering.2)
          waiting := fun _ _ h => by cases h }
      · cases hstep
  | begin => exact inv_begin coordinator h hstep
  | drop =>
      simp only [machine, step] at hstep
      split at hstep
      · rename_i job hstage
        split at hstep
        · obtain rfl := Option.some.inj hstep
          exact h.halt (by simp [hstage])
        · cases hstep
      · cases hstep
  | enter => exact inv_enter coordinator h hstep
  | finish outcome => exact inv_finish coordinator h hstep
  | checkpoint details =>
      simp only [machine, step] at hstep
      split at hstep
      · obtain rfl := Option.some.inj hstep
        have hsame := sameApprovals_runtimeCheckpoint coordinator s.record s.world details
        exact h.after (keeps_runtimeCheckpoint coordinator _ _ _) hsame.open_iff.not.mpr
          fun hstage => (hsame.fits_iff _).mpr (h.fits hstage)
      · cases hstep
  | submit principalId approvalId decision => exact inv_submit coordinator h hstep
  | cancel => exact inv_cancel coordinator h hstep
  | timeout error => exact inv_timeout coordinator h hstep
  | close index => exact inv_close coordinator h hstep
  | abandon =>
      simp only [machine, step] at hstep
      split at hstep
      · cases hstep
      · obtain rfl := Option.some.inj hstep
        exact { h with yields := fun _ _ => .inr rfl }

/-! ## One approval, one resume -/

/-- Neither the save that a timeout makes while a resume waits for its first turn nor the
evidence behind it is left by another exception than a `CheckpointError`. -/
def SavesTimeout (s : Race κ) : Move → Prop
  | .timeout error =>
      ∀ id decision, s.stage = .created (.resume id decision) →
        (coordinator.recorded
          (coordinator.saveCheckpoint { s.record with state := { s.record.state with
            status := .timedOut, error := some error <|> s.record.state.error } } s.world)
          (.executionStateChanged s.record.state.status (some error))).raised = none
  | _ => True

/-- No resume that is not cancelled waits in an execution that has ended, and none has started
in one. -/
structure Alive (s : Race κ) : Prop where
  held : ∀ id decision, s.stage = .created (.resume id decision) →
    s.cancelling = true ∨ s.record.state.terminal = false
  living : ∀ turn ∈ s.resumed, turn.2.terminal = false

lemma timeoutHead_of_saved {s : Race κ} {error id : String} {decision : Decision} (h : Inv s)
    (hstage : s.stage = .created (.resume id decision)) (hopen : ¬ s.record.state.terminal = true)
    (hsaved : SavesTimeout coordinator s (.timeout error)) :
    (coordinator.timeoutHead s.record s.world error).raised = none := by
  have hfits := h.fits (by simp [hstage])
  rw [hstage] at hfits
  have hrow : .timedOut ∈ s.record.state.status.publicTransitions ∧
      ExecutionStatus.timedOut ≠ s.record.state.status := by
    cases decision with
    | allow =>
        rw [hfits.resolve_left hopen]
        decide
    | deny =>
        rw [(hfits.resolve_left hopen).1]
        decide
  have hmoved : (coordinator.transition s.record s.world .timedOut (some error)).raised = none := by
    rw [coordinator.transition_of_mem hrow.1 hrow.2]
    exact hsaved id decision hstage
  rw [Coordinator.timeoutHead, Ran.andThen_of_none hmoved]

lemma held_await {s : Race κ} {closer : Option String} {id : String} {decision : Decision}
    (hstage : (await coordinator s closer).stage = .created (.resume id decision)) :
    (await coordinator s closer).cancelling = true := by
  unfold await at hstage ⊢
  split at hstage
  · rename_i hidle
    have hstage : s.stage = .created (.resume id decision) := hstage
    rw [hidle] at hstage
    cases hstage
  · rename_i hbusy
    rw [if_neg hbusy]

/-- Only a saved submission makes a resume wait for its first turn, and what comes upon it there
either cancels it or leaves the execution as it was. -/
lemma held_step {s t : Race κ} {move : Move} (h : Inv s) (halive : Alive s)
    (hguard : SavesTimeout coordinator s move)
    (hstep : (machine coordinator).step s move = some t) {id : String} {decision : Decision}
    (hstage : t.stage = .created (.resume id decision)) :
    t.cancelling = true ∨ t.record.state.terminal = false := by
  cases move with
  | start | recover =>
      simp only [machine, step] at hstep
      split at hstep
      · rename_i hcreated
        obtain rfl := Option.some.inj hstep
        first
          | cases hstage
          | split at hstage
            · cases hstage
            · have hstage : s.stage = .created (.resume id decision) := hstage
              rw [hcreated.1] at hstage
              cases hstage
      · cases hstep
  | begin =>
      simp only [machine, step] at hstep
      split at hstep
      · cases hstep
      · split at hstep
        · obtain rfl := Option.some.inj hstep
          cases hstage
        · obtain rfl := Option.some.inj hstep
          cases hstage
        · cases hstep
  | drop =>
      simp only [machine, step] at hstep
      split at hstep
      · split at hstep
        · obtain rfl := Option.some.inj hstep
          cases hstage
        · cases hstep
      · cases hstep
  | enter =>
      simp only [machine, step] at hstep
      split at hstep
      · split at hstep
        · obtain rfl := Option.some.inj hstep
          cases hstage
        · split at hstep
          · obtain rfl := Option.some.inj hstep
            cases hstage
          · obtain rfl := Option.some.inj hstep
            cases hstage
      · cases hstep
  | finish outcome =>
      obtain ⟨-, -, rfl⟩ | ⟨job, -, -, rfl⟩ := finish_cases coordinator hstep
      · cases hstage
      · cases hstage
  | checkpoint details =>
      simp only [machine, step] at hstep
      split at hstep
      · rename_i job hrunning
        obtain rfl := Option.some.inj hstep
        have hstage : s.stage = .created (.resume id decision) := hstage
        rw [hrunning] at hstage
        cases hstage
      · cases hstep
  | submit principalId approvalId text =>
      simp only [machine, step] at hstep
      split at hstep
      · obtain rfl := Option.some.inj hstep
        exact halive.held id decision hstage
      · rename_i accepted haccepted
        obtain rfl := Option.some.inj hstep
        obtain ⟨hawaiting, -, -⟩ := open_of_checkSubmission haccepted
        split at hstage
        · rename_i hraised
          rw [if_pos hraised]
          have hstatus := status_acceptSubmission coordinator hawaiting s.world
            (Option.isNone_iff_eq_none.mp hraised)
          refine .inr ?_
          show ExecutionState.terminal (coordinator.acceptSubmission s.record s.world approvalId
            accepted).record.state = false
          rw [ExecutionState.terminal, hstatus]
          cases accepted <;> rfl
        · have hstage : s.stage = .created (.resume id decision) := hstage
          rw [(h.of_checkSubmission haccepted).1] at hstage
          cases hstage
  | cancel =>
      simp only [machine, step] at hstep
      split at hstep
      · obtain rfl := Option.some.inj hstep
        exact halive.held id decision hstage
      · obtain rfl := Option.some.inj hstep
        exact .inl (held_await coordinator hstage)
  | timeout error =>
      simp only [machine, step] at hstep
      split at hstep
      · obtain rfl := Option.some.inj hstep
        exact halive.held id decision hstage
      · rename_i hopen
        obtain rfl := Option.some.inj hstep
        split at hstage
        · rename_i hraised
          rw [if_pos hraised]
          exact .inl (held_await coordinator hstage)
        · rename_i hraised
          have hstage : s.stage = .created (.resume id decision) := hstage
          have hsaved := timeoutHead_of_saved coordinator h hstage hopen hguard
          rw [hsaved] at hraised
          exact absurd rfl hraised
  | close index =>
      simp only [machine, step] at hstep
      split at hstep
      · cases hstep
      · rename_i closer hcloser
        obtain rfl := Option.some.inj hstep
        have hstage : s.stage = .created (.resume id decision) := hstage
        have hclosers : s.closers ≠ [] := by
          intro hnil
          rw [hnil] at hcloser
          cases hcloser
        refine .inl ?_
        show s.cancelling = true
        -- the event is set, so a resume that is not cancelled is in an execution that has ended
        rcases h.yields (by rw [hstage]; rfl) (h.called hclosers) with hterminal | hcancelling
        · rcases halive.held id decision hstage with hcancelling | hopen
          · exact hcancelling
          · rw [hterminal] at hopen
            cases hopen
        · exact hcancelling
  | abandon =>
      simp only [machine, step] at hstep
      split at hstep
      · cases hstep
      · obtain rfl := Option.some.inj hstep
        exact .inl rfl

@[simp] lemma resumed_after (s : Race κ) (ran : Ran κ) : (s.after ran).resumed = s.resumed := rfl

@[simp] lemma resumed_idle (s : Race κ) : s.idle.resumed = s.resumed := rfl

@[simp] lemma resumed_withTask (s : Race κ) (job : TaskJob) :
    (s.withTask job).resumed = s.resumed := rfl

@[simp] lemma resumed_await (s : Race κ) (closer : Option String) :
    (await coordinator s closer).resumed = s.resumed := by
  unfold await
  split <;> rfl

/-- A resume is started by its first turn alone. -/
lemma resumed_step {s t : Race κ} {move : Move}
    (hstep : (machine coordinator).step s move = some t) :
    t.resumed = s.resumed ∨ ∃ id decision, s.stage = .created (.resume id decision) ∧
      s.cancelling = false ∧ t.resumed = s.resumed ++ [(id, s.record.state.status)] := by
  cases move with
  | begin =>
      simp only [machine, step] at hstep
      split at hstep
      · cases hstep
      · rename_i hcancelling
        split at hstep
        · obtain rfl := Option.some.inj hstep
          exact .inl rfl
        · rename_i id decision hstage
          obtain rfl := Option.some.inj hstep
          exact .inr ⟨id, decision, hstage, Bool.eq_false_iff.mpr hcancelling, rfl⟩
        · cases hstep
  | finish outcome =>
      obtain ⟨-, -, rfl⟩ | ⟨job, -, -, rfl⟩ := finish_cases coordinator hstep
      · exact .inl rfl
      · exact .inl rfl
  | start | recover | drop | enter | checkpoint | submit | cancel | timeout | close | abandon =>
      simp only [machine, step] at hstep
      grind [resumed_after, resumed_idle, resumed_withTask, resumed_await]

/-- A saved timeout keeps what is alive. -/
lemma alive_step {s t : Race κ} {move : Move} (h : Inv s) (halive : Alive s)
    (hguard : SavesTimeout coordinator s move)
    (hstep : (machine coordinator).step s move = some t) : Alive t := by
  refine ⟨fun id decision hstage => held_step coordinator h halive hguard hstep hstage, ?_⟩
  rcases resumed_step coordinator hstep with hsame | ⟨id, decision, hstage, hcancelling, hturn⟩
  · rw [hsame]
    exact halive.living
  · rw [hturn]
    intro turn hmem
    rcases List.mem_append.mp hmem with hold | hnew
    · exact halive.living turn hold
    · rw [List.mem_singleton.mp hnew]
      refine (halive.held id decision hstage).resolve_left ?_
      rw [hcancelling]
      exact Bool.false_ne_true

lemma inv_init {record : ActiveExecution} (hevent : record.cancelEvent = false) (world : κ) :
    Inv { record := record, world := world } where
  called hclosers := absurd rfl hclosers
  shut hset := absurd hset (Bool.eq_false_iff.mp hevent)
  yields hlive := nomatch hlive
  fits hstage := absurd rfl hstage
  resolved := fun _ h => by cases h
  once := List.nodup_nil
  turns := List.nodup_nil
  granted := fun _ h => by cases h
  waiting := fun _ _ h => by cases h

/-- Over every run from a record whose event is not set, restored approvals included: each
approval is accepted at most once and resumes at most once; any other submission raises and
changes nothing; and where the timeouts are saved, no resume has its first turn in an execution
that has ended. -/
theorem resumed_once {record : ActiveExecution} {world : κ} (hevent : record.cancelEvent = false)
    {moves : List Move} {s : Race κ}
    (hguard : (machine coordinator).Guarded (SavesTimeout coordinator)
      { record := record, world := world } moves)
    (hrun : (machine coordinator).run { record := record, world := world } moves = some s) :
    (s.resumed.map Prod.fst).Nodup ∧ (∀ id ∈ s.resumed.map Prod.fst, id ∈ s.accepted) ∧
      s.accepted.Nodup ∧ (∀ turn ∈ s.resumed, turn.2.terminal = false) ∧
      ∀ principalId approvalId decision t,
        (machine coordinator).step s (.submit principalId approvalId decision) = some t →
          (∃ message, Coordinator.checkSubmission s.record principalId approvalId decision =
            .error message ∧ t = s) ∨
          (approvalId ∉ s.accepted ∧ t.accepted = s.accepted ++ [approvalId]) := by
  have hstep : ∀ (s : Race κ) move t, (Inv s ∧ Alive s) → SavesTimeout coordinator s move →
      (machine coordinator).step s move = some t → Inv t ∧ Alive t :=
    fun _ _ _ hs hguard hstep =>
      ⟨inv_step coordinator hs.1 hstep, alive_step coordinator hs.1 hs.2 hguard hstep⟩
  have hinit : Inv { record := record, world := world } ∧
      Alive { record := record, world := world } :=
    ⟨inv_init hevent world, fun _ _ h => (by cases h), fun _ h => (by cases h)⟩
  obtain ⟨hinv, halive⟩ := (machine coordinator).guarded_invariant hstep hinit hguard hrun
  refine ⟨hinv.turns, hinv.granted, hinv.once, halive.living, ?_⟩
  intro principalId approvalId decision t hsubmit
  simp only [machine, step] at hsubmit
  split at hsubmit
  · rename_i message hmessage
    exact .inl ⟨message, hmessage, (Option.some.inj hsubmit).symm⟩
  · rename_i accepted haccepted
    obtain rfl := Option.some.inj hsubmit
    refine .inr ⟨(hinv.of_checkSubmission haccepted).2.2, ?_⟩
    split <;> rfl

/-! ### Two callers and a timeout -/

/-- The execution pauses at `a`, two callers answer, and then `last` comes. -/
def contested (last : List Move) : List Move :=
  [.start, .begin, .enter, .finish (.returned (pipelineAt .paused)), .submit "local" "a" "allow",
    .submit "local" "a" "deny"] ++ last

/-- The race after that, over some store. -/
def contestedRace (coordinator : Coordinator Unit) (last : List Move) : Race Unit :=
  ((machine coordinator).run { record := newRecord, world := () } (contested last)).getD
    { record := default, world := () }

lemma run_contested {coordinator : Coordinator Unit} {last : List Move}
    (h : ((machine coordinator).run { record := newRecord, world := () }
      (contested last)).isSome = true) :
    (machine coordinator).run { record := newRecord, world := () } (contested last) =
      some (contestedRace coordinator last) :=
  some_getD h _

/-- The allowance resumes once; the denial and the timeout behind it change nothing about that. -/
theorem resumed_once_sample :
    (contestedRace storeless [.begin, .timeout "Late."]).resumed = [("a", .running)] ∧
      ((contestedRace storeless [.begin, .timeout "Late."]).resumed.map Prod.fst).Nodup := by
  have hevent : newRecord.cancelEvent = false := rfl
  refine ⟨by decide, (resumed_once storeless hevent ?_ (run_contested (by decide))).1⟩
  refine (machine storeless).guarded_of_forall ?_ _ _
  rintro s (_ | _ | _ | _ | _ | _ | _ | _ | _ | _ | _ | _)
  case timeout => exact fun _ _ _ => rfl
  all_goals trivial

/-- A store that has no room left when the execution has timed out. -/
def fullStore : Coordinator Unit :=
  { storeless with
    save := some fun _ checkpoint => ((),
      match Dict.get? checkpoint.executionState "status" with
      | some (.str "timed_out") => .raised "No space left on device"
      | _ => .saved) }

/-- The timeout loses its save before it sets the event: the accepted resume has its first turn in
an execution that has timed out. -/
theorem resumed_after_timeout :
    (machine fullStore).run { record := newRecord, world := () }
        (contested [.timeout "Late.", .begin]) =
          some (contestedRace fullStore [.timeout "Late.", .begin]) ∧
      (contestedRace fullStore [.timeout "Late.", .begin]).resumed = [("a", .timedOut)] ∧
      ExecutionStatus.timedOut.terminal = true :=
  ⟨run_contested (by decide), by decide, rfl⟩

end Race

end Samaktha
