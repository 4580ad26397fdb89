import Samaktha.Coordination.Lifecycle

/-!
# When an execution can wait for an approval

An execution that awaits an approval and whose task is done should be one that `submit_approval`
can answer: its pending approval is not resolved yet (`Open`).  `Fits` says for each task what
the record is like while it runs, and every move keeps it where the move meets `Guard`
(`fits_step`); `no_wedged_approval` is what follows for whole runs.

The guard leaves out three things a run of the program can do: a pipeline pauses again at a task
that was already answered, the pipeline of a denied execution raises, and `submit_approval` does
not get over making its decision durable: the save of it raises something else than a
`CheckpointError`, or the evidence of it raises.
-/

namespace Samaktha

variable {κ : Type} (coordinator : Coordinator κ)

/-- The execution awaits an approval that is not resolved. -/
def Open (record : ActiveExecution) : Prop :=
  record.state.status = .awaitingApproval ∧
    ∃ id, record.state.pendingApprovalId = some id ∧ id ∉ record.resolvedApprovals

/-- The execution awaits an approval that it does not have, or that is resolved. -/
def Wedged (record : ActiveExecution) : Prop :=
  record.state.status = .awaitingApproval ∧ ¬ Open record

/-- The execution has ended, or awaits an approval that can be answered. -/
def Rests (record : ActiveExecution) : Prop := record.state.terminal = true ∨ Open record

/-- What a record is like while a task runs. -/
def Fits (record : ActiveExecution) : Work → Prop
  | .none => ¬ Wedged record
  | .queued => record.state.terminal = true ∨ record.state.status = .planning ∨
      record.state.status = .recovering
  | .initial | .resume .allow => record.state.terminal = true ∨ record.state.status = .running
  | .resume .deny => record.state.terminal = true ∨ Wedged record

/-- Two records with the same status, pending approval and resolved approvals. -/
structure SameApprovals (record record' : ActiveExecution) : Prop where
  status : record'.state.status = record.state.status
  pending : record'.state.pendingApprovalId = record.state.pendingApprovalId
  resolved : record'.resolvedApprovals = record.resolvedApprovals

section Same

variable {record record' : ActiveExecution}

lemma SameApprovals.trans {a b c : ActiveExecution} (h : SameApprovals a b)
    (h' : SameApprovals b c) : SameApprovals a c :=
  ⟨h'.status.trans h.status, h'.pending.trans h.pending, h'.resolved.trans h.resolved⟩

lemma SameApprovals.terminal (h : SameApprovals record record') :
    record'.state.terminal = record.state.terminal := congrArg ExecutionStatus.terminal h.status

lemma SameApprovals.open_iff (h : SameApprovals record record') : Open record' ↔ Open record := by
  rw [Open, Open, h.status, h.pending, h.resolved]

lemma SameApprovals.rests_iff (h : SameApprovals record record') :
    Rests record' ↔ Rests record := by
  rw [Rests, Rests, h.terminal, h.open_iff]

lemma SameApprovals.fits_iff (h : SameApprovals record record') (work : Work) :
    Fits record' work ↔ Fits record work := by
  have hwedged : Wedged record' ↔ Wedged record := by
    rw [Wedged, Wedged, h.status, h.open_iff]
  unfold Fits
  rw [h.terminal, h.status, hwedged]

lemma sameApprovals_saveCheckpoint (record : ActiveExecution) (world : κ) (recoverySafe : Bool) :
    SameApprovals record (coordinator.saveCheckpoint record world recoverySafe).record := by
  constructor
  · rw [Coordinator.saveCheckpoint_state]
  · rw [Coordinator.saveCheckpoint_state]
  · rw [Coordinator.saveCheckpoint_resolvedApprovals]

lemma sameApprovals_resolveApproval (record : ActiveExecution) (world : κ) (approvalId : String)
    (decision : Decision) :
    SameApprovals
      { record with resolvedApprovals := record.resolvedApprovals.insert approvalId }
      (coordinator.resolveApproval record world approvalId decision).record := by
  unfold Coordinator.resolveApproval
  rw [Coordinator.recorded_record]
  exact sameApprovals_saveCheckpoint coordinator _ world false

lemma sameApprovals_setTerminalResult (record : ActiveExecution) (status : ExecutionStatus)
    (error : String) (preserve : Bool) :
    SameApprovals record (Coordinator.setTerminalResult record status error preserve) :=
  ⟨rfl, rfl, rfl⟩

lemma sameApprovals_noteDetails (record : ActiveExecution) (details : Coordinator.Details) :
    SameApprovals record (Coordinator.noteDetails record details) := by
  unfold Coordinator.noteDetails
  dsimp only
  constructor <;> (split <;> split <;> split <;> rfl)

lemma sameApprovals_captureWorkflowReliability (record : ActiveExecution) (world : κ)
    (pipeline : PipelineState) :
    SameApprovals record (coordinator.captureWorkflowReliability record world pipeline).record := by
  cases hworkflow : pipeline.workflowState with
  | none =>
      rw [Coordinator.captureWorkflowReliability, hworkflow]
      exact ⟨rfl, rfl, rfl⟩
  | some workflow =>
      obtain ⟨-, hsame⟩ := coordinator.captureWorkflowReliability_spec record world hworkflow
      refine ⟨?_, ?_, hsame.resolvedApprovals⟩
      · rw [hsame.state]
      · rw [hsame.state]

lemma sameApprovals_runtimeCheckpoint (record : ActiveExecution) (world : κ)
    (details : Coordinator.Details) :
    SameApprovals record (coordinator.runtimeCheckpoint record world details).record := by
  unfold Coordinator.runtimeCheckpoint
  refine Ran.andThen_record (P := SameApprovals record) ?_ fun r world h => ?_
  · cases details.pipelineState with
    | none => exact ⟨rfl, rfl, rfl⟩
    | some pipeline =>
        have hcaptured := sameApprovals_captureWorkflowReliability coordinator
          { record with pipelineState := some pipeline } world pipeline
        exact ⟨hcaptured.status, hcaptured.pending, hcaptured.resolved⟩
  · exact h.trans ((sameApprovals_noteDetails r details).trans
      (sameApprovals_saveCheckpoint coordinator _ world _))

end Same

/-! ## Transitions -/

/-- What a transition can do. -/
inductive Transited (record : ActiveExecution) (world : κ) (status : ExecutionStatus)
    (ran : Ran κ) : Prop
  | kept (hsame : status = record.state.status) (happrovals : SameApprovals record ran.record)
  | moved (hmem : status ∈ record.state.status.publicTransitions)
      (hstatus : ran.record.state.status = status)
      (hpending : ran.record.state.pendingApprovalId = record.state.pendingApprovalId)
      (hresolved : ran.record.resolvedApprovals = record.resolvedApprovals)
  | refused (hmem : status ∉ record.state.status.publicTransitions)
      (hne : status ≠ record.state.status)
      (hran : ran.record = record) (hraised : ran.raised.isSome = true)

lemma transited (record : ActiveExecution) (world : κ) (status : ExecutionStatus)
    (error : Option String) :
    Transited record world status (coordinator.transition record world status error) := by
  by_cases hsame : status = record.state.status
  · refine .kept hsame ?_
    have hok : record.state.transition status error = .ok record.state := by
      rw [ExecutionState.transition, if_pos hsame]
    rw [Coordinator.transition, hok]
    dsimp only
    rw [Coordinator.recorded_record]
    exact sameApprovals_saveCheckpoint coordinator _ world _
  · by_cases hmem : status ∈ record.state.status.publicTransitions
    · rw [coordinator.transition_of_mem hmem hsame]
      refine .moved hmem ?_ ?_ ?_
      · rw [Coordinator.recorded_record, Coordinator.saveCheckpoint_state]
      · rw [Coordinator.recorded_record, Coordinator.saveCheckpoint_state]
      · rw [Coordinator.recorded_record, Coordinator.saveCheckpoint_resolvedApprovals]
    · obtain ⟨message, hmessage⟩ := ExecutionState.transition_of_not_mem hmem hsame error
      rw [Coordinator.transition, hmessage]
      exact .refused hmem hsame rfl rfl

lemma status_transition {record : ActiveExecution} {status target : ExecutionStatus}
    (hstatus : record.state.status = status) (hmem : target ∈ status.publicTransitions)
    (hne : target ≠ status) (world : κ) (error : Option String) :
    (coordinator.transition record world target error).record.state.status = target := by
  subst hstatus
  rw [coordinator.transition_of_mem hmem hne, Coordinator.recorded_record,
    Coordinator.saveCheckpoint_state]

lemma status_enterInitial {record : ActiveExecution}
    (h : record.state.status = .planning ∨ record.state.status = .recovering) (world : κ) :
    (coordinator.enterInitial record world).record.state.status = .running := by
  rw [Coordinator.enterInitial, if_pos h]
  rcases h with hplanning | hrecovering
  · exact status_transition coordinator hplanning (by decide) (by decide) _ _
  · exact status_transition coordinator hrecovering (by decide) (by decide) _ _

lemma terminal_transition {record : ActiveExecution} (h : record.state.terminal = true) (world : κ)
    (status : ExecutionStatus) (error : Option String) :
    (coordinator.transition record world status error).record.state.terminal = true := by
  cases transited coordinator record world status error with
  | kept hsame happrovals => rw [happrovals.terminal, h]
  | moved hmem hstatus hpending hresolved =>
      rw [ExecutionStatus.publicTransitions_of_terminal h] at hmem
      exact absurd hmem List.not_mem_nil
  | refused hmem hne hran hraised => rw [hran, h]

lemma ended_transition (record : ActiveExecution) (world : κ) {status : ExecutionStatus}
    (hterminal : status.terminal = true) (error : Option String) :
    (coordinator.transition record world status error).record.state.terminal = true ∨
      ((coordinator.transition record world status error).record = record ∧
        (coordinator.transition record world status error).raised.isSome = true ∧
        status ∉ record.state.status.publicTransitions) := by
  cases transited coordinator record world status error with
  | kept hsame happrovals =>
      rw [hsame] at hterminal
      exact .inl (happrovals.terminal.trans hterminal)
  | moved hmem hstatus hpending hresolved =>
      rw [ExecutionState.terminal, hstatus]
      exact .inl hterminal
  | refused hmem hne hran hraised => exact .inr ⟨hran, hraised, hmem⟩

lemma fits_of_terminal {record : ActiveExecution} (h : record.state.terminal = true) (work : Work) :
    Fits record work := by
  match work with
  | .none =>
      rintro ⟨hawaiting, -⟩
      rw [ExecutionState.terminal, hawaiting] at h
      cases h
  | .queued | .initial | .resume .allow | .resume .deny => exact .inl h

lemma not_wedged_of_rests {record : ActiveExecution} (h : Rests record) : ¬ Wedged record := by
  rcases h with hterminal | hopen
  · exact fits_of_terminal hterminal .none
  · exact fun hwedged => hwedged.2 hopen

/-! ## Handlers -/

section Handlers

variable {record : ActiveExecution} (world : κ)

lemma terminal_closing (record : ActiveExecution) {status : ExecutionStatus}
    (hterminal : status.terminal = true)
    (error : Option String) (next : ActiveExecution → κ → Ran κ)
    (hnext : ∀ r world, r.state.terminal = true → (next r world).record.state.terminal = true)
    (h : record.state.terminal = true ∨ status ∈ record.state.status.publicTransitions) :
    (Ran.andThen (if record.state.terminal then { record := record, world := world }
      else coordinator.transition record world status error) next).record.state.terminal =
        true := by
  refine Ran.andThen_record (P := fun r => r.state.terminal = true) ?_ hnext
  split
  · assumption
  · rename_i hopen
    rcases ended_transition coordinator record world hterminal error with hended | ⟨-, -, hmem⟩
    · exact hended
    · exact absurd (h.resolve_left hopen) hmem

lemma terminal_onCancelled
    (h : record.state.terminal = true ∨ .cancelled ∈ record.state.status.publicTransitions) :
    (coordinator.onCancelled record world).record.state.terminal = true :=
  terminal_closing coordinator world record rfl none _ (fun _ _ hr => hr) h

lemma terminal_onTimeout (text : String)
    (h : record.state.terminal = true ∨ .timedOut ∈ record.state.status.publicTransitions) :
    (coordinator.onTimeout text record world).record.state.terminal = true :=
  terminal_closing coordinator world record rfl _ _ (fun _ _ hr => hr) h

lemma terminal_onException (exception : String)
    (h : record.state.terminal = true ∨ .failed ∈ record.state.status.publicTransitions) :
    (coordinator.onException exception record world).record.state.terminal = true := by
  exact terminal_closing coordinator world { record with failureException := some exception } rfl
    (some exception) _ (fun _ _ hr => hr) h

lemma rests_onException (exception : String) (h : Rests record ∨
    .failed ∈ record.state.status.publicTransitions) :
    Rests (coordinator.onException exception record world).record := by
  rcases h with hrests | hmem
  · refine Ran.andThen_record (P := Rests) ?_ fun r world hr => ?_
    · split
      · exact hrests
      · have hfailed : ExecutionStatus.failed.terminal = true := rfl
        rcases ended_transition coordinator { record with failureException := some exception } world
          hfailed (some exception) with hended | ⟨hran, -, -⟩
        · exact .inl hended
        · rw [hran]
          exact hrests
    · exact (sameApprovals_setTerminalResult r .failed exception false).rests_iff.mpr hr
  · exact .inl (terminal_onException coordinator world exception (.inr hmem))

lemma rests_andSave {ran : Ran κ} (h : Rests ran.record) :
    Rests (coordinator.andSave ran).record :=
  Ran.andThen_record (P := Rests) h fun r world hr =>
    (sameApprovals_saveCheckpoint coordinator r world false).rests_iff.mpr hr

end Handlers

/-! ## The ends of a task -/

section Ends

variable {record : ActiveExecution} (world : κ)

/-- Every result of a pipeline is readable. -/
def ReadablePipeline (pipeline : PipelineState) : Prop :=
  ∀ workflow, pipeline.workflowState = some workflow →
    ∀ r ∈ workflow.results, Coordinator.Readable r

/-- The pipeline does not pause at a task whose approval is resolved. -/
def PausesAfresh (record : ActiveExecution) (pipeline : PipelineState) : Prop :=
  record.state.status = .running → ReadablePipeline pipeline →
    ∀ result, pipeline.runtimeResult = some result → result.status = .paused →
      result.taskId ∉ record.resolvedApprovals

lemma terminal_settling (h : record.state.terminal = true ∨ record.state.status = .running)
    {status : ExecutionStatus} (hterminal : status.terminal = true)
    (hmem : status ∈ ExecutionStatus.running.publicTransitions) (error : Option String) :
    (coordinator.transition record world status error).record.state.terminal = true := by
  rcases h with hended | hrunning
  · exact terminal_transition coordinator hended world status error
  · rcases ended_transition coordinator record world hterminal error with hended | ⟨-, -, hnot⟩
    · exact hended
    · exact absurd (hrunning ▸ hmem) hnot

lemma terminal_settleResult (h : record.state.terminal = true ∨ record.state.status = .running)
    (result : Option RuntimeResult) :
    (coordinator.settleResult record world result).record.state.terminal = true := by
  have hto : ∀ (status : ExecutionStatus) (available : Bool) (error : Option String),
      status.terminal = true → status ∈ ExecutionStatus.running.publicTransitions →
      (coordinator.transition { record with state := { record.state with
          pendingApprovalId := none, pendingTaskId := none, resultAvailable := available } }
        world status error).record.state.terminal = true := by
    intro status available error hterminal hmem
    refine terminal_settling coordinator world ?_ hterminal hmem error
    exact h
  unfold Coordinator.settleResult
  refine Ran.andThen_record (P := fun r => r.state.terminal = true) ?_ fun r world hr => ?_
  · cases result with
    | none => exact hto .failed _ _ rfl (by decide)
    | some result =>
        dsimp only
        split
        · exact hto .completed _ _ rfl (by decide)
        · split
          · exact hto .cancelled _ _ rfl (by decide)
          · exact hto .failed _ _ rfl (by decide)
  · rw [(sameApprovals_saveCheckpoint coordinator r world false).terminal]
    exact hr

lemma open_pause (hrunning : record.state.status = .running) {id : String}
    (hid : record.state.pendingApprovalId = some id) (hfresh : id ∉ record.resolvedApprovals) :
    Open (coordinator.transition record world .awaitingApproval).record := by
  cases transited coordinator record world .awaitingApproval none with
  | kept hsame happrovals =>
      rw [hrunning] at hsame
      cases hsame
  | moved hmem hstatus hpending hresolved =>
      refine ⟨hstatus, id, ?_, ?_⟩
      · rw [hpending, hid]
      · rw [hresolved]
        exact hfresh
  | refused hmem hne hran hraised =>
      rw [hrunning] at hmem
      exact absurd (by decide) hmem

lemma rests_settlePipeline (h : record.state.terminal = true ∨ record.state.status = .running)
    {pipeline : PipelineState} (hfresh : PausesAfresh record pipeline) :
    Rests (coordinator.settlePipeline record world pipeline).record ∨
      ((coordinator.settlePipeline record world pipeline).raised.isSome = true ∧
        (coordinator.settlePipeline record world pipeline).record.state.status = .running) := by
  have hsame := sameApprovals_captureWorkflowReliability coordinator record world pipeline
  have hcaptured : (coordinator.captureWorkflowReliability record world
      pipeline).record.state.terminal = true ∨
      (coordinator.captureWorkflowReliability record world pipeline).record.state.status =
        .running := by
    rw [hsame.terminal, hsame.status]
    exact h
  unfold Coordinator.settlePipeline
  cases hraised : (coordinator.captureWorkflowReliability record world pipeline).raised with
  | some exception =>
      rw [Ran.andThen_of_some hraised, hraised]
      rcases hcaptured with hterminal | hrunning
      · exact .inl (.inl hterminal)
      · exact .inr ⟨rfl, hrunning⟩
  | none =>
      rw [Ran.andThen_of_none hraised]
      refine .inl ?_
      have hreadable : ReadablePipeline pipeline := by
        intro workflow hworkflow
        exact (coordinator.captureWorkflowReliability_spec record world hworkflow).1.mp hraised
      cases hresult : pipeline.runtimeResult with
      | none => exact .inl (terminal_settleResult coordinator _ hcaptured none)
      | some result =>
          by_cases hpaused : result.status = .paused
          · simp only [if_pos hpaused, Coordinator.recorded_record]
            refine Ran.andThen_record (P := Rests) ?_ fun r world hr =>
              (sameApprovals_saveCheckpoint coordinator r world false).rests_iff.mpr hr
            rcases hcaptured with hterminal | hrunning
            · refine .inl (terminal_transition coordinator ?_ _ _ _)
              exact hterminal
            · refine .inr (open_pause coordinator _ hrunning rfl ?_)
              show result.taskId ∉ _
              rw [hsame.resolved]
              exact hfresh (hsame.status.symm.trans hrunning) hreadable result hresult hpaused
          · simp only [if_neg hpaused]
            exact .inl (terminal_settleResult coordinator _ hcaptured _)

lemma row_of_status {status target : ExecutionStatus}
    (h : record.state.terminal = true ∨ record.state.status = status)
    (hmem : target ∈ status.publicTransitions) :
    record.state.terminal = true ∨ target ∈ record.state.status.publicTransitions := by
  rcases h with hterminal | hstatus
  · exact .inl hterminal
  · rw [hstatus]
    exact .inr hmem

lemma rests_handle {ran : Ran κ}
    (h : Rests ran.record ∨ (ran.raised.isSome = true ∧ ran.record.state.status = .running))
    {handler : String → ActiveExecution → κ → Ran κ}
    (hhandler : ∀ exception r world,
      Rests r ∨ .failed ∈ r.state.status.publicTransitions →
        Rests (handler exception r world).record) : Rests (ran.handle handler).record := by
  cases hraised : ran.raised with
  | none =>
      rw [Ran.handle_of_none hraised]
      rcases h with hrests | ⟨hsome, -⟩
      · exact hrests
      · rw [hraised] at hsome
        cases hsome
  | some exception =>
      rw [Ran.handle_of_some hraised]
      refine hhandler exception _ _ ?_
      rcases h with hrests | ⟨-, hrunning⟩
      · exact .inl hrests
      · rw [hrunning]
        exact .inr (by decide)

lemma rests_finishInitial (h : record.state.terminal = true ∨ record.state.status = .running)
    (outcome : Outcome)
    (hfresh : ∀ pipeline, outcome = .returned pipeline → PausesAfresh record pipeline) :
    Rests (coordinator.finishInitial record world outcome).record := by
  cases outcome with
  | returned pipeline =>
      refine rests_handle (rests_settlePipeline coordinator world ?_ ?_) fun _ r world hr =>
        rests_andSave coordinator (rests_onException coordinator world _ hr)
      · exact h
      · exact hfresh pipeline rfl
  | raised exception =>
      exact rests_andSave coordinator
        (.inl (terminal_onException coordinator world exception (row_of_status h (by decide))))
  | cancelled =>
      exact rests_andSave coordinator
        (.inl (terminal_onCancelled coordinator world (row_of_status h (by decide))))
  | timedOut text =>
      exact rests_andSave coordinator
        (.inl (terminal_onTimeout coordinator world text (row_of_status h (by decide))))

lemma rests_finishResume_allow
    (h : record.state.terminal = true ∨ record.state.status = .running) (outcome : Outcome)
    (hfresh : ∀ pipeline, outcome = .returned pipeline → PausesAfresh record pipeline) :
    Rests (coordinator.finishResume record world .allow outcome).record := by
  cases outcome with
  | returned pipeline =>
      refine rests_handle (rests_settlePipeline coordinator world ?_ ?_) fun _ r world hr =>
        rests_onException coordinator world _ hr
      · exact h
      · exact hfresh pipeline rfl
  | raised exception | timedOut exception =>
      exact .inl (terminal_onException coordinator world exception (row_of_status h (by decide)))
  | cancelled =>
      exact .inl (terminal_onCancelled coordinator world (row_of_status h (by decide)))

lemma rests_finishResume_deny
    (h : record.state.terminal = true ∨ record.state.status = .awaitingApproval)
    (outcome : Outcome)
    (hraises : ∀ exception, outcome = .raised exception ∨ outcome = .timedOut exception →
      record.state.terminal = true) :
    Rests (coordinator.finishResume record world .deny outcome).record := by
  cases outcome with
  | returned pipeline =>
      refine rests_handle (.inl (.inl ?_)) fun _ r world hr =>
        rests_onException coordinator world _ hr
      dsimp only
      rw [Coordinator.denied, Coordinator.recorded_record]
      rcases h with hterminal | hawaiting
      · refine terminal_transition coordinator ?_ world .denied none
        exact hterminal
      · have hdenied : ExecutionStatus.denied.terminal = true := rfl
        rcases ended_transition coordinator _ world hdenied none with
          hended | ⟨-, -, hnot⟩
        · exact hended
        · refine absurd ?_ hnot
          show ExecutionStatus.denied ∈ record.state.status.publicTransitions
          rw [hawaiting]
          decide
  | raised exception =>
      exact .inl (terminal_onException coordinator world exception
        (.inl (hraises exception (.inl rfl))))
  | timedOut exception =>
      exact .inl (terminal_onException coordinator world exception
        (.inl (hraises exception (.inr rfl))))
  | cancelled =>
      exact .inl (terminal_onCancelled coordinator world (row_of_status h (by decide)))

end Ends

/-! ## Runs -/

/-- What a move of the coordinator's environment must not do. -/
def Guard (s : Session κ) : Move → Prop
  | .finish (.returned pipeline) =>
      s.work = .initial ∨ s.work = .resume .allow → PausesAfresh s.record pipeline
  | .finish (.raised _) | .finish (.timedOut _) =>
      s.work = .resume .deny → s.record.state.terminal = true
  | .submit principalId approvalId decision =>
      ∀ accepted, Coordinator.checkSubmission s.record principalId approvalId decision =
          .ok accepted →
        (coordinator.resolveApproval s.record s.world approvalId accepted).raised = none
  | _ => True

lemma rests_finish {s t : Session κ} {outcome : Outcome} (hfits : Fits s.record s.work)
    (hguard : Guard coordinator s (.finish outcome))
    (hstep : s.step coordinator (.finish outcome) = some t) : Rests t.record ∧ t.work = .none := by
  have hfresh : s.work = .initial ∨ s.work = .resume .allow →
      ∀ pipeline, outcome = .returned pipeline → PausesAfresh s.record pipeline := by
    rintro hwork pipeline rfl
    exact hguard hwork
  cases hwork : s.work with
  | none =>
      simp only [Session.step, hwork] at hstep
      cases hstep
  | queued =>
      cases outcome with
      | cancelled =>
          simp only [Session.step, hwork, Option.some.injEq] at hstep
          subst hstep
          rw [hwork] at hfits
          refine ⟨rests_andSave coordinator (.inl (terminal_onCancelled coordinator _ ?_)), rfl⟩
          rcases hfits with hterminal | hplanning | hrecovering
          · exact .inl hterminal
          · exact row_of_status (.inr hplanning) (by decide)
          · exact row_of_status (.inr hrecovering) (by decide)
      | returned | raised | timedOut =>
          simp only [Session.step, hwork] at hstep
          cases hstep
  | initial =>
      simp only [Session.step, hwork, Option.some.injEq] at hstep
      subst hstep
      rw [hwork] at hfits
      exact ⟨rests_finishInitial coordinator _ hfits outcome (hfresh (.inl hwork)), rfl⟩
  | resume decision =>
      simp only [Session.step, hwork, Option.some.injEq] at hstep
      subst hstep
      rw [hwork] at hfits
      cases decision with
      | allow =>
          exact ⟨rests_finishResume_allow coordinator _ hfits outcome (hfresh (.inr hwork)), rfl⟩
      | deny =>
          refine ⟨rests_finishResume_deny coordinator _ (hfits.imp_right fun h => h.1) outcome ?_,
            rfl⟩
          rintro exception (rfl | rfl)
          · exact hguard hwork
          · exact hguard hwork

lemma fits_ending {record : ActiveExecution} {work : Work} (h : Fits record work) (world : κ)
    {status : ExecutionStatus} (hterminal : status.terminal = true) (error : Option String)
    {next : ActiveExecution → κ → Ran κ}
    (hnext : ∀ r world, r.state.terminal = true → (next r world).record.state.terminal = true) :
    Fits ((coordinator.transition record world status error).andThen next).record work := by
  rcases ended_transition coordinator record world hterminal error with hended | ⟨hran, hraised, -⟩
  · exact fits_of_terminal (Ran.andThen_record (P := fun r => r.state.terminal = true) hended hnext)
      work
  · obtain ⟨exception, hexception⟩ := Option.isSome_iff_exists.mp hraised
    rw [Ran.andThen_of_some hexception, hran]
    exact h

lemma terminal_closeWith {record : ActiveExecution} (h : record.state.terminal = true) (world : κ)
    (status : ExecutionStatus) (error : String) :
    (coordinator.closeWith record world status error).record.state.terminal = true := by
  unfold Coordinator.closeWith
  rw [Coordinator.recorded_record,
    (sameApprovals_saveCheckpoint coordinator _ world false).terminal]
  exact h

lemma fits_start {s t : Session κ} (hstep : s.step coordinator .start = some t) :
    Fits t.record t.work := by
  simp only [Session.step] at hstep
  split at hstep
  · rename_i hcreated
    obtain rfl := Option.some.inj hstep
    have hsaved := sameApprovals_saveCheckpoint coordinator s.record s.world true
    have hstatus : (coordinator.recorded (coordinator.saveCheckpoint s.record s.world true)
        .executionCreated).record.state.status = .created := by
      rw [Coordinator.recorded_record]
      exact hsaved.status.trans hcreated.2
    unfold Coordinator.announce
    have hnot : ∀ r : ActiveExecution, r.state.status ≠ .awaitingApproval → ¬ Wedged r :=
      fun r hne hwedged => hne hwedged.1
    cases hraised : (coordinator.recorded (coordinator.saveCheckpoint s.record s.world true)
        .executionCreated).raised with
    | some exception =>
        simp only [Session.after, Ran.andThen_of_some hraised, hraised, Option.isNone_some]
        refine hnot _ ?_
        rw [hstatus]
        decide
    | none =>
        simp only [Session.after, Ran.andThen_of_none hraised]
        have hplanning := status_transition coordinator hstatus
          (show ExecutionStatus.planning ∈ _ by decide) (by decide)
          (coordinator.recorded (coordinator.saveCheckpoint s.record s.world true)
            .executionCreated).world none
        split
        · exact .inr (.inl hplanning)
        · refine hnot _ ?_
          rw [hplanning]
          decide
  · cases hstep

lemma fits_enter {s t : Session κ} (hfits : Fits s.record s.work)
    (hstep : s.step coordinator .enter = some t) : Fits t.record t.work := by
  simp only [Session.step] at hstep
  split at hstep
  · rename_i hwork
    rw [hwork] at hfits
    split at hstep
    · obtain rfl := Option.some.inj hstep
      rcases hfits with hterminal | hplanning | hrecovering
      · exact fits_of_terminal hterminal .none
      · rintro ⟨hawaiting, -⟩
        rw [hplanning] at hawaiting
        cases hawaiting
      · rintro ⟨hawaiting, -⟩
        rw [hrecovering] at hawaiting
        cases hawaiting
    · rename_i hopen
      have hnot : s.record.state.terminal ≠ true := fun h => hopen (by simp [h])
      have hstatus := hfits.resolve_left hnot
      have hrunning := status_enterInitial coordinator hstatus s.world
      split at hstep
      · obtain rfl := Option.some.inj hstep
        exact .inr hrunning
      · obtain rfl := Option.some.inj hstep
        refine not_wedged_of_rests (rests_andSave coordinator
          (rests_onException coordinator _ _ (.inr ?_)))
        rw [hrunning]
        decide
  · cases hstep

lemma open_of_checkSubmission {record : ActiveExecution} {principalId approvalId decision : String}
    {accepted : Decision}
    (h : Coordinator.checkSubmission record principalId approvalId decision = .ok accepted) :
    record.state.status = .awaitingApproval ∧ record.state.pendingApprovalId = some approvalId ∧
      approvalId ∉ record.resolvedApprovals := by
  unfold Coordinator.checkSubmission at h
  split at h
  · cases h
  · split at h
    · cases h
    · rename_i hstatus
      split at h
      · cases h
      · rename_i hpending
        split at h
        · cases h
        · rename_i hresolved
          exact ⟨not_not.mp hstatus, not_not.mp hpending, hresolved⟩

lemma fits_allowed {record : ActiveExecution} (world : κ)
    (hstatus : record.state.status = .awaitingApproval) :
    let ran := (coordinator.transition record world .approved).andThen fun record world =>
      coordinator.transition record world .running
    Fits ran.record (if ran.raised.isNone then .resume .allow else .none) := by
  intro ran
  have hnot : ∀ r : ActiveExecution, r.state.status ≠ .awaitingApproval → ¬ Wedged r :=
    fun r hne hwedged => hne hwedged.1
  have happroved : (coordinator.transition record world .approved).record.state.status =
      .approved := status_transition coordinator hstatus (by decide) (by decide) _ _
  cases hraised : (coordinator.transition record world .approved).raised with
  | some exception =>
      simp only [ran, Ran.andThen_of_some hraised, hraised]
      refine hnot _ ?_
      rw [happroved]
      decide
  | none =>
      have hrunning : ran.record.state.status = .running := by
        simp only [ran, Ran.andThen_of_none hraised]
        exact status_transition coordinator happroved (by decide) (by decide) _ _
      split
      · exact .inr hrunning
      · refine hnot _ ?_
        rw [hrunning]
        decide

lemma fits_submit {s t : Session κ} {principalId approvalId decision : String}
    (hfits : Fits s.record s.work)
    (hguard : Guard coordinator s (.submit principalId approvalId decision))
    (hstep : s.step coordinator (.submit principalId approvalId decision) = some t) :
    Fits t.record t.work := by
  simp only [Session.step] at hstep
  split at hstep
  · obtain rfl := Option.some.inj hstep
    exact hfits
  · rename_i accepted haccepted
    obtain rfl := Option.some.inj hstep
    obtain ⟨hawaiting, hpending, hfresh⟩ := open_of_checkSubmission haccepted
    have hopen : Open s.record := ⟨hawaiting, approvalId, hpending, hfresh⟩
    have hidle : s.work = .none := by
      -- every other task fits no record whose approval is open
      cases hwork : s.work with
      | none => rfl
      | queued =>
          rw [hwork, Fits, ExecutionState.terminal, hawaiting] at hfits
          rcases hfits with h | h | h <;> cases h
      | initial =>
          rw [hwork, Fits, ExecutionState.terminal, hawaiting] at hfits
          rcases hfits with h | h <;> cases h
      | resume d =>
          rw [hwork] at hfits
          cases d with
          | allow =>
              rw [Fits, ExecutionState.terminal, hawaiting] at hfits
              rcases hfits with h | h <;> cases h
          | deny =>
              rcases hfits with h | h
              · rw [ExecutionState.terminal, hawaiting] at h
                cases h
              · exact absurd hopen h.2
    have hsaved := hguard accepted haccepted
    have hsame := sameApprovals_resolveApproval coordinator s.record s.world approvalId accepted
    have hstatus : (coordinator.resolveApproval s.record s.world approvalId
        accepted).record.state.status = .awaitingApproval := hsame.status.trans hawaiting
    simp only [Coordinator.acceptSubmission, Ran.andThen_of_none hsaved, hidle]
    cases accepted with
    | deny =>
        refine .inr ⟨hstatus, ?_⟩
        rintro ⟨-, id, hid, hnot⟩
        have hsome : some approvalId = some id := hpending.symm.trans (hsame.pending.symm.trans hid)
        obtain rfl := Option.some.inj hsome
        simp only [Session.after] at hnot
        rw [hsame.resolved] at hnot
        exact hnot List.mem_insert_self
    | allow => exact fits_allowed coordinator _ hstatus

lemma wedged_of_checkSubmission {record : ActiveExecution}
    {principalId approvalId decision : String}
    (h : Coordinator.checkSubmission record principalId approvalId decision =
      .error "Approval has already been resolved.") : Wedged record := by
  unfold Coordinator.checkSubmission at h
  split at h
  · exact absurd (Except.error.inj h) (by decide)
  · split at h
    · exact absurd (Except.error.inj h) (by decide)
    · rename_i hstatus
      split at h
      · exact absurd (Except.error.inj h) (by decide)
      · rename_i hpending
        split at h
        · rename_i hresolved
          refine ⟨not_not.mp hstatus, ?_⟩
          rintro ⟨-, id, hid, hnot⟩
          rw [not_not.mp hpending] at hid
          exact hnot (Option.some.inj hid ▸ hresolved)
        · split at h
          · exact absurd (Except.error.inj h) (by decide)
          · split at h
            · exact absurd (Except.error.inj h) (by decide)
            · cases h

lemma fits_cancelTail {s t : Session κ} (hfits : Fits s.record s.work)
    (hstep : s.step coordinator .cancelTail = some t) : Fits t.record t.work := by
  simp only [Session.step] at hstep
  split at hstep
  · obtain rfl := Option.some.inj hstep
    simp only [Session.after, Coordinator.cancelTail]
    split
    · rename_i hterminal
      exact fits_of_terminal (terminal_closeWith coordinator hterminal _ _ _) _
    · exact fits_ending coordinator hfits s.world rfl none fun r world h =>
        terminal_closeWith coordinator h world _ _
  · cases hstep

/-- Every guarded move keeps what fits the task. -/
lemma fits_step {s t : Session κ} {move : Move} (hfits : Fits s.record s.work)
    (hguard : Guard coordinator s move) (hstep : s.step coordinator move = some t) :
    Fits t.record t.work := by
  cases move with
  | start => exact fits_start coordinator hstep
  | recover =>
      simp only [Session.step] at hstep
      split at hstep
      · rename_i hrecovering
        obtain rfl := Option.some.inj hstep
        exact .inr (.inr hrecovering.2)
      · cases hstep
  | enter => exact fits_enter coordinator hfits hstep
  | finish outcome =>
      obtain ⟨hrests, hwork⟩ := rests_finish coordinator hfits hguard hstep
      rw [hwork]
      exact not_wedged_of_rests hrests
  | checkpoint details =>
      simp only [Session.step] at hstep
      split at hstep
      · cases hstep
      · obtain rfl := Option.some.inj hstep
        exact ((sameApprovals_runtimeCheckpoint coordinator _ _ details).fits_iff _).mpr hfits
  | submit principalId approvalId decision => exact fits_submit coordinator hfits hguard hstep
  | cancel =>
      simp only [Session.step] at hstep
      split at hstep
      · obtain rfl := Option.some.inj hstep
        exact hfits
      · obtain rfl := Option.some.inj hstep
        have hsame : SameApprovals s.record { s.record with cancelEvent := true } := ⟨rfl, rfl, rfl⟩
        exact (hsame.fits_iff s.work).mpr hfits
  | cancelTail => exact fits_cancelTail coordinator hfits hstep
  | timeout error =>
      simp only [Session.step] at hstep
      split at hstep
      · obtain rfl := Option.some.inj hstep
        exact hfits
      · obtain rfl := Option.some.inj hstep
        exact fits_ending coordinator hfits s.world rfl _ fun _ _ h => h
  | timeoutTail error =>
      simp only [Session.step] at hstep
      split at hstep
      · rename_i htimedOut
        obtain rfl := Option.some.inj hstep
        have hterminal : s.record.state.terminal = true := by
          rw [ExecutionState.terminal, htimedOut]
          rfl
        exact fits_of_terminal (terminal_closeWith coordinator hterminal _ _ _) _
      · cases hstep

lemma finish_of_idle {s t : Session κ} {move : Move} {decision : Decision}
    (hstep : s.step coordinator move = some t) (hwork : s.work = .resume decision)
    (hidle : t.work = .none) : ∃ outcome, move = .finish outcome := by
  have hbusy : ∀ t' : Session κ, t'.work = s.work → some t' ≠ some t := by
    rintro t' hsame heq
    obtain rfl := Option.some.inj heq
    rw [hsame, hwork] at hidle
    cases hidle
  cases move with
  | finish outcome => exact ⟨outcome, rfl⟩
  | submit principalId approvalId submitted =>
      simp only [Session.step] at hstep
      split at hstep
      · exact absurd hstep (hbusy s rfl)
      · obtain rfl := Option.some.inj hstep
        simp only [Session.after] at hidle
        split at hidle
        · cases hidle
        · rw [hwork] at hidle
          cases hidle
  | start | recover | enter =>
      simp only [Session.step, hwork] at hstep
      split at hstep <;> simp_all
  | checkpoint | cancel | cancelTail | timeout | timeoutTail =>
      simp only [Session.step] at hstep
      split at hstep
      all_goals first
        | exact absurd hstep (hbusy _ rfl)
        | cases hstep

/-- Over every run of a new or restored execution whose moves all meet the guard: an execution
without a task is not wedged, `submit_approval` does not call its approval resolved, and a
resume that is done leaves it ended or with an open approval. -/
theorem no_wedged_approval {record : ActiveExecution} {world : κ} (hstart : ¬ Wedged record)
    {moves : List Move} {s : Session κ}
    (hguard : (Session.machine coordinator).Guarded (Guard coordinator)
      { record := record, world := world } moves)
    (hrun : (Session.machine coordinator).run { record := record, world := world } moves = some s) :
    (s.work = .none → ¬ Wedged s.record ∧
      ∀ principalId approvalId decision,
        Coordinator.checkSubmission s.record principalId approvalId decision ≠
          .error "Approval has already been resolved.") ∧
    ∀ move t, Guard coordinator s move → (Session.machine coordinator).step s move = some t →
      (∃ decision, s.work = .resume decision) → t.work = .none → Rests t.record := by
  have hstep : ∀ (s : Session κ) move t, Fits s.record s.work → Guard coordinator s move →
      (Session.machine coordinator).step s move = some t → Fits t.record t.work :=
    fun _ _ _ hfits hguard hstep => fits_step coordinator hfits hguard hstep
  have hinit : Fits record .none := hstart
  have hfits := (Session.machine coordinator).guarded_invariant hstep hinit hguard hrun
  refine ⟨fun hidle => ?_, ?_⟩
  · rw [hidle] at hfits
    refine ⟨hfits, fun principalId approvalId decision hresolved => hfits ?_⟩
    exact wedged_of_checkSubmission hresolved
  · rintro move t hguard hstep ⟨decision, hwork⟩ hidle
    obtain ⟨outcome, rfl⟩ := finish_of_idle coordinator hstep hwork hidle
    exact (rests_finish coordinator hfits hguard hstep).1

/-! ### An execution that pauses at task `a` -/

/-- An execution of the local principal, about to start. -/
def newRecord : ActiveExecution := { state := { executionId := "x", principalId := some "local" } }

/-- A pipeline whose task `a` is in some state. -/
def pipelineAt (status : TaskStatus) : PipelineState where
  request := ""
  runtimeResult := some { taskId := "a", status := status }

/-- The execution starts, pauses at `a`, is answered, and its resume ends in some way. -/
def answeredRun (decision : String) (outcome : Outcome) : List Move :=
  [.start, .enter, .finish (.returned (pipelineAt .paused)), .submit "local" "a" decision,
    .finish outcome]

/-- The session at the end of such a run. -/
def answered (decision : String) (outcome : Outcome) : Session Unit :=
  ((Session.machine storeless).run { record := newRecord, world := () }
    (answeredRun decision outcome)).getD { record := default, world := () }

lemma run_answered {decision : String} {outcome : Outcome}
    (h : ((Session.machine storeless).run { record := newRecord, world := () }
      (answeredRun decision outcome)).isSome = true) :
    (Session.machine storeless).run { record := newRecord, world := () }
      (answeredRun decision outcome) = some (answered decision outcome) :=
  some_getD h _

/-- Answered with a pause elsewhere or an end, the execution is not wedged. -/
theorem no_wedged_approval_sample :
    (answered "allow" (.returned (pipelineAt .completed))).work = .none ∧
      ¬ Wedged (answered "allow" (.returned (pipelineAt .completed))).record := by
  have hidle : (answered "allow" (.returned (pipelineAt .completed))).work = .none := by decide
  have hstart : ¬ Wedged newRecord := fun hwedged => absurd hwedged.1 (by decide)
  refine ⟨hidle, ((no_wedged_approval storeless hstart ?_ (run_answered (by decide))).1 hidle).1⟩
  refine ⟨trivial, fun s₁ h₁ => ⟨trivial, fun s₂ h₂ => ⟨?_, fun s₃ h₃ => ⟨?_, fun s₄ h₄ =>
    ⟨?_, fun _ _ => trivial⟩⟩⟩⟩⟩
  · intro _ _ _ result _ _
    obtain rfl := Option.some.inj h₁
    obtain rfl := Option.some.inj h₂
    exact List.not_mem_nil
  · exact fun _ _ => rfl
  · intro _ _ _ result hresult hpaused
    obtain rfl := Option.some.inj hresult
    cases hpaused

/-- Allowed, task `a` pauses once more; denied, its pipeline raises.  Either way the execution
awaits an approval that is resolved. -/
theorem approval_wedged :
    (answered "allow" (.returned (pipelineAt .paused))).work = .none ∧
      Wedged (answered "allow" (.returned (pipelineAt .paused))).record ∧
      (answered "deny" (.raised "unknown task")).work = .none ∧
      Wedged (answered "deny" (.raised "unknown task")).record ∧
      (Session.machine storeless).run { record := newRecord, world := () }
        (answeredRun "allow" (.returned (pipelineAt .paused))) =
          some (answered "allow" (.returned (pipelineAt .paused))) ∧
      (Session.machine storeless).run { record := newRecord, world := () }
        (answeredRun "deny" (.raised "unknown task")) =
          some (answered "deny" (.raised "unknown task")) := by
  refine ⟨by decide, ⟨by decide, ?_⟩, by decide, ⟨by decide, ?_⟩, run_answered (by decide),
    run_answered (by decide)⟩
  · rintro ⟨-, id, hid, hnot⟩
    obtain rfl : "a" = id := Option.some.inj hid
    exact hnot (by decide)
  · rintro ⟨-, id, hid, hnot⟩
    obtain rfl : "a" = id := Option.some.inj hid
    exact hnot (by decide)

end Samaktha
