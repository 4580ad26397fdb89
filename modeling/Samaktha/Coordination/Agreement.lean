import Samaktha.Coordination.Race

/-!
# What a terminal execution says of itself

Once an execution has ended, its status, the result that `result` hands out, the report in the
result's metadata and the report of the pipeline should say the same (`Told`).  The status itself
never changes again, in any run; the others are written by whoever comes last.

`outcome_agrees` gives the runs in which they agree throughout.  What its guard leaves out: a
pipeline whose result and report disagree when it comes; a denial whose pipeline returns a
completed or cancelled result, which is kept; an exception of the task once the execution has
ended, and a cancellation that comes back to an execution that ended otherwise, each of which
overwrites the result; a pipeline that is stored, or was stored before a timeout, with a report of
its own; and a checkpoint or evidence store that fails while the execution ends.
-/

namespace Samaktha

/-- The truth state of a terminal status, completed or not. -/
def outcomeState (status : ExecutionStatus) : ExecutionTruthState :=
  if status = .completed then .succeeded else Coordinator.truthState status

def ExecutionReport.Says (report : ExecutionReport) (status : ExecutionStatus) : Prop :=
  report.success = decide (status = .completed) ∧ report.executionState = outcomeState status

/-- The result of a pipeline and both places of its report say what the status says. -/
structure Tells (pipeline : PipelineState) (status : ExecutionStatus) : Prop where
  completed : ∀ result, pipeline.runtimeResult = some result →
    (result.status = .completed ↔ status = .completed)
  cancelled : ∀ result, pipeline.runtimeResult = some result →
    (result.status = .cancelled ↔ status = .cancelled)
  shown : ∀ result, pipeline.runtimeResult = some result →
    ∀ json, Dict.get? result.metadata "execution_report" = some json →
      ∃ report : ExecutionReport, json = report.modelDump ∧ report.Says status
  report : ∀ report, pipeline.executionReport = some report → report.Says status

/-- Where the execution has ended, the stored pipeline says what its status says. -/
def Told (record : ActiveExecution) : Prop :=
  record.state.terminal = true →
    ∀ pipeline, record.pipelineState = some pipeline → Tells pipeline record.state.status

section Told

variable {record record' : ActiveExecution}

lemma told_of_open (h : record.state.terminal = false) : Told record := by
  intro hterminal
  rw [h] at hterminal
  cases hterminal

lemma Told.congr (hstatus : record'.state.status = record.state.status)
    (hpipeline : record'.pipelineState = record.pipelineState) (h : Told record) :
    Told record' := by
  intro hterminal pipeline hsome
  rw [hstatus]
  rw [ExecutionState.terminal, hstatus] at hterminal
  exact h hterminal pipeline (hpipeline.symm.trans hsome)

/-- What `_set_terminal_result` writes: one report in both places, beside the result it keeps or
a result of its own. -/
lemma setTerminalResult_spec (record : ActiveExecution) (status : ExecutionStatus) (error : String)
    (preserve : Bool) :
    ∃ pipeline result report,
      (Coordinator.setTerminalResult record status error preserve).pipelineState = some pipeline ∧
      pipeline.runtimeResult = some result ∧ pipeline.executionReport = some report ∧
      Dict.get? result.metadata "execution_report" = some report.modelDump ∧
      report.success = false ∧ report.executionState = Coordinator.truthState status ∧
      ((preserve = true ∧ ∃ before kept, record.pipelineState = some before ∧
          before.runtimeResult = some kept ∧ result.status = kept.status) ∨
        result.status = if status = .cancelled then .cancelled else .failed) := by
  have hshown (metadata : Dict String Json) (report id : Json) : Dict.get? (Dict.update metadata
      [("execution_report", report), ("execution_id", id)]) "execution_report" = some report := by
    have hne : "execution_id" ≠ "execution_report" := by decide
    rw [Dict.update_cons, Dict.update_cons, Dict.update_nil, Dict.get?_set_of_ne hne,
      Dict.get?_set_self]
  refine ⟨_, _, _, rfl, rfl, rfl, hshown _ _ _, rfl, rfl, ?_⟩
  dsimp only
  split
  · rename_i hpreserve
    cases hbefore : record.pipelineState with
    | none => exact .inr rfl
    | some before =>
        cases hkept : before.runtimeResult with
        | none => exact .inr (by simp [hkept])
        | some kept => exact .inl ⟨hpreserve, before, kept, rfl, hkept, by simp [hkept]⟩
  · exact .inr rfl

lemma tells_setTerminalResult (record : ActiveExecution) {status : ExecutionStatus}
    (hne : status ≠ .completed) (error : String) (preserve : Bool)
    (hkept : preserve = true → ∀ pipeline result, record.pipelineState = some pipeline →
      pipeline.runtimeResult = some result →
        result.status ≠ .completed ∧ (result.status = .cancelled ↔ status = .cancelled))
    {pipeline : PipelineState}
    (h : (Coordinator.setTerminalResult record status error preserve).pipelineState =
      some pipeline) : Tells pipeline status := by
  obtain ⟨written, result, report, hwritten, hresult, hreport, hshown, hsuccess, hstate, hstatus⟩ :=
    setTerminalResult_spec record status error preserve
  obtain rfl := Option.some.inj (hwritten.symm.trans h)
  have hsays : report.Says status := by
    refine ⟨?_, ?_⟩
    · rw [hsuccess, decide_eq_false hne]
    · rw [hstate, outcomeState, if_neg hne]
  have hshows : result.status ≠ .completed ∧
    (result.status = .cancelled ↔ status = .cancelled) := by
    rcases hstatus with ⟨hpreserve, before, kept, hbefore, hsome, hsame⟩ | hown
    · rw [hsame]
      exact hkept hpreserve before kept hbefore hsome
    · rw [hown]
      split
      · rename_i hcancelled
        exact ⟨by decide, by simp [hcancelled]⟩
      · rename_i hother
        exact ⟨by decide, by simp [hother]⟩
  constructor
  · intro r hr
    obtain rfl := Option.some.inj (hresult.symm.trans hr)
    exact iff_of_false hshows.1 hne
  · intro r hr
    obtain rfl := Option.some.inj (hresult.symm.trans hr)
    exact hshows.2
  · intro r hr json hjson
    obtain rfl := Option.some.inj (hresult.symm.trans hr)
    exact ⟨report, (Option.some.inj (hshown.symm.trans hjson)).symm, hsays⟩
  · intro r hr
    obtain rfl := Option.some.inj (hreport.symm.trans hr)
    exact hsays

lemma told_setTerminalResult {status : ExecutionStatus} (hstatus : record.state.status = status)
    (hne : status ≠ .completed) (error : String) :
    Told (Coordinator.setTerminalResult record status error) := by
  intro _ pipeline hpipeline
  have htells := tells_setTerminalResult record hne error false (fun h => by cases h)
    hpipeline
  show Tells pipeline record.state.status
  rw [hstatus]
  exact htells

end Told

/-! ## Stores that do not fail -/

section Calm

variable {κ : Type} (coordinator : Coordinator κ)

/-- What the coordinator hands to a store. -/
inductive Stored where
  | checkpoint (checkpoint : RecoveryCheckpoint)
  | evidence (evidence : EvidenceType) (state : ExecutionState)

/-- Storing these one after another raises nothing but `CheckpointError`s. -/
def StoresFrom (world : κ) : List Stored → Prop
  | [] => True
  | .checkpoint checkpoint :: rest =>
      match coordinator.save with
      | none => StoresFrom world rest
      | some save =>
          (∀ exception, (save world checkpoint).2 ≠ .raised exception) ∧
            StoresFrom (save world checkpoint).1 rest
  | .evidence evidence state :: rest =>
      match coordinator.evidence with
      | none => StoresFrom world rest
      | some recorder =>
          (recorder world evidence state).2 = none ∧
            StoresFrom (recorder world evidence state).1 rest

/-- The stores raise nothing else, whatever they are handed. -/
def Calm (world : κ) : Prop := ∀ stored, StoresFrom coordinator world stored

variable {coordinator} {world : κ} {record : ActiveExecution}

lemma Calm.saveCheckpoint (h : Calm coordinator world) (record : ActiveExecution)
    (recoverySafe : Bool) :
    (coordinator.saveCheckpoint record world recoverySafe).raised = none ∧
      Calm coordinator (coordinator.saveCheckpoint record world recoverySafe).world := by
  unfold Coordinator.saveCheckpoint
  split
  · exact ⟨rfl, h⟩
  · rename_i save hsave
    have hsaves (checkpoint : RecoveryCheckpoint) (rest : List Stored) :
        (∀ exception, (save world checkpoint).2 ≠ .raised exception) ∧
          StoresFrom coordinator (save world checkpoint).1 rest := by
      have hall := h (.checkpoint checkpoint :: rest)
      rw [StoresFrom, hsave] at hall
      exact hall
    refine ⟨?_, fun rest => (hsaves _ rest).2⟩
    dsimp only
    split
    · rename_i exception hraised
      exact absurd hraised ((hsaves _ []).1 exception)
    · rfl

lemma Calm.recorded {ran : Ran κ} (h : ran.raised = none ∧ Calm coordinator ran.world)
    (evidence : EvidenceType) :
    (coordinator.recorded ran evidence).raised = none ∧
      Calm coordinator (coordinator.recorded ran evidence).world := by
  rw [Coordinator.recorded, Ran.andThen_of_none h.1]
  split
  · exact ⟨rfl, h.2⟩
  · rename_i recorder hrecorder
    have hrecords (rest : List Stored) :
        (recorder ran.world evidence ran.record.state).2 = none ∧
          StoresFrom coordinator (recorder ran.world evidence ran.record.state).1 rest := by
      have hall := h.2 (.evidence evidence ran.record.state :: rest)
      rw [StoresFrom, hrecorder] at hall
      exact hall
    exact ⟨(hrecords []).1, fun rest => (hrecords rest).2⟩

lemma Calm.transition (h : Calm coordinator world) {status : ExecutionStatus}
    (hmem : status ∈ record.state.status.publicTransitions) (hne : status ≠ record.state.status)
    (error : Option String) :
    (coordinator.transition record world status error).raised = none ∧
      Calm coordinator (coordinator.transition record world status error).world := by
  rw [coordinator.transition_of_mem hmem hne]
  exact Calm.recorded (h.saveCheckpoint _ _) _

lemma Calm.transition_from (h : Calm coordinator world) {status target : ExecutionStatus}
    (hstatus : record.state.status = status) (hmem : target ∈ status.publicTransitions)
    (hne : target ≠ status) (error : Option String) :
    (coordinator.transition record world target error).raised = none ∧
      Calm coordinator (coordinator.transition record world target error).world := by
  subst hstatus
  exact h.transition hmem hne error

end Calm

/-! ## What each end of an execution tells -/

section Ends

variable {κ : Type} {coordinator : Coordinator κ} {world : κ} {record : ActiveExecution}

lemma told_saveCheckpoint (h : Told record) (world : κ) (recoverySafe : Bool) :
    Told (coordinator.saveCheckpoint record world recoverySafe).record :=
  h.congr (by rw [Coordinator.saveCheckpoint_state])
    (by rw [Coordinator.saveCheckpoint_pipelineState])

lemma told_andSave {ran : Ran κ} (h : Told ran.record) :
    Told (coordinator.andSave ran).record :=
  Ran.andThen_record (P := Told) h fun _ world hr => told_saveCheckpoint hr world false

lemma told_closing (hcalm : Calm coordinator world) {status : ExecutionStatus}
    (hterminal : status.terminal = true) (error : Option String)
    {next : ActiveExecution → κ → Ran κ}
    (hended : record.state.terminal = true → Told (next record world).record)
    (hmoved : ∀ r world, r.state.status = status → Told (next r world).record) :
    Told (Ran.andThen (if record.state.terminal then { record := record, world := world }
      else coordinator.transition record world status error) next).record := by
  split
  · exact hended ‹_›
  · rename_i hopen
    cases transited coordinator record world status error with
    | kept hsame happrovals =>
        rw [hsame] at hterminal
        exact absurd hterminal hopen
    | moved hmem hstatus hpending hresolved =>
        have hne : status ≠ record.state.status := by
          rintro rfl
          exact hopen hterminal
        rw [Ran.andThen_of_none (hcalm.transition hmem hne error).1]
        exact hmoved _ _ hstatus
    | refused hmem hne hran hraised =>
        obtain ⟨exception, hexception⟩ := Option.isSome_iff_exists.mp hraised
        rw [Ran.andThen_of_some hexception, hran]
        exact told_of_open (Bool.eq_false_iff.mpr hopen)

lemma told_onCancelled (hcalm : Calm coordinator world)
    (h : record.state.terminal = true →
      record.state.status = .timedOut ∨ record.state.status = .cancelled) :
    Told (coordinator.onCancelled record world).record := by
  have hset : ∀ r : ActiveExecution, r.state.status = .timedOut ∨ r.state.status = .cancelled →
      Told (Coordinator.setTerminalResult r
        (if r.state.status = .timedOut then .timedOut else .cancelled)
        (orText r.state.error "Execution cancelled.")) := by
    rintro r (hstatus | hstatus)
    · rw [if_pos hstatus]
      exact told_setTerminalResult hstatus (by decide) _
    · rw [if_neg (by rw [hstatus]; decide)]
      exact told_setTerminalResult hstatus (by decide) _
  exact told_closing hcalm rfl _ (fun hterminal => hset record (h hterminal))
    fun r _ hstatus => hset r (.inr hstatus)

lemma told_onTimeout (hcalm : Calm coordinator world) (text : String)
    (h : record.state.terminal = true → record.state.status = .timedOut) :
    Told (coordinator.onTimeout text record world).record :=
  told_closing hcalm rfl _ (fun hterminal => told_setTerminalResult (h hterminal) (by decide) _)
    fun _ _ hstatus => told_setTerminalResult hstatus (by decide) _

lemma told_onException (hcalm : Calm coordinator world) (exception : String)
    (h : record.state.terminal = false) :
    Told (coordinator.onException exception record world).record := by
  have hopen : { record with failureException := some exception }.state.terminal = true →
      False := by
    intro hterminal
    have hterminal : record.state.terminal = true := hterminal
    rw [h] at hterminal
    cases hterminal
  exact told_closing hcalm rfl _ (fun hterminal => (hopen hterminal).elim)
    fun _ _ hstatus => told_setTerminalResult hstatus (by decide) _

lemma told_closeWith {status : ExecutionStatus} (hstatus : record.state.status = status)
    (hne : status ≠ .completed) (world : κ) (error : String) :
    Told (coordinator.closeWith record world status error).record := by
  have hset := told_setTerminalResult hstatus hne error
  rw [Coordinator.closeWith, Coordinator.recorded_record]
  refine told_saveCheckpoint ?_ world false
  refine hset.congr ?_ ?_
  · rfl
  · rfl

lemma told_cancelTail (hcalm : Calm coordinator world)
    (h : record.state.terminal = true → record.state.status = .cancelled) :
    Told (coordinator.cancelTail record world).record :=
  told_closing hcalm rfl _ (fun hterminal => told_closeWith (h hterminal) (by decide) _ _)
    fun _ _ hstatus => told_closeWith hstatus (by decide) _ _

/-! ### A pipeline that is settled -/

lemma raised_settling (hcalm : Calm coordinator world) {status target : ExecutionStatus}
    (hstatus : record.state.status = status) (hmem : target ∈ status.publicTransitions)
    (hne : target ≠ status) (error : Option String) :
    ((coordinator.transition record world target error).andThen fun record world =>
      coordinator.saveCheckpoint record world).raised = none ∧
    Calm coordinator ((coordinator.transition record world target error).andThen
      fun record world => coordinator.saveCheckpoint record world).world := by
  have hmoved := hcalm.transition_from hstatus hmem hne error
  rw [Ran.andThen_of_none hmoved.1]
  exact hmoved.2.saveCheckpoint _ _

lemma raised_settleResult (hcalm : Calm coordinator world)
    (hrunning : record.state.status = .running) {result : Option RuntimeResult}
    (hopen : ∀ r, result = some r → r.status ≠ .paused) :
    (coordinator.settleResult record world result).raised = none := by
  obtain ⟨error, heq⟩ := coordinator.settleResult_eq record world hopen
  obtain ⟨hmem, hne⟩ := Coordinator.settledStatus_spec result
  rw [heq]
  refine (raised_settling hcalm ?_ hmem hne error).1
  exact hrunning

/-- From `running`, a pipeline whose results are readable is settled as its result says, and one
with an unreadable result leaves the execution running. -/
lemma settled_or_running (hcalm : Calm coordinator world)
    (hrunning : record.state.status = .running) (pipeline : PipelineState) :
    (ReadablePipeline pipeline ∧
      (coordinator.settlePipeline record world pipeline).raised = none ∧
      (coordinator.settlePipeline record world pipeline).record.state.status =
        Coordinator.settledStatus pipeline.runtimeResult) ∨
    ((coordinator.settlePipeline record world pipeline).record.state.status = .running ∧
      Calm coordinator (coordinator.settlePipeline record world pipeline).world) := by
  have hstatus := (sameApprovals_captureWorkflowReliability coordinator record world
    pipeline).status.trans hrunning
  have hworld : (coordinator.captureWorkflowReliability record world pipeline).world = world := by
    unfold Coordinator.captureWorkflowReliability
    split <;> rfl
  unfold Coordinator.settlePipeline
  cases hcaptured : (coordinator.captureWorkflowReliability record world pipeline).raised with
  | some exception =>
      rw [Ran.andThen_of_some hcaptured, hworld]
      exact .inr ⟨hstatus, hcalm⟩
  | none =>
      have hreadable : ReadablePipeline pipeline := fun workflow hworkflow =>
        (coordinator.captureWorkflowReliability_spec record world hworkflow).1.mp hcaptured
      refine .inl ⟨hreadable, ?_⟩
      rw [Ran.andThen_of_none hcaptured, hworld]
      cases hresult : pipeline.runtimeResult with
      | none =>
          have hopen : ∀ r : RuntimeResult, none = some r → r.status ≠ .paused :=
            fun _ h => absurd h (Option.some_ne_none _).symm
          exact ⟨raised_settleResult hcalm hstatus hopen,
            coordinator.status_settleResult hstatus world hopen⟩
      | some result =>
          by_cases hpaused : result.status = .paused
          · simp only [if_pos hpaused, Coordinator.settledStatus]
            have hallowed : ExecutionStatus.awaitingApproval ∈
                ExecutionStatus.running.publicTransitions := by
              decide
            refine ⟨(Calm.recorded (raised_settling hcalm ?_ hallowed (by decide) none) _).1, ?_⟩
            · exact hstatus
            · rw [Coordinator.recorded_record, coordinator.transition_andThen_save]
              · exact hstatus ▸ by decide
              · exact hstatus ▸ by decide
          · simp only [if_neg hpaused]
            have hopen : ∀ r, some result = some r → r.status ≠ .paused :=
              fun r hr => Option.some.inj hr ▸ hpaused
            exact ⟨raised_settleResult hcalm hstatus hopen,
              coordinator.status_settleResult hstatus world hopen⟩

/-- The pipeline says of itself what its result is settled as, if that is an end. -/
def TellsSettled (pipeline : PipelineState) : Prop :=
  ReadablePipeline pipeline →
    (Coordinator.settledStatus pipeline.runtimeResult).terminal = true →
      Tells pipeline (Coordinator.settledStatus pipeline.runtimeResult)

lemma told_settled (hcalm : Calm coordinator world) (hrunning : record.state.status = .running)
    {pipeline : PipelineState} (hpipeline : record.pipelineState = some pipeline)
    (htells : TellsSettled pipeline) {handler : String → ActiveExecution → κ → Ran κ}
    (hhandler : ∀ exception r world, Calm coordinator world → r.state.terminal = false →
      Told (handler exception r world).record) :
    Told ((coordinator.settlePipeline record world pipeline).handle handler).record := by
  rcases settled_or_running hcalm hrunning pipeline with ⟨hreadable, hraised, hstatus⟩ |
    ⟨hleft, hcalm⟩
  · rw [Ran.handle_of_none hraised]
    intro hterminal stored hstored
    rw [coordinator.settlePipeline_pipelineState, hpipeline] at hstored
    obtain rfl := Option.some.inj hstored
    rw [ExecutionState.terminal, hstatus] at hterminal
    rw [hstatus]
    exact htells hreadable hterminal
  · have hopen : (coordinator.settlePipeline record world pipeline).record.state.terminal =
      false := by
      rw [ExecutionState.terminal, hleft]
      rfl
    cases hraised : (coordinator.settlePipeline record world pipeline).raised with
    | none =>
        rw [Ran.handle_of_none hraised]
        exact told_of_open hopen
    | some exception =>
        rw [Ran.handle_of_some hraised]
        exact hhandler exception _ _ hcalm hopen

lemma told_denied (hcalm : Calm coordinator world)
    (hawaiting : record.state.status = .awaitingApproval) {pipeline : PipelineState}
    (hpipeline : record.pipelineState = some pipeline)
    (hkept : ∀ result, pipeline.runtimeResult = some result →
      result.status ≠ .completed ∧ result.status ≠ .cancelled) :
    (coordinator.denied record world pipeline).raised = none ∧
      Told (coordinator.denied record world pipeline).record := by
  obtain ⟨r, hstatus, hwritten, hdenied⟩ : ∃ r : ActiveExecution,
      r.state.status = .awaitingApproval ∧
      r = Coordinator.setTerminalResult { record with state := { record.state with
          pendingApprovalId := none
          pendingTaskId := none
          resultAvailable := pipeline.runtimeResult.isSome } } .denied
        (orText (pipeline.runtimeResult.bind RuntimeResult.error) "Execution denied by user.")
          true ∧
      coordinator.denied record world pipeline =
        coordinator.recorded (coordinator.transition r world .denied) .executionDenied := by
    refine ⟨_, ?_, rfl, rfl⟩
    exact hawaiting
  rw [hdenied, Coordinator.recorded_record]
  have hmoved := hcalm.transition_from hstatus
    (show ExecutionStatus.denied ∈ _ by decide) (by decide) none
  refine ⟨(Calm.recorded hmoved _).1, ?_⟩
  intro _ stored hstored
  rw [status_transition coordinator hstatus (by decide) (by decide) world none]
  rw [coordinator.transition_pipelineState, hwritten] at hstored
  refine tells_setTerminalResult _ (by decide) _ true (fun _ before kept hbefore hresult => ?_)
    hstored
  have hbefore : record.pipelineState = some before := hbefore
  rw [hpipeline] at hbefore
  obtain rfl := Option.some.inj hbefore
  exact ⟨(hkept kept hresult).1, by simp [(hkept kept hresult).2]⟩

end Ends

/-! ## Runs -/

namespace Race

variable {κ : Type} (coordinator : Coordinator κ)

/-- No move changes the status or the error of an execution that has ended. -/
lemma ended_step {s t : Race κ} {move : Move} (hterminal : s.record.state.terminal = true)
    (hstep : (machine coordinator).step s move = some t) :
    t.record.state.status = s.record.state.status ∧
      t.record.state.error = s.record.state.error := by
  have hnot : ∀ status : ExecutionStatus, status.terminal = false →
      s.record.state.status ≠ status := by
    rintro status hopen hstatus
    rw [ExecutionState.terminal, hstatus, hopen] at hterminal
    cases hterminal
  cases move with
  | start | recover =>
      simp only [machine, step] at hstep
      split at hstep
      · rename_i hstage
        first
          | exact absurd hstage.2 (hnot .created rfl)
          | exact absurd hstage.2 (hnot .recovering rfl)
      · cases hstep
  | begin =>
      simp only [machine, step] at hstep
      split at hstep
      · cases hstep
      · split at hstep
        · obtain rfl := Option.some.inj hstep
          exact ⟨rfl, rfl⟩
        · obtain rfl := Option.some.inj hstep
          exact ⟨rfl, rfl⟩
        · cases hstep
  | drop =>
      simp only [machine, step] at hstep
      split at hstep
      · split at hstep
        · obtain rfl := Option.some.inj hstep
          exact ⟨rfl, rfl⟩
        · cases hstep
      · cases hstep
  | enter =>
      simp only [machine, step] at hstep
      split at hstep
      · rw [if_pos (by rw [hterminal, Bool.or_true])] at hstep
        obtain rfl := Option.some.inj hstep
        exact ⟨rfl, rfl⟩
      · cases hstep
  | finish outcome =>
      obtain ⟨-, -, rfl⟩ | ⟨job, -, -, rfl⟩ := finish_cases coordinator hstep
      · exact (keeps_finishInitial coordinator _ _ _).ended hterminal
      · exact (keeps_finishJob coordinator s job outcome).ended hterminal
  | checkpoint details =>
      simp only [machine, step] at hstep
      split at hstep
      · obtain rfl := Option.some.inj hstep
        exact (keeps_runtimeCheckpoint coordinator _ _ _).ended hterminal
      · cases hstep
  | submit principalId approvalId decision =>
      simp only [machine, step] at hstep
      split at hstep
      · obtain rfl := Option.some.inj hstep
        exact ⟨rfl, rfl⟩
      · rename_i accepted haccepted
        exact absurd (open_of_checkSubmission haccepted).1 (hnot .awaitingApproval rfl)
  | cancel | timeout =>
      simp only [machine, step, if_pos hterminal] at hstep
      obtain rfl := Option.some.inj hstep
      exact ⟨rfl, rfl⟩
  | close index =>
      simp only [machine, step] at hstep
      split at hstep
      · cases hstep
      · obtain rfl := Option.some.inj hstep
        exact (keeps_raceClosing coordinator _ _ _).ended hterminal
  | abandon =>
      simp only [machine, step] at hstep
      split at hstep
      · cases hstep
      · obtain rfl := Option.some.inj hstep
        exact ⟨rfl, rfl⟩

/-- What the environment and the store must do for the parts of an ended execution to agree. -/
def Accords (s : Race κ) : Move → Prop
  | .enter => Calm coordinator s.world
  | .finish outcome =>
      Calm coordinator s.world ∧
        match outcome, s.stage with
        | .returned pipeline, .running (.resume _ .deny) =>
            ∀ result, pipeline.runtimeResult = some result →
              result.status ≠ .completed ∧ result.status ≠ .cancelled
        | .returned pipeline, _ => TellsSettled pipeline
        | .raised _, _ => s.record.state.terminal = false
        | .cancelled, _ => True
        | .timedOut _, .running .initial =>
            s.record.state.terminal = true → s.record.state.status = .timedOut
        | .timedOut _, _ => s.record.state.terminal = false
  | .checkpoint details =>
      s.record.state.terminal = true → ∀ pipeline, details.pipelineState = some pipeline →
        Tells pipeline s.record.state.status
  | .cancel => Calm coordinator s.world
  | .timeout _ =>
      s.record.state.terminal = false → Calm coordinator s.world ∧
        (s.stage ≠ .none → ∀ pipeline, s.record.pipelineState = some pipeline →
          Tells pipeline .timedOut)
  | .close index =>
      Calm coordinator s.world ∧ (s.closers[index]? = some none →
        s.record.state.terminal = true → s.record.state.status = .cancelled)
  | _ => True

/-- What holds in a run whose moves all accord. -/
structure Accord (s : Race κ) : Prop where
  /-- A task outlives a timeout and a cancellation only. -/
  ends : s.stage ≠ .none → s.record.state.terminal = true →
    s.record.state.status = .timedOut ∨ s.record.state.status = .cancelled
  leaving : s.stage.live = true → s.record.state.terminal = true → s.cancelling = true
  timed : ∀ error, some error ∈ s.closers → s.record.state.status = .timedOut
  told : Told s.record

lemma told_finishJob {s : Race κ} (h : Inv s) (haccord : Accord s) {job : TaskJob}
    {outcome : Outcome}
    (hstage : s.stage = .running job)
    (hreturned : ∀ pipeline, outcome = .returned pipeline → s.cancelling = false)
    (hguard : Accords coordinator s (.finish outcome)) :
    Told (s.finishJob coordinator job outcome).record := by
  obtain ⟨hcalm, hguard⟩ := hguard
  have hfits := h.fits (by simp [hstage])
  have hends := haccord.ends (by simp [hstage])
  rw [hstage] at hfits hguard
  cases outcome with
  | returned pipeline =>
      have hopen : ¬ s.record.state.terminal = true := by
        intro hterminal
        have hcancelling := haccord.leaving (by rw [hstage]; rfl) hterminal
        rw [hreturned pipeline rfl] at hcancelling
        cases hcancelling
      have hstored : { s.record with pipelineState := some pipeline }.pipelineState =
          some pipeline := rfl
      rcases job with _ | ⟨id, _ | _⟩
      · have hrunning : s.record.state.status = .running := hfits.resolve_left hopen
        refine told_settled hcalm ?_ hstored hguard fun exception r world hworld hr =>
          told_andSave (told_onException hworld exception hr)
        exact hrunning
      · have hrunning : s.record.state.status = .running := hfits.resolve_left hopen
        refine told_settled hcalm ?_ hstored hguard fun exception r world hworld hr =>
          told_onException hworld exception hr
        exact hrunning
      · have hawaiting : { s.record with pipelineState := some pipeline }.state.status =
            .awaitingApproval := (hfits.resolve_left hopen).1
        obtain ⟨hraised, htold⟩ := told_denied hcalm hawaiting hstored hguard
        simp only [finishJob, Coordinator.finishResume, Ran.handle_of_none hraised]
        exact htold
  | raised exception =>
      have hopen : s.record.state.terminal = false := hguard
      cases job with
      | initial => exact told_andSave (told_onException hcalm exception hopen)
      | resume id decision => exact told_onException hcalm exception hopen
  | cancelled =>
      cases job with
      | initial => exact told_andSave (told_onCancelled hcalm hends)
      | resume id decision => exact told_onCancelled hcalm hends
  | timedOut text =>
      cases job with
      | initial => exact told_andSave (told_onTimeout hcalm text hguard)
      | resume id decision => exact told_onException hcalm text hguard

lemma pipelineState_runtimeCheckpoint (record : ActiveExecution) (world : κ)
    (details : Coordinator.Details) :
    (coordinator.runtimeCheckpoint record world details).record.pipelineState =
      (details.pipelineState <|> record.pipelineState) := by
  have hnoted (r : ActiveExecution) :
      (Coordinator.noteDetails r details).pipelineState = r.pipelineState := by
    unfold Coordinator.noteDetails
    dsimp only
    split <;> split <;> split <;> rfl
  have hcaptured (r : ActiveExecution) (pipeline : PipelineState) :
      (Coordinator.captureWorkflowReliability coordinator r world pipeline).record.pipelineState =
        r.pipelineState := by
    unfold Coordinator.captureWorkflowReliability
    split
    · rfl
    · exact (coordinator.captureResults_spec _ _).2.pipelineState
  unfold Coordinator.runtimeCheckpoint
  refine Ran.andThen_record
    (P := fun r => r.pipelineState = (details.pipelineState <|> record.pipelineState)) ?_ ?_
  · cases details.pipelineState with
    | none => rfl
    | some pipeline => exact hcaptured _ pipeline
  · intro r world hr
    rw [Coordinator.saveCheckpoint_pipelineState, hnoted, hr]

lemma open_transition {record : ActiveExecution} (h : record.state.terminal = false) (world : κ)
    {status : ExecutionStatus} (hstatus : status.terminal = false) (error : Option String) :
    (coordinator.transition record world status error).record.state.terminal = false := by
  cases transited coordinator record world status error with
  | kept hsame happrovals => rw [happrovals.terminal, h]
  | moved hmem hmoved hpending hresolved => rw [ExecutionState.terminal, hmoved, hstatus]
  | refused hmem hne hran hraised => rw [hran, h]

lemma open_acceptSubmission {record : ActiveExecution} (h : record.state.terminal = false)
    (world : κ) (approvalId : String) (decision : Decision) :
    (coordinator.acceptSubmission record world approvalId decision).record.state.terminal =
      false := by
  refine Ran.andThen_record (P := fun r => r.state.terminal = false) ?_ fun r world hr => ?_
  · exact (sameApprovals_resolveApproval coordinator record world approvalId
      decision).terminal.trans h
  · cases decision with
    | deny => exact hr
    | allow =>
        refine Ran.andThen_record (P := fun r => r.state.terminal = false) ?_ fun r world hr => ?_
        · exact open_transition coordinator hr world rfl none
        · exact open_transition coordinator hr world rfl none

lemma told_closing_of {record : ActiveExecution} {world : κ} (hcalm : Calm coordinator world)
    {closer : Option String}
    (hcancel : closer = none → record.state.terminal = true → record.state.status = .cancelled)
    (htimeout : ∀ error, closer = some error → record.state.status = .timedOut) :
    Told (closing coordinator record world closer).record := by
  cases closer with
  | none => exact told_cancelTail hcalm (hcancel rfl)
  | some error => exact told_closeWith (htimeout error rfl) (by decide) world error

/-- A caller that comes back ends the execution in the status it came for, or leaves it as it
is. -/
lemma status_closing (record : ActiveExecution) (world : κ) (closer : Option String) :
    (closing coordinator record world closer).record.state.status = record.state.status ∨
      (record.state.terminal = false ∧
        (closing coordinator record world closer).record.state.status = .cancelled) := by
  cases closer with
  | some error => exact .inl (status_closeWith coordinator _ _ _ _)
  | none =>
      simp only [closing, Coordinator.cancelTail]
      split
      · exact .inl (status_closeWith coordinator _ _ _ _)
      · rename_i hopen
        have hopen := Bool.eq_false_iff.mpr hopen
        refine Ran.andThen_record (P := fun r => r.state.status = record.state.status ∨
          (record.state.terminal = false ∧ r.state.status = .cancelled)) ?_ fun r world hr => ?_
        · cases transited coordinator record world .cancelled none with
          | kept hsame happrovals => exact .inl happrovals.status
          | moved hmem hstatus hpending hresolved => exact .inr ⟨hopen, hstatus⟩
          | refused hmem hne hran hraised => exact .inl (by rw [hran])
        · rw [status_closeWith]
          exact hr

lemma timeoutHead_calm {record : ActiveExecution} {world : κ} (hcalm : Calm coordinator world)
    (hopen : record.state.terminal = false) (error : String) :
    (coordinator.timeoutHead record world error).raised = none ∨
      (coordinator.timeoutHead record world error).record = record := by
  unfold Coordinator.timeoutHead
  cases transited coordinator record world .timedOut (some error) with
  | kept hsame happrovals =>
      rw [ExecutionState.terminal, ← hsame] at hopen
      cases hopen
  | moved hmem hstatus hpending hresolved =>
      have hne : ExecutionStatus.timedOut ≠ record.state.status := by
        intro hsame
        rw [ExecutionState.terminal, ← hsame] at hopen
        cases hopen
      rw [Ran.andThen_of_none (hcalm.transition hmem hne (some error)).1]
      exact .inl rfl
  | refused hmem hne hran hraised =>
      obtain ⟨exception, hexception⟩ := Option.isSome_iff_exists.mp hraised
      rw [Ran.andThen_of_some hexception]
      exact .inr hran

variable {coordinator}

lemma Accord.open_of {s : Race κ} (h : Accord s) (hopen : s.record.state.terminal = false) :
    ∀ error, some error ∉ s.closers := by
  intro error herror
  rw [ExecutionState.terminal, h.timed error herror] at hopen
  cases hopen

lemma accord_of_open {s : Race κ} (hopen : s.record.state.terminal = false)
    (hclosers : ∀ error, some error ∉ s.closers) : Accord s where
  ends _ hterminal := by
    rw [hopen] at hterminal
    cases hterminal
  leaving _ hterminal := by
    rw [hopen] at hterminal
    cases hterminal
  timed error herror := absurd herror (hclosers error)
  told := told_of_open hopen

lemma Accord.idle {s : Race κ} (h : Accord s) {ran : Ran κ} (hkeeps : Keeps s.record ran.record)
    (htold : Told ran.record) : Accord (s.after ran).idle where
  ends hstage := (hstage rfl).elim
  leaving hlive := nomatch hlive
  timed error herror := by
    have htimedOut := h.timed error herror
    have hterminal : s.record.state.terminal = true := by
      rw [ExecutionState.terminal, htimedOut]
      rfl
    exact (hkeeps.ended hterminal).1.trans htimedOut
  told := htold

lemma Accord.halt {s : Race κ} (h : Accord s) : Accord s.idle where
  ends hstage := (hstage rfl).elim
  leaving hlive := nomatch hlive
  timed := h.timed
  told := h.told

variable (coordinator)

lemma accord_cancel {s t : Race κ} (haccord : Accord s)
    (hguard : Accords coordinator s .cancel) (hstep : s.step coordinator .cancel = some t) :
    Accord t := by
  simp only [step] at hstep
  split at hstep
  · obtain rfl := Option.some.inj hstep
    exact haccord
  · rename_i hopen
    obtain rfl := Option.some.inj hstep
    have hopen := Bool.eq_false_iff.mpr hopen
    have hclosers := haccord.open_of hopen
    unfold await
    split
    · rename_i hidle
      have hidle : s.stage = .none := hidle
      refine ⟨fun hstage => absurd hidle hstage, fun hlive => ?_,
        fun error herror => absurd herror (hclosers error), ?_⟩
      · have hlive : s.stage.live = true := hlive
        rw [hidle] at hlive
        cases hlive
      · refine told_closing_of coordinator hguard (fun _ hterminal => ?_)
          fun _ h => by cases h
        have hterminal : s.record.state.terminal = true := hterminal
        rw [hopen] at hterminal
        cases hterminal
    · refine accord_of_open hopen fun error herror => ?_
      rcases List.mem_append.mp herror with hold | hlast
      · exact hclosers error hold
      · cases List.mem_singleton.mp hlast

lemma accord_timeout {s t : Race κ} {error : String} (haccord : Accord s)
    (hguard : Accords coordinator s (.timeout error))
    (hstep : s.step coordinator (.timeout error) = some t) : Accord t := by
  simp only [step] at hstep
  split at hstep
  · obtain rfl := Option.some.inj hstep
    exact haccord
  · rename_i hopen
    obtain rfl := Option.some.inj hstep
    have hopen := Bool.eq_false_iff.mpr hopen
    have hclosers := haccord.open_of hopen
    obtain ⟨hcalm, htells⟩ := hguard hopen
    have hhead := timeoutHead_calm coordinator hcalm hopen error
    split
    · rename_i hraised
      obtain ⟨hrecord, htimedOut⟩ :=
        timeoutHead_spec coordinator (Option.isNone_iff_eq_none.mp hraised)
      have hstatus : (coordinator.timeoutHead s.record s.world error).record.state.status =
          .timedOut := by
        rw [hrecord]
        exact htimedOut
      have hpipeline : (coordinator.timeoutHead s.record s.world error).record.pipelineState =
          s.record.pipelineState := by
        rw [hrecord]
        exact coordinator.transition_pipelineState _ _ _ _
      unfold await
      split
      · rename_i hidle
        have hidle : s.stage = .none := hidle
        refine ⟨fun hstage => absurd hidle hstage, fun hlive => ?_,
          fun late hlate => absurd hlate (hclosers late), ?_⟩
        · have hlive : s.stage.live = true := hlive
          rw [hidle] at hlive
          cases hlive
        · exact told_closeWith hstatus (by decide) _ _
      · rename_i hbusy
        have hbusy : s.stage ≠ .none := hbusy
        refine ⟨fun _ _ => .inl hstatus, fun _ _ => rfl, fun _ _ => hstatus, ?_⟩
        intro _ pipeline hstored
        have hstored : (coordinator.timeoutHead s.record s.world error).record.pipelineState =
            some pipeline := hstored
        have htells := htells hbusy pipeline (hpipeline.symm.trans hstored)
        rw [← hstatus] at htells
        exact htells
    · rename_i hraised
      have hsame : (coordinator.timeoutHead s.record s.world error).record = s.record := by
        refine hhead.resolve_left fun hnone => ?_
        rw [hnone] at hraised
        exact hraised rfl
      refine accord_of_open ?_ hclosers
      show (coordinator.timeoutHead s.record s.world error).record.state.terminal = false
      rw [hsame]
      exact hopen

lemma accord_close {s t : Race κ} {index : ℕ} (h : Inv s) (haccord : Accord s)
    (hguard : Accords coordinator s (.close index))
    (hstep : s.step coordinator (.close index) = some t) : Accord t := by
  obtain ⟨hcalm, hcancel⟩ := hguard
  simp only [step] at hstep
  split at hstep
  · cases hstep
  · rename_i closer hcloser
    obtain rfl := Option.some.inj hstep
    have hmem : closer ∈ s.closers := List.mem_of_getElem? hcloser
    have hclosers : s.closers ≠ [] := List.ne_nil_of_mem hmem
    have htold : Told (closing coordinator s.record s.world closer).record := by
      refine told_closing_of coordinator hcalm ?_ ?_
      · rintro rfl
        exact hcancel hcloser
      · rintro error rfl
        exact haccord.timed error hmem
    have hstatus := status_closing coordinator s.record s.world closer
    refine ⟨fun hstage hterminal => ?_, fun hlive hterminal => ?_, fun error herror => ?_, htold⟩
    · rcases hstatus with hsame | ⟨-, hcancelled⟩
      · have hended : s.record.state.terminal = true := by
          rw [ExecutionState.terminal, ← hsame]
          exact hterminal
        exact (haccord.ends hstage hended).imp hsame.trans hsame.trans
      · exact .inr hcancelled
    · have hlive : s.stage.live = true := hlive
      show s.cancelling = true
      rcases h.yields hlive (h.called hclosers) with hended | hcancelling
      · exact haccord.leaving hlive hended
      · exact hcancelling
    · have htimedOut := haccord.timed error (List.mem_of_mem_eraseIdx herror)
      rcases hstatus with hsame | ⟨hopen, -⟩
      · exact hsame.trans htimedOut
      · rw [ExecutionState.terminal, htimedOut] at hopen
        cases hopen

lemma accord_enter {s t : Race κ} (h : Inv s) (haccord : Accord s)
    (hguard : Accords coordinator s .enter) (hstep : s.step coordinator .enter = some t) :
    Accord t := by
  have hcalm : Calm coordinator s.world := hguard
  simp only [step] at hstep
  split at hstep
  · rename_i hqueued
    have hfits := h.fits (by simp [hqueued.1])
    rw [hqueued.1] at hfits
    split at hstep
    · obtain rfl := Option.some.inj hstep
      exact haccord.halt
    · rename_i hclear
      rw [Bool.or_eq_true, not_or] at hclear
      have hstatus : s.record.state.status = .planning ∨ s.record.state.status = .recovering :=
        hfits.resolve_left hclear.2
      have hentered : (coordinator.enterInitial s.record s.world).raised = none ∧
          (coordinator.enterInitial s.record s.world).record.state.status = .running := by
        rw [Coordinator.enterInitial, if_pos hstatus]
        rcases hstatus with hplanning | hrecovering
        · exact ⟨(hcalm.transition_from hplanning (by decide) (by decide) none).1,
            status_transition coordinator hplanning (by decide) (by decide) _ _⟩
        · exact ⟨(hcalm.transition_from hrecovering (by decide) (by decide) none).1,
            status_transition coordinator hrecovering (by decide) (by decide) _ _⟩
      rw [hentered.1] at hstep
      obtain rfl := Option.some.inj hstep
      have hclosers := haccord.open_of (Bool.eq_false_iff.mpr hclear.2)
      refine accord_of_open ?_ hclosers
      show (coordinator.enterInitial s.record s.world).record.state.terminal = false
      rw [ExecutionState.terminal, hentered.2]
      rfl
  · cases hstep

lemma accord_checkpoint {s t : Race κ} {details : Coordinator.Details} (haccord : Accord s)
    (hguard : Accords coordinator s (.checkpoint details))
    (hstep : s.step coordinator (.checkpoint details) = some t) : Accord t := by
  simp only [step] at hstep
  split at hstep
  · obtain rfl := Option.some.inj hstep
    have hstatus := (sameApprovals_runtimeCheckpoint coordinator s.record s.world details).status
    have hended : (coordinator.runtimeCheckpoint s.record s.world
        details).record.state.terminal = true → s.record.state.terminal = true := by
      intro hterminal
      rw [ExecutionState.terminal, ← hstatus]
      exact hterminal
    refine ⟨fun hstage hterminal => ?_, fun hlive hterminal => ?_, fun error herror => ?_, ?_⟩
    · exact (haccord.ends hstage (hended hterminal)).imp hstatus.trans hstatus.trans
    · exact haccord.leaving hlive (hended hterminal)
    · exact hstatus.trans (haccord.timed error herror)
    · intro hterminal pipeline hstored
      have hstored : (coordinator.runtimeCheckpoint s.record s.world details).record.pipelineState =
          some pipeline := hstored
      rw [pipelineState_runtimeCheckpoint] at hstored
      show Tells pipeline (coordinator.runtimeCheckpoint s.record s.world
        details).record.state.status
      rw [hstatus]
      cases hgiven : details.pipelineState with
      | none =>
          rw [hgiven] at hstored
          exact haccord.told (hended hterminal) pipeline hstored
      | some given =>
          rw [hgiven] at hstored
          obtain rfl := Option.some.inj hstored
          exact hguard (hended hterminal) given hgiven
  · cases hstep

lemma accord_submit {s t : Race κ} {principalId approvalId decision : String}
    (haccord : Accord s)
    (hstep : s.step coordinator (.submit principalId approvalId decision) = some t) :
    Accord t := by
  simp only [step] at hstep
  split at hstep
  · obtain rfl := Option.some.inj hstep
    exact haccord
  · rename_i accepted haccepted
    obtain rfl := Option.some.inj hstep
    obtain ⟨hawaiting, -, -⟩ := open_of_checkSubmission haccepted
    have hopen : s.record.state.terminal = false := by
      rw [ExecutionState.terminal, hawaiting]
      rfl
    have hleft := open_acceptSubmission coordinator hopen s.world approvalId accepted
    have hclosers := haccord.open_of hopen
    split
    · exact accord_of_open hleft hclosers
    · exact accord_of_open hleft hclosers

/-- Every move that accords keeps the accord. -/
lemma accord_step {s t : Race κ} {move : Move} (h : Inv s) (haccord : Accord s)
    (hguard : Accords coordinator s move) (hstep : (machine coordinator).step s move = some t) :
    Accord t := by
  cases move with
  | start =>
      simp only [machine, step] at hstep
      split at hstep
      · rename_i hcreated
        obtain rfl := Option.some.inj hstep
        have hopen : s.record.state.terminal = false := by
          rw [ExecutionState.terminal, hcreated.2]
          rfl
        have hclosers := haccord.open_of hopen
        have hleft : (coordinator.announce s.record s.world).record.state.terminal = false := by
          refine Ran.andThen_record (P := fun r => r.state.terminal = false) ?_ fun r world hr => ?_
          · rw [Coordinator.recorded_record]
            exact (sameApprovals_saveCheckpoint coordinator _ s.world true).terminal.trans hopen
          · exact open_transition coordinator hr world rfl none
        split
        · exact accord_of_open hleft hclosers
        · exact accord_of_open hleft hclosers
      · cases hstep
  | recover =>
      simp only [machine, step] at hstep
      split at hstep
      · rename_i hrecovering
        obtain rfl := Option.some.inj hstep
        have hopen : s.record.state.terminal = false := by
          rw [ExecutionState.terminal, hrecovering.2]
          rfl
        exact accord_of_open hopen (haccord.open_of hopen)
      · cases hstep
  | begin =>
      simp only [machine, step] at hstep
      split at hstep
      · cases hstep
      · split at hstep
        · rename_i hstage
          obtain rfl := Option.some.inj hstep
          exact { haccord with
            ends := fun _ => haccord.ends (by simp [hstage])
            leaving := fun h => by cases h }
        · rename_i id decision hstage
          obtain rfl := Option.some.inj hstep
          exact { haccord with
            ends := fun _ => haccord.ends (by simp [hstage])
            leaving := fun _ => haccord.leaving (by rw [hstage]; rfl) }
        · cases hstep
  | drop =>
      simp only [machine, step] at hstep
      split at hstep
      · split at hstep
        · obtain rfl := Option.some.inj hstep
          exact haccord.halt
        · cases hstep
      · cases hstep
  | enter => exact accord_enter coordinator h haccord hguard hstep
  | finish outcome =>
      obtain ⟨hstage, rfl, rfl⟩ | ⟨job, hstage, hreturned, rfl⟩ := finish_cases coordinator hstep
      · have hends := haccord.ends (by simp [hstage])
        exact haccord.idle (keeps_finishInitial coordinator _ _ _)
          (told_andSave (told_onCancelled hguard.1 hends))
      · exact haccord.idle (keeps_finishJob coordinator s job outcome)
          (told_finishJob coordinator h haccord hstage hreturned hguard)
  | checkpoint details => exact accord_checkpoint coordinator haccord hguard hstep
  | submit principalId approvalId decision => exact accord_submit coordinator haccord hstep
  | cancel => exact accord_cancel coordinator haccord hguard hstep
  | timeout error => exact accord_timeout coordinator haccord hguard hstep
  | close index => exact accord_close coordinator h haccord hguard hstep
  | abandon =>
      simp only [machine, step] at hstep
      split at hstep
      · cases hstep
      · obtain rfl := Option.some.inj hstep
        exact { haccord with leaving := fun _ _ => rfl }

/-- The status and the error of an execution that has ended are its last, in every run.  In every
run whose moves accord, the stored result and both reports say what the status says in every
state reached: a cancelled, timed out or denied execution shows no completed result and no
successful report, then or later. -/
theorem outcome_agrees {record : ActiveExecution} {world : κ}
    (hevent : record.cancelEvent = false) (htold : Told record) :
    (∀ moves s later t, (machine coordinator).run { record := record, world := world } moves =
        some s → s.record.state.terminal = true → (machine coordinator).run s later = some t →
          t.record.state.status = s.record.state.status ∧
            t.record.state.error = s.record.state.error) ∧
      ∀ moves s, (machine coordinator).Guarded (Accords coordinator)
          { record := record, world := world } moves →
        (machine coordinator).run { record := record, world := world } moves = some s →
          Told s.record := by
  constructor
  · intro moves s later t _ hterminal hrun
    have hstep : ∀ (r : Race κ) move u,
        (r.record.state.status = s.record.state.status ∧
          r.record.state.error = s.record.state.error) →
        (machine coordinator).step r move = some u →
        u.record.state.status = s.record.state.status ∧
          u.record.state.error = s.record.state.error := by
      intro r move u hsame hstep
      have hended : r.record.state.terminal = true := by
        rw [ExecutionState.terminal, hsame.1]
        exact hterminal
      obtain ⟨hstatus, herror⟩ := ended_step coordinator hended hstep
      exact ⟨hstatus.trans hsame.1, herror.trans hsame.2⟩
    exact (machine coordinator).run_invariant hstep ⟨rfl, rfl⟩ hrun
  · intro moves s hguard hrun
    have hstep : ∀ (s : Race κ) move t, (Inv s ∧ Accord s) → Accords coordinator s move →
        (machine coordinator).step s move = some t → Inv t ∧ Accord t :=
      fun _ _ _ hs hguard hstep =>
        ⟨inv_step coordinator hs.1 hstep, accord_step coordinator hs.1 hs.2 hguard hstep⟩
    have hinit : Inv { record := record, world := world } ∧
        Accord { record := record, world := world } :=
      ⟨inv_init hevent world, fun hstage => absurd rfl hstage, fun h => (by cases h),
        fun _ h => (by cases h), htold⟩
    exact ((machine coordinator).guarded_invariant hstep hinit hguard hrun).2.told

/-! ### A cancellation, a denial and an exception -/

/-- The race for a new execution after some moves. -/
def raceAfter (moves : List Move) : Race Unit :=
  ((machine storeless).run { record := newRecord, world := () } moves).getD
    { record := default, world := () }

lemma run_raceAfter {moves : List Move}
    (h : ((machine storeless).run { record := newRecord, world := () } moves).isSome = true) :
    (machine storeless).run { record := newRecord, world := () } moves =
      some (raceAfter moves) :=
  some_getD h _

lemma calm_storeless (world : Unit) : Calm storeless world := by
  intro stored
  induction stored with
  | nil => trivial
  | cons head rest ih =>
      cases head with
      | checkpoint | evidence => exact ih

/-- A running execution is cancelled, its task ends and the caller comes back. -/
def cancelled : List Move := [.start, .begin, .enter, .cancel, .finish .cancelled, .close 0]

/-- The result and the report of the cancelled execution say so. -/
theorem outcome_agrees_sample :
    (raceAfter cancelled).record.state.status = .cancelled ∧
      (raceAfter cancelled).record.pipelineState.isSome = true ∧
      Told (raceAfter cancelled).record := by
  have hevent : newRecord.cancelEvent = false := rfl
  have hopen : newRecord.state.terminal = false := rfl
  refine ⟨by decide, by decide, ?_⟩
  refine (outcome_agrees storeless hevent (told_of_open hopen)).2 cancelled _ ?_
    (run_raceAfter (by decide))
  refine ⟨trivial, fun _ h₁ => ⟨trivial, fun _ h₂ => ⟨calm_storeless _, fun _ h₃ =>
    ⟨calm_storeless _, fun _ h₄ => ⟨⟨calm_storeless _, trivial⟩, fun _ h₅ =>
      ⟨⟨calm_storeless _, ?_⟩, fun _ _ => trivial⟩⟩⟩⟩⟩⟩
  obtain rfl := Option.some.inj h₁
  obtain rfl := Option.some.inj h₂
  obtain rfl := Option.some.inj h₃
  obtain rfl := Option.some.inj h₄
  obtain rfl := Option.some.inj h₅
  exact fun _ _ => by decide

/-- The execution pauses at `a` and is denied, and the resumed pipeline returns a completed
result. -/
def deniedRun : List Move :=
  [.start, .begin, .enter, .finish (.returned (pipelineAt .paused)), .submit "local" "a" "deny",
    .begin, .finish (.returned (pipelineAt .completed))]

/-- The execution is cancelled, and what its task makes of that is an exception. -/
def failedRun : List Move :=
  [.start, .begin, .enter, .cancel, .finish (.raised "connection reset"), .close 0]

/-- The denied execution shows a completed result, and the failed one a cancelled result. -/
theorem outcome_disagrees :
    (machine storeless).run { record := newRecord, world := () } deniedRun =
        some (raceAfter deniedRun) ∧
      (raceAfter deniedRun).record.state.status = .denied ∧
      ((raceAfter deniedRun).record.pipelineState.bind PipelineState.runtimeResult).map
        RuntimeResult.status = some .completed ∧
      ¬ Told (raceAfter deniedRun).record ∧
      (machine storeless).run { record := newRecord, world := () } failedRun =
        some (raceAfter failedRun) ∧
      (raceAfter failedRun).record.state.status = .failed ∧
      ((raceAfter failedRun).record.pipelineState.bind PipelineState.runtimeResult).map
        RuntimeResult.status = some .cancelled := by
  refine ⟨run_raceAfter (by decide), by decide, by decide, fun htold => ?_,
    run_raceAfter (by decide), by decide, by decide⟩
  have htells := htold (by decide) _ rfl
  exact absurd ((htells.completed _ rfl).mp (by decide)) (by decide)

end Race

end Samaktha
