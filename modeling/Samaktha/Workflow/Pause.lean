import Samaktha.Runtime.PermitReplay
import Samaktha.Workflow.Accounting
import Mathlib.Data.List.GetD

/-!
# What a pause keeps of its batch

`execute` returns at the first paused result of a batch, so the results behind it are neither
in the returned state nor in the scheduler.  A pause therefore keeps the work of its batch
exactly when no completed or failed result stands behind the first paused one, up to results
that repeat an earlier verdict on the same task (`pause_keeps_work_iff`).

What a pause keeps is what the next call of `execute` does not repeat: a task that the
returned state lists as completed or failed is never handed to the runtime again, whatever
the pause manager, the router and the runtime answer (`not_redispatched`).
-/

namespace Samaktha

namespace Workflow

variable (plan : ExecutionPlan)

/-- The results before the first paused one. -/
def beforePause (results : List RuntimeResult) : List RuntimeResult :=
  results.takeWhile fun r => r.status ≠ .paused

/-- The results behind the first paused one. -/
def afterPause (results : List RuntimeResult) : List RuntimeResult :=
  (results.dropWhile fun r => r.status ≠ .paused).tail

/-- Every completed result is recorded as completed and every failed one as failed. -/
def KeepsWork (results : List RuntimeResult) (state : WorkflowState) : Prop :=
  (∀ r ∈ results, r.status = .completed → r.taskId ∈ state.completedTaskIds) ∧
    ∀ r ∈ results, Failing r → r.taskId ∈ state.failedTaskIds

/-- No call of `execute` that resumes from a state hands a task again to the runtime whose
result was completed or failed. -/
def NeverRepeats (results : List RuntimeResult) (state : WorkflowState) : Prop :=
  ∀ (pauses : Dict String PendingPause) (preparedContext : Option Value)
    (replies : List Reply) (loop : Loop),
    Reaches plan (some state) pauses preparedContext replies loop →
      ∀ task ∈ loop.dispatched, ∀ r ∈ results, r.status ≠ .paused → task.taskId ≠ r.taskId

/-- A result that is paused, or repeats the verdict of an earlier batch or of an earlier result
on the same task. -/
def Repeats (loop : Loop) (earlier : List RuntimeResult) (r : RuntimeResult) : Prop :=
  (r.status = .completed → r.taskId ∈ loop.state.completedTaskIds ∨
      ∃ q ∈ earlier, q.status = .completed ∧ q.taskId = r.taskId) ∧
    (Failing r → r.taskId ∈ loop.state.failedTaskIds ∨
      ∃ q ∈ earlier, q.status ≠ .completed ∧ q.taskId = r.taskId)

lemma beforePause_eq {before after : List RuntimeResult} {paused : RuntimeResult}
    (hbefore : ∀ r ∈ before, r.status ≠ .paused) (hpaused : paused.status = .paused) :
    beforePause (before ++ paused :: after) = before := by
  have hall : ∀ r ∈ before, decide (r.status ≠ .paused) = true := fun r hr => by
    simpa using hbefore r hr
  rw [beforePause, List.takeWhile_append_of_pos hall]
  simp [hpaused]

lemma afterPause_eq {before after : List RuntimeResult} {paused : RuntimeResult}
    (hbefore : ∀ r ∈ before, r.status ≠ .paused) (hpaused : paused.status = .paused) :
    afterPause (before ++ paused :: after) = after := by
  have hall : ∀ r ∈ before, decide (r.status ≠ .paused) = true := fun r hr => by
    simpa using hbefore r hr
  rw [afterPause, List.dropWhile_append_of_pos hall]
  simp [hpaused]

/-! ## The returned state -/

lemma paused_iteration {tasks : Dict String RuntimeTask} {loop loop' : Loop} {reply : Reply}
    {result : WorkflowResult} (hstep : iterate plan tasks loop reply = some loop')
    (hresult : loop'.result = some result) (hpaused : result.workflowState.status = .paused) :
    ∃ before paused after,
      batchResults reply (runtimeBatch plan tasks loop) = before ++ paused :: after ∧
        (∀ r ∈ before, r.status ≠ .paused) ∧ paused.status = .paused ∧
        (∀ id, id ∈ result.workflowState.completedTaskIds ↔
          id ∈ loop.state.completedTaskIds ∨
            ∃ r ∈ before, r.status = .completed ∧ r.taskId = id) ∧
        (∀ id, id ∈ result.workflowState.failedTaskIds ↔
          id ∈ loop.state.failedTaskIds ∨
            ∃ r ∈ before, r.status ≠ .completed ∧ r.taskId = id) := by
  obtain ⟨hopen, -, taken, hiter, rfl⟩ := iteration_of_iterate plan hstep
  rw [reported_of_result hresult] at hresult
  cases hiter with
  | concluded hfinished hloop =>
      subst hloop
      obtain rfl := Option.some.inj hresult
      simp only at hpaused
      split at hpaused <;> cases hpaused
  | deadlocked _ hbatch failed hfailed hloop =>
      subst hloop
      obtain rfl := Option.some.inj hresult
      rw [hfailed] at hpaused
      cases hpaused
  | internal hbatch hloop =>
      subst hloop
      rw [result_runInternal, hopen] at hresult
      cases hresult
  | delivered hbatch hloop =>
      rcases exists_first_paused (batchResults reply (runtimeBatch plan tasks loop)) with
        hnone | ⟨before, paused, after, heq, hbefore, hstatus⟩
      · rw [takeResults_of_forall plan hnone] at hloop
        subst hloop
        rw [result_foldl] at hresult
        simp only [result_runInternal, hopen] at hresult
        cases hresult
      · refine ⟨before, paused, after, heq, hbefore, hstatus, ?_, ?_⟩
        · intro id
          rw [heq, takeResults_of_paused plan hbefore hstatus] at hloop
          subst hloop
          obtain rfl := Option.some.inj hresult
          simp only [record, mem_completedTaskIds_foldl, completedTaskIds_runInternal]
        · intro id
          rw [heq, takeResults_of_paused plan hbefore hstatus] at hloop
          subst hloop
          obtain rfl := Option.some.inj hresult
          simp only [record, mem_failedTaskIds_foldl, failedTaskIds_runInternal]

/-! ## The next call -/

/-- What a call that resumes from a state keeps of it while it runs. -/
structure Resumed (state : WorkflowState) (loop : Loop) : Prop where
  completed : loop.result = none → loop.raised = false →
    ∀ id ∈ state.completedTaskIds, id ∈ loop.completed
  failed : loop.result = none → loop.raised = false →
    ∀ id ∈ state.failedTaskIds, id ∈ loop.failed
  dispatched : ∀ task ∈ loop.dispatched,
    task.taskId ∉ state.completedTaskIds ∧ task.taskId ∉ state.failedTaskIds

lemma Resumed.reported {state : WorkflowState} {loop : Loop} (h : Resumed state loop) :
    Resumed state (reported loop) := by
  rcases reported_eq loop with heq | heq
  · rw [heq]
    exact h
  · rw [heq]
    exact ⟨by simp, by simp, h.dispatched⟩

lemma resumed_start (state : WorkflowState) (pauses : Dict String PendingPause) :
    Resumed state (start plan (some state) pauses) := by
  unfold start
  split
  · exact Resumed.reported ⟨by simp, by simp, by simp⟩
  · split
    · exact Resumed.reported ⟨by simp, by simp, by simp⟩
    · exact ⟨fun _ _ id hid => hid, fun _ _ id hid => hid, by simp⟩

lemma runtimeBatch_unsettled {overrides : Dict String ResumeOverrides}
    {preparedContext : Option Value} {tasks : Dict String RuntimeTask}
    (htasks : workflowTasks plan overrides preparedContext = some tasks) {loop : Loop}
    {task : RuntimeTask} (h : task ∈ runtimeBatch plan tasks loop) :
    task.taskId ∉ loop.completed ∧ task.taskId ∉ loop.failed := by
  obtain ⟨planned, hplanned, hget⟩ := List.mem_filterMap.mp h
  have hready := ExecutionGraph.mem_getReadyTasks (List.mem_of_mem_filter hplanned)
  rw [taskId_of_workflowTasks plan htasks hget]
  exact hready.2

lemma Resumed.step {overrides : Dict String ResumeOverrides} {preparedContext : Option Value}
    {tasks : Dict String RuntimeTask}
    (htasks : workflowTasks plan overrides preparedContext = some tasks) {state : WorkflowState}
    {loop loop' : Loop} {reply : Reply} (h : Resumed state loop)
    (hstep : iterate plan tasks loop reply = some loop') : Resumed state loop' := by
  obtain ⟨hopen, hnone, taken, hiter, rfl⟩ := iteration_of_iterate plan hstep
  have hcompleted := h.completed hopen hnone
  have hfailed := h.failed hopen hnone
  refine Resumed.reported ?_
  cases hiter with
  | concluded hfinished hloop =>
      subst hloop
      exact ⟨fun hnone => absurd hnone (by simp [conclude]),
        fun hnone => absurd hnone (by simp [conclude]), h.dispatched⟩
  | deadlocked _ hbatch failed hfailedResult hloop =>
      subst hloop
      exact ⟨by simp, by simp, h.dispatched⟩
  | internal hbatch hloop =>
      subst hloop
      refine ⟨fun _ _ id hid => completed_subset_runInternal plan loop id (hcompleted id hid), ?_,
        ?_⟩
      · intro _ _ id hid
        rw [failed_runInternal]
        exact hfailed id hid
      · rw [dispatched_runInternal]
        exact h.dispatched
  | delivered hbatch hloop =>
      -- the tasks handed over now were ready, so the scheduler had not settled them
      have hnew : ∀ task ∈ loop.dispatched ++ routedTasks reply (runtimeBatch plan tasks loop),
          task.taskId ∉ state.completedTaskIds ∧ task.taskId ∉ state.failedTaskIds := by
        intro task htask
        rcases List.mem_append.mp htask with hold | hnew
        · exact h.dispatched task hold
        · obtain ⟨hc, hf⟩ := runtimeBatch_unsettled plan htasks (List.mem_of_mem_filter hnew)
          exact ⟨fun hid => hc (hcompleted _ hid), fun hid => hf (hfailed _ hid)⟩
      rcases exists_first_paused (batchResults reply (runtimeBatch plan tasks loop)) with
        hnone | ⟨before, paused, after, heq, hbefore, hstatus⟩
      · rw [takeResults_of_forall plan hnone] at hloop
        subst hloop
        refine ⟨fun _ _ id hid => ?_, fun _ _ id hid => ?_, ?_⟩
        · exact completed_subset_foldl _ _ id
            (completed_subset_runInternal plan loop id (hcompleted id hid))
        · rw [mem_failed_foldl, failed_runInternal]
          exact .inl (hfailed id hid)
        · rw [dispatched_foldl]
          exact hnew
      · rw [heq, takeResults_of_paused plan hbefore hstatus] at hloop
        subst hloop
        refine ⟨by simp [returnPaused], by simp [returnPaused], ?_⟩
        simpa only [returnPaused, record, dispatched_foldl] using hnew

/-- A task a paused state lists as completed or failed is not handed to the runtime again. -/
theorem not_redispatched {state : WorkflowState} {pauses : Dict String PendingPause}
    {preparedContext : Option Value} {replies : List Reply} {loop : Loop}
    (h : Reaches plan (some state) pauses preparedContext replies loop) :
    ∀ task ∈ loop.dispatched,
      task.taskId ∉ state.completedTaskIds ∧ task.taskId ∉ state.failedTaskIds := by
  obtain ⟨tasks, htasks, hrun⟩ := h
  have hinv : Resumed state loop :=
    (machine plan tasks).run_invariant (fun _ _ _ hs hstep => hs.step plan htasks hstep)
      (resumed_start plan state pauses) hrun
  exact hinv.dispatched

lemma neverRepeats_of_keepsWork {results : List RuntimeResult} {state : WorkflowState}
    (h : KeepsWork results state) : NeverRepeats plan results state := by
  intro pauses preparedContext replies loop hreach task htask r hr hstatus hid
  obtain ⟨hcompleted, hfailed⟩ := not_redispatched plan hreach task htask
  by_cases hc : r.status = .completed
  · exact hcompleted (hid ▸ h.1 r hr hc)
  · exact hfailed (hid ▸ h.2 r hr ⟨hc, hstatus⟩)

/-! ## When a pause keeps the work of its batch -/

/-- When `execute` returns a paused state, the work of the batch is in it, and is not repeated
by the calls that resume from it, exactly when every result behind the first paused one is
paused or repeats a verdict. -/
theorem pause_keeps_work_iff {tasks : Dict String RuntimeTask} {loop loop' : Loop}
    {reply : Reply} {result : WorkflowResult}
    (hstep : iterate plan tasks loop reply = some loop') (hresult : loop'.result = some result)
    (hpaused : result.workflowState.status = .paused) :
    (KeepsWork (batchResults reply (runtimeBatch plan tasks loop)) result.workflowState ∧
        NeverRepeats plan (batchResults reply (runtimeBatch plan tasks loop))
          result.workflowState) ↔
      ∀ r ∈ afterPause (batchResults reply (runtimeBatch plan tasks loop)),
        Repeats loop (beforePause (batchResults reply (runtimeBatch plan tasks loop))) r := by
  obtain ⟨before, paused, after, heq, hbefore, hstatus, hcompleted, hfailed⟩ :=
    paused_iteration plan hstep hresult hpaused
  rw [heq, beforePause_eq hbefore hstatus, afterPause_eq hbefore hstatus]
  constructor
  · rintro ⟨⟨hkept, hkeptFailed⟩, -⟩ r hr
    have hmem : r ∈ before ++ paused :: after := by simp [hr]
    exact ⟨fun hc => (hcompleted _).mp (hkept r hmem hc),
      fun hf => (hfailed _).mp (hkeptFailed r hmem hf)⟩
  · intro hafter
    have hkeeps : KeepsWork (before ++ paused :: after) result.workflowState := by
      refine ⟨fun r hr hc => ?_, fun r hr hf => ?_⟩
      · rw [hcompleted]
        rcases List.mem_append.mp hr with hr | hr
        · exact .inr ⟨r, hr, hc, rfl⟩
        · rcases List.mem_cons.mp hr with rfl | hr
          · rw [hstatus] at hc
            cases hc
          · exact (hafter r hr).1 hc
      · rw [hfailed]
        rcases List.mem_append.mp hr with hr | hr
        · exact .inr ⟨r, hr, hf.1, rfl⟩
        · rcases List.mem_cons.mp hr with rfl | hr
          · exact absurd hstatus hf.2
          · exact (hafter r hr).2 hf
    exact ⟨hkeeps, neverRepeats_of_keepsWork plan hkeeps⟩

/-! ### A batch of two tools, one of which pauses -/

/-- Two independent tool tasks. -/
def samplePlan : ExecutionPlan where
  planId := "plan"
  tasks := [
    { taskId := "a", kind := .executeViaRuntime, executionActionType := "tool" },
    { taskId := "t", kind := .executeViaRuntime, executionActionType := "tool",
      metadata := [("tool", .str "mail")], permit := some Engine.samplePermit }]

/-- Their runtime tasks. -/
def sampleTasks : Dict String RuntimeTask := (workflowTasks samplePlan [] none).getD []

/-- The runtime answers with some results, in their order. -/
def sampleReply (results : List RuntimeResult) : Reply := ⟨fun _ => .error "", results⟩

/-- The first iteration on some results. -/
def sampleFirst (results : List RuntimeResult) : Loop :=
  (iterate samplePlan sampleTasks (start samplePlan none []) (sampleReply results)).getD default

/-- Task `t` completes and task `a` pauses, reported in this order. -/
def pausedLast : List RuntimeResult :=
  [{ taskId := "t", status := .completed }, { taskId := "a", status := .paused }]

/-- The same results, the pause first. -/
def pausedFirst : List RuntimeResult :=
  [{ taskId := "a", status := .paused }, { taskId := "t", status := .completed }]

lemma sampleFirst_spec (results : List RuntimeResult)
    (h : (iterate samplePlan sampleTasks (start samplePlan none []) (sampleReply results)).isSome
      = true) :
    iterate samplePlan sampleTasks (start samplePlan none []) (sampleReply results) =
      some (sampleFirst results) := some_getD h default

theorem pause_keeps_work_sample :
    KeepsWork pausedLast ((sampleFirst pausedLast).result.getD default).workflowState ∧
      NeverRepeats samplePlan pausedLast
        ((sampleFirst pausedLast).result.getD default).workflowState := by
  have hstep := sampleFirst_spec pausedLast (by decide)
  have hresult := some_getD (o := (sampleFirst pausedLast).result) (by decide) default
  have hbatch : batchResults (sampleReply pausedLast)
      (runtimeBatch samplePlan sampleTasks (start samplePlan none [])) = pausedLast := by rfl
  have h := pause_keeps_work_iff samplePlan hstep hresult (by decide)
  rw [hbatch] at h
  refine h.mpr fun r hr => ?_
  have hnone : afterPause pausedLast = [] := by rfl
  rw [hnone] at hr
  cases hr

/-- The call that resumes after the pause came first. -/
def sampleSecond : Loop :=
  (iterate samplePlan sampleTasks
    (start samplePlan (some ((sampleFirst pausedFirst).result.getD default).workflowState) [])
    (sampleReply [])).getD default

/-- With the pause first, the completed task is not in the returned state, the call that
resumes hands it to the runtime again, and the runtime answers that its permit was already
consumed. -/
theorem pause_loses_work :
    ((sampleFirst pausedFirst).result.map fun r => r.workflowState.status) = some .paused ∧
      ¬ KeepsWork pausedFirst ((sampleFirst pausedFirst).result.getD default).workflowState ∧
      Reaches samplePlan (some ((sampleFirst pausedFirst).result.getD default).workflowState) []
        none [sampleReply []] sampleSecond ∧
      ∃ task ∈ sampleSecond.dispatched, task.taskId = "t" ∧
        ∃ s, (Engine.machine Engine.sampleConfig).run (.fresh () (fun _ => 1) fun _ => false)
            [.start 0 task (bypassedRouting "tool"), .turn 0 1,
              .finish 0 { taskId := "t", status := .completed },
              .start 0 task (bypassedRouting "tool"), .turn 1 2] = some s ∧
          ∃ call result, s.calls[1]? = some call ∧ call.phase = .returned result ∧
            result.status = .failed ∧
            Dict.get? result.metadata "diagnostic" = some (.str "permit_replayed") := by
  refine ⟨by decide, ?_, ?_, ?_⟩
  · rintro ⟨hcompleted, -⟩
    have hmem := hcompleted { taskId := "t", status := .completed } (by simp [pausedFirst]) rfl
    exact absurd hmem (by decide)
  · refine ⟨sampleTasks, some_getD (by decide) [], ?_⟩
    exact (machine samplePlan sampleTasks).run_cons_eq_some.mpr
      ⟨sampleSecond, some_getD (by decide) default, rfl⟩
  · refine ⟨sampleSecond.dispatched.getD 1 default, ?_, by decide, _, rfl, _, _, rfl, rfl, rfl, rfl⟩
    rw [List.getD_eq_getElem _ _ (by decide)]
    exact List.getElem_mem _

end Workflow

end Samaktha
