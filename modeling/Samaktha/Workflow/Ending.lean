import Samaktha.Workflow.Accounting

/-!
# How a call of `execute` ends

The call returns at the first paused result, at a deadlock (or before the loop, for a plan
that is empty or cyclic), or at the end of the plan.  `Ending` says, for each of the three,
what it returns in terms of what was delivered to it; `ending_of_reaches` proves it for every
run, by an invariant of the loop (`Progress`).
-/

namespace Samaktha

namespace Workflow

/-! ## What was handed in -/

/-- The failed ids of a resumed state. -/
def resumedFailed (resume : Option WorkflowState) : List String :=
  (resume.map WorkflowState.failedTaskIds).getD []

def resumedResults (resume : Option WorkflowState) : List RuntimeResult :=
  (resume.map WorkflowState.results).getD []

/-- The ids that have failed: those of the resumed state and those of the delivered results
that failed. -/
def failedIds (resume : Option WorkflowState) (delivered : List RuntimeResult) : List String :=
  (delivered.filter fun r => Failing r).foldl (fun ids r => ids.insert r.taskId)
    (resumedFailed resume)

/-- The result that stands for a blocked task. -/
def blockedResult (task : PlanTask) : RuntimeResult where
  taskId := task.taskId
  status := .blockedByDependency
  error := some "Blocked by dependency failure"

variable (plan : ExecutionPlan) (resume : Option WorkflowState)

/-- The plan has tasks, and all of them are completed, failed or blocked. -/
def PlanEnded (loop : Loop) : Prop := plan.tasks ≠ [] ∧ isFinished plan loop = true

/-- A result was paused. -/
def SomePaused (delivered : List RuntimeResult) : Prop := ∃ r ∈ delivered, r.status = .paused

lemma failedIds_append (delivered results : List RuntimeResult) :
    failedIds resume (delivered ++ results) =
      (results.filter fun r => Failing r).foldl (fun ids r => ids.insert r.taskId)
        (failedIds resume delivered) := by
  rw [failedIds, List.filter_append, List.foldl_append]
  rfl

lemma completed_of_failedIds_nil {delivered : List RuntimeResult}
    (hfailed : failedIds resume delivered = []) (hpaused : ¬ SomePaused delivered) :
    ∀ r ∈ delivered, r.status = .completed := by
  have hmem : ∀ (results : List RuntimeResult) (ids : List String) (r : RuntimeResult),
      r ∈ results → r.taskId ∈ results.foldl (fun ids r => ids.insert r.taskId) ids := by
    intro results
    induction results using List.reverseRecOn with
    | nil => simp
    | append_singleton rest last ih =>
        intro ids r hr
        rw [List.foldl_append, List.foldl_cons, List.foldl_nil]
        rcases List.mem_append.mp hr with hr | hr
        · exact List.mem_insert_of_mem (ih ids r hr)
        · obtain rfl := List.mem_singleton.mp hr
          exact List.mem_insert_self
  intro r hr
  by_contra hcompleted
  have hfailing : Failing r := ⟨hcompleted, fun h => hpaused ⟨r, hr, h⟩⟩
  have hid := hmem (delivered.filter fun r => Failing r) (resumedFailed resume) r
    (List.mem_filter.mpr ⟨hr, by simpa using hfailing⟩)
  rw [show List.foldl _ _ _ = [] from hfailed] at hid
  cases hid

lemma failed_foldl (results : List RuntimeResult) (loop : Loop)
    (h : ∀ r ∈ results, r.status ≠ .paused) :
    (results.foldl settleResult loop).failed =
      (results.filter fun r => Failing r).foldl (fun ids r => ids.insert r.taskId) loop.failed := by
  induction results generalizing loop with
  | nil => rfl
  | cons r rest ih =>
      have hrest : ∀ x ∈ rest, x.status ≠ .paused := fun x hx => h x (List.mem_cons_of_mem _ hx)
      have hhead : r.status ≠ .paused := h r List.mem_cons_self
      rw [List.foldl_cons, ih _ hrest]
      by_cases hcompleted : r.status = .completed
      · have hnot : ¬ Failing r := fun hfailing => hfailing.1 hcompleted
        rw [List.filter_cons_of_neg (by simpa using hnot)]
        simp [settleResult, hcompleted, markCompleted, record]
      · have hfailing : Failing r := ⟨hcompleted, hhead⟩
        rw [List.filter_cons_of_pos (by simpa using hfailing), List.foldl_cons]
        simp [settleResult, hcompleted, markFailed, record]

/-! ## The results that are kept -/

section Kept

variable (p : RuntimeResult → Prop)

/-- A property that the results made up by the workflow have holds of everything that is kept
exactly if it holds of what was resumed and delivered. -/
def KeptIff (loop : Loop) : Prop :=
  (∀ r ∈ loop.state.results, p r) ↔ ∀ r ∈ resumedResults resume ++ loop.delivered, p r

lemma results_foldl (results : List RuntimeResult) (loop : Loop) :
    (results.foldl settleResult loop).state.results = loop.state.results ++ results := by
  induction results generalizing loop with
  | nil => simp
  | cons r rest ih =>
      have hone : (settleResult loop r).state.results = loop.state.results ++ [r] := by
        unfold settleResult
        split <;> rfl
      rw [List.foldl_cons, ih, hone, List.append_assoc, List.singleton_append]

lemma results_runInternal (loop : Loop) :
    (runInternal plan loop).state.results = loop.state.results ++
      ((nextBatch plan loop).filter fun task => task.kind ≠ .executeViaRuntime).map
        internalResult := by
  have htake : ∀ (batch : List PlanTask) (loop : Loop),
      (batch.foldl takeInternal loop).state.results =
        loop.state.results ++ batch.map internalResult := by
    intro batch
    induction batch with
    | nil => simp
    | cons task rest ih =>
        intro loop
        rw [List.foldl_cons, ih]
        simp [takeInternal]
  exact htake _ loop

lemma results_prefix_runInternal (loop : Loop) :
    loop.state.results <+: (runInternal plan loop).state.results := by
  rw [results_runInternal]
  exact List.prefix_append _ _

lemma results_prefix_takeResults (loop : Loop) (results : List RuntimeResult) :
    loop.state.results <+: (takeResults plan loop results).state.results := by
  induction results generalizing loop with
  | nil => exact List.prefix_rfl
  | cons result rest ih =>
      have hrecord : loop.state.results <+: (record loop result).state.results :=
        List.prefix_append _ _
      rw [takeResults]
      split
      · exact hrecord.trans (ih (markCompleted (record loop result) result))
      · split
        · exact hrecord
        · exact hrecord.trans (ih (markFailed (record loop result) result))

lemma results_start (pauses : Dict String PendingPause) :
    (start plan resume pauses).state.results = resumedResults resume := by
  have hinitial : (initialState plan resume).results = resumedResults resume := by
    cases resume <;> rfl
  have hreported : ∀ loop : Loop, (reported loop).state = loop.state := by
    intro loop
    unfold reported
    split <;> rfl
  unfold start
  dsimp only
  split
  · rw [hreported]
    exact hinitial
  · split
    · rw [hreported]
      exact hinitial
    · exact hinitial

lemma KeptIff.append {loop loop' : Loop} (h : KeptIff resume p loop)
    (made results : List RuntimeResult) (hmade : ∀ r ∈ made, p r)
    (hresults : loop'.state.results = loop.state.results ++ made ++ results)
    (hdelivered : loop'.delivered = loop.delivered ++ results) : KeptIff resume p loop' := by
  unfold KeptIff at h ⊢
  have hkept : (∀ r ∈ loop'.state.results, p r) ↔
      (∀ r ∈ loop.state.results, p r) ∧ ∀ r ∈ results, p r := by
    rw [hresults, List.forall_mem_append, List.forall_mem_append]
    exact ⟨fun h => ⟨h.1.1, h.2⟩, fun h => ⟨⟨h.1, hmade⟩, h.2⟩⟩
  rw [hkept, h, hdelivered, ← List.append_assoc]
  exact List.forall_mem_append.symm

end Kept

/-! ## Endings -/

/-- What a call returns, in terms of what was delivered to it. -/
structure Ending (loop : Loop) (result : WorkflowResult) : Prop where
  report : result.executionReport.success = result.success
  state : result.workflowState = loop.state
  paused : SomePaused loop.delivered → result.success = false ∧ result.outputs = loop.delivered
  stuck : ¬ SomePaused loop.delivered → ¬ PlanEnded plan loop →
    result.success = false ∧ result.outputs = []
  ended : ¬ SomePaused loop.delivered → PlanEnded plan loop →
    result.success = (failedIds resume loop.delivered).isEmpty ∧
      result.outputs = loop.delivered ++
        ((graphOf plan).getBlockedTasks (failedIds resume loop.delivered)).map blockedResult

/-- The invariant of the loop while nothing was raised. -/
structure Progress (loop : Loop) : Prop where
  running : loop.result = none → plan.tasks ≠ [] ∧ loop.failed = failedIds resume loop.delivered ∧
    loop.outputs = loop.delivered ∧ ¬ SomePaused loop.delivered
  returned : ∀ result, loop.result = some result → Ending plan resume loop result

lemma decide_completed (isSuccess : Bool) :
    decide ((if isSuccess then ExecutionStatus.completed else .failed) = .completed) =
      isSuccess := by
  cases isSuccess <;> rfl

lemma ending_failWorkflow {loop : Loop} (hdelivered : ¬ SomePaused loop.delivered)
    (hended : ¬ PlanEnded plan loop) {state : WorkflowState} {error : String}
    (hstate : (failWorkflow plan.planId state error).workflowState = loop.state) :
    Ending plan resume loop (failWorkflow plan.planId state error) where
  report := rfl
  state := hstate
  paused h := absurd h hdelivered
  stuck _ _ := ⟨rfl, rfl⟩
  ended _ h := absurd h hended

lemma progress_start (pauses : Dict String PendingPause) :
    Progress plan resume (start plan resume pauses) ∨ Raised (start plan resume pauses) := by
  have hnone : ¬ SomePaused ([] : List RuntimeResult) := by simp [SomePaused]
  unfold start
  dsimp only
  split
  · rename_i hempty
    refine kept_or_raised ?_
    refine ⟨fun h => by simp at h, fun result hresult => ?_⟩
    obtain rfl := Option.some.inj hresult
    exact ending_failWorkflow plan resume hnone
      (fun h => h.1 (List.isEmpty_iff.mp hempty)) rfl
  · rename_i htasks
    have hne : plan.tasks ≠ [] := fun h => htasks (List.isEmpty_iff.mpr h)
    split
    · refine kept_or_raised ?_
      refine ⟨fun h => by simp at h, fun result hresult => ?_⟩
      obtain rfl := Option.some.inj hresult
      refine ending_failWorkflow plan resume hnone (fun h => hne ?_) rfl
      -- nothing is completed or failed yet, so the plan has not ended
      have hfinished := h.2
      simp only [isFinished, List.nil_append, decide_eq_true_eq] at hfinished
      rw [ExecutionGraph.getBlockedTasks_nil] at hfinished
      exact List.length_eq_zero_iff.mp (Nat.le_zero.mp hfinished)
    · refine .inl ⟨fun _ => ⟨hne, ?_, rfl, hnone⟩, fun result hresult => by cases hresult⟩
      show (initialState plan resume).failedTaskIds = failedIds resume []
      cases resume <;> rfl

lemma Progress.settled {loop : Loop} {results : List RuntimeResult}
    (h : Progress plan resume loop) (dispatched : List RuntimeTask) (hopen : loop.result = none)
    (hresults : ∀ r ∈ results, r.status ≠ .paused) :
    Progress plan resume
      (results.foldl settleResult { runInternal plan loop with dispatched := dispatched }) := by
  obtain ⟨hne, hfailed, houtputs, hpaused⟩ := h.running hopen
  refine ⟨fun _ => ⟨hne, ?_, ?_, ?_⟩, fun result hresult => ?_⟩
  · rw [failed_foldl results _ hresults, delivered_foldl]
    simp only [failed_runInternal, delivered_runInternal, failedIds_append, hfailed]
  · rw [outputs_foldl, delivered_foldl]
    simp only [outputs_runInternal, delivered_runInternal, houtputs]
  · rw [delivered_foldl]
    simp only [delivered_runInternal]
    rintro ⟨r, hr, hstatus⟩
    rcases List.mem_append.mp hr with hr | hr
    · exact hpaused ⟨r, hr, hstatus⟩
    · exact hresults r hr hstatus
  · rw [result_foldl] at hresult
    simp only [result_runInternal, hopen] at hresult
    cases hresult

lemma Progress.paused {loop : Loop} {before : List RuntimeResult} {paused : RuntimeResult}
    (h : Progress plan resume loop) (dispatched : List RuntimeTask) (hopen : loop.result = none)
    (hbefore : ∀ r ∈ before, r.status ≠ .paused) (hstatus : paused.status = .paused) :
    Progress plan resume
      (returnPaused plan
        (record (before.foldl settleResult { runInternal plan loop with dispatched := dispatched })
          paused) paused) := by
  have hsettled := h.settled plan resume dispatched hopen hbefore
  obtain ⟨hne, hfailed, houtputs, hpaused⟩ := hsettled.running (by
    rw [result_foldl]
    simpa using hopen)
  have hsome : ∀ delivered : List RuntimeResult, SomePaused (delivered ++ [paused]) :=
    fun delivered => ⟨paused, List.mem_append_right _ List.mem_cons_self, hstatus⟩
  refine ⟨fun hnone => (by cases hnone), fun result hresult => ?_⟩
  obtain rfl := Option.some.inj hresult
  refine ⟨rfl, rfl, fun _ => ⟨rfl, ?_⟩, fun hno => absurd (hsome _) hno,
    fun hno => absurd (hsome _) hno⟩
  show _ ++ [paused] = _ ++ [paused]
  rw [houtputs]

lemma Progress.concluded {loop : Loop} (h : Progress plan resume loop) (hopen : loop.result = none)
    (hfinished : isFinished plan loop = true) : Progress plan resume (conclude plan loop) := by
  obtain ⟨hne, hfailed, houtputs, hpaused⟩ := h.running hopen
  have hended : PlanEnded plan (conclude plan loop) := ⟨hne, hfinished⟩
  refine ⟨fun hnone => (by cases hnone), fun result hresult => ?_⟩
  obtain rfl := Option.some.inj hresult
  refine ⟨?_, rfl, fun hsome => absurd hsome hpaused, fun _ hno => absurd hended hno,
    fun _ _ => ⟨?_, ?_⟩⟩
  · exact decide_completed _
  · show (loop.failed.isEmpty && _) = (failedIds resume loop.delivered).isEmpty
    rw [← hfailed]
    -- nothing is blocked while nothing has failed
    cases hempty : loop.failed with
    | nil =>
        rw [ExecutionGraph.getBlockedTasks_nil]
        rfl
    | cons id ids => rfl
  · show loop.outputs ++ _ = loop.delivered ++
      ((graphOf plan).getBlockedTasks (failedIds resume loop.delivered)).map blockedResult
    rw [houtputs, ← hfailed]
    rfl

/-- An iteration that does not raise keeps the invariant. -/
lemma Progress.step {tasks : Dict String RuntimeTask} {loop loop' : Loop} {reply : Reply}
    (h : Progress plan resume loop) (hstep : iterate plan tasks loop reply = some loop') :
    Progress plan resume loop' ∨ Raised loop' := by
  obtain ⟨hopen, -, taken, hiteration, rfl⟩ := iteration_of_iterate plan hstep
  obtain ⟨hne, hfailed, houtputs, hpaused⟩ := h.running hopen
  refine kept_or_raised ?_
  cases hiteration with
  | concluded hfinished hloop =>
      subst hloop
      exact h.concluded plan resume hopen hfinished
  | deadlocked hunfinished hbatch result hresult hloop =>
      subst hloop hresult
      refine ⟨fun hnone => (by cases hnone), fun result hresult => ?_⟩
      obtain rfl := Option.some.inj hresult
      refine ending_failWorkflow plan resume ?_ ?_ rfl
      · exact hpaused
      · exact fun hended => hunfinished hended.2
  | internal hbatch hloop =>
      subst hloop
      refine ⟨fun _ => ⟨hne, ?_, ?_, ?_⟩, fun result hresult => ?_⟩
      · rw [failed_runInternal, delivered_runInternal, hfailed]
      · rw [outputs_runInternal, delivered_runInternal, houtputs]
      · rw [delivered_runInternal]
        exact hpaused
      · rw [result_runInternal, hopen] at hresult
        cases hresult
  | delivered hbatch hloop =>
      rcases exists_first_paused (batchResults reply (runtimeBatch plan tasks loop)) with
        hnone | ⟨before, paused, after, heq, hbefore, hstatus⟩
      · rw [takeResults_of_forall plan hnone] at hloop
        subst hloop
        exact h.settled plan resume _ hopen hnone
      · rw [heq, takeResults_of_paused plan hbefore hstatus] at hloop
        subst hloop
        exact h.paused plan resume _ hopen hbefore hstatus

/-- What any call of `execute` returns. -/
theorem ending_of_reaches {pauses : Dict String PendingPause} {preparedContext : Option Value}
    {replies : List Reply} {loop : Loop} {result : WorkflowResult}
    (hreach : Reaches plan resume pauses preparedContext replies loop)
    (hresult : loop.result = some result) : Ending plan resume loop result := by
  obtain ⟨tasks, -, hrun⟩ := hreach
  rcases or_raised_of_run plan (fun _ _ _ h hstep => h.step plan resume hstep)
    (progress_start plan resume pauses) hrun with hprogress | hraised
  · exact hprogress.returned result hresult
  · rw [hraised.1] at hresult
    cases hresult

lemma countable_of_reaches {pauses : Dict String PendingPause} {preparedContext : Option Value}
    {replies : List Reply} {loop : Loop} {result : WorkflowResult}
    (hreach : Reaches plan resume pauses preparedContext replies loop)
    (hresult : loop.result = some result) : ∀ r ∈ loop.state.results, countable r = true := by
  let Counted (loop : Loop) : Prop :=
    loop.result.isSome = true → ∀ r ∈ loop.state.results, countable r = true
  have hreported (loop : Loop) : Counted (reported loop) := by
    intro hsome r hr
    rw [state_reported] at hr
    unfold reported at hsome
    split at hsome
    · cases hsome
    · rename_i hbuilt
      rw [hsome, Bool.true_and, Bool.not_eq_true, Bool.not_eq_false'] at hbuilt
      exact List.all_eq_true.mp hbuilt r hr
  obtain ⟨tasks, -, hrun⟩ := hreach
  have hstep : ∀ loop reply loop', Counted loop →
      (machine plan tasks).step loop reply = some loop' → Counted loop' := by
    intro loop reply loop' _ hstep
    obtain ⟨-, -, taken, -, rfl⟩ := iteration_of_iterate plan hstep
    exact hreported taken
  have hstart : Counted (start plan resume pauses) := by
    unfold start
    dsimp only
    split
    · exact hreported _
    · split
      · exact hreported _
      · exact fun hsome => by cases hsome
  exact (machine plan tasks).run_invariant hstep hstart hrun (by rw [hresult]; rfl)

/-! ## The kept results of a run -/

section Kept

variable {p : RuntimeResult → Prop}

/-- An iteration keeps no result but those delivered to it and those it makes up. -/
lemma KeptIff.step (hinternal : ∀ task, p (internalResult task))
    (hblocked : ∀ task, p (blockedResult task)) {tasks : Dict String RuntimeTask}
    {loop loop' : Loop} {reply : Reply} (h : KeptIff resume p loop)
    (hstep : iterate plan tasks loop reply = some loop') : KeptIff resume p loop' := by
  obtain ⟨hopen, -, taken, hiteration, rfl⟩ := iteration_of_iterate plan hstep
  suffices hkept : KeptIff resume p taken by
    rwa [KeptIff, state_reported, delivered_reported]
  have hmade : ∀ r ∈ ((nextBatch plan loop).filter fun task =>
      task.kind ≠ .executeViaRuntime).map internalResult, p r := by
    intro r hr
    obtain ⟨task, -, rfl⟩ := List.mem_map.mp hr
    exact hinternal task
  cases hiteration with
  | concluded hfinished hloop =>
      subst hloop
      have hnone : ∀ r ∈ ((graphOf plan).getBlockedTasks loop.failed).map blockedResult, p r := by
        intro r hr
        obtain ⟨task, -, rfl⟩ := List.mem_map.mp hr
        exact hblocked task
      refine h.append resume p _ [] hnone ?_ (List.append_nil _).symm
      rw [List.append_nil]
      rfl
  | deadlocked hunfinished hbatch result hresult hloop =>
      subst hloop hresult
      exact h
  | internal hbatch hloop =>
      subst hloop
      refine h.append resume p _ [] hmade ?_ ?_
      · rw [results_runInternal, List.append_nil]
      · rw [delivered_runInternal, List.append_nil]
  | delivered hbatch hloop =>
      rcases exists_first_paused (batchResults reply (runtimeBatch plan tasks loop)) with
        hnone | ⟨before, paused, after, heq, hbefore, hstatus⟩
      · rw [takeResults_of_forall plan hnone] at hloop
        subst hloop
        refine h.append resume p _ (batchResults reply (runtimeBatch plan tasks loop)) hmade ?_ ?_
        · rw [results_foldl]
          simp only [results_runInternal]
        · rw [delivered_foldl]
          simp only [delivered_runInternal]
      · rw [heq, takeResults_of_paused plan hbefore hstatus] at hloop
        subst hloop
        refine h.append resume p _ (before ++ [paused]) hmade ?_ ?_
        · simp only [returnPaused, record, results_foldl, results_runInternal,
            List.append_assoc]
        · simp only [returnPaused, record, delivered_foldl, delivered_runInternal,
            List.append_assoc]

/-- The results that any call of `execute` keeps. -/
theorem kept_of_reaches (hinternal : ∀ task, p (internalResult task))
    (hblocked : ∀ task, p (blockedResult task)) {pauses : Dict String PendingPause}
    {preparedContext : Option Value} {replies : List Reply} {loop : Loop}
    (hreach : Reaches plan resume pauses preparedContext replies loop) :
    (∀ r ∈ loop.state.results, p r) ↔ ∀ r ∈ resumedResults resume ++ loop.delivered, p r := by
  obtain ⟨tasks, -, hrun⟩ := hreach
  have hstep : ∀ loop reply loop', KeptIff resume p loop →
      (machine plan tasks).step loop reply = some loop' → KeptIff resume p loop' :=
    fun _ _ _ h hstep => h.step plan resume hinternal hblocked hstep
  refine (machine plan tasks).run_invariant hstep ?_ hrun
  have hstart : (start plan resume pauses).state.results = resumedResults resume ∧
      (start plan resume pauses).delivered = [] := by
    unfold start
    dsimp only
    split
    · rw [state_reported, delivered_reported]
      cases resume <;> exact ⟨rfl, rfl⟩
    · split
      · rw [state_reported, delivered_reported]
        cases resume <;> exact ⟨rfl, rfl⟩
      · cases resume <;> exact ⟨rfl, rfl⟩
  unfold KeptIff
  rw [hstart.1, hstart.2, List.append_nil]

end Kept

end Workflow

end Samaktha
