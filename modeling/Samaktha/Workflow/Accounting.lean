import Samaktha.Workflow.Engine

/-!
# What an iteration of the workflow records

`settleResult` is the effect of one result that is not paused; a batch without a paused result
is a fold of it (`takeResults_of_forall`), and a batch with one stops there
(`takeResults_of_paused`).  `Iteration` lists the four things an iteration of `execute` can
do, and `iteration_of_iterate` is the only place where the definition of an iteration is
unfolded.
-/

namespace Samaktha

namespace Workflow

variable (plan : ExecutionPlan)

/-- The effect of one result that is not paused. -/
def settleResult (loop : Loop) (result : RuntimeResult) : Loop :=
  if result.status = .completed then markCompleted (record loop result) result
  else markFailed (record loop result) result

/-- A result that is neither completed nor paused. -/
def Failing (result : RuntimeResult) : Prop :=
  result.status ≠ .completed ∧ result.status ≠ .paused

instance (result : RuntimeResult) : Decidable (Failing result) :=
  inferInstanceAs (Decidable (_ ∧ _))

/-! ## The loop over the results -/

lemma takeResults_of_forall {loop : Loop} {results : List RuntimeResult}
    (h : ∀ r ∈ results, r.status ≠ .paused) :
    takeResults plan loop results = results.foldl settleResult loop := by
  induction results generalizing loop with
  | nil => rfl
  | cons result rest ih =>
      have hrest : ∀ r ∈ rest, r.status ≠ .paused := fun r hr => h r (List.mem_cons_of_mem _ hr)
      have hhead : result.status ≠ .paused := h result List.mem_cons_self
      rw [takeResults, List.foldl_cons, settleResult]
      by_cases hcompleted : result.status = .completed
      · simp only [if_pos hcompleted]
        exact ih hrest
      · simp only [if_neg hcompleted, if_neg hhead]
        exact ih hrest

lemma takeResults_of_paused {loop : Loop} {before after : List RuntimeResult}
    {paused : RuntimeResult} (hbefore : ∀ r ∈ before, r.status ≠ .paused)
    (hpaused : paused.status = .paused) :
    takeResults plan loop (before ++ paused :: after) =
      returnPaused plan (record (before.foldl settleResult loop) paused) paused := by
  induction before generalizing loop with
  | nil =>
      have hne : paused.status ≠ .completed := by
        rw [hpaused]
        decide
      rw [List.nil_append, takeResults]
      simp only [if_neg hne, if_pos hpaused]
      rfl
  | cons result rest ih =>
      have hrest : ∀ r ∈ rest, r.status ≠ .paused :=
        fun r hr => hbefore r (List.mem_cons_of_mem _ hr)
      have hhead : result.status ≠ .paused := hbefore result List.mem_cons_self
      rw [List.cons_append, takeResults, List.foldl_cons, settleResult]
      by_cases hcompleted : result.status = .completed
      · simp only [if_pos hcompleted]
        exact ih hrest
      · simp only [if_neg hcompleted, if_neg hhead]
        exact ih hrest

lemma exists_first_paused (results : List RuntimeResult) :
    (∀ r ∈ results, r.status ≠ .paused) ∨
      ∃ before paused after, results = before ++ paused :: after ∧
        (∀ r ∈ before, r.status ≠ .paused) ∧ paused.status = .paused := by
  induction results with
  | nil => exact .inl (by simp)
  | cons result rest ih =>
      by_cases hhead : result.status = .paused
      · exact .inr ⟨[], result, rest, rfl, by simp, hhead⟩
      · rcases ih with hnone | ⟨before, paused, after, rfl, hbefore, hpaused⟩
        · refine .inl fun r hr => ?_
          rcases List.mem_cons.mp hr with rfl | hr
          · exact hhead
          · exact hnone r hr
        · refine .inr ⟨result :: before, paused, after, rfl, fun r hr => ?_, hpaused⟩
          rcases List.mem_cons.mp hr with rfl | hr
          · exact hhead
          · exact hbefore r hr

/-! ## What a fold of results records -/

section Fold

variable (results : List RuntimeResult) (loop : Loop) (id : String)

@[simp] lemma result_settleResult (result : RuntimeResult) :
    (settleResult loop result).result = loop.result := by
  unfold settleResult
  split <;> rfl

@[simp] lemma result_foldl : (results.foldl settleResult loop).result = loop.result := by
  induction results generalizing loop with
  | nil => rfl
  | cons r rest ih => rw [List.foldl_cons, ih, result_settleResult]

@[simp] lemma dispatched_foldl :
    (results.foldl settleResult loop).dispatched = loop.dispatched := by
  induction results generalizing loop with
  | nil => rfl
  | cons r rest ih =>
      rw [List.foldl_cons, ih, settleResult]
      split <;> rfl

@[simp] lemma outputs_foldl :
    (results.foldl settleResult loop).outputs = loop.outputs ++ results := by
  induction results generalizing loop with
  | nil => simp
  | cons r rest ih =>
      have hone : (settleResult loop r).outputs = loop.outputs ++ [r] := by
        unfold settleResult
        split <;> rfl
      rw [List.foldl_cons, ih, hone, List.append_assoc, List.singleton_append]

@[simp] lemma delivered_foldl :
    (results.foldl settleResult loop).delivered = loop.delivered ++ results := by
  induction results generalizing loop with
  | nil => simp
  | cons r rest ih =>
      have hone : (settleResult loop r).delivered = loop.delivered ++ [r] := by
        unfold settleResult
        split <;> rfl
      rw [List.foldl_cons, ih, hone, List.append_assoc, List.singleton_append]

/-- A set of ids that each result may extend by its own is extended by a fold with the ids of
the results that do. -/
lemma mem_foldl_settleResult (ids : Loop → List String) (adds : RuntimeResult → Prop)
    (hone : ∀ (loop : Loop) (r : RuntimeResult),
      id ∈ ids (settleResult loop r) ↔ id ∈ ids loop ∨ (adds r ∧ r.taskId = id)) :
    id ∈ ids (results.foldl settleResult loop) ↔
      id ∈ ids loop ∨ ∃ r ∈ results, adds r ∧ r.taskId = id := by
  induction results generalizing loop with
  | nil => simp
  | cons r rest ih => rw [List.foldl_cons, ih, hone, List.exists_mem_cons_iff, or_assoc]

lemma mem_completedTaskIds_foldl :
    id ∈ (results.foldl settleResult loop).state.completedTaskIds ↔
      id ∈ loop.state.completedTaskIds ∨
        ∃ r ∈ results, r.status = .completed ∧ r.taskId = id := by
  refine mem_foldl_settleResult results loop id (fun loop => loop.state.completedTaskIds) _ ?_
  intro loop r
  by_cases hcompleted : r.status = .completed
  · simp [settleResult, hcompleted, markCompleted, record, or_comm, eq_comm]
  · simp [settleResult, hcompleted, markFailed, record]

lemma mem_failedTaskIds_foldl :
    id ∈ (results.foldl settleResult loop).state.failedTaskIds ↔
      id ∈ loop.state.failedTaskIds ∨
        ∃ r ∈ results, r.status ≠ .completed ∧ r.taskId = id := by
  refine mem_foldl_settleResult results loop id (fun loop => loop.state.failedTaskIds) _ ?_
  intro loop r
  by_cases hcompleted : r.status = .completed
  · simp [settleResult, hcompleted, markCompleted, record]
  · simp [settleResult, hcompleted, markFailed, record, or_comm, eq_comm]

lemma mem_failed_foldl :
    id ∈ (results.foldl settleResult loop).failed ↔
      id ∈ loop.failed ∨ ∃ r ∈ results, r.status ≠ .completed ∧ r.taskId = id := by
  refine mem_foldl_settleResult results loop id (fun loop => loop.failed) _ ?_
  intro loop r
  by_cases hcompleted : r.status = .completed
  · simp [settleResult, hcompleted, markCompleted, record]
  · simp [settleResult, hcompleted, markFailed, record, or_comm, eq_comm]

lemma completed_subset_foldl (h : id ∈ loop.completed) :
    id ∈ (results.foldl settleResult loop).completed := by
  induction results generalizing loop with
  | nil => exact h
  | cons r rest ih =>
      refine ih _ ?_
      unfold settleResult
      split
      · exact List.mem_insert_of_mem h
      · exact h

end Fold

/-! ## Reports that cannot be built -/

section Reported

variable (loop : Loop)

lemma reported_eq :
    reported loop = loop ∨ reported loop = { loop with result := none, raised := true } := by
  unfold reported
  split
  · exact .inr rfl
  · exact .inl rfl

@[simp] lemma state_reported : (reported loop).state = loop.state := by
  rcases reported_eq loop with h | h <;> rw [h]

@[simp] lemma failed_reported : (reported loop).failed = loop.failed := by
  rcases reported_eq loop with h | h <;> rw [h]

@[simp] lemma pauses_reported : (reported loop).pauses = loop.pauses := by
  rcases reported_eq loop with h | h <;> rw [h]

@[simp] lemma outputs_reported : (reported loop).outputs = loop.outputs := by
  rcases reported_eq loop with h | h <;> rw [h]

@[simp] lemma delivered_reported : (reported loop).delivered = loop.delivered := by
  rcases reported_eq loop with h | h <;> rw [h]

variable {loop}

lemma reported_of_result {result : WorkflowResult} (h : (reported loop).result = some result) :
    reported loop = loop := by
  rcases reported_eq loop with heq | heq
  · exact heq
  · rw [heq] at h
    cases h

/-- `execute` has raised. -/
def Raised (loop : Loop) : Prop := loop.result = none ∧ loop.raised = true

lemma kept_or_raised {P : Loop → Prop} (h : P loop) :
    P (reported loop) ∨ Raised (reported loop) := by
  rcases reported_eq loop with heq | heq
  · rw [heq]
    exact .inl h
  · rw [heq]
    exact .inr ⟨rfl, rfl⟩

end Reported

/-! ## Iterations -/

/-- What one iteration of `execute` can do before a report is built. -/
inductive Iteration (tasks : Dict String RuntimeTask) (loop loop' : Loop) (reply : Reply) : Prop
  | concluded (hfinished : isFinished plan loop = true) (hloop : loop' = conclude plan loop)
  | deadlocked (hunfinished : ¬ isFinished plan loop = true)
      (hbatch : nextBatch plan loop = []) (result : WorkflowResult)
      (_hresult : result = failWorkflow plan.planId loop.state
        "Scheduling failure: deadlocked or unresolved dependencies.")
      (hloop : loop' = { loop with state := result.workflowState, result := some result })
  | internal (hbatch : runtimeBatch plan tasks loop = []) (hloop : loop' = runInternal plan loop)
  | delivered (hbatch : runtimeBatch plan tasks loop ≠ [])
      (hloop : loop' = takeResults plan
        { runInternal plan loop with
          dispatched := loop.dispatched ++ routedTasks reply (runtimeBatch plan tasks loop) }
        (batchResults reply (runtimeBatch plan tasks loop)))

/-! ## Frames of the internal tasks -/

section Internal

variable (batch : List PlanTask) (loop : Loop) (id : String)

@[simp] lemma result_takeInternal : (batch.foldl takeInternal loop).result = loop.result := by
  induction batch generalizing loop with
  | nil => rfl
  | cons task rest ih => rw [List.foldl_cons, ih]; rfl

@[simp] lemma outputs_takeInternal : (batch.foldl takeInternal loop).outputs = loop.outputs := by
  induction batch generalizing loop with
  | nil => rfl
  | cons task rest ih => rw [List.foldl_cons, ih]; rfl

@[simp] lemma delivered_takeInternal :
    (batch.foldl takeInternal loop).delivered = loop.delivered := by
  induction batch generalizing loop with
  | nil => rfl
  | cons task rest ih => rw [List.foldl_cons, ih]; rfl

@[simp] lemma dispatched_takeInternal :
    (batch.foldl takeInternal loop).dispatched = loop.dispatched := by
  induction batch generalizing loop with
  | nil => rfl
  | cons task rest ih => rw [List.foldl_cons, ih]; rfl

@[simp] lemma failed_takeInternal : (batch.foldl takeInternal loop).failed = loop.failed := by
  induction batch generalizing loop with
  | nil => rfl
  | cons task rest ih => rw [List.foldl_cons, ih]; rfl

@[simp] lemma completedTaskIds_takeInternal :
    (batch.foldl takeInternal loop).state.completedTaskIds = loop.state.completedTaskIds := by
  induction batch generalizing loop with
  | nil => rfl
  | cons task rest ih => rw [List.foldl_cons, ih]; rfl

@[simp] lemma failedTaskIds_takeInternal :
    (batch.foldl takeInternal loop).state.failedTaskIds = loop.state.failedTaskIds := by
  induction batch generalizing loop with
  | nil => rfl
  | cons task rest ih => rw [List.foldl_cons, ih]; rfl

lemma completed_subset_takeInternal (h : id ∈ loop.completed) :
    id ∈ (batch.foldl takeInternal loop).completed := by
  induction batch generalizing loop with
  | nil => exact h
  | cons task rest ih => exact ih _ (List.mem_insert_of_mem h)

@[simp] lemma result_runInternal : (runInternal plan loop).result = loop.result :=
  result_takeInternal _ loop

@[simp] lemma outputs_runInternal : (runInternal plan loop).outputs = loop.outputs :=
  outputs_takeInternal _ loop

@[simp] lemma delivered_runInternal : (runInternal plan loop).delivered = loop.delivered :=
  delivered_takeInternal _ loop

@[simp] lemma dispatched_runInternal : (runInternal plan loop).dispatched = loop.dispatched :=
  dispatched_takeInternal _ loop

@[simp] lemma failed_runInternal : (runInternal plan loop).failed = loop.failed :=
  failed_takeInternal _ loop

@[simp] lemma completedTaskIds_runInternal :
    (runInternal plan loop).state.completedTaskIds = loop.state.completedTaskIds :=
  completedTaskIds_takeInternal _ loop

@[simp] lemma failedTaskIds_runInternal :
    (runInternal plan loop).state.failedTaskIds = loop.state.failedTaskIds :=
  failedTaskIds_takeInternal _ loop

lemma completed_subset_runInternal (h : id ∈ loop.completed) :
    id ∈ (runInternal plan loop).completed := completed_subset_takeInternal _ loop id h

end Internal

lemma iteration_of_iterate {tasks : Dict String RuntimeTask} {loop loop' : Loop} {reply : Reply}
    (h : iterate plan tasks loop reply = some loop') :
    loop.result = none ∧ loop.raised = false ∧
      ∃ taken, Iteration plan tasks loop taken reply ∧ loop' = reported taken := by
  unfold iterate at h
  split at h
  · cases h
  · rename_i hopen
    rw [Bool.or_eq_true, not_or, Option.not_isSome_iff_eq_none, Bool.not_eq_true] at hopen
    refine ⟨hopen.1, hopen.2, ?_⟩
    split at h
    · rename_i hfinished
      exact ⟨_, .concluded hfinished rfl, (Option.some.inj h).symm⟩
    · rename_i hunfinished
      split at h
      · rename_i hbatch
        exact ⟨_, .deadlocked hunfinished (List.isEmpty_iff.mp hbatch) _ rfl rfl,
          (Option.some.inj h).symm⟩
      · refine ⟨_, ?_, (Option.some.inj h).symm⟩
        unfold runBatch
        split
        · rename_i hruntime
          exact .internal (List.isEmpty_iff.mp hruntime) rfl
        · rename_i hruntime
          rw [dispatched_runInternal]
          exact .delivered (fun hnil => hruntime (List.isEmpty_iff.mpr hnil)) rfl

/-- What every iteration keeps unless it raises holds after a run that has not raised. -/
lemma or_raised_of_run {P : Loop → Prop} {tasks : Dict String RuntimeTask}
    (hstep : ∀ loop reply loop', P loop → iterate plan tasks loop reply = some loop' →
      P loop' ∨ Raised loop')
    {first loop : Loop} {replies : List Reply} (hfirst : P first ∨ Raised first)
    (hrun : (machine plan tasks).run first replies = some loop) : P loop ∨ Raised loop := by
  have hkeeps : ∀ loop reply loop', P loop ∨ Raised loop →
      (machine plan tasks).step loop reply = some loop' → P loop' ∨ Raised loop' := by
    rintro loop reply loop' (hkept | hraised) hmove
    · exact hstep loop reply loop' hkept hmove
    · obtain ⟨-, hopen, -⟩ := iteration_of_iterate plan hmove
      rw [hraised.2] at hopen
      cases hopen
  exact (machine plan tasks).run_invariant hkeeps hfirst hrun

/-! ## Runtime tasks carry their ids -/

lemma taskId_of_workflowTasks {overrides : Dict String ResumeOverrides}
    {preparedContext : Option Value} {tasks : Dict String RuntimeTask}
    (h : workflowTasks plan overrides preparedContext = some tasks) {id : String}
    {task : RuntimeTask} (hget : Dict.get? tasks id = some task) : task.taskId = id := by
  obtain ⟨built, -, rfl⟩ := Option.map_eq_some_iff.mp h
  obtain ⟨t, -, ht⟩ := List.mem_map.mp (Dict.mem_of_get?_ofList hget)
  obtain ⟨rfl, rfl⟩ := Prod.mk.inj ht
  rfl

end Workflow

end Samaktha
