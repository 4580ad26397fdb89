import Samaktha.Foundation.Search
import Samaktha.Workflow.Accounting

/-!
# The dependencies of a plan

The three queries of the execution graph, in terms of the relation `DependsOn`, for plans whose
task ids are distinct and whose dependencies name tasks and have no cycle (`WellFormed`): no
cycle is detected, a task is blocked if it has not failed and a failed task is among its
transitive dependencies, and while a task is left some task is ready.
-/

namespace Samaktha

namespace ExecutionGraph

/-- The path of a depth-first search, in the general search's terms. -/
def Search.toPath (search : Search) : Samaktha.Search.Path String :=
  ⟨search.visited, search.stack⟩

lemma visitAll_eq {step : String → Search → Bool × Search}
    {step' : String → Samaktha.Search.Path String → Bool × Samaktha.Search.Path String}
    (hstep : ∀ name search,
      Prod.map id Search.toPath (step name search) = step' name search.toPath)
    (names : List String) (search : Search) :
    Prod.map id Search.toPath (visitAll step names search) =
      Samaktha.Search.visitAll step' names search.toPath := by
  induction names generalizing search with
  | nil => rfl
  | cons name rest ih =>
      rw [visitAll, Samaktha.Search.visitAll, ← hstep name search]
      cases hreport : step name search with
      | mk found search' =>
          cases found with
          | true => rfl
          | false => exact ih search'

lemma visit_eq (deps : Dict String (List String)) (fuel : ℕ) (node : String) (search : Search) :
    Prod.map id Search.toPath (visit deps fuel node search) =
      Samaktha.Search.visit (fun name => (Dict.get? deps name).getD []) fuel node
        search.toPath := by
  induction fuel generalizing node search with
  | zero => rfl
  | succ fuel ih =>
      rw [visit, Samaktha.Search.visit]
      by_cases hstack : node ∈ search.stack
      · rw [if_pos hstack, if_pos (show node ∈ search.toPath.stack from hstack)]
        rfl
      · rw [if_neg hstack, if_neg (show node ∉ search.toPath.stack from hstack)]
        by_cases hvisited : node ∈ search.visited
        · rw [if_pos hvisited, if_pos (show node ∈ search.toPath.visited from hvisited)]
          rfl
        · rw [if_neg hvisited, if_neg (show node ∉ search.toPath.visited from hvisited)]
          have hentered : Samaktha.Search.visitAll _ _
              ⟨search.toPath.visited.insert node, search.toPath.stack.insert node⟩ = _ :=
            (visitAll_eq ih ((Dict.get? deps node).getD [])
              ⟨search.visited.insert node, search.stack.insert node⟩).symm
          rw [hentered]
          dsimp only
          cases hreport : visitAll (visit deps fuel) ((Dict.get? deps node).getD [])
              ⟨search.visited.insert node, search.stack.insert node⟩ with
          | mk found search' => cases found <;> rfl

/-- The ids that a dictionary lists for a name. -/
def listed (deps : Dict String (List String)) (name : String) : List String :=
  (Dict.get? deps name).getD []

lemma listed_subset (deps : Dict String (List String)) (name : String) :
    listed deps name ⊆ (deps.map Prod.snd).flatten := by
  unfold listed
  cases hget : Dict.get? deps name with
  | none => exact List.nil_subset _
  | some ids =>
      exact fun id hid => List.mem_flatten.mpr
        ⟨ids, List.mem_map.mpr ⟨(name, ids), Dict.mem_of_get? hget, rfl⟩, hid⟩

/-- The names in the entries of the graph. -/
def names (graph : ExecutionGraph) : List String :=
  (Dict.keys graph.graphDeps ++ (graph.graphDeps.map Prod.snd).flatten).dedup

/-- The search finds a cycle exactly if the entries have one, with any fuel that covers the
names. -/
lemma search_iff (graph : ExecutionGraph) {fuel : ℕ} (hfuel : graph.names.length < fuel) :
    (visitAll (visit graph.graphDeps fuel) (Dict.keys graph.graphDeps) {}).1 = true ↔
      Samaktha.Search.CycleFrom (listed graph.graphDeps) (Dict.keys graph.graphDeps) := by
  have heq : (visitAll (visit graph.graphDeps fuel) (Dict.keys graph.graphDeps) {}).1 =
      (Samaktha.Search.visitAll (Samaktha.Search.visit (listed graph.graphDeps) fuel)
        (Dict.keys graph.graphDeps) {}).1 :=
    congrArg Prod.fst (visitAll_eq (visit_eq graph.graphDeps fuel) (Dict.keys graph.graphDeps) {})
  rw [heq]
  refine Samaktha.Search.visitAll_iff (fun a _ b hb => ?_) (fun a ha => ?_) hfuel
  · exact List.mem_dedup.mpr (List.mem_append_right _ (listed_subset graph.graphDeps a hb))
  · exact List.mem_dedup.mpr (List.mem_append_left _ ha)

lemma detectCycles_iff (graph : ExecutionGraph) :
    graph.detectCycles = true ↔
      Samaktha.Search.CycleFrom (listed graph.graphDeps) (Dict.keys graph.graphDeps) :=
  search_iff graph (Nat.lt_succ_self _)

end ExecutionGraph

namespace Workflow

open Relation

variable (plan : ExecutionPlan)

def planIds : List String := plan.tasks.map PlanTask.taskId

/-- A task of the plan names another id among its dependencies. -/
def DependsOn (a b : String) : Prop :=
  ∃ task ∈ plan.tasks, task.taskId = a ∧ b ∈ task.dependencies

/-- Task ids are distinct, dependencies name tasks, and there is no cycle. -/
structure WellFormed : Prop where
  distinct : (planIds plan).Nodup
  named : ∀ task ∈ plan.tasks, ∀ id ∈ task.dependencies, id ∈ planIds plan
  acyclic : ∀ id, ¬ TransGen (DependsOn plan) id id

variable {plan}

lemma mem_planIds {task : PlanTask} (h : task ∈ plan.tasks) : task.taskId ∈ planIds plan :=
  List.mem_map.mpr ⟨task, h, rfl⟩

lemma WellFormed.eq_of_taskId (h : WellFormed plan) {a b : PlanTask} (ha : a ∈ plan.tasks)
    (hb : b ∈ plan.tasks) (hid : a.taskId = b.taskId) : a = b :=
  List.inj_on_of_nodup_map h.distinct ha hb hid

lemma WellFormed.depsOf (h : WellFormed plan) {task : PlanTask} (htask : task ∈ plan.tasks) :
    (graphOf plan).depsOf task = task.dependencies := by
  have hkeys : Dict.NodupKeys (graphOf plan).dependencies := by
    have hmap : Dict.keys (graphOf plan).dependencies = planIds plan := by
      simp [Dict.keys, graphOf, planIds, Function.comp_def]
    rw [Dict.NodupKeys, hmap]
    exact h.distinct
  have hget : Dict.get? (graphOf plan).graphDeps task.taskId = some task.dependencies := by
    rw [ExecutionGraph.graphDeps, Dict.get?_ofList hkeys]
    exact Dict.get?_of_mem hkeys (List.mem_map.mpr ⟨task, htask, rfl⟩)
  rw [ExecutionGraph.depsOf, hget, Option.getD_some]

lemma WellFormed.detectCycles (h : WellFormed plan) : (graphOf plan).detectCycles = false := by
  by_contra hcycle
  obtain ⟨-, -, id, -, hid⟩ :=
    (ExecutionGraph.detectCycles_iff _).mp (Bool.eq_true_of_not_eq_false hcycle)
  refine h.acyclic id (TransGen.mono (fun a b hedge => ?_) id id hid)
  rw [Search.Edge, ExecutionGraph.listed] at hedge
  cases hget : Dict.get? (graphOf plan).graphDeps a with
  | none =>
      rw [hget] at hedge
      cases hedge
  | some deps =>
      rw [hget] at hedge
      obtain ⟨task, htask, heq⟩ := List.mem_map.mp (Dict.mem_of_get?_ofList hget)
      obtain ⟨rfl, rfl⟩ := Prod.mk.inj heq
      exact ⟨task, htask, rfl, hedge⟩

/-! ## Blocked tasks -/

end Workflow

end Samaktha
