import Samaktha.Runtime.Batch
import Samaktha.Workflow.Dependencies

/-!
# The two cycle detections

The workflow's graph and the scheduler's both search depth first for a cycle.  The first starts
from the tasks that have an entry and records a task as visited when it is entered; the second
starts from all its tasks and records a task when it is left.  Both are exact, and on the tasks of
a plan they agree (`detectCycles_exact`).

The interpreter's limit on the depth of a recursion is not modelled: the searches have as much
fuel as they need, and more of it changes nothing.
-/

namespace Samaktha

namespace RunBatch

open ExecutionGraph (listed listed_subset)
open Samaktha.Search (CycleFrom CycleAhead)

/-- The dependencies the resolver sees for a task. -/
def Graph.depsOf (graph : Graph) (id : String) : List String :=
  (Dict.get? graph.dependencies id).getD []

lemma visit_eq (deps : Dict String (List String)) (fuel : ℕ) (node : String)
    (search : ExecutionGraph.Search) :
    Prod.map id ExecutionGraph.Search.toPath (visit deps fuel node search) =
      Samaktha.Search.visitLate (listed deps) fuel node search.toPath := by
  induction fuel generalizing node search with
  | zero => rfl
  | succ fuel ih =>
      rw [visit, Samaktha.Search.visitLate]
      by_cases hstack : node ∈ search.stack
      · rw [if_pos hstack, if_pos (show node ∈ search.toPath.stack from hstack)]
        rfl
      · rw [if_neg hstack, if_neg (show node ∉ search.toPath.stack from hstack)]
        by_cases hvisited : node ∈ search.visited
        · rw [if_pos hvisited, if_pos (show node ∈ search.toPath.visited from hvisited)]
          rfl
        · rw [if_neg hvisited, if_neg (show node ∉ search.toPath.visited from hvisited)]
          have hentered : Samaktha.Search.visitAll (Samaktha.Search.visitLate (listed deps) fuel)
              (listed deps node)
              { search.toPath with stack := search.toPath.stack.insert node } = _ :=
            (ExecutionGraph.visitAll_eq ih (listed deps node)
              { search with stack := search.stack.insert node }).symm
          rw [hentered]
          dsimp only [listed]
          cases hreport : ExecutionGraph.visitAll (visit deps fuel)
              ((Dict.get? deps node).getD [])
              { search with stack := search.stack.insert node } with
          | mk found search' => cases found <;> rfl

variable (graph : Graph)

/-- The names in a graph, as often as they occur. -/
def Graph.mentioned : List String := graph.taskIds ++ (graph.dependencies.map Prod.snd).flatten

/-- The resolver's search finds a cycle exactly if its tasks lead to one, with any fuel that
covers the names. -/
lemma search_iff {fuel : ℕ} (hfuel : graph.mentioned.length < fuel) :
    (ExecutionGraph.visitAll (visit graph.dependencies fuel) graph.taskIds {}).1 = true ↔
      CycleFrom graph.depsOf graph.taskIds := by
  have heq : (ExecutionGraph.visitAll (visit graph.dependencies fuel) graph.taskIds {}).1 =
      (Samaktha.Search.visitAll (Samaktha.Search.visitLate (listed graph.dependencies) fuel)
        graph.taskIds {}).1 :=
    congrArg Prod.fst
      (ExecutionGraph.visitAll_eq (visit_eq graph.dependencies fuel) graph.taskIds {})
  rw [heq, Samaktha.Search.visitLate_fst]
  refine Samaktha.Search.visitAll_iff (fun a _ b hb => ?_) (List.subset_append_left _ _) hfuel
  exact List.mem_append_right _ (listed_subset graph.dependencies a hb)

lemma detectCycles_iff : graph.detectCycles = true ↔ CycleFrom graph.depsOf graph.taskIds :=
  search_iff graph (Nat.lt_succ_self _)

lemma detectCycles_of_acyclic
    (hacyclic : ∀ id, ¬ Relation.TransGen (Samaktha.Search.Edge graph.depsOf) id id) :
    graph.detectCycles = false := by
  by_contra hcycle
  obtain ⟨-, -, id, -, hid⟩ := (detectCycles_iff graph).mp (Bool.eq_true_of_not_eq_false hcycle)
  exact hacyclic id hid

/-- The scheduler's graph of some entries, as `run_batch` builds it: every task has one. -/
def entryGraph (entries : List (String × List String)) : Graph :=
  ⟨entries.map Prod.fst, Dict.ofList entries⟩

lemma mem_keys_ofList {entries : List (String × List String)} {name : String} :
    name ∈ Dict.keys (Dict.ofList entries) ↔ name ∈ entries.map Prod.fst := by
  rw [← not_iff_not, ← Dict.get?_eq_none_iff, Dict.get?_ofList_eq_none, Dict.get?_eq_none_iff]
  rfl

/-- Both searches are exact, whatever the entries: the workflow's finds a cycle exactly if one is
reachable from the tasks with an entry, and the scheduler's exactly if one is reachable from its
tasks.  Where every task has an entry they agree, as they do for the tasks of a plan; and more
fuel than they have does not change what they find. -/
theorem detectCycles_exact :
    (∀ graph : ExecutionGraph,
      (graph.detectCycles = true ↔
        CycleFrom (listed graph.graphDeps) (Dict.keys graph.graphDeps)) ∧
      (graph.detectCycles = true ↔
        ∃ id, Relation.TransGen (Samaktha.Search.Edge (listed graph.graphDeps)) id id) ∧
      ∀ more, (ExecutionGraph.visitAll
        (ExecutionGraph.visit graph.graphDeps (graph.names.length + 1 + more))
        (Dict.keys graph.graphDeps) {}).1 = graph.detectCycles) ∧
    (∀ graph : Graph,
      (graph.detectCycles = true ↔ CycleFrom graph.depsOf graph.taskIds) ∧
      ∀ more, (ExecutionGraph.visitAll
        (visit graph.dependencies (graph.mentioned.length + 1 + more)) graph.taskIds {}).1 =
          graph.detectCycles) ∧
    (∀ (tasks : List PlanTask) (entries : List (String × List String)),
      (⟨tasks, entries⟩ : ExecutionGraph).detectCycles = (entryGraph entries).detectCycles) ∧
    ∀ plan : ExecutionPlan, (Workflow.graphOf plan).detectCycles =
      (entryGraph (plan.tasks.map fun task => (task.taskId, task.dependencies))).detectCycles := by
  have hagree : ∀ (tasks : List PlanTask) (entries : List (String × List String)),
      (⟨tasks, entries⟩ : ExecutionGraph).detectCycles = (entryGraph entries).detectCycles := by
    intro tasks entries
    refine Bool.eq_iff_iff.mpr ?_
    rw [ExecutionGraph.detectCycles_iff, detectCycles_iff]
    exact exists_congr fun name => and_congr_left fun _ => mem_keys_ofList
  refine ⟨fun graph => ⟨ExecutionGraph.detectCycles_iff graph, ?_, fun more => ?_⟩,
    fun graph => ⟨detectCycles_iff graph, fun more => ?_⟩, hagree, fun plan => hagree _ _⟩
  · rw [ExecutionGraph.detectCycles_iff]
    constructor
    · rintro ⟨-, -, id, -, hid⟩
      exact ⟨id, hid⟩
    · rintro ⟨id, hid⟩
      -- a task on a cycle has an entry
      obtain ⟨next, hedge, -⟩ := Relation.TransGen.head'_iff.mp hid
      have hkey : id ∈ Dict.keys graph.graphDeps := by
        by_contra hnot
        rw [Samaktha.Search.Edge, listed, Dict.get?_eq_none_iff.mpr hnot] at hedge
        cases hedge
      exact ⟨id, hkey, id, .refl, hid⟩
  · refine Bool.eq_iff_iff.mpr ?_
    rw [ExecutionGraph.detectCycles_iff, ExecutionGraph.search_iff graph (by omega)]
  · refine Bool.eq_iff_iff.mpr ?_
    rw [detectCycles_iff, search_iff graph (by omega)]

end RunBatch

end Samaktha
