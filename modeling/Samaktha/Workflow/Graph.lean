import Samaktha.Contracts.Planning
import Mathlib.Data.List.Dedup

/-!
# The execution graph of a plan

`ExecutionGraph` and its three queries.  `detectCycles` is a depth-first search whose two sets
are threaded through the recursion; it recurses at most once per name, so a fuel of one more
than the number of names in the graph is enough.  `getBlockedTasks` is a breadth-first search
from the failed ids, in which every task enters the queue at most once besides them.

What the workflow uses: a ready task is neither completed nor failed
(`mem_getReadyTasks`), and nothing is blocked while nothing has failed
(`getBlockedTasks_nil`).
-/

namespace Samaktha

/-- A dependency-aware execution graph. -/
structure ExecutionGraph where
  tasks : List PlanTask := []
  /-- The `TaskDependency` entries: a task id and the ids it depends on. -/
  dependencies : List (String × List String) := []
  deriving Inhabited

namespace ExecutionGraph

/-- The dictionary the queries build from the entries; the last entry of an id wins. -/
def graphDeps (graph : ExecutionGraph) : Dict String (List String) := Dict.ofList graph.dependencies

/-- The ids a task depends on. -/
def depsOf (graph : ExecutionGraph) (task : PlanTask) : List String :=
  (Dict.get? graph.graphDeps task.taskId).getD task.dependencies

/-! ## Cycles -/

/-- The sets of the depth-first search. -/
structure Search where
  visited : List String := []
  stack : List String := []
  deriving Inhabited

/-- Visits the names of a list until one closes a cycle. -/
def visitAll (visit : String → Search → Bool × Search) : List String → Search → Bool × Search
  | [], search => (false, search)
  | name :: names, search =>
      match visit name search with
      | (true, search) => (true, search)
      | (false, search) => visitAll visit names search

def visit (deps : Dict String (List String)) : ℕ → String → Search → Bool × Search
  | 0, _, search => (false, search)
  | fuel + 1, node, search =>
      if node ∈ search.stack then (true, search)
      else if node ∈ search.visited then (false, search)
      else
        let entered : Search := ⟨search.visited.insert node, search.stack.insert node⟩
        match visitAll (visit deps fuel) ((Dict.get? deps node).getD []) entered with
        | (true, search) => (true, search)
        | (false, search) => (false, { search with stack := search.stack.erase node })

def detectCycles (graph : ExecutionGraph) : Bool :=
  let deps := graph.graphDeps
  let names := (Dict.keys deps ++ (deps.map Prod.snd).flatten).dedup
  (visitAll (visit deps (names.length + 1)) (Dict.keys deps) {}).1

/-! ## Ready and blocked tasks -/

def getReadyTasks (graph : ExecutionGraph) (completed failed : List String) : List PlanTask :=
  graph.tasks.filter fun task =>
    !(task.taskId ∈ completed || task.taskId ∈ failed)
      && !(graph.depsOf task).any (· ∈ failed)
      && (graph.depsOf task).all (· ∈ completed)

/-- The children of an id, in the order in which they are appended. -/
def childrenOf (graph : ExecutionGraph) (id : String) : List String :=
  if id ∈ graph.tasks.map PlanTask.taskId then
    graph.tasks.flatMap fun task =>
      ((graph.depsOf task).filter (· = id)).map fun _ => task.taskId
  else []

/-- The children that enter the queue: each is recorded as blocked when it does. -/
def enqueue (failed : List String) : List String → List String → List String →
    List String × List String
  | [], blocked, queue => (blocked, queue)
  | child :: rest, blocked, queue =>
      if child ∉ blocked ∧ child ∉ failed then
        enqueue failed rest (blocked ++ [child]) (queue ++ [child])
      else enqueue failed rest blocked queue

/-- The breadth-first search from a queue, with the ids blocked so far. -/
def blockedIds (graph : ExecutionGraph) (failed : List String) :
    ℕ → List String → List String → List String
  | 0, _, blocked => blocked
  | _, [], blocked => blocked
  | fuel + 1, curr :: queue, blocked =>
      let next := enqueue failed (graph.childrenOf curr) blocked queue
      blockedIds graph failed fuel next.2 next.1

def getBlockedTasks (graph : ExecutionGraph) (failed : List String) : List PlanTask :=
  let blocked := blockedIds graph failed (failed.length + graph.tasks.length) failed []
  graph.tasks.filter fun task => task.taskId ∈ blocked

/-! ## What the workflow uses -/

lemma mem_getReadyTasks {graph : ExecutionGraph} {completed failed : List String}
    {task : PlanTask} (h : task ∈ graph.getReadyTasks completed failed) :
    task ∈ graph.tasks ∧ task.taskId ∉ completed ∧ task.taskId ∉ failed := by
  obtain ⟨hmem, hready⟩ := List.mem_filter.mp h
  simp only [Bool.and_eq_true, Bool.not_eq_true', Bool.or_eq_false_iff, decide_eq_false_iff_not]
    at hready
  exact ⟨hmem, hready.1.1.1, hready.1.1.2⟩

lemma getBlockedTasks_nil (graph : ExecutionGraph) : graph.getBlockedTasks [] = [] := by
  have hids : ∀ fuel, blockedIds graph [] fuel [] [] = [] := by
    intro fuel
    cases fuel <;> rfl
  simp [getBlockedTasks, hids]

end ExecutionGraph

end Samaktha
