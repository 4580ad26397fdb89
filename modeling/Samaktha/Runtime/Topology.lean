import Samaktha.Runtime.Levels

/-!
# The topological order of a graph

`topological_order` next to `levels`: it takes one task at a time from a queue that is sorted
again whenever a task joins it.  Both list, once, the tasks without a cycle among their transitive
dependencies; a task comes after what it depends on, and its level is the length of its longest
chain of dependencies (`levels_topologicalOrder`).
-/

namespace Samaktha

namespace RunBatch

open Samaktha.Search (Edge CycleAhead)

/-- The children of a node lose a dependency; those that have none left join the queue. -/
def releaseInto : List String → Dict String ℤ → List String → Dict String ℤ × List String
  | [], indegree, ready => (indegree, ready)
  | child :: rest, indegree, ready =>
      let left := (indegree.get? child).getD 0 - 1
      releaseInto rest (indegree.set child left)
        (if left = 0 then sorted (ready ++ [child]) else ready)

/-- The loop of `topological_order`. -/
def orderFrom (children : Dict String (List String)) :
    ℕ → Dict String ℤ → List String → List String
  | 0, _, _ => []
  | _, _, [] => []
  | fuel + 1, indegree, node :: ready =>
      let next := releaseInto (sorted ((children.get? node).getD [])) indegree ready
      node :: orderFrom children fuel next.1 next.2

/-- What is ready before anything is done. -/
def Graph.firstReady (graph : Graph) : List String :=
  sorted ((graph.degrees.indegree.filter fun kv => kv.2 = 0).map Prod.fst)

def Graph.topologicalOrder (graph : Graph) : List String :=
  let degrees := graph.degrees
  orderFrom degrees.children (degrees.indegree.length + 1) degrees.indegree graph.firstReady

variable {graph : Graph}

/-! ## One task -/

/-- Up to their order, the tasks that join the queue are those that `levels` collects. -/
lemma releaseInto_spec (released : List String) (indegree : Dict String ℤ)
    {ready queue next : List String} (hqueue : queue.Perm (ready ++ next)) :
    (releaseInto released indegree queue).1 = (release released indegree next).1 ∧
      (releaseInto released indegree queue).2.Perm
        (ready ++ (release released indegree next).2) := by
  induction released generalizing indegree queue next with
  | nil => exact ⟨rfl, hqueue⟩
  | cons child rest ih =>
      rw [releaseInto, release]
      refine ih _ ?_
      split
      · rw [← List.append_assoc]
        exact (List.perm_insertionSort _ _).trans (hqueue.append_right [child])
      · exact hqueue

lemma Ready.take (hkeys : Dict.NodupKeys graph.dependencies) {indegree : Dict String ℤ}
    {before queue : List String} {node : String} (h : Remaining graph indegree before)
    (hready : Ready graph before (node :: queue)) :
    let next := releaseInto (sorted ((graph.degrees.children.get? node).getD [])) indegree queue
    Remaining graph next.1 (before ++ [node]) ∧ Ready graph (before ++ [node]) next.2 := by
  intro next
  obtain ⟨hnew, hqueue⟩ := List.nodup_cons.mp hready.nodup
  have hnode : Layers.Next graph.names graph.depsOf before node :=
    (hready.mem node).mp List.mem_cons_self
  obtain ⟨hremaining, hnodup, hjoin⟩ := h.release hkeys (List.nodup_singleton node)
    fun a ha => (List.mem_singleton.mp ha).symm ▸ hnode
  rw [List.flatMap_cons, List.flatMap_nil, List.append_nil] at hremaining hnodup hjoin
  obtain ⟨hindegree, hperm⟩ := releaseInto_spec
    (sorted ((graph.degrees.children.get? node).getD [])) indegree
    (show queue.Perm (queue ++ []) by rw [List.append_nil])
  refine ⟨?_, ⟨?_, fun a => ?_⟩⟩
  · show Remaining graph next.1 (before ++ [node])
    rw [show next.1 = _ from hindegree]
    exact hremaining
  · refine hperm.nodup_iff.mpr (hqueue.append hnodup fun a ha hmem => ?_)
    exact ((hjoin a).mp hmem).2 ((hready.mem a).mp (List.mem_cons_of_mem node ha))
  · rw [hperm.mem_iff, List.mem_append, hjoin a]
    constructor
    · rintro (hqueued | ⟨hnext, -⟩)
      · obtain ⟨htask, hout, hdeps⟩ := (hready.mem a).mp (List.mem_cons_of_mem node hqueued)
        refine ⟨htask, fun hmem => ?_, fun b hb => List.mem_append_left _ (hdeps b hb)⟩
        rcases List.mem_append.mp hmem with hold | hlast
        · exact hout hold
        · exact hnew (List.mem_singleton.mp hlast ▸ hqueued)
      · exact hnext
    · intro hnext
      by_cases hbefore : Layers.Next graph.names graph.depsOf before a
      · refine .inl (((List.mem_cons.mp ((hready.mem a).mpr hbefore))).resolve_left fun heq => ?_)
        exact hnext.2.1 (List.mem_append_right _ (List.mem_singleton.mpr heq))
      · exact .inr ⟨hnext, hbefore⟩

/-! ## The order -/

/-- In what the loop lists every task comes next after those before it, nothing comes next in the
end, and more fuel changes nothing. -/
lemma linear_orderFrom (hkeys : Dict.NodupKeys graph.dependencies) (fuel : ℕ)
    {indegree : Dict String ℤ} {before queue : List String} (h : Remaining graph indegree before)
    (hready : Ready graph before queue)
    (hbefore : Layers.Linear graph.names graph.depsOf before)
    (hfuel : graph.names.dedup.length + 1 ≤ before.length + fuel) :
    Layers.Linear graph.names graph.depsOf
        (before ++ orderFrom graph.degrees.children fuel indegree queue) ∧
      (∀ a, ¬ Layers.Next graph.names graph.depsOf
        (before ++ orderFrom graph.degrees.children fuel indegree queue) a) ∧
      ∀ more, orderFrom graph.degrees.children (fuel + more) indegree queue =
        orderFrom graph.degrees.children fuel indegree queue := by
  induction fuel generalizing indegree before queue with
  | zero =>
      have hlength := length_le_names hbefore.nodup fun a ha => (hbefore.next_of_mem ha).1
      omega
  | succ fuel ih =>
      cases queue with
      | nil =>
          rw [show orderFrom graph.degrees.children (fuel + 1) indegree [] = [] from rfl,
            List.append_nil]
          refine ⟨hbefore, fun a ha => absurd ((hready.mem a).mpr ha) List.not_mem_nil,
            fun more => ?_⟩
          rw [Nat.add_right_comm]
          rfl
      | cons node queue =>
          have hnode := (hready.mem node).mp List.mem_cons_self
          obtain ⟨hremaining, hnext⟩ := hready.take hkeys h
          have hrest := ih hremaining hnext (hbefore.concat hnode) (by
            rw [List.length_append, List.length_singleton]
            omega)
          rw [List.append_assoc, List.singleton_append] at hrest
          rw [orderFrom]
          refine ⟨hrest.1, hrest.2.1, fun more => ?_⟩
          rw [Nat.add_right_comm, orderFrom]
          exact congrArg _ (hrest.2.2 more)

lemma linear_topologicalOrder (hkeys : Dict.NodupKeys graph.dependencies) :
    Layers.Linear graph.names graph.depsOf graph.topologicalOrder ∧
      (∀ a, ¬ Layers.Next graph.names graph.depsOf graph.topologicalOrder a) ∧
      ∀ more, orderFrom graph.degrees.children (graph.degrees.indegree.length + 1 + more)
        graph.degrees.indegree graph.firstReady = graph.topologicalOrder := by
  obtain ⟨hremaining, hready, hlength⟩ := remaining_start hkeys
  refine linear_orderFrom hkeys (graph.degrees.indegree.length + 1) hremaining hready
    Layers.linear_nil ?_
  rw [List.length_nil, hlength]
  omega

/-! ## Levels and order -/

lemma nil_not_mem_levelsFrom (children : Dict String (List String)) (fuel : ℕ)
    (indegree : Dict String ℤ) (current : List String) :
    [] ∉ levelsFrom children fuel indegree current := by
  induction fuel generalizing indegree current with
  | zero => exact List.not_mem_nil
  | succ fuel ih =>
      cases current with
      | nil => exact List.not_mem_nil
      | cons node rest =>
          rw [levelsFrom, List.mem_cons]
          rintro (hnil | hmem)
          · cases hnil
          · exact ih _ _ hmem

lemma levels_fuel (hkeys : Dict.NodupKeys graph.dependencies) (more : ℕ) :
    levelsFrom graph.degrees.children (graph.degrees.indegree.length + 1 + more)
      graph.degrees.indegree graph.firstReady = graph.levels := by
  obtain ⟨hremaining, hready, hlength⟩ := remaining_start hkeys
  refine (layered_levelsFrom hkeys (graph.degrees.indegree.length + 1) hremaining hready
    List.nodup_nil (List.nil_subset _) ?_).2 more
  rw [List.length_nil, hlength]
  omega

lemma perm_names {order : List String} (hnodup : order.Nodup)
    (hmem : ∀ a, a ∈ order ↔ a ∈ graph.names ∧ ¬ CycleAhead graph.depsOf a)
    (hacyclic : ∀ a, ¬ Relation.TransGen (Edge graph.depsOf) a a) :
    order.Perm graph.names.dedup := by
  refine (List.perm_ext_iff_of_nodup hnodup (List.nodup_dedup _)).mpr fun a => ?_
  rw [hmem, List.mem_dedup]
  exact and_iff_left fun ⟨b, _, hcycle⟩ => hacyclic b hcycle

/-- Of any graph, with duplicate and unknown dependencies or without, `levels` and
`topological_order` list the names without a cycle among their transitive dependencies, each once.
The levels are not empty, and the level of a task is the length of its longest chain; the order
has a task after all it depends on.  Of a graph without a cycle both list all names, and more fuel
than the loops have changes nothing. -/
theorem levels_topologicalOrder (graph : Graph) (hkeys : Dict.NodupKeys graph.dependencies) :
    (graph.levels.flatten.Nodup ∧ [] ∉ graph.levels ∧
      ∀ a, a ∈ graph.levels.flatten ↔ a ∈ graph.names ∧ ¬ CycleAhead graph.depsOf a) ∧
    (∀ i level, graph.levels[i]? = some level →
      ∀ a ∈ level, Layers.Longest graph.depsOf a i) ∧
    (graph.topologicalOrder.Nodup ∧
      (∀ a, a ∈ graph.topologicalOrder ↔ a ∈ graph.names ∧ ¬ CycleAhead graph.depsOf a) ∧
      ∀ before a rest, graph.topologicalOrder = before ++ a :: rest →
        graph.depsOf a ⊆ before) ∧
    ((∀ a, ¬ Relation.TransGen (Edge graph.depsOf) a a) →
      graph.levels.flatten.Perm graph.names.dedup ∧
        graph.topologicalOrder.Perm graph.names.dedup) ∧
    ∀ more,
      levelsFrom graph.degrees.children (graph.degrees.indegree.length + 1 + more)
        graph.degrees.indegree graph.firstReady = graph.levels ∧
      orderFrom graph.degrees.children (graph.degrees.indegree.length + 1 + more)
        graph.degrees.indegree graph.firstReady = graph.topologicalOrder := by
  have hclosed : ∀ a ∈ graph.names, graph.depsOf a ⊆ graph.names :=
    fun a _ => graph.depsOf_subset a
  have hlayered := layered_names hkeys
  have hlevels : Layers.Linear graph.names graph.depsOf graph.levels.flatten :=
    hlayered.linear Layers.linear_nil
  have hlevelsMem := hlevels.mem_iff hlayered.exhausted hclosed
  obtain ⟨horder, hend, hmore⟩ := linear_topologicalOrder hkeys
  have horderMem := horder.mem_iff hend hclosed
  refine ⟨⟨hlevels.nodup, nil_not_mem_levelsFrom _ _ _ _, hlevelsMem⟩, ?_,
    ⟨horder.nodup, horderMem, ?_⟩, ?_, fun more => ⟨levels_fuel hkeys more, hmore more⟩⟩
  · exact fun i level hi a ha => hlayered.isGreatest hi ha
  · exact fun before a rest hsplit => (horder before a rest hsplit).2.2
  · intro hacyclic
    exact ⟨perm_names hlevels.nodup hlevelsMem hacyclic,
      perm_names horder.nodup horderMem hacyclic⟩

/-- A task that names a dependency twice, and two tasks that wait for each other. -/
def tangled : Graph where
  taskIds := ["report", "fetch"]
  dependencies := [("report", ["fetch", "parse", "fetch"]), ("parse", ["fetch"]),
    ("ping", ["pong"]), ("pong", ["ping"])]

theorem levels_topologicalOrder_tangled :
    Dict.NodupKeys tangled.dependencies ∧
      tangled.levels = [["fetch"], ["parse"], ["report"]] ∧
      tangled.topologicalOrder = ["fetch", "parse", "report"] ∧
      ∀ a, a ∈ tangled.levels.flatten ↔ a ∈ tangled.names ∧ ¬ CycleAhead tangled.depsOf a := by
  have hkeys : Dict.NodupKeys tangled.dependencies :=
    show (Dict.keys tangled.dependencies).Nodup by decide
  refine ⟨hkeys, by decide +kernel, by decide +kernel, ?_⟩
  exact (levels_topologicalOrder tangled hkeys).1.2.2

end RunBatch

end Samaktha
