import Samaktha.Foundation.Dict
import Mathlib.Algebra.BigOperators.Group.List.Basic
import Mathlib.Algebra.Order.BigOperators.Group.List
import Mathlib.Algebra.Order.Ring.Nat
import Mathlib.Tactic.Ring

/-!
# Ordering a graph by counting

A graph lists, for each of its nodes, the nodes that wait for it.  The order is built node by
node: the least of the nodes that wait for no other is taken, and the counts of those that wait
for it are lowered.  What results (`Ordered`) has every node after all it waits for, and a node
is left out only if it waits for another one that is left out, so that the nodes left out, if
there are any, hold a cycle.

Nothing here mentions the program being verified.
-/

namespace Samaktha

namespace DependencyOrder

universe u

variable {α : Type u} [LinearOrder α]

/-- How many nodes a node still waits for. -/
def degree (indegree : Dict α ℤ) (a : α) : ℤ := (Dict.get? indegree a).getD 0

/-- The counts of some nodes, changed by a number for each occurrence. -/
def adjust (n : ℤ) : Dict α ℤ → List α → Dict α ℤ
  | indegree, [] => indegree
  | indegree, a :: rest => adjust n (Dict.set indegree a (degree indegree a + n)) rest

/-- The counts at the start. -/
def indegrees (graph : Dict α (List α)) : Dict α ℤ :=
  graph.foldl (fun indegree kv => adjust 1 indegree kv.2) (Dict.mapValues (fun _ => 0) graph)

/-- The nodes that can be taken, least first. -/
def ready (indegree : Dict α ℤ) (order : List α) : List α :=
  ((indegree.filter fun kv => kv.2 = 0 && kv.1 ∉ order).map Prod.fst).insertionSort (· ≤ ·)

/-- Takes nodes as long as one can be taken. -/
def take (graph : Dict α (List α)) : ℕ → Dict α ℤ → List α → List α
  | 0, _, order => order
  | fuel + 1, indegree, order =>
      match ready indegree order with
      | [] => order
      | node :: _ =>
          take graph fuel (adjust (-1) indegree ((Dict.get? graph node).getD []))
            (order ++ [node])

/-- The nodes in order, up to those that are held up by a cycle. -/
def dependencyOrder (graph : Dict α (List α)) : List α :=
  take graph graph.length (indegrees graph) []

/-! ## Counts -/

lemma degree_set (indegree : Dict α ℤ) (a b : α) (n : ℤ) :
    degree (Dict.set indegree a n) b = if a = b then n else degree indegree b := by
  unfold degree
  rw [Dict.get?_set]
  split
  · rfl
  · rfl

lemma degree_adjust (n : ℤ) (indegree : Dict α ℤ) (nodes : List α) (a : α) :
    degree (adjust n indegree nodes) a = degree indegree a + n * nodes.count a := by
  induction nodes generalizing indegree with
  | nil => rw [adjust, List.count_nil, Nat.cast_zero, mul_zero, add_zero]
  | cons b rest ih =>
      rw [adjust, ih, degree_set, List.count_cons]
      by_cases hba : b = a
      · subst hba
        rw [if_pos rfl, beq_self_eq_true, if_pos rfl]
        push_cast
        ring
      · have hne : (b == a) = false := beq_eq_false_iff_ne.mpr hba
        rw [if_neg hba, hne, if_neg Bool.false_ne_true, add_zero]

lemma keys_adjust {n : ℤ} {indegree : Dict α ℤ} {nodes : List α}
    (h : ∀ a ∈ nodes, a ∈ Dict.keys indegree) :
    Dict.keys (adjust n indegree nodes) = Dict.keys indegree := by
  induction nodes generalizing indegree with
  | nil => rfl
  | cons b rest ih =>
      have hkeys : ∀ c, Dict.keys (Dict.set indegree b c) = Dict.keys indegree := by
        intro c
        rw [Dict.keys_set, if_pos (h b List.mem_cons_self)]
      rw [adjust, ih, hkeys]
      intro a ha
      rw [hkeys]
      exact h a (List.mem_cons_of_mem b ha)

/-- How many of the nodes that are not in `order` a node waits for. -/
def pending (graph : Dict α (List α)) (order : List α) (a : α) : ℕ :=
  ((graph.filter fun kv => kv.1 ∉ order).map fun kv => kv.2.count a).sum

lemma pending_cons (kv : α × List α) (graph : Dict α (List α)) (order : List α) (a : α) :
    pending (kv :: graph) order a =
      (if kv.1 ∈ order then 0 else kv.2.count a) + pending graph order a := by
  unfold pending
  by_cases hmem : kv.1 ∈ order
  · rw [List.filter_cons_of_neg (by simpa using hmem), if_pos hmem, zero_add]
  · rw [List.filter_cons_of_pos (by simpa using hmem), if_neg hmem, List.map_cons, List.sum_cons]

lemma pending_perm {graph graph' : Dict α (List α)} (h : graph.Perm graph') (order : List α)
    (a : α) : pending graph order a = pending graph' order a :=
  ((h.filter _).map _).sum_eq

lemma pending_take {graph : Dict α (List α)} (hgraph : Dict.NodupKeys graph) {order : List α}
    {node : α} (hnode : node ∉ order) {waiting : List α}
    (hwaiting : Dict.get? graph node = some waiting) (a : α) :
    pending graph order a = waiting.count a + pending graph (order ++ [node]) a := by
  have hperm := Dict.perm_cons_erase hgraph hwaiting
  have hrest : pending (Dict.erase graph node) order a =
      pending (Dict.erase graph node) (order ++ [node]) a := by
    unfold pending
    congr 2
    refine List.filter_congr fun kv hkv => ?_
    have hne : kv.1 ≠ node := by simpa using (List.mem_filter.mp hkv).2
    simp [hne]
  rw [pending_perm hperm, pending_perm hperm (order ++ [node]), pending_cons, pending_cons,
    if_neg hnode, if_pos (by simp), hrest, zero_add]

/-! ## The order -/

/-- The nodes of `order` are nodes of the graph, each once, and each stands after all those that
it waits for. -/
structure Ordered (graph : Dict α (List α)) (order : List α) : Prop where
  nodup : order.Nodup
  nodes : ∀ a ∈ order, a ∈ Dict.keys graph
  after : ∀ before a rest, order = before ++ a :: rest → ∀ b waiting,
    Dict.get? graph b = some waiting → a ∈ waiting → b ∈ before

/-- All nodes that are left out wait for another one that is. -/
def Stuck (graph : Dict α (List α)) (order : List α) : Prop :=
  ∀ a ∈ Dict.keys graph, a ∉ order →
    ∃ b waiting, Dict.get? graph b = some waiting ∧ b ∉ order ∧ a ∈ waiting

/-- The nodes that wait are nodes. -/
def Closed (graph : Dict α (List α)) : Prop :=
  ∀ b waiting, Dict.get? graph b = some waiting → ∀ a ∈ waiting, a ∈ Dict.keys graph

/-- The counts are those of the nodes that are not in the order yet. -/
structure Counted (graph : Dict α (List α)) (indegree : Dict α ℤ) (order : List α) : Prop where
  keys : Dict.keys indegree = Dict.keys graph
  degrees : ∀ a, degree indegree a = pending graph order a

section

variable {graph : Dict α (List α)} {indegree : Dict α ℤ} {order : List α}

lemma counted_indegrees (hgraph : Dict.NodupKeys graph) (hclosed : Closed graph) :
    Counted graph (indegrees graph) [] := by
  have hmain : ∀ (rest : Dict α (List α)) (indegree : Dict α ℤ),
      (∀ kv ∈ rest, ∀ a ∈ kv.2, a ∈ Dict.keys graph) → Dict.keys indegree = Dict.keys graph →
      let after := rest.foldl (fun indegree kv => adjust 1 indegree kv.2) indegree
      Dict.keys after = Dict.keys graph ∧
        ∀ a, degree after a = degree indegree a + pending rest [] a := by
    intro rest
    induction rest with
    | nil => exact fun indegree _ hkeys => ⟨hkeys, fun a => (add_zero _).symm⟩
    | cons kv rest ih =>
        intro indegree hrest hkeys
        have hone : Dict.keys (adjust 1 indegree kv.2) = Dict.keys graph := by
          rw [keys_adjust, hkeys]
          intro a ha
          rw [hkeys]
          exact hrest kv List.mem_cons_self a ha
        obtain ⟨hafter, hdegrees⟩ :=
          ih _ (fun other hother => hrest other (List.mem_cons_of_mem kv hother)) hone
        refine ⟨hafter, fun a => ?_⟩
        have ha := hdegrees a
        rw [degree_adjust] at ha
        rw [List.foldl_cons, ha, pending_cons, if_neg List.not_mem_nil]
        push_cast
        ring
  have hmembers : ∀ kv ∈ graph, ∀ a ∈ kv.2, a ∈ Dict.keys graph := by
    intro kv hkv a ha
    exact hclosed kv.1 kv.2 (Dict.get?_of_mem hgraph hkv) a ha
  obtain ⟨hkeys, hdegrees⟩ := hmain graph (Dict.mapValues (fun _ => 0) graph) hmembers
    (Dict.keys_mapValues _ _)
  refine ⟨hkeys, fun a => ?_⟩
  have hzero : degree (Dict.mapValues (fun _ => (0 : ℤ)) graph) a = 0 := by
    unfold degree
    rw [Dict.get?_mapValues]
    cases Dict.get? graph a with
    | none => rfl
    | some waiting => rfl
  rw [indegrees, hdegrees a, hzero, zero_add]

lemma mem_ready (hindegree : Dict.NodupKeys indegree) (order : List α) {a : α} :
    a ∈ ready indegree order ↔ a ∈ Dict.keys indegree ∧ degree indegree a = 0 ∧ a ∉ order := by
  unfold ready
  rw [List.mem_insertionSort, List.mem_map]
  constructor
  · rintro ⟨⟨key, n⟩, hmem, rfl⟩
    obtain ⟨hentry, hcond⟩ := List.mem_filter.mp hmem
    obtain ⟨hzero, hnew⟩ : n = 0 ∧ key ∉ order := by simpa using hcond
    refine ⟨List.mem_map.mpr ⟨_, hentry, rfl⟩, ?_, hnew⟩
    rw [degree, Dict.get?_of_mem hindegree hentry]
    exact hzero
  · rintro ⟨hkey, hzero, hnew⟩
    obtain ⟨⟨key, n⟩, hentry, rfl⟩ := List.mem_map.mp hkey
    rw [degree, Dict.get?_of_mem hindegree hentry, Option.getD_some] at hzero
    exact ⟨_, List.mem_filter.mpr ⟨hentry, by simpa using ⟨hzero, hnew⟩⟩, rfl⟩

lemma Counted.not_waiting (h : Counted graph indegree order) {a : α}
    (hzero : degree indegree a = 0) {b : α} {waiting : List α}
    (hb : Dict.get? graph b = some waiting) (hnew : b ∉ order) : a ∉ waiting := by
  have hpending : pending graph order a = 0 := by
    have hdegree := h.degrees a
    omega
  intro hmem
  have hentry : (b, waiting) ∈ graph.filter fun kv => kv.1 ∉ order :=
    List.mem_filter.mpr ⟨Dict.mem_of_get? hb, by simpa using hnew⟩
  have hcount : waiting.count a ∈
      (graph.filter fun kv => kv.1 ∉ order).map fun kv => kv.2.count a :=
    List.mem_map.mpr ⟨_, hentry, rfl⟩
  have hone := List.single_le_sum (fun _ _ => Nat.zero_le _) _ hcount
  have hpos := List.count_pos_iff.mpr hmem
  unfold pending at hpending
  omega

lemma Counted.waiting (hgraph : Dict.NodupKeys graph) (h : Counted graph indegree order) {a : α}
    (hne : degree indegree a ≠ 0) :
    ∃ b waiting, Dict.get? graph b = some waiting ∧ b ∉ order ∧ a ∈ waiting := by
  by_contra hnone
  push Not at hnone
  refine hne ?_
  rw [h.degrees a, pending]
  have hall : ∀ n ∈ (graph.filter fun kv => kv.1 ∉ order).map fun kv => kv.2.count a, n = 0 := by
    intro n hn
    obtain ⟨⟨b, waiting⟩, hentry, rfl⟩ := List.mem_map.mp hn
    obtain ⟨hmem, hnew⟩ := List.mem_filter.mp hentry
    exact List.count_eq_zero.mpr
      (hnone b waiting (Dict.get?_of_mem hgraph hmem) (by simpa using hnew))
  rw [List.sum_eq_zero hall, Nat.cast_zero]

/-- Taking a node that can be taken keeps the order an order, and the counts. -/
lemma Ordered.step (hgraph : Dict.NodupKeys graph) (hclosed : Closed graph)
    (horder : Ordered graph order) (hcounted : Counted graph indegree order) {node : α}
    (hnode : node ∈ ready indegree order) :
    Ordered graph (order ++ [node]) ∧
      Counted graph (adjust (-1) indegree ((Dict.get? graph node).getD [])) (order ++ [node]) := by
  have hindegree : Dict.NodupKeys indegree := by
    rw [Dict.NodupKeys, hcounted.keys]
    exact hgraph
  obtain ⟨hkey, hzero, hnew⟩ := (mem_ready hindegree order).mp hnode
  rw [hcounted.keys] at hkey
  obtain ⟨⟨key, waiting⟩, hentry, rfl⟩ := List.mem_map.mp hkey
  have hwaiting := Dict.get?_of_mem hgraph hentry
  refine ⟨⟨?_, ?_, ?_⟩, ?_, fun a => ?_⟩
  · exact horder.nodup.append (List.nodup_singleton _) (by simpa using hnew)
  · intro a ha
    rcases List.mem_append.mp ha with hold | hlast
    · exact horder.nodes a hold
    · rw [List.mem_singleton.mp hlast]
      exact hkey
  · intro before a rest hsplit b others hb hmem
    rcases List.eq_nil_or_concat rest with rfl | ⟨init, last, rfl⟩
    · -- the node is the last one
      obtain ⟨rfl, hlast⟩ := List.append_inj' hsplit rfl
      obtain rfl : key = a := List.singleton_inj.mp hlast
      by_contra hout
      exact hcounted.not_waiting hzero hb hout hmem
    · have hinit : order ++ [key] = (before ++ a :: init) ++ [last] := by
        rw [hsplit, List.concat_eq_append, List.append_assoc, List.cons_append]
      exact horder.after before a init (List.append_inj' hinit rfl).1 b others hb hmem
  · rw [keys_adjust, hcounted.keys]
    intro a ha
    rw [hcounted.keys]
    rw [hwaiting] at ha
    exact hclosed key waiting hwaiting a ha
  · rw [degree_adjust, hcounted.degrees a, pending_take hgraph hnew hwaiting a, hwaiting,
      Option.getD_some]
    push_cast
    ring

lemma take_spec (hgraph : Dict.NodupKeys graph) (hclosed : Closed graph) (fuel : ℕ)
    (horder : Ordered graph order) (hcounted : Counted graph indegree order)
    (hfuel : order.length + fuel = graph.length) :
    Ordered graph (take graph fuel indegree order) ∧
      Stuck graph (take graph fuel indegree order) := by
  induction fuel generalizing indegree order with
  | zero =>
      refine ⟨horder, fun a ha hout => absurd ?_ hout⟩
      have hlength : (Dict.keys graph).length ≤ order.length := by
        rw [Dict.keys, List.length_map]
        omega
      exact (List.subperm_of_subset horder.nodup horder.nodes).perm_of_length_le hlength
        |>.mem_iff.mpr ha
  | succ fuel ih =>
      have hindegree : Dict.NodupKeys indegree := by
        rw [Dict.NodupKeys, hcounted.keys]
        exact hgraph
      unfold take
      cases hready : ready indegree order with
      | nil =>
          refine ⟨horder, fun a ha hout => hcounted.waiting hgraph fun hzero => ?_⟩
          have hkey : a ∈ Dict.keys indegree := hcounted.keys ▸ ha
          have hmem := (mem_ready hindegree order).mpr ⟨hkey, hzero, hout⟩
          rw [hready] at hmem
          cases hmem
      | cons node rest =>
          have hnode : node ∈ ready indegree order := by
            rw [hready]
            exact List.mem_cons_self
          obtain ⟨hordered, hcounts⟩ := horder.step hgraph hclosed hcounted hnode
          refine ih hordered hcounts ?_
          rw [List.length_append, List.length_singleton]
          omega

/-- The order has every node after those that it waits for, and leaves out only nodes that wait
for one that is left out. -/
theorem dependencyOrder_spec (hgraph : Dict.NodupKeys graph) (hclosed : Closed graph) :
    Ordered graph (dependencyOrder graph) ∧ Stuck graph (dependencyOrder graph) := by
  have hempty : Ordered graph [] := by
    refine ⟨List.nodup_nil, fun a ha => (by cases ha), fun before a rest hsplit => ?_⟩
    exact absurd hsplit.symm (List.append_ne_nil_of_right_ne_nil _ (List.cons_ne_nil _ _))
  refine take_spec hgraph hclosed graph.length hempty (counted_indegrees hgraph hclosed) ?_
  rw [List.length_nil, zero_add]

lemma Ordered.idxOf_lt (h : Ordered graph order) {a b : α} {waiting : List α} (ha : a ∈ order)
    (hb : Dict.get? graph b = some waiting) (hmem : a ∈ waiting) :
    order.idxOf b < order.idxOf a := by
  obtain ⟨before, rest, hsplit⟩ := List.append_of_mem ha
  have hbefore := h.after before a rest hsplit b waiting hb hmem
  have hnew : a ∉ before := by
    have hnodup := h.nodup
    rw [hsplit, List.nodup_append'] at hnodup
    exact fun hold => hnodup.2.2 hold List.mem_cons_self
  have hlt := List.idxOf_lt_length_of_mem hbefore
  rw [hsplit, List.idxOf_append_of_mem hbefore, List.idxOf_append_of_notMem hnew]
  omega

/-- Nothing is left out where every node is in the order. -/
lemma Ordered.length_eq_iff (hgraph : Dict.NodupKeys graph) (h : Ordered graph order) :
    order.length = graph.length ↔ ∀ a ∈ Dict.keys graph, a ∈ order := by
  have hsub := List.subperm_of_subset h.nodup h.nodes
  have hkeys : (Dict.keys graph).length = graph.length := List.length_map _
  constructor
  · intro hlength a ha
    exact (hsub.perm_of_length_le (by omega)).mem_iff.mpr ha
  · intro hall
    have hle := hsub.length_le
    have hge := (List.subperm_of_subset hgraph hall).length_le
    omega

end

end DependencyOrder

end Samaktha
