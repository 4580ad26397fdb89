import Samaktha.Foundation.Search

/-!
# Layers of a graph

A graph is given by its nodes and by the list `deps a` of what each node depends on.  Its layers
are built one after another: a layer has the nodes, not in a layer before, all of whose
dependencies are in the layers before, and building ends where there is no such node.

Layers, and any other list in which every node comes next after those before it (`Linear`), hold
exactly the nodes without a cycle ahead of them, once it has no node to add (`Linear.mem_iff`).
So in an acyclic graph the layers hold every node (`Layered.perm`).  The layer of a node is the
length of its longest chain of dependencies (`Layered.isGreatest`).

Nothing here mentions the program being verified.
-/

namespace Samaktha

namespace Layers

universe u

open Search

variable {α : Type u} (nodes : List α) (deps : α → List α)

/-- The node comes next after the nodes `before`. -/
def Next (before : List α) (a : α) : Prop := a ∈ nodes ∧ a ∉ before ∧ ∀ b ∈ deps a, b ∈ before

/-- The layers that follow the nodes `before`. -/
def Layered : List α → List (List α) → Prop
  | before, [] => ∀ a, ¬ Next nodes deps before a
  | before, layer :: rest =>
      layer.Nodup ∧ (∀ a, a ∈ layer ↔ Next nodes deps before a) ∧ Layered (before ++ layer) rest

/-- Every node of the list comes next after those before it. -/
def Linear (order : List α) : Prop :=
  ∀ before a rest, order = before ++ a :: rest → Next nodes deps before a

variable {nodes deps} {before order : List α} {layers : List (List α)}

/-! ## Lists in which every node comes next -/

lemma linear_nil : Linear nodes deps [] := by
  intro before a rest hsplit
  exact absurd hsplit.symm (List.append_ne_nil_of_right_ne_nil _ (List.cons_ne_nil _ _))

lemma Linear.concat (h : Linear nodes deps order) {a : α} (ha : Next nodes deps order a) :
    Linear nodes deps (order ++ [a]) := by
  intro before b rest hsplit
  rcases List.eq_nil_or_concat rest with rfl | ⟨init, last, rfl⟩
  · obtain ⟨rfl, hlast⟩ := List.append_inj' hsplit rfl
    obtain rfl : a = b := List.singleton_inj.mp hlast
    exact ha
  · have hinit : order ++ [a] = (before ++ b :: init) ++ [last] := by
      rw [hsplit, List.concat_eq_append, List.append_assoc, List.cons_append]
    exact h before b init (List.append_inj' hinit rfl).1

lemma Linear.append (h : Linear nodes deps order) {layer : List α} (hnodup : layer.Nodup)
    (hlayer : ∀ a ∈ layer, Next nodes deps order a) : Linear nodes deps (order ++ layer) := by
  induction layer using List.reverseRecOn with
  | nil => rwa [List.append_nil]
  | append_singleton init last ih =>
      rw [List.nodup_append'] at hnodup
      obtain ⟨hinit, -, hdisjoint⟩ := hnodup
      rw [← List.append_assoc]
      refine (ih hinit fun a ha => hlayer a (List.mem_append_left _ ha)).concat ?_
      obtain ⟨hnode, hnew, hdeps⟩ := hlayer last (List.mem_append_right _ List.mem_cons_self)
      refine ⟨hnode, fun hmem => ?_, fun b hb => List.mem_append_left _ (hdeps b hb)⟩
      rcases List.mem_append.mp hmem with hold | hlast
      · exact hnew hold
      · exact hdisjoint hlast List.mem_cons_self

lemma Linear.init {a : α} (h : Linear nodes deps (order ++ [a])) : Linear nodes deps order := by
  intro before b rest hsplit
  refine h before b (rest ++ [a]) ?_
  rw [hsplit, List.append_assoc, List.cons_append]

lemma Linear.nodup (h : Linear nodes deps order) : order.Nodup := by
  induction order using List.reverseRecOn with
  | nil => exact List.nodup_nil
  | append_singleton init last ih =>
      have hlast : last ∉ init := (h init last [] rfl).2.1
      exact (ih h.init).append (List.nodup_singleton last) (by simpa using hlast)

lemma Linear.next_of_mem (h : Linear nodes deps order) {a : α} (ha : a ∈ order) :
    a ∈ nodes ∧ ∀ b ∈ deps a, b ∈ order := by
  obtain ⟨before, rest, rfl⟩ := List.append_of_mem ha
  obtain ⟨hnode, -, hdeps⟩ := h before a rest rfl
  exact ⟨hnode, fun b hb => List.mem_append_left _ (hdeps b hb)⟩

lemma Linear.reach (h : Linear nodes deps order) {a b : α} (ha : a ∈ order)
    (hpath : Relation.ReflTransGen (Edge deps) a b) : b ∈ order := by
  induction hpath with
  | refl => exact ha
  | tail _ hedge ih => exact (h.next_of_mem ih).2 _ hedge

lemma Linear.acyclic (h : Linear nodes deps order) {a : α} (ha : a ∈ order) :
    ¬ Relation.TransGen (Edge deps) a a := by
  induction order using List.reverseRecOn generalizing a with
  | nil => cases ha
  | append_singleton init last ih =>
      intro hcycle
      have hinit := h.init
      by_cases hmem : a ∈ init
      · exact ih hinit hmem hcycle
      · obtain ⟨b, hedge, hback⟩ := Relation.TransGen.head'_iff.mp hcycle
        obtain rfl : a = last := by
          rcases List.mem_append.mp ha with hold | hlast
          · exact absurd hold hmem
          · exact List.mem_singleton.mp hlast
        have hb : b ∈ init := (h init a [] rfl).2.2 b hedge
        exact hmem (hinit.reach hb hback)

/-- A list that can be extended no more holds the nodes without a cycle ahead. -/
theorem Linear.mem_iff (h : Linear nodes deps order) (hend : ∀ a, ¬ Next nodes deps order a)
    (hclosed : ∀ a ∈ nodes, deps a ⊆ nodes) (a : α) :
    a ∈ order ↔ a ∈ nodes ∧ ¬ CycleAhead deps a := by
  constructor
  · refine fun ha => ⟨(h.next_of_mem ha).1, ?_⟩
    rintro ⟨b, hpath, hcycle⟩
    exact h.acyclic (h.reach ha hpath) hcycle
  · rintro ⟨ha, hahead⟩
    by_contra hout
    -- among what is ahead of the node and left out, one depends on nothing that is
    let r : α → α → Prop := fun b c => Relation.ReflTransGen (Edge deps) a b ∧ Edge deps b c
    have hacyclic : ∀ b, ¬ Relation.TransGen r b b := by
      intro b hcycle
      obtain ⟨c, hedge, -⟩ := Relation.TransGen.head'_iff.mp hcycle
      exact hahead ⟨b, hedge.1, Relation.TransGen.mono (fun _ _ hr => hr.2) b b hcycle⟩
    have hfinite : {b | b ∈ nodes ∧ b ∉ order ∧ Relation.ReflTransGen (Edge deps) a b}.Finite :=
      (List.finite_toSet nodes).subset fun b hb => hb.1
    obtain ⟨m, ⟨hm, hleft, hpath⟩, hmin⟩ :=
      exists_minimal hacyclic hfinite ⟨a, ha, hout, .refl⟩
    refine hend m ⟨hm, hleft, fun b hb => ?_⟩
    by_contra hb'
    exact hmin b ⟨hclosed m hm hb, hb', hpath.tail hb⟩ ⟨hpath, hb⟩

/-! ## Layers -/

lemma Layered.linear (h : Layered nodes deps before layers) (hbefore : Linear nodes deps before) :
    Linear nodes deps (before ++ layers.flatten) := by
  induction layers generalizing before with
  | nil => rwa [List.flatten_nil, List.append_nil]
  | cons layer rest ih =>
      obtain ⟨hlayer, hnext, hrest⟩ := h
      rw [List.flatten_cons, ← List.append_assoc]
      exact ih hrest (hbefore.append hlayer fun a ha => (hnext a).mp ha)

lemma Layered.exhausted (h : Layered nodes deps before layers) (a : α) :
    ¬ Next nodes deps (before ++ layers.flatten) a := by
  induction layers generalizing before with
  | nil => rw [List.flatten_nil, List.append_nil]; exact h a
  | cons layer rest ih =>
      rw [List.flatten_cons, ← List.append_assoc]
      exact ih h.2.2

/-- In an acyclic graph whose dependencies are nodes, every node is in a layer. -/
theorem Layered.covers (h : Layered nodes deps before layers)
    (hclosed : ∀ a ∈ nodes, deps a ⊆ nodes)
    (hacyclic : ∀ a, ¬ Relation.TransGen (Edge deps) a a) :
    nodes ⊆ before ++ layers.flatten := by
  intro a ha
  by_contra hout
  have hfinite : {a | a ∈ nodes ∧ a ∉ before ++ layers.flatten}.Finite :=
    (List.finite_toSet nodes).subset fun b hb => hb.1
  -- a node left out that depends on no other one comes next
  obtain ⟨m, ⟨hm, hleft⟩, hmin⟩ := exists_minimal hacyclic hfinite ⟨a, ha, hout⟩
  refine h.exhausted m ⟨hm, hleft, fun b hb => ?_⟩
  by_contra hb'
  exact hmin b ⟨hclosed m hm hb, hb'⟩ hb

lemma Layered.congr {nodes' : List α} (hnodes : ∀ a, a ∈ nodes ↔ a ∈ nodes')
    (h : Layered nodes deps before layers) : Layered nodes' deps before layers := by
  have hnext : ∀ before a, Next nodes deps before a ↔ Next nodes' deps before a :=
    fun before a => and_congr_left fun _ => hnodes a
  induction layers generalizing before with
  | nil => exact fun a ha => h a ((hnext before a).mpr ha)
  | cons layer rest ih =>
      obtain ⟨hlayer, hmem, hrest⟩ := h
      exact ⟨hlayer, fun a => (hmem a).trans (hnext before a), ih hrest⟩

/-! ## The layer of a node -/

/-- A chain of so many dependencies starts at the node. -/
inductive ChainFrom (deps : α → List α) : ℕ → α → Prop
  | nil (a : α) : ChainFrom deps 0 a
  | cons {n : ℕ} {a b : α} (hb : b ∈ deps a) (hchain : ChainFrom deps n b) :
      ChainFrom deps (n + 1) a

/-- The length of the longest chain that starts at the node. -/
def Longest (deps : α → List α) (a : α) (n : ℕ) : Prop := IsGreatest {n | ChainFrom deps n a} n

/-- The nodes before the `k`-th layer have shorter chains, and those that come next have one of
length `k`. -/
structure Below (nodes : List α) (deps : α → List α) (before : List α) (k : ℕ) : Prop where
  shorter : ∀ b ∈ before, ∃ j < k, Longest deps b j
  reached : ∀ a, Next nodes deps before a → ChainFrom deps k a

lemma Below.longest {k : ℕ} (h : Below nodes deps before k) {a : α}
    (ha : Next nodes deps before a) : Longest deps a k := by
  refine ⟨h.reached a ha, fun n hchain => ?_⟩
  cases hchain with
  | nil => exact Nat.zero_le k
  | cons hb hchain =>
      obtain ⟨j, hlt, hlongest⟩ := h.shorter _ (ha.2.2 _ hb)
      have hle := hlongest.2 hchain
      omega

lemma Below.layer {k : ℕ} (h : Below nodes deps before k) {layer : List α}
    (hlayer : ∀ a, a ∈ layer ↔ Next nodes deps before a) :
    Below nodes deps (before ++ layer) (k + 1) := by
  refine ⟨fun b hb => ?_, fun a ha => ?_⟩
  · rcases List.mem_append.mp hb with hold | hnew
    · obtain ⟨j, hlt, hlongest⟩ := h.shorter b hold
      exact ⟨j, by omega, hlongest⟩
    · exact ⟨k, by omega, h.longest ((hlayer b).mp hnew)⟩
  · obtain ⟨hnode, hout, hdeps⟩ := ha
    have hbefore : a ∉ before := fun hmem => hout (List.mem_append_left _ hmem)
    have hnot : ¬ Next nodes deps before a := fun hnext =>
      hout (List.mem_append_right _ ((hlayer a).mpr hnext))
    -- so one of its dependencies is in the layer
    obtain ⟨b, hb, hnew⟩ : ∃ b ∈ deps a, b ∉ before := by
      by_contra hnone
      push Not at hnone
      exact hnot ⟨hnode, hbefore, hnone⟩
    have hmem : b ∈ layer := (List.mem_append.mp (hdeps b hb)).resolve_left hnew
    exact .cons hb (h.reached b ((hlayer b).mp hmem))

lemma Layered.longest {k : ℕ} (h : Layered nodes deps before layers)
    (hbelow : Below nodes deps before k) {i : ℕ} {layer : List α} (hi : layers[i]? = some layer)
    {a : α} (ha : a ∈ layer) : Longest deps a (k + i) := by
  induction layers generalizing before k i with
  | nil => simp at hi
  | cons first rest ih =>
      obtain ⟨-, hmem, hrest⟩ := h
      cases i with
      | zero =>
          obtain rfl : first = layer := by simpa using hi
          exact hbelow.longest ((hmem a).mp ha)
      | succ i =>
          have hone := ih hrest (hbelow.layer hmem) (i := i) (by simpa using hi)
          rwa [Nat.add_assoc, Nat.add_comm 1 i] at hone

/-- The layer of a node is the length of its longest chain. -/
theorem Layered.isGreatest (h : Layered nodes deps [] layers) {i : ℕ} {layer : List α}
    (hi : layers[i]? = some layer) {a : α} (ha : a ∈ layer) : Longest deps a i := by
  have hbelow : Below nodes deps [] 0 :=
    ⟨fun b hb => absurd hb List.not_mem_nil, fun a _ => .nil a⟩
  have hlongest := h.longest hbelow hi ha
  rwa [Nat.zero_add] at hlongest

end Layers

end Samaktha
