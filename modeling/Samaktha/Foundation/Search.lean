import Mathlib.Data.Finset.Card
import Mathlib.Data.List.Dedup
import Mathlib.Data.Set.Finite.Basic
import Mathlib.Order.WellFoundedSet
import Mathlib.Logic.Relation

/-!
# Searching a finite graph

A graph is its successor function `next : α → List α`; `Edge next` is its relation and
`Relation.TransGen (Edge next)` its paths.

* `breadthFirst` finds exactly what is reachable from its seeds and is not one of them, with as
  much fuel as there are seeds and nodes (`mem_breadthFirst`).
* A depth-first search for a cycle reports one exactly if its seeds lead to one
  (`visitAll_iff`), whether a node is recorded as visited when it is entered or when it is left
  (`visitLate_fst`).
* A finite set of nodes of an acyclic graph has a node without a successor in it
  (`exists_minimal`).

Nothing here mentions the program being verified.
-/

namespace Samaktha

universe u

namespace Search

variable {α : Type u}

/-- One step in a graph. -/
def Edge (next : α → List α) (a b : α) : Prop := b ∈ next a

/-- A cycle can be reached from the node. -/
def CycleAhead (next : α → List α) (a : α) : Prop :=
  ∃ b, Relation.ReflTransGen (Edge next) a b ∧ Relation.TransGen (Edge next) b b

/-! ## Minimal nodes -/

/-- In an acyclic relation a nonempty finite set has a member with no successor in the set. -/
theorem exists_minimal {r : α → α → Prop} (hacyclic : ∀ a, ¬ Relation.TransGen r a a) {s : Set α}
    (hfinite : s.Finite) (hne : s.Nonempty) : ∃ a ∈ s, ∀ b ∈ s, ¬ r a b := by
  have hirrefl : IsStrictOrder α fun b a => Relation.TransGen r a b :=
    { irrefl := hacyclic
      trans := fun _ _ _ hab hbc => hbc.trans hab }
  obtain ⟨a, ha⟩ := hne
  have hwf : s.WellFoundedOn fun b a => Relation.TransGen r a b := hfinite.wellFoundedOn
  obtain ⟨⟨m, hm⟩, -, hmin⟩ := WellFounded.has_min hwf Set.univ ⟨⟨a, ha⟩, trivial⟩
  exact ⟨m, hm, fun b hb hrel => hmin ⟨b, hb⟩ trivial (.single hrel)⟩

variable [DecidableEq α] (next : α → List α)

/-! ## Breadth-first search -/

section BreadthFirst

variable (seeds : List α)

/-- The nodes that enter the queue: each is recorded as found when it does. -/
def enqueueNew : List α → List α → List α → List α × List α
  | [], found, queue => (found, queue)
  | a :: rest, found, queue =>
      if a ∉ found ∧ a ∉ seeds then enqueueNew rest (found ++ [a]) (queue ++ [a])
      else enqueueNew rest found queue

/-- The search from a queue, with the nodes found so far. -/
def breadthFirst : ℕ → List α → List α → List α
  | 0, _, found => found
  | _, [], found => found
  | fuel + 1, a :: queue, found =>
      let entered := enqueueNew seeds (next a) found queue
      breadthFirst fuel entered.2 entered.1

variable {seeds}

/-- The same nodes are added to the found ones and to the queue. -/
lemma enqueueNew_spec (nodes found queue : List α) :
    ∃ added, enqueueNew seeds nodes found queue = (found ++ added, queue ++ added) ∧
      added.Nodup ∧ (∀ a ∈ added, a ∈ nodes ∧ a ∉ found ∧ a ∉ seeds) ∧
      ∀ a ∈ nodes, a ∈ found ++ added ∨ a ∈ seeds := by
  induction nodes generalizing found queue with
  | nil => exact ⟨[], by simp [enqueueNew], List.nodup_nil, by simp, by simp⟩
  | cons a rest ih =>
      by_cases hnew : a ∉ found ∧ a ∉ seeds
      · obtain ⟨added, heq, hnodup, hadded, hcovered⟩ := ih (found ++ [a]) (queue ++ [a])
        refine ⟨a :: added, ?_, ?_, ?_, ?_⟩
        · rw [enqueueNew, if_pos hnew, heq]
          simp
        · rw [List.nodup_cons]
          refine ⟨fun hmem => (hadded a hmem).2.1 (by simp), hnodup⟩
        · intro b hb
          rcases List.mem_cons.mp hb with rfl | hb
          · exact ⟨List.mem_cons_self, hnew⟩
          · obtain ⟨hnode, hfound, hseed⟩ := hadded b hb
            exact ⟨List.mem_cons_of_mem _ hnode, fun h => hfound (List.mem_append_left _ h), hseed⟩
        · intro b hb
          rcases List.mem_cons.mp hb with rfl | hb
          · exact .inl (by simp)
          · simpa using hcovered b hb
      · obtain ⟨added, heq, hnodup, hadded, hcovered⟩ := ih found queue
        refine ⟨added, ?_, hnodup, ?_, ?_⟩
        · rw [enqueueNew, if_neg hnew, heq]
        · intro b hb
          obtain ⟨hnode, hrest⟩ := hadded b hb
          exact ⟨List.mem_cons_of_mem _ hnode, hrest⟩
        · intro b hb
          rcases List.mem_cons.mp hb with rfl | hb
          · rcases not_and_or.mp hnew with h | h
            · exact .inl (List.mem_append_left _ (not_not.mp h))
            · exact .inr (not_not.mp h)
          · exact hcovered b hb

/-- What holds between two rounds of the search. -/
structure Frontier (next : α → List α) (seeds nodes queue found : List α) : Prop where
  nodup : found.Nodup
  subset : ∀ a ∈ found, a ∈ nodes
  fresh : ∀ a ∈ found, a ∉ seeds
  reached : ∀ a ∈ found, ∃ s ∈ seeds, Relation.TransGen (Edge next) s a
  queued : ∀ a ∈ queue, a ∈ seeds ∨ a ∈ found
  closed : ∀ a, a ∈ seeds ∨ a ∈ found → a ∉ queue → ∀ b ∈ next a, b ∈ found ∨ b ∈ seeds

variable {next} {nodes queue found : List α}

lemma Frontier.round (hnext : ∀ a, ∀ b ∈ next a, b ∈ nodes) {a : α}
    (h : Frontier next seeds nodes (a :: queue) found) :
    Frontier next seeds nodes (enqueueNew seeds (next a) found queue).2
        (enqueueNew seeds (next a) found queue).1 ∧
      ∃ added, (enqueueNew seeds (next a) found queue).2 = queue ++ added ∧
        (enqueueNew seeds (next a) found queue).1 = found ++ added := by
  obtain ⟨added, heq, hnodup, hadded, hcovered⟩ := enqueueNew_spec (next a) found queue
  rw [heq]
  refine ⟨⟨?_, ?_, ?_, ?_, ?_, ?_⟩, added, rfl, rfl⟩
  · rw [List.nodup_append]
    refine ⟨h.nodup, hnodup, fun b hb c hc hbc => ?_⟩
    exact (hadded c hc).2.1 (hbc ▸ hb)
  · intro b hb
    rcases List.mem_append.mp hb with hb | hb
    · exact h.subset b hb
    · exact hnext a b (hadded b hb).1
  · intro b hb
    rcases List.mem_append.mp hb with hb | hb
    · exact h.fresh b hb
    · exact (hadded b hb).2.2
  · intro b hb
    rcases List.mem_append.mp hb with hb | hb
    · exact h.reached b hb
    · have hedge : Edge next a b := (hadded b hb).1
      rcases h.queued a List.mem_cons_self with hseed | hfound
      · exact ⟨a, hseed, .single hedge⟩
      · obtain ⟨s, hs, hpath⟩ := h.reached a hfound
        exact ⟨s, hs, hpath.tail hedge⟩
  · intro b hb
    rcases List.mem_append.mp hb with hb | hb
    · exact (h.queued b (List.mem_cons_of_mem _ hb)).imp_right (List.mem_append_left _)
    · exact .inr (List.mem_append_right _ hb)
  · intro b hb hqueue c hc
    have hnot : b ∉ queue := fun h => hqueue (List.mem_append_left _ h)
    have hold : b ∈ seeds ∨ b ∈ found := by
      refine hb.imp_right fun hmem => ?_
      rcases List.mem_append.mp hmem with hmem | hmem
      · exact hmem
      · exact absurd (List.mem_append_right _ hmem) hqueue
    by_cases hba : b = a
    · subst hba
      exact hcovered c hc
    · have hnew : b ∉ a :: queue := by simp [hba, hnot]
      exact (h.closed b hold hnew c hc).imp_left (List.mem_append_left _)

lemma Frontier.search (hnext : ∀ a, ∀ b ∈ next a, b ∈ nodes) :
    ∀ (fuel : ℕ) (queue found : List α), Frontier next seeds nodes queue found →
      queue.length + (nodes.length - found.length) ≤ fuel →
      Frontier next seeds nodes [] (breadthFirst next seeds fuel queue found)
  | 0, queue, found, h, hfuel => by
      have hempty : queue = [] := List.length_eq_zero_iff.mp (by omega)
      rw [hempty] at h
      exact h
  | fuel + 1, [], found, h, _ => h
  | fuel + 1, a :: queue, found, h, hfuel => by
      obtain ⟨hround, added, hqueue, hfound⟩ := h.round hnext
      refine Frontier.search hnext fuel _ _ hround ?_
      have hlength : (enqueueNew seeds (next a) found queue).1.length ≤ nodes.length :=
        (hround.nodup.subperm hround.subset).length_le
      rw [hqueue, hfound]
      rw [hfound] at hlength
      simp only [List.length_append, List.length_cons] at hfuel hlength ⊢
      omega

end BreadthFirst

/-! ## Depth-first search for a cycle -/

section DepthFirst

/-- The nodes that were visited, and those on the current path. -/
structure Path (α : Type u) where
  visited : List α := []
  stack : List α := []
  deriving Inhabited

/-- Visits the nodes of a list until one closes a cycle. -/
def visitAll (visit : α → Path α → Bool × Path α) : List α → Path α → Bool × Path α
  | [], path => (false, path)
  | a :: rest, path =>
      match visit a path with
      | (true, path) => (true, path)
      | (false, path) => visitAll visit rest path

/-- Visits a node, which is visited from the moment it is entered. -/
def visit (next : α → List α) : ℕ → α → Path α → Bool × Path α
  | 0, _, path => (false, path)
  | fuel + 1, a, path =>
      if a ∈ path.stack then (true, path)
      else if a ∈ path.visited then (false, path)
      else
        match visitAll (visit next fuel) (next a) ⟨path.visited.insert a, path.stack.insert a⟩ with
        | (true, path) => (true, path)
        | (false, path) => (false, { path with stack := path.stack.erase a })

/-- Visits a node, which is visited from the moment it is left. -/
def visitLate (next : α → List α) : ℕ → α → Path α → Bool × Path α
  | 0, _, path => (false, path)
  | fuel + 1, a, path =>
      if a ∈ path.stack then (true, path)
      else if a ∈ path.visited then (false, path)
      else
        match visitAll (visitLate next fuel) (next a)
            { path with stack := path.stack.insert a } with
        | (true, path) => (true, path)
        | (false, path) => (false, ⟨path.visited.insert a, path.stack.erase a⟩)

/-- A cycle can be reached from one of the nodes. -/
def CycleFrom (next : α → List α) (seeds : List α) : Prop := ∃ s ∈ seeds, CycleAhead next s

variable {next : α → List α} {step : α → Path α → Bool × Path α}

/-! ### The current path -/

omit [DecidableEq α] in
lemma stack_visitAll
    (hstep : ∀ a path, (step a path).1 = false → (step a path).2.stack = path.stack)
    (nodes : List α) (path : Path α) (h : (visitAll step nodes path).1 = false) :
    (visitAll step nodes path).2.stack = path.stack := by
  induction nodes generalizing path with
  | nil => rfl
  | cons a rest ih =>
      have hone := hstep a path
      unfold visitAll at h ⊢
      split at h
      · cases h
      · rename_i path' heq
        rw [heq] at hone
        exact (ih path' h).trans (hone rfl)

lemma stack_visit (fuel : ℕ) (a : α) (path : Path α) (h : (visit next fuel a path).1 = false) :
    (visit next fuel a path).2.stack = path.stack := by
  induction fuel generalizing a path with
  | zero => rfl
  | succ fuel ih =>
      unfold visit at h ⊢
      by_cases hstack : a ∈ path.stack
      · rw [if_pos hstack] at h
        cases h
      · rw [if_neg hstack] at h ⊢
        by_cases hvisited : a ∈ path.visited
        · rw [if_pos hvisited]
        · rw [if_neg hvisited] at h ⊢
          have hinner := stack_visitAll ih (next a)
            ⟨path.visited.insert a, path.stack.insert a⟩
          split at h
          · cases h
          · rename_i path' heq
            rw [heq] at hinner
            dsimp only
            rw [hinner rfl, List.insert_of_not_mem hstack, List.erase_cons_head]

/-! ### A cycle that is reported is one -/

/-- Every node of the current path leads to `a`. -/
def LeadsTo (next : α → List α) (path : Path α) (a : α) : Prop :=
  ∀ b ∈ path.stack, Relation.TransGen (Edge next) b a

def CycleWithin (next : α → List α) (P : α → Prop) : Prop :=
  ∃ a, P a ∧ Relation.TransGen (Edge next) a a

variable {P : α → Prop}

omit [DecidableEq α] in
lemma cycle_of_step {step : α → Path α → Bool × Path α}
    (hstack : ∀ a path, (step a path).1 = false → (step a path).2.stack = path.stack)
    (hstep : ∀ a path, P a → LeadsTo next path a → (step a path).1 = true → CycleWithin next P)
    (nodes : List α) (path : Path α) (hnodes : ∀ a ∈ nodes, P a ∧ LeadsTo next path a)
    (h : (visitAll step nodes path).1 = true) : CycleWithin next P := by
  induction nodes generalizing path with
  | nil => cases h
  | cons a rest ih =>
      obtain ⟨ha, hleads⟩ := hnodes a List.mem_cons_self
      unfold visitAll at h
      split at h
      · rename_i path' heq
        exact hstep a path ha hleads (by rw [heq])
      · rename_i path' heq
        have hsame : path'.stack = path.stack := by
          have hone := hstack a path
          rw [heq] at hone
          exact hone rfl
        refine ih path' (fun b hb => ?_) h
        obtain ⟨hP, hb⟩ := hnodes b (List.mem_cons_of_mem a hb)
        exact ⟨hP, fun c hc => hb c (hsame ▸ hc)⟩

lemma cycle_of_visit (hP : ∀ a, P a → ∀ b ∈ next a, P b) (fuel : ℕ) (a : α) (path : Path α)
    (ha : P a) (hleads : LeadsTo next path a) (h : (visit next fuel a path).1 = true) :
    CycleWithin next P := by
  induction fuel generalizing a path with
  | zero => cases h
  | succ fuel ih =>
      unfold visit at h
      by_cases hstack : a ∈ path.stack
      · exact ⟨a, ha, hleads a hstack⟩
      · rw [if_neg hstack] at h
        by_cases hvisited : a ∈ path.visited
        · rw [if_pos hvisited] at h
          cases h
        · rw [if_neg hvisited] at h
          split at h
          · rename_i path' heq
            refine cycle_of_step (stack_visit fuel) ih (next a)
              ⟨path.visited.insert a, path.stack.insert a⟩ (fun b hb => ⟨hP a ha b hb, ?_⟩)
              (by rw [heq])
            intro c hc
            have hedge : Edge next a b := hb
            have hinsert : path.stack.insert a = a :: path.stack := List.insert_of_not_mem hstack
            rcases List.mem_cons.mp (hinsert ▸ hc) with rfl | hc
            · exact .single hedge
            · exact (hleads c hc).tail hedge
          · cases h

/-! ### A search without a report has seen everything -/

/-- The node was visited and left. -/
def Path.Done (path : Path α) (a : α) : Prop := a ∈ path.visited ∧ a ∉ path.stack

/-- What a node that was left leads to was left, and none of it is on a cycle. -/
structure Cleared (next : α → List α) (path : Path α) : Prop where
  entered : ∀ a ∈ path.stack, a ∈ path.visited
  closed : ∀ a, path.Done a → ∀ b ∈ next a, path.Done b
  acyclic : ∀ a, path.Done a → ¬ Relation.TransGen (Edge next) a a

omit [DecidableEq α] in
lemma Cleared.reach {path : Path α} (h : Cleared next path) {a b : α} (ha : path.Done a)
    (hpath : Relation.ReflTransGen (Edge next) a b) : path.Done b := by
  induction hpath with
  | refl => exact ha
  | tail _ hedge ih => exact h.closed _ ih _ hedge

/-- A visit that closes no cycle, of some nodes: they are left after it. -/
structure Clears (next : α → List α) (path path' : Path α) (nodes : List α) : Prop where
  cleared : Cleared next path'
  stack : path'.stack = path.stack
  kept : ∀ b, path.Done b → path'.Done b
  done : ∀ a ∈ nodes, path'.Done a

/-- The current path repeats no node, and the fuel covers the nodes that are not on it. -/
structure Fueled (names : List α) (fuel : ℕ) (path : Path α) : Prop where
  nodup : path.stack.Nodup
  subset : path.stack ⊆ names
  enough : names.length < path.stack.length + fuel

omit [DecidableEq α] in
lemma clears_visitAll {names : List α} {fuel : ℕ}
    (hstep : ∀ a path, a ∈ names → Cleared next path → Fueled names fuel path →
      (step a path).1 = false → Clears next path (step a path).2 [a])
    (nodes : List α) (hnodes : nodes ⊆ names) (path : Path α) (hcleared : Cleared next path)
    (hfuel : Fueled names fuel path) (h : (visitAll step nodes path).1 = false) :
    Clears next path (visitAll step nodes path).2 nodes := by
  induction nodes generalizing path with
  | nil => exact ⟨hcleared, rfl, fun b hb => hb, fun a ha => absurd ha List.not_mem_nil⟩
  | cons a rest ih =>
      have hone := hstep a path (hnodes List.mem_cons_self) hcleared hfuel
      unfold visitAll at h ⊢
      split at h
      · cases h
      · rename_i path' heq
        rw [heq] at hone
        obtain ⟨hcleared', hstack, hkept, hdone⟩ := hone rfl
        have hfuel' : Fueled names fuel path' := by
          refine ⟨?_, ?_, ?_⟩
          · rw [hstack]
            exact hfuel.nodup
          · rw [hstack]
            exact hfuel.subset
          · rw [hstack]
            exact hfuel.enough
        have hrest := ih (fun b hb => hnodes (List.mem_cons_of_mem a hb)) path' hcleared' hfuel' h
        refine ⟨hrest.cleared, hrest.stack.trans hstack, fun b hb => hrest.kept b (hkept b hb), ?_⟩
        intro b hb
        rcases List.mem_cons.mp hb with rfl | hb
        · exact hrest.kept b (hdone b List.mem_cons_self)
        · exact hrest.done b hb

lemma done_enter {path : Path α} {a : α} (hstack : a ∉ path.stack) (hvisited : a ∉ path.visited)
    (b : α) :
    Path.Done ⟨path.visited.insert a, path.stack.insert a⟩ b ↔ path.Done b := by
  unfold Path.Done
  rw [List.mem_insert_iff, List.mem_insert_iff]
  constructor
  · rintro ⟨hb, hnot⟩
    exact ⟨hb.resolve_left fun heq => hnot (.inl heq), fun hmem => hnot (.inr hmem)⟩
  · rintro ⟨hb, hnot⟩
    refine ⟨.inr hb, ?_⟩
    rintro (rfl | hmem)
    · exact hvisited hb
    · exact hnot hmem

lemma clears_visit {names : List α} (hnext : ∀ a ∈ names, next a ⊆ names) (fuel : ℕ) (a : α)
    (path : Path α) (ha : a ∈ names) (hcleared : Cleared next path)
    (hfuel : Fueled names fuel path) (h : (visit next fuel a path).1 = false) :
    Clears next path (visit next fuel a path).2 [a] := by
  induction fuel generalizing a path with
  | zero =>
      have hlength := (hfuel.nodup.subperm hfuel.subset).length_le
      have henough := hfuel.enough
      omega
  | succ fuel ih =>
      unfold visit at h ⊢
      by_cases hstack : a ∈ path.stack
      · rw [if_pos hstack] at h
        cases h
      · rw [if_neg hstack] at h ⊢
        by_cases hvisited : a ∈ path.visited
        · rw [if_pos hvisited]
          refine ⟨hcleared, rfl, fun b hb => hb, fun b hb => ?_⟩
          rw [List.mem_singleton.mp hb]
          exact ⟨hvisited, hstack⟩
        · rw [if_neg hvisited] at h ⊢
          have hinsert : path.stack.insert a = a :: path.stack := List.insert_of_not_mem hstack
          have hdone := done_enter hstack hvisited
          have hentered : Cleared next ⟨path.visited.insert a, path.stack.insert a⟩ := by
            refine ⟨fun b hb => ?_, fun b hb c hc => ?_, fun b hb => ?_⟩
            · rcases List.mem_insert_iff.mp hb with rfl | hb
              · exact List.mem_insert_self
              · exact List.mem_insert_of_mem (hcleared.entered b hb)
            · exact (hdone c).mpr (hcleared.closed b ((hdone b).mp hb) c hc)
            · exact hcleared.acyclic b ((hdone b).mp hb)
          have hfuel' : Fueled names fuel ⟨path.visited.insert a, path.stack.insert a⟩ := by
            refine ⟨?_, ?_, ?_⟩
            · exact hfuel.nodup.insert
            · rw [hinsert]
              exact List.cons_subset.mpr ⟨ha, hfuel.subset⟩
            · have henough := hfuel.enough
              rw [hinsert, List.length_cons]
              omega
          have hinner := clears_visitAll ih (next a) (hnext a ha) _ hentered hfuel'
          split at h
          · cases h
          · rename_i path' heq
            rw [heq] at hinner
            dsimp only
            obtain ⟨hcleared', hstack', hkept, hnextDone⟩ := hinner rfl
            rw [hinsert] at hstack'
            have herase : path'.stack.erase a = path.stack := by
              rw [hstack', List.erase_cons_head]
            have honstack : a ∈ path'.stack := hstack' ▸ List.mem_cons_self
            -- leaving the node, and nothing else, is what happens last
            have hleave : ∀ b, Path.Done { path' with stack := path'.stack.erase a } b ↔
                path'.Done b ∨ b = a := by
              intro b
              unfold Path.Done
              rw [herase, hstack', List.mem_cons]
              by_cases hba : b = a
              · subst hba
                exact ⟨fun _ => .inr rfl, fun _ => ⟨hcleared'.entered b honstack, hstack⟩⟩
              · simp [hba]
            refine ⟨⟨fun b hb => ?_, fun b hb c hc => ?_, fun b hb => ?_⟩, herase, ?_, ?_⟩
            · exact hcleared'.entered b (List.mem_of_mem_erase hb)
            · refine (hleave c).mpr (.inl ?_)
              rcases (hleave b).mp hb with hb | rfl
              · exact hcleared'.closed b hb c hc
              · exact hnextDone c hc
            · rcases (hleave b).mp hb with hb | rfl
              · exact hcleared'.acyclic b hb
              · intro hcycle
                obtain ⟨c, hedge, hback⟩ := Relation.TransGen.head'_iff.mp hcycle
                exact (hcleared'.reach (hnextDone c hedge) hback).2 honstack
            · exact fun b hb => (hleave b).mpr (.inl (hkept b ((hdone b).mpr hb)))
            · intro b hb
              exact (hleave b).mpr (.inr (List.mem_singleton.mp hb))

/-- The search reports a cycle exactly if one can be reached from its seeds. -/
theorem visitAll_iff {names seeds : List α} (hnext : ∀ a ∈ names, next a ⊆ names)
    (hseeds : seeds ⊆ names) {fuel : ℕ} (hfuel : names.length < fuel) :
    (visitAll (visit next fuel) seeds {}).1 = true ↔ CycleFrom next seeds := by
  constructor
  · intro h
    obtain ⟨a, ⟨s, hs, hpath⟩, hcycle⟩ := cycle_of_step
      (P := fun a => ∃ s ∈ seeds, Relation.ReflTransGen (Edge next) s a)
      (stack_visit fuel)
      (cycle_of_visit (fun a ⟨s, hs, hpath⟩ b hb => ⟨s, hs, hpath.tail hb⟩) fuel) seeds {}
      (fun a ha => ⟨⟨a, ha, .refl⟩, fun b hb => absurd hb List.not_mem_nil⟩) h
    exact ⟨s, hs, a, hpath, hcycle⟩
  · rintro ⟨s, hs, a, hpath, hcycle⟩
    by_contra hnot
    have hstart : Cleared next ({} : Path α) :=
      ⟨fun b hb => absurd hb List.not_mem_nil, fun b hb => absurd hb.1 List.not_mem_nil,
        fun b hb => absurd hb.1 List.not_mem_nil⟩
    have hfueled : Fueled names fuel ({} : Path α) :=
      ⟨List.nodup_nil, List.nil_subset _, by rw [List.length_nil]; omega⟩
    have hclears := clears_visitAll (clears_visit hnext fuel) seeds hseeds {} hstart hfueled
      (Bool.eq_false_iff.mpr hnot)
    exact hclears.cleared.acyclic a (hclears.cleared.reach (hclears.done s hs) hpath) hcycle

/-! ### When a node is recorded -/

/-- The same search, with and without the nodes of the current path among those visited. -/
structure Mirrors (late early : Path α) : Prop where
  stack : early.stack = late.stack
  visited : ∀ b, b ∈ early.visited ↔ b ∈ late.visited ∨ b ∈ late.stack

/-- Two reports are the same, and so is the search after them. -/
def SameReport (late early : Bool × Path α) : Prop :=
  late.1 = early.1 ∧ (early.1 = false → Mirrors late.2 early.2)

omit [DecidableEq α] in
lemma sameReport_visitAll {late early : α → Path α → Bool × Path α}
    (hstep : ∀ a path path', Mirrors path path' → SameReport (late a path) (early a path'))
    (nodes : List α) {path path' : Path α} (h : Mirrors path path') :
    SameReport (visitAll late nodes path) (visitAll early nodes path') := by
  induction nodes generalizing path path' with
  | nil => exact ⟨rfl, fun _ => h⟩
  | cons a rest ih =>
      obtain ⟨hsame, hmirrors⟩ := hstep a path path' h
      unfold visitAll
      cases hlate : late a path with
      | mk found after =>
          cases hearly : early a path' with
          | mk found' after' =>
              rw [hlate, hearly] at hsame hmirrors
              obtain rfl : found = found' := hsame
              cases found with
              | true => exact ⟨rfl, fun hfalse => by cases hfalse⟩
              | false => exact ih (hmirrors rfl)

lemma sameReport_visit (fuel : ℕ) (a : α) (path path' : Path α) (h : Mirrors path path') :
    SameReport (visitLate next fuel a path) (visit next fuel a path') := by
  induction fuel generalizing a path path' with
  | zero => exact ⟨rfl, fun _ => h⟩
  | succ fuel ih =>
      unfold visitLate visit
      rw [h.stack]
      by_cases hstack : a ∈ path.stack
      · rw [if_pos hstack, if_pos hstack]
        exact ⟨rfl, fun hfalse => by cases hfalse⟩
      · rw [if_neg hstack, if_neg hstack]
        by_cases hvisited : a ∈ path.visited
        · rw [if_pos hvisited, if_pos ((h.visited a).mpr (.inl hvisited))]
          exact ⟨rfl, fun _ => h⟩
        · have hnot : a ∉ path'.visited := fun hmem =>
            ((h.visited a).mp hmem).elim hvisited hstack
          rw [if_neg hvisited, if_neg hnot]
          have hentered : Mirrors { path with stack := path.stack.insert a }
              ⟨path'.visited.insert a, path.stack.insert a⟩ := by
            refine ⟨rfl, fun b => ?_⟩
            rw [List.mem_insert_iff, List.mem_insert_iff, h.visited]
            exact or_left_comm
          obtain ⟨hsame, hmirrors⟩ := sameReport_visitAll ih (next a) hentered
          have hback : ∀ entered, (visitAll (visit next fuel) (next a) entered).1 = false →
              (visitAll (visit next fuel) (next a) entered).2.stack = entered.stack :=
            stack_visitAll (stack_visit fuel) (next a)
          specialize hback ⟨path'.visited.insert a, path.stack.insert a⟩
          revert hsame hmirrors hback
          cases visitAll (visitLate next fuel) (next a)
              { path with stack := path.stack.insert a } with
          | mk found after =>
              cases visitAll (visit next fuel) (next a)
                  ⟨path'.visited.insert a, path.stack.insert a⟩ with
              | mk found' after' =>
                  intro hsame hmirrors hback
                  obtain rfl : found = found' := hsame
                  cases found with
                  | true => exact ⟨rfl, fun hfalse => by cases hfalse⟩
                  | false =>
                      obtain ⟨hstacks, hboth⟩ := hmirrors rfl
                      have hkept : after'.stack = path.stack.insert a := hback rfl
                      have ha : a ∈ after.stack := by
                        rw [← hstacks, hkept]
                        exact List.mem_insert_self
                      refine ⟨rfl, fun _ => ⟨congrArg (List.erase · a) hstacks, fun b => ?_⟩⟩
                      show b ∈ after'.visited ↔
                        b ∈ after.visited.insert a ∨ b ∈ after.stack.erase a
                      rw [hboth, List.mem_insert_iff]
                      by_cases hba : b = a
                      · subst hba
                        exact ⟨fun _ => .inl (.inl rfl), fun _ => .inr ha⟩
                      · rw [List.mem_erase_of_ne hba]
                        simp [hba]

/-- It does not matter to the report when a node is recorded as visited. -/
theorem visitLate_fst (fuel : ℕ) (seeds : List α) :
    (visitAll (visitLate next fuel) seeds {}).1 = (visitAll (visit next fuel) seeds {}).1 := by
  have hstart : Mirrors ({} : Path α) {} := ⟨rfl, fun b => by simp⟩
  exact (sameReport_visitAll (sameReport_visit fuel) seeds hstart).1

end DepthFirst

end Search

end Samaktha
