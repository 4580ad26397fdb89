import Samaktha.Foundation.DependencyOrder
import Samaktha.Foundation.Layers
import Samaktha.Runtime.CycleDetection

/-!
# The levels of a batch

What the scheduler's dependency resolver does with a graph: a graph without a cycle, whose
dependencies are among its tasks, is valid (`valid_of_acyclic`), and its levels are its layers
(`layered_levels`).  Of any graph, the levels are the layers of all the names in it
(`layered_names`).
-/

namespace Samaktha

namespace RunBatch

open DependencyOrder (degree adjust degree_adjust degree_set)

/-- The dependencies of the graph are among its tasks, and those of a task are listed once. -/
structure Graph.Closed (graph : Graph) : Prop where
  nodupKeys : Dict.NodupKeys graph.dependencies
  known : ∀ id deps, Dict.get? graph.dependencies id = some deps →
    id ∈ graph.taskIds ∧ deps ⊆ graph.taskIds

variable {graph : Graph}

lemma Graph.Closed.mem_taskIds (h : graph.Closed) {id dep : String} (hdep : dep ∈ graph.depsOf id) :
    id ∈ graph.taskIds ∧ dep ∈ graph.taskIds := by
  unfold Graph.depsOf at hdep
  cases hget : Dict.get? graph.dependencies id with
  | none => rw [hget] at hdep; cases hdep
  | some deps =>
      rw [hget] at hdep
      obtain ⟨hid, hdeps⟩ := h.known id deps hget
      exact ⟨hid, hdeps hdep⟩

/-! ## Validation -/

open Samaktha.Search (Edge)

lemma valid_of_acyclic (hclosed : graph.Closed)
    (hacyclic : ∀ id, ¬ Relation.TransGen (Edge graph.depsOf) id id) : graph.valid = true := by
  rw [Graph.valid, detectCycles_of_acyclic graph hacyclic]
  simp only [Bool.not_false, Bool.true_and, List.all_eq_true, Bool.and_eq_true, decide_eq_true_eq]
  intro kv hkv
  exact hclosed.known kv.1 kv.2 (Dict.get?_of_mem hclosed.nodupKeys hkv)

/-! ## Names -/

def Graph.names (graph : Graph) : List String :=
  graph.taskIds ++ Dict.keys graph.dependencies ++ (graph.dependencies.map Prod.snd).flatten

lemma Graph.depsOf_subset (graph : Graph) (id : String) : graph.depsOf id ⊆ graph.names :=
  fun _ hdep => List.mem_append_right _ (ExecutionGraph.listed_subset graph.dependencies id hdep)

lemma Graph.mem_names_of_mem_depsOf (graph : Graph) {id dep : String}
    (hdep : dep ∈ graph.depsOf id) : id ∈ graph.names := by
  refine List.mem_append_left _ (List.mem_append_right _ ?_)
  by_contra hnot
  rw [Graph.depsOf, Dict.get?_eq_none_iff.mpr hnot] at hdep
  cases hdep

lemma Graph.Closed.mem_names (h : graph.Closed) (id : String) :
    id ∈ graph.names ↔ id ∈ graph.taskIds := by
  constructor
  · intro hid
    rcases List.mem_append.mp hid with hid | hid
    · rcases List.mem_append.mp hid with hid | hid
      · exact hid
      · obtain ⟨kv, hkv, rfl⟩ := List.mem_map.mp hid
        exact (h.known kv.1 kv.2 (Dict.get?_of_mem h.nodupKeys hkv)).1
    · obtain ⟨deps, hdeps, hmem⟩ := List.mem_flatten.mp hid
      obtain ⟨kv, hkv, rfl⟩ := List.mem_map.mp hdeps
      exact (h.known kv.1 kv.2 (Dict.get?_of_mem h.nodupKeys hkv)).2 hmem
  · exact fun hid => List.mem_append_left _ (List.mem_append_left _ hid)

/-! ## Counting -/

section Counting

/-- What is counted while the dependencies are read: for each task, its dependencies so far, and
for each dependency, the tasks that wait for it, as often as they name it. -/
structure Counts (deps : String → List String) (degrees : Degrees) : Prop where
  degree : ∀ id, degree degrees.indegree id = (deps id).length
  children : ∀ dep id, ((Dict.get? degrees.children dep).getD []).count id = (deps id).count dep

lemma degree_setDefault (indegree : Dict String ℤ) (a b : String) :
    degree (Dict.setDefault indegree a 0) b = degree indegree b := by
  unfold Dict.setDefault
  split
  · rfl
  · rename_i hnone
    rw [degree_set]
    split
    · rename_i hab
      subst hab
      rw [degree, Option.not_isSome_iff_eq_none.mp hnone, Option.getD_none]
    · rfl

lemma Counts.count {deps : String → List String} {degrees : Degrees} (h : Counts deps degrees)
    (task dep : String) :
    Counts (Function.update deps task (deps task ++ [dep])) (degrees.count task dep) where
  degree id := by
    have hone : (Dict.get? (Dict.setDefault degrees.indegree dep 0) task).getD 0 =
        (deps task).length := by
      rw [← h.degree task, ← degree_setDefault degrees.indegree dep task]
      rfl
    unfold Degrees.count
    rw [degree_set, hone]
    split
    · rename_i heq
      subst heq
      rw [Function.update_self, List.length_append, List.length_singleton]
      push_cast
      rfl
    · rename_i hne
      rw [Function.update_of_ne (Ne.symm hne), degree_setDefault, h.degree id]
  children other id := by
    have hother := h.children other id
    unfold Degrees.count
    rw [Dict.get?_set]
    by_cases hid : task = id
    · subst hid
      rw [Function.update_self, List.count_append, ← hother]
      split
      · rename_i heq
        subst heq
        simp
      · rename_i hne
        simp [hne]
    · rw [Function.update_of_ne (Ne.symm hid), ← hother]
      split
      · rename_i heq
        subst heq
        simp [hid]
      · rfl

lemma Counts.foldl {deps : String → List String} {degrees : Degrees} (h : Counts deps degrees)
    (task : String) (read : List String) :
    Counts (Function.update deps task (deps task ++ read))
      (read.foldl (Degrees.count task) degrees) := by
  induction read generalizing deps degrees with
  | nil => rw [List.append_nil, Function.update_eq_self]; exact h
  | cons dep rest ih =>
      have hrest := ih (h.count task dep)
      rw [Function.update_self, Function.update_idem, List.append_assoc] at hrest
      exact hrest

/-- The keys of a dictionary are the names with a property. -/
structure Keyed (P : String → Prop) (indegree : Dict String ℤ) : Prop where
  nodup : Dict.NodupKeys indegree
  mem : ∀ a, a ∈ Dict.keys indegree ↔ P a

variable {P : String → Prop}

lemma Keyed.congr {Q : String → Prop} {indegree : Dict String ℤ} (h : Keyed P indegree)
    (hsame : ∀ a, P a ↔ Q a) : Keyed Q indegree :=
  ⟨h.nodup, fun a => (h.mem a).trans (hsame a)⟩

lemma Keyed.set {indegree : Dict String ℤ} (h : Keyed P indegree) (a : String) (n : ℤ) :
    Keyed (fun b => P b ∨ b = a) (Dict.set indegree a n) where
  nodup := h.nodup.set a n
  mem b := by
    rw [Dict.keys_set]
    by_cases ha : a ∈ Dict.keys indegree
    · rw [if_pos ha, h.mem]
      refine ⟨.inl, fun hb => hb.elim id fun heq => ?_⟩
      rw [heq]
      exact (h.mem a).mp ha
    · rw [if_neg ha, List.mem_append, h.mem, List.mem_singleton]

lemma Keyed.setDefault {indegree : Dict String ℤ} (h : Keyed P indegree) (a : String) :
    Keyed (fun b => P b ∨ b = a) (Dict.setDefault indegree a 0) := by
  unfold Dict.setDefault
  split
  · rename_i hsome
    refine h.congr fun b => ⟨.inl, fun hb => hb.elim id fun heq => ?_⟩
    rw [heq, ← h.mem]
    by_contra hnot
    rw [Dict.get?_eq_none_iff.mpr hnot] at hsome
    cases hsome
  · exact h.set a 0

lemma Keyed.count {degrees : Degrees} (h : Keyed P degrees.indegree) {task : String}
    (htask : P task) (read : List String) :
    Keyed (fun b => P b ∨ b ∈ read) (read.foldl (Degrees.count task) degrees).indegree := by
  induction read generalizing P degrees with
  | nil => exact h.congr fun b => by simp
  | cons dep rest ih =>
      have hone : Keyed (fun b => P b ∨ b = dep) (degrees.count task dep).indegree := by
        refine ((h.setDefault dep).set task _).congr fun b => ⟨fun hb => ?_, .inl⟩
        rcases hb with hb | rfl
        · exact hb
        · exact .inl htask
      refine (ih hone (.inl htask)).congr fun b => ?_
      rw [List.mem_cons, or_assoc]

lemma degrees_spec (hkeys : Dict.NodupKeys graph.dependencies) :
    Counts graph.depsOf graph.degrees ∧ Keyed (· ∈ graph.names) graph.degrees.indegree := by
  -- along the dictionary, what has been read of it is what is counted
  have hmain : ∀ (rest : Dict String (List String)) (deps : String → List String)
      (P : String → Prop) (degrees : Degrees), Dict.NodupKeys rest →
      (∀ id ∈ Dict.keys rest, deps id = []) →
      Counts deps degrees → Keyed P degrees.indegree →
      let after := rest.foldl (fun degrees kv =>
        kv.2.foldl (Degrees.count kv.1)
          { degrees with indegree := degrees.indegree.setDefault kv.1 0 }) degrees
      Counts (fun id => ((Dict.get? rest id).getD (deps id))) after ∧
        Keyed (fun a => P a ∨ a ∈ Dict.keys rest ∨ a ∈ (rest.map Prod.snd).flatten)
          after.indegree := by
    intro rest
    induction rest with
    | nil =>
        exact fun deps P degrees _ _ hcounts hkeyed => ⟨hcounts, hkeyed.congr fun a => by
          simp [Dict.keys]⟩
    | cons kv rest ih =>
        intro deps P degrees hnodup hfresh hcounts hkeyed
        obtain ⟨hnew, hrest⟩ := List.nodup_cons.mp hnodup
        have hdefault : Counts deps
            { degrees with indegree := degrees.indegree.setDefault kv.1 0 } :=
          ⟨fun id => (degree_setDefault _ _ _).trans (hcounts.degree id), hcounts.children⟩
        have hone := hdefault.foldl kv.1 kv.2
        rw [hfresh kv.1 List.mem_cons_self, List.nil_append] at hone
        have hkeyedOne : Keyed _ (kv.2.foldl (Degrees.count kv.1)
            { degrees with indegree := degrees.indegree.setDefault kv.1 0 }).indegree :=
          Keyed.count (hkeyed.setDefault kv.1) (.inr rfl) kv.2
        have hnext := ih _ _ _ hrest (fun id hmem => ?_) hone hkeyedOne
        · refine ⟨?_, hnext.2.congr fun a => ?_⟩
          · have hsame : (fun id => (Dict.get? (kv :: rest) id).getD (deps id)) =
                fun id => (Dict.get? rest id).getD (Function.update deps kv.1 kv.2 id) := by
              funext id
              rw [Dict.get?_cons]
              by_cases hkey : kv.1 = id
              · subst hkey
                rw [if_pos rfl, Dict.get?_eq_none_iff.mpr hnew, Function.update_self]
                rfl
              · rw [if_neg hkey, Function.update_of_ne (Ne.symm hkey)]
            rw [hsame]
            exact hnext.1
          · simp only [Dict.keys, List.map_cons, List.mem_cons, List.flatten_cons,
              List.mem_append]
            tauto
        · have hne : id ≠ kv.1 := fun heq => hnew (heq ▸ hmem)
          rw [Function.update_of_ne hne]
          exact hfresh id (List.mem_cons_of_mem _ hmem)
  have hzero : ∀ ids : List String, ∀ id,
      degree (Dict.ofList (ids.map fun id => (id, (0 : ℤ)))) id = 0 := by
    intro ids id
    unfold degree
    cases hget : Dict.get? (Dict.ofList (ids.map fun id => (id, (0 : ℤ)))) id with
    | none => rfl
    | some n =>
        obtain ⟨a, ha, hpair⟩ := List.mem_map.mp (Dict.mem_of_get?_ofList hget)
        rw [Option.getD_some, ← (Prod.mk.inj hpair).2]
  have hstart : Counts (fun _ => [])
      { indegree := Dict.ofList (graph.taskIds.map fun id => (id, (0 : ℤ))) } :=
    ⟨fun id => hzero graph.taskIds id, fun dep id => rfl⟩
  have hids : Keyed (· ∈ graph.taskIds)
      (Dict.ofList (graph.taskIds.map fun id => (id, (0 : ℤ)))) := by
    refine ⟨Dict.nodupKeys_ofList _, fun a => ?_⟩
    rw [← not_iff_not, ← Dict.get?_eq_none_iff, Dict.get?_ofList_eq_none, Dict.get?_eq_none_iff,
      Dict.keys, List.map_map]
    exact not_congr (by simp)
  obtain ⟨hcounts, hkeyed⟩ :=
    hmain graph.dependencies (fun _ => []) _ _ hkeys (fun _ _ => rfl) hstart hids
  refine ⟨hcounts, hkeyed.congr fun a => ?_⟩
  rw [Graph.names, List.mem_append, List.mem_append, or_assoc]

end Counting

/-! ## Levels -/

section Levels

lemma release_fst (released : List String) (indegree : Dict String ℤ) (next : List String) :
    (release released indegree next).1 = adjust (-1) indegree released := by
  induction released generalizing indegree next with
  | nil => rfl
  | cons child rest ih => exact ih _ _

lemma count_release (released : List String) (indegree : Dict String ℤ) (next : List String)
    {a : String} (hle : 0 < released.count a → (released.count a : ℤ) ≤ degree indegree a) :
    (release released indegree next).2.count a = next.count a +
      if 0 < released.count a ∧ degree indegree a = released.count a then 1 else 0 := by
  induction released generalizing indegree next with
  | nil => simp [release]
  | cons child rest ih =>
      rw [release]
      by_cases hchild : child = a
      · subst hchild
        rw [List.count_cons_self] at hle ⊢
        have hcount := hle (Nat.succ_pos _)
        push_cast at hcount ⊢
        have hdegree : degree (Dict.set indegree child (degree indegree child - 1)) child =
            degree indegree child - 1 := by
          rw [degree_set, if_pos rfl]
        have hrest := ih (Dict.set indegree child (degree indegree child - 1))
          (if degree indegree child - 1 = 0 then next ++ [child] else next)
          (fun _ => by rw [hdegree]; omega)
        refine hrest.trans ?_
        rw [hdegree]
        by_cases hlast : degree indegree child - 1 = 0
        · rw [if_pos hlast, List.count_append, List.count_singleton_self,
            if_neg (fun h => by omega), if_pos ⟨by omega, by omega⟩]
        · rw [if_neg hlast]
          refine congrArg _ (if_congr ⟨fun h => ⟨by omega, by omega⟩, fun h => ?_⟩ rfl rfl)
          exact ⟨by omega, by omega⟩
      · have hdegree : ∀ n, degree (Dict.set indegree child n) a = degree indegree a := by
          intro n
          rw [degree_set, if_neg hchild]
        rw [List.count_cons_of_ne hchild] at hle ⊢
        refine (ih _ _ fun h => by rw [hdegree]; exact hle h).trans ?_
        rw [hdegree]
        refine congrArg (· + _) ?_
        split
        · rw [List.count_append, List.count_singleton, beq_eq_false_iff_ne.mpr hchild,
            if_neg Bool.false_ne_true, Nat.add_zero]
        · rfl

lemma count_released {deps : String → List String} {degrees : Degrees} (h : Counts deps degrees)
    {current : List String} (hcurrent : current.Nodup) (a : String) :
    (current.flatMap fun id => sorted ((Dict.get? degrees.children id).getD [])).count a =
      (deps a).countP (· ∈ current) := by
  induction current with
  | nil => simp
  | cons id rest ih =>
      obtain ⟨hnew, hrest⟩ := List.nodup_cons.mp hcurrent
      have hone : (sorted ((Dict.get? degrees.children id).getD [])).count a =
          (deps a).count id := by
        rw [← h.children id a]
        exact (List.perm_insertionSort _ _).count_eq a
      rw [List.flatMap_cons, List.count_append, hone, ih hrest]
      generalize deps a = read
      induction read with
      | nil => rfl
      | cons dep others ihread =>
          rw [List.count_cons, List.countP_cons, List.countP_cons, ← ihread]
          by_cases hdep : dep = id
          · subst hdep
            simp only [beq_self_eq_true, if_true, hnew, decide_false, List.mem_cons, true_or,
              decide_true]
            simp only [Bool.false_eq_true, if_false]
            omega
          · simp only [beq_iff_eq, hdep, if_false, List.mem_cons, false_or]
            omega

/-- The counters when the tasks `before` are done. -/
structure Remaining (graph : Graph) (indegree : Dict String ℤ) (before : List String) : Prop where
  left : ∀ a, a ∉ before → degree indegree a = (graph.depsOf a).countP (· ∉ before)
  down : ∀ a ∈ before, graph.depsOf a ⊆ before

/-- The tasks that are ready, each once. -/
structure Ready (graph : Graph) (before current : List String) : Prop where
  nodup : current.Nodup
  mem : ∀ a, a ∈ current ↔ Layers.Next graph.names graph.depsOf before a

lemma countP_split (read before current : List String) (hdisjoint : before.Disjoint current) :
    read.countP (· ∉ before) =
      read.countP (· ∈ current) + read.countP (· ∉ before ++ current) := by
  induction read with
  | nil => rfl
  | cons dep rest ih =>
      rw [List.countP_cons, List.countP_cons, List.countP_cons, ih]
      by_cases hcurrent : dep ∈ current
      · have hbefore : dep ∉ before := fun h => hdisjoint h hcurrent
        simp [hcurrent, hbefore]
        omega
      · by_cases hbefore : dep ∈ before
        · simp [hcurrent, hbefore]
        · simp [hcurrent, hbefore]
          omega

lemma Remaining.next_iff {indegree : Dict String ℤ} {before : List String}
    (h : Remaining graph indegree before) (a : String) :
    Layers.Next graph.names graph.depsOf before a ↔
      a ∈ graph.names ∧ a ∉ before ∧ degree indegree a = 0 := by
  refine and_congr_right fun _ => and_congr_right fun hnew => ?_
  rw [h.left a hnew, Nat.cast_eq_zero, List.countP_eq_zero]
  simp

/-- Some of the tasks that are ready are released: what becomes ready is what comes next then and
did not before, each once. -/
lemma Remaining.release (hkeys : Dict.NodupKeys graph.dependencies) {indegree : Dict String ℤ}
    {before current : List String} (h : Remaining graph indegree before)
    (hnodup : current.Nodup)
    (hcurrent : ∀ a ∈ current, Layers.Next graph.names graph.depsOf before a) :
    let released := current.flatMap fun id =>
      sorted ((Dict.get? graph.degrees.children id).getD [])
    let next := release released indegree []
    Remaining graph next.1 (before ++ current) ∧ next.2.Nodup ∧
      ∀ a, a ∈ next.2 ↔ Layers.Next graph.names graph.depsOf (before ++ current) a ∧
        ¬ Layers.Next graph.names graph.depsOf before a := by
  intro released next
  have hdisjoint : before.Disjoint current := fun a hbefore hmem => (hcurrent a hmem).2.1 hbefore
  have hcount : ∀ a, released.count a = (graph.depsOf a).countP (· ∈ current) :=
    fun a => count_released (degrees_spec hkeys).1 hnodup a
  have hsplit := fun a => countP_split (graph.depsOf a) before current hdisjoint
  have hremaining : Remaining graph next.1 (before ++ current) := by
    refine ⟨fun a ha => ?_, fun a ha => ?_⟩
    · have hnew : a ∉ before := fun hb => ha (List.mem_append_left _ hb)
      rw [release_fst, degree_adjust, h.left a hnew, hcount, hsplit a]
      push_cast
      ring
    · rcases List.mem_append.mp ha with hold | hnew
      · exact fun dep hdep => List.mem_append_left _ (h.down a hold hdep)
      · exact fun dep hdep => List.mem_append_left _ ((hcurrent a hnew).2.2 dep hdep)
  -- a task that is released waits for one of the others, so it is not done yet
  have hreleased : ∀ a, a ∈ released → a ∈ graph.names ∧ a ∉ before ++ current := by
    intro a ha
    have hpos : 0 < (graph.depsOf a).countP (· ∈ current) := by
      rw [← hcount]
      exact List.count_pos_iff.mpr ha
    obtain ⟨dep, hdep, hmem⟩ := List.countP_pos_iff.mp hpos
    have hmem : dep ∈ current := by simpa using hmem
    have hnot : dep ∉ before := fun hb => hdisjoint hb hmem
    refine ⟨graph.mem_names_of_mem_depsOf hdep, fun hdone => ?_⟩
    rcases List.mem_append.mp hdone with hold | hnew
    · exact hnot (h.down a hold hdep)
    · exact hnot ((hcurrent a hnew).2.2 dep hdep)
  have hreach : ∀ a, next.2.count a =
      if 0 < released.count a ∧ degree indegree a = released.count a then 1 else 0 := by
    intro a
    refine (count_release released indegree [] fun ha => ?_).trans ?_
    · have hnew : a ∉ before := fun hb =>
        (hreleased a (List.count_pos_iff.mp ha)).2 (List.mem_append_left _ hb)
      rw [h.left a hnew, hcount, hsplit a]
      omega
    · rw [List.count_nil, Nat.zero_add]
  refine ⟨hremaining, List.nodup_iff_count_le_one.mpr fun a => ?_, fun a => ?_⟩
  · rw [hreach a]
    split
    · exact le_rfl
    · exact Nat.zero_le 1
  · rw [← List.count_pos_iff, hreach a, hremaining.next_iff]
    constructor
    · intro hpos
      obtain ⟨ha, heq⟩ : 0 < released.count a ∧ degree indegree a = released.count a := by
        by_contra hnot
        rw [if_neg hnot] at hpos
        omega
      obtain ⟨htask, hnew⟩ := hreleased a (List.count_pos_iff.mp ha)
      refine ⟨⟨htask, hnew, ?_⟩, fun hnext => ?_⟩
      · rw [release_fst, degree_adjust, heq]
        ring
      · have hzero := ((h.next_iff a).mp hnext).2.2
        omega
    · rintro ⟨⟨htask, hnew, hzero⟩, hnext⟩
      have hold : a ∉ before := fun hb => hnew (List.mem_append_left _ hb)
      rw [release_fst, degree_adjust] at hzero
      have heq : degree indegree a = released.count a := by omega
      have ha : 0 < released.count a := by
        refine Nat.pos_of_ne_zero fun hnone => ?_
        rw [hnone] at heq
        exact hnext ((h.next_iff a).mpr ⟨htask, hold, heq⟩)
      rw [if_pos ⟨ha, heq⟩]
      exact Nat.one_pos

/-- A level is released: what is ready then is what comes next. -/
lemma Remaining.step (hkeys : Dict.NodupKeys graph.dependencies) {indegree : Dict String ℤ}
    {before current : List String} (h : Remaining graph indegree before)
    (hcurrent : Ready graph before current) :
    let released := current.flatMap fun id =>
      sorted ((Dict.get? graph.degrees.children id).getD [])
    let next := RunBatch.release released indegree []
    Remaining graph next.1 (before ++ current) ∧
      Ready graph (before ++ current) (sorted next.2.dedup) := by
  intro released next
  obtain ⟨hremaining, -, hnext⟩ :=
    h.release hkeys hcurrent.nodup fun a ha => (hcurrent.mem a).mp ha
  refine ⟨hremaining, ⟨?_, fun a => ?_⟩⟩
  · exact (List.perm_insertionSort _ _).nodup_iff.mpr (List.nodup_dedup _)
  · rw [sorted, List.mem_insertionSort, List.mem_dedup, hnext a]
    refine and_iff_left_of_imp fun hafter hbefore => ?_
    exact hafter.2.1 (List.mem_append_right _ ((hcurrent.mem a).mpr hbefore))

lemma length_le_names {before : List String} (hnodup : before.Nodup)
    (hsub : before ⊆ graph.names) : before.length ≤ graph.names.dedup.length :=
  (List.subperm_of_subset hnodup fun _ ha => List.mem_dedup.mpr (hsub ha)).length_le

lemma layered_levelsFrom (hkeys : Dict.NodupKeys graph.dependencies) (fuel : ℕ)
    {indegree : Dict String ℤ} {before current : List String} (h : Remaining graph indegree before)
    (hcurrent : Ready graph before current) (hbefore : before.Nodup)
    (hsub : before ⊆ graph.names)
    (hfuel : graph.names.dedup.length + 1 ≤ before.length + fuel) :
    Layers.Layered graph.names graph.depsOf before
        (levelsFrom graph.degrees.children fuel indegree current) ∧
      ∀ more, levelsFrom graph.degrees.children (fuel + more) indegree current =
        levelsFrom graph.degrees.children fuel indegree current := by
  induction fuel generalizing indegree before current with
  | zero =>
      have hlength := length_le_names hbefore hsub
      omega
  | succ fuel ih =>
      cases current with
      | nil =>
          refine ⟨fun a ha => absurd ((hcurrent.mem a).mpr ha) List.not_mem_nil, fun more => ?_⟩
          rw [Nat.add_right_comm]
          rfl
      | cons node rest =>
          rw [levelsFrom]
          obtain ⟨hremaining, hready⟩ := h.step hkeys hcurrent
          have hrest := ih hremaining hready ?_ ?_ ?_
          · refine ⟨⟨hcurrent.nodup, hcurrent.mem, hrest.1⟩, fun more => ?_⟩
            rw [Nat.add_right_comm, levelsFrom]
            exact congrArg _ (hrest.2 more)
          · refine hbefore.append hcurrent.nodup fun a ha hmem => ?_
            exact ((hcurrent.mem a).mp hmem).2.1 ha
          · intro a ha
            rcases List.mem_append.mp ha with hold | hnew
            · exact hsub hold
            · exact ((hcurrent.mem a).mp hnew).1
          · rw [List.length_append, List.length_cons]
            omega

lemma remaining_start (hkeys : Dict.NodupKeys graph.dependencies) :
    Remaining graph graph.degrees.indegree [] ∧
      Ready graph [] (sorted ((graph.degrees.indegree.filter fun kv => kv.2 = 0).map Prod.fst)) ∧
      graph.degrees.indegree.length = graph.names.dedup.length := by
  obtain ⟨hcounts, hkeyed⟩ := degrees_spec hkeys
  have hremaining : Remaining graph graph.degrees.indegree [] := by
    refine ⟨fun a _ => ?_, fun a ha => absurd ha List.not_mem_nil⟩
    rw [hcounts.degree a]
    simp
  refine ⟨hremaining, ⟨?_, fun a => ?_⟩, ?_⟩
  · refine (List.perm_insertionSort _ _).nodup_iff.mpr ?_
    exact hkeyed.nodup.sublist (List.filter_sublist.map Prod.fst)
  · rw [sorted, List.mem_insertionSort, hremaining.next_iff, ← hkeyed.mem]
    constructor
    · intro ha
      obtain ⟨⟨key, n⟩, hentry, rfl⟩ := List.mem_map.mp ha
      obtain ⟨hmem, hzero⟩ := List.mem_filter.mp hentry
      refine ⟨List.mem_map.mpr ⟨_, hmem, rfl⟩, List.not_mem_nil, ?_⟩
      rw [degree, Dict.get?_of_mem hkeyed.nodup hmem]
      simpa using hzero
    · rintro ⟨hkey, -, hzero⟩
      obtain ⟨⟨key, n⟩, hentry, rfl⟩ := List.mem_map.mp hkey
      rw [degree, Dict.get?_of_mem hkeyed.nodup hentry, Option.getD_some] at hzero
      exact List.mem_map.mpr ⟨_, List.mem_filter.mpr ⟨hentry, by simpa using hzero⟩, rfl⟩
  · have hperm : (Dict.keys graph.degrees.indegree).Perm graph.names.dedup :=
      (List.perm_ext_iff_of_nodup hkeyed.nodup (List.nodup_dedup _)).mpr fun a => by
        rw [hkeyed.mem, List.mem_dedup]
    rw [← hperm.length_eq, Dict.keys, List.length_map]

/-- The levels of a graph are the layers of its names. -/
theorem layered_names (hkeys : Dict.NodupKeys graph.dependencies) :
    Layers.Layered graph.names graph.depsOf [] graph.levels := by
  obtain ⟨hremaining, hready, hlength⟩ := remaining_start hkeys
  refine (layered_levelsFrom hkeys _ hremaining hready List.nodup_nil (List.nil_subset _) ?_).1
  rw [List.length_nil, hlength]
  omega

/-- The levels of a closed graph are its layers. -/
theorem layered_levels (hclosed : graph.Closed) :
    Layers.Layered graph.taskIds graph.depsOf [] graph.levels :=
  (layered_names hclosed.nodupKeys).congr hclosed.mem_names

end Levels

end RunBatch

end Samaktha
