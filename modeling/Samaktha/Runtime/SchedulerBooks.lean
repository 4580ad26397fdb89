import Samaktha.Runtime.Scheduler

/-!
# The scheduler's books

What the books of a batch say about a task: nothing (`Blank`), or its result, with the task in
the one of the three sets that its status names (`Filed`).  Sorting a level files the tasks that
are skipped and leaves those that are run (`sorted_triage`); gathering a level files a result for
each of its workers (`filed_foldl`).
-/

namespace Samaktha

namespace Scheduler

open RunBatch (Books Graph taskMap triage verdict)

/-- The books have nothing about a task. -/
structure Blank (books : Books) (id : String) : Prop where
  results : Dict.get? books.results id = none
  completed : id ∉ books.completed
  cancelled : id ∉ books.cancelled
  failed : id ∉ books.failed

/-- The books have a task's result. -/
structure Filed (books : Books) (id : String) (result : RuntimeResult) : Prop where
  results : Dict.get? books.results id = some result
  ownId : result.taskId = id
  completed : id ∈ books.completed ↔ result.status = .completed
  cancelled : id ∈ books.cancelled ↔ result.status = .cancelled
  failed : id ∈ books.failed ↔ result.status ≠ .completed ∧ result.status ≠ .cancelled

/-- The books say the same about a task. -/
structure SameAt (books books' : Books) (id : String) : Prop where
  results : Dict.get? books'.results id = Dict.get? books.results id
  completed : id ∈ books'.completed ↔ id ∈ books.completed
  cancelled : id ∈ books'.cancelled ↔ id ∈ books.cancelled
  failed : id ∈ books'.failed ↔ id ∈ books.failed

section Books

variable {books books' books'' : Books} {id : String} {result : RuntimeResult}

lemma SameAt.rfl : SameAt books books id := ⟨Eq.refl _, Iff.rfl, Iff.rfl, Iff.rfl⟩

lemma SameAt.trans (h : SameAt books books' id) (h' : SameAt books' books'' id) :
    SameAt books books'' id :=
  ⟨h'.results.trans h.results, h'.completed.trans h.completed, h'.cancelled.trans h.cancelled,
    h'.failed.trans h.failed⟩

lemma Blank.congr (h : Blank books id) (hsame : SameAt books books' id) : Blank books' id :=
  ⟨hsame.results.trans h.results, mt hsame.completed.mp h.completed,
    mt hsame.cancelled.mp h.cancelled, mt hsame.failed.mp h.failed⟩

lemma Filed.congr (h : Filed books id result) (hsame : SameAt books books' id) :
    Filed books' id result :=
  ⟨hsame.results.trans h.results, h.ownId, hsame.completed.trans h.completed,
    hsame.cancelled.trans h.cancelled, hsame.failed.trans h.failed⟩

lemma Filed.not_blank (h : Filed books id result) : ¬ Blank books id := by
  intro hblank
  have hnone := hblank.results
  rw [h.results] at hnone
  cases hnone

lemma Filed.one (h : Filed books id result) :
    (id ∈ books.completed ∧ id ∉ books.cancelled ∧ id ∉ books.failed) ∨
    (id ∉ books.completed ∧ id ∈ books.cancelled ∧ id ∉ books.failed) ∨
    (id ∉ books.completed ∧ id ∉ books.cancelled ∧ id ∈ books.failed) := by
  rw [h.completed, h.cancelled, h.failed]
  by_cases hcompleted : result.status = .completed
  · exact .inl ⟨hcompleted, by simp [hcompleted], by simp [hcompleted]⟩
  · by_cases hcancelled : result.status = .cancelled
    · exact .inr (.inl ⟨hcompleted, hcancelled, by simp [hcancelled]⟩)
    · exact .inr (.inr ⟨hcompleted, hcancelled, hcompleted, hcancelled⟩)

lemma sameAt_record (books : Books) {item : RuntimeResult} (hne : item.taskId ≠ id) :
    SameAt books (books.record item) id := by
  have hinsert : ∀ ids : List String, id ∈ ids.insert item.taskId ↔ id ∈ ids := by
    intro ids
    rw [List.mem_insert_iff]
    exact or_iff_right (Ne.symm hne)
  unfold Books.record
  dsimp only
  split
  · exact ⟨Dict.get?_set_of_ne hne _ _, hinsert _, Iff.rfl, Iff.rfl⟩
  · exact ⟨Dict.get?_set_of_ne hne _ _, Iff.rfl, hinsert _, Iff.rfl⟩
  · exact ⟨Dict.get?_set_of_ne hne _ _, Iff.rfl, Iff.rfl, hinsert _⟩

lemma filed_record {item : RuntimeResult} (h : Blank books item.taskId) :
    Filed (books.record item) item.taskId item := by
  have hself : ∀ ids : List String, item.taskId ∈ ids.insert item.taskId :=
    fun ids => List.mem_insert_self
  obtain ⟨-, hcompleted, hcancelled, hfailed⟩ := h
  unfold Books.record
  dsimp only
  split
  · rename_i hstatus
    exact ⟨Dict.get?_set_self _ _ _, rfl, by simp [hstatus, hself], by simp [hstatus, hcancelled],
      by simp [hstatus, hfailed]⟩
  · rename_i hstatus
    exact ⟨Dict.get?_set_self _ _ _, rfl, by simp [hstatus, hcompleted], by simp [hstatus, hself],
      by simp [hstatus, hfailed]⟩
  · rename_i hne hne'
    exact ⟨Dict.get?_set_self _ _ _, rfl, iff_of_false hcompleted hne,
      iff_of_false hcancelled hne', iff_of_true (hself _) ⟨hne, hne'⟩⟩

lemma filed_foldl {items : List RuntimeResult} (hnodup : (items.map RuntimeResult.taskId).Nodup)
    (hblank : ∀ item ∈ items, Blank books item.taskId) :
    (∀ item ∈ items, Filed (items.foldl Books.record books) item.taskId item) ∧
      ∀ id, id ∉ items.map RuntimeResult.taskId →
        SameAt books (items.foldl Books.record books) id := by
  induction items generalizing books with
  | nil => exact ⟨fun item hitem => (by cases hitem), fun id _ => .rfl⟩
  | cons first rest ih =>
      rw [List.map_cons, List.nodup_cons] at hnodup
      obtain ⟨hnew, hrest⟩ := hnodup
      have hother : ∀ item ∈ rest, first.taskId ≠ item.taskId := by
        intro item hitem heq
        exact hnew (heq ▸ List.mem_map_of_mem hitem)
      obtain ⟨hfiled, hsame⟩ := ih hrest fun item hitem =>
        (hblank item (List.mem_cons_of_mem _ hitem)).congr (sameAt_record books (hother item hitem))
      rw [List.foldl_cons]
      refine ⟨fun item hitem => ?_, fun id hid => ?_⟩
      · rcases List.mem_cons.mp hitem with rfl | hitem
        · exact (filed_record (hblank item List.mem_cons_self)).congr (hsame _ hnew)
        · exact hfiled item hitem
      · rw [List.map_cons, List.mem_cons, not_or] at hid
        exact (sameAt_record books (Ne.symm hid.1)).trans (hsame id hid.2)

end Books

/-! ## Sorting a level -/

/-- What sorting a level does with a task whose dependencies are filed. -/
inductive Sorted (books books' : Books) (ready deps : List String) (id : String) : Prop
  | failed (hfailed : ∃ dep ∈ deps, dep ∈ books.failed)
      (hfiled : Filed books' id (verdict id .failed "dependency failed")) (hskipped : id ∉ ready)
  | cancelled (hnone : ∀ dep ∈ deps, dep ∉ books.failed)
      (hcancelled : ∃ dep ∈ deps, dep ∈ books.cancelled)
      (hfiled : Filed books' id (verdict id .cancelled "dependency cancelled"))
      (hskipped : id ∉ ready)
  | run (hcompleted : ∀ dep ∈ deps, dep ∈ books.completed) (hblank : Blank books' id)
      (hready : id ∈ ready)

lemma Sorted.congr {books books' books'' : Books} {ready ready' deps : List String} {id : String}
    (h : Sorted books' books'' ready deps id) (hsame : ∀ dep ∈ deps, SameAt books books' dep)
    (hready : id ∈ ready' ↔ id ∈ ready) : Sorted books books'' ready' deps id := by
  cases h with
  | failed hfailed hfiled hskipped =>
      obtain ⟨dep, hdep, hmem⟩ := hfailed
      exact .failed ⟨dep, hdep, (hsame dep hdep).failed.mp hmem⟩ hfiled (mt hready.mp hskipped)
  | cancelled hnone hcancelled hfiled hskipped =>
      obtain ⟨dep, hdep, hmem⟩ := hcancelled
      refine .cancelled (fun dep hdep => mt (hsame dep hdep).failed.mpr (hnone dep hdep))
        ⟨dep, hdep, (hsame dep hdep).cancelled.mp hmem⟩ hfiled (mt hready.mp hskipped)
  | run hcompleted hblank hmem =>
      exact .run (fun dep hdep => (hsame dep hdep).completed.mp (hcompleted dep hdep)) hblank
        (hready.mpr hmem)

/-- The tasks of a level that are run, by id. -/
def idsOf (entries : List (RuntimeTask × RoutingDecision)) : List String :=
  entries.map fun entry => entry.1.taskId

/-- Sorting a level whose tasks are new, and whose tasks' dependencies are filed and outside of
it. -/
lemma sorted_triage {map : Dict String (RuntimeTask × RoutingDecision)} {graph : Graph}
    {level : List String} {books : Books} (hnodup : level.Nodup)
    (hmap : ∀ id ∈ level, ∃ entry, Dict.get? map id = some entry ∧ entry.1.taskId = id)
    (hgraph : ∀ id ∈ level, (Dict.get? graph.dependencies id).isSome)
    (hblank : ∀ id ∈ level, Blank books id)
    (hdeps : ∀ id ∈ level, ∀ dep ∈ graph.depsOf id,
      dep ∉ level ∧ ∃ result, Filed books dep result) :
    (∀ id, id ∉ level → SameAt books (triage map graph level books).1 id) ∧
    (∀ id ∈ level, Sorted books (triage map graph level books).1
      (idsOf (triage map graph level books).2) (graph.depsOf id) id) ∧
    (idsOf (triage map graph level books).2).Sublist level := by
  induction level generalizing books with
  | nil => exact ⟨fun id _ => .rfl, fun id hid => (by cases hid), List.Sublist.slnil⟩
  | cons id rest ih =>
      obtain ⟨hnew, hrest⟩ := List.nodup_cons.mp hnodup
      obtain ⟨entry, hentry, hid⟩ := hmap id List.mem_cons_self
      have hblankId := hblank id List.mem_cons_self
      -- the rest of the level is sorted with books that say the same about all but `id`
      have hlater : ∀ books', (∀ other, id ≠ other → SameAt books books' other) →
          (∀ other, other ∉ rest → SameAt books' (triage map graph rest books').1 other) ∧
          (∀ other ∈ rest, Sorted books (triage map graph rest books').1
            (idsOf (triage map graph rest books').2) (graph.depsOf other) other) ∧
          (idsOf (triage map graph rest books').2).Sublist rest := by
        intro books' hsame
        have hne : ∀ other ∈ rest, id ≠ other := fun other hother heq => hnew (heq ▸ hother)
        have hdepsame : ∀ other ∈ rest, ∀ dep ∈ graph.depsOf other, SameAt books books' dep := by
          intro other hother dep hdep
          refine hsame dep fun heq => ?_
          have hout := (hdeps other (List.mem_cons_of_mem _ hother) dep hdep).1
          exact hout (heq ▸ List.mem_cons_self)
        obtain ⟨hother, hsorted, hsub⟩ := @ih books' hrest
          (fun other h => hmap other (List.mem_cons_of_mem _ h))
          (fun other h => hgraph other (List.mem_cons_of_mem _ h))
          (fun other h => (hblank other (List.mem_cons_of_mem _ h)).congr
            (hsame other (hne other h)))
          (fun other h dep hdep => by
            obtain ⟨hout, result, hfiled⟩ := hdeps other (List.mem_cons_of_mem _ h) dep hdep
            exact ⟨fun hmem => hout (List.mem_cons_of_mem _ hmem), result,
              hfiled.congr (hdepsame other h dep hdep)⟩)
        exact ⟨hother, fun other h => (hsorted other h).congr (hdepsame other h) Iff.rfl, hsub⟩
      have hdepsOf : (Dict.get? graph.dependencies id).getD entry.1.dependencies =
          graph.depsOf id := by
        obtain ⟨deps, hget⟩ := Option.isSome_iff_exists.mp (hgraph id List.mem_cons_self)
        rw [Graph.depsOf, hget]
        rfl
      -- a task that is skipped
      have hskip : ∀ item : RuntimeResult, item.taskId = id →
          (id ∉ idsOf (triage map graph rest (books.record item)).2 →
            Filed (triage map graph rest (books.record item)).1 id item →
            Sorted books (triage map graph rest (books.record item)).1
              (idsOf (triage map graph rest (books.record item)).2) (graph.depsOf id) id) →
          (∀ other, other ∉ id :: rest →
            SameAt books (triage map graph rest (books.record item)).1 other) ∧
          (∀ other ∈ id :: rest, Sorted books (triage map graph rest (books.record item)).1
            (idsOf (triage map graph rest (books.record item)).2) (graph.depsOf other) other) ∧
          (idsOf (triage map graph rest (books.record item)).2).Sublist (id :: rest) := by
        intro item hitem hsorted
        have hsame : ∀ other, id ≠ other → SameAt books (books.record item) other :=
          fun other hne => sameAt_record books (hitem ▸ hne)
        obtain ⟨hsameLater, hsortedLater, hsub⟩ := hlater _ hsame
        refine ⟨fun other hout => ?_, fun other hother => ?_, hsub.cons id⟩
        · rw [List.mem_cons, not_or] at hout
          exact (hsame other (Ne.symm hout.1)).trans (hsameLater other hout.2)
        · rcases List.mem_cons.mp hother with rfl | hother
          · refine hsorted (fun hmem => hnew (hsub.subset hmem)) ?_
            have hfiled := @filed_record books item (hitem ▸ hblankId)
            rw [hitem] at hfiled
            exact hfiled.congr (hsameLater _ hnew)
          · exact hsortedLater other hother
      rw [triage, hentry]
      dsimp only
      rw [hdepsOf]
      split
      · rename_i hfailed
        refine hskip (verdict id .failed "dependency failed") rfl fun hout hfiled => ?_
        exact .failed (by simpa using hfailed) hfiled hout
      · rename_i hnofailed
        have hnone : ∀ dep ∈ graph.depsOf id, dep ∉ books.failed := by simpa using hnofailed
        split
        · rename_i hcancelled
          refine hskip (verdict id .cancelled "dependency cancelled") rfl fun hout hfiled => ?_
          exact .cancelled hnone (by simpa using hcancelled) hfiled hout
        · rename_i hnocancelled
          -- what has neither failed nor been cancelled has completed
          have hcompleted : ∀ dep ∈ graph.depsOf id, dep ∈ books.completed := by
            intro dep hdep
            obtain ⟨-, result, hfiled⟩ := hdeps id List.mem_cons_self dep hdep
            have hnot : dep ∉ books.cancelled := fun hmem => by
              simp only [List.any_eq_true, decide_eq_true_eq, not_exists, not_and] at hnocancelled
              exact hnocancelled dep hdep hmem
            rcases hfiled.one with h | h | h
            · exact h.1
            · exact absurd h.2.1 hnot
            · exact absurd h.2.2 (hnone dep hdep)
          rw [if_neg (by simpa using hcompleted)]
          obtain ⟨hsameLater, hsortedLater, hsub⟩ := hlater books fun other _ => .rfl
          have hids : idsOf (entry :: (triage map graph rest books).2) =
              id :: idsOf (triage map graph rest books).2 := by
            rw [← hid]
            rfl
          refine ⟨fun other hout => ?_, fun other hother => ?_, ?_⟩
          · exact hsameLater other fun hmem => hout (List.mem_cons_of_mem _ hmem)
          · rw [hids]
            rcases List.mem_cons.mp hother with rfl | hother
            · exact .run hcompleted (hblankId.congr (hsameLater _ hnew)) List.mem_cons_self
            · refine (hsortedLater other hother).congr (fun _ _ => .rfl) ?_
              rw [List.mem_cons]
              exact or_iff_right fun heq => hnew (heq ▸ hother)
          · rw [hids]
            exact hsub.cons_cons id

end Scheduler

end Samaktha
