import Samaktha.Runtime.SchedulerRuns

/-!
# The budget of a batch

What `schedule` does with the resource allocator, whatever the budget and the batch: no budget is
overdrawn, and each worker's share comes back.
-/

namespace Samaktha

namespace Scheduler

open RunBatch

variable {cfg : Config} {tasks : List (RuntimeTask × RoutingDecision)}
  {allocator : ResourceAllocator} {s t : State}

/-- The workers behind the semaphore hold what is missing from the budgets, and the budgets were
enough for them. -/
structure Budgeted (cfg : Config) (allocator : ResourceAllocator) (s : State) : Prop where
  held : s.allocator = allocator.less (heldCount s.workers)
  parallel : (heldCount s.workers : ℤ) ≤ max cfg.maxParallelism 1
  covered : 0 < heldCount s.workers → allocator.Covers (heldCount s.workers)
  finished : s.returned.isSome = true → s.workers = []

lemma ResourceAllocator.allocate_eq_some {n : ℕ} {left : ResourceAllocator}
    (h : (allocator.less n).allocate = some left) :
    left = allocator.less (n + 1) ∧ allocator.Covers (n + 1) := by
  have hcovers : allocator.Covers (n + 1) := by
    unfold ResourceAllocator.allocate ResourceAllocator.less at h
    dsimp only at h
    split at h
    · cases h
    · rename_i hnot
      simp only [not_or, not_lt] at hnot
      exact ⟨by omega, by omega, by omega, by omega⟩
  rw [ResourceAllocator.allocate_less hcovers] at h
  exact ⟨(Option.some.inj h).symm, hcovers⟩

lemma heldCount_eq_zero {workers : List Worker}
    (h : ∀ worker ∈ workers, worker.phase.held = false) :
    heldCount workers = 0 :=
  List.countP_eq_zero.mpr fun worker hworker => by simp [h worker hworker]

lemma Budgeted.goOn (h : Budgeted cfg allocator s) {i : ℕ} {worker : Worker}
    (hi : s.workers[i]? = some worker) (hheld : worker.phase.held = true) (phase : Phase) :
    Budgeted cfg allocator (s.goOn i worker phase) := by
  have hcount := heldCount_set hi { worker with phase := phase }
  have hopen : s.returned.isSome = true → (s.goOn i worker phase).workers = [] := by
    intro hreturned
    rw [h.finished hreturned] at hi
    cases hi
  rw [if_pos hheld] at hcount
  dsimp only at hcount
  unfold State.goOn at hopen ⊢
  have hcovered := h.covered
  have hparallel := h.parallel
  cases hphase : phase.held with
  | true =>
      rw [hphase, if_pos rfl] at hcount
      have hsame := Nat.add_right_cancel hcount
      refine ⟨?_, hsame ▸ h.parallel, fun hpos => ?_, hopen⟩
      · rw [if_pos rfl]
        exact hsame ▸ h.held
      · exact hsame ▸ hcovered (hsame ▸ hpos)
  | false =>
      rw [hphase, if_neg Bool.false_ne_true] at hcount
      refine ⟨?_, by dsimp only; omega, fun hpos => ?_, hopen⟩
      · have hless : heldCount s.workers = _ + 1 := hcount.symm
        rw [if_neg Bool.false_ne_true, h.held, hless]
        exact ResourceAllocator.release_less allocator _
      · obtain ⟨hcpu, hmemory, htoken, hinternet⟩ := hcovered (by omega)
        dsimp only at hpos ⊢
        exact ⟨by omega, by omega, by omega, hinternet⟩

lemma Budgeted.step (h : Budgeted cfg allocator s) {move : Move}
    (hstep : step cfg s move = some t) : Budgeted cfg allocator t := by
  cases steps_of_step cfg hstep with
  | returned hopen hidle hlevels => exact ⟨h.held, h.parallel, h.covered, fun _ => hidle⟩
  | entered hopen hidle hlevels =>
      have hold : heldCount s.workers = 0 := by rw [hidle]; rfl
      have hnew : ∀ entries : List (RuntimeTask × RoutingDecision),
          heldCount (entries.map (enroll cfg)) = 0 := by
        intro entries
        refine heldCount_eq_zero fun worker hworker => ?_
        obtain ⟨entry, -, rfl⟩ := List.mem_map.mp hworker
        unfold enroll
        split
        · rfl
        · dsimp only
          split <;> rfl
      refine ⟨?_, ?_, ?_, fun hreturned => absurd hopen ?_⟩
      · rw [hnew, ← hold]
        exact h.held
      · rw [hnew, ← hold]
        exact h.parallel
      · rw [hnew]
        exact fun hpos => absurd hpos (lt_irrefl 0)
      · exact Option.isSome_iff_ne_none.mp hreturned
  | @refused i worker hi hphase hfree hnone =>
      have hcount := heldCount_set hi { worker with
        phase := .done (.ok (verdict worker.task.taskId .failed "budget exhausted")) }
      simp only [hphase, Phase.held, Bool.false_eq_true, if_false, Nat.add_zero] at hcount
      refine ⟨?_, ?_, ?_, fun hreturned => ?_⟩
      · rw [hcount]
        exact h.held
      · rw [hcount]
        exact h.parallel
      · rw [hcount]
        exact h.covered
      · rw [h.finished hreturned] at hi
        cases hi
  | @acquired i worker left hi hphase hfree hsome =>
      have hcount := heldCount_set hi { worker with phase := .ready [] }
      simp only [hphase, Phase.held, Bool.false_eq_true, if_false, if_true, Nat.add_zero] at hcount
      rw [h.held] at hsome
      obtain ⟨hleft, hcovers⟩ := ResourceAllocator.allocate_eq_some hsome
      refine ⟨?_, ?_, fun _ => ?_, fun hreturned => ?_⟩
      · rw [hcount]
        exact hleft
      · rw [hcount]
        push_cast
        omega
      · rw [hcount]
        exact_mod_cast hcovers
      · rw [h.finished hreturned] at hi
        cases hi
  | cancelled hi hphase hcancelled => exact h.goOn hi (by rw [hphase]; rfl) _
  | incomparable hi hphase hcancelled herror => exact h.goOn hi (by rw [hphase]; rfl) _
  | called hi hphase hcancelled hnone =>
      obtain ⟨hheld, hparallel, hcovered, hfinished⟩ := h.goOn hi (by rw [hphase]; rfl) _
      exact ⟨hheld, hparallel, hcovered, hfinished⟩
  | answered hi hphase => exact h.goOn hi (by rw [hphase]; rfl) _
  | @gathered items hne hitems =>
      have hdone : heldCount s.workers = 0 := by
        clear hne h hstep
        generalize s.workers = workers at hitems
        induction workers generalizing items with
        | nil => rfl
        | cons worker rest ih =>
            simp only [List.mapM_cons, Option.bind_eq_bind, Option.bind_eq_some_iff,
              Option.pure_def, Option.map_eq_some_iff] at hitems
            obtain ⟨-, ⟨ended, hended, -⟩, others, hothers, -⟩ := hitems
            have hphase := Phase.item?_eq_some.mp hended
            unfold heldCount
            rw [List.countP_cons_of_neg (by rw [hphase]; exact Bool.false_ne_true)]
            exact ih hothers
      refine ⟨?_, ?_, ?_, fun _ => rfl⟩
      · rw [h.held, hdone]
        rfl
      · exact le_max_of_le_right Int.one_nonneg
      · exact fun hpos => absurd hpos (lt_irrefl 0)

/-- In every run the parallel workers stay within the limit and within the budgets, and when the
call has returned the budgets are what they were. -/
theorem budget_run (hbegin : begin tasks allocator = some s) {moves : List Move}
    (hrun : (machine cfg).run s moves = some t) :
    Budgeted cfg allocator t ∧ (t.returned.isSome = true → t.allocator = allocator) := by
  have hstart : Budgeted cfg allocator s := by
    unfold begin at hbegin
    split at hbegin
    · obtain rfl := Option.some.inj hbegin
      refine ⟨?_, le_max_of_le_right Int.one_nonneg, fun hpos => absurd hpos (lt_irrefl 0),
        fun _ => rfl⟩
      simp [ResourceAllocator.less, heldCount]
    · cases hbegin
  have hend := (machine cfg).run_invariant (fun _ _ _ h hstep => h.step hstep) hstart hrun
  refine ⟨hend, fun hreturned => ?_⟩
  rw [hend.held, hend.finished hreturned]
  simp [ResourceAllocator.less, heldCount]

/-- What a run comes to: the workers behind the semaphore, the budgets, and whether the call has
returned. -/
def budgetsOf (moves : List Move) : Option (ℕ × ResourceAllocator × Bool) :=
  ((begin (draftBatch none) {}).bind fun s => (machine draftConfig).run s moves).map fun t =>
    (heldCount t.workers, t.allocator, t.returned.isSome)

/-- A worker holds a budget, and has given it back when the call has returned. -/
theorem budget_run_sample : ∃ s t u, begin (draftBatch none) {} = some s ∧
    (machine draftConfig).run s [.advance, .acquire] = some t ∧
    heldCount t.workers = 1 ∧ t.allocator.cpuBudget = 99 ∧ Budgeted draftConfig {} t ∧
    (machine draftConfig).run s draftMoves = some u ∧ u.allocator = {} := by
  have hheld : budgetsOf [.advance, .acquire] =
      some (1, { cpuBudget := 99, memoryBudget := 99, tokenBudget := 99 }, false) := by
    decide +kernel
  have hended : (budgetsOf draftMoves).map (fun found => found.2.2) = some true := by
    decide +kernel
  obtain ⟨t, ht, heq⟩ := Option.map_eq_some_iff.mp hheld
  obtain ⟨s, hs, hst⟩ := Option.bind_eq_some_iff.mp ht
  obtain ⟨found, hfound, hreturned⟩ := Option.map_eq_some_iff.mp hended
  obtain ⟨u, hu, rfl⟩ := Option.map_eq_some_iff.mp hfound
  obtain ⟨s', hs', hsu⟩ := Option.bind_eq_some_iff.mp hu
  obtain rfl := Option.some.inj (hs.symm.trans hs')
  exact ⟨s, t, u, hs, hst, (Prod.mk.inj heq).1, by rw [(Prod.mk.inj (Prod.mk.inj heq).2).1],
    (budget_run hs hst).1, hsu, (budget_run hs hsu).2 hreturned⟩

end Scheduler

end Samaktha
