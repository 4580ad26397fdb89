import Samaktha.Coordination.Approvals
import Mathlib.Data.Finset.Card

/-!
# How many executions are inside a pipeline

All executions of one coordinator, with their tasks and the semaphore `_capacity`.  A task waits
(for capacity, or for its first turn), is inside a call of the orchestrator, or is done; the
capacity of a waiter is granted in any order.

`_run_initial` holds a permit while it is inside, `_run_resume` takes none, so the permits bound
the first kind of task only (`Balanced`).  Where no resume is queued or inside, that is enough.
Otherwise nothing but the calls that bring new tasks can keep the bound, whatever the order in which
tasks go inside: `Admitted` is a condition on these calls.
-/

namespace Samaktha

/-- What a task of the coordinator runs. -/
inductive Job where
  /-- `_run_initial` -/
  | initial
  /-- `_run_resume` -/
  | resume (decision : Decision)
  deriving Repr, DecidableEq, Inhabited

/-- How far a task is. -/
inductive Stage where
  | waiting
  | inside
  | done
  deriving Repr, DecidableEq, Inhabited

/-- A task, and the execution it belongs to. -/
structure PoolTask where
  owner : ℕ
  job : Job
  stage : Stage := .waiting
  deriving Repr, DecidableEq, Inhabited

/-- The executions of a coordinator in the order of their registration. -/
structure Pool (κ : Type) where
  records : List ActiveExecution
  world : κ
  tasks : List PoolTask := []
  /-- The free permits of `_capacity`. -/
  free : ℕ

/-- The limits a coordinator is built with. -/
structure Limits where
  maxActiveExecutions : ℤ := 32
  maxPendingExecutions : ℤ := 64

/-- `max(1, max_active_executions)`. -/
def Limits.active (limits : Limits) : ℕ := (max 1 limits.maxActiveExecutions).toNat

/-- `max(0, max_pending_executions)`. -/
def Limits.pending (limits : Limits) : ℕ := (max 0 limits.maxPendingExecutions).toNat

/-- A stretch of the coordinator's code on one of its executions or tasks. -/
inductive PoolMove where
  /-- `start_execution` with an id that is not registered. -/
  | start (record : ActiveExecution)
  /-- `recover_pending` -/
  | recover
  /-- A waiting `_run_initial` is granted a permit. -/
  | enter (task : ℕ)
  /-- A `_run_resume` has its first turn. -/
  | call (task : ℕ)
  /-- The wait of a task is over. -/
  | finish (task : ℕ) (outcome : Outcome)
  /-- A task is cancelled before its first turn. -/
  | drop (task : ℕ)
  | checkpoint (task : ℕ) (details : Coordinator.Details)
  | submit (execution : ℕ) (principalId approvalId decision : String)
  | cancel (execution : ℕ)
  | cancelTail (execution : ℕ)
  | timeout (execution : ℕ) (error : String)
  | timeoutTail (execution : ℕ) (error : String)
  deriving Inhabited

namespace Pool

variable {κ : Type} (coordinator : Coordinator κ) (limits : Limits)

/-- A coordinator with the executions it has restored. -/
def new (records : List ActiveExecution) (world : κ) : Pool κ where
  records := records
  world := world
  free := limits.active

/-- The pool after a stretch of code on one record. -/
def update (s : Pool κ) (execution : ℕ) (ran : Ran κ) : Pool κ :=
  { s with records := s.records.set execution ran.record, world := ran.world }

/-- Moves a task to a stage. -/
def setStage (s : Pool κ) (task : ℕ) (stage : Stage) : Pool κ :=
  { s with tasks := s.tasks.modify task fun t => { t with stage := stage } }

/-- The task, with the record of its execution, where it is at a stage. -/
def taskAt (s : Pool κ) (task : ℕ) (stage : Stage) : Option (PoolTask × ActiveExecution) :=
  match s.tasks[task]? with
  | some t => if t.stage = stage then s.records[t.owner]?.map fun record => (t, record) else none
  | none => none

/-- The number of executions that have not ended. -/
def nonterminal (s : Pool κ) : ℕ := s.records.countP fun record => !record.state.terminal

def start (s : Pool κ) (record : ActiveExecution) : Pool κ :=
  if s.nonterminal ≥ limits.active + limits.pending then s
  else
    let ran := (coordinator.saveCheckpoint record s.world true).andThen
      fun record world => coordinator.transition record world .planning
    { s with
      records := s.records ++ [ran.record]
      world := ran.world
      tasks :=
        if ran.raised.isNone then s.tasks ++ [{ owner := s.records.length, job := .initial }]
        else s.tasks }

/-- The executions that `recover_pending` resumes. -/
def recovering (s : Pool κ) : List ℕ :=
  (List.range s.records.length).filter fun i =>
    (s.records[i]?.map fun record => decide (record.state.status = .recovering)).getD false

def recover (s : Pool κ) : Pool κ :=
  { s with tasks := s.tasks ++ s.recovering.map fun i => { owner := i, job := .initial } }

/-- A permit is granted to a waiting `_run_initial`. -/
def enter (s : Pool κ) (task : ℕ) (t : PoolTask) (record : ActiveExecution) : Pool κ :=
  if record.cancelEvent || record.state.terminal then s.setStage task .done
  else
    let ran := coordinator.enterInitial record s.world
    match ran.raised with
    | none => { (s.update t.owner ran).setStage task .inside with free := s.free - 1 }
    | some exception =>
        (s.update t.owner (coordinator.andSave
          (coordinator.onException exception ran.record ran.world))).setStage task .done

/-- The wait of a task that is inside is over. -/
def finish (s : Pool κ) (task : ℕ) (t : PoolTask) (record : ActiveExecution) (outcome : Outcome) :
    Pool κ :=
  match t.job with
  | .initial =>
      { (s.update t.owner
          (coordinator.finishInitial record s.world outcome)).setStage task .done with
        free := s.free + 1 }
  | .resume decision =>
      (s.update t.owner (coordinator.finishResume record s.world decision outcome)).setStage task
        .done

def submit (s : Pool κ) (execution : ℕ) (record : ActiveExecution)
    (principalId approvalId decision : String) : Pool κ :=
  match Coordinator.checkSubmission record principalId approvalId decision with
  | .error _ => s
  | .ok decision =>
      let ran := coordinator.acceptSubmission record s.world approvalId decision
      let updated := s.update execution ran
      if ran.raised.isNone then
        { updated with tasks := s.tasks ++ [{ owner := execution, job := .resume decision }] }
      else updated

def step (s : Pool κ) : PoolMove → Option (Pool κ)
  | .start record =>
      if record.state.status = .created then some (s.start coordinator limits record) else none
  | .recover => some s.recover
  | .enter task =>
      match s.taskAt task .waiting with
      | some (t, record) =>
          if t.job = .initial ∧ 0 < s.free then some (s.enter coordinator task t record) else none
      | none => none
  | .call task =>
      match s.taskAt task .waiting with
      | some (t, _) => if t.job ≠ .initial then some (s.setStage task .inside) else none
      | none => none
  | .finish task outcome =>
      match s.taskAt task .inside, s.taskAt task .waiting, outcome with
      | some (t, record), _, outcome => some (s.finish coordinator task t record outcome)
      -- cancelled while it waits for capacity
      | none, some (t, record), .cancelled =>
          if t.job = .initial then
            some ((s.update t.owner
              (coordinator.finishInitial record s.world .cancelled)).setStage task .done)
          else none
      | none, _, _ => none
  | .drop task => (s.taskAt task .waiting).map fun _ => s.setStage task .done
  | .checkpoint task details =>
      (s.taskAt task .inside).map fun (t, record) =>
        s.update t.owner (coordinator.runtimeCheckpoint record s.world details)
  | .submit execution principalId approvalId decision =>
      s.records[execution]?.map fun record =>
        s.submit coordinator execution record principalId approvalId decision
  | .cancel execution =>
      s.records[execution]?.map fun record =>
        if record.state.terminal then s
        else { s with records := s.records.set execution { record with cancelEvent := true } }
  | .cancelTail execution =>
      s.records[execution]?.bind fun record =>
        if record.cancelEvent then some (s.update execution (coordinator.cancelTail record s.world))
        else none
  | .timeout execution error =>
      s.records[execution]?.map fun record =>
        if record.state.terminal then s
        else s.update execution (coordinator.timeoutHead record s.world error)
  | .timeoutTail execution error =>
      s.records[execution]?.bind fun record =>
        if record.state.status = .timedOut then
          some (s.update execution (coordinator.closeWith record s.world .timedOut error))
        else none

/-- The coordinator with all its executions. -/
def machine : Machine (Pool κ) PoolMove := ⟨step coordinator limits⟩

/-! ## Tasks inside -/

/-- A task is inside a call of the orchestrator. -/
def isInside (t : PoolTask) : Bool := t.stage = .inside

def holdsPermit (t : PoolTask) : Bool := isInside t && t.job = .initial

/-- The executions that are inside a call of `run_pipeline` or `resume_pipeline`. -/
def executionsInside (s : Pool κ) : List ℕ := ((s.tasks.filter isInside).map PoolTask.owner).dedup

/-- The permits and their holders make up the capacity. -/
def Balanced (s : Pool κ) : Prop := s.free + s.tasks.countP holdsPermit = limits.active

/-- The executions with a task that is not done. -/
def unfinished (s : Pool κ) : Finset ℕ :=
  ((s.tasks.filter fun t => t.stage ≠ .done).map PoolTask.owner).toFinset

/-- A resume is queued or inside. -/
def Resuming (s : Pool κ) : Prop := ∃ t ∈ s.tasks, t.job ≠ .initial ∧ t.stage ≠ .done

instance (s : Pool κ) : Decidable s.Resuming :=
  inferInstanceAs (Decidable (∃ t ∈ s.tasks, t.job ≠ .initial ∧ t.stage ≠ .done))

/-- A submission that is accepted finds, with its own execution, no more executions unfinished than
the capacity; and so does a call that begins or recovers executions beside a resume. -/
def Admitted (s : Pool κ) : PoolMove → Prop
  | .start record => s.nonterminal < limits.active + limits.pending →
      ((coordinator.saveCheckpoint record s.world true).andThen
        fun record world => coordinator.transition record world .planning).raised = none →
      s.Resuming → (insert s.records.length s.unfinished).card ≤ limits.active
  | .recover => s.Resuming → (s.unfinished ∪ s.recovering.toFinset).card ≤ limits.active
  | .submit execution principalId approvalId decision => ∀ record allowed,
      s.records[execution]? = some record →
      Coordinator.checkSubmission record principalId approvalId decision = .ok allowed →
      (coordinator.acceptSubmission record s.world approvalId allowed).raised = none →
      (insert execution s.unfinished).card ≤ limits.active
  | _ => True

/-- Beside a resume, the unfinished executions are within the capacity. -/
def Confined (s : Pool κ) : Prop := s.Resuming → s.unfinished.card ≤ limits.active

lemma executionsInside_le (s : Pool κ) :
    s.executionsInside.length ≤ s.tasks.countP isInside := by
  rw [executionsInside, List.countP_eq_length_filter]
  calc ((s.tasks.filter isInside).map PoolTask.owner).dedup.length
      ≤ ((s.tasks.filter isInside).map PoolTask.owner).length := (List.dedup_sublist _).length_le
    _ = (s.tasks.filter isInside).length := List.length_map _

/-! ## One move -/

lemma countP_modify {p : PoolTask → Bool} {f : PoolTask → PoolTask} {tasks : List PoolTask} {j : ℕ}
    {t : PoolTask} (h : tasks[j]? = some t) :
    (tasks.modify j f).countP p + (if p t then 1 else 0) =
      tasks.countP p + (if p (f t) then 1 else 0) := by
  induction tasks generalizing j with
  | nil => cases h
  | cons head rest ih =>
      cases j with
      | zero =>
          obtain rfl : head = t := Option.some.inj h
          simp only [List.modify_zero_cons, List.countP_cons]
          omega
      | succ j =>
          have hrest : rest[j]? = some t := h
          have hcount := ih hrest
          simp only [List.modify_succ_cons, List.countP_cons]
          omega

/-- The number a test contributes to a count. -/
def counted (b : Bool) : ℕ := if b then 1 else 0

/-- What an admitted move does to the tasks and the permits. -/
inductive Effect (s t : Pool κ) : Prop
  | queued (added : List PoolTask) (hadded : ∀ x ∈ added, x.stage = .waiting)
      (htasks : t.tasks = s.tasks ++ added) (hfree : t.free = s.free)
      (hconfined : Confined limits s → Confined limits t)
  | moved (j : ℕ) (task : PoolTask) (stage : Stage) (hget : s.tasks[j]? = some task)
      (hopen : task.stage ≠ .done)
      (htasks : t.tasks = s.tasks.modify j fun x => { x with stage := stage })
      (hfree : t.free + counted (holdsPermit { task with stage := stage }) =
        s.free + counted (holdsPermit task))

lemma Confined.mono {s t : Pool κ} (h : Confined limits s)
    (htasks : ∀ x ∈ t.tasks, x.stage ≠ .done →
      ∃ y ∈ s.tasks, y.stage ≠ .done ∧ y.owner = x.owner ∧ y.job = x.job) :
    Confined limits t := by
  rintro ⟨x, hx, hjob, hopen⟩
  obtain ⟨y, hy, hopenY, -, hsame⟩ := htasks x hx hopen
  refine (Finset.card_le_card fun owner howner => ?_).trans (h ⟨y, hy, hsame ▸ hjob, hopenY⟩)
  simp only [unfinished, List.mem_toFinset, List.mem_map, List.mem_filter, ne_eq,
    decide_eq_true_eq] at howner ⊢
  obtain ⟨x, ⟨hx, hopen⟩, rfl⟩ := howner
  obtain ⟨y, hy, hopenY, hsame, -⟩ := htasks x hx hopen
  exact ⟨y, ⟨hy, hopenY⟩, hsame⟩

lemma effect_refl {s t : Pool κ} (htasks : t.tasks = s.tasks) (hfree : t.free = s.free) :
    Effect limits s t :=
  .queued [] (by simp) (by rw [htasks, List.append_nil]) hfree fun h =>
    h.mono limits fun x hx hopen => ⟨x, htasks ▸ hx, hopen, rfl, rfl⟩

lemma unfinished_subset {s t : Pool κ} {added : List PoolTask}
    (htasks : t.tasks = s.tasks ++ added) :
    t.unfinished ⊆ s.unfinished ∪ (added.map PoolTask.owner).toFinset := by
  intro owner howner
  simp only [unfinished, htasks, List.filter_append, List.map_append, List.toFinset_append,
    Finset.mem_union] at howner ⊢
  refine howner.imp id fun h => ?_
  rw [List.mem_toFinset] at h ⊢
  exact (List.filter_sublist.map _).subset h

lemma Resuming.of_initial {s t : Pool κ} {added : List PoolTask}
    (htasks : t.tasks = s.tasks ++ added) (hadded : ∀ x ∈ added, x.job = .initial)
    (h : t.Resuming) : s.Resuming := by
  obtain ⟨x, hx, hjob, hopen⟩ := h
  rw [htasks, List.mem_append] at hx
  rcases hx with hx | hx
  · exact ⟨x, hx, hjob, hopen⟩
  · exact absurd (hadded x hx) hjob

lemma taskAt_eq_some {s : Pool κ} {j : ℕ} {stage : Stage} {t : PoolTask} {record : ActiveExecution}
    (h : s.taskAt j stage = some (t, record)) : s.tasks[j]? = some t ∧ t.stage = stage := by
  unfold taskAt at h
  split at h
  · rename_i task hget
    split at h
    · rename_i hstage
      obtain ⟨found, -, heq⟩ := Option.map_eq_some_iff.mp h
      obtain ⟨rfl, rfl⟩ := Prod.mk.inj heq
      exact ⟨hget, hstage⟩
    · cases h
  · cases h

lemma effect_done {s t : Pool κ} {j : ℕ} {stage : Stage} {task : PoolTask}
    {record : ActiveExecution} (hat : s.taskAt j stage = some (task, record))
    (hstage : stage ≠ .done)
    (htasks : t.tasks = s.tasks.modify j fun x => { x with stage := .done })
    (hfree : t.free = s.free + counted (holdsPermit task)) : Effect limits s t := by
  obtain ⟨hget, htask⟩ := taskAt_eq_some hat
  refine .moved j task .done hget (htask ▸ hstage) htasks ?_
  rw [hfree]
  rfl

lemma counted_waiting {task : PoolTask} (h : task.stage = .waiting) :
    counted (holdsPermit task) = 0 := by
  simp [counted, holdsPermit, isInside, h]

lemma effect_start {s : Pool κ} {record : ActiveExecution}
    (hadmitted : Admitted coordinator limits s (.start record)) :
    Effect limits s (s.start coordinator limits record) := by
  unfold start
  split
  · exact effect_refl limits rfl rfl
  · rename_i hroom
    dsimp only
    split
    · rename_i hraised
      refine .queued [_] (by simp) rfl rfl fun _ hresuming => ?_
      have hbefore := hresuming.of_initial rfl (by simp)
      refine le_trans (Finset.card_le_card ?_)
        (hadmitted (not_le.mp hroom) (Option.isNone_iff_eq_none.mp hraised) hbefore)
      refine (unfinished_subset rfl).trans ?_
      simp
    · exact effect_refl limits rfl rfl

lemma effect_recover {s : Pool κ} (hadmitted : Admitted coordinator limits s .recover) :
    Effect limits s s.recover := by
  refine .queued _ (fun x hx => ?_) rfl rfl fun _ hresuming => ?_
  · obtain ⟨i, -, rfl⟩ := List.mem_map.mp hx
    rfl
  · have hbefore := hresuming.of_initial rfl fun x hx => by
      obtain ⟨i, -, rfl⟩ := List.mem_map.mp hx
      rfl
    refine le_trans (Finset.card_le_card ?_) (hadmitted hbefore)
    refine (unfinished_subset rfl).trans ?_
    simp [List.map_map, Function.comp_def]

lemma effect_submit {s : Pool κ} {execution : ℕ} {record : ActiveExecution}
    {principalId approvalId decision : String} (hrecord : s.records[execution]? = some record)
    (hadmitted : Admitted coordinator limits s
      (.submit execution principalId approvalId decision)) :
    Effect limits s (s.submit coordinator execution record principalId approvalId decision) := by
  unfold submit
  split
  · exact effect_refl limits rfl rfl
  · rename_i allowed hallowed
    dsimp only
    split
    · rename_i hraised
      refine .queued [_] (by simp) rfl rfl fun _ _ => ?_
      refine le_trans (Finset.card_le_card ?_) (hadmitted record allowed hrecord hallowed
        (Option.isNone_iff_eq_none.mp hraised))
      refine (unfinished_subset rfl).trans ?_
      simp
    · exact effect_refl limits rfl rfl

lemma effect_enter {s : Pool κ} {j : ℕ} {task : PoolTask} {record : ActiveExecution}
    (hat : s.taskAt j .waiting = some (task, record)) (hjob : task.job = .initial)
    (hfree : 0 < s.free) : Effect limits s (s.enter coordinator j task record) := by
  obtain ⟨hget, hstage⟩ := taskAt_eq_some hat
  have hdone : ∀ t : Pool κ, t.tasks = s.tasks.modify j (fun x => { x with stage := .done }) →
      t.free = s.free → Effect limits s t := by
    intro t htasks hsame
    exact effect_done limits hat (by decide) htasks (by rw [hsame, counted_waiting hstage]; rfl)
  unfold enter
  split
  · exact hdone _ rfl rfl
  · dsimp only
    split
    · refine .moved j task .inside hget (by rw [hstage]; decide) rfl ?_
      have hholds : holdsPermit { task with stage := .inside } = true := by
        simp [holdsPermit, isInside, hjob]
      rw [counted_waiting hstage, hholds]
      show s.free - 1 + 1 = s.free + 0
      omega
    · exact hdone _ rfl rfl

lemma effect_finish {s : Pool κ} {j : ℕ} {task : PoolTask} {record : ActiveExecution}
    (hat : s.taskAt j .inside = some (task, record)) (outcome : Outcome) :
    Effect limits s (s.finish coordinator j task record outcome) := by
  obtain ⟨hget, hstage⟩ := taskAt_eq_some hat
  unfold finish
  split
  · rename_i hjob
    refine effect_done limits hat (by decide) rfl ?_
    have hholds : holdsPermit task = true := by simp [holdsPermit, isInside, hjob, hstage]
    rw [hholds]
    rfl
  · rename_i decision hjob
    refine effect_done limits hat (by decide) rfl ?_
    have hholds : holdsPermit task = false := by simp [holdsPermit, hjob]
    rw [hholds]
    rfl

/-- What any admitted move does. -/
lemma effect_of_step {s t : Pool κ} {move : PoolMove}
    (hadmitted : Admitted coordinator limits s move)
    (hstep : s.step coordinator limits move = some t) : Effect limits s t := by
  cases move with
  | start record =>
      simp only [step] at hstep
      split at hstep
      · obtain rfl := Option.some.inj hstep
        exact effect_start coordinator limits hadmitted
      · cases hstep
  | recover =>
      obtain rfl := Option.some.inj hstep
      exact effect_recover coordinator limits hadmitted
  | enter j =>
      simp only [step] at hstep
      split at hstep
      · rename_i task record hat
        split at hstep
        · rename_i hgranted
          obtain rfl := Option.some.inj hstep
          exact effect_enter coordinator limits hat hgranted.1 hgranted.2
        · cases hstep
      · cases hstep
  | call j =>
      simp only [step] at hstep
      split at hstep
      · rename_i task record hat
        split at hstep
        · rename_i hjob
          obtain rfl := Option.some.inj hstep
          obtain ⟨hget, hstage⟩ := taskAt_eq_some hat
          refine .moved j task .inside hget (by rw [hstage]; decide) rfl ?_
          have hholds : holdsPermit { task with stage := .inside } = false := by
            simp [holdsPermit, hjob]
          rw [counted_waiting hstage, hholds]
          rfl
        · cases hstep
      · cases hstep
  | finish j outcome =>
      simp only [step] at hstep
      split at hstep
      · rename_i task record hat
        obtain rfl := Option.some.inj hstep
        exact effect_finish coordinator limits hat _
      · rename_i task record hnone hat
        split at hstep
        · obtain rfl := Option.some.inj hstep
          refine effect_done limits hat (by decide) rfl ?_
          rw [counted_waiting (taskAt_eq_some hat).2]
          rfl
        · cases hstep
      · cases hstep
  | drop j =>
      obtain ⟨⟨task, record⟩, hat, rfl⟩ := Option.map_eq_some_iff.mp hstep
      refine effect_done limits hat (by decide) rfl ?_
      rw [counted_waiting (taskAt_eq_some hat).2]
      rfl
  | checkpoint j details =>
      obtain ⟨⟨task, record⟩, hat, rfl⟩ := Option.map_eq_some_iff.mp hstep
      exact effect_refl limits rfl rfl
  | submit execution principalId approvalId decision =>
      obtain ⟨record, hrecord, rfl⟩ := Option.map_eq_some_iff.mp hstep
      exact effect_submit coordinator limits hrecord hadmitted
  | cancel execution =>
      obtain ⟨record, -, rfl⟩ := Option.map_eq_some_iff.mp hstep
      split <;> exact effect_refl limits rfl rfl
  | cancelTail execution =>
      obtain ⟨record, -, hsome⟩ := Option.bind_eq_some_iff.mp hstep
      split at hsome
      · obtain rfl := Option.some.inj hsome
        exact effect_refl limits rfl rfl
      · cases hsome
  | timeout execution error =>
      obtain ⟨record, -, rfl⟩ := Option.map_eq_some_iff.mp hstep
      split <;> exact effect_refl limits rfl rfl
  | timeoutTail execution error =>
      obtain ⟨record, -, hsome⟩ := Option.bind_eq_some_iff.mp hstep
      split at hsome
      · obtain rfl := Option.some.inj hsome
        exact effect_refl limits rfl rfl
      · cases hsome

/-! ## Runs -/

lemma countP_append_waiting {p : PoolTask → Bool} (hp : ∀ t, t.stage = .waiting → p t = false)
    {tasks added : List PoolTask} (hadded : ∀ x ∈ added, x.stage = .waiting) :
    (tasks ++ added).countP p = tasks.countP p := by
  have hnone : added.countP p = 0 := by
    rw [List.countP_eq_zero]
    intro x hx
    rw [hp x (hadded x hx)]
    simp
  rw [List.countP_append, hnone, Nat.add_zero]

lemma Effect.keeps {s t : Pool κ} (h : Effect limits s t) (hbalanced : Balanced limits s)
    (hconfined : Confined limits s) : Balanced limits t ∧ Confined limits t := by
  unfold Balanced at *
  cases h with
  | queued added hadded htasks hfree hkept =>
      have hholds : ∀ t : PoolTask, t.stage = .waiting → holdsPermit t = false := by
        intro t ht
        simp [holdsPermit, isInside, ht]
      rw [htasks, hfree, countP_append_waiting hholds hadded]
      exact ⟨hbalanced, hkept hconfined⟩
  | moved j task stage hget hopen htasks hfree =>
      have hholds := countP_modify (p := holdsPermit) (f := fun x => { x with stage := stage }) hget
      simp only [counted] at hfree
      refine ⟨by rw [htasks]; omega, hconfined.mono limits fun x hx hopenX => ?_⟩
      rw [htasks] at hx
      obtain ⟨i, hi⟩ := List.mem_iff_getElem?.mp hx
      rw [List.getElem?_modify] at hi
      obtain ⟨y, hy, rfl⟩ := Option.map_eq_some_iff.mp hi
      by_cases hj : j = i
      · subst hj
        obtain rfl := Option.some.inj (hget.symm.trans hy)
        rw [if_pos rfl]
        exact ⟨task, List.mem_of_getElem? hget, hopen, rfl, rfl⟩
      · rw [if_neg hj] at hopenX ⊢
        exact ⟨y, List.mem_of_getElem? hy, hopenX, rfl, rfl⟩

lemma bounded_of_kept {s : Pool κ} (hbalanced : Balanced limits s)
    (hconfined : Confined limits s) : s.executionsInside.length ≤ limits.active := by
  by_cases hresuming : s.Resuming
  · refine le_trans ?_ (hconfined hresuming)
    rw [executionsInside, ← List.card_toFinset]
    refine Finset.card_le_card fun owner howner => ?_
    simp only [unfinished, List.mem_toFinset, List.mem_map, List.mem_filter, ne_eq,
      decide_eq_true_eq] at howner ⊢
    obtain ⟨x, ⟨hx, hinside⟩, hsame⟩ := howner
    refine ⟨x, ⟨hx, fun hdone => ?_⟩, hsame⟩
    simp [isInside, hdone] at hinside
  · have hholds : s.tasks.countP isInside = s.tasks.countP holdsPermit := by
      refine List.countP_congr fun x hx => ?_
      have hjob : isInside x = true → x.job = .initial := fun hinside => by
        by_contra hjob
        refine hresuming ⟨x, hx, hjob, fun hdone => ?_⟩
        simp [isInside, hdone] at hinside
      simp only [holdsPermit, Bool.and_eq_true, decide_eq_true_eq]
      exact ⟨fun h => ⟨h, hjob h⟩, And.left⟩
    have hcount := executionsInside_le s
    unfold Balanced at hbalanced
    omega

/-- Over every run of a coordinator, with any restored executions and any order of moves, whose
calls are admitted: at no moment more executions are inside a pipeline than
`max_active_executions` allows. -/
theorem active_executions_bounded {records : List ActiveExecution} {world : κ}
    {moves : List PoolMove} {s : Pool κ}
    (hadmitted : (machine coordinator limits).Guarded (Admitted coordinator limits)
      (new limits records world) moves)
    (hrun : (machine coordinator limits).run (new limits records world) moves = some s) :
    s.executionsInside.length ≤ limits.active := by
  have hstep : ∀ (s : Pool κ) move t, Balanced limits s ∧ Confined limits s →
      Admitted coordinator limits s move → (machine coordinator limits).step s move = some t →
      Balanced limits t ∧ Confined limits t := by
    rintro s move t ⟨hbalanced, hconfined⟩ hadmitted hstep
    exact (effect_of_step coordinator limits hadmitted hstep).keeps limits hbalanced hconfined
  have hinit : Balanced limits (new limits records world) ∧
      Confined limits (new limits records world) := by
    refine ⟨Nat.add_zero _, ?_⟩
    rintro ⟨x, hx, -⟩
    cases hx
  obtain ⟨hbalanced, hconfined⟩ :=
    (machine coordinator limits).guarded_invariant hstep hinit hadmitted hrun
  exact bounded_of_kept limits hbalanced hconfined

/-! ### A capacity of one -/

/-- One active execution at a time. -/
def oneActive : Limits := { maxActiveExecutions := 1 }

/-- The pool after some moves on a coordinator that has restored nothing. -/
def poolAfter (moves : List PoolMove) : Pool Unit :=
  ((machine storeless oneActive).run (new oneActive [] ()) moves).getD (new oneActive [] ())

/-- The first execution pauses, the second goes inside, the first is allowed and resumes. -/
def resumedBeside : List PoolMove :=
  [.start newRecord, .enter 0, .finish 0 (.returned (pipelineAt .paused)), .start newRecord,
    .enter 1, .submit 0 "local" "a" "allow", .call 2]

/-- Two active executions at a time. -/
def twoActive : Limits := { maxActiveExecutions := 2 }

/-- The pool with two permits behind these moves. -/
def resumedWithin : Pool Unit :=
  ((machine storeless twoActive).run (new twoActive [] ()) resumedBeside).getD (new twoActive [] ())

/-- The resume beside another execution, where two may be active. -/
theorem active_executions_bounded_sample :
    resumedWithin.executionsInside.length ≤ twoActive.active := by
  have hrun : (machine storeless twoActive).run (new twoActive [] ()) resumedBeside =
      some resumedWithin := some_getD (by decide) _
  refine active_executions_bounded storeless twoActive ?_ hrun
  -- the submission is the only call that finds the other execution unfinished
  refine ⟨fun _ _ h => absurd h (by decide), fun s₁ h₁ => ⟨trivial, fun s₂ h₂ => ⟨trivial,
    fun s₃ h₃ => ⟨fun _ _ h => ?_, fun s₄ h₄ => ⟨trivial, fun s₅ h₅ => ⟨fun _ _ _ _ _ => ?_,
      fun s₆ h₆ => ⟨trivial, fun _ _ => trivial⟩⟩⟩⟩⟩⟩⟩
  · obtain rfl := Option.some.inj h₁
    obtain rfl := Option.some.inj h₂
    obtain rfl := Option.some.inj h₃
    exact absurd h (by decide)
  · obtain rfl := Option.some.inj h₁
    obtain rfl := Option.some.inj h₂
    obtain rfl := Option.some.inj h₃
    obtain rfl := Option.some.inj h₄
    obtain rfl := Option.some.inj h₅
    decide

/-- A resume takes no permit: with a capacity of one, two executions are inside. -/
theorem active_executions_exceeded :
    (machine storeless oneActive).run (new oneActive [] ()) resumedBeside =
        some (poolAfter resumedBeside) ∧
      oneActive.active = 1 ∧ (poolAfter resumedBeside).executionsInside.length = 2 :=
  ⟨some_getD (by decide) _, by decide, by decide⟩

end Pool

end Samaktha
