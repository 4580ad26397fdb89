import Samaktha.Runtime.SchedulerRuns

/-!
# The two paths of a batch

`RuntimeEngine.run_batch` over an engine of which only the answers are known.  A dependency
outside of the batch, anywhere in it, sends the batch to `RuntimeExecutionPool`, which starts its
tasks in their order as far as its semaphore allows; every other batch goes to the scheduler.

`Run.log` is a ghost: the calls of `run` that have started and ended, with the status of what
they ended with.  `Orderly` says of it that no task started before its dependencies inside the
batch had completed.
-/

namespace Samaktha

namespace BatchPaths

open RunBatch (Books Graph graphOf taskMap triage verdict externalDependency)
open Scheduler (Answer Config Worker idsOf)

/-! ## The pool -/

/-- Where a task of the pool stands. -/
inductive Call where
  /-- At the semaphore. -/
  | waiting
  /-- In `run`. -/
  | executing
  | done (result : RuntimeResult)

/-- Whether a task is at the semaphore. -/
def Call.isWaiting : Call → Bool
  | .waiting => true
  | _ => false

/-- Whether a task is in `run`. -/
def Call.isExecuting : Call → Bool
  | .executing => true
  | _ => false

/-- What a task that has ended comes to. -/
def Call.result? : Call → Option RuntimeResult
  | .done result => some result
  | _ => none

/-- A call of `execute_batch`. -/
structure Pool where
  calls : List (RuntimeTask × Call)
  returned : Option (List RuntimeResult) := none

/-- What the pool reports for an answer. -/
def poolResult (task : RuntimeTask) : Answer → RuntimeResult
  | .returned result => result
  | .timedOut => verdict task.taskId .failed "Unhandled runtime exception: "
  | .raised exception =>
      verdict task.taskId .failed ("Unhandled runtime exception: " ++ exception)

/-! ## Both paths -/

/-- What is seen of the engine. -/
inductive Event where
  | started (id : String)
  | ended (id : String) (status : TaskStatus)
  deriving Repr, DecidableEq, Inhabited

inductive Path where
  | pool (pool : Pool)
  | scheduler (state : Scheduler.State)
  /-- The scheduler's resolver has refused the graph. -/
  | raised

/-- A call of `run_batch`. -/
structure Run where
  path : Path
  log : List Event := []

section Rules

variable (cfg : Config) (maxParallelism : Option ℤ)

/-- The scheduler that `run_batch` builds. -/
def schedulerConfig : Config :=
  { cfg with
    maxParallelism :=
      match maxParallelism with
      | some n => if n = 0 then 100 else n
      | none => 100
    maxRetries := 0
    isCancelled := fun _ => false }

/-- Whether the pool's semaphore lets one more task pass. -/
def poolFree (pool : Pool) : Bool :=
  match maxParallelism with
  | some n => n ≤ 0 || (pool.calls.countP fun call => call.2.isExecuting : ℕ) < n
  | none => true

/-- A move of the pool; it knows no levels and no attempts. -/
def poolStep (pool : Pool) : Scheduler.Move → Option (Pool × List Event)
  | .acquire =>
      match pool.calls.findIdx? fun call => call.2.isWaiting with
      | none => none
      | some i =>
          if poolFree maxParallelism pool then
            (pool.calls[i]?).map fun call =>
              ({ pool with calls := pool.calls.set i (call.1, .executing) },
                [.started call.1.taskId])
          else none
  | .answer i answer =>
      match pool.calls[i]? with
      | some (task, .executing) =>
          let result := poolResult task answer
          some ({ pool with calls := pool.calls.set i (task, .done result) },
            [.ended task.taskId result.status])
      | _ => none
  | .gather =>
      if pool.returned.isSome then none
      else (pool.calls.mapM fun call : RuntimeTask × Call => call.2.result?).map fun results =>
        ({ pool with returned := some results }, [])
  | .advance | .attempt _ => none

/-- What a move of the scheduler shows of the engine. -/
def observe (s t : Scheduler.State) : Scheduler.Move → List Event
  | .attempt _ => (t.called.drop s.called.length).map .started
  | .answer i answer =>
      match s.workers[i]? with
      | some worker => [.ended worker.task.taskId (answer.result cfg worker.task).status]
      | none => []
  | .advance | .acquire | .gather => []

/-- `run_batch` up to its first suspension. -/
def runBatch (tasks : List (RuntimeTask × RoutingDecision)) : Run :=
  if externalDependency tasks then
    { path := .pool { calls := tasks.map fun entry => (entry.1, .waiting) } }
  else
    match Scheduler.begin tasks {} with
    | some s => { path := .scheduler s }
    | none => { path := .raised }

def step (run : Run) (move : Scheduler.Move) : Option Run :=
  match run.path with
  | .pool pool =>
      (poolStep maxParallelism pool move).map fun next =>
        { path := .pool next.1, log := run.log ++ next.2 }
  | .scheduler s =>
      (Scheduler.step (schedulerConfig cfg maxParallelism) s move).map fun t =>
        { path := .scheduler t
          log := run.log ++ observe (schedulerConfig cfg maxParallelism) s t move }
  | .raised => none

/-- `run_batch` as a machine. -/
def machine : Machine Run Scheduler.Move := ⟨step cfg maxParallelism⟩

end Rules

/-! ## Order -/

/-- A result carries the id of the task it is returned for. -/
def OwnId (run : Run) (move : Scheduler.Move) : Prop :=
  match run.path with
  | .scheduler s => Scheduler.OwnId s move
  | _ => True

instance decidableOwnId (run : Run) (move : Scheduler.Move) : Decidable (OwnId run move) :=
  match run with
  | ⟨.scheduler s, _⟩ => Scheduler.decidableOwnId s move
  | ⟨.pool _, _⟩ => isTrue trivial
  | ⟨.raised, _⟩ => isTrue trivial

/-- No task starts before each of its dependencies in the batch has completed, and none starts
after one of them has ended otherwise. -/
def Orderly (tasks : List (RuntimeTask × RoutingDecision)) (log : List Event) : Prop :=
  ∀ entry ∈ tasks, ∀ before after, log = before ++ .started entry.1.taskId :: after →
    ∀ dep ∈ entry.1.dependencies, dep ∈ idsOf tasks →
      .ended dep .completed ∈ before ∧ ∀ status, .ended dep status ∈ before → status = .completed

section Log

variable {tasks : List (RuntimeTask × RoutingDecision)} {log : List Event}

lemma orderly_nil : Orderly tasks [] := by
  intro entry _ before after hlog
  exact absurd hlog.symm (List.append_ne_nil_of_right_ne_nil _ (List.cons_ne_nil _ _))

lemma Orderly.ended (h : Orderly tasks log) (id : String) (status : TaskStatus) :
    Orderly tasks (log ++ [.ended id status]) := by
  intro entry hentry before after hlog
  rcases List.eq_nil_or_concat after with rfl | ⟨init, last, rfl⟩
  · have hlast := (List.append_inj' hlog rfl).2
    cases hlast
  · rw [List.concat_eq_append, ← List.cons_append, ← List.append_assoc] at hlog
    exact h entry hentry before init (List.append_inj' hlog rfl).1

lemma Orderly.started (h : Orderly tasks log) {id : String}
    (hdeps : ∀ entry ∈ tasks, entry.1.taskId = id → ∀ dep ∈ entry.1.dependencies,
      dep ∈ idsOf tasks → .ended dep .completed ∈ log ∧
        ∀ status, .ended dep status ∈ log → status = .completed) :
    Orderly tasks (log ++ [.started id]) := by
  intro entry hentry before after hlog
  rcases List.eq_nil_or_concat after with rfl | ⟨init, last, rfl⟩
  · obtain ⟨rfl, hlast⟩ := List.append_inj' hlog rfl
    exact hdeps entry hentry (Event.started.inj (List.singleton_inj.mp hlast)).symm
  · rw [List.concat_eq_append, ← List.cons_append, ← List.append_assoc] at hlog
    exact h entry hentry before init (List.append_inj' hlog rfl).1

end Log

/-! ## The scheduler's path -/

section Scheduled

variable {cfg : Config} {tasks : List (RuntimeTask × RoutingDecision)} {s t : Scheduler.State}
  {log : List Event} {before : List String}

/-- Sorting a level completes nothing, and passes on tasks of the level whose dependencies have
completed. -/
lemma triage_ready {map : Dict String (RuntimeTask × RoutingDecision)} {graph : Graph}
    (hmap : ∀ id entry, Dict.get? map id = some entry → entry.1.taskId = id) (level : List String)
    (books : Books) :
    (triage map graph level books).1.completed = books.completed ∧
    (idsOf (triage map graph level books).2).Sublist level ∧
    ∀ entry ∈ (triage map graph level books).2,
      ∀ dep ∈ (Dict.get? graph.dependencies entry.1.taskId).getD entry.1.dependencies,
        dep ∈ books.completed := by
  induction level generalizing books with
  | nil => exact ⟨rfl, List.Sublist.slnil, fun entry hentry => by cases hentry⟩
  | cons id rest ih =>
      have hskip : ∀ books' : Books, books'.completed = books.completed →
          (triage map graph rest books').1.completed = books.completed ∧
          (idsOf (triage map graph rest books').2).Sublist (id :: rest) ∧
          ∀ entry ∈ (triage map graph rest books').2,
            ∀ dep ∈ (Dict.get? graph.dependencies entry.1.taskId).getD entry.1.dependencies,
              dep ∈ books.completed := by
        intro books' hsame
        obtain ⟨hcompleted, hsub, hready⟩ := ih books'
        rw [hsame] at hcompleted hready
        exact ⟨hcompleted, hsub.cons id, hready⟩
      rw [triage]
      split
      · exact hskip books rfl
      · rename_i entry hentry
        dsimp only
        split
        · exact hskip _ rfl
        · split
          · exact hskip _ rfl
          · split
            · exact hskip books rfl
            · rename_i hcompleted
              obtain ⟨hsame, hsub, hready⟩ := ih books
              have hid := hmap id entry hentry
              refine ⟨hsame, ?_, fun other hother => ?_⟩
              · show (entry.1.taskId :: idsOf (triage map graph rest books).2).Sublist (id :: rest)
                rw [hid]
                exact hsub.cons_cons id
              · rcases List.mem_cons.mp hother with rfl | hother
                · rw [hid]
                  simpa using hcompleted
                · exact hready other hother

/-- The log and the books of a scheduler that retries nothing. -/
structure Sched (tasks : List (RuntimeTask × RoutingDecision)) (s : Scheduler.State)
    (log : List Event) (before : List String) : Prop where
  tasks_eq : s.tasks = tasks
  layered : Layers.Layered (idsOf tasks) (graphOf tasks).depsOf before s.levels
  distinct : (Scheduler.workerIds s.workers).Nodup
  listed : ∀ worker ∈ s.workers, (worker.task, worker.routing) ∈ tasks
  entered : ∀ worker ∈ s.workers, worker.task.taskId ∈ before
  ready : ∀ worker ∈ s.workers, ∀ dep ∈ worker.task.dependencies, dep ∈ s.books.completed
  first : ∀ worker ∈ s.workers, worker.phase.attempts = []
  completed : ∀ id ∈ s.books.completed, .ended id .completed ∈ log
  seen : ∀ id status, .ended id status ∈ log →
    id ∈ before ∧ ∀ worker ∈ s.workers, worker.task.taskId = id → worker.phase.item?.isSome = true
  once : ∀ id status status', .ended id status ∈ log → .ended id status' ∈ log → status = status'
  items : ∀ worker ∈ s.workers, ∀ item, worker.phase = .done (.ok item) →
    item.taskId = worker.task.taskId ∧
      (item.status = .completed → .ended worker.task.taskId .completed ∈ log)
  orderly : Orderly tasks log

lemma conclude_done (hretries : cfg.maxRetries = 0) (worker : Worker) (result : RuntimeResult) :
    ∃ item, Scheduler.conclude cfg worker [] result = .done item ∧
      ∀ result', item = .ok result' →
        result'.taskId = result.taskId ∧ result'.status = result.status := by
  unfold Scheduler.conclude
  dsimp only
  split
  · exact ⟨_, rfl, fun result' h => by cases h⟩
  · split
    · refine ⟨_, rfl, fun result' h => ?_⟩
      obtain rfl := Except.ok.inj h
      exact ⟨rfl, rfl⟩
    · rw [if_neg (by rw [hretries]; simp)]
      refine ⟨_, rfl, fun result' h => ?_⟩
      obtain rfl := Except.ok.inj h
      exact ⟨rfl, rfl⟩

lemma Sched.replace (h : Sched tasks s log before) {i : ℕ} {worker : Worker}
    (hi : s.workers[i]? = some worker) {phase : Scheduler.Phase} {events : List Event}
    (hworkers : t.workers = s.workers.set i { worker with phase := phase })
    (htasks : t.tasks = s.tasks) (hlevels : t.levels = s.levels) (hbooks : t.books = s.books)
    (hfirst : phase.attempts = [])
    (hkept : worker.phase.item?.isSome = true → phase.item?.isSome = true)
    (hevents : ∀ id status, .ended id status ∈ events →
      id = worker.task.taskId ∧ worker.phase.item? = none ∧ phase.item?.isSome = true)
    (hone : ∀ id status status', .ended id status ∈ events → .ended id status' ∈ events →
      status = status')
    (hitem : ∀ item, phase = .done (.ok item) → item.taskId = worker.task.taskId ∧
      (item.status = .completed → .ended worker.task.taskId .completed ∈ log ++ events))
    (horderly : Orderly tasks (log ++ events)) : Sched tasks t (log ++ events) before := by
  have hmem : worker ∈ s.workers := List.mem_of_getElem? hi
  have hcases := fun other (hother : other ∈ t.workers) =>
    Scheduler.mem_set_workers h.distinct hi (hworkers ▸ hother)
  have hnotSeen : ∀ status, worker.phase.item? = none →
      .ended worker.task.taskId status ∉ log := by
    intro status hnone hin
    have hsome := (h.seen _ _ hin).2 worker hmem rfl
    rw [hnone] at hsome
    cases hsome
  refine ⟨htasks.trans h.tasks_eq, hlevels ▸ h.layered, ?_, fun other hother => ?_,
    fun other hother => ?_, fun other hother => ?_, fun other hother => ?_, fun id hid => ?_,
    fun id status hin => ?_, fun id status status' hin hin' => ?_,
      fun other hother item hphase => ?_,
    horderly⟩
  · rw [hworkers, Scheduler.workerIds_set hi phase]
    exact h.distinct
  · rcases hcases other hother with rfl | ⟨hold, -⟩
    · exact h.listed worker hmem
    · exact h.listed other hold
  · rcases hcases other hother with rfl | ⟨hold, -⟩
    · exact h.entered worker hmem
    · exact h.entered other hold
  · rw [hbooks]
    rcases hcases other hother with rfl | ⟨hold, -⟩
    · exact h.ready worker hmem
    · exact h.ready other hold
  · rcases hcases other hother with rfl | ⟨hold, -⟩
    · exact hfirst
    · exact h.first other hold
  · exact List.mem_append_left _ (h.completed id (hbooks ▸ hid))
  · rcases List.mem_append.mp hin with hold | hnew
    · obtain ⟨hbefore, hdone⟩ := h.seen id status hold
      refine ⟨hbefore, fun other hother hid => ?_⟩
      rcases hcases other hother with rfl | ⟨hother, -⟩
      · exact hkept (hdone worker hmem hid)
      · exact hdone other hother hid
    · obtain ⟨rfl, -, hsome⟩ := hevents id status hnew
      refine ⟨h.entered worker hmem, fun other hother hid => ?_⟩
      rcases hcases other hother with rfl | ⟨-, hne⟩
      · exact hsome
      · exact absurd hid hne
  · rcases List.mem_append.mp hin with hold | hnew
    · rcases List.mem_append.mp hin' with hold' | hnew'
      · exact h.once id status status' hold hold'
      · obtain ⟨rfl, hnone, -⟩ := hevents id status' hnew'
        exact absurd hold (hnotSeen status hnone)
    · rcases List.mem_append.mp hin' with hold' | hnew'
      · obtain ⟨rfl, hnone, -⟩ := hevents id status hnew
        exact absurd hold' (hnotSeen status' hnone)
      · exact hone id status status' hnew hnew'
  · rcases hcases other hother with rfl | ⟨hold, -⟩
    · exact hitem item hphase
    · obtain ⟨hown, hcompleted⟩ := h.items other hold item hphase
      exact ⟨hown, fun hstatus => List.mem_append_left _ (hcompleted hstatus)⟩

lemma Sched.enter (hdistinct : (idsOf tasks).Nodup)
    (h : Sched tasks s log before) {level : List String} {levels : List (List String)}
    (hlevels : s.levels = level :: levels) :
    Sched tasks { s with
      books := (triage (taskMap s.tasks) (graphOf s.tasks) level s.books).1
      levels := levels
      workers := (triage (taskMap s.tasks) (graphOf s.tasks) level s.books).2.map
        (Scheduler.enroll cfg) } log (before ++ level) := by
  obtain ⟨hlevel, hnext, hlayered⟩ := hlevels ▸ h.layered
  have hmap : ∀ id entry, Dict.get? (taskMap s.tasks) id = some entry → entry.1.taskId = id := by
    intro id entry hget
    obtain ⟨other, -, heq⟩ := List.mem_map.mp (Dict.mem_of_get?_ofList hget)
    obtain ⟨rfl, rfl⟩ := Prod.mk.inj heq
    rfl
  obtain ⟨hsame, hsub, hready⟩ := @triage_ready _ (graphOf s.tasks) hmap level s.books
  -- a worker is enrolled for a task that is run
  have henrolled : ∀ worker ∈ (triage (taskMap s.tasks) (graphOf s.tasks) level s.books).2.map
      (Scheduler.enroll cfg), ∃ entry ∈ (triage (taskMap s.tasks) (graphOf s.tasks) level
        s.books).2, worker = Scheduler.enroll cfg entry ∧ entry ∈ tasks ∧
          entry.1.taskId ∈ level := by
    intro worker hworker
    obtain ⟨entry, hentry, rfl⟩ := List.mem_map.mp hworker
    exact ⟨entry, hentry, rfl, h.tasks_eq ▸ RunBatch.mem_of_triage hentry,
      hsub.subset (List.mem_map.mpr ⟨entry, hentry, rfl⟩)⟩
  have hids := Scheduler.workerIds_enroll cfg
    (triage (taskMap s.tasks) (graphOf s.tasks) level s.books).2
  refine ⟨h.tasks_eq, hlayered, hids ▸ hlevel.sublist hsub, fun worker hworker => ?_,
    fun worker hworker => ?_, fun worker hworker => ?_, fun worker hworker => ?_, fun id hid => ?_,
    fun id status hin => ?_, h.once, fun worker hworker item hphase => ?_, h.orderly⟩
  · obtain ⟨entry, -, rfl, hlisted, -⟩ := henrolled worker hworker
    rw [Scheduler.enroll_task, Scheduler.enroll_routing]
    exact hlisted
  · obtain ⟨entry, -, rfl, -, hmem⟩ := henrolled worker hworker
    rw [Scheduler.enroll_task]
    exact List.mem_append_right _ hmem
  · obtain ⟨entry, hentry, rfl, hlisted, -⟩ := henrolled worker hworker
    rw [Scheduler.enroll_task]
    dsimp only
    rw [hsame]
    have hdeps := hready entry hentry
    rw [h.tasks_eq, Scheduler.dependencies_get? hdistinct hlisted] at hdeps
    exact hdeps
  · obtain ⟨entry, -, rfl, -⟩ := henrolled worker hworker
    unfold Scheduler.enroll
    split
    · rfl
    · dsimp only
      split <;> rfl
  · exact h.completed id (hsame ▸ hid)
  · obtain ⟨hbefore, -⟩ := h.seen id status hin
    refine ⟨List.mem_append_left _ hbefore, fun worker hworker hid => ?_⟩
    obtain ⟨entry, -, rfl, -, hmem⟩ := henrolled worker hworker
    rw [Scheduler.enroll_task] at hid
    exact absurd hbefore ((hnext id).mp (hid ▸ hmem)).2.1
  · obtain ⟨entry, -, rfl, -⟩ := henrolled worker hworker
    unfold Scheduler.enroll at hphase ⊢
    split at hphase
    · cases hphase
    · dsimp only at hphase
      split at hphase
      · obtain rfl := Except.ok.inj (Scheduler.Phase.done.inj hphase)
        exact ⟨rfl, fun hstatus => by cases hstatus⟩
      · cases hphase

lemma completed_foldl {items : List RuntimeResult} {books : Books} {id : String}
    (h : id ∈ (items.foldl Books.record books).completed) :
    id ∈ books.completed ∨ ∃ item ∈ items, item.taskId = id ∧ item.status = .completed := by
  induction items generalizing books with
  | nil => exact .inl h
  | cons item rest ih =>
      rcases ih h with hold | ⟨other, hother, hrest⟩
      · unfold Books.record at hold
        dsimp only at hold
        split at hold
        · rename_i hstatus
          rcases List.mem_insert_iff.mp hold with rfl | hold
          · exact .inr ⟨item, List.mem_cons_self, rfl, hstatus⟩
          · exact .inl hold
        · exact .inl hold
        · exact .inl hold
      · exact .inr ⟨other, List.mem_cons_of_mem _ hother, hrest⟩

/-- One step of a scheduler that retries nothing and has nothing cancelled. -/
lemma Sched.step (hdistinct : (idsOf tasks).Nodup) (hretries : cfg.maxRetries = 0)
    (hopen : ∀ id, cfg.isCancelled id = false) (h : Sched tasks s log before)
    {move : Scheduler.Move} (hown : Scheduler.OwnId s move)
    (hstep : Scheduler.step cfg s move = some t) :
    ∃ after, Sched tasks t (log ++ observe cfg s t move) after := by
  have hdrop : ∀ called : List String, called.drop called.length = [] :=
    fun called => List.drop_length
  cases Scheduler.steps_of_step cfg hstep with
  | returned _ _ _ =>
      refine ⟨before, ?_⟩
      rw [observe, List.append_nil]
      exact ⟨h.tasks_eq, h.layered, h.distinct, h.listed, h.entered, h.ready, h.first,
        h.completed, h.seen, h.once, h.items, h.orderly⟩
  | @entered level levels _ _ hlevels =>
      refine ⟨before ++ level, ?_⟩
      rw [observe, List.append_nil]
      exact h.enter hdistinct hlevels
  | @refused i worker hi hphase _ _ =>
      refine ⟨before, ?_⟩
      refine h.replace hi rfl rfl rfl rfl rfl (fun _ => rfl) (fun id status hin => (by cases hin))
        (fun id status status' hin => (by cases hin)) (fun item hitem => ?_) ?_
      · obtain rfl := Except.ok.inj (Scheduler.Phase.done.inj hitem)
        exact ⟨rfl, fun hstatus => by cases hstatus⟩
      · rw [observe, List.append_nil]
        exact h.orderly
  | @acquired i worker allocator hi hphase _ _ =>
      refine ⟨before, ?_⟩
      refine h.replace hi rfl rfl rfl rfl rfl (fun hsome => ?_)
        (fun id status hin => (by cases hin)) (fun id status status' hin => (by cases hin))
        (fun item hitem => (by cases hitem)) ?_
      · rw [hphase] at hsome
        cases hsome
      · rw [observe, List.append_nil]
        exact h.orderly
  | cancelled hi hphase hcancelled =>
      rw [hopen] at hcancelled
      cases hcancelled
  | @incomparable i worker attempts exception hi hphase _ herror =>
      refine ⟨before, ?_⟩
      have hfirst := h.first worker (List.mem_of_getElem? hi)
      rw [hphase] at hfirst
      obtain rfl : attempts = [] := hfirst
      obtain ⟨item, hdone, hitem⟩ := conclude_done hretries worker
        (verdict worker.task.taskId .failed exception)
      rw [hdone]
      have hnothing : observe cfg s (s.goOn i worker (.done item)) (.attempt i) = [] := by
        show (s.called.drop s.called.length).map Event.started = []
        rw [hdrop]
        rfl
      rw [hnothing]
      refine h.replace hi rfl rfl rfl rfl rfl (fun _ => rfl) (fun id status hin => (by cases hin))
        (fun id status status' hin => (by cases hin)) (fun result hresult => ?_) ?_
      · obtain ⟨hid, hstatus⟩ := hitem result (Scheduler.Phase.done.inj hresult)
        rw [hid, hstatus]
        exact ⟨rfl, fun hcompleted => by cases hcompleted⟩
      · rw [List.append_nil]
        exact h.orderly
  | @called i worker attempts hi hphase _ hnone =>
      refine ⟨before, ?_⟩
      have hmem := List.mem_of_getElem? hi
      have hfirst := h.first worker hmem
      rw [hphase] at hfirst
      have hseen : observe cfg s { s.goOn i worker (.executing attempts) with
          called := s.called ++ [worker.task.taskId] } (.attempt i) =
            [.started worker.task.taskId] := by
        show ((s.called ++ [worker.task.taskId]).drop s.called.length).map Event.started = _
        rw [List.drop_left]
        rfl
      rw [hseen]
      refine h.replace hi rfl rfl rfl rfl hfirst (fun hsome => ?_)
        (fun id status hin => (by simp at hin)) (fun id status status' hin => (by simp at hin))
        (fun item hitem => (by cases hitem)) (h.orderly.started ?_)
      · rw [hphase] at hsome
        cases hsome
      · intro entry hentry hid dep hdep _
        have heq := Scheduler.eq_of_taskId hdistinct hentry (h.listed worker hmem) hid
        rw [heq] at hdep
        have hcompleted := h.completed dep (h.ready worker hmem dep hdep)
        exact ⟨hcompleted, fun status hin => h.once dep status .completed hin hcompleted⟩
  | @answered i worker attempts answer hi hphase =>
      refine ⟨before, ?_⟩
      have hfirst := h.first worker (List.mem_of_getElem? hi)
      rw [hphase] at hfirst
      obtain rfl : attempts = [] := hfirst
      have hresult : (answer.result cfg worker.task).taskId = worker.task.taskId := by
        cases answer with
        | returned result => exact hown worker hi
        | timedOut => rfl
        | raised exception => rfl
      obtain ⟨item, hdone, hitem⟩ := conclude_done hretries worker (answer.result cfg worker.task)
      rw [hdone]
      have hseen : observe cfg s (s.goOn i worker (.done item)) (.answer i answer) =
          [.ended worker.task.taskId (answer.result cfg worker.task).status] := by
        rw [observe, hi]
      rw [hseen]
      refine h.replace hi rfl rfl rfl rfl rfl (fun _ => rfl) (fun id status hin => ?_)
        (fun id status status' hin hin' => ?_) (fun result hitem' => ?_) (h.orderly.ended _ _)
      · obtain ⟨rfl, -⟩ := Event.ended.inj (List.mem_singleton.mp hin)
        exact ⟨rfl, by rw [hphase]; rfl, rfl⟩
      · obtain ⟨-, rfl⟩ := Event.ended.inj (List.mem_singleton.mp hin)
        obtain ⟨-, rfl⟩ := Event.ended.inj (List.mem_singleton.mp hin')
        rfl
      · obtain ⟨hid, hstatus⟩ := hitem result (Scheduler.Phase.done.inj hitem')
        refine ⟨hid.trans hresult, fun hcompleted => ?_⟩
        rw [← hstatus, hcompleted]
        exact List.mem_append_right _ (List.mem_singleton.mpr rfl)
  | @gathered items hne hitems =>
      refine ⟨before, ?_⟩
      rw [observe, List.append_nil]
      refine ⟨h.tasks_eq, h.layered, List.nodup_nil, fun worker hworker => (by cases hworker),
        fun worker hworker => (by cases hworker), fun worker hworker => (by cases hworker),
        fun worker hworker => (by cases hworker), fun id hid => ?_, fun id status hin => ?_, h.once,
        fun worker hworker => (by cases hworker), h.orderly⟩
      · rcases completed_foldl hid with hold | ⟨item, hitem, rfl, hstatus⟩
        · exact h.completed id hold
        · obtain ⟨worker, hworker, hfiled⟩ := RunBatch.of_mapM hitems hitem
          obtain ⟨ended, hended, rfl⟩ := Option.map_eq_some_iff.mp hfiled
          have hphase := Scheduler.Phase.item?_eq_some.mp hended
          cases ended with
          | error exception => cases hstatus
          | ok item =>
              obtain ⟨hown, hcompleted⟩ := h.items worker hworker item hphase
              show Event.ended item.taskId .completed ∈ log
              rw [hown]
              exact hcompleted hstatus
      · exact ⟨(h.seen id status hin).1, fun worker hworker => by cases hworker⟩

end Scheduled

/-! ## The pool's path -/

section Pooled

variable {cfg : Config} {maxParallelism : Option ℤ}

/-- The tasks of a pool that have not started. -/
def waiting (tasks : List RuntimeTask) : List (RuntimeTask × Call) :=
  tasks.map fun task => (task, .waiting)

lemma poolStep_acquire {done : List (RuntimeTask × Call)}
    (hdone : ∀ call ∈ done, ∃ result, call.2 = .done result) (task : RuntimeTask)
    (rest : List RuntimeTask) :
    poolStep maxParallelism { calls := done ++ waiting (task :: rest) } .acquire =
      some ({ calls := done ++ (task, .executing) :: waiting rest }, [.started task.taskId]) := by
  have hfind : (done ++ waiting (task :: rest)).findIdx? (fun call => call.2.isWaiting) =
      some done.length := by
    have hnone : done.findIdx? (fun call => call.2.isWaiting) = none := by
      rw [List.findIdx?_eq_none_iff]
      intro call hcall
      obtain ⟨result, hresult⟩ := hdone call hcall
      rw [hresult]
      rfl
    have hhere : (waiting (task :: rest)).findIdx? (fun call => call.2.isWaiting) = some 0 := by
      rw [waiting, List.map_cons, List.findIdx?_cons]
      rfl
    rw [List.findIdx?_append, hnone, hhere, Option.map_some, Nat.zero_add]
    rfl
  have hcount : (done ++ waiting (task :: rest)).countP (fun call => call.2.isExecuting) = 0 := by
    rw [List.countP_eq_zero]
    intro call hcall
    rcases List.mem_append.mp hcall with hcall | hcall
    · obtain ⟨result, hresult⟩ := hdone call hcall
      rw [hresult]
      exact Bool.false_ne_true
    · obtain ⟨other, -, rfl⟩ := List.mem_map.mp hcall
      exact Bool.false_ne_true
  have hfree : poolFree maxParallelism { calls := done ++ waiting (task :: rest) } = true := by
    unfold poolFree
    cases maxParallelism with
    | none => rfl
    | some n =>
        dsimp only
        rw [hcount, Bool.or_eq_true, decide_eq_true_eq, decide_eq_true_eq]
        exact le_or_gt n 0
  simp only [poolStep, hfind, hfree, if_true]
  simp [waiting]

lemma poolStep_fail (done : List (RuntimeTask × Call)) (task : RuntimeTask)
    (rest : List (RuntimeTask × Call)) :
    ∃ result, poolStep maxParallelism { calls := done ++ (task, .executing) :: rest }
        (.answer done.length (.raised "")) =
      some ({ calls := done ++ (task, .done result) :: rest }, [.ended task.taskId .failed]) := by
  refine ⟨poolResult task (.raised ""), ?_⟩
  have hget : (done ++ (task, Call.executing) :: rest)[done.length]? = some (task, .executing) := by
    simp
  simp only [poolStep, hget]
  simp [poolResult, verdict]

lemma run_failing (first rest : List RuntimeTask) {path : List Event}
    {done : List (RuntimeTask × Call)} (hdone : ∀ call ∈ done, ∃ result, call.2 = .done result)
    (hlog : ∀ id, .ended id .completed ∉ path) :
    ∃ moves log done', (machine cfg maxParallelism).run
        ⟨.pool { calls := done ++ waiting (first ++ rest) }, path⟩ moves =
          some ⟨.pool { calls := done' ++ waiting rest }, log⟩ ∧
      (∀ call ∈ done', ∃ result, call.2 = .done result) ∧ ∀ id, .ended id .completed ∉ log := by
  induction first generalizing path done with
  | nil => exact ⟨[], path, done, rfl, hdone, hlog⟩
  | cons task others ih =>
      obtain ⟨result, hfail⟩ := @poolStep_fail maxParallelism done task (waiting (others ++ rest))
      have hdone' : ∀ call ∈ done ++ [(task, Call.done result)],
          ∃ result, call.2 = .done result := by
        intro call hcall
        rcases List.mem_append.mp hcall with hcall | hcall
        · exact hdone call hcall
        · rw [List.mem_singleton.mp hcall]
          exact ⟨result, rfl⟩
      have hlog' : ∀ id, Event.ended id .completed ∉
          path ++ [.started task.taskId] ++ [.ended task.taskId .failed] := by
        intro id hin
        rw [List.append_assoc, List.mem_append] at hin
        rcases hin with hin | hin
        · exact hlog id hin
        · simp at hin
      obtain ⟨moves, log, done', hrun, hrest⟩ := ih hdone' hlog'
      refine ⟨.acquire :: .answer done.length (.raised "") :: moves, log, done', ?_, hrest⟩
      rw [List.append_assoc, List.singleton_append] at hrun
      refine (machine cfg maxParallelism).run_cons_eq_some.mpr
        ⟨⟨.pool { calls := done ++ (task, .executing) :: waiting (others ++ rest) },
          path ++ [.started task.taskId]⟩, ?_, ?_⟩
      · show (poolStep maxParallelism _ .acquire).map _ = _
        rw [List.cons_append, poolStep_acquire hdone]
        rfl
      · refine (machine cfg maxParallelism).run_cons_eq_some.mpr ⟨_, ?_, hrun⟩
        show (poolStep maxParallelism _ (.answer done.length (.raised ""))).map _ = _
        rw [hfail]
        rfl

lemma guarded_pool (moves : List Scheduler.Move) (pool : Pool) (log : List Event) :
    (machine cfg maxParallelism).Guarded OwnId ⟨.pool pool, log⟩ moves := by
  induction moves generalizing pool log with
  | nil => trivial
  | cons move rest ih =>
      refine ⟨trivial, fun run hstep => ?_⟩
      obtain ⟨next, -, rfl⟩ := Option.map_eq_some_iff.mp hstep
      exact ih next.1 _

lemma exists_start {tasks : List RuntimeTask} {task : RuntimeTask} (htask : task ∈ tasks) :
    ∃ moves run log, (machine cfg maxParallelism).run ⟨.pool { calls := waiting tasks }, []⟩ moves =
      some run ∧ run.log = log ++ [.started task.taskId] ∧ ∀ id, .ended id .completed ∉ log := by
  obtain ⟨first, rest, rfl⟩ := List.append_of_mem htask
  obtain ⟨moves, log, done, hrun, hdone, hlog⟩ := @run_failing cfg maxParallelism first
    (task :: rest) [] [] (fun call hcall => (by cases hcall)) (fun id hin => by cases hin)
  refine ⟨moves ++ [.acquire],
    ⟨.pool { calls := done ++ (task, .executing) :: waiting rest }, log ++ [.started task.taskId]⟩,
    log, ?_, rfl, hlog⟩
  refine (machine cfg maxParallelism).run_snoc_eq_some.mpr ⟨_, hrun, ?_⟩
  show (poolStep maxParallelism _ .acquire).map _ = _
  rw [poolStep_acquire hdone]
  rfl

end Pooled

/-! ## Which batches are run in order -/

/-- No dependency inside the batch. -/
def Independent (tasks : List (RuntimeTask × RoutingDecision)) : Prop :=
  ∀ entry ∈ tasks, ∀ dep ∈ entry.1.dependencies, dep ∉ idsOf tasks

lemma known_of_internal {tasks : List (RuntimeTask × RoutingDecision)}
    (h : externalDependency tasks = false) :
    ∀ entry ∈ tasks, entry.1.dependencies ⊆ idsOf tasks := by
  intro entry hentry dep hdep
  by_contra hout
  have htrue : externalDependency tasks = true :=
    List.any_eq_true.mpr ⟨entry, hentry, List.any_eq_true.mpr ⟨dep, hdep, decide_eq_true hout⟩⟩
  rw [h] at htrue
  cases htrue

/-- What holds of a batch on the scheduler's path. -/
structure InOrder (tasks : List (RuntimeTask × RoutingDecision)) (run : Run) : Prop where
  orderly : Orderly tasks run.log
  unpooled : ∀ pool, run.path ≠ .pool pool
  scheduled : ∀ s, run.path = .scheduler s → ∃ before, Sched tasks s run.log before

lemma inOrder_runBatch {tasks : List (RuntimeTask × RoutingDecision)}
    (hinternal : externalDependency tasks = false) : InOrder tasks (runBatch tasks) := by
  unfold runBatch
  rw [hinternal, if_neg Bool.false_ne_true]
  cases hbegin : Scheduler.begin tasks {} with
  | none => exact ⟨orderly_nil, fun pool h => (by cases h), fun s h => by cases h⟩
  | some s =>
      refine ⟨orderly_nil, fun pool h => (by cases h), fun s' h => ⟨[], ?_⟩⟩
      obtain rfl : s = s' := Path.scheduler.inj h
      unfold Scheduler.begin at hbegin
      split at hbegin
      · obtain rfl := Option.some.inj hbegin
        have hclosed := Scheduler.closed_graphOf (known_of_internal hinternal)
        exact ⟨rfl, RunBatch.layered_levels hclosed, List.nodup_nil,
          fun worker h => (by cases h), fun worker h => (by cases h), fun worker h => (by cases h),
          fun worker h => (by cases h), fun id h => (by cases h), fun id status h => (by cases h),
          fun id status status' h => (by cases h), fun worker h => (by cases h), orderly_nil⟩
      · cases hbegin

lemma inOrder_step {cfg : Config} {maxParallelism : Option ℤ}
    {tasks : List (RuntimeTask × RoutingDecision)} (hdistinct : (idsOf tasks).Nodup)
    (run : Run) (move : Scheduler.Move) (run' : Run) (h : InOrder tasks run)
    (hown : OwnId run move) (hstep : (machine cfg maxParallelism).step run move = some run') :
    InOrder tasks run' := by
  obtain ⟨path, log⟩ := run
  cases path with
  | pool pool => exact absurd rfl (h.unpooled pool)
  | raised => cases hstep
  | scheduler s =>
      obtain ⟨before, hsched⟩ := h.scheduled s rfl
      obtain ⟨t, ht, rfl⟩ := Option.map_eq_some_iff.mp hstep
      obtain ⟨after, hafter⟩ := hsched.step hdistinct rfl (fun _ => rfl) hown ht
      refine ⟨hafter.orderly, fun pool h => (by cases h), fun t' h => ⟨after, ?_⟩⟩
      obtain rfl : t = t' := Path.scheduler.inj h
      exact hafter

/-- A batch is run in order, whatever is answered and in whichever order, exactly if it has no
dependency outside of itself or none inside. -/
theorem run_batch_orderly (cfg : Config) (maxParallelism : Option ℤ)
    {tasks : List (RuntimeTask × RoutingDecision)} (hdistinct : (idsOf tasks).Nodup) :
    (∀ moves run, (machine cfg maxParallelism).Guarded OwnId (runBatch tasks) moves →
      (machine cfg maxParallelism).run (runBatch tasks) moves = some run →
      Orderly tasks run.log) ↔
    externalDependency tasks = false ∨ Independent tasks := by
  constructor
  · intro hall
    by_contra hnot
    rw [not_or] at hnot
    obtain ⟨hexternal, hinside⟩ := hnot
    have hpool : runBatch tasks = ⟨.pool { calls := waiting (tasks.map Prod.fst) }, []⟩ := by
      rw [runBatch, if_pos (Bool.not_eq_false _ ▸ hexternal), waiting, List.map_map]
      rfl
    simp only [Independent, not_forall, not_not] at hinside
    obtain ⟨entry, hentry, dep, hdep, hid⟩ := hinside
    obtain ⟨moves, run, log, hrun, hlog, hnone⟩ := @exists_start cfg maxParallelism
      (tasks.map Prod.fst) entry.1 (List.mem_map_of_mem hentry)
    rw [hpool] at hall
    have horderly := hall moves run (guarded_pool moves _ _) hrun
    exact hnone dep (horderly entry hentry log [] hlog dep hdep hid).1
  · rintro (hinternal | hindependent) moves run hguarded hrun
    · exact ((machine cfg maxParallelism).guarded_invariant (inOrder_step hdistinct)
        (inOrder_runBatch hinternal) hguarded hrun).orderly
    · intro entry hentry before after _ dep hdep hin
      exact absurd hin (hindependent entry hentry dep hdep)

/-! ## Runs -/

/-- A mail that is sent once it has been drafted, and, if there are any, after other tasks. -/
def mailBatch (others : List String) : List (RuntimeTask × RoutingDecision) := [
  ({ taskId := "draft", actionType := "tool" }, { providerId := "local", modelId := "m" }),
  ({ taskId := "send", actionType := "tool", dependencies := "draft" :: others },
    { providerId := "local", modelId := "m" })]

/-- The draft is completed and the mail sent. -/
def mailMoves : List Scheduler.Move :=
  [.advance, .acquire, .attempt 0, .answer 0
    (.returned { taskId := "draft", status := .completed }),
    .gather, .advance, .acquire, .attempt 0]

/-- What a run shows of the engine. -/
def logAfter (tasks : List (RuntimeTask × RoutingDecision)) (moves : List Scheduler.Move) :
    Option (List Event) :=
  ((machine {} none).run (runBatch tasks) moves).map Run.log

theorem run_batch_orderly_sample :
    ∃ run, (machine {} none).run (runBatch (mailBatch [])) mailMoves = some run ∧
      run.log = [.started "draft", .ended "draft" .completed, .started "send"] ∧
      Orderly (mailBatch []) run.log := by
  have hlog : logAfter (mailBatch []) mailMoves =
      some [.started "draft", .ended "draft" .completed, .started "send"] := by
    decide +kernel
  have hguarded : (machine {} none).Guarded OwnId (runBatch (mailBatch [])) mailMoves := by
    decide +kernel
  have hdistinct : (idsOf (mailBatch [])).Nodup := by decide
  have hinternal : externalDependency (mailBatch []) = false := by decide
  obtain ⟨run, hrun, hevents⟩ := Option.map_eq_some_iff.mp hlog
  exact ⟨run, hrun, hevents,
    (run_batch_orderly {} none hdistinct).mpr (.inl hinternal) mailMoves run hguarded hrun⟩

/-- A dependency that has been completed elsewhere sends the batch to the pool, which sends the
mail while it is being drafted. -/
theorem run_batch_disorderly :
    (idsOf (mailBatch ["login"])).Nodup ∧
      ∃ run, (machine {} none).run (runBatch (mailBatch ["login"])) [.acquire, .acquire] =
          some run ∧
        run.log = [.started "draft", .started "send"] ∧
          ¬ Orderly (mailBatch ["login"]) run.log := by
  have hlog : logAfter (mailBatch ["login"]) [.acquire, .acquire] =
      some [.started "draft", .started "send"] := by
    decide +kernel
  obtain ⟨run, hrun, hevents⟩ := Option.map_eq_some_iff.mp hlog
  refine ⟨by decide, run, hrun, hevents, fun horderly => ?_⟩
  rw [hevents] at horderly
  have hdraft := (horderly _ (List.mem_cons_of_mem _ List.mem_cons_self) [.started "draft"] [] rfl
    "draft" List.mem_cons_self List.mem_cons_self).1
  revert hdraft
  decide

end BatchPaths

end Samaktha
