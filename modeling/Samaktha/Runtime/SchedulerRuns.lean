import Samaktha.Foundation.Machine
import Samaktha.Runtime.SchedulerBooks

/-!
# What the scheduler returns

For a batch with distinct ids whose dependencies are tasks of the batch and have no cycle: the
invariant of a run (`Inv`), a bound on its length (`weight`), and what the results say about
every task (`schedule_accounts`).
-/

namespace Samaktha

namespace Scheduler

open RunBatch (Books Graph graphOf taskMap triage verdict ordered)

/-! ## Single workers -/

section Workers

variable (cfg : Config)

/-- Whether a task can get to the executor: its requirement is a worker type, where a registry
asks for one, and its timeout is comparable. -/
def admitted (task : RuntimeTask) : Bool :=
  (workerIdOf cfg task).isOk && (timeoutError cfg task).isNone

/-- The attempts of a worker that have ended. -/
def Phase.attempts : Phase → List Attempt
  | .ready attempts | .executing attempts => attempts
  | .waiting | .done _ => []

/-- Whether a worker has begun its first attempt. -/
def Phase.begun : Phase → Bool
  | .waiting => false
  | .ready attempts => !attempts.isEmpty
  | .executing _ | .done _ => true

/-- How many moves a worker can still make. -/
def weight : Phase → ℕ
  | .waiting => 2 * (cfg.maxRetries.toNat + 1) + 1
  | .ready attempts => 2 * (cfg.maxRetries.toNat + 1 - attempts.length)
  | .executing attempts => 2 * (cfg.maxRetries.toNat + 1 - attempts.length) - 1
  | .done _ => 0

/-- The results of a worker are its task's, and the executor was called for the task if an
attempt has begun, unless the task is cancelled or cannot get there. -/
structure WorkerSound (called : List String) (worker : Worker) : Prop where
  called : worker.task.taskId ∈ called ↔ worker.phase.begun = true ∧
    cfg.isCancelled worker.task.taskId = false ∧ admitted cfg worker.task = true
  resolved : worker.phase.item? = none → (workerIdOf cfg worker.task).isOk = true
  own : ∀ attempt ∈ worker.phase.attempts, attempt.result.taskId = worker.task.taskId
  few : worker.phase.attempts.length ≤ cfg.maxRetries.toNat
  item : ∀ item, worker.phase = .done (.ok item) → item.taskId = worker.task.taskId

variable {cfg} {called : List String}

lemma best_mem (attempts : List Attempt) {last : Attempt} (hlast : last ∈ attempts) :
    ∃ attempt ∈ attempts, best attempts last = attempt.result := by
  unfold best
  cases hhead : (attempts.insertionSort Attempt.before).head? with
  | none => exact ⟨last, hlast, rfl⟩
  | some attempt =>
      exact ⟨attempt, (List.mem_insertionSort _).mp (List.mem_of_mem_head? hhead), rfl⟩

/-- What follows an attempt whose result is the task's. -/
lemma conclude_spec {worker : Worker} {attempts : List Attempt} {result : RuntimeResult}
    (hattempts : ∀ attempt ∈ attempts, attempt.result.taskId = worker.task.taskId)
    (hresult : result.taskId = worker.task.taskId) :
    let phase := conclude cfg worker attempts result
    phase.begun = true ∧
      (∀ attempt ∈ phase.attempts, attempt.result.taskId = worker.task.taskId) ∧
      phase.attempts.length ≤ cfg.maxRetries.toNat ∧
      (∀ item, phase = .done (.ok item) → item.taskId = worker.task.taskId) ∧
      weight cfg phase ≤ 2 * (cfg.maxRetries.toNat - attempts.length) := by
  intro phase
  have hphase : phase = conclude cfg worker attempts result := rfl
  rw [conclude] at hphase
  dsimp only at hphase
  split at hphase
  · rw [hphase]
    refine ⟨rfl, fun attempt hmem => (by cases hmem), Nat.zero_le _, fun item hitem => ?_,
      Nat.zero_le _⟩
    cases hitem
  · rename_i confidence hconfidence
    generalize hlast : Attempt.mk _ confidence _ = last at hphase
    have hown : ∀ attempt ∈ attempts ++ [last], attempt.result.taskId = worker.task.taskId := by
      intro attempt hmem
      rcases List.mem_append.mp hmem with hold | hnew
      · exact hattempts attempt hold
      · rw [List.mem_singleton.mp hnew, ← hlast]
        exact hresult
    have hended : phase = .done (.ok (best (attempts ++ [last]) last)) →
        phase.begun = true ∧
        (∀ attempt ∈ phase.attempts, attempt.result.taskId = worker.task.taskId) ∧
        phase.attempts.length ≤ cfg.maxRetries.toNat ∧
        (∀ item, phase = .done (.ok item) → item.taskId = worker.task.taskId) ∧
        weight cfg phase ≤ 2 * (cfg.maxRetries.toNat - attempts.length) := by
      intro heq
      rw [heq]
      refine ⟨rfl, fun attempt hmem => (by cases hmem), Nat.zero_le _, fun item hitem => ?_,
        Nat.zero_le _⟩
      obtain rfl := Except.ok.inj (Phase.done.inj hitem)
      obtain ⟨attempt, hmem, hbest⟩ := @best_mem (attempts ++ [last]) last (by simp)
      rw [hbest]
      exact hown attempt hmem
    split at hphase
    · exact hended hphase
    · split at hphase
      · rename_i hretry
        have hlength : (attempts ++ [last]).length = attempts.length + 1 := by
          rw [List.length_append, List.length_singleton]
        rw [hlength] at hretry
        rw [hphase]
        refine ⟨by simp [Phase.begun], hown, ?_, fun item hitem => (by cases hitem), ?_⟩
        · show (attempts ++ [last]).length ≤ _
          omega
        · show 2 * (_ - (attempts ++ [last]).length) ≤ _
          omega
      · exact hended hphase

lemma workerSound_enroll {entry : RuntimeTask × RoutingDecision}
    (hnew : entry.1.taskId ∉ called) : WorkerSound cfg called (enroll cfg entry) := by
  unfold enroll
  cases hid : workerIdOf cfg entry.1 with
  | error exception =>
      have hadmitted : admitted cfg entry.1 = false := by
        rw [admitted, hid]
        rfl
      exact ⟨iff_of_false hnew fun h => absurd h.2.2 (by simp [hadmitted]), fun h => (by cases h),
        fun attempt hmem => (by cases hmem), Nat.zero_le _, fun item h => by cases h⟩
  | ok workerId =>
      dsimp only
      have hresolved : (workerIdOf cfg entry.1).isOk = true := by
        rw [hid]
        rfl
      split
      · rename_i hcancelled
        refine ⟨iff_of_false hnew fun h => absurd h.2.1 (by simp [hcancelled]),
          fun h => (by cases h), fun attempt hmem => (by cases hmem), Nat.zero_le _,
          fun item h => ?_⟩
        obtain rfl := Except.ok.inj (Phase.done.inj h)
        rfl
      · exact ⟨iff_of_false hnew fun h => absurd h.1 Bool.false_ne_true, fun _ => hresolved,
          fun attempt hmem => (by cases hmem), Nat.zero_le _, fun item h => by cases h⟩

end Workers

/-! ## Resources -/

/-- What is left of an allocator's budgets while some workers hold theirs. -/
def ResourceAllocator.less (allocator : ResourceAllocator) (n : ℕ) : ResourceAllocator :=
  { allocator with
    cpuBudget := allocator.cpuBudget - n
    memoryBudget := allocator.memoryBudget - n
    tokenBudget := allocator.tokenBudget - n }

/-- The budgets are enough for some workers at once. -/
structure ResourceAllocator.Covers (allocator : ResourceAllocator) (n : ℤ) : Prop where
  cpu : n ≤ allocator.cpuBudget
  memory : n ≤ allocator.memoryBudget
  token : n ≤ allocator.tokenBudget
  internet : 0 ≤ allocator.internetBudget

lemma ResourceAllocator.allocate_less {allocator : ResourceAllocator} {n : ℕ}
    (h : allocator.Covers (n + 1)) :
    (allocator.less n).allocate = some (allocator.less (n + 1)) := by
  obtain ⟨hcpu, hmemory, htoken, hinternet⟩ := h
  unfold allocate less
  dsimp only
  rw [if_neg (by omega)]
  push_cast
  simp only [sub_sub]

lemma ResourceAllocator.release_less (allocator : ResourceAllocator) (n : ℕ) :
    (allocator.less (n + 1)).release = allocator.less n := by
  unfold release less
  push_cast
  simp only [sub_add_eq_sub_sub, sub_add_cancel]

lemma heldCount_set {workers : List Worker} {i : ℕ} {worker : Worker}
    (hi : workers[i]? = some worker) (worker' : Worker) :
    heldCount (workers.set i worker') + (if worker.phase.held then 1 else 0) =
      heldCount workers + if worker'.phase.held then 1 else 0 := by
  obtain ⟨hlt, heq⟩ := List.getElem?_eq_some_iff.mp hi
  unfold heldCount
  rw [List.countP_set hlt, heq]
  have hpos : worker.phase.held = true →
      0 < workers.countP fun worker => worker.phase.held := by
    intro hheld
    exact List.countP_pos_iff.mpr ⟨worker, heq ▸ List.getElem_mem hlt, hheld⟩
  split
  · rename_i hheld
    have := hpos hheld
    omega
  · omega

/-! ## The invariant -/

/-- The tasks of the workers, by id. -/
def workerIds (workers : List Worker) : List String := workers.map fun worker => worker.task.taskId

variable (cfg : Config) (tasks : List (RuntimeTask × RoutingDecision))
  (allocator : ResourceAllocator)

lemma workerIds_enroll (entries : List (RuntimeTask × RoutingDecision)) :
    workerIds (entries.map (enroll cfg)) = idsOf entries := by
  simp [workerIds, idsOf]

/-- The batch: its ids are distinct, and its dependencies are among its tasks and have no
cycle. -/
structure WellFormed : Prop where
  distinct : (idsOf tasks).Nodup
  known : ∀ entry ∈ tasks, entry.1.dependencies ⊆ idsOf tasks
  acyclic : ∀ id, ¬ Relation.TransGen (Search.Edge (graphOf tasks).depsOf) id id

/-- A worker of the level that is gathered. -/
structure Working (books : Books) (called before : List String) (worker : Worker) : Prop where
  listed : (worker.task, worker.routing) ∈ tasks
  entered : worker.task.taskId ∈ before
  blank : Blank books worker.task.taskId
  ready : ∀ dep ∈ worker.task.dependencies,
    dep ∈ books.completed ∧ ∃ result, Filed books dep result
  sound : WorkerSound cfg called worker

/-- A task whose result is filed, by what is filed for its dependencies. -/
structure Settled (books : Books) (called : List String) (task : RuntimeTask) : Prop where
  deps : ∀ dep ∈ task.dependencies, ∃ result, Filed books dep result
  result : ∃ result, Filed books task.taskId result ∧
    ((∃ dep ∈ task.dependencies, dep ∈ books.failed) → result.status = .failed) ∧
    ((∀ dep ∈ task.dependencies, dep ∉ books.failed) →
      (∃ dep ∈ task.dependencies, dep ∈ books.cancelled) → result.status = .cancelled)
  called : task.taskId ∈ called ↔ (∀ dep ∈ task.dependencies, dep ∈ books.completed) ∧
    cfg.isCancelled task.taskId = false ∧ admitted cfg task = true

/-- The tasks `before` have been entered; those of them that have no worker are settled. -/
structure Inv (s : State) (before : List String) : Prop where
  tasks_eq : s.tasks = tasks
  nodup : before.Nodup
  within : before ⊆ idsOf tasks
  layered : Layers.Layered (idsOf tasks) (graphOf tasks).depsOf before s.levels
  fresh : ∀ id, id ∉ before → Blank s.books id ∧ id ∉ s.called
  distinct : (workerIds s.workers).Nodup
  working : ∀ worker ∈ s.workers, Working cfg tasks s.books s.called before worker
  settled : ∀ entry ∈ tasks, entry.1.taskId ∈ before → entry.1.taskId ∉ workerIds s.workers →
    Settled cfg s.books s.called entry.1
  resources : s.allocator = allocator.less (heldCount s.workers)
  parallel : (heldCount s.workers : ℤ) ≤ max cfg.maxParallelism 1
  finished : ∀ results, s.returned = some results →
    s.levels = [] ∧ s.workers = [] ∧ results = ordered s.tasks s.books

variable {cfg tasks allocator}

section Graph

lemma dependencies_get? (hdistinct : (idsOf tasks).Nodup) {entry : RuntimeTask × RoutingDecision}
    (hentry : entry ∈ tasks) :
    Dict.get? (graphOf tasks).dependencies entry.1.taskId = some entry.1.dependencies := by
  have hkeys : Dict.NodupKeys (tasks.map fun entry => (entry.1.taskId, entry.1.dependencies)) := by
    rw [Dict.NodupKeys, Dict.keys, List.map_map]
    exact hdistinct
  unfold graphOf
  rw [Dict.get?_ofList hkeys]
  exact Dict.get?_of_mem hkeys (List.mem_map.mpr ⟨entry, hentry, rfl⟩)

lemma depsOf_graphOf (hdistinct : (idsOf tasks).Nodup) {entry : RuntimeTask × RoutingDecision}
    (hentry : entry ∈ tasks) :
    (graphOf tasks).depsOf entry.1.taskId = entry.1.dependencies := by
  rw [Graph.depsOf, dependencies_get? hdistinct hentry, Option.getD_some]

lemma taskMap_get? (hdistinct : (idsOf tasks).Nodup) {entry : RuntimeTask × RoutingDecision}
    (hentry : entry ∈ tasks) : Dict.get? (taskMap tasks) entry.1.taskId = some entry := by
  have hkeys : Dict.NodupKeys (tasks.map fun entry => (entry.1.taskId, entry)) := by
    rw [Dict.NodupKeys, Dict.keys, List.map_map]
    exact hdistinct
  unfold taskMap
  rw [Dict.get?_ofList hkeys]
  exact Dict.get?_of_mem hkeys (List.mem_map.mpr ⟨entry, hentry, rfl⟩)

lemma eq_of_taskId (hdistinct : (idsOf tasks).Nodup) {entry other : RuntimeTask × RoutingDecision}
    (hentry : entry ∈ tasks) (hother : other ∈ tasks) (h : entry.1.taskId = other.1.taskId) :
    entry = other := by
  have hget := taskMap_get? hdistinct hentry
  rw [h, taskMap_get? hdistinct hother] at hget
  exact (Option.some.inj hget).symm

lemma closed_graphOf (hknown : ∀ entry ∈ tasks, entry.1.dependencies ⊆ idsOf tasks) :
    (graphOf tasks).Closed where
  nodupKeys := Dict.nodupKeys_ofList _
  known id deps hget := by
    obtain ⟨entry, hentry, heq⟩ := List.mem_map.mp (Dict.mem_of_get?_ofList hget)
    obtain ⟨rfl, rfl⟩ := Prod.mk.inj heq
    exact ⟨List.mem_map.mpr ⟨entry, hentry, rfl⟩, hknown entry hentry⟩

end Graph

/-! ## Steps -/

section Steps

variable {books books' : Books} {called called' before : List String} {s : State}

lemma Settled.congr {task : RuntimeTask} (h : Settled cfg books called task)
    (hsame : ∀ id result, Filed books id result → SameAt books books' id)
    (hcalled : task.taskId ∈ called' ↔ task.taskId ∈ called) :
    Settled cfg books' called' task := by
  have hdep : ∀ dep ∈ task.dependencies, SameAt books books' dep := by
    intro dep hdep
    obtain ⟨result, hfiled⟩ := h.deps dep hdep
    exact hsame dep result hfiled
  obtain ⟨result, hfiled, hfailed, hcancelled⟩ := h.result
  refine ⟨fun dep hmem => ?_, ⟨result, hfiled.congr (hsame _ _ hfiled), ?_, ?_⟩, ?_⟩
  · obtain ⟨result, hresult⟩ := h.deps dep hmem
    exact ⟨result, hresult.congr (hdep dep hmem)⟩
  · rintro ⟨dep, hmem, hin⟩
    exact hfailed ⟨dep, hmem, (hdep dep hmem).failed.mp hin⟩
  · rintro hnone ⟨dep, hmem, hin⟩
    exact hcancelled (fun dep hmem => mt (hdep dep hmem).failed.mpr (hnone dep hmem))
      ⟨dep, hmem, (hdep dep hmem).cancelled.mp hin⟩
  · rw [hcalled, h.called]
    exact and_congr_left fun _ => forall₂_congr fun dep hmem => (hdep dep hmem).completed.symm

lemma workerIds_set {workers : List Worker} {i : ℕ} {worker : Worker}
    (hi : workers[i]? = some worker) (phase : Phase) :
    workerIds (workers.set i { worker with phase := phase }) = workerIds workers := by
  obtain ⟨hlt, heq⟩ := List.getElem?_eq_some_iff.mp hi
  have hlt' : i < (workerIds workers).length := by
    simpa [workerIds] using hlt
  have hsame : worker.task.taskId = (workerIds workers)[i] := by
    rw [← heq]
    simp [workerIds]
  unfold workerIds at *
  rw [List.map_set]
  dsimp only
  rw [hsame, List.set_getElem_self]

lemma mem_set_workers {workers : List Worker} (hdistinct : (workerIds workers).Nodup) {i : ℕ}
    {worker worker' other : Worker} (hi : workers[i]? = some worker)
    (hother : other ∈ workers.set i worker') :
    other = worker' ∨ other ∈ workers ∧ other.task.taskId ≠ worker.task.taskId := by
  obtain ⟨j, hj⟩ := List.mem_iff_getElem?.mp hother
  rw [List.getElem?_set] at hj
  split at hj
  · split at hj
    · exact .inl (Option.some.inj hj).symm
    · cases hj
  · rename_i hne
    refine .inr ⟨List.mem_of_getElem? hj, fun hsame => hne ?_⟩
    have hlt : i < (workerIds workers).length := by
      simpa [workerIds] using (List.getElem?_eq_some_iff.mp hi).1
    refine (List.getElem?_inj hlt hdistinct).mp ?_
    simp [workerIds, hi, hj, hsame]

lemma Inv.replace (h : Inv cfg tasks allocator s before) {i : ℕ} {worker : Worker}
    (hi : s.workers[i]? = some worker) {phase : Phase} {called : List String}
    (hsound : WorkerSound cfg called { worker with phase := phase })
    (hcalled : ∀ id, id ≠ worker.task.taskId → (id ∈ called ↔ id ∈ s.called))
    {left : ResourceAllocator}
    (hleft : left = allocator.less (heldCount (s.workers.set i { worker with phase := phase })))
    (hparallel : (heldCount (s.workers.set i { worker with phase := phase }) : ℤ) ≤
      max cfg.maxParallelism 1) :
    Inv cfg tasks allocator { s with
      workers := s.workers.set i { worker with phase := phase }
      allocator := left
      called := called } before := by
  have hmem : worker ∈ s.workers := List.mem_of_getElem? hi
  have hworking := h.working worker hmem
  have hids := workerIds_set hi phase
  refine ⟨h.tasks_eq, h.nodup, h.within, h.layered, fun id hid => ?_, ?_, fun other hother => ?_,
    fun entry hentry hbefore hout => ?_, hleft, hparallel, fun results hresults => ?_⟩
  · obtain ⟨hblank, hnot⟩ := h.fresh id hid
    exact ⟨hblank, mt (hcalled id fun heq => hid (heq ▸ hworking.entered)).mp hnot⟩
  · exact hids ▸ h.distinct
  · rcases mem_set_workers h.distinct hi hother with rfl | ⟨hold, hne⟩
    · exact ⟨hworking.listed, hworking.entered, hworking.blank, hworking.ready, hsound⟩
    · have hother := h.working other hold
      refine ⟨hother.listed, hother.entered, hother.blank, hother.ready, ?_⟩
      exact ⟨(hcalled _ hne).trans hother.sound.called, hother.sound.resolved, hother.sound.own,
        hother.sound.few, hother.sound.item⟩
  · dsimp only at hout
    rw [hids] at hout
    refine (h.settled entry hentry hbefore hout).congr (fun _ _ _ => .rfl) ?_
    refine hcalled _ fun heq => hout (heq ▸ ?_)
    exact List.mem_map.mpr ⟨worker, hmem, rfl⟩
  · have hnone := (h.finished results hresults).2.1
    rw [hnone] at hmem
    cases hmem

lemma Inv.enter (hwf : WellFormed tasks) (h : Inv cfg tasks allocator s before)
    (hopen : s.returned = none) (hidle : s.workers = []) {level : List String}
    {levels : List (List String)} (hlevels : s.levels = level :: levels) :
    let sorting := triage (taskMap s.tasks) (graphOf s.tasks) level s.books
    Inv cfg tasks allocator
      { s with books := sorting.1, levels := levels, workers := sorting.2.map (enroll cfg) }
      (before ++ level) := by
  intro sorting
  obtain ⟨hlevel, hnext, hlayered⟩ := hlevels ▸ h.layered
  -- every task of the level is in the batch, new, and has settled dependencies
  have hentryOf : ∀ id ∈ idsOf tasks, ∃ entry ∈ tasks, entry.1.taskId = id :=
    fun id hid => List.mem_map.mp hid
  have hsettled : ∀ entry ∈ tasks, entry.1.taskId ∈ before →
      Settled cfg s.books s.called entry.1 := by
    intro entry hentry hbefore
    refine h.settled entry hentry hbefore ?_
    rw [hidle]
    exact List.not_mem_nil
  have hdeps : ∀ entry ∈ tasks, entry.1.taskId ∈ level → ∀ dep ∈ entry.1.dependencies,
      dep ∉ level ∧ ∃ result, Filed s.books dep result := by
    intro entry hentry hmem dep hdep
    have hbefore : dep ∈ before := by
      refine ((hnext _).mp hmem).2.2 dep ?_
      rw [depsOf_graphOf hwf.distinct hentry]
      exact hdep
    refine ⟨fun hin => ((hnext dep).mp hin).2.1 hbefore, ?_⟩
    obtain ⟨other, hother, rfl⟩ := hentryOf dep (h.within hbefore)
    obtain ⟨result, hfiled, -⟩ := (hsettled other hother hbefore).result
    exact ⟨result, hfiled⟩
  have hlevelEntry : ∀ id ∈ level, ∃ entry ∈ tasks, entry.1.taskId = id :=
    fun id hid => hentryOf id ((hnext id).mp hid).1
  obtain ⟨hsame, hsorted, hsub⟩ := @sorted_triage (taskMap s.tasks) (graphOf s.tasks) level s.books
    hlevel
    (fun id hid => by
      obtain ⟨entry, hentry, rfl⟩ := hlevelEntry id hid
      rw [h.tasks_eq]
      exact ⟨entry, taskMap_get? hwf.distinct hentry, rfl⟩)
    (fun id hid => by
      obtain ⟨entry, hentry, rfl⟩ := hlevelEntry id hid
      rw [h.tasks_eq, dependencies_get? hwf.distinct hentry]
      rfl)
    (fun id hid => (h.fresh id ((hnext id).mp hid).2.1).1)
    (fun id hid => by
      obtain ⟨entry, hentry, rfl⟩ := hlevelEntry id hid
      rw [h.tasks_eq, depsOf_graphOf hwf.distinct hentry]
      exact hdeps entry hentry hid)
  have hfreshCalled : ∀ id ∈ level, id ∉ s.called :=
    fun id hid => (h.fresh id ((hnext id).mp hid).2.1).2
  have hids : workerIds (sorting.2.map (enroll cfg)) = idsOf sorting.2 := workerIds_enroll cfg _
  have hheld : heldCount (sorting.2.map (enroll cfg)) = 0 := by
    unfold heldCount
    rw [List.countP_eq_zero]
    intro worker hmem
    obtain ⟨entry, -, rfl⟩ := List.mem_map.mp hmem
    unfold enroll
    split
    · exact Bool.false_ne_true
    · dsimp only
      split <;> exact Bool.false_ne_true
  refine ⟨h.tasks_eq, ?_, ?_, hlayered, fun id hid => ?_, ?_, fun worker hworker => ?_,
    fun entry hentry hmem hout => ?_, ?_, ?_, fun results hresults => ?_⟩
  · exact h.nodup.append hlevel fun id hold hmem => ((hnext id).mp hmem).2.1 hold
  · intro id hid
    rcases List.mem_append.mp hid with hold | hmem
    · exact h.within hold
    · exact ((hnext id).mp hmem).1
  · rw [List.mem_append, not_or] at hid
    obtain ⟨hblank, hnot⟩ := h.fresh id hid.1
    exact ⟨hblank.congr (hsame id hid.2), hnot⟩
  · exact hids ▸ hlevel.sublist hsub
  · -- a worker's task is one of those that are run
    obtain ⟨entry, hentry, rfl⟩ := List.mem_map.mp hworker
    have hlisted : entry ∈ tasks := h.tasks_eq ▸ RunBatch.mem_of_triage hentry
    have hready : entry.1.taskId ∈ idsOf sorting.2 := List.mem_map.mpr ⟨entry, hentry, rfl⟩
    have hmem : entry.1.taskId ∈ level := hsub.subset hready
    have htask := enroll_task cfg entry
    have hcase := hsorted entry.1.taskId hmem
    rw [h.tasks_eq, depsOf_graphOf hwf.distinct hlisted, ← h.tasks_eq] at hcase
    cases hcase with
    | failed hfailed hfiled hskipped => exact absurd hready hskipped
    | cancelled hnone hcancelled hfiled hskipped => exact absurd hready hskipped
    | run hcompleted hblank _ =>
        refine ⟨?_, ?_, htask ▸ hblank, ?_, workerSound_enroll (hfreshCalled _ hmem)⟩
        · rw [htask, enroll_routing]
          exact hlisted
        · rw [htask]
          exact List.mem_append_right _ hmem
        · rw [htask]
          intro dep hdep
          obtain ⟨hout, result, hfiled⟩ := hdeps entry hlisted hmem dep hdep
          have hdepsame := hsame dep hout
          exact ⟨hdepsame.completed.mpr (hcompleted dep hdep), result, hfiled.congr hdepsame⟩
  · dsimp only at hout ⊢
    rw [hids] at hout
    rcases List.mem_append.mp hmem with hold | hnew
    · -- settled before
      refine (hsettled entry hentry hold).congr (fun id result hfiled => hsame id fun hin => ?_)
        Iff.rfl
      exact hfiled.not_blank (h.fresh id ((hnext id).mp hin).2.1).1
    · -- skipped now
      have hnot := hfreshCalled _ hnew
      have hfiledDeps : ∀ dep ∈ entry.1.dependencies, ∃ result, Filed sorting.1 dep result := by
        intro dep hdep
        obtain ⟨hdepOut, result, hfiled⟩ := hdeps entry hentry hnew dep hdep
        exact ⟨result, hfiled.congr (hsame dep hdepOut)⟩
      have hdepSame : ∀ dep ∈ entry.1.dependencies, SameAt s.books sorting.1 dep :=
        fun dep hdep => hsame dep (hdeps entry hentry hnew dep hdep).1
      have huncompleted : (∃ dep ∈ entry.1.dependencies, dep ∉ sorting.1.completed) →
          (entry.1.taskId ∈ s.called ↔
            (∀ dep ∈ entry.1.dependencies, dep ∈ sorting.1.completed) ∧
              cfg.isCancelled entry.1.taskId = false ∧ admitted cfg entry.1 = true) := by
        rintro ⟨dep, hdep, hin⟩
        exact iff_of_false hnot fun hall => hin (hall.1 dep hdep)
      have hcase := hsorted entry.1.taskId hnew
      rw [h.tasks_eq, depsOf_graphOf hwf.distinct hentry, ← h.tasks_eq] at hcase
      cases hcase with
      | failed hfailed hfiled hskipped =>
          obtain ⟨dep, hdep, hin⟩ := hfailed
          have hin' := (hdepSame dep hdep).failed.mpr hin
          obtain ⟨result, hresult⟩ := hfiledDeps dep hdep
          refine ⟨hfiledDeps, ⟨_, hfiled, fun _ => rfl, fun hnone => ?_⟩,
            huncompleted ⟨dep, hdep, ?_⟩⟩
          · exact absurd hin' (hnone dep hdep)
          · rcases hresult.one with hone | hone | hone
            · exact absurd hin' hone.2.2
            · exact hone.1
            · exact hone.1
      | cancelled hnone hcancelled hfiled hskipped =>
          obtain ⟨dep, hdep, hin⟩ := hcancelled
          have hin' := (hdepSame dep hdep).cancelled.mpr hin
          obtain ⟨result, hresult⟩ := hfiledDeps dep hdep
          refine ⟨hfiledDeps, ⟨_, hfiled, ?_, fun _ _ => rfl⟩, huncompleted ⟨dep, hdep, ?_⟩⟩
          · rintro ⟨other, hother, hfailed⟩
            exact absurd ((hdepSame other hother).failed.mp hfailed) (hnone other hother)
          · rcases hresult.one with hone | hone | hone
            · exact absurd hin' hone.2.1
            · exact hone.1
            · exact hone.1
      | run _ _ hready => exact absurd hready hout
  · rw [hheld]
    have hzero : heldCount s.workers = 0 := by
      rw [hidle]
      rfl
    exact h.resources.trans (by rw [hzero])
  · rw [hheld]
    exact le_max_of_le_right (by decide)
  · rw [hopen] at hresults
    cases hresults

lemma gathered {workers : List Worker} {items : List RuntimeResult}
    (hitems : (workers.mapM fun worker : Worker => worker.phase.item?.map (filed worker)) =
      some items)
    (hsound : ∀ worker ∈ workers, WorkerSound cfg called worker) :
    items.map RuntimeResult.taskId = workerIds workers ∧
      ∀ worker ∈ workers, ∃ ended, worker.phase = .done ended := by
  induction workers generalizing items with
  | nil =>
      obtain rfl := Option.some.inj hitems
      exact ⟨rfl, fun worker hmem => by cases hmem⟩
  | cons worker rest ih =>
      simp only [List.mapM_cons, Option.bind_eq_bind, Option.bind_eq_some_iff, Option.pure_def,
        Option.some.injEq, Option.map_eq_some_iff] at hitems
      obtain ⟨item, ⟨ended, hended, rfl⟩, others, hothers, rfl⟩ := hitems
      obtain ⟨hids, hdone⟩ := ih hothers fun w hw => hsound w (List.mem_cons_of_mem _ hw)
      have hphase : worker.phase = .done ended := Phase.item?_eq_some.mp hended
      have hown : (filed worker ended).taskId = worker.task.taskId := by
        cases ended with
        | ok item => exact (hsound worker List.mem_cons_self).item item hphase
        | error exception => rfl
      refine ⟨?_, fun w hw => ?_⟩
      · rw [List.map_cons, hids, hown]
        rfl
      · rcases List.mem_cons.mp hw with rfl | hw
        · exact ⟨ended, hphase⟩
        · exact hdone w hw

lemma Inv.gather (hwf : WellFormed tasks) (h : Inv cfg tasks allocator s before)
    (hne : s.workers ≠ []) {items : List RuntimeResult}
    (hitems : (s.workers.mapM fun worker : Worker => worker.phase.item?.map (filed worker)) =
      some items) :
    Inv cfg tasks allocator
      { s with books := items.foldl Books.record s.books, workers := [] } before := by
  obtain ⟨hids, hdone⟩ := gathered hitems fun worker hworker => (h.working worker hworker).sound
  have hworkerOf : ∀ id ∈ workerIds s.workers, ∃ worker ∈ s.workers, worker.task.taskId = id :=
    fun id hid => List.mem_map.mp hid
  obtain ⟨hfiled, hsame⟩ := @filed_foldl s.books items (hids ▸ h.distinct) fun item hitem => by
    have hmem : item.taskId ∈ workerIds s.workers := hids ▸ List.mem_map_of_mem hitem
    obtain ⟨worker, hworker, heq⟩ := hworkerOf _ hmem
    exact heq ▸ (h.working worker hworker).blank
  rw [hids] at hsame
  -- what is filed already is no worker's
  have hkept : ∀ id result, Filed s.books id result →
      SameAt s.books (items.foldl Books.record s.books) id := by
    intro id result hresult
    refine hsame id fun hmem => ?_
    obtain ⟨worker, hworker, rfl⟩ := hworkerOf id hmem
    exact hresult.not_blank (h.working worker hworker).blank
  refine ⟨h.tasks_eq, h.nodup, h.within, h.layered, fun id hid => ?_, List.nodup_nil,
    fun worker hworker => (by cases hworker), fun entry hentry hmem _ => ?_, ?_, ?_,
    fun results hresults => ?_⟩
  · obtain ⟨hblank, hnot⟩ := h.fresh id hid
    refine ⟨hblank.congr (hsame id fun hmem => ?_), hnot⟩
    obtain ⟨worker, hworker, rfl⟩ := hworkerOf id hmem
    exact hid (h.working worker hworker).entered
  · by_cases hout : entry.1.taskId ∈ workerIds s.workers
    · -- its worker has ended
      obtain ⟨worker, hworker, heq⟩ := hworkerOf _ hout
      have hworking := h.working worker hworker
      have htask : worker.task = entry.1 :=
        congrArg Prod.fst (eq_of_taskId hwf.distinct hworking.listed hentry heq)
      rw [← htask] at hout ⊢
      have hdeps : ∀ dep ∈ worker.task.dependencies,
          dep ∈ (items.foldl Books.record s.books).completed ∧
            ∃ result, Filed (items.foldl Books.record s.books) dep result := by
        intro dep hdep
        obtain ⟨hcompleted, result, hresult⟩ := hworking.ready dep hdep
        have hdepSame := hkept dep result hresult
        exact ⟨hdepSame.completed.mpr hcompleted, result, hresult.congr hdepSame⟩
      have hnone : ∀ dep ∈ worker.task.dependencies,
          dep ∉ (items.foldl Books.record s.books).failed ∧
            dep ∉ (items.foldl Books.record s.books).cancelled := by
        intro dep hdep
        obtain ⟨hcompleted, result, hresult⟩ := hdeps dep hdep
        rcases hresult.one with hone | hone | hone
        · exact ⟨hone.2.2, hone.2.1⟩
        · exact absurd hcompleted hone.1
        · exact absurd hcompleted hone.1
      rw [← hids] at hout
      obtain ⟨item, hitem, hown⟩ := List.mem_map.mp hout
      refine ⟨fun dep hdep => (hdeps dep hdep).2, ⟨item, hown ▸ hfiled item hitem, ?_, ?_⟩, ?_⟩
      · rintro ⟨dep, hdep, hfailed⟩
        exact absurd hfailed (hnone dep hdep).1
      · rintro _ ⟨dep, hdep, hcancelled⟩
        exact absurd hcancelled (hnone dep hdep).2
      · refine hworking.sound.called.trans (and_congr_left fun _ => ?_)
        obtain ⟨ended, hphase⟩ := hdone worker hworker
        refine iff_of_true ?_ fun dep hdep => (hdeps dep hdep).1
        rw [hphase]
        rfl
    · exact (h.settled entry hentry hmem hout).congr hkept Iff.rfl
  · -- workers that have ended hold nothing
    have hzero : heldCount s.workers = 0 := by
      unfold heldCount
      rw [List.countP_eq_zero]
      intro worker hworker
      obtain ⟨ended, hphase⟩ := hdone worker hworker
      rw [hphase]
      exact Bool.false_ne_true
    exact h.resources.trans (by rw [hzero]; rfl)
  · exact le_max_of_le_right Int.one_nonneg
  · exact absurd (h.finished results hresults).2.1 hne

/-- A result carries the id of the task it is returned for. -/
def OwnId (s : State) : Move → Prop
  | .answer i (.returned result) =>
      ∀ worker, s.workers[i]? = some worker → result.taskId = worker.task.taskId
  | _ => True

instance decidableOwnId (s : State) : ∀ move, Decidable (OwnId s move)
  | .answer i (.returned result) =>
      match h : s.workers[i]? with
      | none => isTrue fun worker hworker => absurd (h.symm.trans hworker) (by simp)
      | some worker => decidable_of_iff (result.taskId = worker.task.taskId)
          ⟨fun hid other hother => Option.some.inj (h.symm.trans hother) ▸ hid,
            fun hown => hown worker h⟩
  | .answer _ .timedOut => isTrue trivial
  | .answer _ (.raised _) => isTrue trivial
  | .advance => isTrue trivial
  | .acquire => isTrue trivial
  | .attempt _ => isTrue trivial
  | .gather => isTrue trivial

lemma Inv.goOn (h : Inv cfg tasks allocator s before) {i : ℕ} {worker : Worker}
    (hi : s.workers[i]? = some worker) (hheld : worker.phase.held = true) {phase : Phase}
    {called : List String} (hsound : WorkerSound cfg called { worker with phase := phase })
    (hcalled : ∀ id, id ≠ worker.task.taskId → (id ∈ called ↔ id ∈ s.called)) :
    Inv cfg tasks allocator { s.goOn i worker phase with called := called } before := by
  have hcount := heldCount_set hi { worker with phase := phase }
  rw [if_pos hheld] at hcount
  have hparallel := h.parallel
  refine h.replace hi hsound hcalled ?_ ?_
  · show (if phase.held then s.allocator else s.allocator.release) = _
    split
    · rename_i hphase
      rw [if_pos hphase] at hcount
      rw [h.resources, Nat.add_right_cancel hcount]
    · rename_i hphase
      rw [if_neg hphase] at hcount
      rw [h.resources, ← Nat.add_zero (heldCount s.workers), ← hcount,
        ResourceAllocator.release_less]
  · split at hcount <;> omega

lemma Inv.conclude (h : Inv cfg tasks allocator s before) {i : ℕ} {worker : Worker}
    (hi : s.workers[i]? = some worker) (hheld : worker.phase.held = true) {result : RuntimeResult}
    (hresult : result.taskId = worker.task.taskId)
    (hcalled : worker.task.taskId ∈ s.called ↔
      cfg.isCancelled worker.task.taskId = false ∧ admitted cfg worker.task = true) :
    Inv cfg tasks allocator
      (s.goOn i worker (conclude cfg worker worker.phase.attempts result)) before := by
  have hworking := h.working worker (List.mem_of_getElem? hi)
  obtain ⟨hbegun, hown, hfew, hitem, -⟩ :=
    @conclude_spec cfg worker worker.phase.attempts result hworking.sound.own hresult
  refine h.goOn hi hheld ⟨?_, fun _ => hworking.sound.resolved ?_, hown, hfew, hitem⟩
    fun _ _ => Iff.rfl
  · exact hcalled.trans ⟨fun hrest => ⟨hbegun, hrest⟩, fun hall => hall.2⟩
  · cases hphase : worker.phase with
    | done item => rw [hphase] at hheld; cases hheld
    | waiting => rfl
    | ready attempts => rfl
    | executing attempts => rfl

lemma Inv.acquire (h : Inv cfg tasks allocator s before)
    (hcovers : allocator.Covers (min (max cfg.maxParallelism 1) tasks.length)) {i : ℕ}
    {worker : Worker} (hi : s.workers[i]? = some worker) (hphase : worker.phase = .waiting)
    (hfree : (heldCount s.workers : ℤ) < max cfg.maxParallelism 1) :
    s.allocator.allocate = some (allocator.less (heldCount s.workers + 1)) ∧
      Inv cfg tasks allocator { s with
        workers := s.workers.set i { worker with phase := .ready [] }
        allocator := allocator.less (heldCount s.workers + 1) } before := by
  have hmem : worker ∈ s.workers := List.mem_of_getElem? hi
  have hworking := h.working worker hmem
  have hcount := heldCount_set hi { worker with phase := .ready [] }
  have hnot : worker.phase.held = false := by rw [hphase]; rfl
  rw [hnot, if_neg Bool.false_ne_true, if_pos (show Phase.held (.ready []) = true from rfl),
    Nat.add_zero] at hcount
  -- one worker is waiting, so fewer than there are tasks are held
  have hlength : s.workers.length ≤ tasks.length := by
    have hsub : workerIds s.workers ⊆ idsOf tasks := by
      intro id hid
      obtain ⟨other, hother, rfl⟩ := List.mem_map.mp hid
      exact h.within (h.working other hother).entered
    have hle := (List.subperm_of_subset h.distinct hsub).length_le
    simpa [workerIds, idsOf] using hle
  have hheld : heldCount s.workers < s.workers.length := by
    refine lt_of_le_of_ne List.countP_le_length fun hall => ?_
    have hhere := List.countP_eq_length.mp hall worker hmem
    rw [hnot] at hhere
    cases hhere
  have henough : allocator.Covers ((heldCount s.workers : ℤ) + 1) := by
    have hbound : (heldCount s.workers : ℤ) + 1 ≤ min (max cfg.maxParallelism 1) tasks.length :=
      le_min (by omega) (by omega)
    exact ⟨hbound.trans hcovers.cpu, hbound.trans hcovers.memory, hbound.trans hcovers.token,
      hcovers.internet⟩
  refine ⟨h.resources ▸ ResourceAllocator.allocate_less henough, ?_⟩
  have hsound : WorkerSound cfg s.called { worker with phase := .ready [] } := by
    refine ⟨?_, fun _ => hworking.sound.resolved (by rw [hphase]; rfl),
      fun attempt hattempt => (by cases hattempt), Nat.zero_le _,
      fun item hitem => (by cases hitem)⟩
    refine hworking.sound.called.trans ?_
    rw [hphase]
    exact Iff.rfl
  refine h.replace hi hsound (fun _ _ => Iff.rfl) (by rw [hcount]) ?_
  rw [hcount]
  push_cast
  omega

lemma Inv.step (hwf : WellFormed tasks)
    (hcovers : allocator.Covers (min (max cfg.maxParallelism 1) tasks.length))
    (h : Inv cfg tasks allocator s before) {move : Move} {t : State} (hown : OwnId s move)
    (hstep : step cfg s move = some t) : ∃ after, Inv cfg tasks allocator t after := by
  cases steps_of_step cfg hstep with
  | returned hopen hidle hlevels =>
      refine ⟨before, h.tasks_eq, h.nodup, h.within, h.layered, h.fresh, h.distinct,
        h.working, h.settled, h.resources, h.parallel, fun results hresults => ?_⟩
      exact ⟨hlevels, hidle, (Option.some.inj hresults).symm⟩
  | entered hopen hidle hlevels => exact ⟨_, h.enter hwf hopen hidle hlevels⟩
  | refused hi hphase hfree hnone =>
      rw [(h.acquire hcovers hi hphase hfree).1] at hnone
      cases hnone
  | acquired hi hphase hfree hsome =>
      obtain ⟨hallocate, hinv⟩ := h.acquire hcovers hi hphase hfree
      obtain rfl := Option.some.inj (hallocate.symm.trans hsome)
      exact ⟨before, hinv⟩
  | @cancelled i worker attempts hi hphase hcancelled =>
      have hworking := h.working worker (List.mem_of_getElem? hi)
      have hattempts : worker.phase.attempts = attempts := by rw [hphase]; rfl
      rw [← hattempts]
      refine ⟨before, h.conclude hi (by rw [hphase]; rfl) rfl (hworking.sound.called.trans ?_)⟩
      exact iff_of_false (fun hall => absurd hall.2.1 (by simp [hcancelled]))
        fun hall => absurd hall.1 (by simp [hcancelled])
  | @incomparable i worker attempts exception hi hphase hcancelled herror =>
      have hworking := h.working worker (List.mem_of_getElem? hi)
      have hattempts : worker.phase.attempts = attempts := by rw [hphase]; rfl
      have hadmitted : admitted cfg worker.task = false := by
        rw [admitted, herror]
        exact Bool.and_false _
      rw [← hattempts]
      refine ⟨before, h.conclude hi (by rw [hphase]; rfl) rfl (hworking.sound.called.trans ?_)⟩
      exact iff_of_false (fun hall => absurd hall.2.2 (by simp [hadmitted]))
        fun hall => absurd hall.2 (by simp [hadmitted])
  | @called i worker attempts hi hphase hcancelled hnone =>
      have hworking := h.working worker (List.mem_of_getElem? hi)
      have hattempts : worker.phase.attempts = attempts := by rw [hphase]; rfl
      have hresolved : (workerIdOf cfg worker.task).isOk = true :=
        hworking.sound.resolved (by rw [hphase]; rfl)
      have hadmitted : admitted cfg worker.task = true := by
        rw [admitted, hresolved, hnone]
        rfl
      refine ⟨before, h.goOn hi (by rw [hphase]; rfl) ⟨?_, fun _ => hresolved, ?_, ?_,
        fun item hitem => (by cases hitem)⟩ fun id hne => ?_⟩
      · refine iff_of_true (List.mem_append_right _ (List.mem_singleton.mpr rfl)) ?_
        exact ⟨rfl, hcancelled, hadmitted⟩
      · exact hattempts ▸ hworking.sound.own
      · exact hattempts ▸ hworking.sound.few
      · rw [List.mem_append, List.mem_singleton]
        exact or_iff_left hne
  | @answered i worker attempts answer hi hphase =>
      have hworking := h.working worker (List.mem_of_getElem? hi)
      have hattempts : worker.phase.attempts = attempts := by rw [hphase]; rfl
      have hbegun : worker.phase.begun = true := by rw [hphase]; rfl
      have hresult : (answer.result cfg worker.task).taskId = worker.task.taskId := by
        cases answer with
        | returned result => exact hown worker hi
        | timedOut => rfl
        | raised exception => rfl
      rw [← hattempts]
      refine ⟨before, h.conclude hi (by rw [hphase]; rfl) hresult
        (hworking.sound.called.trans ?_)⟩
      exact ⟨fun hall => hall.2, fun hrest => ⟨hbegun, hrest⟩⟩
  | gathered hne hitems => exact ⟨before, h.gather hwf hne hitems⟩

end Steps

/-! ## Progress -/

section Progress

variable {s t : State} {before : List String}

/-- How many moves the workers can still make. -/
def workWeight (cfg : Config) (workers : List Worker) : ℕ :=
  (workers.map fun worker => weight cfg worker.phase).sum

/-- How many moves a level takes at most. -/
def levelWeight (cfg : Config) (level : List String) : ℕ :=
  level.length * (2 * (cfg.maxRetries.toNat + 1) + 1) + 2

/-- How many moves a call can still make. -/
def movesLeft (cfg : Config) (s : State) : ℕ :=
  if s.returned.isSome then 0
  else 1 + (s.levels.map (levelWeight cfg)).sum + workWeight cfg s.workers +
    if s.workers.isEmpty then 0 else 1

lemma workWeight_set {workers : List Worker} {i : ℕ} {worker : Worker}
    (hi : workers[i]? = some worker) (phase : Phase) :
    workWeight cfg (workers.set i { worker with phase := phase }) + weight cfg worker.phase =
      workWeight cfg workers + weight cfg phase := by
  unfold workWeight
  induction workers generalizing i with
  | nil => cases hi
  | cons first rest ih =>
      cases i with
      | zero =>
          obtain rfl : first = worker := Option.some.inj hi
          rw [List.set_cons_zero, List.map_cons, List.map_cons, List.sum_cons, List.sum_cons]
          dsimp only
          omega
      | succ i =>
          have hrest := ih hi
          rw [List.set_cons_succ, List.map_cons, List.map_cons, List.sum_cons, List.sum_cons]
          omega

lemma length_triage_le (map : Dict String (RuntimeTask × RoutingDecision)) (graph : Graph)
    (level : List String) (books : Books) :
    (triage map graph level books).2.length ≤ level.length := by
  induction level generalizing books with
  | nil => exact Nat.le_refl _
  | cons id rest ih =>
      rw [triage, List.length_cons]
      split
      · exact Nat.le_succ_of_le (ih _)
      · dsimp only
        split
        · exact Nat.le_succ_of_le (ih _)
        · split
          · exact Nat.le_succ_of_le (ih _)
          · split
            · exact Nat.le_succ_of_le (ih _)
            · exact Nat.succ_le_succ (ih _)

lemma workWeight_enroll_le (entries : List (RuntimeTask × RoutingDecision)) :
    workWeight cfg (entries.map (enroll cfg)) ≤
      entries.length * (2 * (cfg.maxRetries.toNat + 1) + 1) := by
  induction entries with
  | nil => exact Nat.zero_le _
  | cons entry rest ih =>
      have hone : weight cfg (enroll cfg entry).phase ≤ 2 * (cfg.maxRetries.toNat + 1) + 1 := by
        unfold enroll
        split
        · exact Nat.zero_le _
        · dsimp only
          split
          · exact Nat.zero_le _
          · exact Nat.le_refl _
      unfold workWeight at ih ⊢
      rw [List.map_cons, List.map_cons, List.sum_cons, List.length_cons, Nat.succ_mul]
      omega

lemma movesLeft_set (h : Inv cfg tasks allocator s before) {i : ℕ} {worker : Worker}
    (hi : s.workers[i]? = some worker) {phase : Phase}
    (hless : weight cfg phase < weight cfg worker.phase)
    (hworkers : t.workers = s.workers.set i { worker with phase := phase })
    (hlevels : t.levels = s.levels) (hreturned : t.returned = s.returned) :
    movesLeft cfg t < movesLeft cfg s := by
  have hopen : s.returned = none := by
    cases hresults : s.returned with
    | none => rfl
    | some results =>
        have hmem := List.mem_of_getElem? hi
        rw [(h.finished results hresults).2.1] at hmem
        cases hmem
  have hweight : workWeight cfg (s.workers.set i { worker with phase := phase }) +
      weight cfg worker.phase = workWeight cfg s.workers + weight cfg phase :=
    workWeight_set hi phase
  have hempty : (s.workers.set i { worker with phase := phase }).isEmpty = s.workers.isEmpty := by
    cases s.workers with
    | nil => rfl
    | cons first rest => cases i <;> rfl
  unfold movesLeft
  rw [hreturned, hopen, hworkers, hlevels, hempty]
  simp only [Option.isSome_none, Bool.false_eq_true, if_false]
  omega

/-- Every move uses one up. -/
lemma movesLeft_step (h : Inv cfg tasks allocator s before) {move : Move} (hown : OwnId s move)
    (hstep : step cfg s move = some t) : movesLeft cfg t < movesLeft cfg s := by
  have hconclude : ∀ {i : ℕ} {worker : Worker} {attempts : List Attempt} {result : RuntimeResult},
      s.workers[i]? = some worker → worker.phase.attempts = attempts →
      result.taskId = worker.task.taskId →
      2 * (cfg.maxRetries.toNat - attempts.length) < weight cfg worker.phase →
      movesLeft cfg (s.goOn i worker (conclude cfg worker attempts result)) < movesLeft cfg s := by
    intro i worker attempts result hi hattempts hresult hless
    have hworking := h.working worker (List.mem_of_getElem? hi)
    rw [← hattempts] at hless ⊢
    obtain ⟨-, -, -, -, hweight⟩ :=
      @conclude_spec cfg worker worker.phase.attempts result hworking.sound.own hresult
    exact movesLeft_set h hi (lt_of_le_of_lt hweight hless) rfl rfl rfl
  have hfew : ∀ {i : ℕ} {worker : Worker} {attempts : List Attempt},
      s.workers[i]? = some worker → worker.phase.attempts = attempts →
      attempts.length ≤ cfg.maxRetries.toNat := by
    intro i worker attempts hi hattempts
    exact hattempts ▸ (h.working worker (List.mem_of_getElem? hi)).sound.few
  cases steps_of_step cfg hstep with
  | returned hopen hidle hlevels =>
      unfold movesLeft
      rw [hopen]
      simp only [Option.isSome_some, if_true, Option.isSome_none, Bool.false_eq_true, if_false]
      omega
  | @entered level levels hopen hidle hlevels =>
      have hlength := length_triage_le (taskMap s.tasks) (graphOf s.tasks) level s.books
      have hweight := @workWeight_enroll_le cfg
        (triage (taskMap s.tasks) (graphOf s.tasks) level s.books).2
      have hmul := Nat.mul_le_mul_right (2 * (cfg.maxRetries.toNat + 1) + 1) hlength
      have hzero : workWeight cfg ([] : List Worker) = 0 := rfl
      have hflag : ∀ b : Bool, (if b = true then 0 else 1) ≤ 1 := by decide
      have hflag' := hflag ((triage (taskMap s.tasks) (graphOf s.tasks) level s.books).2.map
        (enroll cfg)).isEmpty
      unfold movesLeft
      rw [hopen, hlevels, hidle]
      simp only [Option.isSome_none, Bool.false_eq_true, if_false, List.map_cons, List.sum_cons,
        levelWeight, hzero, List.isEmpty_nil, if_true]
      omega
  | refused hi hphase hfree hnone =>
      refine movesLeft_set h hi ?_ rfl rfl rfl
      rw [hphase]
      exact Nat.succ_pos _
  | acquired hi hphase hfree hsome =>
      refine movesLeft_set h hi ?_ rfl rfl rfl
      rw [hphase]
      exact Nat.lt_succ_self _
  | @cancelled i worker attempts hi hphase hcancelled =>
      have hlength : attempts.length ≤ cfg.maxRetries.toNat := hfew hi (by rw [hphase]; rfl)
      refine hconclude hi (by rw [hphase]; rfl) rfl ?_
      rw [hphase, weight]
      omega
  | @incomparable i worker attempts exception hi hphase hcancelled herror =>
      have hlength : attempts.length ≤ cfg.maxRetries.toNat := hfew hi (by rw [hphase]; rfl)
      refine hconclude hi (by rw [hphase]; rfl) rfl ?_
      rw [hphase, weight]
      omega
  | @called i worker attempts hi hphase hcancelled hnone =>
      have hlength : attempts.length ≤ cfg.maxRetries.toNat := hfew hi (by rw [hphase]; rfl)
      refine movesLeft_set h hi ?_ rfl rfl rfl
      rw [hphase, weight, weight]
      omega
  | @answered i worker attempts answer hi hphase =>
      have hlength : attempts.length ≤ cfg.maxRetries.toNat := hfew hi (by rw [hphase]; rfl)
      have hresult : (answer.result cfg worker.task).taskId = worker.task.taskId := by
        cases answer with
        | returned result => exact hown worker hi
        | timedOut => rfl
        | raised exception => rfl
      refine hconclude hi (by rw [hphase]; rfl) hresult ?_
      rw [hphase, weight]
      omega
  | gathered hne hitems =>
      have hzero : workWeight cfg ([] : List Worker) = 0 := rfl
      have hopen : s.returned = none := by
        cases hresults : s.returned with
        | none => rfl
        | some results => exact absurd (h.finished results hresults).2.1 hne
      unfold movesLeft
      rw [hopen]
      simp only [Option.isSome_none, Bool.false_eq_true, if_false, hzero, List.isEmpty_nil, if_true,
        List.isEmpty_eq_false_iff.mpr hne]
      omega

/-- A call that has not returned can go on, whatever the executor answers. -/
lemma exists_step (hopen : s.returned = none) :
    ∃ move t, OwnId s move ∧ step cfg s move = some t := by
  by_cases hidle : s.workers = []
  · cases hlevels : s.levels with
    | nil => exact ⟨.advance, _, trivial, by simp only [step, hopen, hidle, hlevels]; rfl⟩
    | cons level levels =>
        exact ⟨.advance, _, trivial, by simp only [step, hopen, hidle, hlevels]; rfl⟩
  · by_cases hheld : ∃ worker ∈ s.workers, worker.phase.held = true
    · -- a worker behind the semaphore goes on
      obtain ⟨worker, hworker, hphase⟩ := hheld
      obtain ⟨i, hi⟩ := List.mem_iff_getElem?.mp hworker
      cases hcase : worker.phase with
      | waiting => rw [hcase] at hphase; cases hphase
      | done item => rw [hcase] at hphase; cases hphase
      | executing attempts =>
          exact ⟨.answer i .timedOut, _, trivial, by simp only [step, hi, hcase]; rfl⟩
      | ready attempts =>
          refine ⟨.attempt i, ?_⟩
          simp only [step, hi, hcase]
          split
          · exact ⟨_, trivial, rfl⟩
          · split
            · exact ⟨_, trivial, rfl⟩
            · exact ⟨_, trivial, rfl⟩
    · have hzero : heldCount s.workers = 0 := by
        unfold heldCount
        rw [List.countP_eq_zero]
        exact fun worker hworker hphase => hheld ⟨worker, hworker, hphase⟩
      by_cases hwaiting : ∃ worker ∈ s.workers, worker.phase.isWaiting = true
      · -- the semaphore is free
        have hfree : (heldCount s.workers : ℤ) < max cfg.maxParallelism 1 := by
          rw [hzero]
          exact lt_max_of_lt_right (by decide)
        have hfind := List.findIdx?_isSome.trans (List.any_eq_true.mpr hwaiting)
        obtain ⟨i, hi⟩ := Option.isSome_iff_exists.mp hfind
        obtain ⟨hlt, -⟩ := List.findIdx?_eq_some_iff_getElem.mp hi
        refine ⟨.acquire, ?_⟩
        simp only [step, hi, hfree, if_true, List.getElem?_eq_getElem hlt]
        split
        · exact ⟨_, trivial, rfl⟩
        · exact ⟨_, trivial, rfl⟩
      · -- all workers have ended
        have hended : ∀ worker ∈ s.workers, ∃ item, worker.phase = .done item := by
          intro worker hworker
          cases hcase : worker.phase with
          | waiting => exact absurd ⟨worker, hworker, by rw [hcase]; rfl⟩ hwaiting
          | ready attempts => exact absurd ⟨worker, hworker, by rw [hcase]; rfl⟩ hheld
          | executing attempts => exact absurd ⟨worker, hworker, by rw [hcase]; rfl⟩ hheld
          | done item => exact ⟨item, rfl⟩
        obtain ⟨items, hitems⟩ : ∃ items, (s.workers.mapM fun worker : Worker =>
            worker.phase.item?.map (filed worker)) = some items := by
          clear hidle hheld hzero hwaiting
          generalize s.workers = workers at hended ⊢
          induction workers with
          | nil => exact ⟨[], rfl⟩
          | cons worker rest ih =>
              obtain ⟨item, hitem⟩ := hended worker List.mem_cons_self
              obtain ⟨items, hitems⟩ := ih fun w hw => hended w (List.mem_cons_of_mem _ hw)
              refine ⟨filed worker item :: items, ?_⟩
              rw [List.mapM_cons, hitems, hitem]
              rfl
        have hstep : step cfg s .gather = some { s with
            books := items.foldl Books.record s.books, workers := [] } := by
          simp only [step, hitems, List.isEmpty_eq_false_iff.mpr hidle, Bool.false_eq_true,
            if_false]
          rfl
        exact ⟨.gather, _, trivial, hstep⟩

end Progress

/-! ## The results -/

/-- The results have a status for a task. -/
def Ended (results : List RuntimeResult) (id : String) (status : TaskStatus) : Prop :=
  ∃ result ∈ results, result.taskId = id ∧ result.status = status

/-- What the results and the resources say once `schedule` has returned. -/
structure Accounted (cfg : Config) (tasks : List (RuntimeTask × RoutingDecision))
    (allocator : ResourceAllocator) (s : State) (results : List RuntimeResult) : Prop where
  /-- One result for each task, in the order of the batch. -/
  inOrder : results.map RuntimeResult.taskId = idsOf tasks
  called : ∀ entry ∈ tasks, entry.1.taskId ∈ s.called ↔
    (∀ dep ∈ entry.1.dependencies, Ended results dep .completed) ∧
      cfg.isCancelled entry.1.taskId = false ∧ admitted cfg entry.1 = true
  failed : ∀ entry ∈ tasks, (∃ dep ∈ entry.1.dependencies, ∃ status, Ended results dep status ∧
    status ≠ .completed ∧ status ≠ .cancelled) → Ended results entry.1.taskId .failed
  cancelled : ∀ entry ∈ tasks, (∃ dep ∈ entry.1.dependencies, ¬ Ended results dep .completed) →
    (∀ dep ∈ entry.1.dependencies,
      Ended results dep .completed ∨ Ended results dep .cancelled) →
    Ended results entry.1.taskId .cancelled
  released : s.allocator = allocator

section Results

variable {s : State} {before : List String}

lemma ordered_ids {books : Books} (h : ∀ entry ∈ tasks, ∃ result,
    Filed books entry.1.taskId result) :
    (ordered tasks books).map RuntimeResult.taskId = idsOf tasks := by
  unfold ordered idsOf
  induction tasks with
  | nil => rfl
  | cons entry rest ih =>
      obtain ⟨result, hfiled⟩ := h entry List.mem_cons_self
      rw [List.filterMap_cons, hfiled.results, List.map_cons, List.map_cons, hfiled.ownId,
        ih fun other hother => h other (List.mem_cons_of_mem _ hother)]

lemma Inv.accounted (hwf : WellFormed tasks) (h : Inv cfg tasks allocator s before)
    {results : List RuntimeResult} (hreturned : s.returned = some results) :
    Accounted cfg tasks allocator s results := by
  obtain ⟨hlevels, hidle, rfl⟩ := h.finished results hreturned
  rw [h.tasks_eq]
  -- every task has been entered, and none has a worker
  have hall : ∀ id ∈ idsOf tasks, id ∈ before := by
    have hcovers := h.layered.covers (fun id _ dep hdep =>
      ((closed_graphOf hwf.known).mem_taskIds hdep).2)
      hwf.acyclic
    rw [hlevels, List.flatten_nil, List.append_nil] at hcovers
    exact fun id hid => hcovers hid
  have hsettled : ∀ entry ∈ tasks, Settled cfg s.books s.called entry.1 := by
    intro entry hentry
    refine h.settled entry hentry (hall _ (List.mem_map.mpr ⟨entry, hentry, rfl⟩)) ?_
    rw [hidle]
    exact List.not_mem_nil
  have hended : ∀ {id : String} {result : RuntimeResult}, id ∈ idsOf tasks →
      Filed s.books id result → ∀ status,
      (Ended (ordered tasks s.books) id status ↔ result.status = status) := by
    intro id result hid hfiled status
    obtain ⟨entry, hentry, rfl⟩ := List.mem_map.mp hid
    constructor
    · rintro ⟨other, hother, hown, rfl⟩
      obtain ⟨entry', hentry', hget⟩ := List.mem_filterMap.mp hother
      obtain ⟨result', hfiled', -⟩ := (hsettled entry' hentry').result
      obtain rfl : result' = other := Option.some.inj (hfiled'.results.symm.trans hget)
      rw [hfiled'.ownId] at hown
      rw [hown, hfiled.results] at hget
      rw [Option.some.inj hget]
    · rintro rfl
      exact ⟨result, List.mem_filterMap.mpr ⟨entry, hentry, hfiled.results⟩, hfiled.ownId, rfl⟩
  have hdep : ∀ entry ∈ tasks, ∀ dep ∈ entry.1.dependencies, ∃ result,
      Filed s.books dep result ∧
        ∀ status, Ended (ordered tasks s.books) dep status ↔ result.status = status := by
    intro entry hentry dep hmem
    obtain ⟨result, hfiled⟩ := (hsettled entry hentry).deps dep hmem
    exact ⟨result, hfiled, hended (hwf.known entry hentry hmem) hfiled⟩
  refine ⟨?_, fun entry hentry => ?_, fun entry hentry hbad => ?_,
    fun entry hentry hnot hrest => ?_,
    ?_⟩
  · refine ordered_ids fun entry hentry => ?_
    obtain ⟨result, hfiled, -⟩ := (hsettled entry hentry).result
    exact ⟨result, hfiled⟩
  · rw [(hsettled entry hentry).called]
    refine and_congr_left fun _ => forall₂_congr fun dep hmem => ?_
    obtain ⟨result, hfiled, hstatus⟩ := hdep entry hentry dep hmem
    exact hfiled.completed.trans (hstatus _).symm
  · obtain ⟨dep, hmem, status, hstatus, hne, hne'⟩ := hbad
    obtain ⟨result, hfiled, hiff⟩ := hdep entry hentry dep hmem
    obtain ⟨own, hown, hfailed, -⟩ := (hsettled entry hentry).result
    refine (hended (List.mem_map.mpr ⟨entry, hentry, rfl⟩) hown _).mpr (hfailed ⟨dep, hmem, ?_⟩)
    rw [hfiled.failed, (hiff status).mp hstatus]
    exact ⟨hne, hne'⟩
  · obtain ⟨own, hown, -, hcancelled⟩ := (hsettled entry hentry).result
    refine (hended (List.mem_map.mpr ⟨entry, hentry, rfl⟩) hown _).mpr (hcancelled ?_ ?_)
    · intro dep hmem hfailed
      obtain ⟨result, hfiled, hiff⟩ := hdep entry hentry dep hmem
      obtain ⟨hne, hne'⟩ := hfiled.failed.mp hfailed
      rcases hrest dep hmem with h | h
      · exact hne ((hiff _).mp h)
      · exact hne' ((hiff _).mp h)
    · obtain ⟨dep, hmem, hout⟩ := hnot
      obtain ⟨result, hfiled, hiff⟩ := hdep entry hentry dep hmem
      refine ⟨dep, hmem, hfiled.cancelled.mpr ((hiff _).mp ?_)⟩
      exact (hrest dep hmem).resolve_left hout
  · have hzero : heldCount s.workers = 0 := by
      rw [hidle]
      rfl
    rw [h.resources, hzero]
    simp [ResourceAllocator.less]

end Results

lemma inv_begin (hwf : WellFormed tasks) (cfg : Config) (allocator : ResourceAllocator) :
    ∃ s, begin tasks allocator = some s ∧ Inv cfg tasks allocator s [] := by
  have hvalid := RunBatch.valid_of_acyclic (closed_graphOf hwf.known) hwf.acyclic
  refine ⟨_, by rw [begin, if_pos hvalid], ?_⟩
  refine ⟨rfl, List.nodup_nil, List.nil_subset _,
    RunBatch.layered_levels (closed_graphOf hwf.known),
    fun id _ => ⟨⟨rfl, List.not_mem_nil, List.not_mem_nil, List.not_mem_nil⟩, List.not_mem_nil⟩,
    List.nodup_nil, fun worker hworker => (by cases hworker),
    fun entry _ hbefore => absurd hbefore List.not_mem_nil, ?_, ?_,
    fun results hresults => (by cases hresults)⟩
  · show allocator = allocator.less 0
    simp [ResourceAllocator.less]
  · exact le_max_of_le_right Int.one_nonneg

/-- Every run of `schedule` is bounded and can go on until it returns, and what it returns
accounts for every task. -/
theorem schedule_accounts (hwf : WellFormed tasks)
    (hcovers : allocator.Covers (min (max cfg.maxParallelism 1) tasks.length)) :
    ∃ s, begin tasks allocator = some s ∧ ∃ bound, ∀ moves t,
      (machine cfg).Guarded OwnId s moves → (machine cfg).run s moves = some t →
      moves.length ≤ bound ∧
      (t.returned = none → ∃ move u, OwnId t move ∧ step cfg t move = some u) ∧
      ∀ results, t.returned = some results → Accounted cfg tasks allocator t results := by
  obtain ⟨s, hbegin, hinv⟩ := inv_begin hwf cfg allocator
  refine ⟨s, hbegin, movesLeft cfg s, fun moves t hguarded hrun => ⟨?_, exists_step, ?_⟩⟩
  · have hmain : ∀ (moves : List Move) (s : State) (before : List String),
        Inv cfg tasks allocator s before → (machine cfg).Guarded OwnId s moves →
        (machine cfg).run s moves = some t → moves.length ≤ movesLeft cfg s := by
      intro moves
      induction moves with
      | nil => exact fun _ _ _ _ _ => Nat.zero_le _
      | cons move rest ih =>
          intro s before hinv hguarded hrun
          obtain ⟨u, hstep, hrest⟩ := (machine cfg).run_cons_eq_some.mp hrun
          obtain ⟨after, hafter⟩ := hinv.step hwf hcovers hguarded.1 hstep
          have hless := movesLeft_step hinv hguarded.1 hstep
          have hlength := ih u after hafter (hguarded.2 u hstep) hrest
          rw [List.length_cons]
          omega
    exact hmain moves s [] hinv hguarded hrun
  · intro results hresults
    have hend : ∃ before, Inv cfg tasks allocator t before := by
      refine (machine cfg).guarded_invariant
        (I := fun s => ∃ before, Inv cfg tasks allocator s before)
        (fun s move t hs hown hstep => ?_) ⟨[], hinv⟩ hguarded hrun
      obtain ⟨before, hbefore⟩ := hs
      exact hbefore.step hwf hcovers hown hstep
    obtain ⟨before, hbefore⟩ := hend
    exact hbefore.accounted hwf hresults

/-! ## A run -/

/-- A mail that is sent once it has been drafted. -/
def draftBatch (requirement : Option String) : List (RuntimeTask × RoutingDecision) := [
  ({ taskId := "draft", actionType := "tool", workerRequirement := requirement },
    { providerId := "local", modelId := "m" }),
  ({ taskId := "send", actionType := "tool", dependencies := ["draft"] },
    { providerId := "local", modelId := "m" })]

/-- A scheduler with an empty registry, which retries nothing. -/
def draftConfig : Config where
  workerRegistry := some []
  maxRetries := 0

lemma edge_draftBatch {requirement : Option String} {a b : String}
    (h : Relation.TransGen (Search.Edge (graphOf (draftBatch requirement)).depsOf) a b) :
    b = "draft" ∧ a ≠ "draft" := by
  have hedge : ∀ {a b : String}, Search.Edge (graphOf (draftBatch requirement)).depsOf a b →
      b = "draft" ∧ a ≠ "draft" := by
    intro a b hedge
    have hmem : b ∈ (graphOf (draftBatch requirement)).depsOf a := hedge
    have hdeps : (graphOf (draftBatch requirement)).dependencies =
        [("draft", []), ("send", ["draft"])] := rfl
    rw [Graph.depsOf, hdeps, Dict.get?_cons] at hmem
    split at hmem
    · cases hmem
    · rename_i hne
      rw [Dict.get?_cons] at hmem
      split at hmem
      · exact ⟨List.mem_singleton.mp hmem, Ne.symm hne⟩
      · cases hmem
  induction h with
  | single h => exact hedge h
  | tail _ h ih => exact ⟨(hedge h).1, ih.2⟩

lemma wellFormed_draftBatch (requirement : Option String) :
    WellFormed (draftBatch requirement) where
  distinct := by
    show ["draft", "send"].Nodup
    decide
  known entry hentry := by
    have hids : idsOf (draftBatch requirement) = ["draft", "send"] := rfl
    rw [hids]
    rcases List.mem_cons.mp hentry with rfl | hentry
    · exact List.nil_subset _
    · obtain rfl := List.mem_singleton.mp hentry
      show ["draft"] ⊆ ["draft", "send"]
      decide
  acyclic id h := (edge_draftBatch h).2 (edge_draftBatch h).1

def draftMoves : List Move :=
  [.advance, .acquire, .attempt 0, .answer 0 (.raised "no draft"), .gather, .advance, .advance]

/-- What a run comes to: the statuses it returns and the tasks the executor was called for. -/
def outcomeOf (tasks : List (RuntimeTask × RoutingDecision)) (moves : List Move) :
    Option (Option (List TaskStatus) × List String) :=
  ((begin tasks {}).bind fun s => (machine draftConfig).run s moves).map fun t =>
    (t.returned.map fun results => results.map RuntimeResult.status, t.called)

lemma outcomeOf_eq_some {tasks : List (RuntimeTask × RoutingDecision)} {moves : List Move}
    {statuses : List TaskStatus} {called : List String}
    (h : outcomeOf tasks moves = some (some statuses, called)) :
    ∃ s, begin tasks {} = some s ∧ ∃ t results, (machine draftConfig).run s moves = some t ∧
      t.returned = some results ∧ results.map RuntimeResult.status = statuses ∧
      t.called = called := by
  obtain ⟨t, ht, heq⟩ := Option.map_eq_some_iff.mp h
  obtain ⟨s, hs, hrun⟩ := Option.bind_eq_some_iff.mp ht
  obtain ⟨hreturned, hcalled⟩ := Prod.mk.inj heq
  obtain ⟨results, hresults, hstatuses⟩ := Option.map_eq_some_iff.mp hreturned
  exact ⟨s, hs, t, results, hrun, hresults, hstatuses, hcalled⟩

theorem schedule_accounts_sample :
    ∃ s, begin (draftBatch none) {} = some s ∧ ∃ t results,
      (machine draftConfig).run s draftMoves = some t ∧ t.returned = some results ∧
      results.map RuntimeResult.status = [.failed, .failed] ∧ t.called = ["draft"] ∧
      Accounted draftConfig (draftBatch none) {} t results := by
  have hcovers : ResourceAllocator.Covers {} (min (max draftConfig.maxParallelism 1)
      (draftBatch none).length) := ⟨by decide, by decide, by decide, by decide⟩
  have houtcome : outcomeOf (draftBatch none) draftMoves =
      some (some [.failed, .failed], ["draft"]) := by
    decide +kernel
  obtain ⟨s, hbegin, t, results, hrun, hreturned, hstatuses, hcalled⟩ := outcomeOf_eq_some houtcome
  obtain ⟨s', hbegin', bound, hall⟩ := schedule_accounts (wellFormed_draftBatch none) hcovers
  obtain rfl := Option.some.inj (hbegin.symm.trans hbegin')
  have hguarded : (machine draftConfig).Guarded OwnId s draftMoves :=
    ⟨trivial, fun _ _ => ⟨trivial, fun _ _ => ⟨trivial, fun _ _ => ⟨trivial, fun _ _ =>
      ⟨trivial, fun _ _ => ⟨trivial, fun _ _ => ⟨trivial, fun _ _ => trivial⟩⟩⟩⟩⟩⟩⟩
  exact ⟨s, hbegin, t, results, hrun, hreturned, hstatuses, hcalled,
    (hall draftMoves t hguarded hrun).2.2 results hreturned⟩

/-- A worker requirement that is no worker type keeps a task from the executor, which is neither
cancelled nor waiting for anything. -/
theorem schedule_misses_call :
    WellFormed (draftBatch (some "gpu")) ∧
      ∃ s, begin (draftBatch (some "gpu")) {} = some s ∧
        ∃ t results, (machine draftConfig).run s [.advance, .gather, .advance, .advance] = some t ∧
          t.returned = some results ∧ results.map RuntimeResult.status = [.failed, .failed] ∧
          ¬ ∀ entry ∈ draftBatch (some "gpu"), entry.1.taskId ∈ t.called ↔
            (∀ dep ∈ entry.1.dependencies, Ended results dep .completed) ∧
              draftConfig.isCancelled entry.1.taskId = false := by
  have houtcome : outcomeOf (draftBatch (some "gpu")) [.advance, .gather, .advance, .advance] =
      some (some [.failed, .failed], []) := by
    decide +kernel
  obtain ⟨s, hbegin, t, results, hrun, hreturned, hstatuses, hcalled⟩ := outcomeOf_eq_some houtcome
  refine ⟨wellFormed_draftBatch _, s, hbegin, t, results, hrun, hreturned, hstatuses,
    fun hall => ?_⟩
  have hdraft := (hall _ List.mem_cons_self).mpr ⟨fun dep hdep => (by cases hdep), rfl⟩
  rw [hcalled] at hdraft
  cases hdraft

end Scheduler

end Samaktha
