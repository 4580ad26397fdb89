import Samaktha.Runtime.BatchReports
import Samaktha.Runtime.Levels

/-!
# The scheduler of a batch

`RuntimeScheduler.schedule` with its workers, its semaphore and its resource allocator, over an
executor of which only the answers are known.  A move is one stretch of code between two awaits:
a level is entered, a worker passes the semaphore, begins an attempt or takes in what the
executor answers, a level is gathered; a list of moves is one interleaving.

The semaphore lets workers pass in the order of the level.  A pause between two attempts only
delays the second one.  The resolver, the sorting of a level and the books are those of
`RunBatch`.  `State.called` is a ghost: the tasks the executor was called for.

Metrics, the workers' records and the history of worker results are left out, and no confidence
is a `nan`.
-/

namespace Samaktha

namespace Scheduler

open RunBatch (Books Graph graphOf taskMap triage verdict ordered)

/-! ## The worker registry -/

inductive WorkerType where
  | local
  | remote
  | serverless
  deriving Repr, DecidableEq, Inhabited

/-- `WorkerType(text)`, where it does not raise. -/
def WorkerType.ofText? : String → Option WorkerType
  | "local" => some .local
  | "remote" => some .remote
  | "serverless" => some .serverless
  | _ => none

/-- A registered worker; a capability is an action type with a confidence. -/
structure WorkerDefinition where
  workerId : String
  type : WorkerType := .local
  capabilities : List (String × ℚ) := []
  deriving Inhabited

def WorkerDefinition.supportsAction (worker : WorkerDefinition) (actionType : String) : Bool :=
  worker.capabilities.any fun capability => capability.1 = actionType

def WorkerDefinition.getCapabilityConfidence (worker : WorkerDefinition) (actionType : String) :
    ℚ :=
  ((worker.capabilities.find? fun capability => capability.1 = actionType).map Prod.snd).getD 0

def findCapableWorkers (registry : Dict String WorkerDefinition) (actionType : String) :
    List WorkerDefinition :=
  ((registry.map Prod.snd).filter fun worker =>
    worker.supportsAction actionType).insertionSort fun a b => a.workerId ≤ b.workerId

/-- Whether the sort key of one worker is less than that of another one. -/
def WorkerDefinition.precedes (actionType : String) (a b : WorkerDefinition) : Bool :=
  let score (worker : WorkerDefinition) : ℕ := if worker.type = .local then 0 else 1
  let confidence (worker : WorkerDefinition) := worker.getCapabilityConfidence actionType
  confidence b < confidence a ||
    (confidence a = confidence b &&
      (score a < score b || (score a = score b && a.workerId < b.workerId)))

def findBestWorker (registry : Dict String WorkerDefinition) (actionType : String)
    (preferredWorkerId : Option String) (workerRequirement : Option WorkerType) :
    Option WorkerDefinition :=
  match findCapableWorkers registry actionType with
  | [] => none
  | first :: rest =>
      let preferred := (preferredWorkerId.filter fun id => id ≠ "").bind fun id =>
        (first :: rest).find? fun worker => worker.workerId = id
      let typed := (first :: rest).filter fun worker => some worker.type = workerRequirement
      preferred <|> match typed with
        | [] => some (rest.foldl (fun best worker =>
            if worker.precedes actionType best then worker else best) first)
        | first :: rest => some (rest.foldl (fun best worker =>
            if worker.precedes actionType best then worker else best) first)

/-! ## The resource allocator -/

structure ResourceAllocator where
  cpuBudget : ℤ := 100
  memoryBudget : ℤ := 100
  tokenBudget : ℤ := 100
  internetBudget : ℤ := 0
  deriving Repr, DecidableEq, Inhabited

/-- `allocate` with its defaults; `none` where it is refused. -/
def ResourceAllocator.allocate (allocator : ResourceAllocator) : Option ResourceAllocator :=
  if allocator.cpuBudget < 1 ∨ allocator.memoryBudget < 1 ∨ allocator.tokenBudget < 1 ∨
      allocator.internetBudget < 0 then none
  else some { allocator with
    cpuBudget := allocator.cpuBudget - 1
    memoryBudget := allocator.memoryBudget - 1
    tokenBudget := allocator.tokenBudget - 1 }

def ResourceAllocator.release (allocator : ResourceAllocator) : ResourceAllocator :=
  { allocator with
    cpuBudget := allocator.cpuBudget + 1
    memoryBudget := allocator.memoryBudget + 1
    tokenBudget := allocator.tokenBudget + 1 }

/-! ## Workers -/

/-- The scheduler's collaborators and settings. -/
structure Config where
  workerRegistry : Option (Dict String WorkerDefinition) := none
  maxParallelism : ℤ := 100
  /-- `FailureRecoveryEngine.max_retries`. -/
  maxRetries : ℤ := 3
  /-- `is_cancelled`. -/
  isCancelled : String → Bool := fun _ => false
  /-- `float(metadata.get("confidence", 0.5))`, or the text of what it raises. -/
  confidence : RuntimeResult → Except String ℚ := fun _ => .ok (1 / 2)
  /-- `str`. -/
  textOf : Value → String := fun _ => ""
  /-- `repr` of a string. -/
  reprOf : String → String := fun s => s
  /-- The name of a value's type. -/
  typeName : Value → String := fun _ => ""

/-- What the executor's `run` comes to. -/
inductive Answer where
  | returned (result : RuntimeResult)
  /-- An `asyncio.TimeoutError`, of `wait_for` or of the executor's own. -/
  | timedOut
  /-- Any other exception. -/
  | raised (exception : String)
  deriving Inhabited

structure Attempt where
  success : Bool
  confidence : ℚ
  result : RuntimeResult

/-- Where `_run_one` stands. -/
inductive Phase where
  /-- At the semaphore. -/
  | waiting
  /-- Behind it, with its resources, about to begin an attempt. -/
  | ready (attempts : List Attempt)
  /-- In the executor. -/
  | executing (attempts : List Attempt)
  /-- It has returned, or raised. -/
  | done (item : Except String RuntimeResult)

/-- A call of `_run_one`. -/
structure Worker where
  task : RuntimeTask
  routing : RoutingDecision
  workerId : String := ""
  phase : Phase

/-- Whether a worker is behind the semaphore. -/
def Phase.held : Phase → Bool
  | .ready _ | .executing _ => true
  | .waiting | .done _ => false

/-- Whether a worker is at the semaphore. -/
def Phase.isWaiting : Phase → Bool
  | .waiting => true
  | _ => false

/-- What a worker that has ended comes to. -/
def Phase.item? : Phase → Option (Except String RuntimeResult)
  | .done item => some item
  | _ => none

lemma Phase.item?_eq_some {phase : Phase} {item : Except String RuntimeResult} :
    phase.item? = some item ↔ phase = .done item := by
  cases phase <;> simp [item?]

section Rules

variable (cfg : Config)

/-- The worker id of a task, or the text of the `ValueError` about its requirement. -/
def workerIdOf (task : RuntimeTask) : Except String String :=
  match cfg.workerRegistry with
  | none => .ok ("worker-" ++ task.taskId)
  | some registry =>
      let pick (requirement : Option WorkerType) : String :=
        ((findBestWorker registry task.actionType task.preferredWorker requirement).map
          WorkerDefinition.workerId).getD ("worker-" ++ task.taskId)
      match task.workerRequirement.filter fun text => text ≠ "" with
      | none => .ok (pick none)
      | some text =>
          match WorkerType.ofText? text with
          | some requirement => .ok (pick (some requirement))
          | none => .error (cfg.reprOf text ++ " is not a valid WorkerType")

/-- `worker.timeout`. -/
def timeoutOf (task : RuntimeTask) : Value := (Dict.get? task.metadata "timeout").getD .none

/-- The `TypeError` of `worker.timeout and worker.timeout > 0`, if it raises one. -/
def timeoutError (task : RuntimeTask) : Option String :=
  let timeout := timeoutOf task
  match timeout with
  | .bool _ | .int _ | .float _ => none
  | _ =>
      if timeout.truthy then
        some ("'>' not supported between instances of '" ++ cfg.typeName timeout ++ "' and 'int'")
      else none

/-- `_run_one` up to the semaphore. -/
def enroll (entry : RuntimeTask × RoutingDecision) : Worker :=
  match workerIdOf cfg entry.1 with
  | .error exception => { task := entry.1, routing := entry.2, phase := .done (.error exception) }
  | .ok workerId =>
      { task := entry.1
        routing := entry.2
        workerId := workerId
        phase :=
          if cfg.isCancelled entry.1.taskId then
            .done (.ok (verdict entry.1.taskId .cancelled "cancelled"))
          else .waiting }

@[simp] lemma enroll_task (entry : RuntimeTask × RoutingDecision) :
    (enroll cfg entry).task = entry.1 := by
  unfold enroll
  split <;> rfl

@[simp] lemma enroll_routing (entry : RuntimeTask × RoutingDecision) :
    (enroll cfg entry).routing = entry.2 := by
  unfold enroll
  split <;> rfl

def Answer.result (task : RuntimeTask) : Answer → RuntimeResult
  | .returned result => result
  | .timedOut =>
      verdict task.taskId .failed ("worker timeout after " ++ cfg.textOf (timeoutOf task) ++ "s")
  | .raised exception => verdict task.taskId .failed exception

/-- Whether the aggregator's sort puts one attempt of a worker before another one. -/
def Attempt.before (a b : Attempt) : Prop :=
  a.success = true ∧ b.success = false ∨ a.success = b.success ∧ b.confidence ≤ a.confidence

instance : DecidableRel Attempt.before := fun a b => by unfold Attempt.before; infer_instance

/-- The end of `_execute_with_retries`. -/
def best (attempts : List Attempt) (last : Attempt) : RuntimeResult :=
  ((attempts.insertionSort Attempt.before).head?.getD last).result

/-- What follows the result of an attempt, in `_execute_with_retries`. -/
def conclude (worker : Worker) (attempts : List Attempt) (result : RuntimeResult) : Phase :=
  let result := { result with
    metadata := Dict.set result.metadata "worker_id" (.str worker.workerId) }
  match cfg.confidence result with
  | .error exception => .done (.error exception)
  | .ok confidence =>
      let attempt : Attempt := ⟨result.status = .completed, confidence, result⟩
      let attempts := attempts ++ [attempt]
      if result.status = .completed ∨ result.status = .cancelled then
        .done (.ok (best attempts attempt))
      else if (attempts.length : ℤ) ≤ cfg.maxRetries then .ready attempts
      else .done (.ok (best attempts attempt))

/-! ## The machine -/

/-- A call of `schedule`. -/
structure State where
  tasks : List (RuntimeTask × RoutingDecision)
  books : Books := {}
  /-- The levels that are still to be entered. -/
  levels : List (List String)
  /-- The level that is gathered. -/
  workers : List Worker := []
  allocator : ResourceAllocator
  called : List String := []
  returned : Option (List RuntimeResult) := none

inductive Move where
  | advance
  /-- The next worker passes the semaphore. -/
  | acquire
  | attempt (worker : ℕ)
  | answer (worker : ℕ) (answer : Answer)
  | gather
  deriving Inhabited

/-- The workers that are behind the semaphore. -/
def heldCount (workers : List Worker) : ℕ := workers.countP fun worker => worker.phase.held

/-- A worker goes on, and releases its resources where it has ended. -/
def State.goOn (s : State) (i : ℕ) (worker : Worker) (phase : Phase) : State :=
  { s with
    workers := s.workers.set i { worker with phase := phase }
    allocator := if phase.held then s.allocator else s.allocator.release }

/-- What the gathering of a level files for a worker. -/
def filed (worker : Worker) : Except String RuntimeResult → RuntimeResult
  | .ok item => item
  | .error exception =>
      verdict worker.task.taskId .failed ("unhandled worker exception: " ++ exception)

/-- `schedule` up to its first level; `none` where the graph is not valid. -/
def begin (tasks : List (RuntimeTask × RoutingDecision)) (allocator : ResourceAllocator) :
    Option State :=
  if (graphOf tasks).valid then
    some { tasks := tasks, levels := (graphOf tasks).levels, allocator := allocator }
  else none

def step (s : State) : Move → Option State
  | .advance =>
      if s.returned.isNone && s.workers.isEmpty then
        match s.levels with
        | [] => some { s with returned := some (ordered s.tasks s.books) }
        | level :: levels =>
            let sorting := triage (taskMap s.tasks) (graphOf s.tasks) level s.books
            some { s with
              books := sorting.1, levels := levels, workers := sorting.2.map (enroll cfg) }
      else none
  | .acquire =>
      match s.workers.findIdx? fun worker => worker.phase.isWaiting with
      | none => none
      | some i =>
          if (heldCount s.workers : ℤ) < max cfg.maxParallelism 1 then
            match s.workers[i]? with
            | none => none
            | some worker =>
                match s.allocator.allocate with
                | none =>
                    let item := verdict worker.task.taskId .failed "budget exhausted"
                    some { s with
                      workers := s.workers.set i { worker with phase := .done (.ok item) } }
                | some allocator =>
                    some { s with
                      workers := s.workers.set i { worker with phase := .ready [] }
                      allocator := allocator }
          else none
  | .attempt i =>
      match s.workers[i]? with
      | none => none
      | some worker =>
          match worker.phase with
          | .ready attempts =>
              let id := worker.task.taskId
              if cfg.isCancelled id then
                some (s.goOn i worker
                  (conclude cfg worker attempts (verdict id .cancelled "cancelled")))
              else
                match timeoutError cfg worker.task with
                | some exception =>
                    some (s.goOn i worker
                      (conclude cfg worker attempts (verdict id .failed exception)))
                | none =>
                    some { s.goOn i worker (.executing attempts) with called := s.called ++ [id] }
          | _ => none
  | .answer i answer =>
      match s.workers[i]? with
      | none => none
      | some worker =>
          match worker.phase with
          | .executing attempts =>
              some (s.goOn i worker
                (conclude cfg worker attempts (answer.result cfg worker.task)))
          | _ => none
  | .gather =>
      if s.workers.isEmpty then none
      else
        (s.workers.mapM fun worker : Worker =>
          worker.phase.item?.map (filed worker)).map fun items =>
          { s with books := items.foldl Books.record s.books, workers := [] }

def machine : Machine State Move := ⟨step cfg⟩

/-! ## What a move can be -/

/-- The moves, with all that they need and do. -/
inductive Steps (s : State) : Move → State → Prop
  | returned (hopen : s.returned = none) (hidle : s.workers = []) (hlevels : s.levels = []) :
      Steps s .advance { s with returned := some (ordered s.tasks s.books) }
  | entered {level : List String} {levels : List (List String)} (hopen : s.returned = none)
      (hidle : s.workers = []) (hlevels : s.levels = level :: levels) :
      Steps s .advance { s with
        books := (triage (taskMap s.tasks) (graphOf s.tasks) level s.books).1
        levels := levels
        workers :=
          (triage (taskMap s.tasks) (graphOf s.tasks) level s.books).2.map (enroll cfg) }
  | refused {i : ℕ} {worker : Worker} (hi : s.workers[i]? = some worker)
      (hphase : worker.phase = .waiting)
        (hfree : (heldCount s.workers : ℤ) < max cfg.maxParallelism 1)
      (hnone : s.allocator.allocate = none) :
      Steps s .acquire { s with workers := s.workers.set i { worker with
        phase := .done (.ok (verdict worker.task.taskId .failed "budget exhausted")) } }
  | acquired {i : ℕ} {worker : Worker} {allocator : ResourceAllocator}
      (hi : s.workers[i]? = some worker) (hphase : worker.phase = .waiting)
      (hfree : (heldCount s.workers : ℤ) < max cfg.maxParallelism 1)
      (hsome : s.allocator.allocate = some allocator) :
      Steps s .acquire { s with
        workers := s.workers.set i { worker with phase := .ready [] }, allocator := allocator }
  | cancelled {i : ℕ} {worker : Worker} {attempts : List Attempt}
      (hi : s.workers[i]? = some worker) (hphase : worker.phase = .ready attempts)
      (hcancelled : cfg.isCancelled worker.task.taskId = true) :
      Steps s (.attempt i) (s.goOn i worker (conclude cfg worker attempts
        (verdict worker.task.taskId .cancelled "cancelled")))
  | incomparable {i : ℕ} {worker : Worker} {attempts : List Attempt} {exception : String}
      (hi : s.workers[i]? = some worker) (hphase : worker.phase = .ready attempts)
      (hcancelled : cfg.isCancelled worker.task.taskId = false)
      (herror : timeoutError cfg worker.task = some exception) :
      Steps s (.attempt i) (s.goOn i worker (conclude cfg worker attempts
        (verdict worker.task.taskId .failed exception)))
  | called {i : ℕ} {worker : Worker} {attempts : List Attempt}
      (hi : s.workers[i]? = some worker) (hphase : worker.phase = .ready attempts)
      (hcancelled : cfg.isCancelled worker.task.taskId = false)
      (hnone : timeoutError cfg worker.task = none) :
      Steps s (.attempt i) { s.goOn i worker (.executing attempts) with
        called := s.called ++ [worker.task.taskId] }
  | answered {i : ℕ} {worker : Worker} {attempts : List Attempt} {answer : Answer}
      (hi : s.workers[i]? = some worker) (hphase : worker.phase = .executing attempts) :
      Steps s (.answer i answer) (s.goOn i worker (conclude cfg worker attempts
        (answer.result cfg worker.task)))
  | gathered {items : List RuntimeResult} (hne : s.workers ≠ [])
      (hitems : (s.workers.mapM fun worker : Worker =>
        worker.phase.item?.map (filed worker)) = some items) :
      Steps s .gather { s with books := items.foldl Books.record s.books, workers := [] }

lemma steps_of_step {s t : State} {move : Move} (h : step cfg s move = some t) :
    Steps cfg s move t := by
  cases move with
  | advance =>
      simp only [step] at h
      split at h
      · rename_i hidle
        obtain ⟨hopen, hworkers⟩ : s.returned = none ∧ s.workers = [] := by simpa using hidle
        split at h
        · rename_i hlevels
          obtain rfl := Option.some.inj h
          exact .returned hopen hworkers hlevels
        · rename_i hlevels
          obtain rfl := Option.some.inj h
          exact .entered hopen hworkers hlevels
      · cases h
  | acquire =>
      simp only [step] at h
      split at h
      · cases h
      · rename_i i hfind
        split at h
        · rename_i hfree
          split at h
          · cases h
          · rename_i worker hi
            have hphase : worker.phase = .waiting := by
              obtain ⟨hlt, heq⟩ := List.getElem?_eq_some_iff.mp hi
              have hwaiting := (List.findIdx?_eq_some_iff_getElem.mp hfind).2.1
              rw [heq] at hwaiting
              cases hphase : worker.phase with
              | waiting => rfl
              | ready attempts => rw [hphase] at hwaiting; cases hwaiting
              | executing attempts => rw [hphase] at hwaiting; cases hwaiting
              | done item => rw [hphase] at hwaiting; cases hwaiting
            split at h
            · rename_i hnone
              obtain rfl := Option.some.inj h
              exact .refused hi hphase hfree hnone
            · rename_i allocator hsome
              obtain rfl := Option.some.inj h
              exact .acquired hi hphase hfree hsome
        · cases h
  | attempt i =>
      simp only [step] at h
      split at h
      · cases h
      · rename_i worker hi
        split at h
        · rename_i attempts hphase
          split at h
          · rename_i hcancelled
            obtain rfl := Option.some.inj h
            exact .cancelled hi hphase hcancelled
          · rename_i hcancelled
            split at h
            · rename_i exception herror
              obtain rfl := Option.some.inj h
              exact .incomparable hi hphase (Bool.not_eq_true _ ▸ hcancelled) herror
            · rename_i hnone
              obtain rfl := Option.some.inj h
              exact .called hi hphase (Bool.not_eq_true _ ▸ hcancelled) hnone
        · cases h
  | answer i answer =>
      simp only [step] at h
      split at h
      · cases h
      · rename_i worker hi
        split at h
        · rename_i attempts hphase
          obtain rfl := Option.some.inj h
          exact .answered hi hphase
        · cases h
  | gather =>
      simp only [step] at h
      split at h
      · cases h
      · rename_i hne
        obtain ⟨items, hitems, rfl⟩ := Option.map_eq_some_iff.mp h
        exact .gathered (by simpa using hne) hitems

end Rules

end Scheduler

end Samaktha
