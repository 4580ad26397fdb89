import Samaktha.Runtime.Engine
import Samaktha.Workflow.Graph

/-!
# Batches

`RuntimeEngine.run_batch` on top of `run`.  A batch with a dependency outside itself goes to
`RuntimeExecutionPool`, which starts every call at once and reports by position.  Any other
batch goes to `RuntimeScheduler`, which enters one level of the dependency graph after the
other and files what a level's calls return by the task id the result carries.

The moves are those of the engine, with the contexts as they are at the move, and the steps of
the batches: `advance` enters the scheduler's next level, `gather` takes in what the calls of
a batch have returned, `abandon` ends a batch by an exception or a cancellation.  `alter` is
what everyone who shares a task or its routing may do to it while the call is suspended.
Between two moves of one batch any others may happen.

The scheduler retries nothing (`max_retries=0`), so `_execute_with_retries` is one call of
`run`, and the aggregator picks the only result there is.  A task that never reaches the engine
(no worker of its type, an exhausted budget) is refused by the environment; the parallelism
limit only delays calls.  Metrics, events, the worker records and the graph's `parent` and
`children`, which the resolver does not read, are left out.

`State.gate` is a ghost: the gate's last question for each call, with all it reads.
-/

namespace Samaktha

/-- The collaborators of `run_batch`. -/
structure BatchConfig (κ : Type) where
  engine : EngineConfig κ
  /-- The worker the scheduler picks for a task. -/
  workerId : RuntimeTask → String
  /-- Whether `float(metadata.get("confidence", 0.5))` returns. -/
  confidenceReadable : RuntimeResult → Bool

namespace RunBatch

/-! ## The dependency resolver -/

/-- `ExecutionGraph` of the scheduler. -/
structure Graph where
  taskIds : List String
  dependencies : Dict String (List String)

/-- The graph `run_batch` builds. -/
def graphOf (tasks : List (RuntimeTask × RoutingDecision)) : Graph where
  taskIds := tasks.map fun entry => entry.1.taskId
  dependencies := Dict.ofList (tasks.map fun entry => (entry.1.taskId, entry.1.dependencies))

/-- `visit` of `detect_cycles`. -/
def visit (deps : Dict String (List String)) :
    ℕ → String → ExecutionGraph.Search → Bool × ExecutionGraph.Search
  | 0, _, search => (false, search)
  | fuel + 1, node, search =>
      if node ∈ search.stack then (true, search)
      else if node ∈ search.visited then (false, search)
      else
        let entered : ExecutionGraph.Search := { search with stack := search.stack.insert node }
        match ExecutionGraph.visitAll (visit deps fuel) ((Dict.get? deps node).getD []) entered with
        | (true, search) => (true, search)
        | (false, search) => (false, ⟨search.visited.insert node, search.stack.erase node⟩)

/-- `detect_cycles`; a path without a repetition is no longer than the list of names. -/
def Graph.detectCycles (graph : Graph) : Bool :=
  let names := graph.taskIds ++ (graph.dependencies.map Prod.snd).flatten
  (ExecutionGraph.visitAll (visit graph.dependencies (names.length + 1)) graph.taskIds {}).1

/-- `validate`, which raises where this is false. -/
def Graph.valid (graph : Graph) : Bool :=
  !graph.detectCycles && graph.dependencies.all fun kv =>
    kv.1 ∈ graph.taskIds && kv.2.all (· ∈ graph.taskIds)

/-- The counters and the children of `levels`. -/
structure Degrees where
  indegree : Dict String ℤ
  children : Dict String (List String) := []

def Degrees.count (task : String) (degrees : Degrees) (dep : String) : Degrees :=
  let indegree := degrees.indegree.setDefault dep 0
  { indegree := indegree.set task ((indegree.get? task).getD 0 + 1)
    children := degrees.children.set dep (((degrees.children.get? dep).getD []) ++ [task]) }

/-- The counters before the first level. -/
def Graph.degrees (graph : Graph) : Degrees :=
  let indegree := Dict.ofList (graph.taskIds.map fun id => (id, (0 : ℤ)))
  graph.dependencies.foldl (fun degrees kv =>
    kv.2.foldl (Degrees.count kv.1) { degrees with indegree := degrees.indegree.setDefault kv.1 0 })
    { indegree := indegree }

def sorted (ids : List String) : List String := ids.insertionSort (· ≤ ·)

/-- The children of a node lose a dependency; those that have none left are ready next. -/
def release : List String → Dict String ℤ → List String → Dict String ℤ × List String
  | [], indegree, next => (indegree, next)
  | child :: rest, indegree, next =>
      let left := (indegree.get? child).getD 0 - 1
      release rest (indegree.set child left) (if left = 0 then next ++ [child] else next)

/-- The loop of `levels`; every level but the last one is not empty. -/
def levelsFrom (children : Dict String (List String)) :
    ℕ → Dict String ℤ → List String → List (List String)
  | 0, _, _ => []
  | _, _, [] => []
  | fuel + 1, indegree, node :: rest =>
      let current := node :: rest
      let released := current.flatMap fun id => sorted ((children.get? id).getD [])
      let next := release released indegree []
      current :: levelsFrom children fuel next.1 (sorted next.2.dedup)

def Graph.levels (graph : Graph) : List (List String) :=
  let degrees := graph.degrees
  let ready := sorted ((degrees.indegree.filter fun kv => kv.2 = 0).map Prod.fst)
  levelsFrom degrees.children (degrees.indegree.length + 1) degrees.indegree ready

/-! ## Batches and their states -/

/-- What the scheduler keeps between two levels. -/
structure Books where
  completed : List String := []
  failed : List String := []
  cancelled : List String := []
  results : Dict String RuntimeResult := []

/-- Where a batch stands. -/
inductive Stage where
  /-- In the pool, which waits for its calls. -/
  | pool
  /-- In the scheduler: the levels to come and the tasks of the level that is gathered, each
  with its call of `run`, if it has one. -/
  | scheduled (books : Books) (levels : List (List String))
      (running : List (RuntimeTask × Option ℕ))
  | reported (results : List RuntimeResult)
  | raised

/-- A call of `run_batch`. -/
structure Batch where
  context : ℕ
  tasks : List (RuntimeTask × RoutingDecision)
  /-- The calls of `run` it has made, each with the task it was made for. -/
  calls : List (RuntimeTask × ℕ) := []
  stage : Stage

/-- What the gate is asked at an attempt of a call. -/
structure Check where
  attempt : ℕ
  context : RuntimeContext
  task : RuntimeTask
  routing : RoutingDecision
  now : ℤ

/-- An engine with its batches. -/
structure State (κ : Type) where
  engine : Engine.State κ
  batches : List Batch := []
  gate : ℕ → Option Check := fun _ => none

inductive Move where
  /-- A move of the engine, `run` by itself included. -/
  | engine (contexts : ℕ → RuntimeContext) (move : Engine.Move)
  /-- The task and the routing of a suspended call change, the task's id aside. -/
  | alter (call : ℕ) (task : RuntimeTask) (routing : RoutingDecision)
  /-- `run_batch` is called. -/
  | batch (context : ℕ) (tasks : List (RuntimeTask × RoutingDecision))
  /-- The scheduler enters the next level; some tasks never reach the engine. -/
  | advance (batch : ℕ) (refused : String → Bool)
  /-- A batch takes in what its calls have returned; `errors` are the texts of exceptions. -/
  | gather (batch : ℕ) (errors : String → String)
  | abandon (batch : ℕ)

section Rules

variable {κ : Type} (cfg : BatchConfig κ)

def taskMap (tasks : List (RuntimeTask × RoutingDecision)) :
    Dict String (RuntimeTask × RoutingDecision) :=
  Dict.ofList (tasks.map fun entry => (entry.1.taskId, entry))

/-- A result the scheduler makes itself. -/
def verdict (id : String) (status : TaskStatus) (error : String) : RuntimeResult where
  taskId := id
  status := status
  error := some error

/-- A task of a level is skipped where a dependency failed or was cancelled, left out where one
has not completed, and run otherwise. -/
def triage (map : Dict String (RuntimeTask × RoutingDecision)) (graph : Graph) :
    List String → Books → Books × List (RuntimeTask × RoutingDecision)
  | [], books => (books, [])
  | id :: rest, books =>
      match map.get? id with
      | none => triage map graph rest books
      | some entry =>
          let deps := (graph.dependencies.get? id).getD entry.1.dependencies
          if deps.any (· ∈ books.failed) then
            triage map graph rest { books with
              failed := books.failed.insert id
              results := books.results.set id (verdict id .failed "dependency failed") }
          else if deps.any (· ∈ books.cancelled) then
            triage map graph rest { books with
              cancelled := books.cancelled.insert id
              results := books.results.set id (verdict id .cancelled "dependency cancelled") }
          else if !deps.all (· ∈ books.completed) then triage map graph rest books
          else
            let later := triage map graph rest books
            (later.1, entry :: later.2)

/-- The calls of `run` for some tasks, after the calls there are. -/
def launch (context : ℕ) (refused : String → Bool) :
    List (RuntimeTask × RoutingDecision) → List Engine.Call →
      List (RuntimeTask × Option ℕ) × List Engine.Call
  | [], calls => ([], calls)
  | (task, routing) :: rest, calls =>
      if refused task.taskId then
        let later := launch context refused rest calls
        ((task, none) :: later.1, later.2)
      else
        let later := launch context refused rest
          (calls ++ [{ context := context, task := task, routing := routing }])
        ((task, some calls.length) :: later.1, later.2)

/-- The calls among some launched tasks. -/
def launched (running : List (RuntimeTask × Option ℕ)) : List (RuntimeTask × ℕ) :=
  running.filterMap fun entry => entry.2.map fun i => (entry.1, i)

/-- What `_run_one` returns for a task of the level, once its call has ended. -/
def workerResult (calls : List Engine.Call) (errors : String → String) :
    RuntimeTask × Option ℕ → Option RuntimeResult
  | (task, none) => some (verdict task.taskId .failed (errors task.taskId))
  | (task, some i) =>
      match (calls[i]?).map Engine.Call.phase with
      | some (.returned result) =>
          let result := { result with
            metadata := Dict.set result.metadata "worker_id" (.str (cfg.workerId task)) }
          if cfg.confidenceReadable result then some result
          else some (verdict task.taskId .failed
            ("unhandled worker exception: " ++ errors task.taskId))
      | some .raised => some (verdict task.taskId .failed (errors task.taskId))
      | _ => none

/-- A result is filed under the task id it carries. -/
def Books.record (books : Books) (item : RuntimeResult) : Books :=
  let books := { books with results := books.results.set item.taskId item }
  match item.status with
  | .completed => { books with completed := books.completed.insert item.taskId }
  | .cancelled => { books with cancelled := books.cancelled.insert item.taskId }
  | _ => { books with failed := books.failed.insert item.taskId }

/-- The list the scheduler returns. -/
def ordered (tasks : List (RuntimeTask × RoutingDecision)) (books : Books) : List RuntimeResult :=
  tasks.filterMap fun entry => books.results.get? entry.1.taskId

/-- What the pool reports for a call that has ended. -/
def poolResult (calls : List Engine.Call) (errors : String → String) :
    RuntimeTask × ℕ → Option RuntimeResult
  | (task, i) =>
      match (calls[i]?).map Engine.Call.phase with
      | some (.returned result) => some result
      | some .raised => some (verdict task.taskId .failed
          ("Unhandled runtime exception: " ++ errors task.taskId))
      | _ => none

/-- Whether a batch depends on a task outside itself. -/
def externalDependency (tasks : List (RuntimeTask × RoutingDecision)) : Bool :=
  tasks.any fun entry => entry.1.dependencies.any (· ∉ tasks.map fun entry => entry.1.taskId)

/-- A state with the calls of the engine replaced. -/
def State.setCalls (s : State κ) (calls : List Engine.Call) : State κ :=
  { s with engine := { s.engine with calls := calls } }

def State.setBatch (s : State κ) (k : ℕ) (batch : Batch) : State κ :=
  { s with batches := s.batches.set k batch }

/-- `run_batch`, up to the first suspension. -/
def begin (s : State κ) (context : ℕ) (tasks : List (RuntimeTask × RoutingDecision)) : State κ :=
  if externalDependency tasks then
    let started := launch context (fun _ => false) tasks s.engine.calls
    { s.setCalls started.2 with
      batches := s.batches ++ [⟨context, tasks, launched started.1, .pool⟩] }
  else if (graphOf tasks).valid then
    { s with batches :=
        s.batches ++ [⟨context, tasks, [], .scheduled {} (graphOf tasks).levels []⟩] }
  else { s with batches := s.batches ++ [⟨context, tasks, [], .raised⟩] }

/-- The gate's question at a move of the engine, if the move is an attempt. -/
def question (s : Engine.State κ) (contexts : ℕ → RuntimeContext) :
    Engine.Move → Option (ℕ × Check)
  | .turn i now =>
      match s.calls[i]? with
      | some call =>
          match call.phase with
          | .ready attempt _ =>
              some (i, ⟨attempt, contexts call.context, call.task, call.routing, now⟩)
          | _ => none
      | none => none
  | _ => none

/-- The gate's last questions after a move of the engine. -/
def asked (s : State κ) (contexts : ℕ → RuntimeContext) (move : Engine.Move) :
    ℕ → Option Check :=
  match question s.engine contexts move with
  | some (i, check) => Function.update s.gate i (some check)
  | none => s.gate

/-- The configuration of an engine whose contexts are as given. -/
def atContexts (contexts : ℕ → RuntimeContext) : EngineConfig κ :=
  { cfg.engine with contexts := contexts }

/-- Whether a call is suspended. -/
def suspended : Engine.Phase → Bool
  | .ready _ _ | .executing _ _ => true
  | .returned _ | .raised => false

/-- The scheduler enters its next level, or reports. -/
def enter (s : State κ) (k : ℕ) (b : Batch) (books : Books) (refused : String → Bool) :
    List (List String) → State κ
  | [] => s.setBatch k { b with stage := .reported (ordered b.tasks books) }
  | level :: levels =>
      let sorting := triage (taskMap b.tasks) (graphOf b.tasks) level books
      let started := launch b.context refused sorting.2 s.engine.calls
      (s.setCalls started.2).setBatch k { b with
        calls := b.calls ++ launched started.1
        stage := .scheduled sorting.1 levels started.1 }

def step (s : State κ) : Move → Option (State κ)
  | .engine contexts move =>
      (Engine.step (atContexts cfg contexts) s.engine move).map fun engine =>
        { s with engine := engine, gate := asked s contexts move }
  | .alter i task routing =>
      match s.engine.calls[i]? with
      | some call =>
          if suspended call.phase && task.taskId = call.task.taskId then
            some (s.setCalls (s.engine.calls.set i { call with task := task, routing := routing }))
          else none
      | none => none
  | .batch context tasks => some (begin s context tasks)
  | .advance k refused =>
      match s.batches[k]? with
      | some b =>
          match b.stage with
          | .scheduled books levels [] => some (enter s k b books refused levels)
          | _ => none
      | none => none
  | .gather k errors =>
      match s.batches[k]? with
      | some b =>
          match b.stage with
          | .pool =>
              (b.calls.mapM (poolResult s.engine.calls errors)).map fun results =>
                s.setBatch k { b with stage := .reported results }
          | .scheduled books levels running =>
              (running.mapM (workerResult cfg s.engine.calls errors)).map fun items =>
                s.setBatch k { b with
                  stage := .scheduled (items.foldl Books.record books) levels [] }
          | _ => none
      | none => none
  | .abandon k =>
      match s.batches[k]? with
      | some b => some (s.setBatch k { b with stage := .raised })
      | none => none

def machine : Machine (State κ) Move := ⟨step cfg⟩

end Rules

end RunBatch

end Samaktha
