import Samaktha.Coordination.Capacity

/-!
# Starting an execution

`start_execution` in full: the session, the registration, and the save, the events and the
evidence behind it, each of which may raise.  The record is registered first and stays
registered when one of them raises, and it counts against the capacity although no task was made
for it (`start_atomic_iff`).  The coordinator here is that of `Lifecycle` with its events; where
these raise nothing, its stretches of code are the same ones (`announce_of_quiet`).

While a caller waits, the task runs by itself.  What it does to its record and the world is not
followed; ended executions are pruned where it ended one.
-/

namespace Samaktha

/-- The runtime events of the public lifecycle. -/
inductive RuntimeEventType where
  | executionCreated
  | executionStateChanged
  | executionCompleted
  | executionFailed
  | executionCancelled
  | executionTimedOut
  | checkpointSaved
  deriving Repr, DecidableEq, Inhabited

/-- What `_publish` sends. -/
structure ExecutionEvent where
  eventType : RuntimeEventType
  status : String
  traceId : String
  payload : Dict String Json := []

/-- The session manager, on the world; a text is an exception. -/
structure SessionSource (κ : Type) where
  /-- `resolve_session` of a session and a principal, with `create_if_missing`. -/
  resolveSession : κ → String → String → Bool → κ × Option String
  sessionExists : κ → String → Bool
  createSession : κ → String → String → κ × Option String
  /-- `load_session`: the roles and the contents of the history. -/
  loadSession : κ → String → String → κ × Except String (List (String × String))

structure WatchedCoordinator (κ : Type) extends Coordinator κ where
  limits : Limits := {}
  maxRetainedExecutions : ℤ := 256
  /-- `uuid4().hex` -/
  uuid : κ → κ × String
  publish : κ → ExecutionEvent → κ × Option String
  sessionManager : Option (SessionSource κ) := none

structure StartArguments where
  request : String
  principalId : String := "local-default"
  sessionId : Option String := none
  conversation : Option (List Json) := none
  source : String := "interface"
  streaming : Bool := false
  wait : Bool := true
  executionId : Option String := none

/-- What `start_execution` raises. -/
inductive StartError where
  /-- `ExecutionConflictError` -/
  | conflict
  /-- `ExecutionCapacityError` -/
  | capacity
  | other (exception : String)
  deriving Repr, DecidableEq, Inhabited

/-- The registered executions, and the world. -/
structure Registry (κ : Type) where
  executions : Dict String ActiveExecution := []
  world : κ

/-- What the task does between two prunings: `prunes` where it ends the execution. -/
structure TaskTurn (κ : Type) where
  run : ActiveExecution → κ → ActiveExecution × κ
  prunes : Bool := false

/-- The task of a caller that waits, and the exception it ends with. -/
structure AwaitedTask (κ : Type) where
  turns : List (TaskTurn κ) := []
  raised : Option String := none

namespace Registry

variable {κ : Type}

/-- The number of executions that have not ended. -/
def nonterminal (s : Registry κ) : ℕ :=
  s.executions.countP fun kv => !kv.2.state.terminal

/-- Removes the first ids of a list, one for each unit of the excess. -/
def dropEnded (preserve : String) : List String → ℕ → Dict String ActiveExecution →
    Dict String ActiveExecution
  | [], _, executions => executions
  | _, 0, executions => executions
  | id :: ids, excess + 1, executions =>
      if id = preserve then dropEnded preserve ids (excess + 1) executions
      else dropEnded preserve ids excess (executions.erase id)

/-- `_prune_terminal_records`. -/
def prune (maxRetained : ℕ) (preserve : String) (executions : Dict String ActiveExecution) :
    Dict String ActiveExecution :=
  let terminal := (executions.filter fun kv => kv.2.state.terminal).map Prod.fst
  dropEnded preserve terminal (terminal.length - maxRetained) executions

/-- The same executions are registered, and as many count against the capacity. -/
structure SameExecutions (s s' : Registry κ) : Prop where
  registered : ∀ id, id ∈ s'.executions.keys ↔ id ∈ s.executions.keys
  counted : s'.nonterminal = s.nonterminal

end Registry

namespace WatchedCoordinator

variable {κ : Type} (c : WatchedCoordinator κ)

/-- Code on the world alone, behind a stretch of code on the record. -/
def watched (record : ActiveExecution) (ran : κ × Option String) : Ran κ where
  record := record
  world := ran.1
  raised := ran.2

def publishEvent (record : ActiveExecution) (world : κ) (eventType : RuntimeEventType)
    (status : String) (payload : Dict String Json := []) : Ran κ :=
  watched record (c.publish world {
    eventType := eventType
    status := status
    traceId := record.state.executionId
    payload := payload })

/-- `_save_checkpoint`, with its event. -/
def saveWatched (record : ActiveExecution) (world : κ) (recoverySafe : Bool := false) : Ran κ :=
  match c.save with
  | none => { record := record, world := world }
  | some save =>
      let saved := save world
        (Coordinator.snapshot record record.checkpointGeneration recoverySafe)
      let record := { record with checkpointGeneration := record.checkpointGeneration + 1 }
      match saved.2 with
      | .saved =>
          c.publishEvent record saved.1 .checkpointSaved record.state.status.value
            [("generation", .int record.checkpointGeneration)]
      | .rejected => { record := record, world := saved.1 }
      | .raised exception => { record := record, world := saved.1, raised := some exception }

def eventOf : ExecutionStatus → RuntimeEventType
  | .completed => .executionCompleted
  | .failed => .executionFailed
  | .cancelled => .executionCancelled
  | .timedOut => .executionTimedOut
  | _ => .executionStateChanged

/-- `_transition`, up to its pruning. -/
def transitionWatched (record : ActiveExecution) (world : κ) (status : ExecutionStatus)
    (error : Option String := none) : Ran κ :=
  match record.state.transition status error with
  | .error message => { record := record, world := world, raised := some message }
  | .ok state =>
      c.recorded
        ((c.publishEvent { record with state := state } world (eventOf status) status.value
            [("error", .ofText? error)]).andThen fun record world =>
          c.saveWatched record world (status = .planning))
        (.executionStateChanged record.state.status error)

/-! ### Events that raise nothing -/

section Quiet

variable {c} (hquiet : ∀ world event, c.publish world event = (world, none))
include hquiet

lemma saveWatched_of_quiet (record : ActiveExecution) (world : κ) (recoverySafe : Bool) :
    c.saveWatched record world recoverySafe = c.saveCheckpoint record world recoverySafe := by
  unfold saveWatched Coordinator.saveCheckpoint
  cases c.save with
  | none => rfl
  | some save =>
      dsimp only
      cases (save world (Coordinator.snapshot record record.checkpointGeneration
        recoverySafe)).2 with
      | saved => simp [publishEvent, watched, hquiet]
      | rejected | raised => rfl

lemma transitionWatched_of_quiet (record : ActiveExecution) (world : κ) (status : ExecutionStatus)
    (error : Option String) :
    c.transitionWatched record world status error = c.transition record world status error := by
  unfold transitionWatched Coordinator.transition
  cases record.state.transition status error with
  | error message => rfl
  | ok state => simp [publishEvent, watched, hquiet, saveWatched_of_quiet hquiet]

end Quiet

/-! ## The session -/

def resolveSession (manager : SessionSource κ) (world : κ) (principalId : String) :
    κ × Except String String :=
  if manager.sessionExists world "default" then
    let loaded := manager.loadSession world "default" principalId
    (loaded.1, loaded.2.map fun _ => "default")
  else
    let created := manager.createSession world "default" principalId
    (created.1, match created.2 with | none => .ok "default" | some e => .error e)

def resolveOrCreateSession (world : κ) (principalId : String) (sessionId : Option String) :
    κ × Except String String :=
  match c.sessionManager, sessionId.filter fun id => id ≠ "" with
  | none, some sessionId => (world, .ok sessionId)
  | none, none => ((c.uuid world).1, .ok ("session-" ++ (c.uuid world).2))
  | some manager, some sessionId =>
      let resolved := manager.resolveSession world sessionId principalId true
      (resolved.1, match resolved.2 with | none => .ok sessionId | some e => .error e)
  | some manager, none => resolveSession manager world principalId

/-- The conversation of a session: its last forty entries, those of the user and of the assistant;
`none` where there are none of these. -/
def recentConversation (history : List (String × String)) : Option (List Json) :=
  let recent := history.drop (history.length - 40)
  let messages := recent.filterMap fun (role, content) =>
    let role := Text.lower role
    if role = "user" ∨ role = "assistant" then
      some (.obj [("role", .str role), ("content", .str content)])
    else none
  if messages.isEmpty then none else some messages

def sessionConversation (world : κ) (principalId sessionId : String) :
    κ × Except String (Option (List Json)) :=
  match c.sessionManager with
  | none => (world, .ok none)
  | some manager =>
      let loaded := manager.loadSession world sessionId principalId
      (loaded.1, loaded.2.map recentConversation)

def newExecution (args : StartArguments) (executionId sessionId : String)
    (conversation : Option (List Json)) : ActiveExecution where
  state := {
    executionId := executionId
    principalId := some args.principalId
    sessionId := some sessionId
    request := some args.request
    metadata := [("source", .str args.source), ("streaming", .bool args.streaming)] }
  conversation := conversation

/-- `start_execution` up to its lock. -/
def prepare (world : κ) (args : StartArguments) : κ × Except String ActiveExecution :=
  let resolved := c.resolveOrCreateSession world args.principalId args.sessionId
  match resolved.2 with
  | .error exception => (resolved.1, .error exception)
  | .ok sessionId =>
      let loaded : κ × Except String (Option (List Json)) := match args.conversation with
        | some conversation => (resolved.1, .ok (some conversation))
        | none => c.sessionConversation resolved.1 args.principalId sessionId
      match loaded.2 with
      | .error exception => (loaded.1, .error exception)
      | .ok conversation =>
          match args.executionId.filter fun id => id ≠ "" with
          | some executionId =>
              (loaded.1, .ok (newExecution args executionId sessionId conversation))
          | none =>
              let drawn := c.uuid loaded.1
              (drawn.1, .ok (newExecution args drawn.2 sessionId conversation))

/-! ## The registration -/

/-- `start_execution` behind its lock, up to the task. -/
def announce (record : ActiveExecution) (world : κ) : Ran κ :=
  (c.recorded
    ((c.saveWatched record world true).andThen fun record world =>
      c.publishEvent record world .executionCreated "created")
    .executionCreated).andThen fun record world => c.transitionWatched record world .planning

lemma announce_of_quiet {c : WatchedCoordinator κ}
    (hquiet : ∀ world event, c.publish world event = (world, none)) (record : ActiveExecution)
    (world : κ) : c.announce record world = c.toCoordinator.announce record world := by
  have hsaved : ((c.saveCheckpoint record world true).andThen fun record world =>
      c.publishEvent record world .executionCreated "created") =
        c.saveCheckpoint record world true := by
    cases hraised : (c.saveCheckpoint record world true).raised with
    | none =>
        rw [Ran.andThen_of_none hraised]
        simp [publishEvent, watched, hquiet, ← hraised]
    | some exception => rw [Ran.andThen_of_some hraised]
  simp only [announce, Coordinator.announce, saveWatched_of_quiet hquiet, hsaved,
    transitionWatched_of_quiet hquiet]

/-- One turn of the task of an execution. -/
def turn (id : String) (s : Registry κ) (turn : TaskTurn κ) : Registry κ :=
  match s.executions.get? id with
  | none => s
  | some record =>
      let ran := turn.run record s.world
      let executions := s.executions.set id ran.1
      { executions :=
          if turn.prunes then Registry.prune (max 1 c.maxRetainedExecutions).toNat id executions
          else executions
        world := ran.2 }

/-- The wait for the task. -/
def await (id : String) (s : Registry κ) (task : AwaitedTask κ) : Registry κ :=
  task.turns.foldl (c.turn id) s

/-- `start_execution`; `task` is what a caller that waits waits for. -/
def startExecution (s : Registry κ) (args : StartArguments) (task : AwaitedTask κ) :
    Except StartError ExecutionState × Registry κ :=
  match c.prepare s.world args with
  | (world, .error exception) => (.error (.other exception), { s with world := world })
  | (world, .ok record) =>
      let id := record.state.executionId
      if id ∈ s.executions.keys then (.error .conflict, { s with world := world })
      else if s.nonterminal ≥ c.limits.active + c.limits.pending then
        (.error .capacity, { s with world := world })
      else
        let announced := c.announce record world
        let registered : Registry κ :=
          { executions := s.executions.set id announced.record, world := announced.world }
        match announced.raised with
        | some exception => (.error (.other exception), registered)
        | none =>
            if !args.wait then (.ok announced.record.state, registered)
            else
              let waited := c.await id registered task
              match task.raised with
              | some exception => (.error (.other exception), waited)
              | none =>
                  (.ok ((waited.executions.get? id).getD announced.record).state, waited)

/-- The call is refused before it registers anything: there is no session for it, or its id is
registered, or the capacity is full. -/
def RefusedAtOnce (s : Registry κ) (args : StartArguments) : Prop :=
  match (c.prepare s.world args).2 with
  | .error _ => True
  | .ok record =>
      record.state.executionId ∈ s.executions.keys ∨
        s.nonterminal ≥ c.limits.active + c.limits.pending

end WatchedCoordinator

/-! ## What stays registered -/

namespace Registry

lemma mem_keys_dropEnded {preserve : String} (ids : List String) (excess : ℕ)
    {executions : Dict String ActiveExecution} (h : preserve ∈ executions.keys) :
    preserve ∈ (dropEnded preserve ids excess executions).keys := by
  induction ids generalizing excess executions with
  | nil => exact h
  | cons id ids ih =>
      cases excess with
      | zero => exact h
      | succ excess =>
          rw [dropEnded]
          split
          · exact ih _ h
          · rename_i hne
            refine ih _ ?_
            obtain ⟨kv, hmem, hkey⟩ := List.mem_map.mp h
            exact List.mem_map.mpr ⟨kv, List.mem_filter.mpr ⟨hmem, by
              rw [hkey]
              exact decide_eq_true (Ne.symm hne)⟩, hkey⟩

lemma mem_keys_prune {preserve : String} (maxRetained : ℕ)
    {executions : Dict String ActiveExecution} (h : preserve ∈ executions.keys) :
    preserve ∈ (prune maxRetained preserve executions).keys :=
  mem_keys_dropEnded _ _ h

end Registry

namespace WatchedCoordinator

variable {κ : Type} {c : WatchedCoordinator κ}

lemma mem_keys_set_self (executions : Dict String ActiveExecution) (id : String)
    (record : ActiveExecution) : id ∈ (executions.set id record).keys := by
  by_contra habsent
  have hnone := Dict.get?_eq_none_iff.mpr habsent
  rw [Dict.get?_set_self] at hnone
  cases hnone

lemma mem_keys_await {id : String} {s : Registry κ} (h : id ∈ s.executions.keys)
    (task : AwaitedTask κ) : id ∈ (c.await id s task).executions.keys := by
  have hturns : ∀ (turns : List (TaskTurn κ)) (s : Registry κ), id ∈ s.executions.keys →
      id ∈ (turns.foldl (c.turn id) s).executions.keys := by
    intro turns
    induction turns with
    | nil => exact fun s h => h
    | cons turn turns ih =>
        intro s h
        refine ih _ ?_
        unfold WatchedCoordinator.turn
        split
        · exact h
        · dsimp only
          split
          · exact Registry.mem_keys_prune _ (mem_keys_set_self _ _ _)
          · exact mem_keys_set_self _ _ _
  exact hturns task.turns s h

lemma same_of_refused {s : Registry κ} {args : StartArguments} {task : AwaitedTask κ}
    (h : c.RefusedAtOnce s args) : s.SameExecutions (c.startExecution s args task).2 := by
  have hsame : ∀ world, s.SameExecutions { s with world := world } :=
    fun world => ⟨fun _ => Iff.rfl, rfl⟩
  unfold RefusedAtOnce at h
  unfold startExecution
  cases hprepare : c.prepare s.world args with
  | mk world prepared =>
      rw [hprepare] at h
      cases prepared with
      | error exception => exact hsame world
      | ok record =>
          dsimp only at h ⊢
          split
          · exact hsame world
          · rename_i hfree
            rw [if_pos (h.resolve_left hfree)]
            exact hsame world

lemma registered_of_accepted {s : Registry κ} {args : StartArguments} (task : AwaitedTask κ)
    (h : ¬ c.RefusedAtOnce s args) :
    ∃ id, id ∉ s.executions.keys ∧ id ∈ (c.startExecution s args task).2.executions.keys := by
  unfold RefusedAtOnce at h
  unfold startExecution
  cases hprepare : c.prepare s.world args with
  | mk world prepared =>
      rw [hprepare] at h
      cases prepared with
      | error exception => exact absurd trivial h
      | ok record =>
          dsimp only at h ⊢
          obtain ⟨hfree, hroom⟩ := not_or.mp h
          refine ⟨record.state.executionId, hfree, ?_⟩
          rw [if_neg hfree, if_neg hroom]
          have hregistered := mem_keys_set_self s.executions record.state.executionId
            (c.announce record world).record
          cases hraised : (c.announce record world).raised with
          | some exception => exact hregistered
          | none =>
              dsimp only
              split
              · exact hregistered
              · split
                · exact mem_keys_await hregistered task
                · exact mem_keys_await hregistered task

/-- A call that raises leaves the registered executions and their number as they were exactly when
it is refused before it registers anything. -/
theorem start_atomic_iff {s s' : Registry κ} {args : StartArguments} {task : AwaitedTask κ}
    {error : StartError} (h : c.startExecution s args task = (.error error, s')) :
    s.SameExecutions s' ↔ c.RefusedAtOnce s args := by
  have hstate : s' = (c.startExecution s args task).2 := (congrArg Prod.snd h).symm
  rw [hstate]
  constructor
  · intro hsame
    by_contra haccepted
    obtain ⟨id, hfresh, hregistered⟩ := registered_of_accepted task haccepted
    exact hfresh ((hsame.registered id).mp hregistered)
  · intro hrefused
    exact same_of_refused hrefused

/-! ### A full disk -/

/-- A coordinator of one execution whose checkpoint store cannot write. -/
def diskless : WatchedCoordinator Unit where
  toCoordinator := { storeless with save := some fun world _ => (world, .raised "OSError") }
  limits := { maxActiveExecutions := 1, maxPendingExecutions := 0 }
  uuid world := (world, "0")
  publish world _ := (world, none)

/-- A request under an id of its own. -/
def sampleStart (executionId : String) : StartArguments where
  request := "hello"
  executionId := some executionId

/-- The coordinator after a call. -/
def afterStart : Registry Unit :=
  (diskless.startExecution { world := () } (sampleStart "a") {}).2

/-- A call for a registered id. -/
theorem start_atomic_iff_sample :
    afterStart.SameExecutions (diskless.startExecution afterStart (sampleStart "a") {}).2 := by
  have hrefused : diskless.startExecution afterStart (sampleStart "a") {} =
      (.error .conflict, (diskless.startExecution afterStart (sampleStart "a") {}).2) := by rfl
  exact (start_atomic_iff hrefused).mpr (.inl (by decide))

/-- The call raises, its execution stays registered, and it takes the whole capacity. -/
theorem start_leaves :
    (diskless.startExecution { world := () } (sampleStart "a") {}).1 = .error (.other "OSError") ∧
      afterStart.executions.keys = ["a"] ∧ afterStart.nonterminal = 1 ∧
      (diskless.startExecution afterStart (sampleStart "b") {}).1 = .error .capacity :=
  ⟨by rfl, by decide, by decide, by rfl⟩

end WatchedCoordinator

end Samaktha
