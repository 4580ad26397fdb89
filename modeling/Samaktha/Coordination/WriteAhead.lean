import Samaktha.Coordination.Journal
import Samaktha.Runtime.CheckpointFiles

/-!
# Writing ahead

`RuntimeEngine.run` has the checkpoint before an attempt written before it invokes the executor, and
goes on all the same where the store has refused it: `_save_checkpoint` passes over a
`CheckpointError`.

With a checkpoint store behind the coordinator, what it refuses is a matter of what the record has
accumulated (`takes_iff`): a key that looks like a secret, in the state, the plan, a result or an
id; an execution id that names no file; a generation that the store has already seen.
-/

namespace Samaktha

namespace Coordinator

/-! ## The store behind the coordinator -/

/-- `save_checkpoint` of a checkpoint store; the clock is read once for each checkpoint. -/
def savesTo (cfg : StoreConfig) (clock : RecoveryCheckpoint → String) (store : StoreState)
    (c : RecoveryCheckpoint) : StoreState × SaveOutcome :=
  let saved := CheckpointStore.saveCheckpoint cfg store c (clock c)
  (saved.2, match saved.1 with
    | .ok () => .saved
    | .error (.checkpoint _) => .rejected
    | .error (.other exception) => .raised exception)

/-- A coordinator with a checkpoint store. -/
def durable (coordinator : Coordinator StoreState) (cfg : StoreConfig)
    (clock : RecoveryCheckpoint → String) : Coordinator StoreState :=
  { coordinator with save := some (savesTo cfg clock) }

/-! ### Keys that look like secrets -/

/-- A key that looks like a secret stands in what the record has accumulated: the metadata of the
state, the pipeline state with its plan and results, the conversation, the results of the
operations, or the ids of operations and tasks. -/
def bearsSecret (record : ActiveExecution) : Bool :=
  itemsContainSecretKey record.state.metadata ||
    (record.pipelineState.any fun pipeline => itemsContainSecretKey pipeline.modelDump) ||
    (record.conversation.any listContainsSecretKey) ||
    (Dict.keys record.operationOutcomes).any secretKey ||
    itemsContainSecretKey record.operationResults ||
    (Dict.keys record.retryAttempts).any secretKey

lemma listContainsSecretKey_texts (texts : List String) :
    listContainsSecretKey (texts.map .str) = false := by
  induction texts with
  | nil => rfl
  | cons text rest ih => exact ih

lemma itemsContainSecretKey_mapValues {α : Type} {f : α → Json} (d : Dict String α)
    (hf : ∀ a, containsSecretKey (f a) = false) :
    itemsContainSecretKey (Dict.mapValues f d) = (Dict.keys d).any secretKey := by
  induction d with
  | nil => rfl
  | cons kv rest ih =>
      obtain ⟨key, value⟩ := kv
      have hrest : itemsContainSecretKey (Dict.mapValues f ((key, value) :: rest)) =
          (secretKey key || containsSecretKey (f value) ||
            itemsContainSecretKey (Dict.mapValues f rest)) := rfl
      rw [hrest, hf, ih, Bool.or_false]
      rfl

lemma any_keys_set {α : Type} (d : Dict String α) (key : String) (value : α) :
    (Dict.keys (Dict.set d key value)).any secretKey =
      (secretKey key || (Dict.keys d).any secretKey) := by
  rw [Dict.keys_set]
  split
  · rename_i hmem
    cases hsecret : secretKey key with
    | false => rfl
    | true => exact List.any_eq_true.mpr ⟨key, hmem, hsecret⟩
  · rw [List.any_append, List.any_cons, List.any_nil, Bool.or_false, Bool.or_comm]

lemma itemsContainSecretKey_eq_or (items : Dict String Json) :
    itemsContainSecretKey items =
      ((Dict.keys items).any secretKey || (items.map Prod.snd).any containsSecretKey) := by
  rw [CheckpointStore.itemsContainSecretKey_eq_any, Dict.keys, List.any_map, List.any_map]
  induction items with
  | nil => rfl
  | cons kv rest ih =>
      rw [List.any_cons, List.any_cons, List.any_cons, ih]
      simp only [Function.comp_apply, Bool.or_assoc, Bool.or_left_comm]

lemma itemsContainSecretKey_state (state : ExecutionState) :
    itemsContainSecretKey state.modelDump = itemsContainSecretKey state.metadata := by
  have hkeys : (Dict.keys state.modelDump).any secretKey = false := by
    show (["execution_id", "status", "principal_id", "session_id", "request", "pending_approval_id",
      "pending_task_id", "result_available", "error", "completed_tasks", "failed_tasks",
      "metadata"] : List String).any secretKey = false
    decide +kernel
  have htext : ∀ text : Option String, containsSecretKey (Json.ofText? text) = false := by
    intro text
    cases text <;> rfl
  rw [itemsContainSecretKey_eq_or, hkeys, Bool.false_or]
  simp [ExecutionState.modelDump, containsSecretKey, htext, listContainsSecretKey_texts]

lemma containsSecretKey_checkpoint (c : RecoveryCheckpoint) :
    containsSecretKey c.modelDump = (itemsContainSecretKey c.executionState ||
      c.pipelineState.any itemsContainSecretKey || c.conversation.any listContainsSecretKey ||
      (Dict.keys c.operationOutcomes).any secretKey || itemsContainSecretKey c.operationResults ||
      (Dict.keys c.retryAttempts).any secretKey) := by
  have hkeys : (Dict.keys c.fields).any secretKey = false := by
    show (["schema_version", "generation", "execution_id", "principal_id", "session_id",
      "execution_state", "pipeline_state", "conversation", "resolved_approval_ids",
      "operation_outcomes", "operation_results", "retry_attempts", "recovery_safe", "created_at",
      "updated_at", "integrity_digest"] : List String).any secretKey = false
    decide +kernel
  have houtcomes : itemsContainSecretKey (Dict.mapValues .str c.operationOutcomes) =
      (Dict.keys c.operationOutcomes).any secretKey :=
    itemsContainSecretKey_mapValues _ fun _ => rfl
  have hretries : itemsContainSecretKey (Dict.mapValues .int c.retryAttempts) =
      (Dict.keys c.retryAttempts).any secretKey :=
    itemsContainSecretKey_mapValues _ fun _ => rfl
  rw [RecoveryCheckpoint.modelDump, containsSecretKey, itemsContainSecretKey_eq_or, hkeys,
    Bool.false_or]
  simp only [RecoveryCheckpoint.fields, List.map_cons, List.map_nil, List.any_cons, List.any_nil]
  cases c.pipelineState <;> cases c.conversation <;> cases c.integrityDigest <;>
    simp only [containsSecretKey, listContainsSecretKey_texts, houtcomes, hretries, Option.any_none,
      Option.any_some, Bool.false_or, Bool.or_false, Bool.or_assoc]

lemma containsSecretKey_snapshot (cfg : StoreConfig) (record : ActiveExecution) (generation : ℕ)
    (recoverySafe : Bool) (now : String) :
    containsSecretKey (CheckpointStore.payloadOf cfg (snapshot record generation recoverySafe)
      now) = bearsSecret record := by
  have hsigned : containsSecretKey
      (CheckpointStore.signed cfg (snapshot record generation recoverySafe) now).modelDump =
      containsSecretKey (snapshot record generation recoverySafe).modelDump := by
    rw [containsSecretKey_checkpoint, containsSecretKey_checkpoint]
    unfold CheckpointStore.signed
    cases cfg.integrityKey <;> rfl
  have hconversation : ((record.conversation.filter fun items => !items.isEmpty).any
      listContainsSecretKey) = record.conversation.any listContainsSecretKey := by
    rcases record.conversation with - | (- | ⟨item, rest⟩) <;> rfl
  rw [CheckpointStore.payloadOf_eq, hsigned, containsSecretKey_checkpoint]
  unfold snapshot bearsSecret
  dsimp only
  rw [itemsContainSecretKey_state, hconversation, Option.any_map]

/-! ### What the store takes -/

/-- The generations of an execution that the store knows, in its cache and in its index. -/
def generations (store : StoreState) (executionId : String) : List ℤ :=
  (match Dict.get? store.cache executionId with
    | some (.recovery c) => [c.generation]
    | _ => []) ++
  match Dict.get? store.entries executionId with
  | some entry => [entry.generation]
  | none => []

/-- The checkpoint before an attempt of a task can be saved: no key that looks like a secret stands
in what the record has accumulated, nor in the ids of the operation and the task; the execution id
names a file; and the store knows no newer generation. -/
structure Savable (cfg : StoreConfig) (context : RuntimeContext) (store : StoreState)
    (record : ActiveExecution) (task : RuntimeTask) : Prop where
  clean : bearsSecret record = false
  operation : secretKey (Engine.operationId context task) = false
  task : secretKey task.taskId = false
  path : cfg.directory = true → CheckpointStore.validId record.state.executionId = true
  newer : ∀ g ∈ generations store record.state.executionId, g ≤ (record.checkpointGeneration : ℤ)

instance (cfg : StoreConfig) (context : RuntimeContext) (store : StoreState)
    (record : ActiveExecution) (task : RuntimeTask) :
    Decidable (Savable cfg context store record task) :=
  decidable_of_iff (bearsSecret record = false ∧
      secretKey (Engine.operationId context task) = false ∧ secretKey task.taskId = false ∧
      (cfg.directory = true → CheckpointStore.validId record.state.executionId = true) ∧
      ∀ g ∈ generations store record.state.executionId, g ≤ (record.checkpointGeneration : ℤ))
    ⟨fun h => ⟨h.1, h.2.1, h.2.2.1, h.2.2.2.1, h.2.2.2.2⟩,
      fun h => ⟨h.clean, h.operation, h.task, h.path, h.newer⟩⟩

/-- A save is refused for a secret, or for a generation that the store knows already. -/
lemma refuse_eq_none_iff {cfg : StoreConfig} {store : StoreState} {c : RecoveryCheckpoint}
    {now : String} (hversion : c.schemaVersion = checkpointSchemaVersion) :
    CheckpointStore.refuse cfg store c now = none ↔
      containsSecretKey (CheckpointStore.payloadOf cfg c now) = false ∧
        ∀ g ∈ generations store c.executionId, g < c.generation := by
  unfold CheckpointStore.refuse generations
  rw [if_neg (not_not_intro hversion)]
  cases hsecret : containsSecretKey (CheckpointStore.payloadOf cfg c now) with
  | true => simp
  | false =>
      rw [if_neg Bool.false_ne_true]
      rcases Dict.get? store.cache c.executionId with - | (- | existing) <;>
        rcases Dict.get? store.entries c.executionId with - | anchored <;>
          simp [ite_eq_iff, not_le]

lemma saveCheckpoint_ok_iff {cfg : StoreConfig} {store : StoreState} {c : RecoveryCheckpoint}
    {now : String} :
    (CheckpointStore.saveCheckpoint cfg store c now).1 = .ok () ↔
      CheckpointStore.refuse cfg store c now = none ∧
        (cfg.directory = true → CheckpointStore.validId c.executionId = true) := by
  have hid : (CheckpointStore.signed cfg c now).executionId = c.executionId := by
    unfold CheckpointStore.signed
    cases cfg.integrityKey <;> rfl
  unfold CheckpointStore.saveCheckpoint
  cases CheckpointStore.refuse cfg store c now with
  | some error => simp
  | none =>
      dsimp only
      rw [hid]
      cases cfg.directory <;> cases CheckpointStore.validId c.executionId <;> simp

variable (coordinator : Coordinator StoreState) (cfg : StoreConfig)
  (clock : RecoveryCheckpoint → String) (context : RuntimeContext) (base : EngineConfig Unit)

lemma noteDetails_start (record : ActiveExecution) (pipeline : Option PipelineState)
    (task : RuntimeTask) (attempt : ℕ) :
    noteDetails record { (coordinator.durable cfg clock).startDetails context base task attempt with
        pipelineState := pipeline } =
      { record with
        operationOutcomes := Dict.set record.operationOutcomes (Engine.operationId context task)
          OperationOutcome.started.value
        retryAttempts :=
          if task.taskId = "" then record.retryAttempts
          else Dict.set record.retryAttempts task.taskId attempt } := by
  have hid : ((some (Engine.operationId context task)).filter fun id => id ≠ "") =
      some (Engine.operationId context task) := by
    rw [Option.filter_some, if_pos (decide_eq_true (operationId_ne_empty context task))]
  have houtcome : ((some OperationOutcome.started.value).filter fun text => text ≠ "") =
      some OperationOutcome.started.value := by
    rw [Option.filter_some, if_pos (decide_eq_true (value_ne_empty .started))]
  unfold noteDetails startDetails Details.ofBoundary Engine.startBoundary
  dsimp only
  rw [hid, houtcome]
  by_cases htask : task.taskId = ""
  · simp [htask]
  · have hnamed : ((some task.taskId).filter fun id => id ≠ "") = some task.taskId := by
      rw [Option.filter_some, if_pos (decide_eq_true htask)]
    rw [hnamed, if_neg htask]

lemma bearsSecret_start (record : ActiveExecution) (task : RuntimeTask) (attempt : ℕ) :
    bearsSecret { record with
        operationOutcomes := Dict.set record.operationOutcomes (Engine.operationId context task)
          OperationOutcome.started.value
        retryAttempts :=
          if task.taskId = "" then record.retryAttempts
          else Dict.set record.retryAttempts task.taskId attempt } =
      (bearsSecret record || secretKey (Engine.operationId context task) ||
        secretKey task.taskId) := by
  have hempty : secretKey "" = false := by decide +kernel
  unfold bearsSecret
  dsimp only
  rw [any_keys_set]
  by_cases htask : task.taskId = ""
  · rw [if_pos htask, htask, hempty, Bool.or_false]
    simp only [Bool.or_assoc, Bool.or_comm, Bool.or_left_comm]
  · rw [if_neg htask, any_keys_set]
    simp only [Bool.or_assoc, Bool.or_comm, Bool.or_left_comm]

/-- The store takes the checkpoint before an attempt exactly if it can be saved. -/
theorem takes_iff (e : RunningExecution StoreState) (task : RuntimeTask) (attempt : ℕ) :
    (coordinator.durable cfg clock).takes e
        ((coordinator.durable cfg clock).startDetails context base task attempt) ↔
      Savable cfg context e.journal.store ((coordinator.durable cfg clock).captured e) task := by
  have hsaved : (coordinator.durable cfg clock).takes e
        ((coordinator.durable cfg clock).startDetails context base task attempt) ↔
      (CheckpointStore.saveCheckpoint cfg e.journal.store ((coordinator.durable cfg clock).offered e
        ((coordinator.durable cfg clock).startDetails context base task attempt))
        (clock ((coordinator.durable cfg clock).offered e
          ((coordinator.durable cfg clock).startDetails context base task attempt)))).1 =
            .ok () := by
    constructor
    · rintro ⟨save, hsave, htaken⟩
      obtain rfl := Option.some.inj hsave
      unfold savesTo at htaken
      dsimp only at htaken
      split at htaken
      · assumption
      · cases htaken
      · cases htaken
    · intro hok
      refine ⟨_, rfl, ?_⟩
      unfold savesTo
      dsimp only
      rw [hok]
  rw [hsaved, saveCheckpoint_ok_iff, refuse_eq_none_iff rfl]
  unfold offered
  rw [containsSecretKey_snapshot]
  unfold noted
  rw [noteDetails_start, bearsSecret_start, Bool.or_eq_false_iff, Bool.or_eq_false_iff]
  unfold snapshot
  dsimp only
  constructor
  · rintro ⟨⟨⟨⟨hclean, hoperation⟩, htaskId⟩, hnewer⟩, hpath⟩
    exact ⟨hclean, hoperation, htaskId, hpath, fun g hg => Int.lt_add_one_iff.mp (hnewer g hg)⟩
  · rintro ⟨hclean, hoperation, htaskId, hpath, hnewer⟩
    exact ⟨⟨⟨⟨hclean, hoperation⟩, htaskId⟩, fun g hg => Int.lt_add_one_iff.mpr (hnewer g hg)⟩,
      hpath⟩

end Coordinator

namespace Coordinator

variable {σ : Type} (coordinator : Coordinator σ) (context : RuntimeContext)
  (base : EngineConfig Unit)

/-! ## Behind every executor -/

/-- The operation of a task is answered in a checkpoint. -/
def Answers (c : RecoveryCheckpoint) (task : RuntimeTask) : Prop :=
  (Dict.get? c.operationResults (Engine.operationId context task)).isSome = true

/-- When the executor of a mutation was invoked, the last checkpoint that was saved was not safe or
answered it; one that a restart recovers from answers it. -/
def WrittenAhead (d : Engine.Dispatch (RunningExecution σ)) : Prop :=
  coordinator.IsMutation context base d.task → ∀ c, d.world.journal.last = some c →
    (c.recoverySafe = false ∨ Answers context c d.task) ∧
      (c.recovers = true → Answers context c d.task)

instance (d : Engine.Dispatch (RunningExecution σ)) :
    Decidable (coordinator.WrittenAhead context base d) :=
  have : ∀ c, Decidable (Answers context c d.task) := fun _ =>
    inferInstanceAs (Decidable (_ = true))
  decidable_of_iff (coordinator.IsMutation context base d.task → ∀ c ∈ d.world.journal.last,
    (c.recoverySafe = false ∨ Answers context c d.task) ∧
      (c.recovers = true → Answers context c d.task)) Iff.rfl

/-- The condition under which a step of an execution with a checkpoint store writes ahead: the
checkpoint before a mutation's attempt can be saved. -/
def WritesAhead (coordinator : Coordinator StoreState) (cfg : StoreConfig)
    (clock : RecoveryCheckpoint → String) (context : RuntimeContext) (base : EngineConfig Unit)
    (s : Engine.State (RunningExecution StoreState)) : ExecutionMove → Prop
  | .runtime (.turn i _) => ∀ call attempt previous, s.calls[i]? = some call →
      call.phase = .ready attempt previous →
      (∀ result, previous = some result → s.cancelRequested call.context = false) →
      Engine.recoveredResult context call.task = none →
      (coordinator.durable cfg clock).IsMutation context base call.task →
        Savable cfg context s.world.journal.store ((coordinator.durable cfg clock).captured s.world)
          call.task
  | _ => True

section Ahead

variable {coordinator} {context} {base} {plan : ExecutionPlan} {e : RunningExecution σ}

lemma writtenAhead_of_lastUnsafe {d : Engine.Dispatch (RunningExecution σ)}
    (h : LastUnsafe d.world) : coordinator.WrittenAhead context base d := by
  intro _ c hlast
  have hrisky := h c hlast
  refine ⟨.inl hrisky, fun hrecovers => ?_⟩
  have hsafe := RecoveryCheckpoint.recoverySafe_of_recovers hrecovers
  exact absurd (hrisky.symm.trans hsafe) Bool.false_ne_true

lemma writtenAhead_turn {s t : Engine.State (RunningExecution σ)} {i attempt : ℕ}
    {call : Engine.Call} (h : ∀ d ∈ s.log, coordinator.WrittenAhead context base d)
    (hguard : Engine.recoveredResult context call.task = none →
      coordinator.IsMutation context base call.task →
        coordinator.takes s.world (coordinator.startDetails context base call.task attempt))
    (hturned : Engine.Turned (coordinator.engine context base) s t i call attempt) :
    ∀ d ∈ t.log, coordinator.WrittenAhead context base d := by
  cases hturned with
  | idle _ _ hlog | started _ _ _ hlog | refused _ _ _ _ _ _ hlog => rwa [hlog]
  | dispatched hnew hreturned _ _ hlog =>
      rw [hlog]
      intro d hd
      rcases List.mem_append.mp hd with hold | hadded
      · exact h d hold
      obtain rfl := List.mem_singleton.mp hadded
      intro hmutation
      have hafter := coordinator.checkpointed s.world
        (coordinator.startDetails context base call.task attempt)
      exact writtenAhead_of_lastUnsafe
        (lastUnsafe_of_takes (.inr (hguard hnew hmutation)) hmutation hafter hreturned) hmutation

variable {coordinator : Coordinator StoreState} {cfg : StoreConfig}
  {clock : RecoveryCheckpoint → String} {e : RunningExecution StoreState}
  {s t : Engine.State (RunningExecution StoreState)}

theorem writtenAhead_step {move : ExecutionMove}
    (h : ∀ d ∈ s.log, (coordinator.durable cfg clock).WrittenAhead context base d)
    (hguard : WritesAhead coordinator cfg clock context base s move)
    (hstep : ((coordinator.durable cfg clock).executionMachine context base plan).step s move =
      some t) :
    ∀ d ∈ t.log, (coordinator.durable cfg clock).WrittenAhead context base d := by
  have hsame : Engine.SameEntries s.log t.log →
      ∀ d ∈ t.log, (coordinator.durable cfg clock).WrittenAhead context base d := by
    intro hlog d' hd'
    obtain ⟨d, hd, htask, hworld⟩ := hlog d' hd'
    unfold WrittenAhead
    rw [htask, hworld]
    exact h d hd
  cases move with
  | runtime move =>
      cases Engine.moveEffect_of_step _ hstep with
      | @turned i _ call attempt previous hcall hphase hgoes hturned =>
          refine writtenAhead_turn h (fun hnew hmutation => ?_) hturned
          exact (takes_iff coordinator cfg clock context base s.world call.task attempt).mpr
            (hguard call attempt previous hcall hphase hgoes hnew hmutation)
      | finished _ _ _ _ hlog => exact hsame hlog
      | other _ _ hlog => exact hsame hlog
  | dispatch handed =>
      simp only [executionMachine, executionStep] at hstep
      split at hstep
      · cases hstep
      obtain rfl := Option.some.inj hstep
      exact h
  | collect results =>
      simp only [executionMachine, executionStep] at hstep
      split at hstep
      · cases hstep
      obtain rfl := Option.some.inj hstep
      exact h

lemma writesAhead_turn {i : ℕ} {now : ℤ}
    (h : ∀ call ∈ s.calls[i]?, Savable cfg context s.world.journal.store
      ((coordinator.durable cfg clock).captured s.world) call.task) :
    WritesAhead coordinator cfg clock context base s (.runtime (.turn i now)) :=
  fun call _ _ hcall _ _ _ _ => h call hcall

/-- In a run whose steps all write ahead, every executor of a mutation was invoked behind a
checkpoint that is not safe or answers it. -/
theorem written_ahead_of_guarded {moves : List ExecutionMove}
    (hguard : ((coordinator.durable cfg clock).executionMachine context base plan).Guarded
      (WritesAhead coordinator cfg clock context base) (fresh plan e) moves)
    (hrun : ((coordinator.durable cfg clock).executionMachine context base plan).run
      (fresh plan e) moves = some s) :
    ∀ d ∈ s.log, (coordinator.durable cfg clock).WrittenAhead context base d := by
  refine ((coordinator.durable cfg clock).executionMachine context base plan).guarded_invariant
    (fun _ _ _ h hmeets hstep => writtenAhead_step h hmeets hstep) (fun d hd => ?_) hguard hrun
  cases hd

end Ahead

/-! ### A result that is not saved -/

/-- A coordinator, and a store that has a directory, a key and an index. -/
def plainCoordinator : Coordinator StoreState where
  textOfContainer _ := ""

def keyedStore : StoreConfig where
  integrityKey := some fun _ => "00"
  indexed := true
  modelValidate _ := none

/-- The task that reads ends with an output. -/
def readOver (output : Dict String Json) : List ExecutionMove :=
  [.dispatch true, startOf readTask, startOf Engine.sampleTask, .runtime (.turn 0 1),
    .runtime (.finish 0 { completedResult readTask with output := output })]

/-- A mutation begins when the task that reads is over. -/
def mutationBehind (output : Dict String Json) : List ExecutionMove :=
  readOver output ++ [.runtime (.turn 1 2)]

theorem written_ahead_of_guarded_sample :
    ∃ s, ((plainCoordinator.durable keyedStore fun _ => "").executionMachine sampleContext
        Engine.sampleConfig samplePlan).run (fresh samplePlan (sampleExecution {}))
        (mutationBehind [("text", .str "hello")]) = some s ∧ s.log.length = 2 ∧
      ∀ d ∈ s.log, (plainCoordinator.durable keyedStore fun _ => "").WrittenAhead sampleContext
        Engine.sampleConfig d := by
  have hlook : (((plainCoordinator.durable keyedStore fun _ => "").executionMachine sampleContext
      Engine.sampleConfig samplePlan).run (fresh samplePlan (sampleExecution {}))
      (mutationBehind [("text", .str "hello")])).map (fun s => s.log.length) = some 2 := by
    decide +kernel
  obtain ⟨s, hrun, hlog⟩ := Option.map_eq_some_iff.mp hlook
  have hsavable : ∀ t ∈ ((plainCoordinator.durable keyedStore fun _ => "").executionMachine
      sampleContext Engine.sampleConfig samplePlan).run (fresh samplePlan (sampleExecution {}))
      (readOver [("text", .str "hello")]), ∀ call ∈ t.calls[1]?,
        Savable keyedStore sampleContext t.world.journal.store
          ((plainCoordinator.durable keyedStore fun _ => "").captured t.world) call.task := by
    decide +kernel
  have hguard : ((plainCoordinator.durable keyedStore fun _ => "").executionMachine sampleContext
      Engine.sampleConfig samplePlan).Guarded
      (WritesAhead plainCoordinator keyedStore (fun _ => "") sampleContext Engine.sampleConfig)
      (fresh samplePlan (sampleExecution {})) (mutationBehind [("text", .str "hello")]) := by
    refine (Machine.guarded_append _).mpr ⟨⟨trivial, fun _ h₁ => ?_⟩, fun t ht =>
      ⟨writesAhead_turn (hsavable t ht), fun _ _ => trivial⟩⟩
    obtain rfl := Option.some.inj h₁
    refine ⟨trivial, fun _ h₂ => ?_⟩
    obtain rfl := Option.some.inj h₂
    refine ⟨trivial, fun _ h₃ => ?_⟩
    obtain rfl := Option.some.inj h₃
    refine ⟨fun call attempt previous hcall _ _ _ hmutation => ?_, fun _ _ =>
      ⟨trivial, fun _ _ => trivial⟩⟩
    obtain rfl := Option.some.inj hcall
    exact absurd hmutation (by decide)
  exact ⟨s, hrun, hlog, written_ahead_of_guarded hguard hrun⟩

/-- The task before the mutation ends with an output that no store takes: the mutation's executor is
invoked behind the safe checkpoint of that task. -/
theorem mutation_not_written_ahead :
    ¬ ∀ (coordinator : Coordinator StoreState) (cfg : StoreConfig)
      (clock : RecoveryCheckpoint → String) (context : RuntimeContext) (base : EngineConfig Unit)
      (plan : ExecutionPlan) (e : RunningExecution StoreState) (moves : List ExecutionMove)
      (s : Engine.State (RunningExecution StoreState)),
      ((coordinator.durable cfg clock).executionMachine context base plan).run (fresh plan e)
        moves = some s →
      ∀ d ∈ s.log, (coordinator.durable cfg clock).WrittenAhead context base d := by
  intro h
  have hlook : (((plainCoordinator.durable keyedStore fun _ => "").executionMachine sampleContext
      Engine.sampleConfig samplePlan).run (fresh samplePlan (sampleExecution {}))
      (mutationBehind [("password", .str "hunter2")])).map (fun s =>
        decide (∀ d ∈ s.log, (plainCoordinator.durable keyedStore fun _ => "").WrittenAhead
          sampleContext Engine.sampleConfig d)) = some false := by decide +kernel
  obtain ⟨s, hrun, hahead⟩ := Option.map_eq_some_iff.mp hlook
  exact of_decide_eq_false hahead (h plainCoordinator keyedStore (fun _ => "") sampleContext
    Engine.sampleConfig samplePlan _ _ s hrun)

end Coordinator

end Samaktha
