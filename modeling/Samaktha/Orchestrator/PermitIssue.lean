import Samaktha.Cap.Approval
import Samaktha.Runtime.Governance
import Samaktha.Workflow.Engine

/-!
# Issuing the permits of a plan

`run_pipeline` walks over the tasks of a plan and has CAP issue a permit for every task the
runtime will execute.  The operation it submits is assembled from the planned task; the gate
of the runtime assembles it again, from the runtime task that the workflow builds from the
same planned task.  `permit_binds_iff` says for which planned tasks the two agree.

A planner's metadata may differ from what a given loop of `run_pipeline` expects; where that
raises, the whole pipeline raises and issues nothing, which is `none` here.  The three loops
over the plan touch one task at a time and are composed task by task.
-/

namespace Samaktha

namespace Orchestrator

/-- What `run_pipeline` has at hand when it issues permits. -/
structure Issuing where
  platform : Platform
  cap : Cap
  /-- `str` of a value that is not a text. -/
  textOf : Value → String
  principal : Principal
  /-- `state.context` -/
  preparedContext : Value
  /-- `memory_access.model_dump(mode="json")` -/
  memoryAccess : Value
  /-- The identifier and the clock reading of the permit of each task, by position. -/
  stamp : ℕ → Stamp

variable (issuing : Issuing)

def metadataText (metadata : Dict String Value) (key : String) : Option String :=
  (Dict.get? metadata key).bind Value.str?

/-- Provider tasks carry the prepared context. -/
def withPreparedContext (task : PlanTask) : PlanTask :=
  if task.kind = .executeViaRuntime ∧ task.executionActionType ≠ "tool" then
    { task with metadata := Dict.set task.metadata "prepared_context" issuing.preparedContext }
  else task

/-- The arguments of a memory task. -/
def memoryArgs (metadata : Dict String Value) (args : List (Key × Value)) : List (Key × Value) :=
  let args := Dict.set args (.str "_memory_access_context") issuing.memoryAccess
  let sessionId := Dict.get? args (.str "session_id")
  if metadataText metadata "action" = some "delete_session"
      ∧ (sessionId.map Value.truthy).getD false = false then
    Dict.set args (.str "session_id") (.str (orText issuing.principal.sessionId ""))
  else args

/-- Memory tasks carry the access context. -/
def withMemoryAccess (task : PlanTask) : Option PlanTask :=
  if metadataText task.metadata "tool" = some "memory" then
    match (Dict.get? task.metadata "args").getD (.dict []) with
    | .dict args => some { task with
        metadata := Dict.set task.metadata "args" (.dict (memoryArgs issuing task.metadata args)) }
    | _ => none
  else some task

def baseAction (action : String) : String :=
  let startsWith (part : String) : Bool := part.toList.isPrefixOf action.toList
  if startsWith "read_" then "read"
  else if startsWith "write_" then "write"
  else if startsWith "list_" then "list"
  else if startsWith "delete" then "delete"
  else action

/-- The action the policy judges; `none` where it is not a text. -/
def policyAction (task : PlanTask) : Option String :=
  let named := (Dict.get? task.metadata "policy_action").getD
    ((Dict.get? task.metadata "action").getD (.str task.title))
  named.str?.map fun action =>
    if metadataText task.metadata "tool" = some "internet" then "internet" else baseAction action

def executionInputs (rawRequest : String) (task : PlanTask) (args : Inputs) : Inputs :=
  let taskArgs :=
    match (Dict.get? task.metadata "action").filter Value.truthy with
    | some action =>
        if task.executionActionType = "tool" then Dict.setDefault args "action" action else args
    | none => args
  let inputs := Dict.update [
    ("prompt", .str rawRequest),
    ("plan_task_id", .str task.taskId),
    ("plan_task_kind", .str task.kind.value)] taskArgs
  match (Dict.get? task.metadata "prepared_context").filter fun v => !v.isNone with
  | some prepared => Dict.set inputs "prepared_context" prepared
  | none => inputs

/-- `model_dump()` of the constraints, as metadata. -/
def constraintsValue (constraints : ExecutionConstraints) : Value :=
  .dict [
    (.str "requires_local_model", .bool constraints.requiresLocalModel),
    (.str "network_allowed", .bool constraints.networkAllowed),
    (.str "privacy_category", .enum constraints.privacyCategory.value)]

/-- What a task's metadata holds once its permit is issued.  The internet tool finds the
decision among its arguments. -/
def permittedMetadata (metadata : Dict String Value) (permit : ExecutionPermit) :
    Dict String Value :=
  let metadata := Dict.set metadata "required_permissions"
    (.list (permit.requiredPermissions.map fun scope => .str scope.value))
  let metadata := Dict.set metadata "execution_constraints" (constraintsValue permit.constraints)
  if metadataText metadata "tool" = some "internet" then
    match (Dict.get? metadata "args").getD (.dict []) with
    | .dict args => Dict.set metadata "args"
        (.dict (Dict.set args (.str "_cap_permit") (.str permit.decision.value)))
    | _ => metadata
  else metadata

/-- The operation submitted to CAP for a task. -/
def boundOperation (rawRequest : String) (task : PlanTask) (args : Inputs) : PlannedAction where
  actionId := task.taskId
  actionType := task.executionActionType
  description := task.description
  target := some (authorizationTarget task.executionActionType
    (toolId issuing.textOf task.metadata))
  payload := authorizationPayload task.executionActionType
    (executionInputs rawRequest task args)

/-- CAP's turn on one task.  `dict` of arguments that are not a dictionary is not followed
further: no runtime task is built from them. -/
def issuePermit (rawRequest : String) (stamp : Stamp) (task : PlanTask) : Option PlanTask :=
  if task.kind = .executeViaRuntime then
    (policyAction task).bind fun action =>
      (Workflow.argsOf task.metadata).map fun args =>
        let operation := boundOperation issuing rawRequest task args
        let planned := { operation with actionType := action, metadata := task.metadata }
        let permit := ApprovalEngine.authorize issuing.platform issuing.cap
          { action := planned
            policy := PolicyEngine.evaluate issuing.cap planned
            operation := some operation } issuing.principal stamp
        { task with
          permit := some permit
          permitRefused := false
          metadata := permittedMetadata task.metadata permit }
  else some task

/-- The three loops, on one task. -/
def issueTask (rawRequest : String) (stamp : Stamp) (task : PlanTask) : Option PlanTask :=
  (withMemoryAccess issuing (withPreparedContext issuing task)).bind
    (issuePermit issuing rawRequest stamp)

/-- The three loops, on the tasks from a position on. -/
def issueTasks (rawRequest : String) (position : ℕ) : List PlanTask → Option (List PlanTask)
  | [] => some []
  | task :: rest =>
      (issueTask issuing rawRequest (issuing.stamp position) task).bind fun issued =>
        (issueTasks rawRequest (position + 1) rest).map fun tasks => issued :: tasks

/-- The plan as `run_pipeline` hands it to the workflow. -/
def issuePermits (plan : ExecutionPlan) : Option ExecutionPlan :=
  (issueTasks issuing plan.rawRequest 0 plan.tasks).map fun tasks => { plan with tasks := tasks }

/-! ## What the loops keep of a task -/

/-- The argument a planned task gives under a key. -/
def argument (task : PlanTask) (key : String) : Option Value :=
  (Workflow.argsOf task.metadata).bind fun args => Dict.get? (Dict.ofList args) key

lemma keywordItems_set (args : List (Key × Value)) (key : String) (value : Value) :
    Workflow.keywordItems (Dict.set args (.str key) value) =
      (Workflow.keywordItems args).map fun items => Dict.set items key value := by
  induction args with
  | nil => rfl
  | cons kv args ih =>
      obtain ⟨k, v⟩ := kv
      cases k with
      | other type text => rfl
      | str k =>
          by_cases hk : k = key
          · subst hk
            cases hrest : Workflow.keywordItems args with
            | none => simp [Dict.set, Workflow.keywordItems, hrest]
            | some items => simp [Dict.set, Workflow.keywordItems, hrest]
          · have hkey : Key.str k ≠ Key.str key := by simpa using hk
            simp only [Dict.set, if_neg hkey, Workflow.keywordItems, ih]
            cases hrest : Workflow.keywordItems args with
            | none => rfl
            | some items => simp [Dict.set, hk]

lemma argsOf_set_args (metadata : Dict String Value) (args : List (Key × Value)) :
    Workflow.argsOf (Dict.set metadata "args" (.dict args)) = Workflow.keywordItems args := by
  simp [Workflow.argsOf]

lemma argsOf_set_of_ne {key : String} (h : key ≠ "args") (metadata : Dict String Value)
    (value : Value) : Workflow.argsOf (Dict.set metadata key value) = Workflow.argsOf metadata := by
  rw [Workflow.argsOf, Workflow.argsOf, Dict.get?_set_of_ne h]

lemma argsOf_of_dict {metadata : Dict String Value} {args : List (Key × Value)}
    (h : (Dict.get? metadata "args").getD (.dict []) = .dict args) :
    Workflow.argsOf metadata = Workflow.keywordItems args := by
  unfold Workflow.argsOf
  cases hget : Dict.get? metadata "args" with
  | none =>
      rw [hget] at h
      obtain rfl : [] = args := by simpa using h
      rfl
  | some value =>
      rw [hget] at h
      obtain rfl : value = .dict args := h
      rfl

/-- The loops that run before CAP's leave a task as it is, except for the prepared context and
two arguments of a memory task. -/
structure Readied (task readied : PlanTask) : Prop where
  taskId : readied.taskId = task.taskId
  kind : readied.kind = task.kind
  actionType : readied.executionActionType = task.executionActionType
  metadata : ∀ key, key ≠ "args" → key ≠ "prepared_context" →
    Dict.get? readied.metadata key = Dict.get? task.metadata key
  argument : ∀ key, key ≠ "_memory_access_context" → key ≠ "session_id" →
    argument readied key = argument task key

lemma Readied.trans {task middle readied : PlanTask} (h : Readied task middle)
    (h' : Readied middle readied) : Readied task readied where
  taskId := h'.taskId.trans h.taskId
  kind := h'.kind.trans h.kind
  actionType := h'.actionType.trans h.actionType
  metadata key hargs hprepared :=
    (h'.metadata key hargs hprepared).trans (h.metadata key hargs hprepared)
  argument key haccess hsession :=
    (h'.argument key haccess hsession).trans (h.argument key haccess hsession)

lemma readied_withPreparedContext (task : PlanTask) :
    Readied task (withPreparedContext issuing task) := by
  unfold withPreparedContext
  split
  · refine ⟨rfl, rfl, rfl, fun key _ hprepared => ?_, fun key _ _ => ?_⟩
    · exact Dict.get?_set_of_ne (Ne.symm hprepared) _ _
    · have hne : "prepared_context" ≠ "args" := by decide
      simp only [argument, argsOf_set_of_ne hne]
  · exact ⟨rfl, rfl, rfl, fun _ _ _ => rfl, fun _ _ _ => rfl⟩

lemma keywordItems_memoryArgs (metadata : Dict String Value) (args : List (Key × Value))
    {key : String} (haccess : key ≠ "_memory_access_context") (hsession : key ≠ "session_id") :
    ((Workflow.keywordItems (memoryArgs issuing metadata args)).bind fun items =>
      Dict.get? (Dict.ofList items) key) =
        (Workflow.keywordItems args).bind fun items => Dict.get? (Dict.ofList items) key := by
  have hset : ∀ (args : List (Key × Value)) (k : String) (v : Value), k ≠ key →
      ((Workflow.keywordItems (Dict.set args (.str k) v)).bind fun items =>
        Dict.get? (Dict.ofList items) key) =
          (Workflow.keywordItems args).bind fun items => Dict.get? (Dict.ofList items) key := by
    intro args k v hk
    rw [keywordItems_set]
    cases Workflow.keywordItems args with
    | none => rfl
    | some items => exact Dict.get?_ofList_set_of_ne hk items v
  unfold memoryArgs
  dsimp only
  split
  · rw [hset _ _ _ (Ne.symm hsession), hset _ _ _ (Ne.symm haccess)]
  · rw [hset _ _ _ (Ne.symm haccess)]

lemma readied_withMemoryAccess {task readied : PlanTask}
    (h : withMemoryAccess issuing task = some readied) : Readied task readied := by
  unfold withMemoryAccess at h
  split at h
  · split at h
    · rename_i args hargs
      obtain rfl := Option.some.inj h
      refine ⟨rfl, rfl, rfl, fun key hkey _ => ?_, fun key haccess hsession => ?_⟩
      · exact Dict.get?_set_of_ne (Ne.symm hkey) _ _
      · simp only [argument, argsOf_set_args, argsOf_of_dict hargs]
        exact keywordItems_memoryArgs issuing task.metadata args haccess hsession
    · cases h
  · obtain rfl := Option.some.inj h
    exact ⟨rfl, rfl, rfl, fun _ _ _ => rfl, fun _ _ _ => rfl⟩

/-- CAP's turn on a task: the permit is bound to the operation submitted for it, and of what
the runtime task is built from only the argument `_cap_permit` may be new. -/
structure Permitted (rawRequest : String) (task issued : PlanTask) : Prop where
  taskId : issued.taskId = task.taskId
  kind : issued.kind = task.kind
  actionType : issued.executionActionType = task.executionActionType
  metadata : ∀ key, key ≠ "args" → key ≠ "required_permissions" →
    key ≠ "execution_constraints" → Dict.get? issued.metadata key = Dict.get? task.metadata key
  bound : ∃ args args' permit, Workflow.argsOf task.metadata = some args ∧
    Workflow.argsOf issued.metadata = some args' ∧ issued.permit = some permit ∧
    (∀ key, key ≠ "_cap_permit" →
      Dict.get? (Dict.ofList args') key = Dict.get? (Dict.ofList args) key) ∧
    permit.actionType = normalizeActionType task.executionActionType ∧
    permit.target = normalizeTarget (boundOperation issuing rawRequest task args).target ∧
    permit.operationDigest = operationDigest issuing.platform task.executionActionType
      (boundOperation issuing rawRequest task args).target
      (boundOperation issuing rawRequest task args).payload

lemma get?_permittedMetadata (metadata : Dict String Value) (permit : ExecutionPermit)
    {key : String} (hargs : key ≠ "args") (hpermissions : key ≠ "required_permissions")
    (hconstraints : key ≠ "execution_constraints") :
    Dict.get? (permittedMetadata metadata permit) key = Dict.get? metadata key := by
  have hbase : Dict.get? (Dict.set (Dict.set metadata "required_permissions"
      (.list (permit.requiredPermissions.map fun scope => .str scope.value)))
      "execution_constraints" (constraintsValue permit.constraints)) key =
        Dict.get? metadata key := by
    rw [Dict.get?_set_of_ne (Ne.symm hconstraints), Dict.get?_set_of_ne (Ne.symm hpermissions)]
  unfold permittedMetadata
  dsimp only
  split
  · split
    · rw [Dict.get?_set_of_ne (Ne.symm hargs), hbase]
    · exact hbase
  · exact hbase

lemma argsOf_permittedMetadata {metadata : Dict String Value} {args : Inputs}
    (h : Workflow.argsOf metadata = some args) (permit : ExecutionPermit) :
    ∃ args', Workflow.argsOf (permittedMetadata metadata permit) = some args' ∧
      ∀ key, key ≠ "_cap_permit" →
        Dict.get? (Dict.ofList args') key = Dict.get? (Dict.ofList args) key := by
  have hbase : Workflow.argsOf (Dict.set (Dict.set metadata "required_permissions"
      (.list (permit.requiredPermissions.map fun scope => .str scope.value)))
      "execution_constraints" (constraintsValue permit.constraints)) = some args := by
    rw [argsOf_set_of_ne (by decide), argsOf_set_of_ne (by decide), h]
  unfold permittedMetadata
  dsimp only
  split
  · split
    · rename_i items hitems
      rw [argsOf_of_dict hitems] at hbase
      refine ⟨Dict.set args "_cap_permit" (.str permit.decision.value), ?_, fun key hkey => ?_⟩
      · rw [argsOf_set_args, keywordItems_set, hbase]
        rfl
      · exact Dict.get?_ofList_set_of_ne (Ne.symm hkey) _ _
    · exact ⟨args, hbase, fun _ _ => rfl⟩
  · exact ⟨args, hbase, fun _ _ => rfl⟩

lemma permitted_issuePermit {rawRequest : String} {stamp : Stamp} {task issued : PlanTask}
    (hkind : task.kind = .executeViaRuntime)
    (h : issuePermit issuing rawRequest stamp task = some issued) :
    Permitted issuing rawRequest task issued := by
  unfold issuePermit at h
  rw [if_pos hkind, Option.bind_eq_some_iff] at h
  obtain ⟨action, -, h⟩ := h
  rw [Option.map_eq_some_iff] at h
  obtain ⟨args, hargs, rfl⟩ := h
  dsimp only
  refine ⟨rfl, rfl, rfl, fun key h₁ h₂ h₃ => get?_permittedMetadata _ _ h₁ h₂ h₃, ?_⟩
  obtain ⟨args', hargs', hsame⟩ := argsOf_permittedMetadata hargs
    (ApprovalEngine.authorize issuing.platform issuing.cap _ issuing.principal stamp)
  obtain ⟨-, hactionType, htarget, hdigest⟩ := authorize_binding issuing.platform issuing.cap
    { boundOperation issuing rawRequest task args with
      actionType := action, metadata := task.metadata }
    (boundOperation issuing rawRequest task args) _ false issuing.principal stamp
  exact ⟨args, args', _, hargs, hargs', rfl, hsame, hactionType, htarget, hdigest⟩

/-! ## Two assemblies of one operation -/

/-- Whether the workflow assembles the operation of a planned task as `run_pipeline` does: the
action type is not empty; a provider task has no system prompt in its metadata, or gives the
same one as an argument; and a task of another type than `tool` names no tool, or names its
own action type. -/
def Agrees (textOf : Value → String) (task : PlanTask) : Prop :=
  task.executionActionType ≠ "" ∧
    if isProviderAction task.executionActionType then
      ∀ systemPrompt,
        (Dict.get? task.metadata "system_prompt").filter Value.truthy = some systemPrompt →
        (argument task "system_prompt").map normalizeOperationPayload =
          some (normalizeOperationPayload systemPrompt)
    else task.executionActionType = "tool" ∨
      ∀ tool, normalizeTarget (toolId textOf task.metadata) = some tool →
        tool = task.executionActionType

/-- The inputs both assemblies start from. -/
def baseInputs (rawRequest : String) (task : PlanTask) : Inputs :=
  [("prompt", .str rawRequest), ("plan_task_id", .str task.taskId),
    ("plan_task_kind", .str task.kind.value)]

lemma get?_executionInputs (rawRequest : String) (task : PlanTask) (args : Inputs) {key : String}
    (hprepared : key ≠ "prepared_context") :
    Dict.get? (executionInputs rawRequest task args) key =
      Dict.get? (Dict.update (baseInputs rawRequest task) (Workflow.taskArgs task {} args))
        key := by
  have hargs : (match (Dict.get? task.metadata "action").filter Value.truthy with
      | some action =>
          if task.executionActionType = "tool" then Dict.setDefault args "action" action else args
      | none => args) = Workflow.taskArgs task {} args := rfl
  unfold executionInputs
  rw [hargs]
  cases (Dict.get? task.metadata "prepared_context").filter fun v => !v.isNone with
  | none => rfl
  | some prepared => exact Dict.get?_set_of_ne (Ne.symm hprepared) _ _

lemma get?_runtimeInputs (plan : ExecutionPlan) {task : PlanTask}
    (hkind : task.kind = .executeViaRuntime) (prepared : Option Value) (args : Inputs)
    {key : String} (hprepared : key ≠ "prepared_context") :
    Dict.get? (Workflow.runtimeInputs plan task {} prepared args) key =
      (if key = "system_prompt" then
        (Dict.get? task.metadata "system_prompt").filter Value.truthy else none).or
      (Dict.get? (Dict.update (baseInputs plan.rawRequest task) (Workflow.taskArgs task {} args))
        key) := by
  have hbase : ([("prompt", .str (if task.kind = .executeViaRuntime then plan.rawRequest
      else task.description)), ("plan_task_id", .str task.taskId),
      ("plan_task_kind", .str task.kind.value)] : Inputs) = baseInputs plan.rawRequest task := by
    rw [if_pos hkind]
    rfl
  unfold Workflow.runtimeInputs
  simp only [hbase]
  generalize Dict.update (baseInputs plan.rawRequest task) (Workflow.taskArgs task {} args) = inputs
  have hinner : Dict.get? (match prepared with
      | some value =>
          if isProviderAction task.executionActionType then
            Dict.set inputs "prepared_context" value
          else inputs
      | none => inputs) key = Dict.get? inputs key := by
    cases prepared with
    | none => rfl
    | some value =>
        dsimp only
        split
        · exact Dict.get?_set_of_ne (Ne.symm hprepared) _ _
        · rfl
  cases (Dict.get? task.metadata "system_prompt").filter Value.truthy with
  | none =>
      rw [ite_self, Option.none_or]
      exact hinner
  | some systemPrompt =>
      dsimp only
      by_cases hkey : key = "system_prompt"
      · subst hkey
        rw [Dict.get?_set_self, if_pos rfl, Option.some_or]
      · rw [Dict.get?_set_of_ne (Ne.symm hkey), if_neg hkey, Option.none_or]
        exact hinner

lemma get?_update_taskArgs {rawRequest : String} {task issued : PlanTask}
    (htaskId : issued.taskId = task.taskId) (hkind : issued.kind = task.kind)
    (htype : issued.executionActionType = task.executionActionType)
    (haction : Dict.get? issued.metadata "action" = Dict.get? task.metadata "action")
    {args args' : Inputs} {key : String}
    (hargs : Dict.get? (Dict.ofList args') key = Dict.get? (Dict.ofList args) key) :
    Dict.get? (Dict.update (baseInputs rawRequest issued) (Workflow.taskArgs issued {} args')) key =
      Dict.get? (Dict.update (baseInputs rawRequest task) (Workflow.taskArgs task {} args))
        key := by
  have hbase : baseInputs rawRequest issued = baseInputs rawRequest task := by
    rw [baseInputs, baseInputs, htaskId, hkind]
  rw [Dict.get?_update, Dict.get?_update, hbase]
  congr 1
  unfold Workflow.taskArgs
  simp only [htype, haction, Option.getD_none, Dict.update_nil]
  cases (Dict.get? task.metadata "action").filter Value.truthy with
  | none => exact hargs
  | some action =>
      dsimp only
      split
      · rw [Dict.get?_ofList_setDefault, Dict.get?_ofList_setDefault, hargs]
      · exact hargs

lemma get?_update_systemPrompt (rawRequest : String) (task : PlanTask) (args : Inputs) :
    Dict.get? (Dict.update (baseInputs rawRequest task) (Workflow.taskArgs task {} args))
      "system_prompt" = Dict.get? (Dict.ofList args) "system_prompt" := by
  rw [Dict.get?_update]
  have hbase : Dict.get? (baseInputs rawRequest task) "system_prompt" = none := by
    simp [baseInputs, Dict.get?_cons]
  rw [hbase, Option.or_none]
  unfold Workflow.taskArgs
  simp only [Option.getD_none, Dict.update_nil]
  cases (Dict.get? task.metadata "action").filter Value.truthy with
  | none => rfl
  | some action =>
      dsimp only
      split
      · rw [Dict.get?_ofList_setDefault]
        simp
      · rfl

/-- Inputs that read the same, the system prompt aside, have one bound payload exactly if a
provider's system prompts are the same. -/
lemma normalPayload_eq_iff {actionType : String}
    (hnormal : normalizeActionType actionType = actionType) {inputs inputs' : Inputs}
    (hd : Dict.NodupKeys inputs) (hd' : Dict.NodupKeys inputs') (systemPrompt : Option Value)
    (hsame : ∀ key, key ≠ "prepared_context" → key ≠ "_cap_permit" → key ≠ "system_prompt" →
      Dict.get? inputs' key = Dict.get? inputs key)
    (hprompt : Dict.get? inputs' "system_prompt" =
      systemPrompt.or (Dict.get? inputs "system_prompt")) :
    normalizeOperationPayload (authorizationPayload actionType inputs).toValue =
        normalizeOperationPayload (authorizationPayload actionType inputs').toValue ↔
      (isProviderAction actionType = true → ∀ prompt, systemPrompt = some prompt →
        (Dict.get? inputs "system_prompt").map normalizeOperationPayload =
          some (normalizeOperationPayload prompt)) := by
  have hform : (Value.toJsonWithout incidentalOperationKeys) = normalizeOperationPayload := rfl
  rw [normalizeOperationPayload, normalizeOperationPayload,
    Inputs.toJsonWithout_eq_iff, hform]
  simp only [Dict.get?_ofList (nodupKeys_authorizationPayload actionType hd),
    Dict.get?_ofList (nodupKeys_authorizationPayload actionType hd'),
    get?_authorizationPayload, hnormal]
  constructor
  · intro h hprovider prompt hsome
    have hkey := h "system_prompt" (by decide)
    simp only [hprovider, hprompt, hsome, Option.some_or] at hkey
    simpa using hkey
  · intro h key hkey
    by_cases hpopped : key = "messages" ∨ key = "prepared_context"
    · rw [if_pos hpopped, if_pos hpopped]
    · obtain ⟨-, hprepared⟩ := not_or.mp hpopped
      have hcap : key ≠ "_cap_permit" := by
        rintro rfl
        exact hkey (by decide)
      rw [if_neg hpopped, if_neg hpopped]
      by_cases hsystem : key = "system_prompt"
      · subst hsystem
        by_cases hprovider : isProviderAction actionType = true
        · simp only [hprovider, if_true, hprompt]
          rw [if_neg (by decide), if_neg (by decide)]
          cases hsome : systemPrompt with
          | none => rfl
          | some prompt => exact h hprovider prompt hsome
        · simp [hprovider]
      · have hread := hsame key hprepared hcap hsystem
        have hbound : boundPrompt inputs' = boundPrompt inputs := by
          rw [boundPrompt, boundPrompt, hsame "prompt" (by decide) (by decide) (by decide),
            hsame "messages" (by decide) (by decide) (by decide)]
        rw [hread, hbound]

/-- The target of the submitted operation is the gate's exactly if no tool is named that the
gate does not read. -/
lemma target_eq_iff {actionType : String} (hnormal : normalizeActionType actionType = actionType)
    (tool : Option String) :
    normalizeTarget (some (authorizationTarget actionType tool)) =
        some (authorizationTarget actionType (if actionType = "tool" then tool else none)) ↔
      actionType ≠ "" ∧ (isProviderAction actionType = true ∨ actionType = "tool" ∨
        ∀ name, normalizeTarget tool = some name → name = actionType) := by
  by_cases hempty : actionType = ""
  · subst hempty
    have hgate : authorizationTarget "" (if "" = "tool" then tool else none) = "" := rfl
    rw [hgate]
    constructor
    · intro h
      exact absurd rfl (normalizeTarget_eq_some h).2
    · rintro ⟨hne, -⟩
      exact absurd rfl hne
  · rw [normalizeTarget_authorizationTarget (by rw [hnormal]; exact hempty), Option.some.injEq]
    by_cases hprovider : isProviderAction actionType = true
    · simp [authorizationTarget, hnormal, hprovider, hempty]
    · by_cases htool : actionType = "tool"
      · simp [htool]
      · rw [if_neg htool]
        have hnone : normalizeTarget none = none := rfl
        cases hname : normalizeTarget tool with
        | none => simp [authorizationTarget, hnormal, hprovider, htool, hempty, hname, hnone]
        | some name => simp [authorizationTarget, hnormal, hprovider, htool, hempty, hname, hnone]

/-! ## The permit of an issued task -/

lemma issueTask_of_mem_zip {rawRequest : String} {position : ℕ} {tasks issued : List PlanTask}
    (h : issueTasks issuing rawRequest position tasks = some issued) {pair : PlanTask × PlanTask}
    (hmem : pair ∈ tasks.zip issued) :
    ∃ stamp, issueTask issuing rawRequest stamp pair.1 = some pair.2 := by
  induction tasks generalizing position issued with
  | nil => simp at hmem
  | cons task rest ih =>
      rw [issueTasks, Option.bind_eq_some_iff] at h
      obtain ⟨first, hfirst, h⟩ := h
      rw [Option.map_eq_some_iff] at h
      obtain ⟨others, hothers, rfl⟩ := h
      rcases List.mem_cons.mp (List.zip_cons_cons ▸ hmem) with rfl | hmem
      · exact ⟨_, hfirst⟩
      · exact ih hothers hmem

lemma nodupKeys_update_baseInputs (rawRequest : String) (task : PlanTask) (args : Inputs) :
    Dict.NodupKeys (Dict.update (baseInputs rawRequest task) args) := by
  have hbase : Dict.NodupKeys (baseInputs rawRequest task) := by
    simp [baseInputs, Dict.NodupKeys, Dict.keys]
  exact hbase.update args

lemma nodupKeys_executionInputs (rawRequest : String) (task : PlanTask) (args : Inputs) :
    Dict.NodupKeys (executionInputs rawRequest task args) := by
  unfold executionInputs
  dsimp only
  split
  · exact (nodupKeys_update_baseInputs rawRequest task _).set _ _
  · exact nodupKeys_update_baseInputs rawRequest task _

lemma nodupKeys_runtimeInputs (plan : ExecutionPlan) (task : PlanTask)
    (overrides : ResumeOverrides) (prepared : Option Value) (args : Inputs) :
    Dict.NodupKeys (Workflow.runtimeInputs plan task overrides prepared args) := by
  have hbase : ∀ (prompt : Value) (inputs : Inputs), Dict.NodupKeys (Dict.update
      [("prompt", prompt), ("plan_task_id", .str task.taskId),
        ("plan_task_kind", .str task.kind.value)] inputs) := fun prompt inputs => by
    have hkeys : Dict.NodupKeys [("prompt", prompt), ("plan_task_id", .str task.taskId),
        ("plan_task_kind", .str task.kind.value)] := by
      simp [Dict.NodupKeys, Dict.keys]
    exact hkeys.update inputs
  unfold Workflow.runtimeInputs
  dsimp only
  have hinner : ∀ inputs : Inputs, Dict.NodupKeys inputs → Dict.NodupKeys (match prepared with
      | some value =>
          if isProviderAction task.executionActionType then
            Dict.set inputs "prepared_context" value
          else inputs
      | none => inputs) := by
    intro inputs h
    cases prepared with
    | none => exact h
    | some value =>
        dsimp only
        split
        · exact h.set _ _
        · exact h
  split
  · exact (hinner _ (hbase _ _)).set _ _
  · exact hinner _ (hbase _ _)

/-- The two bound payloads of an issued task. -/
lemma issuedPayload_eq_iff {plan issued : ExecutionPlan}
    (hraw : issued.rawRequest = plan.rawRequest)
    {task readied issuedTask : PlanTask} (hready : Readied task readied)
    (hpermitted : Permitted issuing plan.rawRequest readied issuedTask)
    (hkind : task.kind = .executeViaRuntime)
    (hnormal : normalizeActionType task.executionActionType = task.executionActionType)
    {args args' : Inputs} (hargs : Workflow.argsOf readied.metadata = some args)
    (hsame : ∀ key, key ≠ "_cap_permit" →
      Dict.get? (Dict.ofList args') key = Dict.get? (Dict.ofList args) key)
    (prepared : Option Value) :
    normalizeOperationPayload (authorizationPayload task.executionActionType
        (executionInputs plan.rawRequest readied args)).toValue =
      normalizeOperationPayload (authorizationPayload task.executionActionType
        (Workflow.runtimeInputs issued issuedTask {} prepared args')).toValue ↔
      (isProviderAction task.executionActionType = true → ∀ systemPrompt,
        (Dict.get? task.metadata "system_prompt").filter Value.truthy = some systemPrompt →
        (argument task "system_prompt").map normalizeOperationPayload =
          some (normalizeOperationPayload systemPrompt)) := by
  have hissuedKind : issuedTask.kind = .executeViaRuntime :=
    hpermitted.kind.trans (hready.kind.trans hkind)
  have haction : Dict.get? issuedTask.metadata "action" = Dict.get? readied.metadata "action" :=
    hpermitted.metadata "action" (by decide) (by decide) (by decide)
  have hsystem : Dict.get? issuedTask.metadata "system_prompt" =
      Dict.get? task.metadata "system_prompt" :=
    (hpermitted.metadata "system_prompt" (by decide) (by decide) (by decide)).trans
      (hready.metadata "system_prompt" (by decide) (by decide))
  -- away from the prepared context and the system prompt, both read the completed arguments
  have hread : ∀ key, key ≠ "prepared_context" → key ≠ "_cap_permit" →
      Dict.get? (Workflow.runtimeInputs issued issuedTask {} prepared args') key =
        (if key = "system_prompt" then
          (Dict.get? task.metadata "system_prompt").filter Value.truthy else none).or
        (Dict.get? (executionInputs plan.rawRequest readied args) key) := by
    intro key hprepared hcap
    rw [get?_runtimeInputs issued hissuedKind prepared args' hprepared, hsystem, hraw,
      get?_update_taskArgs hpermitted.taskId hpermitted.kind hpermitted.actionType haction
        (hsame key hcap), get?_executionInputs plan.rawRequest readied args hprepared]
  have hown : Dict.get? (executionInputs plan.rawRequest readied args) "system_prompt" =
      argument task "system_prompt" := by
    rw [get?_executionInputs plan.rawRequest readied args (by decide), get?_update_systemPrompt,
      ← hready.argument "system_prompt" (by decide) (by decide), argument, hargs]
    rfl
  rw [← hown]
  refine normalPayload_eq_iff hnormal (nodupKeys_executionInputs _ _ _)
    (nodupKeys_runtimeInputs _ _ _ _ _)
    ((Dict.get? task.metadata "system_prompt").filter Value.truthy) ?_ ?_
  · intro key hprepared hcap hkey
    rw [hread key hprepared hcap, if_neg hkey, Option.none_or]
  · rw [hread "system_prompt" (by decide) (by decide), if_pos rfl]

/-- The gate's reading of the runtime task of an issued task agrees with its permit exactly
under `Agrees`. -/
lemma operationMatches_iff (hdigest : Function.Injective issuing.platform.digest)
    {plan issued : ExecutionPlan} (hraw : issued.rawRequest = plan.rawRequest)
    {task issuedTask : PlanTask} {stamp : Stamp}
    (hissued : issueTask issuing plan.rawRequest stamp task = some issuedTask)
    (hkind : task.kind = .executeViaRuntime)
    (hnormal : normalizeActionType task.executionActionType = task.executionActionType)
    {prepared : Option Value} {built : RuntimeTask}
    (hbuilt : Workflow.runtimeTask issued [] prepared issuedTask = some built) :
    ∃ permit, built.permit = some permit ∧ permit.actionType = built.actionType ∧
      ((permit.target = some (gateTarget issuing.textOf built) ∧
          permit.operationDigest = gateDigest issuing.platform issuing.textOf built) ↔
        Agrees issuing.textOf task) := by
  rw [issueTask, Option.bind_eq_some_iff] at hissued
  obtain ⟨readied, hreadied, hissued⟩ := hissued
  have hready : Readied task readied :=
    (readied_withPreparedContext issuing task).trans (readied_withMemoryAccess issuing hreadied)
  have hpermitted := permitted_issuePermit issuing (hready.kind.trans hkind) hissued
  obtain ⟨args, args', permit, hargs, hargs', hpermit, hsame, hactionType, htarget, hoperation⟩ :=
    hpermitted.bound
  unfold Workflow.runtimeTask at hbuilt
  split at hbuilt
  · cases hbuilt
  rw [hargs', Option.map_some, Option.some.injEq] at hbuilt
  have htype := hpermitted.actionType.trans hready.actionType
  have hbuiltType : built.actionType = task.executionActionType := by rw [← hbuilt, ← htype]
  have hbuiltInputs :
      built.inputs = Workflow.runtimeInputs issued issuedTask {} prepared args' := by
    rw [← hbuilt]
    rfl
  -- the tool both sides may read
  have htool : toolId issuing.textOf readied.metadata = toolId issuing.textOf task.metadata := by
    rw [toolId, toolId, hready.metadata "tool" (by decide) (by decide)]
  have hbuiltTool : toolId issuing.textOf built.metadata = toolId issuing.textOf task.metadata := by
    rw [← htool, ← hbuilt, toolId, toolId, Dict.get?_update,
      ← hpermitted.metadata "tool" (by decide) (by decide) (by decide)]
    rfl
  have hgateTarget : gateTarget issuing.textOf built =
      authorizationTarget task.executionActionType (if task.executionActionType = "tool" then
        toolId issuing.textOf task.metadata else none) := by
    rw [gateTarget, hbuiltType, hbuiltTool]
  have htargets := target_eq_iff hnormal (toolId issuing.textOf task.metadata)
  have hpayloads := issuedPayload_eq_iff issuing hraw hready hpermitted hkind hnormal hargs hsame
    prepared
  rw [← hgateTarget] at htargets
  rw [← hbuiltInputs] at hpayloads
  simp only [boundOperation, hready.actionType, htool] at htarget hoperation
  refine ⟨permit, by rw [← hbuilt]; exact hpermit, ?_, ?_⟩
  · rw [hactionType, hready.actionType, hnormal, hbuiltType]
  · rw [htarget, hoperation, gateDigest, hbuiltType, Agrees]
    constructor
    · rintro ⟨hsameTarget, hsameDigest⟩
      obtain ⟨hne, hcases⟩ := htargets.mp hsameTarget
      have hprompts := hpayloads.mp
        (normalizeOperationPayload_of_operationDigest issuing.platform hdigest hsameDigest)
      refine ⟨hne, ?_⟩
      split
      · exact hprompts ‹_›
      · exact hcases.resolve_left ‹_›
    · rintro ⟨hne, hcond⟩
      have hsameTarget : normalizeTarget (some (authorizationTarget task.executionActionType
          (toolId issuing.textOf task.metadata))) = some (gateTarget issuing.textOf built) := by
        refine htargets.mpr ⟨hne, ?_⟩
        split at hcond
        · exact .inl ‹_›
        · exact .inr hcond
      have hgateNormal : normalizeTarget (some (gateTarget issuing.textOf built)) =
          some (gateTarget issuing.textOf built) := by
        obtain ⟨hstrip, hnonempty⟩ := normalizeTarget_eq_some hsameTarget
        simp [normalizeTarget, hstrip, hnonempty]
      refine ⟨hsameTarget, operationDigest_congr issuing.platform rfl
        (hsameTarget.trans hgateNormal.symm) (hpayloads.mpr fun hprovider => ?_)⟩
      rwa [if_pos hprovider] at hcond

/-- A permit, or what CAP makes of it when the user has decided. -/
def Reissued (platform : Platform) (permit reissued : ExecutionPermit) : Prop :=
  reissued = permit ∨ ∃ decision reasons source stamp,
    reissued = ExecutionPermit.resolvePending platform permit decision reasons source stamp

lemma operationMatches_of_reissued {platform : Platform} {textOf : Value → String}
    {permit reissued : ExecutionPermit} (h : Reissued platform permit reissued)
    (task : RuntimeTask) :
    operationMatches platform textOf reissued task =
      operationMatches platform textOf permit task := by
  rcases h with rfl | ⟨decision, reasons, source, stamp, rfl⟩
  · rfl
  · obtain ⟨-, -, hactionType, htarget, hoperation⟩ :=
      ExecutionPermit.resolvePending_binding platform permit decision reasons source stamp
    rw [operationMatches, operationMatches, hactionType, htarget, hoperation]

/-- The permit of a planned task is bound to the operation of its runtime task exactly if the
planned task is one on which the two assemblies agree.  For such a task the gate never finds
the operation mismatched, and for any other it never lets the task through. -/
theorem permit_binds_iff (hdigest : Function.Injective issuing.platform.digest)
    {plan issued : ExecutionPlan} (hissued : issuePermits issuing plan = some issued)
    {task issuedTask : PlanTask} (hmem : (task, issuedTask) ∈ plan.tasks.zip issued.tasks)
    (hkind : task.kind = .executeViaRuntime)
    (hnormal : normalizeActionType task.executionActionType = task.executionActionType)
    {prepared : Option Value} {built : RuntimeTask}
    (hbuilt : Workflow.runtimeTask issued [] prepared issuedTask = some built) :
    ∃ permit, built.permit = some permit ∧
      ((permit.target = some (gateTarget issuing.textOf built) ∧
          permit.operationDigest = gateDigest issuing.platform issuing.textOf built) ↔
        Agrees issuing.textOf task) ∧
      ∀ reissued, Reissued issuing.platform permit reissued →
        ∀ (context : RuntimeContext) (routing : RoutingDecision) (now : ℤ),
          let verdict := enforceCapPermit issuing.platform issuing.textOf context
            { built with permit := some reissued } routing now
          (Agrees issuing.textOf task → ∀ result, verdict = .ok (some result) →
            Dict.get? result.metadata "diagnostic" ≠ some (.str "permit_operation_mismatch")) ∧
          (¬ Agrees issuing.textOf task → verdict ≠ .ok none) := by
  rw [issuePermits, Option.map_eq_some_iff] at hissued
  obtain ⟨tasks, htasks, rfl⟩ := hissued
  obtain ⟨stamp, hstamp⟩ := issueTask_of_mem_zip issuing htasks hmem
  obtain ⟨permit, hpermit, hactionType, hiff⟩ :=
    operationMatches_iff issuing hdigest rfl hstamp hkind hnormal hbuilt
  have hmatches : operationMatches issuing.platform issuing.textOf permit built = true ↔
      Agrees issuing.textOf task := by
    rw [← hiff]
    simp [operationMatches, hactionType]
  refine ⟨permit, hpermit, hiff, fun reissued hreissued context routing now => ⟨?_, ?_⟩⟩
  · intro hagrees result hresult hdiagnostic
    have hmismatch := operationMatches_of_mismatch issuing.platform issuing.textOf rfl hresult
      hdiagnostic
    rw [operationMatches_of_reissued hreissued] at hmismatch
    exact Bool.false_ne_true (hmismatch.symm.trans (hmatches.mpr hagrees))
  · intro hdisagree hthrough
    obtain ⟨_, hsome, hoperation, htarget, htype⟩ :=
      operationMatches_of_enforceCapPermit issuing.platform issuing.textOf hthrough
    obtain rfl := Option.some.inj hsome
    refine hdisagree (hmatches.mp ?_)
    rw [← operationMatches_of_reissued hreissued, operationMatches]
    simp only [Bool.and_eq_true, decide_eq_true_eq]
    exact ⟨⟨htype, htarget⟩, hoperation⟩

/-! ### A task with a system prompt -/

/-- CAP over a classifier that finds nothing private. -/
def sampleIssuing : Issuing where
  platform := {
    digest := fun payload => String.ofList payload.code
    signPermit := fun _ => "mac"
    validateConstraints := fun _ => some {} }
  cap := { classify := fun _ => .public }
  textOf := fun _ => ""
  principal := { subjectId := "u" }
  preparedContext := .dict []
  memoryAccess := .dict []
  stamp := fun _ => ⟨"p", 0⟩

/-- A planned generation with the given metadata. -/
def sampleGeneration (metadata : Dict String Value) : PlanTask where
  taskId := "t"
  title := "answer"
  kind := .executeViaRuntime
  metadata := metadata

/-- The plan of that task, issued. -/
def sampleIssued (metadata : Dict String Value) : ExecutionPlan :=
  (issuePermits sampleIssuing
    { planId := "plan", rawRequest := "hi", tasks := [sampleGeneration metadata] }).getD default

/-- Its runtime task. -/
def sampleBuilt (metadata : Dict String Value) : RuntimeTask :=
  (Workflow.runtimeTask (sampleIssued metadata) [] (some (.dict []))
    ((sampleIssued metadata).tasks.headD default)).getD default

/-- Without a system prompt the permit is bound to the task's operation. -/
theorem permit_binds_sample :
    ∃ permit, (sampleBuilt []).permit = some permit ∧
      permit.operationDigest =
        gateDigest sampleIssuing.platform sampleIssuing.textOf (sampleBuilt []) := by
  have hissued := some_getD (o := issuePermits sampleIssuing
    { planId := "plan", rawRequest := "hi", tasks := [sampleGeneration []] }) (by decide) default
  have hbuilt := some_getD (o := Workflow.runtimeTask (sampleIssued []) [] (some (.dict []))
    ((sampleIssued []).tasks.headD default)) (by decide) default
  obtain ⟨permit, hpermit, hiff, -⟩ := permit_binds_iff sampleIssuing Json.text_code_injective
    hissued List.mem_cons_self rfl (by decide) hbuilt
  refine ⟨permit, hpermit, (hiff.mpr ⟨by decide, ?_⟩).2⟩
  rw [if_pos (by decide)]
  rintro systemPrompt h
  cases h

/-- With one, CAP allows the task and the gate answers that its operation does not match. -/
theorem permit_mismatch_systemPrompt :
    (sampleBuilt [("system_prompt", .str "x")]).permit.map ExecutionPermit.decision = some .allow ∧
      ∃ result, enforceCapPermit sampleIssuing.platform sampleIssuing.textOf
          { requestId := "r", userId := some "u" } (sampleBuilt [("system_prompt", .str "x")])
          (Workflow.bypassedRouting "") 1 = .ok (some result) ∧
        Dict.get? result.metadata "diagnostic" = some (.str "permit_operation_mismatch") := by
  have hissued := some_getD (o := issueTask sampleIssuing "hi" ⟨"p", 0⟩
    (sampleGeneration [("system_prompt", .str "x")])) (by decide) default
  have hraw : (sampleIssued [("system_prompt", .str "x")]).rawRequest =
      ({ planId := "plan", rawRequest := "hi", tasks := [] } : ExecutionPlan).rawRequest := rfl
  have hbuilt := some_getD (o := Workflow.runtimeTask
    (sampleIssued [("system_prompt", .str "x")]) [] (some (.dict []))
    ((sampleIssued [("system_prompt", .str "x")]).tasks.headD default)) (by decide) default
  obtain ⟨permit, hpermit, -, hiff⟩ := operationMatches_iff sampleIssuing
    Json.text_code_injective hraw hissued rfl (by decide) hbuilt
  obtain rfl : permit = (sampleBuilt [("system_prompt", .str "x")]).permit.getD default := by
    rw [sampleBuilt, hpermit]
    rfl
  have hdisagree : ¬ Agrees sampleIssuing.textOf
    (sampleGeneration [("system_prompt", .str "x")]) := by
    rintro ⟨-, h⟩
    rw [if_pos (by decide)] at h
    cases h (.str "x") rfl
  have hoperation : operationMatches sampleIssuing.platform sampleIssuing.textOf
      ((sampleBuilt [("system_prompt", .str "x")]).permit.getD default)
      (sampleBuilt [("system_prompt", .str "x")]) = false := by
    by_contra hmatch
    rw [Bool.not_eq_false, operationMatches] at hmatch
    simp only [Bool.and_eq_true, decide_eq_true_eq] at hmatch
    exact hdisagree (hiff.mp ⟨hmatch.1.2, hmatch.2⟩)
  have heffective : Effective sampleIssuing.platform
      ((sampleBuilt [("system_prompt", .str "x")]).permit.getD default)
      { requestId := "r", userId := some "u" } (sampleBuilt [("system_prompt", .str "x")]) 1 :=
    ⟨rfl, ExecutionPermit.verifyIntegrity_sign _ _, by decide, by decide, by decide, rfl, rfl,
      by decide⟩
  exact ⟨rfl, _, enforceCapPermit_of_mismatch _ _ _ hpermit heffective hoperation, rfl⟩

end Orchestrator

end Samaktha
