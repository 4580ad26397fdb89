import Samaktha.Foundation.Machine
import Samaktha.Runtime.Governance

/-!
# The arguments a tool receives

`ToolExecutor.execute` hands a dictionary of arguments to the tool security enforcer and then
to the tool.  The permit of the task binds a normal form of its inputs, without the keys that
`normalize_operation_payload` leaves out at every depth and without the entries
`authorization_payload` pops.  `permit_binds_arguments_iff` says when two tasks that pass the
gate with one permit hand over the same arguments: exactly if what those two functions leave
out is the same.

The enforcer's path, shell and network rules read the file system; here they are the field
`rules` of `ToolSecurity`, of which only the routing by tool name is modelled.
-/

namespace Samaktha

/-- Identity and scope of one tool dispatch. -/
structure ToolSecurityContext where
  principalId : String
  executionId : String
  taskId : String
  toolName : String
  action : String
  operationDigest : String
  deriving Repr, Inhabited

structure ToolSecurity where
  /-- The rules of the tools in `enforcedTools`: the normalized arguments, or `none` for a
  denial. -/
  rules : ToolSecurityContext → Inputs → Option Inputs

namespace ToolExecutor

/-- The tools whose arguments the enforcer examines. -/
def enforcedTools : List String :=
  ["filesystem", "resolver", "document", "pdf", "image", "shell", "windows", "internet"]

/-- `ToolSecurityEnforcer.validate`: other tools pass through. -/
def validate (security : ToolSecurity) (context : ToolSecurityContext) (arguments : Inputs) :
    Option Inputs :=
  if context.toolName ∈ enforcedTools then security.rules context arguments else some arguments

/-- Whether `tool_id == "reminder"`. -/
def isReminder (task : RuntimeTask) : Bool :=
  if task.actionType = "tool" then
    (Dict.get? task.metadata "tool").bind Value.str? = some "reminder"
  else task.actionType = "reminder"

/-- `str(tool_id)`. -/
def toolName (textOf : Value → String) (task : RuntimeTask) : String :=
  if task.actionType = "tool" then
    ((Dict.get? task.metadata "tool").map fun tool => tool.str?.getD (textOf tool)).getD "None"
  else task.actionType

/-- The keys under which a reminder carries its scheduler's context. -/
def scheduleKeys : List String :=
  ["_schedule_principal_id", "_schedule_session_id", "_schedule_workspace_id"]

/-- `execution_arguments`, as they are handed to the enforcer. -/
def executionArguments (context : RuntimeContext) (subjectId : String) (task : RuntimeTask) :
    Inputs :=
  let arguments := Dict.ofList task.inputs
  if isReminder task then
    let arguments := Dict.set arguments "_schedule_principal_id" (.str subjectId)
    let arguments := Dict.set arguments "_schedule_session_id"
      (.str (orText context.sessionId "default"))
    Dict.set arguments "_schedule_workspace_id"
      (match context.workspaceId with | some workspaceId => .str workspaceId | none => .none)
  else arguments

/-- The enforcer's context of a task with a permit. -/
def securityContext (textOf : Value → String) (context : RuntimeContext)
    (permit : ExecutionPermit) (task : RuntimeTask) : ToolSecurityContext where
  principalId := permit.subjectId
  executionId := context.requestId
  taskId := task.taskId
  toolName := toolName textOf task
  action := ((Dict.get? task.inputs "action").map fun v => v.str?.getD (textOf v)).getD ""
  operationDigest := permit.operationDigest

/-- The arguments the tool receives; `none` where the enforcer denies them. -/
def toolArguments (security : Option ToolSecurity) (textOf : Value → String)
    (context : RuntimeContext) (permit : ExecutionPermit) (task : RuntimeTask) : Option Inputs :=
  let arguments := executionArguments context permit.subjectId task
  match security with
  | none => some arguments
  | some security => validate security (securityContext textOf context permit task) arguments

/-! ## Sameness of arguments -/

/-- The workflow's bookkeeping and the planner's prompt. -/
def bookkeepingKeys : List String := ["plan_task_id", "plan_task_kind", "_cap_permit", "prompt"]

/-- The entries `authorization_payload` pops, beside the prompt. -/
def poppedKeys : List String := ["messages", "prepared_context", "system_prompt"]

/-- The JSON form of the arguments without the bookkeeping at the top level. -/
def visible (arguments : Inputs) : Json :=
  (Inputs.toValue (Dict.filterKeys (fun k => decide (k ∉ bookkeepingKeys)) arguments)).toJson

lemma visible_eq_iff {arguments arguments' : Inputs} :
    visible arguments = visible arguments' ↔
      ∀ key ∉ bookkeepingKeys, (Dict.get? (Dict.ofList arguments) key).map Value.toJson =
        (Dict.get? (Dict.ofList arguments') key).map Value.toJson := by
  have hform : Value.toJsonWithout [] = Value.toJson := rfl
  rw [visible, visible, Value.toJson, Inputs.toJsonWithout_eq_iff, hform]
  simp only [← Dict.filterKeys_ofList, Dict.get?_filterKeys, decide_eq_true_eq]
  constructor
  · intro h key hkey
    simpa [hkey] using h key List.not_mem_nil
  · intro h key _
    by_cases hkey : key ∈ bookkeepingKeys
    · simp [hkey]
    · simpa [hkey] using h key hkey

/-- What the permit does not bind is the same for two tasks: the popped entries, the
bookkeeping keys inside every other argument, and the scheduler's context where only one task
is a reminder. -/
structure SameUnbound (context : RuntimeContext) (subjectId : String)
    (task task' : RuntimeTask) : Prop where
  popped : ∀ key ∈ poppedKeys, (Dict.get? (Dict.ofList task.inputs) key).map Value.toJson =
    (Dict.get? (Dict.ofList task'.inputs) key).map Value.toJson
  nested : ∀ key ∉ bookkeepingKeys,
    (Dict.get? (executionArguments context subjectId task) key).map
        (fun v => v.toJson.dropped incidentalOperationKeys) =
      (Dict.get? (executionArguments context subjectId task') key).map
        (fun v => v.toJson.dropped incidentalOperationKeys)
  schedule : isReminder task = isReminder task' ∨ ∀ key ∈ scheduleKeys,
    (Dict.get? (executionArguments context subjectId task) key).map Value.toJson =
      (Dict.get? (executionArguments context subjectId task') key).map Value.toJson

/-! ## What the gate binds -/

lemma nodupKeys_executionArguments (context : RuntimeContext) (subjectId : String)
    (task : RuntimeTask) : Dict.NodupKeys (executionArguments context subjectId task) := by
  unfold executionArguments
  dsimp only
  split
  · exact (((Dict.nodupKeys_ofList _).set _ _).set _ _).set _ _
  · exact Dict.nodupKeys_ofList _

lemma get?_executionArguments (context : RuntimeContext) (subjectId : String)
    (task : RuntimeTask) {key : String} (hkey : isReminder task = false ∨ key ∉ scheduleKeys) :
    Dict.get? (executionArguments context subjectId task) key =
      Dict.get? (Dict.ofList task.inputs) key := by
  unfold executionArguments
  dsimp only
  split
  · rename_i hreminder
    have hkey := hkey.resolve_left (by simp [hreminder])
    simp only [scheduleKeys, List.mem_cons, List.not_mem_nil, or_false, not_or] at hkey
    obtain ⟨hprincipal, hsession, hworkspace⟩ := hkey
    rw [Dict.get?_set_of_ne (Ne.symm hworkspace), Dict.get?_set_of_ne (Ne.symm hsession),
      Dict.get?_set_of_ne (Ne.symm hprincipal)]
  · rfl

lemma get?_executionArguments_reminder (context : RuntimeContext) (subjectId : String)
    {task task' : RuntimeTask} (h : isReminder task = true) (h' : isReminder task' = true)
    {key : String} (hkey : key ∈ scheduleKeys) :
    Dict.get? (executionArguments context subjectId task) key =
      Dict.get? (executionArguments context subjectId task') key := by
  simp only [scheduleKeys, List.mem_cons, List.not_mem_nil, or_false] at hkey
  unfold executionArguments
  rw [if_pos h, if_pos h']
  rcases hkey with rfl | rfl | rfl
  · simp [Dict.get?_set]
  · simp [Dict.get?_set]
  · simp

lemma get?_ofList_authorizationPayload {actionType : String}
    (htool : isProviderAction (normalizeActionType actionType) = false) (inputs : Inputs)
    (key : String) :
    Dict.get? (Dict.ofList (authorizationPayload actionType inputs)) key =
      if key ∈ "prompt" :: poppedKeys then none else Dict.get? (Dict.ofList inputs) key := by
  have hpayload : authorizationPayload actionType inputs =
      Dict.erase (Dict.erase (Dict.erase (Dict.erase inputs "messages") "prepared_context")
        "prompt") "system_prompt" := by
    unfold authorizationPayload
    rw [if_neg (by simp [htool])]
  rw [hpayload]
  simp only [Dict.ofList_erase, Dict.get?_erase, poppedKeys, List.mem_cons, List.not_mem_nil,
    or_false]
  split_ifs with h₁ h₂ h₃ h₄ h₅ h₆ <;> first | rfl | (exfalso; grind)

lemma inputs_of_gateDigest {platform : Platform} {textOf : Value → String}
    (hdigest : Function.Injective platform.digest) {task task' : RuntimeTask}
    (htype : task'.actionType = task.actionType)
    (htool : isProviderAction (normalizeActionType task.actionType) = false)
    (h : gateDigest platform textOf task = gateDigest platform textOf task') {key : String}
    (hkey : key ∉ bookkeepingKeys) (hpopped : key ∉ poppedKeys) :
    (Dict.get? (Dict.ofList task.inputs) key).map
        (fun v => v.toJson.without incidentalOperationKeys) =
      (Dict.get? (Dict.ofList task'.inputs) key).map
        (fun v => v.toJson.without incidentalOperationKeys) := by
  have hform : (fun v : Value => v.toJson.without incidentalOperationKeys) =
      Value.toJsonWithout incidentalOperationKeys :=
    funext fun v => (v.toJsonWithout_eq incidentalOperationKeys).symm
  have hpayload := normalizeOperationPayload_of_operationDigest platform hdigest h
  rw [normalizeOperationPayload, normalizeOperationPayload, Inputs.toJsonWithout_eq_iff, htype]
    at hpayload
  simp only [bookkeepingKeys, List.mem_cons, List.not_mem_nil, or_false, not_or] at hkey
  have hbound := hpayload key (by simp [incidentalOperationKeys, hkey])
  have hread : key ∉ "prompt" :: poppedKeys := by
    rw [List.mem_cons, not_or]
    exact ⟨hkey.2.2.2, hpopped⟩
  rw [get?_ofList_authorizationPayload htool, get?_ofList_authorizationPayload htool,
    if_neg hread, if_neg hread] at hbound
  rw [hform]
  exact hbound

lemma map_toJson_eq {o o' : Option Value} {excluded : List String}
    (hkept : o.map (fun v => v.toJson.without excluded) =
      o'.map (fun v => v.toJson.without excluded))
    (hdropped : o.map (fun v => v.toJson.dropped excluded) =
      o'.map (fun v => v.toJson.dropped excluded)) :
    o.map Value.toJson = o'.map Value.toJson := by
  cases o with
  | none =>
      cases o' with
      | none => rfl
      | some v => cases hkept
  | some v =>
      cases o' with
      | none => cases hkept
      | some w =>
          have hvalue := Json.eq_of_without_of_dropped excluded (Option.some.inj hkept)
            (Option.some.inj hdropped)
          exact congrArg some hvalue

variable {platform : Platform} {textOf : Value → String} {context : RuntimeContext}
  {permit : ExecutionPermit} {task task' : RuntimeTask}

lemma sameUnbound_of_visible {subjectId : String}
    (h : visible (executionArguments context subjectId task) =
      visible (executionArguments context subjectId task')) :
    SameUnbound context subjectId task task' := by
  rw [visible_eq_iff] at h
  simp only [Dict.get?_ofList (nodupKeys_executionArguments _ _ _)] at h
  have hschedule : ∀ key ∈ scheduleKeys, key ∉ bookkeepingKeys := by decide
  constructor
  · intro key hkey
    have hvisible : key ∉ bookkeepingKeys ∧ key ∉ scheduleKeys := by
      revert key
      decide
    have hread := h key hvisible.1
    rwa [get?_executionArguments context subjectId task (.inr hvisible.2),
      get?_executionArguments context subjectId task' (.inr hvisible.2)] at hread
  · intro key hkey
    have hread := congrArg (Option.map (Json.dropped incidentalOperationKeys)) (h key hkey)
    simpa [Option.map_map, Function.comp_def] using hread
  · exact .inr fun key hkey => h key (hschedule key hkey)

lemma visible_of_sameUnbound (hdigest : Function.Injective platform.digest)
    (htype : task'.actionType = task.actionType)
    (htool : isProviderAction (normalizeActionType task.actionType) = false)
    (hsame : gateDigest platform textOf task = gateDigest platform textOf task')
    {subjectId : String} (h : SameUnbound context subjectId task task') :
    visible (executionArguments context subjectId task) =
      visible (executionArguments context subjectId task') := by
  rw [visible_eq_iff]
  simp only [Dict.get?_ofList (nodupKeys_executionArguments _ _ _)]
  intro key hkey
  -- an argument that both tasks take from their inputs
  have hinputs : (isReminder task = false ∨ key ∉ scheduleKeys) →
      (isReminder task' = false ∨ key ∉ scheduleKeys) → key ∉ poppedKeys →
      (Dict.get? (executionArguments context subjectId task) key).map Value.toJson =
        (Dict.get? (executionArguments context subjectId task') key).map Value.toJson := by
    intro hread hread' hpopped
    have hnested := h.nested key hkey
    rw [get?_executionArguments context subjectId task hread,
      get?_executionArguments context subjectId task' hread'] at hnested ⊢
    exact map_toJson_eq (inputs_of_gateDigest hdigest htype htool hsame hkey hpopped) hnested
  by_cases hpopped : key ∈ poppedKeys
  · have hschedule : key ∉ scheduleKeys := by
      clear hinputs hkey
      revert key
      decide
    rw [get?_executionArguments context subjectId task (.inr hschedule),
      get?_executionArguments context subjectId task' (.inr hschedule)]
    exact h.popped key hpopped
  · by_cases hschedule : key ∈ scheduleKeys
    · rcases h.schedule with hreminder | hsame
      · cases hr : isReminder task with
        | true =>
            rw [get?_executionArguments_reminder context subjectId hr (hreminder ▸ hr) hschedule]
        | false => exact hinputs (.inl hr) (.inl (hreminder ▸ hr)) hpopped
      · exact hsame key hschedule
    · exact hinputs (.inr hschedule) (.inr hschedule) hpopped

/-- Two tool tasks that pass the gate with one permit hand over the same arguments exactly if
what the permit does not bind is the same; a tool the enforcer does not examine receives the
arguments that are handed over. -/
theorem permit_binds_arguments_iff (hdigest : Function.Injective platform.digest)
    {routing routing' : RoutingDecision} {now now' : ℤ}
    (hpermit : task.permit = some permit) (hpermit' : task'.permit = some permit)
    (htool : isProviderAction (normalizeActionType task.actionType) = false)
    (hpass : enforceCapPermit platform textOf context task routing now = .ok none)
    (hpass' : enforceCapPermit platform textOf context task' routing' now' = .ok none) :
    (visible (executionArguments context permit.subjectId task) =
        visible (executionArguments context permit.subjectId task') ↔
      SameUnbound context permit.subjectId task task') ∧
    ∀ t ∈ [task, task'], ∀ security : Option ToolSecurity,
      security = none ∨ toolName textOf t ∉ enforcedTools →
      toolArguments security textOf context permit t =
        some (executionArguments context permit.subjectId t) := by
  obtain ⟨_, hsome, hoperation, -, htype⟩ :=
    operationMatches_of_enforceCapPermit platform textOf hpass
  obtain rfl := Option.some.inj (hpermit.symm.trans hsome)
  obtain ⟨_, hsome', hoperation', -, htype'⟩ :=
    operationMatches_of_enforceCapPermit platform textOf hpass'
  obtain rfl := Option.some.inj (hpermit'.symm.trans hsome')
  refine ⟨⟨sameUnbound_of_visible, ?_⟩, fun t _ security hsecurity => ?_⟩
  · exact visible_of_sameUnbound hdigest (htype'.symm.trans htype) htool
      (hoperation.symm.trans hoperation')
  · cases security with
    | none => rfl
    | some security =>
        have hname := hsecurity.resolve_left (by simp)
        simp [toolArguments, validate, securityContext, hname]

/-! ### A mail whose headers are changed -/

/-- A platform without collisions. -/
def samplePlatform : Platform where
  digest := fun payload => String.ofList payload.code
  signPermit := fun _ => "mac"
  validateConstraints := fun _ => some {}

/-- A mail with a nested dictionary. -/
def sampleMail (reference : String) : RuntimeTask where
  taskId := "t"
  actionType := "tool"
  inputs := [("to", .str "a"), ("headers", .dict [(.str "plan_task_id", .str reference)])]
  metadata := [("tool", .str "mail")]

/-- The permit for the first version of the mail. -/
def sampleMailPermit : ExecutionPermit where
  permitId := "p"
  actionId := "t"
  subjectId := "u"
  actionType := "tool"
  target := some "mail"
  operationDigest := gateDigest samplePlatform (fun _ => "") (sampleMail "x")
  risk := .high
  constraints := {}
  policyReference := "cap"
  approvalSource := "human"
  issuedAt := 0
  expiresAt := 900
  decision := .allow
  integrityDigest := "mac"

def permittedMail (reference : String) : RuntimeTask :=
  { sampleMail reference with permit := some sampleMailPermit }

lemma gateDigest_permittedMail (reference : String) :
    gateDigest samplePlatform (fun _ => "") (permittedMail reference) =
      gateDigest samplePlatform (fun _ => "") (sampleMail "x") := by
  have htool : isProviderAction (normalizeActionType "tool") = false := by decide
  have hbound : ∀ r, authorizationPayload "tool" (sampleMail r).inputs = (sampleMail r).inputs := by
    intro r
    simp [authorizationPayload, htool, sampleMail, Dict.erase]
  have hkept : ∀ r, normalizeOperationPayload (sampleMail r).inputs.toValue =
      normalizeOperationPayload (sampleMail "x").inputs.toValue := by
    intro r
    simp [normalizeOperationPayload, Inputs.toValue, sampleMail, Value.toJsonWithout,
      Value.itemsToJsonWithout, Key.text, incidentalOperationKeys]
  have htarget : gateTarget (fun _ => "") (permittedMail reference) =
      gateTarget (fun _ => "") (sampleMail "x") := by
    simp [gateTarget, permittedMail, sampleMail]
  rw [gateDigest, gateDigest, htarget]
  refine operationDigest_congr samplePlatform rfl rfl ?_
  show normalizeOperationPayload
    (authorizationPayload "tool" (sampleMail reference).inputs).toValue =
    normalizeOperationPayload (authorizationPayload "tool" (sampleMail "x").inputs).toValue
  rw [hbound, hbound, hkept]

lemma operationMatches_permittedMail (reference : String) :
    operationMatches samplePlatform (fun _ => "") sampleMailPermit (permittedMail reference) =
      true := by
  have htarget : gateTarget (fun _ => "") (permittedMail reference) = "mail" := by
    have hmail : normalizeTarget (some "mail") = some "mail" := by decide
    have htool : isProviderAction (normalizeActionType "tool") = false := by decide
    simp [gateTarget, permittedMail, sampleMail, authorizationTarget, htool, toolId, Value.isNone,
      Value.str?, hmail]
  rw [operationMatches, gateDigest_permittedMail, htarget]
  simp [sampleMailPermit, permittedMail, sampleMail]

lemma pass_permittedMail (reference : String) :
    enforceCapPermit samplePlatform (fun _ => "") { requestId := "r", userId := some "u" }
      (permittedMail reference) default 1 = .ok none := by
  have heffective : Effective samplePlatform sampleMailPermit
      { requestId := "r", userId := some "u" } (permittedMail reference) 1 :=
    ⟨rfl, rfl, rfl, rfl, rfl, rfl, rfl, rfl⟩
  refine enforceCapPermit_of_match _ _ _ rfl heffective (operationMatches_permittedMail reference)
    rfl rfl rfl ?_
  show isProviderAction "tool" = false
  decide

lemma visible_permittedMail_ne :
    visible (executionArguments { requestId := "r", userId := some "u" } "u"
        (permittedMail "x")) ≠
      visible (executionArguments { requestId := "r", userId := some "u" } "u"
        (permittedMail "y")) := by
  intro h
  have hheaders := visible_eq_iff.mp h "headers" (by decide)
  simp only [Dict.get?_ofList (nodupKeys_executionArguments _ _ _)] at hheaders
  rw [get?_executionArguments _ _ _ (.inl rfl), get?_executionArguments _ _ _ (.inl rfl)]
    at hheaders
  simp [permittedMail, sampleMail, Dict.ofList, Dict.update, Dict.set, Dict.get?, Value.toJson,
    Value.toJsonWithout, Value.itemsToJsonWithout, Key.text, Dict.sortByKey] at hheaders

/-- Two mails that one permit lets through, and that differ in what it leaves out. -/
theorem permit_binds_arguments_sample :
    ¬ SameUnbound { requestId := "r", userId := some "u" } "u" (permittedMail "x")
      (permittedMail "y") := by
  have h := permit_binds_arguments_iff Json.text_code_injective rfl rfl (by decide)
    (pass_permittedMail "x") (pass_permittedMail "y")
  exact fun hsame => visible_permittedMail_ne (h.1.mpr hsame)

/-- One permit lets through two mails whose headers differ under a bookkeeping key. -/
theorem permit_binds_not_nested :
    enforceCapPermit samplePlatform (fun _ => "") { requestId := "r", userId := some "u" }
        (permittedMail "x") default 1 = .ok none ∧
      enforceCapPermit samplePlatform (fun _ => "") { requestId := "r", userId := some "u" }
        (permittedMail "y") default 1 = .ok none ∧
      visible (executionArguments { requestId := "r", userId := some "u" } "u"
          (permittedMail "x")) ≠
        visible (executionArguments { requestId := "r", userId := some "u" } "u"
          (permittedMail "y")) :=
  ⟨pass_permittedMail "x", pass_permittedMail "y", visible_permittedMail_ne⟩

end ToolExecutor

end Samaktha
