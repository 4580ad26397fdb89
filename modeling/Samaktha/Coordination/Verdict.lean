import Samaktha.Coordination.Record
import Samaktha.Workflow.Ending

/-!
# Two verdicts on one execution

`WorkflowEngine.execute` judges an execution by its failed and blocked tasks,
`_settle_pipeline` by the status of the one result that `_final_runtime_result` picks.  The
theorem `settle_agrees_iff` says exactly on which task outcomes the two judge alike, for every
plan and every run of `execute`.

The pipelines rewrite the picked result before they return it: its output, its error and some
of its metadata, never its task id, its status, its routing or its pause.  That is
`Presentation`; what it holds is arbitrary.
-/

namespace Samaktha

open Workflow

/-! ## The result that is shown -/

def finalRuntimeResult (outputs : List RuntimeResult) : Option RuntimeResult :=
  match outputs.reverse.find? fun output => output.routing.isSome with
  | some output => some output
  | none => outputs.getLast?

/-- What the presentation layer makes of a result. -/
structure Presentation where
  output : Dict String Json := []
  error : Option String := none
  notes : Dict String Json := []
  deriving Inhabited

def Presentation.present (presentation : Presentation) (result : RuntimeResult) : RuntimeResult :=
  { result with
    output := presentation.output
    error := presentation.error
    metadata := Dict.update result.metadata presentation.notes }

/-- The pipeline state once `execute` has returned. -/
def PipelineState.afterExecute (pipeline : PipelineState) (result : WorkflowResult)
    (presentation : Presentation) : PipelineState :=
  { pipeline with
    workflowState := some result.workflowState
    runtimeResult := (finalRuntimeResult result.outputs).map presentation.present
    executionReport := some result.executionReport }

/-- The last result that a provider or a tool was routed for. -/
def LastRouted (results : List RuntimeResult) (result : RuntimeResult) : Prop :=
  ∃ before after, results = before ++ result :: after ∧ result.routing.isSome = true ∧
    ∀ r ∈ after, r.routing = none

/-- The last routed result is completed, or nothing was routed, no task is blocked and the last
result is completed. -/
def ShowsCompleted (delivered : List RuntimeResult) (blocked : List PlanTask) : Prop :=
  (∃ result, LastRouted delivered result ∧ result.status = .completed) ∨
    ((∀ r ∈ delivered, r.routing = none) ∧ blocked = [] ∧
      ∃ result, delivered.getLast? = some result ∧ result.status = .completed)

section Final

variable {results delivered : List RuntimeResult} {blocked : List PlanTask} {result : RuntimeResult}

lemma finalRuntimeResult_of_lastRouted (h : LastRouted results result) :
    finalRuntimeResult results = some result := by
  obtain ⟨before, after, rfl, hrouted, hafter⟩ := h
  have hnone : after.reverse.find? (fun output => output.routing.isSome) = none := by
    rw [List.find?_eq_none]
    intro r hr
    rw [hafter r (List.mem_reverse.mp hr)]
    simp
  simp [finalRuntimeResult, hnone, hrouted]

lemma finalRuntimeResult_of_unrouted (h : ∀ r ∈ results, r.routing = none) :
    finalRuntimeResult results = results.getLast? := by
  have hnone : results.reverse.find? (fun output => output.routing.isSome) = none := by
    rw [List.find?_eq_none]
    intro r hr
    rw [h r (List.mem_reverse.mp hr)]
    simp
  rw [finalRuntimeResult, hnone]

lemma exists_lastRouted (results : List RuntimeResult) :
    (∃ result, LastRouted results result) ∨ ∀ r ∈ results, r.routing = none := by
  induction results with
  | nil => exact .inr (by simp)
  | cons r rest ih =>
      rcases ih with ⟨result, before, after, rfl, hrouted, hafter⟩ | hnone
      · exact .inl ⟨result, r :: before, after, rfl, hrouted, hafter⟩
      · cases hrouting : r.routing with
        | some routing => exact .inl ⟨r, [], rest, rfl, by simp [hrouting], hnone⟩
        | none =>
            refine .inr fun x hx => ?_
            rcases List.mem_cons.mp hx with rfl | hx
            · exact hrouting
            · exact hnone x hx

lemma LastRouted.append_blocked (h : LastRouted delivered result) (blocked : List PlanTask) :
    LastRouted (delivered ++ blocked.map blockedResult) result := by
  obtain ⟨before, after, rfl, hrouted, hafter⟩ := h
  refine ⟨before, after ++ blocked.map blockedResult, by simp, hrouted, fun r hr => ?_⟩
  rcases List.mem_append.mp hr with hr | hr
  · exact hafter r hr
  · obtain ⟨task, -, rfl⟩ := List.mem_map.mp hr
    rfl

lemma LastRouted.unique {q : RuntimeResult} (h : LastRouted results result)
    (hq : LastRouted results q) : q = result := by
  have hpicked := finalRuntimeResult_of_lastRouted h
  rw [finalRuntimeResult_of_lastRouted hq] at hpicked
  exact Option.some.inj hpicked

/-- What is picked from the delivered and the blocked results is completed exactly if the
delivered ones show it. -/
lemma finalRuntimeResult_completed_iff :
    (∃ result, finalRuntimeResult (delivered ++ blocked.map blockedResult) = some result ∧
      result.status = .completed) ↔ ShowsCompleted delivered blocked := by
  rcases exists_lastRouted delivered with ⟨routed, hrouted⟩ | hnone
  · rw [finalRuntimeResult_of_lastRouted (hrouted.append_blocked blocked)]
    constructor
    · rintro ⟨result, hresult, hstatus⟩
      obtain rfl := Option.some.inj hresult
      exact .inl ⟨_, hrouted, hstatus⟩
    · rintro (⟨result, hresult, hstatus⟩ | ⟨hunrouted, -, -⟩)
      · exact ⟨routed, rfl, hrouted.unique hresult ▸ hstatus⟩
      · obtain ⟨before, after, rfl, hsome, -⟩ := hrouted
        rw [hunrouted routed (by simp)] at hsome
        cases hsome
  · have hall : ∀ r ∈ delivered ++ blocked.map blockedResult, r.routing = none := by
      intro r hr
      rcases List.mem_append.mp hr with hr | hr
      · exact hnone r hr
      · obtain ⟨task, -, rfl⟩ := List.mem_map.mp hr
        rfl
    have hshows : ShowsCompleted delivered blocked ↔ blocked = [] ∧
        ∃ result, delivered.getLast? = some result ∧ result.status = .completed := by
      constructor
      · rintro (⟨result, ⟨before, after, rfl, hsome, -⟩, -⟩ | h)
        · rw [hnone result (by simp)] at hsome
          cases hsome
        · exact h.2
      · exact fun h => .inr ⟨hnone, h⟩
    rw [finalRuntimeResult_of_unrouted hall, hshows]
    cases hblocked : blocked.getLast? with
    | none =>
        obtain rfl := List.getLast?_eq_none_iff.mp hblocked
        simp
    | some task =>
        -- a blocked result stands last
        have hne : blocked ≠ [] := by
          rintro rfl
          cases hblocked
        simp [List.getLast?_append, List.getLast?_map, hblocked, hne, blockedResult]

lemma showsCompleted_of_forall (h : ∀ r ∈ delivered, r.status = .completed) :
    ShowsCompleted delivered [] ↔ delivered ≠ [] := by
  constructor
  · rintro (⟨result, ⟨before, after, rfl, -, -⟩, -⟩ | ⟨-, -, result, hlast, -⟩) hnil
    · simp at hnil
    · rw [hnil] at hlast
      cases hlast
  · intro hne
    rcases exists_lastRouted delivered with ⟨routed, hrouted⟩ | hnone
    · refine .inl ⟨routed, hrouted, ?_⟩
      obtain ⟨before, after, rfl, -, -⟩ := hrouted
      exact h routed (by simp)
    · exact .inr ⟨hnone, rfl, delivered.getLast hne, List.getLast?_eq_some_getLast hne,
        h _ (List.getLast_mem hne)⟩

end Final

/-! ## Agreement -/

section Agreement

variable {κ : Type} (coordinator : Coordinator κ) (plan : ExecutionPlan)
  (resume : Option WorkflowState)

/-- The record once the coordinator has settled the pipeline that ran `execute`. -/
def settled (record : ActiveExecution) (world : κ) (pipeline : PipelineState)
    (result : WorkflowResult) (presentation : Presentation) : ActiveExecution :=
  let pipeline := pipeline.afterExecute result presentation
  (coordinator.settlePipeline { record with pipelineState := some pipeline } world pipeline).record

/-- The public state and the report say of an execution what the workflow says. -/
def Agrees (record : ActiveExecution) (result : WorkflowResult) : Prop :=
  (record.state.status = .completed ↔ result.success = true) ∧
    (record.pipelineState.bind PipelineState.executionReport).map ExecutionReport.success =
      some result.success

/-- The retry count of a result is no empty text, list or dictionary: `execute` takes these for
zero, and the coordinator does not. -/
def Counts (result : RuntimeResult) : Prop :=
  ∀ count, Dict.get? result.metadata "retry_count" = some count →
    count ≠ .str "" ∧ count ≠ .arr [] ∧ count ≠ .obj []

def AllCount (delivered : List RuntimeResult) : Prop :=
  ∀ r ∈ resumedResults resume ++ delivered, Counts r

/-- The outcomes on which the two verdicts meet. -/
structure VerdictsMeet (loop : Loop) : Prop where
  paused : SomePaused loop.delivered →
    ¬ (ShowsCompleted loop.delivered [] ∧ AllCount resume loop.delivered)
  succeeded : ¬ SomePaused loop.delivered → PlanEnded plan loop →
    failedIds resume loop.delivered = [] →
      loop.delivered ≠ [] ∧ AllCount resume loop.delivered
  failed : ¬ SomePaused loop.delivered → PlanEnded plan loop →
    failedIds resume loop.delivered ≠ [] →
      ¬ (ShowsCompleted loop.delivered
          ((graphOf plan).getBlockedTasks (failedIds resume loop.delivered)) ∧
        AllCount resume loop.delivered)

variable {coordinator plan resume}

/-- Where `execute` can build its report, the coordinator reads the retry counts that are no empty
text, list or dictionary. -/
lemma readable_iff_counts {result : RuntimeResult} (h : countable result = true) :
    Coordinator.Readable result ↔ Counts result := by
  unfold Coordinator.Readable Counts
  unfold countable at h
  cases hcount : Dict.get? result.metadata "retry_count" with
  | none => simp
  | some count =>
      rw [hcount] at h
      simp only [Option.some.injEq, forall_eq']
      cases count with
      | null => simp
      | bool b => simp [Json.toInt, Except.toBool]
      | int n => simp [Json.toInt, Except.toBool]
      | float repr =>
          simp only [Json.truthy, Bool.or_eq_true] at h
          rcases h with h | h
          · have hzero : repr = "0.0" ∨ repr = "-0.0" := by
              by_contra hne
              rw [not_or] at hne
              simp [hne.1, hne.2] at h
            rcases hzero with rfl | rfl
            · exact iff_of_true (by decide) (by simp)
            · exact iff_of_true (by decide) (by simp)
          · exact iff_of_true h (by simp)
      | str text =>
          by_cases hempty : text = ""
          · subst hempty
            exact iff_of_false (by decide) (by simp)
          · simp only [Json.truthy, hempty, ne_eq, not_false_eq_true, decide_true, Bool.not_true,
              Bool.false_or] at h
            exact iff_of_true h ⟨by simpa using hempty, by simp, by simp⟩
      | arr xs =>
          cases xs with
          | nil => exact iff_of_false (by decide) (by simp)
          | cons x xs => simp [Json.truthy, Json.toInt, Except.toBool] at h
      | obj kvs =>
          cases kvs with
          | nil => exact iff_of_false (by decide) (by simp)
          | cons kv kvs => simp [Json.truthy, Json.toInt, Except.toBool] at h

/-- The public state is completed exactly if the picked result is, and every kept retry count is
read. -/
lemma settled_completed_iff {record : ActiveExecution} (hrunning : record.state.status = .running)
    {pauses : Dict String PendingPause} {preparedContext : Option Value} {replies : List Reply}
    {loop : Loop} {result : WorkflowResult}
    (hreach : Reaches plan resume pauses preparedContext replies loop)
    (hresult : loop.result = some result) (world : κ) (pipeline : PipelineState)
    (presentation : Presentation) :
    (settled coordinator record world pipeline result presentation).state.status = .completed ↔
      AllCount resume loop.delivered ∧
        ∃ r, finalRuntimeResult result.outputs = some r ∧ r.status = .completed := by
  have hkept : (∀ r ∈ result.workflowState.results, Coordinator.Readable r) ↔
      AllCount resume loop.delivered := by
    rw [(ending_of_reaches plan resume hreach hresult).state]
    have hcountable := countable_of_reaches plan resume hreach hresult
    rw [forall₂_congr fun r hr => readable_iff_counts (hcountable r hr)]
    exact kept_of_reaches plan resume (fun _ _ h => by cases h) (fun _ _ h => by cases h) hreach
  obtain ⟨hsettled, hleft⟩ := coordinator.status_settlePipeline
    { record with pipelineState := some (pipeline.afterExecute result presentation) } world
    (pipeline.afterExecute result presentation) hrunning rfl
  have hpicked : Coordinator.settledStatus
    ((finalRuntimeResult result.outputs).map presentation.present) =
      .completed ↔ ∃ r, finalRuntimeResult result.outputs = some r ∧ r.status = .completed := by
    cases finalRuntimeResult result.outputs with
    | none => simp [Coordinator.settledStatus]
    | some r =>
        cases hstatus : r.status <;> simp [Coordinator.settledStatus, Presentation.present, hstatus]
  by_cases hcounts : AllCount resume loop.delivered
  · rw [settled, hsettled (hkept.mpr hcounts), ← hpicked]
    exact (and_iff_right hcounts).symm
  · rw [settled, hleft fun h => hcounts (hkept.mp h)]
    simp [hcounts]

variable (coordinator plan resume)

/-- For every run of `execute`, on any plan and with any outcomes, the settled public state, the
workflow result and the report agree on success exactly where the verdicts meet.  Both
callers of `_settle_pipeline` have moved the execution to `running` before. -/
theorem settle_agrees_iff {record : ActiveExecution} (hrunning : record.state.status = .running)
    {pauses : Dict String PendingPause} {preparedContext : Option Value} {replies : List Reply}
    {loop : Loop} {result : WorkflowResult}
    (hreach : Reaches plan resume pauses preparedContext replies loop)
    (hresult : loop.result = some result) (world : κ) (pipeline : PipelineState)
    (presentation : Presentation) :
    Agrees (settled coordinator record world pipeline result presentation) result ↔
      VerdictsMeet plan resume loop := by
  have hending := ending_of_reaches plan resume hreach hresult
  have hcompleted : (settled coordinator record world pipeline result presentation).state.status
      = .completed ↔ _ :=
    settled_completed_iff hrunning hreach hresult world pipeline presentation
  have hreport : ((settled coordinator record world pipeline result presentation).pipelineState.bind
      PipelineState.executionReport).map ExecutionReport.success = some result.success := by
    rw [settled, Coordinator.settlePipeline_pipelineState]
    exact congrArg some hending.report
  have hagrees : Agrees (settled coordinator record world pipeline result presentation) result ↔
      ((AllCount resume loop.delivered ∧
        ∃ r, finalRuntimeResult result.outputs = some r ∧ r.status = .completed) ↔
          result.success = true) := by
    rw [Agrees, hcompleted]
    exact and_iff_left hreport
  rw [hagrees]
  by_cases hpaused : SomePaused loop.delivered
  · obtain ⟨hsuccess, houtputs⟩ := hending.paused hpaused
    have hpicked := @finalRuntimeResult_completed_iff loop.delivered []
    rw [List.map_nil, List.append_nil] at hpicked
    rw [hsuccess, houtputs, hpicked]
    constructor
    · intro h
      refine ⟨fun _ hshown => ?_, fun hno => absurd hpaused hno, fun hno => absurd hpaused hno⟩
      exact Bool.noConfusion (h.mp hshown.symm)
    · intro h
      exact ⟨fun hshown => absurd hshown.symm (h.paused hpaused), fun hfalse => by cases hfalse⟩
  · by_cases hended : PlanEnded plan loop
    · obtain ⟨hsuccess, houtputs⟩ := hending.ended hpaused hended
      rw [hsuccess, houtputs, finalRuntimeResult_completed_iff]
      by_cases hfailed : failedIds resume loop.delivered = []
      · have hall := completed_of_failedIds_nil resume hfailed hpaused
        rw [hfailed, ExecutionGraph.getBlockedTasks_nil, showsCompleted_of_forall hall]
        constructor
        · intro h
          refine ⟨fun hp => absurd hp hpaused, fun _ _ _ => ?_, fun _ _ hne => absurd hfailed hne⟩
          exact (h.mpr rfl).symm
        · intro h
          exact ⟨fun _ => rfl, fun _ => (h.succeeded hpaused hended hfailed).symm⟩
      · have hsome : (failedIds resume loop.delivered).isEmpty = false :=
          List.isEmpty_eq_false_iff.mpr hfailed
        rw [hsome]
        constructor
        · intro h
          refine ⟨fun hp => absurd hp hpaused, fun _ _ hnil => absurd hnil hfailed,
            fun _ _ _ hshown => ?_⟩
          exact Bool.noConfusion (h.mp hshown.symm)
        · intro h
          exact ⟨fun hshown => absurd hshown.symm (h.failed hpaused hended hfailed),
            fun hfalse => by cases hfalse⟩
    · obtain ⟨hsuccess, houtputs⟩ := hending.stuck hpaused hended
      rw [hsuccess, houtputs]
      -- a workflow that got stuck has no output, so there is nothing to pick
      constructor
      · exact fun _ => ⟨fun hp => absurd hp hpaused, fun _ he => absurd he hended,
          fun _ he => absurd he hended⟩
      · intro _
        refine ⟨?_, fun hfalse => by cases hfalse⟩
        rintro ⟨-, r, hnone, -⟩
        cases hnone

/-! ### Two independent tools -/

/-- Two tool tasks, neither of which depends on the other. -/
def twoTools : ExecutionPlan where
  planId := "plan"
  tasks := [
    { taskId := "a", kind := .executeViaRuntime, executionActionType := "tool" },
    { taskId := "b", kind := .executeViaRuntime, executionActionType := "tool" }]

/-- Their outcomes, `b` completed and `a` with some status, in one batch. -/
def twoOutcomes (status : TaskStatus) : Reply where
  route _ := .error ""
  results := [
    { taskId := "a", status := status, routing := some (bypassedRouting "tool") },
    { taskId := "b", status := .completed, routing := some (bypassedRouting "tool") }]

/-- The run of `execute` on them. -/
def twoToolsLoop (status : TaskStatus) : Loop :=
  ((machine twoTools ((workflowTasks twoTools [] none).getD [])).run
    (start twoTools none []) [twoOutcomes status, default]).getD default

lemma reaches_twoToolsLoop (status : TaskStatus)
    (h : ((machine twoTools ((workflowTasks twoTools [] none).getD [])).run
      (start twoTools none []) [twoOutcomes status, default]).isSome = true) :
    Reaches twoTools none [] none [twoOutcomes status, default] (twoToolsLoop status) :=
  ⟨_, some_getD (by decide) [], some_getD h default⟩

/-- An execution whose pipeline runs. -/
def runningRecord : ActiveExecution := { state := { executionId := "x", status := .running } }

/-- Both tools complete, and the verdicts meet. -/
theorem settle_agrees_sample :
    Agrees (settled storeless runningRecord () { request := "" }
      ((twoToolsLoop .completed).result.getD default) {})
      ((twoToolsLoop .completed).result.getD default) := by
  refine (settle_agrees_iff storeless twoTools none rfl
    (reaches_twoToolsLoop .completed (by decide)) (some_getD (by decide) default) () _ {}).mpr ?_
  have hdelivered : (twoToolsLoop .completed).delivered = (twoOutcomes .completed).results := by rfl
  have hopen : ∀ r ∈ (twoOutcomes .completed).results, r.status ≠ .paused := by decide
  refine ⟨?_, fun _ _ _ => ⟨?_, ?_⟩, fun _ _ hne => absurd (by decide) hne⟩
  · rintro ⟨r, hr, hstatus⟩
    exact absurd hstatus (hopen r (hdelivered ▸ hr))
  · rw [hdelivered]
    exact List.cons_ne_nil _ _
  · rw [AllCount, hdelivered]
    intro r hr
    simp [resumedResults, twoOutcomes] at hr
    rcases hr with rfl | rfl <;> exact fun _ h => by cases h

/-- Tool `a` failed and the workflow says so; the coordinator has looked at `b`, and the execution
is completed. -/
theorem settle_disagrees :
    Reaches twoTools none [] none [twoOutcomes .failed, default] (twoToolsLoop .failed) ∧
      (twoToolsLoop .failed).result.isSome = true ∧
      ((twoToolsLoop .failed).result.getD default).success = false ∧
      (settled storeless runningRecord () { request := "" }
        ((twoToolsLoop .failed).result.getD default) {}).state.status = .completed :=
  ⟨reaches_twoToolsLoop .failed (by decide), by decide, by decide, by decide⟩

end Agreement

end Samaktha
