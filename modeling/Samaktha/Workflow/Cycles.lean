import Samaktha.Workflow.Scheduling

/-!
# Counting the steps of a workflow that is paused and resumed

`Cycles` is a workflow over any number of calls of `execute`: a call receives replies, and when
it has returned paused, the state it returned is passed back to the next call.

`completed_steps` and the results are kept across the calls, and so are the ids in
`completed_task_ids`, from which the scheduler of the next call starts.  A result of the runtime
enters all three; an internal task enters the first two only.  So a workflow whose calls never
pass back a completed internal task counts every step once (`accounted_of_run`), and one that
does takes the task again (`accounted_fails`).
-/

namespace Samaktha

namespace Workflow

variable (plan : ExecutionPlan)

/-! ## The accounts of a state -/

/-- The ids of the completed ones among some results, in order. -/
def doneIds (results : List RuntimeResult) : List String :=
  (results.filter fun r => r.status = .completed).map RuntimeResult.taskId

lemma doneIds_append (results results' : List RuntimeResult) :
    doneIds (results ++ results') = doneIds results ++ doneIds results' := by
  rw [doneIds, List.filter_append, List.map_append]
  rfl

/-- The ids of the completed results of a state. -/
def completedIds (state : WorkflowState) : List String := doneIds state.results

/-- Every task has at most one completed result, `completed_steps` is their number, and it does
not exceed `total_steps`. -/
structure Accounted (state : WorkflowState) : Prop where
  once : (completedIds state).Nodup
  counted : state.completedSteps = (completedIds state).dedup.length
  bounded : state.completedSteps ≤ state.totalSteps

/-- An internal task of the plan has this id. -/
def InternalId (id : String) : Prop :=
  ∃ task ∈ plan.tasks, task.taskId = id ∧ task.kind ≠ .executeViaRuntime

instance (id : String) : Decidable (InternalId plan id) :=
  inferInstanceAs (Decidable (∃ task ∈ plan.tasks, _))

/-! ## Calls in a row -/

/-- A workflow between two iterations of one of its calls. -/
structure Cycles where
  tasks : Dict String RuntimeTask
  loop : Loop
  deriving Inhabited

/-- What happens to it from outside. -/
inductive CycleMove where
  /-- The running call receives a reply. -/
  | reply (reply : Reply)
  /-- The call has returned paused, and the next one is made with the state it returned; by then
  the pause manager may hold any pauses. -/
  | resume (pauses : Dict String PendingPause) (preparedContext : Option Value)

def cycle (cycles : Cycles) : CycleMove → Option Cycles
  | .reply reply =>
      (iterate plan cycles.tasks cycles.loop reply).map fun loop => { cycles with loop := loop }
  | .resume pauses preparedContext =>
      match cycles.loop.result with
      | some result =>
          if result.workflowState.status = .paused then
            (workflowTasks plan (pendingOverrides plan pauses) preparedContext).map fun tasks =>
              ⟨tasks, start plan (some result.workflowState) pauses⟩
          else none
      | none => none

/-- The calls of a workflow, as a machine. -/
def cycleMachine : Machine Cycles CycleMove := ⟨cycle plan⟩

def firstCall (tasks : Dict String RuntimeTask) (pauses : Dict String PendingPause) : Cycles :=
  ⟨tasks, start plan none pauses⟩

/-! ## What a part of an iteration adds -/

/-- The ids in `ids` are recorded as completed, in this order. -/
structure Absorbs (loop loop' : Loop) (ids : List String) : Prop where
  entries : completedIds loop'.state = completedIds loop.state ++ ids
  steps : loop'.state.completedSteps = loop.state.completedSteps + ids.length
  total : loop'.state.totalSteps = loop.state.totalSteps
  kept : ∀ id ∈ loop.completed, id ∈ loop'.completed
  taken : ∀ id ∈ ids, id ∈ loop'.completed
  durable : ∀ id ∈ loop.state.completedTaskIds, id ∈ loop'.state.completedTaskIds
  recorded : ∀ id ∈ ids, id ∈ loop'.state.completedTaskIds ∨ InternalId plan id

variable {plan}

lemma absorbs_nothing {loop loop' : Loop}
    (hentries : completedIds loop'.state = completedIds loop.state)
    (hsteps : loop'.state.completedSteps = loop.state.completedSteps)
    (htotal : loop'.state.totalSteps = loop.state.totalSteps)
    (hcompleted : loop'.completed = loop.completed)
    (hids : loop'.state.completedTaskIds = loop.state.completedTaskIds) :
    Absorbs plan loop loop' [] where
  entries := by rw [hentries, List.append_nil]
  steps := by rw [hsteps, List.length_nil, Nat.add_zero]
  total := htotal
  kept id hid := by rwa [hcompleted]
  taken id hid := by cases hid
  durable id hid := by rwa [hids]
  recorded id hid := by cases hid

lemma Absorbs.trans {a b c : Loop} {ids ids' : List String} (h : Absorbs plan a b ids)
    (h' : Absorbs plan b c ids') : Absorbs plan a c (ids ++ ids') where
  entries := by rw [h'.entries, h.entries, List.append_assoc]
  steps := by rw [h'.steps, h.steps, List.length_append, Nat.add_assoc]
  total := h'.total.trans h.total
  kept id hid := h'.kept id (h.kept id hid)
  taken id hid := by
    rcases List.mem_append.mp hid with hid | hid
    · exact h'.kept id (h.taken id hid)
    · exact h'.taken id hid
  durable id hid := h'.durable id (h.durable id hid)
  recorded id hid := by
    rcases List.mem_append.mp hid with hid | hid
    · exact (h.recorded id hid).imp_left (h'.durable id)
    · exact h'.recorded id hid

lemma Absorbs.reported {loop loop' : Loop} {ids : List String} (h : Absorbs plan loop loop' ids) :
    Absorbs plan loop (reported loop') ids := by
  rcases reported_eq loop' with heq | heq
  · rw [heq]
    exact h
  · rw [heq]
    exact ⟨h.entries, h.steps, h.total, h.kept, h.taken, h.durable, h.recorded⟩

lemma absorbs_takeInternal (loop : Loop) {task : PlanTask} (htask : task ∈ plan.tasks)
    (hkind : task.kind ≠ .executeViaRuntime) :
    Absorbs plan loop (takeInternal loop task) [task.taskId] where
  entries := by simp [completedIds, doneIds, takeInternal, internalResult]
  steps := rfl
  total := rfl
  kept id hid := List.mem_insert_of_mem hid
  taken id hid := by
    obtain rfl := List.mem_singleton.mp hid
    exact List.mem_insert_self
  durable id hid := hid
  recorded id hid := by
    obtain rfl := List.mem_singleton.mp hid
    exact .inr ⟨task, htask, rfl, hkind⟩

lemma absorbs_runInternal (loop : Loop) :
    Absorbs plan loop (runInternal plan loop)
      (((nextBatch plan loop).filter fun task => task.kind ≠ .executeViaRuntime).map
        PlanTask.taskId) := by
  have hfold : ∀ (batch : List PlanTask) (loop : Loop),
      (∀ task ∈ batch, task ∈ plan.tasks ∧ task.kind ≠ .executeViaRuntime) →
      Absorbs plan loop (batch.foldl takeInternal loop) (batch.map PlanTask.taskId) := by
    intro batch
    induction batch with
    | nil => exact fun loop _ => absorbs_nothing rfl rfl rfl rfl rfl
    | cons task rest ih =>
        intro loop hbatch
        obtain ⟨htask, hkind⟩ := hbatch task List.mem_cons_self
        have hone := absorbs_takeInternal loop htask hkind
        exact hone.trans (ih _ fun t ht => hbatch t (List.mem_cons_of_mem _ ht))
  refine hfold _ loop fun task htask => ?_
  obtain ⟨hnext, hkind⟩ := List.mem_filter.mp htask
  exact ⟨(ExecutionGraph.mem_getReadyTasks hnext).1, by simpa using hkind⟩

lemma absorbs_settleResult (loop : Loop) (result : RuntimeResult) :
    Absorbs plan loop (settleResult loop result) (doneIds [result]) := by
  by_cases hcompleted : result.status = .completed
  · have hids : doneIds [result] = [result.taskId] := by simp [doneIds, hcompleted]
    rw [settleResult, if_pos hcompleted, hids]
    refine ⟨?_, rfl, rfl, fun id hid => List.mem_insert_of_mem hid, fun id hid => ?_,
      fun id hid => List.mem_insert_of_mem hid, fun id hid => ?_⟩
    · simp [completedIds, doneIds, markCompleted, record, hcompleted]
    · obtain rfl := List.mem_singleton.mp hid
      exact List.mem_insert_self
    · obtain rfl := List.mem_singleton.mp hid
      exact .inl List.mem_insert_self
  · have hids : doneIds [result] = [] := by simp [doneIds, hcompleted]
    rw [settleResult, if_neg hcompleted, hids]
    refine absorbs_nothing ?_ rfl rfl rfl rfl
    simp [completedIds, doneIds, markFailed, record, hcompleted]

lemma absorbs_foldl (results : List RuntimeResult) (loop : Loop) :
    Absorbs plan loop (results.foldl settleResult loop) (doneIds results) := by
  induction results generalizing loop with
  | nil => exact absorbs_nothing rfl rfl rfl rfl rfl
  | cons result rest ih =>
      have hids : doneIds (result :: rest) = doneIds [result] ++ doneIds rest :=
        doneIds_append [result] rest
      rw [List.foldl_cons, hids]
      exact (absorbs_settleResult loop result).trans (ih _)

lemma absorbs_returnPaused (loop : Loop) {result : RuntimeResult}
    (hstatus : result.status = .paused) :
    Absorbs plan loop (returnPaused plan (record loop result) result) [] := by
  refine absorbs_nothing ?_ rfl rfl rfl rfl
  simp [completedIds, doneIds, returnPaused, record, hstatus]

lemma absorbs_conclude (loop : Loop) : Absorbs plan loop (conclude plan loop) [] := by
  refine absorbs_nothing ?_ rfl rfl rfl rfl
  have hnone : ∀ tasks : List PlanTask, (tasks.map fun task : PlanTask =>
      ({ taskId := task.taskId, status := .blockedByDependency,
         error := some "Blocked by dependency failure" } : RuntimeResult)).filter
      (fun r => r.status = .completed) = [] := by
    intro tasks
    refine List.filter_eq_nil_iff.mpr fun r hr => ?_
    obtain ⟨task, -, rfl⟩ := List.mem_map.mp hr
    exact fun hstatus => (by cases of_decide_eq_true hstatus)
  simp only [completedIds, doneIds, conclude, List.filter_append, hnone, List.append_nil]

lemma absorbs_of_iterate {overrides : Dict String ResumeOverrides}
    {preparedContext : Option Value} {tasks : Dict String RuntimeTask}
    (htasks : workflowTasks plan overrides preparedContext = some tasks) {loop loop' : Loop}
    {reply : Reply} (hanswers : AnswersEach plan tasks loop reply)
    (hstep : iterate plan tasks loop reply = some loop') :
    ∃ ids, Absorbs plan loop loop' ids ∧ ids.Subperm (nextIds plan loop) := by
  obtain ⟨-, -, taken, hiteration, rfl⟩ := iteration_of_iterate plan hstep
  suffices habsorbs : ∃ ids, Absorbs plan loop taken ids ∧ ids.Subperm (nextIds plan loop) by
    obtain ⟨ids, htaken, hsub⟩ := habsorbs
    exact ⟨ids, htaken.reported, hsub⟩
  let inner := ((nextBatch plan loop).filter fun task => task.kind ≠ .executeViaRuntime).map
    PlanTask.taskId
  have hnext : (inner ++ (runtimeBatch plan tasks loop).map RuntimeTask.taskId).Perm
      (nextIds plan loop) := by
    rw [taskId_runtimeBatch htasks, ← List.map_append]
    have hsplit := List.filter_append_perm (fun task : PlanTask => task.kind = .executeViaRuntime)
      (nextBatch plan loop)
    refine (List.perm_append_comm.trans ?_).map PlanTask.taskId
    simpa using hsplit
  have hinner : Absorbs plan loop (runInternal plan loop) inner := absorbs_runInternal loop
  cases hiteration with
  | concluded hfinished hloop =>
      subst hloop
      exact ⟨[], absorbs_conclude loop, List.nil_subperm⟩
  | deadlocked hunfinished hbatch result hresult hloop =>
      subst hloop hresult
      exact ⟨[], absorbs_nothing rfl rfl rfl rfl rfl, List.nil_subperm⟩
  | internal hbatch hloop =>
      subst hloop
      refine ⟨inner, hinner, ?_⟩
      rw [hbatch, List.map_nil, List.append_nil] at hnext
      exact hnext.subperm
  | delivered hbatch hloop =>
      let results := batchResults reply (runtimeBatch plan tasks loop)
      let handed : Loop := { runInternal plan loop with
        dispatched := loop.dispatched ++ routedTasks reply (runtimeBatch plan tasks loop) }
      have hhanded : Absorbs plan loop handed inner := by
        have hdispatch : Absorbs plan (runInternal plan loop) handed [] :=
          absorbs_nothing rfl rfl rfl rfl rfl
        have h := hinner.trans hdispatch
        rwa [List.append_nil] at h
      have hids : (results.map RuntimeResult.taskId).Perm
          ((runtimeBatch plan tasks loop).map RuntimeTask.taskId) := hanswers.batchResults
      -- the completed ones among the first results of the batch
      have hsub : ∀ taken : List RuntimeResult, taken.Sublist results →
          (inner ++ doneIds taken).Subperm (nextIds plan loop) := by
        intro taken htaken
        have hdone : (doneIds taken).Sublist (results.map RuntimeResult.taskId) :=
          (List.filter_sublist.trans htaken).map RuntimeResult.taskId
        have hboth : (inner ++ doneIds taken).Subperm (inner ++ results.map RuntimeResult.taskId) :=
          ((List.Sublist.refl inner).append hdone).subperm
        exact hboth.trans ((List.Perm.append_left inner hids).trans hnext).subperm
      rcases exists_first_paused results with hnone | ⟨before, paused, after, heq, hbefore, hstatus⟩
      · rw [takeResults_of_forall plan hnone] at hloop
        subst hloop
        exact ⟨_, hhanded.trans (absorbs_foldl results handed),
          hsub results (List.Sublist.refl _)⟩
      · have hsplit : results = before ++ paused :: after := heq
        rw [show batchResults reply _ = before ++ paused :: after from heq,
          takeResults_of_paused plan hbefore hstatus] at hloop
        subst hloop
        have hbefore : Absorbs plan handed (before.foldl settleResult handed) (doneIds before) :=
          absorbs_foldl before handed
        have hpaused := hbefore.trans (absorbs_returnPaused _ hstatus)
        refine ⟨_, hhanded.trans hpaused, ?_⟩
        rw [List.append_nil]
        refine hsub before ?_
        rw [hsplit]
        exact List.sublist_append_left _ _

/-! ## The invariant of the calls -/

/-- The accounts between two iterations. -/
structure Counting (plan : ExecutionPlan) (loop : Loop) : Prop where
  once : (completedIds loop.state).Nodup
  counted : loop.state.completedSteps = (completedIds loop.state).length
  planned : ∀ id ∈ completedIds loop.state, id ∈ planIds plan
  total : loop.state.totalSteps = plan.tasks.length
  held : loop.result = none → loop.raised = false →
    ∀ id ∈ completedIds loop.state, id ∈ loop.completed
  durable : ∀ id ∈ completedIds loop.state,
    id ∈ loop.state.completedTaskIds ∨ InternalId plan id
  returned : ∀ result, loop.result = some result → result.workflowState = loop.state

lemma Counting.accounted {loop : Loop} (h : Counting plan loop) : Accounted loop.state where
  once := h.once
  counted := by rw [h.counted, h.once.dedup]
  bounded := by
    have hlength := (h.once.subperm h.planned).length_le
    rw [planIds, List.length_map] at hlength
    rw [h.counted, h.total]
    exact hlength

lemma Counting.absorb {loop loop' : Loop} {ids : List String} (h : Counting plan loop)
    (hopen : loop.result = none) (hraised : loop.raised = false)
    (habsorbs : Absorbs plan loop loop' ids)
    (hnodup : (nextIds plan loop).Nodup) (hsub : ids.Subperm (nextIds plan loop))
    (hreturned : ∀ result, loop'.result = some result → result.workflowState = loop'.state) :
    Counting plan loop' := by
  have hfresh : ∀ id ∈ ids, id ∈ planIds plan ∧ id ∉ loop.completed := fun id hid =>
    ⟨(nextIds_fresh (hsub.subset hid)).1, (nextIds_fresh (hsub.subset hid)).2.1⟩
  refine ⟨?_, ?_, ?_, ?_, ?_, ?_, hreturned⟩
  · rw [habsorbs.entries, List.nodup_append]
    obtain ⟨ids', hperm, hsublist⟩ := hsub
    refine ⟨h.once, hperm.nodup_iff.mp (hnodup.sublist hsublist), ?_⟩
    rintro id hid _ hnew rfl
    exact (hfresh id hnew).2 (h.held hopen hraised id hid)
  · rw [habsorbs.steps, habsorbs.entries, List.length_append, h.counted]
  · intro id hid
    rw [habsorbs.entries] at hid
    exact (List.mem_append.mp hid).elim (h.planned id) fun hnew => (hfresh id hnew).1
  · rw [habsorbs.total, h.total]
  · intro _ _ id hid
    rw [habsorbs.entries] at hid
    rcases List.mem_append.mp hid with hold | hnew
    · exact habsorbs.kept id (h.held hopen hraised id hold)
    · exact habsorbs.taken id hnew
  · intro id hid
    rw [habsorbs.entries] at hid
    rcases List.mem_append.mp hid with hold | hnew
    · exact (h.durable id hold).imp_left (habsorbs.durable id)
    · exact habsorbs.recorded id hnew

lemma workflowState_of_iterate {tasks : Dict String RuntimeTask} {loop loop' : Loop}
    {reply : Reply} (hstep : iterate plan tasks loop reply = some loop') :
    ∀ result, loop'.result = some result → result.workflowState = loop'.state := by
  obtain ⟨hopen, -, taken, hiteration, rfl⟩ := iteration_of_iterate plan hstep
  intro result hresult
  rw [state_reported]
  rw [reported_of_result hresult] at hresult
  cases hiteration with
  | concluded hfinished hloop =>
      subst hloop
      obtain rfl := Option.some.inj hresult
      rfl
  | deadlocked hunfinished hbatch result hfailed hloop =>
      subst hloop
      obtain rfl := Option.some.inj hresult
      rfl
  | internal hbatch hloop =>
      subst hloop
      rw [result_runInternal, hopen] at hresult
      cases hresult
  | delivered hbatch hloop =>
      rcases exists_first_paused (batchResults reply (runtimeBatch plan tasks loop)) with
        hnone | ⟨before, paused, after, heq, hbefore, hstatus⟩
      · rw [takeResults_of_forall plan hnone] at hloop
        subst hloop
        rw [result_foldl] at hresult
        simp [hopen] at hresult
      · rw [heq, takeResults_of_paused plan hbefore hstatus] at hloop
        subst hloop
        obtain rfl := Option.some.inj hresult
        rfl

lemma Counting.reported {loop : Loop} (h : Counting plan loop) : Counting plan (reported loop) := by
  rcases reported_eq loop with heq | heq
  · rw [heq]
    exact h
  · rw [heq]
    exact ⟨h.once, h.counted, h.planned, h.total, fun _ hraised => (by cases hraised), h.durable,
      fun result hresult => (by cases hresult)⟩

lemma counting_start {resume : Option WorkflowState} (pauses : Dict String PendingPause)
    (honce : (completedIds (initialState plan resume)).Nodup)
    (hcounted : (initialState plan resume).completedSteps =
      (completedIds (initialState plan resume)).length)
    (hplanned : ∀ id ∈ completedIds (initialState plan resume), id ∈ planIds plan)
    (htotal : (initialState plan resume).totalSteps = plan.tasks.length)
    (hdurable : ∀ id ∈ completedIds (initialState plan resume),
      id ∈ (initialState plan resume).completedTaskIds) :
    Counting plan (start plan resume pauses) := by
  have hfailed : ∀ error, Counting plan
      { state := (failWorkflow plan.planId (initialState plan resume) error).workflowState
        pauses := pauses
        result := some (failWorkflow plan.planId (initialState plan resume) error) } := by
    intro error
    refine ⟨honce, hcounted, hplanned, htotal, fun hnone _ => (by cases hnone),
      fun id hid => .inl (hdurable id hid), fun result hresult => ?_⟩
    obtain rfl := Option.some.inj hresult
    rfl
  unfold start
  dsimp only
  split
  · exact (hfailed _).reported
  · split
    · exact (hfailed _).reported
    · exact ⟨honce, hcounted, hplanned, htotal, fun _ _ => hdurable,
        fun id hid => .inl (hdurable id hid), fun result hresult => (by cases hresult)⟩

/-! ## Runs -/

/-- The condition on a move.  The tasks that are ready together have different ids, and the
runtime returns one result for each task it is handed; a state that is passed back holds no
completed internal task. -/
def Clean (plan : ExecutionPlan) (cycles : Cycles) : CycleMove → Prop
  | .reply reply =>
      (nextIds plan cycles.loop).Nodup ∧ AnswersEach plan cycles.tasks cycles.loop reply
  | .resume _ _ => ∀ id ∈ completedIds cycles.loop.state, ¬ InternalId plan id

/-- The tasks of a call are those of the plan. -/
def Built (plan : ExecutionPlan) (tasks : Dict String RuntimeTask) : Prop :=
  ∃ overrides preparedContext, workflowTasks plan overrides preparedContext = some tasks

lemma counting_cycle {cycles cycles' : Cycles} {move : CycleMove}
    (h : Built plan cycles.tasks ∧ Counting plan cycles.loop) (hclean : Clean plan cycles move)
    (hstep : cycle plan cycles move = some cycles') :
    Built plan cycles'.tasks ∧ Counting plan cycles'.loop := by
  obtain ⟨hbuilt, hcounting⟩ := h
  cases move with
  | reply reply =>
      obtain ⟨loop', hiterate, rfl⟩ := Option.map_eq_some_iff.mp hstep
      obtain ⟨overrides, preparedContext, htasks⟩ := hbuilt
      obtain ⟨hnodup, hanswers⟩ := hclean
      obtain ⟨ids, habsorbs, hsub⟩ := absorbs_of_iterate htasks hanswers hiterate
      obtain ⟨hopen, hraised, -⟩ := iteration_of_iterate plan hiterate
      exact ⟨⟨overrides, preparedContext, htasks⟩,
        hcounting.absorb hopen hraised habsorbs hnodup hsub (workflowState_of_iterate hiterate)⟩
  | resume pauses preparedContext =>
      rw [cycle] at hstep
      split at hstep
      · rename_i result hresult
        split at hstep
        · obtain ⟨tasks, htasks, rfl⟩ := Option.map_eq_some_iff.mp hstep
          refine ⟨⟨_, _, htasks⟩, ?_⟩
          rw [hcounting.returned result hresult]
          refine counting_start pauses hcounting.once hcounting.counted hcounting.planned
            hcounting.total fun id hid => ?_
          -- the state passed back holds no completed internal task
          exact (hcounting.durable id hid).resolve_right (hclean id hid)
        · cases hstep
      · cases hstep

/-- The steps of a workflow whose calls pass back no completed internal task are counted once,
over any number of pauses. -/
theorem accounted_of_run {tasks : Dict String RuntimeTask} {pauses : Dict String PendingPause}
    {preparedContext : Option Value}
    (htasks : workflowTasks plan (pendingOverrides plan pauses) preparedContext = some tasks)
    {moves : List CycleMove} {cycles : Cycles}
    (hclean : (cycleMachine plan).Guarded (Clean plan) (firstCall plan tasks pauses) moves)
    (hrun : (cycleMachine plan).run (firstCall plan tasks pauses) moves = some cycles) :
    Accounted cycles.loop.state := by
  have hfirst : Counting plan (start plan none pauses) :=
    counting_start pauses List.nodup_nil rfl (fun id hid => (by cases hid)) rfl
      fun id hid => (by cases hid)
  have hstart : Built plan (firstCall plan tasks pauses).tasks ∧
      Counting plan (firstCall plan tasks pauses).loop := ⟨⟨_, _, htasks⟩, hfirst⟩
  have hcounting := (cycleMachine plan).guarded_invariant
    (fun _ _ _ h hclean hstep => counting_cycle h hclean hstep) hstart hclean hrun
  exact hcounting.2.accounted

/-! ### An approval before and after an internal task -/

/-- A runtime task and a second task, of some kind. -/
def pairPlan (kind : TaskKind) : ExecutionPlan where
  planId := "pair"
  tasks := [
    { taskId := "note", kind := kind, executionActionType := "tool" },
    { taskId := "mail", kind := .executeViaRuntime, executionActionType := "tool" }]

def pairTasks (kind : TaskKind) : Dict String RuntimeTask :=
  (workflowTasks (pairPlan kind) [] none).getD []

/-- The mail waits for an approval, is resumed, and is sent; `others` are the results that are
reported before it the first time. -/
def approvedMail (others : List RuntimeResult) : List CycleMove := [
  .reply ⟨fun _ => .error "", others ++ [{ taskId := "mail", status := .paused }]⟩,
  .resume [] none,
  .reply ⟨fun _ => .error "", [{ taskId := "mail", status := .completed }]⟩]

/-- The workflow after some moves. -/
def pairAfter (kind : TaskKind) (moves : List CycleMove) : Cycles :=
  ((cycleMachine (pairPlan kind)).run (firstCall (pairPlan kind) (pairTasks kind) []) moves).getD
    default

/-- With two runtime tasks, both are counted once. -/
theorem accounted_of_run_sample :
    Accounted (pairAfter .executeViaRuntime
      (approvedMail [{ taskId := "note", status := .completed }])).loop.state := by
  have htasks : workflowTasks (pairPlan .executeViaRuntime)
      (pendingOverrides (pairPlan .executeViaRuntime) []) none =
        some (pairTasks .executeViaRuntime) :=
    some_getD (show (workflowTasks (pairPlan .executeViaRuntime) [] none).isSome = true by decide)
      []
  refine accounted_of_run htasks ?_ (some_getD (by decide) default)
  refine ⟨⟨by decide, fun _ => by decide⟩, fun first hfirst => ?_⟩
  obtain rfl := Option.some.inj (hfirst.symm.trans (some_getD (by decide) default))
  refine ⟨show ∀ id ∈ _, _ by decide, fun second hsecond => ?_⟩
  obtain rfl := Option.some.inj (hsecond.symm.trans (some_getD (by decide) default))
  exact ⟨⟨by decide, fun _ => by decide⟩, fun _ _ => trivial⟩

/-- With an internal task that completed before the pause, the task is completed twice and three
of two steps are counted. -/
theorem accounted_fails :
    (cycleMachine (pairPlan .plan)).run (firstCall (pairPlan .plan) (pairTasks .plan) [])
        (approvedMail []) = some (pairAfter .plan (approvedMail [])) ∧
      completedIds (pairAfter .plan (approvedMail [])).loop.state = ["note", "note", "mail"] ∧
      (pairAfter .plan (approvedMail [])).loop.state.completedSteps = 3 ∧
      (pairAfter .plan (approvedMail [])).loop.state.totalSteps = 2 ∧
      ¬ Accounted (pairAfter .plan (approvedMail [])).loop.state := by
  refine ⟨some_getD (by decide) default, by decide, by decide, by decide, fun h => ?_⟩
  exact absurd h.bounded (by decide)

end Workflow

end Samaktha
