import Samaktha.Coordination.Approvals
import Samaktha.Orchestrator.PermitIssue
import Samaktha.Runtime.BatchReports

/-!
# After a denial

`submit_approval` with a decision to deny lets the pipeline resume: `resume_pipeline` replaces
the pending permit of the task by one whose decision is deny (`resumePlan`) and calls `execute`
again, whose loop hands out every ready task of the plan.  The denied task fails at the gate.
`Resumed` is that call of `execute` together with the runtime it shares with everyone else; the
loop and its batches are those of `Workflow` and `RunBatch`.

Two things follow for every run (`denial_stops`).  The coordinator never ends the execution as
completed.  And no executor is invoked for it, as long as the loop hands out nothing that the
gate could let through: another ready task whose permit allows it is executed
(`denial_executes`).
-/

namespace Samaktha

/-! ## The coordinator -/

namespace Denial

section Session

variable {κ : Type} (coordinator : Coordinator κ)

/-- The execution has ended, but not as completed, or it waits for an approval that nobody can
give any more. -/
def Shut (record : ActiveExecution) : Prop :=
  (record.state.terminal = true ∧ record.state.status ≠ .completed) ∨ Wedged record

variable {record : ActiveExecution}

lemma Shut.status_ne (h : Shut record) : record.state.status ≠ .completed := by
  rcases h with ⟨-, hstatus⟩ | ⟨hawaiting, -⟩
  · exact hstatus
  · rw [hawaiting]
    decide

lemma Shut.same {record' : ActiveExecution} (h : Shut record)
    (hsame : SameApprovals record record') : Shut record' := by
  rw [Shut, Wedged, hsame.terminal, hsame.status, hsame.open_iff]
  exact h

lemma Shut.clear (h : Shut record) (available : Bool) :
    Shut { record with state := { record.state with
      pendingApprovalId := none, pendingTaskId := none, resultAvailable := available } } := by
  rcases h with hended | ⟨hawaiting, -⟩
  · exact .inl hended
  · refine .inr ⟨hawaiting, ?_⟩
    rintro ⟨-, id, hid, -⟩
    cases hid

lemma Shut.transition (h : Shut record) (world : κ) {status : ExecutionStatus}
    (hterminal : status.terminal = true) (hstatus : status ≠ .completed) (error : Option String) :
    Shut (coordinator.transition record world status error).record := by
  cases transited coordinator record world status error with
  | kept hsame happrovals => exact h.same happrovals
  | moved hmem hmoved hpending hresolved =>
      refine .inl ⟨?_, ?_⟩
      · rw [ExecutionState.terminal, hmoved]
        exact hterminal
      · rw [hmoved]
        exact hstatus
  | refused hmem hne hran hraised =>
      rw [hran]
      exact h

/-- The handlers share their shape: a transition, unless the execution has ended, and what
follows it. -/
lemma Shut.closing (h : Shut record) (world : κ) {status : ExecutionStatus}
    (hterminal : status.terminal = true) (hstatus : status ≠ .completed) (error : Option String)
    {next : ActiveExecution → κ → Ran κ} (hnext : ∀ r world, Shut r → Shut (next r world).record) :
    Shut (Ran.andThen (if record.state.terminal then { record := record, world := world }
      else coordinator.transition record world status error) next).record := by
  refine Ran.andThen_record ?_ hnext
  split
  · exact h
  · exact h.transition coordinator world hterminal hstatus error

lemma Shut.setTerminalResult (h : Shut record) (status : ExecutionStatus) (error : String)
    (preserve : Bool) : Shut (Coordinator.setTerminalResult record status error preserve) :=
  h.same (sameApprovals_setTerminalResult record status error preserve)

lemma Shut.onException (h : Shut record) (exception : String) (world : κ) :
    Shut (coordinator.onException exception record world).record := by
  have hnoted : Shut { record with failureException := some exception } := h
  exact hnoted.closing coordinator world rfl (by decide) _ fun r _ hr => hr.setTerminalResult _ _ _

lemma Shut.onCancelled (h : Shut record) (world : κ) :
    Shut (coordinator.onCancelled record world).record :=
  h.closing coordinator world rfl (by decide) _ fun _ _ hr => hr.setTerminalResult _ _ _

lemma Shut.closeWith (h : Shut record) (world : κ) (status : ExecutionStatus) (error : String) :
    Shut (coordinator.closeWith record world status error).record := by
  rw [Coordinator.closeWith, Coordinator.recorded_record]
  refine Shut.same ?_ (sameApprovals_saveCheckpoint coordinator _ world false)
  exact (h.setTerminalResult status error false).clear _

lemma Shut.finishResume (h : Shut record) (world : κ) (outcome : Outcome) :
    Shut (coordinator.finishResume record world .deny outcome).record := by
  cases outcome with
  | returned pipeline =>
      have hnoted : Shut { record with pipelineState := some pipeline } := h
      have hdenied : Shut (coordinator.denied { record with pipelineState := some pipeline } world
          pipeline).record := by
        rw [Coordinator.denied, Coordinator.recorded_record]
        exact ((hnoted.clear _).setTerminalResult _ _ _).transition coordinator world rfl
          (by decide) _
      unfold Coordinator.finishResume
      dsimp only
      cases hraised : (coordinator.denied { record with pipelineState := some pipeline } world
          pipeline).raised with
      | none =>
          rw [Ran.handle_of_none hraised]
          exact hdenied
      | some exception =>
          rw [Ran.handle_of_some hraised]
          exact hdenied.onException coordinator exception _
  | raised exception => exact h.onException coordinator exception world
  | cancelled => exact h.onCancelled coordinator world
  | timedOut text => exact h.onException coordinator text world

/-- A denied execution: it is shut, and its task is the resume or none. -/
structure Denied (s : Session κ) : Prop where
  shut : Shut s.record
  work : s.work = .none ∨ s.work = .resume .deny

lemma Shut.checkSubmission (h : Shut record) (principalId approvalId decision : String)
    (accepted : Decision) :
    Coordinator.checkSubmission record principalId approvalId decision ≠ .ok accepted := by
  intro hok
  obtain ⟨hawaiting, hpending, hfresh⟩ := open_of_checkSubmission hok
  rcases h with ⟨hterminal, -⟩ | ⟨-, hclosed⟩
  · rw [ExecutionState.terminal, hawaiting] at hterminal
    cases hterminal
  · exact hclosed ⟨hawaiting, approvalId, hpending, hfresh⟩

/-- Every move keeps it. -/
lemma denied_step (s : Session κ) (move : Move) (t : Session κ) (h : Denied s)
    (hstep : (Session.machine coordinator).step s move = some t) : Denied t := by
  change s.step coordinator move = some t at hstep
  have hstatus : ∀ status, s.record.state.status = status → status.terminal = false →
      status = .awaitingApproval := by
    rintro status rfl hopen
    rcases h.shut with ⟨hterminal, -⟩ | ⟨hawaiting, -⟩
    · rw [ExecutionState.terminal, hopen] at hterminal
      cases hterminal
    · exact hawaiting
  cases move with
  | start =>
      simp only [Session.step] at hstep
      split at hstep
      · rename_i hcreated
        exact absurd (hstatus _ hcreated.2 rfl) (by decide)
      · cases hstep
  | recover =>
      simp only [Session.step] at hstep
      split at hstep
      · rename_i hrecovering
        exact absurd (hstatus _ hrecovering.2 rfl) (by decide)
      · cases hstep
  | enter =>
      simp only [Session.step] at hstep
      split at hstep
      · rename_i hqueued
        rcases h.work with hnone | hresume
        · rw [hnone] at hqueued
          cases hqueued
        · rw [hresume] at hqueued
          cases hqueued
      · cases hstep
  | finish outcome =>
      rcases h.work with hnone | hresume
      · simp only [Session.step, hnone] at hstep
        cases hstep
      · simp only [Session.step, hresume, Option.some.injEq] at hstep
        subst hstep
        exact ⟨h.shut.finishResume coordinator s.world outcome, .inl rfl⟩
  | checkpoint details =>
      simp only [Session.step] at hstep
      split at hstep
      · cases hstep
      · obtain rfl := Option.some.inj hstep
        exact ⟨h.shut.same (sameApprovals_runtimeCheckpoint coordinator _ _ details), h.work⟩
  | submit principalId approvalId decision =>
      simp only [Session.step] at hstep
      split at hstep
      · obtain rfl := Option.some.inj hstep
        exact h
      · rename_i accepted haccepted
        exact absurd haccepted (h.shut.checkSubmission _ _ _ _)
  | cancel =>
      simp only [Session.step] at hstep
      split at hstep
      · obtain rfl := Option.some.inj hstep
        exact h
      · obtain rfl := Option.some.inj hstep
        exact ⟨h.shut, h.work⟩
  | cancelTail =>
      simp only [Session.step] at hstep
      split at hstep
      · obtain rfl := Option.some.inj hstep
        exact ⟨h.shut.closing coordinator s.world rfl (by decide) _
          fun r world hr => hr.closeWith coordinator world _ _, h.work⟩
      · cases hstep
  | timeout error =>
      simp only [Session.step] at hstep
      split at hstep
      · obtain rfl := Option.some.inj hstep
        exact h
      · obtain rfl := Option.some.inj hstep
        have hmoved :
            Shut (coordinator.transition s.record s.world .timedOut (some error)).record :=
          h.shut.transition coordinator s.world rfl (by decide) _
        exact ⟨Ran.andThen_record hmoved fun _ _ hr => hr, h.work⟩
  | timeoutTail error =>
      simp only [Session.step] at hstep
      split at hstep
      · obtain rfl := Option.some.inj hstep
        exact ⟨h.shut.closeWith coordinator s.world _ _, h.work⟩
      · cases hstep

/-- `submit_approval` has accepted a denial. -/
def Accepts (s : Session κ) (principalId approvalId decision : String) (t : Session κ) : Prop :=
  Coordinator.checkSubmission s.record principalId approvalId decision = .ok .deny ∧
    (Session.machine coordinator).step s (.submit principalId approvalId decision) = some t ∧
    t.work = .resume .deny

lemma denied_of_accepts {s t : Session κ} {principalId approvalId decision : String}
    (h : Accepts coordinator s principalId approvalId decision t) : Denied t := by
  obtain ⟨hcheck, hstep, hwork⟩ := h
  refine ⟨.inr ?_, .inr hwork⟩
  obtain ⟨hawaiting, hpending, -⟩ := open_of_checkSubmission hcheck
  change s.step coordinator (.submit principalId approvalId decision) = some t at hstep
  simp only [Session.step, hcheck, Option.some.injEq] at hstep
  subst hstep
  have hsame := sameApprovals_resolveApproval coordinator s.record s.world approvalId .deny
  have hrecord : (coordinator.acceptSubmission s.record s.world approvalId .deny).record =
      (coordinator.resolveApproval s.record s.world approvalId .deny).record := by
    unfold Coordinator.acceptSubmission Ran.andThen
    split <;> rfl
  refine ⟨?_, ?_⟩
  · rw [Session.after, hrecord, hsame.status]
    exact hawaiting
  · rintro ⟨-, id, hid, hfresh⟩
    rw [Session.after, hrecord, hsame.pending] at hid
    rw [Session.after, hrecord, hsame.resolved] at hfresh
    obtain rfl := Option.some.inj (hpending.symm.trans hid)
    exact hfresh List.mem_insert_self

end Session

/-! ## The pipeline -/

section Pipeline

/-- A permit that is read back from the metadata and resolved; the internet tool finds the
decision among its arguments. -/
def resolveTask (issuing : Orchestrator.Issuing) (decision : ApprovalDecision)
    (reasons : List String) (source : String) (stamp : Stamp) (task : PlanTask) :
    Except String (PlanTask × ExecutionPermit) :=
  match task.permit with
  | none => .error "Cannot approve a task without a pending ExecutionPermit."
  | some pending =>
      (ApprovalEngine.resolve issuing.platform pending ⟨task.taskId, decision, reasons⟩
        pending.subjectId source stamp).bind fun permit =>
          if Orchestrator.metadataText task.metadata "tool" = some "internet" then
            match (Dict.get? task.metadata "args").getD (.dict []) with
            | .dict args =>
                let args := Dict.set args (.str "_cap_permit") (.str permit.decision.value)
                .ok ({ task with
                  permit := some permit
                  metadata := Dict.set task.metadata "args" (.dict args) }, permit)
            | _ => .error "TypeError: args is not a dictionary"
          else .ok ({ task with permit := some permit }, permit)

/-- The first task of an id is resolved. -/
def resolveFirst (issuing : Orchestrator.Issuing) (taskId : String) (decision : ApprovalDecision)
    (reasons : List String) (source : String) (stamp : Stamp) :
    List PlanTask → Except String (List PlanTask × ExecutionPermit)
  | [] => .error ("Cannot resume pipeline: unknown task '" ++ taskId ++ "'.")
  | task :: rest =>
      if task.taskId = taskId then
        (resolveTask issuing decision reasons source stamp task).map fun resolved =>
          (resolved.1 :: rest, resolved.2)
      else
        (resolveFirst issuing taskId decision reasons source stamp rest).map fun resolved =>
          (task :: resolved.1, resolved.2)

/-- `resume_pipeline` with a decision, up to `execute`: the plan it executes, and the permit. -/
def resumePlan (issuing : Orchestrator.Issuing) (plan : ExecutionPlan) (taskId : String)
    (decision : ApprovalDecision) (reasons : List String) (source : String) (stamp : Stamp) :
    Except String (ExecutionPlan × ExecutionPermit) :=
  (resolveFirst issuing taskId decision reasons source stamp plan.tasks).bind fun resolved =>
    match (resolved.1.map (Orchestrator.withPreparedContext issuing)).mapM
        (Orchestrator.withMemoryAccess issuing) with
    | some tasks => .ok ({ plan with tasks := tasks }, resolved.2)
    | none => .error "TypeError: args is not a dictionary"

/-- What the router says to each task. -/
abbrev Route := RuntimeTask → Except String RoutingDecision

/-- A call of `execute` after a decision, in a runtime that others use, too. -/
structure Resumed (κ : Type) where
  loop : Workflow.Loop
  runtime : RunBatch.State κ
  /-- The batch `execute` waits for, and the router's answers for it. -/
  waiting : Option (Route × ℕ) := none
  /-- The batches it has started. -/
  started : List ℕ := []
  raised : Bool := false

inductive ResumedMove where
  /-- The loop goes on to its next batch, or to its end. -/
  | next (route : Route)
  /-- The batch has reported. -/
  | take
  /-- The engine moves, for this execution or for others. -/
  | engine (move : Engine.Move)
  | batch (context : ℕ) (tasks : List (RuntimeTask × RoutingDecision))
  | advance (batch : ℕ) (refused : String → Bool)
  | gather (batch : ℕ) (errors : String → String)
  | abandon (batch : ℕ)

variable {κ : Type} (cfg : BatchConfig κ) (plan : ExecutionPlan) (tasks : Dict String RuntimeTask)
  (context : ℕ)

def runtimeMove : ResumedMove → Option RunBatch.Move
  | .next _ | .take => none
  | .engine move => some (.engine cfg.engine.contexts move)
  | .batch context tasks => some (.batch context tasks)
  | .advance batch refused => some (.advance batch refused)
  | .gather batch errors => some (.gather batch errors)
  | .abandon batch => some (.abandon batch)

/-- The tasks that the next iteration hands to the runtime, with their routings. -/
def handed (loop : Workflow.Loop) (route : Route) : List (RuntimeTask × RoutingDecision) :=
  if Workflow.isFinished plan loop || (Workflow.nextBatch plan loop).isEmpty then []
  else (Workflow.runtimeBatch plan tasks loop).filterMap fun task =>
    match Workflow.routeTask ⟨route, []⟩ task with
    | .ok routing => some (task, routing)
    | .error _ => none

def resumedStep (s : Resumed κ) : ResumedMove → Option (Resumed κ)
  | .next route =>
      if s.waiting.isSome || s.raised || s.loop.result.isSome then none
      else if (handed plan tasks s.loop route).isEmpty then
        (Workflow.iterate plan tasks s.loop ⟨route, []⟩).map fun loop => { s with loop := loop }
      else some { s with
        runtime := RunBatch.begin s.runtime context (handed plan tasks s.loop route)
        waiting := some (route, s.runtime.batches.length)
        started := s.started ++ [s.runtime.batches.length] }
  | .take =>
      match s.waiting with
      | none => none
      | some (route, k) =>
          match (s.runtime.batches[k]?).map RunBatch.Batch.stage with
          | some (.reported results) =>
              (Workflow.iterate plan tasks s.loop ⟨route, results⟩).map fun loop =>
                { s with loop := loop, waiting := none }
          | some .raised => some { s with raised := true, waiting := none }
          | _ => none
  | move =>
      (runtimeMove cfg move).bind fun move =>
        (RunBatch.step cfg s.runtime move).map fun runtime => { s with runtime := runtime }

def resumedMachine : Machine (Resumed κ) ResumedMove := ⟨resumedStep cfg plan tasks context⟩

/-- An executor was invoked by a call that one of the execution's batches has made. -/
def Invoked (s : Resumed κ) : Prop :=
  ∃ d ∈ s.runtime.engine.log, ∃ k ∈ s.started, ∃ b, s.runtime.batches[k]? = some b ∧
    ∃ task, (task, d.call) ∈ b.calls

/-- The gate could let a task through. -/
def Clearable (task : RuntimeTask) : Prop :=
  ∃ routing now, enforceCapPermit cfg.engine.platform cfg.engine.textOf
    (cfg.engine.contexts context) task routing now = .ok none

/-- Apart from the denied task, no task the loop hands out could be let through. -/
def NothingElse (permit : ExecutionPermit) (s : Resumed κ) : ResumedMove → Prop
  | .next route => ∀ entry ∈ handed plan tasks s.loop route,
      entry.1.permit = some permit ∨ ¬ Clearable cfg context entry.1
  | _ => True

/-! ### What a move of the runtime leaves -/

open RunBatch (Batch)

/-- A batch with more calls, all of them new and for its own tasks. -/
structure Grown (s t : RunBatch.State κ) (b b' : Batch) : Prop where
  context : b'.context = b.context
  tasks : b'.tasks = b.tasks
  calls : ∀ task i, (task, i) ∈ b'.calls → (task, i) ∈ b.calls ∨
    (s.engine.calls.length ≤ i ∧ (∃ routing, (task, routing) ∈ b.tasks) ∧
      ∃ call, t.engine.calls[i]? = some call ∧ call.task = task ∧ call.context = b.context)

/-- What is there stays, and an executor is invoked only for a call that the gate lets
through. -/
structure Frame (s t : RunBatch.State κ) : Prop where
  calls : ∀ (i : ℕ) (call : Engine.Call), s.engine.calls[i]? = some call →
    ∃ call', t.engine.calls[i]? = some call' ∧ call'.task = call.task ∧
      call'.context = call.context
  log : ∀ d ∈ t.engine.log, (∃ d' ∈ s.engine.log, d'.call = d.call) ∨
    ∃ call now, s.engine.calls[d.call]? = some call ∧ Engine.LetThrough cfg.engine call now
  batches : ∀ (k : ℕ) (b : Batch), s.batches[k]? = some b →
    ∃ b', t.batches[k]? = some b' ∧ Grown s t b b'

lemma Grown.refl (s t : RunBatch.State κ) (b : Batch) : Grown s t b b :=
  ⟨rfl, rfl, fun _ _ h => .inl h⟩

variable {cfg}

lemma Frame.of_append {s t : RunBatch.State κ} {extra : List Engine.Call}
    (hcalls : t.engine.calls = s.engine.calls ++ extra) (hlog : t.engine.log = s.engine.log)
    (hbatches : ∀ (k : ℕ) (b : Batch), s.batches[k]? = some b →
      ∃ b', t.batches[k]? = some b' ∧ Grown s t b b') : Frame cfg s t where
  calls := by
    intro i call hcall
    refine ⟨call, ?_, rfl, rfl⟩
    rw [hcalls, List.getElem?_append_left (List.getElem?_eq_some_iff.mp hcall).1, hcall]
  log := by
    intro d hd
    rw [hlog] at hd
    exact .inl ⟨d, hd, rfl⟩
  batches := hbatches

lemma calls_of_set {s t : Engine.State κ} {i : ℕ} {call : Engine.Call} {phase : Engine.Phase}
    (hcall : s.calls[i]? = some call)
    (hcalls : t.calls = s.calls.set i { call with phase := phase }) (j : ℕ) (c : Engine.Call)
    (hc : s.calls[j]? = some c) :
    ∃ c', t.calls[j]? = some c' ∧ c'.task = c.task ∧ c'.context = c.context := by
  by_cases hij : i = j
  · subst hij
    obtain rfl := Option.some.inj (hcall.symm.trans hc)
    have hlt := (List.getElem?_eq_some_iff.mp hc).1
    refine ⟨{ call with phase := phase }, ?_, rfl, rfl⟩
    rw [hcalls, List.getElem?_set_self hlt]
  · exact ⟨c, by rw [hcalls, List.getElem?_set_ne hij, hc], rfl, rfl⟩

lemma frame_engine {s t : RunBatch.State κ} {move : Engine.Move}
    (h : RunBatch.step cfg s (.engine cfg.engine.contexts move) = some t) : Frame cfg s t := by
  obtain ⟨hmoved, hbatches, -⟩ := RunBatch.engine_of_step cfg h
  have hcfg : RunBatch.atContexts cfg cfg.engine.contexts = cfg.engine := rfl
  rw [hcfg] at hmoved
  have hsame : ∀ (k : ℕ) (b : Batch), s.batches[k]? = some b →
      ∃ b', t.batches[k]? = some b' ∧ Grown s t b b' :=
    fun k b hb => ⟨b, by rw [hbatches, hb], .refl s t b⟩
  have hold : t.engine.log.map Engine.Dispatch.call = s.engine.log.map Engine.Dispatch.call →
      ∀ d ∈ t.engine.log, (∃ d' ∈ s.engine.log, d'.call = d.call) ∨
        ∃ call now, s.engine.calls[d.call]? = some call ∧
          Engine.LetThrough cfg.engine call now := by
    intro hcallers d hd
    have hmem : d.call ∈ s.engine.log.map Engine.Dispatch.call :=
      hcallers ▸ List.mem_map_of_mem hd
    exact .inl (List.mem_map.mp hmem)
  cases hmoved with
  | unchanged hcalls hlog =>
      refine ⟨fun i call hcall => ⟨call, by rw [hcalls, hcall], rfl, rfl⟩, hold hlog, hsame⟩
  | started context task routing hcalls hlog => exact .of_append hcalls hlog hsame
  | quiet i call phase hcall hsuspended hquiet hcalls hlog =>
      exact ⟨calls_of_set hcall hcalls, hold hlog, hsame⟩
  | stopped i now call attempt result hcall hready hcalls hlog =>
      exact ⟨calls_of_set hcall hcalls, hold (by rw [hlog]), hsame⟩
  | restored i now call attempt previous source result hcall hready hgate hsource hid hstatus
      hcalls hlog => exact ⟨calls_of_set hcall hcalls, hold (by rw [hlog]), hsame⟩
  | finished i call attempt entry result phase hcall hexec hphase hcalls hlog =>
      exact ⟨calls_of_set hcall hcalls, hold hlog, hsame⟩
  | dispatched i now call attempt previous world hcall hready hgate hcalls hlog =>
      refine ⟨calls_of_set hcall hcalls, fun d hd => ?_, hsame⟩
      rw [hlog] at hd
      rcases List.mem_append.mp hd with hd | hd
      · exact .inl ⟨d, hd, rfl⟩
      · rw [List.mem_singleton.mp hd]
        exact .inr ⟨call, now, hcall, hgate⟩

lemma batches_setBatch {s t : RunBatch.State κ} {k : ℕ} {b b' : Batch}
    (hb : s.batches[k]? = some b) (ht : t.batches = s.batches.set k b') (hgrown : Grown s t b b')
    (j : ℕ) (c : Batch) (hc : s.batches[j]? = some c) :
    ∃ c', t.batches[j]? = some c' ∧ Grown s t c c' := by
  by_cases hkj : k = j
  · subst hkj
    obtain rfl := Option.some.inj (hb.symm.trans hc)
    have hlt := (List.getElem?_eq_some_iff.mp hc).1
    exact ⟨b', by rw [ht, List.getElem?_set_self hlt], hgrown⟩
  · exact ⟨c, by rw [ht, List.getElem?_set_ne hkj, hc], .refl s t c⟩

lemma frame_setBatch {s : RunBatch.State κ} {k : ℕ} {b : Batch} (hb : s.batches[k]? = some b)
    (stage : RunBatch.Stage) : Frame cfg s (s.setBatch k { b with stage := stage }) :=
  .of_append (List.append_nil _).symm rfl
    (batches_setBatch hb rfl ⟨rfl, rfl, fun _ _ h => .inl h⟩)

lemma frame_begin (s : RunBatch.State κ) (context : ℕ)
    (tasks : List (RuntimeTask × RoutingDecision)) :
    Frame cfg s (RunBatch.begin s context tasks) := by
  have hold : ∀ (t : RunBatch.State κ) (added : Batch), t.batches = s.batches ++ [added] →
      ∀ (k : ℕ) (b : Batch), s.batches[k]? = some b →
        ∃ b', t.batches[k]? = some b' ∧ Grown s t b b' := by
    intro t added ht k b hb
    refine ⟨b, ?_, .refl s t b⟩
    rw [ht, List.getElem?_append_left (List.getElem?_eq_some_iff.mp hb).1, hb]
  unfold RunBatch.begin
  split
  · obtain ⟨extra, hextra, -⟩ := RunBatch.launch_calls context (fun _ => false) tasks
      s.engine.calls
    exact .of_append hextra rfl (hold _ _ rfl)
  · split
    · exact .of_append (List.append_nil _).symm rfl (hold _ _ rfl)
    · exact .of_append (List.append_nil _).symm rfl (hold _ _ rfl)

lemma frame_enter {s : RunBatch.State κ} {k : ℕ} {b : Batch} (hb : s.batches[k]? = some b)
    (books : RunBatch.Books) (refused : String → Bool) (levels : List (List String)) :
    Frame cfg s (RunBatch.enter s k b books refused levels) := by
  cases levels with
  | nil => exact frame_setBatch hb _
  | cons level levels =>
      obtain ⟨extra, hextra, -⟩ := RunBatch.launch_calls b.context refused
        (RunBatch.triage (RunBatch.taskMap b.tasks) (RunBatch.graphOf b.tasks) level books).2
        s.engine.calls
      refine .of_append hextra rfl (batches_setBatch hb rfl ⟨rfl, rfl, fun task i hmem => ?_⟩)
      refine (List.mem_append.mp hmem).imp_right fun hmem => ?_
      obtain ⟨⟨routing, hentry⟩, hnew, hcall⟩ := RunBatch.mem_launched hmem
      exact ⟨hnew, ⟨routing, RunBatch.mem_of_triage hentry⟩, hcall⟩

/-- Every move of the runtime that the resumed execution sees. -/
lemma frame_of_step {s t : RunBatch.State κ} {move : ResumedMove} {moved : RunBatch.Move}
    (hmove : runtimeMove cfg move = some moved) (h : RunBatch.step cfg s moved = some t) :
    Frame cfg s t := by
  cases move with
  | next route => cases hmove
  | take => cases hmove
  | engine move =>
      obtain rfl := Option.some.inj hmove
      exact frame_engine h
  | batch context tasks =>
      obtain rfl := Option.some.inj hmove
      obtain rfl := Option.some.inj h
      exact frame_begin s context tasks
  | advance k refused =>
      obtain rfl := Option.some.inj hmove
      simp only [RunBatch.step] at h
      split at h
      · rename_i b hb
        split at h
        · rename_i books levels hstage
          obtain rfl := Option.some.inj h
          exact frame_enter hb books refused levels
        · cases h
      · cases h
  | gather k errors =>
      obtain rfl := Option.some.inj hmove
      simp only [RunBatch.step] at h
      split at h
      · rename_i b hb
        split at h
        · obtain ⟨results, -, rfl⟩ := Option.map_eq_some_iff.mp h
          exact frame_setBatch hb _
        · obtain ⟨items, -, rfl⟩ := Option.map_eq_some_iff.mp h
          exact frame_setBatch hb _
        · cases h
      · cases h
  | abandon k =>
      obtain rfl := Option.some.inj hmove
      simp only [RunBatch.step] at h
      split at h
      · rename_i b hb
        obtain rfl := Option.some.inj h
        exact frame_setBatch hb _
      · cases h

/-! ### Nothing is executed -/

variable (cfg)

/-- A batch of the execution, whose tasks cannot be let through and whose calls are in nobody's
log. -/
structure OwnBatch (s : RunBatch.State κ) (b : Batch) : Prop where
  shared : b.context = context
  tasks : ∀ entry ∈ b.tasks, ¬ Clearable cfg context entry.1
  calls : ∀ task i, (task, i) ∈ b.calls →
    (∃ call, s.engine.calls[i]? = some call ∧ call.context = context ∧
      ¬ Clearable cfg context call.task) ∧ ∀ d ∈ s.engine.log, d.call ≠ i

/-- The executor calls of a runtime were made by calls it has. -/
def Bounded (s : RunBatch.State κ) : Prop :=
  ∀ d ∈ s.engine.log, d.call < s.engine.calls.length

/-- The invariant of the resumed execution. -/
structure Still (s : Resumed κ) : Prop where
  bounded : Bounded s.runtime
  own : ∀ k ∈ s.started, ∃ b, s.runtime.batches[k]? = some b ∧ OwnBatch cfg context s.runtime b

variable {cfg context}

lemma Frame.length_le {s t : RunBatch.State κ} (h : Frame cfg s t) :
    s.engine.calls.length ≤ t.engine.calls.length := by
  by_contra hlt
  push Not at hlt
  obtain ⟨call', hcall', -⟩ := h.calls t.engine.calls.length _ (List.getElem?_eq_getElem hlt)
  have := (List.getElem?_eq_some_iff.mp hcall').1
  omega

lemma Frame.call_lt {s t : RunBatch.State κ} (h : Frame cfg s t) (hs : Bounded s)
    {d : Engine.Dispatch κ} (hd : d ∈ t.engine.log) : d.call < s.engine.calls.length := by
  rcases h.log d hd with ⟨d', hd', hcall⟩ | ⟨call, now, hcall, -⟩
  · exact hcall ▸ hs d' hd'
  · exact (List.getElem?_eq_some_iff.mp hcall).1

lemma Frame.bounded {s t : RunBatch.State κ} (h : Frame cfg s t) (hs : Bounded s) : Bounded t :=
  fun _ hd => Nat.lt_of_lt_of_le (h.call_lt hs hd) h.length_le

lemma OwnBatch.grow {s t : RunBatch.State κ} {b b' : Batch} (hb : OwnBatch cfg context s b)
    (hs : Bounded s) (h : Frame cfg s t) (hgrown : Grown s t b b') :
    OwnBatch cfg context t b' where
  shared := hgrown.context.trans hb.shared
  tasks := by
    rw [hgrown.tasks]
    exact hb.tasks
  calls := by
    intro task i hmem
    rcases hgrown.calls task i hmem with hold | ⟨hnew, ⟨routing, hentry⟩, call, hcall, rfl, hctx⟩
    · obtain ⟨⟨call, hcall, hctx, hclear⟩, hlog⟩ := hb.calls task i hold
      obtain ⟨call', hcall', htask', hctx'⟩ := h.calls i call hcall
      refine ⟨⟨call', hcall', hctx'.trans hctx, htask' ▸ hclear⟩, ?_⟩
      rintro d hd rfl
      rcases h.log d hd with ⟨d', hd', hsame⟩ | ⟨call'', now, hcall'', hgate⟩
      · exact hlog d' hd' hsame
      · obtain rfl := Option.some.inj (hcall.symm.trans hcall'')
        exact hclear ⟨call.routing, now, hctx ▸ hgate⟩
    · refine ⟨⟨call, hcall, hctx.trans hb.shared, hb.tasks _ hentry⟩, fun d hd heq => ?_⟩
      have := h.call_lt hs hd
      omega

lemma Still.frame {s t : Resumed κ} (hs : Still cfg context s) (h : Frame cfg s.runtime t.runtime)
    (hstarted : t.started = s.started) : Still cfg context t where
  bounded := h.bounded hs.bounded
  own := by
    intro k hk
    rw [hstarted] at hk
    obtain ⟨b, hb, hown⟩ := hs.own k hk
    obtain ⟨b', hb', hgrown⟩ := h.batches k b hb
    exact ⟨b', hb', hown.grow hs.bounded h hgrown⟩

lemma ownBatch_begin {s : RunBatch.State κ} (hs : Bounded s)
    {entries : List (RuntimeTask × RoutingDecision)}
    (hentries : ∀ entry ∈ entries, ¬ Clearable cfg context entry.1) :
    ∃ b, (RunBatch.begin s context entries).batches[s.batches.length]? = some b ∧
      OwnBatch cfg context (RunBatch.begin s context entries) b := by
  have hidle : ∀ (t : RunBatch.State κ) (stage : RunBatch.Stage),
      OwnBatch cfg context t ⟨context, entries, [], stage⟩ :=
    fun _ _ => ⟨rfl, hentries, fun _ _ hmem => by cases hmem⟩
  unfold RunBatch.begin
  split
  · refine ⟨_, List.getElem?_concat_length, rfl, hentries, fun task i hmem => ?_⟩
    obtain ⟨⟨routing, hentry⟩, hnew, call, hcall, rfl, hctx⟩ := RunBatch.mem_launched hmem
    refine ⟨⟨call, hcall, hctx, hentries _ hentry⟩, fun d hd heq => ?_⟩
    have := hs d hd
    omega
  · split
    · exact ⟨_, List.getElem?_concat_length, hidle _ _⟩
    · exact ⟨_, List.getElem?_concat_length, hidle _ _⟩

lemma not_clearable_of_permit {permit : ExecutionPermit} (hdecision : permit.decision ≠ .allow)
    {task : RuntimeTask} (hpermit : task.permit = some permit) : ¬ Clearable cfg context task := by
  rintro ⟨routing, now, hgate⟩
  obtain ⟨permit', hpermit', hcleared⟩ := enforceCapPermit_eq_none_iff.mp hgate
  obtain rfl := Option.some.inj (hpermit.symm.trans hpermit')
  exact hdecision hcleared.allow

variable {plan tasks}

/-- Every move that hands out nothing else keeps the execution still. -/
lemma still_step {permit : ExecutionPermit} (hdecision : permit.decision ≠ .allow)
    (s : Resumed κ) (move : ResumedMove) (t : Resumed κ) (h : Still cfg context s)
    (helse : NothingElse cfg plan tasks context permit s move)
    (hstep : (resumedMachine cfg plan tasks context).step s move = some t) :
    Still cfg context t := by
  change resumedStep cfg plan tasks context s move = some t at hstep
  have hruntime : ∀ move', ((runtimeMove cfg move').bind fun moved =>
      (RunBatch.step cfg s.runtime moved).map fun runtime => { s with runtime := runtime }) =
        some t → Still cfg context t := by
    intro move' heq
    obtain ⟨moved, hmoved, hmap⟩ := Option.bind_eq_some_iff.mp heq
    obtain ⟨runtime, hrun, rfl⟩ := Option.map_eq_some_iff.mp hmap
    exact h.frame (frame_of_step hmoved hrun) rfl
  cases move with
  | next route =>
      simp only [resumedStep] at hstep
      split at hstep
      · cases hstep
      · split at hstep
        · obtain ⟨loop, -, rfl⟩ := Option.map_eq_some_iff.mp hstep
          exact ⟨h.bounded, h.own⟩
        · obtain rfl := Option.some.inj hstep
          have hframe : Frame cfg s.runtime
              (RunBatch.begin s.runtime context (handed plan tasks s.loop route)) :=
            frame_begin s.runtime context _
          have hentries : ∀ entry ∈ handed plan tasks s.loop route,
              ¬ Clearable cfg context entry.1 := by
            intro entry hentry
            rcases helse entry hentry with hpermit | hclear
            · exact not_clearable_of_permit hdecision hpermit
            · exact hclear
          refine ⟨hframe.bounded h.bounded, fun k hk => ?_⟩
          rcases List.mem_append.mp hk with hk | hk
          · obtain ⟨b, hb, hown⟩ := h.own k hk
            obtain ⟨b', hb', hgrown⟩ := hframe.batches k b hb
            exact ⟨b', hb', hown.grow h.bounded hframe hgrown⟩
          · rw [List.mem_singleton.mp hk]
            exact ownBatch_begin h.bounded hentries
  | take =>
      simp only [resumedStep] at hstep
      split at hstep
      · cases hstep
      · split at hstep
        · obtain ⟨loop, -, rfl⟩ := Option.map_eq_some_iff.mp hstep
          exact ⟨h.bounded, h.own⟩
        · obtain rfl := Option.some.inj hstep
          exact ⟨h.bounded, h.own⟩
        · cases hstep
  | engine move => exact hruntime (.engine move) hstep
  | batch context tasks => exact hruntime (.batch context tasks) hstep
  | advance k refused => exact hruntime (.advance k refused) hstep
  | gather k errors => exact hruntime (.gather k errors) hstep
  | abandon k => exact hruntime (.abandon k) hstep

lemma not_invoked_of_still {s : Resumed κ} (h : Still cfg context s) : ¬ Invoked s := by
  rintro ⟨d, hd, k, hk, b, hb, task, hmem⟩
  obtain ⟨b', hb', hown⟩ := h.own k hk
  obtain rfl := Option.some.inj (hb.symm.trans hb')
  exact (hown.calls task d.call hmem).2 d hd rfl

/-- The log of a runtime is bounded in every state it reaches. -/
lemma bounded_step (s : RunBatch.State κ) (move : RunBatch.Move) (t : RunBatch.State κ)
    (h : Bounded s) (hstep : (RunBatch.machine cfg).step s move = some t) : Bounded t := by
  change RunBatch.step cfg s move = some t at hstep
  -- the contexts of a move can be taken as those of the engine
  have hframe : ∀ (contexts : ℕ → RuntimeContext) (move' : ResumedMove),
      runtimeMove ⟨RunBatch.atContexts cfg contexts, cfg.workerId, cfg.confidenceReadable⟩ move' =
        some move → Bounded t :=
    fun contexts move' hmove => Frame.bounded (frame_of_step hmove hstep) h
  cases move with
  | engine contexts move => exact hframe contexts (.engine move) rfl
  | batch context tasks => exact hframe cfg.engine.contexts (.batch context tasks) rfl
  | advance k refused => exact hframe cfg.engine.contexts (.advance k refused) rfl
  | gather k errors => exact hframe cfg.engine.contexts (.gather k errors) rfl
  | abandon k => exact hframe cfg.engine.contexts (.abandon k) rfl
  | alter i task routing =>
      simp only [RunBatch.step] at hstep
      split at hstep
      · split at hstep
        · obtain rfl := Option.some.inj hstep
          intro d hd
          rw [RunBatch.State.setCalls, List.length_set]
          exact h d hd
        · cases hstep
      · cases hstep

lemma decision_of_resolveTask {issuing : Orchestrator.Issuing} {decision : ApprovalDecision}
    {reasons : List String} {source : String} {stamp : Stamp} {task task' : PlanTask}
    {permit : ExecutionPermit}
    (h : resolveTask issuing decision reasons source stamp task = .ok (task', permit)) :
    permit.decision = decision := by
  unfold resolveTask at h
  split at h
  · cases h
  · obtain ⟨resolved, hresolved, h⟩ := bind_eq_ok h
    have hdecision : resolved.decision = decision := by
      unfold ApprovalEngine.resolve at hresolved
      split_ifs at hresolved
      obtain rfl := Except.ok.inj hresolved
      rfl
    split at h
    · split at h
      · obtain ⟨-, rfl⟩ := Prod.mk.inj (Except.ok.inj h)
        exact hdecision
      · cases h
    · obtain ⟨-, rfl⟩ := Prod.mk.inj (Except.ok.inj h)
      exact hdecision

lemma decision_of_resolveFirst {issuing : Orchestrator.Issuing} {taskId : String}
    {decision : ApprovalDecision} {reasons : List String} {source : String} {stamp : Stamp}
    {planned : List PlanTask} {resolved : List PlanTask × ExecutionPermit}
    (h : resolveFirst issuing taskId decision reasons source stamp planned = .ok resolved) :
    resolved.2.decision = decision := by
  induction planned generalizing resolved with
  | nil => cases h
  | cons task rest ih =>
      unfold resolveFirst at h
      split at h
      · cases hresolve : resolveTask issuing decision reasons source stamp task with
        | error error =>
            rw [hresolve] at h
            cases h
        | ok first =>
            rw [hresolve] at h
            obtain rfl := Except.ok.inj h
            exact decision_of_resolveTask hresolve
      · cases hrest : resolveFirst issuing taskId decision reasons source stamp rest with
        | error error =>
            rw [hrest] at h
            cases h
        | ok later =>
            rw [hrest] at h
            have hlater : later.2.decision = decision := ih hrest
            rw [← Except.ok.inj h]
            exact hlater

lemma decision_of_resumePlan {issuing : Orchestrator.Issuing} {plan' : ExecutionPlan}
    {taskId : String} {decision : ApprovalDecision} {reasons : List String} {source : String}
    {stamp : Stamp} {permit : ExecutionPermit}
    (h : resumePlan issuing plan taskId decision reasons source stamp = .ok (plan', permit)) :
    permit.decision = decision := by
  obtain ⟨resolved, hresolved, h⟩ := bind_eq_ok h
  split at h
  · obtain ⟨-, rfl⟩ := Prod.mk.inj (Except.ok.inj h)
    exact decision_of_resolveFirst hresolved
  · cases h

end Pipeline

/-! ## Runs -/

/-- After an accepted denial the execution never ends as completed.  And in every run of its
resumed pipeline, with whatever the runtime does for others and whatever it did before, no
executor is invoked for the execution, where the loop hands out nothing but the denied task that
the gate could let through. -/
theorem denial_stops {κ ι : Type} (coordinator : Coordinator ι) (cfg : BatchConfig κ)
    {issuing : Orchestrator.Issuing} {plan plan' : ExecutionPlan} {taskId : String}
    {reasons : List String} {source : String} {stamp : Stamp} {permit : ExecutionPermit}
    (hdeny : resumePlan issuing plan taskId .deny reasons source stamp = .ok (plan', permit)) :
    (∀ (s t u : Session ι) (principalId approvalId decision : String) (moves : List Move),
      Accepts coordinator s principalId approvalId decision t →
      (Session.machine coordinator).run t moves = some u → u.record.state.status ≠ .completed) ∧
    ∀ (tasks : Dict String RuntimeTask) (context : ℕ) (resume : Option WorkflowState)
      (pauses : Dict String PendingPause) (fresh runtime : RunBatch.State κ)
      (before : List RunBatch.Move) (moves : List ResumedMove) (s : Resumed κ),
      fresh.engine.log = [] → (RunBatch.machine cfg).run fresh before = some runtime →
      (resumedMachine cfg plan' tasks context).Guarded
        (NothingElse cfg plan' tasks context permit)
        { loop := Workflow.start plan' resume pauses, runtime := runtime } moves →
      (resumedMachine cfg plan' tasks context).run
        { loop := Workflow.start plan' resume pauses, runtime := runtime } moves = some s →
      ¬ Invoked s := by
  constructor
  · intro s t u principalId approvalId decision moves haccepts hrun
    have hdenied := (Session.machine coordinator).run_invariant (denied_step coordinator)
      (denied_of_accepts coordinator haccepts) hrun
    exact hdenied.shut.status_ne
  · intro tasks context resume pauses fresh runtime before moves s hfresh hbefore hguard hrun
    have hbounded : Bounded runtime := by
      refine (RunBatch.machine cfg).run_invariant bounded_step ?_ hbefore
      intro d hd
      rw [hfresh] at hd
      cases hd
    have hdecision : permit.decision ≠ .allow := by
      rw [decision_of_resumePlan hdeny]
      decide
    have hstart : Still cfg context
        { loop := Workflow.start plan' resume pauses, runtime := runtime } :=
      ⟨hbounded, fun _ hk => by cases hk⟩
    exact not_invoked_of_still ((resumedMachine cfg plan' tasks context).guarded_invariant
      (still_step hdecision) hstart hguard hrun)

/-! ### A mail is denied, and a note is written -/

/-- What `resume_pipeline` has at hand. -/
def mailIssuing : Orchestrator.Issuing where
  platform := ⟨fun _ => "sha", fun _ => "mac", fun _ => some {}⟩
  cap := { classify := fun _ => .public }
  textOf := fun _ => ""
  principal := ⟨"u", none, none⟩
  preparedContext := .none
  memoryAccess := .none
  stamp := fun _ => ⟨"", 0⟩

/-- A permit for an action, with a decision. -/
def mailPermit (action tool : String) (decision : ApprovalDecision) : ExecutionPermit where
  permitId := action
  actionId := action
  subjectId := "u"
  actionType := "tool"
  target := some tool
  operationDigest := "sha"
  risk := .low
  constraints := {}
  policyReference := "cap"
  approvalSource := "cap_policy"
  issuedAt := 0
  expiresAt := 900
  decision := decision
  integrityDigest := "mac"

/-- A tool task of a plan. -/
def mailTask (id tool : String) (decision : ApprovalDecision) (dependencies : List String) :
    PlanTask where
  taskId := id
  kind := .executeViaRuntime
  executionActionType := "tool"
  dependencies := dependencies
  metadata := [("tool", .str tool)]
  permit := some (mailPermit id tool decision)

/-- A page is looked up; a mail, which must be approved, is sent; a note about the page is
written. -/
def mailPlan : ExecutionPlan where
  planId := "plan"
  tasks := [mailTask "look" "web" .allow [], mailTask "send" "mail" .askUser [],
    mailTask "note" "note" .allow ["look"]]

/-- The same without the note. -/
def lonePlan : ExecutionPlan where
  planId := "plan"
  tasks := [mailTask "look" "web" .allow [], mailTask "send" "mail" .askUser []]

/-- The workflow after the page was looked up and the mail has paused. -/
def pausedState : WorkflowState where
  workflowId := "plan"
  status := .paused
  currentStep := 2
  totalSteps := 3
  completedSteps := 1
  results := [{ taskId := "look", status := .completed }, { taskId := "send", status := .paused }]
  completedTaskIds := ["look"]

/-- A plan after the denial of the mail. -/
def afterDenial (plan : ExecutionPlan) : Except String (ExecutionPlan × ExecutionPermit) :=
  resumePlan mailIssuing plan "send" .deny [] "interface" ⟨"denied", 1⟩

/-- The runtime tasks of a plan. -/
def builtTasks (plan : ExecutionPlan) : Dict String RuntimeTask :=
  (Workflow.workflowTasks plan [] none).getD []

/-- The coordinator's session when the pipeline has paused at the mail. -/
def awaitingMail : Session Unit :=
  ((Session.machine storeless).run { record := newRecord, world := () }
    [.start, .enter, .finish (.returned
      { request := ""
        executionPlan := some mailPlan
        runtimeResult := some { taskId := "send", status := .paused }
        workflowState := some pausedState })]).getD { record := default, world := () }

/-- The resumed execution at its start. -/
def resumedMail (plan : ExecutionPlan) : Resumed Unit where
  loop := Workflow.start plan (some pausedState) []
  runtime := { engine := { world := () } }

/-- The plan without the note after the denial, and the permit. -/
def deniedLone : ExecutionPlan × ExecutionPermit :=
  (afterDenial lonePlan).toOption.getD (default, default)

lemma handed_deniedLone (entry : RuntimeTask × RoutingDecision)
    (h : entry ∈ handed deniedLone.1 (builtTasks deniedLone.1) (resumedMail deniedLone.1).loop
      fun _ => .error "") : entry.1.permit = some deniedLone.2 := by
  obtain rfl := List.mem_singleton.mp h
  rfl

/-- The denied task is handed out, and the gate is asked about it. -/
def deniedMoves : List ResumedMove :=
  [.next fun _ => .error "", .advance 0 fun _ => false, .engine (.turn 0 2)]

/-- Without the note nothing is executed after the denial. -/
theorem denial_stops_sample :
    ∃ (t : Session Unit) (s : Resumed Unit),
      Accepts storeless awaitingMail "local" "send" "deny" t ∧
      t.record.state.status ≠ .completed ∧
      (resumedMachine RunBatch.noteConfig deniedLone.1 (builtTasks deniedLone.1) 0).run
        (resumedMail deniedLone.1) deniedMoves = some s ∧
      s.started = [0] ∧ ¬ Invoked s := by
  have hdeny : afterDenial lonePlan = .ok (deniedLone.1, deniedLone.2) := rfl
  obtain ⟨hsession, hpipeline⟩ := denial_stops storeless RunBatch.noteConfig hdeny
  have haccepts : Accepts storeless awaitingMail "local" "send" "deny" _ := ⟨rfl, rfl, rfl⟩
  have hguard : (resumedMachine RunBatch.noteConfig deniedLone.1 (builtTasks deniedLone.1)
      0).Guarded (NothingElse RunBatch.noteConfig deniedLone.1 (builtTasks deniedLone.1) 0
        deniedLone.2) (resumedMail deniedLone.1) deniedMoves :=
    ⟨fun entry hentry => .inl (handed_deniedLone entry hentry), fun _ _ =>
      ⟨trivial, fun _ _ => ⟨trivial, fun _ _ => trivial⟩⟩⟩
  obtain ⟨s, hrun, hstarted⟩ : ∃ s, (resumedMachine RunBatch.noteConfig deniedLone.1
      (builtTasks deniedLone.1) 0).run (resumedMail deniedLone.1) deniedMoves = some s ∧
        s.started = [0] := by
    apply Option.map_eq_some_iff.mp
    rfl
  have hstill : ¬ Invoked s :=
    hpipeline (builtTasks deniedLone.1) 0 (some pausedState) [] { engine := { world := () } }
      { engine := { world := () } } [] _ s rfl rfl hguard hrun
  exact ⟨_, s, haccepts, hsession _ _ _ _ _ _ [] haccepts rfl, hrun, hstarted, hstill⟩

/-- The user denies the mail; the loop then hands out the note, and its executor runs. -/
theorem denial_executes :
    ∃ (t : Session Unit) (plan' : ExecutionPlan) (permit : ExecutionPermit) (s : Resumed Unit),
      Accepts storeless awaitingMail "local" "send" "deny" t ∧
      t.record.pipelineState.bind PipelineState.executionPlan = some mailPlan ∧
      afterDenial mailPlan = .ok (plan', permit) ∧
      (resumedMachine RunBatch.noteConfig plan' (builtTasks plan') 0).run (resumedMail plan')
        [.next fun _ => .error "", .engine (.turn 0 2), .engine (.turn 1 3)] = some s ∧
      Invoked s := by
  refine ⟨_, _, _, _, ⟨rfl, rfl, rfl⟩, rfl, rfl, rfl, ?_⟩
  exact ⟨_, List.mem_cons_self, 0, List.mem_cons_self, _, rfl, _,
    List.mem_cons_of_mem _ List.mem_cons_self⟩

end Denial

end Samaktha
