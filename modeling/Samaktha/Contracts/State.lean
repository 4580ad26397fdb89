import Samaktha.Foundation.Json

/-!
# The public lifecycle of an execution

`ExecutionState` and its one mutator, `transition`, with the texts of the two errors it
raises.  `Permits s t` is the relation the transition table spells out; a terminal status has
no row in the table, which is `publicTransitions_of_terminal`.

Timestamps and the per-task records `current_tasks` and `blocked_tasks` are left out: nothing
that is modelled reads them.
-/

namespace Samaktha

inductive ExecutionStatus where
  | created
  | planning
  | awaitingApproval
  | approved
  | running
  | paused
  | recovering
  | completed
  | failed
  | denied
  | cancelled
  | timedOut
  deriving Repr, DecidableEq, Inhabited

namespace ExecutionStatus

/-- The text of a status. -/
def value : ExecutionStatus → String
  | created => "created"
  | planning => "planning"
  | awaitingApproval => "awaiting_approval"
  | approved => "approved"
  | running => "running"
  | paused => "paused"
  | recovering => "recovering"
  | completed => "completed"
  | failed => "failed"
  | denied => "denied"
  | cancelled => "cancelled"
  | timedOut => "timed_out"

/-- Membership in `TERMINAL_EXECUTION_STATUSES`. -/
def terminal : ExecutionStatus → Bool
  | completed | failed | denied | cancelled | timedOut => true
  | _ => false

/-- The row of a status in `_PUBLIC_TRANSITIONS`; a status without a row has the empty one. -/
def publicTransitions : ExecutionStatus → List ExecutionStatus
  | created => [planning, recovering, failed, cancelled, timedOut]
  | planning =>
      [awaitingApproval, running, completed, failed, denied, cancelled, timedOut, recovering]
  | awaitingApproval => [approved, denied, cancelled, timedOut, recovering]
  | approved => [running, awaitingApproval, completed, failed, cancelled, timedOut]
  | running => [awaitingApproval, completed, failed, cancelled, timedOut, recovering]
  | recovering => [planning, running, awaitingApproval, completed, failed, cancelled, timedOut]
  | _ => []

lemma publicTransitions_of_terminal {s : ExecutionStatus} (h : s.terminal = true) :
    s.publicTransitions = [] := by
  cases s <;> first | rfl | exact absurd h (by decide)

end ExecutionStatus

/-- The public record of one execution. -/
structure ExecutionState where
  executionId : String
  status : ExecutionStatus := .created
  principalId : Option String := none
  sessionId : Option String := none
  request : Option String := none
  pendingApprovalId : Option String := none
  pendingTaskId : Option String := none
  resultAvailable : Bool := false
  error : Option String := none
  completedTasks : List String := []
  failedTasks : List String := []
  metadata : Dict String Json := []
  deriving Repr, Inhabited

namespace ExecutionState

/-- Whether the execution has ended. -/
def terminal (state : ExecutionState) : Bool := state.status.terminal

/-- `transition`: one validated lifecycle step, or the text of the `ValueError`. -/
def transition (state : ExecutionState) (status : ExecutionStatus)
    (error : Option String := none) : Except String ExecutionState :=
  if status = state.status then .ok state
  else if state.terminal then
    .error ("Terminal execution cannot transition from " ++ state.status.value ++ " to "
      ++ status.value ++ ".")
  else if status ∈ state.status.publicTransitions then
    .ok { state with status := status, error := error <|> state.error }
  else
    .error ("Invalid execution transition: " ++ state.status.value ++ " -> " ++ status.value
      ++ ".")

lemma transition_eq_ok {state state' : ExecutionState} {status : ExecutionStatus}
    {error : Option String} (h : state.transition status error = .ok state') :
    (status = state.status ∧ state' = state) ∨
      (status ∈ state.status.publicTransitions ∧
        state' = { state with status := status, error := error <|> state.error }) := by
  unfold transition at h
  split at h
  · rename_i hsame
    exact .inl ⟨hsame, (Except.ok.inj h).symm⟩
  · split at h
    · cases h
    · split at h
      · rename_i hmem
        exact .inr ⟨hmem, (Except.ok.inj h).symm⟩
      · cases h

lemma transition_of_mem {state : ExecutionState} {status : ExecutionStatus}
    (hmem : status ∈ state.status.publicTransitions) (hne : status ≠ state.status)
    (error : Option String) :
    state.transition status error =
      .ok { state with status := status, error := error <|> state.error } := by
  have hterm : state.terminal = false := by
    by_contra hcon
    have hrow := ExecutionStatus.publicTransitions_of_terminal (s := state.status)
      (by simpa [terminal] using hcon)
    rw [hrow] at hmem
    exact absurd hmem (List.not_mem_nil)
  rw [transition, if_neg hne, hterm, if_neg (by simp), if_pos hmem]

lemma transition_of_terminal {state : ExecutionState} (h : state.terminal = true)
    {status : ExecutionStatus} (hne : status ≠ state.status) (error : Option String) :
    state.transition status error =
      .error ("Terminal execution cannot transition from " ++ state.status.value ++ " to "
        ++ status.value ++ ".") := by
  rw [transition, if_neg hne, if_pos h]

lemma transition_of_not_mem {state : ExecutionState} {status : ExecutionStatus}
    (hmem : status ∉ state.status.publicTransitions) (hne : status ≠ state.status)
    (error : Option String) : ∃ message, state.transition status error = .error message := by
  by_cases hterm : state.terminal = true
  · exact ⟨_, transition_of_terminal hterm hne error⟩
  · refine ⟨"Invalid execution transition: " ++ state.status.value ++ " -> " ++ status.value
      ++ ".", ?_⟩
    rw [transition, if_neg hne, if_neg hterm, if_neg hmem]

end ExecutionState

end Samaktha
