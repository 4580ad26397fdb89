import Samaktha.Contracts.Planning
import Samaktha.Foundation.Machine
import Samaktha.Foundation.Text

/-!
# Approvals by voice

`VoiceSession` and its one set of pending fields.  Every `PAUSE_REQUESTED` event starts a task of
`_handle_approval`; the tasks, the answers that are transcribed and the timeouts take turns at
their awaits, and all of them write the same four fields.

An `asyncio.Event` is named by the pause whose task has created it, and a pause by the position of
its task.  What the user has said follows the last prompt that is still pending, so a transcribed
text carries the event of that moment.  `answers` and `resumes` record what the session has done
with the texts, and its calls of `runtime.resume`; no code reads them.
-/

namespace Samaktha

/-- The `pause` of an event, a dictionary that is not empty; `metadata` is what it has under that
key, if that is a dictionary. -/
structure PauseData where
  reason : Option String
  metadata : Option (Dict String Json) := none
  deriving Repr, Inhabited

/-- Where a task of `_handle_approval` stands. -/
inductive ApprovalPhase where
  /-- It has not had its first turn. -/
  | created
  /-- It speaks the request. -/
  | prompting
  /-- It waits for an event. -/
  | waiting (event : ℕ)
  /-- It speaks that the approval timed out. -/
  | closing
  /-- It waits for `runtime.resume`. -/
  | resuming
  | done
  deriving Repr, DecidableEq, Inhabited

namespace ApprovalPhase

/-- Between the first turn of the task and its end. -/
def live : ApprovalPhase → Bool
  | created | done => false
  | prompting | waiting _ | closing | resuming => true

/-- Behind the call of `runtime.resume`, if there is one. -/
def decided : ApprovalPhase → Bool
  | resuming | done => true
  | created | prompting | waiting _ | closing => false

end ApprovalPhase

structure ApprovalTask where
  taskId : String
  pauseData : PauseData
  phase : ApprovalPhase := .created
  deriving Repr, Inhabited

/-- A transcribed text whose task of `_handle_approval_text` has not run. -/
structure Transcript where
  text : String
  /-- The pause whose prompt it followed. -/
  asked : ℕ
  deriving Repr, DecidableEq, Inhabited

/-- A decision that was submitted. -/
structure VoiceAnswer where
  /-- The pause whose prompt the text followed. -/
  followed : ℕ
  /-- The pause whose event it has set. -/
  applied : Option ℕ
  decision : String
  deriving Repr, DecidableEq, Inhabited

/-- A call of `runtime.resume`. -/
structure VoiceResume where
  /-- The pause whose task has made the call. -/
  pause : ℕ
  taskId : String
  approvalDecision : String
  approvalReasons : List String
  deriving Repr, DecidableEq, Inhabited

/-- The approval state of a session, and what is under way. -/
structure VoiceSession where
  pendingPause : Option ExecutionPause := none
  pendingTaskId : Option String := none
  approvalEvent : Option ℕ := none
  approvalResult : Option String := none
  /-- The events that are set. -/
  events : List ℕ := []
  tasks : List ApprovalTask := []
  texts : List Transcript := []
  answers : List VoiceAnswer := []
  resumes : List VoiceResume := []
  deriving Repr, Inhabited

namespace VoiceSession

def approvalAccept : List String := ["yes", "approve", "continue", "ok", "y", "allow"]

def approvalReject : List String := ["no", "deny", "cancel", "n"]

def hasPendingApproval (s : VoiceSession) : Bool :=
  match s.approvalEvent with
  | some event => s.pendingPause.isSome && !s.events.contains event
  | none => false

/-- The four fields as they are when nothing is pending. -/
def clear (s : VoiceSession) : VoiceSession :=
  { s with pendingPause := none, pendingTaskId := none, approvalEvent := none,
           approvalResult := none }

/-- The task of a pause goes on to a phase. -/
def setPhase (s : VoiceSession) (pause : ℕ) (phase : ApprovalPhase) : VoiceSession :=
  { s with tasks := s.tasks.modify pause fun task => { task with phase := phase } }

/-- `_handle_approval` up to the end of `_speak_approval_request`. -/
def handleApproval (s : VoiceSession) (pause : ℕ) (task : ApprovalTask) : VoiceSession :=
  let reason := (task.pauseData.reason.filter (· ≠ "")).getD "This action requires approval"
  { s.setPhase pause .prompting with
    pendingPause := some ⟨reason, task.pauseData.metadata.getD []⟩
    pendingTaskId := some task.taskId
    approvalEvent := some pause
    approvalResult := none }

/-- `resume_after_approval` up to its await. -/
def resumeAfterApproval (s : VoiceSession) (pause : ℕ) (decision : String) : VoiceSession :=
  match s.pendingTaskId, s.pendingPause with
  | some taskId, some _ =>
      if taskId = "" then s.setPhase pause .done
      else
        let permitDecision :=
          if decision ∈ ["allow", "yes", "approve", "continue", "ok", "y"] then "allow" else "deny"
        { s.setPhase pause .resuming with
          resumes := s.resumes ++
            [⟨pause, taskId, permitDecision, ["Voice approval: " ++ decision]⟩] }
  | _, _ => s.setPhase pause .done

/-- `_handle_approval` behind the wait, where it has not timed out. -/
def afterWait (s : VoiceSession) (pause : ℕ) : VoiceSession :=
  let decision := s.approvalResult.getD "deny"
  if decision = "timeout" then s.clear.setPhase pause .done
  else s.resumeAfterApproval pause decision

/-- `handle_approval_pause` behind the request: it waits for the event that is there by now. -/
def awaitApproval (s : VoiceSession) (pause : ℕ) : VoiceSession :=
  match s.approvalEvent with
  | none => s.setPhase pause .done
  | some event => if event ∈ s.events then s.afterWait pause else s.setPhase pause (.waiting event)

/-- The next turn of a task of `_handle_approval`. -/
def turn (s : VoiceSession) (pause : ℕ) (task : ApprovalTask) : Option VoiceSession :=
  match task.phase with
  | .created => some (s.handleApproval pause task)
  | .prompting => some (s.awaitApproval pause)
  | .waiting event => if event ∈ s.events then some (s.afterWait pause) else none
  | .closing | .resuming => some (s.clear.setPhase pause .done)
  | .done => none

/-- A decision that `submit_approval` understands. -/
def settle (s : VoiceSession) (followed : ℕ) (result : String) : VoiceSession :=
  { s with
    approvalResult := some result
    events := s.approvalEvent.toList ++ s.events
    answers := s.answers ++ [⟨followed, s.approvalEvent, result⟩] }

def submitApproval (s : VoiceSession) (followed : ℕ) (decision : String) : VoiceSession :=
  let decision := Text.lower (Text.strip decision)
  if decision ∈ ["yes", "approve", "continue", "ok", "y"] then s.settle followed "allow"
  else if decision ∈ ["no", "deny", "cancel", "n"] then s.settle followed "deny"
  else { s with approvalResult := some "ambiguous" }

def handleApprovalText (s : VoiceSession) (followed : ℕ) (text : String) : VoiceSession :=
  let normalized := Text.lower (Text.strip text)
  match Text.words normalized with
  | [] => s
  | word :: _ =>
      if normalized ∈ approvalAccept ∨ word ∈ approvalAccept then s.submitApproval followed "yes"
      else if normalized ∈ approvalReject ∨ word ∈ approvalReject then
        s.submitApproval followed "no"
      else s

/-- What happens next in a session. -/
inductive Move where
  /-- The runtime emits `PAUSE_REQUESTED`. -/
  | pauseRequested (taskId : String) (pauseData : Option PauseData)
  /-- A task of `_handle_approval` has its next turn. -/
  | turn (pause : ℕ)
  /-- The wait of such a task times out. -/
  | timeout (pause : ℕ)
  /-- `voice_event_callback` is called with a transcribed text. -/
  | transcribed (text : String)
  /-- A task of `_handle_approval_text` runs. -/
  | answer (index : ℕ)
  deriving Repr, Inhabited

def step (s : VoiceSession) : Move → Option VoiceSession
  | .pauseRequested taskId pauseData =>
      match pauseData with
      | none => some s
      | some data =>
          if taskId = "" then some s
          else some { s with tasks := s.tasks ++ [⟨taskId, data, .created⟩] }
  | .turn pause => s.tasks[pause]?.bind (s.turn pause)
  | .timeout pause =>
      match s.tasks[pause]? with
      | some ⟨_, _, .waiting _⟩ =>
          some { s.setPhase pause .closing with approvalResult := some "timeout" }
      | _ => none
  | .transcribed text =>
      match s.approvalEvent with
      | some event =>
          if s.hasPendingApproval ∧ text ≠ "" then
            some { s with texts := s.texts ++ [⟨text, event⟩] }
          else some s
      | none => some s
  | .answer index =>
      match s.texts[index]? with
      | none => none
      | some heard =>
          some (handleApprovalText { s with texts := s.texts.eraseIdx index } heard.asked
            heard.text)

def machine : Machine VoiceSession Move := ⟨step⟩

/-! ## Approvals that answer their pause -/

/-- Every resume is for the task of its own pause and follows an answer to its prompt, an answer
is applied to no other pause, and no pause is resumed twice. -/
structure Answered (s : VoiceSession) : Prop where
  resumed : ∀ r ∈ s.resumes, (∃ task, s.tasks[r.pause]? = some task ∧ task.taskId = r.taskId) ∧
    ∃ a ∈ s.answers, a.followed = r.pause ∧ a.applied = some r.pause ∧
      a.decision = r.approvalDecision
  applied : ∀ a ∈ s.answers, ∀ pause, a.applied = some pause → a.followed = pause
  once : (s.resumes.map VoiceResume.pause).Nodup

/-- The pause that a move finishes, answers or times out. -/
def Move.about (s : VoiceSession) : Move → Option ℕ
  | .turn pause | .timeout pause => some pause
  | .answer index => s.texts[index]?.map Transcript.asked
  | .pauseRequested _ _ | .transcribed _ => none

/-- A move about another pause neither clears nor resolves the pause that is pending. -/
def Undisturbed (s : VoiceSession) (move : Move) (s' : VoiceSession) : Prop :=
  ∀ pause pending, move.about s = some pause → s.approvalEvent = some pending → pause ≠ pending →
    s'.pendingPause = s.pendingPause ∧ s'.pendingTaskId = s.pendingTaskId ∧
      s'.approvalEvent = s.approvalEvent ∧ s'.approvalResult = s.approvalResult ∧
      (pending ∈ s'.events ↔ pending ∈ s.events)

/-- A pause has its first turn only when no other pause is between its first turn and its end,
and no text waits to be handled. -/
def Alone (s : VoiceSession) : Move → Prop
  | .turn pause => (s.tasks[pause]?.map ApprovalTask.phase) = some .created →
      (∀ task ∈ s.tasks, task.phase.live = false) ∧ s.texts = []
  | _ => True

instance (s : VoiceSession) : (move : Move) → Decidable (Alone s move)
  | .turn _ => inferInstanceAs (Decidable (_ → _))
  | .pauseRequested _ _ | .timeout _ | .transcribed _ | .answer _ => isTrue trivial

end VoiceSession

end Samaktha
