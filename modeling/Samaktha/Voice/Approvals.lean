import Samaktha.Voice.Session

/-!
# Pauses that come one at a time

While only one pause is between its first turn and its end, the pending fields are those of that
pause (`Asking`): its event is the one that waits, every text follows its prompt, and once its
event is set the result is the answer to it.  Between two pauses nothing is pending (`Idle`).
`answered_in_place` is the run theorem; without the condition the second of two pauses takes over
the fields of the first (`answered_elsewhere`).
-/

namespace Samaktha

namespace VoiceSession

variable {s s' : VoiceSession}

/-! ## Tasks -/

lemma tasks_setPhase (s : VoiceSession) (pause : ℕ) (phase : ApprovalPhase) (n : ℕ) :
    (s.setPhase pause phase).tasks[n]? = s.tasks[n]?.map fun task =>
      if pause = n then { task with phase := phase } else task :=
  List.getElem?_modify ..

lemma tasks_setPhase_self {pause : ℕ} {task : ApprovalTask} (h : s.tasks[pause]? = some task)
    (phase : ApprovalPhase) :
    (s.setPhase pause phase).tasks[pause]? = some { task with phase := phase } := by
  rw [tasks_setPhase, h, Option.map_some, if_pos rfl]

lemma tasks_setPhase_ne {pause n : ℕ} (hne : pause ≠ n) (phase : ApprovalPhase) :
    (s.setPhase pause phase).tasks[n]? = s.tasks[n]? := by
  rw [tasks_setPhase]
  simp [hne]

/-- Every task of one session is a task of the other, there or farther on. -/
def Onward (s s' : VoiceSession) : Prop :=
  ∀ (n : ℕ) (task : ApprovalTask), s.tasks[n]? = some task →
    ∃ task' : ApprovalTask, s'.tasks[n]? = some task' ∧ task'.taskId = task.taskId ∧
      (task.phase ≠ .created → task'.phase ≠ .created) ∧
        (task.phase.decided = true → task'.phase.decided = true)

lemma onward_setPhase {pause : ℕ} {task : ApprovalTask} (htask : s.tasks[pause]? = some task)
    (phase : ApprovalPhase) (hcreated : phase ≠ .created)
    (hdecided : task.phase.decided = true → phase.decided = true)
    (h : s'.tasks = (s.setPhase pause phase).tasks) : Onward s s' := by
  intro n other hother
  rw [h]
  by_cases heq : pause = n
  · subst heq
    obtain rfl := Option.some.inj (htask.symm.trans hother)
    exact ⟨_, tasks_setPhase_self htask phase, rfl, fun _ => hcreated, hdecided⟩
  · exact ⟨other, (tasks_setPhase_ne heq phase).trans hother, rfl, id, id⟩

/-! ## The invariant -/

/-- What holds whether or not a pause is pending. -/
structure Sound (s : VoiceSession) : Prop where
  named : ∀ task ∈ s.tasks, task.taskId ≠ ""
  begun : ∀ n ∈ s.events, ∃ task : ApprovalTask, s.tasks[n]? = some task ∧ task.phase ≠ .created
  resumed : ∀ r ∈ s.resumes,
    (∃ task : ApprovalTask, s.tasks[r.pause]? = some task ∧ task.phase.decided = true ∧
      task.taskId = r.taskId) ∧
    ∃ a ∈ s.answers, a.followed = r.pause ∧ a.applied = some r.pause ∧
      a.decision = r.approvalDecision
  applied : ∀ a ∈ s.answers, ∀ pause, a.applied = some pause → a.followed = pause
  once : (s.resumes.map VoiceResume.pause).Nodup

/-- Nothing is pending. -/
structure Idle (s : VoiceSession) : Prop where
  event : s.approvalEvent = none
  rest : ∀ task ∈ s.tasks, task.phase.live = false

/-- One pause is pending, and every field is its own. -/
structure Asking (s : VoiceSession) (n : ℕ) (task : ApprovalTask) : Prop where
  at_ : s.tasks[n]? = some task
  live : task.phase.live = true
  others : ∀ (m : ℕ) (other : ApprovalTask), s.tasks[m]? = some other →
    other.phase.live = true → m = n
  pause : s.pendingPause.isSome = true
  taskId : s.pendingTaskId = some task.taskId
  event : s.approvalEvent = some n
  waits : ∀ event, task.phase = .waiting event → event = n
  texts : ∀ heard ∈ s.texts, heard.asked = n
  answered : n ∈ s.events → ∃ a ∈ s.answers, a.followed = n ∧ a.applied = some n ∧
    (a.decision = "allow" ∨ a.decision = "deny") ∧
      (task.phase = .prompting ∨ task.phase = .waiting n → s.approvalResult = some a.decision)

/-- The invariant of a session whose pauses come one at a time. -/
structure Inv (s : VoiceSession) : Prop where
  sound : Sound s
  mode : Idle s ∨ ∃ n task, Asking s n task

lemma Sound.toAnswered (h : Sound s) : Answered s where
  resumed r hr := by
    obtain ⟨⟨task, htask, -, hid⟩, hanswer⟩ := h.resumed r hr
    exact ⟨⟨task, htask, hid⟩, hanswer⟩
  applied := h.applied
  once := h.once

lemma Sound.onward (h : Sound s) (honward : Onward s s')
    (hnamed : ∀ task ∈ s'.tasks, task.taskId ≠ "") (hevents : s'.events = s.events)
    (hanswers : s'.answers = s.answers) (hresumes : s'.resumes = s.resumes) : Sound s' where
  named := hnamed
  begun n hn := by
    rw [hevents] at hn
    obtain ⟨task, htask, hbegun⟩ := h.begun n hn
    obtain ⟨task', htask', -, hkeep, -⟩ := honward n task htask
    exact ⟨task', htask', hkeep hbegun⟩
  resumed r hr := by
    rw [hresumes] at hr
    rw [hanswers]
    obtain ⟨⟨task, htask, hdecided, hid⟩, hanswer⟩ := h.resumed r hr
    obtain ⟨task', htask', hid', -, hkeep⟩ := honward _ task htask
    exact ⟨⟨task', htask', hkeep hdecided, hid'.trans hid⟩, hanswer⟩
  applied := hanswers ▸ h.applied
  once := hresumes ▸ h.once

lemma Sound.setPhase (h : Sound s) {pause : ℕ} {task : ApprovalTask}
    (htask : s.tasks[pause]? = some task) (phase : ApprovalPhase) (hcreated : phase ≠ .created)
    (hdecided : task.phase.decided = true → phase.decided = true)
    (htasks : s'.tasks = (s.setPhase pause phase).tasks) (hevents : s'.events = s.events)
    (hanswers : s'.answers = s.answers) (hresumes : s'.resumes = s.resumes) : Sound s' := by
  refine h.onward (onward_setPhase htask phase hcreated hdecided htasks) ?_ hevents hanswers
    hresumes
  intro other hother
  rw [htasks] at hother
  obtain ⟨n, hn⟩ := List.mem_iff_getElem?.mp hother
  rw [tasks_setPhase] at hn
  obtain ⟨old, hold, rfl⟩ := Option.map_eq_some_iff.mp hn
  have hname := h.named old (List.mem_of_getElem? hold)
  split
  · exact hname
  · exact hname

lemma Inv.asking (h : Inv s) {n : ℕ} {task : ApprovalTask} (htask : s.tasks[n]? = some task)
    (hlive : task.phase.live = true) : Asking s n task := by
  rcases h.mode with hidle | ⟨m, other, hasking⟩
  · have hrest := hidle.rest task (List.mem_of_getElem? htask)
    rw [hlive] at hrest
    cases hrest
  · obtain rfl := hasking.others n task htask hlive
    obtain rfl := Option.some.inj (hasking.at_.symm.trans htask)
    exact hasking

lemma Asking.setPhase {n : ℕ} {task : ApprovalTask} (h : Asking s n task) (phase : ApprovalPhase)
    (hlive : phase.live = true) (hwaits : ∀ event, phase = .waiting event → event = n)
    (hresult : phase = .prompting ∨ phase = .waiting n →
      s'.approvalResult = s.approvalResult ∧ (task.phase = .prompting ∨ task.phase = .waiting n))
    (htasks : s'.tasks = (s.setPhase n phase).tasks) (hpause : s'.pendingPause = s.pendingPause)
    (hid : s'.pendingTaskId = s.pendingTaskId) (hevent : s'.approvalEvent = s.approvalEvent)
    (htexts : s'.texts = s.texts) (hevents : s'.events = s.events)
    (hanswers : s'.answers = s.answers) : Asking s' n { task with phase := phase } where
  at_ := by
    rw [htasks]
    exact tasks_setPhase_self h.at_ phase
  live := hlive
  others m other hother hlive := by
    rw [htasks] at hother
    by_cases heq : n = m
    · exact heq.symm
    · rw [tasks_setPhase_ne heq] at hother
      exact h.others m other hother hlive
  pause := hpause ▸ h.pause
  taskId := hid.trans h.taskId
  event := hevent.trans h.event
  waits := hwaits
  texts := htexts ▸ h.texts
  answered hset := by
    rw [hevents] at hset
    obtain ⟨a, ha, hfollowed, happlied, hdecision, hkept⟩ := h.answered hset
    refine ⟨a, hanswers ▸ ha, hfollowed, happlied, hdecision, fun hphase => ?_⟩
    obtain ⟨hsame, hbefore⟩ := hresult hphase
    rw [hsame]
    exact hkept hbefore

lemma Asking.finish {n : ℕ} {task : ApprovalTask} (h : Asking s n task) :
    Idle (s.clear.setPhase n .done) where
  event := rfl
  rest other hother := by
    obtain ⟨m, hm⟩ := List.mem_iff_getElem?.mp hother
    by_cases heq : n = m
    · subst heq
      rw [tasks_setPhase_self (s := s.clear) h.at_] at hm
      exact Option.some.inj hm ▸ rfl
    · rw [tasks_setPhase_ne heq] at hm
      by_contra hlive
      exact heq (h.others m other hm (Bool.not_eq_false _ ▸ hlive)).symm

/-! ## The moves -/

lemma handleApprovalText_cases (s : VoiceSession) (followed : ℕ) (text : String) :
    s.handleApprovalText followed text = s ∨
      ∃ decision, (decision = "allow" ∨ decision = "deny") ∧
        s.handleApprovalText followed text = s.settle followed decision := by
  have hyes : s.submitApproval followed "yes" = s.settle followed "allow" := by
    rw [submitApproval, if_pos (by decide)]
  have hno : s.submitApproval followed "no" = s.settle followed "deny" := by
    rw [submitApproval, if_neg (by decide), if_pos (by decide)]
  unfold handleApprovalText
  dsimp only
  split
  · exact .inl rfl
  · split
    · exact .inr ⟨"allow", .inl rfl, hyes⟩
    · split
      · exact .inr ⟨"deny", .inr rfl, hno⟩
      · exact .inl rfl

lemma inv_raise (h : Inv s) (raised : ApprovalTask) (hphase : raised.phase = .created)
    (hname : raised.taskId ≠ "") : Inv { s with tasks := s.tasks ++ [raised] } := by
  have hold : ∀ (n : ℕ) (task : ApprovalTask), s.tasks[n]? = some task →
      (s.tasks ++ [raised])[n]? = some task := by
    intro n task htask
    rw [List.getElem?_append_left (List.getElem?_eq_some_iff.mp htask).1]
    exact htask
  have hidle : raised.phase.live = false := by
    rw [hphase]
    rfl
  refine ⟨h.sound.onward (fun n task htask => ⟨task, hold n task htask, rfl, id, id⟩) ?_
    rfl rfl rfl, ?_⟩
  · intro task htask
    rcases List.mem_append.mp htask with hmem | hmem
    · exact h.sound.named task hmem
    · obtain rfl := List.mem_singleton.mp hmem
      exact hname
  · rcases h.mode with hrest | ⟨n, task, hasking⟩
    · refine .inl ⟨hrest.event, fun task htask => ?_⟩
      rcases List.mem_append.mp htask with hmem | hmem
      · exact hrest.rest task hmem
      · obtain rfl := List.mem_singleton.mp hmem
        exact hidle
    · refine .inr ⟨n, task, hold n task hasking.at_, hasking.live, ?_, hasking.pause,
        hasking.taskId, hasking.event, hasking.waits, hasking.texts, hasking.answered⟩
      intro m other hother hlive
      dsimp only at hother
      rw [List.getElem?_append] at hother
      split at hother
      · exact hasking.others m other hother hlive
      · obtain rfl := List.mem_singleton.mp (List.mem_of_getElem? hother)
        rw [hidle] at hlive
        cases hlive

lemma inv_pauseRequested (h : Inv s) (taskId : String) (pauseData : Option PauseData)
    (hstep : step s (.pauseRequested taskId pauseData) = some s') : Inv s' := by
  cases pauseData with
  | none =>
      cases hstep
      exact h
  | some data =>
      by_cases hname : taskId = ""
      · rw [step, if_pos hname] at hstep
        cases hstep
        exact h
      · rw [step, if_neg hname] at hstep
        cases hstep
        exact inv_raise h ⟨taskId, data, .created⟩ rfl hname

lemma inv_handleApproval (h : Inv s) {pause : ℕ} {task : ApprovalTask}
    (htask : s.tasks[pause]? = some task) (hphase : task.phase = .created)
    (hrest : ∀ other ∈ s.tasks, other.phase.live = false) (htexts : s.texts = []) :
    Inv (s.handleApproval pause task) := by
  have hnot : pause ∉ s.events := by
    intro hset
    obtain ⟨other, hother, hbegun⟩ := h.sound.begun pause hset
    obtain rfl := Option.some.inj (htask.symm.trans hother)
    exact hbegun hphase
  have hdecided : task.phase.decided = true → ApprovalPhase.prompting.decided = true := by
    rw [hphase]
    exact id
  refine ⟨h.sound.setPhase htask .prompting nofun hdecided rfl rfl rfl rfl,
    .inr ⟨pause, { task with phase := .prompting }, tasks_setPhase_self htask _, rfl, ?_, rfl, rfl,
      rfl, nofun, ?_, ?_⟩⟩
  · intro m other hother hlive
    by_contra hne
    have hsame : s.tasks[m]? = some other :=
      (tasks_setPhase_ne (Ne.symm hne) _).symm.trans hother
    rw [hrest other (List.mem_of_getElem? hsame)] at hlive
    cases hlive
  · intro heard hheard
    have hmem : heard ∈ s.texts := hheard
    rw [htexts] at hmem
    cases hmem
  · exact fun hset => absurd hset hnot

lemma inv_afterWait (h : Inv s) {n : ℕ} {task : ApprovalTask} (hasking : Asking s n task)
    (hphase : task.phase = .prompting ∨ task.phase = .waiting n) (hset : n ∈ s.events) :
    Inv (s.afterWait n) := by
  obtain ⟨a, ha, hfollowed, happlied, hdecision, hkept⟩ := hasking.answered hset
  have hresult : s.approvalResult = some a.decision := hkept hphase
  have hpermit : (if a.decision ∈ ["allow", "yes", "approve", "continue", "ok", "y"] then "allow"
      else "deny") = a.decision := by
    rcases hdecision with hallow | hdeny
    · rw [hallow]
      rfl
    · rw [hdeny]
      rfl
  have hundecided : task.phase.decided = false := by
    rcases hphase with hprompting | hwaiting
    · rw [hprompting]
      rfl
    · rw [hwaiting]
      rfl
  obtain ⟨pause, hpause⟩ := Option.isSome_iff_exists.mp hasking.pause
  have hname : task.taskId ≠ "" := h.sound.named task (List.mem_of_getElem? hasking.at_)
  have hafter : s.afterWait n = { s.setPhase n .resuming with
      resumes := s.resumes ++
        [⟨n, task.taskId, a.decision, ["Voice approval: " ++ a.decision]⟩] } := by
    have htimeout : a.decision ≠ "timeout" := by
      rcases hdecision with hallow | hdeny
      · rw [hallow]
        decide
      · rw [hdeny]
        decide
    rw [afterWait, hresult, Option.getD_some, if_neg htimeout, resumeAfterApproval,
      hasking.taskId, hpause]
    dsimp only
    rw [if_neg hname, hpermit]
  rw [hafter]
  have hmoved : Sound (s.setPhase n .resuming) :=
    h.sound.setPhase hasking.at_ .resuming nofun (fun _ => rfl) rfl rfl rfl rfl
  refine ⟨⟨hmoved.named, hmoved.begun, ?_, hmoved.applied, ?_⟩, .inr ⟨n, _,
    hasking.setPhase .resuming rfl nofun nofun rfl rfl rfl rfl rfl rfl rfl⟩⟩
  · intro r hr
    rcases List.mem_append.mp hr with hold | hnew
    · exact hmoved.resumed r hold
    · obtain rfl := List.mem_singleton.mp hnew
      exact ⟨⟨_, tasks_setPhase_self hasking.at_ _, rfl, rfl⟩, a, ha, hfollowed, happlied, rfl⟩
  · -- a pause that has been resumed is decided, and this one is not
    have hfirst : n ∉ s.resumes.map VoiceResume.pause := by
      intro hmem
      obtain ⟨r, hr, rfl⟩ := List.mem_map.mp hmem
      obtain ⟨⟨other, hother, hdecided, -⟩, -⟩ := h.sound.resumed r hr
      obtain rfl := Option.some.inj (hasking.at_.symm.trans hother)
      rw [hundecided] at hdecided
      cases hdecided
    have hsplit : (s.resumes ++ [(⟨n, task.taskId, a.decision,
        ["Voice approval: " ++ a.decision]⟩ : VoiceResume)]).map VoiceResume.pause =
        s.resumes.map VoiceResume.pause ++ [n] := List.map_append
    rw [hsplit]
    exact List.nodup_append.mpr ⟨h.sound.once, List.nodup_singleton n, fun x hx y hy hxy =>
      hfirst (List.mem_singleton.mp hy ▸ hxy ▸ hx)⟩

lemma inv_turn (h : Inv s) {pause : ℕ} (halone : Alone s (.turn pause))
    (hstep : step s (.turn pause) = some s') : Inv s' := by
  obtain ⟨task, htask, hturn⟩ := Option.bind_eq_some_iff.mp hstep
  rw [turn] at hturn
  cases hphase : task.phase with
  | created =>
      rw [hphase] at hturn
      cases hturn
      obtain ⟨hrest, htexts⟩ := halone (by rw [htask, Option.map_some, hphase])
      exact inv_handleApproval h htask hphase hrest htexts
  | prompting =>
      have hasking := h.asking htask (by rw [hphase]; rfl)
      rw [hphase] at hturn
      cases hturn
      rw [awaitApproval, hasking.event]
      dsimp only
      split
      · rename_i hset
        exact inv_afterWait h hasking (.inl hphase) hset
      · refine ⟨h.sound.setPhase htask (.waiting pause) nofun ?_ rfl rfl rfl rfl,
          .inr ⟨pause, _, hasking.setPhase (.waiting pause) rfl ?_
            (fun _ => ⟨rfl, .inl hphase⟩) rfl rfl rfl rfl rfl rfl rfl⟩⟩
        · rw [hphase]
          exact id
        · exact fun event hevent => (ApprovalPhase.waiting.inj hevent).symm
  | waiting event =>
      have hasking := h.asking htask (by rw [hphase]; rfl)
      obtain rfl := hasking.waits event hphase
      rw [hphase] at hturn
      dsimp only at hturn
      split at hturn
      · rename_i hset
        cases hturn
        exact inv_afterWait h hasking (.inr hphase) hset
      · cases hturn
  | closing | resuming =>
      have hasking := h.asking htask (by rw [hphase]; rfl)
      rw [hphase] at hturn
      cases hturn
      exact ⟨h.sound.setPhase htask .done nofun (fun _ => rfl) rfl rfl rfl rfl,
        .inl hasking.finish⟩
  | done =>
      rw [hphase] at hturn
      cases hturn

lemma inv_timeout (h : Inv s) {pause : ℕ} (hstep : step s (.timeout pause) = some s') :
    Inv s' := by
  rw [step] at hstep
  split at hstep
  · rename_i taskId data event htask
    have hasking := h.asking htask rfl
    cases hstep
    exact ⟨h.sound.setPhase htask .closing nofun id rfl rfl rfl rfl,
      .inr ⟨pause, _, hasking.setPhase .closing rfl nofun nofun rfl rfl rfl rfl rfl rfl rfl⟩⟩
  · cases hstep

lemma inv_transcribed (h : Inv s) {text : String} (hstep : step s (.transcribed text) = some s') :
    Inv s' := by
  rcases h.mode with hidle | ⟨n, task, hasking⟩
  · rw [step, hidle.event] at hstep
    cases hstep
    exact h
  · rw [step, hasking.event] at hstep
    dsimp only at hstep
    split at hstep
    · cases hstep
      refine ⟨⟨h.sound.named, h.sound.begun, h.sound.resumed, h.sound.applied, h.sound.once⟩,
        .inr ⟨n, task, hasking.at_, hasking.live, hasking.others, hasking.pause, hasking.taskId,
          rfl, hasking.waits, ?_, hasking.answered⟩⟩
      intro heard hheard
      rcases List.mem_append.mp hheard with hold | hnew
      · exact hasking.texts heard hold
      · obtain rfl := List.mem_singleton.mp hnew
        rfl
    · cases hstep
      exact h

lemma inv_settle (h : Inv s) {followed : ℕ} {decision : String}
    (hdecision : decision = "allow" ∨ decision = "deny")
    (hfollowed : ∀ n, s.approvalEvent = some n → followed = n) :
    Inv (s.settle followed decision) := by
  refine ⟨⟨h.sound.named, ?_, ?_, ?_, h.sound.once⟩, ?_⟩
  · intro n hn
    rcases List.mem_append.mp hn with hnew | hold
    · have hevent : s.approvalEvent = some n := Option.mem_toList.mp hnew
      rcases h.mode with hidle | ⟨m, task, hasking⟩
      · rw [hidle.event] at hevent
        cases hevent
      · obtain rfl := Option.some.inj (hasking.event.symm.trans hevent)
        refine ⟨task, hasking.at_, fun hcreated => ?_⟩
        have hlive := hasking.live
        rw [hcreated] at hlive
        cases hlive
    · exact h.sound.begun n hold
  · intro r hr
    obtain ⟨htask, a, ha, hanswer⟩ := h.sound.resumed r hr
    exact ⟨htask, a, List.mem_append_left _ ha, hanswer⟩
  · intro a ha pause happlied
    rcases List.mem_append.mp ha with hold | hnew
    · exact h.sound.applied a hold pause happlied
    · obtain rfl := List.mem_singleton.mp hnew
      exact hfollowed pause happlied
  · rcases h.mode with hidle | ⟨n, task, hasking⟩
    · exact .inl ⟨hidle.event, hidle.rest⟩
    · refine .inr ⟨n, task, hasking.at_, hasking.live, hasking.others, hasking.pause,
        hasking.taskId, hasking.event, hasking.waits, hasking.texts, fun _ => ?_⟩
      exact ⟨⟨followed, s.approvalEvent, decision⟩,
        List.mem_append_right _ (List.mem_singleton_self _), hfollowed n hasking.event,
        hasking.event, hdecision, fun _ => rfl⟩

lemma inv_answer (h : Inv s) {index : ℕ} (hstep : step s (.answer index) = some s') : Inv s' := by
  rw [step] at hstep
  split at hstep
  · cases hstep
  · rename_i heard hheard
    obtain rfl := Option.some.inj hstep
    have hmem : heard ∈ s.texts := List.mem_of_getElem? hheard
    have herased : Inv { s with texts := s.texts.eraseIdx index } := by
      refine ⟨⟨h.sound.named, h.sound.begun, h.sound.resumed, h.sound.applied, h.sound.once⟩, ?_⟩
      rcases h.mode with hidle | ⟨n, task, hasking⟩
      · exact .inl ⟨hidle.event, hidle.rest⟩
      · exact .inr ⟨n, task, hasking.at_, hasking.live, hasking.others, hasking.pause,
          hasking.taskId, hasking.event, hasking.waits,
          fun other hother => hasking.texts other (List.mem_of_mem_eraseIdx hother),
          hasking.answered⟩
    rcases handleApprovalText_cases { s with texts := s.texts.eraseIdx index } heard.asked
      heard.text with hnothing | ⟨decision, hdecision, hsettled⟩
    · rw [hnothing]
      exact herased
    · rw [hsettled]
      refine inv_settle herased hdecision fun n hevent => ?_
      rcases h.mode with hidle | ⟨m, task, hasking⟩
      · cases hidle.event.symm.trans hevent
      · obtain rfl := Option.some.inj (hasking.event.symm.trans hevent)
        exact hasking.texts heard hmem

/-- Every move keeps the invariant, if a pause begins only when it is alone. -/
theorem inv_step (s : VoiceSession) (move : Move) (s' : VoiceSession) (h : Inv s)
    (halone : Alone s move) (hstep : machine.step s move = some s') : Inv s' := by
  cases move with
  | pauseRequested taskId pauseData => exact inv_pauseRequested h taskId pauseData hstep
  | turn pause => exact inv_turn h halone hstep
  | timeout pause => exact inv_timeout h hstep
  | transcribed text => exact inv_transcribed h hstep
  | answer index => exact inv_answer h hstep

lemma about_pending (h : Inv s) {move : Move} (halone : Alone s move)
    (hstep : machine.step s move = some s') {pause pending : ℕ} (habout : move.about s = some pause)
    (hpending : s.approvalEvent = some pending) : pause = pending := by
  obtain ⟨n, task, hasking⟩ : ∃ n task, Asking s n task := by
    refine h.mode.resolve_left fun hidle => ?_
    cases hidle.event.symm.trans hpending
  obtain rfl := Option.some.inj (hasking.event.symm.trans hpending)
  cases move with
  | pauseRequested taskId pauseData => cases habout
  | transcribed text => cases habout
  | answer index =>
      obtain ⟨heard, hheard, rfl⟩ := Option.map_eq_some_iff.mp habout
      exact hasking.texts heard (List.mem_of_getElem? hheard)
  | timeout pause =>
      obtain rfl := Option.some.inj habout
      have hsome : step s (.timeout pause) = some s' := hstep
      rw [step] at hsome
      split at hsome
      · rename_i taskId data event htask
        exact hasking.others pause _ htask rfl
      · cases hsome
  | turn pause =>
      obtain rfl := Option.some.inj habout
      obtain ⟨other, hother, hturn⟩ := Option.bind_eq_some_iff.mp hstep
      refine hasking.others pause other hother ?_
      cases hphase : other.phase with
      | created =>
          obtain ⟨hrest, -⟩ := halone (by rw [hother, Option.map_some, hphase])
          have hlive := hasking.live
          rw [hrest task (List.mem_of_getElem? hasking.at_)] at hlive
          cases hlive
      | done =>
          rw [turn, hphase] at hturn
          cases hturn
      | prompting | waiting _ | closing | resuming => rfl

/-- In every run whose pauses begin alone, each resume is for the task whose prompt its answer
followed, no answer reaches another pause, no pause is resumed twice, and nothing that is done
about one pause touches another that is pending. -/
theorem answered_in_place (moves : List Move) (hguarded : machine.Guarded Alone {} moves) :
    machine.Guarded (fun s move => ∀ s', machine.step s move = some s' → Undisturbed s move s')
      {} moves ∧
      ∀ s', machine.run {} moves = some s' → Answered s' := by
  have hstart : Inv {} :=
    ⟨⟨nofun, nofun, nofun, nofun, List.nodup_nil⟩, .inl ⟨rfl, nofun⟩⟩
  refine ⟨machine.guarded_of_invariant inv_step (fun s move hinv halone s' hstep => ?_) hstart
    hguarded, fun s' hrun => ?_⟩
  · intro pause pending habout hpending hne
    exact absurd (about_pending hinv halone hstep habout hpending) hne
  · exact (machine.guarded_invariant inv_step hstart hguarded hrun).sound.toAnswered

/-- A pause that is answered and resumed, and a second one that times out. -/
theorem answered_in_place_sample :
    let moves : List Move := [
      .pauseRequested "a" (some ⟨some "Delete the file?", none⟩), .turn 0, .turn 0,
      .pauseRequested "b" (some ⟨none, none⟩), .transcribed "Yes please", .answer 0, .turn 0,
      .turn 0, .turn 1, .turn 1, .timeout 1, .turn 1]
    (machine.run {} moves).map (fun s => s.resumes.map VoiceResume.taskId) = some ["a"] ∧
      (machine.Guarded
        (fun s move => ∀ s', machine.step s move = some s' → Undisturbed s move s') {} moves ∧
        ∀ s', machine.run {} moves = some s' → Answered s') :=
  ⟨by decide, answered_in_place _ (by decide)⟩

/-- A second pause arrives while the first is being spoken, and the user approves the second: the
task of the first resumes the second, and so does its own.  Where the first times out instead, it
clears the second. -/
theorem answered_elsewhere :
    (¬ ∀ (moves : List Move) (s' : VoiceSession), machine.run {} moves = some s' → Answered s') ∧
      ¬ ∀ moves : List Move, machine.Guarded
        (fun s move => ∀ s', machine.step s move = some s' → Undisturbed s move s') {} moves := by
  constructor
  · intro h
    let moves : List Move := [
      .pauseRequested "a" (some ⟨none, none⟩), .turn 0, .pauseRequested "b" (some ⟨none, none⟩),
      .turn 1, .turn 0, .turn 1, .transcribed "yes", .answer 0, .turn 0, .turn 1]
    have hran : (machine.run {} moves).map (fun s => (s.resumes.map fun r => (r.pause, r.taskId),
        s.tasks.map ApprovalTask.taskId)) = some ([(0, "b"), (1, "b")], ["a", "b"]) := by decide
    obtain ⟨s', hrun, hfacts⟩ := Option.map_eq_some_iff.mp hran
    obtain ⟨hresumes, htasks⟩ := Prod.mk.inj hfacts
    have hfirst : ((0, "b") : ℕ × String) ∈ s'.resumes.map fun r => (r.pause, r.taskId) := by
      rw [hresumes]
      exact List.mem_cons_self
    obtain ⟨r, hr, hpair⟩ := List.mem_map.mp hfirst
    obtain ⟨hpause, hid⟩ := Prod.mk.inj hpair
    obtain ⟨⟨task, htask, hsame⟩, -⟩ := (h moves s' hrun).resumed r hr
    have hown : (s'.tasks.map ApprovalTask.taskId)[0]? = some task.taskId := by
      rw [List.getElem?_map, ← hpause, htask]
      rfl
    rw [htasks, hsame, hid] at hown
    exact absurd hown (by decide)
  · intro h
    let before : List Move := [
      .pauseRequested "a" (some ⟨none, none⟩), .turn 0, .turn 0,
      .pauseRequested "b" (some ⟨none, none⟩), .turn 1, .turn 1, .timeout 0]
    have hpending : (machine.run {} before).map (fun s => s.approvalEvent) = some (some 1) := by
      decide
    have hcleared : ((machine.run {} before).bind fun s => machine.step s (.turn 0)).map
        (fun s => s.approvalEvent) = some none := by decide
    obtain ⟨s, hrun, hevent⟩ := Option.map_eq_some_iff.mp hpending
    obtain ⟨s', hstep, hnone⟩ := Option.map_eq_some_iff.mp hcleared
    rw [hrun, Option.bind_some] at hstep
    have hlast := (machine.guarded_append.mp (h (before ++ [.turn 0]))).2 s hrun
    obtain ⟨-, -, hkept, -⟩ := hlast.1 s' hstep 0 1 rfl hevent (by decide)
    rw [hnone, hevent] at hkept
    cases hkept

end VoiceSession

end Samaktha
