import Samaktha.Runtime.GatePaths

/-!
# What a batch reports

A batch passes on what its calls return, and a call returns a completed result only where its
last attempt passed the gate.  But the results are filed by the task id they carry, not by the
task they were returned for: a completed result with a foreign id, from an executor or from the
recovered results of the context, stands for a task that the gate has blocked
(`gate_on_every_path_not`).  `OwnResults` rules this out, and two tasks of one id in a batch;
under it `gate_on_every_path` holds in every run.
-/

namespace Samaktha

namespace RunBatch

open Engine (Phase Call Moved)

variable {κ : Type} {cfg : BatchConfig κ}

/-- A completed result stands for the task of the call that returned it: `Vouched` names the
call. -/
def Vouched (s : State κ) (b : Batch) (report : RuntimeResult) : Prop :=
  ∃ task i call result, (task, i) ∈ b.calls ∧ task.taskId = report.taskId ∧
    s.engine.calls[i]? = some call ∧ call.task.taskId = task.taskId ∧
    call.phase = .returned result ∧ result.status = .completed

/-- What is known of a batch, by its stage. -/
def StageSound (s : State κ) (b : Batch) : Stage → Prop
  | .pool | .raised => True
  | .scheduled books _ running =>
      (∀ task i, (task, some i) ∈ running → (task, i) ∈ b.calls) ∧
        ∀ id report, (id, report) ∈ books.results → report.taskId = id ∧
          (report.status = .completed → Vouched s b report)
  | .reported results => ∀ report ∈ results, report.status = .completed → Vouched s b report

/-- A batch whose completed reports are vouched for. -/
structure BatchSound (s : State κ) (b : Batch) : Prop where
  distinct : (b.tasks.map fun entry => entry.1.taskId).Nodup
  made : ∀ task i, (task, i) ∈ b.calls → (∃ routing, (task, routing) ∈ b.tasks) ∧
    ∃ call, s.engine.calls[i]? = some call ∧ call.task.taskId = task.taskId
  stage : StageSound s b b.stage

/-- The results of a call carry its task's id. -/
def PhaseOwn (id : String) : Phase → Prop
  | .ready _ previous => ∀ result, previous = some result → result.status ≠ .completed
  | .executing _ _ | .raised => True
  | .returned result => result.status = .completed → result.taskId = id

/-- The invariant of the batches. -/
structure Sound (s : State κ) : Prop where
  own : ∀ (i : ℕ) (call : Call), s.engine.calls[i]? = some call →
    PhaseOwn call.task.taskId call.phase
  batches : ∀ b ∈ s.batches, BatchSound s b

/-- The ids of the batches' tasks are distinct, and a completed result that an executor or the
recovered results of a context give for a task carries the task's own id. -/
def OwnResults (cfg : BatchConfig κ) (s : State κ) : Move → Prop
  | .engine contexts (.turn i _) => ∀ call, s.engine.calls[i]? = some call →
      ∀ result, Engine.Recovered (atContexts cfg contexts) call result →
        result.status = .completed → result.taskId = call.task.taskId
  | .engine _ (.finish i result) => ∀ call, s.engine.calls[i]? = some call →
      result.status = .completed → result.taskId = call.task.taskId
  | .batch _ tasks => (tasks.map fun entry => entry.1.taskId).Nodup
  | _ => True

/-! ### What stays -/

/-- The calls of a state are still there, with their ids and what they have returned. -/
def Extends (s t : State κ) : Prop :=
  ∀ (i : ℕ) (call : Call), s.engine.calls[i]? = some call →
    ∃ call', t.engine.calls[i]? = some call' ∧ call'.task.taskId = call.task.taskId ∧
      ∀ result, call.phase = .returned result → call'.phase = .returned result

lemma Extends.of_calls_eq {s t : State κ} (h : t.engine.calls = s.engine.calls) :
    Extends s t := by
  intro i call hcall
  exact ⟨call, by rw [h, hcall], rfl, fun _ hresult => hresult⟩

lemma Extends.of_append {s t : State κ} {extra : List Call}
    (h : t.engine.calls = s.engine.calls ++ extra) : Extends s t := by
  intro i call hcall
  refine ⟨call, ?_, rfl, fun _ hresult => hresult⟩
  rw [h, List.getElem?_append_left (List.getElem?_eq_some_iff.mp hcall).1, hcall]

lemma Extends.of_set {s t : State κ} {i : ℕ} {call call' : Call}
    (hcall : s.engine.calls[i]? = some call)
    (h : t.engine.calls = s.engine.calls.set i call') (hid : call'.task.taskId = call.task.taskId)
    (hsuspended : suspended call.phase = true) : Extends s t := by
  intro j c hc
  by_cases hij : i = j
  · subst hij
    obtain rfl := Option.some.inj (hcall.symm.trans hc)
    have hlt := (List.getElem?_eq_some_iff.mp hc).1
    refine ⟨call', by rw [h, List.getElem?_set_self hlt], hid, fun result hresult => ?_⟩
    rw [hresult] at hsuspended
    cases hsuspended
  · exact ⟨c, by rw [h, List.getElem?_set_ne hij, hc], rfl, fun _ hresult => hresult⟩

lemma Vouched.mono {s t : State κ} (hst : Extends s t) {b b' : Batch} (hb : b.calls ⊆ b'.calls)
    {report : RuntimeResult} (h : Vouched s b report) : Vouched t b' report := by
  obtain ⟨task, i, call, result, hmem, hid, hcall, htask, hphase, hstatus⟩ := h
  obtain ⟨call', hcall', htask', hphase'⟩ := hst i call hcall
  exact ⟨task, i, call', result, hb hmem, hid, hcall', htask'.trans htask, hphase' result hphase,
    hstatus⟩

lemma StageSound.mono {s t : State κ} (hst : Extends s t) {b b' : Batch}
    (hb : b.calls ⊆ b'.calls) {stage : Stage} (h : StageSound s b stage) :
    StageSound t b' stage := by
  cases stage with
  | pool => trivial
  | scheduled books levels running =>
      refine ⟨fun task i hmem => hb (h.1 task i hmem), fun id report hmem => ?_⟩
      obtain ⟨hid, hreport⟩ := h.2 id report hmem
      exact ⟨hid, fun hcompleted => (hreport hcompleted).mono hst hb⟩
  | reported results =>
      intro report hmem hcompleted
      exact (h report hmem hcompleted).mono hst hb
  | raised => trivial

lemma BatchSound.mono {s t : State κ} (hst : Extends s t) {b : Batch} (h : BatchSound s b) :
    BatchSound t b := by
  refine ⟨h.distinct, fun task i hmem => ?_, h.stage.mono hst (List.Subset.refl _)⟩
  obtain ⟨hrouting, call, hcall, hid⟩ := h.made task i hmem
  obtain ⟨call', hcall', hid', -⟩ := hst i call hcall
  exact ⟨hrouting, call', hcall', hid'.trans hid⟩

/-! ### The steps of a batch -/

lemma mem_launched {context : ℕ} {refused : String → Bool}
    {tasks : List (RuntimeTask × RoutingDecision)} {calls : List Call} {task : RuntimeTask} {i : ℕ}
    (h : (task, i) ∈ launched (launch context refused tasks calls).1) :
    (∃ routing, (task, routing) ∈ tasks) ∧ calls.length ≤ i ∧
      ∃ call, (launch context refused tasks calls).2[i]? = some call ∧ call.task = task ∧
        call.context = context := by
  induction tasks generalizing calls with
  | nil => cases h
  | cons entry rest ih =>
      obtain ⟨first, routing⟩ := entry
      unfold launch at h ⊢
      split at h
      · rename_i hrefused
        obtain ⟨⟨routing', hmem⟩, hcall⟩ := ih h
        rw [if_pos hrefused]
        exact ⟨⟨routing', List.mem_cons_of_mem _ hmem⟩, hcall⟩
      · rename_i hrefused
        rw [if_neg hrefused]
        simp only [launched, List.filterMap_cons, Option.map_some, List.mem_cons,
          Prod.mk.injEq] at h
        rcases h with ⟨rfl, rfl⟩ | h
        · refine ⟨⟨routing, List.mem_cons_self⟩, Nat.le_refl _,
            { context := context, task := task, routing := routing }, ?_, rfl, rfl⟩
          obtain ⟨extra, hextra, -⟩ := launch_calls context refused rest
            (calls ++ [{ context := context, task := task, routing := routing }])
          dsimp only
          rw [hextra, List.append_assoc, List.getElem?_append_right (Nat.le_refl _), Nat.sub_self]
          rfl
        · obtain ⟨⟨routing', hmem⟩, hnew, hcall⟩ := ih h
          rw [List.length_append] at hnew
          exact ⟨⟨routing', List.mem_cons_of_mem _ hmem⟩, by omega, hcall⟩

/-- Triage adds results of its own only, none of them completed, and passes on tasks of the
batch. -/
lemma triage_spec (map : Dict String (RuntimeTask × RoutingDecision)) (graph : Graph)
    (level : List String) (books : Books) :
    (∀ id report, (id, report) ∈ (triage map graph level books).1.results →
      (id, report) ∈ books.results ∨ (report.taskId = id ∧ report.status ≠ .completed)) ∧
    ∀ entry ∈ (triage map graph level books).2, ∃ id, map.get? id = some entry := by
  induction level generalizing books with
  | nil => exact ⟨fun _ _ h => .inl h, fun _ h => by cases h⟩
  | cons id rest ih =>
      -- a verdict that is filed under its own id
      have hfile : ∀ (books' : Books) (status : TaskStatus) (error : String),
          status ≠ .completed →
          books'.results = books.results.set id (verdict id status error) →
          (∀ id' report, (id', report) ∈ (triage map graph rest books').1.results →
            (id', report) ∈ books.results ∨ (report.taskId = id' ∧ report.status ≠ .completed)) ∧
          ∀ entry ∈ (triage map graph rest books').2, ∃ id, map.get? id = some entry := by
        intro books' status error hstatus hresults
        obtain ⟨hbooks, hentries⟩ := ih books'
        refine ⟨fun id' report hmem => ?_, hentries⟩
        rcases hbooks id' report hmem with hold | hnew
        · rw [hresults] at hold
          rcases Dict.mem_of_mem_set hold with heq | hold
          · obtain ⟨rfl, rfl⟩ := Prod.mk.inj heq
            exact .inr ⟨rfl, hstatus⟩
          · exact .inl hold
        · exact .inr hnew
      unfold triage
      split
      · exact ih books
      · rename_i entry hentry
        dsimp only
        split
        · exact hfile _ .failed _ (by decide) rfl
        · split
          · exact hfile _ .cancelled _ (by decide) rfl
          · split
            · exact ih books
            · obtain ⟨hbooks, hentries⟩ := ih books
              refine ⟨hbooks, fun entry' hmem => ?_⟩
              rcases List.mem_cons.mp hmem with rfl | hmem
              · exact ⟨id, hentry⟩
              · exact hentries entry' hmem

lemma mem_of_triage {tasks : List (RuntimeTask × RoutingDecision)} {graph : Graph}
    {level : List String} {books : Books} {entry : RuntimeTask × RoutingDecision}
    (h : entry ∈ (triage (taskMap tasks) graph level books).2) : entry ∈ tasks := by
  obtain ⟨id, hget⟩ := (triage_spec (taskMap tasks) graph level books).2 entry h
  obtain ⟨entry', hmem, heq⟩ := List.mem_map.mp (Dict.mem_of_get?_ofList hget)
  exact (Prod.mk.inj heq).2 ▸ hmem

lemma mem_record (items : List RuntimeResult) (books : Books) {id : String}
    {report : RuntimeResult} (h : (id, report) ∈ (items.foldl Books.record books).results) :
    (id, report) ∈ books.results ∨ (report ∈ items ∧ report.taskId = id) := by
  induction items generalizing books with
  | nil => exact .inl h
  | cons item rest ih =>
      have hrecord : (books.record item).results = books.results.set item.taskId item := by
        unfold Books.record
        dsimp only
        split <;> rfl
      rw [List.foldl_cons] at h
      rcases ih (books.record item) h with hold | ⟨hmem, hid⟩
      · rw [hrecord] at hold
        rcases Dict.mem_of_mem_set hold with heq | hold
        · obtain ⟨rfl, rfl⟩ := Prod.mk.inj heq
          exact .inr ⟨List.mem_cons_self, rfl⟩
        · exact .inl hold
      · exact .inr ⟨List.mem_cons_of_mem _ hmem, hid⟩

/-- A completed result of a level was returned by the call of its task. -/
lemma workerResult_spec {calls : List Call} {errors : String → String} {task : RuntimeTask}
    {call : Option ℕ} {report : RuntimeResult}
    (h : workerResult cfg calls errors (task, call) = some report)
    (hcompleted : report.status = .completed) :
    ∃ i c result, call = some i ∧ calls[i]? = some c ∧ c.phase = .returned result ∧
      result.status = .completed ∧ result.taskId = report.taskId := by
  cases call with
  | none =>
      obtain rfl := Option.some.inj h
      cases hcompleted
  | some i =>
      simp only [workerResult] at h
      split at h
      · rename_i result hphase
        obtain ⟨c, hc, hreturned⟩ := Option.map_eq_some_iff.mp hphase
        split at h
        · obtain rfl := Option.some.inj h
          exact ⟨i, c, result, rfl, hc, hreturned, hcompleted, rfl⟩
        · obtain rfl := Option.some.inj h
          cases hcompleted
      · obtain rfl := Option.some.inj h
        cases hcompleted
      · cases h

/-- A completed result of the pool was returned by the call at its position. -/
lemma poolResult_spec {calls : List Call} {errors : String → String} {task : RuntimeTask}
    {i : ℕ} {report : RuntimeResult} (h : poolResult calls errors (task, i) = some report)
    (hcompleted : report.status = .completed) :
    ∃ c, calls[i]? = some c ∧ c.phase = .returned report := by
  simp only [poolResult] at h
  split at h
  · rename_i result hphase
    obtain ⟨c, hc, hreturned⟩ := Option.map_eq_some_iff.mp hphase
    obtain rfl := Option.some.inj h
    exact ⟨c, hc, hreturned⟩
  · obtain rfl := Option.some.inj h
    cases hcompleted
  · cases h

lemma of_mapM {α β : Type} {f : α → Option β} {xs : List α} {ys : List β}
    (h : xs.mapM f = some ys) {y : β} (hy : y ∈ ys) : ∃ x ∈ xs, f x = some y := by
  induction xs generalizing ys with
  | nil =>
      obtain rfl := Option.some.inj h
      cases hy
  | cons x xs ih =>
      simp only [List.mapM_cons, Option.bind_eq_bind, Option.bind_eq_some_iff, Option.pure_def,
        Option.some.injEq] at h
      obtain ⟨z, hz, zs, hzs, rfl⟩ := h
      rcases List.mem_cons.mp hy with rfl | hy
      · exact ⟨x, List.mem_cons_self, hz⟩
      · obtain ⟨x', hx', hfx'⟩ := ih hzs hy
        exact ⟨x', List.mem_cons_of_mem _ hx', hfx'⟩

lemma Sound.vouched {s : State κ} (h : Sound s) {b : Batch} (hb : BatchSound s b)
    {task : RuntimeTask} {i : ℕ} (hmem : (task, i) ∈ b.calls) {c : Call}
    (hc : s.engine.calls[i]? = some c) {result report : RuntimeResult}
    (hphase : c.phase = .returned result) (hstatus : result.status = .completed)
    (hid : result.taskId = report.taskId) : Vouched s b report := by
  obtain ⟨-, call, hcall, htask⟩ := hb.made task i hmem
  obtain rfl := Option.some.inj (hcall.symm.trans hc)
  have hown := h.own i call hc
  rw [hphase] at hown
  exact ⟨task, i, call, result, hmem, htask.symm.trans ((hown hstatus).symm.trans hid), hc, htask,
    hphase, hstatus⟩

/-! ### Every move keeps the invariant -/

lemma phaseOwn_of_quiet {id : String} {phase : Phase} (h : Engine.Quiet phase) :
    PhaseOwn id phase := by
  cases phase with
  | ready attempt previous => exact h
  | executing attempt entry => trivial
  | returned result =>
      intro hcompleted
      exact absurd hcompleted h
  | raised => trivial

lemma phaseOwn_of_settled {id : String} {result : RuntimeResult}
    (hown : result.status = .completed → result.taskId = id) {phase : Phase}
    (h : Engine.Settled result phase) : PhaseOwn id phase := by
  cases phase with
  | ready attempt previous => exact h
  | executing attempt entry => trivial
  | returned final =>
      intro hcompleted
      rw [h.2, hown (h.1 ▸ hcompleted)]
  | raised => trivial

lemma Sound.setCall {s t : State κ} (h : Sound s) {i : ℕ} {call call' : Call}
    (hcall : s.engine.calls[i]? = some call)
    (hcalls : t.engine.calls = s.engine.calls.set i call')
    (hid : call'.task.taskId = call.task.taskId) (hsuspended : suspended call.phase = true)
    (hbatches : t.batches = s.batches) (hphase : PhaseOwn call'.task.taskId call'.phase) :
    Sound t where
  own := by
    intro j c hc
    rw [hcalls] at hc
    by_cases hij : i = j
    · subst hij
      have hlt := (List.getElem?_eq_some_iff.mp hcall).1
      rw [List.getElem?_set_self hlt] at hc
      obtain rfl := Option.some.inj hc
      exact hphase
    · rw [List.getElem?_set_ne hij] at hc
      exact h.own j c hc
  batches := by
    intro b hb
    rw [hbatches] at hb
    exact (h.batches b hb).mono (.of_set hcall hcalls hid hsuspended)

lemma Sound.append {s t : State κ} (h : Sound s) {extra : List Call}
    (hcalls : t.engine.calls = s.engine.calls ++ extra)
    (hextra : ∀ call ∈ extra, call.phase = .ready 1 none)
    (hbatches : ∀ b ∈ t.batches, b ∈ s.batches ∨ BatchSound t b) : Sound t where
  own := by
    intro j c hc
    rw [hcalls] at hc
    by_cases hj : j < s.engine.calls.length
    · rw [List.getElem?_append_left hj] at hc
      exact h.own j c hc
    · rw [List.getElem?_append_right (by omega)] at hc
      rw [hextra c (List.mem_of_getElem? hc)]
      intro result hresult
      cases hresult
  batches := by
    intro b hb
    rcases hbatches b hb with hold | hnew
    · exact (h.batches b hold).mono (.of_append hcalls)
    · exact hnew

lemma Sound.setBatch {s : State κ} (h : Sound s) {k : ℕ} {b : Batch} (hb : BatchSound s b) :
    Sound (s.setBatch k b) := by
  refine h.append (List.append_nil _).symm (fun _ hcall => by cases hcall) fun b' hb' => ?_
  rcases List.mem_or_eq_of_mem_set hb' with hold | rfl
  · exact .inl hold
  · have hst : Extends s (s.setBatch k b') := .of_calls_eq rfl
    exact .inr (hb.mono hst)

lemma sound_begin {s : State κ} (h : Sound s) (context : ℕ)
    {tasks : List (RuntimeTask × RoutingDecision)}
    (hdistinct : (tasks.map fun entry => entry.1.taskId).Nodup) :
    Sound (begin s context tasks) := by
  -- a batch without calls of its own
  have hidle : ∀ stage : Stage, (∀ t : State κ, StageSound t ⟨context, tasks, [], stage⟩ stage) →
      Sound { s with batches := s.batches ++ [⟨context, tasks, [], stage⟩] } := by
    intro stage hstage
    refine h.append (List.append_nil _).symm (fun _ hcall => by cases hcall) fun b hb => ?_
    rcases List.mem_append.mp hb with hold | hnew
    · exact .inl hold
    · rw [List.mem_singleton.mp hnew]
      exact .inr ⟨hdistinct, fun _ _ hmem => (by cases hmem), hstage _⟩
  unfold begin
  split
  · obtain ⟨extra, hextra, hready⟩ := launch_calls context (fun _ => false) tasks s.engine.calls
    refine h.append hextra hready fun b hb => ?_
    rcases List.mem_append.mp hb with hold | hnew
    · exact .inl hold
    · rw [List.mem_singleton.mp hnew]
      refine .inr ⟨hdistinct, fun task i hmem => ?_, trivial⟩
      obtain ⟨hrouting, -, call, hcall, rfl, -⟩ := mem_launched hmem
      exact ⟨hrouting, call, hcall, rfl⟩
  · split
    · exact hidle _ fun _ => ⟨fun _ _ hmem => (by cases hmem), fun _ _ hmem => (by cases hmem)⟩
    · exact hidle _ fun _ => trivial

lemma sound_enter {s : State κ} (h : Sound s) {k : ℕ} {b : Batch} {books : Books}
    {levels : List (List String)} (hb : BatchSound s b)
    (hstage : b.stage = .scheduled books levels []) (refused : String → Bool) :
    Sound (enter s k b books refused levels) := by
  have hbooks := hb.stage
  rw [hstage] at hbooks
  cases levels with
  | nil =>
      refine h.setBatch ⟨hb.distinct, hb.made, fun report hreport => ?_⟩
      obtain ⟨entry, -, hget⟩ := List.mem_filterMap.mp hreport
      exact (hbooks.2 _ report (Dict.mem_of_get? hget)).2
  | cons level levels =>
      obtain ⟨extra, hextra, hready⟩ := launch_calls b.context refused
        (triage (taskMap b.tasks) (graphOf b.tasks) level books).2 s.engine.calls
      have hresults := (triage_spec (taskMap b.tasks) (graphOf b.tasks) level books).1
      refine h.append hextra hready fun b' hb' => ?_
      rcases List.mem_or_eq_of_mem_set hb' with hold | rfl
      · exact .inl hold
      · have hst : Extends s (enter s k b books refused (level :: levels)) := .of_append hextra
        refine .inr ⟨hb.distinct, fun task i hmem => ?_, fun task i hmem => ?_,
          fun id report hmem => ?_⟩
        · rcases List.mem_append.mp hmem with hmem | hmem
          · obtain ⟨hrouting, call, hcall, hid⟩ := hb.made task i hmem
            obtain ⟨call', hcall', hid', -⟩ := hst i call hcall
            exact ⟨hrouting, call', hcall', hid'.trans hid⟩
          · obtain ⟨⟨routing, hentry⟩, -, call, hcall, rfl, -⟩ := mem_launched hmem
            exact ⟨⟨routing, mem_of_triage hentry⟩, call, hcall, rfl⟩
        · refine List.mem_append_right _ (List.mem_filterMap.mpr ⟨(task, some i), hmem, rfl⟩)
        · rcases hresults id report hmem with hold | ⟨hid, hstatus⟩
          · obtain ⟨hid, hvouched⟩ := hbooks.2 id report hold
            exact ⟨hid, fun hcompleted =>
              (hvouched hcompleted).mono hst (List.subset_append_left _ _)⟩
          · exact ⟨hid, fun hcompleted => absurd hcompleted hstatus⟩

/-- Every move that meets the condition keeps the invariant. -/
theorem sound_step (s : State κ) (move : Move) (t : State κ) (h : Sound s)
    (hown : OwnResults cfg s move) (hstep : (machine cfg).step s move = some t) : Sound t := by
  change step cfg s move = some t at hstep
  cases move with
  | engine contexts move =>
      obtain ⟨hmoved, hbatches, -⟩ := engine_of_step cfg hstep
      cases hmoved with
      | unchanged hcalls hlog =>
          refine h.append (hcalls.trans (List.append_nil _).symm) (fun _ hcall => by cases hcall) ?_
          intro b hb
          rw [hbatches] at hb
          exact .inl hb
      | started context task routing hcalls hlog =>
          refine h.append hcalls ?_ fun b hb => ?_
          · intro call hcall
            rw [List.mem_singleton.mp hcall]
          · rw [hbatches] at hb
            exact .inl hb
      | quiet i call phase hcall hsuspended hquiet hcalls hlog =>
          exact h.setCall hcall hcalls rfl hsuspended hbatches (phaseOwn_of_quiet hquiet)
      | stopped i now call attempt result hcall hready hcalls hlog =>
          have hbefore := h.own i call hcall
          rw [hready] at hbefore
          exact h.setCall hcall hcalls rfl (by rw [hready]; rfl) hbatches fun hcompleted =>
            absurd hcompleted (hbefore result rfl)
      | restored i now call attempt previous source result hcall hready hgate hsource hid hstatus
          hcalls hlog =>
          refine h.setCall hcall hcalls rfl (by rw [hready]; rfl) hbatches fun hcompleted => ?_
          exact hid.trans (hown call hcall source hsource (hstatus ▸ hcompleted))
      | dispatched i now call attempt previous world hcall hready hgate hcalls hlog =>
          exact h.setCall hcall hcalls rfl (by rw [hready]; rfl) hbatches trivial
      | finished i call attempt entry result phase hcall hexec hphase hcalls hlog =>
          exact h.setCall hcall hcalls rfl (by rw [hexec]; rfl) hbatches
            (phaseOwn_of_settled (hown call hcall) hphase)
  | alter i task routing =>
      simp only [step] at hstep
      split at hstep
      · rename_i call hcall
        split at hstep
        · rename_i hallowed
          obtain rfl := Option.some.inj hstep
          simp only [Bool.and_eq_true, decide_eq_true_eq] at hallowed
          refine h.setCall hcall rfl hallowed.2 hallowed.1 rfl ?_
          dsimp only
          rw [hallowed.2]
          exact h.own i call hcall
        · cases hstep
      · cases hstep
  | batch context tasks =>
      obtain rfl := Option.some.inj hstep
      exact sound_begin h context hown
  | advance k refused =>
      simp only [step] at hstep
      split at hstep
      · rename_i b hb
        split at hstep
        · rename_i books levels hstage
          obtain rfl := Option.some.inj hstep
          exact sound_enter h (h.batches b (List.mem_of_getElem? hb)) hstage refused
        · cases hstep
      · cases hstep
  | gather k errors =>
      simp only [step] at hstep
      split at hstep
      · rename_i b hb
        have hbatch := h.batches b (List.mem_of_getElem? hb)
        have hbefore := hbatch.stage
        split at hstep
        · obtain ⟨results, hresults, rfl⟩ := Option.map_eq_some_iff.mp hstep
          refine h.setBatch ⟨hbatch.distinct, hbatch.made, fun report hreport hcompleted => ?_⟩
          obtain ⟨⟨task, i⟩, hmem, hreturned⟩ := of_mapM hresults hreport
          obtain ⟨c, hc, hphase⟩ := poolResult_spec hreturned hcompleted
          exact (h.vouched hbatch hmem hc hphase hcompleted rfl).mono (.of_calls_eq rfl)
            (List.Subset.refl _)
        · rename_i books levels running hstage
          rw [hstage] at hbefore
          obtain ⟨items, hitems, rfl⟩ := Option.map_eq_some_iff.mp hstep
          refine h.setBatch ⟨hbatch.distinct, hbatch.made, fun _ _ hmem => (by cases hmem),
            fun id report hmem => ?_⟩
          rcases mem_record items books hmem with hold | ⟨hitem, hid⟩
          · exact hbefore.2 id report hold
          · refine ⟨hid, fun hcompleted => ?_⟩
            obtain ⟨⟨task, call⟩, hrunning, hreturned⟩ := of_mapM hitems hitem
            obtain ⟨i, c, result, rfl, hc, hphase, hstatus, hsame⟩ :=
              workerResult_spec hreturned hcompleted
            exact h.vouched hbatch (hbefore.1 task i hrunning) hc hphase hstatus hsame
        · cases hstep
      · cases hstep
  | abandon k =>
      simp only [step] at hstep
      split at hstep
      · rename_i b hb
        have hbatch := h.batches b (List.mem_of_getElem? hb)
        obtain rfl := Option.some.inj hstep
        exact h.setBatch ⟨hbatch.distinct, hbatch.made, trivial⟩
      · cases hstep

/-! ## Runs -/

/-- A report of a batch says that a task has completed. -/
def Completed (results : List RuntimeResult) (task : RuntimeTask) : Prop :=
  ∃ report ∈ results, report.taskId = task.taskId ∧ report.status = .completed

/-- A call that a batch made for a task has returned a completed result, and its last attempt
passed the gate. -/
def TaskPassed (cfg : BatchConfig κ) (s : State κ) (b : Batch) (task : RuntimeTask) : Prop :=
  ∃ i call result, (task, i) ∈ b.calls ∧ s.engine.calls[i]? = some call ∧
    call.phase = .returned result ∧ result.status = .completed ∧ LastPassed cfg s i task.taskId

/-- In every run of a runtime, an executor is invoked only for a task whose permit clears it in
that very move, whatever the path, and a call returns a completed result only where its last
attempt passed the gate.  Where the results of a batch carry the ids of their own tasks, and
these ids are distinct, a task is reported as completed only by a call of its own that did. -/
theorem gate_on_every_path {s t : State κ} {moves : List Move} (hcalls : s.engine.calls = [])
    (hbatches : s.batches = []) (hrun : (machine cfg).run s moves = some t) :
    (∀ move u, (machine cfg).step t move = some u → Gated cfg t move u) ∧
      (∀ (i : ℕ) (call : Call) (result : RuntimeResult), t.engine.calls[i]? = some call →
        call.phase = .returned result → result.status = .completed →
        LastPassed cfg t i call.task.taskId) ∧
      ((machine cfg).Guarded (OwnResults cfg) s moves →
        ∀ b ∈ t.batches, ∀ results, b.stage = .reported results → ∀ entry ∈ b.tasks,
          Completed results entry.1 → TaskPassed cfg t b entry.1) := by
  have hattempts : Attempts cfg t := by
    refine (machine cfg).run_invariant attempts_step ?_ hrun
    intro i call hcall
    rw [hcalls] at hcall
    cases hcall
  have hreturned : ∀ (i : ℕ) (call : Call) (result : RuntimeResult),
      t.engine.calls[i]? = some call → call.phase = .returned result →
      result.status = .completed → LastPassed cfg t i call.task.taskId := by
    intro i call result hcall hphase hstatus
    have hpassed := hattempts i call hcall
    rw [hphase] at hpassed
    exact hpassed hstatus
  refine ⟨fun move u hstep => gated_of_step cfg hstep, hreturned, fun hguard b hb => ?_⟩
  have hsound : Sound t := by
    refine (machine cfg).guarded_invariant sound_step ⟨?_, ?_⟩ hguard hrun
    · intro i call hcall
      rw [hcalls] at hcall
      cases hcall
    · intro b hb
      rw [hbatches] at hb
      cases hb
  rintro results hstage entry hentry ⟨report, hreport, hid, hstatus⟩
  have hbatch := hsound.batches b hb
  have hreports := hbatch.stage
  rw [hstage] at hreports
  obtain ⟨task, i, call, result, hmem, htask, hcall, hcallid, hphase, hcompleted⟩ :=
    hreports report hreport hstatus
  -- the ids are distinct, so the call was made for this very task
  obtain ⟨⟨routing, hmade⟩, -⟩ := hbatch.made task i hmem
  obtain rfl := List.inj_on_of_nodup_map hbatch.distinct hmade hentry (htask.trans hid)
  exact ⟨i, call, result, hmem, hcall, hphase, hcompleted,
    hcallid ▸ hreturned i call result hcall hphase hcompleted⟩

/-! ### A batch whose results are filed under another task's id -/

/-- A permit for one tool operation. -/
def notePermit : ExecutionPermit where
  permitId := "p"
  actionId := "b"
  subjectId := "u"
  actionType := "tool"
  target := some "note"
  operationDigest := "sha"
  risk := .low
  constraints := {}
  policyReference := "cap"
  approvalSource := "human"
  issuedAt := 0
  expiresAt := 900
  decision := .allow
  integrityDigest := "mac"

/-- A task that CAP has not approved. -/
def unapprovedTask : RuntimeTask where
  taskId := "a"
  actionType := "tool"

def approvedTask : RuntimeTask where
  taskId := "b"
  actionType := "tool"
  metadata := [("tool", .str "note")]
  permit := some notePermit

/-- A runtime whose checkpoint callback does nothing and to which every recovered result is a
completed result of one task. -/
def noteConfig : BatchConfig Unit where
  engine := {
    platform := ⟨fun _ => "sha", fun _ => "mac", fun _ => some {}⟩
    textOf := fun _ => ""
    textOfContainer := fun _ => ""
    toolReliability := fun _ => none
    registered := fun _ => true
    validateResult := fun _ => some { taskId := "a", status := .completed }
    recoveredToolSecurity := fun _ _ _ => none
    contexts := fun _ => { requestId := "r", userId := some "u" }
    checkpoint := fun _ world _ => (world, true) }
  workerId := fun task => "worker-" ++ task.taskId
  confidenceReadable := fun _ => true

def noteRouting : RoutingDecision := ⟨"", "", "", [], {}, []⟩

/-- Both tasks go through the scheduler; `recovered` are the recovered results. -/
def noteMoves (recovered : Dict String Json) (answers : List Engine.Move) : List Move :=
  let context : ℕ → RuntimeContext := fun _ =>
    { requestId := "r", userId := some "u", recoveredOperationResults := recovered }
  [.batch 0 [(unapprovedTask, noteRouting), (approvedTask, noteRouting)],
    .advance 0 fun _ => false, .engine context (.turn 0 1), .engine context (.turn 1 1)]
  ++ answers.map (.engine context)
  ++ [.gather 0 fun _ => "", .advance 0 fun _ => false]

/-- The ids and the statuses that the batches report. -/
def reports (s : State Unit) : List (List (String × TaskStatus)) :=
  s.batches.map fun b =>
    match b.stage with
    | .reported results => results.map fun report => (report.taskId, report.status)
    | _ => []

/-- A move whose results are an executor's, with the id of its task. -/
def ownId (s : State Unit) : Move → Bool
  | .engine contexts (.turn i _) =>
      (s.engine.calls[i]?).all fun call =>
        (Engine.recoveredResult (contexts call.context) call.task).isNone
  | .engine _ (.finish i result) =>
      (s.engine.calls[i]?).all fun call => result.taskId = call.task.taskId
  | .batch _ tasks => (tasks.map fun entry => entry.1.taskId).Nodup
  | _ => true

lemma ownResults_of_ownId (s : State Unit) (move : Move) (h : ownId s move = true) :
    OwnResults noteConfig s move := by
  cases move with
  | engine contexts move =>
      cases move with
      | turn i now =>
          intro call hcall result hrecovered
          simp only [ownId, hcall, Option.all_some, Option.isNone_iff_eq_none] at h
          rcases hrecovered with hsecurity | ⟨recovered, hrecovered, -⟩
          · cases hsecurity
          · rw [show (atContexts noteConfig contexts).contexts = contexts from rfl, h] at hrecovered
            cases hrecovered
      | finish i result =>
          intro call hcall hcompleted
          simpa [ownId, hcall] using h
      | _ => trivial
  | batch context tasks =>
      have hdistinct : (tasks.map fun entry => entry.1.taskId).Nodup := by simpa [ownId] using h
      exact hdistinct
  | _ => trivial

theorem gate_on_every_path_sample :
    ∃ t, (machine noteConfig).run { engine := { world := () } }
        (noteMoves [] [.finish 1 { taskId := "b", status := .completed }]) = some t ∧
      reports t = [[("a", .failed), ("b", .completed)]] ∧
      ∀ b ∈ t.batches, ∀ results, b.stage = .reported results → ∀ entry ∈ b.tasks,
        Completed results entry.1 → TaskPassed noteConfig t b entry.1 := by
  have hmap : ((machine noteConfig).run { engine := { world := () } }
      (noteMoves [] [.finish 1 { taskId := "b", status := .completed }])).map reports =
        some [[("a", .failed), ("b", .completed)]] := by decide
  have hguard : (machine noteConfig).Guarded (fun s move => ownId s move = true)
      { engine := { world := () } }
      (noteMoves [] [.finish 1 { taskId := "b", status := .completed }]) := by decide
  obtain ⟨t, hrun, hreports⟩ := Option.map_eq_some_iff.mp hmap
  have hown := hguard.mono ownResults_of_ownId
  exact ⟨t, hrun, hreports, (gate_on_every_path rfl rfl hrun).2.2 hown⟩

/-- The call for a task is blocked at its only attempt, and the batch reports the task as
completed. -/
theorem gate_on_every_path_not :
    ∃ t, (machine noteConfig).run { engine := { world := () } }
        (noteMoves [("r:b:sha", .str "")] []) = some t ∧
      ∃ b ∈ t.batches, ∃ results, b.stage = .reported results ∧
        Completed results unapprovedTask ∧ (unapprovedTask, noteRouting) ∈ b.tasks ∧
        ¬ TaskPassed noteConfig t b unapprovedTask ∧
        ∃ check blocked, t.gate 0 = some check ∧ check.task.taskId = unapprovedTask.taskId ∧
          enforceCapPermit noteConfig.engine.platform noteConfig.engine.textOf check.context
            check.task check.routing check.now = .ok (some blocked) := by
  refine ⟨_, rfl, _, List.mem_cons_self, _, rfl, ⟨_, List.mem_cons_self, rfl, rfl⟩,
    List.mem_cons_self, ?_, _, _, rfl, rfl, rfl⟩
  rintro ⟨i, call, result, hmem, hcall, hphase, hstatus, -⟩
  rcases List.mem_cons.mp hmem with heq | hmem
  · obtain ⟨-, rfl⟩ := Prod.mk.inj heq
    obtain rfl := Option.some.inj hcall
    obtain rfl := Engine.Phase.returned.inj hphase
    cases hstatus
  · have hid : unapprovedTask.taskId = approvedTask.taskId :=
      congrArg (fun entry => entry.1.taskId) (List.mem_singleton.mp hmem)
    exact absurd hid (by decide)

end RunBatch

end Samaktha
