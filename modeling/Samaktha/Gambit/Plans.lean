import Samaktha.Gambit.Planner

/-!
# Which plans are well formed

`PlanSound` is what is asked of a plan, `Unrepeated` the condition on the goal under which the
planner meets it: with a planning context the paths have distinct labels, the resources a
changing action names resolve to distinct targets, and no skill is injected twice.
-/

namespace Samaktha

namespace Planner

open TaskDecomposer Workflow Relation

variable {Rate : Type} [RateArithmetic Rate] (planner : Planner Rate)

/-- The actions with which the filesystem tool changes a resource. -/
def changingActions : List String := ["write", "write_file", "copy", "move", "delete", "mkdir"]

/-- Whether an action changes a resource. -/
def isChanging (action : String) : Bool := Text.lower action ∈ changingActions

/-- The goal names resources and changes them. -/
def Changing (goal : Goal) : Prop :=
  ∃ action, resourceAction goal = some action ∧ isChanging action = true

/-- The task changes the resource `target`. -/
structure Changes (task : PlanTask) (target : Value) : Prop where
  actionType : task.executionActionType = "tool"
  tool : (metadataText task "tool").any (· ∈ ["filesystem", "resolver"]) = true
  action : (metadataText task "action").any isChanging = true
  path : Dict.get? (argsOf task) (.str "path") = some target

/-- The resource that one path of a goal names. -/
def targetOf (goal : Goal) (p : String) : Except Unresolved (Option Value) :=
  (planner.resolveArgs (resourceArgs goal p)).map fun args => Dict.get? args (.str "path")

/-- The plan is well formed, and each resource to be changed is the target of one task. -/
structure PlanSound (goal : Goal) (plan : ExecutionPlan) : Prop where
  wellFormed : WellFormed plan
  targeted : Changing goal → ∀ p ∈ paths goal, ∃ target,
    planner.targetOf goal p = .ok (some target) ∧ ∃! task, task ∈ plan.tasks ∧ Changes task target

/-- No label, no target and no skill stands twice. -/
structure Unrepeated (request : String) (withContext : Bool) (goal : Goal) : Prop where
  labels : withContext = true → resourceAction goal ≠ none → ((paths goal).map label).Nodup
  targets : Changing goal → ((paths goal).map (planner.targetOf goal)).Nodup
  skills : ((planner.injected request).map SkillRecord.skillId).Nodup

/-! ## The passes keep ids and dependencies -/

/-- What the order of a plan depends on. -/
def shape (task : PlanTask) : String × List String := (task.taskId, task.dependencies)

/-- A task whose tool and destination are bound. -/
def Bound (task bound : PlanTask) : Prop :=
  planner.resolveDestination (planner.resolveToolId task) = .ok bound

variable {planner}

variable (planner) in
lemma shape_resolveToolId (task : PlanTask) : shape (planner.resolveToolId task) = shape task := by
  unfold resolveToolId
  split
  · split <;> rfl
  · rfl

variable (planner) in
lemma actionType_resolveToolId (task : PlanTask) :
    (planner.resolveToolId task).executionActionType = task.executionActionType := by
  unfold resolveToolId
  split
  · split <;> rfl
  · rfl

lemma resolveDestination_cases {task bound : PlanTask}
    (h : planner.resolveDestination task = .ok bound) :
    bound = task ∨ ∃ args, planner.resolveArgs (argsOf task) = .ok args ∧
      bound = { task with metadata := Dict.set task.metadata "args" (.dict args) } := by
  unfold resolveDestination at h
  split at h
  · cases hargs : planner.resolveArgs (argsOf task) with
    | error e =>
        rw [hargs] at h
        cases h
    | ok args =>
        rw [hargs] at h
        exact .inr ⟨args, rfl, (Except.ok.inj h).symm⟩
  · exact .inl (Except.ok.inj h).symm

lemma Bound.shape_eq {task bound : PlanTask} (h : planner.Bound task bound) :
    shape bound = shape task := by
  rw [← shape_resolveToolId planner task]
  obtain rfl | ⟨args, -, rfl⟩ := resolveDestination_cases h <;> rfl

lemma Bound.actionType_eq {task bound : PlanTask} (h : planner.Bound task bound) :
    bound.executionActionType = task.executionActionType := by
  rw [← actionType_resolveToolId planner task]
  obtain rfl | ⟨args, -, rfl⟩ := resolveDestination_cases h <;> rfl

lemma forall₂_bound {tasks bound : List PlanTask}
    (h : (tasks.map planner.resolveToolId).mapM planner.resolveDestination = .ok bound) :
    List.Forall₂ planner.Bound tasks bound := by
  induction tasks generalizing bound with
  | nil =>
      obtain rfl := Except.ok.inj h
      exact .nil
  | cons task tasks ih =>
      rw [List.map_cons, List.mapM_cons] at h
      cases hhead : planner.resolveDestination (planner.resolveToolId task) with
      | error e =>
          rw [hhead] at h
          cases h
      | ok first =>
          rw [hhead] at h
          cases htail : (tasks.map planner.resolveToolId).mapM planner.resolveDestination with
          | error e =>
              rw [htail] at h
              cases h
          | ok rest =>
              rw [htail] at h
              obtain rfl := Except.ok.inj h
              exact .cons hhead (ih htail)

lemma map_shape_of_bound {tasks bound : List PlanTask}
    (h : List.Forall₂ planner.Bound tasks bound) : bound.map shape = tasks.map shape := by
  induction h with
  | nil => rfl
  | cons hhead _ ih => rw [List.map_cons, List.map_cons, ih, hhead.shape_eq]

/-! ## What a call that returns a plan has done -/

lemma withSkills_eq (request : String) (tasks : List PlanTask) :
    planner.withSkills request tasks =
      ((planner.injected request).map skillTask).reverse ++ tasks := by
  have hfold : ∀ (skills : List (SkillRecord Rate)) (tasks : List PlanTask),
      skills.foldl (fun tasks skill => skillTask skill :: tasks) tasks =
        (skills.map skillTask).reverse ++ tasks := by
    intro skills
    induction skills with
    | nil => exact fun _ => rfl
    | cons skill skills ih =>
        intro tasks
        rw [List.foldl_cons, ih, List.map_cons, List.reverse_cons, List.append_assoc]
        rfl
  exact hfold _ tasks

lemma planned {request : String} {withContext : Bool} {goal : Option Goal} {plan : ExecutionPlan}
    (h : planner.planWithCapabilityCheck request withContext goal = some (.ok plan)) :
    ∃ tasks bound,
      planner.draftTasks withContext (goal.getD (planner.parse request)) = some tasks ∧
      List.Forall₂ planner.Bound tasks bound ∧
      plan.tasks = ((planner.injected request).map skillTask).reverse ++ bound := by
  unfold planWithCapabilityCheck at h
  split at h
  · cases h
  · dsimp only at h
    split at h
    · cases h
    · split at h
      · cases h
      · obtain ⟨tasks, htasks, h⟩ := Option.bind_eq_some_iff.mp h
        split at h
        · cases h
        · cases h
        · rename_i bound hbound
          split at h
          · obtain rfl := PlannerResult.ok.inj (Option.some.inj h)
            exact ⟨tasks, bound, htasks, forall₂_bound hbound, withSkills_eq request bound⟩
          · cases h

/-! ## Skills in front of a chain -/

lemma wellFormed_iff_shape {plan : ExecutionPlan} :
    WellFormed plan ↔ ((plan.tasks.map shape).map Prod.fst).Nodup ∧
      Chain.Closed Prod.fst Prod.snd (plan.tasks.map shape) ∧
      ∀ id, ¬ TransGen (Chain.Edge Prod.fst Prod.snd (plan.tasks.map shape)) id id := by
  have hids : (plan.tasks.map shape).map Prod.fst = planIds plan := by
    simp [planIds, shape, Function.comp_def]
  have hedge : DependsOn plan = Chain.Edge Prod.fst Prod.snd (plan.tasks.map shape) := by
    funext a b
    rw [Chain.edge_map_iff]
    rfl
  have hclosed : Chain.Closed Prod.fst Prod.snd (plan.tasks.map shape) ↔
      ∀ task ∈ plan.tasks, ∀ id ∈ task.dependencies, id ∈ planIds plan := by
    rw [Chain.Closed, hids, List.forall_mem_map]
    rfl
  rw [hids, hclosed, ← hedge]
  exact ⟨fun h => ⟨h.distinct, h.named, h.acyclic⟩, fun h => ⟨h.1, h.2.1, h.2.2⟩⟩

/-- Items without dependencies, under keys that nothing else names, may stand in front. -/
lemma wellFormed_front_iff {plan : ExecutionPlan} {front : List PlanTask}
    {back : List (String × List String)}
    (htasks : plan.tasks.map shape = front.map shape ++ back)
    (hfront : ∀ task ∈ front, task.dependencies = [])
    (hnodup : (back.map Prod.fst).Nodup)
    (hacyclic : ∀ id, ¬ TransGen (Chain.Edge Prod.fst Prod.snd back) id id)
    (hids : ∀ task ∈ front, task.taskId ∉ back.map Prod.fst)
    (hnames : ∀ task ∈ front, ∀ x ∈ back, task.taskId ∉ x.2) :
    WellFormed plan ↔
      (front.map PlanTask.taskId).Nodup ∧ Chain.Closed Prod.fst Prod.snd back := by
  have hfst : (front.map shape).map Prod.fst = front.map PlanTask.taskId := by
    simp [shape, Function.comp_def]
  have hedge : ∀ {a b}, Chain.Edge Prod.fst Prod.snd (front.map shape ++ back) a b →
      Chain.Edge Prod.fst Prod.snd back a b := by
    rintro a b ⟨x, hx, hkey, hdep⟩
    rcases List.mem_append.mp hx with hx | hx
    · obtain ⟨task, htask, rfl⟩ := List.mem_map.mp hx
      have hnone : b ∈ task.dependencies := hdep
      rw [hfront task htask] at hnone
      cases hnone
    · exact ⟨x, hx, hkey, hdep⟩
  rw [wellFormed_iff_shape, htasks, List.map_append, hfst]
  constructor
  · rintro ⟨hdistinct, hclosed, -⟩
    refine ⟨(List.nodup_append.mp hdistinct).1, fun x hx k hk => ?_⟩
    have hnamed := hclosed x (List.mem_append_right _ hx) k hk
    rw [List.map_append, hfst] at hnamed
    refine (List.mem_append.mp hnamed).resolve_left fun hmem => ?_
    obtain ⟨task, htask, rfl⟩ := List.mem_map.mp hmem
    exact hnames task htask x hx hk
  · rintro ⟨hdistinct, hclosed⟩
    refine ⟨List.nodup_append.mpr ⟨hdistinct, hnodup, ?_⟩, fun x hx k hk => ?_, fun id hcycle => ?_⟩
    · intro a ha b hb hab
      obtain ⟨task, htask, rfl⟩ := List.mem_map.mp ha
      exact hids task htask (hab ▸ hb)
    · rw [List.map_append, hfst]
      obtain ⟨y, hy, hkey, hdep⟩ := hedge ⟨x, hx, rfl, hk⟩
      exact List.mem_append_right _ (hclosed y hy k hdep)
    · exact hacyclic id (TransGen.mono (fun _ _ => hedge) _ _ hcycle)

/-! ## What the optimizer drops -/

/-- What the optimizer compares of a draft. -/
def draftKey (draft : Draft) : String × String := (draft.kind.value, draft.description)

lemma taskKey_chained (newTaskId : ℕ → String) (n : ℕ) (deps : List String)
    (drafts : List Draft) :
    (chained newTaskId n deps drafts).map taskKey = drafts.map draftKey :=
  map_chained newTaskId taskKey draftKey (fun _ _ _ => rfl) n deps drafts

lemma kind_of_reasonOver {goal : Goal} {action : String} {draft : Draft}
    (h : draft ∈ reasonOver goal action) : draft.kind = .executeViaRuntime := by
  unfold reasonOver at h
  split at h
  · rw [List.mem_singleton.mp h]
    rfl
  · rw [List.mem_singleton.mp h]
    rfl
  · cases h

lemma kind_of_memoryTask {recallTarget : String → Option String} {goal : Goal} {draft : Draft}
    (h : memoryTask recallTarget goal = some draft) : draft.kind = .executeViaRuntime := by
  unfold memoryTask at h
  obtain ⟨ids, -, h⟩ := Option.bind_eq_some_iff.mp h
  dsimp only at h
  split at h <;> exact Option.some.inj h ▸ rfl

/-- Tasks between the first and the last of a plan, no two of them the same to the optimizer. -/
structure Distinct (tasks : List Draft) : Prop where
  kind : ∀ draft ∈ tasks, draft.kind = .executeViaRuntime ∨ draft.kind = .retrieveContext
  nodup : (tasks.map draftKey).Nodup

lemma Distinct.single {draft : Draft} (h : draft.kind = .executeViaRuntime) : Distinct [draft] :=
  ⟨fun _ hd => .inl (List.mem_singleton.mp hd ▸ h), List.nodup_singleton _⟩

lemma Distinct.pair {first second : Draft}
    (hfirst : first.kind = .executeViaRuntime ∨ first.kind = .retrieveContext)
    (hsecond : second.kind = .executeViaRuntime) (hne : draftKey first ≠ draftKey second) :
    Distinct [first, second] := by
  refine ⟨fun _ hd => ?_, ?_⟩
  · rcases List.mem_pair.mp hd with rfl | rfl
    · exact hfirst
    · exact .inl hsecond
  · rw [List.map_cons, List.map_singleton, List.nodup_cons]
    exact ⟨fun hmem => hne (List.mem_singleton.mp hmem), List.nodup_singleton _⟩

lemma description_ne {tool title action text : String} (args : Dict Key Value) {c d : Char}
    (htool : tool.toList.head? = some c) (htext : text.toList.head? = some d) (hne : c ≠ d) :
    (toolTask title (some tool) action args {}).description ≠ text := by
  intro heq
  have hnonempty : tool ≠ "" := by
    rintro rfl
    cases htool
  have hhead : (toolTask title (some tool) action args {}).description.toList.head? = some c := by
    simp [toolTask, orText, hnonempty, String.toList_append, List.head?_append, htool]
  rw [heq, htext] at hhead
  exact hne (Option.some.inj hhead).symm

lemma distinct_intentTasks {recallTarget : String → Option String} {goal : Goal}
    (hnone : resourceAction goal = none) {tasks : List Draft}
    (h : intentTasks recallTarget goal = some tasks) : Distinct tasks := by
  unfold intentTasks at h
  rw [hnone] at h
  dsimp only at h
  split at h
  · exact Option.some.inj h ▸ .single rfl
  · refine Option.some.inj h ▸ .pair (.inl rfl) rfl fun hkey => ?_
    refine description_ne [(.str "query", .str (orText goal.query goal.rawRequest))]
      (c := 'i') (d := 'R') (by decide) ?_ (by decide) (congrArg Prod.snd hkey)
    simp only [draftKey, task, String.toList_append, List.head?_append]
    rfl
  · exact Option.some.inj h ▸ .single rfl
  · obtain ⟨draft, hdraft, rfl⟩ := Option.map_eq_some_iff.mp h
    exact .single (kind_of_memoryTask hdraft)
  · exact Option.some.inj h ▸ .single rfl
  · exact Option.some.inj h ▸ .single rfl
  · exact Option.some.inj h ▸ .single rfl
  · exact Option.some.inj h ▸ .single rfl
  · exact Option.some.inj h ▸ .single rfl
  · split at h
    · exact Option.some.inj h ▸ .single rfl
    · obtain rfl := Option.some.inj h
      unfold answerTasks
      split
      · exact .pair (.inr rfl) rfl fun hkey => absurd (congrArg Prod.fst hkey) (by decide)
      · exact .single rfl

lemma nodup_resourceKeys_iff {goal : Goal} {action : String} :
    (((paths goal).map (resolverTask goal action) ++ reasonOver goal action).map draftKey).Nodup ↔
      ((paths goal).map label).Nodup := by
  have hreason : ∀ draft ∈ reasonOver goal action, ∀ p,
      draftKey (resolverTask goal action p) ≠ draftKey draft := by
    intro draft hdraft p hkey
    unfold reasonOver at hdraft
    split at hdraft
    all_goals
      first
      | cases hdraft
        done
      | rw [List.mem_singleton.mp hdraft] at hkey
        refine description_ne (resourceArgs goal p) (c := 'r') (d := 'U') (by decide) ?_ (by decide)
          (congrArg Prod.snd hkey)
        simp only [draftKey, task, String.toList_append, List.head?_append]
        rfl
  have hlast : ((reasonOver goal action).map draftKey).Nodup := by
    unfold reasonOver
    split
    · exact List.nodup_singleton _
    · exact List.nodup_singleton _
    · exact List.nodup_nil
  have hmap : ((paths goal).map (resolverTask goal action)).map draftKey =
      ((paths goal).map label).map fun l => (TaskKind.executeViaRuntime.value,
        "resolver:" ++ action ++ " — " ++ ("Resolve and " ++ action ++ " resource: " ++ l)) := by
    rw [List.map_map, List.map_map]
    rfl
  rw [List.map_append, List.nodup_append, hmap]
  constructor
  · exact fun h => h.1.of_map _
  · intro h
    refine ⟨h.map fun a b hab => ?_, hlast, ?_⟩
    · simpa using congrArg Prod.snd hab
    · rintro a ha b hb rfl
      obtain ⟨draft, hdraft, rfl⟩ := List.mem_map.mp hb
      rw [← hmap] at ha
      obtain ⟨resolver, hresolver, hkey⟩ := List.mem_map.mp ha
      obtain ⟨p, -, rfl⟩ := List.mem_map.mp hresolver
      exact hreason draft hdraft p hkey

lemma intentTasks_of_action {recallTarget : String → Option String} {goal : Goal} {action : String}
    (haction : resourceAction goal = some action) :
    intentTasks recallTarget goal =
      some ((paths goal).map (resolverTask goal action) ++ reasonOver goal action) := by
  unfold intentTasks
  rw [haction]

lemma kind_of_intentTasks {recallTarget : String → Option String} {goal : Goal}
    {tasks : List Draft} (h : intentTasks recallTarget goal = some tasks) {draft : Draft}
    (hdraft : draft ∈ tasks) : draft.kind = .executeViaRuntime ∨ draft.kind = .retrieveContext := by
  cases haction : resourceAction goal with
  | none => exact (distinct_intentTasks haction h).kind draft hdraft
  | some action =>
      rw [intentTasks_of_action haction] at h
      obtain rfl := Option.some.inj h
      rcases List.mem_append.mp hdraft with hdraft | hdraft
      · obtain ⟨p, -, rfl⟩ := List.mem_map.mp hdraft
        exact .inl rfl
      · exact .inl (kind_of_reasonOver hdraft)

lemma nodup_intentKeys_iff {recallTarget : String → Option String} {goal : Goal}
    {tasks : List Draft} (h : intentTasks recallTarget goal = some tasks) :
    (tasks.map draftKey).Nodup ↔ (resourceAction goal ≠ none → ((paths goal).map label).Nodup) := by
  cases haction : resourceAction goal with
  | none => simp [(distinct_intentTasks haction h).nodup]
  | some action =>
      rw [intentTasks_of_action haction] at h
      obtain rfl := Option.some.inj h
      rw [nodup_resourceKeys_iff]
      simp

lemma taskKind_value_injective : Function.Injective TaskKind.value := by
  intro a b h
  cases a <;> cases b <;> first | rfl | exact absurd h (by decide)

lemma draftKey_ne_of_kind {a b : Draft} (h : a.kind ≠ b.kind) : draftKey a ≠ draftKey b :=
  fun hkey => h (taskKind_value_injective (congrArg Prod.fst hkey))

lemma kind_of_verify {goal : Goal} {draft : Draft} (h : draft ∈ verify goal) :
    draft.kind = .verify := by
  unfold verify at h
  split at h
  · cases h
  all_goals
    rw [List.mem_singleton.mp h]
    rfl

lemma kind_ne_reflect {recallTarget : String → Option String} {goal : Goal} {tasks : List Draft}
    (h : intentTasks recallTarget goal = some tasks) {draft : Draft}
    (hdraft : draft ∈ understand goal :: (tasks ++ verify goal)) : draft.kind ≠ .reflect := by
  rcases List.mem_cons.mp hdraft with rfl | hdraft
  · exact fun hkind => (by cases hkind)
  · rcases List.mem_append.mp hdraft with hdraft | hdraft
    · rcases kind_of_intentTasks h hdraft with hkind | hkind <;>
        exact fun hreflect => (by cases hkind.symm.trans hreflect)
    · exact fun hreflect => (by cases (kind_of_verify hdraft).symm.trans hreflect)

lemma nodup_keys_iff {recallTarget : String → Option String} {goal : Goal} {tasks : List Draft}
    (h : intentTasks recallTarget goal = some tasks) :
    ((understand goal :: (tasks ++ verify goal) ++ [reflect]).map draftKey).Nodup ↔
      (resourceAction goal ≠ none → ((paths goal).map label).Nodup) := by
  rw [← nodup_intentKeys_iff h]
  have hverify : ((verify goal).map draftKey).Nodup := by
    unfold verify
    split
    · exact List.nodup_nil
    · exact List.nodup_singleton _
    · exact List.nodup_singleton _
  have hkinds : ∀ draft ∈ tasks ++ verify goal, draft.kind ≠ .understand := by
    intro draft hdraft hkind
    rcases List.mem_append.mp hdraft with hdraft | hdraft
    · rcases kind_of_intentTasks h hdraft with hother | hother <;> cases hkind.symm.trans hother
    · cases hkind.symm.trans (kind_of_verify hdraft)
  constructor
  · intro hnodup
    refine hnodup.sublist (List.Sublist.map _ ?_)
    exact ((List.sublist_append_left _ _).cons _).trans (List.sublist_append_left _ _)
  · intro hnodup
    rw [List.map_append, List.nodup_append, List.map_cons, List.nodup_cons, List.map_append,
      List.nodup_append]
    refine ⟨⟨fun hmem => ?_, hnodup, hverify, ?_⟩, List.nodup_singleton _, ?_⟩
    · rw [← List.map_append] at hmem
      obtain ⟨draft, hdraft, hkey⟩ := List.mem_map.mp hmem
      exact draftKey_ne_of_kind (hkinds draft hdraft) hkey
    · rintro a ha b hb rfl
      obtain ⟨first, hfirst, rfl⟩ := List.mem_map.mp ha
      obtain ⟨second, hsecond, hkey⟩ := List.mem_map.mp hb
      refine draftKey_ne_of_kind (fun hkind => ?_) hkey
      rw [kind_of_verify hsecond] at hkind
      rcases kind_of_intentTasks h hfirst with hother | hother <;> cases hkind.trans hother
    · rintro a ha b hb rfl
      rw [← List.map_append, ← List.map_cons] at ha
      obtain ⟨draft, hdraft, hkey⟩ := List.mem_map.mp ha
      exact draftKey_ne_of_kind (kind_ne_reflect h hdraft)
        (hkey.trans (List.mem_singleton.mp hb))

/-! ## What the optimizer leaves of the chain -/

lemma chained_append (newTaskId : ℕ → String) (n : ℕ) (deps : List String)
    (first : List Draft) (last : Draft) :
    ∃ before id before', chained newTaskId n deps (first ++ [last]) =
        before ++ [last.task id before'] ∧ before.map taskKey = first.map draftKey := by
  induction first generalizing n deps with
  | nil => exact ⟨[], newTaskId n, deps, rfl, rfl⟩
  | cons draft first ih =>
      obtain ⟨before, id, before', heq, hkeys⟩ := ih (n + 1) [newTaskId n]
      refine ⟨draft.task (newTaskId n) deps :: before, id, before', ?_, ?_⟩
      · rw [List.cons_append, chained, heq, List.cons_append]
      · rw [List.map_cons, List.map_cons, hkeys]
        rfl

lemma exists_decomposed {withContext : Bool} {goal : Goal} {tasks : List PlanTask}
    (h : planner.draftTasks withContext goal = some tasks) :
    ∃ intent all, intentTasks planner.recallTarget goal = some intent ∧
      all = chained planner.newTaskId 0 []
        (understand goal :: (intent ++ verify goal) ++ [reflect]) ∧
      decompose planner.newTaskId planner.recallTarget goal = some all ∧
      tasks = if withContext then optimize all else all := by
  obtain ⟨all, hall, rfl⟩ := Option.map_eq_some_iff.mp h
  obtain ⟨ds, hds, rfl⟩ := Option.map_eq_some_iff.mp hall
  obtain ⟨intent, hintent, rfl⟩ := Option.map_eq_some_iff.mp hds
  exact ⟨intent, _, hintent, rfl, hall, rfl⟩

lemma newTaskId_injective (hids : Function.Injective planner.uuid4) :
    Function.Injective planner.newTaskId := by
  intro a b h
  exact hids (by simpa [newTaskId] using h)

/-- The reflection is never dropped, so nothing can be dropped without leaving a dependency on
it. -/
lemma closed_iff (hids : Function.Injective planner.uuid4) {withContext : Bool} {goal : Goal}
    {tasks : List PlanTask} (h : planner.draftTasks withContext goal = some tasks) :
    (Chain.Closed PlanTask.taskId PlanTask.dependencies tasks ↔
      (withContext = true → resourceAction goal ≠ none → ((paths goal).map label).Nodup)) ∧
    (Chain.Closed PlanTask.taskId PlanTask.dependencies tasks →
      decompose planner.newTaskId planner.recallTarget goal = some tasks) := by
  obtain ⟨intent, all, hintent, hall, hdecompose, rfl⟩ := exists_decomposed h
  have hlinked := linked_decompose (newTaskId_injective hids) hdecompose
  cases withContext with
  | false => exact ⟨iff_of_true hlinked.closed fun hfalse => (by cases hfalse), fun _ => hdecompose⟩
  | true =>
      obtain ⟨before, id, deps, heq, hkeys⟩ := chained_append planner.newTaskId 0 []
        (understand goal :: (intent ++ verify goal)) reflect
      rw [← hall] at heq
      have hlast : ∀ task, all.getLast? = some task → task ∈ optimize all := by
        intro task htask
        rw [heq, List.getLast?_concat, Option.some.injEq] at htask
        rw [heq, ← htask]
        refine Chain.mem_firstOnly_append List.not_mem_nil fun b hb hkey => ?_
        have hmem : taskKey b ∈ (understand goal :: (intent ++ verify goal)).map draftKey :=
          hkeys ▸ List.mem_map_of_mem hb
        obtain ⟨draft, hdraft, hdraftKey⟩ := List.mem_map.mp hmem
        exact draftKey_ne_of_kind (b := reflect) (kind_ne_reflect hintent hdraft)
          (hdraftKey.trans hkey)
      have hsub : List.Sublist (optimize all) all := Chain.firstOnly_sublist taskKey [] all
      have hkept : Chain.Closed PlanTask.taskId PlanTask.dependencies (optimize all) ↔
          optimize all = all :=
        ⟨hlinked.eq_of_closed hsub hlast, fun hsame => hsame.symm ▸ hlinked.closed⟩
      have hnodup : optimize all = all ↔
          (resourceAction goal ≠ none → ((paths goal).map label).Nodup) := by
        rw [optimize, Chain.firstOnly_eq_self_iff, hall, taskKey_chained]
        exact nodup_keys_iff hintent
      refine ⟨?_, fun hclosed => ?_⟩
      · rw [if_pos rfl, hkept, hnodup]
        exact ⟨fun hl _ => hl, fun hl => hl rfl⟩
      · rw [if_pos rfl] at hclosed ⊢
        rw [hkept.mp hclosed]
        exact hdecompose

/-! ## What each task is the target of -/

lemma resolveField_path {workspace field : String} {args args' : Dict Key Value}
    (h : planner.resolveField workspace field args = .ok args')
    (hpath : (Dict.get? args (.str "path")).isSome) : (Dict.get? args' (.str "path")).isSome := by
  unfold resolveField at h
  split at h
  · split at h
    · rename_i value _ _
      cases hresolved : planner.resolveResourcePath (planner.strOf value) workspace
          ((Dict.get? args (.str "target_root")).getD .none) with
      | error e =>
          rw [hresolved] at h
          cases h
      | ok path =>
          rw [hresolved] at h
          obtain rfl := Except.ok.inj h
          rw [Dict.get?_set]
          split
          · rfl
          · exact hpath
    · exact Except.ok.inj h ▸ hpath
  · exact Except.ok.inj h ▸ hpath

lemma resolveArgs_path {args args' : Dict Key Value}
    (h : planner.resolveArgs args = .ok args')
    (hpath : (Dict.get? args (.str "path")).isSome) : (Dict.get? args' (.str "path")).isSome := by
  unfold resolveArgs at h
  split at h
  · exact Except.ok.inj h ▸ hpath
  · rename_i workspace _
    cases hfirst : planner.resolveField workspace "path" args with
    | error e =>
        rw [hfirst] at h
        cases h
    | ok middle =>
        rw [hfirst] at h
        exact resolveField_path h (resolveField_path hfirst hpath)

lemma isSome_setDefault {args : Dict Key Value} {key : Key} (other : Key) (value : Value)
    (h : (Dict.get? args key).isSome) :
    (Dict.get? (Dict.setDefault args other value) key).isSome := by
  unfold Dict.setDefault
  split
  · exact h
  · rw [Dict.get?_set]
    split
    · rfl
    · exact h

lemma resourceArgs_path (goal : Goal) (p : String) :
    (Dict.get? (resourceArgs goal p) (.str "path")).isSome := by
  have hset : ∀ (args : Dict Key Value) (value : Value),
      (Dict.get? (Dict.set args (.str "path") value) (.str "path")).isSome := by
    intro args value
    rw [Dict.get?_set_self]
    rfl
  unfold resourceArgs
  dsimp only
  split
  · split
    · exact hset _ _
    · exact isSome_setDefault _ _ (hset _ _)
  · exact hset _ _

lemma bound_resolverTask {goal : Goal} {action p id : String} {deps : List String}
    {bound : PlanTask} (h : planner.Bound ((resolverTask goal action p).task id deps) bound) :
    bound.executionActionType = "tool" ∧ metadataText bound "tool" = some "resolver" ∧
      metadataText bound "action" = some action ∧
      planner.resolveArgs (resourceArgs goal p) = .ok (argsOf bound) := by
  have hsame : planner.resolveToolId ((resolverTask goal action p).task id deps) =
      (resolverTask goal action p).task id deps := by
    rw [resolveToolId, if_neg]
    exact fun hnone => Bool.false_ne_true hnone.2
  rw [Bound, hsame] at h
  have hargs : argsOf ((resolverTask goal action p).task id deps) = resourceArgs goal p := rfl
  rcases resolveDestination_cases h with rfl | ⟨args, hresolved, rfl⟩
  · refine ⟨rfl, rfl, rfl, ?_⟩
    unfold resolveDestination at h
    split at h
    · cases hresolved :
        planner.resolveArgs (argsOf ((resolverTask goal action p).task id deps)) with
      | error e =>
          rw [hresolved] at h
          cases h
      | ok args =>
          rw [hresolved] at h
          have hkept := Except.ok.inj h
          rw [← hargs, hresolved, ← hkept, argsOf, Dict.get?_set_self]
    · rename_i hskip
      have hroot : planner.defaultRoot = none := by
        by_contra hsome
        exact hskip ⟨hsome, rfl⟩
      rw [resolveArgs, hroot]
      rfl
  · rw [hargs] at hresolved
    exact ⟨rfl, rfl, rfl, hresolved⟩

lemma changes_resolverTask {goal : Goal} {action p id : String} {deps : List String}
    {bound : PlanTask} (h : planner.Bound ((resolverTask goal action p).task id deps) bound)
    (haction : isChanging action = true) :
    (∃ target, planner.targetOf goal p = .ok (some target)) ∧
      ∀ target, Changes bound target ↔ planner.targetOf goal p = .ok (some target) := by
  obtain ⟨htype, htool, hact, hargs⟩ := bound_resolverTask h
  have htarget : planner.targetOf goal p = .ok (Dict.get? (argsOf bound) (.str "path")) := by
    rw [targetOf, hargs]
    rfl
  refine ⟨?_, fun target => ?_⟩
  · obtain ⟨target, hget⟩ := Option.isSome_iff_exists.mp
      (resolveArgs_path hargs (resourceArgs_path goal p))
    exact ⟨target, htarget.trans (congrArg _ hget)⟩
  · rw [htarget, Except.ok.injEq]
    refine ⟨fun hchanges => hchanges.path, fun hget => ⟨htype, ?_, ?_, hget⟩⟩
    · rw [htool]
      rfl
    · rw [hact]
      exact haction

lemma written_of_bound {newTaskId : ℕ → String} {n : ℕ} {deps : List String}
    {drafts : List Draft} {bound : List PlanTask}
    (h : List.Forall₂ planner.Bound (chained newTaskId n deps drafts) bound) :
    List.Forall₂ (fun draft task => ∃ id deps, planner.Bound (Draft.task draft id deps) task)
      drafts bound := by
  induction drafts generalizing n deps bound with
  | nil =>
      cases h
      exact .nil
  | cons draft drafts ih =>
      cases h with
      | cons hhead htail => exact .cons ⟨_, _, hhead⟩ (ih htail)

lemma exists_append_of_forall₂ {α β : Type*} {R : α → β → Prop} {xs ys : List α} {zs : List β}
    (h : List.Forall₂ R (xs ++ ys) zs) :
    ∃ as bs, zs = as ++ bs ∧ List.Forall₂ R xs as ∧ List.Forall₂ R ys bs := by
  induction xs generalizing zs with
  | nil => exact ⟨[], zs, rfl, .nil, h⟩
  | cons x xs ih =>
      cases h with
      | cons hhead htail =>
          obtain ⟨as, bs, rfl, hxs, hys⟩ := ih htail
          exact ⟨_ :: as, bs, rfl, .cons hhead hxs, hys⟩

lemma not_changes_of_written {ds : List Draft} {tasks : List PlanTask}
    (h : List.Forall₂ (fun draft task => ∃ id deps, planner.Bound (Draft.task draft id deps) task)
      ds tasks)
    (htext : ∀ draft ∈ ds, draft.executionActionType = "text_generation") {task : PlanTask}
    (htask : task ∈ tasks) (target : Value) : ¬ Changes task target := by
  induction h with
  | nil => cases htask
  | cons hhead _ ih =>
      rcases List.mem_cons.mp htask with rfl | htask
      · obtain ⟨id, deps, hbound⟩ := hhead
        intro hchanges
        have htype := hbound.actionType_eq.symm.trans hchanges.actionType
        exact absurd ((htext _ List.mem_cons_self).symm.trans htype) (by decide)
      · exact ih (fun draft hdraft => htext draft (List.mem_cons_of_mem _ hdraft)) htask

lemma actionType_of_verify {goal : Goal} {draft : Draft} (h : draft ∈ verify goal) :
    draft.executionActionType = "text_generation" := by
  unfold verify at h
  split at h
  · cases h
  all_goals
    rw [List.mem_singleton.mp h]
    rfl

lemma reasonOver_of_changing {goal : Goal} {action : String}
    (haction : resourceAction goal = some action) (hchanging : isChanging action = true) :
    reasonOver goal action = [] := by
  unfold reasonOver
  split
  all_goals first
    | rfl
    | (rename_i hintent
       rw [resourceAction, hintent] at haction
       obtain rfl := Option.some.inj haction
       exact absurd hchanging (by decide))

/-- Where nothing was dropped, the resources are the targets of one task each exactly if they are
distinct. -/
lemma targeted_iff {goal : Goal} {action : String} {tasks bound front : List PlanTask}
    (haction : resourceAction goal = some action) (hchanging : isChanging action = true)
    (hdecompose : decompose planner.newTaskId planner.recallTarget goal = some tasks)
    (hbound : List.Forall₂ planner.Bound tasks bound) (hnodup : bound.Nodup)
    (hfront : ∀ task ∈ front, ∀ target, ¬ Changes task target) :
    (∀ p ∈ paths goal, ∃ target, planner.targetOf goal p = .ok (some target) ∧
      ∃! task, task ∈ front ++ bound ∧ Changes task target) ↔
      ((paths goal).map (planner.targetOf goal)).Nodup := by
  obtain ⟨ds, hds, rfl⟩ := Option.map_eq_some_iff.mp hdecompose
  rw [drafts, intentTasks_of_action haction, reasonOver_of_changing haction hchanging,
    List.append_nil] at hds
  obtain rfl := Option.some.inj hds
  have hwritten := written_of_bound hbound
  dsimp only at hwritten
  rw [List.cons_append, List.append_assoc] at hwritten
  obtain ⟨before, rest, rfl, hfirst, hrest⟩ :=
    exists_append_of_forall₂ (show List.Forall₂ _ ([understand goal] ++ _) bound from hwritten)
  obtain ⟨resolvers, last, rfl, hresolvers, hlast⟩ := exists_append_of_forall₂ hrest
  have hmeets : List.Forall₂ (fun p task => ∀ r,
      (∃ target, r = .ok (some target) ∧ Changes task target) ↔ r = planner.targetOf goal p)
      (paths goal) resolvers := by
    refine (List.forall₂_map_left_iff.mp hresolvers).imp fun p task hwrite r => ?_
    obtain ⟨id, deps, hwrite⟩ := hwrite
    obtain ⟨⟨target, htarget⟩, hchanges⟩ := changes_resolverTask hwrite hchanging
    constructor
    · rintro ⟨other, rfl, hother⟩
      exact ((hchanges other).mp hother).symm
    · rintro rfl
      exact ⟨target, htarget, (hchanges target).mpr htarget⟩
  have hothers : ∀ task ∈ front ++ (before ++ (resolvers ++ last)), ∀ target,
      Changes task target → task ∈ resolvers := by
    intro task htask target hchanges
    have hend : ∀ draft ∈ verify goal ++ [reflect],
        draft.executionActionType = "text_generation" := by
      intro draft hdraft
      rcases List.mem_append.mp hdraft with hdraft | hdraft
      · exact actionType_of_verify hdraft
      · rw [List.mem_singleton.mp hdraft]
        rfl
    rcases List.mem_append.mp htask with htask | htask
    · exact absurd hchanges (hfront task htask target)
    · rcases List.mem_append.mp htask with htask | htask
      · exact absurd hchanges (not_changes_of_written hfirst
          (fun draft hdraft => List.mem_singleton.mp hdraft ▸ rfl) htask target)
      · exact (List.mem_append.mp htask).resolve_right fun hmem =>
          not_changes_of_written hlast hend hmem target hchanges
  have hresolverNodup : resolvers.Nodup :=
    (List.nodup_append.mp (List.nodup_append.mp hnodup).2.1).1
  rw [← Chain.existsUnique_iff_nodup hresolverNodup hmeets]
  refine forall₂_congr fun p _ => ⟨?_, ?_⟩
  · rintro ⟨target, htarget, task, ⟨htask, hchanges⟩, hunique⟩
    refine ⟨task, ⟨hothers task htask target hchanges, target, htarget, hchanges⟩, ?_⟩
    rintro other ⟨hother, found, hfound, hfoundChanges⟩
    obtain rfl := Option.some.inj (Except.ok.inj (hfound.symm.trans htarget))
    refine hunique other ⟨?_, hfoundChanges⟩
    exact List.mem_append_right _ (List.mem_append_right _ (List.mem_append_left _ hother))
  · rintro ⟨task, ⟨htask, target, htarget, hchanges⟩, hunique⟩
    refine ⟨target, htarget, task, ⟨?_, hchanges⟩, ?_⟩
    · exact List.mem_append_right _ (List.mem_append_right _ (List.mem_append_left _ htask))
    · rintro other ⟨hother, hotherChanges⟩
      exact hunique other
        ⟨hothers other hother target hotherChanges, target, htarget, hotherChanges⟩

/-! ## The plan -/

lemma not_changes_skillTask (skill : SkillRecord Rate) (target : Value) :
    ¬ Changes (skillTask skill) target :=
  fun hchanges => absurd hchanges.actionType (by simp [skillTask])

lemma skillTaskId_ne (skill : SkillRecord Rate) (n : ℕ) :
    (skillTask skill).taskId ≠ planner.newTaskId n := by
  intro heq
  have hhead := congrArg (fun text : String => text.toList.head?) heq
  simp only [skillTask, newTaskId, String.toList_append, List.head?_append] at hhead
  rw [show "skill-".toList.head? = some 's' from rfl,
    show "task-".toList.head? = some 't' from rfl] at hhead
  exact absurd (Option.some.inj hhead) (by decide)

lemma nodup_front_iff (request : String) :
    ((((planner.injected request).map skillTask).reverse).map PlanTask.taskId).Nodup ↔
      ((planner.injected request).map SkillRecord.skillId).Nodup := by
  have hmap : ((planner.injected request).map skillTask).map PlanTask.taskId =
      ((planner.injected request).map SkillRecord.skillId).map ("skill-" ++ ·) := by
    rw [List.map_map, List.map_map]
    rfl
  rw [List.map_reverse, List.nodup_reverse, hmap]
  exact List.nodup_map_iff fun a b hab => by simpa using hab

lemma wellFormed_planned (hids : Function.Injective planner.uuid4) {request : String}
    {withContext : Bool} {goal : Goal} {plan : ExecutionPlan} {tasks bound : List PlanTask}
    (htasks : planner.draftTasks withContext goal = some tasks)
    (hbound : List.Forall₂ planner.Bound tasks bound)
    (hplan : plan.tasks = ((planner.injected request).map skillTask).reverse ++ bound) :
    WellFormed plan ↔ ((planner.injected request).map SkillRecord.skillId).Nodup ∧
      Chain.Closed PlanTask.taskId PlanTask.dependencies tasks := by
  obtain ⟨intent, all, -, hall, hdecompose, hkept⟩ := exists_decomposed htasks
  have hlinked := linked_decompose (newTaskId_injective hids) hdecompose
  have hsub : List.Sublist tasks all := by
    rw [hkept]
    split
    · exact Chain.firstOnly_sublist taskKey [] all
    · exact List.Sublist.refl all
  have hdrawn : ∀ id ∈ all.map PlanTask.taskId, ∃ n, id = planner.newTaskId n := by
    intro id hid
    rw [hall, taskIds_chained] at hid
    obtain ⟨n, -, rfl⟩ := List.mem_map.mp hid
    exact ⟨n, rfl⟩
  have hids' : (tasks.map shape).map Prod.fst = tasks.map PlanTask.taskId := by
    simp [shape, Function.comp_def]
  have hskill : ∀ task ∈ ((planner.injected request).map skillTask).reverse,
      task.dependencies = [] ∧ task.taskId ∉ all.map PlanTask.taskId := by
    intro task htask
    obtain ⟨skill, -, rfl⟩ := List.mem_map.mp (List.mem_reverse.mp htask)
    refine ⟨rfl, fun hmem => ?_⟩
    obtain ⟨n, hn⟩ := hdrawn _ hmem
    exact skillTaskId_ne skill n hn
  have hclosed : Chain.Closed PlanTask.taskId PlanTask.dependencies tasks ↔
      Chain.Closed Prod.fst Prod.snd (tasks.map shape) := by
    rw [Chain.closed_map_iff]
    rfl
  rw [hclosed, ← nodup_front_iff request]
  refine wellFormed_front_iff ?_ (fun task htask => (hskill task htask).1) ?_ (fun id hcycle => ?_)
    (fun task htask hmem => ?_) (fun task htask x hx hmem => ?_)
  · rw [hplan, List.map_append, map_shape_of_bound hbound]
  · rw [hids']
    exact hlinked.nodup.sublist (hsub.map _)
  · refine hlinked.acyclic hsub.subset id (TransGen.mono (fun a b hedge => ?_) _ _ hcycle)
    exact (Chain.edge_map_iff (f := shape)).mp hedge
  · rw [hids'] at hmem
    exact (hskill task htask).2 ((hsub.map _).subset hmem)
  · obtain ⟨kept, hkeptMem, rfl⟩ := List.mem_map.mp hx
    exact (hskill task htask).2 (hlinked.closed kept (hsub.subset hkeptMem) _ hmem)

/-- Where nothing was dropped, the targets of a plan are met once each exactly if they are
distinct. -/
lemma targeted_planned (hids : Function.Injective planner.uuid4) {request : String}
    {withContext : Bool} {goal : Goal} {plan : ExecutionPlan} {tasks bound : List PlanTask}
    (htasks : planner.draftTasks withContext goal = some tasks)
    (hbound : List.Forall₂ planner.Bound tasks bound)
    (hplan : plan.tasks = ((planner.injected request).map skillTask).reverse ++ bound)
    (hclosed : Chain.Closed PlanTask.taskId PlanTask.dependencies tasks) {action : String}
    (haction : resourceAction goal = some action) (hchanging : isChanging action = true) :
    (∀ p ∈ paths goal, ∃ target, planner.targetOf goal p = .ok (some target) ∧
      ∃! task, task ∈ plan.tasks ∧ Changes task target) ↔
      ((paths goal).map (planner.targetOf goal)).Nodup := by
  have hdecompose := (closed_iff hids htasks).2 hclosed
  have hlinked := linked_decompose (newTaskId_injective hids) hdecompose
  have hnodup : bound.Nodup := by
    refine List.Nodup.of_map shape ?_
    rw [map_shape_of_bound hbound]
    refine List.Nodup.of_map Prod.fst ?_
    rw [List.map_map]
    exact hlinked.nodup
  rw [hplan]
  refine targeted_iff haction hchanging hdecompose hbound hnodup fun task htask target => ?_
  obtain ⟨skill, -, rfl⟩ := List.mem_map.mp (List.mem_reverse.mp htask)
  exact not_changes_skillTask skill target

/-- A plan has distinct task ids, names only its own tasks as dependencies, has no circle and, for
a goal that changes resources, one task for each resource, exactly if no skill is found twice, no
two resources resolve to one target and, with a planning context, no two paths have one label. -/
theorem plan_sound_iff (hids : Function.Injective planner.uuid4) {request : String}
    {withContext : Bool} {goal : Option Goal} {plan : ExecutionPlan}
    (h : planner.planWithCapabilityCheck request withContext goal = some (.ok plan)) :
    planner.PlanSound (goal.getD (planner.parse request)) plan ↔
      planner.Unrepeated request withContext (goal.getD (planner.parse request)) := by
  obtain ⟨tasks, bound, htasks, hbound, hplan⟩ := planned h
  have hlabels := (closed_iff hids htasks).1
  have hwellFormed := wellFormed_planned hids htasks hbound hplan
  constructor
  · intro hsound
    obtain ⟨hskills, hclosed⟩ := hwellFormed.mp hsound.wellFormed
    refine ⟨hlabels.mp hclosed, fun hchanging => ?_, hskills⟩
    have htargeted := hsound.targeted hchanging
    obtain ⟨action, haction, hact⟩ := hchanging
    exact (targeted_planned hids htasks hbound hplan hclosed haction hact).mp htargeted
  · intro hunrepeated
    have hclosed := hlabels.mpr hunrepeated.labels
    refine ⟨hwellFormed.mpr ⟨hunrepeated.skills, hclosed⟩, fun hchanging => ?_⟩
    have htargets := hunrepeated.targets hchanging
    obtain ⟨action, haction, hact⟩ := hchanging
    exact (targeted_planned hids htasks hbound hplan hclosed haction hact).mpr htargets

/-! ### Two files, and one file twice -/

/-- A planner with the filesystem installed, working in one directory. -/
def samplePlanner : Planner (ℤ × ℤ) where
  uuid4 n := String.ofList (List.replicate n '0')
  parse request := { rawRequest := request }
  recallTarget _ := none
  isWord c := c.isAlphanum || c = '_'
  registry := .ofEntries [{ domain := "filesystem", toolId := some "filesystem" }] none
  platform := {
    isAbsolute := fun path => ['/'].isPrefixOf path.toList
    join := fun root path => root ++ "/" ++ path
    resolve := .ok
    knownLocation := fun _ => .error "unknown location"
    textOf := fun _ => "" }
  defaultRoot := some "/work"

/-- The goal to write a text to two paths. -/
def writeGoal (first second : String) : Goal where
  rawRequest := "create files " ++ first ++ ", " ++ second ++ " with content: hi"
  intent := .writeResource
  targetPath := some (first ++ "|" ++ second)
  query := some "hi"
  intentAction := some "write"
  intentArguments := [
    (.str "operation", .enum "file_create"), (.str "overwrite", .bool false),
    (.str "path", .str first), (.str "format", .str "txt"), (.str "content", .str "hi")]

lemma uuid4_injective : Function.Injective samplePlanner.uuid4 := by
  intro a b h
  have hlength := congrArg (fun text : String => text.toList.length) h
  simpa [samplePlanner] using hlength

/-- What is planned for a goal of two paths. -/
def samplePlan (withContext : Bool) (goal : Goal) : Option ExecutionPlan :=
  (samplePlanner.planWithCapabilityCheck goal.rawRequest withContext (some goal)).bind
    PlannerResult.plan?

lemma planned_of_sample {withContext : Bool} {goal : Goal} {plan : ExecutionPlan}
    (h : samplePlan withContext goal = some plan) :
    samplePlanner.planWithCapabilityCheck goal.rawRequest withContext (some goal) =
      some (.ok plan) := by
  obtain ⟨result, hresult, hplan⟩ := Option.bind_eq_some_iff.mp h
  cases result with
  | ok found =>
      obtain rfl := Option.some.inj hplan
      exact hresult
  | capabilityUnavailable _ => cases hplan
  | needsInput _ _ => cases hplan

/-- Two files are written by one task each, with or without a planning context. -/
theorem plan_sound_sample : ∃ plan,
    samplePlan true (writeGoal "a.txt" "b.txt") = some plan ∧
      samplePlanner.PlanSound (writeGoal "a.txt" "b.txt") plan := by
  obtain ⟨plan, hplan⟩ := Option.isSome_iff_exists.mp
    (show (samplePlan true (writeGoal "a.txt" "b.txt")).isSome = true by decide +kernel)
  refine ⟨plan, hplan, ?_⟩
  have hsound := plan_sound_iff uuid4_injective (planned_of_sample hplan)
  rw [Option.getD_some] at hsound
  refine hsound.mpr ?_
  have hpaths : paths (writeGoal "a.txt" "b.txt") = ["a.txt", "b.txt"] := by decide +kernel
  refine ⟨fun _ _ => by decide +kernel, fun _ => ?_, List.nodup_nil⟩
  have hne : samplePlanner.targetOf (writeGoal "a.txt" "b.txt") "a.txt" ≠
      samplePlanner.targetOf (writeGoal "a.txt" "b.txt") "b.txt" := by
    intro heq
    have htext : (samplePlanner.targetOf (writeGoal "a.txt" "b.txt") "a.txt").toOption.map
          (Option.bind · Value.str?) =
        (samplePlanner.targetOf (writeGoal "a.txt" "b.txt") "b.txt").toOption.map
          (Option.bind · Value.str?) := by rw [heq]
    exact absurd htext (by decide +kernel)
  rw [hpaths]
  simpa using hne

/-- One file that is named twice: with a planning context the plan depends on a task that is gone,
and without one the file is written twice. -/
theorem plan_unsound :
    (∃ plan, samplePlan true (writeGoal "a.txt" "a.txt") = some plan ∧ ¬ WellFormed plan) ∧
      ∃ plan, samplePlan false (writeGoal "a.txt" "a.txt") = some plan ∧
        ¬ samplePlanner.PlanSound (writeGoal "a.txt" "a.txt") plan := by
  constructor
  · obtain ⟨plan, hplan⟩ := Option.isSome_iff_exists.mp
      (show (samplePlan true (writeGoal "a.txt" "a.txt")).isSome = true by decide +kernel)
    refine ⟨plan, hplan, fun hwellFormed => ?_⟩
    obtain ⟨tasks, bound, htasks, hbound, htasksEq⟩ := planned (planned_of_sample hplan)
    have hclosed :=
      ((wellFormed_planned uuid4_injective htasks hbound htasksEq).mp hwellFormed).2
    have hlabels := (closed_iff uuid4_injective htasks).1.mp hclosed rfl
      (fun hnone => (by cases hnone))
    exact absurd hlabels (by decide +kernel)
  · obtain ⟨plan, hplan⟩ := Option.isSome_iff_exists.mp
      (show (samplePlan false (writeGoal "a.txt" "a.txt")).isSome = true by decide +kernel)
    refine ⟨plan, hplan, fun hsound => ?_⟩
    obtain ⟨tasks, bound, htasks, hbound, htasksEq⟩ := planned (planned_of_sample hplan)
    have hclosed := (closed_iff uuid4_injective htasks).1.mpr fun hfalse => (by cases hfalse)
    have hwrite : resourceAction (writeGoal "a.txt" "a.txt") = some "write" := rfl
    have hchanging : isChanging "write" = true := by decide +kernel
    have htargets := (targeted_planned uuid4_injective htasks hbound htasksEq hclosed hwrite
      hchanging).mp (hsound.targeted ⟨"write", hwrite, hchanging⟩)
    have hpaths : paths (writeGoal "a.txt" "a.txt") = ["a.txt", "a.txt"] := by decide +kernel
    have htwice : ((paths (writeGoal "a.txt" "a.txt")).map
        (samplePlanner.targetOf (writeGoal "a.txt" "a.txt"))).Nodup := htargets
    rw [hpaths] at htwice
    simp at htwice

end Planner

end Samaktha
