import Samaktha.Foundation.EventLog
import Samaktha.Foundation.Value
import Samaktha.Tools.Dispatcher

/-!
# Tool chains

`ToolChainExecutor.execute_chain`: the steps are put into batches before any of them runs, and then
run one after the other.  `ToolManager.execute_tool` is a parameter that reads and changes a state
of its own, so that every tool with every effect is covered; what each step's executions return
is kept in a log.

A dependency names an id, and it is met when some step with that id is done, so the batches are
found in rounds (`available`).  Where ids repeat, a step may run before another step whose id it
names; `orderly_iff` says when it does not.  A chain whose steps never all become ready raises
before anything has run.

Metrics, traces and durations are left out, and so is a step's `optional_timeout`, which nothing
reads.
-/

namespace Samaktha

inductive ToolFailurePolicy where
  | stopOnFailure
  | continueOnFailure
  | retryFailedStep
  deriving DecidableEq, Repr

structure ToolStep (Parameters : Type) where
  stepId : String
  toolName : String
  parameters : Parameters
  dependsOn : List String := []
  description : String := ""
  deriving DecidableEq

structure ToolChain (Parameters : Type) where
  chainId : String := ""
  steps : List (ToolStep Parameters)
  maxSteps : ℤ := 10
  failurePolicy : ToolFailurePolicy := .stopOnFailure

structure ToolOutput where
  ok : Bool
  data : Value := .none
  error : Option String := none

structure ToolExecutionResult where
  stepId : String
  toolName : String
  success : Bool
  output : Value := .none
  error : Option String := none

namespace ToolChain

variable {P : Type}

/-! ## The order of the steps -/

/-- The steps whose dependencies are completed. -/
def readySteps (completed : List String) (pending : List (ToolStep P)) : List (ToolStep P) :=
  pending.filter fun step => step.dependsOn.all (· ∈ completed)

/-- The loop of `_resolve_execution_order`. -/
def resolveFrom [DecidableEq P] : ℕ → List String → List (ToolStep P) →
    Option (List (List (ToolStep P)))
  | _, _, [] => some []
  | 0, _, _ => none
  | fuel + 1, completed, pending =>
      let batch := readySteps completed pending
      if batch = [] then none
      else
        (resolveFrom fuel (completed ++ batch.map ToolStep.stepId)
          (batch.foldl List.erase pending)).map (batch :: ·)

/-- `_resolve_execution_order`, which raises where this is `none`. -/
def resolveExecutionOrder [DecidableEq P] (steps : List (ToolStep P)) :
    Option (List (List (ToolStep P))) :=
  resolveFrom steps.length [] steps

/-! ## Running the steps -/

variable {W : Type} (execute : W → String → P → ToolOutput × W)

/-- A step and what its executions reported, in order. -/
structure StepRun (P : Type) where
  step : ToolStep P
  reports : List Bool

/-- The loop of `_execute_step_with_retry`: the result, the reports, and the state after it. -/
def attempts (step : ToolStep P) : ℕ → W → ToolExecutionResult × List Bool × W
  | 0, world =>
      (⟨step.stepId, step.toolName, false, .none, some "Max retries reached"⟩, [], world)
  | left + 1, world =>
      let (raw, world) := execute world step.toolName step.parameters
      if raw.ok then
        (⟨step.stepId, step.toolName, true, raw.data, none⟩, [true], world)
      else if left = 0 then
        let error := match raw.error with
          | some text => if text = "" then "Unknown error" else text
          | none => "Unknown error"
        (⟨step.stepId, step.toolName, false, .none, some error⟩, [false], world)
      else
        let (result, reports, world) := attempts step left world
        (result, false :: reports, world)

/-- How often a step is executed at most. -/
def maxAttempts : ToolFailurePolicy → ℕ
  | .retryFailedStep => 3
  | _ => 1

/-- What a chain returns or raises, the runs of its steps, and the state after it. -/
structure ChainReport (P W : Type) where
  outcome : Except String (List ToolExecutionResult)
  runs : List (StepRun P)
  world : W

/-- The loop over the batches. -/
def runSteps (policy : ToolFailurePolicy) : List (ToolStep P) → W → ChainReport P W
  | [], world => ⟨.ok [], [], world⟩
  | step :: rest, world =>
      let (result, reports, world) := attempts execute step (maxAttempts policy) world
      if result.success = false ∧ policy = .stopOnFailure then
        ⟨.error ("Step " ++ step.stepId ++ " failed and STOP_ON_FAILURE is set."),
          [⟨step, reports⟩], world⟩
      else
        let report := runSteps policy rest world
        ⟨report.outcome.map (result :: ·), ⟨step, reports⟩ :: report.runs, report.world⟩

def executeChain [DecidableEq P] (chain : ToolChain P) (world : W) : ChainReport P W :=
  if chain.maxSteps < chain.steps.length then
    ⟨.error ("ToolChain execution failed: Chain length (" ++ toString chain.steps.length ++
      ") exceeds max_steps (" ++ toString chain.maxSteps ++ ")"), [], world⟩
  else
    match resolveExecutionOrder chain.steps with
    | none => ⟨.error ("ToolChain execution failed: " ++
        "Cyclic dependency or missing dependency detected in ToolChain."), [], world⟩
    | some batches => runSteps execute chain.failurePolicy batches.flatten world

/-! ## Rounds -/

/-- The id is that of a step that can be done within so many rounds. -/
def available (steps : List (ToolStep P)) : ℕ → String → Bool
  | 0, _ => false
  | k + 1, id => steps.any fun step =>
      step.stepId = id && step.dependsOn.all (available steps k)

/-- The step can be done in the round after so many. -/
def readyAt (steps : List (ToolStep P)) (k : ℕ) (step : ToolStep P) : Bool :=
  step.dependsOn.all (available steps k)

/-- A step that never becomes ready. -/
def Stuck (steps : List (ToolStep P)) : Prop := ∃ step ∈ steps, ∀ k, readyAt steps k step = false

/-- A step names the id of another one. -/
def Names (step other : ToolStep P) : Prop := other.stepId ∈ step.dependsOn

/-- No step names its own id, becomes ready before a step whose id it names, or becomes ready
together with one that is listed after it. -/
structure Orderly (steps : List (ToolStep P)) : Prop where
  notSelf : ∀ step ∈ steps, ¬ Names step step
  notBefore : ∀ step ∈ steps, ∀ other ∈ steps, Names step other →
    ∀ k, readyAt steps k step = true → readyAt steps k other = true
  notTogether : steps.Pairwise fun step later => Names step later →
    ∃ k, readyAt steps k later = true ∧ readyAt steps k step = false

variable {steps : List (ToolStep P)}

lemma available_succ {k : ℕ} {id : String} (h : available steps k id = true) :
    available steps (k + 1) id = true := by
  induction k generalizing id with
  | zero => cases h
  | succ k ih =>
      obtain ⟨step, hstep, hready⟩ := List.any_eq_true.mp h
      obtain ⟨hid, hdeps⟩ := (Bool.and_eq_true _ _).mp hready
      refine List.any_eq_true.mpr ⟨step, hstep, (Bool.and_eq_true _ _).mpr ⟨hid, ?_⟩⟩
      exact List.all_eq_true.mpr fun dep hdep => ih (List.all_eq_true.mp hdeps dep hdep)

lemma available_mono {k l : ℕ} (hle : k ≤ l) {id : String} (h : available steps k id = true) :
    available steps l id = true := by
  induction hle with
  | refl => exact h
  | step _ ih => exact available_succ ih

lemma readyAt_mono {k l : ℕ} (hle : k ≤ l) {step : ToolStep P}
    (h : readyAt steps k step = true) : readyAt steps l step = true :=
  List.all_eq_true.mpr fun dep hdep => available_mono hle (List.all_eq_true.mp h dep hdep)

lemma available_of_readyAt {k : ℕ} {step : ToolStep P} (hstep : step ∈ steps)
    (h : readyAt steps k step = true) : available steps (k + 1) step.stepId = true :=
  List.any_eq_true.mpr ⟨step, hstep, (Bool.and_eq_true _ _).mpr ⟨decide_eq_true rfl, h⟩⟩

lemma available_stable {k : ℕ} (hstable : ∀ id, available steps (k + 1) id = true →
    available steps k id = true) (more : ℕ) {id : String}
    (h : available steps (k + more) id = true) : available steps k id = true := by
  induction more generalizing id with
  | zero => exact h
  | succ more ih =>
      obtain ⟨step, hstep, hready⟩ := List.any_eq_true.mp h
      obtain ⟨hid, hdeps⟩ := (Bool.and_eq_true _ _).mp hready
      refine hstable id (List.any_eq_true.mpr ⟨step, hstep, (Bool.and_eq_true _ _).mpr ⟨hid, ?_⟩⟩)
      exact List.all_eq_true.mpr fun dep hdep => ih (List.all_eq_true.mp hdeps dep hdep)

/-! ## Batches are rounds -/

/-- The step was ready in an earlier round. -/
def readyBefore (steps : List (ToolStep P)) : ℕ → ToolStep P → Bool
  | 0, _ => false
  | k + 1, step => readyAt steps k step

lemma readyAt_of_readyBefore {k : ℕ} {step : ToolStep P} (h : readyBefore steps k step = true) :
    readyAt steps k step = true := by
  cases k with
  | zero => cases h
  | succ k => exact readyAt_mono (Nat.le_succ k) h

/-- What the loop has done when so many rounds are over. -/
structure Rounds (steps : List (ToolStep P)) (k : ℕ) (completed : List String)
    (pending : List (ToolStep P)) : Prop where
  completed : ∀ id, id ∈ completed ↔ available steps k id = true
  pending : pending = steps.filter fun step => !readyBefore steps k step

variable {k : ℕ} {completed : List String} {pending : List (ToolStep P)}

lemma Rounds.readySteps (h : Rounds steps k completed pending) :
    readySteps completed pending = pending.filter (readyAt steps k) := by
  refine List.filter_congr fun step _ => ?_
  rw [Bool.eq_iff_iff, List.all_eq_true, readyAt, List.all_eq_true]
  refine forall₂_congr fun dep _ => ?_
  rw [decide_eq_true_eq, h.completed dep]

lemma foldl_erase_filter [DecidableEq P] (q : ToolStep P → Bool) (pending : List (ToolStep P)) :
    (pending.filter q).foldl List.erase pending = pending.filter fun step => !q step := by
  have hkeep : ∀ (batch rest : List (ToolStep P)) (first : ToolStep P), first ∉ batch →
      batch.foldl List.erase (first :: rest) = first :: batch.foldl List.erase rest := by
    intro batch
    induction batch with
    | nil => exact fun _ _ _ => rfl
    | cons step batch ih =>
        intro rest first hnot
        obtain ⟨hne, hrest⟩ := not_or.mp (fun h => hnot (List.mem_cons.mpr h))
        rw [List.foldl_cons, List.erase_cons_tail (by simpa using hne), ih _ _ hrest,
          List.foldl_cons]
  induction pending with
  | nil => rfl
  | cons step rest ih =>
      cases hq : q step with
      | true =>
          rw [List.filter_cons_of_pos hq, List.foldl_cons, List.erase_cons_head, ih,
            List.filter_cons_of_neg (by rw [hq]; exact Bool.false_ne_true)]
      | false =>
          have hnot : step ∉ rest.filter q := fun hmem => by
            rw [(List.mem_filter.mp hmem).2] at hq
            cases hq
          rw [List.filter_cons_of_neg (by rw [hq]; exact Bool.false_ne_true), hkeep _ _ _ hnot, ih,
            List.filter_cons_of_pos (by rw [hq]; rfl)]

lemma Rounds.mem_pending (h : Rounds steps k completed pending) {step : ToolStep P} :
    step ∈ pending ↔ step ∈ steps ∧ readyBefore steps k step = false := by
  rw [h.pending, List.mem_filter, Bool.not_eq_true']

lemma Rounds.next [DecidableEq P] (h : Rounds steps k completed pending) :
    Rounds steps (k + 1)
      (completed ++ (ToolChain.readySteps completed pending).map ToolStep.stepId)
      ((ToolChain.readySteps completed pending).foldl List.erase pending) := by
  rw [h.readySteps]
  refine ⟨fun id => ?_, ?_⟩
  · rw [List.mem_append, h.completed]
    constructor
    · rintro (hold | hnew)
      · exact available_succ hold
      · obtain ⟨step, hstep, rfl⟩ := List.mem_map.mp hnew
        obtain ⟨hpending, hready⟩ := List.mem_filter.mp hstep
        exact available_of_readyAt (h.mem_pending.mp hpending).1 hready
    · intro hid
      obtain ⟨step, hstep, hboth⟩ := List.any_eq_true.mp hid
      obtain ⟨heq, hready⟩ := (Bool.and_eq_true _ _).mp hboth
      obtain rfl : step.stepId = id := of_decide_eq_true heq
      cases hbefore : readyBefore steps k step with
      | true =>
          cases k with
          | zero => cases hbefore
          | succ k => exact .inl (available_of_readyAt hstep hbefore)
      | false =>
          refine .inr (List.mem_map_of_mem (List.mem_filter.mpr ⟨?_, hready⟩))
          exact h.mem_pending.mpr ⟨hstep, hbefore⟩
  · rw [foldl_erase_filter, h.pending, List.filter_filter]
    refine List.filter_congr fun step _ => ?_
    show (!readyAt steps k step && !readyBefore steps k step) = !readyAt steps k step
    cases hready : readyAt steps k step with
    | true => rfl
    | false =>
        cases hbefore : readyBefore steps k step with
        | true =>
            rw [readyAt_of_readyBefore hbefore] at hready
            cases hready
        | false => rfl

lemma Rounds.never (h : Rounds steps k completed pending)
    (hnone : ToolChain.readySteps completed pending = []) {step : ToolStep P}
    (hstep : step ∈ pending)
    (j : ℕ) : readyAt steps j step = false := by
  rw [h.readySteps] at hnone
  have hnot : ∀ other ∈ pending, ¬ readyAt steps k other = true := List.filter_eq_nil_iff.mp hnone
  have hstable : ∀ id, available steps (k + 1) id = true → available steps k id = true := by
    intro id hid
    obtain ⟨other, hother, hboth⟩ := List.any_eq_true.mp hid
    obtain ⟨heq, hready⟩ := (Bool.and_eq_true _ _).mp hboth
    obtain rfl : other.stepId = id := of_decide_eq_true heq
    cases hbefore : readyBefore steps k other with
    | true =>
        cases k with
        | zero => cases hbefore
        | succ k => exact available_of_readyAt hother hbefore
    | false => exact absurd hready (hnot other (h.mem_pending.mpr ⟨hother, hbefore⟩))
  by_contra hready
  refine hnot step hstep (List.all_eq_true.mpr fun dep hdep => ?_)
  have hdeps := List.all_eq_true.mp (Bool.eq_true_of_not_eq_false hready) dep hdep
  exact available_stable hstable j (available_mono (Nat.le_add_left j k) hdeps)

/-! ## The order is as the names ask -/

lemma pairwise_of_filter {α : Type} {Q : α → α → Prop} (q : α → Bool) {list : List α}
    (hpos : (list.filter q).Pairwise Q) (hneg : (list.filter fun a => !q a).Pairwise Q)
    (hcross : ∀ a ∈ list, ∀ b ∈ list, q a ≠ q b → Q a b) : list.Pairwise Q := by
  induction list with
  | nil => exact List.Pairwise.nil
  | cons a rest ih =>
      have hrest : ∀ b ∈ rest, ∀ c ∈ rest, q b ≠ q c → Q b c := fun b hb c hc =>
        hcross b (List.mem_cons_of_mem a hb) c (List.mem_cons_of_mem a hc)
      have hfirst : ∀ b ∈ rest, q a ≠ q b → Q a b := fun b hb =>
        hcross a List.mem_cons_self b (List.mem_cons_of_mem a hb)
      cases hq : q a with
      | true =>
          rw [List.filter_cons_of_pos hq, List.pairwise_cons] at hpos
          rw [List.filter_cons_of_neg (by rw [hq]; exact Bool.false_ne_true)] at hneg
          refine List.pairwise_cons.mpr ⟨fun b hb => ?_, ih hpos.2 hneg hrest⟩
          cases hb' : q b with
          | true => exact hpos.1 b (List.mem_filter.mpr ⟨hb, hb'⟩)
          | false => exact hfirst b hb (by rw [hq, hb']; exact Bool.noConfusion)
      | false =>
          rw [List.filter_cons_of_neg (by rw [hq]; exact Bool.false_ne_true)] at hpos
          rw [List.filter_cons_of_pos (by rw [hq]; rfl), List.pairwise_cons] at hneg
          refine List.pairwise_cons.mpr ⟨fun b hb => ?_, ih hpos hneg.2 hrest⟩
          cases hb' : q b with
          | true => exact hfirst b hb (by rw [hq, hb']; exact Bool.noConfusion)
          | false => exact hneg.1 b (List.mem_filter.mpr ⟨hb, by rw [hb']; rfl⟩)

/-- Of some of the steps: none becomes ready before one whose id it names, or together with one
that is listed after it. -/
structure OrderlyOn (steps pending : List (ToolStep P)) : Prop where
  notBefore : ∀ step ∈ pending, ∀ other ∈ pending, Names step other →
    ∀ j, readyAt steps j step = true → readyAt steps j other = true
  notTogether : pending.Pairwise fun step later => Names step later →
    ∃ j, readyAt steps j later = true ∧ readyAt steps j step = false

/-- Running those that are ready first is in order exactly if they name no other step that is
left, and the rest is in order. -/
lemma Rounds.orderlyOn_iff (h : Rounds steps k completed pending) :
    OrderlyOn steps pending ↔
      (∀ step ∈ pending.filter (readyAt steps k),
        ∀ other ∈ pending.filter (fun other => !readyAt steps k other), ¬ Names step other) ∧
      (pending.filter (readyAt steps k)).Pairwise (fun step later => ¬ Names step later) ∧
      OrderlyOn steps (pending.filter fun step => !readyAt steps k step) := by
  -- a step that is left and was not ready before is first ready now, or later
  have hlater : ∀ step ∈ pending, ∀ j, readyAt steps j step = true → k ≤ j := by
    intro step hstep j hready
    by_contra hlt
    have hbefore := (h.mem_pending.mp hstep).2
    cases k with
    | zero => exact hlt (Nat.zero_le j)
    | succ k =>
        rw [readyBefore, readyAt_mono (by omega) hready] at hbefore
        cases hbefore
  have hsub : ∀ (q : ToolStep P → Bool) step, step ∈ pending.filter q → step ∈ pending :=
    fun q step hstep => (List.mem_filter.mp hstep).1
  constructor
  · intro horderly
    refine ⟨fun step hstep other hother hnames => ?_, ?_, ?_, ?_⟩
    · have hready := horderly.notBefore step (hsub _ _ hstep) other (hsub _ _ hother) hnames k
        (List.mem_filter.mp hstep).2
      have hnot := (List.mem_filter.mp hother).2
      rw [hready] at hnot
      cases hnot
    · refine (horderly.notTogether.sublist List.filter_sublist).imp_of_mem ?_
      intro step later hstep hlate hpair hnames
      obtain ⟨j, hready, hnot⟩ := hpair hnames
      have hle := hlater later (hsub _ _ hlate) j hready
      rw [readyAt_mono hle (List.mem_filter.mp hstep).2] at hnot
      cases hnot
    · exact fun step hstep other hother => horderly.notBefore step (hsub _ _ hstep) other
        (hsub _ _ hother)
    · exact horderly.notTogether.sublist List.filter_sublist
  · rintro ⟨hcross, hbatch, hrest⟩
    have hsplit : ∀ step ∈ pending, step ∈ pending.filter (readyAt steps k) ∨
        step ∈ pending.filter fun step => !readyAt steps k step := by
      intro step hstep
      cases hready : readyAt steps k step with
      | true => exact .inl (List.mem_filter.mpr ⟨hstep, hready⟩)
      | false => exact .inr (List.mem_filter.mpr ⟨hstep, by rw [hready]; rfl⟩)
    refine ⟨fun step hstep other hother hnames j hready => ?_, ?_⟩
    · have hle := hlater step hstep j hready
      rcases hsplit other hother with hnow | hleft
      · exact readyAt_mono hle (List.mem_filter.mp hnow).2
      · rcases hsplit step hstep with hnow | hleft'
        · exact absurd hnames (hcross step hnow other hleft)
        · exact hrest.notBefore step hleft' other hleft hnames j hready
    · refine pairwise_of_filter (readyAt steps k) ?_ hrest.notTogether ?_
      · exact hbatch.imp fun hnot hnames => absurd hnames hnot
      · intro step hstep later hlate hne hnames
        rcases hsplit step hstep with hnow | hleft
        · rcases hsplit later hlate with hnow' | hleft'
          · exact absurd ((List.mem_filter.mp hnow).2.trans (List.mem_filter.mp hnow').2.symm) hne
          · exact absurd hnames (hcross step hnow later hleft')
        · rcases hsplit later hlate with hnow' | hleft'
          · refine ⟨k, (List.mem_filter.mp hnow').2, ?_⟩
            simpa using (List.mem_filter.mp hleft).2
          · have heq := (List.mem_filter.mp hleft).2.trans (List.mem_filter.mp hleft').2.symm
            exact absurd (Bool.not_inj heq) hne

/-- What is listed of the steps that are left: each of them once, after a step with each id it
names, and in order exactly if they are orderly. -/
structure Resolved (steps : List (ToolStep P)) (completed : List String)
    (pending order : List (ToolStep P)) : Prop where
  perm : order.Perm pending
  ready : ∀ step ∈ pending, ∃ j, readyAt steps j step = true
  met : ∀ before step rest, order = before ++ step :: rest →
    ∀ dep ∈ step.dependsOn, dep ∈ completed ++ before.map ToolStep.stepId
  pairwise_iff : order.Pairwise (fun step later => ¬ Names step later) ↔ OrderlyOn steps pending

lemma resolved_nil : Resolved steps completed [] [] where
  perm := List.Perm.refl _
  ready step hstep := by cases hstep
  met before step rest hsplit := by
    exact absurd hsplit.symm (List.append_ne_nil_of_right_ne_nil _ (List.cons_ne_nil _ _))
  pairwise_iff :=
    ⟨fun _ => ⟨fun step hstep => (by cases hstep), List.Pairwise.nil⟩, fun _ => List.Pairwise.nil⟩

lemma Rounds.resolved (h : Rounds steps k completed pending) {order : List (ToolStep P)}
    (hlater : Resolved steps
      (completed ++ (pending.filter (readyAt steps k)).map ToolStep.stepId)
      (pending.filter fun step => !readyAt steps k step) order) :
    Resolved steps completed pending (pending.filter (readyAt steps k) ++ order) where
  perm := (hlater.perm.append_left _).trans (List.filter_append_perm (readyAt steps k) pending)
  ready step hstep := by
    cases hready : readyAt steps k step with
    | true => exact ⟨k, hready⟩
    | false => exact hlater.ready step (List.mem_filter.mpr ⟨hstep, by rw [hready]; rfl⟩)
  met before step rest hsplit dep hdep := by
    rcases split_append hsplit with ⟨after, hbatch⟩ | ⟨mid, rfl, hlate⟩
    · have hmem : step ∈ pending.filter (readyAt steps k) := by
        rw [hbatch]
        exact List.mem_append_right _ List.mem_cons_self
      have hready := List.all_eq_true.mp (List.mem_filter.mp hmem).2 dep hdep
      exact List.mem_append_left _ ((h.completed dep).mpr hready)
    · have hmem := hlater.met mid step rest hlate dep hdep
      rwa [List.map_append, ← List.append_assoc]
  pairwise_iff := by
    rw [List.pairwise_append, hlater.pairwise_iff, h.orderlyOn_iff]
    have hcross : (∀ step ∈ pending.filter (readyAt steps k), ∀ other ∈ order, ¬ Names step other) ↔
        ∀ step ∈ pending.filter (readyAt steps k),
          ∀ other ∈ pending.filter (fun other => !readyAt steps k other), ¬ Names step other :=
      forall₂_congr fun step _ => forall_congr' fun other => by rw [hlater.perm.mem_iff]
    rw [hcross]
    exact ⟨fun ⟨hbatch, hrest, hall⟩ => ⟨hall, hbatch, hrest⟩,
      fun ⟨hall, hbatch, hrest⟩ => ⟨hbatch, hrest, hall⟩⟩

/-- What the loop does with the steps that are left: it raises if one of them never becomes ready,
and otherwise lists them. -/
lemma resolveFrom_spec [DecidableEq P] (fuel : ℕ) (h : Rounds steps k completed pending)
    (hfuel : pending.length ≤ fuel) :
    (resolveFrom fuel completed pending = none →
      ∃ step ∈ pending, ∀ j, readyAt steps j step = false) ∧
    ∀ batches, resolveFrom fuel completed pending = some batches →
      Resolved steps completed pending batches.flatten := by
  induction fuel generalizing k completed pending with
  | zero =>
      obtain rfl : pending = [] := List.eq_nil_of_length_eq_zero (Nat.le_zero.mp hfuel)
      refine ⟨fun hnone => (by cases hnone), fun batches hbatches => ?_⟩
      obtain rfl := Option.some.inj hbatches
      exact resolved_nil
  | succ fuel ih =>
      cases pending with
      | nil =>
          refine ⟨fun hnone => (by cases hnone), fun batches hbatches => ?_⟩
          obtain rfl := Option.some.inj hbatches
          exact resolved_nil
      | cons first others =>
          rw [resolveFrom]
          swap
          · exact fun hnil => by cases hnil
          have hfirst : first ∈ first :: others := List.mem_cons_self
          revert h hfuel hfirst
          generalize first :: others = pending
          intro h hfuel hfirst
          by_cases hnone : readySteps completed pending = []
          · rw [if_pos hnone]
            exact ⟨fun _ => ⟨first, hfirst, fun j => h.never hnone hfirst j⟩,
              fun batches hbatches => by cases hbatches⟩
          · rw [if_neg hnone]
            have hnext := h.next
            rw [h.readySteps, foldl_erase_filter] at hnext ⊢
            have hlength : (pending.filter fun step => !readyAt steps k step).length ≤ fuel := by
              have hsum := (List.filter_append_perm (readyAt steps k) pending).length_eq
              rw [List.length_append] at hsum
              rw [h.readySteps] at hnone
              have hpos := List.length_pos_iff.mpr hnone
              omega
            obtain ⟨hstuck, hdone⟩ := ih hnext hlength
            refine ⟨fun hmap => ?_, fun batches hmap => ?_⟩
            · obtain ⟨step, hstep, hnever⟩ := hstuck (Option.map_eq_none_iff.mp hmap)
              exact ⟨step, (List.mem_filter.mp hstep).1, hnever⟩
            · obtain ⟨later, hlater, rfl⟩ := Option.map_eq_some_iff.mp hmap
              rw [List.flatten_cons]
              exact h.resolved (hdone later hlater)

lemma rounds_start : Rounds steps 0 [] steps where
  completed id := ⟨fun h => (by cases h), fun h => by cases h⟩
  pending := (List.filter_eq_self.mpr fun _ _ => rfl).symm

/-- `_resolve_execution_order` raises exactly if a step never becomes ready. -/
lemma resolve_spec [DecidableEq P] :
    (resolveExecutionOrder steps = none ↔ Stuck steps) ∧
      ∀ batches, resolveExecutionOrder steps = some batches →
        Resolved steps [] steps batches.flatten := by
  obtain ⟨hnone, hsome⟩ := resolveFrom_spec steps.length rounds_start (le_refl steps.length)
  refine ⟨⟨hnone, fun ⟨step, hstep, hnever⟩ => ?_⟩, hsome⟩
  cases hresolve : resolveExecutionOrder steps with
  | none => rfl
  | some batches =>
      obtain ⟨j, hready⟩ := (hsome batches hresolve).ready step hstep
      rw [hnever j] at hready
      cases hready

lemma orderly_iff_orderlyOn :
    Orderly steps ↔ (∀ step ∈ steps, ¬ Names step step) ∧ OrderlyOn steps steps :=
  ⟨fun h => ⟨h.notSelf, h.notBefore, h.notTogether⟩,
    fun ⟨hself, h⟩ => ⟨hself, h.notBefore, h.notTogether⟩⟩

/-! ## What is asked of a chain -/

/-- A step depends on another one of the chain. -/
def DependsOn (steps : List (ToolStep P)) (step other : ToolStep P) : Prop :=
  step ∈ steps ∧ other ∈ steps ∧ Names step other

/-- A step names an id that no step has, or the dependencies have a cycle. -/
def InvalidChain (steps : List (ToolStep P)) : Prop :=
  (∃ step ∈ steps, ∃ dep ∈ step.dependsOn, ∀ other ∈ steps, other.stepId ≠ dep) ∨
    ∃ step, Relation.TransGen (DependsOn steps) step step

/-- A step is done when all steps with an id it names are. -/
def AfterAll [DecidableEq P] (steps : List (ToolStep P)) (order : List (ToolStep P)) : Prop :=
  ∀ before step rest, order = before ++ step :: rest →
    ∀ other ∈ steps, Names step other → before.count other = steps.count other

/-- The executions of a step: only the last of them may have succeeded. -/
def Retried (policy : ToolFailurePolicy) (reports : List Bool) (success : Bool) : Prop :=
  ∃ failures, failures < maxAttempts policy ∧
    reports = List.replicate failures false ++ [success]

/-- What holds of a chain that is executed: its steps run at most once each, after a step with
each id they name; a step is repeated only as the policy says; a chain that returns has run all
steps and returns their results, and one that raises does so at a failure it may not survive. -/
structure ExecutesOnce (chain : ToolChain P) (report : ChainReport P W) : Prop where
  once : (report.runs.map StepRun.step).Subperm chain.steps
  met : ∀ before run rest, report.runs = before ++ run :: rest →
    ∀ dep ∈ run.step.dependsOn, dep ∈ before.map fun earlier => earlier.step.stepId
  retried : ∀ run ∈ report.runs, ∃ success, Retried chain.failurePolicy run.reports success
  returns : ∀ results, report.outcome = .ok results →
    (report.runs.map StepRun.step).Perm chain.steps ∧
      List.Forall₂ (fun result run => result.stepId = run.step.stepId ∧
        Retried chain.failurePolicy run.reports result.success) results report.runs
  raises : ∀ e, report.outcome = .error e → chain.failurePolicy = .stopOnFailure ∧
    ∃ before run, report.runs = before ++ [run] ∧ run.reports = [false]
  stops : chain.failurePolicy = .stopOnFailure →
    ∀ before run rest, report.runs = before ++ run :: rest → run.reports = [false] → rest = []

/-- A chain that is too long or invalid raises before anything has run; any other is executed, and
every step runs after all steps whose id it names. -/
structure ChainValidates [DecidableEq P] (chain : ToolChain P) : Prop where
  rejects : chain.maxSteps < chain.steps.length ∨ InvalidChain chain.steps →
    ∀ (W : Type) (execute : W → String → P → ToolOutput × W) (world : W),
      ∃ e, executeChain execute chain world = ⟨.error e, [], world⟩
  runs : ¬ (chain.maxSteps < chain.steps.length ∨ InvalidChain chain.steps) →
    ∀ (W : Type) (execute : W → String → P → ToolOutput × W) (world : W),
      ExecutesOnce chain (executeChain execute chain world) ∧
        AfterAll chain.steps ((executeChain execute chain world).runs.map StepRun.step)

/-! ## Running the steps -/

lemma attempts_spec (step : ToolStep P) (left : ℕ) (world : W) :
    (attempts execute step (left + 1) world).1.stepId = step.stepId ∧
      ∃ failures, failures < left + 1 ∧ (attempts execute step (left + 1) world).2.1 =
        List.replicate failures false ++ [(attempts execute step (left + 1) world).1.success] := by
  induction left generalizing world with
  | zero =>
      rw [attempts]
      dsimp only
      split
      · exact ⟨rfl, 0, Nat.one_pos, rfl⟩
      · rw [if_pos rfl]
        exact ⟨rfl, 0, Nat.one_pos, rfl⟩
  | succ left ih =>
      rw [attempts]
      dsimp only
      split
      · exact ⟨rfl, 0, Nat.succ_pos _, rfl⟩
      · rw [if_neg (Nat.succ_ne_zero left)]
        obtain ⟨hid, failures, hlt, hreports⟩ :=
          ih (execute world step.toolName step.parameters).2
        refine ⟨hid, failures + 1, by omega, ?_⟩
        rw [hreports, List.replicate_succ, List.cons_append]

lemma attempts_retried (policy : ToolFailurePolicy) (step : ToolStep P) (world : W) :
    (attempts execute step (maxAttempts policy) world).1.stepId = step.stepId ∧
      Retried policy (attempts execute step (maxAttempts policy) world).2.1
        (attempts execute step (maxAttempts policy) world).1.success := by
  unfold Retried
  cases policy with
  | stopOnFailure => exact attempts_spec execute step 0 world
  | continueOnFailure => exact attempts_spec execute step 0 world
  | retryFailedStep => exact attempts_spec execute step 2 world

lemma reports_of_stop {policy : ToolFailurePolicy} (hpolicy : policy = .stopOnFailure)
    {reports : List Bool} {success : Bool} (h : Retried policy reports success) :
    reports = [success] := by
  obtain ⟨failures, hlt, hreports⟩ := h
  rw [hpolicy, maxAttempts] at hlt
  · obtain rfl : failures = 0 := by omega
    exact hreports
  · exact fun hretry => by cases hretry

/-- What the loop over the steps does. -/
structure RunsOf (policy : ToolFailurePolicy) (order : List (ToolStep P))
    (report : ChainReport P W) : Prop where
  started : report.runs.map StepRun.step <+: order
  retried : ∀ run ∈ report.runs, ∃ success, Retried policy run.reports success
  returns : ∀ results, report.outcome = .ok results →
    report.runs.map StepRun.step = order ∧
      List.Forall₂ (fun result run => result.stepId = run.step.stepId ∧
        Retried policy run.reports result.success) results report.runs
  raises : ∀ e, report.outcome = .error e → policy = .stopOnFailure ∧
    ∃ before run, report.runs = before ++ [run] ∧ run.reports = [false]
  stops : policy = .stopOnFailure →
    ∀ before run rest, report.runs = before ++ run :: rest → run.reports = [false] → rest = []

lemma runsOf_runSteps (policy : ToolFailurePolicy) (order : List (ToolStep P)) (world : W) :
    RunsOf policy order (runSteps execute policy order world) := by
  induction order generalizing world with
  | nil =>
      refine ⟨List.prefix_refl _, fun run hrun => (by cases hrun), fun results hresults => ?_,
        fun e he => (by cases he), fun _ before run rest hsplit => ?_⟩
      · obtain rfl : [] = results := Except.ok.inj hresults
        exact ⟨rfl, List.Forall₂.nil⟩
      · exact absurd hsplit.symm (List.append_ne_nil_of_right_ne_nil _ (List.cons_ne_nil _ _))
  | cons step rest ih =>
      obtain ⟨hid, hretried⟩ := attempts_retried execute policy step world
      rw [runSteps]
      dsimp only
      split
      · rename_i hfailed
        obtain ⟨hfailure, hpolicy⟩ := hfailed
        have hreports := reports_of_stop hpolicy hretried
        refine ⟨List.prefix_append [step] rest, fun run hrun => ?_, fun results hr => (by cases hr),
          fun e _ => ⟨hpolicy, [], _, rfl, ?_⟩, fun _ before run rest' hsplit _ => ?_⟩
        · obtain rfl := List.mem_singleton.mp hrun
          exact ⟨_, hretried⟩
        · rw [hreports, hfailure]
        · rcases List.singleton_eq_append_iff.mp hsplit with ⟨-, hone⟩ | ⟨-, hnil⟩
          · exact (List.cons.inj hone).2
          · cases hnil
      · rename_i hgoes
        have hrest := ih (attempts execute step (maxAttempts policy) world).2.2
        refine ⟨List.cons_prefix_cons.mpr ⟨rfl, hrest.started⟩, fun run hrun => ?_,
          fun results hresults => ?_, fun e he => ?_,
          fun hpolicy before run rest' hsplit hreports => ?_⟩
        · rcases List.mem_cons.mp hrun with rfl | hrun
          · exact ⟨_, hretried⟩
          · exact hrest.retried run hrun
        · cases hreport : (runSteps execute policy rest
              (attempts execute step (maxAttempts policy) world).2.2).outcome with
          | error e =>
              rw [hreport] at hresults
              cases hresults
          | ok later =>
              rw [hreport] at hresults
              obtain rfl := Except.ok.inj hresults
              obtain ⟨horder, hall⟩ := hrest.returns later hreport
              exact ⟨congrArg (step :: ·) horder, List.Forall₂.cons ⟨hid, hretried⟩ hall⟩
        · cases hreport : (runSteps execute policy rest
              (attempts execute step (maxAttempts policy) world).2.2).outcome with
          | error e' =>
              obtain ⟨hpolicy, before, run, hruns, hreports⟩ := hrest.raises e' hreport
              exact ⟨hpolicy, _ :: before, run, congrArg (_ :: ·) hruns, hreports⟩
          | ok later =>
              rw [hreport] at he
              cases he
        · cases before with
          | nil =>
              obtain ⟨rfl, -⟩ := List.cons.inj hsplit
              have hone := hreports.symm.trans (reports_of_stop hpolicy hretried)
              exact absurd ⟨(List.cons.inj hone).1.symm, hpolicy⟩ hgoes
          | cons first before =>
              exact hrest.stops hpolicy before run rest' (List.cons.inj hsplit).2 hreports

lemma executesOnce {chain : ToolChain P} {order : List (ToolStep P)}
    (horder : Resolved chain.steps [] chain.steps order) {report : ChainReport P W}
    (h : RunsOf chain.failurePolicy order report) : ExecutesOnce chain report where
  once := h.started.sublist.subperm.trans horder.perm.subperm
  met before run rest hsplit dep hdep := by
    obtain ⟨tail, htail⟩ := h.started
    rw [hsplit, List.map_append, List.map_cons, List.append_assoc, List.cons_append] at htail
    have hmet := horder.met (before.map StepRun.step) run.step _ htail.symm dep hdep
    rwa [List.nil_append, List.map_map] at hmet
  retried := h.retried
  returns results hresults := by
    obtain ⟨heq, hall⟩ := h.returns results hresults
    exact ⟨heq ▸ horder.perm, hall⟩
  raises := h.raises
  stops := h.stops

/-! ## When the order is that of the names -/

lemma pairwise_iff_split {α : Type} {R : α → α → Prop} {list : List α} :
    list.Pairwise R ↔ ∀ before a rest, list = before ++ a :: rest → ∀ b ∈ rest, R a b := by
  constructor
  · rintro hpairwise before a rest rfl b hb
    exact List.rel_of_pairwise_cons (List.pairwise_append.mp hpairwise).2.1 hb
  · intro h
    induction list with
    | nil => exact List.Pairwise.nil
    | cons first rest ih =>
        refine List.pairwise_cons.mpr ⟨h [] first rest rfl, ih fun before a rest' hsplit => ?_⟩
        exact h (first :: before) a rest' (congrArg (first :: ·) hsplit)

lemma afterAll_iff [DecidableEq P] {order : List (ToolStep P)} (hperm : order.Perm steps) :
    AfterAll steps order ↔
      (∀ step ∈ steps, ¬ Names step step) ∧
        order.Pairwise fun step later => ¬ Names step later := by
  have hcount : ∀ before step rest, order = before ++ step :: rest → ∀ other,
      (before.count other = steps.count other ↔ other ∉ step :: rest) := by
    intro before step rest hsplit other
    rw [← hperm.count_eq other, hsplit, List.count_append, ← List.count_eq_zero]
    omega
  rw [pairwise_iff_split]
  constructor
  · intro h
    constructor
    · intro step hstep hself
      obtain ⟨before, rest, hsplit⟩ := List.append_of_mem (hperm.mem_iff.mpr hstep)
      exact (hcount before step rest hsplit step).mp (h before step rest hsplit step hstep hself)
        List.mem_cons_self
    · intro before step rest hsplit other hother hnames
      have hmem : other ∈ steps := hperm.mem_iff.mp (by
        rw [hsplit]
        exact List.mem_append_right _ (List.mem_cons_of_mem step hother))
      exact (hcount before step rest hsplit other).mp
        (h before step rest hsplit other hmem hnames) (List.mem_cons_of_mem step hother)
  · rintro ⟨hself, hlater⟩ before step rest hsplit other hother hnames
    refine (hcount before step rest hsplit other).mpr fun hmem => ?_
    rcases List.mem_cons.mp hmem with rfl | hmem
    · exact hself other hother hnames
    · exact hlater before step rest hsplit other hmem hnames

lemma exists_round {deps : List String}
    (h : ∀ dep ∈ deps, ∃ k, available steps k dep = true) :
    ∃ k, ∀ dep ∈ deps, available steps k dep = true := by
  induction deps with
  | nil => exact ⟨0, fun dep hdep => by cases hdep⟩
  | cons first rest ih =>
      obtain ⟨k, hk⟩ := h first List.mem_cons_self
      obtain ⟨l, hl⟩ := ih fun dep hdep => h dep (List.mem_cons_of_mem first hdep)
      refine ⟨max k l, fun dep hdep => ?_⟩
      rcases List.mem_cons.mp hdep with rfl | hdep
      · exact available_mono (le_max_left k l) hk
      · exact available_mono (le_max_right k l) (hl dep hdep)

lemma invalid_of_stuck (h : Stuck steps) : InvalidChain steps := by
  by_contra hvalid
  obtain ⟨hmissing, hacyclic⟩ := not_or.mp hvalid
  push Not at hmissing hacyclic
  obtain ⟨stuck, hmem, hnever⟩ := h
  have hfinite : {step | step ∈ steps ∧ ∀ k, readyAt steps k step = false}.Finite :=
    (List.finite_toSet steps).subset fun step hstep => hstep.1
  obtain ⟨step, ⟨hstep, hstuck⟩, hmin⟩ :=
    Search.exists_minimal hacyclic hfinite ⟨stuck, hmem, hnever⟩
  -- the steps it names become ready, so it does
  have hdeps : ∀ dep ∈ step.dependsOn, ∃ k, available steps k dep = true := by
    intro dep hdep
    obtain ⟨other, hother, hid⟩ := hmissing step hstep dep hdep
    have hready : ∃ k, readyAt steps k other = true := by
      by_contra hnone
      push Not at hnone
      refine hmin other ⟨hother, fun k => Bool.eq_false_iff.mpr (hnone k)⟩ ⟨hstep, hother, ?_⟩
      show other.stepId ∈ step.dependsOn
      rw [hid]
      exact hdep
    obtain ⟨k, hready⟩ := hready
    exact ⟨k + 1, hid ▸ available_of_readyAt hother hready⟩
  obtain ⟨k, hk⟩ := exists_round hdeps
  have hready : readyAt steps k step = true := List.all_eq_true.mpr hk
  rw [hstuck k] at hready
  cases hready

/-- In an order in which no step is before one it names, what a step depends on has a lower
position. -/
lemma idxOf_lt [DecidableEq P] {order : List (ToolStep P)} (hperm : order.Perm steps)
    (hself : ∀ step ∈ steps, ¬ Names step step)
    (hlater : order.Pairwise fun step later => ¬ Names step later) {step other : ToolStep P}
    (h : DependsOn steps step other) : order.idxOf other < order.idxOf step := by
  obtain ⟨hstep, hother, hnames⟩ := h
  have hi := List.idxOf_lt_length_of_mem (hperm.mem_iff.mpr hstep)
  have hj := List.idxOf_lt_length_of_mem (hperm.mem_iff.mpr hother)
  by_contra hnot
  rcases Nat.lt_or_eq_of_le (Nat.le_of_not_lt hnot) with hlt | heq
  · have hrel := List.pairwise_iff_getElem.mp hlater _ _ hi hj hlt
    rw [List.getElem_idxOf hi, List.getElem_idxOf hj] at hrel
    exact hrel hnames
  · have hsame : step = other := by
      rw [← List.getElem_idxOf hi, ← List.getElem_idxOf hj]
      simp only [heq]
    exact hself step hstep (hsame ▸ hnames)

lemma Orderly.valid [DecidableEq P] (h : Orderly steps) (hready : ¬ Stuck steps) :
    ¬ InvalidChain steps := by
  obtain ⟨hself, hon⟩ := orderly_iff_orderlyOn.mp h
  obtain ⟨hnone, hsome⟩ : (resolveExecutionOrder steps = none ↔ Stuck steps) ∧ _ := resolve_spec
  rintro (⟨step, hstep, dep, hdep, hmissing⟩ | ⟨step, hcycle⟩)
  · refine hready ⟨step, hstep, fun k => Bool.eq_false_iff.mpr fun hk => ?_⟩
    have havailable := List.all_eq_true.mp hk dep hdep
    cases k with
    | zero => cases havailable
    | succ k =>
        obtain ⟨other, hother, hboth⟩ := List.any_eq_true.mp havailable
        exact hmissing other hother (of_decide_eq_true ((Bool.and_eq_true _ _).mp hboth).1)
  · obtain ⟨batches, hbatches⟩ := Option.ne_none_iff_exists'.mp fun hn => hready (hnone.mp hn)
    have hresolved := hsome batches hbatches
    have hlater := hresolved.pairwise_iff.mpr hon
    have hlt : ∀ a b, Relation.TransGen (DependsOn steps) a b →
        batches.flatten.idxOf b < batches.flatten.idxOf a := by
      intro a b hpath
      induction hpath with
      | single hedge => exact idxOf_lt hresolved.perm hself hlater hedge
      | tail _ hedge ih => exact (idxOf_lt hresolved.perm hself hlater hedge).trans ih
    exact lt_irrefl _ (hlt step step hcycle)

/-! ## Chains -/

/-- A chain that is not too long and whose steps all become ready is executed, in an order that
does not depend on what the tools do. -/
lemma executeChain_resolved [DecidableEq P] {chain : ToolChain P}
    (hlong : ¬ chain.maxSteps < chain.steps.length) (hready : ¬ Stuck chain.steps) :
    ∃ order, Resolved chain.steps [] chain.steps order ∧
      ∀ (W : Type) (execute : W → String → P → ToolOutput × W) (world : W),
        executeChain execute chain world =
          runSteps execute chain.failurePolicy order world := by
  obtain ⟨hnone, hsome⟩ : (resolveExecutionOrder chain.steps = none ↔ Stuck chain.steps) ∧ _ :=
    resolve_spec
  obtain ⟨batches, hbatches⟩ := Option.ne_none_iff_exists'.mp fun hn => hready (hnone.mp hn)
  refine ⟨batches.flatten, hsome batches hbatches, fun W execute world => ?_⟩
  rw [executeChain, if_neg hlong, hbatches]

lemma executeChain_refused [DecidableEq P] {chain : ToolChain P}
    (h : chain.maxSteps < chain.steps.length ∨ Stuck chain.steps)
    (execute : W → String → P → ToolOutput × W) (world : W) :
    ∃ e, executeChain execute chain world = ⟨.error e, [], world⟩ := by
  unfold executeChain
  by_cases hlong : chain.maxSteps < chain.steps.length
  · rw [if_pos hlong]
    exact ⟨_, rfl⟩
  · rw [if_neg hlong, resolve_spec.1.mpr (h.resolve_left hlong)]
    exact ⟨_, rfl⟩

lemma AfterAll.taken [DecidableEq P] {order taken : List (ToolStep P)}
    (h : AfterAll steps order) (htaken : taken <+: order) : AfterAll steps taken := by
  rintro before step rest rfl other hother hnames
  obtain ⟨tail, htail⟩ := htaken
  rw [List.append_assoc, List.cons_append] at htail
  exact h before step _ htail.symm other hother hnames

/-- A tool that always succeeds. -/
def succeeds : Unit → String → P → ToolOutput × Unit := fun _ _ _ => ({ ok := true }, ())

lemma runs_succeeds (policy : ToolFailurePolicy) (order : List (ToolStep P)) :
    (runSteps succeeds policy order ()).runs.map StepRun.step = order := by
  induction order with
  | nil => rfl
  | cons step rest ih =>
      have hone : (attempts succeeds step (maxAttempts policy) ()).1.success = true := by
        cases policy with
        | stopOnFailure => rfl
        | continueOnFailure => rfl
        | retryFailedStep => rfl
      have hgoes : ¬ ((attempts succeeds step (maxAttempts policy) ()).1.success = false ∧
          policy = .stopOnFailure) := by
        rw [hone]
        exact fun h => Bool.noConfusion h.1
      rw [runSteps]
      dsimp only
      rw [if_neg hgoes]
      exact congrArg (step :: ·) ih

/-- A chain is validated before it acts exactly if it is too long, or has a step that never becomes
ready, or is orderly. -/
lemma chainValidates_iff [DecidableEq P] (chain : ToolChain P) :
    ChainValidates chain ↔
      chain.maxSteps < chain.steps.length ∨ Stuck chain.steps ∨ Orderly chain.steps := by
  constructor
  · rintro ⟨hrejects, hruns⟩
    by_contra hnot
    obtain ⟨hlong, hrest⟩ := not_or.mp hnot
    obtain ⟨hready, hdisorderly⟩ := not_or.mp hrest
    obtain ⟨order, hresolved, hexecute⟩ := executeChain_resolved hlong hready
    have hall : (executeChain succeeds chain ()).runs.map StepRun.step = order := by
      rw [hexecute]
      exact runs_succeeds _ _
    by_cases hvalid : InvalidChain chain.steps
    · obtain ⟨e, hrefused⟩ := hrejects (.inr hvalid) Unit succeeds ()
      rw [hrefused] at hall
      have hnil : chain.steps = [] := by
        have hperm := hresolved.perm
        rw [← show [] = order from hall] at hperm
        exact hperm.symm.eq_nil
      refine hdisorderly ?_
      rw [hnil]
      exact ⟨fun step hstep => (by cases hstep), fun step hstep => (by cases hstep),
        List.Pairwise.nil⟩
    · have hafter := (hruns (not_or.mpr ⟨hlong, hvalid⟩) Unit succeeds ()).2
      rw [hall] at hafter
      obtain ⟨hself, hlater⟩ := (afterAll_iff hresolved.perm).mp hafter
      exact hdisorderly (orderly_iff_orderlyOn.mpr ⟨hself, hresolved.pairwise_iff.mp hlater⟩)
  · intro hcond
    by_cases hrefused : chain.maxSteps < chain.steps.length ∨ Stuck chain.steps
    · refine ⟨fun _ W execute world => executeChain_refused hrefused execute world,
        fun hvalid => ?_⟩
      exact absurd (hrefused.imp_right invalid_of_stuck) hvalid
    · obtain ⟨hlong, hready⟩ := not_or.mp hrefused
      have horderly : Orderly chain.steps := (hcond.resolve_left hlong).resolve_left hready
      refine ⟨fun hinvalid => ?_, fun _ W execute world => ?_⟩
      · exact absurd (hinvalid.resolve_left hlong) (horderly.valid hready)
      · obtain ⟨order, hresolved, hexecute⟩ := executeChain_resolved hlong hready
        obtain ⟨hself, hon⟩ := orderly_iff_orderlyOn.mp horderly
        rw [hexecute]
        have hrun := runsOf_runSteps execute chain.failurePolicy order world
        refine ⟨executesOnce hresolved hrun, AfterAll.taken ?_ hrun.started⟩
        exact (afterAll_iff hresolved.perm).mpr ⟨hself, hresolved.pairwise_iff.mpr hon⟩

/-- The calls of a dispatcher are validated before the first is started, and then run once each
after their prerequisites, exactly if an index is refused, there is no cycle, or every call waits
for another; the steps of a chain, exactly if it is too long, one of them never becomes ready, or
they are orderly. -/
theorem validates_before_acting_iff [DecidableEq P] (Result : Type) (calls : List ToolCall)
    (deps : Dict ℤ (List ℤ)) (chain : ToolChain P) :
    (Dispatcher.ValidatesThenRuns Result calls deps ↔
      (∃ kv ∈ deps, ∃ p ∈ kv.2, Dispatcher.badIndex calls kv.1 p) ∨
        (¬ ∃ i, Relation.TransGen (Search.Edge (Dispatcher.remaining deps)) i i) ∨
        ∀ i ∈ Dispatcher.indices calls, Dispatcher.remaining deps i ≠ []) ∧
    (ChainValidates chain ↔
      chain.maxSteps < chain.steps.length ∨ Stuck chain.steps ∨ Orderly chain.steps) :=
  ⟨Dispatcher.validatesThenRuns_iff, chainValidates_iff chain⟩

/-- A call and two that wait for each other. -/
def latentCycle : List ToolCall × Dict ℤ (List ℤ) :=
  ([⟨"mail", []⟩, ⟨"fetch", []⟩, ⟨"parse", []⟩], [(1, [2]), (2, [1])])

/-- A step that waits for its own id, which another step has, too. -/
def ownId : ToolChain Unit where
  steps := [⟨"fetch", "web", (), [], ""⟩, ⟨"fetch", "mail", (), ["fetch"], ""⟩]

/-- The first call is executed, and only then is the cycle noticed; the chain runs although a step
depends on its own id. -/
theorem acts_before_validating :
    (Dispatcher.executeOrdered latentCycle.1 latentCycle.2 :
        Dispatcher.OrderedRun Unit).log = [.started 0] ∧
      ((Dispatcher.machine latentCycle.1 latentCycle.2).run
        (Dispatcher.executeOrdered latentCycle.1 latentCycle.2) [(0, ())]).map
          (fun s : Dispatcher.OrderedRun Unit => s.outcome) =
            some (some (.error "Dependency cycle detected")) ∧
      ¬ Dispatcher.ValidatesThenRuns Unit latentCycle.1 latentCycle.2 ∧
      (executeChain succeeds ownId ()).runs.map (fun run => run.step.toolName) = ["web", "mail"] ∧
      ¬ ChainValidates ownId := by
  have hlog : (Dispatcher.executeOrdered latentCycle.1 latentCycle.2 :
      Dispatcher.OrderedRun Unit).log = [.started 0] := rfl
  refine ⟨hlog, rfl, fun h => ?_, by decide, fun h => ?_⟩
  · have hcycle : Relation.TransGen (Search.Edge (Dispatcher.remaining latentCycle.2)) 1 1 :=
      .tail (.single (show (2 : ℤ) ∈ [2] from List.mem_cons_self))
        (show (1 : ℤ) ∈ [1] from List.mem_cons_self)
    obtain ⟨e, heq⟩ := h.rejects (.inr ⟨1, hcycle⟩)
    rw [heq] at hlog
    cases hlog
  · have hself : InvalidChain ownId.steps :=
      .inr ⟨_, .single ⟨List.mem_cons_of_mem _ List.mem_cons_self,
        List.mem_cons_of_mem _ List.mem_cons_self, List.mem_cons_self⟩⟩
    obtain ⟨e, heq⟩ := h.rejects (.inr hself) Unit succeeds ()
    have hruns : (executeChain succeeds ownId ()).runs.length = 2 := by decide
    rw [heq] at hruns
    cases hruns

end ToolChain

end Samaktha
