import Samaktha.Foundation.Dict
import Samaktha.Foundation.EventLog
import Samaktha.Foundation.Layers
import Samaktha.Foundation.Machine
import Samaktha.Foundation.Value

/-!
# Calls in the order of their dependencies

`ToolDispatcher.execute_ordered` as a machine: a move is the return of one of the calls that
`execute_many` has started, in any order and with any result, and the loop goes on when all of
them have returned.  `OrderedRun.log` is a ghost: when each call is started and what it returns.

Whatever the dependencies, a call starts once, after all its prerequisites have returned, and the
run ends after at most as many moves as there are calls (`sound_of_run`).  A cycle, however, is
noticed only when nothing else is left to do, so the calls are validated before the first of them
is started exactly if there is no cycle, or an index is refused, or every call waits for another
(`validatesThenRuns_iff`).

`ToolDispatcher.execute` returns a result whatever happens; its checks, timeouts and retries, and
a cancellation of the whole run, are left out.
-/

namespace Samaktha

/-- A tool id and its arguments. -/
structure ToolCall where
  toolId : String
  arguments : Dict String Value := []

namespace Dispatcher

open Layers (Next Linear)
open Samaktha.Search (Edge CycleAhead)

/-- What can be seen of the calls. -/
inductive CallEvent (Result : Type) where
  | started (index : ℤ)
  | finished (index : ℤ) (result : Result)

/-- `execute_ordered` between two returns of calls. -/
structure OrderedRun (Result : Type) where
  results : Dict ℤ Result := []
  /-- The calls `execute_many` waits for. -/
  gathering : List ℤ := []
  /-- What those of them that have returned have returned. -/
  returned : Dict ℤ Result := []
  log : List (CallEvent Result) := []
  outcome : Option (Except String (List Result)) := none

variable {Result : Type} (calls : List ToolCall) (deps : Dict ℤ (List ℤ))

/-- `range(n)`. -/
def indices : List ℤ := (List.range calls.length).map (↑)

/-- The prerequisites of a call. -/
def remaining (i : ℤ) : List ℤ := (Dict.get? deps i).getD []

/-- The prerequisite of call `i` is refused. -/
def badIndex (i prerequisite : ℤ) : Bool :=
  prerequisite < 0 || (calls.length : ℤ) ≤ prerequisite || prerequisite = i

/-- The first call with a prerequisite that is refused. -/
def firstBad : Option ℤ := (deps.find? fun kv => kv.2.any (badIndex calls kv.1)).map Prod.fst

/-- The calls without a result whose prerequisites have one. -/
def ready (results : Dict ℤ Result) : List ℤ :=
  (indices calls).filter fun i =>
    i ∉ Dict.keys results && (remaining deps i).all (· ∈ Dict.keys results)

/-- The loop up to the next `await`. -/
def turn (s : OrderedRun Result) : OrderedRun Result :=
  if (indices calls).all (· ∈ Dict.keys s.results) then
    { s with
      gathering := []
      outcome := some (.ok ((indices calls).filterMap (Dict.get? s.results))) }
  else if ready calls deps s.results = [] then
    { s with gathering := [], outcome := some (.error "Dependency cycle detected") }
  else
    { s with
      gathering := ready calls deps s.results
      log := s.log ++ (ready calls deps s.results).map .started }

/-- `execute_ordered` up to its first `await`. -/
def executeOrdered : OrderedRun Result :=
  match firstBad calls deps with
  | some i => { outcome := some (.error s!"Invalid dependency for call {i}") }
  | none => turn calls deps {}

/-- The results that were waited for are recorded. -/
def collect (returned : Dict ℤ Result) : List ℤ → Dict ℤ Result → Dict ℤ Result
  | [], results => results
  | i :: rest, results =>
      match Dict.get? returned i with
      | some result => collect returned rest (Dict.set results i result)
      | none => collect returned rest results

/-- A call returns. -/
def finish (s : OrderedRun Result) (i : ℤ) (result : Result) : Option (OrderedRun Result) :=
  if s.outcome.isNone ∧ i ∈ s.gathering ∧ i ∉ Dict.keys s.returned then
    let returned := Dict.set s.returned i result
    let log := s.log ++ [.finished i result]
    if s.gathering.all (· ∈ Dict.keys returned) then
      some (turn calls deps
        { s with
          results := collect returned s.gathering s.results
          returned := []
          log := log })
    else some { s with returned := returned, log := log }
  else none

def machine : Machine (OrderedRun Result) (ℤ × Result) :=
  ⟨fun s move => finish calls deps s move.1 move.2⟩

/-! ## What is asked of a run -/

/-- The calls that are started, in order. -/
def starts (log : List (CallEvent Result)) : List ℤ :=
  log.filterMap fun
    | .started i => some i
    | .finished _ _ => none

/-- The calls that have returned, in order. -/
def finishes (log : List (CallEvent Result)) : List ℤ :=
  log.filterMap fun
    | .started _ => none
    | .finished i _ => some i

/-- Every call is started after all its prerequisites have returned. -/
def AfterPrerequisites (log : List (CallEvent Result)) : Prop :=
  ∀ before i rest, log = before ++ .started i :: rest →
    ∀ p ∈ remaining deps i, ∃ result, .finished p result ∈ before

/-- No call is started twice or before its prerequisites, and a run that returns has started them
all and returns the result of each. -/
structure Sound (s : OrderedRun Result) : Prop where
  once : (starts s.log).Nodup
  listed : ∀ i ∈ starts s.log, i ∈ indices calls
  after : AfterPrerequisites deps s.log
  complete : ∀ results, s.outcome = some (.ok results) →
    (∀ i ∈ indices calls, i ∈ starts s.log) ∧ results.length = calls.length ∧
      ∀ (k : ℕ) result, results[k]? = some result → .finished (k : ℤ) result ∈ s.log

/-- A prerequisite is out of range or the call itself, or the prerequisites have a cycle. -/
def Invalid : Prop :=
  (∃ kv ∈ deps, ∃ p ∈ kv.2, badIndex calls kv.1 p) ∨
    ∃ i, Relation.TransGen (Edge (remaining deps)) i i

variable (Result) in
/-- Calls with invalid dependencies are refused before one of them is started.  Any other run is
sound, is never longer than the list of calls, can go on until it has ended, and ends with
results. -/
structure ValidatesThenRuns : Prop where
  rejects : Invalid calls deps →
    ∃ e, executeOrdered calls deps = ({ outcome := some (.error e) } : OrderedRun Result)
  runs : ∀ (moves : List (ℤ × Result)) s,
    (machine calls deps).run (executeOrdered calls deps) moves = some s →
      Sound calls deps s ∧ moves.length ≤ calls.length ∧
        (s.outcome = none → ∃ i, ∀ result, (finish calls deps s i result).isSome = true) ∧
        (¬ Invalid calls deps → ∀ e, s.outcome ≠ some (.error e))

/-! ## The loop -/

variable {calls deps}

lemma mem_ready {results : Dict ℤ Result} {i : ℤ} :
    i ∈ ready calls deps results ↔
      Next (indices calls) (remaining deps) (Dict.keys results) i := by
  simp only [ready, List.mem_filter, Bool.and_eq_true, decide_eq_true_eq, List.all_eq_true,
    decide_not, Bool.not_eq_true', decide_eq_false_iff_not]
  exact Iff.rfl

lemma nodup_indices : (indices calls).Nodup :=
  List.nodup_range.map fun _ _ h => Int.ofNat.inj h

lemma mem_collect {returned : Dict ℤ Result} {waited : List ℤ} {results : Dict ℤ Result}
    (hreturned : ∀ i ∈ waited, i ∈ Dict.keys returned) (hnodup : waited.Nodup)
    (hfresh : ∀ i ∈ waited, i ∉ Dict.keys results) :
    Dict.keys (collect returned waited results) = Dict.keys results ++ waited ∧
      ∀ i, Dict.get? (collect returned waited results) i =
        if i ∈ waited then Dict.get? returned i else Dict.get? results i := by
  induction waited generalizing results with
  | nil => exact ⟨by rw [collect, List.append_nil],
      fun i => by rw [if_neg List.not_mem_nil, collect]⟩
  | cons first rest ih =>
      obtain ⟨hnew, hrest⟩ := List.nodup_cons.mp hnodup
      obtain ⟨result, hresult⟩ : ∃ result, Dict.get? returned first = some result := by
        refine Option.ne_none_iff_exists'.mp fun hnone => ?_
        exact Dict.get?_eq_none_iff.mp hnone (hreturned first List.mem_cons_self)
      have hkeys : Dict.keys (Dict.set results first result) = Dict.keys results ++ [first] := by
        rw [Dict.keys_set, if_neg (hfresh first List.mem_cons_self)]
      have hstill : ∀ i ∈ rest, i ∉ Dict.keys (Dict.set results first result) := by
        intro i hi hmem
        rw [hkeys] at hmem
        rcases List.mem_append.mp hmem with hold | hlast
        · exact hfresh i (List.mem_cons_of_mem first hi) hold
        · exact hnew (List.mem_singleton.mp hlast ▸ hi)
      obtain ⟨hcollected, hget⟩ :=
        ih (fun i hi => hreturned i (List.mem_cons_of_mem first hi)) hrest hstill
      rw [collect, hresult]
      refine ⟨?_, fun i => ?_⟩
      · rw [hcollected, hkeys, List.append_assoc, List.singleton_append]
      · rw [hget i, Dict.get?_set]
        by_cases hi : i ∈ rest
        · rw [if_pos hi, if_pos (List.mem_cons_of_mem first hi)]
        · rw [if_neg hi]
          by_cases hfirst : first = i
          · subst hfirst
            rw [if_pos rfl, if_pos List.mem_cons_self, hresult]
          · have hmem : i ∉ first :: rest := by simp [hi, Ne.symm hfirst]
            rw [if_neg hfirst, if_neg hmem]

/-! ## What holds between two moves -/

lemma starts_append (log log' : List (CallEvent Result)) :
    starts (log ++ log') = starts log ++ starts log' := List.filterMap_append

lemma finishes_append (log log' : List (CallEvent Result)) :
    finishes (log ++ log') = finishes log ++ finishes log' := List.filterMap_append

lemma starts_map_started (batch : List ℤ) :
    starts (batch.map (CallEvent.started : ℤ → CallEvent Result)) = batch := by
  induction batch with
  | nil => rfl
  | cons i rest ih => exact congrArg (i :: ·) ih

lemma finishes_map_started (batch : List ℤ) :
    finishes (batch.map (CallEvent.started : ℤ → CallEvent Result)) = [] := by
  induction batch with
  | nil => rfl
  | cons i rest ih => exact ih

lemma AfterPrerequisites.append {log tail : List (CallEvent Result)}
    (h : AfterPrerequisites deps log)
    (htail : ∀ i, .started i ∈ tail → ∀ p ∈ remaining deps i, ∃ result, .finished p result ∈ log) :
    AfterPrerequisites deps (log ++ tail) := by
  intro before i rest hsplit p hp
  rcases split_append hsplit with ⟨after, hlog⟩ | ⟨mid, rfl, htaileq⟩
  · exact h before i after hlog p hp
  · have hmem : CallEvent.started i ∈ tail := by
      rw [htaileq]
      exact List.mem_append_right _ List.mem_cons_self
    obtain ⟨result, hresult⟩ := htail i hmem p hp
    exact ⟨result, List.mem_append_left _ hresult⟩

/-- What holds before the loop goes on: the results are those of the calls that were started, in
an order in which each comes after its prerequisites. -/
structure Between (calls : List ToolCall) (deps : Dict ℤ (List ℤ)) (s : OrderedRun Result) :
    Prop where
  linear : Linear (indices calls) (remaining deps) (Dict.keys s.results)
  starts : starts s.log = Dict.keys s.results
  finishes : (finishes s.log).Perm (Dict.keys s.results)
  reported : ∀ i result, Dict.get? s.results i = some result → .finished i result ∈ s.log
  after : AfterPrerequisites deps s.log
  returned : s.returned = []
  running : s.outcome = none

/-- What holds while calls are waited for, and when the run has ended. -/
structure Inv (calls : List ToolCall) (deps : Dict ℤ (List ℤ)) (s : OrderedRun Result) : Prop where
  linear : Linear (indices calls) (remaining deps) (Dict.keys s.results)
  nodup : s.gathering.Nodup
  next : ∀ i ∈ s.gathering, Next (indices calls) (remaining deps) (Dict.keys s.results) i
  nodupReturned : Dict.NodupKeys s.returned
  subset : ∀ i ∈ Dict.keys s.returned, i ∈ s.gathering
  waiting : s.outcome = none → ∃ i ∈ s.gathering, i ∉ Dict.keys s.returned
  starts : starts s.log = Dict.keys s.results ++ s.gathering
  finishes : (finishes s.log).Perm (Dict.keys s.results ++ Dict.keys s.returned)
  reported : ∀ i result,
    Dict.get? s.results i = some result ∨ Dict.get? s.returned i = some result →
    .finished i result ∈ s.log
  after : AfterPrerequisites deps s.log
  okay : ∀ results, s.outcome = some (.ok results) →
    (∀ i ∈ indices calls, i ∈ Dict.keys s.results) ∧
      results = (indices calls).filterMap (Dict.get? s.results)
  failed : ∀ e, s.outcome = some (.error e) →
    (∃ i ∈ indices calls, i ∉ Dict.keys s.results) ∧
      ∀ i, ¬ Next (indices calls) (remaining deps) (Dict.keys s.results) i

variable {s s' : OrderedRun Result}

lemma Between.finished (h : Between calls deps s) {i : ℤ} (hi : i ∈ Dict.keys s.results) :
    ∃ result, .finished i result ∈ s.log := by
  obtain ⟨result, hresult⟩ := Option.ne_none_iff_exists'.mp fun hnone =>
    Dict.get?_eq_none_iff.mp hnone hi
  exact ⟨result, h.reported i result hresult⟩

lemma Between.turn (h : Between calls deps s) : Inv calls deps (turn calls deps s) := by
  have hlog : ∀ i result, Dict.get? s.results i = some result ∨
      Dict.get? s.returned i = some result → .finished i result ∈ s.log := by
    rintro i result (hresult | hreturned)
    · exact h.reported i result hresult
    · rw [h.returned] at hreturned
      cases hreturned
  have hkeys : Dict.keys s.returned = [] := by rw [h.returned]; rfl
  unfold Dispatcher.turn
  split
  · rename_i hall
    refine ⟨h.linear, List.nodup_nil, fun i hi => (by cases hi), ?_, ?_,
      fun hnone => (by cases hnone),
      ?_, ?_, hlog, h.after, ?_, fun e he => (by cases he)⟩
    · rw [Dict.NodupKeys, hkeys]
      exact List.nodup_nil
    · intro i hi
      rw [hkeys] at hi
      cases hi
    · rw [h.starts, List.append_nil]
    · rw [hkeys, List.append_nil]
      exact h.finishes
    · intro results hresults
      obtain rfl : (indices calls).filterMap (Dict.get? s.results) = results :=
        Except.ok.inj (Option.some.inj hresults)
      refine ⟨fun i hi => ?_, rfl⟩
      exact of_decide_eq_true (List.all_eq_true.mp hall i hi)
  · rename_i hnot
    obtain ⟨pending, hpending, hnone⟩ : ∃ i ∈ indices calls, i ∉ Dict.keys s.results := by
      by_contra hall
      push Not at hall
      exact hnot (List.all_eq_true.mpr fun i hi => decide_eq_true (hall i hi))
    split
    · rename_i hready
      refine ⟨h.linear, List.nodup_nil, fun i hi => (by cases hi), ?_, ?_,
        fun hnone => (by cases hnone), ?_, ?_, hlog, h.after, fun results hr => (by cases hr), ?_⟩
      · rw [Dict.NodupKeys, hkeys]
        exact List.nodup_nil
      · intro i hi
        rw [hkeys] at hi
        cases hi
      · rw [h.starts, List.append_nil]
      · rw [hkeys, List.append_nil]
        exact h.finishes
      · refine fun e _ => ⟨⟨pending, hpending, hnone⟩, fun i hi => ?_⟩
        have hmem := mem_ready.mpr hi
        rw [hready] at hmem
        cases hmem
    · rename_i hready
      refine ⟨h.linear, nodup_indices.filter _, fun i hi => mem_ready.mp hi, ?_, ?_, ?_, ?_, ?_, ?_,
        h.after.append ?_, ?_, ?_⟩
      · rw [Dict.NodupKeys, hkeys]
        exact List.nodup_nil
      · intro i hi
        rw [hkeys] at hi
        cases hi
      · intro _
        obtain ⟨i, hi⟩ := List.exists_mem_of_ne_nil _ hready
        refine ⟨i, hi, ?_⟩
        rw [hkeys]
        exact List.not_mem_nil
      · rw [starts_append, starts_map_started, h.starts]
      · rw [finishes_append, finishes_map_started, hkeys, List.append_nil, List.append_nil]
        exact h.finishes
      · exact fun i result hr => List.mem_append_left _ (hlog i result hr)
      · intro i hi p hp
        obtain ⟨j, hj, hij⟩ := List.mem_map.mp hi
        obtain rfl : j = i := CallEvent.started.inj hij
        exact h.finished ((mem_ready.mp hj).2.2 p hp)
      · intro results hresults
        rw [h.running] at hresults
        cases hresults
      · intro e he
        rw [h.running] at he
        cases he

lemma finish_cases {i : ℤ} {result : Result} (h : finish calls deps s i result = some s') :
    (s.outcome = none ∧ i ∈ s.gathering ∧ i ∉ Dict.keys s.returned) ∧
      let returned := Dict.set s.returned i result
      let log := s.log ++ [.finished i result]
      ((∃ j ∈ s.gathering, j ∉ Dict.keys returned) ∧
        s' = { s with returned := returned, log := log }) ∨
      ((∀ j ∈ s.gathering, j ∈ Dict.keys returned) ∧
        s' = turn calls deps { s with
          results := collect returned s.gathering s.results
          returned := []
          log := log }) := by
  unfold finish at h
  split at h
  · rename_i hmove
    obtain ⟨hopen, hmem, hnew⟩ := hmove
    refine ⟨⟨Option.isNone_iff_eq_none.mp hopen, hmem, hnew⟩, ?_⟩
    dsimp only at h
    split at h
    · rename_i hall
      refine .inr ⟨fun j hj => ?_, (Option.some.inj h).symm⟩
      exact of_decide_eq_true (List.all_eq_true.mp hall j hj)
    · rename_i hnot
      refine .inl ⟨?_, (Option.some.inj h).symm⟩
      by_contra hall
      push Not at hall
      exact hnot (List.all_eq_true.mpr fun j hj => decide_eq_true (hall j hj))
  · cases h

lemma keys_set_fresh {returned : Dict ℤ Result} {i : ℤ} (hnew : i ∉ Dict.keys returned)
    (result : Result) :
    Dict.keys (Dict.set returned i result) = Dict.keys returned ++ [i] := by
  rw [Dict.keys_set, if_neg hnew]

lemma inv_finish {i : ℤ} {result : Result} (h : Inv calls deps s)
    (hstep : finish calls deps s i result = some s') : Inv calls deps s' := by
  obtain ⟨⟨hopen, hmem, hnew⟩, hcases⟩ := finish_cases hstep
  have hkeys := keys_set_fresh hnew result
  have hnodup : Dict.NodupKeys (Dict.set s.returned i result) := h.nodupReturned.set i result
  have hsubset : ∀ j ∈ Dict.keys (Dict.set s.returned i result), j ∈ s.gathering := by
    intro j hj
    rw [hkeys] at hj
    rcases List.mem_append.mp hj with hold | hlast
    · exact h.subset j hold
    · rw [List.mem_singleton.mp hlast]
      exact hmem
  have hstarts : starts (s.log ++ [.finished i result]) =
      Dict.keys s.results ++ s.gathering := by
    rw [starts_append, h.starts]
    exact List.append_nil _
  have hfinishes : (finishes (s.log ++ [.finished i result])).Perm
      (Dict.keys s.results ++ Dict.keys (Dict.set s.returned i result)) := by
    rw [finishes_append, hkeys, ← List.append_assoc]
    exact h.finishes.append_right [i]
  have hreported : ∀ j r, Dict.get? s.results j = some r ∨
      Dict.get? (Dict.set s.returned i result) j = some r →
      .finished j r ∈ s.log ++ [.finished i result] := by
    rintro j r (hold | hreturned)
    · exact List.mem_append_left _ (h.reported j r (.inl hold))
    · rw [Dict.get?_set] at hreturned
      by_cases hij : i = j
      · subst hij
        rw [if_pos rfl] at hreturned
        obtain rfl := Option.some.inj hreturned
        exact List.mem_append_right _ List.mem_cons_self
      · rw [if_neg hij] at hreturned
        exact List.mem_append_left _ (h.reported j r (.inr hreturned))
  have hafter : AfterPrerequisites deps (s.log ++ [.finished i result]) := by
    refine h.after.append fun j hj => ?_
    cases List.mem_singleton.mp hj
  rcases hcases with ⟨hothers, rfl⟩ | ⟨hall, rfl⟩
  · refine ⟨h.linear, h.nodup, h.next, hnodup, hsubset, fun _ => hothers, hstarts, hfinishes,
      hreported, hafter, fun results hresults => ?_, fun e he => ?_⟩
    · rw [hopen] at hresults
      cases hresults
    · rw [hopen] at he
      cases he
  · obtain ⟨hcollected, hget⟩ := mem_collect hall h.nodup fun j hj => (h.next j hj).2.1
    have hperm : (Dict.keys (Dict.set s.returned i result)).Perm s.gathering :=
      (List.perm_ext_iff_of_nodup hnodup h.nodup).mpr fun j => ⟨hsubset j, hall j⟩
    refine Between.turn ⟨?_, ?_, ?_, ?_, hafter, rfl, hopen⟩
    · rw [hcollected]
      exact h.linear.append h.nodup h.next
    · rw [hcollected]
      exact hstarts
    · rw [hcollected]
      exact hfinishes.trans (hperm.append_left _)
    · intro j r hj
      rw [hget j] at hj
      split at hj
      · exact hreported j r (.inr hj)
      · exact hreported j r (.inl hj)

/-! ## Runs -/

lemma between_start : Between calls deps ({} : OrderedRun Result) where
  linear := Layers.linear_nil
  starts := rfl
  finishes := List.Perm.refl _
  reported i result hget := by cases hget
  after before i rest hsplit := by
    exact absurd hsplit.symm (List.append_ne_nil_of_right_ne_nil _ (List.cons_ne_nil _ _))
  returned := rfl
  running := rfl

lemma inv_of_run {moves : List (ℤ × Result)}
    (hrun : (machine calls deps).run (turn calls deps {}) moves = some s) : Inv calls deps s :=
  (machine calls deps).run_invariant (I := Inv calls deps) (fun _ _ _ h hstep => inv_finish h hstep)
    between_start.turn hrun

lemma length_indices : (indices calls).length = calls.length := by
  rw [indices, List.length_map, List.length_range]

lemma results_of_keys {results : Dict ℤ Result}
    (hall : ∀ i ∈ indices calls, i ∈ Dict.keys results) :
    ((indices calls).filterMap (Dict.get? results)).length = calls.length ∧
      ∀ (k : ℕ) result, ((indices calls).filterMap (Dict.get? results))[k]? = some result →
        Dict.get? results (k : ℤ) = some result := by
  have hsome : ∀ i ∈ indices calls, ∃ result, Dict.get? results i = some result := by
    intro i hi
    exact Option.ne_none_iff_exists'.mp fun hnone => Dict.get?_eq_none_iff.mp hnone (hall i hi)
  have hmap : ∀ list : List ℤ, (∀ i ∈ list, ∃ result, Dict.get? results i = some result) →
      (list.filterMap (Dict.get? results)).map some = list.map (Dict.get? results) := by
    intro list hlist
    induction list with
    | nil => rfl
    | cons i rest ih =>
        obtain ⟨result, hresult⟩ := hlist i List.mem_cons_self
        rw [List.filterMap_cons_some hresult, List.map_cons, List.map_cons, hresult,
          ih fun j hj => hlist j (List.mem_cons_of_mem i hj)]
  have heq := hmap (indices calls) hsome
  constructor
  · have hlength := congrArg List.length heq
    rwa [List.length_map, List.length_map, length_indices] at hlength
  · intro k result hk
    have hget : (((indices calls).filterMap (Dict.get? results)).map some)[k]? =
        some (some result) := by
      rw [List.getElem?_map, hk]
      rfl
    rw [heq, List.getElem?_map, Option.map_eq_some_iff] at hget
    obtain ⟨i, hi, hresult⟩ := hget
    have hik : i = k := by
      rw [indices, List.getElem?_map, Option.map_eq_some_iff] at hi
      obtain ⟨m, hm, rfl⟩ := hi
      obtain ⟨hlt, rfl⟩ := List.getElem?_eq_some_iff.mp hm
      rw [List.getElem_range]
    rw [← hik]
    exact hresult

lemma Inv.sound (h : Inv calls deps s) : Sound calls deps s := by
  have hnext : ∀ i ∈ Dict.keys s.results ++ s.gathering, i ∈ indices calls := by
    intro i hi
    rcases List.mem_append.mp hi with hold | hnew
    · exact (h.linear.next_of_mem hold).1
    · exact (h.next i hnew).1
  refine ⟨?_, fun i hi => hnext i (h.starts ▸ hi), h.after, fun results hresults => ?_⟩
  · rw [h.starts]
    exact h.linear.nodup.append h.nodup fun i hold hnew => (h.next i hnew).2.1 hold
  · obtain ⟨hall, rfl⟩ := h.okay results hresults
    obtain ⟨hlength, hget⟩ := results_of_keys hall
    refine ⟨fun i hi => ?_, hlength, fun k result hk =>
      h.reported k result (.inl (hget k result hk))⟩
    rw [h.starts]
    exact List.mem_append_left _ (hall i hi)

lemma finishes_turn (s : OrderedRun Result) :
    finishes (turn calls deps s).log = finishes s.log := by
  unfold turn
  split
  · rfl
  · split
    · rfl
    · rw [finishes_append, finishes_map_started, List.append_nil]

lemma length_finishes_finish {i : ℤ} {result : Result}
    (h : finish calls deps s i result = some s') :
    (finishes s'.log).length = (finishes s.log).length + 1 := by
  obtain ⟨-, ⟨-, rfl⟩ | ⟨-, rfl⟩⟩ := finish_cases h
  · rw [finishes_append, List.length_append]
    rfl
  · rw [finishes_turn, finishes_append, List.length_append]
    rfl

lemma length_finishes_of_run {moves : List (ℤ × Result)}
    (hrun : (machine calls deps).run s moves = some s') :
    (finishes s'.log).length = (finishes s.log).length + moves.length := by
  induction moves generalizing s with
  | nil =>
      obtain rfl : s = s' := Option.some.inj hrun
      rfl
  | cons move rest ih =>
      obtain ⟨r, hstep, hrest⟩ := (machine calls deps).run_cons_eq_some.mp hrun
      rw [ih hrest, length_finishes_finish hstep, List.length_cons]
      omega

lemma Inv.length_finishes_le (h : Inv calls deps s) :
    (Dispatcher.finishes s.log).length ≤ calls.length := by
  have hnodup : (Dict.keys s.results ++ Dict.keys s.returned).Nodup :=
    h.linear.nodup.append h.nodupReturned fun i hold hnew =>
      (h.next i (h.subset i hnew)).2.1 hold
  have hsub : Dict.keys s.results ++ Dict.keys s.returned ⊆ indices calls := by
    intro i hi
    rcases List.mem_append.mp hi with hold | hnew
    · exact (h.linear.next_of_mem hold).1
    · exact (h.next i (h.subset i hnew)).1
  have hlength := (hnodup.subperm hsub).length_le
  rw [length_indices] at hlength
  rw [h.finishes.length_eq]
  exact hlength

lemma Inv.progress (h : Inv calls deps s) (hopen : s.outcome = none) :
    ∃ i, ∀ result, (finish calls deps s i result).isSome = true := by
  obtain ⟨i, hi, hnew⟩ := h.waiting hopen
  refine ⟨i, fun result => ?_⟩
  rw [finish, if_pos ⟨by rw [hopen]; rfl, hi, hnew⟩]
  dsimp only
  split
  · rfl
  · rfl

/-! ## Validation -/

lemma firstBad_eq_none_iff :
    firstBad calls deps = none ↔ ¬ ∃ kv ∈ deps, ∃ p ∈ kv.2, badIndex calls kv.1 p := by
  rw [firstBad, Option.map_eq_none_iff, List.find?_eq_none]
  simp

lemma mem_indices_of_mem_remaining (hgood : firstBad calls deps = none) {i p : ℤ}
    (hp : p ∈ remaining deps i) : p ∈ indices calls := by
  unfold remaining at hp
  cases hget : Dict.get? deps i with
  | none =>
      rw [hget] at hp
      cases hp
  | some ps =>
      rw [hget, Option.getD_some] at hp
      have hnot : ¬ badIndex calls i p := fun hbad =>
        firstBad_eq_none_iff.mp hgood ⟨(i, ps), Dict.mem_of_get? hget, p, hp, hbad⟩
      simp only [badIndex, Bool.or_eq_true, decide_eq_true_eq, not_or, not_lt, not_le] at hnot
      obtain ⟨⟨hzero, hlt⟩, -⟩ := hnot
      refine List.mem_map.mpr ⟨p.toNat, List.mem_range.mpr ?_, Int.toNat_of_nonneg hzero⟩
      omega

lemma executeOrdered_of_good (hgood : firstBad calls deps = none) :
    (executeOrdered calls deps : OrderedRun Result) = turn calls deps {} := by
  rw [executeOrdered, hgood]

lemma Inv.not_failed (h : Inv calls deps s) (hgood : firstBad calls deps = none)
    (hacyclic : ∀ i, ¬ Relation.TransGen (Edge (remaining deps)) i i) (e : String) :
    s.outcome ≠ some (.error e) := by
  intro he
  obtain ⟨⟨i, hi, hout⟩, hend⟩ := h.failed e he
  refine hout ((h.linear.mem_iff hend (fun a _ p hp => ?_) i).mpr ⟨hi, ?_⟩)
  · exact mem_indices_of_mem_remaining hgood hp
  · rintro ⟨j, -, hcycle⟩
    exact hacyclic j hcycle

lemma mem_indices_of_cycle (hgood : firstBad calls deps = none) {i : ℤ}
    (hcycle : Relation.TransGen (Edge (remaining deps)) i i) : i ∈ indices calls := by
  obtain ⟨j, -, hedge⟩ := Relation.TransGen.tail'_iff.mp hcycle
  exact mem_indices_of_mem_remaining hgood hedge

lemma run_of_refused {e : String} {moves : List (ℤ × Result)}
    (hrun : (machine calls deps).run { outcome := some (.error e) } moves = some s) :
    moves = [] ∧ s = { outcome := some (.error e) } := by
  cases moves with
  | nil => exact ⟨rfl, (Option.some.inj hrun).symm⟩
  | cons move rest =>
      obtain ⟨r, hstep, -⟩ := (machine calls deps).run_cons_eq_some.mp hrun
      have hfinish : finish calls deps { outcome := some (.error e) } move.1 move.2 = some r :=
        hstep
      have hopen := (finish_cases hfinish).1.1
      cases hopen

lemma sound_refused (e : String) :
    Sound calls deps ({ outcome := some (.error e) } : OrderedRun Result) where
  once := List.nodup_nil
  listed i hi := by cases hi
  after before i rest hsplit := by
    exact absurd hsplit.symm (List.append_ne_nil_of_right_ne_nil _ (List.cons_ne_nil _ _))
  complete results hresults := by cases hresults

/-- Whatever the dependencies, a run is sound and comes to an end, with results if the
dependencies are valid. -/
lemma sound_of_run {moves : List (ℤ × Result)}
    (hrun : (machine calls deps).run (executeOrdered calls deps) moves = some s) :
    Sound calls deps s ∧ moves.length ≤ calls.length ∧
      (s.outcome = none → ∃ i, ∀ result, (finish calls deps s i result).isSome = true) ∧
      (¬ Invalid calls deps → ∀ e, s.outcome ≠ some (.error e)) := by
  cases hgood : firstBad calls deps with
  | some i =>
      rw [executeOrdered, hgood] at hrun
      obtain ⟨rfl, rfl⟩ := run_of_refused hrun
      refine ⟨sound_refused _, Nat.zero_le _, fun hopen => (by cases hopen), fun hvalid => ?_⟩
      by_contra hnot
      refine hvalid (.inl (not_not.mp fun hnone => ?_))
      rw [firstBad_eq_none_iff.mpr hnone] at hgood
      cases hgood
  | none =>
      rw [executeOrdered_of_good hgood] at hrun
      have hinv := inv_of_run hrun
      have hlength := length_finishes_of_run hrun
      rw [finishes_turn] at hlength
      refine ⟨hinv.sound, ?_, hinv.progress, fun hvalid => ?_⟩
      · have hle := hinv.length_finishes_le
        rw [hlength] at hle
        exact (Nat.le_add_left _ _).trans hle
      · exact hinv.not_failed hgood fun i hcycle => hvalid (.inr ⟨i, hcycle⟩)

lemma turn_of_waiting (hwaiting : ∀ i ∈ indices calls, remaining deps i ≠ []) {i : ℤ}
    (hi : i ∈ indices calls) :
    turn calls deps ({} : OrderedRun Result) =
      { outcome := some (.error "Dependency cycle detected") } := by
  have hready : ready calls deps ([] : Dict ℤ Result) = [] := by
    refine List.eq_nil_iff_forall_not_mem.mpr fun j hj => ?_
    obtain ⟨hmem, -, hdeps⟩ := mem_ready.mp hj
    obtain ⟨p, hp⟩ := List.exists_mem_of_ne_nil _ (hwaiting j hmem)
    cases hdeps p hp
  have hnot : ¬ (indices calls).all (· ∈ Dict.keys ([] : Dict ℤ Result)) = true := by
    intro hall
    have hmem := of_decide_eq_true (List.all_eq_true.mp hall i hi)
    cases hmem
  rw [turn, if_neg hnot, if_pos hready]

/-- The calls are validated before the first of them is started exactly if a prerequisite is
refused, or there is no cycle, or every call has a prerequisite. -/
lemma validatesThenRuns_iff :
    ValidatesThenRuns Result calls deps ↔
      (∃ kv ∈ deps, ∃ p ∈ kv.2, badIndex calls kv.1 p) ∨
        (¬ ∃ i, Relation.TransGen (Edge (remaining deps)) i i) ∨
        ∀ i ∈ indices calls, remaining deps i ≠ [] := by
  constructor
  · rintro ⟨hrejects, -⟩
    by_contra hnot
    obtain ⟨hbad, hrest⟩ := not_or.mp hnot
    obtain ⟨hcycle, hfree⟩ := not_or.mp hrest
    have hgood := firstBad_eq_none_iff.mpr hbad
    obtain ⟨e, heq⟩ := hrejects (.inr (not_not.mp hcycle))
    rw [executeOrdered_of_good hgood] at heq
    push Not at hfree
    obtain ⟨i, hi, hnone⟩ := hfree
    -- the call without a prerequisite is started
    have hnext : Next (indices calls) (remaining deps) [] i :=
      ⟨hi, List.not_mem_nil, by rw [hnone]; simp⟩
    have hinv : Inv calls deps (turn calls deps ({} : OrderedRun Result)) := between_start.turn
    rw [heq] at hinv
    exact (hinv.failed e rfl).2 i hnext
  · intro hcond
    refine ⟨fun hinvalid => ?_, fun moves s hrun => sound_of_run hrun⟩
    cases hgood : firstBad calls deps with
    | some i => exact ⟨_, by rw [executeOrdered, hgood]⟩
    | none =>
        obtain ⟨i, hcycle⟩ := hinvalid.resolve_left (firstBad_eq_none_iff.mp hgood)
        rcases hcond with hbad | hnone | hwaiting
        · exact absurd hbad (firstBad_eq_none_iff.mp hgood)
        · exact absurd ⟨i, hcycle⟩ hnone
        · rw [executeOrdered_of_good hgood,
            turn_of_waiting hwaiting (mem_indices_of_cycle hgood hcycle)]
          exact ⟨_, rfl⟩

end Dispatcher

end Samaktha
