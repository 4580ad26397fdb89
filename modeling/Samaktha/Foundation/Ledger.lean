import Samaktha.Foundation.Machine
import Mathlib.Data.List.Sort
import Mathlib.Data.Prod.Lex

/-!
# Append-only stores on a table

A store that keeps entries in memory and in a table, and that is built anew from the table when
its process restarts.  `Ledger.machine` runs it against calls and restarts, and counts what the
calls accepted; `Ledger.Kept` is what a step has to leave behind.  A store that sorts its rows
when it is built gets back the order of its entries where the sort keys, with the order of the
rows, already were in order (`pairwise_insertionSort`, `insertionSort_eq_iff`).

Nothing here mentions the program being verified.
-/

namespace Samaktha

universe u v

/-! ## Stable sorts -/

section StableSort

variable {α : Type u} {β : Type v} [LinearOrder β] {key : α → β} {S : α → α → Prop}

/-- In order of a key, and in another order where the keys are the same. -/
def Before (key : α → β) (S : α → α → Prop) (a b : α) : Prop :=
  key a < key b ∨ key a = key b ∧ S a b

lemma Before.le {a b : α} (h : Before key S a b) : key a ≤ key b :=
  h.elim le_of_lt fun heq => heq.1.le

lemma pairwise_orderedInsert {a : α} {l : List α} (hl : l.Pairwise (Before key S))
    (ha : ∀ b ∈ l, S a b) :
    (l.orderedInsert (fun a b => key a ≤ key b) a).Pairwise (Before key S) := by
  induction l with
  | nil => exact List.pairwise_singleton _ a
  | cons b l ih =>
      obtain ⟨hb, hrest⟩ := List.pairwise_cons.mp hl
      by_cases hle : key a ≤ key b
      · rw [List.orderedInsert_cons_of_le (fun a b => key a ≤ key b) l hle]
        refine List.pairwise_cons.mpr ⟨fun c hc => ?_, hl⟩
        have hac : key a ≤ key c := by
          rcases List.mem_cons.mp hc with rfl | hmem
          · exact hle
          · exact hle.trans (hb c hmem).le
        exact hac.lt_or_eq.imp_right fun heq => ⟨heq, ha c hc⟩
      · rw [List.orderedInsert_of_not_le (fun a b => key a ≤ key b) l hle]
        refine List.pairwise_cons.mpr ⟨fun c hc => ?_, ih hrest fun c hc => ?_⟩
        · rcases (List.mem_orderedInsert _).mp hc with rfl | hmem
          · exact .inl (lt_of_not_ge hle)
          · exact hb c hmem
        · exact ha c (List.mem_cons_of_mem b hc)

/-- A sort by a key leaves entries with the same key in the order they had. -/
theorem pairwise_insertionSort {l : List α} (hl : l.Pairwise S) :
    (l.insertionSort fun a b => key a ≤ key b).Pairwise (Before key S) := by
  induction l with
  | nil => exact List.Pairwise.nil
  | cons a l ih =>
      obtain ⟨ha, hrest⟩ := List.pairwise_cons.mp hl
      rw [List.insertionSort_cons]
      exact pairwise_orderedInsert (ih hrest) fun b hb => ha b ((List.mem_insertionSort _).mp hb)

/-- A list is what a sort by a key gives for its entries in another order, exactly where it is in
order of the key and, for entries with the same key, in that other order. -/
theorem insertionSort_eq_iff {l m : List α} (hperm : l.Perm m) (hl : l.Pairwise S)
    (hS : ∀ a b, S a b → ¬ S b a) :
    (l.insertionSort fun a b => key a ≤ key b) = m ↔ m.Pairwise (Before key S) := by
  constructor
  · rintro rfl
    exact pairwise_insertionSort hl
  · intro hm
    refine List.Perm.eq_of_pairwise ?_ (pairwise_insertionSort hl) hm
      ((List.perm_insertionSort _ l).trans hperm)
    rintro a b - - (hab | ⟨heq, hab⟩) (hba | ⟨heq', hba⟩)
    · exact absurd hab hba.not_gt
    · exact absurd heq' hab.ne'
    · exact absurd heq hba.ne'
    · exact absurd hba (hS a b hab)

end StableSort

/-! ## Stores -/

/-- An append-only store: what a call gives and leaves, what a restart leaves, and what can be
seen of a store. -/
structure Ledger (σ ι ρ ε τ : Type) where
  call : σ → ι → Except ρ ε × σ
  restart : σ → σ
  entries : σ → List ε
  table : σ → τ
  verifies : σ → Bool

namespace Ledger

variable {σ ι ρ ε τ : Type}

/-- A store, with the entries that its calls accepted. -/
structure Run (σ ε : Type) where
  store : σ
  accepted : List ε := []

/-- What can happen to a store. -/
inductive Move (ι : Type) where
  | call (input : ι)
  | restart

/-- A store against any order of calls and restarts. -/
def machine (ledger : Ledger σ ι ρ ε τ) : Machine (Run σ ε) (Move ι) where
  step run
    | .call input =>
        some {
          store := (ledger.call run.store input).2
          accepted := match (ledger.call run.store input).1 with
            | .ok entry => run.accepted ++ [entry]
            | .error _ => run.accepted }
    | .restart => some { run with store := ledger.restart run.store }

/-- What a step has to leave behind: the store verifies, its entries are the accepted ones in
their order, and a call that raised left the entries and the table as they were. -/
def Kept (ledger : Ledger σ ι ρ ε τ) (run : Run σ ε) (move : Move ι) : Prop :=
  (∀ next, ledger.machine.step run move = some next →
    ledger.verifies next.store = true ∧ ledger.entries next.store = next.accepted) ∧
  ∀ input error store, move = .call input → ledger.call run.store input = (.error error, store) →
    ledger.entries store = ledger.entries run.store ∧ ledger.table store = ledger.table run.store

variable {ledger : Ledger σ ι ρ ε τ} {run : Run σ ε}

lemma kept_call_of_ok {input : ι} {entry : ε} {store : σ}
    (h : ledger.call run.store input = (.ok entry, store)) :
    ledger.Kept run (.call input) ↔
      ledger.verifies store = true ∧ ledger.entries store = run.accepted ++ [entry] := by
  constructor
  · rintro ⟨hnext, -⟩
    simpa [h] using hnext _ rfl
  · rintro ⟨hverifies, hentries⟩
    refine ⟨fun next hnext => ?_, fun input' error store' heq herror => ?_⟩
    · obtain rfl := Option.some.inj hnext
      simpa [h] using ⟨hverifies, hentries⟩
    · obtain rfl := Move.call.inj heq
      rw [h] at herror
      cases herror

lemma kept_call_of_error {input : ι} {error : ρ} {store : σ}
    (h : ledger.call run.store input = (.error error, store)) :
    ledger.Kept run (.call input) ↔
      (ledger.verifies store = true ∧ ledger.entries store = run.accepted) ∧
        ledger.entries store = ledger.entries run.store ∧
        ledger.table store = ledger.table run.store := by
  constructor
  · rintro ⟨hnext, hraise⟩
    refine ⟨?_, hraise input error store rfl h⟩
    simpa [h] using hnext _ rfl
  · rintro ⟨hstore, hsame⟩
    refine ⟨fun next hnext => ?_, fun input' error' store' heq herror => ?_⟩
    · obtain rfl := Option.some.inj hnext
      simpa [h] using hstore
    · obtain rfl := Move.call.inj heq
      rw [h] at herror
      cases herror
      exact hsame

lemma kept_restart :
    ledger.Kept run .restart ↔ ledger.verifies (ledger.restart run.store) = true ∧
      ledger.entries (ledger.restart run.store) = run.accepted := by
  constructor
  · rintro ⟨hnext, -⟩
    exact hnext _ rfl
  · intro hstore
    refine ⟨fun next hnext => ?_, fun input error store heq => ?_⟩
    · obtain rfl := Option.some.inj hnext
      exact hstore
    · cases heq

end Ledger

end Samaktha
