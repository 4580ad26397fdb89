import Mathlib.Data.List.Chain
import Mathlib.Data.List.Nodup
import Mathlib.Data.List.Perm.Subperm
import Mathlib.Logic.Relation

/-!
# Chains of items

A chain is a list of items with distinct keys, of which the first depends on nothing and each
later one on the item before it.  Whatever part of a chain is taken, no item of the part
depends on itself through others (`Linked.acyclic`).  A part that keeps the last item and names
only its own items among its dependencies is the whole chain (`Linked.eq_of_closed`), so that
nothing can be left out of a chain without leaving a dependency on what is gone.

`firstOnly` keeps the first item of each kind, and `existsUnique_iff_nodup` says when each of
a list of values is met by one item.
-/

namespace Samaktha

namespace Chain

open Relation

variable {α κ τ : Type*}

section Linked

variable (key : α → κ) (deps : α → List κ)

/-- Distinct keys, each item depending on the one before it. -/
structure Linked (items : List α) : Prop where
  nodup : (items.map key).Nodup
  first : ∀ a, items.head? = some a → deps a = []
  next : items.IsChain fun a b => deps b = [key a]

/-- The item under the key `a` depends on the key `b`. -/
def Edge (items : List α) (a b : κ) : Prop := ∃ x ∈ items, key x = a ∧ b ∈ deps x

/-- Every dependency is the key of an item. -/
def Closed (items : List α) : Prop := ∀ x ∈ items, ∀ k ∈ deps x, k ∈ items.map key

variable {key deps} {items part : List α}

lemma Edge.mono (hsub : part ⊆ items) {a b : κ} (h : Edge key deps part a b) :
    Edge key deps items a b := by
  obtain ⟨x, hx, hkey, hdep⟩ := h
  exact ⟨x, hsub hx, hkey, hdep⟩

section Map

variable {β : Type*} {f : β → α} {source : List β}

lemma edge_map_iff {a b : κ} :
    Edge key deps (source.map f) a b ↔ Edge (key ∘ f) (deps ∘ f) source a b := by
  simp [Edge]

lemma closed_map_iff : Closed key deps (source.map f) ↔ Closed (key ∘ f) (deps ∘ f) source := by
  simp [Closed]

end Map

namespace Linked

lemma eq_of_key (h : Linked key deps items) {x y : α} (hx : x ∈ items) (hy : y ∈ items)
    (hkey : key x = key y) : x = y :=
  List.inj_on_of_nodup_map h.nodup hx hy hkey

lemma exists_before (h : Linked key deps items) {i : ℕ} (hi : i < items.length) {k : κ}
    (hk : k ∈ deps items[i]) : ∃ j, ∃ hj : j < items.length, i = j + 1 ∧ k = key items[j] := by
  cases i with
  | zero =>
      have hfirst := h.first items[0] (List.head?_eq_getElem? ▸ List.getElem?_eq_getElem hi)
      rw [hfirst] at hk
      cases hk
  | succ j =>
      have hnext := List.isChain_iff_getElem.mp h.next j hi
      rw [hnext, List.mem_singleton] at hk
      exact ⟨j, by omega, rfl, hk⟩

lemma closed (h : Linked key deps items) : Closed key deps items := by
  intro x hx k hk
  obtain ⟨i, hi, rfl⟩ := List.getElem_of_mem hx
  obtain ⟨j, hj, -, rfl⟩ := h.exists_before hi hk
  exact List.mem_map_of_mem (List.getElem_mem hj)

lemma idxOf_lt [DecidableEq κ] (h : Linked key deps items) {a b : κ}
    (hedge : Edge key deps items a b) :
    (items.map key).idxOf b < (items.map key).idxOf a := by
  obtain ⟨x, hx, rfl, hdep⟩ := hedge
  obtain ⟨i, hi, rfl⟩ := List.getElem_of_mem hx
  obtain ⟨j, hj, rfl, rfl⟩ := h.exists_before hi hdep
  have hidx : ∀ (n : ℕ) (hn : n < items.length), (items.map key).idxOf (key items[n]) = n := by
    intro n hn
    have hlt : n < (items.map key).length := by rwa [List.length_map]
    rw [← List.getElem_map key (h := hlt)]
    exact h.nodup.idxOf_getElem n hlt
  rw [hidx j hj, hidx (j + 1) hi]
  omega

lemma acyclic (h : Linked key deps items) (hsub : part ⊆ items) (k : κ) :
    ¬ TransGen (Edge key deps part) k k := by
  classical
  intro hcycle
  have hlt : ∀ {a b : κ}, TransGen (Edge key deps part) a b →
      (items.map key).idxOf b < (items.map key).idxOf a := by
    intro a b hpath
    induction hpath with
    | single hedge => exact h.idxOf_lt (hedge.mono hsub)
    | tail _ hedge ih => exact (h.idxOf_lt (hedge.mono hsub)).trans ih
  exact lt_irrefl _ (hlt hcycle)

lemma eq_of_closed (h : Linked key deps items) (hsub : List.Sublist part items)
    (hlast : ∀ a, items.getLast? = some a → a ∈ part) (hclosed : Closed key deps part) :
    part = items := by
  have hback : ∀ x ∈ items, x ∈ part := by
    refine List.IsChain.backwards_induction (· ∈ part) items
      (h.next.imp_of_mem_imp (fun a b ha _ hdep => (⟨ha, hdep⟩ : a ∈ items ∧ deps b = [key a])))
      (fun x y hxy hy => ?_) (fun hne => hlast _ (List.getLast?_eq_getLast_of_ne_nil hne))
    obtain ⟨z, hz, hkey⟩ :=
      List.mem_map.mp (hclosed y hy (key x) (hxy.2 ▸ List.mem_singleton_self _))
    exact h.eq_of_key (hsub.subset hz) hxy.1 hkey ▸ hz
  have hnodup : items.Nodup := List.Nodup.of_map key h.nodup
  exact hsub.eq_of_length_le (List.subperm_of_subset hnodup hback).length_le

end Linked

end Linked

/-! ## The first of each kind -/

section FirstOnly

variable [DecidableEq τ] (tag : α → τ)

/-- The items whose kind is new, kinds already met being in `seen`. -/
def firstOnly (seen : List τ) : List α → List α
  | [] => []
  | a :: items =>
      if tag a ∈ seen then firstOnly seen items
      else a :: firstOnly (tag a :: seen) items

lemma firstOnly_sublist (seen : List τ) (items : List α) :
    List.Sublist (firstOnly tag seen items) items := by
  induction items generalizing seen with
  | nil => exact List.Sublist.slnil
  | cons a items ih =>
      rw [firstOnly]
      split
      · exact (ih seen).cons a
      · exact (ih _).cons_cons a

variable {tag}

lemma mem_firstOnly_append {seen : List τ} {before after : List α} {a : α}
    (hseen : tag a ∉ seen) (hbefore : ∀ b ∈ before, tag b ≠ tag a) :
    a ∈ firstOnly tag seen (before ++ a :: after) := by
  induction before generalizing seen with
  | nil =>
      rw [List.nil_append, firstOnly, if_neg hseen]
      exact List.mem_cons_self
  | cons b before ih =>
      have hrest : ∀ c ∈ before, tag c ≠ tag a := fun c hc => hbefore c (List.mem_cons_of_mem b hc)
      rw [List.cons_append, firstOnly]
      split
      · exact ih hseen hrest
      · refine List.mem_cons_of_mem b (ih ?_ hrest)
        rw [List.mem_cons, not_or]
        exact ⟨(hbefore b List.mem_cons_self).symm, hseen⟩

lemma firstOnly_eq_self_iff_aux (seen : List τ) (items : List α) :
    firstOnly tag seen items = items ↔
      (items.map tag).Nodup ∧ ∀ a ∈ items, tag a ∉ seen := by
  induction items generalizing seen with
  | nil => simp [firstOnly]
  | cons a items ih =>
      by_cases hseen : tag a ∈ seen
      · rw [firstOnly, if_pos hseen]
        constructor
        · intro heq
          have hlength := congrArg List.length heq
          have hle := (firstOnly_sublist tag seen items).length_le
          rw [List.length_cons] at hlength
          omega
        · intro h
          exact absurd hseen (h.2 a List.mem_cons_self)
      · rw [firstOnly, if_neg hseen, List.cons_eq_cons, ih]
        simp only [List.map_cons, List.nodup_cons, List.mem_map, List.mem_cons, true_and, not_or,
          not_exists, not_and, forall_eq_or_imp]
        constructor
        · rintro ⟨hnodup, hnew⟩
          exact ⟨⟨fun b hb => (hnew b hb).1, hnodup⟩, hseen, fun b hb => (hnew b hb).2⟩
        · rintro ⟨⟨hne, hnodup⟩, -, hnew⟩
          exact ⟨hnodup, fun b hb => ⟨hne b hb, hnew b hb⟩⟩

/-- Nothing is left out exactly if the kinds are distinct. -/
lemma firstOnly_eq_self_iff (items : List α) :
    firstOnly tag [] items = items ↔ (items.map tag).Nodup := by
  rw [firstOnly_eq_self_iff_aux]
  exact and_iff_left fun _ _ => List.not_mem_nil

end FirstOnly

/-! ## One item for each value -/

section Unique

variable {β ρ : Type*} {value : α → ρ} {meets : β → ρ → Prop}

lemma exists_meets_iff {as : List α} {bs : List β}
    (h : List.Forall₂ (fun a b => ∀ r, meets b r ↔ r = value a) as bs) (r : ρ) :
    (∃ b ∈ bs, meets b r) ↔ ∃ a ∈ as, value a = r := by
  induction h with
  | nil => simp
  | cons hhead _ ih =>
      simp only [List.mem_cons, exists_eq_or_imp, hhead, ih]
      exact or_congr_left eq_comm

/-- If each item meets exactly the value beside it, the values are met once each exactly if they
are distinct. -/
lemma existsUnique_iff_nodup {as : List α} {bs : List β} (hbs : bs.Nodup)
    (h : List.Forall₂ (fun a b => ∀ r, meets b r ↔ r = value a) as bs) :
    (∀ a ∈ as, ∃! b, b ∈ bs ∧ meets b (value a)) ↔ (as.map value).Nodup := by
  induction h with
  | nil => simp
  | @cons a b as bs hab htail ih =>
      obtain ⟨hb, hbs⟩ := List.nodup_cons.mp hbs
      rw [List.map_cons, List.nodup_cons, ← ih hbs, List.forall_mem_cons]
      constructor
      · rintro ⟨⟨c, -, hunique⟩, hrest⟩
        refine ⟨fun hmem => ?_, fun d hd => ?_⟩
        · obtain ⟨d, hd, hvalue⟩ := List.mem_map.mp hmem
          obtain ⟨e, he, hmeets⟩ := (exists_meets_iff htail _).mpr ⟨d, hd, hvalue⟩
          have hcb := hunique b ⟨List.mem_cons_self, (hab _).mpr rfl⟩
          have hce := hunique e ⟨List.mem_cons_of_mem b he, hmeets⟩
          exact hb (hcb.trans hce.symm ▸ he)
        · obtain ⟨e, he, hmeets⟩ := (exists_meets_iff htail _).mpr ⟨d, hd, rfl⟩
          refine ⟨e, ⟨he, hmeets⟩, fun f hf => ?_⟩
          exact (hrest d hd).unique ⟨List.mem_cons_of_mem b hf.1, hf.2⟩
            ⟨List.mem_cons_of_mem b he, hmeets⟩
      · rintro ⟨hnew, hrest⟩
        refine ⟨⟨b, ⟨List.mem_cons_self, (hab _).mpr rfl⟩, ?_⟩, fun d hd => ?_⟩
        · rintro c ⟨hc, hmeets⟩
          refine (List.mem_cons.mp hc).resolve_right fun hmem => hnew ?_
          obtain ⟨d, hd, hvalue⟩ := (exists_meets_iff htail _).mp ⟨c, hmem, hmeets⟩
          exact List.mem_map.mpr ⟨d, hd, hvalue⟩
        · obtain ⟨c, ⟨hc, hmeets⟩, hunique⟩ := hrest d hd
          refine ⟨c, ⟨List.mem_cons_of_mem b hc, hmeets⟩, ?_⟩
          rintro e ⟨he, hmet⟩
          rcases List.mem_cons.mp he with rfl | he
          · exact absurd (List.mem_map.mpr ⟨d, hd, (hab _).mp hmet⟩) hnew
          · exact hunique e ⟨he, hmet⟩

end Unique

end Chain

end Samaktha
