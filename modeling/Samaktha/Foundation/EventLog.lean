import Mathlib.Data.List.Nodup
import Mathlib.Data.List.Sort

/-!
# Event logs

A log lists entries under pairwise different keys and in the order of their stamps.  It is a log
of some accepted entries (`IsLog`) if these stand in it in the order in which they were accepted;
as keys do not repeat, each stands in it once.  Logs are kept by appending an entry with a new
key and a later stamp, and by leaving out entries that were not accepted.

Nothing here mentions the program being verified.
-/

namespace Samaktha

universe u v

lemma split_append {α : Type u} {log tail before rest : List α} {a : α}
    (h : log ++ tail = before ++ a :: rest) :
    (∃ after, log = before ++ a :: after) ∨
      ∃ mid, before = log ++ mid ∧ tail = mid ++ a :: rest := by
  rcases List.append_eq_append_iff.mp h with ⟨mid, hbefore, htail⟩ | ⟨mid, hlog, hmid⟩
  · exact .inr ⟨mid, hbefore, htail⟩
  · cases mid with
    | nil => exact .inr ⟨[], by rw [List.append_nil, hlog, List.append_nil], hmid.symm⟩
    | cons b mid =>
        obtain ⟨rfl, -⟩ := List.cons.inj hmid
        exact .inl ⟨mid, hlog⟩

variable {α : Type u} {κ : Type v} {key : α → κ} {stamp : α → ℕ}

/-- The log holds the accepted entries, each once and in order. -/
structure IsLog (key : α → κ) (stamp : α → ℕ) (accepted log : List α) : Prop where
  sublist : accepted.Sublist log
  once : (log.map key).Nodup
  stamps : log.Pairwise fun x y => stamp x < stamp y

namespace IsLog

variable {accepted log : List α}

lemma nil : IsLog key stamp [] [] := ⟨List.Sublist.refl _, List.nodup_nil, List.Pairwise.nil⟩

lemma mem (h : IsLog key stamp accepted log) {x : α} (hx : x ∈ accepted) : x ∈ log :=
  h.sublist.subset hx

lemma sublist_of_subset {list : List α} (hlog : log.Pairwise fun x y => stamp x < stamp y)
    (hlist : list.Pairwise fun x y => stamp x < stamp y) (hsub : list ⊆ log) :
    list.Sublist log := by
  have hirrefl : Std.Irrefl fun x y : α => stamp x < stamp y := ⟨fun x => lt_irrefl _⟩
  have hantisymm : Std.Antisymm fun x y : α => stamp x < stamp y :=
    ⟨fun x y hxy hyx => absurd hxy (lt_asymm hyx)⟩
  exact List.sublist_of_subperm_of_pairwise (List.subperm_of_subset hlist.nodup hsub) hlist hlog

lemma leaveOut (h : IsLog key stamp accepted log) {list : List α} (hlist : list.Sublist log)
    (haccepted : accepted ⊆ list) : IsLog key stamp accepted list where
  sublist := sublist_of_subset (h.stamps.sublist hlist) (h.stamps.sublist h.sublist) haccepted
  once := h.once.sublist (hlist.map key)
  stamps := h.stamps.sublist hlist

lemma append (h : IsLog key stamp accepted log) {x : α} (hkey : key x ∉ log.map key)
    (hstamp : ∀ y ∈ log, stamp y < stamp x) : IsLog key stamp accepted (log ++ [x]) where
  sublist := h.sublist.trans (List.sublist_append_left log [x])
  once := by
    rw [List.map_append]
    refine h.once.append (List.nodup_singleton _) fun k hk hk' => ?_
    rw [List.map_singleton, List.mem_singleton] at hk'
    exact hkey (hk' ▸ hk)
  stamps := by
    refine List.pairwise_append.mpr ⟨h.stamps, List.pairwise_singleton _ _, fun y hy z hz => ?_⟩
    rw [List.mem_singleton.mp hz]
    exact hstamp y hy

lemma accept (h : IsLog key stamp accepted log) {x : α} (hx : x ∈ log)
    (hlast : ∀ y ∈ accepted, stamp y < stamp x) :
    IsLog key stamp (accepted ++ [x]) log where
  sublist := by
    refine sublist_of_subset h.stamps ?_ ?_
    · refine List.pairwise_append.mpr ⟨h.stamps.sublist h.sublist, List.pairwise_singleton _ _,
        fun y hy z hz => ?_⟩
      rw [List.mem_singleton.mp hz]
      exact hlast y hy
    · intro y hy
      rcases List.mem_append.mp hy with hold | hnew
      · exact h.mem hold
      · rw [List.mem_singleton.mp hnew]
        exact hx
  once := h.once
  stamps := h.stamps

lemma acceptAppended (h : IsLog key stamp accepted log) {x : α} (hkey : key x ∉ log.map key)
    (hstamp : ∀ y ∈ log, stamp y < stamp x) :
    IsLog key stamp (accepted ++ [x]) (log ++ [x]) :=
  (h.append hkey hstamp).accept (List.mem_append_right log (List.mem_singleton_self x))
    fun y hy => hstamp y (h.mem hy)

end IsLog

end Samaktha
