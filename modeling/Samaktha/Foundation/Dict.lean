import Mathlib.Data.List.Basic
import Mathlib.Data.List.Induction
import Mathlib.Data.List.Nodup
import Mathlib.Data.List.Sort
import Mathlib.Order.Lattice
import Mathlib.Tactic.Common

/-!
# Insertion-ordered dictionaries

A dictionary is the list of its items in insertion order.  Assignment to a key that is
present keeps the key's place, assignment to a new key appends it, and the first item of a
key is the one that is read, so the invariant "every key once" (`Dict.NodupKeys`) is kept by
every operation that starts from a dictionary that has it.

The operations are executable, and `Dict.get?` with the `@[simp]` lemmas on it is the
interface the proofs use; the order of items matters only to `Dict.sortByKey`, which writes
the items in increasing key order.
-/

namespace Samaktha

universe u v w

/-- The items of a dictionary, in insertion order. -/
abbrev Dict (α : Type u) (β : Type v) := List (α × β)

namespace Dict

variable {α : Type u} {β : Type v} {γ : Type w} [DecidableEq α]

/-- The value stored under a key. -/
def get? : Dict α β → α → Option β
  | [], _ => none
  | (k, v) :: d, a => if k = a then some v else get? d a

/-- Assignment `d[a] = b`. -/
def set : Dict α β → α → β → Dict α β
  | [], a, b => [(a, b)]
  | (k, v) :: d, a, b => if k = a then (k, b) :: d else (k, v) :: set d a b

/-- Assignment under a key only where the key is absent. -/
def setDefault (d : Dict α β) (a : α) (b : β) : Dict α β :=
  if (d.get? a).isSome then d else d.set a b

/-- Removal of a key. -/
def erase (d : Dict α β) (a : α) : Dict α β := d.filter fun kv => kv.1 ≠ a

/-- `d | e`: every item of `e` is assigned in `d`, in the order of `e`. -/
def update (d e : Dict α β) : Dict α β := e.foldl (fun d kv => d.set kv.1 kv.2) d

/-- The dictionary a comprehension builds from a list of items: later items of a key win and
keep the place of the first. -/
def ofList (items : List (α × β)) : Dict α β := update [] items

/-- The keys, in insertion order. -/
def keys (d : Dict α β) : List α := d.map Prod.fst

/-- Every key stands once. -/
def NodupKeys (d : Dict α β) : Prop := d.keys.Nodup

/-! ## Reading after writing -/

@[simp] lemma get?_nil (a : α) : get? ([] : Dict α β) a = none := rfl

lemma get?_cons (k : α) (v : β) (d : Dict α β) (a : α) :
    get? ((k, v) :: d) a = if k = a then some v else get? d a := rfl

@[simp] lemma get?_cons_self (k : α) (v : β) (d : Dict α β) :
    get? ((k, v) :: d) k = some v := by simp [get?_cons]

@[simp] lemma get?_set_self (d : Dict α β) (a : α) (b : β) : (d.set a b).get? a = some b := by
  induction d with
  | nil => simp [set]
  | cons kv d ih =>
      obtain ⟨k, v⟩ := kv
      by_cases h : k = a
      · simp [set, h]
      · simp [set, h, get?_cons, ih]

lemma get?_set_of_ne {a c : α} (h : a ≠ c) (d : Dict α β) (b : β) :
    (d.set a b).get? c = d.get? c := by
  induction d with
  | nil => simp [set, get?_cons, h]
  | cons kv d ih =>
      obtain ⟨k, v⟩ := kv
      by_cases hk : k = a
      · subst hk
        simp [set, get?_cons, h]
      · simp [set, hk, get?_cons, ih]

lemma get?_set (d : Dict α β) (a c : α) (b : β) :
    (d.set a b).get? c = if a = c then some b else d.get? c := by
  by_cases h : a = c
  · subst h
    simp
  · rw [get?_set_of_ne h, if_neg h]

@[simp] lemma get?_erase_self (d : Dict α β) (a : α) : (d.erase a).get? a = none := by
  induction d with
  | nil => rfl
  | cons kv d ih =>
      obtain ⟨k, v⟩ := kv
      by_cases h : k = a
      · simpa [erase, h] using ih
      · simpa [erase, h, get?_cons] using ih

lemma get?_erase_of_ne {a c : α} (h : a ≠ c) (d : Dict α β) : (d.erase a).get? c = d.get? c := by
  induction d with
  | nil => rfl
  | cons kv d ih =>
      obtain ⟨k, v⟩ := kv
      by_cases hk : k = a
      · subst hk
        simpa [erase, get?_cons, h] using ih
      · by_cases hc : k = c
        · subst hc
          simp [erase, hk]
        · simpa [erase, hk, hc, get?_cons] using ih

lemma get?_erase (d : Dict α β) (a c : α) :
    (d.erase a).get? c = if a = c then none else d.get? c := by
  by_cases h : a = c
  · subst h
    simp
  · rw [get?_erase_of_ne h, if_neg h]

lemma get?_ne_none_of_mem {d : Dict α β} {a : α} {b : β} (h : (a, b) ∈ d) :
    d.get? a ≠ none := by
  induction d with
  | nil => simp at h
  | cons kv d ih =>
      obtain ⟨k, v⟩ := kv
      rw [get?_cons]
      split
      · simp
      · rename_i hne
        rcases List.mem_cons.mp h with hkv | hmem
        · exact absurd (congrArg Prod.fst hkv).symm hne
        · exact ih hmem

lemma erase_eq_self {d : Dict α β} {a : α} (h : d.get? a = none) : d.erase a = d := by
  refine List.filter_eq_self.mpr fun kv hkv => ?_
  have hne : kv.1 ≠ a := by
    rintro rfl
    exact get?_ne_none_of_mem hkv h
  simpa using hne

lemma mem_of_get? {d : Dict α β} {a : α} {b : β} (h : d.get? a = some b) : (a, b) ∈ d := by
  induction d with
  | nil => simp at h
  | cons kv d ih =>
      obtain ⟨k, v⟩ := kv
      by_cases hk : k = a
      · subst hk
        obtain rfl : v = b := by simpa [get?_cons] using h
        exact List.mem_cons_self
      · exact List.mem_cons_of_mem _ (ih (by simpa [get?_cons, hk] using h))

lemma get?_eq_none_iff {d : Dict α β} {a : α} : d.get? a = none ↔ a ∉ d.keys := by
  induction d with
  | nil => simp [keys]
  | cons kv d ih =>
      obtain ⟨k, v⟩ := kv
      by_cases hk : k = a
      · simp [hk, keys]
      · have hk' : ¬ a = k := fun h => hk h.symm
        simpa [get?_cons, hk, hk', keys] using ih

lemma get?_of_mem {d : Dict α β} (hd : d.NodupKeys) {a : α} {b : β} (h : (a, b) ∈ d) :
    d.get? a = some b := by
  induction d with
  | nil => simp at h
  | cons kv d ih =>
      obtain ⟨k, v⟩ := kv
      obtain ⟨hk, hd'⟩ := List.nodup_cons.mp hd
      rcases List.mem_cons.mp h with h | h
      · obtain ⟨rfl, rfl⟩ := Prod.mk.inj h
        simp
      · have hne : k ≠ a := by
          rintro rfl
          exact hk (List.mem_map.mpr ⟨(k, b), h, rfl⟩)
        rw [get?_cons, if_neg hne]
        exact ih hd' h

/-! ## Keys -/

lemma keys_set (d : Dict α β) (a : α) (b : β) :
    (d.set a b).keys = if a ∈ d.keys then d.keys else d.keys ++ [a] := by
  induction d with
  | nil => simp [set, keys]
  | cons kv d ih =>
      obtain ⟨k, v⟩ := kv
      by_cases hk : k = a
      · simp [set, hk, keys]
      · have hk' : ¬ a = k := fun h => hk h.symm
        simp only [keys] at ih ⊢
        simp only [set, if_neg hk, List.map_cons, List.mem_cons, hk', false_or, ih]
        split <;> simp_all

lemma NodupKeys.set {d : Dict α β} (hd : d.NodupKeys) (a : α) (b : β) :
    (d.set a b).NodupKeys := by
  unfold NodupKeys
  rw [keys_set]
  split
  · exact hd
  · rename_i ha
    refine List.nodup_append.mpr ⟨hd, List.nodup_singleton a, ?_⟩
    rintro x hx y hy rfl
    obtain rfl : x = a := by simpa using hy
    exact ha hx

lemma NodupKeys.erase {d : Dict α β} (hd : d.NodupKeys) (a : α) : (d.erase a).NodupKeys :=
  hd.sublist (List.filter_sublist.map _)

omit [DecidableEq α] in
@[simp] lemma nodupKeys_nil : NodupKeys ([] : Dict α β) := List.nodup_nil

lemma NodupKeys.update {d : Dict α β} (hd : d.NodupKeys) (e : Dict α β) :
    (d.update e).NodupKeys := by
  induction e generalizing d with
  | nil => exact hd
  | cons kv e ih => exact ih (hd.set kv.1 kv.2)

lemma nodupKeys_ofList (items : List (α × β)) : (ofList items).NodupKeys :=
  nodupKeys_nil.update items

@[simp] lemma update_nil (d : Dict α β) : d.update [] = d := rfl

@[simp] lemma update_cons (d : Dict α β) (kv : α × β) (e : Dict α β) :
    d.update (kv :: e) = (d.set kv.1 kv.2).update e := rfl

lemma perm_cons_erase {d : Dict α β} (hd : d.NodupKeys) {a : α} {b : β}
    (h : d.get? a = some b) : d.Perm ((a, b) :: d.erase a) := by
  induction d with
  | nil => cases h
  | cons kv d ih =>
      obtain ⟨k, v⟩ := kv
      obtain ⟨hk, hd'⟩ := List.nodup_cons.mp hd
      by_cases hka : k = a
      · subst hka
        obtain rfl : v = b := by simpa using h
        have herase : erase ((k, v) :: d) k = d := by
          have hkeep : ∀ kv ∈ d, decide (kv.1 ≠ k) = true := by
            intro kv hkv
            have hne : kv.1 ≠ k := fun heq => hk (List.mem_map.mpr ⟨kv, hkv, heq⟩)
            simpa using hne
          simp only [erase, List.filter_cons, ne_eq, not_true_eq_false, decide_false]
          exact List.filter_eq_self.mpr hkeep
        rw [herase]
      · have hget : get? d a = some b := by simpa [get?_cons, hka] using h
        have herase : erase ((k, v) :: d) a = (k, v) :: erase d a := by simp [erase, hka]
        rw [herase]
        exact ((ih hd' hget).cons (k, v)).trans (List.Perm.swap _ _ _)

lemma mem_of_get?_update {d e : Dict α β} {a : α} {b : β} (h : (d.update e).get? a = some b) :
    (a, b) ∈ e ∨ d.get? a = some b := by
  induction e generalizing d with
  | nil => exact .inr h
  | cons kv e ih =>
      obtain ⟨k, v⟩ := kv
      rcases ih h with hmem | hget
      · exact .inl (List.mem_cons_of_mem _ hmem)
      · rw [get?_set] at hget
        split at hget
        · rename_i hk
          subst hk
          obtain rfl := Option.some.inj hget
          exact .inl List.mem_cons_self
        · exact .inr hget

lemma mem_of_get?_ofList {items : List (α × β)} {a : α} {b : β}
    (h : (ofList items).get? a = some b) : (a, b) ∈ items := by
  rcases mem_of_get?_update h with hmem | hget
  · exact hmem
  · cases hget

/-! ## Reading after an update -/

lemma get?_update (d e : Dict α β) (a : α) :
    (d.update e).get? a = ((ofList e).get? a).or (d.get? a) := by
  induction e using List.reverseRecOn with
  | nil => rfl
  | append_singleton e kv ih =>
      have hlast : ∀ d' : Dict α β,
          d'.update (e ++ [kv]) = (d'.update e).set kv.1 kv.2 := fun d' => by
        simp [update, List.foldl_append]
      rw [ofList, hlast, hlast, get?_set, get?_set]
      split
      · rfl
      · exact ih

lemma get?_ofList_cons (kv : α × β) (e : Dict α β) (a : α) :
    (ofList (kv :: e)).get? a = ((ofList e).get? a).or (if kv.1 = a then some kv.2 else none) := by
  rw [ofList, update_cons, get?_update, get?_set]
  rfl

lemma get?_ofList_set_of_ne {a c : α} (h : a ≠ c) (e : Dict α β) (b : β) :
    (ofList (e.set a b)).get? c = (ofList e).get? c := by
  induction e with
  | nil => simp [set, get?_ofList_cons, h]
  | cons kv e ih =>
      obtain ⟨k, v⟩ := kv
      by_cases hk : k = a
      · subst hk
        simp [set, get?_ofList_cons, h]
      · rw [set, if_neg hk, get?_ofList_cons, get?_ofList_cons, ih]

lemma get?_ofList_eq_none {e : Dict α β} {a : α} :
    (ofList e).get? a = none ↔ e.get? a = none := by
  induction e with
  | nil => simp [ofList]
  | cons kv e ih =>
      obtain ⟨k, v⟩ := kv
      rw [get?_ofList_cons, Option.or_eq_none_iff, ih, get?_cons]
      by_cases hk : k = a <;> simp [hk]

lemma mem_keys_update {d e : Dict α β} {a : α} :
    a ∈ (d.update e).keys ↔ a ∈ d.keys ∨ a ∈ e.keys := by
  rw [← not_iff_not, not_or, ← get?_eq_none_iff, get?_update, Option.or_eq_none_iff,
    get?_ofList_eq_none, get?_eq_none_iff, get?_eq_none_iff, and_comm]

lemma get?_setDefault (d : Dict α β) (a c : α) (b : β) :
    (d.setDefault a b).get? c = (d.get? c).or (if a = c then some b else none) := by
  unfold setDefault
  by_cases hc : a = c
  · subst hc
    rw [if_pos rfl]
    cases h : d.get? a with
    | some v => simp [h]
    | none => simp
  · rw [if_neg hc, Option.or_none]
    split
    · rfl
    · exact get?_set_of_ne hc d b

lemma get?_ofList_setDefault (e : Dict α β) (a c : α) (b : β) :
    (ofList (e.setDefault a b)).get? c =
      ((ofList e).get? c).or (if a = c then some b else none) := by
  unfold setDefault
  by_cases hc : a = c
  · subst hc
    cases h : e.get? a with
    | some v =>
        have hsome : (ofList e).get? a ≠ none := by
          rw [ne_eq, get?_ofList_eq_none, h]
          simp
        obtain ⟨w, hw⟩ := Option.ne_none_iff_exists'.mp hsome
        simp [hw]
    | none =>
        have happend : e.set a b = e ++ [(a, b)] := by
          induction e with
          | nil => rfl
          | cons kv e ih =>
              obtain ⟨k, v⟩ := kv
              by_cases hk : k = a
              · simp [hk] at h
              · rw [set, if_neg hk, ih (by simpa [get?_cons, hk] using h), List.cons_append]
        have hget : (ofList (e.set a b)).get? a = some b := by
          rw [happend, ofList, update, List.foldl_append]
          simp
        simp [hget, get?_ofList_eq_none.mpr h]
  · rw [if_neg hc, Option.or_none]
    split
    · rfl
    · exact get?_ofList_set_of_ne hc e b

lemma get?_ofList {e : Dict α β} (he : e.NodupKeys) (a : α) :
    (ofList e).get? a = e.get? a := by
  induction e with
  | nil => rfl
  | cons kv e ih =>
      obtain ⟨k, v⟩ := kv
      obtain ⟨hk, he'⟩ := List.nodup_cons.mp he
      rw [get?_ofList_cons, ih he', get?_cons]
      by_cases hka : k = a
      · subst hka
        simp [get?_eq_none_iff.mpr hk]
      · simp [hka]

lemma mem_of_mem_set {d : Dict α β} {a : α} {b : β} {kv : α × β} (hmem : kv ∈ d.set a b) :
    kv = (a, b) ∨ kv ∈ d := by
  induction d with
  | nil => exact .inl (List.mem_singleton.mp hmem)
  | cons lw d ih =>
      obtain ⟨l, w⟩ := lw
      by_cases hl : l = a
      · subst hl
        rw [set, if_pos rfl] at hmem
        exact (List.mem_cons.mp hmem).imp_right (List.mem_cons_of_mem _)
      · rw [set, if_neg hl] at hmem
        rcases List.mem_cons.mp hmem with rfl | hrest
        · exact .inr List.mem_cons_self
        · exact (ih hrest).imp_right (List.mem_cons_of_mem _)

lemma set_of_notMem {d : Dict α β} {k : α} (hk : k ∉ d.keys) (v : β) :
    d.set k v = d ++ [(k, v)] := by
  induction d with
  | nil => rfl
  | cons lw d ih =>
      obtain ⟨l, w⟩ := lw
      have hl : l ≠ k := fun heq => hk (by simp [keys, heq])
      have hrest : k ∉ keys d := fun hmem => hk (List.mem_cons_of_mem _ hmem)
      rw [set, if_neg hl, ih hrest, List.cons_append]

lemma update_of_nodup {d e : Dict α β} (h : (d ++ e).NodupKeys) : d.update e = d ++ e := by
  induction e generalizing d with
  | nil => simp
  | cons kv e ih =>
      obtain ⟨k, v⟩ := kv
      have hk : k ∉ d.keys := by
        simp only [NodupKeys, keys, List.map_append, List.map_cons] at h
        exact fun hmem => (List.nodup_append.mp h).2.2 k hmem k List.mem_cons_self rfl
      rw [update_cons, set_of_notMem hk, ih (by simpa using h)]
      simp

lemma ofList_eq_self {d : Dict α β} (hd : d.NodupKeys) : ofList d = d :=
  update_of_nodup (d := []) hd

lemma perm_of_get? {d e : Dict α β} (hd : d.NodupKeys) (he : e.NodupKeys)
    (h : ∀ a, d.get? a = e.get? a) : d.Perm e := by
  refine (List.perm_ext_iff_of_nodup (List.Nodup.of_map _ hd) (List.Nodup.of_map _ he)).mpr ?_
  rintro ⟨a, b⟩
  constructor
  · intro hmem
    exact mem_of_get? ((h a) ▸ get?_of_mem hd hmem)
  · intro hmem
    exact mem_of_get? ((h a).symm ▸ get?_of_mem he hmem)

lemma set_eq_self {d : Dict α β} {a : α} {b : β} (h : d.get? a = some b) : d.set a b = d := by
  induction d with
  | nil => cases h
  | cons kv d ih =>
      obtain ⟨k, v⟩ := kv
      rw [get?_cons] at h
      by_cases hk : k = a
      · rw [if_pos hk] at h
        obtain rfl := Option.some.inj h
        rw [set, if_pos hk]
      · rw [if_neg hk] at h
        rw [set, if_neg hk, ih h]

lemma set_set (d : Dict α β) (a : α) (b c : β) : (d.set a b).set a c = d.set a c := by
  induction d with
  | nil => simp [set]
  | cons kv d ih =>
      obtain ⟨k, v⟩ := kv
      by_cases hk : k = a
      · rw [set, set, if_pos hk, if_pos hk, set, if_pos hk]
      · rw [set, set, if_neg hk, if_neg hk, set, if_neg hk, ih]

/-- Of two dictionaries that read the same, only one is assigned to: they still read the same
exactly where it was assigned what was there. -/
lemma same_set_left_iff {d e : Dict α β} (h : ∀ c, d.get? c = e.get? c) (a : α) (b : β) :
    (∀ c, (d.set a b).get? c = e.get? c) ↔ d.get? a = some b := by
  constructor
  · intro hsame
    rw [h a, ← hsame a, get?_set_self]
  · intro hb c
    rw [set_eq_self hb, h c]

/-- Both are assigned to, under the same key. -/
lemma same_set_iff {d e : Dict α β} (h : ∀ c, d.get? c = e.get? c) (a : α) (b b' : β) :
    (∀ c, (d.set a b).get? c = (e.set a b').get? c) ↔ b = b' := by
  constructor
  · intro hsame
    have ha := hsame a
    rw [get?_set_self, get?_set_self] at ha
    exact Option.some.inj ha
  · rintro rfl c
    rw [get?_set, get?_set, h c]

lemma same_erase {d e : Dict α β} (h : ∀ c, d.get? c = e.get? c) (a c : α) :
    (d.erase a).get? c = (e.erase a).get? c := by
  rw [get?_erase, get?_erase, h c]

/-! ## Values that carry their key -/

/-- Every key stands once, and every value is stored under its own key. -/
structure KeyedBy (f : β → α) (d : Dict α β) : Prop where
  nodup : d.NodupKeys
  keyed : ∀ a b, (a, b) ∈ d → f b = a

namespace KeyedBy

variable {f : β → α} {d : Dict α β}

omit [DecidableEq α] in
lemma nil : KeyedBy f ([] : Dict α β) := ⟨List.nodup_nil, fun _ _ h => by cases h⟩

lemma eq_of_get? (h : KeyedBy f d) {a : α} {b : β} (hget : d.get? a = some b) : f b = a :=
  h.keyed a b (mem_of_get? hget)

lemma get?_of_mem (h : KeyedBy f d) {a : α} {b : β} (hmem : (a, b) ∈ d) :
    d.get? (f b) = some b := by
  rw [h.keyed a b hmem]
  exact Dict.get?_of_mem h.nodup hmem

lemma set (h : KeyedBy f d) {a : α} {b : β} (hb : f b = a) : KeyedBy f (d.set a b) := by
  refine ⟨h.nodup.set a b, fun c v hmem => ?_⟩
  have hget := Dict.get?_of_mem (h.nodup.set a b) hmem
  rw [get?_set] at hget
  split at hget
  · rename_i hkey
    rw [← Option.some.inj hget, hb, hkey]
  · exact h.eq_of_get? hget

lemma erase (h : KeyedBy f d) (a : α) : KeyedBy f (d.erase a) :=
  ⟨h.nodup.erase a, fun c v hmem => h.keyed c v (List.mem_of_mem_filter hmem)⟩

lemma ofList_eq (h : KeyedBy f d) : ofList (d.map fun kv => (f kv.2, kv.2)) = d := by
  have hmap : d.map (fun kv => (f kv.2, kv.2)) = d := by
    refine (List.map_congr_left fun kv hmem => ?_).trans (List.map_id d)
    rw [h.keyed kv.1 kv.2 hmem]
    rfl
  rw [hmap]
  exact ofList_eq_self h.nodup

end KeyedBy

/-! ## Maps on values and filters on keys -/

section Shape

variable (p : α → Bool) (f : β → γ)

/-- The items whose key satisfies `p`. -/
def filterKeys (d : Dict α β) : Dict α β := List.filter (fun kv => p kv.1) d

/-- The items with `f` applied to each value. -/
def mapValues (d : Dict α β) : Dict α γ := List.map (fun kv => (kv.1, f kv.2)) d

omit [DecidableEq α] in
@[simp] lemma filterKeys_nil : filterKeys p ([] : Dict α β) = [] := rfl

omit [DecidableEq α] in
lemma filterKeys_cons_of_pos {k : α} (h : p k = true) (v : β) (d : Dict α β) :
    filterKeys p ((k, v) :: d) = (k, v) :: filterKeys p d := by
  simp [filterKeys, h]

omit [DecidableEq α] in
lemma filterKeys_cons_of_neg {k : α} (h : p k = false) (v : β) (d : Dict α β) :
    filterKeys p ((k, v) :: d) = filterKeys p d := by
  simp [filterKeys, h]

omit [DecidableEq α] in
@[simp] lemma keys_mapValues (d : Dict α β) : keys (mapValues f d) = keys d := by
  simp [keys, mapValues, Function.comp_def]

omit [DecidableEq α] in
lemma NodupKeys.mapValues {d : Dict α β} (hd : d.NodupKeys) : (mapValues f d).NodupKeys := by
  rw [NodupKeys, keys_mapValues]
  exact hd

omit [DecidableEq α] in
lemma KeyedBy.mapValues {f : β → α} {g : β → β} {d : Dict α β} (h : KeyedBy f d)
    (hg : ∀ b, f (g b) = f b) : KeyedBy f (Dict.mapValues g d) := by
  refine ⟨NodupKeys.mapValues g h.nodup, fun a b hmem => ?_⟩
  obtain ⟨⟨k, v⟩, hkv, heq⟩ := List.mem_map.mp hmem
  obtain ⟨rfl, rfl⟩ := Prod.mk.inj heq
  exact (hg v).trans (h.keyed k v hkv)

omit [DecidableEq α] in
lemma NodupKeys.filterKeys {d : Dict α β} (hd : d.NodupKeys) : (filterKeys p d).NodupKeys :=
  hd.sublist (List.filter_sublist.map _)

lemma get?_mapValues (d : Dict α β) (a : α) : get? (mapValues f d) a = (get? d a).map f := by
  induction d with
  | nil => rfl
  | cons kv d ih =>
      obtain ⟨k, v⟩ := kv
      by_cases hk : k = a
      · simp [mapValues, hk]
      · simpa [mapValues, get?_cons, hk] using ih

lemma get?_filterKeys (d : Dict α β) (a : α) :
    get? (filterKeys p d) a = if p a then get? d a else none := by
  induction d with
  | nil => simp
  | cons kv d ih =>
      obtain ⟨k, v⟩ := kv
      cases hp : p k with
      | true =>
          rw [filterKeys_cons_of_pos p hp, get?_cons, get?_cons, ih]
          by_cases hk : k = a
          · subst hk
            simp [hp]
          · simp [hk]
      | false =>
          rw [filterKeys_cons_of_neg p hp, get?_cons, ih]
          by_cases hk : k = a
          · subst hk
            simp [hp]
          · simp [hk]

lemma mapValues_set (d : Dict α β) (a : α) (b : β) :
    mapValues f (d.set a b) = (mapValues f d).set a (f b) := by
  induction d with
  | nil => rfl
  | cons kv d ih =>
      obtain ⟨k, v⟩ := kv
      by_cases hk : k = a
      · simp [set, mapValues, hk]
      · simpa [set, mapValues, hk] using ih

lemma filterKeys_set (d : Dict α β) (a : α) (b : β) :
    filterKeys p (d.set a b) = if p a then (filterKeys p d).set a b else filterKeys p d := by
  induction d with
  | nil => cases hp : p a <;> simp [set, filterKeys, hp]
  | cons kv d ih =>
      obtain ⟨k, v⟩ := kv
      by_cases hk : k = a
      · subst hk
        cases hp : p k <;> simp [set, filterKeys, hp]
      · rw [set, if_neg hk]
        cases hp : p k with
        | true =>
            rw [filterKeys_cons_of_pos p hp, filterKeys_cons_of_pos p hp, ih]
            split
            · rw [set, if_neg hk]
            · rfl
        | false => rw [filterKeys_cons_of_neg p hp, filterKeys_cons_of_neg p hp, ih]

lemma mapValues_update (d e : Dict α β) :
    mapValues f (d.update e) = (mapValues f d).update (mapValues f e) := by
  induction e generalizing d with
  | nil => rfl
  | cons kv e ih =>
      rw [update_cons, ih, mapValues_set]
      rfl

lemma filterKeys_update (d e : Dict α β) :
    filterKeys p (d.update e) = (filterKeys p d).update (filterKeys p e) := by
  induction e generalizing d with
  | nil => rfl
  | cons kv e ih =>
      obtain ⟨k, v⟩ := kv
      rw [update_cons, ih, filterKeys_set]
      cases hp : p k with
      | true => rw [filterKeys_cons_of_pos p hp, update_cons, if_pos rfl]
      | false => rw [filterKeys_cons_of_neg p hp, if_neg (by simp)]

lemma mapValues_ofList (items : List (α × β)) :
    mapValues f (ofList items) = ofList (mapValues f items) := mapValues_update f [] items

lemma filterKeys_ofList (items : List (α × β)) :
    filterKeys p (ofList items) = ofList (filterKeys p items) := filterKeys_update p [] items

lemma ofList_erase (d : Dict α β) (a : α) : ofList (d.erase a) = (ofList d).erase a :=
  (filterKeys_ofList (fun k => decide (k ≠ a)) d).symm

end Shape

/-! ## Sorted items -/

section Sorted

omit [DecidableEq α]

variable [LinearOrder α]

/-- The items in increasing key order; items of one key stay in their order. -/
def sortByKey (d : Dict α β) : Dict α β := d.insertionSort fun x y => x.1 ≤ y.1

lemma sortByKey_perm (d : Dict α β) : d.sortByKey.Perm d := List.perm_insertionSort _ d

lemma keys_sortByKey_perm (d : Dict α β) : d.sortByKey.keys.Perm d.keys :=
  (sortByKey_perm d).map _

instance : Std.Total fun x y : α × β => x.1 ≤ y.1 := ⟨fun x y => le_total x.1 y.1⟩

instance : IsTrans (α × β) fun x y => x.1 ≤ y.1 := ⟨fun _ _ _ => le_trans⟩

lemma pairwise_sortByKey (d : Dict α β) : d.sortByKey.Pairwise fun x y => x.1 ≤ y.1 :=
  List.pairwise_insertionSort _ d

lemma sortByKey_eq_of_perm {d e : Dict α β} (hd : d.NodupKeys) (h : d.Perm e) :
    d.sortByKey = e.sortByKey := by
  have hperm : d.sortByKey.Perm e.sortByKey :=
    (sortByKey_perm d).trans (h.trans (sortByKey_perm e).symm)
  have hnodup : d.sortByKey.keys.Nodup := (keys_sortByKey_perm d).nodup_iff.mpr hd
  refine hperm.eq_of_pairwise ?_ (pairwise_sortByKey d) (pairwise_sortByKey e)
  rintro ⟨k, v⟩ ⟨l, w⟩ hx hy hkl hlk
  -- two items under one key are the same item
  obtain rfl : k = l := le_antisymm hkl hlk
  exact Prod.ext rfl ((List.inj_on_of_nodup_map hnodup hx (hperm.mem_iff.mpr hy) rfl) ▸ rfl)

lemma sortByKey_eq_self {d : Dict α β} (hd : d.Pairwise fun x y => x.1 ≤ y.1) :
    d.sortByKey = d := hd.insertionSort_eq

lemma NodupKeys.sortByKey {d : Dict α β} (hd : d.NodupKeys) : d.sortByKey.NodupKeys :=
  (keys_sortByKey_perm d).nodup_iff.mpr hd

lemma sortByKey_cons (kv : α × β) (d : Dict α β) :
    sortByKey (kv :: d) = (sortByKey d).orderedInsert (fun x y => x.1 ≤ y.1) kv := rfl

lemma get?_ofList_sortByKey [DecidableEq α] (d : Dict α β) (a : α) :
    get? (ofList d.sortByKey) a = get? (ofList d) a := by
  have hinsert : ∀ (kv : α × β) (e : Dict α β),
      get? (ofList (e.orderedInsert (fun x y => x.1 ≤ y.1) kv)) a =
        (get? (ofList e) a).or (if kv.1 = a then some kv.2 else none) := by
    intro kv e
    induction e with
    | nil => exact get?_ofList_cons kv [] a
    | cons lw e ih =>
        rw [List.orderedInsert_cons]
        split
        · exact get?_ofList_cons kv (lw :: e) a
        · rename_i hlt
          have hne : ¬ (kv.1 = a ∧ lw.1 = a) := by
            rintro ⟨hk, hl⟩
            exact hlt (by rw [hk, hl])
          rw [get?_ofList_cons, ih, get?_ofList_cons, Option.or_assoc, Option.or_assoc]
          congr 1
          by_cases hk : kv.1 = a
          · have hl : lw.1 ≠ a := fun hl => hne ⟨hk, hl⟩
            simp [hk, hl]
          · simp [hk]
  induction d with
  | nil => rfl
  | cons kv d ih => rw [sortByKey_cons, hinsert, ih, get?_ofList_cons]

omit [LinearOrder α] in
lemma keys_ofList_sublist [DecidableEq α] (d : Dict α β) : (ofList d).keys.Sublist d.keys := by
  induction d using List.reverseRecOn with
  | nil => exact List.Sublist.refl _
  | append_singleton d kv ih =>
      have hlast : ofList (d ++ [kv]) = (ofList d).set kv.1 kv.2 := by
        simp [ofList, update, List.foldl_append]
      have hkeys : keys (d ++ [kv]) = keys d ++ [kv.1] := by simp [keys]
      rw [hlast, keys_set, hkeys]
      split
      · exact ih.trans (List.sublist_append_left _ _)
      · exact ih.append (List.Sublist.refl _)

lemma ofList_sortByKey_eq [DecidableEq α] {d e : Dict α β}
    (h : ∀ a, get? (ofList d) a = get? (ofList e) a) :
    ofList d.sortByKey = ofList e.sortByKey := by
  have hsorted : ∀ f : Dict α β,
      (ofList f.sortByKey).Pairwise fun x y => x.1 ≤ y.1 := fun f => by
    have hkeys : f.sortByKey.keys.Pairwise (· ≤ ·) :=
      List.pairwise_map.mpr (pairwise_sortByKey f)
    exact List.pairwise_map.mp (hkeys.sublist (keys_ofList_sublist _))
  have hperm : (ofList d.sortByKey).Perm (ofList e.sortByKey) := by
    refine perm_of_get? (nodupKeys_ofList _) (nodupKeys_ofList _) fun a => ?_
    rw [get?_ofList_sortByKey, get?_ofList_sortByKey, h]
  have hfixed := sortByKey_eq_of_perm (nodupKeys_ofList _) hperm
  rwa [sortByKey_eq_self (hsorted d), sortByKey_eq_self (hsorted e)] at hfixed

lemma mapValues_orderedInsert (f : β → γ) (kv : α × β) (d : Dict α β) :
    mapValues f (d.orderedInsert (fun x y => x.1 ≤ y.1) kv) =
      (mapValues f d).orderedInsert (fun x y => x.1 ≤ y.1) (kv.1, f kv.2) := by
  induction d with
  | nil => rfl
  | cons lw d ih =>
      by_cases h : kv.1 ≤ lw.1
      · simp [mapValues, h]
      · simpa [mapValues, h] using ih

lemma mapValues_sortByKey (f : β → γ) (d : Dict α β) :
    mapValues f d.sortByKey = sortByKey (mapValues f d) := by
  induction d with
  | nil => rfl
  | cons kv d ih =>
      rw [sortByKey_cons, mapValues_orderedInsert, ih]
      rfl

lemma filterKeys_orderedInsert (p : α → Bool) (kv : α × β) {d : Dict α β}
    (hd : d.Pairwise fun x y => x.1 ≤ y.1) :
    filterKeys p (d.orderedInsert (fun x y => x.1 ≤ y.1) kv) =
      if p kv.1 then (filterKeys p d).orderedInsert (fun x y => x.1 ≤ y.1) kv
      else filterKeys p d := by
  obtain ⟨k, v⟩ := kv
  induction d with
  | nil => cases hp : p k <;> simp [filterKeys, hp]
  | cons lw d ih =>
      obtain ⟨l, w⟩ := lw
      obtain ⟨hl, hd'⟩ := List.pairwise_cons.mp hd
      by_cases h : k ≤ l
      · rw [List.orderedInsert_cons, if_pos h]
        cases hp : p k with
        | false => rw [filterKeys_cons_of_neg p hp, if_neg (by simp)]
        | true =>
            rw [filterKeys_cons_of_pos p hp, if_pos rfl]
            -- every key that survives the filter is at or after `l`
            have hall : ∀ x ∈ filterKeys p ((l, w) :: d), k ≤ x.1 := by
              intro x hx
              rcases List.mem_cons.mp (List.mem_of_mem_filter hx) with rfl | hx
              · exact h
              · exact h.trans (hl x hx)
            cases hf : filterKeys p ((l, w) :: d) with
            | nil => rfl
            | cons x rest =>
                rw [List.orderedInsert_cons, if_pos (hall x (by rw [hf]; exact List.mem_cons_self))]
      · rw [List.orderedInsert_cons, if_neg h]
        cases hq : p l with
        | false => rw [filterKeys_cons_of_neg p hq, filterKeys_cons_of_neg p hq, ih hd']
        | true =>
            rw [filterKeys_cons_of_pos p hq, filterKeys_cons_of_pos p hq, ih hd']
            split
            · rw [List.orderedInsert_cons, if_neg h]
            · rfl

lemma filterKeys_sortByKey (p : α → Bool) (d : Dict α β) :
    filterKeys p d.sortByKey = sortByKey (filterKeys p d) := by
  induction d with
  | nil => rfl
  | cons kv d ih =>
      obtain ⟨k, v⟩ := kv
      rw [sortByKey_cons, filterKeys_orderedInsert p (k, v) (pairwise_sortByKey d), ih]
      cases hp : p k with
      | true => rw [filterKeys_cons_of_pos p hp, if_pos rfl, sortByKey_cons]
      | false => rw [filterKeys_cons_of_neg p hp, if_neg (by simp)]

end Sorted

end Dict

end Samaktha
