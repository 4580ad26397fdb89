import Samaktha.Memory.Transparency

/-!
# Histories that keep the whole store in the cache

While memories come in step with the clock, under new ids, into a cache that has room, and the
cache is not cleared over a store that holds something, the recent cache holds every item of the
store, oldest first (`Whole`).  A removal leaves the id in the cache without an item, and a
retrieval finds everything it asks for there.
-/

namespace Samaktha

open SecurityManager ContextMemoryStore MemoryRetriever

namespace MemoryController

variable {Score : Type} {cfg : MemoryConfig Score}

/-! ## The cached memories after an assignment -/

section Cached

variable {recent : RecentCache}

/-- Every item in the cache is there under its id. -/
def KeyedRecent (recent : RecentCache) : Prop :=
  ∀ key item, (key, some item) ∈ recent → item.id = key

lemma cachedMemories_cons (key : String) (value : Option MemoryItem) (rest : RecentCache) :
    cachedMemories ((key, value) :: rest) = value.toList ++ cachedMemories rest := by
  cases value <;> rfl

lemma KeyedRecent.of_mem (h : KeyedRecent recent) {item : MemoryItem}
    (hitem : item ∈ cachedMemories recent) : (item.id, some item) ∈ recent := by
  obtain ⟨⟨key, value⟩, hmem, hvalue⟩ := List.mem_filterMap.mp hitem
  obtain rfl : value = some item := hvalue
  rw [h key item hmem]
  exact hmem

lemma KeyedRecent.id_mem (h : KeyedRecent recent) {item : MemoryItem}
    (hitem : item ∈ cachedMemories recent) : item.id ∈ Dict.keys recent :=
  List.mem_map_of_mem (h.of_mem hitem)

lemma cachedMemories_set_new {key : String} (hkey : key ∉ Dict.keys recent)
    (value : Option MemoryItem) :
    cachedMemories (Dict.set recent key value) = cachedMemories recent ++ value.toList := by
  rw [Dict.set_of_notMem hkey, cachedMemories, List.filterMap_append]
  cases value <;> rfl

lemma cachedMemories_set (hkeyed : KeyedRecent recent) (hnodup : Dict.NodupKeys recent)
    {old : MemoryItem} (hold : old ∈ cachedMemories recent) (value : Option MemoryItem) :
    cachedMemories (Dict.set recent old.id value) =
      (cachedMemories recent).flatMap fun item =>
        if item.id = old.id then value.toList else [item] := by
  induction recent with
  | nil => cases hold
  | cons entry rest ih =>
      obtain ⟨key, stored⟩ := entry
      obtain ⟨hnew, hrest⟩ := List.nodup_cons.mp hnodup
      have hkeyedRest : KeyedRecent rest := fun k item hmem =>
        hkeyed k item (List.mem_cons_of_mem _ hmem)
      rw [cachedMemories_cons, List.flatMap_append]
      by_cases hkey : key = old.id
      · -- the rest has no item under this key
        have hothers : (cachedMemories rest).flatMap (fun item =>
            if item.id = old.id then value.toList else [item]) = cachedMemories rest := by
          have hall : ∀ item ∈ cachedMemories rest,
              (if item.id = old.id then value.toList else [item]) = [item] := by
            intro item hitem
            refine if_neg fun heq => hnew ?_
            rw [hkey, ← heq]
            exact hkeyedRest.id_mem hitem
          rw [List.flatMap_congr hall]
          exact List.flatMap_singleton' _
        have hstored : stored = some old := by
          have hmem := hkeyed.of_mem hold
          rcases List.mem_cons.mp hmem with heq | htail
          · exact (Prod.mk.inj heq).2.symm
          · have hid : old.id ∈ Dict.keys rest := List.mem_map_of_mem (f := Prod.fst) htail
            exact absurd (hkey ▸ hid) hnew
        rw [Dict.set, if_pos hkey, cachedMemories_cons, hothers, hstored]
        simp
      · have holdRest : old ∈ cachedMemories rest := by
          rw [cachedMemories_cons] at hold
          refine (List.mem_append.mp hold).resolve_left fun hhead => hkey ?_
          obtain rfl := Option.mem_toList.mp hhead
          exact (hkeyed key old List.mem_cons_self).symm
        rw [Dict.set, if_neg hkey, cachedMemories_cons, ih hkeyedRest hrest holdRest]
        congr 1
        cases stored with
        | none => rfl
        | some item =>
            have hne : item.id ≠ old.id := by
              rw [hkeyed key item List.mem_cons_self]
              exact hkey
            simp [hne]

end Cached

/-! ## The invariant -/

/-- The cache holds the items of the store, all of them, the oldest first. -/
structure Whole (cfg : MemoryConfig Score) (s : MemoryState Score) : Prop where
  consistent : Consistent s
  members : ∀ item, item ∈ cachedMemories s.recent ↔ Stored s.manager item
  ordered : (cachedMemories s.recent).Pairwise fun x y => Newer y x
  bounded : s.recent.length ≤ min cfg.maxMemories 100
  rowed : ∀ id ∈ Dict.keys s.manager.items, id ∈ Dict.keys s.manager.rows
  shared : ∀ item, Stored s.manager item → item.retentionPolicy ≠ "private"

section Whole

variable {s : MemoryState Score}

lemma whole_init : Whole cfg ({} : MemoryState Score) where
  consistent := consistent_init
  members item := by simp [cachedMemories, Stored]
  ordered := List.Pairwise.nil
  bounded := Nat.zero_le _
  rowed id hid := by cases hid
  shared item hitem := by
    obtain ⟨key, hmem⟩ := hitem
    cases hmem

lemma Whole.keyed (h : Whole cfg s) : Dict.KeyedBy MemoryItem.id s.manager.items :=
  ⟨h.consistent.agrees.nodup, h.consistent.agrees.keyed⟩

lemma Whole.keyedRecent (h : Whole cfg s) : KeyedRecent s.recent := by
  intro key item hmem
  have hget := Dict.get?_of_mem h.consistent.agrees.nodupRecent hmem
  exact h.keyed.eq_of_get? (h.consistent.agrees.agree key item hget)

lemma Whole.get?_recent (h : Whole cfg s) {item : MemoryItem} (hitem : Stored s.manager item) :
    Dict.get? s.recent item.id = some (some item) :=
  Dict.get?_of_mem h.consistent.agrees.nodupRecent
    (h.keyedRecent.of_mem ((h.members item).mpr hitem))

lemma Whole.storeRecent_eq (h : Whole cfg s) {item : MemoryItem} (hitem : Stored s.manager item) :
    storeRecent cfg s.recent item.id (some item) = s.recent := by
  have hbounded := h.bounded
  rw [storeRecent, Dict.setBounded, Dict.set_eq_self (h.get?_recent hitem)]
  exact if_neg (by omega)

lemma Whole.storeAll_eq (h : Whole cfg s) {items : List MemoryItem}
    (hitems : ∀ item ∈ items, Stored s.manager item) :
    storeAll cfg s.recent items = s.recent := by
  induction items with
  | nil => rfl
  | cons item rest ih =>
      have hone := h.storeRecent_eq (hitems item List.mem_cons_self)
      have hrest := ih fun other hother => hitems other (List.mem_cons_of_mem _ hother)
      rw [storeAll, List.foldl_cons, hone]
      exact hrest

lemma Whole.newestFirst_eq (h : Whole cfg s) :
    newestFirst (visible s.manager.items false) = (cachedMemories s.recent).reverse := by
  have hnewer : (newestFirst (visible s.manager.items false)).Pairwise Newer := by
    refine pairwise_newestFirst ((nodup_ids_visible h.keyed).sublist (List.Sublist.map _ ?_))
    rw [visible_true]
    exact List.filter_sublist
  have hback : (cachedMemories s.recent).reverse.Pairwise Newer :=
    List.pairwise_reverse.mpr h.ordered
  have hne : ∀ {list : List MemoryItem}, list.Pairwise Newer → list.Nodup := fun hlist =>
    hlist.imp fun hxy heq => hxy.2 (congrArg MemoryItem.id heq)
  have hperm : (newestFirst (visible s.manager.items false)).Perm
      (cachedMemories s.recent).reverse := by
    rw [List.perm_ext_iff_of_nodup (hne hnewer) (hne hback)]
    intro item
    rw [mem_newestFirst, List.mem_reverse, h.members]
    constructor
    · exact mem_of_mem_visible
    · rintro ⟨key, hmem⟩
      refine List.mem_filter.mpr ⟨List.mem_map_of_mem hmem, ?_⟩
      simpa using h.shared item ⟨key, hmem⟩
  exact hperm.eq_of_pairwise (fun x y _ _ hxy hyx => absurd hyx (Newer.asymm x y hxy)) hnewer hback

/-! ### What the cache shows -/

lemma Whole.recent_sameIds (h : Whole cfg s) {k : ℕ} (hk : k ≠ 0) :
    SameIds (lastOf k (cachedMemories s.recent)) (getRecentContext s.manager.items k false) := by
  refine sameIds_of_mem_iff fun item => ?_
  rw [lastOf, if_neg hk, getRecentContext, h.newestFirst_eq, ← List.mem_reverse,
    List.reverse_drop]
  have hlength : (cachedMemories s.recent).length - ((cachedMemories s.recent).length - k) =
      min k (cachedMemories s.recent).length := by omega
  rw [hlength]
  by_cases hle : k ≤ (cachedMemories s.recent).length
  · rw [min_eq_left hle]
  · have hall : (cachedMemories s.recent).length ≤ k := by omega
    rw [min_eq_right hall, List.take_of_length_le (by simp),
      List.take_of_length_le (by simpa using hall)]

/-- The preferences in the cache are those of the store. -/
lemma Whole.own_mem_iff (h : Whole cfg s) (access : MemoryAccessContext) (item : MemoryItem) :
    item ∈ ownCached s access ↔ item ∈ ownNewest s access := by
  have hlength : (cachedMemories s.recent).length ≤ 100 := by
    have hbounded := h.bounded
    have hfilter := List.length_filterMap_le Prod.snd s.recent
    show (s.recent.filterMap Prod.snd).length ≤ 100
    omega
  rw [ownCached, ownNewest, getRecentContext, h.newestFirst_eq,
    List.take_of_length_le (by simpa using hlength), List.mem_filter, List.mem_filter,
    List.mem_reverse]

/-! ### Writes and removals -/

lemma Whole.storeNew (h : Whole cfg s) {item : MemoryItem}
    (hnewer : ∀ other, Stored s.manager other → Newer item other)
    (hkey : item.id ∉ Dict.keys s.recent) (hroom : s.recent.length < min cfg.maxMemories 100)
    (hpolicy : item.retentionPolicy = "normal") :
    Whole cfg (MemoryController.storeNew cfg s item) := by
  have hlasting : item.retentionPolicy ≠ "temporary" := by
    rw [hpolicy]
    decide
  have hitems : (MemoryController.storeNew cfg s item).manager.items =
      Dict.set s.manager.items item.id item :=
    if_neg hlasting
  have hrecent : (MemoryController.storeNew cfg s item).recent =
      Dict.set s.recent item.id (some item) := by
    show Dict.setBounded _ _ _ _ = _
    rw [Dict.setBounded, Dict.set_of_notMem hkey]
    exact if_neg (by simp; omega)
  have hcached : cachedMemories (MemoryController.storeNew cfg s item).recent =
      cachedMemories s.recent ++ [item] := by
    rw [hrecent, cachedMemories_set_new hkey]
    rfl
  have habsent : item.id ∉ Dict.keys s.manager.items := by
    intro hmem
    obtain ⟨⟨key, other⟩, hother, hid⟩ := List.mem_map.mp hmem
    have hstored : Stored s.manager other := ⟨key, hother⟩
    have hsame : other.id = item.id := (h.keyed.keyed key other hother).trans hid
    exact (hnewer other hstored).2 hsame.symm
  have hstored : ∀ other, Stored (MemoryController.storeNew cfg s item).manager other ↔
      Stored s.manager other ∨ other = item := by
    intro other
    simp only [Stored, hitems, Dict.set_of_notMem habsent, List.mem_append, List.mem_singleton,
      Prod.mk.injEq, exists_or]
    simp
  refine ⟨h.consistent.put hlasting rfl _ _, fun other => ?_, ?_, ?_, fun id hid => ?_,
    fun other hother => ?_⟩
  · rw [hcached, List.mem_append, List.mem_singleton, hstored, h.members]
  · rw [hcached, List.pairwise_append]
    refine ⟨h.ordered, List.pairwise_singleton _ _, fun x hx y hy => ?_⟩
    obtain rfl := List.mem_singleton.mp hy
    exact hnewer x ((h.members x).mp hx)
  · rw [hrecent, Dict.set_of_notMem hkey, List.length_append]
    exact hroom
  · rw [hitems, Dict.keys_set] at hid
    show id ∈ Dict.keys (Dict.set s.manager.rows item.id item)
    rw [Dict.keys_set]
    split at hid
    · split
      · exact h.rowed id hid
      · exact List.mem_append_left _ (h.rowed id hid)
    · rcases List.mem_append.mp hid with hold | hnew
      · split
        · exact h.rowed id hold
        · exact List.mem_append_left _ (h.rowed id hold)
      · obtain rfl := List.mem_singleton.mp hnew
        split
        · assumption
        · exact List.mem_append_right _ hnew
  · rcases (hstored other).mp hother with hold | rfl
    · exact h.shared other hold
    · rw [hpolicy]
      decide

lemma Whole.storeRecent_of_mem (h : Whole cfg s) {id : String} (hid : id ∈ Dict.keys s.recent)
    (value : Option MemoryItem) : storeRecent cfg s.recent id value = Dict.set s.recent id value ∧
      (Dict.set s.recent id value).length = s.recent.length := by
  have hlength : (Dict.set s.recent id value).length = s.recent.length := by
    have hkeys := congrArg List.length (Dict.keys_set s.recent id value)
    rw [if_pos hid] at hkeys
    simpa [Dict.keys] using hkeys
  have hbounded := h.bounded
  refine ⟨?_, hlength⟩
  rw [storeRecent, Dict.setBounded]
  exact if_neg (by omega)

lemma Whole.stored_iff (h : Whole cfg s) (item : MemoryItem) :
    Stored s.manager item ↔ Dict.get? s.manager.items item.id = some item := by
  constructor
  · rintro ⟨key, hmem⟩
    exact h.keyed.get?_of_mem hmem
  · exact fun hget => ⟨item.id, Dict.mem_of_get? hget⟩

lemma Whole.update (h : Whole cfg s) {old item : MemoryItem} (hold : Stored s.manager old)
    (hid : item.id = old.id) (hcreated : item.createdAt = old.createdAt)
    (hpolicy : item.retentionPolicy = old.retentionPolicy) (forgotten : List String) :
    Whole cfg ({ s with
      manager := s.manager.updateMemory item
      recent := storeRecent cfg s.recent item.id (some item)
      retrievals := []
      forgotten := forgotten } : MemoryState Score) := by
  have hlasting : item.retentionPolicy ≠ "temporary" := by
    obtain ⟨key, hmem⟩ := hold
    rw [hpolicy]
    exact h.consistent.lasting key old hmem
  have hitems : (s.manager.updateMemory item).items = Dict.set s.manager.items item.id item :=
    if_neg hlasting
  have hmem : old ∈ cachedMemories s.recent := (h.members old).mpr hold
  obtain ⟨hset, hlength⟩ := h.storeRecent_of_mem (hid ▸ h.keyedRecent.id_mem hmem) (some item)
  have hcached : cachedMemories (storeRecent cfg s.recent item.id (some item)) =
      (cachedMemories s.recent).map fun other => if other.id = old.id then item else other := by
    rw [hset, hid, cachedMemories_set h.keyedRecent h.consistent.agrees.nodupRecent hmem,
      List.map_eq_flatMap]
    refine List.flatMap_congr fun other _ => ?_
    split <;> rfl
  have hsame : ∀ other : MemoryItem, (if other.id = old.id then item else other).id = other.id := by
    intro other
    split
    · rename_i heq
      exact hid.trans heq.symm
    · rfl
  have hstored : ∀ other, Stored (s.manager.updateMemory item) other ↔
      other = item ∨ other.id ≠ old.id ∧ Stored s.manager other := by
    intro other
    have hkeyed : Dict.KeyedBy MemoryItem.id (s.manager.updateMemory item).items := by
      rw [hitems]
      exact h.keyed.set rfl
    have hget : Stored (s.manager.updateMemory item) other ↔
        Dict.get? (s.manager.updateMemory item).items other.id = some other :=
      ⟨fun ⟨_, hmem⟩ => hkeyed.get?_of_mem hmem, fun hget => ⟨_, Dict.mem_of_get? hget⟩⟩
    rw [hget, hitems, Dict.get?_set, h.stored_iff]
    by_cases heq : item.id = other.id
    · rw [if_pos heq, Option.some.injEq]
      constructor
      · exact fun hsome => .inl hsome.symm
      · rintro (rfl | ⟨hne, -⟩)
        · rfl
        · exact absurd (heq.symm.trans hid) hne
    · rw [if_neg heq]
      constructor
      · exact fun hget => .inr ⟨fun hother => heq (hid.trans hother.symm), hget⟩
      · rintro (rfl | ⟨-, hget⟩)
        · exact absurd rfl heq
        · exact hget
  refine ⟨h.consistent.put hlasting rfl _ _, fun other => ?_, ?_, ?_, fun id hkey => ?_,
    fun other hother => ?_⟩
  · show other ∈ cachedMemories (storeRecent cfg s.recent item.id (some item)) ↔
      Stored (s.manager.updateMemory item) other
    rw [hcached, List.mem_map, hstored]
    constructor
    · rintro ⟨before, hbefore, rfl⟩
      split
      · exact .inl rfl
      · rename_i hne
        exact .inr ⟨hne, (h.members before).mp hbefore⟩
    · rintro (rfl | ⟨hne, hbefore⟩)
      · exact ⟨old, hmem, if_pos rfl⟩
      · exact ⟨other, (h.members other).mpr hbefore, if_neg hne⟩
  · show (cachedMemories (storeRecent cfg s.recent item.id (some item))).Pairwise _
    rw [hcached, List.pairwise_map]
    have htime : ∀ other ∈ cachedMemories s.recent,
        (if other.id = old.id then item else other).createdAt = other.createdAt := by
      intro other hother
      split
      · rename_i heq
        have hget := (h.stored_iff other).mp ((h.members other).mp hother)
        rw [heq, (h.stored_iff old).mp hold] at hget
        rw [hcreated, Option.some.inj hget]
      · rfl
    refine h.ordered.imp_of_mem fun {x y} hx hy hxy => ?_
    rw [Newer, NewerThan, hsame, hsame, htime x hx, htime y hy]
    exact hxy
  · show (storeRecent cfg s.recent item.id (some item)).length ≤ _
    rw [hset, hlength]
    exact h.bounded
  · have hold : id ∈ Dict.keys s.manager.items := by
      have hkeys : Dict.keys (s.manager.updateMemory item).items = Dict.keys s.manager.items := by
        rw [hitems, Dict.keys_set, if_pos]
        exact List.mem_map.mpr ⟨_, Dict.mem_of_get? ((h.stored_iff old).mp hold), hid.symm⟩
      rw [← hkeys]
      exact hkey
    exact h.rowed id hold
  · rcases (hstored other).mp hother with rfl | ⟨-, hbefore⟩
    · rw [hpolicy]
      exact h.shared old hold
    · exact h.shared other hbefore

lemma Whole.remove (h : Whole cfg s) {id : String} (hid : id ∈ Dict.keys s.recent) :
    Whole cfg (MemoryController.remove cfg s id) ∧
      Dict.keys (MemoryController.remove cfg s id).recent = Dict.keys s.recent := by
  obtain ⟨hset, hlength⟩ := h.storeRecent_of_mem hid none
  have hkeys : Dict.keys (storeRecent cfg s.recent id none) = Dict.keys s.recent := by
    rw [hset, Dict.keys_set, if_pos hid]
  have hcached : cachedMemories (storeRecent cfg s.recent id none) =
      (cachedMemories s.recent).filter fun item => item.id ≠ id := by
    rw [hset]
    by_cases hmem : ∃ old ∈ cachedMemories s.recent, old.id = id
    · obtain ⟨old, hold, rfl⟩ := hmem
      rw [cachedMemories_set h.keyedRecent h.consistent.agrees.nodupRecent hold]
      generalize cachedMemories s.recent = items
      induction items with
      | nil => rfl
      | cons item rest ih =>
          rw [List.flatMap_cons, ih]
          by_cases heq : item.id = old.id
          · rw [if_pos heq, List.filter_cons_of_neg (by simpa using heq)]
            rfl
          · rw [if_neg heq, List.filter_cons_of_pos (by simpa using heq)]
            rfl
    · -- the id is in the cache with no item already
      obtain ⟨⟨key, value⟩, hentry, rfl⟩ := List.mem_map.mp hid
      cases value with
      | some item =>
          exact absurd ⟨item, List.mem_filterMap.mpr ⟨_, hentry, rfl⟩,
            h.keyedRecent key item hentry⟩ hmem
      | none =>
          rw [Dict.set_eq_self (Dict.get?_of_mem h.consistent.agrees.nodupRecent hentry)]
          refine (List.filter_eq_self.mpr fun item hitem => ?_).symm
          rw [decide_eq_true_eq]
          exact fun heq => hmem ⟨item, hitem, heq⟩
  have hstored : ∀ other, Stored (s.manager.deleteMemory id) other ↔
      other.id ≠ id ∧ Stored s.manager other := by
    intro other
    constructor
    · rintro ⟨key, hmem⟩
      obtain ⟨hold, hne⟩ := List.mem_filter.mp hmem
      refine ⟨fun heq => of_decide_eq_true hne ?_, key, hold⟩
      rw [← heq, h.keyed.keyed key other hold]
    · rintro ⟨hne, key, hmem⟩
      refine ⟨key, List.mem_filter.mpr ⟨hmem, decide_eq_true fun heq => hne ?_⟩⟩
      rw [h.keyed.keyed key other hmem]
      exact heq
  refine ⟨⟨h.consistent.remove id, fun other => ?_, ?_, ?_, fun other hkey => ?_,
    fun other hother => ?_⟩, hkeys⟩
  · show other ∈ cachedMemories (storeRecent cfg s.recent id none) ↔
      Stored (s.manager.deleteMemory id) other
    rw [hcached, List.mem_filter, h.members, hstored, decide_eq_true_eq, and_comm]
  · show (cachedMemories (storeRecent cfg s.recent id none)).Pairwise _
    rw [hcached]
    exact h.ordered.filter _
  · show (storeRecent cfg s.recent id none).length ≤ _
    rw [hset, hlength]
    exact h.bounded
  · obtain ⟨⟨key, item⟩, hmem, rfl⟩ := List.mem_map.mp hkey
    obtain ⟨hold, hne⟩ := List.mem_filter.mp hmem
    obtain ⟨row, hrow, hrowKey⟩ :=
      List.mem_map.mp (h.rowed key (List.mem_map_of_mem (f := Prod.fst) hold))
    refine List.mem_map.mpr ⟨row, List.mem_filter.mpr ⟨hrow, ?_⟩, hrowKey⟩
    rw [hrowKey]
    exact hne
  · exact h.shared other ((hstored other).mp hother).2

lemma Whole.lifecycleDelete (h : Whole cfg s) (id : String) :
    Whole cfg (lifecycleDelete cfg s id) := by
  unfold MemoryController.lifecycleDelete
  split
  · rename_i hwindow
    obtain ⟨item, hitem, rfl⟩ := List.mem_map.mp hwindow
    have hstored : Stored s.manager item := mem_of_mem_getRecentContext hitem
    exact (h.remove (h.keyedRecent.id_mem ((h.members item).mpr hstored))).1
  · exact h

lemma Whole.removeEach (h : Whole cfg s) {items : List MemoryItem}
    (hitems : ∀ item ∈ items, item.id ∈ Dict.keys s.recent) :
    Whole cfg (items.foldl (fun s item => MemoryController.remove cfg s item.id) s) := by
  induction items generalizing s with
  | nil => exact h
  | cons item rest ih =>
      obtain ⟨hremoved, hkeys⟩ := h.remove (hitems item List.mem_cons_self)
      refine ih hremoved fun other hother => ?_
      rw [hkeys]
      exact hitems other (List.mem_cons_of_mem _ hother)

lemma Whole.deleteAll (h : Whole cfg s) : Whole cfg (deleteAll s) := by
  have hempty : (MemoryController.deleteAll s).manager.items = [] := by
    refine List.eq_nil_iff_forall_not_mem.mpr fun kv hkv => ?_
    have hkeyed := h.consistent.deleteAll.agrees
    have hget := Dict.get?_of_mem hkeyed.nodup hkv
    have hgone : ∀ (rows items : Dict String MemoryItem) (id : String), id ∈ Dict.keys rows →
        Dict.get? (rows.foldl (fun items row => Dict.erase items row.1) items) id = none := by
      intro rows
      induction rows using List.reverseRecOn with
      | nil => exact fun _ _ hid => absurd hid List.not_mem_nil
      | append_singleton rows row ih =>
          intro items id hid
          rw [List.foldl_append, List.foldl_cons, List.foldl_nil, Dict.get?_erase]
          split
          · rfl
          · rename_i hne
            refine ih items id ?_
            rw [Dict.keys, List.map_append, List.mem_append] at hid
            refine hid.resolve_right fun hlast => hne ?_
            exact (List.mem_singleton.mp hlast).symm
    have hold : kv.1 ∈ Dict.keys s.manager.items :=
      List.mem_map_of_mem ((items_deleteAll_sublist s).subset hkv)
    rw [show (MemoryController.deleteAll s).manager.items = s.manager.rows.foldl
      (fun items row => Dict.erase items row.1) s.manager.items from rfl,
      hgone _ _ _ (h.rowed kv.1 hold)] at hget
    cases hget
  have hnone : ∀ item, ¬ Stored (MemoryController.deleteAll s).manager item := by
    rintro item ⟨key, hmem⟩
    rw [hempty] at hmem
    cases hmem
  refine ⟨h.consistent.deleteAll, fun item => ?_, List.Pairwise.nil, Nat.zero_le _,
    fun id hid => ?_, fun item hitem => absurd hitem (hnone item)⟩
  · exact iff_of_false List.not_mem_nil (hnone item)
  · rw [hempty] at hid
    cases hid

lemma Whole.clear (h : Whole cfg s) (hempty : s.manager.items = []) :
    Whole cfg { s with recent := [], retrievals := [] } := by
  have hnone : ∀ item, ¬ Stored s.manager item := by
    rintro item ⟨key, hmem⟩
    rw [hempty] at hmem
    cases hmem
  refine ⟨⟨⟨h.consistent.agrees.keyed, h.consistent.agrees.nodup, List.nodup_nil,
      fun key item hget => by cases hget⟩, h.consistent.lasting⟩, fun item => ?_,
    List.Pairwise.nil, Nat.zero_le _, h.rowed, h.shared⟩
  exact iff_of_false List.not_mem_nil (hnone item)

/-! ### Retrievals -/

lemma Whole.findExisting_recent (h : Whole cfg s) (access : MemoryAccessContext) :
    (findExistingPreferences cfg s access).2 = s.recent := by
  unfold findExistingPreferences
  split
  · refine h.storeAll_eq fun item hitem => ?_
    exact mem_of_mem_getRecentContext (List.mem_of_mem_filter hitem)
  · rfl

lemma Whole.candidates_recent [LinearOrder Score] (h : Whole cfg s) (call : RetrieveCall) :
    (candidates cfg s.manager s.recent call).2 = s.recent := by
  have hrecent : (retrieveRecent cfg s.manager s.recent).2 = s.recent := by
    unfold retrieveRecent
    split
    · refine h.storeAll_eq fun item hitem => ?_
      exact mem_of_mem_getRecentContext (mem_browseOrder.mp hitem)
    · rfl
  have hhits : ∀ (hits : List (String × Score)) (found : List MemoryItem),
      (hits.foldl (materialize cfg s.manager) (found, s.recent)).2 = s.recent := by
    intro hits
    induction hits with
    | nil => exact fun _ => rfl
    | cons hit rest ih =>
        intro found
        have hone : (materialize cfg s.manager (found, s.recent) hit).2 = s.recent := by
          unfold materialize
          dsimp only
          split
          · rfl
          · split
            · rename_i item hitem
              have hid : item.id = hit.1 := h.keyed.eq_of_get? hitem
              rw [← hid]
              exact h.storeRecent_eq ⟨_, Dict.mem_of_get? hitem⟩
            · rfl
        rw [List.foldl_cons, ← Prod.mk.eta (p := materialize cfg s.manager (found, s.recent) hit),
          hone]
        exact ih _
  have hsemantic : ∀ items, (retrieveSemantic cfg s.manager s.recent call.query items).2 =
      s.recent := fun items => hhits _ []
  have hpreferences : (retrievePreferences cfg s.manager s.recent).2 = s.recent :=
    h.storeAll_eq fun item hitem => mem_of_mem_getByType hitem
  unfold candidates
  dsimp only
  cases call.flags.recent with
  | false =>
      cases call.flags.semantic with
      | false => cases call.flags.preferences <;> simp [hpreferences]
      | true => cases call.flags.preferences <;> simp [hsemantic, hpreferences]
  | true =>
      cases call.flags.semantic with
      | false => cases call.flags.preferences <;> simp [hrecent, hpreferences]
      | true => cases call.flags.preferences <;> simp [hrecent, hsemantic, hpreferences]

end Whole

/-! ## Runs -/

/-- A write comes with a new id, later than all that is stored, into a cache that has room, and
the cache is cleared over an empty store only. -/
def Paced (cfg : MemoryConfig Score) (s : MemoryState Score) : MemoryMove → Prop
  | .write _ _ draft | .writePreference _ draft =>
      (∀ item, Stored s.manager item → item.createdAt < draft.createdAt ∨
        item.createdAt = draft.createdAt ∧ item.id < draft.id) ∧
      draft.id ∉ Dict.keys s.recent ∧ s.recent.length < min cfg.maxMemories 100
  | .clearCache => s.manager.items = []
  | _ => True

lemma resolve_new (cfg : MemoryConfig Score) (existing : List MemoryItem)
    (access : MemoryAccessContext) (draft : MemoryDraft)
    (h : (resolve cfg existing access draft).2 = true) :
    (resolve cfg existing access draft).1.id = draft.id ∧
      (resolve cfg existing access draft).1.createdAt = draft.createdAt ∧
        (resolve cfg existing access draft).1.retentionPolicy = "normal" := by
  unfold resolve at h ⊢
  split at h
  · exact ⟨rfl, rfl, rfl⟩
  · exact ⟨rfl, rfl, rfl⟩
  · cases h
  · exact ⟨rfl, rfl, rfl⟩

section Step

variable {s : MemoryState Score}

lemma Whole.newer (h : Whole cfg s) {draft : MemoryDraft} {item : MemoryItem}
    (hkey : draft.id ∉ Dict.keys s.recent) (hid : item.id = draft.id)
    (hcreated : item.createdAt = draft.createdAt)
    (hlater : ∀ item, Stored s.manager item → item.createdAt < draft.createdAt ∨
      item.createdAt = draft.createdAt ∧ item.id < draft.id) :
    ∀ other, Stored s.manager other → Newer item other := by
  intro other hother
  refine ⟨?_, fun heq => hkey ?_⟩
  · rcases hlater other hother with hlt | ⟨hsame, hlt⟩
    · exact .inl (hcreated ▸ hlt)
    · exact .inr ⟨hsame.trans hcreated.symm, hid ▸ hlt.le⟩
  · rw [← hid, heq]
    exact h.keyedRecent.id_mem ((h.members other).mpr hother)

lemma Whole.write (h : Whole cfg s) (kind : MemoryKind) (access : MemoryAccessContext)
    {draft : MemoryDraft} (hstep : Paced cfg s (.write kind access draft)) :
    Whole cfg (write cfg s kind access draft) := by
  obtain ⟨hlater, hkey, hroom⟩ := hstep
  unfold MemoryController.write
  split
  · exact h.storeNew (h.newer hkey rfl rfl hlater) hkey hroom rfl
  · exact h

lemma Whole.writePreference (h : Whole cfg s) (access : MemoryAccessContext)
    {draft : MemoryDraft} (hstep : Paced cfg s (.writePreference access draft)) :
    Whole cfg (writePreference cfg s access draft) := by
  obtain ⟨hlater, hkey, hroom⟩ := hstep
  unfold MemoryController.writePreference
  split
  · dsimp only
    rw [h.findExisting_recent]
    have hcases := resolve_cases cfg (findExistingPreferences cfg s access).1 access draft
    have hnew := resolve_new cfg (findExistingPreferences cfg s access).1 access draft
    split
    · rename_i item hresolve
      rw [hresolve] at hnew
      obtain ⟨hid, hcreated, hpolicy⟩ := hnew rfl
      have hid : item.id = draft.id := hid
      exact h.storeNew (h.newer hkey hid hcreated hlater) (hid ▸ hkey) hroom hpolicy
    · rename_i item hresolve
      rw [hresolve] at hcases
      rcases hcases with ⟨htrue, -⟩ | ⟨-, best, hbest, relation, hrevised⟩
      · cases htrue
      · obtain rfl : item = revise best draft relation := hrevised
        have hstored : Stored s.manager best :=
          (findExisting_spec cfg h.consistent.agrees access).2 best hbest
        have hid : (revise best draft relation).id = best.id := rfl
        obtain ⟨key, hkey⟩ := hstored
        have hlasting : (revise best draft relation).retentionPolicy ≠ "temporary" :=
          h.consistent.lasting key best hkey
        rw [MemoryManager.updateInPlace_eq _ hlasting]
        exact h.update ⟨key, hkey⟩ hid rfl rfl _
  · exact h

/-- Every move that comes in step keeps the whole store in the cache. -/
theorem whole_step [LinearOrder Score] (s : MemoryState Score) (move : MemoryMove)
    (t : MemoryState Score) (h : Whole cfg s) (hstep : Paced cfg s move)
    (ht : (machine cfg).step s move = some t) : Whole cfg t := by
  obtain rfl : after cfg s move = t := Option.some.inj ht
  cases move with
  | write kind access draft => exact h.write kind access hstep
  | writePreference access draft => exact h.writePreference access hstep
  | storeDocument record =>
      exact ⟨⟨h.consistent.agrees, h.consistent.lasting⟩, h.members, h.ordered, h.bounded, h.rowed,
        h.shared⟩
  | setKnowledge entityType entities =>
      exact ⟨⟨h.consistent.agrees, h.consistent.lasting⟩, h.members, h.ordered, h.bounded, h.rowed,
        h.shared⟩
  | deleteMemory id access =>
      show Whole cfg (deleteMemory cfg s id access)
      unfold deleteMemory
      split
      · split
        · exact h.lifecycleDelete id
        · exact h
      · exact h
  | deleteByType memoryType =>
      exact List.foldlRecOn _ _ h fun s hs item _ => hs.lifecycleDelete item.id
  | expireOldMemories now =>
      refine h.removeEach fun item hitem => ?_
      have hstored : Stored s.manager item :=
        mem_of_mem_getRecentContext (List.mem_of_mem_filter hitem)
      exact h.keyedRecent.id_mem ((h.members item).mpr hstored)
  | deleteAll => exact h.deleteAll
  | clearCache => exact h.clear hstep
  | retrieve now call =>
      show Whole cfg (retrieve cfg s now call).2
      unfold retrieve
      split
      · exact h
      · have hsame : (compute cfg s.manager now s.recent call).2 = s.recent :=
          h.candidates_recent call
        dsimp only
        rw [hsame]
        exact ⟨⟨h.consistent.agrees, h.consistent.lasting⟩, h.members, h.ordered, h.bounded,
          h.rowed, h.shared⟩
  | retrieveRecent access n => exact h
  | retrieveSemantic access query topK => exact h

end Step

section Transparency

variable [LinearOrder Score]

/-- For every state that a history leads to, the cache makes no difference exactly where what it
holds is what is newest in the store.  Histories that come in step keep it so: the recent stage
and the lookup give what the store gives, and the outcome of a comparison is the same wherever the
first of the best matches is. -/
theorem cache_transparent (cfg : MemoryConfig Score) (scoring : PreferenceScoring Score)
    (moves : List MemoryMove) (s : MemoryState Score)
    (hrun : (machine (scored cfg scoring)).run {} moves = some s) :
    (∀ access draft,
      Transparent (scored cfg scoring) s access draft ↔ Accords cfg scoring s access draft) ∧
    (cfg.topKRecent ≠ 0 →
      (machine (scored cfg scoring)).Guarded (Paced (scored cfg scoring)) {} moves →
        (retrieveRecent (scored cfg scoring) s.manager s.recent).1 =
          (retrieveRecent (scored cfg scoring) s.manager []).1 ∧
        ∀ access, (∀ item,
          item ∈ (findExistingPreferences (scored cfg scoring) s access).1 ↔
            item ∈ (findExistingPreferences (scored cfg scoring) { s with recent := [] }
              access).1) ∧
          ∀ draft, (scoring.hasTerms draft.content = true →
            (ownCached s access).find? (scoring.leads draft.content (ownCached s access)) =
              (ownNewest s access).find? (scoring.leads draft.content (ownNewest s access))) →
            Transparent (scored cfg scoring) s access draft) := by
  have hconsistent : Consistent s :=
    (machine (scored cfg scoring)).run_invariant (fun s move t h ht =>
      (Option.some.inj ht) ▸ consistent_after h move) consistent_init hrun
  refine ⟨fun access draft => transparent_iff hconsistent, fun htop hguarded => ?_⟩
  have hwhole : Whole (scored cfg scoring) s :=
    (machine (scored cfg scoring)).guarded_invariant whole_step whole_init hguarded hrun
  have hrecent := hwhole.recent_sameIds htop
  have hlookup (access : MemoryAccessContext) : SameIds (ownCached s access) (ownNewest s access) :=
    sameIds_of_mem_iff (hwhole.own_mem_iff access)
  have hwhenFirst (access : MemoryAccessContext) (draft : MemoryDraft)
      (hfirst : scoring.hasTerms draft.content = true →
        (ownCached s access).find? (scoring.leads draft.content (ownCached s access)) =
          (ownNewest s access).find? (scoring.leads draft.content (ownNewest s access))) :
      Transparent (scored cfg scoring) s access draft :=
    (transparent_iff hconsistent).mpr
      ⟨fun _ => hrecent, fun _ => hlookup access, fun _ => hfirst⟩
  refine ⟨?_, fun access => ⟨fun item => ?_, hwhenFirst access⟩⟩
  · by_cases hnil : cachedMemories s.recent = []
    · rw [retrieveRecent_of_nil _ hnil, retrieveRecent_of_nil _ rfl]
    · rw [retrieveRecent_of_ne_nil hnil, retrieveRecent_of_nil _ rfl]
      have hlast := (held_cached hconsistent).sublist (lastOf_sublist cfg.topKRecent _)
      have hnewest := held_newest hconsistent cfg.topKRecent
      exact browseOrder_congr hlast.nodup ((List.perm_ext_iff_of_nodup (hlast.nodup.of_map _)
        (hnewest.nodup.of_map _)).mpr (hlast.mem_iff hnewest hrecent))
  · rw [findExisting_empty]
    by_cases hnil : ownCached s access = []
    · rw [findExisting_of_nil hnil]
    · rw [findExisting_of_ne_nil hnil]
      exact hwhole.own_mem_iff access item

end Transparency

/-! ### A cache that is cleared -/

/-- Every text is about the same and overlaps with every other. -/
def plainScoring : PreferenceScoring ℕ where
  hasTerms := fun _ => true
  overlap := fun _ _ => 1
  textSimilarity := fun _ _ => 0
  sharesEntity := fun _ _ => false
  zero := 0
  threshold := 1
  reinforceAt := 3
  entityAt := 2
  updateAt := 2

/-- One configuration for the examples. -/
def browseConfig : MemoryConfig ℕ where
  similarity := fun _ _ _ => some 1
  score := fun _ _ _ => 0
  instantText := fun created => toString created
  isDocumentHistoryQuery := fun _ => false
  classify := fun _ _ => none

/-- The principal of the examples. -/
def somebody : MemoryAccessContext := { principalId := "local-default" }

/-- A preference and a memory, in step. -/
theorem cache_transparent_sample :
    let moves : List MemoryMove := [
      .writePreference somebody { id := "a", content := "tea", createdAt := 1 },
      .write .knowledge somebody { id := "b", content := "fact", createdAt := 2 }]
    ∃ s, (machine (scored browseConfig plainScoring)).run {} moves = some s ∧
      (retrieveRecent (scored browseConfig plainScoring) s.manager s.recent).1 =
        (retrieveRecent (scored browseConfig plainScoring) s.manager []).1 := by
  intro moves
  obtain ⟨s, hrun⟩ : ∃ s, (machine (scored browseConfig plainScoring)).run {} moves = some s :=
    ⟨_, rfl⟩
  refine ⟨s, hrun, ((cache_transparent browseConfig plainScoring moves s hrun).2 (by decide)
    ⟨⟨?_, by decide, by decide⟩, fun t ht => ?_⟩).1⟩
  · rintro item ⟨key, hmem⟩
    cases hmem
  · obtain rfl := Option.some.inj ht
    refine ⟨⟨?_, by decide, by decide⟩, fun t ht => trivial⟩
    rintro item ⟨key, hmem⟩
    obtain ⟨rfl, rfl⟩ := Prod.mk.inj (List.mem_singleton.mp hmem)
    exact .inl (by decide)

/-- A preference is written, the cache is cleared, and a fact is written: the recent stage returns
the fact only. -/
theorem cache_hides :
    ¬ ∀ (moves : List MemoryMove) (s : MemoryState ℕ),
      (machine (scored browseConfig plainScoring)).run {} moves = some s →
        ∀ access draft, Transparent (scored browseConfig plainScoring) s access draft := by
  intro h
  let moves : List MemoryMove := [
    .writePreference somebody { id := "a", content := "tea", createdAt := 1 }, .clearCache,
    .write .knowledge somebody { id := "b", content := "fact", createdAt := 2 }]
  obtain ⟨s, hrun, hcached, hstore⟩ : ∃ s,
      (machine (scored browseConfig plainScoring)).run {} moves = some s ∧
      ((retrieveRecent (scored browseConfig plainScoring) s.manager s.recent).1.map
        MemoryItem.id) = ["b"] ∧
      ((retrieveRecent (scored browseConfig plainScoring) s.manager []).1.map
        MemoryItem.id) = ["b", "a"] := ⟨_, rfl, by decide, by decide⟩
  have hsame := (h moves s hrun somebody { id := "c", content := "milk", createdAt := 3 }).recent
  rw [hsame, hstore] at hcached
  exact absurd hcached (by decide)

end MemoryController

end Samaktha
