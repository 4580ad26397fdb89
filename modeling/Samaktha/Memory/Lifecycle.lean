import Samaktha.Memory.Controller

/-!
# Expiry and deletion by type

The lifecycle manager with the numbers it returns.  Both sweeps enumerate what they delete through
a window: the newest thousand items, private ones only for the deletion by type.  What they delete
they count, and what they leave is unchanged (`expireOldMemories_spec`, `deleteByType_spec`); a
refused deletion does not occur, since an item of the window stays in it while others are removed
(`newerCount_erase_le`).  So a sweep is complete exactly where all items it is about stand in its
window (`sweeps_iff`).

A repository whose deletions raise is outside the model.
-/

namespace Samaktha

namespace LifecycleManager

open ContextMemoryStore MemoryController

variable {Score : Type} (cfg : MemoryConfig Score)

/-! ## The operations -/

/-- `expire_old_memories`, with the number it returns. -/
def expireOldMemories (s : MemoryState Score) (now : ℤ) : MemoryState Score × ℕ :=
  (getRecentContext s.manager.items 1000 false).foldl
    (fun done item =>
      if expired cfg now item then (remove cfg done.1 item.id, done.2 + 1) else done)
    (s, 0)

/-- `delete_memory`, with the answer it returns. -/
def deleteMemory (s : MemoryState Score) (id : String) : MemoryState Score × Bool :=
  if id ∈ (getRecentContext s.manager.items 1000 true).map MemoryItem.id then
    (remove cfg s id, true)
  else (s, false)

/-- `delete_by_type`, with the number it returns. -/
def deleteByType (s : MemoryState Score) (memoryType : String) : MemoryState Score × ℕ :=
  (getRecentContext s.manager.items 1000 true).foldl
    (fun done item =>
      if item.memoryType = some memoryType then
        let result := deleteMemory cfg done.1 item.id
        (result.1, if result.2 then done.2 + 1 else done.2)
      else done)
    (s, 0)

/-- `delete_memory_by_type` of the memory manager, with the number it returns. -/
def deleteMemoryByType (manager : MemoryManager) (memoryType : String) : MemoryManager × ℕ :=
  (getRecentContext manager.items 1000 true).foldl
    (fun done item =>
      if item.memoryType = some memoryType then (done.1.deleteMemory item.id, done.2 + 1)
      else done)
    (manager, 0)

/-! ### What they leave -/

/-- A loop that counts what it changes changes what the loop without the count does. -/
lemma fst_foldl {σ : Type} {p : MemoryItem → Bool} {f : σ → MemoryItem → σ}
    {g : σ × ℕ → MemoryItem → σ × ℕ}
    (hg : ∀ done item, (g done item).1 = if p item = true then f done.1 item else done.1)
    (window : List MemoryItem) (done : σ × ℕ) :
    (window.foldl g done).1 = (window.filter p).foldl f done.1 := by
  induction window generalizing done with
  | nil => rfl
  | cons item window ih =>
      rw [List.foldl_cons, ih, hg, List.filter_cons]
      split <;> rfl

/-- The controller's operations are these, without what they return. -/
lemma expireOldMemories_fst (s : MemoryState Score) (now : ℤ) :
    (expireOldMemories cfg s now).1 = MemoryController.expireOldMemories cfg s now :=
  fst_foldl (fun done item => by split <;> rfl) _ (s, 0)

lemma deleteMemory_fst (s : MemoryState Score) (id : String) :
    (deleteMemory cfg s id).1 = lifecycleDelete cfg s id := by
  unfold deleteMemory lifecycleDelete
  split <;> rfl

lemma deleteByType_fst (s : MemoryState Score) (memoryType : String) :
    (deleteByType cfg s memoryType).1 = MemoryController.deleteByType cfg s memoryType := by
  refine fst_foldl (fun done item => ?_) _ (s, 0)
  by_cases htype : item.memoryType = some memoryType
  · rw [if_pos htype, if_pos (decide_eq_true htype)]
    exact deleteMemory_fst cfg done.1 item.id
  · rw [if_neg htype, if_neg (by simpa using htype)]

/-! ## Sweeps -/

/-- The items are swept of those with a property, and the number is theirs. -/
structure Swept (p : MemoryItem → Bool) (items items' : Dict String MemoryItem) (count : ℕ) :
    Prop where
  gone : ∀ kv ∈ items', p kv.2 = false
  unchanged : List.Sublist items' items
  kept : ∀ kv ∈ items, p kv.2 = false → kv ∈ items'
  counted : count + items'.length = items.length

/-- The items without some ids. -/
def without (items : Dict String MemoryItem) (ids : List String) : Dict String MemoryItem :=
  items.filter fun kv => kv.1 ∉ ids

section Sweep

variable {items : Dict String MemoryItem}

/-- What stands in a list of stored items stands in the store under its id. -/
lemma mem_without_iff (hkeyed : Dict.KeyedBy MemoryItem.id items) {swept : List MemoryItem}
    (hswept : ∀ item ∈ swept, ∃ key, (key, item) ∈ items) {kv : String × MemoryItem}
    (hmem : kv ∈ items) : kv ∈ without items (swept.map MemoryItem.id) ↔ kv.2 ∉ swept := by
  have hid : kv.2.id = kv.1 := hkeyed.keyed kv.1 kv.2 hmem
  have hiff : kv.1 ∈ swept.map MemoryItem.id ↔ kv.2 ∈ swept := by
    constructor
    · intro hin
      obtain ⟨item, hitem, heq⟩ := List.mem_map.mp hin
      obtain ⟨key, hkey⟩ := hswept item hitem
      have hsame : item.id = key := hkeyed.keyed key item hkey
      have hget := Dict.get?_of_mem hkeyed.nodup hkey
      rw [← hsame, heq, Dict.get?_of_mem hkeyed.nodup (show (kv.1, kv.2) ∈ items from hmem)] at hget
      rw [Option.some.inj hget]
      exact hitem
    · intro hin
      rw [← hid]
      exact List.mem_map_of_mem hin
  rw [without, List.mem_filter]
  simp [hmem, hiff]

lemma length_without (hkeyed : Dict.KeyedBy MemoryItem.id items) {swept : List MemoryItem}
    (hnodup : swept.Nodup) (hswept : ∀ item ∈ swept, ∃ key, (key, item) ∈ items) :
    swept.length + (without items (swept.map MemoryItem.id)).length = items.length := by
  have hids : ∀ {x y : String × MemoryItem}, x ∈ items → y ∈ items → x.2 = y.2 → x = y := by
    intro x y hx hy heq
    have hxy : x.1 = y.1 := by
      rw [← hkeyed.keyed x.1 x.2 hx, ← hkeyed.keyed y.1 y.2 hy, heq]
    exact Prod.ext hxy heq
  have hitems : items.Nodup := List.Nodup.of_map _ hkeyed.nodup
  have hperm : List.Perm
      ((items.filter fun kv => kv.1 ∈ swept.map MemoryItem.id).map Prod.snd) swept := by
    refine (List.perm_ext_iff_of_nodup ?_ hnodup).mpr fun item => ?_
    · refine List.Nodup.map_on (fun x hx y hy heq => hids (List.mem_of_mem_filter hx)
        (List.mem_of_mem_filter hy) heq) (hitems.filter _)
    · rw [List.mem_map]
      constructor
      · rintro ⟨kv, hkv, rfl⟩
        obtain ⟨hmem, hin⟩ := List.mem_filter.mp hkv
        by_contra hnot
        have hkept := (mem_without_iff hkeyed hswept hmem).mpr hnot
        have hout := (List.mem_filter.mp hkept).2
        simp_all
      · intro hin
        obtain ⟨key, hkey⟩ := hswept item hin
        refine ⟨(key, item), List.mem_filter.mpr ⟨hkey, ?_⟩, rfl⟩
        rw [decide_eq_true_iff, ← hkeyed.keyed key item hkey]
        exact List.mem_map_of_mem hin
  have hlength := hperm.length_eq
  rw [List.length_map] at hlength
  have hsplit := List.length_eq_length_filter_add
    (l := items) fun kv => decide (kv.1 ∈ swept.map MemoryItem.id)
  rw [← hlength, hsplit, without]
  congr 2
  exact List.filter_congr fun kv _ => decide_not

/-- A sweep of the items of a window that have a property is complete exactly where all items
with the property stand in the window. -/
lemma swept_iff (hkeyed : Dict.KeyedBy MemoryItem.id items) {p : MemoryItem → Bool}
    {window : List MemoryItem} (hnodup : window.Nodup)
    (hwindow : ∀ item ∈ window, ∃ key, (key, item) ∈ items) :
    Swept p items (without items ((window.filter p).map MemoryItem.id)) (window.filter p).length ↔
      ∀ kv ∈ items, p kv.2 = true → kv.2 ∈ window := by
  have hswept : ∀ item ∈ window.filter p, ∃ key, (key, item) ∈ items :=
    fun item hitem => hwindow item (List.mem_of_mem_filter hitem)
  constructor
  · intro h kv hmem hp
    by_contra hnot
    have hkept := (mem_without_iff hkeyed hswept hmem).mpr fun hin =>
      hnot (List.mem_of_mem_filter hin)
    rw [h.gone kv hkept] at hp
    cases hp
  · intro hall
    refine ⟨fun kv hkept => ?_, List.filter_sublist, fun kv hmem hp => ?_,
      length_without hkeyed (hnodup.filter _) hswept⟩
    · have hmem : kv ∈ items := List.mem_of_mem_filter hkept
      by_contra hp
      rw [Bool.not_eq_false] at hp
      exact (mem_without_iff hkeyed hswept hmem).mp hkept
        (List.mem_filter.mpr ⟨hall kv hmem hp, hp⟩)
    · refine (mem_without_iff hkeyed hswept hmem).mpr fun hin => ?_
      rw [(List.mem_filter.mp hin).2] at hp
      cases hp

/-! ## Windows -/

lemma nodup_getRecentContext (hkeyed : Dict.KeyedBy MemoryItem.id items) (n : ℕ)
    (allowPrivate : Bool) :
    ((getRecentContext items n allowPrivate).map MemoryItem.id).Nodup := by
  have hall := nodup_ids_visible hkeyed
  rw [visible_true] at hall
  have hvisible : ((visible items allowPrivate).map MemoryItem.id).Nodup :=
    hall.sublist (List.filter_sublist.map MemoryItem.id)
  have hsorted : ((newestFirst (visible items allowPrivate)).map MemoryItem.id).Nodup :=
    ((List.perm_insertionSort NewerThan _).map MemoryItem.id).nodup_iff.mpr hvisible
  exact hsorted.sublist ((List.take_sublist _ _).map MemoryItem.id)

lemma newerCount_erase_le (id : String) (p : MemoryItem → Bool) (item : MemoryItem) :
    newerCount (Dict.erase items id) p item ≤ newerCount items p item :=
  (List.filter_sublist.map Prod.snd).countP_le

end Sweep

/-! ## The loops -/

@[simp] lemma items_remove (s : MemoryState Score) (id : String) :
    (remove cfg s id).manager.items = Dict.erase s.manager.items id := rfl

lemma without_nil (items : Dict String MemoryItem) : without items [] = items := by
  simp [without]

lemma without_cons (items : Dict String MemoryItem) (id : String) (ids : List String) :
    without items (id :: ids) = without (Dict.erase items id) ids := by
  rw [Dict.erase, without, without, List.filter_filter]
  refine List.filter_congr fun kv _ => ?_
  by_cases hid : kv.1 = id <;> simp [hid]

lemma sweep_loop {σ : Type} (itemsOf : σ → Dict String MemoryItem) (removed : σ → String → σ)
    (hremoved : ∀ s id, itemsOf (removed s id) = Dict.erase (itemsOf s) id)
    (p : MemoryItem → Bool) (window : List MemoryItem) (s : σ) (n : ℕ) :
    let done := window.foldl (fun done item =>
      if p item = true then (removed done.1 item.id, done.2 + 1) else done) (s, n)
    itemsOf done.1 = without (itemsOf s) ((window.filter p).map MemoryItem.id) ∧
      done.2 = n + (window.filter p).length := by
  induction window generalizing s n with
  | nil => exact ⟨(without_nil _).symm, rfl⟩
  | cons item window ih =>
      rw [List.foldl_cons]
      by_cases hp : p item = true
      · obtain ⟨hitems, hcount⟩ := ih (removed s item.id) (n + 1)
        rw [if_pos hp, List.filter_cons_of_pos hp, List.map_cons, without_cons,
          List.length_cons, ← hremoved]
        exact ⟨hitems, hcount.trans (by omega)⟩
      · rw [if_neg hp, List.filter_cons_of_neg hp]
        exact ih s n

/-- What the deletion by type leaves, and what it counts: the items of the window stay in it while
others are removed, so no deletion is refused. -/
lemma delete_loop (memoryType : String) (window : List MemoryItem) (s : MemoryState Score) (n : ℕ)
    (hkeyed : Dict.KeyedBy MemoryItem.id s.manager.items)
    (hnodup : (window.map MemoryItem.id).Nodup)
    (hwindow : ∀ item ∈ window, (item.id, item) ∈ s.manager.items ∧
      newerCount s.manager.items (fun _ => true) item < 1000) :
    let done := window.foldl (fun done item =>
        if item.memoryType = some memoryType then
          let result := deleteMemory cfg done.1 item.id
          (result.1, if result.2 then done.2 + 1 else done.2)
        else done) (s, n)
    done.1.manager.items = without s.manager.items
        ((window.filter fun item => item.memoryType = some memoryType).map MemoryItem.id) ∧
      done.2 = n + (window.filter fun item => item.memoryType = some memoryType).length := by
  induction window generalizing s n with
  | nil => exact ⟨(without_nil _).symm, rfl⟩
  | cons item window ih =>
      obtain ⟨⟨hstored, hnewer⟩, hrest⟩ := List.forall_mem_cons.mp hwindow
      obtain ⟨hnew, htail⟩ := List.nodup_cons.mp hnodup
      rw [List.foldl_cons]
      by_cases htype : item.memoryType = some memoryType
      · have hin : item ∈ getRecentContext s.manager.items 1000 true :=
          (mem_getRecentContext_iff hkeyed hstored 1000).mpr hnewer
        have hdelete : deleteMemory cfg s item.id = (remove cfg s item.id, true) :=
          if_pos (List.mem_map_of_mem hin)
        have hafter : ∀ other ∈ window, (other.id, other) ∈ (remove cfg s item.id).manager.items ∧
            newerCount (remove cfg s item.id).manager.items (fun _ => true) other < 1000 := by
          intro other hother
          obtain ⟨hmem, hlt⟩ := hrest other hother
          refine ⟨List.mem_filter.mpr ⟨hmem, ?_⟩, lt_of_le_of_lt (newerCount_erase_le _ _ _) hlt⟩
          have hne : other.id ≠ item.id := fun heq => hnew (heq ▸ List.mem_map_of_mem hother)
          simpa using hne
        obtain ⟨hitems, hcount⟩ := ih (remove cfg s item.id) (n + 1) (hkeyed.erase item.id) htail
          hafter
        rw [if_pos htype, List.filter_cons_of_pos (by simpa using htype), List.map_cons,
          without_cons, List.length_cons]
        simp only [hdelete, if_true]
        exact ⟨hitems, hcount.trans (by omega)⟩
      · rw [if_neg htype, List.filter_cons_of_neg (by simpa using htype)]
        exact ih s n hkeyed htail hrest

/-! ## Completeness -/

/-- A controller's state whose items are stored under their own ids. -/
structure StoredMemories (Score : Type) where
  state : MemoryState Score
  keyed : Dict.KeyedBy MemoryItem.id state.manager.items

abbrev StoredMemories.items (memories : StoredMemories Score) : Dict String MemoryItem :=
  memories.state.manager.items

def ofType (memoryType : String) (item : MemoryItem) : Bool := item.memoryType = some memoryType

lemma stored_window (memories : StoredMemories Score) {n : ℕ} {allowPrivate : Bool} :
    ∀ item ∈ getRecentContext memories.items n allowPrivate, ∃ key, (key, item) ∈ memories.items :=
  fun _ hitem => mem_of_mem_getRecentContext hitem

/-- What the expiry leaves, and what it counts. -/
lemma expireOldMemories_spec (cfg : MemoryConfig Score) (memories : StoredMemories Score)
    (now : ℤ) :
    (expireOldMemories cfg memories.state now).1.manager.items = without memories.items
        (((getRecentContext memories.items 1000 false).filter (expired cfg now)).map
          MemoryItem.id) ∧
      (expireOldMemories cfg memories.state now).2 =
        ((getRecentContext memories.items 1000 false).filter (expired cfg now)).length := by
  have hloop := sweep_loop (fun s : MemoryState Score => s.manager.items) (remove cfg)
    (fun _ _ => rfl) (expired cfg now) (getRecentContext memories.items 1000 false)
    memories.state 0
  rw [Nat.zero_add] at hloop
  exact hloop

/-- What the deletion by type leaves, and what it counts. -/
lemma deleteByType_spec (cfg : MemoryConfig Score) (memories : StoredMemories Score)
    (memoryType : String) :
    (deleteByType cfg memories.state memoryType).1.manager.items = without memories.items
        (((getRecentContext memories.items 1000 true).filter (ofType memoryType)).map
          MemoryItem.id) ∧
      (deleteByType cfg memories.state memoryType).2 =
        ((getRecentContext memories.items 1000 true).filter (ofType memoryType)).length := by
  have hloop := delete_loop cfg memoryType (getRecentContext memories.items 1000 true)
    memories.state 0 memories.keyed (nodup_getRecentContext memories.keyed 1000 true)
    fun item hitem => by
      obtain ⟨key, hkey⟩ := stored_window memories item hitem
      have hid : item.id = key := memories.keyed.keyed key item hkey
      exact ⟨hid ▸ hkey, (mem_getRecentContext_iff memories.keyed hkey 1000).mp hitem⟩
  rw [Nat.zero_add] at hloop
  exact hloop

/-- The same of the memory manager's deletion by type. -/
lemma deleteMemoryByType_spec (memories : StoredMemories Score) (memoryType : String) :
    (deleteMemoryByType memories.state.manager memoryType).1.items = without memories.items
        (((getRecentContext memories.items 1000 true).filter (ofType memoryType)).map
          MemoryItem.id) ∧
      (deleteMemoryByType memories.state.manager memoryType).2 =
        ((getRecentContext memories.items 1000 true).filter (ofType memoryType)).length := by
  have hloop := sweep_loop MemoryManager.items MemoryManager.deleteMemory (fun _ _ => rfl)
    (ofType memoryType) (getRecentContext memories.items 1000 true) memories.state.manager 0
  rw [Nat.zero_add] at hloop
  simp only [ofType, decide_eq_true_eq] at hloop
  exact hloop

/-- A sweep through a window is complete exactly where its items stand in the window. -/
lemma swept_window_iff (memories : StoredMemories Score) (p : MemoryItem → Bool)
    (allowPrivate : Bool) :
    Swept p memories.items
        (without memories.items
          (((getRecentContext memories.items 1000 allowPrivate).filter p).map MemoryItem.id))
        ((getRecentContext memories.items 1000 allowPrivate).filter p).length ↔
      ∀ kv ∈ memories.items, p kv.2 = true → shows allowPrivate kv.2 = true ∧
        newerCount memories.items (shows allowPrivate) kv.2 < 1000 := by
  rw [swept_iff memories.keyed (nodup_getRecentContext memories.keyed 1000 allowPrivate).of_map
    (stored_window memories)]
  refine forall_congr' fun kv => forall_congr' fun hmem => imp_congr_right fun _ => ?_
  exact mem_getRecentContext_iff_of memories.keyed hmem 1000 allowPrivate

variable {cfg} in
/-- A deletion answers whether the item was there and is gone, and leaves the others. -/
lemma deleteMemory_spec (memories : StoredMemories Score) (id : String) :
    ((deleteMemory cfg memories.state id).2 = true ↔ Dict.get? memories.items id ≠ none ∧
        Dict.get? (deleteMemory cfg memories.state id).1.manager.items id = none) ∧
      ∀ other ≠ id, Dict.get? (deleteMemory cfg memories.state id).1.manager.items other =
        Dict.get? memories.items other := by
  unfold deleteMemory
  split
  · rename_i hin
    obtain ⟨item, hitem, rfl⟩ := List.mem_map.mp hin
    obtain ⟨key, hkey⟩ := stored_window memories item hitem
    have hid : item.id = key := memories.keyed.keyed key item hkey
    have hget : Dict.get? memories.items item.id = some item :=
      Dict.get?_of_mem memories.keyed.nodup (hid ▸ hkey)
    refine ⟨iff_of_true rfl ⟨by simp [hget], Dict.get?_erase_self _ _⟩, fun other hne => ?_⟩
    exact Dict.get?_erase_of_ne hne.symm _
  · refine ⟨iff_of_false (by simp) fun hboth => hboth.1 hboth.2, fun _ _ => rfl⟩

/-- The sweeps are complete, count what they remove and leave the rest, and a deletion answers
whether the item is gone, exactly where each expired item is not marked private and fewer than a
thousand others that are not are newer, and fewer than a thousand items are newer than each one of
the type. -/
theorem sweeps_iff (cfg : MemoryConfig Score) (memories : StoredMemories Score) (now : ℤ)
    (memoryType : String) :
    (Swept (expired cfg now) memories.items
          (expireOldMemories cfg memories.state now).1.manager.items
          (expireOldMemories cfg memories.state now).2 ∧
        Swept (ofType memoryType) memories.items
          (deleteByType cfg memories.state memoryType).1.manager.items
          (deleteByType cfg memories.state memoryType).2 ∧
        Swept (ofType memoryType) memories.items
          (deleteMemoryByType memories.state.manager memoryType).1.items
          (deleteMemoryByType memories.state.manager memoryType).2 ∧
        ∀ id, ((deleteMemory cfg memories.state id).2 = true ↔
            Dict.get? memories.items id ≠ none ∧
              Dict.get? (deleteMemory cfg memories.state id).1.manager.items id = none) ∧
          ∀ other ≠ id, Dict.get? (deleteMemory cfg memories.state id).1.manager.items other =
            Dict.get? memories.items other) ↔
      (∀ kv ∈ memories.items, expired cfg now kv.2 = true → shows false kv.2 = true ∧
          newerCount memories.items (shows false) kv.2 < 1000) ∧
        ∀ kv ∈ memories.items, kv.2.memoryType = some memoryType →
          newerCount memories.items (fun _ => true) kv.2 < 1000 := by
  obtain ⟨hexpired, hremoved⟩ := expireOldMemories_spec cfg memories now
  obtain ⟨hdeleted, hcounted⟩ := deleteByType_spec cfg memories memoryType
  obtain ⟨hdeleted', hcounted'⟩ := deleteMemoryByType_spec memories memoryType
  have htype := swept_window_iff memories (ofType memoryType) true
  have hall : (∀ kv ∈ memories.items, kv.2.memoryType = some memoryType →
      newerCount memories.items (fun _ => true) kv.2 < 1000) ↔
        ∀ kv ∈ memories.items, ofType memoryType kv.2 = true → shows true kv.2 = true ∧
          newerCount memories.items (shows true) kv.2 < 1000 := by
    refine forall_congr' fun kv => imp_congr_right fun _ => ?_
    rw [ofType, decide_eq_true_iff]
    exact imp_congr_right fun _ => (and_iff_right rfl).symm
  rw [hexpired, hremoved, hdeleted, hcounted, hdeleted', hcounted',
    swept_window_iff memories (expired cfg now) false, htype, hall]
  constructor
  · rintro ⟨hfirst, hsecond, -⟩
    exact ⟨hfirst, hsecond⟩
  · rintro ⟨hfirst, hsecond⟩
    exact ⟨hfirst, hsecond, hsecond, fun id => deleteMemory_spec memories id⟩

/-! ## A crowd -/

/-- A preference in a crowd; the later ones are newer. -/
def crowdItem (i : ℕ) : MemoryItem where
  id := String.ofList (List.replicate i 'm')
  content := ""
  memoryType := some "preference"
  createdAt := i

/-- A store of preferences. -/
def crowd (n : ℕ) : Dict String MemoryItem :=
  (List.range n).map fun i => ((crowdItem i).id, crowdItem i)

lemma crowdItem_id_injective {i j : ℕ} (h : (crowdItem i).id = (crowdItem j).id) : i = j := by
  have hchars := congrArg (fun text => text.toList.length) h
  simpa [crowdItem] using hchars

lemma keyedBy_crowd (n : ℕ) : Dict.KeyedBy MemoryItem.id (crowd n) where
  nodup := by
    have hkeys : Dict.keys (crowd n) = (List.range n).map fun i => (crowdItem i).id := by
      rw [Dict.keys, crowd, List.map_map]
      rfl
    rw [Dict.NodupKeys, hkeys]
    exact List.nodup_range.map fun i j h => crowdItem_id_injective h
  keyed key item hmem := by
    obtain ⟨i, -, heq⟩ := List.mem_map.mp hmem
    cases heq
    rfl

lemma newerCount_crowd (n : ℕ) :
    newerCount (crowd (n + 1)) (fun _ => true) (crowdItem 0) = n := by
  rw [newerCount, crowd, List.map_map, List.countP_map, List.range_succ_eq_map, List.countP_cons,
    List.countP_map]
  have hfirst : ¬ Newer (crowdItem 0) (crowdItem 0) := fun h => h.2 rfl
  have hlater : ∀ i, Newer (crowdItem (i + 1)) (crowdItem 0) := by
    intro i
    refine ⟨.inl ?_, fun heq => ?_⟩
    · show (0 : ℤ) < ((i + 1 : ℕ) : ℤ)
      omega
    · have hzero := crowdItem_id_injective heq
      omega
  rw [List.countP_eq_length.mpr, List.length_range]
  · simp [hfirst]
  · intro i _
    simpa using hlater i

lemma not_swept_of_crowd (cfg : MemoryConfig Score) (m : ℕ) (hm : 1000 < m)
    (s : MemoryState Score) (hs : s.manager.items = crowd m) :
    ¬ Swept (ofType "preference") (crowd m)
      (deleteByType cfg s "preference").1.manager.items (deleteByType cfg s "preference").2 := by
  intro hswept
  obtain ⟨n, rfl⟩ : ∃ n, m = n + 1 := ⟨m - 1, by omega⟩
  let memories : StoredMemories Score := ⟨s, hs ▸ keyedBy_crowd (n + 1)⟩
  obtain ⟨hdeleted, hcounted⟩ := deleteByType_spec cfg memories "preference"
  rw [hdeleted, hcounted, ← hs] at hswept
  have hall := (swept_window_iff memories (ofType "preference") true).mp hswept
  have hmem : ((crowdItem 0).id, crowdItem 0) ∈ memories.items := by
    show _ ∈ s.manager.items
    rw [hs]
    exact List.mem_map.mpr ⟨0, List.mem_range.mpr (by omega), rfl⟩
  have hfirst := (hall _ hmem rfl).2
  have hcount : newerCount memories.items (shows true) (crowdItem 0) = n := by
    show newerCount s.manager.items _ _ = n
    rw [hs]
    exact newerCount_crowd n
  rw [hcount] at hfirst
  omega

def plainConfig : MemoryConfig ℕ where
  similarity _ _ _ := none
  score _ _ _ := 0
  instantText _ := ""
  isDocumentHistoryQuery _ := false
  classify _ _ := none

/-- The oldest of a thousand and one preferences survives the deletion of all preferences. -/
theorem not_swept_crowd :
    let s : MemoryState ℕ := { manager := { items := crowd 1001 } }
    ¬ Swept (ofType "preference") (crowd 1001)
      (deleteByType plainConfig s "preference").1.manager.items
      (deleteByType plainConfig s "preference").2 := by
  intro s
  have hitems : s.manager.items = crowd 1001 := by simp only [s]
  exact not_swept_of_crowd plainConfig 1001 (by omega) s hitems

end LifecycleManager

end Samaktha
