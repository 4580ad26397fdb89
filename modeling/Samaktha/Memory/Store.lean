import Samaktha.Contracts.Memory
import Mathlib.Data.List.Sort

/-!
# Memory stores

The context store with its repository rows, the document store with its rows, and the bounded
dictionaries of the memory cache.  A row is keyed in the repository by `mem:` or `doc:` and the
id; here each family has a dictionary of its own.

The semantic index of the context store is left out: the retriever builds its own over the items
it may see.
-/

namespace Samaktha

/-! ## Bounded dictionaries -/

namespace Dict

variable {α : Type*} {β : Type*} [DecidableEq α]

/-- Assignment in a `_BoundedDict`: the oldest key goes when there are more than `maxlen`. -/
def setBounded (maxlen : ℕ) (d : Dict α β) (a : α) (b : β) : Dict α β :=
  let d := d.set a b
  if maxlen < d.length then d.tail else d

lemma mem_setBounded {maxlen : ℕ} {d : Dict α β} {a : α} {b : β} {kv : α × β}
    (h : kv ∈ d.setBounded maxlen a b) : kv ∈ d.set a b := by
  unfold setBounded at h
  dsimp only at h
  split at h
  · exact List.mem_of_mem_tail h
  · exact h

lemma NodupKeys.setBounded {d : Dict α β} (hd : d.NodupKeys) (maxlen : ℕ) (a : α) (b : β) :
    (d.setBounded maxlen a b).NodupKeys := by
  have hset := hd.set a b
  unfold Dict.setBounded
  dsimp only
  split
  · unfold NodupKeys keys at hset ⊢
    rw [List.map_tail]
    exact hset.sublist (List.tail_sublist _)
  · exact hset

lemma get?_setBounded {maxlen : ℕ} {d : Dict α β} (hd : d.NodupKeys) {a c : α} {b v : β}
    (h : (d.setBounded maxlen a b).get? c = some v) :
    (c = a ∧ v = b) ∨ d.get? c = some v := by
  have hmem := mem_setBounded (mem_of_get? h)
  have hget := get?_of_mem (hd.set a b) hmem
  rw [get?_set] at hget
  split at hget
  · rename_i hkey
    exact .inl ⟨hkey.symm, (Option.some.inj hget).symm⟩
  · exact .inr hget

end Dict

/-! ## Ranks -/

/-- In a list that an asymmetric relation orders, what stands among the first `n` has fewer than
`n` elements before it. -/
lemma mem_take_iff_countP {α : Type*} {r : α → α → Prop} [DecidableRel r]
    (hasymm : ∀ a b, r a b → ¬ r b a) {l : List α} (hl : l.Pairwise r) {x : α} (hx : x ∈ l)
    (n : ℕ) : x ∈ l.take n ↔ l.countP (fun y => r y x) < n := by
  induction l generalizing n with
  | nil => cases hx
  | cons a l ih =>
      obtain ⟨hbefore, htail⟩ := List.pairwise_cons.mp hl
      rcases List.mem_cons.mp hx with rfl | hmem
      · have hnone : (x :: l).countP (fun y => r y x) = 0 := by
          rw [List.countP_eq_zero]
          intro y hy
          rcases List.mem_cons.mp hy with rfl | hyl
          · simpa using fun h => hasymm y y h h
          · simpa using hasymm x y (hbefore y hyl)
        rw [hnone]
        cases n with
        | zero => simp
        | succ n => simp
      · have hax := hbefore x hmem
        have hne : x ≠ a := by
          rintro rfl
          exact hasymm x x hax hax
        rw [List.countP_cons, if_pos (decide_eq_true hax)]
        cases n with
        | zero => simp
        | succ n =>
            rw [List.take_succ_cons, List.mem_cons, or_iff_right hne, ih htail hmem]
            omega

/-! ## The context store -/

namespace ContextMemoryStore

/-- Later first; of two items of one instant, the one with the greater id. -/
def NewerThan (x y : MemoryItem) : Prop :=
  y.createdAt < x.createdAt ∨ (y.createdAt = x.createdAt ∧ y.id ≤ x.id)

instance : DecidableRel NewerThan := fun _ _ => inferInstanceAs (Decidable (_ ∨ _))

def newestFirst (items : List MemoryItem) : List MemoryItem := items.insertionSort NewerThan

variable (items : Dict String MemoryItem)

/-- The values of the store, private ones only where they are allowed. -/
def visible (allowPrivate : Bool) : List MemoryItem :=
  (items.map Prod.snd).filter fun item => allowPrivate || item.retentionPolicy ≠ "private"

def getRecentContext (n : ℕ) (allowPrivate : Bool) : List MemoryItem :=
  (newestFirst (visible items allowPrivate)).take n

def getByType (memoryType : String) (n : ℕ) (allowPrivate : Bool) : List MemoryItem :=
  (newestFirst ((visible items allowPrivate).filter fun item =>
    item.memoryType = some memoryType)).take n

/-- `save_context`; temporary items are not stored. -/
def saveContext (item : MemoryItem) : Dict String MemoryItem :=
  if item.retentionPolicy = "temporary" then items else Dict.set items item.id item

variable {items}

lemma mem_of_mem_visible {allowPrivate : Bool} {item : MemoryItem}
    (h : item ∈ visible items allowPrivate) : ∃ key, (key, item) ∈ items := by
  obtain ⟨⟨key, value⟩, hmem, rfl⟩ := List.mem_map.mp (List.mem_of_mem_filter h)
  exact ⟨key, hmem⟩

lemma mem_newestFirst {list : List MemoryItem} {item : MemoryItem} :
    item ∈ newestFirst list ↔ item ∈ list := List.mem_insertionSort _

lemma mem_of_mem_getRecentContext {n : ℕ} {allowPrivate : Bool} {item : MemoryItem}
    (h : item ∈ getRecentContext items n allowPrivate) : ∃ key, (key, item) ∈ items :=
  mem_of_mem_visible (mem_newestFirst.mp (List.mem_of_mem_take h))

lemma mem_of_mem_getByType {memoryType : String} {n : ℕ} {allowPrivate : Bool} {item : MemoryItem}
    (h : item ∈ getByType items memoryType n allowPrivate) : ∃ key, (key, item) ∈ items :=
  mem_of_mem_visible (List.mem_of_mem_filter (mem_newestFirst.mp (List.mem_of_mem_take h)))

/-! ### The newest items -/

/-- One item stands before another of another id. -/
def Newer (x y : MemoryItem) : Prop := NewerThan x y ∧ x.id ≠ y.id

instance : DecidableRel Newer := fun _ _ => inferInstanceAs (Decidable (_ ∧ _))

lemma Newer.asymm (x y : MemoryItem) (h : Newer x y) : ¬ Newer y x := by
  rintro ⟨hback, -⟩
  obtain ⟨hnewer, hne⟩ := h
  rcases hnewer with hlt | ⟨heq, hid⟩
  · rcases hback with hlt' | ⟨heq', -⟩
    · omega
    · omega
  · rcases hback with hlt' | ⟨-, hid'⟩
    · omega
    · exact hne (le_antisymm hid' hid)

instance : IsTrans MemoryItem NewerThan where
  trans x y z hxy hyz := by
    rcases hxy with hlt | ⟨heq, hid⟩ <;> rcases hyz with hlt' | ⟨heq', hid'⟩
    · exact .inl (hlt'.trans hlt)
    · exact .inl (heq' ▸ hlt)
    · exact .inl (heq ▸ hlt')
    · exact .inr ⟨heq'.trans heq, hid'.trans hid⟩

instance : Std.Total NewerThan where
  total x y := by
    rcases lt_trichotomy x.createdAt y.createdAt with hlt | heq | hgt
    · exact .inr (.inl hlt)
    · rcases le_total x.id y.id with hid | hid
      · exact .inr (.inr ⟨heq, hid⟩)
      · exact .inl (.inr ⟨heq.symm, hid⟩)
    · exact .inl (.inl hgt)

lemma pairwise_newestFirst {list : List MemoryItem} (h : (list.map MemoryItem.id).Nodup) :
    (newestFirst list).Pairwise Newer := by
  have hsorted : (newestFirst list).Pairwise NewerThan := List.pairwise_insertionSort _ _
  have hids : ((newestFirst list).map MemoryItem.id).Nodup :=
    ((List.perm_insertionSort NewerThan list).map MemoryItem.id).nodup_iff.mpr h
  exact hsorted.and (List.pairwise_map.mp hids)

/-- How many stored items with a property stand before an item. -/
def newerCount (items : Dict String MemoryItem) (p : MemoryItem → Bool) (item : MemoryItem) : ℕ :=
  (items.map Prod.snd).countP fun other => p other && decide (Newer other item)

lemma visible_true (items : Dict String MemoryItem) : visible items true = items.map Prod.snd :=
  List.filter_true _

lemma nodup_ids_visible (h : Dict.KeyedBy MemoryItem.id items) :
    ((visible items true).map MemoryItem.id).Nodup := by
  have hkeys : (items.map Prod.snd).map MemoryItem.id = Dict.keys items := by
    rw [List.map_map]
    exact List.map_congr_left fun kv hkv => h.keyed kv.1 kv.2 hkv
  rw [visible_true, hkeys]
  exact h.nodup

/-- Whether an item may be shown. -/
def shows (allowPrivate : Bool) (item : MemoryItem) : Bool :=
  allowPrivate || item.retentionPolicy ≠ "private"

/-- The window of the newest `n` holds the items that may be shown with fewer than `n` newer ones
that may. -/
lemma mem_getRecentContext_iff_of (h : Dict.KeyedBy MemoryItem.id items) {key : String}
    {item : MemoryItem} (hmem : (key, item) ∈ items) (n : ℕ) (allowPrivate : Bool) :
    item ∈ getRecentContext items n allowPrivate ↔
      shows allowPrivate item = true ∧ newerCount items (shows allowPrivate) item < n := by
  have hnodup : ((visible items allowPrivate).map MemoryItem.id).Nodup := by
    have hall := nodup_ids_visible h
    rw [visible_true] at hall
    exact hall.sublist (List.filter_sublist.map MemoryItem.id)
  by_cases hshown : shows allowPrivate item = true
  · have hstored : item ∈ newestFirst (visible items allowPrivate) := by
      rw [mem_newestFirst]
      exact List.mem_filter.mpr ⟨List.mem_map_of_mem hmem, hshown⟩
    rw [getRecentContext, mem_take_iff_countP Newer.asymm (pairwise_newestFirst hnodup) hstored,
      newestFirst, (List.perm_insertionSort NewerThan _).countP_eq, visible, List.countP_filter,
      and_iff_right hshown, newerCount]
    refine iff_of_eq (congrArg (· < n) (List.countP_congr fun other _ => ?_))
    rw [Bool.and_comm]
    rfl
  · refine iff_of_false (fun hin => hshown ?_) fun hboth => hshown hboth.1
    exact (List.mem_filter.mp (mem_newestFirst.mp (List.mem_of_mem_take hin))).2

/-- The window of the newest `n` holds the items with fewer than `n` newer ones. -/
lemma mem_getRecentContext_iff (h : Dict.KeyedBy MemoryItem.id items) {key : String}
    {item : MemoryItem} (hmem : (key, item) ∈ items) (n : ℕ) :
    item ∈ getRecentContext items n true ↔ newerCount items (fun _ => true) item < n := by
  have hshown : shows true item = true := rfl
  rw [mem_getRecentContext_iff_of h hmem, and_iff_right hshown]
  rfl

end ContextMemoryStore

/-! ## The memory manager -/

/-- The stores of a memory manager and the rows of its repository. -/
structure MemoryManager where
  items : Dict String MemoryItem := []
  rows : Dict String MemoryItem := []
  documents : Dict String DocumentRecord := []
  documentRows : Dict String DocumentRecord := []
  knowledge : Dict String (List KnowledgeEntity) := []
  deriving Inhabited

namespace MemoryManager

variable (manager : MemoryManager)

/-- `store_memory`: the row first, then the context store. -/
def storeMemory (item : MemoryItem) : MemoryManager :=
  { manager with
    rows := Dict.set manager.rows item.id item
    items := ContextMemoryStore.saveContext manager.items item }

def updateMemory (item : MemoryItem) : MemoryManager :=
  { manager with items := ContextMemoryStore.saveContext manager.items item }

/-- `update_memory` of an item that was changed in place: a store that holds it shows the change
even where the item is not saved. -/
def updateInPlace (item : MemoryItem) : MemoryManager :=
  { manager with
    items :=
      if item.id ∈ Dict.keys manager.items then Dict.set manager.items item.id item
      else ContextMemoryStore.saveContext manager.items item }

def deleteMemory (id : String) : MemoryManager :=
  { manager with
    items := Dict.erase manager.items id
    rows := Dict.erase manager.rows id }

def storeDocument (record : DocumentRecord) : MemoryManager :=
  { manager with
    documents := Dict.set manager.documents record.documentId record
    documentRows := Dict.set manager.documentRows record.documentId record }

/-- `delete_all_memories`: what has a row goes, with its row. -/
def deleteAllMemories : MemoryManager :=
  { manager with
    items := manager.rows.foldl (fun items row => Dict.erase items row.1) manager.items
    rows := []
    documents := manager.documentRows.foldl (fun docs row => Dict.erase docs row.1)
      manager.documents
    documentRows := [] }

/-- A new manager on the same repository: `_load_persisted_memories`. -/
def rebuilt : MemoryManager where
  items := Dict.ofList (manager.rows.map fun row => (row.2.id, row.2))
  rows := manager.rows
  documents := Dict.ofList (manager.documentRows.map fun row => (row.2.documentId, row.2))
  documentRows := manager.documentRows

/-- `DocumentMemoryStore.list_all`: the most recently updated first. -/
def listDocuments : List DocumentRecord :=
  (manager.documents.map Prod.snd).insertionSort fun x y => y.updatedAt ≤ x.updatedAt

/-- The entities of one type, changed from outside. -/
def setKnowledge (entityType : String) (entities : List KnowledgeEntity) : MemoryManager :=
  { manager with knowledge := Dict.set manager.knowledge entityType entities }

lemma updateInPlace_eq {item : MemoryItem} (h : item.retentionPolicy ≠ "temporary") :
    manager.updateInPlace item = manager.updateMemory item := by
  rw [updateInPlace, updateMemory, ContextMemoryStore.saveContext, if_neg h, ite_self]

lemma items_updateInPlace {item : MemoryItem} (h : item.id ∈ Dict.keys manager.items) :
    (manager.updateInPlace item).items = Dict.set manager.items item.id item := if_pos h

/-- One entity as often as a search of the knowledge store finds it. -/
def knowledgeHits (query : String) (found : List KnowledgeEntity) (entity : KnowledgeEntity) :
    List KnowledgeEntity :=
  let matches? (text : String) : Bool := Text.contains (Text.lower text) (Text.lower query)
  let found := if matches? entity.text then found ++ [entity] else found
  let found := if (entity.title.map matches?).getD false then found ++ [entity] else found
  let found := if (entity.name.map matches?).getD false then found ++ [entity] else found
  entity.tags.foldl (fun found tag =>
    if matches? tag && entity ∉ found then found ++ [entity] else found) found

def searchPersonalKnowledge (entityType query : String) : List KnowledgeEntity :=
  ((Dict.get? manager.knowledge entityType).getD []).foldl (knowledgeHits query) []

end MemoryManager

end Samaktha
