import Samaktha.Memory.Candidates

/-!
# The controller keeps its cache consistent

Every operation of the controller leaves the recent cache in agreement with the store, and the
store without temporary items (`consistent_after`): a write stores an item in both, a removal
marks in the cache what it takes from the store, and a revised preference is stored again in
both.
-/

namespace Samaktha

namespace MemoryController

open SecurityManager ContextMemoryStore MemoryRetriever

variable {Score : Type} {cfg : MemoryConfig Score}

/-! ## Dictionaries of items -/

lemma agrees_put {items : Dict String MemoryItem} {recent : RecentCache}
    (h : Agrees items recent) (item : MemoryItem) :
    Agrees (Dict.set items item.id item) (storeRecent cfg recent item.id (some item)) := by
  refine ⟨fun key stored hmem => ?_, h.nodup.set _ _, h.nodupRecent.setBounded _ _ _,
    fun key stored hget => ?_⟩
  · have hget := Dict.get?_of_mem (h.nodup.set item.id item) hmem
    rw [Dict.get?_set] at hget
    split at hget
    · rename_i hkey
      rw [← Option.some.inj hget, hkey]
    · exact h.keyed key stored (Dict.mem_of_get? hget)
  · rw [Dict.get?_set]
    rcases Dict.get?_setBounded h.nodupRecent hget with ⟨rfl, heq⟩ | hold
    · rw [if_pos rfl, Option.some.inj heq]
    · split
      · rename_i hkey
        -- the recent cache has the new item under this id, if it still has anything there
        subst hkey
        have hnew := Dict.get?_of_mem (h.nodupRecent.set item.id (some item))
          (Dict.mem_setBounded (Dict.mem_of_get? hget))
        rw [Dict.get?_set, if_pos rfl] at hnew
        exact Option.some.inj hnew
      · exact h.agree key stored hold

lemma agrees_drop {items : Dict String MemoryItem} {recent : RecentCache}
    (h : Agrees items recent) (id : String) :
    Agrees (Dict.erase items id) (storeRecent cfg recent id none) := by
  refine ⟨fun key stored hmem => h.keyed key stored (List.mem_of_mem_filter hmem),
    h.nodup.erase id, h.nodupRecent.setBounded _ _ _, fun key stored hget => ?_⟩
  have hold := Dict.get?_of_mem (h.nodupRecent.set id none)
    (Dict.mem_setBounded (Dict.mem_of_get? hget))
  rw [Dict.get?_set] at hold
  split at hold
  · cases Option.some.inj hold
  · rename_i hkey
    rw [Dict.get?_erase, if_neg hkey]
    exact h.agree key stored hold

/-! ## The invariant -/

/-- The recent cache agrees with the store, which holds no temporary item. -/
structure Consistent (s : MemoryState Score) : Prop where
  agrees : Agrees s.manager.items s.recent
  lasting : ∀ key item, (key, item) ∈ s.manager.items → item.retentionPolicy ≠ "temporary"

lemma consistent_init : Consistent ({} : MemoryState Score) := by
  refine ⟨⟨fun key item hmem => ?_, List.nodup_nil, List.nodup_nil, fun key item hget => ?_⟩,
    fun key item hmem => ?_⟩
  · cases hmem
  · cases hget
  · cases hmem

lemma Consistent.put {s : MemoryState Score} (h : Consistent s) {item : MemoryItem}
    (hlasting : item.retentionPolicy ≠ "temporary") {manager : MemoryManager}
    (hitems : manager.items = saveContext s.manager.items item)
    (retrievals : Dict String (CachedResult Score)) (forgotten : List String) :
    Consistent { s with
      manager := manager
      recent := storeRecent cfg s.recent item.id (some item)
      retrievals := retrievals
      forgotten := forgotten } := by
  rw [saveContext, if_neg hlasting] at hitems
  refine ⟨?_, fun key stored hmem => ?_⟩
  · rw [hitems]
    exact agrees_put h.agrees item
  · rw [hitems] at hmem
    have hget := Dict.get?_of_mem (h.agrees.nodup.set item.id item) hmem
    rw [Dict.get?_set] at hget
    split at hget
    · rw [← Option.some.inj hget]
      exact hlasting
    · exact h.lasting key stored (Dict.mem_of_get? hget)

lemma Consistent.remove {s : MemoryState Score} (h : Consistent s) (id : String) :
    Consistent (remove cfg s id) where
  agrees := agrees_drop h.agrees id
  lasting key item hmem := h.lasting key item (List.mem_of_mem_filter hmem)

lemma Consistent.lifecycleDelete {s : MemoryState Score} (h : Consistent s) (id : String) :
    Consistent (lifecycleDelete cfg s id) := by
  unfold MemoryController.lifecycleDelete
  split
  · exact h.remove id
  · exact h

lemma Consistent.write {s : MemoryState Score} (h : Consistent s) (kind : MemoryKind)
    (access : MemoryAccessContext) (draft : MemoryDraft) :
    Consistent (write cfg s kind access draft) := by
  unfold MemoryController.write
  split
  · refine h.put ?_ rfl _ _
    exact (by decide : "normal" ≠ "temporary")
  · exact h

/-- The existing preferences are items of the store. -/
lemma findExisting_spec (cfg : MemoryConfig Score) {s : MemoryState Score}
    (h : Agrees s.manager.items s.recent) (access : MemoryAccessContext) :
    Agrees s.manager.items (findExistingPreferences cfg s access).2 ∧
      ∀ item ∈ (findExistingPreferences cfg s access).1,
        ∃ key, (key, item) ∈ s.manager.items := by
  unfold findExistingPreferences
  split
  · refine ⟨h.storeAll fun item hitem => ?_, fun item hitem => ?_⟩
    · exact mem_of_mem_getRecentContext (List.mem_of_mem_filter hitem)
    · exact mem_of_mem_getRecentContext (List.mem_of_mem_filter hitem)
  · refine ⟨h, fun item hitem => ?_⟩
    obtain ⟨⟨key, value⟩, hmem, hvalue⟩ := List.mem_filterMap.mp (List.mem_of_mem_filter hitem)
    have hget := Dict.get?_of_mem h.nodupRecent hmem
    rw [show value = some item from hvalue] at hget
    exact ⟨key, Dict.mem_of_get? (h.agree key item hget)⟩

lemma resolve_cases (cfg : MemoryConfig Score) (existing : List MemoryItem)
    (access : MemoryAccessContext) (draft : MemoryDraft) :
    ((resolve cfg existing access draft).2 = true ∧
        (resolve cfg existing access draft).1.retentionPolicy = "normal") ∨
      ((resolve cfg existing access draft).2 = false ∧ ∃ best ∈ existing, ∃ relation,
        (resolve cfg existing access draft).1 = revise best draft relation) := by
  unfold resolve
  generalize hfound : (cfg.classify draft.content existing).bind _ = found
  split
  · exact .inl ⟨rfl, rfl⟩
  · exact .inl ⟨rfl, rfl⟩
  · rename_i best relation _ _
    obtain ⟨⟨i, relation'⟩, -, hsome⟩ := Option.bind_eq_some_iff.mp hfound
    obtain ⟨item, hitem, heq⟩ := Option.map_eq_some_iff.mp hsome
    obtain ⟨rfl, rfl⟩ := Prod.mk.inj heq
    exact .inr ⟨rfl, item, List.mem_of_getElem? hitem, _, rfl⟩
  · exact .inl ⟨rfl, rfl⟩

lemma Consistent.writePreference {s : MemoryState Score} (h : Consistent s)
    (access : MemoryAccessContext) (draft : MemoryDraft) :
    Consistent (writePreference cfg s access draft) := by
  unfold MemoryController.writePreference
  split
  · obtain ⟨hagrees, hexisting⟩ := findExisting_spec cfg h.agrees access
    have hfound : Consistent { s with recent := (findExistingPreferences cfg s access).2 } :=
      ⟨hagrees, h.lasting⟩
    have hcases := resolve_cases cfg (findExistingPreferences cfg s access).1 access draft
    dsimp only
    split
    · rename_i item hresolve
      rw [hresolve] at hcases
      rcases hcases with ⟨-, hnormal⟩ | ⟨hfalse, -⟩
      · refine hfound.put ?_ rfl _ _
        rw [show item.retentionPolicy = "normal" from hnormal]
        decide
      · cases hfalse
    · rename_i item hresolve
      rw [hresolve] at hcases
      rcases hcases with ⟨htrue, -⟩ | ⟨-, best, hbest, relation, heq⟩
      · cases htrue
      · obtain ⟨key, hkey⟩ := hexisting best hbest
        have hlasting : item.retentionPolicy ≠ "temporary" := by
          rw [show item = revise best draft relation from heq]
          exact h.lasting key best hkey
        refine hfound.put hlasting ?_ _ _
        rw [MemoryManager.updateInPlace_eq _ hlasting]
        rfl
  · exact h

lemma items_deleteAll_sublist (s : MemoryState Score) :
    List.Sublist (deleteAll s).manager.items s.manager.items := by
  have hsub : ∀ (rows items : Dict String MemoryItem),
      (rows.foldl (fun items row => Dict.erase items row.1) items).Sublist items := by
    intro rows
    induction rows with
    | nil => exact fun items => List.Sublist.refl _
    | cons row rest ih => exact fun items => (ih _).trans List.filter_sublist
  exact hsub s.manager.rows s.manager.items

lemma agrees_deleteAll {s : MemoryState Score} (h : Agrees s.manager.items s.recent) :
    Agrees (deleteAll s).manager.items (deleteAll s).recent := by
  have hitems := items_deleteAll_sublist s
  refine ⟨fun key item hmem => h.keyed key item (hitems.subset hmem),
    h.nodup.sublist (hitems.map Prod.fst), List.nodup_nil, fun key item hget => ?_⟩
  cases hget

lemma Consistent.deleteAll {s : MemoryState Score} (h : Consistent s) :
    Consistent (deleteAll s) where
  agrees := agrees_deleteAll h.agrees
  lasting key item hmem := h.lasting key item ((items_deleteAll_sublist s).subset hmem)

/-- Every move leaves the controller consistent. -/
theorem consistent_after [LinearOrder Score] {s : MemoryState Score} (h : Consistent s)
    (move : MemoryMove) : Consistent (after cfg s move) := by
  cases move with
  | write kind access draft => exact h.write kind access draft
  | writePreference access draft => exact h.writePreference access draft
  | storeDocument record => exact ⟨h.agrees, h.lasting⟩
  | setKnowledge entityType entities => exact ⟨h.agrees, h.lasting⟩
  | deleteMemory id access =>
      show Consistent (deleteMemory cfg s id access)
      unfold deleteMemory
      split
      · split
        · exact h.lifecycleDelete id
        · exact h
      · exact h
  | deleteByType memoryType =>
      exact List.foldlRecOn _ _ h fun s hs item _ => hs.lifecycleDelete item.id
  | expireOldMemories now =>
      exact List.foldlRecOn _ _ h fun s hs item _ => hs.remove item.id
  | deleteAll => exact h.deleteAll
  | clearCache =>
      exact ⟨⟨h.agrees.keyed, h.agrees.nodup, List.nodup_nil, fun key item hget => by cases hget⟩,
        h.lasting⟩
  | retrieve now call =>
      show Consistent (retrieve cfg s now call).2
      unfold retrieve
      split
      · exact h
      · exact ⟨(candidates_spec h.agrees call).1, h.lasting⟩
  | retrieveRecent access n => exact h
  | retrieveSemantic access query topK => exact h

/-! ## Cached results -/

lemma retrievals_after [LinearOrder Score] (cfg : MemoryConfig Score) (s : MemoryState Score)
    {move : MemoryMove}
    (hmove : ∀ now call, move ≠ .retrieve now call) :
    (after cfg s move).retrievals = s.retrievals ∨ (after cfg s move).retrievals = [] := by
  have hdelete : ∀ (s : MemoryState Score) (id : String),
      (lifecycleDelete cfg s id).retrievals = s.retrievals := by
    intro s id
    unfold lifecycleDelete
    split <;> rfl
  cases move with
  | write kind access draft =>
      simp only [after, write]
      split
      · exact .inr rfl
      · exact .inl rfl
  | writePreference access draft =>
      simp only [after, writePreference]
      split
      · split <;> exact .inr rfl
      · exact .inl rfl
  | deleteMemory id access =>
      simp only [after, deleteMemory]
      split
      · split
        · exact .inl (hdelete s id)
        · exact .inl rfl
      · exact .inl rfl
  | deleteByType memoryType =>
      simp only [after, deleteByType]
      exact .inl (List.foldlRecOn (motive := fun t : MemoryState Score =>
        t.retrievals = s.retrievals) _ _ rfl fun t ht item _ => (hdelete t item.id).trans ht)
  | expireOldMemories now =>
      simp only [after, expireOldMemories]
      exact .inl (List.foldlRecOn (motive := fun t : MemoryState Score =>
        t.retrievals = s.retrievals) _ _ rfl fun t ht item _ => ht)
  | retrieve now call => exact absurd rfl (hmove now call)
  | deleteAll => exact .inr rfl
  | clearCache => exact .inr rfl
  | storeDocument record => exact .inl rfl
  | setKnowledge entityType entities => exact .inl rfl
  | retrieveRecent access n => exact .inl rfl
  | retrieveSemantic access query topK => exact .inl rfl

end MemoryController

end Samaktha
