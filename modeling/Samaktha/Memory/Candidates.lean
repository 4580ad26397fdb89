import Samaktha.Memory.Controller

/-!
# What a retrieval returns

While the recent cache agrees with the store (`Agrees`), every stage of a retrieval leaves it so,
and every candidate is an item of the store, a document or a personal entity that is eligible
under the context of the call: also a semantic hit, which is scored as an eligible item of the
store and then read from the recent cache by its id (`candidate_of_mem_compute`).
-/

namespace Samaktha

namespace MemoryRetriever

open SecurityManager ContextMemoryStore

variable {Score : Type} {cfg : MemoryConfig Score} {manager : MemoryManager}
  {access : MemoryAccessContext}

/-! ## The recent cache and the store -/

/-- The store has each item under its id, and the recent cache holds no other item under it. -/
structure Agrees (items : Dict String MemoryItem) (recent : RecentCache) : Prop where
  keyed : ∀ key item, (key, item) ∈ items → item.id = key
  nodup : Dict.NodupKeys items
  nodupRecent : Dict.NodupKeys recent
  agree : ∀ key item, Dict.get? recent key = some (some item) → Dict.get? items key = some item

variable {recent : RecentCache}

lemma Agrees.get?_id (h : Agrees manager.items recent) {key : String} {item : MemoryItem}
    (hmem : (key, item) ∈ manager.items) : Dict.get? manager.items item.id = some item := by
  rw [h.keyed key item hmem]
  exact Dict.get?_of_mem h.nodup hmem

lemma Agrees.storeRecent (h : Agrees manager.items recent) {id : String} {value : Option MemoryItem}
    (hvalue : ∀ item, value = some item → Dict.get? manager.items id = some item) :
    Agrees manager.items (storeRecent cfg recent id value) := by
  refine ⟨h.keyed, h.nodup, h.nodupRecent.setBounded _ _ _, fun key item hget => ?_⟩
  rcases Dict.get?_setBounded h.nodupRecent hget with ⟨rfl, heq⟩ | hold
  · exact hvalue item heq.symm
  · exact h.agree key item hold

lemma Agrees.storeAll (h : Agrees manager.items recent) {items : List MemoryItem}
    (hitems : ∀ item ∈ items, ∃ key, (key, item) ∈ manager.items) :
    Agrees manager.items (storeAll cfg recent items) := by
  induction items generalizing recent with
  | nil => exact h
  | cons item rest ih =>
      obtain ⟨key, hkey⟩ := hitems item List.mem_cons_self
      have hone : Agrees manager.items
          (MemoryRetriever.storeRecent cfg recent item.id (some item)) := by
        refine h.storeRecent fun stored hstored => ?_
        obtain rfl := Option.some.inj hstored
        exact h.get?_id hkey
      exact ih hone fun other hother => hitems other (List.mem_cons_of_mem _ hother)

/-! ## Stages -/

lemma mem_browseOrder {items : List MemoryItem} {item : MemoryItem} :
    item ∈ browseOrder cfg items ↔ item ∈ items := by
  rw [browseOrder, List.mem_insertionSort, List.mem_insertionSort]

lemma agrees_retrieveRecent (h : Agrees manager.items recent) :
    Agrees manager.items (retrieveRecent cfg manager recent).2 := by
  unfold retrieveRecent
  split
  · refine h.storeAll fun item hitem => ?_
    exact mem_of_mem_getRecentContext (mem_browseOrder.mp hitem)
  · exact h

/-- A step of materializing hits adds at most the item that the store has under the id. -/
lemma materialize_spec (cfg : MemoryConfig Score) (h : Agrees manager.items recent)
    (found : List MemoryItem) (hit : String × Score) :
    Agrees manager.items (materialize cfg manager (found, recent) hit).2 ∧
      ∀ item ∈ (materialize cfg manager (found, recent) hit).1,
        item ∈ found ∨ Dict.get? manager.items hit.1 = some item := by
  unfold materialize
  dsimp only
  split
  · rename_i item hitem
    refine ⟨h, fun other hother => ?_⟩
    rcases List.mem_append.mp hother with hother | hother
    · exact .inl hother
    · obtain rfl := List.mem_singleton.mp hother
      exact .inr (h.agree _ _ (Option.join_eq_some_iff.mp hitem))
  · split
    · rename_i item hitem
      refine ⟨h.storeRecent fun stored hstored => ?_, fun other hother => ?_⟩
      · obtain rfl := Option.some.inj hstored
        exact hitem
      · rcases List.mem_append.mp hother with hother | hother
        · exact .inl hother
        · obtain rfl := List.mem_singleton.mp hother
          exact .inr hitem
    · exact ⟨h, fun other hother => .inl hother⟩

lemma foldl_materialize (cfg : MemoryConfig Score) (hits : List (String × Score))
    (found : List MemoryItem) (h : Agrees manager.items recent) :
    Agrees manager.items (hits.foldl (materialize cfg manager) (found, recent)).2 ∧
      ∀ item ∈ (hits.foldl (materialize cfg manager) (found, recent)).1,
        item ∈ found ∨ ∃ hit ∈ hits, Dict.get? manager.items hit.1 = some item := by
  induction hits generalizing found recent with
  | nil => exact ⟨h, fun item hitem => .inl hitem⟩
  | cons hit rest ih =>
      obtain ⟨hagrees, hstep⟩ := materialize_spec cfg h found hit
      obtain ⟨hrest, hmem⟩ := ih (materialize cfg manager (found, recent) hit).1 hagrees
      refine ⟨hrest, fun item hitem => ?_⟩
      rcases hmem item hitem with hitem | ⟨other, hother, hget⟩
      · refine (hstep item hitem).imp_right fun hget => ?_
        exact ⟨hit, List.mem_cons_self, hget⟩
      · exact .inr ⟨other, List.mem_cons_of_mem _ hother, hget⟩

lemma exists_of_mem_semanticSearch [LinearOrder Score] {query : String}
    {items : List MemoryItem} {topK : ℕ} {hit : String × Score}
    (h : hit ∈ semanticSearch cfg query items topK) :
    ∃ item ∈ items, item.id = hit.1 := by
  have hmem := (List.mem_insertionSort _).mp (List.mem_of_mem_take h)
  obtain ⟨item, hitem, hsome⟩ := List.mem_filterMap.mp hmem
  obtain ⟨score, -, rfl⟩ := Option.map_eq_some_iff.mp hsome
  exact ⟨item, hitem, rfl⟩

def Stored (manager : MemoryManager) (item : MemoryItem) : Prop :=
  ∃ key, (key, item) ∈ manager.items

/-- Where the items of a manager can come from: the store, a document, a personal entity. -/
inductive Known (manager : MemoryManager) (item : MemoryItem) : Prop where
  | stored (h : Stored manager item)
  | document (record : DocumentRecord) (h : record ∈ manager.listDocuments)
      (hitem : item = documentItem record)
  | entity (query : String) (h : item ∈ retrievePersonalKnowledge manager query)

/-- What a retrieval may return under a context. -/
structure Candidate (cfg : MemoryConfig Score) (manager : MemoryManager)
    (access : MemoryAccessContext) (item : MemoryItem) : Prop where
  eligible : eligible cfg.accessRules access item = true
  known : Known manager item

lemma candidate_of_mem_eligibleItems {items : List MemoryItem} {item : MemoryItem}
    (h : item ∈ eligibleItems cfg access items) (hknown : ∀ other ∈ items, Known manager other) :
    Candidate cfg manager access item := by
  obtain ⟨hmem, heligible⟩ := List.mem_filter.mp h
  exact ⟨heligible, hknown item hmem⟩

lemma known_of_mem_getRecentContext {n : ℕ} {allowPrivate : Bool} :
    ∀ item ∈ getRecentContext manager.items n allowPrivate, Known manager item :=
  fun _ hitem => .stored (mem_of_mem_getRecentContext hitem)

lemma Agrees.candidate_of_hit [LinearOrder Score] (h : Agrees manager.items recent)
    {query : String} {n topK : ℕ} {hit : String × Score} {item : MemoryItem}
    (hhit : hit ∈ semanticSearch cfg query
      (eligibleItems cfg access (getRecentContext manager.items n true)) topK)
    (hget : Dict.get? manager.items hit.1 = some item) :
    Candidate cfg manager access item := by
  obtain ⟨scored, hscored, hid⟩ := exists_of_mem_semanticSearch hhit
  obtain ⟨key, hkey⟩ := mem_of_mem_getRecentContext (List.mem_of_mem_filter hscored)
  have hsame := h.get?_id hkey
  rw [hid, hget] at hsame
  obtain rfl := Option.some.inj hsame
  exact candidate_of_mem_eligibleItems hscored known_of_mem_getRecentContext

lemma Agrees.get?_of_cached (h : Agrees manager.items recent) {key : String} {item : MemoryItem}
    (hmem : (key, some item) ∈ recent) : Dict.get? manager.items key = some item :=
  h.agree key item (Dict.get?_of_mem h.nodupRecent hmem)

lemma mem_of_mem_lastOf {α : Type} {k : ℕ} {items : List α} {item : α} (h : item ∈ lastOf k items) :
    item ∈ items := by
  unfold lastOf at h
  split at h
  · exact h
  · exact List.mem_of_mem_drop h

lemma stored_of_mem_retrieveRecent (h : Agrees manager.items recent) :
    ∀ item ∈ (retrieveRecent cfg manager recent).1, Stored manager item := by
  intro item hitem
  unfold retrieveRecent at hitem
  split at hitem
  · exact mem_of_mem_getRecentContext (mem_browseOrder.mp hitem)
  · have hlast : item ∈ cachedMemories recent := mem_of_mem_lastOf (mem_browseOrder.mp hitem)
    obtain ⟨⟨key, value⟩, hmem, hvalue⟩ := List.mem_filterMap.mp hlast
    obtain rfl : value = some item := hvalue
    exact ⟨key, Dict.mem_of_get? (h.get?_of_cached hmem)⟩

lemma mem_mergeNew {candidates items : List MemoryItem} {item : MemoryItem}
    (h : item ∈ mergeNew candidates items) : item ∈ candidates ∨ item ∈ items := by
  induction items generalizing candidates with
  | nil => exact .inl h
  | cons first rest ih =>
      rcases ih h with hold | hrest
      · dsimp only at hold
        split at hold
        · exact .inl hold
        · refine (List.mem_append.mp hold).imp_right fun hfirst => ?_
          exact List.mem_singleton.mp hfirst ▸ List.mem_cons_self
      · exact .inr (List.mem_cons_of_mem _ hrest)

lemma candidate_of_mem_retrieveDocuments {query : String} {item : MemoryItem}
    (h : item ∈ retrieveDocuments cfg manager query access) :
    Candidate cfg manager access item := by
  unfold retrieveDocuments at h
  dsimp only at h
  have hwrapped : item ∈ eligibleItems cfg access (manager.listDocuments.map documentItem) := by
    have hmem := List.mem_of_mem_take h
    split at hmem
    · exact hmem
    · exact List.mem_of_mem_filter hmem
  refine candidate_of_mem_eligibleItems hwrapped fun other hother => ?_
  obtain ⟨record, hrecord, rfl⟩ := List.mem_map.mp hother
  exact .document record hrecord rfl

/-! ## Candidates -/

/-- Every candidate is known and eligible, and the recent cache still agrees with the store. -/
lemma candidates_spec [LinearOrder Score] (h : Agrees manager.items recent) (call : RetrieveCall) :
    Agrees manager.items (candidates cfg manager recent call).2 ∧
      ∀ item ∈ (candidates cfg manager recent call).1.1,
        Candidate cfg manager call.access item := by
  unfold candidates
  dsimp only
  generalize hfirst : (if call.flags.recent then _ else _ : List MemoryItem × RecentCache) = first
  have hfirstSpec : Agrees manager.items first.2 ∧
      ∀ item ∈ first.1, Candidate cfg manager call.access item := by
    subst hfirst
    split
    · refine ⟨agrees_retrieveRecent h, fun item hitem => ?_⟩
      exact candidate_of_mem_eligibleItems hitem fun other hother =>
        .stored (stored_of_mem_retrieveRecent h other hother)
    · exact ⟨h, fun item hitem => (by cases hitem)⟩
  generalize hsecond : (if call.flags.semantic then _ else _ :
    (List MemoryItem × Dict String Score) × RecentCache) = second
  have hsecondSpec : Agrees manager.items second.2 ∧
      ∀ item ∈ second.1.1, Candidate cfg manager call.access item := by
    subst hsecond
    split
    · obtain ⟨hagrees, hfound⟩ := foldl_materialize cfg (semanticSearch cfg call.query
        (eligibleItems cfg call.access (getRecentContext manager.items 100000 true))
        cfg.topKSemantic) [] hfirstSpec.1
      refine ⟨hagrees, fun item hitem => ?_⟩
      rcases mem_mergeNew hitem with hitem | hitem
      · exact hfirstSpec.2 item hitem
      · rcases hfound item hitem with hnone | ⟨hit, hhit, hget⟩
        · cases hnone
        · exact h.candidate_of_hit hhit hget
    · exact hfirstSpec
  generalize hthird : (if call.flags.preferences then _ else _ :
    List MemoryItem × RecentCache) = third
  have hthirdSpec : Agrees manager.items third.2 ∧
      ∀ item ∈ third.1, Candidate cfg manager call.access item := by
    subst hthird
    split
    · refine ⟨hsecondSpec.1.storeAll fun item hitem => mem_of_mem_getByType hitem,
        fun item hitem => ?_⟩
      rcases mem_mergeNew hitem with hitem | hitem
      · exact hsecondSpec.2 item hitem
      · refine candidate_of_mem_eligibleItems hitem fun other hother => ?_
        exact .stored (mem_of_mem_getByType hother)
    · exact hsecondSpec
  refine ⟨hthirdSpec.1, ?_⟩
  generalize hfourth : (if call.flags.documents then _ else _ : List MemoryItem) = fourth
  have hfourthSpec : ∀ item ∈ fourth, Candidate cfg manager call.access item := by
    subst hfourth
    intro item hitem
    split at hitem
    · rcases mem_mergeNew hitem with hitem | hitem
      · exact hthirdSpec.2 item hitem
      · exact candidate_of_mem_retrieveDocuments hitem
    · exact hthirdSpec.2 item hitem
  intro item hitem
  split at hitem
  · rcases mem_mergeNew hitem with hitem | hitem
    · exact hfourthSpec item hitem
    · exact candidate_of_mem_eligibleItems hitem fun other hother => .entity call.query hother
  · exact hfourthSpec item hitem

/-! ## Results -/

lemma mem_of_mem_rank [LinearOrder Score] {now : ℤ} {items : List MemoryItem}
    {scores : Dict String Score} {entry : MemoryItem × Score}
    (h : entry ∈ rank cfg now items scores) : entry.1 ∈ items := by
  obtain ⟨item, hitem, rfl⟩ := List.mem_map.mp ((List.mem_insertionSort _).mp h)
  exact hitem

lemma mem_of_mem_deduplicate {ranked : List (MemoryItem × Score)} {entry : MemoryItem × Score}
    (h : entry ∈ deduplicate ranked) : entry ∈ ranked := by
  have hfold : ∀ (ranked kept : List (MemoryItem × Score)), entry ∈ ranked.foldl
      (fun kept e => if e.1.id ∈ kept.map fun k => k.1.id then kept else kept ++ [e]) kept →
      entry ∈ kept ∨ entry ∈ ranked := by
    intro ranked
    induction ranked with
    | nil => exact fun kept h => .inl h
    | cons first rest ih =>
        intro kept h
        rcases ih _ h with hold | hrest
        · dsimp only at hold
          split at hold
          · exact .inl hold
          · refine (List.mem_append.mp hold).imp_right fun hfirst => ?_
            exact List.mem_singleton.mp hfirst ▸ List.mem_cons_self
        · exact .inr (List.mem_cons_of_mem _ hrest)
  exact (hfold ranked [] h).resolve_left (List.not_mem_nil)

lemma mem_of_mem_sliceTo {α : Type} {k : ℤ} {items : List α} {item : α}
    (h : item ∈ sliceTo k items) : item ∈ items := by
  unfold sliceTo at h
  split at h <;> exact List.mem_of_mem_take h

/-- What is computed for a call is known, and eligible under its context. -/
theorem candidate_of_mem_compute [LinearOrder Score] (h : Agrees manager.items recent) {now : ℤ}
    {call : RetrieveCall} {entry : MemoryItem × Score}
    (hentry : entry ∈ (compute cfg manager now recent call).1) :
    Candidate cfg manager call.access entry.1 :=
  (candidates_spec h call).2 _
    (mem_of_mem_rank (mem_of_mem_deduplicate (mem_of_mem_sliceTo hentry)))

/-- What `retrieve_recent` returns is stored and eligible. -/
theorem stored_of_mem_retrieveRecentOnly {n : ℕ} {item : MemoryItem}
    (hitem : item ∈ retrieveRecentOnly cfg manager access n) :
    Stored manager item ∧ eligible cfg.accessRules access item = true := by
  obtain ⟨hmem, heligible⟩ := List.mem_filter.mp (List.mem_of_mem_take hitem)
  exact ⟨mem_of_mem_getRecentContext hmem, heligible⟩

/-- What `retrieve_semantic` returns is stored and eligible. -/
theorem stored_of_mem_retrieveSemanticOnly [LinearOrder Score] (h : Agrees manager.items recent)
    {query : String} {topK : ℕ} {item : MemoryItem}
    (hitem : item ∈ retrieveSemanticOnly cfg manager recent access query topK) :
    Stored manager item ∧ eligible cfg.accessRules access item = true := by
  obtain ⟨hit, hhit, hsome⟩ := List.mem_filterMap.mp hitem
  have hget : Dict.get? manager.items hit.1 = some item := by
    split at hsome
    · rename_i stored hstored
      obtain rfl := Option.some.inj hsome
      exact h.agree _ _ (Option.join_eq_some_iff.mp hstored)
    · exact hsome
  exact ⟨⟨hit.1, Dict.mem_of_get? hget⟩, (h.candidate_of_hit hhit hget).eligible⟩

end MemoryRetriever

end Samaktha
