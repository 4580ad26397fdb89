import Samaktha.Memory.Consistency

/-!
# Forgotten memories

A removal takes an item from the store and its row from the repository, and marks it in the
recent cache; so what is computed after it does not return it, and neither does a manager rebuilt
from the repository (`Forgets`).  The retrieval cache is only cleared by the writes, by
`delete_all` and by hand: a result that was cached before a removal is served after it, with the
memory that was removed (`forgetting_fails`).  So a run is watched: for every entry of the cache it
is noted what the call that filled it had in sight.
-/

namespace Samaktha

namespace MemoryController

open SecurityManager ContextMemoryStore MemoryRetriever

variable {Score : Type} {cfg : MemoryConfig Score}

/-! ## The invariant -/

/-- No forgotten id has an item in the store or a row in the repository. -/
structure Forgets (s : MemoryState Score) : Prop where
  consistent : Consistent s
  keyedRows : ∀ key item, (key, item) ∈ s.manager.rows → item.id = key
  nodupRows : Dict.NodupKeys s.manager.rows
  items : ∀ id ∈ s.forgotten, Dict.get? s.manager.items id = none
  rows : ∀ id ∈ s.forgotten, Dict.get? s.manager.rows id = none

lemma forgets_init : Forgets ({} : MemoryState Score) where
  consistent := consistent_init
  keyedRows key item hmem := by cases hmem
  nodupRows := List.nodup_nil
  items id hid := by cases hid
  rows id hid := by cases hid

lemma Forgets.stored {s : MemoryState Score} (h : Forgets s) {item : MemoryItem}
    (hitem : Stored s.manager item) : item.id ∉ s.forgotten := by
  obtain ⟨key, hmem⟩ := hitem
  intro hid
  have hget := h.consistent.agrees.get?_id hmem
  rw [h.items item.id hid] at hget
  cases hget

lemma Forgets.rebuilt {s : MemoryState Score} (h : Forgets s) {item : MemoryItem}
    (hitem : Stored s.manager.rebuilt item) : item.id ∉ s.forgotten := by
  obtain ⟨key, hmem⟩ := hitem
  have hget := Dict.get?_of_mem (Dict.nodupKeys_ofList _) hmem
  obtain ⟨⟨rowKey, row⟩, hrow, heq⟩ := List.mem_map.mp (Dict.mem_of_get?_ofList hget)
  obtain rfl : row = item := (Prod.mk.inj heq).2
  intro hid
  have hkey := h.keyedRows rowKey row hrow
  have hnone := h.rows row.id hid
  rw [hkey, Dict.get?_of_mem h.nodupRows hrow] at hnone
  cases hnone

lemma get?_set_of_mem_filter {ids : List String} {d : Dict String MemoryItem} {item : MemoryItem}
    (h : ∀ id ∈ ids, Dict.get? d id = none) :
    ∀ id ∈ ids.filter (· ≠ item.id), Dict.get? (Dict.set d item.id item) id = none := by
  intro id hid
  obtain ⟨hmem, hne⟩ := List.mem_filter.mp hid
  rw [Dict.get?_set_of_ne fun heq => (of_decide_eq_true hne) heq.symm]
  exact h id hmem

lemma keyed_set {d : Dict String MemoryItem} (hd : d.NodupKeys) {item : MemoryItem}
    (h : ∀ key stored, (key, stored) ∈ d → stored.id = key) :
    ∀ key stored, (key, stored) ∈ Dict.set d item.id item → stored.id = key := by
  intro key stored hmem
  have hget := Dict.get?_of_mem (hd.set item.id item) hmem
  rw [Dict.get?_set] at hget
  split at hget
  · rename_i hkey
    rw [← Option.some.inj hget, hkey]
  · exact h key stored (Dict.mem_of_get? hget)

/-! ## Writes -/

lemma Forgets.storeNew {s : MemoryState Score} (h : Forgets s) {item : MemoryItem}
    (hlasting : item.retentionPolicy ≠ "temporary") : Forgets (storeNew cfg s item) where
  consistent := h.consistent.put hlasting rfl _ _
  keyedRows := keyed_set h.nodupRows h.keyedRows
  nodupRows := h.nodupRows.set _ _
  items := by
    show ∀ id ∈ s.forgotten.filter (· ≠ item.id),
      Dict.get? (saveContext s.manager.items item) id = none
    rw [saveContext, if_neg hlasting]
    exact get?_set_of_mem_filter h.items
  rows := get?_set_of_mem_filter h.rows

lemma Forgets.update {s : MemoryState Score} (h : Forgets s) {item : MemoryItem}
    (hlasting : item.retentionPolicy ≠ "temporary") :
    Forgets ({ s with
      manager := s.manager.updateMemory item
      recent := storeRecent cfg s.recent item.id (some item)
      retrievals := []
      forgotten := s.forgotten.filter (· ≠ item.id) } : MemoryState Score) where
  consistent := h.consistent.put hlasting rfl _ _
  keyedRows := h.keyedRows
  nodupRows := h.nodupRows
  items := by
    show ∀ id ∈ s.forgotten.filter (· ≠ item.id),
      Dict.get? (saveContext s.manager.items item) id = none
    rw [saveContext, if_neg hlasting]
    exact get?_set_of_mem_filter h.items
  rows id hid := h.rows id (List.mem_of_mem_filter hid)

lemma Forgets.withRecent {s : MemoryState Score} (h : Forgets s) {recent : RecentCache}
    (hrecent : Agrees s.manager.items recent) : Forgets { s with recent := recent } where
  consistent := ⟨hrecent, h.consistent.lasting⟩
  keyedRows := h.keyedRows
  nodupRows := h.nodupRows
  items := h.items
  rows := h.rows

lemma Forgets.writePreference {s : MemoryState Score} (h : Forgets s)
    (access : MemoryAccessContext) (draft : MemoryDraft) :
    Forgets (writePreference cfg s access draft) := by
  unfold MemoryController.writePreference
  split
  · obtain ⟨hagrees, hexisting⟩ := findExisting_spec cfg h.consistent.agrees access
    have hfound := h.withRecent hagrees
    have hcases := resolve_cases cfg (findExistingPreferences cfg s access).1 access draft
    dsimp only
    split
    · rename_i item heq
      rw [heq] at hcases
      rcases hcases with ⟨-, hpolicy⟩ | ⟨hfalse, -⟩
      · exact hfound.storeNew (by rw [show item.retentionPolicy = "normal" from hpolicy]; decide)
      · cases hfalse
    · rename_i item heq
      rw [heq] at hcases
      rcases hcases with ⟨htrue, -⟩ | ⟨-, best, hbest, relation, hrevised⟩
      · cases htrue
      · obtain ⟨key, hkey⟩ := hexisting best hbest
        have hlasting : item.retentionPolicy ≠ "temporary" := by
          rw [show item = revise best draft relation from hrevised]
          exact h.consistent.lasting key best hkey
        rw [MemoryManager.updateInPlace_eq _ hlasting]
        exact hfound.update hlasting
  · exact h

/-! ## Removals -/

lemma get?_erase_of_mem_insert {ids : List String} {d : Dict String MemoryItem}
    (h : ∀ old ∈ ids, Dict.get? d old = none) (id : String) :
    ∀ old ∈ ids.insert id, Dict.get? (Dict.erase d id) old = none := by
  intro old hold
  rw [Dict.get?_erase]
  split
  · rfl
  · rename_i hne
    rcases List.mem_insert_iff.mp hold with heq | hmem
    · exact absurd heq.symm hne
    · exact h old hmem

lemma Forgets.remove {s : MemoryState Score} (h : Forgets s) (id : String) :
    Forgets (remove cfg s id) where
  consistent := h.consistent.remove id
  keyedRows key item hmem := h.keyedRows key item (List.mem_of_mem_filter hmem)
  nodupRows := h.nodupRows.erase id
  items := get?_erase_of_mem_insert h.items id
  rows := get?_erase_of_mem_insert h.rows id

lemma Forgets.lifecycleDelete {s : MemoryState Score} (h : Forgets s) (id : String) :
    Forgets (lifecycleDelete cfg s id) := by
  unfold MemoryController.lifecycleDelete
  split
  · exact h.remove id
  · exact h

lemma get?_foldl_erase (rows d : Dict String MemoryItem) (id : String) :
    Dict.get? (rows.foldl (fun d row => Dict.erase d row.1) d) id =
      if id ∈ Dict.keys rows then none else Dict.get? d id := by
  induction rows generalizing d with
  | nil => exact (if_neg List.not_mem_nil).symm
  | cons row rest ih =>
      rw [List.foldl_cons, ih, Dict.get?_erase]
      show _ = if id ∈ row.1 :: Dict.keys rest then none else Dict.get? d id
      by_cases hrest : id ∈ Dict.keys rest
      · rw [if_pos hrest, if_pos (List.mem_cons_of_mem _ hrest)]
      · rw [if_neg hrest]
        by_cases hrow : row.1 = id
        · rw [if_pos hrow, if_pos (hrow ▸ List.mem_cons_self)]
        · rw [if_neg hrow, if_neg]
          intro hmem
          rcases List.mem_cons.mp hmem with heq | htail
          · exact hrow heq.symm
          · exact hrest htail

lemma get?_deleteAll_of_mem {s : MemoryState Score}
    (h : ∀ id ∈ s.forgotten, Dict.get? s.manager.items id = none) :
    ∀ id ∈ (deleteAll s).forgotten, Dict.get? (deleteAll s).manager.items id = none := by
  intro id hid
  show Dict.get? (s.manager.rows.foldl (fun d row => Dict.erase d row.1) s.manager.items) id = none
  rw [get?_foldl_erase]
  split
  · rfl
  · rename_i hkeys
    rcases List.mem_append.mp hid with hold | hnew
    · exact h id hold
    · exact absurd hnew hkeys

lemma Forgets.deleteAll {s : MemoryState Score} (h : Forgets s) : Forgets (deleteAll s) where
  consistent := h.consistent.deleteAll
  keyedRows key item hmem := by cases hmem
  nodupRows := List.nodup_nil
  items := get?_deleteAll_of_mem h.items
  rows id hid := rfl

/-! ## Every move -/

/-- Every move keeps the forgotten ids out of the store and of the repository. -/
theorem Forgets.after [LinearOrder Score] {s : MemoryState Score} (h : Forgets s)
    (move : MemoryMove) : Forgets (after cfg s move) := by
  cases move with
  | write kind access draft =>
      show Forgets (write cfg s kind access draft)
      unfold write
      split
      · exact h.storeNew (by decide : "normal" ≠ "temporary")
      · exact h
  | writePreference access draft => exact h.writePreference access draft
  | deleteMemory id access =>
      show Forgets (deleteMemory cfg s id access)
      unfold deleteMemory
      split
      · split
        · exact h.lifecycleDelete id
        · exact h
      · exact h
  | deleteByType memoryType =>
      exact List.foldlRecOn _ _ h fun s hs item _ => hs.lifecycleDelete item.id
  | expireOldMemories now =>
      exact List.foldlRecOn _ _ h fun s hs item _ => hs.remove item.id
  | deleteAll => exact h.deleteAll
  | clearCache =>
      have hconsistent : Consistent (MemoryController.after cfg s .clearCache) :=
        consistent_after h.consistent .clearCache
      exact ⟨hconsistent, h.keyedRows, h.nodupRows, h.items, h.rows⟩
  | storeDocument record =>
      exact ⟨⟨h.consistent.agrees, h.consistent.lasting⟩, h.keyedRows, h.nodupRows, h.items, h.rows⟩
  | setKnowledge entityType entities =>
      exact ⟨⟨h.consistent.agrees, h.consistent.lasting⟩, h.keyedRows, h.nodupRows, h.items, h.rows⟩
  | retrieve now call =>
      show Forgets (retrieve cfg s now call).2
      unfold retrieve
      split
      · exact h
      · have hagrees : Agrees s.manager.items (candidates cfg s.manager s.recent call).2 :=
          (candidates_spec h.consistent.agrees call).1
        exact ⟨⟨hagrees, h.consistent.lasting⟩, h.keyedRows, h.nodupRows, h.items, h.rows⟩
  | retrieveRecent access n => exact h
  | retrieveSemantic access query topK => exact h

/-! ## Answers -/

variable [LinearOrder Score]

/-- What a move returns has no forgotten id. -/
def AnswersForget (cfg : MemoryConfig Score) (s : MemoryState Score) (move : MemoryMove) : Prop :=
  ∀ item ∈ answer cfg s move, item.id ∉ s.forgotten

/-- No document and no personal entity goes by a forgotten id. -/
def NoNamesake (s : MemoryState Score) : Prop :=
  (∀ record ∈ s.manager.listDocuments, record.documentId ∉ s.forgotten) ∧
    ∀ query, ∀ item ∈ retrievePersonalKnowledge s.manager query, item.id ∉ s.forgotten

/-- The ids that a retrieval under a context has in sight: of the stored memories, the documents and
the personal entities that its scope and clearance let it see. -/
def sight (cfg : MemoryConfig Score) (s : MemoryState Score) (access : MemoryAccessContext) :
    Set String :=
  {id | ∃ item, Candidate cfg s.manager access item ∧ item.id = id}

/-- What the retrieval that filled an entry of the cache had in sight when it did. -/
def noteSight (cfg : MemoryConfig Score) (sights : String → Set String) (s : MemoryState Score) :
    MemoryMove → String → Set String
  | .retrieve _ call =>
      match Dict.get? s.retrievals (cacheKey call) with
      | some _ => sights
      | none => Function.update sights (cacheKey call) (sight cfg s call.access)
  | _ => sights

/-- A retrieval that is served from the cache: nothing that was in sight when the entry was filled
has been removed since.  One that is computed: no document or personal entity goes by a removed
id. -/
def Unspoilt (w : MemoryState Score × (String → Set String)) : MemoryMove → Prop
  | .retrieve _ call =>
      match Dict.get? w.1.retrievals (cacheKey call) with
      | some _ => ∀ id ∈ w.1.forgotten, id ∉ w.2 (cacheKey call)
      | none => NoNamesake w.1
  | _ => True

omit [LinearOrder Score] in
lemma noNamesake_of_empty {s : MemoryState Score} (hdocuments : s.manager.documents = [])
    (hknowledge : s.manager.knowledge = []) : NoNamesake s := by
  constructor
  · intro record hrecord
    rw [MemoryManager.listDocuments, hdocuments] at hrecord
    cases hrecord
  · intro query item hitem
    obtain ⟨entityType, -, hmem⟩ := List.mem_flatMap.mp hitem
    obtain ⟨entity, hentity, -⟩ := List.mem_map.mp hmem
    rw [MemoryManager.searchPersonalKnowledge, hknowledge] at hentity
    cases hentity

omit [LinearOrder Score] in
lemma Forgets.sight {s : MemoryState Score} (h : Forgets s) (hnamesake : NoNamesake s)
    {access : MemoryAccessContext} {id : String} (hid : id ∈ sight cfg s access) :
    id ∉ s.forgotten := by
  obtain ⟨item, hitem, rfl⟩ := hid
  cases hitem.known with
  | stored hstored => exact h.stored hstored
  | document record hrecord hitem =>
      rw [hitem]
      exact hnamesake.1 record hrecord
  | entity query hmem => exact hnamesake.2 query item hmem

lemma Forgets.mem_sight {s : MemoryState Score} (h : Forgets s) {now : ℤ} {call : RetrieveCall}
    {entry : MemoryItem × Score}
    (hentry : entry ∈ (compute cfg s.manager now s.recent call).1) :
    entry.1.id ∈ MemoryController.sight cfg s call.access :=
  ⟨entry.1, candidate_of_mem_compute h.consistent.agrees hentry, rfl⟩

/-- The notes of what was in sight cover the cached results. -/
structure Covered (w : MemoryState Score × (String → Set String)) : Prop where
  forgets : Forgets w.1
  nodup : Dict.NodupKeys w.1.retrievals
  listed : ∀ key cached, Dict.get? w.1.retrievals key = some cached →
    ∀ entry ∈ cached.results, entry.1.id ∈ w.2 key

omit [LinearOrder Score] in
lemma covered_init : Covered (({} : MemoryState Score), fun _ => (∅ : Set String)) where
  forgets := forgets_init
  nodup := List.nodup_nil
  listed key cached hget := by cases hget

lemma Covered.answers {w : MemoryState Score × (String → Set String)} (h : Covered w)
    {move : MemoryMove} (hmove : Unspoilt w move) : AnswersForget cfg w.1 move := by
  intro item hitem
  cases move with
  | retrieve now call =>
      obtain ⟨entry, hentry, rfl⟩ := List.mem_map.mp hitem
      unfold retrieve at hentry
      simp only [Unspoilt] at hmove
      split at hentry
      · rename_i cached hget
        rw [hget] at hmove
        exact fun hgone => hmove _ hgone (h.listed _ cached hget entry hentry)
      · rename_i hget
        rw [hget] at hmove
        exact h.forgets.sight hmove (h.forgets.mem_sight hentry)
  | retrieveRecent access n => exact h.forgets.stored (stored_of_mem_retrieveRecentOnly hitem).1
  | retrieveSemantic access query topK =>
      exact h.forgets.stored
        (stored_of_mem_retrieveSemanticOnly h.forgets.consistent.agrees hitem).1
  | _ => cases hitem

omit [LinearOrder Score] in
lemma noteSight_of_ne {sights : String → Set String} {s : MemoryState Score} {move : MemoryMove}
    (hmove : ∀ now call, move ≠ .retrieve now call) : noteSight cfg sights s move = sights := by
  cases move with
  | retrieve now call => exact absurd rfl (hmove now call)
  | _ => rfl

lemma Covered.step {w w' : MemoryState Score × (String → Set String)} (h : Covered w)
    {move : MemoryMove} (hstep : ((machine cfg).watched (noteSight cfg)).step w move = some w') :
    Covered w' := by
  obtain rfl := Option.some.inj hstep
  refine ⟨h.forgets.after move, ?_, ?_⟩
  all_goals dsimp only
  all_goals by_cases hretrieve : ∀ now call, move ≠ .retrieve now call
  · rcases retrievals_after cfg w.1 hretrieve with hsame | hnone
    · rw [hsame]
      exact h.nodup
    · rw [hnone]
      exact List.nodup_nil
  · push Not at hretrieve
    obtain ⟨now, call, rfl⟩ := hretrieve
    show Dict.NodupKeys (retrieve cfg w.1 now call).2.retrievals
    unfold retrieve
    split
    · exact h.nodup
    · exact h.nodup.setBounded _ _ _
  · rw [noteSight_of_ne hretrieve]
    rcases retrievals_after cfg w.1 hretrieve with hsame | hnone
    · rw [hsame]
      exact h.listed
    · rw [hnone]
      intro key cached hget
      cases hget
  · push Not at hretrieve
    obtain ⟨now, call, rfl⟩ := hretrieve
    simp only [after, retrieve, noteSight]
    cases hget : Dict.get? w.1.retrievals (cacheKey call) with
    | some cached => exact h.listed
    | none =>
        intro key cached hcached entry hentry
        dsimp only at hcached ⊢
        rcases Dict.get?_setBounded h.nodup hcached with ⟨rfl, rfl⟩ | hold
        · rw [Function.update_self]
          exact h.forgets.mem_sight hentry
        · have hne : key ≠ cacheKey call := by
            rintro rfl
            rw [hget] at hold
            cases hold
          rw [Function.update_of_ne hne]
          exact h.listed key cached hold entry hentry

/-! ## Runs in which the caches are cleared -/

/-- Whether the retrieval cache may hold results from before a removal: the writes that are allowed
clear it, as does `delete_all`. -/
def dirtied (cfg : MemoryConfig Score) (dirty : Bool) : MemoryMove → Bool
  | .deleteMemory _ _ | .deleteByType _ | .expireOldMemories _ => true
  | .deleteAll | .clearCache => false
  | .write kind _ draft =>
      dirty && !(checkWriteAccess cfg.accessRules kind.value draft.securityLevel).allowed
  | .writePreference _ draft =>
      dirty && !(checkWriteAccess cfg.accessRules "preference" draft.securityLevel).allowed
  | _ => dirty

/-- No retrieval stands between a removal and the next time that the retrieval cache is cleared. -/
def ClearedFirst (cfg : MemoryConfig Score) : Bool → List MemoryMove → Prop
  | _, [] => True
  | dirty, move :: moves =>
      (dirty = true → ∀ now call, move ≠ .retrieve now call) ∧
        ClearedFirst cfg (dirtied cfg dirty move) moves

/-- Nothing that the cached results had in sight has been forgotten. -/
def Clean (w : MemoryState Score × (String → Set String)) : Prop :=
  ∀ key cached, Dict.get? w.1.retrievals key = some cached →
    ∀ id ∈ w.1.forgotten, id ∉ w.2 key

omit [LinearOrder Score] in
lemma clean_of_empty {w : MemoryState Score × (String → Set String)}
    (h : w.1.retrievals = []) : Clean w := by
  intro key cached hget
  rw [h] at hget
  cases hget

lemma forgotten_after (cfg : MemoryConfig Score) (s : MemoryState Score) {move : MemoryMove}
    (hmove : dirtied cfg false move = false) (hall : move ≠ .deleteAll) :
    (after cfg s move).forgotten ⊆ s.forgotten := by
  cases move with
  | write kind access draft =>
      simp only [after, write]
      split
      · exact List.filter_subset_self _
      · exact List.Subset.refl _
  | writePreference access draft =>
      simp only [after, writePreference]
      split
      · split <;> exact List.filter_subset_self _
      · exact List.Subset.refl _
  | retrieve now call =>
      simp only [after, retrieve]
      split <;> exact List.Subset.refl _
  | deleteAll => exact absurd rfl hall
  | deleteMemory id access => cases hmove
  | deleteByType memoryType => cases hmove
  | expireOldMemories now => cases hmove
  | _ => exact List.Subset.refl _

lemma retrievals_of_cleared {s : MemoryState Score} {move : MemoryMove}
    (hmove : dirtied cfg true move = false) : (after cfg s move).retrievals = [] := by
  cases move with
  | write kind access draft =>
      have hallowed : (checkWriteAccess cfg.accessRules kind.value draft.securityLevel).allowed =
          true := by
        simpa [dirtied] using hmove
      simp only [after, write, hallowed, if_true]
      rfl
  | writePreference access draft =>
      have hallowed : (checkWriteAccess cfg.accessRules "preference" draft.securityLevel).allowed =
          true := by
        simpa [dirtied] using hmove
      simp only [after, writePreference, hallowed, if_true]
      split <;> rfl
  | deleteAll => rfl
  | clearCache => rfl
  | _ => cases hmove

lemma Clean.after {w : MemoryState Score × (String → Set String)} (h : Clean w)
    (hcovered : Covered w) (hnamesake : NoNamesake w.1) {move : MemoryMove}
    (hmove : dirtied cfg false move = false) :
    Clean (after cfg w.1 move, noteSight cfg w.2 w.1 move) := by
  by_cases hall : move = .deleteAll
  · exact clean_of_empty (by rw [hall]; rfl)
  have hsub := forgotten_after cfg w.1 hmove hall
  by_cases hretrieve : ∀ now call, move ≠ .retrieve now call
  · rcases retrievals_after cfg w.1 hretrieve with hsame | hnone
    · intro key cached hget id hid
      rw [noteSight_of_ne hretrieve]
      exact h key cached (hsame ▸ hget) id (hsub hid)
    · exact clean_of_empty hnone
  · push Not at hretrieve
    obtain ⟨now, call, rfl⟩ := hretrieve
    simp only [Clean, MemoryController.after, retrieve, noteSight]
    cases hget : Dict.get? w.1.retrievals (cacheKey call) with
    | some cached => exact h
    | none =>
        intro key cached hcached id hid
        dsimp only at hcached hid ⊢
        rcases Dict.get?_setBounded hcovered.nodup hcached with ⟨rfl, -⟩ | hold
        · rw [Function.update_self]
          exact fun hsight => hcovered.forgets.sight hnamesake hsight hid
        · have hne : key ≠ cacheKey call := by
            rintro rfl
            rw [hget] at hold
            cases hold
          rw [Function.update_of_ne hne]
          exact h key cached hold id hid

lemma unspoilt_of_cleared {moves : List MemoryMove} {dirty : Bool}
    {w : MemoryState Score × (String → Set String)} (hcleared : ClearedFirst cfg dirty moves)
    (hcovered : Covered w)
    (hnamesake : (machine cfg).Guarded (fun s _ => NoNamesake s) w.1 moves)
    (hclean : dirty = false → Clean w) :
    ((machine cfg).watched (noteSight cfg)).Guarded Unspoilt w moves := by
  induction moves generalizing dirty w with
  | nil => trivial
  | cons move rest ih =>
      obtain ⟨hfirst, hrest⟩ := hcleared
      refine ⟨?_, fun t ht => ?_⟩
      · cases move with
        | retrieve now call =>
            have hdirty : dirty = false := by
              rw [Bool.eq_false_iff]
              exact fun htrue => hfirst htrue now call rfl
            simp only [Unspoilt]
            split
            · rename_i cached hget
              exact hclean hdirty _ cached hget
            · exact hnamesake.1
        | _ => trivial
      · have hcovered' := hcovered.step ht
        obtain rfl := Option.some.inj ht
        refine ih hrest hcovered' (hnamesake.2 _ rfl) fun hdirty => ?_
        -- the caches are clean, or this move clears them
        cases dirty with
        | false => exact (hclean rfl).after hcovered hnamesake.1 hdirty
        | true => exact clean_of_empty (retrievals_of_cleared hdirty)

/-! ## Runs -/

/-- In every run in which no retrieval is served a result from before a removal of what was in
sight, nothing that is returned was forgotten; a run that clears the retrieval cache between a
removal and the next retrieval is such a run; and after every run a manager rebuilt from the
repository holds nothing that was forgotten. -/
theorem forgotten_of_guarded (cfg : MemoryConfig Score) (moves : List MemoryMove) :
    (((machine cfg).watched (noteSight cfg)).Guarded Unspoilt ({}, fun _ => ∅) moves →
        (machine cfg).Guarded (AnswersForget cfg) {} moves) ∧
      (ClearedFirst cfg false moves → (machine cfg).Guarded (fun s _ => NoNamesake s) {} moves →
        ((machine cfg).watched (noteSight cfg)).Guarded Unspoilt ({}, fun _ => ∅) moves) ∧
      ∀ t, (machine cfg).run {} moves = some t →
        ∀ item, Stored t.manager.rebuilt item → item.id ∉ t.forgotten := by
  refine ⟨fun hguarded => ?_, fun hcleared hnamesake => ?_, fun t ht item hitem => ?_⟩
  · have hanswers : ((machine cfg).watched (noteSight cfg)).Guarded
        (fun w move => AnswersForget cfg w.1 move) ({}, fun _ => ∅) moves :=
      ((machine cfg).watched (noteSight cfg)).guarded_of_invariant
        (fun w move w' h _ hstep => h.step hstep) (fun w move h hmove => h.answers hmove)
        covered_init hguarded
    exact (machine cfg).guarded_watched_iff.mp hanswers
  · exact unspoilt_of_cleared hcleared covered_init hnamesake fun _ => clean_of_empty rfl
  · have hstep : ∀ s move t, Forgets s → (machine cfg).step s move = some t → Forgets t := by
      intro s move t h ht
      obtain rfl : after cfg s move = t := Option.some.inj ht
      exact h.after move
    have hforgets : Forgets t := (machine cfg).run_invariant hstep forgets_init ht
    exact hforgets.rebuilt hitem

/-! ### A memory that is deleted and comes back -/

/-- Every item matches every query and scores the same. -/
def plainConfig : MemoryConfig ℕ where
  similarity := fun _ _ _ => some 1
  score := fun _ _ _ => 0
  instantText := fun _ => ""
  isDocumentHistoryQuery := fun _ => false
  classify := fun _ _ => none

def localPrincipal : MemoryAccessContext :=
  { principalId := defaultLocalPrincipalId, named := named_defaultLocalPrincipalId }

/-- A memory is written and retrieved, and then deleted. -/
def writeThenDelete : List MemoryMove := [
  .write .knowledge localPrincipal { id := "m", content := "secret", createdAt := 0 },
  .retrieve 1 { access := localPrincipal, query := "q" },
  .deleteMemory "m" localPrincipal]

/-- Where another memory is written after the deletion, it is not returned: the write clears the
retrieval cache. -/
theorem forgotten_of_guarded_sample :
    (machine plainConfig).Guarded (AnswersForget plainConfig) {} (writeThenDelete ++
      [.write .knowledge localPrincipal { id := "n", content := "other", createdAt := 2 },
        .retrieve 3 { access := localPrincipal, query := "q" }]) := by
  obtain ⟨hanswers, hcleared, -⟩ := forgotten_of_guarded plainConfig (writeThenDelete ++
    [.write .knowledge localPrincipal { id := "n", content := "other", createdAt := 2 },
      .retrieve 3 { access := localPrincipal, query := "q" }])
  refine hanswers (hcleared ?_ ?_)
  · have hallowed : (checkWriteAccess plainConfig.accessRules MemoryKind.knowledge.value
        SecurityLevel.low).allowed = true := by
      decide
    simp [writeThenDelete, ClearedFirst, dirtied, hallowed]
  · refine ⟨noNamesake_of_empty rfl rfl, fun written hwritten => ?_⟩
    obtain rfl := Option.some.inj hwritten
    refine ⟨noNamesake_of_empty rfl rfl, fun retrieved hretrieved => ?_⟩
    obtain rfl := Option.some.inj hretrieved
    refine ⟨noNamesake_of_empty rfl rfl, fun deleted hdeleted => ?_⟩
    obtain rfl := Option.some.inj hdeleted
    refine ⟨noNamesake_of_empty rfl rfl, fun again hagain => ?_⟩
    obtain rfl := Option.some.inj hagain
    exact ⟨noNamesake_of_empty rfl rfl, fun t ht => trivial⟩

/-- The deleted memory is returned again, from the retrieval cache. -/
theorem forgetting_fails :
    ((machine plainConfig).run {} writeThenDelete).map (fun s =>
      (s.forgotten, (Dict.get? s.manager.items "m").isSome,
        (answer plainConfig s (.retrieve 2 { access := localPrincipal, query := "q" })).map
          fun item => (item.id, item.content))) =
      some (["m"], false, [("m", "secret")]) := by
  decide

end MemoryController

end Samaktha
