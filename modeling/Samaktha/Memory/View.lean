import Samaktha.Memory.Candidates

/-!
# What a retrieval depends on

The recent window and the newest preferences are cut before the items that the caller may not
read are dropped, and so are the items that the search scores.  What a computed retrieval returns
is determined by what is left of the three cuts, with the documents and the personal entities
that the caller may read (`compute_eq_of_sameView`): the order in which candidates are found does
not matter, as the ranking is total on candidates, whose ids differ.
-/

namespace Samaktha

namespace MemoryRetriever

open SecurityManager ContextMemoryStore

variable {Score : Type} {cfg : MemoryConfig Score} {manager : MemoryManager}
  {recent : RecentCache}

/-! ## Merging candidates -/

/-- Where an id stands for one item, merging loses nothing. -/
lemma mem_mergeNew_iff {candidates items : List MemoryItem}
    (hid : ∀ x ∈ candidates ++ items, ∀ y ∈ candidates ++ items, x.id = y.id → x = y)
    {item : MemoryItem} :
    item ∈ mergeNew candidates items ↔ item ∈ candidates ∨ item ∈ items := by
  refine ⟨mem_mergeNew, fun h => ?_⟩
  induction items generalizing candidates with
  | nil => exact h.resolve_right (List.not_mem_nil)
  | cons first rest ih =>
      have hfirst : first ∈ candidates ++ first :: rest :=
        List.mem_append_right _ List.mem_cons_self
      by_cases hmem : first.id ∈ candidates.map MemoryItem.id
      · -- the item is a candidate already
        obtain ⟨other, hother, heq⟩ := List.mem_map.mp hmem
        obtain rfl := hid other (List.mem_append_left _ hother) first hfirst heq
        show item ∈ mergeNew (if _ then _ else _) rest
        rw [if_pos hmem]
        have hsub : candidates ++ rest ⊆ candidates ++ other :: rest := by
          intro x hx
          rcases List.mem_append.mp hx with hx | hx
          · exact List.mem_append_left _ hx
          · exact List.mem_append_right _ (List.mem_cons_of_mem _ hx)
        refine ih (fun x hx y hy => hid x (hsub hx) y (hsub hy)) ?_
        rcases h with h | h
        · exact .inl h
        · rcases List.mem_cons.mp h with rfl | h
          · exact .inl hother
          · exact .inr h
      · show item ∈ mergeNew (if _ then _ else _) rest
        rw [if_neg hmem]
        have hsame : candidates ++ [first] ++ rest = candidates ++ first :: rest := by
          rw [List.append_assoc, List.singleton_append]
        refine ih (by rw [hsame]; exact hid) ?_
        rcases h with h | h
        · exact .inl (List.mem_append_left _ h)
        · rcases List.mem_cons.mp h with rfl | h
          · exact .inl (List.mem_append_right _ List.mem_cons_self)
          · exact .inr h

lemma nodup_mergeNew {candidates : List MemoryItem} (h : (candidates.map MemoryItem.id).Nodup)
    (items : List MemoryItem) : ((mergeNew candidates items).map MemoryItem.id).Nodup := by
  induction items generalizing candidates with
  | nil => exact h
  | cons first rest ih =>
      refine ih ?_
      dsimp only
      split
      · exact h
      · rename_i hnew
        rw [List.map_append, List.map_singleton]
        exact List.nodup_append_comm.mp (List.nodup_cons.mpr ⟨hnew, h⟩)

lemma mergeNew_perm {candidates candidates' : List MemoryItem} (h : candidates.Perm candidates')
    (items : List MemoryItem) : (mergeNew candidates items).Perm (mergeNew candidates' items) := by
  induction items generalizing candidates candidates' with
  | nil => exact h
  | cons first rest ih =>
      refine ih ?_
      dsimp only
      have hiff := (h.map MemoryItem.id).mem_iff (a := first.id)
      by_cases hmem : first.id ∈ candidates.map MemoryItem.id
      · rw [if_pos hmem, if_pos (hiff.mp hmem)]
        exact h
      · rw [if_neg hmem, if_neg fun h' => hmem (hiff.mpr h')]
        exact h.append_right _

/-! ## Ranking -/

/-- The better of two entries comes first: by score, and then by id. -/
def Better [LinearOrder Score] (x y : MemoryItem × Score) : Prop :=
  y.2 < x.2 ∨ (x.2 = y.2 ∧ x.1.id ≤ y.1.id)

section Ranking

variable [LinearOrder Score]

instance : DecidableRel (Better : MemoryItem × Score → MemoryItem × Score → Prop) :=
  fun _ _ => inferInstanceAs (Decidable (_ ∨ _))

instance : Std.Total (Better : MemoryItem × Score → MemoryItem × Score → Prop) := by
  refine ⟨fun x y => ?_⟩
  rcases lt_trichotomy x.2 y.2 with hlt | heq | hgt
  · exact .inr (.inl hlt)
  · rcases le_total x.1.id y.1.id with hle | hle
    · exact .inl (.inr ⟨heq, hle⟩)
    · exact .inr (.inr ⟨heq.symm, hle⟩)
  · exact .inl (.inl hgt)

instance : IsTrans (MemoryItem × Score) Better := by
  refine ⟨fun x y z hxy hyz => ?_⟩
  rcases hxy with hxy | ⟨hxy, hidxy⟩
  · rcases hyz with hyz | ⟨hyz, -⟩
    · exact .inl (hyz.trans hxy)
    · exact .inl (hyz ▸ hxy)
  · rcases hyz with hyz | ⟨hyz, hidyz⟩
    · exact .inl (hxy ▸ hyz)
    · exact .inr ⟨hxy.trans hyz, hidxy.trans hidyz⟩

lemma Better.antisymm {x y : MemoryItem × Score} (hxy : Better x y) (hyx : Better y x) :
    x.1.id = y.1.id := by
  rcases hxy with hlt | ⟨heq, hle⟩
  · rcases hyx with hgt | ⟨heq, -⟩
    · exact absurd hgt hlt.not_gt
    · exact absurd heq hlt.ne
  · rcases hyx with hgt | ⟨-, hge⟩
    · exact absurd heq hgt.ne
    · exact le_antisymm hle hge

lemma pairwise_rank (cfg : MemoryConfig Score) (now : ℤ) (items : List MemoryItem)
    (scores : Dict String Score) : (rank cfg now items scores).Pairwise Better :=
  List.pairwise_insertionSort Better _

lemma rank_eq_of_perm {now : ℤ} {items items' : List MemoryItem} {scores : Dict String Score}
    (hid : ∀ x ∈ items, ∀ y ∈ items, x.id = y.id → x = y) (h : items.Perm items') :
    rank cfg now items scores = rank cfg now items' scores := by
  have hperm : (rank cfg now items scores).Perm (rank cfg now items' scores) :=
    (List.perm_insertionSort _ _).trans ((h.map _).trans (List.perm_insertionSort _ _).symm)
  refine hperm.eq_of_pairwise ?_ (pairwise_rank cfg now items scores)
    (pairwise_rank cfg now items' scores)
  intro x y hx hy hxy hyx
  have hscored : ∀ z ∈ rank cfg now items scores,
      z.1 ∈ items ∧ z.2 = cfg.score now z.1 (Dict.get? scores z.1.id) := by
    intro z hz
    obtain ⟨item, hitem, rfl⟩ := List.mem_map.mp ((List.mem_insertionSort _).mp hz)
    exact ⟨hitem, rfl⟩
  obtain ⟨hxmem, hxscore⟩ := hscored x hx
  obtain ⟨hymem, hyscore⟩ := hscored y (hperm.mem_iff.mpr hy)
  have hsame : x.1.id = y.1.id := hxy.antisymm hyx
  have hitem := hid x.1 hxmem y.1 hymem hsame
  refine Prod.ext hitem ?_
  rw [hxscore, hyscore, hitem]

end Ranking

/-! ## Memories -/

/-- The items that the search scores. -/
def scored (cfg : MemoryConfig Score) (manager : MemoryManager) (access : MemoryAccessContext) :
    List MemoryItem :=
  eligibleItems cfg access (getRecentContext manager.items 100000 true)

/-- What is left of a window, where it is asked for. -/
def window (cfg : MemoryConfig Score) (access : MemoryAccessContext) (flag : Bool)
    (items : List MemoryItem) : List MemoryItem :=
  if flag then eligibleItems cfg access items else []

/-- The recent window: the newest entries of the recent cache, or, where it holds no memory, the
newest items of the store. -/
def recentWindow (cfg : MemoryConfig Score) (manager : MemoryManager) (recent : RecentCache) :
    List MemoryItem :=
  match cachedMemories recent with
  | [] => getRecentContext manager.items cfg.topKRecent false
  | cached => lastOf cfg.topKRecent cached

lemma mem_retrieveRecent {item : MemoryItem} :
    item ∈ (retrieveRecent cfg manager recent).1 ↔ item ∈ recentWindow cfg manager recent := by
  unfold retrieveRecent recentWindow
  cases cachedMemories recent with
  | nil => exact mem_browseOrder
  | cons first rest => exact mem_browseOrder

/-- The item is left of the recent window or of the newest preferences. -/
def Shown (cfg : MemoryConfig Score) (manager : MemoryManager) (recent : RecentCache)
    (call : RetrieveCall) (item : MemoryItem) : Prop :=
  eligible cfg.accessRules call.access item = true ∧
    ((call.flags.recent = true ∧ item ∈ recentWindow cfg manager recent) ∨
      (call.flags.preferences = true ∧ item ∈ getByType manager.items "preference" 50 false))

lemma Agrees.eq_of_id (h : Agrees manager.items recent) {x y : MemoryItem}
    (hx : Stored manager x) (hy : Stored manager y) (hid : x.id = y.id) : x = y := by
  obtain ⟨_, hx⟩ := hx
  obtain ⟨_, hy⟩ := hy
  have hget := h.get?_id hx
  rw [hid, h.get?_id hy] at hget
  exact (Option.some.inj hget).symm

lemma stored_of_mem_scored {access : MemoryAccessContext} {item : MemoryItem}
    (h : item ∈ scored cfg manager access) : Stored manager item :=
  mem_of_mem_getRecentContext (List.mem_of_mem_filter h)

lemma Shown.stored (h : Agrees manager.items recent) {call : RetrieveCall} {item : MemoryItem}
    (hshown : Shown cfg manager recent call item) : Stored manager item := by
  rcases hshown.2 with ⟨-, hmem⟩ | ⟨-, hmem⟩
  · exact stored_of_mem_retrieveRecent h item (mem_retrieveRecent.mpr hmem)
  · exact mem_of_mem_getByType hmem

lemma foldl_materialize_eq (h : Agrees manager.items recent) (hits : List (String × Score))
    (found : List MemoryItem) :
    (hits.foldl (materialize cfg manager) (found, recent)).1 =
      found ++ hits.filterMap fun hit => Dict.get? manager.items hit.1 := by
  induction hits generalizing found recent with
  | nil => exact (List.append_nil found).symm
  | cons hit rest ih =>
      have hagrees := (materialize_spec cfg h found hit).1
      have hstep : (materialize cfg manager (found, recent) hit).1 =
          found ++ (Dict.get? manager.items hit.1).toList := by
        unfold materialize
        dsimp only
        split
        · rename_i item hitem
          rw [h.agree _ _ (Option.join_eq_some_iff.mp hitem), Option.toList_some]
        · split
          · rename_i item hitem
            rw [hitem, Option.toList_some]
          · rename_i hnone
            rw [hnone, Option.toList_none, List.append_nil]
      rw [List.foldl_cons, List.filterMap_cons]
      refine (ih hagrees (materialize cfg manager (found, recent) hit).1).trans ?_
      rw [hstep, List.append_assoc]
      cases Dict.get? manager.items hit.1 <;> rfl

section Retrieval

variable [LinearOrder Score]

/-- The hits of the search, where there is one. -/
def hits (cfg : MemoryConfig Score) (manager : MemoryManager) (call : RetrieveCall) :
    List (String × Score) :=
  if call.flags.semantic then
    semanticSearch cfg call.query (scored cfg manager call.access) cfg.topKSemantic
  else []

def Hit (cfg : MemoryConfig Score) (manager : MemoryManager) (call : RetrieveCall)
    (item : MemoryItem) : Prop :=
  item ∈ scored cfg manager call.access ∧ item.id ∈ (hits cfg manager call).map Prod.fst

lemma mem_filterMap_hits (h : Agrees manager.items recent) {call : RetrieveCall}
    {item : MemoryItem} :
    item ∈ (hits cfg manager call).filterMap (fun hit => Dict.get? manager.items hit.1) ↔
      Hit cfg manager call item := by
  constructor
  · intro hmem
    obtain ⟨hit, hhit, hget⟩ := List.mem_filterMap.mp hmem
    have hstored : Stored manager item := ⟨hit.1, Dict.mem_of_get? hget⟩
    have hkey : item.id = hit.1 := h.keyed _ _ (Dict.mem_of_get? hget)
    have hsearch : ∃ other ∈ scored cfg manager call.access, other.id = hit.1 := by
      unfold hits at hhit
      split at hhit
      · exact exists_of_mem_semanticSearch hhit
      · cases hhit
    obtain ⟨other, hother, hid⟩ := hsearch
    obtain rfl := h.eq_of_id (stored_of_mem_scored hother) hstored (hid.trans hkey.symm)
    exact ⟨hother, hid ▸ List.mem_map_of_mem hhit⟩
  · rintro ⟨hscored, hid⟩
    obtain ⟨hit, hhit, heq⟩ := List.mem_map.mp hid
    obtain ⟨key, hmem⟩ := stored_of_mem_scored hscored
    refine List.mem_filterMap.mpr ⟨hit, hhit, ?_⟩
    rw [heq]
    exact h.get?_id hmem

omit [LinearOrder Score] in
lemma mem_window {access : MemoryAccessContext} {flag : Bool} {items : List MemoryItem}
    {item : MemoryItem} : item ∈ window cfg access flag items ↔
      flag = true ∧ item ∈ items ∧ eligible cfg.accessRules access item = true := by
  unfold window eligibleItems
  cases flag with
  | false => exact iff_of_false List.not_mem_nil fun h => Bool.noConfusion h.1
  | true => rw [if_pos rfl, List.mem_filter, eq_self_iff_true, true_and]

/-- The memories among the candidates, before the documents and the personal entities. -/
def memories (cfg : MemoryConfig Score) (manager : MemoryManager) (recent : RecentCache)
    (call : RetrieveCall) : List MemoryItem :=
  mergeNew
    (mergeNew (window cfg call.access call.flags.recent (retrieveRecent cfg manager recent).1)
      ((hits cfg manager call).filterMap fun hit => Dict.get? manager.items hit.1))
    (window cfg call.access call.flags.preferences
      (getByType manager.items "preference" 50 false))

lemma candidates_eq (h : Agrees manager.items recent) (call : RetrieveCall) :
    (candidates cfg manager recent call).1 =
      (mergeNew (mergeNew (memories cfg manager recent call)
        (if call.flags.documents then retrieveDocuments cfg manager call.query call.access else []))
        (if call.flags.personalKnowledge && call.access.principalId = defaultLocalPrincipalId then
          eligibleItems cfg call.access (retrievePersonalKnowledge manager call.query) else []),
        Dict.ofList (hits cfg manager call)) := by
  have hmerge : ∀ (p : Prop) [Decidable p] (items others : List MemoryItem),
      (if p then mergeNew items others else items) = mergeNew items (if p then others else []) := by
    intro p _ items others
    split <;> rfl
  have hread : ∀ (hits : List (String × Score)) (recent : RecentCache),
      Agrees manager.items recent → (hits.foldl (materialize cfg manager) ([], recent)).1 =
        hits.filterMap fun hit => Dict.get? manager.items hit.1 :=
    fun hits recent hrecent => foldl_materialize_eq hrecent hits []
  have hfirst : Agrees manager.items (retrieveRecent cfg manager recent).2 :=
    agrees_retrieveRecent h
  unfold candidates memories hits
  dsimp only
  rw [hmerge, hmerge]
  cases call.flags.recent <;> cases call.flags.semantic <;> cases call.flags.preferences <;>
    simp only [retrieveSemantic, retrievePreferences, hread _ _ h, hread _ _ hfirst, scored, window,
      if_true, if_false, Bool.false_eq_true] <;> rfl

lemma mem_memories (h : Agrees manager.items recent) {call : RetrieveCall} {item : MemoryItem} :
    item ∈ memories cfg manager recent call ↔
      Shown cfg manager recent call item ∨ Hit cfg manager call item := by
  unfold memories
  have hfirst : ∀ x ∈ window cfg call.access call.flags.recent
      (retrieveRecent cfg manager recent).1, Stored manager x :=
    fun x hx => stored_of_mem_retrieveRecent h x (mem_window.mp hx).2.1
  have hsecond : ∀ x ∈ (hits cfg manager call).filterMap fun hit => Dict.get? manager.items hit.1,
      Stored manager x := fun x hx => stored_of_mem_scored ((mem_filterMap_hits h).mp hx).1
  have hthird : ∀ x ∈ window cfg call.access call.flags.preferences
      (getByType manager.items "preference" 50 false), Stored manager x :=
    fun x hx => mem_of_mem_getByType (mem_window.mp hx).2.1
  have hmerged : ∀ x ∈ mergeNew (window cfg call.access call.flags.recent
      (retrieveRecent cfg manager recent).1) ((hits cfg manager call).filterMap fun hit =>
      Dict.get? manager.items hit.1), Stored manager x :=
    fun x hx => (mem_mergeNew hx).elim (hfirst x) (hsecond x)
  rw [mem_mergeNew_iff, mem_mergeNew_iff, mem_filterMap_hits h, mem_window, mem_window,
    mem_retrieveRecent]
  · unfold Shown
    tauto
  · intro x hx y hy
    exact h.eq_of_id ((List.mem_append.mp hx).elim (hfirst x) (hsecond x))
      ((List.mem_append.mp hy).elim (hfirst y) (hsecond y))
  · intro x hx y hy
    exact h.eq_of_id ((List.mem_append.mp hx).elim (hmerged x) (hthird x))
      ((List.mem_append.mp hy).elim (hmerged y) (hthird y))

omit [LinearOrder Score] in
lemma nodup_cachedMemories (h : Agrees manager.items recent) :
    ((cachedMemories recent).map MemoryItem.id).Nodup := by
  have hsub : ∀ entries : RecentCache, entries ⊆ recent →
      ((cachedMemories entries).map MemoryItem.id).Sublist (Dict.keys entries) := by
    intro entries
    induction entries with
    | nil => exact fun _ => List.Sublist.refl _
    | cons entry rest ih =>
        intro hentries
        obtain ⟨key, value⟩ := entry
        have hrest := ih fun x hx => hentries (List.mem_cons_of_mem _ hx)
        cases value with
        | none => exact hrest.cons key
        | some item =>
            have hget := h.get?_of_cached (hentries List.mem_cons_self)
            have hkey := h.keyed key item (Dict.mem_of_get? hget)
            show (item.id :: (cachedMemories rest).map MemoryItem.id).Sublist
              (key :: Dict.keys rest)
            rw [hkey]
            exact hrest.cons_cons key
  exact h.nodupRecent.sublist (hsub recent fun _ hx => hx)

omit [LinearOrder Score] in
lemma nodup_getRecentContext (h : Agrees manager.items recent) (n : ℕ) (allowPrivate : Bool) :
    ((getRecentContext manager.items n allowPrivate).map MemoryItem.id).Nodup := by
  have hkeys : (manager.items.map Prod.snd).map MemoryItem.id = Dict.keys manager.items := by
    rw [List.map_map]
    exact List.map_congr_left fun entry hentry => h.keyed entry.1 entry.2 hentry
  have hall : ((manager.items.map Prod.snd).map MemoryItem.id).Nodup := hkeys ▸ h.nodup
  have hvisible : ((visible manager.items allowPrivate).map MemoryItem.id).Nodup :=
    hall.sublist (List.filter_sublist.map _)
  have hsorted : ((newestFirst (visible manager.items allowPrivate)).map MemoryItem.id).Nodup :=
    ((List.perm_insertionSort _ _).map _).nodup_iff.mpr hvisible
  exact hsorted.sublist ((List.take_sublist _ _).map _)

omit [LinearOrder Score] in
lemma nodup_retrieveRecent (h : Agrees manager.items recent) :
    ((retrieveRecent cfg manager recent).1.map MemoryItem.id).Nodup := by
  have hbrowse : ∀ items : List MemoryItem, (items.map MemoryItem.id).Nodup →
      ((browseOrder cfg items).map MemoryItem.id).Nodup := by
    intro items hitems
    have hperm : (browseOrder cfg items).Perm items :=
      (List.perm_insertionSort _ _).trans (List.perm_insertionSort _ _)
    exact (hperm.map _).nodup_iff.mpr hitems
  have hlast : (lastOf cfg.topKRecent (cachedMemories recent)).Sublist (cachedMemories recent) := by
    unfold lastOf
    split
    · exact List.Sublist.refl _
    · exact List.drop_sublist _ _
  unfold retrieveRecent
  split
  · exact hbrowse _ (nodup_getRecentContext h _ _)
  · exact hbrowse _ ((nodup_cachedMemories h).sublist (hlast.map _))

lemma nodup_memories (h : Agrees manager.items recent) (call : RetrieveCall) :
    ((memories cfg manager recent call).map MemoryItem.id).Nodup := by
  refine nodup_mergeNew (nodup_mergeNew ?_ _) _
  unfold window
  split
  · exact (nodup_retrieveRecent h).sublist (List.filter_sublist.map _)
  · exact List.nodup_nil

/-! ## The view of a caller -/

variable {manager' : MemoryManager} {recent' : RecentCache}

/-- What a call may find of the memories is the same in two states: the items that are scored,
and, but for the hits, what is left of the windows. -/
structure SameWindows (cfg : MemoryConfig Score) (manager manager' : MemoryManager)
    (recent recent' : RecentCache) (call : RetrieveCall) : Prop where
  scored : call.flags.semantic = true →
    scored cfg manager call.access = scored cfg manager' call.access
  shown : ∀ item, item.id ∉ (hits cfg manager call).map Prod.fst →
    (Shown cfg manager recent call item ↔ Shown cfg manager' recent' call item)

/-- The documents of a principal are listed the same in two managers, and so are the personal
entities, where they are the principal's. -/
structure SameRecords (principalId : String) (manager manager' : MemoryManager) : Prop where
  documents : manager.listDocuments.filter (fun record => record.ownerId = principalId) =
    manager'.listDocuments.filter (fun record => record.ownerId = principalId)
  knowledge : principalId = defaultLocalPrincipalId → manager.knowledge = manager'.knowledge

lemma sameWindows_of_eq {call : RetrieveCall}
    (hscored : MemoryRetriever.scored cfg manager call.access =
      MemoryRetriever.scored cfg manager' call.access)
    (hrecent : eligibleItems cfg call.access (recentWindow cfg manager recent) =
      eligibleItems cfg call.access (recentWindow cfg manager' recent'))
    (hpreferences : eligibleItems cfg call.access (getByType manager.items "preference" 50 false) =
      eligibleItems cfg call.access (getByType manager'.items "preference" 50 false)) :
    SameWindows cfg manager manager' recent recent' call := by
  refine ⟨fun _ => hscored, fun item _ => and_congr_right fun heligible => ?_⟩
  have hwindow : ∀ items items' : List MemoryItem,
      eligibleItems cfg call.access items = eligibleItems cfg call.access items' →
        (item ∈ items ↔ item ∈ items') := by
    intro items items' heq
    have hiff : ∀ list : List MemoryItem, item ∈ eligibleItems cfg call.access list ↔ item ∈ list :=
      fun list => List.mem_filter.trans (and_iff_left heligible)
    rw [← hiff items, heq, hiff]
  exact or_congr (and_congr_right fun _ => hwindow _ _ hrecent)
    (and_congr_right fun _ => hwindow _ _ hpreferences)

lemma SameWindows.hits_eq {call : RetrieveCall}
    (hview : SameWindows cfg manager manager' recent recent' call) :
    hits cfg manager call = hits cfg manager' call := by
  unfold hits
  split
  · rename_i hflag
    rw [hview.scored hflag]
  · rfl

lemma SameWindows.hit_iff {call : RetrieveCall} {item : MemoryItem}
    (hview : SameWindows cfg manager manager' recent recent' call) :
    Hit cfg manager call item ↔ Hit cfg manager' call item := by
  unfold Hit
  rw [hview.hits_eq]
  refine and_congr_left fun hid => ?_
  by_cases hflag : call.flags.semantic = true
  · rw [hview.scored hflag]
  · rw [hits, if_neg hflag] at hid
    cases hid

lemma Shown.hit (h : Agrees manager.items recent) {call : RetrieveCall} {item : MemoryItem}
    (hshown : Shown cfg manager recent call item)
    (hid : item.id ∈ (hits cfg manager call).map Prod.fst) : Hit cfg manager call item := by
  obtain ⟨hit, hhit, heq⟩ := List.mem_map.mp hid
  obtain ⟨key, hmem⟩ := hshown.stored h
  refine (mem_filterMap_hits h).mp (List.mem_filterMap.mpr ⟨hit, hhit, ?_⟩)
  rw [heq]
  exact h.get?_id hmem

lemma SameWindows.memories_perm (h : Agrees manager.items recent)
    (h' : Agrees manager'.items recent') {call : RetrieveCall}
    (hview : SameWindows cfg manager manager' recent recent' call) :
    (memories cfg manager recent call).Perm (memories cfg manager' recent' call) := by
  refine (List.perm_ext_iff_of_nodup (nodup_memories h call).of_map
    (nodup_memories h' call).of_map).mpr fun item => ?_
  rw [mem_memories h, mem_memories h', hview.hit_iff]
  by_cases hid : item.id ∈ (hits cfg manager call).map Prod.fst
  · have hleft : Shown cfg manager recent call item → Hit cfg manager' call item :=
      fun hshown => hview.hit_iff.mp (hshown.hit h hid)
    have hright : Shown cfg manager' recent' call item → Hit cfg manager' call item :=
      fun hshown => hshown.hit h' (hview.hits_eq ▸ hid)
    tauto
  · rw [hview.shown item hid]

omit [LinearOrder Score] in
lemma SameRecords.retrieveDocuments_eq {call : RetrieveCall}
    (hrecords : SameRecords call.access.principalId manager manager') :
    retrieveDocuments cfg manager call.query call.access =
      retrieveDocuments cfg manager' call.query call.access := by
  have hown : ∀ records : List DocumentRecord,
      eligibleItems cfg call.access (records.map documentItem) =
        eligibleItems cfg call.access
          ((records.filter fun record => record.ownerId = call.access.principalId).map
            documentItem) := by
    intro records
    unfold eligibleItems
    rw [List.filter_map, List.filter_map, List.filter_filter]
    refine congrArg _ (List.filter_congr fun record _ => ?_)
    cases heligible : (eligible cfg.accessRules call.access ∘ documentItem) record with
    | false => rw [Bool.false_and]
    | true =>
        have howner := ownerId_of_isInScope (readable_of_eligible heligible).1
        rw [Bool.true_and]
        exact (decide_eq_true howner).symm
  unfold retrieveDocuments
  rw [hown, hown manager'.listDocuments, hrecords.documents]

/-- What is computed for a call is determined by the windows, and by the documents and the
personal entities of the principal. -/
theorem compute_eq_of_sameView (h : Agrees manager.items recent)
    (h' : Agrees manager'.items recent') {call : RetrieveCall}
    (hview : SameWindows cfg manager manager' recent recent' call)
    (hrecords : SameRecords call.access.principalId manager manager') (now : ℤ) :
    (compute cfg manager now recent call).1 = (compute cfg manager' now recent' call).1 := by
  have hknowledge : (if call.flags.personalKnowledge &&
        call.access.principalId = defaultLocalPrincipalId then
      eligibleItems cfg call.access (retrievePersonalKnowledge manager call.query) else []) =
      (if call.flags.personalKnowledge && call.access.principalId = defaultLocalPrincipalId then
        eligibleItems cfg call.access (retrievePersonalKnowledge manager' call.query) else []) := by
    split
    · rename_i hflag
      have hlocal := of_decide_eq_true ((Bool.and_eq_true _ _).mp hflag).2
      unfold retrievePersonalKnowledge MemoryManager.searchPersonalKnowledge
      rw [hrecords.knowledge hlocal]
    · rfl
  unfold compute
  dsimp only
  rw [candidates_eq h, candidates_eq h']
  dsimp only
  rw [hknowledge, hrecords.retrieveDocuments_eq, hview.hits_eq]
  generalize (if call.flags.documents then _ else _ : List MemoryItem) = documents
  generalize (if call.flags.personalKnowledge && _ then _ else _ : List MemoryItem) = entities
  have hmemories : ((memories cfg manager recent call).map MemoryItem.id).Nodup :=
    nodup_memories h call
  have hnodup := nodup_mergeNew (nodup_mergeNew hmemories documents) entities
  have hperm := mergeNew_perm (mergeNew_perm (hview.memories_perm h h') documents) entities
  rw [rank_eq_of_perm (fun x hx y hy hid => List.inj_on_of_nodup_map hnodup hx hy hid) hperm]

end Retrieval

end MemoryRetriever

end Samaktha
