import Samaktha.Memory.Consistency

/-!
# When the recent cache makes no difference

`_retrieve_recent` and `_find_existing_preferences` read the recent cache if it holds anything for
them, and the store only if it does not.  The cache holds the items that entered it last, in the
order in which they entered; the store sorts by the time of creation.  So a cache that was cleared,
or from which items were evicted, hides what it does not hold (`cache_hides`), and of two
preferences that match a new one equally well it gives the older one.

`cache_transparent` says for every state that a history leads to when the cache makes no
difference.  The histories that come in step with the clock, into a cache that has room, are of
this kind throughout (`Whole`).

`_classify` is modelled with the scores of two texts and the constants that it compares them with
as parameters.
-/

namespace Samaktha

open SecurityManager ContextMemoryStore MemoryRetriever

/-! ## Classification -/

/-- What `_classify` computes with. -/
structure PreferenceScoring (Score : Type) where
  /-- Whether a text has keywords or entities. -/
  hasTerms : String → Bool
  /-- `_score_overlap` of a new text with the content of an item. -/
  overlap : String → String → Score
  /-- `_normalized_text_similarity`. -/
  textSimilarity : String → String → Score
  /-- Whether two texts have an entity in common. -/
  sharesEntity : String → String → Bool
  /-- The score of no match. -/
  zero : Score
  /-- `similarity_threshold`. -/
  threshold : Score
  /-- From this similarity on, a preference is reinforced. -/
  reinforceAt : Score
  /-- From this similarity on, one about the same entity is updated. -/
  entityAt : Score
  /-- From this similarity on, any other is updated. -/
  updateAt : Score

namespace PreferenceScoring

variable {Score : Type} [LinearOrder Score] (scoring : PreferenceScoring Score)

/-- The relation of a new text to the one that is most like it. -/
def relate (content other : String) : PreferenceRelation :=
  let similarity := scoring.textSimilarity content other
  if scoring.reinforceAt ≤ similarity then .reinforce
  else if scoring.sharesEntity content other then
    if scoring.entityAt ≤ similarity then .update else .replace
  else if scoring.updateAt ≤ similarity then .update
  else .contradict

/-- One turn of the loop for the best match. -/
def better (content : String) (best : Score × Option ℕ) (entry : MemoryItem × ℕ) :
    Score × Option ℕ :=
  if best.1 < scoring.overlap content entry.1.content then
    (scoring.overlap content entry.1.content, some entry.2)
  else best

/-- `_classify`, with the best match as a position. -/
def classify (content : String) (existing : List MemoryItem) : Option (ℕ × PreferenceRelation) :=
  if existing.isEmpty || !scoring.hasTerms content then none
  else
    match existing.zipIdx.foldl (scoring.better content) (scoring.zero, none) with
    | (_, none) => none
    | (score, some i) =>
        if score < scoring.threshold then none
        else existing[i]?.map fun best => (i, scoring.relate content best.content)

/-- No other item matches better, and the match counts. -/
def leads (content : String) (existing : List MemoryItem) (item : MemoryItem) : Bool :=
  scoring.zero < scoring.overlap content item.content &&
    scoring.threshold ≤ scoring.overlap content item.content &&
      existing.all fun other =>
        scoring.overlap content other.content ≤ scoring.overlap content item.content

lemma relate_ne_new (content other : String) : scoring.relate content other ≠ .new := by
  unfold relate
  dsimp only
  split
  · decide
  · split
    · split <;> decide
    · split <;> decide

lemma better_of_not_lt {content : String} {bound : Score} {found : Option ℕ} {item : MemoryItem}
    {k : ℕ} (h : ¬ bound < scoring.overlap content item.content) :
    scoring.better content (bound, found) (item, k) = (bound, found) := by
  rw [better, if_neg h]

lemma foldl_better (content : String) (existing : List MemoryItem) (k : ℕ) (bound : Score)
    (found : Option ℕ) :
    ((existing.zipIdx k).foldl (scoring.better content) (bound, found) = (bound, found) ∧
      ∀ y ∈ existing, scoring.overlap content y.content ≤ bound) ∨
    ∃ i x, existing[i]? = some x ∧
      (existing.zipIdx k).foldl (scoring.better content) (bound, found) =
        (scoring.overlap content x.content, some (k + i)) ∧
      bound < scoring.overlap content x.content ∧
      (∀ y ∈ existing, scoring.overlap content y.content ≤ scoring.overlap content x.content) ∧
      ∀ j < i, ∀ y, existing[j]? = some y →
        scoring.overlap content y.content < scoring.overlap content x.content := by
  induction existing generalizing k bound found with
  | nil => exact .inl ⟨rfl, fun _ h => absurd h List.not_mem_nil⟩
  | cons a rest ih =>
      rw [List.zipIdx_cons, List.foldl_cons]
      by_cases hbetter : bound < scoring.overlap content a.content
      · rw [show scoring.better content (bound, found) (a, k) =
          (scoring.overlap content a.content, some k) from if_pos hbetter]
        rcases ih (k + 1) (scoring.overlap content a.content) (some k) with
          ⟨hsame, hall⟩ | ⟨i, x, hx, hfold, hlt, hall, hfirst⟩
        · refine .inr ⟨0, a, List.getElem?_cons_zero, hsame, hbetter, fun y hy => ?_,
            fun j hj => absurd hj (Nat.not_lt_zero j)⟩
          rcases List.mem_cons.mp hy with rfl | hrest
          · exact le_rfl
          · exact hall y hrest
        · refine .inr ⟨i + 1, x, hx, ?_, hbetter.trans hlt, fun y hy => ?_, fun j hj y hy => ?_⟩
          · rw [hfold]
            congr 2
            omega
          · rcases List.mem_cons.mp hy with rfl | hrest
            · exact hlt.le
            · exact hall y hrest
          · cases j with
            | zero => exact Option.some.inj hy ▸ hlt
            | succ j => exact hfirst j (by omega) y hy
      · have hle := le_of_not_gt hbetter
        rw [scoring.better_of_not_lt hbetter]
        rcases ih (k + 1) bound found with ⟨hsame, hall⟩ | ⟨i, x, hx, hfold, hlt, hall, hfirst⟩
        · refine .inl ⟨hsame, fun y hy => ?_⟩
          rcases List.mem_cons.mp hy with rfl | hrest
          · exact hle
          · exact hall y hrest
        · refine .inr ⟨i + 1, x, hx, ?_, hlt, fun y hy => ?_, fun j hj y hy => ?_⟩
          · rw [hfold]
            congr 2
            omega
          · rcases List.mem_cons.mp hy with rfl | hrest
            · exact hle.trans hlt.le
            · exact hall y hrest
          · cases j with
            | zero => exact Option.some.inj hy ▸ hle.trans_lt hlt
            | succ j => exact hfirst j (by omega) y hy

lemma leads_eq_true_iff {content : String} {existing : List MemoryItem} {item : MemoryItem} :
    scoring.leads content existing item = true ↔
      scoring.zero < scoring.overlap content item.content ∧
        scoring.threshold ≤ scoring.overlap content item.content ∧
          ∀ y ∈ existing,
            scoring.overlap content y.content ≤ scoring.overlap content item.content := by
  simp [leads, and_assoc]

lemma classify_eq (content : String) (existing : List MemoryItem) :
    ((scoring.classify content existing).bind fun found =>
      existing[found.1]?.map fun best => (best, found.2)) =
      if scoring.hasTerms content then
        (existing.find? (scoring.leads content existing)).map fun best =>
          (best, scoring.relate content best.content)
      else none := by
  unfold classify
  by_cases hterms : scoring.hasTerms content = true
  · rw [hterms, Bool.not_true, Bool.or_false, if_pos rfl]
    cases existing with
    | nil => rfl
    | cons a rest =>
        rw [List.isEmpty_cons, if_neg Bool.false_ne_true]
        generalize hexisting : a :: rest = existing
        rcases scoring.foldl_better content existing 0 scoring.zero none with
          ⟨hsame, hall⟩ | ⟨i, x, hx, hfold, hlt, hall, hfirst⟩
        · rw [hsame]
          have hnone : existing.find? (scoring.leads content existing) = none := by
            rw [List.find?_eq_none]
            intro y hy hleads
            exact absurd (hall y hy) (not_le_of_gt ((scoring.leads_eq_true_iff).mp hleads).1)
          rw [hnone]
          rfl
        · rw [hfold, Nat.zero_add]
          dsimp only
          by_cases hbelow : scoring.overlap content x.content < scoring.threshold
          · have hnone : existing.find? (scoring.leads content existing) = none := by
              rw [List.find?_eq_none]
              intro y hy hleads
              have hreached := ((scoring.leads_eq_true_iff).mp hleads).2.1
              exact absurd (hreached.trans (hall y hy)) (not_le_of_gt hbelow)
            rw [if_pos hbelow, hnone]
            rfl
          · have hsome : existing.find? (scoring.leads content existing) = some x := by
              obtain ⟨hi, hget⟩ := List.getElem?_eq_some_iff.mp hx
              rw [List.find?_eq_some_iff_getElem]
              refine ⟨(scoring.leads_eq_true_iff).mpr ⟨hlt, le_of_not_gt hbelow, hall⟩, i, hi, hget,
                fun j hj => ?_⟩
              rw [Bool.not_eq_true']
              refine Bool.eq_false_iff.mpr fun hleads => ?_
              have hbest := ((scoring.leads_eq_true_iff).mp hleads).2.2 x
                (List.mem_of_getElem? hx)
              exact absurd hbest (not_le_of_gt (hfirst j hj _ (List.getElem?_eq_getElem _)))
            rw [if_neg hbelow, hsome, hx]
            simp [hx]
  · rw [Bool.eq_false_iff.mpr hterms]
    simp

end PreferenceScoring

namespace MemoryController

variable {Score : Type} [LinearOrder Score] (cfg : MemoryConfig Score)
  (scoring : PreferenceScoring Score)

/-- The configuration with `_classify` for the classification. -/
def scored : MemoryConfig Score := { cfg with classify := scoring.classify }

/-! ## With the cache and without -/

/-- The items that the recent stage is to return, and the ones that a new preference is compared
with, are those of the store; so is the outcome of the comparison. -/
structure Transparent (s : MemoryState Score) (access : MemoryAccessContext) (draft : MemoryDraft) :
    Prop where
  recent : (retrieveRecent cfg s.manager s.recent).1 = (retrieveRecent cfg s.manager []).1
  lookup : ∀ item, item ∈ (findExistingPreferences cfg s access).1 ↔
    item ∈ (findExistingPreferences cfg { s with recent := [] } access).1
  resolved : resolve cfg (findExistingPreferences cfg s access).1 access draft =
    resolve cfg (findExistingPreferences cfg { s with recent := [] } access).1 access draft

/-- The principal's preferences that the cache holds, as they entered it. -/
def ownCached (s : MemoryState Score) (access : MemoryAccessContext) : List MemoryItem :=
  (cachedMemories s.recent).filter (ownPreference access)

/-- The principal's preferences among the newest hundred items of the store, newest first. -/
def ownNewest (s : MemoryState Score) (access : MemoryAccessContext) : List MemoryItem :=
  (getRecentContext s.manager.items 100 false).filter (ownPreference access)

/-- Two lists have the same ids. -/
def SameIds (xs ys : List MemoryItem) : Prop :=
  ∀ id, id ∈ xs.map MemoryItem.id ↔ id ∈ ys.map MemoryItem.id

/-- What the cache holds, if it holds anything, is what is newest in the store: its last items are
the newest of all, its preferences of the principal are those among the newest hundred, and of the
ones that a new text overlaps with most, the first that entered it is the newest. -/
structure Accords (s : MemoryState Score) (access : MemoryAccessContext) (draft : MemoryDraft) :
    Prop where
  recent : cachedMemories s.recent ≠ [] →
    SameIds (lastOf cfg.topKRecent (cachedMemories s.recent))
      (getRecentContext s.manager.items cfg.topKRecent false)
  lookup : ownCached s access ≠ [] → SameIds (ownCached s access) (ownNewest s access)
  first : ownCached s access ≠ [] → scoring.hasTerms draft.content = true →
    (ownCached s access).find? (scoring.leads draft.content (ownCached s access)) =
      (ownNewest s access).find? (scoring.leads draft.content (ownNewest s access))

section Exact

variable {cfg} {scoring} {s : MemoryState Score} {access : MemoryAccessContext}
  {draft : MemoryDraft}

omit [LinearOrder Score] in
lemma findExisting_of_nil (h : ownCached s access = []) :
    (findExistingPreferences cfg s access).1 = ownNewest s access := by
  have hcached : (cachedMemories s.recent).filter (ownPreference access) = [] := h
  rw [findExistingPreferences, hcached]
  rfl

omit [LinearOrder Score] in
lemma findExisting_of_ne_nil (h : ownCached s access ≠ []) :
    (findExistingPreferences cfg s access).1 = ownCached s access := by
  unfold findExistingPreferences
  split
  · rename_i hnil
    exact absurd hnil h
  · rfl

omit [LinearOrder Score] in
lemma findExisting_empty :
    (findExistingPreferences cfg { s with recent := [] } access).1 = ownNewest s access :=
  findExisting_of_nil (s := { s with recent := [] }) rfl

omit [LinearOrder Score] in
lemma retrieveRecent_of_nil {manager : MemoryManager} (recent : RecentCache)
    (h : cachedMemories recent = []) : (retrieveRecent cfg manager recent).1 =
      browseOrder cfg (getRecentContext manager.items cfg.topKRecent false) := by
  rw [retrieveRecent, h]

omit [LinearOrder Score] in
lemma retrieveRecent_of_ne_nil {manager : MemoryManager} {recent : RecentCache}
    (h : cachedMemories recent ≠ []) : (retrieveRecent cfg manager recent).1 =
      browseOrder cfg (lastOf cfg.topKRecent (cachedMemories recent)) := by
  unfold retrieveRecent
  split
  · rename_i hnil
    exact absurd hnil h
  · rfl

/-! ### Lists of stored items -/

/-- Items of the store, each once. -/
structure Held (s : MemoryState Score) (items : List MemoryItem) : Prop where
  stored : ∀ item ∈ items, Dict.get? s.manager.items item.id = some item
  nodup : (items.map MemoryItem.id).Nodup

omit [LinearOrder Score] in
lemma Held.sublist {xs ys : List MemoryItem} (h : Held s ys) (hsub : xs.Sublist ys) : Held s xs :=
  ⟨fun item hitem => h.stored item (hsub.subset hitem), h.nodup.sublist (hsub.map _)⟩

omit [LinearOrder Score] in
/-- Items of the store are known by their ids. -/
lemma Held.mem_iff {xs ys : List MemoryItem} (hx : Held s xs) (hy : Held s ys)
    (h : SameIds xs ys) (item : MemoryItem) : item ∈ xs ↔ item ∈ ys := by
  have hone : ∀ {xs ys : List MemoryItem}, Held s xs → Held s ys → SameIds xs ys →
      item ∈ xs → item ∈ ys := by
    intro xs ys hx hy h hitem
    obtain ⟨other, hother, hid⟩ := List.mem_map.mp ((h item.id).mp (List.mem_map_of_mem hitem))
    have hget := hy.stored other hother
    rw [hid, hx.stored item hitem] at hget
    exact Option.some.inj hget ▸ hother
  exact ⟨hone hx hy h, hone hy hx fun id => (h id).symm⟩

lemma sameIds_of_mem_iff {xs ys : List MemoryItem} (h : ∀ item, item ∈ xs ↔ item ∈ ys) :
    SameIds xs ys := by
  intro id
  simp only [List.mem_map, h]

omit [LinearOrder Score] in
lemma held_cached (h : Consistent s) : Held s (cachedMemories s.recent) := by
  have hkeyed : ∀ key item, (key, some item) ∈ s.recent →
      Dict.get? s.manager.items key = some item := fun key item hmem =>
    h.agrees.agree key item (Dict.get?_of_mem h.agrees.nodupRecent hmem)
  have hid : ∀ key item, (key, some item) ∈ s.recent → item.id = key := fun key item hmem =>
    h.agrees.keyed key item (Dict.mem_of_get? (hkeyed key item hmem))
  refine ⟨fun item hitem => ?_, ?_⟩
  · obtain ⟨⟨key, value⟩, hmem, hvalue⟩ := List.mem_filterMap.mp hitem
    obtain rfl : value = some item := hvalue
    rw [hid key item hmem]
    exact hkeyed key item hmem
  · have hsub : ∀ recent : RecentCache,
        (∀ key item, (key, some item) ∈ recent → item.id = key) →
          ((cachedMemories recent).map MemoryItem.id).Sublist (Dict.keys recent) := by
      intro recent
      induction recent with
      | nil => exact fun _ => List.Sublist.refl _
      | cons entry rest ih =>
          intro hentries
          have hrest := ih fun key item hmem => hentries key item (List.mem_cons_of_mem _ hmem)
          obtain ⟨key, value⟩ := entry
          cases value with
          | none => exact hrest.cons key
          | some item =>
              have hkey := hentries key item List.mem_cons_self
              show (item.id :: (cachedMemories rest).map MemoryItem.id).Sublist
                (key :: Dict.keys rest)
              rw [hkey]
              exact hrest.cons_cons key
    exact h.agrees.nodupRecent.sublist (hsub s.recent hid)

omit [LinearOrder Score] in
lemma held_newest (h : Consistent s) (n : ℕ) :
    Held s (getRecentContext s.manager.items n false) := by
  have hkeyed : Dict.KeyedBy MemoryItem.id s.manager.items := ⟨h.agrees.nodup, h.agrees.keyed⟩
  refine ⟨fun item hitem => ?_, ?_⟩
  · obtain ⟨key, hmem⟩ := mem_of_mem_getRecentContext hitem
    exact hkeyed.get?_of_mem hmem
  · have hvisible : ((visible s.manager.items false).map MemoryItem.id).Nodup := by
      refine (nodup_ids_visible hkeyed).sublist (List.Sublist.map _ ?_)
      rw [visible_true]
      exact List.filter_sublist
    have hsorted : ((newestFirst (visible s.manager.items false)).map MemoryItem.id).Nodup :=
      ((List.perm_insertionSort NewerThan _).map MemoryItem.id).nodup_iff.mpr hvisible
    exact hsorted.sublist ((List.take_sublist _ _).map _)

lemma lastOf_sublist {α : Type} (k : ℕ) (items : List α) : (lastOf k items).Sublist items := by
  unfold lastOf
  split
  · exact List.Sublist.refl _
  · exact List.drop_sublist _ _

omit [LinearOrder Score] in
lemma browseOrder_congr {xs ys : List MemoryItem} (hnodup : (xs.map MemoryItem.id).Nodup)
    (h : xs.Perm ys) : browseOrder cfg xs = browseOrder cfg ys := by
  have : Std.Total fun x y : MemoryItem => x.id ≤ y.id := ⟨fun x y => le_total x.id y.id⟩
  have : IsTrans MemoryItem fun x y => x.id ≤ y.id := ⟨fun _ _ _ => le_trans⟩
  have hsorted : xs.insertionSort (fun x y => x.id ≤ y.id) =
      ys.insertionSort fun x y => x.id ≤ y.id := by
    have hperm := (List.perm_insertionSort (fun x y : MemoryItem => x.id ≤ y.id) xs).trans
      (h.trans (List.perm_insertionSort (fun x y : MemoryItem => x.id ≤ y.id) ys).symm)
    refine hperm.eq_of_pairwise ?_ (List.pairwise_insertionSort _ xs)
      (List.pairwise_insertionSort _ ys)
    intro x y hx hy hxy hyx
    have hxs : x ∈ xs := (List.mem_insertionSort _).mp hx
    have hys : y ∈ xs := h.mem_iff.mpr ((List.mem_insertionSort _).mp hy)
    exact List.inj_on_of_nodup_map hnodup hxs hys (le_antisymm hxy hyx)
  rw [browseOrder, browseOrder, hsorted]

/-! ### The outcome of the comparison -/

/-- What `resolve` makes of a best match and its relation. -/
def outcome (access : MemoryAccessContext) (draft : MemoryDraft) :
    Option (MemoryItem × PreferenceRelation) → MemoryItem × Bool
  | some (best, .contradict) =>
      let item := newPreference access draft
      ({ item with metadata := Dict.set item.metadata "conflict_with" (.str best.id) }, true)
  | some (_, .new) => (newPreference access draft, true)
  | some (best, relation) => (revise best draft relation, false)
  | none => (newPreference access draft, true)

lemma resolve_scored (existing : List MemoryItem) :
    resolve (scored cfg scoring) existing access draft = outcome access draft
      (if scoring.hasTerms draft.content then
        (existing.find? (scoring.leads draft.content existing)).map fun best =>
          (best, scoring.relate draft.content best.content)
      else none) := by
  rw [← scoring.classify_eq]
  unfold resolve outcome
  rfl

lemma outcome_inj {best other : MemoryItem} {relation relation' : PreferenceRelation}
    (hnew : relation ≠ .new) (hnew' : relation' ≠ .new)
    (h : outcome access draft (some (best, relation)) =
      outcome access draft (some (other, relation'))) : best.id = other.id := by
  have hid : ∀ (best : MemoryItem) (relation : PreferenceRelation),
      (revise best draft relation).id = best.id := fun _ _ => rfl
  have hrevised : ∀ {relation : PreferenceRelation}, relation ≠ .new → relation ≠ .contradict →
      ∀ best : MemoryItem,
        outcome access draft (some (best, relation)) = (revise best draft relation, false) := by
    intro relation hnew hcontradict best
    cases relation with
    | new => exact absurd rfl hnew
    | contradict => exact absurd rfl hcontradict
    | reinforce | update | replace => rfl
  by_cases hleft : relation = .contradict
  · by_cases hright : relation' = .contradict
    · subst hleft hright
      have hmetadata := congrArg (fun out => Dict.get? out.1.metadata "conflict_with") h
      simp only [outcome, Dict.get?_set_self, Option.some.injEq, Json.str.injEq] at hmetadata
      exact hmetadata
    · rw [hrevised hnew' hright] at h
      subst hleft
      exact absurd (congrArg Prod.snd h) (by simp [outcome])
  · rw [hrevised hnew hleft] at h
    by_cases hright : relation' = .contradict
    · subst hright
      exact absurd (congrArg Prod.snd h) (by simp [outcome])
    · rw [hrevised hnew' hright] at h
      exact congrArg (fun out => out.1.id) h

lemma leads_congr {content : String} {xs ys : List MemoryItem} (h : ∀ item, item ∈ xs ↔ item ∈ ys) :
    scoring.leads content xs = scoring.leads content ys := by
  funext item
  rw [Bool.eq_iff_iff, scoring.leads_eq_true_iff, scoring.leads_eq_true_iff]
  simp only [h]

/-- In a consistent state, the cache makes no difference exactly where it accords with the
store. -/
lemma transparent_iff (h : Consistent s) :
    Transparent (scored cfg scoring) s access draft ↔ Accords cfg scoring s access draft := by
  have hcached := held_cached h
  have hrecent : (retrieveRecent (scored cfg scoring) s.manager s.recent).1 =
        (retrieveRecent (scored cfg scoring) s.manager []).1 ↔
      (cachedMemories s.recent ≠ [] → SameIds (lastOf cfg.topKRecent (cachedMemories s.recent))
        (getRecentContext s.manager.items cfg.topKRecent false)) := by
    rw [retrieveRecent_of_nil [] rfl]
    by_cases hnil : cachedMemories s.recent = []
    · rw [retrieveRecent_of_nil _ hnil]
      exact iff_of_true rfl fun hne => absurd hnil hne
    · rw [retrieveRecent_of_ne_nil hnil]
      have hlast := hcached.sublist (lastOf_sublist cfg.topKRecent _)
      have hnewest := held_newest h cfg.topKRecent
      constructor
      · intro hsame _
        refine sameIds_of_mem_iff fun item => ?_
        have htop : (scored cfg scoring).topKRecent = cfg.topKRecent := rfl
        have hmem : item ∈ browseOrder (scored cfg scoring)
              (lastOf cfg.topKRecent (cachedMemories s.recent)) ↔
            item ∈ browseOrder (scored cfg scoring)
              (getRecentContext s.manager.items cfg.topKRecent false) := by
          rw [← htop, hsame]
        rwa [mem_browseOrder, mem_browseOrder] at hmem
      · intro hids
        refine browseOrder_congr hlast.nodup ((List.perm_ext_iff_of_nodup ?_ ?_).mpr
          (hlast.mem_iff hnewest (hids hnil)))
        · exact hlast.nodup.of_map _
        · exact hnewest.nodup.of_map _
  by_cases hnil : ownCached s access = []
  · have hsame : (findExistingPreferences (scored cfg scoring) s access).1 =
        (findExistingPreferences (scored cfg scoring) { s with recent := [] } access).1 := by
      rw [findExisting_of_nil hnil, findExisting_empty]
    constructor
    · exact fun ht => ⟨hrecent.mp ht.recent, fun hne => absurd hnil hne, fun hne => absurd hnil hne⟩
    · intro ha
      exact ⟨hrecent.mpr ha.recent, fun item => by rw [hsame], by rw [hsame]⟩
  · have hown : Held s (ownCached s access) := hcached.sublist List.filter_sublist
    have hnewest : Held s (ownNewest s access) :=
      (held_newest h 100).sublist List.filter_sublist
    have hlookup : (∀ item, item ∈ (findExistingPreferences (scored cfg scoring) s access).1 ↔
          item ∈ (findExistingPreferences (scored cfg scoring) { s with recent := [] } access).1) ↔
        SameIds (ownCached s access) (ownNewest s access) := by
      rw [findExisting_of_ne_nil hnil, findExisting_empty]
      exact ⟨sameIds_of_mem_iff, fun hids => hown.mem_iff hnewest hids⟩
    have hresolved (hids : SameIds (ownCached s access) (ownNewest s access)) :
        resolve (scored cfg scoring) (findExistingPreferences (scored cfg scoring) s access).1
            access draft =
          resolve (scored cfg scoring)
            (findExistingPreferences (scored cfg scoring) { s with recent := [] } access).1
            access draft ↔
        (scoring.hasTerms draft.content = true →
          (ownCached s access).find? (scoring.leads draft.content (ownCached s access)) =
            (ownNewest s access).find? (scoring.leads draft.content (ownNewest s access))) := by
      rw [findExisting_of_ne_nil hnil, findExisting_empty, resolve_scored, resolve_scored]
      by_cases hterms : scoring.hasTerms draft.content = true
      · rw [if_pos hterms, if_pos hterms]
        have hmem := hown.mem_iff hnewest hids
        rw [leads_congr hmem]
        set leads := scoring.leads draft.content (ownNewest s access)
        constructor
        · intro hout _
          cases hleft : (ownCached s access).find? leads with
          | none =>
              symm
              rw [List.find?_eq_none] at hleft ⊢
              exact fun item hitem => hleft item ((hmem item).mpr hitem)
          | some best =>
              have hbest : best ∈ ownNewest s access :=
                (hmem best).mp (List.mem_of_find?_eq_some hleft)
              cases hright : (ownNewest s access).find? leads with
              | none =>
                  exact absurd (List.find?_some hleft)
                    ((List.find?_eq_none.mp hright) best hbest)
              | some other =>
                  rw [hleft, hright] at hout
                  have hid : best.id = other.id :=
                    outcome_inj (scoring.relate_ne_new _ _) (scoring.relate_ne_new _ _) hout
                  have hother := hnewest.stored other (List.mem_of_find?_eq_some hright)
                  rw [← hid, hnewest.stored best hbest] at hother
                  exact hother
        · intro hfirst
          rw [hfirst hterms]
      · rw [if_neg hterms, if_neg hterms]
        exact iff_of_true rfl fun ht => absurd ht hterms
    constructor
    · intro ht
      have hids := hlookup.mp ht.lookup
      exact ⟨hrecent.mp ht.recent, fun _ => hids, fun _ => (hresolved hids).mp ht.resolved⟩
    · intro ha
      have hids := ha.lookup hnil
      exact ⟨hrecent.mpr ha.recent, hlookup.mpr hids, (hresolved hids).mpr (ha.first hnil)⟩

end Exact

end MemoryController

end Samaktha
