import Samaktha.Memory.Forgetting
import Samaktha.Memory.Transparency

/-!
# Preferences and the scope of their writer

`write_preference` revises a preference that it looks up by type, owner and scope.  From any stored
content, and after any operations, what the lookup finds is the store's own item
(`coherent_of_run`): so a revision changes that item alone, in the store as in the cache, and a
deleted one does not come back.  But the lookup asks neither for the profile of an item nor for the
clearance of the caller, which the security manager asks for before it shows the item: a write stays
in scope exactly where every preference in sight that fails these two is passed by, because the new
text has too little in common with it or more with another one (`preference_scope_iff`).
-/

namespace Samaktha

namespace MemoryController

open SecurityManager ContextMemoryStore MemoryRetriever

variable {Score : Type} {cfg : MemoryConfig Score}

/-! ## Any stored content -/

/-- A memory manager whose store holds each item under its id. -/
structure StoredContent where
  manager : MemoryManager
  keyed : Dict.KeyedBy MemoryItem.id manager.items

/-- A new controller on a memory manager. -/
def opened (content : StoredContent) : MemoryState Score := { manager := content.manager }

/-- The recent cache agrees with the store, and no forgotten memory is in the store. -/
structure Coherent (s : MemoryState Score) : Prop where
  agrees : Agrees s.manager.items s.recent
  gone : ∀ id ∈ s.forgotten, Dict.get? s.manager.items id = none

lemma coherent_opened (content : StoredContent) : Coherent (opened content : MemoryState Score) :=
  ⟨⟨content.keyed.keyed, content.keyed.nodup, List.nodup_nil, fun _ _ hget => by cases hget⟩,
    fun _ hid => by cases hid⟩

section Coherent

variable {s : MemoryState Score}

lemma Coherent.put (h : Coherent s) (item : MemoryItem) {manager : MemoryManager}
    (hitems : manager.items = Dict.set s.manager.items item.id item)
    (retrievals : Dict String (CachedResult Score)) :
    Coherent { s with
      manager := manager
      recent := storeRecent cfg s.recent item.id (some item)
      retrievals := retrievals
      forgotten := s.forgotten.filter (· ≠ item.id) } := by
  refine ⟨?_, ?_⟩
  · rw [hitems]
    exact agrees_put h.agrees item
  · rw [hitems]
    exact get?_set_of_mem_filter h.gone

lemma Coherent.storeNew (h : Coherent s) {item : MemoryItem}
    (hpolicy : item.retentionPolicy = "normal") : Coherent (storeNew cfg s item) := by
  have hlasting : item.retentionPolicy ≠ "temporary" := by
    rw [hpolicy]
    decide
  exact h.put item (if_neg hlasting) _

lemma Coherent.withRecent (h : Coherent s) {recent : RecentCache}
    (hrecent : Agrees s.manager.items recent) : Coherent { s with recent := recent } :=
  ⟨hrecent, h.gone⟩

lemma Coherent.remove (h : Coherent s) (id : String) : Coherent (remove cfg s id) :=
  ⟨agrees_drop h.agrees id, get?_erase_of_mem_insert h.gone id⟩

lemma Coherent.lifecycleDelete (h : Coherent s) (id : String) :
    Coherent (lifecycleDelete cfg s id) := by
  unfold MemoryController.lifecycleDelete
  split
  · exact h.remove id
  · exact h

lemma Coherent.write (h : Coherent s) (kind : MemoryKind) (access : MemoryAccessContext)
    (draft : MemoryDraft) : Coherent (write cfg s kind access draft) := by
  unfold MemoryController.write
  split
  · exact h.storeNew rfl
  · exact h

end Coherent

/-! ## The preference that is revised -/

/-- The existing preference that a later one revises: the one that `_classify` finds, unless the
two contradict each other. -/
def canonical (cfg : MemoryConfig Score) (existing : List MemoryItem) (draft : MemoryDraft) :
    Option MemoryItem :=
  match (cfg.classify draft.content existing).bind fun found =>
      existing[found.1]?.map fun best => (best, found.2) with
  | some (_, .contradict) => none
  | some (_, .new) => none
  | some (best, _) => some best
  | none => none

/-- `resolve` builds a new item, or revises the canonical one. -/
lemma resolve_spec (cfg : MemoryConfig Score) (existing : List MemoryItem)
    (access : MemoryAccessContext) (draft : MemoryDraft) :
    (canonical cfg existing draft = none ∧ ∃ item, item.id = draft.id ∧
        item.retentionPolicy = "normal" ∧ resolve cfg existing access draft = (item, true)) ∨
      ∃ best ∈ existing, canonical cfg existing draft = some best ∧ ∃ relation,
        resolve cfg existing access draft = (revise best draft relation, false) := by
  unfold resolve canonical
  generalize hfound : (cfg.classify draft.content existing).bind _ = found
  cases found with
  | none => exact .inl ⟨rfl, _, rfl, rfl, rfl⟩
  | some pair =>
      obtain ⟨best, relation⟩ := pair
      have hbest : best ∈ existing := by
        obtain ⟨⟨i, relation'⟩, -, hsome⟩ := Option.bind_eq_some_iff.mp hfound
        obtain ⟨item, hitem, heq⟩ := Option.map_eq_some_iff.mp hsome
        obtain ⟨rfl, -⟩ := Prod.mk.inj heq
        exact List.mem_of_getElem? hitem
      cases relation with
      | new => exact .inl ⟨rfl, _, rfl, rfl, rfl⟩
      | contradict => exact .inl ⟨rfl, _, rfl, rfl, rfl⟩
      | reinforce => exact .inr ⟨best, hbest, rfl, .reinforce, rfl⟩
      | update => exact .inr ⟨best, hbest, rfl, .update, rfl⟩
      | replace => exact .inr ⟨best, hbest, rfl, .replace, rfl⟩

/-- What a `write_preference` returns, and whether it is new; nothing where it raises. -/
def preferenceAnswer (cfg : MemoryConfig Score) (s : MemoryState Score)
    (access : MemoryAccessContext) (draft : MemoryDraft) : Option (MemoryItem × Bool) :=
  if (checkWriteAccess cfg.accessRules "preference" draft.securityLevel).allowed then
    some (resolve cfg (findExistingPreferences cfg s access).1 access draft)
  else none

section Writes

variable {s : MemoryState Score}

variable (cfg) in
/-- What a `write_preference` does: nothing, or it stores a new item, or it stores the revision of
a preference that the lookup found, which the store has. -/
lemma writePreference_cases (h : Coherent s) (access : MemoryAccessContext) (draft : MemoryDraft) :
    (preferenceAnswer cfg s access draft = none ∧ writePreference cfg s access draft = s) ∨
      ∃ recent, Agrees s.manager.items recent ∧
        ((canonical cfg (findExistingPreferences cfg s access).1 draft = none ∧
          ∃ item, item.id = draft.id ∧ item.retentionPolicy = "normal" ∧
            preferenceAnswer cfg s access draft = some (item, true) ∧
            writePreference cfg s access draft = storeNew cfg { s with recent := recent } item) ∨
        ∃ best relation, canonical cfg (findExistingPreferences cfg s access).1 draft = some best ∧
          ownPreference access best = true ∧ Dict.get? s.manager.items best.id = some best ∧
          preferenceAnswer cfg s access draft = some (revise best draft relation, false) ∧
          writePreference cfg s access draft = { s with
            manager := s.manager.updateInPlace (revise best draft relation)
            recent := storeRecent cfg recent best.id (some (revise best draft relation))
            retrievals := []
            forgotten := s.forgotten.filter (· ≠ best.id) }) := by
  unfold preferenceAnswer writePreference
  split
  · obtain ⟨hagrees, hexisting⟩ := findExisting_spec cfg h.agrees access
    refine .inr ⟨_, hagrees, ?_⟩
    dsimp only
    rcases resolve_spec cfg (findExistingPreferences cfg s access).1 access draft with
      ⟨hnone, item, hid, hpolicy, hresolve⟩ | ⟨best, hbest, hsome, relation, hresolve⟩
    · rw [hresolve]
      exact .inl ⟨hnone, item, hid, hpolicy, rfl, rfl⟩
    · rw [hresolve]
      obtain ⟨key, hkey⟩ := hexisting best hbest
      have hown : ownPreference access best = true := by
        unfold findExistingPreferences at hbest
        split at hbest
        · exact (List.mem_filter.mp hbest).2
        · exact (List.mem_filter.mp hbest).2
      exact .inr ⟨best, relation, hsome, hown, h.agrees.get?_id hkey, rfl, rfl⟩
  · exact .inl ⟨rfl, rfl⟩

lemma items_revised {best : MemoryItem} (hbest : Dict.get? s.manager.items best.id = some best)
    (draft : MemoryDraft) (relation : PreferenceRelation) :
    (s.manager.updateInPlace (revise best draft relation)).items =
      Dict.set s.manager.items best.id (revise best draft relation) :=
  MemoryManager.items_updateInPlace _ (List.mem_map_of_mem (Dict.mem_of_get? hbest))

lemma Coherent.writePreference (h : Coherent s) (access : MemoryAccessContext)
    (draft : MemoryDraft) : Coherent (writePreference cfg s access draft) := by
  rcases writePreference_cases cfg h access draft with ⟨-, heq⟩ | ⟨recent, hrecent, hcases⟩
  · rw [heq]
    exact h
  · rcases hcases with ⟨-, item, -, hpolicy, -, heq⟩ | ⟨best, relation, -, -, hbest, -, heq⟩
    · rw [heq]
      exact (h.withRecent hrecent).storeNew hpolicy
    · rw [heq]
      exact (h.withRecent hrecent).put (revise best draft relation)
        (items_revised hbest draft relation) _

lemma Coherent.after [LinearOrder Score] (h : Coherent s) (move : MemoryMove) :
    Coherent (after cfg s move) := by
  cases move with
  | write kind access draft => exact h.write kind access draft
  | writePreference access draft => exact h.writePreference access draft
  | deleteMemory id access =>
      show Coherent (deleteMemory cfg s id access)
      unfold deleteMemory
      split
      · split
        · exact h.lifecycleDelete id
        · exact h
      · exact h
  | deleteByType memoryType =>
      exact List.foldlRecOn _ _ h fun s hs item _ => hs.lifecycleDelete item.id
  | expireOldMemories now =>
      exact List.foldlRecOn _ _ h fun s hs item _ => hs.remove item.id
  | deleteAll => exact ⟨agrees_deleteAll h.agrees, get?_deleteAll_of_mem h.gone⟩
  | clearCache =>
      exact ⟨⟨h.agrees.keyed, h.agrees.nodup, List.nodup_nil, fun _ _ hget => by cases hget⟩,
        h.gone⟩
  | retrieve now call =>
      show Coherent (retrieve cfg s now call).2
      unfold retrieve
      split
      · exact h
      · exact ⟨(candidates_spec h.agrees call).1, h.gone⟩
  | storeDocument record => exact ⟨h.agrees, h.gone⟩
  | setKnowledge entityType entities => exact ⟨h.agrees, h.gone⟩
  | retrieveRecent access n => exact h
  | retrieveSemantic access query topK => exact h

/-- From any stored content, after any operations. -/
lemma coherent_of_run [LinearOrder Score] (content : StoredContent) {moves : List MemoryMove}
    (hrun : (machine cfg).run (opened content) moves = some s) : Coherent s := by
  refine (machine cfg).run_invariant (I := Coherent) ?_ (coherent_opened content) hrun
  intro t move t' ht hstep
  obtain rfl : after cfg t move = t' := Option.some.inj hstep
  exact ht.after move

end Writes

/-! ## The scope of the writer -/

/-- The item belongs to the context's profile or to none, and the context is cleared for
preferences and for the item. -/
structure Admits (rules : Dict String SecurityLevel) (access : MemoryAccessContext)
    (item : MemoryItem) : Prop where
  profile : item.profileId = none ∨ item.profileId = access.profileId
  type : ((Dict.get? rules "preference").getD .low).rank ≤ access.securityLevel.rank
  level : item.privacyLevel.rank ≤ access.securityLevel.rank

lemma readable_iff_admits {rules : Dict String SecurityLevel} {access : MemoryAccessContext}
    {item : MemoryItem} (hown : ownPreference access item = true) :
    Readable rules access item ↔ Admits rules access item := by
  simp only [ownPreference, Bool.and_eq_true, decide_eq_true_eq] at hown
  obtain ⟨⟨htype, howner⟩, hscope⟩ := hown
  have hin : isInScope item access = true ↔
      item.profileId = none ∨ item.profileId = access.profileId := by
    simp only [isInScope, howner, hscope]
    cases item.profileId with
    | none => simp
    | some profile => simp
  have hread : (canReadItem rules item access).allowed = true ↔ isInScope item access = true ∧
      ((Dict.get? rules "preference").getD .low).rank ≤ access.securityLevel.rank ∧
      item.privacyLevel.rank ≤ access.securityLevel.rank := by
    unfold canReadItem checkReadAccess
    rw [htype, show (some "preference").filter (· ≠ "") = some "preference" from rfl]
    by_cases hscoped : isInScope item access = true
    · rw [if_pos hscoped, and_iff_right hscoped]
      dsimp only [Option.getD_some]
      split
      · rename_i hlow
        refine iff_of_false (by simp) ?_
        omega
      · split
        · rename_i hlow
          refine iff_of_false (by simp) ?_
          omega
        · refine iff_of_true rfl ?_
          omega
    · rw [if_neg hscoped]
      exact iff_of_false (by simp) fun h => hscoped h.1
  rw [Readable, hread, ← and_assoc, and_self, hin]
  exact ⟨fun h => ⟨h.1, h.2.1, h.2.2⟩, fun h => ⟨h.profile, h.type, h.level⟩⟩

/-- The preferences of the principal that a new one is compared with: the cached ones, or, if there
are none, those among the newest hundred items of the store. -/
def inSight (s : MemoryState Score) (access : MemoryAccessContext) : List MemoryItem :=
  if ownCached s access = [] then ownNewest s access else ownCached s access

lemma findExisting_inSight {s : MemoryState Score} {access : MemoryAccessContext} :
    (findExistingPreferences cfg s access).1 = inSight s access := by
  unfold inSight
  split
  · rename_i hnil
    exact findExisting_of_nil hnil
  · rename_i hcached
    exact findExisting_of_ne_nil hcached

/-- A new text passes the preference at a position by: it has no keywords, or too little in common
with it; or contradicts it; or has more in common with another one, or as much with an earlier
one. -/
def PassedBy [LinearOrder Score] (scoring : PreferenceScoring Score) (content : String)
    (existing : List MemoryItem) (i : ℕ) (item : MemoryItem) : Prop :=
  scoring.hasTerms content = false ∨
    scoring.overlap content item.content ≤ scoring.zero ∨
    scoring.overlap content item.content < scoring.threshold ∨
    scoring.relate content item.content = .contradict ∨
    (∃ other ∈ existing,
      scoring.overlap content item.content < scoring.overlap content other.content) ∨
    ∃ j < i, ∃ other, existing[j]? = some other ∧
      scoring.overlap content other.content = scoring.overlap content item.content

/-- What leads, first of all that do, and does not contradict the text is not passed by. -/
lemma not_passedBy_iff [LinearOrder Score] {scoring : PreferenceScoring Score} {content : String}
    {existing : List MemoryItem} {i : ℕ} {item : MemoryItem} (hi : existing[i]? = some item) :
    ¬ PassedBy scoring content existing i item ↔
      scoring.hasTerms content = true ∧ scoring.relate content item.content ≠ .contradict ∧
        scoring.leads content existing item = true ∧
        ∀ j < i, ∀ other, existing[j]? = some other →
          scoring.leads content existing other = false := by
  have hmem : item ∈ existing := List.mem_of_getElem? hi
  unfold PassedBy
  push Not
  rw [Bool.ne_false_iff, scoring.leads_eq_true_iff]
  constructor
  · rintro ⟨hterms, hzero, hthreshold, hrelate, hbest, hfirst⟩
    refine ⟨hterms, hrelate, ⟨hzero, hthreshold, hbest⟩, fun j hj other hother => ?_⟩
    refine Bool.eq_false_iff.mpr fun hleads => hfirst j hj other hother ?_
    exact le_antisymm (hbest other (List.mem_of_getElem? hother))
      ((scoring.leads_eq_true_iff.mp hleads).2.2 item hmem)
  · rintro ⟨hterms, hrelate, ⟨hzero, hthreshold, hbest⟩, hfirst⟩
    refine ⟨hterms, hzero, hthreshold, hrelate, hbest, fun j hj other hother hsame => ?_⟩
    have hleads : scoring.leads content existing other = true :=
      scoring.leads_eq_true_iff.mpr ⟨hsame ▸ hzero, hsame ▸ hthreshold, hsame ▸ hbest⟩
    exact Bool.false_ne_true ((hfirst j hj other hother).symm.trans hleads)

/-- The preference that is revised is the one that is not passed by. -/
lemma canonical_scored_iff [LinearOrder Score] {scoring : PreferenceScoring Score}
    {existing : List MemoryItem} {draft : MemoryDraft} {best : MemoryItem} :
    canonical (scored cfg scoring) existing draft = some best ↔
      ∃ i : ℕ, existing[i]? = some best ∧ ¬ PassedBy scoring draft.content existing i best := by
  have hfind : ∀ item, existing.find? (scoring.leads draft.content existing) = some item ↔
      ∃ i : ℕ, existing[i]? = some item ∧ scoring.leads draft.content existing item = true ∧
        ∀ j < i, ∀ other, existing[j]? = some other →
          scoring.leads draft.content existing other = false := by
    intro item
    rw [List.find?_eq_some_iff_getElem]
    constructor
    · rintro ⟨hleads, i, hi, hget, hfirst⟩
      refine ⟨i, List.getElem?_eq_some_iff.mpr ⟨hi, hget⟩, hleads, fun j hj other hother => ?_⟩
      obtain ⟨hlt, rfl⟩ := List.getElem?_eq_some_iff.mp hother
      simpa using hfirst j hj
    · rintro ⟨i, hi, hleads, hfirst⟩
      obtain ⟨hlt, hget⟩ := List.getElem?_eq_some_iff.mp hi
      refine ⟨hleads, i, hlt, hget, fun j hj => ?_⟩
      simpa using hfirst j hj _ (List.getElem?_eq_getElem (hj.trans hlt))
  have hcanonical : canonical (scored cfg scoring) existing draft = some best ↔
      scoring.hasTerms draft.content = true ∧
        scoring.relate draft.content best.content ≠ .contradict ∧
        existing.find? (scoring.leads draft.content existing) = some best := by
    have hclassify := scoring.classify_eq draft.content existing
    have hscored : (scored cfg scoring).classify = scoring.classify := rfl
    unfold canonical
    rw [hscored, hclassify]
    by_cases hterms : scoring.hasTerms draft.content = true
    · rw [if_pos hterms, and_iff_right hterms]
      cases existing.find? (scoring.leads draft.content existing) with
      | none => simp
      | some item =>
          rw [Option.map_some]
          have hnew := scoring.relate_ne_new draft.content item.content
          cases hrelate : scoring.relate draft.content item.content with
          | new => exact absurd hrelate hnew
          | contradict =>
              refine iff_of_false (fun h => by cases h) fun h => h.1 ?_
              rw [← Option.some.inj h.2, hrelate]
          | reinforce | update | replace =>
              constructor
              · intro h
                obtain rfl := Option.some.inj h
                rw [hrelate]
                exact ⟨by decide, rfl⟩
              · exact fun h => h.2
    · rw [if_neg hterms]
      exact iff_of_false (fun h => by cases h) fun h => hterms h.1
  rw [hcanonical, hfind]
  constructor
  · rintro ⟨hterms, hrelate, i, hi, hleads, hfirst⟩
    exact ⟨i, hi, (not_passedBy_iff hi).mpr ⟨hterms, hrelate, hleads, hfirst⟩⟩
  · rintro ⟨i, hi, hnot⟩
    obtain ⟨hterms, hrelate, hleads, hfirst⟩ := (not_passedBy_iff hi).mp hnot
    exact ⟨hterms, hrelate, i, hi, hleads, hfirst⟩

/-- A `write_preference` touches and returns a new memory, or one that is in scope and readable;
every other one stays, a deleted one does not come back, and an update is in the store. -/
structure StaysInScope (cfg : MemoryConfig Score) (s : MemoryState Score)
    (access : MemoryAccessContext) (draft : MemoryDraft) : Prop where
  fresh : ∀ item, preferenceAnswer cfg s access draft = some (item, true) →
    Dict.get? s.manager.items item.id = none
  readable : ∀ item, preferenceAnswer cfg s access draft = some (item, false) →
    Readable cfg.accessRules access item ∧ ∃ stored,
      Dict.get? s.manager.items item.id = some stored ∧ Readable cfg.accessRules access stored
  unchanged : ∀ id, (∀ result ∈ preferenceAnswer cfg s access draft, result.1.id ≠ id) →
    Dict.get? (writePreference cfg s access draft).manager.items id =
        Dict.get? s.manager.items id ∧
      Dict.get? (writePreference cfg s access draft).manager.rows id = Dict.get? s.manager.rows id
  deleted : ∀ id ∈ s.forgotten, (∀ result ∈ preferenceAnswer cfg s access draft, result.1.id ≠ id) ∧
    ∀ item, Dict.get? (writePreference cfg s access draft).recent id ≠ some (some item)
  updated : ∀ item, preferenceAnswer cfg s access draft = some (item, false) →
    Dict.get? (writePreference cfg s access draft).manager.items item.id = some item

/-- The id that is generated for a new memory was not used before. -/
structure NewId (s : MemoryState Score) (id : String) : Prop where
  unstored : Dict.get? s.manager.items id = none
  unforgotten : id ∉ s.forgotten

section Scope

variable {s : MemoryState Score} {access : MemoryAccessContext} {draft : MemoryDraft}

lemma not_recached {recent : RecentCache} {manager : MemoryManager}
    {retrievals : Dict String (CachedResult Score)} {touched id : String}
    (hafter : Coherent ({ s with
      manager := manager
      recent := recent
      retrievals := retrievals
      forgotten := s.forgotten.filter (· ≠ touched) } : MemoryState Score))
    (hid : id ∈ s.forgotten) (hne : touched ≠ id) (item : MemoryItem) :
    Dict.get? recent id ≠ some (some item) := by
  intro hget
  have hstored := hafter.agrees.agree id item hget
  have hmem : id ∈ s.forgotten.filter (· ≠ touched) :=
    List.mem_filter.mpr ⟨hid, by simpa using hne.symm⟩
  rw [hafter.gone id hmem] at hstored
  cases hstored

lemma staysInScope_denied (h : Coherent s) (hnone : preferenceAnswer cfg s access draft = none)
    (hwrite : writePreference cfg s access draft = s) : StaysInScope cfg s access draft := by
  refine ⟨fun item heq => ?_, fun item heq => ?_, fun id _ => ?_, fun id hgone => ⟨?_, ?_⟩,
    fun item heq => ?_⟩
  · rw [hnone] at heq
    cases heq
  · rw [hnone] at heq
    cases heq
  · rw [hwrite]
    exact ⟨rfl, rfl⟩
  · intro result hresult
    rw [hnone] at hresult
    cases hresult
  · intro item hget
    rw [hwrite] at hget
    have hstored := h.agrees.agree id item hget
    rw [h.gone id hgone] at hstored
    cases hstored
  · rw [hnone] at heq
    cases heq

lemma staysInScope_new (hfresh : NewId s draft.id) (h : Coherent s) {recent : RecentCache}
    (hrecent : Agrees s.manager.items recent) {item : MemoryItem} (hid : item.id = draft.id)
    (hpolicy : item.retentionPolicy = "normal")
    (hanswer : preferenceAnswer cfg s access draft = some (item, true))
    (hwrite : writePreference cfg s access draft = storeNew cfg { s with recent := recent } item) :
    StaysInScope cfg s access draft := by
  have hlasting : item.retentionPolicy ≠ "temporary" := by
    rw [hpolicy]
    decide
  have hitems : (writePreference cfg s access draft).manager.items =
      Dict.set s.manager.items item.id item := by
    rw [hwrite]
    exact if_neg hlasting
  have hafter : Coherent (storeNew cfg { s with recent := recent } item) :=
    (h.withRecent hrecent).storeNew hpolicy
  refine ⟨fun other heq => ?_, fun other heq => ?_, fun id hne => ?_, fun id hgone => ?_,
    fun other heq => ?_⟩
  · obtain ⟨rfl, -⟩ := Prod.mk.inj (Option.some.inj (hanswer.symm.trans heq))
    rw [hid]
    exact hfresh.unstored
  · rw [hanswer] at heq
    cases heq
  · have hother : item.id ≠ id := hne (item, true) hanswer
    rw [hitems, hwrite]
    exact ⟨Dict.get?_set_of_ne hother _ _, Dict.get?_set_of_ne hother _ _⟩
  · have hother : item.id ≠ id := fun heq => hfresh.unforgotten (by rw [← hid, heq]; exact hgone)
    refine ⟨fun result hresult => ?_, fun other => ?_⟩
    · rw [hanswer] at hresult
      obtain rfl := Option.some.inj hresult
      exact hother
    · rw [hwrite]
      exact not_recached hafter hgone hother other
  · rw [hanswer] at heq
    cases heq

/-- A write that revises a preference stays in scope if and only if the preference is readable. -/
lemma staysInScope_revised_iff (h : Coherent s) {recent : RecentCache}
    (hrecent : Agrees s.manager.items recent) {best : MemoryItem} {relation : PreferenceRelation}
    (hbest : Dict.get? s.manager.items best.id = some best)
    (hanswer : preferenceAnswer cfg s access draft = some (revise best draft relation, false))
    (hwrite : writePreference cfg s access draft = { s with
      manager := s.manager.updateInPlace (revise best draft relation)
      recent := storeRecent cfg recent best.id (some (revise best draft relation))
      retrievals := []
      forgotten := s.forgotten.filter (· ≠ best.id) }) :
    StaysInScope cfg s access draft ↔ Readable cfg.accessRules access best := by
  have hitems := items_revised hbest draft relation
  have hafter : Coherent { s with
      manager := s.manager.updateInPlace (revise best draft relation)
      recent := storeRecent cfg recent best.id (some (revise best draft relation))
      retrievals := []
      forgotten := s.forgotten.filter (· ≠ best.id) } :=
    (h.withRecent hrecent).put (revise best draft relation) hitems []
  have honly : ∀ item isNew, preferenceAnswer cfg s access draft = some (item, isNew) →
      item = revise best draft relation ∧ isNew = false := fun item isNew heq =>
    Prod.mk.inj (Option.some.inj (heq.symm.trans hanswer))
  constructor
  · intro hstays
    obtain ⟨-, stored, hstored, hreadable⟩ := hstays.readable _ hanswer
    have hsame : best = stored := Option.some.inj (hbest.symm.trans hstored)
    rw [hsame]
    exact hreadable
  · intro hreadable
    refine ⟨fun other heq => ?_, fun other heq => ?_, fun id hne => ?_, fun id hgone => ?_,
      fun other heq => ?_⟩
    · cases (honly other true heq).2
    · obtain ⟨rfl, -⟩ := honly other false heq
      exact ⟨hreadable, best, hbest, hreadable⟩
    · have hother : best.id ≠ id := hne _ hanswer
      rw [hwrite]
      refine ⟨?_, rfl⟩
      show Dict.get? (s.manager.updateInPlace (revise best draft relation)).items id = _
      rw [hitems]
      exact Dict.get?_set_of_ne hother _ _
    · have hother : best.id ≠ id := by
        rintro rfl
        rw [h.gone best.id hgone] at hbest
        cases hbest
      refine ⟨fun result hresult => ?_, fun other => ?_⟩
      · obtain ⟨heq, -⟩ := honly result.1 result.2 hresult
        rw [heq]
        exact hother
      · rw [hwrite]
        exact not_recached hafter hgone hother other
    · obtain ⟨rfl, -⟩ := honly other false heq
      rw [hwrite]
      show Dict.get? (s.manager.updateInPlace (revise best draft relation)).items _ = _
      rw [hitems]
      exact Dict.get?_set_self _ _ _

/-- From any stored content and after any operations, a `write_preference` stays in scope exactly
where every preference in sight that is of another profile, or above the clearance of the context,
is passed by. -/
theorem preference_scope_iff [LinearOrder Score] (scoring : PreferenceScoring Score)
    (content : StoredContent) (moves : List MemoryMove)
    (hrun : (machine (scored cfg scoring)).run (opened content) moves = some s)
    (access : MemoryAccessContext) (draft : MemoryDraft) (hfresh : NewId s draft.id) :
    StaysInScope (scored cfg scoring) s access draft ↔
      ((checkWriteAccess cfg.accessRules "preference" draft.securityLevel).allowed = true →
        ∀ (i : ℕ) (item : MemoryItem), (inSight s access)[i]? = some item →
          Admits cfg.accessRules access item ∨
            PassedBy scoring draft.content (inSight s access) i item) := by
  have h := coherent_of_run content hrun
  have hsight : (findExistingPreferences (scored cfg scoring) s access).1 = inSight s access :=
    findExisting_inSight
  have hrules : (scored cfg scoring).accessRules = cfg.accessRules := rfl
  have hcondition : (∀ (i : ℕ) (item : MemoryItem), (inSight s access)[i]? = some item →
        Admits cfg.accessRules access item ∨
          PassedBy scoring draft.content (inSight s access) i item) ↔
      ∀ best ∈ canonical (scored cfg scoring) (inSight s access) draft,
        Admits cfg.accessRules access best := by
    constructor
    · intro hall best hbest
      obtain ⟨i, hi, hnot⟩ := canonical_scored_iff.mp hbest
      exact (hall i best hi).resolve_right hnot
    · intro hall i item hi
      by_cases hpassed : PassedBy scoring draft.content (inSight s access) i item
      · exact .inr hpassed
      · exact .inl (hall item (canonical_scored_iff.mpr ⟨i, hi, hpassed⟩))
  rw [hcondition]
  rcases writePreference_cases (scored cfg scoring) h access draft with ⟨hnone, hwrite⟩ |
    ⟨recent, hrecent, ⟨hcanonical, item, hid, hpolicy, hanswer, hwrite⟩ |
    ⟨best, relation, hcanonical, hown, hbest, hanswer, hwrite⟩⟩
  · have hdenied : ¬ (checkWriteAccess cfg.accessRules "preference" draft.securityLevel).allowed =
        true := by
      intro hallowed
      rw [preferenceAnswer, hrules, if_pos hallowed] at hnone
      cases hnone
    exact iff_of_true (staysInScope_denied h hnone hwrite) fun hallowed => absurd hallowed hdenied
  · rw [hsight] at hcanonical
    rw [hcanonical]
    have hstays := staysInScope_new hfresh h hrecent hid hpolicy hanswer hwrite
    exact iff_of_true hstays fun _ _ hsome => by cases hsome
  · have hallowed : (checkWriteAccess cfg.accessRules "preference" draft.securityLevel).allowed =
        true := by
      by_contra hdenied
      rw [preferenceAnswer, hrules, if_neg hdenied] at hanswer
      cases hanswer
    rw [hsight] at hcanonical
    rw [staysInScope_revised_iff h hrecent hbest hanswer hwrite, readable_iff_admits hown,
      hcanonical, imp_iff_right hallowed]
    exact ⟨fun hadmits _ hsome => Option.some.inj hsome ▸ hadmits, fun hall => hall best rfl⟩

end Scope

/-! ### One principal, two profiles -/

/-- A preference that repeats an existing one reinforces it. -/
def repeatScoring : PreferenceScoring ℕ where
  hasTerms _ := true
  overlap content other := if content = other then 1 else 0
  textSimilarity content other := if content = other then 1 else 0
  sharesEntity _ _ := false
  zero := 0
  threshold := 1
  reinforceAt := 1
  entityAt := 1
  updateAt := 1

def repeatConfig : MemoryConfig ℕ where
  similarity _ _ _ := none
  score _ _ _ := 0
  instantText _ := ""
  isDocumentHistoryQuery _ := false
  classify _ _ := none

def atWork : MemoryAccessContext := { principalId := "p", profileId := some "work" }

/-- The same somebody at home. -/
def atHome : MemoryAccessContext := { principalId := "p", profileId := some "home" }

/-- Nothing is stored. -/
def emptyContent : StoredContent := ⟨{}, ⟨List.nodup_nil, fun _ _ hmem => by cases hmem⟩⟩

/-- A preference that was written at work. -/
def workPreference : List MemoryMove :=
  [.writePreference atWork { id := "a", content := "I prefer tea", createdAt := 1 }]

/-- Written again at work, the preference is reinforced. -/
theorem preference_scope_sample :
    StaysInScope (scored repeatConfig repeatScoring)
      (after (scored repeatConfig repeatScoring) (opened emptyContent)
        (.writePreference atWork { id := "a", content := "I prefer tea", createdAt := 1 }))
      atWork { id := "b", content := "I prefer tea", createdAt := 2 } := by
  refine (preference_scope_iff repeatScoring emptyContent workPreference rfl _ _
    ⟨by decide, by decide⟩).mpr fun _ i item hitem => .inl ?_
  have hadmits : ∀ item ∈ inSight (after (scored repeatConfig repeatScoring) (opened emptyContent)
        (.writePreference atWork { id := "a", content := "I prefer tea", createdAt := 1 })) atWork,
      item.profileId = some "work" ∧ item.privacyLevel = .low := by
    decide
  obtain ⟨hprofile, hlevel⟩ := hadmits item (List.mem_of_getElem? hitem)
  refine ⟨.inr hprofile, by decide, ?_⟩
  rw [hlevel]
  decide

/-- Written at home, it reinforces and returns the preference of the other profile, which is not in
scope. -/
theorem preference_leaves_scope :
    ∃ s, (machine (scored repeatConfig repeatScoring)).run (opened emptyContent) workPreference =
        some s ∧
      NewId s "b" ∧ ¬ StaysInScope (scored repeatConfig repeatScoring) s atHome
        { id := "b", content := "I prefer tea", createdAt := 2 } := by
  refine ⟨_, rfl, ⟨by decide, by decide⟩, fun hstays => ?_⟩
  obtain ⟨hreadable, -⟩ := hstays.readable _ rfl
  exact absurd hreadable.1 (by decide)

end MemoryController

end Samaktha
