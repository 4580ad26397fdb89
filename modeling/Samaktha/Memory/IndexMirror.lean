import Samaktha.Foundation.Machine
import Samaktha.Memory.SemanticIndex
import Samaktha.Memory.Skills
import Samaktha.Memory.Store

/-!
# Stores and their semantic indexes

The context store and the skill store, each with its semantic index, as a machine whose moves are
the operations of the two stores.  `Mirrors` says that an index holds, for each stored item, what
its current text gives; `search_sound` says what a search can then return.

A text without a token leaves what was indexed before, and `merge_duplicate_skills` changes both
stores of a skill without its index.  `Reflected` excludes exactly these steps: a run takes no such
step if and only if the indexes mirror the stores all along (`mirrored_run_iff`).

What is indexed with an item is its category and the metadata that the model keeps as such:
`memory_type`, `retention_policy` and `created_at`, which are fields here, are named by no filter.
-/

namespace Samaktha

/-- A memory item with its category. -/
structure ContextItem extends MemoryItem where
  category : String := "conversation"
  deriving Inhabited

/-- The two stores with their indexes. -/
structure IndexedStores (Rate : Type) [RateArithmetic Rate] where
  items : Dict String ContextItem := []
  itemIndex : SemanticIndex := {}
  skills : Dict String (SkillRecord Rate) := []
  skillIndex : SemanticIndex := {}

namespace IndexedStores

open SemanticIndex

variable {Rate : Type} [RateArithmetic Rate]

def skillText (skill : SkillRecord Rate) : String :=
  skill.name ++ " " ++ skill.description ++ " " ++ " ".intercalate skill.tags

/-- The index after a skill was indexed. -/
def indexSkill (index : SemanticIndex) (skill : SkillRecord Rate) : SemanticIndex :=
  index.indexItem skill.skillId (skillText skill) [("category", .str skill.category)]

def itemText (item : ContextItem) : String := item.content

/-- The index after an item was indexed. -/
def indexContext (index : SemanticIndex) (item : ContextItem) : SemanticIndex :=
  index.indexItem item.id (itemText item)
    (Dict.update [("category", .str item.category)] item.metadata)

section

variable [Casing] (s : IndexedStores Rate)

/-- `save_context`, and `update_memory`, which is the same. -/
def saveContext (item : ContextItem) : IndexedStores Rate :=
  if item.retentionPolicy = "temporary" then s
  else { s with items := Dict.set s.items item.id item, itemIndex := indexContext s.itemIndex item }

/-- `update_memory` of a stored item that was changed in place: the store shows the change even
where the item is not saved. -/
def updateInPlace (item : ContextItem) : IndexedStores Rate :=
  match Dict.get? s.items item.id with
  | some _ => saveContext { s with items := Dict.set s.items item.id item } item
  | none => saveContext s item

def deleteMemory (id : String) : IndexedStores Rate :=
  match Dict.get? s.items id with
  | some _ => { s with items := Dict.erase s.items id, itemIndex := s.itemIndex.remove id }
  | none => s

/-- What a saved skill is stored as: the skill, or the stored one that it duplicates with what it
adds. -/
def savedAs (skills : Dict String (SkillRecord Rate)) (skill : SkillRecord Rate) :
    SkillRecord Rate :=
  match SkillMemoryStore.findDuplicate skills skill with
  | some existing => existing.mergeDuplicate skill
  | none => skill

def saveSkill (skill : SkillRecord Rate) : IndexedStores Rate :=
  { s with
    skills := SkillMemoryStore.saveSkill s.skills skill
    skillIndex := indexSkill s.skillIndex (savedAs s.skills skill) }

def updateSkill (skill : SkillRecord Rate) : IndexedStores Rate :=
  match Dict.get? s.skills skill.skillId with
  | some _ =>
      { s with
        skills := SkillMemoryStore.updateSkill s.skills skill
        skillIndex := indexSkill s.skillIndex skill }
  | none => s

def deleteSkill (id : String) : IndexedStores Rate :=
  match Dict.get? s.skills id with
  | some _ => { s with skills := Dict.erase s.skills id, skillIndex := s.skillIndex.remove id }
  | none => s

inductive Operation (Rate : Type) [RateArithmetic Rate] where
  | saveContext (item : ContextItem)
  | updateInPlace (item : ContextItem)
  | deleteMemory (id : String)
  | saveSkill (skill : SkillRecord Rate)
  | updateSkill (skill : SkillRecord Rate)
  | deleteSkill (id : String)
  | mergeDuplicateSkills (primaryId duplicateId : String)
  | recordSkillUse (now : ℤ) (id : String)
  | recordSkillSuccess (id : String)
  | recordSkillFailure (id : String)
  | deprecateSkill (id reason : String)
  | archiveSkill (id : String)
  | runLifecycleMaintenance (cutoff : Option ℤ)

/-- The stores after an operation. -/
def after : Operation Rate → IndexedStores Rate
  | .saveContext item => saveContext s item
  | .updateInPlace item => updateInPlace s item
  | .deleteMemory id => deleteMemory s id
  | .saveSkill skill => saveSkill s skill
  | .updateSkill skill => updateSkill s skill
  | .deleteSkill id => deleteSkill s id
  | .mergeDuplicateSkills primaryId duplicateId =>
      { s with skills := SkillMemoryStore.mergeDuplicateSkills s.skills primaryId duplicateId }
  | .recordSkillUse now id => { s with skills := SkillMemoryStore.recordSkillUse s.skills now id }
  | .recordSkillSuccess id => { s with skills := SkillMemoryStore.recordSkillSuccess s.skills id }
  | .recordSkillFailure id => { s with skills := SkillMemoryStore.recordSkillFailure s.skills id }
  | .deprecateSkill id reason =>
      { s with skills := SkillMemoryStore.deprecateSkill s.skills id reason }
  | .archiveSkill id => { s with skills := SkillMemoryStore.archiveSkill s.skills id }
  | .runLifecycleMaintenance cutoff =>
      { s with skills := SkillMemoryStore.runLifecycleMaintenance s.skills cutoff }

def machine (Rate : Type) [RateArithmetic Rate] :
    Machine (IndexedStores Rate) (Operation Rate) where
  step s operation := some (after s operation)

/-! ## The texts of skills -/

omit [Casing] in
lemma skillText_used (now : ℤ) (skill : SkillRecord Rate) :
    skillText (skill.used now) = skillText skill := by
  unfold SkillRecord.used
  split <;> rfl

omit [Casing] in
lemma skillText_markDeprecated (reason : String) (skill : SkillRecord Rate) :
    skillText (skill.markDeprecated reason) = skillText skill := by
  unfold SkillRecord.markDeprecated
  split <;> rfl

omit [Casing] in
lemma skillText_failed (skill : SkillRecord Rate) : skillText skill.failed = skillText skill := by
  unfold SkillRecord.failed
  dsimp only
  split
  · exact skillText_markDeprecated _ _
  · rfl

omit [Casing] in
lemma skillText_maintained (cutoff : ℤ) (skill : SkillRecord Rate) :
    skillText (skill.maintained cutoff) = skillText skill := by
  unfold SkillRecord.maintained
  dsimp only
  split
  · split
    · exact skillText_markDeprecated _ _
    · rfl
  · rfl

omit [Casing] in
lemma texts_change (skills : Dict String (SkillRecord Rate)) (id : String)
    {f : SkillRecord Rate → SkillRecord Rate} (hf : ∀ skill, skillText (f skill) = skillText skill)
    (c : String) : (Dict.get? (SkillMemoryStore.change skills id f) c).map skillText =
      (Dict.get? skills c).map skillText := by
  unfold SkillMemoryStore.change
  split
  · rename_i skill hget
    rw [Dict.get?_set]
    split
    · rename_i hid
      rw [← hid, hget]
      exact congrArg some (hf skill)
    · rfl
  · rfl

omit [Casing] in
lemma texts_runLifecycleMaintenance (skills : Dict String (SkillRecord Rate)) (cutoff : Option ℤ)
    (c : String) : (Dict.get? (SkillMemoryStore.runLifecycleMaintenance skills cutoff) c).map
      skillText =
      (Dict.get? skills c).map skillText := by
  cases cutoff with
  | none => rfl
  | some cutoff =>
      rw [SkillMemoryStore.runLifecycleMaintenance, Dict.get?_mapValues, Option.map_map]
      exact congrArg (Option.map · _) (funext (skillText_maintained cutoff))

/-! ## An index that mirrors a store -/

section Mirrors

variable {β : Type} {text : β → String} {items : Dict String β} {index : SemanticIndex}

/-- The index holds, for each id, what the text of the stored item gives. -/
def Mirrors (text : β → String) (items : Dict String β) (index : SemanticIndex) : Prop :=
  ∀ id, Dict.get? index.tokenVectors id = (Dict.get? items id).bind fun item => vectorOf (text item)

/-- What is stored under an id is replaced in the index: something is indexed for the new item, or
nothing was for the one before. -/
def Replaced (text : β → String) (items : Dict String β) (id : String) (item : β) : Prop :=
  vectorOf (text item) = none → ∀ old, Dict.get? items id = some old → vectorOf (text old) = none

omit [Casing] in
lemma mirrors_set_indexItem_iff (h : Mirrors text items index) (id : String) (item : β)
    (metadata : Dict String Json) :
    Mirrors text (Dict.set items id item) (index.indexItem id (text item) metadata) ↔
      Replaced text items id item := by
  constructor
  · intro hset hnone old hget
    have hid := hset id
    rw [get?_indexItem, Dict.get?_set_self, Option.bind_some, hnone] at hid
    rw [if_neg (fun hand => hand.2 rfl), h id, hget, Option.bind_some] at hid
    exact hid
  · intro hreplaced c
    rw [get?_indexItem, Dict.get?_set]
    by_cases hid : id = c
    · subst hid
      rw [if_pos rfl, Option.bind_some]
      cases hvector : vectorOf (text item) with
      | some tf => exact if_pos ⟨rfl, Option.some_ne_none tf⟩
      | none =>
          rw [if_neg (fun hand => hand.2 rfl), h id]
          cases hget : Dict.get? items id with
          | none => rfl
          | some old => exact hreplaced hvector old hget
    · rw [if_neg hid, if_neg (fun hand => hid hand.1)]
      exact h c

omit [Casing] in
/-- An item that is changed without its index keeps the mirror where its tokens stay. -/
lemma mirrors_set_iff (h : Mirrors text items index) {id : String} {old : β}
    (hget : Dict.get? items id = some old) (item : β) :
    Mirrors text (Dict.set items id item) index ↔ vectorOf (text item) = vectorOf (text old) := by
  constructor
  · intro hset
    have hid := hset id
    rw [Dict.get?_set_self, h id, hget] at hid
    exact hid.symm
  · intro hsame c
    rw [Dict.get?_set, h c]
    split
    · rename_i hid
      rw [← hid, hget]
      exact hsame.symm
    · rfl

omit [Casing] in
lemma Mirrors.remove (h : Mirrors text items index) (id : String) :
    Mirrors text (Dict.erase items id) (index.remove id) := by
  intro c
  rw [get?_remove, Dict.get?_erase, h c]
  split
  · rfl
  · rfl

omit [Casing] in
/-- An item that is removed without its index keeps the mirror where it was not indexed. -/
lemma mirrors_set_erase_iff (h : Mirrors text items index) {id id' : String} (hne : id ≠ id')
    {old gone : β} (hget : Dict.get? items id = some old) (hgone : Dict.get? items id' = some gone)
    (item : β) :
    Mirrors text (Dict.erase (Dict.set items id item) id') index ↔
      vectorOf (text gone) = none ∧ vectorOf (text item) = vectorOf (text old) := by
  constructor
  · intro herase
    have hid' := herase id'
    have hid := herase id
    rw [Dict.get?_erase_self, h id', hgone] at hid'
    rw [Dict.get?_erase_of_ne hne.symm, Dict.get?_set_self, h id, hget] at hid
    exact ⟨hid', hid.symm⟩
  · rintro ⟨hnone, hsame⟩ c
    rw [Dict.get?_erase]
    split
    · rename_i hid'
      rw [← hid', h id', hgone]
      exact hnone
    · exact (mirrors_set_iff h hget item).mpr hsame c

omit [Casing] in
lemma Mirrors.of_texts {items' : Dict String β} (h : Mirrors text items index)
    (htexts : ∀ id, (Dict.get? items' id).map text = (Dict.get? items id).map text) :
    Mirrors text items' index := by
  intro id
  rw [h id]
  have hbind (o : Option β) : (o.bind fun item => vectorOf (text item)) =
      (o.map text).bind vectorOf := by
    cases o with
    | none => rfl
    | some item => rfl
  rw [hbind, hbind, htexts id]

end Mirrors

/-! ## One operation -/

/-- The stores file what they hold under its id, and the indexes fit together. -/
structure Fits (s : IndexedStores Rate) : Prop where
  items : Dict.KeyedBy (fun item => item.id) s.items
  skills : Dict.KeyedBy SkillRecord.skillId s.skills
  itemIndex : Consistent s.itemIndex
  skillIndex : Consistent s.skillIndex

omit [Casing] in
lemma fits_empty : Fits ({} : IndexedStores Rate) :=
  ⟨Dict.KeyedBy.nil, Dict.KeyedBy.nil, consistent_empty, consistent_empty⟩

variable {s}

omit [Casing] in
lemma Fits.saveContext (h : Fits s) (item : ContextItem) : Fits (saveContext s item) := by
  unfold IndexedStores.saveContext
  split
  · exact h
  · exact { h with items := h.items.set rfl, itemIndex := h.itemIndex.indexItem _ _ _ }

lemma saveSkill_eq (skills : Dict String (SkillRecord Rate)) (skill : SkillRecord Rate) :
    SkillMemoryStore.saveSkill skills skill =
      Dict.set skills (savedAs skills skill).skillId (savedAs skills skill) := by
  unfold SkillMemoryStore.saveSkill savedAs
  cases SkillMemoryStore.findDuplicate skills skill with
  | none => rfl
  | some existing => rfl

lemma Fits.after (h : Fits s) (operation : Operation Rate) : Fits (after s operation) := by
  cases operation with
  | saveContext item => exact h.saveContext item
  | updateInPlace item =>
      change Fits (updateInPlace s item)
      unfold updateInPlace
      split
      · have hset : Fits { s with items := Dict.set s.items item.id item } :=
          { h with items := h.items.set rfl }
        exact hset.saveContext item
      · exact h.saveContext item
  | deleteMemory id =>
      change Fits (IndexedStores.deleteMemory s id)
      unfold IndexedStores.deleteMemory
      split
      · exact { h with items := h.items.erase id, itemIndex := h.itemIndex.remove id }
      · exact h
  | saveSkill skill =>
      exact { h with
        skills := SkillMemoryStore.keyed_saveSkill h.skills skill
        skillIndex := h.skillIndex.indexItem _ _ _ }
  | updateSkill skill =>
      change Fits (IndexedStores.updateSkill s skill)
      unfold IndexedStores.updateSkill
      split
      · exact { h with
          skills := SkillMemoryStore.keyed_updateSkill h.skills skill
          skillIndex := h.skillIndex.indexItem _ _ _ }
      · exact h
  | deleteSkill id =>
      change Fits (IndexedStores.deleteSkill s id)
      unfold IndexedStores.deleteSkill
      split
      · exact { h with skills := h.skills.erase id, skillIndex := h.skillIndex.remove id }
      · exact h
  | mergeDuplicateSkills primaryId duplicateId =>
      exact { h with
        skills := SkillMemoryStore.keyed_mergeDuplicateSkills h.skills primaryId duplicateId }
  | recordSkillUse now id =>
      exact { h with
        skills := SkillMemoryStore.keyed_change h.skills id (SkillRecord.skillId_used now) }
  | recordSkillSuccess id =>
      exact { h with skills := SkillMemoryStore.keyed_change h.skills id (fun _ => rfl) }
  | recordSkillFailure id =>
      exact { h with
        skills := SkillMemoryStore.keyed_change h.skills id SkillRecord.skillId_failed }
  | deprecateSkill id reason =>
      exact { h with
        skills := SkillMemoryStore.keyed_change h.skills id
          (SkillRecord.skillId_markDeprecated reason) }
  | archiveSkill id =>
      exact { h with skills := SkillMemoryStore.keyed_change h.skills id (fun _ => rfl) }
  | runLifecycleMaintenance cutoff =>
      exact { h with skills := SkillMemoryStore.keyed_runLifecycleMaintenance h.skills cutoff }

/-- The operation leaves no entry of an index behind: what it stores replaces what was indexed,
and what `merge_duplicate_skills` takes out or extends was not indexed or has the same tokens. -/
def Reflected (s : IndexedStores Rate) : Operation Rate → Prop
  | .saveContext item =>
      item.retentionPolicy = "temporary" ∨ Replaced itemText s.items item.id item
  | .updateInPlace item =>
      if item.retentionPolicy = "temporary" then
        ∀ old, Dict.get? s.items item.id = some old → vectorOf (itemText item) =
          vectorOf (itemText old)
      else Replaced itemText s.items item.id item
  | .saveSkill skill =>
      Replaced skillText s.skills (savedAs s.skills skill).skillId (savedAs s.skills skill)
  | .updateSkill skill => Replaced skillText s.skills skill.skillId skill
  | .mergeDuplicateSkills primaryId duplicateId =>
      ∀ primary duplicate, Dict.get? s.skills primaryId = some primary →
        Dict.get? s.skills duplicateId = some duplicate → primaryId ≠ duplicateId →
          vectorOf (skillText duplicate) = none ∧
            vectorOf (skillText
              { primary with tags := (primary.tags ++ duplicate.tags).eraseDups }) =
                vectorOf (skillText primary)
  | _ => True

/-- Both indexes mirror their stores. -/
def BothMirror (s : IndexedStores Rate) : Prop :=
  Mirrors itemText s.items s.itemIndex ∧ Mirrors skillText s.skills s.skillIndex

omit [Casing] in
lemma mirrors_saveContext_iff (h : Mirrors itemText s.items s.itemIndex) (item : ContextItem) :
    Mirrors itemText (saveContext s item).items (saveContext s item).itemIndex ↔
      item.retentionPolicy = "temporary" ∨ Replaced itemText s.items item.id item := by
  unfold saveContext
  split
  · rename_i htemporary
    exact iff_of_true h (.inl htemporary)
  · rename_i htemporary
    rw [or_iff_right htemporary]
    exact mirrors_set_indexItem_iff h item.id item _

lemma mirrors_updateInPlace_iff (h : Mirrors itemText s.items s.itemIndex) (item : ContextItem) :
    Mirrors itemText (updateInPlace s item).items (updateInPlace s item).itemIndex ↔
      Reflected s (.updateInPlace item) := by
  unfold updateInPlace Reflected
  by_cases htemporary : item.retentionPolicy = "temporary"
  · simp only [htemporary, if_true]
    split
    · rename_i old hget
      unfold saveContext
      simp only [htemporary, if_true]
      rw [mirrors_set_iff h hget, hget]
      exact ⟨fun hsame old' hold => Option.some.inj hold ▸ hsame, fun hall => hall old rfl⟩
    · rename_i hnone
      unfold saveContext
      simp only [htemporary, if_true, hnone]
      exact iff_of_true h fun old hold => by cases hold
  · simp only [htemporary, if_false]
    split
    · -- the change is overwritten by the save
      unfold saveContext
      simp only [htemporary, if_false]
      rw [Dict.set_set]
      exact mirrors_set_indexItem_iff h item.id item _
    · rw [mirrors_saveContext_iff h, or_iff_right htemporary]

omit [Casing] in
lemma mirrors_updateSkill_iff (h : Mirrors skillText s.skills s.skillIndex)
    (skill : SkillRecord Rate) :
    Mirrors skillText (updateSkill s skill).skills (updateSkill s skill).skillIndex ↔
      Replaced skillText s.skills skill.skillId skill := by
  unfold updateSkill
  split
  · rename_i old hget
    have hset : SkillMemoryStore.updateSkill s.skills skill =
        Dict.set s.skills skill.skillId skill := by
      rw [SkillMemoryStore.updateSkill, hget]
    simp only [hset]
    exact mirrors_set_indexItem_iff h skill.skillId skill _
  · rename_i hnone
    refine iff_of_true h fun _ old hold => ?_
    rw [hnone] at hold
    cases hold

lemma mirrors_saveSkill_iff (h : Mirrors skillText s.skills s.skillIndex)
    (skill : SkillRecord Rate) :
    Mirrors skillText (saveSkill s skill).skills (saveSkill s skill).skillIndex ↔
      Reflected s (.saveSkill skill) := by
  unfold saveSkill
  rw [saveSkill_eq]
  exact mirrors_set_indexItem_iff h _ _ _

lemma mirrors_mergeDuplicateSkills_iff (h : Mirrors skillText s.skills s.skillIndex)
    (primaryId duplicateId : String) :
    Mirrors skillText (SkillMemoryStore.mergeDuplicateSkills s.skills primaryId duplicateId)
        s.skillIndex ↔ Reflected s (.mergeDuplicateSkills primaryId duplicateId) := by
  unfold SkillMemoryStore.mergeDuplicateSkills Reflected
  split
  · rename_i primary duplicate hprimary hduplicate
    split
    · rename_i hids
      exact iff_of_true h fun _ _ _ _ hne => absurd hids hne
    · rename_i hids
      rw [mirrors_set_erase_iff h hids hprimary hduplicate]
      constructor
      · intro hkept primary' duplicate' hprimary' hduplicate' _
        obtain rfl := Option.some.inj (hprimary.symm.trans hprimary')
        obtain rfl := Option.some.inj (hduplicate.symm.trans hduplicate')
        exact hkept
      · exact fun hall => hall primary duplicate hprimary hduplicate hids
  · rename_i hnone
    refine iff_of_true h fun primary duplicate hprimary hduplicate _ => ?_
    exact absurd hduplicate (hnone primary duplicate hprimary)

/-- An operation keeps both mirrors exactly where it is reflected. -/
lemma bothMirror_after_iff (h : BothMirror s) (operation : Operation Rate) :
    BothMirror (after s operation) ↔ Reflected s operation := by
  obtain ⟨hitems, hskills⟩ := h
  have hchange (id : String) {f : SkillRecord Rate → SkillRecord Rate}
      (hf : ∀ skill, skillText (f skill) = skillText skill) :
      Mirrors skillText (SkillMemoryStore.change s.skills id f) s.skillIndex :=
    hskills.of_texts (texts_change s.skills id hf)
  cases operation with
  | saveContext item =>
      have hframe : Mirrors skillText (saveContext s item).skills
          (saveContext s item).skillIndex := by
        unfold saveContext
        split <;> exact hskills
      exact (and_iff_left hframe).trans (mirrors_saveContext_iff hitems item)
  | updateInPlace item =>
      have hframe : Mirrors skillText (updateInPlace s item).skills
          (updateInPlace s item).skillIndex := by
        unfold updateInPlace saveContext
        split <;> split <;> exact hskills
      exact (and_iff_left hframe).trans (mirrors_updateInPlace_iff hitems item)
  | deleteMemory id =>
      change BothMirror (deleteMemory s id) ↔ True
      unfold deleteMemory
      split
      · exact iff_of_true ⟨hitems.remove id, hskills⟩ trivial
      · exact iff_of_true ⟨hitems, hskills⟩ trivial
  | saveSkill skill => exact (and_iff_right hitems).trans (mirrors_saveSkill_iff hskills skill)
  | updateSkill skill =>
      have hframe : Mirrors itemText (updateSkill s skill).items
          (updateSkill s skill).itemIndex := by
        unfold updateSkill
        split <;> exact hitems
      exact (and_iff_right hframe).trans (mirrors_updateSkill_iff hskills skill)
  | deleteSkill id =>
      change BothMirror (deleteSkill s id) ↔ True
      unfold deleteSkill
      split
      · exact iff_of_true ⟨hitems, hskills.remove id⟩ trivial
      · exact iff_of_true ⟨hitems, hskills⟩ trivial
  | mergeDuplicateSkills primaryId duplicateId =>
      exact (and_iff_right hitems).trans
        (mirrors_mergeDuplicateSkills_iff hskills primaryId duplicateId)
  | recordSkillUse now id => exact iff_of_true ⟨hitems, hchange id (skillText_used now)⟩ trivial
  | recordSkillSuccess id => exact iff_of_true ⟨hitems, hchange id (fun _ => rfl)⟩ trivial
  | recordSkillFailure id => exact iff_of_true ⟨hitems, hchange id skillText_failed⟩ trivial
  | deprecateSkill id reason =>
      exact iff_of_true ⟨hitems, hchange id (skillText_markDeprecated reason)⟩ trivial
  | archiveSkill id => exact iff_of_true ⟨hitems, hchange id (fun _ => rfl)⟩ trivial
  | runLifecycleMaintenance cutoff =>
      exact iff_of_true
        ⟨hitems, hskills.of_texts (texts_runLifecycleMaintenance s.skills cutoff)⟩ trivial

/-! ## Whole runs -/

section Search

variable {β : Type} (F : Type) [ScoreArithmetic F]

/-- What an index owes for a store: it holds what the current texts give, for each token the number
of indexed items that contain it, and a search returns stored items, each scored by its current
text. -/
structure Owed (text : β → String) (items : Dict String β) (index : SemanticIndex) : Prop where
  vectors : Mirrors text items index
  docFreq : ∀ token, Dict.get? index.docFreq token = held (documents index.tokenVectors token)
  search : ∀ query topK filters, ∀ hit ∈ (index.search query topK filters : List (String × F × _)),
    ∃ item, Dict.get? items hit.1 = some item ∧
      score? (fun token => (Dict.get? index.docFreq token).getD 0) index.tokenVectors.length
        (counter (tokenize query)) (counter (tokenize (text item))) = some hit.2

omit [Casing] in
lemma eq_counter_of_vectorOf {t : String} {tf : Dict String ℕ} (h : vectorOf t = some tf) :
    tf = counter (tokenize t) := by
  unfold vectorOf at h
  split at h
  · cases h
  · exact (Option.some.inj h).symm

omit [Casing] in
lemma mem_search {index : SemanticIndex} {query : String} {topK : ℕ}
    {filters : Dict String String} {hit : String × F × List String}
    (h : hit ∈ index.search query topK filters) :
    ∃ tf, (hit.1, tf) ∈ index.tokenVectors ∧
      score? (fun token => (Dict.get? index.docFreq token).getD 0) index.tokenVectors.length
        (counter (tokenize query)) tf = some hit.2 := by
  unfold SemanticIndex.search at h
  split at h
  · cases h
  · have hhits : hit ∈ index.hits query filters :=
      (List.mem_insertionSort _).mp (List.mem_of_mem_take h)
    obtain ⟨⟨id, tf⟩, hmem, hscored⟩ := List.mem_filterMap.mp hhits
    dsimp only at hscored
    split at hscored
    · obtain ⟨scored, hscore, rfl⟩ := Option.map_eq_some_iff.mp hscored
      exact ⟨tf, hmem, hscore⟩
    · cases hscored

omit [Casing] in
lemma owed_iff {text : β → String} {items : Dict String β} {index : SemanticIndex}
    (h : Consistent index) : Owed F text items index ↔ Mirrors text items index := by
  refine ⟨Owed.vectors, fun hmirrors => ⟨hmirrors, h.docFreq, ?_⟩⟩
  intro query topK filters hit hhit
  obtain ⟨tf, hmem, hscore⟩ := mem_search F hhit
  have hget := hmirrors hit.1
  rw [Dict.get?_of_mem h.nodup hmem] at hget
  obtain ⟨item, hitem, hvector⟩ := Option.bind_eq_some_iff.mp hget.symm
  exact ⟨item, hitem, by rw [← eq_counter_of_vectorOf hvector]; exact hscore⟩

def BothOwed (s : IndexedStores Rate) : Prop :=
  Owed F itemText s.items s.itemIndex ∧ Owed F skillText s.skills s.skillIndex

/-- The operations of a run are all reflected exactly where both indexes mirror their stores all
along. -/
theorem mirrored_run_iff (operations : List (Operation Rate)) :
    (machine Rate).Guarded Reflected {} operations ↔
      ∀ js t, js <+: operations → (machine Rate).run {} js = some t → BothOwed F t := by
  have hempty : BothMirror ({} : IndexedStores Rate) := ⟨fun _ => rfl, fun _ => rfl⟩
  have howed {t : IndexedStores Rate} (h : Fits t) : BothOwed F t ↔ BothMirror t :=
    and_congr (owed_iff F h.itemIndex) (owed_iff F h.skillIndex)
  refine (machine Rate).guarded_iff_forall (I := Fits) ?_ ?_ fits_empty
    ((howed fits_empty).mpr hempty)
  · rintro s operation t hs hstep
    obtain rfl := Option.some.inj hstep
    exact hs.after operation
  · intro s operation hs hboth
    rw [← bothMirror_after_iff ((howed hs).mp hboth) operation, ← howed (hs.after operation)]
    constructor
    · rintro hafter t hstep
      obtain rfl := Option.some.inj hstep
      exact hafter
    · exact fun hall => hall _ rfl

end Search

end

section

attribute [local instance] Casing.ascii

/-- An item is saved, and then updated to a text without a token. -/
def blanked : List (Operation (ℤ × ℤ)) :=
  [.saveContext { id := "note", content := "the door code" },
    .saveContext { id := "note", content := "..." }]

/-- Two skills are saved, and the second is merged into the first. -/
def merged : List (Operation (ℤ × ℤ)) :=
  [.saveSkill { skillId := "first", name := "deploy", settled := fun h => absurd h (by decide) },
    .saveSkill { skillId := "second", name := "release", settled := fun h => absurd h (by decide) },
    .mergeDuplicateSkills "first" "second"]

/-- The tokens of the text before stay, and so does a skill that was merged into another. -/
theorem index_keeps_what_is_gone :
    ¬ (∀ operations (t : IndexedStores (ℤ × ℤ)), (machine _).run {} operations = some t →
        Mirrors itemText t.items t.itemIndex) ∧
      ¬ (∀ operations (t : IndexedStores (ℤ × ℤ)), (machine _).run {} operations = some t →
        Mirrors skillText t.skills t.skillIndex) := by
  constructor
  · intro hall
    exact absurd (hall blanked _ rfl "note") (by decide +kernel)
  · intro hall
    exact absurd (hall merged _ rfl "second") (by decide +kernel)

end

end IndexedStores

end Samaktha
