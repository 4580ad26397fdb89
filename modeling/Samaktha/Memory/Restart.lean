import Samaktha.Foundation.Machine
import Samaktha.Memory.Skills
import Samaktha.Memory.Store

/-!
# Restarts of the memory manager

Every family of memories is kept twice, in a store and in rows of the repository, and a new
manager reads the rows.  Most changes of skills, every update of an item, and the merge of a
duplicate skill reach the store only; a temporary item and a merged duplicate leave a row behind.
So a manager and one rebuilt from its repository hold the same just as long as every operation
meets `Keeps` (`restart_iff`): as long as those operations find nothing to do.

A record of a skill that is saved is either the caller's own, or the very object that the store
holds; in the second case a merge changes it before it is written.  Left out are the timestamps
`updated_at`, and the calls that raise because metadata cannot be written as JSON.
-/

namespace Samaktha

variable {Rate : Type} [RateArithmetic Rate]

/-- The families of rows, by the prefix of their keys. -/
inductive RowFamily where
  | mem
  | doc
  | skill
  deriving Repr, DecidableEq, Inhabited

/-- A memory manager with its skills and their rows. -/
structure PersistentManager (Rate : Type) [RateArithmetic Rate] extends MemoryManager where
  skills : Dict String (SkillRecord Rate) := []
  skillRows : Dict String (SkillRecord Rate) := []
  /-- Whether the repository refuses an id that is in use under another key, as SQLite does. -/
  uniqueIds : Bool

/-- The record that `save_skill` is given. -/
inductive SkillArgument (Rate : Type) [RateArithmetic Rate] where
  | own (skill : SkillRecord Rate)
  /-- The object that the store holds under an id. -/
  | held (id : String)

/-- The record, before the call. -/
def SkillArgument.value (skills : Dict String (SkillRecord Rate)) :
    SkillArgument Rate → Option (SkillRecord Rate)
  | own skill => some skill
  | held id => Dict.get? skills id

/-- The record, after the call has changed the store. -/
def SkillArgument.written (skills : Dict String (SkillRecord Rate)) (skill : SkillRecord Rate) :
    SkillArgument Rate → SkillRecord Rate
  | own skill => skill
  | held id => (Dict.get? skills id).getD skill

/-- What is called on a manager, and its restart. -/
inductive MemoryOperation (Rate : Type) [RateArithmetic Rate] where
  | storeMemory (item : MemoryItem)
  | updateMemory (item : MemoryItem)
  | deleteMemory (id : String)
  | deleteMemoryByType (memoryType : String)
  | saveSkill (argument : SkillArgument Rate)
  | updateSkill (skill : SkillRecord Rate)
  | recordSkillUse (now : ℤ) (id : String)
  | recordSkillSuccess (id : String)
  | recordSkillFailure (id : String)
  | deprecateSkill (id reason : String)
  | archiveSkill (id : String)
  | mergeDuplicateSkills (primaryId duplicateId : String)
  | runLifecycleMaintenance (cutoff : Option ℤ)
  | storeDocument (now : ℤ) (record : DocumentRecord)
  | restart

namespace PersistentManager

open MemoryOperation

section

variable [Casing] (manager : PersistentManager Rate)

/-- The ids of the rows of the other families. -/
def idsElsewhere : RowFamily → List String
  | .mem => Dict.keys manager.documentRows ++ Dict.keys manager.skillRows
  | .doc => Dict.keys manager.rows ++ Dict.keys manager.skillRows
  | .skill => Dict.keys manager.rows ++ Dict.keys manager.documentRows

/-- The repository raises instead of writing a row. -/
def refuses (family : RowFamily) (id : String) : Bool :=
  manager.uniqueIds && id ∈ manager.idsElsewhere family

def storeMemory (item : MemoryItem) : PersistentManager Rate :=
  if manager.refuses .mem item.id then manager
  else { manager with toMemoryManager := manager.toMemoryManager.storeMemory item }

/-- `delete_memory_by_type`: of the thousand newest items. -/
def deleteMemoryByType (memoryType : String) : PersistentManager Rate :=
  let items := (ContextMemoryStore.getRecentContext manager.items 1000 true).filter fun item =>
    item.memoryType = some memoryType
  { manager with
    toMemoryManager := items.foldl (fun manager item => manager.deleteMemory item.id)
      manager.toMemoryManager }

/-- `save_skill`: the store first, then the row. -/
def saveSkill (argument : SkillArgument Rate) : PersistentManager Rate :=
  match argument.value manager.skills with
  | none => manager
  | some skill =>
      let skills := SkillMemoryStore.saveSkill manager.skills skill
      if manager.refuses .skill skill.skillId then { manager with skills := skills }
      else
        { manager with
          skills := skills
          skillRows := Dict.set manager.skillRows skill.skillId (argument.written skills skill) }

/-- `store_document`: the store first, then the row. -/
def storeDocument (now : ℤ) (record : DocumentRecord) : PersistentManager Rate :=
  let record := { record with updatedAt := now }
  if manager.refuses .doc record.documentId then
    { manager with documents := Dict.set manager.documents record.documentId record }
  else { manager with toMemoryManager := manager.toMemoryManager.storeDocument record }

/-- A new manager on the same repository: `_load_persisted_memories`. -/
def rebuilt : PersistentManager Rate where
  toMemoryManager := manager.toMemoryManager.rebuilt
  skills := Dict.ofList (manager.skillRows.map fun row => (row.2.skillId, row.2))
  skillRows := manager.skillRows
  uniqueIds := manager.uniqueIds

/-- The effect of an operation. -/
def after : MemoryOperation Rate → PersistentManager Rate
  | .storeMemory item => manager.storeMemory item
  | .updateMemory item =>
      { manager with toMemoryManager := manager.toMemoryManager.updateMemory item }
  | .deleteMemory id =>
      { manager with toMemoryManager := manager.toMemoryManager.deleteMemory id }
  | .deleteMemoryByType memoryType => manager.deleteMemoryByType memoryType
  | .saveSkill argument => manager.saveSkill argument
  | .updateSkill skill =>
      { manager with skills := SkillMemoryStore.updateSkill manager.skills skill }
  | .recordSkillUse now id =>
      { manager with skills := SkillMemoryStore.recordSkillUse manager.skills now id }
  | .recordSkillSuccess id =>
      { manager with skills := SkillMemoryStore.recordSkillSuccess manager.skills id }
  | .recordSkillFailure id =>
      { manager with skills := SkillMemoryStore.recordSkillFailure manager.skills id }
  | .deprecateSkill id reason =>
      { manager with skills := SkillMemoryStore.deprecateSkill manager.skills id reason }
  | .archiveSkill id => { manager with skills := SkillMemoryStore.archiveSkill manager.skills id }
  | .mergeDuplicateSkills primaryId duplicateId =>
      { manager with
        skills := SkillMemoryStore.mergeDuplicateSkills manager.skills primaryId duplicateId }
  | .runLifecycleMaintenance cutoff =>
      { manager with skills := SkillMemoryStore.runLifecycleMaintenance manager.skills cutoff }
  | .storeDocument now record => manager.storeDocument now record
  | .restart => manager.rebuilt

/-- A manager driven by its callers. -/
def machine : Machine (PersistentManager Rate) (MemoryOperation Rate) where
  step manager operation := some (manager.after operation)

/-- A manager on an empty repository. -/
def start (uniqueIds : Bool) : PersistentManager Rate where
  uniqueIds := uniqueIds

/-! ## The same after a restart -/

/-- A manager that is rebuilt from the repository holds the same. -/
structure SameAsRebuilt : Prop where
  items : ∀ id, Dict.get? manager.items id = Dict.get? manager.rebuilt.items id
  documents : ∀ id, Dict.get? manager.documents id = Dict.get? manager.rebuilt.documents id
  skills : ∀ id, Dict.get? manager.skills id = Dict.get? manager.rebuilt.skills id

/-- The operation changes the stores as it changes the rows. -/
def Keeps (manager : PersistentManager Rate) : MemoryOperation Rate → Prop
  | .storeMemory item => manager.refuses .mem item.id = true ∨
      item.retentionPolicy ≠ "temporary" ∨ Dict.get? manager.items item.id = some item
  | .updateMemory item => item.retentionPolicy = "temporary" ∨
      Dict.get? manager.items item.id = some item
  | .saveSkill argument => ∀ skill, argument.value manager.skills = some skill →
      manager.refuses .skill skill.skillId = false ∧
        ∀ existing, SkillMemoryStore.findDuplicate manager.skills skill = some existing →
          skill.skillId = existing.skillId ∧
            (argument = .own skill → skill = existing.mergeDuplicate skill)
  | .updateSkill skill => ∀ stored, Dict.get? manager.skills skill.skillId = some stored →
      stored = skill
  | .recordSkillUse _ id => ∀ skill, Dict.get? manager.skills id = some skill →
      skill.isActive = false
  | .recordSkillSuccess id | .recordSkillFailure id => Dict.get? manager.skills id = none
  | .deprecateSkill id reason => ∀ skill, Dict.get? manager.skills id = some skill →
      skill.isArchived = true ∨ (skill.lifecycleState = .deprecated ∧
        (reason = "" ∨ Dict.get? skill.metadata "deprecation_reason" = some (.str reason)))
  | .archiveSkill id => ∀ skill, Dict.get? manager.skills id = some skill →
      skill.isArchived = true
  | .mergeDuplicateSkills primaryId duplicateId => Dict.get? manager.skills primaryId = none ∨
      Dict.get? manager.skills duplicateId = none ∨ primaryId = duplicateId
  | .runLifecycleMaintenance cutoff => ∀ cutoff', cutoff = some cutoff' →
      ∀ id skill, Dict.get? manager.skills id = some skill → skill.isStale cutoff' = false
  | .storeDocument now record => manager.refuses .doc record.documentId = false ∨
      Dict.get? manager.documents record.documentId = some { record with updatedAt := now }
  | .deleteMemory _ | .deleteMemoryByType _ | .restart => True

/-! ## Rows and stores are keyed by ids -/

/-- Rows and skills are stored under their ids. -/
structure WellKeyed (manager : PersistentManager Rate) : Prop where
  rows : Dict.KeyedBy MemoryItem.id manager.rows
  documentRows : Dict.KeyedBy DocumentRecord.documentId manager.documentRows
  skillRows : Dict.KeyedBy SkillRecord.skillId manager.skillRows
  skills : Dict.KeyedBy SkillRecord.skillId manager.skills

variable {manager : PersistentManager Rate}

omit [Casing] in
lemma wellKeyed_start (uniqueIds : Bool) : WellKeyed (start uniqueIds : PersistentManager Rate) :=
  ⟨.nil, .nil, .nil, .nil⟩

omit [Casing] in
lemma WellKeyed.rebuilt_eq (h : WellKeyed manager) :
    manager.rebuilt.items = manager.rows ∧ manager.rebuilt.documents = manager.documentRows ∧
      manager.rebuilt.skills = manager.skillRows :=
  ⟨h.rows.ofList_eq, h.documentRows.ofList_eq, h.skillRows.ofList_eq⟩

omit [Casing] in
lemma WellKeyed.sameAsRebuilt_iff (h : WellKeyed manager) :
    manager.SameAsRebuilt ↔
      (∀ id, Dict.get? manager.items id = Dict.get? manager.rows id) ∧
      (∀ id, Dict.get? manager.documents id = Dict.get? manager.documentRows id) ∧
      (∀ id, Dict.get? manager.skills id = Dict.get? manager.skillRows id) := by
  obtain ⟨hitems, hdocuments, hskills⟩ := h.rebuilt_eq
  constructor
  · intro hsame
    exact ⟨hitems ▸ hsame.items, hdocuments ▸ hsame.documents, hskills ▸ hsame.skills⟩
  · rintro ⟨hsame, hsame', hsame''⟩
    exact ⟨hitems.symm ▸ hsame, hdocuments.symm ▸ hsame', hskills.symm ▸ hsame''⟩

omit [Casing] in
lemma WellKeyed.withSkills (h : WellKeyed manager) {skills : Dict String (SkillRecord Rate)}
    (hskills : Dict.KeyedBy SkillRecord.skillId skills) :
    WellKeyed { manager with skills := skills } :=
  ⟨h.rows, h.documentRows, h.skillRows, hskills⟩

omit [Casing] in
lemma skillId_written {before skills : Dict String (SkillRecord Rate)}
    (hbefore : Dict.KeyedBy SkillRecord.skillId before)
    (hskills : Dict.KeyedBy SkillRecord.skillId skills) {argument : SkillArgument Rate}
    {skill : SkillRecord Rate} (h : argument.value before = some skill) :
    (argument.written skills skill).skillId = skill.skillId := by
  cases argument with
  | own own =>
      obtain rfl := Option.some.inj h
      rfl
  | held id =>
      have hid : skill.skillId = id := hbefore.eq_of_get? h
      show ((Dict.get? skills id).getD skill).skillId = skill.skillId
      cases hget : Dict.get? skills id with
      | none => rfl
      | some found => exact (hskills.eq_of_get? hget).trans hid.symm

lemma WellKeyed.saveSkill (h : WellKeyed manager) (argument : SkillArgument Rate) :
    WellKeyed (manager.saveSkill argument) := by
  unfold PersistentManager.saveSkill
  split
  · exact h
  · rename_i skill hvalue
    have hskills := SkillMemoryStore.keyed_saveSkill h.skills skill
    dsimp only
    split
    · exact h.withSkills hskills
    · exact ⟨h.rows, h.documentRows, h.skillRows.set (skillId_written h.skills hskills hvalue),
        hskills⟩

omit [Casing] in
lemma deleteMemoryByType_induct {P : MemoryManager → Prop}
    (hdelete : ∀ manager id, P manager → P (manager.deleteMemory id)) (memoryType : String)
    (h : P manager.toMemoryManager) : P (manager.deleteMemoryByType memoryType).toMemoryManager :=
  List.foldlRecOn _ _ h fun deleted hdeleted item _ => hdelete deleted item.id hdeleted

theorem wellKeyed_after (h : WellKeyed manager) (operation : MemoryOperation Rate) :
    WellKeyed (manager.after operation) := by
  cases operation with
  | storeMemory item =>
      show WellKeyed (manager.storeMemory item)
      unfold PersistentManager.storeMemory
      split
      · exact h
      · exact ⟨h.rows.set rfl, h.documentRows, h.skillRows, h.skills⟩
  | updateMemory item => exact ⟨h.rows, h.documentRows, h.skillRows, h.skills⟩
  | deleteMemory id => exact ⟨h.rows.erase id, h.documentRows, h.skillRows, h.skills⟩
  | deleteMemoryByType memoryType =>
      have hrows := deleteMemoryByType_induct
        (P := fun deleted => Dict.KeyedBy MemoryItem.id deleted.rows)
        (fun deleted id hdeleted => hdeleted.erase id) memoryType h.rows
      have hdocuments := deleteMemoryByType_induct
        (P := fun deleted => Dict.KeyedBy DocumentRecord.documentId deleted.documentRows)
        (fun deleted id hdeleted => hdeleted) memoryType h.documentRows
      exact ⟨hrows, hdocuments, h.skillRows, h.skills⟩
  | saveSkill argument => exact h.saveSkill argument
  | updateSkill skill => exact h.withSkills (SkillMemoryStore.keyed_updateSkill h.skills skill)
  | recordSkillUse now id =>
      exact h.withSkills (SkillMemoryStore.keyed_change h.skills id (SkillRecord.skillId_used now))
  | recordSkillSuccess id =>
      exact h.withSkills (SkillMemoryStore.keyed_change h.skills id fun _ => rfl)
  | recordSkillFailure id =>
      exact h.withSkills (SkillMemoryStore.keyed_change h.skills id SkillRecord.skillId_failed)
  | deprecateSkill id reason =>
      exact h.withSkills (SkillMemoryStore.keyed_change h.skills id
        (SkillRecord.skillId_markDeprecated reason))
  | archiveSkill id =>
      exact h.withSkills (SkillMemoryStore.keyed_change h.skills id fun _ => rfl)
  | mergeDuplicateSkills primaryId duplicateId =>
      exact h.withSkills
        (SkillMemoryStore.keyed_mergeDuplicateSkills h.skills primaryId duplicateId)
  | runLifecycleMaintenance cutoff =>
      exact h.withSkills (SkillMemoryStore.keyed_runLifecycleMaintenance h.skills cutoff)
  | storeDocument now record =>
      show WellKeyed (manager.storeDocument now record)
      unfold PersistentManager.storeDocument
      dsimp only
      split
      · exact ⟨h.rows, h.documentRows, h.skillRows, h.skills⟩
      · exact ⟨h.rows, h.documentRows.set rfl, h.skillRows, h.skills⟩
  | restart =>
      refine ⟨h.rows, h.documentRows, h.skillRows, ?_⟩
      show Dict.KeyedBy SkillRecord.skillId manager.rebuilt.skills
      rw [h.rebuilt_eq.2.2]
      exact h.skillRows

/-! ## What each operation keeps -/

omit [Casing] in
/-- Only the skills are changed, in the store. -/
lemma WellKeyed.same_withSkills_iff (h : WellKeyed manager) (hsame : manager.SameAsRebuilt)
    {skills : Dict String (SkillRecord Rate)}
    (hskills : Dict.KeyedBy SkillRecord.skillId skills) :
    SameAsRebuilt { manager with skills := skills } ↔
      ∀ id, Dict.get? skills id = Dict.get? manager.skillRows id := by
  obtain ⟨hitems, hdocuments, -⟩ := h.sameAsRebuilt_iff.mp hsame
  rw [(h.withSkills hskills).sameAsRebuilt_iff]
  exact ⟨fun hafter => hafter.2.2, fun hafter => ⟨hitems, hdocuments, hafter⟩⟩

lemma same_storeMemory_iff (h : WellKeyed manager) (hsame : manager.SameAsRebuilt)
    (item : MemoryItem) :
    (manager.storeMemory item).SameAsRebuilt ↔ Keeps manager (.storeMemory item) := by
  obtain ⟨hitems, hdocuments, hskills⟩ := h.sameAsRebuilt_iff.mp hsame
  have hafter := wellKeyed_after h (.storeMemory item)
  show _ ↔ manager.refuses .mem item.id = true ∨ _
  simp only [after, PersistentManager.storeMemory] at hafter ⊢
  split at hafter <;> rename_i hrefuses
  · rw [if_pos hrefuses]
    exact iff_of_true hsame (.inl hrefuses)
  · rw [if_neg hrefuses, hafter.sameAsRebuilt_iff, or_iff_right hrefuses]
    simp only [MemoryManager.storeMemory, ContextMemoryStore.saveContext]
    split
    · rename_i htemporary
      rw [or_iff_right (not_not_intro htemporary)]
      have hrow := Dict.same_set_left_iff (fun id => (hitems id).symm) item.id item
      rw [← hitems item.id] at hrow
      constructor
      · rintro ⟨hitems', -, -⟩
        exact hrow.mp fun id => (hitems' id).symm
      · intro hstored
        exact ⟨fun id => (hrow.mpr hstored id).symm, hdocuments, hskills⟩
    · rename_i hlasting
      refine iff_of_true ⟨?_, hdocuments, hskills⟩ (.inl hlasting)
      exact (Dict.same_set_iff hitems item.id item item).mpr rfl

lemma same_updateMemory_iff (h : WellKeyed manager) (hsame : manager.SameAsRebuilt)
    (item : MemoryItem) :
    (manager.after (.updateMemory item)).SameAsRebuilt ↔ Keeps manager (.updateMemory item) := by
  obtain ⟨hitems, hdocuments, hskills⟩ := h.sameAsRebuilt_iff.mp hsame
  rw [(wellKeyed_after h (.updateMemory item)).sameAsRebuilt_iff]
  simp only [after, Keeps, MemoryManager.updateMemory, ContextMemoryStore.saveContext]
  split
  · rename_i htemporary
    exact iff_of_true ⟨hitems, hdocuments, hskills⟩ (.inl htemporary)
  · rename_i hlasting
    rw [Dict.same_set_left_iff hitems, or_iff_right hlasting]
    exact and_iff_left ⟨hdocuments, hskills⟩

lemma same_storeDocument_iff (h : WellKeyed manager) (hsame : manager.SameAsRebuilt) (now : ℤ)
    (record : DocumentRecord) :
    (manager.storeDocument now record).SameAsRebuilt ↔
      Keeps manager (.storeDocument now record) := by
  obtain ⟨hitems, hdocuments, hskills⟩ := h.sameAsRebuilt_iff.mp hsame
  have hafter := wellKeyed_after h (.storeDocument now record)
  show _ ↔ manager.refuses .doc record.documentId = false ∨ _
  simp only [after, PersistentManager.storeDocument] at hafter ⊢
  split at hafter <;> rename_i hrefuses
  · rw [if_pos hrefuses, hafter.sameAsRebuilt_iff, Dict.same_set_left_iff hdocuments, hrefuses,
      or_iff_right Bool.true_eq_false_eq_False]
    exact ⟨fun hboth => hboth.2.1, fun hstored => ⟨hitems, hstored, hskills⟩⟩
  · rw [if_neg hrefuses, hafter.sameAsRebuilt_iff]
    refine iff_of_true ⟨hitems, ?_, hskills⟩ (.inl (Bool.eq_false_iff.mpr hrefuses))
    exact (Dict.same_set_iff hdocuments _ _ _).mpr rfl

lemma same_deleteMemory (h : WellKeyed manager) (hsame : manager.SameAsRebuilt) (id : String) :
    (manager.after (.deleteMemory id)).SameAsRebuilt := by
  obtain ⟨hitems, hdocuments, hskills⟩ := h.sameAsRebuilt_iff.mp hsame
  rw [(wellKeyed_after h (.deleteMemory id)).sameAsRebuilt_iff]
  exact ⟨Dict.same_erase hitems id, hdocuments, hskills⟩

lemma same_deleteMemoryByType (h : WellKeyed manager) (hsame : manager.SameAsRebuilt)
    (memoryType : String) : (manager.deleteMemoryByType memoryType).SameAsRebuilt := by
  obtain ⟨hitems, hdocuments, hskills⟩ := h.sameAsRebuilt_iff.mp hsame
  have hafter : WellKeyed (manager.deleteMemoryByType memoryType) :=
    wellKeyed_after h (.deleteMemoryByType memoryType)
  have hitems' := deleteMemoryByType_induct
    (P := fun deleted => ∀ id, Dict.get? deleted.items id = Dict.get? deleted.rows id)
    (fun deleted id hdeleted => Dict.same_erase hdeleted id) memoryType hitems
  have hdocuments' := deleteMemoryByType_induct
    (P := fun deleted => ∀ id, Dict.get? deleted.documents id = Dict.get? deleted.documentRows id)
    (fun deleted id hdeleted => hdeleted) memoryType hdocuments
  exact hafter.sameAsRebuilt_iff.mpr ⟨hitems', hdocuments', hskills⟩

lemma same_rebuilt (h : WellKeyed manager) : manager.rebuilt.SameAsRebuilt := by
  obtain ⟨hitems, hdocuments, hskills⟩ := h.rebuilt_eq
  have hafter : WellKeyed manager.rebuilt := wellKeyed_after h .restart
  refine hafter.sameAsRebuilt_iff.mpr ⟨fun id => ?_, fun id => ?_, fun id => ?_⟩
  · rw [hitems]
    rfl
  · rw [hdocuments]
    rfl
  · rw [hskills]
    rfl

omit [Casing] in
lemma argument_cases {skill : SkillRecord Rate} {argument : SkillArgument Rate}
    (hkeyed : Dict.KeyedBy SkillRecord.skillId manager.skills)
    (h : argument.value manager.skills = some skill) :
    (argument = .own skill ∧ ∀ skills, argument.written skills skill = skill) ∨
      (argument ≠ .own skill ∧ Dict.get? manager.skills skill.skillId = some skill ∧
        ∀ skills stored,
          argument.written (Dict.set skills skill.skillId stored) skill = stored) := by
  cases argument with
  | own own =>
      obtain rfl := Option.some.inj h
      exact .inl ⟨rfl, fun skills => rfl⟩
  | held id =>
      obtain rfl : skill.skillId = id := hkeyed.eq_of_get? h
      refine .inr ⟨fun heq => (by cases heq), h, fun skills stored => ?_⟩
      show (Dict.get? (Dict.set skills skill.skillId stored) skill.skillId).getD skill = stored
      rw [Dict.get?_set_self]
      rfl

/-- Where the row is written, a saved skill reads the same in the store and in its row exactly
where it is new, or is merged into a skill of its own id and written as merged. -/
lemma same_saved_iff (h : WellKeyed manager) (hsame : manager.SameAsRebuilt)
    {argument : SkillArgument Rate} {skill : SkillRecord Rate}
    (hvalue : argument.value manager.skills = some skill) :
    (∀ id, Dict.get? (SkillMemoryStore.saveSkill manager.skills skill) id =
        Dict.get? (Dict.set manager.skillRows skill.skillId
          (argument.written (SkillMemoryStore.saveSkill manager.skills skill) skill)) id) ↔
      ∀ existing, SkillMemoryStore.findDuplicate manager.skills skill = some existing →
        skill.skillId = existing.skillId ∧
          (argument = .own skill → skill = existing.mergeDuplicate skill) := by
  have hskills := (h.sameAsRebuilt_iff.mp hsame).2.2
  have hargument := argument_cases h.skills hvalue
  unfold SkillMemoryStore.saveSkill
  split
  · rename_i existing hfind
    obtain ⟨key, hmem⟩ := SkillMemoryStore.findDuplicate_mem hfind
    have hexisting := h.skills.get?_of_mem hmem
    have hne := existing.mergeDuplicate_ne_self skill
    rw [hfind]
    constructor
    · rintro hstored existing' hexisting'
      obtain rfl := Option.some.inj hexisting'
      have hmerged := hstored existing.skillId
      rw [Dict.get?_set_self, Dict.get?_set] at hmerged
      split at hmerged
      · rename_i hid
        refine ⟨hid, fun hown => ?_⟩
        rcases hargument with ⟨-, hwritten⟩ | ⟨hheld, -⟩
        · rw [hwritten] at hmerged
          exact (Option.some.inj hmerged).symm
        · exact absurd hown hheld
      · -- the row of the skill that was merged into is left as it was
        rw [← hskills, hexisting] at hmerged
        exact absurd (Option.some.inj hmerged) hne
    · intro hkeeps
      obtain ⟨hid, hown⟩ := hkeeps existing rfl
      rw [← hid]
      refine (Dict.same_set_iff hskills _ _ _).mpr ?_
      rcases hargument with ⟨hargument, hwritten⟩ | ⟨-, -, hwritten⟩
      · rw [hwritten]
        exact (hown hargument).symm
      · exact (hwritten _ _).symm
  · rename_i hnone
    rw [hnone]
    have hwritten : argument.written (Dict.set manager.skills skill.skillId skill) skill =
      skill := by
      rcases hargument with ⟨-, hwritten⟩ | ⟨-, -, hwritten⟩
      · exact hwritten _
      · exact hwritten _ _
    rw [hwritten]
    refine iff_of_true ((Dict.same_set_iff hskills _ _ _).mpr rfl) fun existing hexisting => ?_
    cases hexisting

lemma same_saveSkill_iff (h : WellKeyed manager) (hsame : manager.SameAsRebuilt)
    (argument : SkillArgument Rate) :
    (manager.saveSkill argument).SameAsRebuilt ↔ Keeps manager (.saveSkill argument) := by
  obtain ⟨hitems, hdocuments, hskills⟩ := h.sameAsRebuilt_iff.mp hsame
  have hafter : WellKeyed (manager.saveSkill argument) := h.saveSkill argument
  show _ ↔ ∀ skill, argument.value manager.skills = some skill → _
  cases hvalue : argument.value manager.skills with
  | none =>
      have hnothing : manager.saveSkill argument = manager := by
        rw [PersistentManager.saveSkill, hvalue]
      rw [hnothing]
      exact iff_of_true hsame fun skill hskill => by cases hskill
  | some skill =>
      rw [PersistentManager.saveSkill, hvalue] at hafter ⊢
      dsimp only at hafter ⊢
      simp only [Option.some.injEq, forall_eq']
      split at hafter <;> rename_i hrefuses
      · -- the row is refused, after the store was changed
        rw [if_pos hrefuses, h.same_withSkills_iff hsame hafter.skills]
        refine iff_of_false (SkillMemoryStore.saveSkill_changes h.skills hskills skill) ?_
        rw [hrefuses]
        exact fun hkeeps => Bool.true_eq_false_eq_False hkeeps.1
      · rw [if_neg hrefuses, hafter.sameAsRebuilt_iff, and_iff_right hitems,
          and_iff_right hdocuments, and_iff_right (Bool.eq_false_iff.mpr hrefuses)]
        exact same_saved_iff h hsame hvalue

/-- A manager and one rebuilt from its repository hold the same after an operation exactly where
the operation found nothing to do that only one of them sees. -/
theorem same_after_iff (h : WellKeyed manager) (hsame : manager.SameAsRebuilt)
    (operation : MemoryOperation Rate) :
    (manager.after operation).SameAsRebuilt ↔ Keeps manager operation := by
  have hskills := (h.sameAsRebuilt_iff.mp hsame).2.2
  have hafter := wellKeyed_after h operation
  cases operation with
  | storeMemory item => exact same_storeMemory_iff h hsame item
  | updateMemory item => exact same_updateMemory_iff h hsame item
  | deleteMemory id => exact iff_of_true (same_deleteMemory h hsame id) trivial
  | deleteMemoryByType memoryType =>
      exact iff_of_true (same_deleteMemoryByType h hsame memoryType) trivial
  | saveSkill argument => exact same_saveSkill_iff h hsame argument
  | storeDocument now record => exact same_storeDocument_iff h hsame now record
  | restart => exact iff_of_true (same_rebuilt h) trivial
  | updateSkill skill =>
      refine (h.same_withSkills_iff hsame hafter.skills).trans ?_
      exact SkillMemoryStore.same_updateSkill_iff hskills skill
  | recordSkillUse now id =>
      refine (h.same_withSkills_iff hsame hafter.skills).trans ?_
      refine (SkillMemoryStore.same_change_iff hskills id _).trans ?_
      exact forall₂_congr fun skill _ => SkillRecord.used_eq_self_iff now skill
  | recordSkillSuccess id =>
      refine (h.same_withSkills_iff hsame hafter.skills).trans ?_
      refine (SkillMemoryStore.same_change_iff hskills id _).trans ?_
      rw [Keeps, Option.eq_none_iff_forall_ne_some]
      exact forall₂_congr fun skill _ => iff_false_intro skill.succeeded_ne_self
  | recordSkillFailure id =>
      refine (h.same_withSkills_iff hsame hafter.skills).trans ?_
      refine (SkillMemoryStore.same_change_iff hskills id _).trans ?_
      rw [Keeps, Option.eq_none_iff_forall_ne_some]
      exact forall₂_congr fun skill _ => iff_false_intro skill.failed_ne_self
  | deprecateSkill id reason =>
      refine (h.same_withSkills_iff hsame hafter.skills).trans ?_
      refine (SkillMemoryStore.same_change_iff hskills id _).trans ?_
      exact forall₂_congr fun skill _ => SkillRecord.markDeprecated_eq_self_iff reason skill
  | archiveSkill id =>
      refine (h.same_withSkills_iff hsame hafter.skills).trans ?_
      refine (SkillMemoryStore.same_change_iff hskills id _).trans ?_
      exact forall₂_congr fun skill _ => SkillRecord.archive_eq_self_iff skill
  | mergeDuplicateSkills primaryId duplicateId =>
      refine (h.same_withSkills_iff hsame hafter.skills).trans ?_
      exact SkillMemoryStore.same_mergeDuplicateSkills_iff hskills primaryId duplicateId
  | runLifecycleMaintenance cutoff =>
      refine (h.same_withSkills_iff hsame hafter.skills).trans ?_
      exact SkillMemoryStore.same_runLifecycleMaintenance_iff hskills cutoff

/-! ## Runs -/

/-- All along a run, a manager that is built on the repository holds what the running one holds,
exactly where every operation of the run meets `Keeps`. -/
theorem restart_iff (uniqueIds : Bool) (operations : List (MemoryOperation Rate)) :
    machine.Guarded Keeps (start uniqueIds) operations ↔
      ∀ earlier manager, earlier <+: operations →
        machine.run (start uniqueIds) earlier = some manager → manager.SameAsRebuilt := by
  refine machine.guarded_iff_forall (I := WellKeyed) ?_ ?_ (wellKeyed_start uniqueIds) ?_
  · intro manager operation manager' h hstep
    obtain rfl : manager.after operation = manager' := Option.some.inj hstep
    exact wellKeyed_after h operation
  · intro manager operation h hsame
    rw [← same_after_iff h hsame operation]
    constructor
    · intro hafter manager' hstep
      obtain rfl : manager.after operation = manager' := Option.some.inj hstep
      exact hafter
    · intro hall
      exact hall (manager.after operation) rfl
  · exact ⟨fun id => rfl, fun id => rfl, fun id => rfl⟩

end

/-! ### Changes that a restart forgets -/

section

attribute [local instance] Casing.ascii

lemma settled_learned : 0 < (0 : ℤ) + 0 →
    RateArithmetic.isZero (RateArithmetic.zero : ℤ × ℤ) = true →
    (RateArithmetic.zero : ℤ × ℤ) = RateArithmetic.quotient 0 (0 + 0) :=
  fun hpos => absurd hpos (Int.lt_irrefl 0)

/-- A learned skill that was never tried. -/
def learned (id name : String) : SkillRecord (ℤ × ℤ) where
  skillId := id
  name := name
  settled := settled_learned

/-- A use of a skill, an update of an item and a merge of duplicates are lost; a duplicate that
was merged away, and an item that was never stored, come back. -/
theorem restart_fails :
    (machine.run (start false) [.saveSkill (.own (learned "a" "sort")),
        .saveSkill (.own (learned "b" "Sort")), .recordSkillUse 1 "a"]).map (fun manager =>
      (manager.skills.map fun row => (row.1, row.2.usageCount),
        manager.rebuilt.skills.map fun row => (row.1, row.2.usageCount))) =
      some ([("a", 2)], [("a", 0), ("b", 0)]) ∧
    (machine.run (start false : PersistentManager (ℤ × ℤ)) [
        .storeMemory { id := "m", content := "old" },
        .updateMemory { id := "m", content := "new" },
        .storeMemory { id := "t", content := "code", retentionPolicy := "temporary" }]).map
      (fun manager => (manager.items.map fun row => (row.1, row.2.content),
        manager.rebuilt.items.map fun row => (row.1, row.2.content))) =
      some ([("m", "new")], [("m", "old"), ("t", "code")]) := by
  decide

end

end PersistentManager

end Samaktha
