import Samaktha.Contracts.Memory

/-!
# The skill store

`SkillMemoryStore`: learned skills by id, their statistics and their lifecycle.  The arithmetic of
success rates is a parameter (`RateArithmetic`).  Left out are `updated_at`, which every operation
sets and none reads, the metrics, and the semantic index.

A record's success rate is the one that the model's validator would set (`settled`): the validator
runs when a record is built, and every change of the counts is followed by
`recompute_success_rate`.
-/

namespace Samaktha

/-- What is done with success rates. -/
class RateArithmetic (Rate : Type) where
  /-- `0.0`. -/
  zero : Rate
  /-- Is it equal to `0.0`? -/
  isZero : Rate → Bool
  /-- The quotient of two counts. -/
  quotient : ℤ → ℤ → Rate
  /-- Is it below 0.30? -/
  isLow : Rate → Bool

/-- A rate as the two counts it is the quotient of. -/
instance : RateArithmetic (ℤ × ℤ) where
  zero := (0, 1)
  isZero rate := rate.1 = 0
  quotient success total := (success, total)
  isLow rate := 10 * rate.1 < 3 * rate.2

inductive SkillConfidence where
  | high
  | medium
  | low
  deriving Repr, DecidableEq, Inhabited

/-- The position in `confidence_order`. -/
def SkillConfidence.index : SkillConfidence → ℕ
  | high => 0
  | medium => 1
  | low => 2

def SkillConfidence.decayed : SkillConfidence → SkillConfidence
  | high => medium
  | medium => low
  | low => low

inductive SkillLifecycleState where
  | active
  | deprecated
  | archived
  deriving Repr, DecidableEq, Inhabited

/-- A persisted skill pattern. -/
structure SkillRecord (Rate : Type) [RateArithmetic Rate] where
  skillId : String
  name : String
  description : String := ""
  category : String := ""
  confidence : SkillConfidence := .low
  createdAt : ℤ := 0
  lastUsedAt : Option ℤ := none
  sourcePlan : String := ""
  sourceTasks : List String := []
  tags : List String := []
  usageCount : ℤ := 0
  successCount : ℤ := 0
  failureCount : ℤ := 0
  successRate : Rate := RateArithmetic.zero
  lifecycleState : SkillLifecycleState := .active
  metadata : Dict String Json := []
  settled : 0 < successCount + failureCount → RateArithmetic.isZero successRate = true →
    successRate = RateArithmetic.quotient successCount (successCount + failureCount)

variable {Rate : Type} [RateArithmetic Rate]

namespace SkillRecord

/-- New counts, and `recompute_success_rate`. -/
def recount (skill : SkillRecord Rate) (success failure : ℤ) : SkillRecord Rate :=
  { skill with
    successCount := success
    failureCount := failure
    successRate := if 0 < success + failure then
        RateArithmetic.quotient success (success + failure)
      else RateArithmetic.zero
    settled := fun hpos _ => if_pos hpos }

def isActive (skill : SkillRecord Rate) : Bool := skill.lifecycleState = .active

def isArchived (skill : SkillRecord Rate) : Bool := skill.lifecycleState = .archived

def mergeDuplicate (existing new : SkillRecord Rate) : SkillRecord Rate :=
  { existing with
    usageCount := existing.usageCount + 1
    tags := (existing.tags ++ new.tags).eraseDups }.recount
      (existing.successCount + new.successCount) (existing.failureCount + new.failureCount)

/-- The use of an active skill. -/
def used (now : ℤ) (skill : SkillRecord Rate) : SkillRecord Rate :=
  if skill.isActive then
    { skill with usageCount := skill.usageCount + 1, lastUsedAt := some now }
  else skill

/-- A success of a skill. -/
def succeeded (skill : SkillRecord Rate) : SkillRecord Rate :=
  skill.recount (skill.successCount + 1) skill.failureCount

/-- `deprecate_skill`, of a skill that is not archived. -/
def markDeprecated (reason : String) (skill : SkillRecord Rate) : SkillRecord Rate :=
  if skill.isArchived then skill
  else
    { skill with
      lifecycleState := .deprecated
      metadata := if reason = "" then skill.metadata
        else Dict.set skill.metadata "deprecation_reason" (.str reason) }

/-- A failure of a skill, which is deprecated when its rate is low with enough data. -/
def failed (skill : SkillRecord Rate) : SkillRecord Rate :=
  let skill := skill.recount skill.successCount (skill.failureCount + 1)
  if 5 ≤ skill.successCount + skill.failureCount && RateArithmetic.isLow skill.successRate then
    skill.markDeprecated "auto: success rate below threshold"
  else skill

def archive (skill : SkillRecord Rate) : SkillRecord Rate :=
  { skill with lifecycleState := .archived }

/-- An active skill that was never used and is older than the cutoff. -/
def isStale (cutoff : ℤ) (skill : SkillRecord Rate) : Bool :=
  skill.isActive && skill.lastUsedAt.isNone && skill.createdAt < cutoff

/-- What `run_lifecycle_maintenance` does with one skill. -/
def maintained (cutoff : ℤ) (skill : SkillRecord Rate) : SkillRecord Rate :=
  if skill.isStale cutoff then
    let skill := { skill with confidence := skill.confidence.decayed }
    if skill.confidence = .low then
      skill.markDeprecated "auto: confidence decayed to LOW"
    else skill
  else skill

/-- What `merge_duplicate_skills` makes of the primary. -/
def absorb (primary duplicate : SkillRecord Rate) : SkillRecord Rate :=
  let primary := { primary with usageCount := primary.usageCount + duplicate.usageCount }.recount
    (primary.successCount + duplicate.successCount) (primary.failureCount + duplicate.failureCount)
  { primary with
    confidence := if duplicate.confidence.index < primary.confidence.index then
      duplicate.confidence else primary.confidence
    tags := (primary.tags ++ duplicate.tags).eraseDups
    createdAt := if duplicate.createdAt < primary.createdAt then duplicate.createdAt
      else primary.createdAt }

/-! ### What changes nothing -/

lemma used_eq_self_iff (now : ℤ) (skill : SkillRecord Rate) :
    skill.used now = skill ↔ skill.isActive = false := by
  unfold used
  split
  · rename_i hactive
    refine iff_of_false (fun h => ?_) (by rw [hactive]; exact Bool.true_eq_false_eq_False)
    have hcount : skill.usageCount + 1 = skill.usageCount := congrArg usageCount h
    omega
  · exact iff_of_true rfl (Bool.eq_false_iff.mpr ‹_›)

lemma succeeded_ne_self (skill : SkillRecord Rate) : skill.succeeded ≠ skill := by
  intro h
  have hcount : skill.successCount + 1 = skill.successCount := congrArg successCount h
  omega

@[simp] lemma failureCount_markDeprecated (reason : String) (skill : SkillRecord Rate) :
    (skill.markDeprecated reason).failureCount = skill.failureCount := by
  unfold markDeprecated
  split <;> rfl

lemma failed_ne_self (skill : SkillRecord Rate) : skill.failed ≠ skill := by
  intro h
  have hcount : skill.failed.failureCount = skill.failureCount + 1 := by
    unfold failed
    dsimp only
    split
    · exact failureCount_markDeprecated _ _
    · rfl
  rw [h] at hcount
  omega

lemma mergeDuplicate_ne_self (existing new : SkillRecord Rate) :
    existing.mergeDuplicate new ≠ existing := by
  intro h
  have hcount : existing.usageCount + 1 = existing.usageCount := congrArg usageCount h
  omega

lemma markDeprecated_eq_self_iff (reason : String) (skill : SkillRecord Rate) :
    skill.markDeprecated reason = skill ↔ skill.isArchived = true ∨
      (skill.lifecycleState = .deprecated ∧
        (reason = "" ∨ Dict.get? skill.metadata "deprecation_reason" = some (.str reason))) := by
  unfold markDeprecated
  split
  · rename_i harchived
    exact iff_of_true rfl (.inl harchived)
  · rename_i harchived
    rw [or_iff_right harchived]
    constructor
    · intro h
      refine ⟨(congrArg lifecycleState h).symm, ?_⟩
      by_cases hreason : reason = ""
      · exact .inl hreason
      · have hset : (if reason = "" then skill.metadata
            else Dict.set skill.metadata "deprecation_reason" (.str reason)) = skill.metadata :=
          congrArg metadata h
        rw [if_neg hreason] at hset
        exact .inr (hset ▸ Dict.get?_set_self _ _ _)
    · rintro ⟨hstate, hreason⟩
      have hmetadata : (if reason = "" then skill.metadata
          else Dict.set skill.metadata "deprecation_reason" (.str reason)) = skill.metadata := by
        split
        · rfl
        · exact Dict.set_eq_self (hreason.resolve_left ‹_›)
      rw [hmetadata, ← hstate]

lemma archive_eq_self_iff (skill : SkillRecord Rate) :
    skill.archive = skill ↔ skill.isArchived = true := by
  constructor
  · intro h
    exact decide_eq_true (congrArg lifecycleState h).symm
  · intro h
    unfold archive
    rw [← of_decide_eq_true h]

lemma maintained_eq_self_iff (cutoff : ℤ) (skill : SkillRecord Rate) :
    skill.maintained cutoff = skill ↔ skill.isStale cutoff = false := by
  unfold maintained
  split
  · rename_i hstale
    refine iff_of_false (fun h => ?_) (by rw [hstale]; exact Bool.true_eq_false_eq_False)
    have hactive : skill.lifecycleState = .active := by
      unfold isStale at hstale
      exact of_decide_eq_true (Bool.and_elim_left (Bool.and_elim_left hstale))
    dsimp only at h
    split at h
    · -- a skill of low confidence is deprecated
      have hstate : _ = skill.lifecycleState := congrArg lifecycleState h
      rw [markDeprecated, if_neg, hactive] at hstate
      · cases hstate
      · unfold isArchived
        rw [hactive]
        decide
    · rename_i hconfidence
      have hdecayed : skill.confidence.decayed = skill.confidence := congrArg confidence h
      cases hlevel : skill.confidence with
      | high => rw [hlevel] at hdecayed; cases hdecayed
      | medium => rw [hlevel] at hdecayed; cases hdecayed
      | low => exact hconfidence (by rw [hdecayed, hlevel])
  · exact iff_of_true rfl (Bool.eq_false_iff.mpr ‹_›)

/-! ### Ids -/

@[simp] lemma skillId_used (now : ℤ) (skill : SkillRecord Rate) :
    (skill.used now).skillId = skill.skillId := by
  unfold used
  split <;> rfl

@[simp] lemma skillId_markDeprecated (reason : String) (skill : SkillRecord Rate) :
    (skill.markDeprecated reason).skillId = skill.skillId := by
  unfold markDeprecated
  split <;> rfl

@[simp] lemma skillId_failed (skill : SkillRecord Rate) : skill.failed.skillId = skill.skillId := by
  unfold failed
  dsimp only
  split
  · exact skillId_markDeprecated _ _
  · rfl

@[simp] lemma skillId_maintained (cutoff : ℤ) (skill : SkillRecord Rate) :
    (skill.maintained cutoff).skillId = skill.skillId := by
  unfold maintained
  dsimp only
  split
  · split
    · exact skillId_markDeprecated _ _
    · rfl
  · rfl

end SkillRecord

/-! ## The store -/

namespace SkillMemoryStore

variable (skills : Dict String (SkillRecord Rate))

/-- `_find_duplicate`: the first skill of the same name and category. -/
def findDuplicate [Casing] (new : SkillRecord Rate) : Option (SkillRecord Rate) :=
  (skills.map Prod.snd).find? fun skill =>
    Casing.lower skill.name = Casing.lower new.name &&
      Casing.lower skill.category = Casing.lower new.category

def saveSkill [Casing] (skill : SkillRecord Rate) : Dict String (SkillRecord Rate) :=
  match findDuplicate skills skill with
  | some existing => Dict.set skills existing.skillId (existing.mergeDuplicate skill)
  | none => Dict.set skills skill.skillId skill

def updateSkill (skill : SkillRecord Rate) : Dict String (SkillRecord Rate) :=
  match Dict.get? skills skill.skillId with
  | some _ => Dict.set skills skill.skillId skill
  | none => skills

/-- A skill is changed in place, where it is stored. -/
def change (id : String) (f : SkillRecord Rate → SkillRecord Rate) :
    Dict String (SkillRecord Rate) :=
  match Dict.get? skills id with
  | some skill => Dict.set skills id (f skill)
  | none => skills

def recordSkillUse (now : ℤ) (id : String) : Dict String (SkillRecord Rate) :=
  change skills id (SkillRecord.used now)

def recordSkillSuccess (id : String) : Dict String (SkillRecord Rate) :=
  change skills id SkillRecord.succeeded

def recordSkillFailure (id : String) : Dict String (SkillRecord Rate) :=
  change skills id SkillRecord.failed

def deprecateSkill (id reason : String) : Dict String (SkillRecord Rate) :=
  change skills id (SkillRecord.markDeprecated reason)

def archiveSkill (id : String) : Dict String (SkillRecord Rate) :=
  change skills id SkillRecord.archive

/-- `run_lifecycle_maintenance`; there is no cutoff where `now - timedelta(days=stale_days)` is
not a date, which raises. -/
def runLifecycleMaintenance (cutoff : Option ℤ) : Dict String (SkillRecord Rate) :=
  match cutoff with
  | some cutoff => Dict.mapValues (SkillRecord.maintained cutoff) skills
  | none => skills

def mergeDuplicateSkills (primaryId duplicateId : String) : Dict String (SkillRecord Rate) :=
  match Dict.get? skills primaryId, Dict.get? skills duplicateId with
  | some primary, some duplicate =>
      if primaryId = duplicateId then skills
      else Dict.erase (Dict.set skills primaryId (primary.absorb duplicate)) duplicateId
  | _, _ => skills

/-! ### Skills are stored under their ids -/

variable {skills : Dict String (SkillRecord Rate)}

lemma findDuplicate_mem [Casing] {new existing : SkillRecord Rate}
    (h : findDuplicate skills new = some existing) : ∃ key, (key, existing) ∈ skills := by
  obtain ⟨⟨key, skill⟩, hmem, rfl⟩ := List.mem_map.mp (List.mem_of_find?_eq_some h)
  exact ⟨key, hmem⟩

lemma findDuplicate_ne_none [Casing] {id : String} {skill : SkillRecord Rate}
    (h : Dict.get? skills id = some skill) : findDuplicate skills skill ≠ none := by
  intro hnone
  have hmem : skill ∈ skills.map Prod.snd :=
    List.mem_map.mpr ⟨(id, skill), Dict.mem_of_get? h, rfl⟩
  refine List.find?_eq_none.mp hnone skill hmem ?_
  rw [decide_eq_true rfl, decide_eq_true rfl]
  rfl

lemma keyed_change (h : Dict.KeyedBy SkillRecord.skillId skills) (id : String)
    {f : SkillRecord Rate → SkillRecord Rate} (hf : ∀ skill, (f skill).skillId = skill.skillId) :
    Dict.KeyedBy SkillRecord.skillId (change skills id f) := by
  unfold change
  split
  · rename_i skill hget
    exact h.set ((hf skill).trans (h.eq_of_get? hget))
  · exact h

lemma keyed_saveSkill [Casing] (h : Dict.KeyedBy SkillRecord.skillId skills)
    (skill : SkillRecord Rate) :
    Dict.KeyedBy SkillRecord.skillId (saveSkill skills skill) := by
  unfold saveSkill
  split
  · rename_i existing hfind
    exact h.set (show (existing.mergeDuplicate skill).skillId = existing.skillId from rfl)
  · exact h.set rfl

lemma keyed_updateSkill (h : Dict.KeyedBy SkillRecord.skillId skills) (skill : SkillRecord Rate) :
    Dict.KeyedBy SkillRecord.skillId (updateSkill skills skill) := by
  unfold updateSkill
  split
  · exact h.set rfl
  · exact h

lemma keyed_runLifecycleMaintenance (h : Dict.KeyedBy SkillRecord.skillId skills)
    (cutoff : Option ℤ) :
    Dict.KeyedBy SkillRecord.skillId (runLifecycleMaintenance skills cutoff) := by
  cases cutoff with
  | none => exact h
  | some cutoff => exact h.mapValues (SkillRecord.skillId_maintained cutoff)

lemma keyed_mergeDuplicateSkills (h : Dict.KeyedBy SkillRecord.skillId skills)
    (primaryId duplicateId : String) :
    Dict.KeyedBy SkillRecord.skillId (mergeDuplicateSkills skills primaryId duplicateId) := by
  unfold mergeDuplicateSkills
  split
  · rename_i primary duplicate hprimary hduplicate
    split
    · exact h
    · have hid : primary.skillId = primaryId := h.eq_of_get? hprimary
      have habsorb : (primary.absorb duplicate).skillId = primaryId := hid
      exact (h.set habsorb).erase duplicateId
  · exact h

/-! ### Skills that read the same as the rows -/

variable {rows : Dict String (SkillRecord Rate)}

/-- A change in place is no change of the store exactly where it is no change of the skill. -/
lemma same_change_iff (h : ∀ id, Dict.get? skills id = Dict.get? rows id) (id : String)
    (f : SkillRecord Rate → SkillRecord Rate) :
    (∀ id', Dict.get? (change skills id f) id' = Dict.get? rows id') ↔
      ∀ skill, Dict.get? skills id = some skill → f skill = skill := by
  unfold change
  split
  · rename_i skill hget
    rw [Dict.same_set_left_iff h, hget]
    constructor
    · rintro hsame skill' hskill'
      obtain rfl := Option.some.inj hskill'
      exact (Option.some.inj hsame).symm
    · intro hsame
      rw [hsame skill rfl]
  · rename_i hnone
    refine iff_of_true h fun skill hskill => ?_
    rw [hnone] at hskill
    cases hskill

lemma saveSkill_changes [Casing] (hkeyed : Dict.KeyedBy SkillRecord.skillId skills)
    (h : ∀ id, Dict.get? skills id = Dict.get? rows id) (skill : SkillRecord Rate) :
    ¬∀ id, Dict.get? (saveSkill skills skill) id = Dict.get? rows id := by
  intro hstored
  unfold saveSkill at hstored
  split at hstored
  · rename_i existing hfind
    obtain ⟨key, hmem⟩ := findDuplicate_mem hfind
    have hmerged := (Dict.same_set_left_iff h _ _).mp hstored
    rw [hkeyed.get?_of_mem hmem] at hmerged
    exact existing.mergeDuplicate_ne_self skill (Option.some.inj hmerged).symm
  · rename_i hnone
    have hown := (Dict.same_set_left_iff h _ _).mp hstored
    exact findDuplicate_ne_none hown hnone

lemma same_updateSkill_iff (h : ∀ id, Dict.get? skills id = Dict.get? rows id)
    (skill : SkillRecord Rate) :
    (∀ id, Dict.get? (updateSkill skills skill) id = Dict.get? rows id) ↔
      ∀ stored, Dict.get? skills skill.skillId = some stored → stored = skill := by
  unfold updateSkill
  split
  · rename_i stored hget
    rw [Dict.same_set_left_iff h, hget]
    constructor
    · rintro hsame stored' hstored'
      exact (Option.some.inj hstored').symm.trans (Option.some.inj hsame)
    · intro hsame
      rw [hsame stored rfl]
  · rename_i hnone
    refine iff_of_true h fun stored hstored => ?_
    rw [hnone] at hstored
    cases hstored

lemma same_runLifecycleMaintenance_iff (h : ∀ id, Dict.get? skills id = Dict.get? rows id)
    (cutoff : Option ℤ) :
    (∀ id, Dict.get? (runLifecycleMaintenance skills cutoff) id = Dict.get? rows id) ↔
      ∀ cutoff', cutoff = some cutoff' → ∀ id skill, Dict.get? skills id = some skill →
        skill.isStale cutoff' = false := by
  cases cutoff with
  | none => exact iff_of_true h fun cutoff' hcutoff => by cases hcutoff
  | some cutoff =>
      have hmaintained (id : String) : Dict.get? (runLifecycleMaintenance skills (some cutoff)) id =
          (Dict.get? skills id).map (SkillRecord.maintained cutoff) :=
        Dict.get?_mapValues _ skills id
      constructor
      · rintro hsame cutoff' hcutoff' id skill hget
        obtain rfl := Option.some.inj hcutoff'
        have hid := hsame id
        rw [hmaintained, ← h id, hget] at hid
        exact (SkillRecord.maintained_eq_self_iff cutoff skill).mp (Option.some.inj hid)
      · intro hfresh id
        rw [hmaintained, ← h id]
        cases hget : Dict.get? skills id with
        | none => rfl
        | some skill =>
            have hskill := hfresh cutoff rfl id skill hget
            exact congrArg some ((SkillRecord.maintained_eq_self_iff cutoff skill).mpr hskill)

lemma same_mergeDuplicateSkills_iff (h : ∀ id, Dict.get? skills id = Dict.get? rows id)
    (primaryId duplicateId : String) :
    (∀ id, Dict.get? (mergeDuplicateSkills skills primaryId duplicateId) id =
        Dict.get? rows id) ↔
      Dict.get? skills primaryId = none ∨ Dict.get? skills duplicateId = none ∨
        primaryId = duplicateId := by
  unfold mergeDuplicateSkills
  split
  · rename_i primary duplicate hprimary hduplicate
    split
    · rename_i hids
      exact iff_of_true h (.inr (.inr hids))
    · rename_i hids
      refine iff_of_false (fun hsame => ?_) ?_
      · -- the row of the duplicate is left
        have hid := hsame duplicateId
        rw [Dict.get?_erase_self, ← h duplicateId, hduplicate] at hid
        cases hid
      · rintro (hnone | hnone | heq)
        · rw [hprimary] at hnone
          cases hnone
        · rw [hduplicate] at hnone
          cases hnone
        · exact hids heq
  · rename_i hmissing
    refine iff_of_true h ?_
    cases hprimary : Dict.get? skills primaryId with
    | none => exact .inl rfl
    | some primary =>
        cases hduplicate : Dict.get? skills duplicateId with
        | none => exact .inr (.inl rfl)
        | some duplicate => exact absurd hduplicate (hmissing primary duplicate hprimary)

end SkillMemoryStore

end Samaktha
