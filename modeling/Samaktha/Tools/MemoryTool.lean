import Samaktha.Memory.Forgetting

/-!
# The memory tool forgets everything

The `delete_all` action of `MemoryTool`, as it is registered: with a memory controller and a
session manager.  It deletes one by one what `retrieve_recent` shows it, so an item that the
retriever does not show (another session's, another workspace's, one above the clearance, a
private one, one behind the newest hundred thousand) stays; `delete_memory` looks at the newest
thousand items of all principals, so an item behind a thousand others' stays too.  The sum over
the sessions asks for the loop variable before the loop has bound it, so the first session makes
it raise, what it raises is swallowed, and no session is ever deleted.

What is deleted is the principal's (`deleteEach_spec`), and `delete_all_forgets` says exactly when
it is everything.
-/

namespace Samaktha

open SecurityManager ContextMemoryStore MemoryRetriever MemoryController

/-- What the index of the session manager has of a session. -/
structure SessionMetadata where
  sessionId : String
  principalId : String := defaultLocalPrincipalId
  updatedAt : String := ""
  deriving Repr, DecidableEq, Inhabited

/-- The controller behind a memory tool, and the sessions of its session manager. -/
structure MemoryTool (Score : Type) where
  controller : MemoryState Score := {}
  sessions : Dict String SessionMetadata := []

structure DeleteAllResult where
  ok : Bool
  error : String := ""
  memories : ℕ := 0
  sessions : ℕ := 0
  deriving Repr, DecidableEq, Inhabited

namespace MemoryTool

variable {Score : Type} (cfg : MemoryConfig Score)

/-! ## The action -/

/-- `list_sessions`: the newest first, and of two of one time, the one with the greater id. -/
def listSessions (sessions : Dict String SessionMetadata) (principalId : String) :
    List SessionMetadata :=
  ((sessions.map Prod.snd).insertionSort fun x y => y.updatedAt < x.updatedAt ∨
    (y.updatedAt = x.updatedAt ∧ y.sessionId ≤ x.sessionId)).filter (·.principalId = principalId)

/-- The sum over the sessions, `none` where it raises.  It runs over
`list_sessions(…) and delete_session(meta.session_id, …)`, and `meta` is not bound there. -/
def forgetSessions (sessions : Dict String SessionMetadata) (principalId : String) : Option ℕ :=
  match listSessions sessions principalId with
  | [] => some 0
  | _ :: _ => none

/-- Whether `delete_memory` of the controller finds the memory and may delete it. -/
def deletes (s : MemoryState Score) (id : String) (access : MemoryAccessContext) : Bool :=
  match Dict.get? s.manager.items id with
  | some item =>
      isInScope item access && (getRecentContext s.manager.items 1000 true).any (·.id = id)
  | none => false

/-- The sum over the memories: how many are deleted, and the controller then. -/
def deleteEach (access : MemoryAccessContext) (s : MemoryState Score) :
    List MemoryItem → ℕ × MemoryState Score
  | [] => (0, s)
  | item :: rest =>
      let found := deleteEach access (deleteMemory cfg s item.id access) rest
      (if deletes s item.id access then found.1 + 1 else found.1, found.2)

/-- `retrieve_recent(n=100000)`. -/
def shown (s : MemoryState Score) (access : MemoryAccessContext) : List MemoryItem :=
  retrieveRecentOnly cfg s.manager access 100000

def deleteAll (tool : MemoryTool Score) (access : MemoryAccessContext) :
    DeleteAllResult × MemoryTool Score :=
  let deleted := deleteEach cfg access tool.controller (shown cfg tool.controller access)
  let sessions := (forgetSessions tool.sessions access.principalId).getD 0
  let result : DeleteAllResult :=
    if deleted.1 = 0 ∧ sessions = 0 then
      { ok := false, error := "Nothing was deleted: no memories or sessions found" }
    else { ok := true, memories := deleted.1, sessions := sessions }
  (result, { tool with controller := deleted.2 })

/-! ## What is deleted -/

section Deletions

variable {cfg} {s : MemoryState Score} {access : MemoryAccessContext}

/-- The items of a state, each under its id. -/
abbrev Keyed (s : MemoryState Score) : Prop := Dict.KeyedBy MemoryItem.id s.manager.items

lemma deleteMemory_eq (s : MemoryState Score) (id : String) (access : MemoryAccessContext) :
    deleteMemory cfg s id access = if deletes s id access then remove cfg s id else s := by
  unfold deleteMemory deletes
  cases Dict.get? s.manager.items id with
  | none => rfl
  | some item =>
      dsimp only
      have hiff : (isInScope item access &&
          (getRecentContext s.manager.items 1000 true).any (·.id = id)) = true ↔
          isInScope item access = true ∧
            id ∈ (getRecentContext s.manager.items 1000 true).map MemoryItem.id := by
        simp
      by_cases hscope : isInScope item access = true
      · rw [if_pos hscope, lifecycleDelete]
        by_cases hmem : id ∈ (getRecentContext s.manager.items 1000 true).map MemoryItem.id
        · rw [if_pos hmem, if_pos (hiff.mpr ⟨hscope, hmem⟩)]
        · rw [if_neg hmem, if_neg fun h => hmem (hiff.mp h).2]
      · rw [if_neg hscope, if_neg fun h => hscope (hiff.mp h).1]

lemma items_remove (s : MemoryState Score) (id : String) :
    (remove cfg s id).manager.items = Dict.erase s.manager.items id := rfl

/-- Only what is stored, in scope and among the newest thousand is deleted. -/
lemma deletes_iff (h : Keyed s) {item : MemoryItem} (hstored : Stored s.manager item) :
    deletes s item.id access = true ↔
      isInScope item access = true ∧
        newerCount s.manager.items (fun _ => true) item < 1000 := by
  obtain ⟨key, hmem⟩ := hstored
  have hget := h.get?_of_mem hmem
  rw [deletes, hget, Bool.and_eq_true, ← mem_getRecentContext_iff h hmem 1000]
  refine and_congr_right fun _ => ?_
  rw [List.any_eq_true]
  constructor
  · rintro ⟨other, hother, hid⟩
    -- an item with this id is this item
    obtain ⟨otherKey, hotherMem⟩ := mem_of_mem_getRecentContext hother
    have hsame := h.get?_of_mem hotherMem
    rw [of_decide_eq_true hid, hget] at hsame
    exact Option.some.inj hsame ▸ hother
  · exact fun hwindow => ⟨item, hwindow, decide_eq_true rfl⟩

lemma deletes_stored {id : String} (hdeletes : deletes s id access = true) :
    ∃ item, Dict.get? s.manager.items id = some item ∧ isInScope item access = true := by
  unfold deletes at hdeletes
  split at hdeletes
  · rename_i item hget
    exact ⟨item, hget, (Bool.and_eq_true_iff.mp hdeletes).1⟩
  · cases hdeletes

lemma keyed_deleteMemory (h : Keyed s) (id : String) :
    Keyed (deleteMemory cfg s id access) := by
  rw [deleteMemory_eq]
  split
  · exact h.erase id
  · exact h

/-- Every other principal's items stay, and nothing is added. -/
structure Confined (access : MemoryAccessContext) (s s' : MemoryState Score) : Prop where
  subset : ∀ kv ∈ s'.manager.items, kv ∈ s.manager.items
  others : ∀ kv ∈ s.manager.items, kv.2.ownerId ≠ access.principalId → kv ∈ s'.manager.items
  counts : ∀ item, newerCount s'.manager.items (fun other => other.ownerId ≠ access.principalId)
    item = newerCount s.manager.items (fun other => other.ownerId ≠ access.principalId) item
  fewer : ∀ item, newerCount s'.manager.items (fun _ => true) item ≤
    newerCount s.manager.items (fun _ => true) item

lemma Confined.refl (s : MemoryState Score) : Confined access s s :=
  ⟨fun _ h => h, fun _ h _ => h, fun _ => rfl, fun _ => le_rfl⟩

lemma Confined.trans {s' s'' : MemoryState Score} (h : Confined access s s')
    (h' : Confined access s' s'') : Confined access s s'' where
  subset kv hkv := h.subset kv (h'.subset kv hkv)
  others kv hkv howner := h'.others kv (h.others kv hkv howner) howner
  counts item := (h'.counts item).trans (h.counts item)
  fewer item := (h'.fewer item).trans (h.fewer item)

lemma confined_deleteMemory (h : Keyed s) (id : String) :
    Confined access s (deleteMemory cfg s id access) := by
  rw [deleteMemory_eq]
  split
  · rename_i hdeletes
    obtain ⟨item, hget, hscope⟩ := deletes_stored hdeletes
    have howner := ownerId_of_isInScope hscope
    have hkept : ∀ kv ∈ s.manager.items, kv.2.ownerId ≠ access.principalId → kv.1 ≠ id := by
      rintro kv hkv hother rfl
      rw [Dict.get?_of_mem h.nodup hkv] at hget
      exact hother (Option.some.inj hget ▸ howner)
    refine ⟨fun kv hkv => List.mem_of_mem_filter hkv, fun kv hkv hother =>
      List.mem_filter.mpr ⟨hkv, decide_eq_true (hkept kv hkv hother)⟩, fun other => ?_,
      fun other => ?_⟩
    · rw [items_remove, Dict.erase, newerCount, newerCount, List.countP_map, List.countP_map,
        List.countP_filter]
      refine List.countP_congr fun kv hkv => ?_
      simp only [Function.comp_apply, Bool.and_eq_true, decide_eq_true_eq]
      exact ⟨fun hall => hall.1, fun hall => ⟨hall, hkept kv hkv hall.1⟩⟩
    · exact ((List.filter_sublist).map Prod.snd).countP_le
  · exact Confined.refl s

lemma deleteEach_confined (h : Keyed s) (items : List MemoryItem) :
    Confined access s (deleteEach cfg access s items).2 := by
  induction items generalizing s with
  | nil => exact Confined.refl s
  | cons item rest ih =>
      exact (confined_deleteMemory h item.id).trans (ih (keyed_deleteMemory h item.id))

/-- The loop deletes something if it can delete one of the items at its start. -/
lemma deleteEach_pos_iff (items : List MemoryItem) :
    0 < (deleteEach cfg access s items).1 ↔ ∃ item ∈ items, deletes s item.id access = true := by
  induction items generalizing s with
  | nil => simp [deleteEach]
  | cons item rest ih =>
      rw [deleteEach]
      dsimp only
      by_cases hdeletes : deletes s item.id access = true
      · rw [if_pos hdeletes]
        exact iff_of_true (Nat.succ_pos _) ⟨item, List.mem_cons_self, hdeletes⟩
      · rw [if_neg hdeletes, deleteMemory_eq, if_neg hdeletes, ih]
        simp [hdeletes]

/-- What is shown to the loop: the eligible items among the newest hundred thousand. -/
lemma mem_shown_iff (h : Keyed s) {item : MemoryItem} :
    item ∈ shown cfg s access ↔ Stored s.manager item ∧
      eligible cfg.accessRules access item = true ∧
        newerCount s.manager.items (fun _ => true) item < 100000 := by
  have hwhole : shown cfg s access =
      eligibleItems cfg access (getRecentContext s.manager.items 100000 true) := by
    refine List.take_of_length_le ((List.length_filter_le _ _).trans ?_)
    exact (List.length_take_le _ _)
  rw [hwhole, eligibleItems, List.mem_filter]
  constructor
  · rintro ⟨hwindow, heligible⟩
    obtain ⟨key, hmem⟩ := mem_of_mem_getRecentContext hwindow
    exact ⟨⟨key, hmem⟩, heligible, (mem_getRecentContext_iff h hmem _).mp hwindow⟩
  · rintro ⟨⟨key, hmem⟩, heligible, hnewer⟩
    exact ⟨(mem_getRecentContext_iff h hmem _).mpr hnewer, heligible⟩

lemma pairwise_shown (h : Keyed s) : (shown cfg s access).Pairwise Newer := by
  refine (pairwise_newestFirst (nodup_ids_visible h)).sublist ?_
  exact (List.take_sublist _ _).trans (List.filter_sublist.trans (List.take_sublist _ _))

/-- How many items of other principals are newer. -/
abbrev othersBefore (access : MemoryAccessContext) (s : MemoryState Score) (item : MemoryItem) :
    ℕ :=
  newerCount s.manager.items (fun other => other.ownerId ≠ access.principalId) item

lemma deleteEach_all (h : Keyed s) {items : List MemoryItem} (hsorted : items.Pairwise Newer)
    (hitems : ∀ item ∈ items, Stored s.manager item ∧ isInScope item access = true ∧
      othersBefore access s item < 1000)
    (hall : ∀ item, Stored s.manager item → item.ownerId = access.principalId → item ∈ items) :
    ∀ item, Stored (deleteEach cfg access s items).2.manager item →
      item.ownerId ≠ access.principalId := by
  induction items generalizing s with
  | nil =>
      intro item hstored howner
      exact absurd (hall item hstored howner) List.not_mem_nil
  | cons first rest ih =>
      obtain ⟨hfirst, hrest⟩ := List.pairwise_cons.mp hsorted
      obtain ⟨hstored, hscope, hothers⟩ := hitems first List.mem_cons_self
      -- the principal's newer items are gone by now
      have hnewer : newerCount s.manager.items (fun _ => true) first =
          othersBefore access s first := by
        refine List.countP_congr fun other hother => ?_
        obtain ⟨⟨key, value⟩, hmem, rfl⟩ := List.mem_map.mp hother
        simp only [Bool.true_and, Bool.and_eq_true, decide_eq_true_eq]
        refine ⟨fun hbefore => ⟨fun howner => ?_, hbefore⟩, fun hbefore => hbefore.2⟩
        rcases List.mem_cons.mp (hall value ⟨key, hmem⟩ howner) with rfl | hlater
        · exact hbefore.2 rfl
        · exact Newer.asymm _ _ hbefore (hfirst value hlater)
      have hdeletes : deletes s first.id access = true :=
        (deletes_iff h hstored).mpr ⟨hscope, hnewer ▸ hothers⟩
      have hconfined : Confined access s (deleteMemory cfg s first.id access) :=
        confined_deleteMemory h first.id
      have hafter : (deleteMemory cfg s first.id access).manager.items =
          Dict.erase s.manager.items first.id := by
        rw [deleteMemory_eq, if_pos hdeletes, items_remove]
      refine ih (keyed_deleteMemory h first.id) hrest (fun item hitem => ?_)
        fun item hin howner => ?_
      · obtain ⟨⟨key, hmem⟩, hitemScope, hitemOthers⟩ := hitems item (List.mem_cons_of_mem _ hitem)
        refine ⟨⟨key, ?_⟩, hitemScope, (hconfined.counts item).trans_lt hitemOthers⟩
        rw [hafter]
        refine List.mem_filter.mpr ⟨hmem, decide_eq_true fun hkey => (hfirst item hitem).2 ?_⟩
        exact hkey.symm.trans (h.keyed key item hmem).symm
      · obtain ⟨key, hmem⟩ := hin
        rw [hafter] at hmem
        obtain ⟨hold, hne⟩ := List.mem_filter.mp hmem
        refine (List.mem_cons.mp (hall item ⟨key, hold⟩ howner)).resolve_left ?_
        rintro rfl
        exact of_decide_eq_true hne (h.keyed key item hold).symm

lemma deleteEach_removed (h : Keyed s) {items : List MemoryItem} {item : MemoryItem}
    (hstored : Stored s.manager item)
    (hgone : ¬ Stored (deleteEach cfg access s items).2.manager item) :
    (∃ shown ∈ items, shown.id = item.id) ∧ othersBefore access s item < 1000 := by
  induction items generalizing s with
  | nil => exact absurd hstored hgone
  | cons first rest ih =>
      have hconfined : Confined access s (deleteMemory cfg s first.id access) :=
        confined_deleteMemory h first.id
      by_cases hkept : Stored (deleteMemory cfg s first.id access).manager item
      · obtain ⟨⟨other, hother, hid⟩, hcount⟩ := ih (keyed_deleteMemory h first.id) hkept hgone
        exact ⟨⟨other, List.mem_cons_of_mem _ hother, hid⟩,
          (hconfined.counts item).symm.trans_lt hcount⟩
      · obtain ⟨key, hmem⟩ := hstored
        have hkey := h.keyed key item hmem
        rw [deleteMemory_eq] at hkept
        split at hkept
        · rename_i hdeletes
          have hid : first.id = item.id := by
            by_contra hne
            refine hkept ⟨key, List.mem_filter.mpr ⟨hmem, decide_eq_true fun heq => hne ?_⟩⟩
            exact heq.symm.trans hkey.symm
          refine ⟨⟨first, List.mem_cons_self, hid⟩, ?_⟩
          rw [hid] at hdeletes
          have hwindow := ((deletes_iff h ⟨key, hmem⟩).mp hdeletes).2
          refine lt_of_le_of_lt (List.countP_mono_left fun other _ hbefore => ?_) hwindow
          rw [Bool.true_and]
          exact (Bool.and_eq_true_iff.mp hbefore).2
        · exact absurd ⟨key, hmem⟩ hkept

end Deletions

/-! ## Forgetting everything -/

/-- Nothing of the principal is left, and what is of the others is as it was. -/
structure Forgotten (access : MemoryAccessContext) (tool tool' : MemoryTool Score) : Prop where
  items : ∀ item, Stored tool'.controller.manager item → item.ownerId ≠ access.principalId
  sessions : ∀ kv ∈ tool'.sessions, kv.2.principalId ≠ access.principalId
  otherItems : ∀ kv, kv.2.ownerId ≠ access.principalId →
    (kv ∈ tool'.controller.manager.items ↔ kv ∈ tool.controller.manager.items)
  otherSessions : ∀ kv, kv.2.principalId ≠ access.principalId →
    (kv ∈ tool'.sessions ↔ kv ∈ tool.sessions)

/-- No item that the principal may read is among the newest thousand; or the principal has no
session, may read all its items, and has none behind a hundred thousand items or behind a thousand
of other principals. -/
def Reaches (cfg : MemoryConfig Score) (tool : MemoryTool Score) (access : MemoryAccessContext) :
    Prop :=
  (∀ item, Stored tool.controller.manager item → eligible cfg.accessRules access item = true →
    1000 ≤ newerCount tool.controller.manager.items (fun _ => true) item) ∨
  (∀ kv ∈ tool.sessions, kv.2.principalId ≠ access.principalId) ∧
    ∀ item, Stored tool.controller.manager item → item.ownerId = access.principalId →
      eligible cfg.accessRules access item = true ∧
        newerCount tool.controller.manager.items (fun _ => true) item < 100000 ∧
          othersBefore access tool.controller item < 1000

section DeleteAll

variable {cfg} {tool : MemoryTool Score} {access : MemoryAccessContext}

lemma forgetSessions_getD (sessions : Dict String SessionMetadata) (principalId : String) :
    (forgetSessions sessions principalId).getD 0 = 0 := by
  unfold forgetSessions
  split <;> rfl

lemma deleteAll_ok (h : Keyed tool.controller) :
    (deleteAll cfg tool access).1.ok = true ↔
      ∃ item, Stored tool.controller.manager item ∧
        eligible cfg.accessRules access item = true ∧
          newerCount tool.controller.manager.items (fun _ => true) item < 1000 := by
  have hcount : (deleteAll cfg tool access).1.ok = true ↔
      0 < (deleteEach cfg access tool.controller (shown cfg tool.controller access)).1 := by
    rw [deleteAll, forgetSessions_getD]
    dsimp only
    split
    · rename_i hzero
      simp [hzero.1]
    · rename_i hsome
      simp only [true_iff]
      exact Nat.pos_of_ne_zero fun hzero => hsome ⟨hzero, rfl⟩
  rw [hcount, deleteEach_pos_iff]
  constructor
  · rintro ⟨item, hitem, hdeletes⟩
    obtain ⟨hstored, heligible, -⟩ := (mem_shown_iff h).mp hitem
    exact ⟨item, hstored, heligible, ((deletes_iff h hstored).mp hdeletes).2⟩
  · rintro ⟨item, hstored, heligible, hwindow⟩
    refine ⟨item, (mem_shown_iff h).mpr ⟨hstored, heligible, hwindow.trans (by omega)⟩, ?_⟩
    exact (deletes_iff h hstored).mpr ⟨(readable_of_eligible heligible).1, hwindow⟩

end DeleteAll

/-- When `delete_all` reports success, nothing of the principal is left and the others' memories
and sessions are as they were, exactly where the loop reaches all of the principal's memories and
the principal has no session, or where nothing can be deleted and no success is reported. -/
theorem delete_all_forgets (cfg : MemoryConfig Score) (tool : MemoryTool Score)
    (access : MemoryAccessContext) (h : Dict.KeyedBy MemoryItem.id tool.controller.manager.items) :
    ((deleteAll cfg tool access).1.ok = true →
      Forgotten access tool (deleteAll cfg tool access).2) ↔ Reaches cfg tool access := by
  have hkeyed : Keyed tool.controller := h
  have hconfined : Confined access tool.controller
      (deleteEach cfg access tool.controller (shown cfg tool.controller access)).2 :=
    deleteEach_confined hkeyed _
  constructor
  · intro hforgets
    by_cases hok : (deleteAll cfg tool access).1.ok = true
    · right
      have hforgotten := hforgets hok
      refine ⟨hforgotten.sessions, fun item hstored howner => ?_⟩
      have hgone : ¬ Stored (deleteEach cfg access tool.controller
          (shown cfg tool.controller access)).2.manager item :=
        fun hleft => hforgotten.items item hleft howner
      obtain ⟨⟨other, hshown, hid⟩, hothers⟩ := deleteEach_removed hkeyed hstored hgone
      obtain ⟨⟨otherKey, hotherMem⟩, heligible, hwindow⟩ := (mem_shown_iff hkeyed).mp hshown
      obtain ⟨key, hmem⟩ := hstored
      have hsame : other = item := by
        have hget := hkeyed.get?_of_mem hotherMem
        rw [hid, hkeyed.get?_of_mem hmem] at hget
        exact (Option.some.inj hget).symm
      exact ⟨hsame ▸ heligible, hsame ▸ hwindow, hothers⟩
    · left
      intro item hstored heligible
      by_contra hfew
      exact hok ((deleteAll_ok hkeyed).mpr ⟨item, hstored, heligible, Nat.lt_of_not_le hfew⟩)
  · rintro (hnone | ⟨hsessions, hall⟩) hok
    · obtain ⟨item, hstored, heligible, hfew⟩ := (deleteAll_ok hkeyed).mp hok
      exact absurd (hnone item hstored heligible) (Nat.not_le_of_lt hfew)
    · have hitems : ∀ item ∈ shown cfg tool.controller access,
          Stored tool.controller.manager item ∧ isInScope item access = true ∧
            othersBefore access tool.controller item < 1000 := by
        intro item hitem
        obtain ⟨hstored, heligible, -⟩ := (mem_shown_iff hkeyed).mp hitem
        have hscope := (readable_of_eligible heligible).1
        exact ⟨hstored, hscope, (hall item hstored (ownerId_of_isInScope hscope)).2.2⟩
      have hshown : ∀ item, Stored tool.controller.manager item →
          item.ownerId = access.principalId → item ∈ shown cfg tool.controller access := by
        intro item hstored howner
        obtain ⟨heligible, hwindow, -⟩ := hall item hstored howner
        exact (mem_shown_iff hkeyed).mpr ⟨hstored, heligible, hwindow⟩
      exact ⟨deleteEach_all hkeyed (pairwise_shown hkeyed) hitems hshown, hsessions,
        fun kv howner => ⟨hconfined.subset kv, fun hkv => hconfined.others kv hkv howner⟩,
        fun kv _ => Iff.rfl⟩

/-- Two items of the local principal and one of somebody else, and a session of somebody else. -/
theorem delete_all_forgets_sample :
    let tool : MemoryTool ℕ := {
      controller := { manager := { items := [
        ("a", { id := "a", content := "one" }), ("b", { id := "b", content := "two" }),
        ("c", { id := "c", content := "three", ownerId := "guest" })] } }
      sessions := [("s", { sessionId := "s", principalId := "guest" })] }
    (deleteAll plainConfig tool localPrincipal).1.ok = true ∧
      Forgotten localPrincipal tool (deleteAll plainConfig tool localPrincipal).2 := by
  intro tool
  have hok : (deleteAll plainConfig tool localPrincipal).1.ok = true := by decide
  have hkeyed : Dict.KeyedBy MemoryItem.id tool.controller.manager.items := by
    have hkeys : (["a", "b", "c"] : List String).Nodup := by decide
    refine ⟨hkeys, fun key item hmem => ?_⟩
    simp only [tool, List.mem_cons, Prod.mk.injEq, List.not_mem_nil, or_false] at hmem
    rcases hmem with ⟨rfl, rfl⟩ | ⟨rfl, rfl⟩ | ⟨rfl, rfl⟩
    · rfl
    · rfl
    · rfl
  refine ⟨hok, (delete_all_forgets plainConfig tool localPrincipal hkeyed).mpr (.inr ⟨?_, ?_⟩) hok⟩
  · simp [tool, localPrincipal, defaultLocalPrincipalId]
  · rintro item ⟨key, hmem⟩ howner
    simp only [tool, List.mem_cons, Prod.mk.injEq, List.not_mem_nil, or_false] at hmem
    rcases hmem with ⟨-, rfl⟩ | ⟨-, rfl⟩ | ⟨-, rfl⟩
    · decide
    · decide
    · exact absurd howner (by decide)

/-- One memory and one session of the local principal: success is reported, and the session is
still there. -/
theorem delete_all_keeps_sessions :
    ¬ ∀ (cfg : MemoryConfig ℕ) (tool : MemoryTool ℕ) (access : MemoryAccessContext),
      Dict.KeyedBy MemoryItem.id tool.controller.manager.items →
      (deleteAll cfg tool access).1.ok = true →
        Forgotten access tool (deleteAll cfg tool access).2 := by
  intro h
  let tool : MemoryTool ℕ := {
    controller := { manager := { items := [("a", { id := "a", content := "one" })] } }
    sessions := [("s", { sessionId := "s" })] }
  have hkeyed : Dict.KeyedBy MemoryItem.id tool.controller.manager.items := by
    refine ⟨List.nodup_singleton _, fun key item hmem => ?_⟩
    obtain ⟨rfl, rfl⟩ := Prod.mk.inj (List.mem_singleton.mp hmem)
    rfl
  have hforgotten := h plainConfig tool localPrincipal hkeyed (by decide)
  exact hforgotten.sessions ("s", { sessionId := "s" }) List.mem_cons_self rfl

end MemoryTool

end Samaktha
