import Samaktha.Memory.Consistency
import Samaktha.Memory.View

/-!
# Interference between principals

Two histories side by side, which have the calls of `retrieve` of one principal in common and are
arbitrary otherwise.  A call that is computed in both returns the same where the windows show the
same memories of the principal; one that is served from the cache in both returns what was cached
at a call that the histories have in common (`sameAnswers_of_guarded`).  The windows are cut over
the memories of everyone, though: other principals push a memory out of them
(`noninterference_fails`).
-/

namespace Samaktha

namespace MemoryController

open SecurityManager ContextMemoryStore MemoryRetriever

/-! ## Histories side by side -/

/-- A call that both histories make, or a move of one of them. -/
inductive PairMove where
  | both (now : ℤ) (call : RetrieveCall)
  | left (move : MemoryMove)
  | right (move : MemoryMove)

/-- Whether a move is a call of `retrieve` by a principal. -/
def retrievesAs (principalId : String) : MemoryMove → Bool
  | .retrieve _ call => call.access.principalId = principalId
  | _ => false

/-- The moves of the first history. -/
def PairMove.inLeft : PairMove → Option MemoryMove
  | both now call => some (.retrieve now call)
  | left move => some move
  | right _ => none

/-- The moves of the second history. -/
def PairMove.inRight : PairMove → Option MemoryMove
  | both now call => some (.retrieve now call)
  | left _ => none
  | right move => some move

section Pair

variable {Score : Type} [LinearOrder Score]

/-- Two controllers side by side; the calls of `retrieve` of the principal are made in both. -/
def pair (cfg : MemoryConfig Score) (principalId : String) :
    Machine (MemoryState Score × MemoryState Score) PairMove where
  step s
    | .both now call =>
        if call.access.principalId = principalId then
          some (after cfg s.1 (.retrieve now call), after cfg s.2 (.retrieve now call))
        else none
    | .left move => if retrievesAs principalId move then none else some (after cfg s.1 move, s.2)
    | .right move => if retrievesAs principalId move then none else some (s.1, after cfg s.2 move)

variable {cfg : MemoryConfig Score} {principalId : String}

lemma exists_run_rights (cfg : MemoryConfig Score) {rights : List MemoryMove}
    (h : ∀ move ∈ rights, ¬retrievesAs principalId move = true)
    (s : MemoryState Score × MemoryState Score) :
    ∃ t, (pair cfg principalId).run s (rights.map .right) = some t := by
  induction rights generalizing s with
  | nil => exact ⟨s, rfl⟩
  | cons move rest ih =>
      obtain ⟨t, ht⟩ := ih (fun m hm => h m (List.mem_cons_of_mem _ hm)) (s.1, after cfg s.2 move)
      refine ⟨t, (pair cfg principalId).run_cons_eq_some.mpr ⟨_, ?_, ht⟩⟩
      exact if_neg (h move List.mem_cons_self)

lemma filterMap_inRight_rights (rights : List MemoryMove) :
    (rights.map PairMove.right).filterMap PairMove.inRight = rights := by
  rw [List.filterMap_map]
  exact List.filterMap_some

lemma filterMap_inLeft_rights (rights : List MemoryMove) :
    (rights.map PairMove.right).filterMap PairMove.inLeft = [] := by
  rw [List.filterMap_map]
  exact List.filterMap_eq_nil_iff.mpr fun move _ => rfl

lemma exists_pair (cfg : MemoryConfig Score) {lefts rights : List MemoryMove}
    (h : lefts.filter (retrievesAs principalId) = rights.filter (retrievesAs principalId))
    (s : MemoryState Score × MemoryState Score) :
    ∃ moves, moves.filterMap PairMove.inLeft = lefts ∧
      moves.filterMap PairMove.inRight = rights ∧
        ∃ t, (pair cfg principalId).run s moves = some t := by
  induction lefts generalizing rights s with
  | nil =>
      have hrights := List.filter_eq_nil_iff.mp h.symm
      exact ⟨rights.map .right, filterMap_inLeft_rights rights, filterMap_inRight_rights rights,
        exists_run_rights cfg hrights s⟩
  | cons move rest ih =>
      by_cases hmove : retrievesAs principalId move = true
      · -- the second history comes to the same call
        rw [List.filter_cons_of_pos hmove] at h
        obtain ⟨pre, post, rfl, hpre, -, hpost⟩ := List.filter_eq_cons_iff.mp h.symm
        obtain ⟨r, hr⟩ := exists_run_rights cfg hpre s
        cases move with
        | retrieve now call =>
            obtain ⟨moves, hlefts, hrights, t, ht⟩ := ih hpost.symm
              (after cfg r.1 (.retrieve now call), after cfg r.2 (.retrieve now call))
            refine ⟨pre.map .right ++ .both now call :: moves, ?_, ?_, t, ?_⟩
            · rw [List.filterMap_append, filterMap_inLeft_rights, List.nil_append]
              exact congrArg (List.cons _) hlefts
            · rw [List.filterMap_append, filterMap_inRight_rights]
              exact congrArg (fun list => pre ++ .retrieve now call :: list) hrights
            · refine (pair cfg principalId).run_append_eq_some.mpr ⟨r, hr, ?_⟩
              refine (pair cfg principalId).run_cons_eq_some.mpr ⟨_, ?_, ht⟩
              exact if_pos (of_decide_eq_true hmove)
        | _ => cases hmove
      · rw [List.filter_cons_of_neg hmove] at h
        obtain ⟨moves, hlefts, hrights, t, ht⟩ := ih h (after cfg s.1 move, s.2)
        refine ⟨.left move :: moves, ?_, ?_, t, ?_⟩
        · exact congrArg (List.cons move) hlefts
        · exact hrights
        · refine (pair cfg principalId).run_cons_eq_some.mpr ⟨_, ?_, ht⟩
          exact if_neg hmove

/-! ## What the histories have in common -/

/-- The documents and the personal entities of the principal are the same in both histories
whenever the principal retrieves. -/
def SameOwn (s : MemoryState Score × MemoryState Score) : PairMove → Prop
  | .both _ call => SameRecords call.access.principalId s.1.manager s.2.manager
  | _ => True

/-- A call of the principal is served from the cache in both histories, what the principal
stored there, or in none of them; and then the windows show the same memories to it. -/
def Undisturbed (cfg : MemoryConfig Score) (s : MemoryState Score × MemoryState Score) :
    PairMove → Prop
  | .both _ call =>
      match Dict.get? s.1.retrievals (cacheKey call), Dict.get? s.2.retrievals (cacheKey call) with
      | some cached, some cached' =>
          cached.call.access.principalId = call.access.principalId ∧
            cached'.call.access.principalId = call.access.principalId
      | none, none => SameWindows cfg s.1.manager s.2.manager s.1.recent s.2.recent call
      | _, _ => False
  | _ => True

/-- A call of the principal returns the same in both histories. -/
def SameAnswers (cfg : MemoryConfig Score) (principalId : String)
    (s : MemoryState Score × MemoryState Score) : PairMove → Prop
  | .both now call => call.access.principalId = principalId →
      answer cfg s.1 (.retrieve now call) = answer cfg s.2 (.retrieve now call)
  | _ => True

/-- What the principal stored in both retrieval caches under one key is the same. -/
structure InStep (principalId : String) (s : MemoryState Score × MemoryState Score) : Prop where
  consistent : Consistent s.1
  consistent' : Consistent s.2
  nodup : Dict.NodupKeys s.1.retrievals
  nodup' : Dict.NodupKeys s.2.retrievals
  same : ∀ key cached cached', Dict.get? s.1.retrievals key = some cached →
    Dict.get? s.2.retrievals key = some cached' →
      cached.call.access.principalId = principalId →
        cached'.call.access.principalId = principalId → cached.results = cached'.results

omit [LinearOrder Score] in
lemma inStep_init : InStep principalId (({}, {}) : MemoryState Score × MemoryState Score) where
  consistent := consistent_init
  consistent' := consistent_init
  nodup := List.nodup_nil
  nodup' := List.nodup_nil
  same key cached cached' hget := by cases hget

lemma own_after (cfg : MemoryConfig Score) {s : MemoryState Score}
    (hs : Dict.NodupKeys s.retrievals) {move : MemoryMove}
    (hmove : ¬retrievesAs principalId move = true) :
    Dict.NodupKeys (after cfg s move).retrievals ∧
      ∀ key cached, Dict.get? (after cfg s move).retrievals key = some cached →
        cached.call.access.principalId = principalId → Dict.get? s.retrievals key =
          some cached := by
  by_cases hretrieve : ∀ now call, move ≠ .retrieve now call
  · rcases retrievals_after cfg s hretrieve with hsame | hnone
    · rw [hsame]
      exact ⟨hs, fun key cached hget _ => hget⟩
    · rw [hnone]
      exact ⟨List.nodup_nil, fun key cached hget => by cases hget⟩
  · push Not at hretrieve
    obtain ⟨now, call, rfl⟩ := hretrieve
    simp only [after, retrieve]
    split
    · exact ⟨hs, fun key cached hget _ => hget⟩
    · refine ⟨hs.setBounded _ _ _, fun key cached hget howner => ?_⟩
      rcases Dict.get?_setBounded hs hget with ⟨rfl, rfl⟩ | hold
      · exact absurd (decide_eq_true howner) hmove
      · exact hold

lemma retrieve_of_some (cfg : MemoryConfig Score) {s : MemoryState Score} {now : ℤ}
    {call : RetrieveCall} {cached : CachedResult Score}
    (h : Dict.get? s.retrievals (cacheKey call) = some cached) :
    retrieve cfg s now call = (cached.results, s) := by
  unfold retrieve
  rw [h]

lemma retrieve_of_none (cfg : MemoryConfig Score) {s : MemoryState Score} {now : ℤ}
    {call : RetrieveCall} (h : Dict.get? s.retrievals (cacheKey call) = none) :
    retrieve cfg s now call =
      ((compute cfg s.manager now s.recent call).1, { s with
        recent := (compute cfg s.manager now s.recent call).2
        retrievals := Dict.setBounded cfg.maxRetrievals s.retrievals (cacheKey call)
          ⟨(compute cfg s.manager now s.recent call).1, call⟩ }) := by
  unfold retrieve
  rw [h]

/-- A call of the principal that the histories have in common returns the same in both, and keeps
them in step. -/
lemma InStep.both {s : MemoryState Score × MemoryState Score} (h : InStep principalId s)
    {now : ℤ} {call : RetrieveCall} (hcall : call.access.principalId = principalId)
    (hown : SameOwn s (.both now call)) (hundisturbed : Undisturbed cfg s (.both now call)) :
    answer cfg s.1 (.retrieve now call) = answer cfg s.2 (.retrieve now call) ∧
      InStep principalId
        (after cfg s.1 (.retrieve now call), after cfg s.2 (.retrieve now call)) := by
  have hconsistent : Consistent (after cfg s.1 (.retrieve now call)) :=
    consistent_after h.consistent _
  have hconsistent' : Consistent (after cfg s.2 (.retrieve now call)) :=
    consistent_after h.consistent' _
  simp only [answer, after] at hconsistent hconsistent' ⊢
  simp only [Undisturbed] at hundisturbed
  split at hundisturbed
  · rename_i cached cached' hget hget'
    rw [retrieve_of_some cfg hget, retrieve_of_some cfg hget']
    have hsame := h.same _ cached cached' hget hget' (hundisturbed.1.trans hcall)
      (hundisturbed.2.trans hcall)
    exact ⟨congrArg (List.map Prod.fst) hsame, h⟩
  · rename_i hget hget'
    have hcompute := compute_eq_of_sameView h.consistent.agrees h.consistent'.agrees hundisturbed
      hown now
    rw [retrieve_of_none cfg hget] at hconsistent ⊢
    rw [retrieve_of_none cfg hget'] at hconsistent' ⊢
    refine ⟨congrArg (List.map Prod.fst) hcompute, hconsistent, hconsistent',
      h.nodup.setBounded _ _ _, h.nodup'.setBounded _ _ _, ?_⟩
    intro key cached cached' hcached hcached' howner howner'
    rcases Dict.get?_setBounded h.nodup hcached with ⟨rfl, rfl⟩ | hold
    · rcases Dict.get?_setBounded h.nodup' hcached' with ⟨-, rfl⟩ | hold'
      · exact hcompute
      · rw [hget'] at hold'
        cases hold'
    · rcases Dict.get?_setBounded h.nodup' hcached' with ⟨rfl, -⟩ | hold'
      · rw [hget] at hold
        cases hold
      · exact h.same key cached cached' hold hold' howner howner'
  · cases hundisturbed

lemma InStep.one {s : MemoryState Score × MemoryState Score} (h : InStep principalId s)
    {move : MemoryMove} (hmove : ¬retrievesAs principalId move = true) :
    InStep principalId (after cfg s.1 move, s.2) ∧
      InStep principalId (s.1, after cfg s.2 move) := by
  obtain ⟨hnodup, hold⟩ := own_after cfg h.nodup hmove
  obtain ⟨hnodup', hold'⟩ := own_after cfg h.nodup' hmove
  constructor
  · refine ⟨consistent_after h.consistent move, h.consistent', hnodup, h.nodup', ?_⟩
    intro key cached cached' hget hget' howner howner'
    exact h.same key cached cached' (hold key cached hget howner) hget' howner howner'
  · refine ⟨h.consistent, consistent_after h.consistent' move, h.nodup, hnodup', ?_⟩
    intro key cached cached' hget hget' howner howner'
    exact h.same key cached cached' hget (hold' key cached' hget' howner') howner howner'

/-! ## Runs -/

lemma InStep.step {s t : MemoryState Score × MemoryState Score} (h : InStep principalId s)
    {move : PairMove} (hown : SameOwn s move) (hundisturbed : Undisturbed cfg s move)
    (ht : (pair cfg principalId).step s move = some t) : InStep principalId t := by
  cases move with
  | both now call =>
      simp only [pair] at ht
      split at ht
      · rename_i hcall
        obtain rfl := Option.some.inj ht
        exact (h.both hcall hown hundisturbed).2
      · cases ht
  | left move =>
      simp only [pair] at ht
      split at ht
      · cases ht
      · rename_i hmove
        obtain rfl := Option.some.inj ht
        exact (h.one hmove).1
  | right move =>
      simp only [pair] at ht
      split at ht
      · cases ht
      · rename_i hmove
        obtain rfl := Option.some.inj ht
        exact (h.one hmove).2

/-- Two histories that have the retrievals of a principal in common are a run of the pair; and in
every run of the pair in which these retrievals are undisturbed, and in which the histories agree
on what the principal owns beside the memories, each of them returns the same in both. -/
theorem sameAnswers_of_guarded (cfg : MemoryConfig Score) (principalId : String) :
    (∀ lefts rights : List MemoryMove,
      lefts.filter (retrievesAs principalId) = rights.filter (retrievesAs principalId) →
        ∃ moves, moves.filterMap PairMove.inLeft = lefts ∧
          moves.filterMap PairMove.inRight = rights ∧
            ∃ t, (pair cfg principalId).run ({}, {}) moves = some t) ∧
      ∀ moves, (pair cfg principalId).Guarded
          (fun s move => SameOwn s move ∧ Undisturbed cfg s move) ({}, {}) moves →
        (pair cfg principalId).Guarded (SameAnswers cfg principalId) ({}, {}) moves := by
  refine ⟨fun lefts rights h => exists_pair cfg h ({}, {}), fun moves hguarded => ?_⟩
  refine (pair cfg principalId).guarded_of_invariant
    (fun s move t h hmove ht => h.step hmove.1 hmove.2 ht) ?_ inStep_init hguarded
  intro s move h hmove
  cases move with
  | both now call => exact fun hcall => (h.both hcall hmove.1 hmove.2).1
  | left move => trivial
  | right move => trivial

/-! ### Ten memories of somebody else -/

/-- Nothing matches any query. -/
def unmatchedConfig : MemoryConfig ℕ where
  similarity := fun _ _ _ => none
  score := fun _ _ _ => 0
  instantText := fun _ => ""
  isDocumentHistoryQuery := fun _ => false
  classify := fun _ _ => none

/-- The principal whose retrievals are compared. -/
def firstPrincipal : MemoryAccessContext := { principalId := "first" }

def secondPrincipal : MemoryAccessContext := { principalId := "second" }

/-- The first principal writes a memory. -/
def firstWrites : MemoryMove :=
  .write .knowledge firstPrincipal { id := "m", content := "mine", createdAt := 0 }

/-- The second principal writes a memory. -/
def secondWrites (id : String) : MemoryMove :=
  .write .knowledge secondPrincipal { id := id, content := "other", createdAt := 1 }

def firstCall : RetrieveCall := { access := firstPrincipal, query := "q" }

/-- One memory of the other principal does not disturb the call. -/
theorem sameAnswers_of_guarded_sample :
    (pair unmatchedConfig "first").Guarded (SameAnswers unmatchedConfig "first") ({}, {})
      [.left firstWrites, .right firstWrites, .right (secondWrites "n"), .both 2 firstCall] := by
  refine (sameAnswers_of_guarded unmatchedConfig "first").2 _ ?_
  refine ⟨⟨trivial, trivial⟩, fun s hs => ?_⟩
  obtain rfl := Option.some.inj hs
  refine ⟨⟨trivial, trivial⟩, fun s hs => ?_⟩
  obtain rfl := Option.some.inj hs
  refine ⟨⟨trivial, trivial⟩, fun s hs => ?_⟩
  obtain rfl := Option.some.inj hs
  exact ⟨⟨⟨rfl, fun _ => rfl⟩, sameWindows_of_eq rfl rfl rfl⟩, fun t ht => trivial⟩

/-- Ten memories of the other principal push the memory of the first one out of what it
retrieves. -/
theorem noninterference_fails :
    let before := after unmatchedConfig {} firstWrites
    let disturbed := ["0", "1", "2", "3", "4", "5", "6", "7", "8", "9"].foldl
      (fun s id => after unmatchedConfig s (secondWrites id)) before
    let owned := fun s : MemoryState ℕ =>
      ((s.manager.items.map Prod.snd).filter (·.ownerId = "first")).map MemoryItem.content
    owned before = owned disturbed ∧
      (answer unmatchedConfig before (.retrieve 2 firstCall)).map MemoryItem.content = ["mine"] ∧
        (answer unmatchedConfig disturbed (.retrieve 2 firstCall)).map MemoryItem.content = [] := by
  decide

end Pair

end MemoryController

end Samaktha
