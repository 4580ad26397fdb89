import Samaktha.Foundation.Machine
import Samaktha.Runtime.CheckpointCrash

/-!
# Rollback of checkpoint files

A store with an integrity key and an index, whose checkpoint files anyone may rewrite between
two operations: replay an earlier file, restore a deleted one, move files between executions,
invent content.  The index is written by the store alone.

Beside the store the runs keep the last accepted checkpoint of each execution since its last
delete.  The index entries are the digests of these checkpoints (`Anchored`), in every run, so
that the accepted generations increase and a load answers with the last accepted checkpoint, or
nothing, or an error.  Whether the error is a `CheckpointError` depends on the file: some texts
make the checks of the load itself raise (`upsets`), and exactly these are let through
(`antiRollback_iff`).
-/

namespace Samaktha

namespace CheckpointStore

/-- What happens to a store and its files. -/
inductive StoreMove where
  | save (c : RecoveryCheckpoint) (now : String)
  | saveState (state : ExecutionState)
  | load (id : String) (refresh : Bool)
  | delete (id : String)
  | reconcile (active : List String)
  /-- A fresh store on the files; where the constructor raises there is no store. -/
  | restart
  /-- The checkpoint files become others. -/
  | tamper (files : Dict String FileText)

/-- A store with the last accepted checkpoint of each execution since its last delete. -/
structure Tracked where
  store : StoreState := {}
  last : Dict String RecoveryCheckpoint := []

variable (cfg : StoreConfig)

/-- The last accepted checkpoints after a save. -/
def lastSaved (t : Tracked) (c : RecoveryCheckpoint) (now : String) :
    Dict String RecoveryCheckpoint :=
  match (saveCheckpoint cfg t.store c now).1 with
  | .ok () => Dict.set t.last c.executionId (signed cfg c now)
  | .error _ => t.last

/-- The last accepted checkpoints after a delete. -/
def lastDeleted (t : Tracked) (id : String) : Dict String RecoveryCheckpoint :=
  match (deleteCheckpoint cfg t.store id).1 with
  | .ok () => Dict.erase t.last id
  | .error _ => t.last

/-- The store under an adversary who rewrites its files. -/
def storeMachine : Machine Tracked StoreMove where
  step t
    | .save c now => some ⟨(saveCheckpoint cfg t.store c now).2, lastSaved cfg t c now⟩
    | .saveState state => some { t with store := CheckpointStore.saveState t.store state }
    | .load id refresh => some { t with store := (loadCheckpoint cfg t.store id refresh).2 }
    | .delete id => some ⟨(deleteCheckpoint cfg t.store id).2, lastDeleted cfg t id⟩
    | .reconcile active =>
        some { t with store := (CheckpointStore.reconcile cfg t.store active).2 }
    | .restart =>
        match openStore cfg t.store.disk with
        | .ok fresh => some { t with store := fresh }
        | .error _ => none
    | .tamper files =>
        some { t with store := { t.store with disk := { t.store.disk with files := files } } }

/-- A load answers with the last accepted checkpoint, with nothing where the file is gone, or
with a `CheckpointError`.  A snapshot in memory, and a checkpoint whose save was refused for its
id, are answered from the cache only. -/
def Answers (t : Tracked) (id : String) (refresh : Bool) : Prop :=
  match (loadCheckpoint cfg t.store id refresh).1 with
  | .ok none => Dict.get? t.store.disk.files id = none
  | .ok (some (.recovery loaded)) =>
      (∃ c, Dict.get? t.last id = some c ∧ loaded.Same c) ∨
        (refresh = false ∧ (Dict.get? t.store.cache id).isSome = true ∧ validId id = false)
  | .ok (some (.snapshot _)) => refresh = false ∧ (Dict.get? t.store.cache id).isSome = true
  | .error (.checkpoint _) => True
  | .error (.other _) => False

/-- What every operation of a run has to do: loads answer as they should, a reconciliation gets
through, and an accepted save has a generation beyond the last. -/
def RollbackSafe (t : Tracked) : StoreMove → Prop
  | .save c now => (saveCheckpoint cfg t.store c now).1 = .ok () →
      ∀ p, Dict.get? t.last c.executionId = some p → p.generation < c.generation
  | .load id refresh => Answers cfg t id refresh
  | .reconcile active => ∀ exception,
      (CheckpointStore.reconcile cfg t.store active).1 ≠ .error (.other exception)
  | _ => True

/-! ## Files that upset a load -/

/-- The files on which a load raises something that is not a `CheckpointError`: a text on which
`json.loads` raises another exception, a payload too deep for the search for secret markers, and
a digest that is compared although the payload cannot be encoded or the digest is not ASCII. -/
def upsets : FileText → Bool
  | .undecodable => false
  | .malformed => false
  | .unparsable _ => true
  | .json parsed oddity =>
      versionOk parsed.payload && (oddity = .deep ||
        (!containsSecretKey parsed.payload &&
          (digestOf parsed.payload).any fun digest => oddity = .surrogates || !isAscii digest))

/-- Whether the file of an execution upsets a load. -/
def upsetAt (s : StoreState) (id : String) : Bool :=
  validId id && (Dict.get? s.disk.files id).any upsets

/-- The move reads no file that upsets a load. -/
def Legible (t : Tracked) : StoreMove → Prop
  | .load id refresh =>
      (refresh = true ∨ Dict.get? t.store.cache id = none) → upsetAt t.store id = false
  | .reconcile _ => ∀ id ∈ fileNames t.store, upsetAt t.store id = false
  | _ => True

section

variable {cfg : StoreConfig} {hmac : Json → String} {s : StoreState} {t : Tracked}

lemma authenticate_other_iff (hkey : cfg.integrityKey = some hmac)
    (entries : Dict String IndexEntry) (id : String) (payload : Json) (oddity : Oddity) :
    (∃ exception, authenticate cfg entries id payload oddity = .error (.other exception)) ↔
      ((digestOf payload).any fun digest => oddity = .surrogates || !isAscii digest) = true := by
  unfold authenticate
  rw [hkey]
  dsimp only
  cases digestOf payload with
  | none => exact iff_of_false (fun ⟨_, h⟩ => (by cases h)) Bool.false_ne_true
  | some digest =>
      rw [Option.any_some, Bool.or_eq_true, decide_eq_true_eq]
      dsimp only
      by_cases hsurrogates : oddity = .surrogates
      · rw [if_pos hsurrogates]
        exact iff_of_true ⟨_, rfl⟩ (.inl hsurrogates)
      rw [if_neg hsurrogates]
      by_cases hascii : (!isAscii digest) = true
      · rw [if_pos hascii]
        exact iff_of_true ⟨_, rfl⟩ (.inr hascii)
      rw [if_neg hascii]
      refine iff_of_false ?_ (not_or.mpr ⟨hsurrogates, hascii⟩)
      -- what is left of the checks raises `CheckpointError`
      rintro ⟨exception, hraise⟩
      split at hraise
      · cases hraise
      · split at hraise
        · cases hraise
        · split at hraise
          · cases hraise
          · split at hraise <;> cases hraise

lemma validate_ne_other {id : String} {payload : Json} {exception : String} :
    validate cfg id payload ≠ .error (.other exception) := by
  unfold validate
  cases cfg.modelValidate payload with
  | none => exact fun h => (by cases h)
  | some loaded =>
      dsimp only
      split
      · exact fun h => (by cases h)
      · exact fun h => (by cases h)

lemma readParsed_other_iff (hkey : cfg.integrityKey = some hmac)
    (entries : Dict String IndexEntry) (id : String) (parsed : Parsed) (oddity : Oddity) :
    (∃ exception, readParsed cfg entries id parsed oddity = .error (.other exception)) ↔
      upsets (.json parsed oddity) = true := by
  have hauth := authenticate_other_iff hkey entries id parsed.payload oddity
  unfold readParsed upsets
  dsimp only
  cases versionOk parsed.payload with
  | false => exact iff_of_false (fun ⟨_, h⟩ => (by cases h)) Bool.false_ne_true
  | true =>
      rw [Bool.not_true, if_neg Bool.false_ne_true, Bool.true_and, Bool.or_eq_true,
        decide_eq_true_eq, Bool.and_eq_true]
      by_cases hdeep : oddity = .deep
      · rw [if_pos hdeep]
        exact iff_of_true ⟨_, rfl⟩ (.inl hdeep)
      rw [if_neg hdeep]
      cases containsSecretKey parsed.payload with
      | true =>
          refine iff_of_false (fun ⟨_, h⟩ => (by cases h)) ?_
          rintro (h | h)
          · exact hdeep h
          · exact Bool.false_ne_true h.1
      | false =>
          rw [if_neg Bool.false_ne_true, ← hauth]
          cases hcase : authenticate cfg entries id parsed.payload oddity with
          | error error =>
              constructor
              · rintro ⟨exception, hraise⟩
                obtain rfl := Except.error.inj hraise
                exact .inr ⟨rfl, exception, rfl⟩
              · rintro (h | ⟨-, exception, hraise⟩)
                · exact absurd h hdeep
                · obtain rfl := Except.error.inj hraise
                  exact ⟨exception, rfl⟩
          | ok passed =>
              refine iff_of_false (fun ⟨_, h⟩ => validate_ne_other h) ?_
              rintro (h | ⟨-, exception, hraise⟩)
              · exact hdeep h
              · cases hraise

/-- A load that reads the directory raises something else than a `CheckpointError` exactly on
the files that upset it. -/
lemma readCheckpoint_other_iff (hkey : cfg.integrityKey = some hmac) (s : StoreState)
    (id : String) :
    (∃ exception, readCheckpoint cfg s id = .error (.other exception)) ↔
      upsetAt s id = true := by
  unfold readCheckpoint upsetAt
  cases validId id with
  | false => exact iff_of_false (fun ⟨_, h⟩ => (by cases h)) Bool.false_ne_true
  | true =>
      rw [Bool.not_true, if_neg Bool.false_ne_true, Bool.true_and]
      cases Dict.get? s.disk.files id with
      | none => exact iff_of_false (fun ⟨_, h⟩ => (by cases h)) Bool.false_ne_true
      | some file =>
          rw [Option.any_some]
          cases file with
          | undecodable => exact iff_of_false (fun ⟨_, h⟩ => (by cases h)) Bool.false_ne_true
          | malformed => exact iff_of_false (fun ⟨_, h⟩ => (by cases h)) Bool.false_ne_true
          | unparsable exception => exact iff_of_true ⟨exception, rfl⟩ rfl
          | json parsed oddity =>
              rw [← readParsed_other_iff hkey s.entries id]
              dsimp only
              cases readParsed cfg s.entries id parsed oddity with
              | error error =>
                  constructor
                  · rintro ⟨exception, h⟩
                    exact ⟨exception, congrArg Except.error (Except.error.inj h)⟩
                  · rintro ⟨exception, h⟩
                    exact ⟨exception, congrArg Except.error (Except.error.inj h)⟩
              | ok loaded =>
                  exact iff_of_false (fun ⟨_, h⟩ => (by cases h)) (fun ⟨_, h⟩ => (by cases h))

/-! ## What a load leaves -/

lemma get?_of_evict {preserve : Option String} {ids : List String} {excess : ℕ}
    {cache : Dict String Cached} {id : String} {cached : Cached}
    (h : Dict.get? (evict preserve ids excess cache) id = some cached) :
    Dict.get? cache id = some cached := by
  induction ids generalizing excess cache with
  | nil =>
      unfold evict at h
      exact h
  | cons key ids ih =>
      cases excess with
      | zero =>
          unfold evict at h
          exact h
      | succ excess =>
          unfold evict at h
          split at h
          · exact ih h
          · have hrest := ih h
            rw [Dict.get?_erase] at hrest
            split at hrest
            · cases hrest
            · exact hrest

lemma get?_of_prune {preserve : Option String} {cache : Dict String Cached} {id : String}
    {cached : Cached} (h : Dict.get? (prune cfg preserve cache) id = some cached) :
    Dict.get? cache id = some cached := by
  unfold prune at h
  split at h
  · exact get?_of_evict h
  · exact h

lemma loadCheckpoint_cases (hdirectory : cfg.directory = true) (id : String) (refresh : Bool) :
    (∃ cached, refresh = false ∧ Dict.get? s.cache id = some cached ∧
      loadCheckpoint cfg s id refresh = (.ok (some cached), s)) ∨
    ((refresh = true ∨ Dict.get? s.cache id = none) ∧
      loadCheckpoint cfg s id refresh =
        match readCheckpoint cfg s id with
        | .error error => (.error error, s)
        | .ok none => (.ok none, s)
        | .ok (some loaded) => (.ok (some (.recovery loaded)),
            { s with cache := prune cfg (some id) (s.cache.set id (.recovery loaded)) })) := by
  unfold loadCheckpoint
  rw [hdirectory]
  cases refresh with
  | true => exact .inr ⟨.inl rfl, rfl⟩
  | false =>
      cases hcache : Dict.get? s.cache id with
      | some cached => exact .inl ⟨cached, rfl, rfl, rfl⟩
      | none => exact .inr ⟨.inr rfl, rfl⟩

lemma readCheckpoint_ok {id : String} {found : Option RecoveryCheckpoint}
    (h : readCheckpoint cfg s id = .ok found) :
    validId id = true ∧ match found with
      | none => Dict.get? s.disk.files id = none
      | some loaded => ∃ parsed oddity, readParsed cfg s.entries id parsed oddity = .ok loaded := by
  unfold readCheckpoint at h
  split at h
  · cases h
  · rename_i hvalid
    refine ⟨by simpa using hvalid, ?_⟩
    split at h
    · rename_i hfile
      obtain rfl := Except.ok.inj h
      exact hfile
    · cases h
    · cases h
    · cases h
    · rename_i parsed oddity hfile
      cases hread : readParsed cfg s.entries id parsed oddity with
      | error error =>
          rw [hread] at h
          cases h
      | ok loaded =>
          rw [hread] at h
          obtain rfl := Except.ok.inj h
          exact ⟨parsed, oddity, hread⟩

/-! ## Entries and last accepted checkpoints -/

/-- The index entries are of the last accepted checkpoints, the index file is of the entries,
and the cache holds no other checkpoint under an id that can be saved. -/
structure Anchored (hmac : Json → String) (t : Tracked) : Prop where
  entries : ∀ id, Dict.get? t.store.entries id = (Dict.get? t.last id).map (entryOf hmac)
  written : ∀ id c, Dict.get? t.last id = some c → Written hmac c
  index : t.store.disk.index = some (indexFile hmac t.store.entries) ∨
    (t.store.disk.index = none ∧ t.store.entries = [])
  cached : ∀ id d, Dict.get? t.store.cache id = some (.recovery d) → validId id = true →
    ∃ c, Dict.get? t.last id = some c ∧ d.Same c

lemma anchored_empty (hmac : Json → String) : Anchored hmac {} :=
  ⟨fun _ => rfl, fun _ _ h => (by cases h), .inr ⟨rfl, rfl⟩, fun _ _ h => (by cases h)⟩

lemma Anchored.read (h : Anchored hmac t) (hkey : cfg.integrityKey = some hmac)
    (hindexed : cfg.indexed = true) (hinjective : Function.Injective hmac)
    (hreads : ∀ c, ReadsBack cfg c) {id : String} {loaded : RecoveryCheckpoint}
    (hread : readCheckpoint cfg t.store id = .ok (some loaded)) :
    ∃ c, Dict.get? t.last id = some c ∧ loaded.Same c := by
  obtain ⟨-, parsed, oddity, hparsed⟩ := readCheckpoint_ok hread
  obtain ⟨-, hauthentic, -⟩ := readParsed_ok hparsed
  obtain ⟨expected, hentry, -, -⟩ := authenticate_ok hkey hindexed hauthentic
  have hlast := h.entries id
  rw [hentry] at hlast
  obtain ⟨c, hc, -⟩ := Option.map_eq_some_iff.mp hlast.symm
  refine ⟨c, hc, same_of_readParsed hkey hindexed hinjective (h.written id c hc) (hreads c) ?_
    hparsed⟩
  intro entry hget
  rw [h.entries id, hc] at hget
  exact (Option.some.inj hget).symm

/-- A load keeps the index entries, and what it puts in the cache is the last accepted
checkpoint. -/
lemma Anchored.load (h : Anchored hmac t) (hdirectory : cfg.directory = true)
    (hkey : cfg.integrityKey = some hmac) (hindexed : cfg.indexed = true)
    (hinjective : Function.Injective hmac) (hreads : ∀ c, ReadsBack cfg c) (id : String)
    (refresh : Bool) :
    Anchored hmac { t with store := (loadCheckpoint cfg t.store id refresh).2 } := by
  rcases loadCheckpoint_cases (s := t.store) hdirectory id refresh with
    ⟨cached, -, -, hload⟩ | ⟨-, hload⟩
  · rw [hload]
    exact h
  · rw [hload]
    cases hread : readCheckpoint cfg t.store id with
    | error error => exact h
    | ok found =>
        cases found with
        | none => exact h
        | some loaded =>
            refine ⟨h.entries, h.written, h.index, fun key d hget hvalid => ?_⟩
            have hkept := get?_of_prune hget
            rw [Dict.get?_set] at hkept
            by_cases hkeys : key = id
            · rw [if_pos hkeys.symm] at hkept
              obtain rfl := Cached.recovery.inj (Option.some.inj hkept)
              rw [hkeys]
              exact h.read hkey hindexed hinjective hreads hread
            · rw [if_neg (Ne.symm hkeys)] at hkept
              exact h.cached key d hkept hvalid

/-- A save is refused and leaves the store, or is refused for its id and leaves the checkpoint
in the cache, or is accepted. -/
lemma saveCheckpoint_cases (hdirectory : cfg.directory = true) (s : StoreState)
    (c : RecoveryCheckpoint) (now : String) :
    (∃ error, saveCheckpoint cfg s c now = (.error error, s)) ∨
    (validId c.executionId = false ∧ ∃ error, saveCheckpoint cfg s c now = (.error error,
      { s with cache := s.cache.set c.executionId (.recovery (signed cfg c now)) })) ∨
    Accepted cfg s c now := by
  unfold saveCheckpoint
  cases hrefuse : refuse cfg s c now with
  | some error => exact .inl ⟨error, rfl⟩
  | none =>
      cases hvalid : validId c.executionId with
      | true => exact .inr (.inr ⟨hrefuse, hvalid⟩)
      | false =>
          refine .inr (.inl ⟨rfl, .checkpoint .checkpointMalformed, ?_⟩)
          dsimp only
          rw [hdirectory, executionId_signed, hvalid]
          rfl

lemma Anchored.save (h : Anchored hmac t) (hdirectory : cfg.directory = true)
    (hkey : cfg.integrityKey = some hmac) (hindexed : cfg.indexed = true)
    (c : RecoveryCheckpoint) (now : String) :
    Anchored hmac ⟨(saveCheckpoint cfg t.store c now).2, lastSaved cfg t c now⟩ := by
  unfold lastSaved
  rcases saveCheckpoint_cases hdirectory t.store c now with
    ⟨error, hsave⟩ | ⟨hinvalid, error, hsave⟩ | haccepted
  · rw [hsave]
    exact h
  · rw [hsave]
    refine ⟨h.entries, h.written, h.index, fun id d hget hvalid => h.cached id d ?_ hvalid⟩
    have hne : c.executionId ≠ id := by
      rintro rfl
      exact Bool.false_ne_true (hinvalid.symm.trans hvalid)
    exact (Dict.get?_set_of_ne hne _ _).symm.trans hget
  · have hwritten := written_signed hkey haccepted.refused
    obtain ⟨-, hindex⟩ := applyAll_saveSteps (s := t.store) hkey hindexed hwritten
    rw [executionId_signed] at hindex
    rw [saveCheckpoint_accepted hdirectory hkey hindexed haccepted]
    refine ⟨fun id => ?_, fun id d hget => ?_, .inl hindex, fun id d hget hvalid => ?_⟩
    · show Dict.get? (Dict.set t.store.entries c.executionId _) id =
        (Dict.get? (Dict.set t.last c.executionId _) id).map (entryOf hmac)
      rw [Dict.get?_set, Dict.get?_set, h.entries id]
      split
      · rfl
      · rfl
    · have hlast : Dict.get? (Dict.set t.last c.executionId (signed cfg c now)) id = some d := hget
      rw [Dict.get?_set] at hlast
      split at hlast
      · obtain rfl := Option.some.inj hlast
        exact hwritten
      · exact h.written id d hlast
    · have hkept := get?_of_prune hget
      show ∃ p, Dict.get? (Dict.set t.last c.executionId (signed cfg c now)) id = some p ∧ d.Same p
      rw [Dict.get?_set] at hkept ⊢
      by_cases hkeys : c.executionId = id
      · rw [if_pos hkeys] at hkept ⊢
        obtain rfl := Cached.recovery.inj (Option.some.inj hkept)
        exact ⟨_, rfl, rfl⟩
      · rw [if_neg hkeys] at hkept ⊢
        exact h.cached id d hkept hvalid

lemma Anchored.delete (h : Anchored hmac t) (hdirectory : cfg.directory = true)
    (hkey : cfg.integrityKey = some hmac) (hindexed : cfg.indexed = true) (id : String) :
    Anchored hmac ⟨(deleteCheckpoint cfg t.store id).2, lastDeleted cfg t id⟩ := by
  have hcache : ∀ key d, Dict.get? (Dict.erase t.store.cache id) key = some (.recovery d) →
      key ≠ id ∧ Dict.get? t.store.cache key = some (.recovery d) := by
    intro key d hget
    rw [Dict.get?_erase] at hget
    by_cases hkeys : id = key
    · rw [if_pos hkeys] at hget
      cases hget
    · rw [if_neg hkeys] at hget
      exact ⟨Ne.symm hkeys, hget⟩
  unfold lastDeleted deleteCheckpoint
  rw [hdirectory, hindexed]
  cases hvalid : validId id with
  | false =>
      refine ⟨h.entries, h.written, h.index, fun key d hget hkey => ?_⟩
      exact h.cached key d (hcache key d hget).2 hkey
  | true =>
      refine ⟨fun key => ?_, fun key d hget => ?_, .inl ?_, fun key d hget hkey => ?_⟩
      · show Dict.get? (Dict.erase t.store.entries id) key =
          (Dict.get? (Dict.erase t.last id) key).map (entryOf hmac)
        rw [Dict.get?_erase, Dict.get?_erase, h.entries key]
        split
        · rfl
        · rfl
      · have hlast : Dict.get? (Dict.erase t.last id) key = some d := hget
        rw [Dict.get?_erase] at hlast
        split at hlast
        · cases hlast
        · exact h.written key d hlast
      · unfold indexSteps
        rw [hkey, hindexed]
        rfl
      · obtain ⟨hne, hkept⟩ := hcache key d hget
        obtain ⟨c, hc, hsame⟩ := h.cached key d hkept hkey
        refine ⟨c, ?_, hsame⟩
        show Dict.get? (Dict.erase t.last id) key = some c
        rw [Dict.get?_erase_of_ne hne.symm]
        exact hc

lemma Anchored.reconcileFiles (hdirectory : cfg.directory = true)
    (hkey : cfg.integrityKey = some hmac) (hindexed : cfg.indexed = true)
    (hinjective : Function.Injective hmac) (hreads : ∀ c, ReadsBack cfg c)
    {active ids : List String} {report : Reconciliation} {s : StoreState}
    (h : Anchored hmac { t with store := s }) :
    Anchored hmac
      { t with store := (CheckpointStore.reconcileFiles cfg active ids s report).2 } := by
  induction ids generalizing s report with
  | nil => exact h
  | cons id ids ih =>
      have hload := h.load hdirectory hkey hindexed hinjective hreads id true
      unfold CheckpointStore.reconcileFiles
      cases hresult : loadCheckpoint cfg s id true with
      | mk result after =>
          rw [hresult] at hload
          cases result with
          | ok loaded => exact ih hload
          | error error =>
              cases error with
              | checkpoint code => exact ih hload
              | other exception => exact hload

lemma Anchored.reconcile (h : Anchored hmac t) (hdirectory : cfg.directory = true)
    (hkey : cfg.integrityKey = some hmac) (hindexed : cfg.indexed = true)
    (hinjective : Function.Injective hmac) (hreads : ∀ c, ReadsBack cfg c)
    (active : List String) :
    Anchored hmac { t with store := (CheckpointStore.reconcile cfg t.store active).2 } := by
  unfold CheckpointStore.reconcile
  rw [hdirectory]
  exact Anchored.reconcileFiles hdirectory hkey hindexed hinjective hreads h

lemma Anchored.restart (h : Anchored hmac t) (hkey : cfg.integrityKey = some hmac)
    (hindexed : cfg.indexed = true) {fresh : StoreState}
    (hopen : openStore cfg t.store.disk = .ok fresh) :
    Anchored hmac { t with store := fresh } := by
  rcases h.index with hsome | ⟨hnone, hentries⟩
  · rw [openStore_of_index hkey hindexed hsome] at hopen
    obtain rfl := Except.ok.inj hopen
    exact ⟨h.entries, h.written, .inl hsome, fun _ _ hget => (by cases hget)⟩
  · rw [openStore_of_no_index hkey hindexed hnone] at hopen
    split at hopen
    · obtain rfl := Except.ok.inj hopen
      have hempty : ∀ id, Dict.get? ([] : Dict String IndexEntry) id =
          (Dict.get? t.last id).map (entryOf hmac) := by
        intro id
        rw [← h.entries id, hentries]
      exact ⟨hempty, h.written, .inr ⟨hnone, rfl⟩, fun _ _ hget => (by cases hget)⟩
    · cases hopen

/-- Every operation, and every change of the checkpoint files, keeps the index entries those of
the last accepted checkpoints. -/
lemma Anchored.step (hdirectory : cfg.directory = true) (hkey : cfg.integrityKey = some hmac)
    (hindexed : cfg.indexed = true) (hinjective : Function.Injective hmac)
    (hreads : ∀ c, ReadsBack cfg c) (h : Anchored hmac t) {move : StoreMove} {u : Tracked}
    (hstep : (storeMachine cfg).step t move = some u) : Anchored hmac u := by
  cases move with
  | save c now =>
      obtain rfl := Option.some.inj hstep
      exact h.save hdirectory hkey hindexed c now
  | saveState state =>
      obtain rfl := Option.some.inj hstep
      refine ⟨h.entries, h.written, h.index, fun id d hget hvalid => ?_⟩
      have hkept : Dict.get? (Dict.set t.store.cache state.executionId (.snapshot state)) id =
        some (.recovery d) := hget
      rw [Dict.get?_set] at hkept
      split at hkept
      · cases hkept
      · exact h.cached id d hkept hvalid
  | load id refresh =>
      obtain rfl := Option.some.inj hstep
      exact h.load hdirectory hkey hindexed hinjective hreads id refresh
  | delete id =>
      obtain rfl := Option.some.inj hstep
      exact h.delete hdirectory hkey hindexed id
  | reconcile active =>
      obtain rfl := Option.some.inj hstep
      exact h.reconcile hdirectory hkey hindexed hinjective hreads active
  | restart =>
      unfold storeMachine at hstep
      dsimp only at hstep
      cases hopen : openStore cfg t.store.disk with
      | error error =>
          rw [hopen] at hstep
          cases hstep
      | ok fresh =>
          rw [hopen] at hstep
          obtain rfl := Option.some.inj hstep
          exact h.restart hkey hindexed hopen
  | tamper files =>
      obtain rfl := Option.some.inj hstep
      exact ⟨h.entries, h.written, h.index, h.cached⟩

/-! ## Answers -/

/-- Where the entries are those of the last accepted checkpoints, a load answers as it should
exactly where it does not read a file that upsets it. -/
lemma Anchored.answers_iff (h : Anchored hmac t) (hdirectory : cfg.directory = true)
    (hkey : cfg.integrityKey = some hmac) (hindexed : cfg.indexed = true)
    (hinjective : Function.Injective hmac) (hreads : ∀ c, ReadsBack cfg c) (id : String)
    (refresh : Bool) : Legible t (.load id refresh) ↔ Answers cfg t id refresh := by
  unfold Legible Answers
  dsimp only
  rcases loadCheckpoint_cases (s := t.store) hdirectory id refresh with
    ⟨cached, hrefresh, hcache, hload⟩ | ⟨hdisk, hload⟩
  · rw [hload, hcache]
    have hskip : ¬(refresh = true ∨ (some cached : Option Cached) = none) := by
      rintro (htrue | hnone)
      · exact Bool.false_ne_true (hrefresh.symm.trans htrue)
      · cases hnone
    refine iff_of_true (fun hread => absurd hread hskip) ?_
    cases cached with
    | snapshot state => exact ⟨hrefresh, rfl⟩
    | recovery loaded =>
        cases hvalid : validId id with
        | true => exact .inl (h.cached id loaded hcache hvalid)
        | false => exact .inr ⟨hrefresh, rfl, rfl⟩
  · have hupset := readCheckpoint_other_iff hkey t.store id
    have hlegible : ((refresh = true ∨ Dict.get? t.store.cache id = none) →
        upsetAt t.store id = false) ↔ ¬upsetAt t.store id = true := by
      rw [Bool.not_eq_true]
      exact ⟨fun hread => hread hdisk, fun hfalse _ => hfalse⟩
    rw [hload, hlegible, ← hupset]
    cases hread : readCheckpoint cfg t.store id with
    | error error =>
        cases error with
        | checkpoint code => exact iff_of_true (fun ⟨_, hother⟩ => (by cases hother)) trivial
        | other exception => exact iff_of_false (fun hnot => hnot ⟨exception, rfl⟩) not_false
    | ok found =>
        refine iff_of_true (fun ⟨_, hother⟩ => (by cases hother)) ?_
        cases found with
        | none => exact (readCheckpoint_ok hread).2
        | some loaded => exact .inl (h.read hkey hindexed hinjective hreads hread)

lemma loadCheckpoint_disk (hdirectory : cfg.directory = true) (s : StoreState) (id : String)
    (refresh : Bool) : (loadCheckpoint cfg s id refresh).2.disk = s.disk := by
  rcases loadCheckpoint_cases (s := s) hdirectory id refresh with ⟨cached, -, -, hload⟩ | ⟨-, hload⟩
  · rw [hload]
  · rw [hload]
    cases readCheckpoint cfg s id with
    | error error => rfl
    | ok found =>
        cases found with
        | none => rfl
        | some loaded => rfl

/-- A reconciliation ends in another exception exactly where one of its files upsets a load. -/
lemma reconcileFiles_other_iff (hdirectory : cfg.directory = true)
    (hkey : cfg.integrityKey = some hmac) (active ids : List String) (s : StoreState)
    (report : Reconciliation) :
    (∃ exception, (reconcileFiles cfg active ids s report).1 = .error (.other exception)) ↔
      ∃ id ∈ ids, upsetAt s id = true := by
  induction ids generalizing s report with
  | nil => exact iff_of_false (fun ⟨_, h⟩ => (by cases h)) (fun ⟨_, h, _⟩ => (by cases h))
  | cons id ids ih =>
      have hupset := readCheckpoint_other_iff hkey s id
      have hresult : (loadCheckpoint cfg s id true).1 = _ :=
        loadCheckpoint_fresh hdirectory (.inl rfl)
      have hdisk := loadCheckpoint_disk hdirectory s id true
      have hrest : ∀ key, upsetAt (loadCheckpoint cfg s id true).2 key = upsetAt s key := by
        intro key
        unfold upsetAt
        rw [hdisk]
      simp only [List.mem_cons, exists_eq_or_imp]
      unfold reconcileFiles
      cases hload : loadCheckpoint cfg s id true with
      | mk result after =>
          rw [hload] at hresult hrest
          dsimp only at hresult hrest ⊢
          cases hread : readCheckpoint cfg s id with
          | ok found =>
              rw [hread] at hresult hupset
              rw [show result = _ from hresult]
              have hquiet : ¬upsetAt s id = true := fun hup => by
                obtain ⟨exception, hother⟩ := hupset.mpr hup
                cases hother
              rw [or_iff_right hquiet, show (∃ key ∈ ids, upsetAt s key = true) ↔
                ∃ key ∈ ids, upsetAt after key = true by simp only [hrest]]
              exact ih _ _
          | error error =>
              rw [hread] at hresult hupset
              rw [show result = _ from hresult]
              cases error with
              | checkpoint code =>
                  have hquiet : ¬upsetAt s id = true := fun hup => by
                    obtain ⟨exception, hother⟩ := hupset.mpr hup
                    cases hother
                  rw [or_iff_right hquiet, show (∃ key ∈ ids, upsetAt s key = true) ↔
                    ∃ key ∈ ids, upsetAt after key = true by simp only [hrest]]
                  exact ih _ _
              | other exception =>
                  exact iff_of_true ⟨exception, rfl⟩ (.inl (hupset.mp ⟨exception, rfl⟩))

lemma Anchored.generation (h : Anchored hmac t) (hdirectory : cfg.directory = true)
    {c : RecoveryCheckpoint} {now : String} : RollbackSafe cfg t (.save c now) := by
  intro hsave p hlast
  have haccepted := accepted_of_ok hdirectory hsave
  have hentry := h.entries c.executionId
  rw [hlast] at hentry
  exact haccepted.generation hentry

/-- In every run of a store whose checkpoint files are rewritten by an adversary, loads answer
with the last accepted checkpoint, nothing or a `CheckpointError`, and accepted generations
increase, exactly where no file is read that upsets the load itself. -/
theorem antiRollback_iff (hdirectory : cfg.directory = true)
    (hkey : cfg.integrityKey = some hmac) (hindexed : cfg.indexed = true)
    (hinjective : Function.Injective hmac) (hreads : ∀ c, ReadsBack cfg c)
    (moves : List StoreMove) :
    (storeMachine cfg).Guarded Legible {} moves ↔
      (storeMachine cfg).Guarded (RollbackSafe cfg) {} moves := by
  have hstep : ∀ t move u, Anchored hmac t → (storeMachine cfg).step t move = some u →
      Anchored hmac u := fun _ _ _ h hstep =>
    h.step hdirectory hkey hindexed hinjective hreads hstep
  have hmove : ∀ t move, Anchored hmac t → (Legible t move ↔ RollbackSafe cfg t move) := by
    intro t move h
    cases move with
    | save c now => exact iff_of_true trivial (h.generation hdirectory)
    | saveState state => exact Iff.rfl
    | load id refresh => exact h.answers_iff hdirectory hkey hindexed hinjective hreads id refresh
    | delete id => exact Iff.rfl
    | reconcile active =>
        have hother := reconcileFiles_other_iff hdirectory hkey active (fileNames t.store) t.store
          { totalFiles := (fileNames t.store).length }
        have hfiles : reconcile cfg t.store active = reconcileFiles cfg active (fileNames t.store)
            t.store { totalFiles := (fileNames t.store).length } := by
          unfold reconcile
          rw [hdirectory]
          rfl
        unfold Legible RollbackSafe
        dsimp only
        rw [hfiles]
        have hnot := not_congr hother
        push Not at hnot
        simpa only [Bool.not_eq_true] using hnot.symm
    | restart => exact Iff.rfl
    | tamper files => exact Iff.rfl
  exact ⟨(storeMachine cfg).guarded_of_invariant (fun t move u h _ => hstep t move u h)
      (fun t move h => (hmove t move h).mp) (anchored_empty hmac),
    (storeMachine cfg).guarded_of_invariant (fun t move u h _ => hstep t move u h)
      (fun t move h => (hmove t move h).mpr) (anchored_empty hmac)⟩

/-! ### A digest that cannot be compared -/

/-- A text of the payload itself, as a digest without collisions. -/
def plainHmac (payload : Json) : String := String.ofList payload.code

lemma plainHmac_injective : Function.Injective plainHmac := Json.text_code_injective

/-- The checkpoint of an execution that has just begun, as it is saved. -/
def firstCheckpoint : RecoveryCheckpoint where
  generation := 1
  executionId := "e"
  generation_pos := le_refl 1

/-- A store with directory, key and index that reads the first checkpoint back. -/
def plainStore : StoreConfig where
  integrityKey := some plainHmac
  indexed := true
  modelValidate payload :=
    let c := { firstCheckpoint with
      integrityDigest := some (signature plainHmac firstCheckpoint.modelDump) }
    if payload.sortKeys.code = c.modelDump.sortKeys.code then some c else none

lemma plainStore_readsBack (c : RecoveryCheckpoint) : ReadsBack plainStore c := by
  intro payload d hpayload hvalidate
  have hbranch := hvalidate
  unfold plainStore at hbranch
  dsimp only at hbranch
  split at hbranch
  · rename_i hcode
    obtain rfl := Option.some.inj hbranch
    have hsorted := plainHmac_injective (congrArg String.ofList hcode)
    exact hsorted.symm.trans hpayload
  · cases hbranch

/-- A save, a restart on the files, another file over them, and loads. -/
theorem antiRollback_iff_sample :
    (storeMachine plainStore).Guarded (RollbackSafe plainStore) {}
      [.save firstCheckpoint "", .restart, .tamper [("e", .malformed)], .load "e" true] := by
  refine (antiRollback_iff rfl rfl rfl plainHmac_injective plainStore_readsBack _).mp ?_
  refine ⟨trivial, fun t _ => ⟨trivial, fun u _ => ⟨trivial, fun v htamper => ⟨?_, ?_⟩⟩⟩⟩
  · obtain rfl := Option.some.inj htamper
    exact fun _ => rfl
  · exact fun _ _ => trivial

/-- A payload of the supported version with a digest that is not ASCII. -/
def accentedFile : FileText :=
  .json ⟨.obj [("schema_version", .int 1), ("integrity_digest", .str "é")], by
    intro kvs hkvs
    obtain rfl := Json.obj.inj hkvs
    simp [Dict.NodupKeys, Dict.keys]⟩ .plain

/-- A file with a digest that is not ASCII, put where a checkpoint was saved: the load ends in
the `TypeError` of `hmac.compare_digest`, and so does a reconciliation. -/
theorem tampered_digest_raises :
    ∃ t u, (storeMachine plainStore).run {} [.save firstCheckpoint ""] = some t ∧
      (storeMachine plainStore).step t (.tamper [("e", accentedFile)]) = some u ∧
      (loadCheckpoint plainStore u.store "e" true).1 = .error (.other "TypeError") ∧
      (reconcile plainStore u.store []).1 = .error (.other "TypeError") :=
  ⟨_, _, rfl, rfl, rfl, rfl⟩

end

end CheckpointStore

end Samaktha
