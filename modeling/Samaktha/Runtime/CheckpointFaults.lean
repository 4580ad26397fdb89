import Samaktha.Runtime.CheckpointCrash

/-!
# Saves that raise

The checks of `save_checkpoint` come before it changes anything, but the cache is assigned before
the path is checked and the files are written.  A save that raises behind the checks leaves its
checkpoint in the cache: a load returns what was never saved, and the same generation cannot be
saved again (`touched_of_accepted`).

A fault of the file system is the number of steps that a group of steps has done when it raises;
the temporary file is removed on the way out.
-/

namespace Samaktha

namespace CheckpointStore

/-- Where the file system raises: among the steps of the checkpoint file or of the index. -/
inductive SaveFault where
  | file (done : ℕ)
  | index (done : ℕ)
  deriving Repr, DecidableEq, Inhabited

section

variable (cfg : StoreConfig)

/-- The steps that write the checkpoint file. -/
def fileSteps (c : RecoveryCheckpoint) : List FsStep :=
  [.openTemp c.executionId, .writeTemp c.executionId (fileText c), .replaceFile c.executionId]

/-- The files after some steps, without the temporary file of the checkpoint. -/
def faultedFile (disk : Disk) (c : RecoveryCheckpoint) (done : ℕ) : Disk :=
  let disk := disk.applyAll ((fileSteps c).take done)
  { disk with temps := disk.temps.erase c.executionId }

/-- The files after some steps of the index, without the temporary file of the index. -/
def faultedIndex (disk : Disk) (steps : List FsStep) (done : ℕ) : Disk :=
  { disk.applyAll (steps.take done) with indexTemp := none }

/-- `save_checkpoint` on a file system that raises an exception. -/
def saveFaulted (s : StoreState) (c : RecoveryCheckpoint) (now : String) (fault : SaveFault)
    (exception : String) : Except StoreError Unit × StoreState :=
  match refuse cfg s c now with
  | some error => (.error error, s)
  | none =>
      let written := signed cfg c now
      let cache := s.cache.set c.executionId (.recovery written)
      if !cfg.directory then (.ok (), { s with cache := cache })
      else if !validId c.executionId then
        (.error (.checkpoint .checkpointMalformed), { s with cache := cache })
      else
        match fault with
        | .file done =>
            (.error (.other exception),
              { s with cache := cache, disk := faultedFile s.disk written done })
        | .index done =>
            let entries := anchoredEntries cfg s written
            let steps := indexSteps cfg entries
            if steps.isEmpty then saveCheckpoint cfg s c now
            else
              (.error (.other exception), {
                cache := cache
                entries := entries
                disk := faultedIndex (s.disk.applyAll (fileSteps written)) steps done })

/-- `save_checkpoint` on a file system that may raise. -/
def saveWith (s : StoreState) (c : RecoveryCheckpoint) (now : String)
    (fault : Option (SaveFault × String)) : Except StoreError Unit × StoreState :=
  match fault with
  | none => saveCheckpoint cfg s c now
  | some (fault, exception) => saveFaulted cfg s c now fault exception

/-- The store answers as before, and a save of that generation is refused as stale only if it was
before. -/
structure Untouched (s s' : StoreState) (c : RecoveryCheckpoint) : Prop where
  loads : ∀ id refresh, (loadCheckpoint cfg s' id refresh).1 = (loadCheckpoint cfg s id refresh).1
  saves : ∀ later now, later.executionId = c.executionId → later.generation = c.generation →
    refuse cfg s' later now = some (.checkpoint .checkpointAntiRollbackFailed) →
      refuse cfg s later now = some (.checkpoint .checkpointAntiRollbackFailed)

end

section

variable {cfg : StoreConfig} {s s' : StoreState} {c : RecoveryCheckpoint} {now : String}

lemma cached_of_raised {fault : Option (SaveFault × String)} {error : StoreError}
    (haccepted : refuse cfg s c now = none) (h : saveWith cfg s c now fault = (.error error, s')) :
    s'.cache.get? c.executionId = some (.recovery (signed cfg c now)) := by
  have hset : Dict.get? (s.cache.set c.executionId (.recovery (signed cfg c now)))
      c.executionId = some (.recovery (signed cfg c now)) := Dict.get?_set_self _ _ _
  have hplain : ∀ {error : StoreError} {s' : StoreState},
      saveCheckpoint cfg s c now = (.error error, s') →
        s'.cache.get? c.executionId = some (.recovery (signed cfg c now)) := by
    intro error s' hsave
    rw [saveCheckpoint, haccepted] at hsave
    dsimp only at hsave
    split at hsave
    · cases hsave
    · split at hsave
      · rw [← (Prod.mk.inj hsave).2, executionId_signed]
        exact hset
      · cases hsave
  cases fault with
  | none => exact hplain h
  | some raised =>
      obtain ⟨fault, exception⟩ := raised
      rw [saveWith, saveFaulted, haccepted] at h
      dsimp only at h
      split at h
      · cases h
      · split at h
        · rw [← (Prod.mk.inj h).2]
          exact hset
        · cases fault with
          | file done =>
              rw [← (Prod.mk.inj h).2]
              exact hset
          | index done =>
              dsimp only at h
              split at h
              · exact hplain h
              · rw [← (Prod.mk.inj h).2]
                exact hset

lemma untouched_of_refused {fault : Option (SaveFault × String)} {error : StoreError}
    (hrefused : (refuse cfg s c now).isSome) (h : saveWith cfg s c now fault = (.error error, s')) :
    Untouched cfg s s' c := by
  obtain ⟨reason, hreason⟩ := Option.isSome_iff_exists.mp hrefused
  have hstays : s' = s := by
    cases fault with
    | none =>
        rw [saveWith, saveCheckpoint, hreason] at h
        exact (Prod.mk.inj h).2.symm
    | some raised =>
        rw [saveWith, saveFaulted, hreason] at h
        exact (Prod.mk.inj h).2.symm
  subst hstays
  exact ⟨fun _ _ => rfl, fun _ _ _ _ hstale => hstale⟩

lemma stale_of_cached {d : RecoveryCheckpoint} (haccepted : refuse cfg s c now = none)
    (hcached : s'.cache.get? c.executionId = some (.recovery d))
    (hgeneration : d.generation = c.generation) :
    refuse cfg s' c now = some (.checkpoint .checkpointAntiRollbackFailed) := by
  unfold refuse at haccepted ⊢
  split at haccepted
  · cases haccepted
  · rename_i hversion
    split at haccepted
    · cases haccepted
    · rename_i hclean
      rw [if_neg hversion, if_neg hclean, hcached]
      exact if_pos (decide_eq_true (le_of_eq hgeneration.symm))

lemma touched_of_accepted {fault : Option (SaveFault × String)} {error : StoreError}
    (haccepted : refuse cfg s c now = none) (h : saveWith cfg s c now fault = (.error error, s')) :
    ¬ Untouched cfg s s' c := by
  intro huntouched
  have hstale := stale_of_cached haccepted (cached_of_raised haccepted h)
    (generation_signed cfg c now)
  have hbefore := huntouched.saves c now rfl rfl hstale
  rw [haccepted] at hbefore
  cases hbefore

/-- A save that raises leaves the store as it was exactly when its own checks refuse it: the
schema version, the secret markers, the cached and the anchored generation. -/
theorem save_untouched_iff {fault : Option (SaveFault × String)} {error : StoreError}
    (h : saveWith cfg s c now fault = (.error error, s')) :
    Untouched cfg s s' c ↔ (refuse cfg s c now).isSome := by
  constructor
  · intro huntouched
    cases hrefuse : refuse cfg s c now with
    | none => exact absurd huntouched (touched_of_accepted hrefuse h)
    | some reason => rfl
  · intro hrefused
    exact untouched_of_refused hrefused h

/-- A second save of a generation is refused and changes nothing. -/
theorem save_untouched_iff_sample :
    let s := (saveCheckpoint sampleStore {} (sampleCheckpoint 0) "").2
    Untouched sampleStore s s (sampleCheckpoint 0) := by
  intro s
  have hrefused : saveWith sampleStore s (sampleCheckpoint 0) "" none =
      (.error (.checkpoint .checkpointAntiRollbackFailed), s) := rfl
  exact (save_untouched_iff hrefused).mpr rfl

/-- A first save on a disk that is full. -/
def fullSave : Except StoreError Unit × StoreState :=
  saveWith sampleStore {} (sampleCheckpoint 0) "" (some (.file 0, "OSError"))

/-- A checkpoint whose id is no file name. -/
def pathCheckpoint : RecoveryCheckpoint := { sampleCheckpoint 0 with executionId := "a/b" }

/-- A first save under that id. -/
def pathSave : Except StoreError Unit × StoreState :=
  saveWith sampleStore {} pathCheckpoint "" none

/-- On a full disk, and under an id that is no file name, the save raises, the checkpoint is loaded
all the same, and its generation cannot be saved again. -/
theorem save_touches :
    (fullSave.1 = .error (.other "OSError") ∧
      (loadCheckpoint sampleStore {} "e" false).1 = .ok none ∧
      (loadCheckpoint sampleStore fullSave.2 "e" false).1 =
        .ok (some (.recovery (signed sampleStore (sampleCheckpoint 0) ""))) ∧
      (saveCheckpoint sampleStore fullSave.2 (sampleCheckpoint 0) "").1 =
        .error (.checkpoint .checkpointAntiRollbackFailed)) ∧
    (pathSave.1 = .error (.checkpoint .checkpointMalformed) ∧
      (loadCheckpoint sampleStore {} "a/b" false).1 = .error (.checkpoint .checkpointMalformed) ∧
      (loadCheckpoint sampleStore pathSave.2 "a/b" false).1 =
        .ok (some (.recovery (signed sampleStore pathCheckpoint ""))) ∧
      (saveCheckpoint sampleStore pathSave.2 pathCheckpoint "").1 =
        .error (.checkpoint .checkpointAntiRollbackFailed)) :=
  ⟨⟨rfl, rfl, rfl, rfl⟩, rfl, rfl, rfl, rfl⟩

end

end CheckpointStore

end Samaktha
