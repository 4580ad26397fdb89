import Samaktha.Runtime.CheckpointFiles

/-!
# Crashes in the course of a save

A save with an integrity index replaces two files one after the other: the checkpoint file, and
the index that anchors its generation and digest.  Each is replaced atomically, but not both
together.  A crash between the two leaves a checkpoint that a fresh store rejects, or an index
that the constructor rejects; a crash before or after leaves the previous checkpoint or the new
one (`crash_recovers_iff`).

A crash is a prefix of the file-system steps of the save.
-/

namespace Samaktha

namespace CheckpointStore

/-- A list of saves, all of which succeed, and the last checkpoint saved for each execution. -/
def saveAll (cfg : StoreConfig) : StoreState → Dict String RecoveryCheckpoint →
    List (RecoveryCheckpoint × String) → Option (StoreState × Dict String RecoveryCheckpoint)
  | s, saved, [] => some (s, saved)
  | s, saved, (c, now) :: rest =>
      match saveCheckpoint cfg s c now with
      | (.ok (), s) => saveAll cfg s (Dict.set saved c.executionId (signed cfg c now)) rest
      | (.error _, _) => none

/-- A fresh store on these files loads the previous checkpoint or the new one. -/
def Recovers (cfg : StoreConfig) (disk : Disk) (previous : Option RecoveryCheckpoint)
    (new : RecoveryCheckpoint) : Prop :=
  ∃ fresh, openStore cfg disk = .ok fresh ∧ ∀ refresh,
    match (loadCheckpoint cfg fresh new.executionId refresh).1 with
    | .ok none => previous = none
    | .ok (some (.recovery loaded)) =>
        (∃ c, previous = some c ∧ loaded.Same c) ∨ loaded.Same new
    | .ok (some (.snapshot _)) => False
    | .error _ => False

section

variable {cfg : StoreConfig} {hmac : Json → String} {s : StoreState}
  {saved : Dict String RecoveryCheckpoint}

/-! ## The files of a store -/

/-- Files and index hold the last checkpoint saved for each execution. -/
structure Filed (hmac : Json → String) (saved : Dict String RecoveryCheckpoint)
    (s : StoreState) : Prop where
  files : ∀ id, Dict.get? s.disk.files id = (Dict.get? saved id).map fileText
  entries : ∀ id, Dict.get? s.entries id = (Dict.get? saved id).map (entryOf hmac)
  written : ∀ id c, Dict.get? saved id = some c → Written hmac c ∧ c.executionId = id
  index : s.disk.index = some (indexFile hmac s.entries) ∨
    (s.disk.index = none ∧ s.disk.files = [] ∧ s.entries = [])

lemma filed_empty (hmac : Json → String) : Filed hmac [] {} :=
  ⟨fun _ => rfl, fun _ => rfl, fun _ _ h => (by cases h), .inr ⟨rfl, rfl, rfl⟩⟩

structure Accepted (cfg : StoreConfig) (s : StoreState) (c : RecoveryCheckpoint)
    (now : String) : Prop where
  refused : refuse cfg s c now = none
  valid : validId c.executionId = true

lemma executionId_signed (cfg : StoreConfig) (c : RecoveryCheckpoint) (now : String) :
    (signed cfg c now).executionId = c.executionId := by
  unfold signed
  cases cfg.integrityKey <;> rfl

lemma accepted_of_ok {c : RecoveryCheckpoint} {now : String} (hdirectory : cfg.directory = true)
    (h : (saveCheckpoint cfg s c now).1 = .ok ()) : Accepted cfg s c now := by
  unfold saveCheckpoint at h
  cases hrefuse : refuse cfg s c now with
  | some error =>
      rw [hrefuse] at h
      cases h
  | none =>
      rw [hrefuse] at h
      dsimp only at h
      rw [hdirectory, if_neg (by decide)] at h
      split at h
      · cases h
      · rename_i hvalid
        refine ⟨hrefuse, ?_⟩
        rw [executionId_signed] at hvalid
        simpa using hvalid

lemma generation_signed (cfg : StoreConfig) (c : RecoveryCheckpoint) (now : String) :
    (signed cfg c now).generation = c.generation := by
  unfold signed
  cases cfg.integrityKey <;> rfl

lemma Accepted.generation {c : RecoveryCheckpoint} {now : String} (h : Accepted cfg s c now)
    {entry : IndexEntry} (hentry : Dict.get? s.entries c.executionId = some entry) :
    entry.generation < c.generation := by
  by_contra hgeneration
  have hle : c.generation ≤ entry.generation := not_lt.mp hgeneration
  have hrefuse := h.refused
  unfold refuse at hrefuse
  rw [hentry] at hrefuse
  dsimp only at hrefuse
  rw [if_pos (decide_eq_true hle)] at hrefuse
  split_ifs at hrefuse

lemma anchoredEntries_written (hindexed : cfg.indexed = true) {c : RecoveryCheckpoint}
    (hwritten : Written hmac c) :
    anchoredEntries cfg s c = Dict.set s.entries c.executionId (entryOf hmac c) := by
  unfold anchoredEntries
  rw [hindexed, hwritten.digest]
  rfl

lemma applyAll_take_saveSteps (hkey : cfg.integrityKey = some hmac)
    (hindexed : cfg.indexed = true) {c : RecoveryCheckpoint} (hwritten : Written hmac c) (k : ℕ) :
    let disk := s.disk.applyAll ((saveSteps cfg s c).take k)
    disk.files = (if k < 3 then s.disk.files
      else Dict.set s.disk.files c.executionId (fileText c)) ∧
    disk.index = if k < 6 then s.disk.index
      else some (indexFile hmac (Dict.set s.entries c.executionId (entryOf hmac c))) := by
  have hsteps : saveSteps cfg s c = [.openTemp c.executionId,
      .writeTemp c.executionId (fileText c), .replaceFile c.executionId, .openIndexTemp,
      .writeIndexTemp (indexFile hmac (Dict.set s.entries c.executionId (entryOf hmac c))),
      .replaceIndex] := by
    unfold saveSteps indexSteps
    rw [hkey, hindexed, anchoredEntries_written hindexed hwritten]
    rfl
  intro disk
  have hdisk : disk = s.disk.applyAll ((saveSteps cfg s c).take k) := rfl
  rw [hsteps] at hdisk
  match k with
  | 0 | 1 | 2 => exact hdisk ▸ ⟨rfl, rfl⟩
  | 3 | 4 | 5 | k + 6 =>
      simp [hdisk, Disk.applyAll, Disk.apply]

lemma isEmpty_set {d : Dict String FileText} (id : String) (text : FileText) :
    (Dict.set d id text).isEmpty = false := by
  have hget := Dict.get?_set_self d id text
  cases hset : Dict.set d id text with
  | nil =>
      rw [hset] at hget
      cases hget
  | cons kv rest => rfl

lemma applyAll_saveSteps (hkey : cfg.integrityKey = some hmac) (hindexed : cfg.indexed = true)
    {c : RecoveryCheckpoint} (hwritten : Written hmac c) :
    (s.disk.applyAll (saveSteps cfg s c)).files =
        Dict.set s.disk.files c.executionId (fileText c) ∧
      (s.disk.applyAll (saveSteps cfg s c)).index =
        some (indexFile hmac (Dict.set s.entries c.executionId (entryOf hmac c))) := by
  obtain ⟨hfiles, hindex⟩ := applyAll_take_saveSteps (s := s) hkey hindexed hwritten 6
  have hlength : (saveSteps cfg s c).take 6 = saveSteps cfg s c := by
    refine List.take_of_length_le ?_
    unfold saveSteps indexSteps
    rw [hkey, hindexed]
    exact le_refl _
  rw [hlength, if_neg (by decide)] at hfiles hindex
  exact ⟨hfiles, hindex⟩

lemma saveCheckpoint_accepted (hdirectory : cfg.directory = true)
    (hkey : cfg.integrityKey = some hmac) (hindexed : cfg.indexed = true)
    {c : RecoveryCheckpoint} {now : String} (haccepted : Accepted cfg s c now) :
    saveCheckpoint cfg s c now = (.ok (), {
      cache := prune cfg (some c.executionId)
        (Dict.set s.cache c.executionId (.recovery (signed cfg c now)))
      entries := Dict.set s.entries c.executionId (entryOf hmac (signed cfg c now))
      disk := s.disk.applyAll (saveSteps cfg s (signed cfg c now)) }) := by
  have hwritten := written_signed hkey haccepted.refused
  unfold saveCheckpoint
  rw [haccepted.refused, hdirectory]
  dsimp only
  rw [executionId_signed, haccepted.valid, anchoredEntries_written hindexed hwritten,
    executionId_signed]
  rfl

lemma Filed.save (h : Filed hmac saved s) (hdirectory : cfg.directory = true)
    (hkey : cfg.integrityKey = some hmac) (hindexed : cfg.indexed = true)
    {c : RecoveryCheckpoint} {now : String} (haccepted : Accepted cfg s c now) :
    Filed hmac (Dict.set saved c.executionId (signed cfg c now))
      (saveCheckpoint cfg s c now).2 := by
  have hwritten := written_signed hkey haccepted.refused
  have hid := executionId_signed cfg c now
  obtain ⟨hfiles, hindex⟩ := applyAll_saveSteps (s := s) hkey hindexed hwritten
  rw [saveCheckpoint_accepted hdirectory hkey hindexed haccepted]
  refine ⟨fun id => ?_, fun id => ?_, fun id c' hget => ?_, .inl ?_⟩
  · rw [hfiles, hid, Dict.get?_set, Dict.get?_set, h.files id]
    split
    · rfl
    · rfl
  · rw [Dict.get?_set, Dict.get?_set, h.entries id]
    split
    · rfl
    · rfl
  · rw [Dict.get?_set] at hget
    split at hget
    · rename_i heq
      obtain rfl := Option.some.inj hget
      exact ⟨hwritten, hid.trans heq⟩
    · exact h.written id c' hget
  · rw [hindex, hid]

/-! ## A fresh store -/

lemma openStore_of_index (hkey : cfg.integrityKey = some hmac) (hindexed : cfg.indexed = true)
    {disk : Disk} {entries : Dict String IndexEntry}
    (h : disk.index = some (indexFile hmac entries)) :
    openStore cfg disk = .ok { entries := entries, disk := disk } := by
  unfold openStore loadIndex
  have hsigned : (indexFile hmac entries).integrityDigest =
      signature hmac (indexPayload (indexFile hmac entries).entries) := rfl
  rw [hkey, hindexed, h]
  dsimp only
  rw [if_pos hsigned]
  rfl

lemma openStore_of_no_index (hkey : cfg.integrityKey = some hmac) (hindexed : cfg.indexed = true)
    {disk : Disk} (h : disk.index = none) :
    openStore cfg disk = if disk.files.isEmpty then .ok { disk := disk }
      else .error (.checkpoint .integrityIndexAuthenticationFailed) := by
  unfold openStore loadIndex
  rw [hkey, hindexed, h]
  dsimp only
  split
  · rfl
  · rfl

lemma loadCheckpoint_fresh (hdirectory : cfg.directory = true) {id : String} {refresh : Bool}
    (hcache : refresh = true ∨ Dict.get? s.cache id = none) :
    (loadCheckpoint cfg s id refresh).1 =
      (readCheckpoint cfg s id).map (Option.map Cached.recovery) := by
  have hmiss : (if refresh then none else Dict.get? s.cache id) = none := by
    rcases hcache with hrefresh | hnone
    · rw [if_pos hrefresh]
    · rw [hnone, ite_self]
  unfold loadCheckpoint
  rw [hmiss, hdirectory]
  dsimp only
  rw [if_neg (by decide)]
  cases readCheckpoint cfg s id with
  | error error => rfl
  | ok found =>
      cases found with
      | none => rfl
      | some loaded => rfl

lemma readCheckpoint_written (hkey : cfg.integrityKey = some hmac) (hindexed : cfg.indexed = true)
    (hascii : ∀ payload, isAscii (hmac payload) = true) {c d : RecoveryCheckpoint}
    (hwritten : Written hmac c) (hvalid : validId c.executionId = true)
    (hvalidate : cfg.modelValidate c.modelDump.sortKeys = some d) (hsame : d.Same c)
    (hfile : Dict.get? s.disk.files c.executionId = some (fileText c)) :
    readCheckpoint cfg s c.executionId =
      match Dict.get? s.entries c.executionId with
      | none => .error (.checkpoint .checkpointOrphaned)
      | some expected =>
          if expected.generation = c.generation ∧
              expected.integrityDigest = signature hmac c.modelDump then .ok (some d)
          else .error (.checkpoint .checkpointAntiRollbackFailed) := by
  unfold readCheckpoint
  rw [hvalid, if_neg (by decide), hfile]
  dsimp only [fileText]
  rw [readParsed_written hkey hindexed hascii hwritten hvalidate hsame]
  cases Dict.get? s.entries c.executionId with
  | none => rfl
  | some expected =>
      dsimp only
      split
      · rfl
      · rfl

/-- The model reads its own dump of a checkpoint. -/
def Validates (cfg : StoreConfig) (c : RecoveryCheckpoint) : Prop :=
  ∃ d, cfg.modelValidate c.modelDump.sortKeys = some d ∧ d.Same c

lemma recovers_of_entry (hdirectory : cfg.directory = true) (hkey : cfg.integrityKey = some hmac)
    (hindexed : cfg.indexed = true) (hascii : ∀ payload, isAscii (hmac payload) = true)
    {c : RecoveryCheckpoint} (hwritten : Written hmac c) (hvalid : validId c.executionId = true)
    (hvalidates : Validates cfg c) (hcache : s.cache = [])
    (hfile : Dict.get? s.disk.files c.executionId = some (fileText c))
    (hentry : Dict.get? s.entries c.executionId = some (entryOf hmac c)) (refresh : Bool) :
    ∃ loaded, (loadCheckpoint cfg s c.executionId refresh).1 =
      .ok (some (.recovery loaded)) ∧ loaded.Same c := by
  obtain ⟨d, hvalidate, hsame⟩ := hvalidates
  refine ⟨d, ?_, hsame⟩
  rw [loadCheckpoint_fresh hdirectory (.inr (by rw [hcache]; rfl)),
    readCheckpoint_written hkey hindexed hascii hwritten hvalid hvalidate hsame hfile, hentry]
  dsimp only
  rw [if_pos ⟨rfl, rfl⟩]
  rfl

/-- Where the index has no entry, or one of another generation, a fresh store rejects the
file. -/
lemma rejects_of_entry (hdirectory : cfg.directory = true) (hkey : cfg.integrityKey = some hmac)
    (hindexed : cfg.indexed = true) (hascii : ∀ payload, isAscii (hmac payload) = true)
    {c : RecoveryCheckpoint} (hwritten : Written hmac c) (hvalid : validId c.executionId = true)
    (hvalidates : Validates cfg c) (hcache : s.cache = [])
    (hfile : Dict.get? s.disk.files c.executionId = some (fileText c))
    (hentry : ∀ entry, Dict.get? s.entries c.executionId = some entry →
      entry.generation ≠ c.generation) (refresh : Bool) :
    ∃ error, (loadCheckpoint cfg s c.executionId refresh).1 = .error error := by
  obtain ⟨d, hvalidate, hsame⟩ := hvalidates
  rw [loadCheckpoint_fresh hdirectory (.inr (by rw [hcache]; rfl)),
    readCheckpoint_written hkey hindexed hascii hwritten hvalid hvalidate hsame hfile]
  cases hget : Dict.get? s.entries c.executionId with
  | none => exact ⟨_, rfl⟩
  | some entry =>
      dsimp only
      rw [if_neg fun hmatch => hentry entry hget hmatch.1]
      exact ⟨_, rfl⟩

lemma filed_saveAll (hdirectory : cfg.directory = true) (hkey : cfg.integrityKey = some hmac)
    (hindexed : cfg.indexed = true) {history : List (RecoveryCheckpoint × String)}
    {t : StoreState} {saved' : Dict String RecoveryCheckpoint} (h : Filed hmac saved s)
    (hhistory : saveAll cfg s saved history = some (t, saved')) : Filed hmac saved' t := by
  induction history generalizing s saved with
  | nil =>
      obtain ⟨rfl, rfl⟩ := Prod.mk.inj (Option.some.inj hhistory)
      exact h
  | cons save rest ih =>
      obtain ⟨c, now⟩ := save
      unfold saveAll at hhistory
      have haccepted : _ → Accepted cfg s c now := accepted_of_ok hdirectory
      have hsaved : Accepted cfg s c now → _ := h.save hdirectory hkey hindexed
      cases hsave : saveCheckpoint cfg s c now with
      | mk result after =>
          rw [hsave] at hhistory haccepted hsaved
          cases result with
          | error error => cases hhistory
          | ok passed => exact ih (hsaved (haccepted rfl)) hhistory

/-- After a crash of a save, a fresh store loads the previous checkpoint or the new one exactly
where the crash was not between the replacement of the checkpoint file, which is the third step,
and that of the index, which is the sixth. -/
theorem crash_recovers_iff (hdirectory : cfg.directory = true)
    (hkey : cfg.integrityKey = some hmac) (hindexed : cfg.indexed = true)
    (hascii : ∀ payload, isAscii (hmac payload) = true)
    {history : List (RecoveryCheckpoint × String)}
    (hhistory : saveAll cfg {} [] history = some (s, saved)) {c : RecoveryCheckpoint}
    {now : String} (hsave : (saveCheckpoint cfg s c now).1 = .ok ())
    (hprevious : ∀ p, Dict.get? saved c.executionId = some p → Validates cfg p)
    (hnew : Validates cfg (signed cfg c now)) (k : ℕ) :
    Recovers cfg (s.disk.applyAll ((saveSteps cfg s (signed cfg c now)).take k))
        (Dict.get? saved c.executionId) (signed cfg c now) ↔ k < 3 ∨ 6 ≤ k := by
  have hfiled := filed_saveAll hdirectory hkey hindexed (filed_empty hmac) hhistory
  have haccepted := accepted_of_ok hdirectory hsave
  have hwritten := written_signed hkey haccepted.refused
  have hid := executionId_signed cfg c now
  have hvalid : validId (signed cfg c now).executionId = true := by
    rw [hid]
    exact haccepted.valid
  obtain ⟨hfiles, hindex⟩ := applyAll_take_saveSteps (s := s) hkey hindexed hwritten k
  generalize s.disk.applyAll ((saveSteps cfg s (signed cfg c now)).take k) = disk at hfiles hindex ⊢
  have hentries := hfiled.entries c.executionId
  by_cases hbefore : k < 3
  · -- nothing was replaced
    rw [if_pos hbefore] at hfiles
    rw [if_pos (by omega)] at hindex
    refine iff_of_true ?_ (.inl hbefore)
    obtain ⟨fresh, hopen, hfresh, hdisk, hcache⟩ : ∃ fresh, openStore cfg disk = .ok fresh ∧
        fresh.entries = s.entries ∧ fresh.disk = disk ∧ fresh.cache = [] := by
      rcases hfiled.index with hsome | ⟨hnone, hempty, hnil⟩
      · rw [hsome] at hindex
        exact ⟨_, openStore_of_index hkey hindexed hindex, rfl, rfl, rfl⟩
      · rw [hnone] at hindex
        refine ⟨_, (openStore_of_no_index hkey hindexed hindex).trans (if_pos ?_), hnil.symm, rfl,
          rfl⟩
        rw [hfiles, hempty]
        rfl
    refine ⟨fresh, hopen, fun refresh => ?_⟩
    have hfile := hfiled.files c.executionId
    rw [← hfiles, ← hdisk, ← hid] at hfile
    cases hsaved : Dict.get? saved c.executionId with
    | none =>
        rw [hid, hsaved] at hfile
        rw [hid, loadCheckpoint_fresh hdirectory (.inr (by rw [hcache]; rfl))]
        unfold readCheckpoint
        rw [haccepted.valid, if_neg (by decide), hfile]
        rfl
    | some p =>
        obtain ⟨hp, hpid⟩ := hfiled.written _ p hsaved
        rw [hid, hsaved] at hfile
        rw [hsaved] at hentries
        have hloads := recovers_of_entry (s := fresh) hdirectory hkey hindexed hascii hp
          (by rw [hpid]; exact haccepted.valid) (hprevious p hsaved) hcache
          (by rw [hpid]; exact hfile) (by rw [hpid, hfresh]; exact hentries) refresh
        obtain ⟨loaded, hload, hsame⟩ := hloads
        rw [hpid] at hload
        rw [hid, hload]
        exact .inl ⟨p, rfl, hsame⟩
  · rw [if_neg hbefore] at hfiles
    have hfile : Dict.get? disk.files (signed cfg c now).executionId =
        some (fileText (signed cfg c now)) := by
      rw [hfiles, Dict.get?_set_self]
    by_cases hafter : 6 ≤ k
    · -- both files were replaced
      rw [if_neg (by omega)] at hindex
      refine iff_of_true ?_ (.inr hafter)
      refine ⟨_, openStore_of_index hkey hindexed hindex, fun refresh => ?_⟩
      have hloads := recovers_of_entry (s := { entries := _, disk := disk }) hdirectory hkey
        hindexed hascii hwritten hvalid hnew rfl hfile (Dict.get?_set_self s.entries _ _) refresh
      obtain ⟨loaded, hload, hsame⟩ := hloads
      rw [hload]
      exact .inr hsame
    · -- the checkpoint file was replaced, and the index was not
      rw [if_pos (by omega)] at hindex
      refine iff_of_false ?_ (by omega)
      rintro ⟨fresh, hopen, hloads⟩
      rcases hfiled.index with hsome | ⟨hnone, -, -⟩
      · rw [hsome] at hindex
        rw [openStore_of_index hkey hindexed hindex] at hopen
        obtain rfl := Except.ok.inj hopen
        have hrejects := rejects_of_entry (s := { entries := s.entries, disk := disk }) hdirectory
          hkey hindexed hascii hwritten hvalid hnew rfl hfile (fun entry hentry => by
            have hless := haccepted.generation (hid ▸ hentry)
            rw [generation_signed]
            omega) true
        obtain ⟨error, hload⟩ := hrejects
        have hone := hloads true
        rw [hload] at hone
        exact hone
      · rw [hnone] at hindex
        rw [openStore_of_no_index hkey hindexed hindex, hfiles, isEmpty_set,
          if_neg Bool.false_ne_true] at hopen
        cases hopen

/-! ### A crash between the two files -/

/-- A digest for each generation, and one for the index. -/
def sampleHmac (payload : Json) : String :=
  match payload.get? "generation" with
  | some (.int 1) => "1a"
  | some _ => "2b"
  | none => "00"

/-- A checkpoint of an execution that has just begun. -/
def sampleCheckpoint (generation : ℕ) : RecoveryCheckpoint where
  generation := generation + 1
  executionId := "e"
  integrityDigest := some (if generation = 0 then "1a" else "2b")
  generation_pos := one_le_generation generation

/-- A store with directory, key and index, in which two checkpoints are validated. -/
def sampleStore : StoreConfig where
  integrityKey := some sampleHmac
  indexed := true
  modelValidate payload :=
    match payload.get? "generation" with
    | some (.int 1) => some (sampleCheckpoint 0)
    | _ => some (sampleCheckpoint 1)

/-- A crash of the second save after its second step. -/
theorem crash_recovers_iff_sample :
    let s := (saveCheckpoint sampleStore {} (sampleCheckpoint 0) "").2
    Recovers sampleStore (s.disk.applyAll
      ((saveSteps sampleStore s (signed sampleStore (sampleCheckpoint 1) "")).take 2))
      (some (signed sampleStore (sampleCheckpoint 0) ""))
      (signed sampleStore (sampleCheckpoint 1) "") := by
  intro s
  have hascii : ∀ payload, isAscii (sampleHmac payload) = true := by
    intro payload
    unfold sampleHmac
    split <;> decide
  have hhistory : saveAll sampleStore {} [] [(sampleCheckpoint 0, "")] =
      some (s, [("e", signed sampleStore (sampleCheckpoint 0) "")]) := rfl
  have hsave : (saveCheckpoint sampleStore s (sampleCheckpoint 1) "").1 = .ok () := rfl
  have hprevious : ∀ p, Dict.get? [("e", signed sampleStore (sampleCheckpoint 0) "")]
      (sampleCheckpoint 1).executionId = some p → Validates sampleStore p := by
    intro p hp
    obtain rfl := Option.some.inj hp
    exact ⟨_, rfl, rfl⟩
  have hnew : Validates sampleStore (signed sampleStore (sampleCheckpoint 1) "") := ⟨_, rfl, rfl⟩
  exact (crash_recovers_iff rfl rfl rfl hascii hhistory hsave hprevious hnew 2).mpr
    (.inl (by decide))

/-- After the third step of a first save there is no store that can be opened; after the third
step of a second save the checkpoint is rejected. -/
theorem crash_loses :
    openStore sampleStore (({} : Disk).applyAll ((saveSteps sampleStore {}
        (signed sampleStore (sampleCheckpoint 0) "")).take 3)) =
      .error (.checkpoint .integrityIndexAuthenticationFailed) ∧
    (let s := (saveCheckpoint sampleStore {} (sampleCheckpoint 0) "").2
      let disk := s.disk.applyAll ((saveSteps sampleStore s
        (signed sampleStore (sampleCheckpoint 1) "")).take 3)
      (openStore sampleStore disk).map (fun fresh =>
        (loadCheckpoint sampleStore fresh "e" true).1) =
      .ok (.error (.checkpoint .checkpointAntiRollbackFailed))) :=
  ⟨rfl, rfl⟩

end

end CheckpointStore

end Samaktha
