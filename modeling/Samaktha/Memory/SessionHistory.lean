import Samaktha.Foundation.EventLog
import Samaktha.Foundation.Machine

/-!
# Session history

`SessionManager` for one session: the live history with its turn counter in the cached object and
in `session_memory.json`, and the archive to which the oldest entries are moved.  Any write of a
file may raise, the cached object may be evicted at any time, and `save_session` may be given any
object that was loaded before.

What is called the log is the archive followed by the history of the session as it would be
loaded.  It loses and repeats accepted events (`history_fails`): the rotation cuts the object
before it writes the archive, the archive is ahead of the memory file until that is written too,
and duplicates are looked for in the live history alone.  Runs that avoid these three
(`Careful`) keep the log (`log_of_guarded`).

Of a history entry, the id, the role and the content are kept beside the turn number; metadata,
facts, the markdown export and the index are left out, but for the writes of their files.
-/

namespace Samaktha

/-- One entry of the event log of a session. -/
structure SessionHistoryEntry where
  id : String
  role : String := "user"
  content : String := ""
  turnNumber : ℕ := 0
  deriving Repr, DecidableEq, Inhabited

/-- What a session remembers: the live history, and the next turn number. -/
structure SessionMemory where
  history : List SessionHistoryEntry := []
  nextTurnNumber : ℕ := 1
  deriving Repr, DecidableEq, Inhabited

/-- The configuration of a session manager. -/
structure SessionConfig where
  maxHistoryEntries : Option ℤ := none
  /-- Whether a session that was just used stays in the cache: `max_cached_sessions` is not 0. -/
  caches : Bool := true

/-- The file writes of `_write_session`, in order. -/
inductive SessionWrite where
  | archive
  | metadata
  | memory
  | markdown
  | index
  deriving Repr, DecidableEq, Inhabited

/-- One session: its files and the objects that were loaded from them. -/
structure SessionState where
  archive : List SessionHistoryEntry := []
  /-- `session_memory.json`. -/
  file : SessionMemory := {}
  objects : List SessionMemory := []
  /-- Which object is cached, if one is. -/
  cached : Option ℕ := none
  /-- Ghost: the entries of the appends that did not raise, in that order. -/
  accepted : List SessionHistoryEntry := []
  deriving Repr, DecidableEq, Inhabited

/-- What happens to a session; a call names the file write that raises, if one does. -/
inductive SessionMove where
  | append (event : SessionHistoryEntry) (raises : Option SessionWrite)
  /-- `save_session` of an object. -/
  | save (object : ℕ) (raises : Option SessionWrite)
  /-- `update_metadata` or `add_memory_entry`: the session is loaded and written. -/
  | update (raises : Option SessionWrite)
  | load
  | evict
  deriving Repr, DecidableEq, Inhabited

namespace SessionManager

variable (cfg : SessionConfig) (s : SessionState)

/-! ## Writing -/

/-- The history is longer than it may be. -/
def overflows (memory : SessionMemory) : Bool :=
  match cfg.maxHistoryEntries with
  | some bound => bound < memory.history.length
  | none => false

/-- How many entries a rotation moves: all but the last `max_history_entries`. -/
def overflowLength (memory : SessionMemory) : ℕ :=
  if overflows cfg memory then memory.history.length - (cfg.maxHistoryEntries.getD 0).toNat else 0

/-- The entries that go to the archive. -/
def overflow (memory : SessionMemory) : List SessionHistoryEntry :=
  memory.history.take (overflowLength cfg memory)

/-- The entries that stay. -/
def rotated (memory : SessionMemory) : SessionMemory :=
  { memory with history := memory.history.drop (overflowLength cfg memory) }

/-- `_write_session` of an object, and whether it raises.  The object is cut before the archive
is written. -/
def writeSession (object : ℕ) (memory : SessionMemory) (raises : Option SessionWrite) :
    Bool × SessionState :=
  let s := { s with objects := s.objects.set object (rotated cfg memory) }
  if overflows cfg memory && raises = some .archive then (true, s)
  else
    let s := { s with archive := s.archive ++ overflow cfg memory }
    if raises = some .metadata || raises = some .memory then (true, s)
    else
      let s := { s with file := rotated cfg memory }
      (raises = some .markdown || raises = some .index, s)

def cacheSession (object : ℕ) : SessionState :=
  { s with cached := if cfg.caches then some object else none }

/-! ## The calls -/

/-- `_load_session_locked`: the cached object, or a new one that is read from the file. -/
def loadSession : ℕ × SessionState :=
  match s.cached with
  | some object => (object, s)
  | none => (s.objects.length,
      cacheSession cfg { s with objects := s.objects ++ [s.file] } s.objects.length)

/-- What an object holds. -/
def memoryOf (object : ℕ) : SessionMemory := s.objects[object]?.getD {}

/-- An object is written and cached. -/
def saveSession (object : ℕ) (memory : SessionMemory) (raises : Option SessionWrite) :
    SessionState :=
  let (raised, s) := writeSession cfg s object memory raises
  if raised then s else cacheSession cfg s object

/-- The session with one more event, which has the next turn number. -/
def stamped (memory : SessionMemory) (event : SessionHistoryEntry) : SessionMemory where
  history := memory.history ++ [{ event with turnNumber := memory.nextTurnNumber }]
  nextTurnNumber := memory.nextTurnNumber + 1

def appendHistory (event : SessionHistoryEntry) (raises : Option SessionWrite) : SessionState :=
  let (object, s) := loadSession cfg s
  let memory := memoryOf s object
  match memory.history.find? (·.id = event.id) with
  | some found =>
      if event.id ∈ s.accepted.map SessionHistoryEntry.id then s
      else { s with accepted := s.accepted ++ [found] }
  | none =>
      let (raised, s) := writeSession cfg s object (stamped memory event) raises
      if raised then s
      else { cacheSession cfg s object with
        accepted := s.accepted ++ [{ event with turnNumber := memory.nextTurnNumber }] }

/-- The session manager driven by its callers and by the file system. -/
def machine : Machine SessionState SessionMove where
  step s
    | .append event raises => some (appendHistory cfg s event raises)
    | .save object raises =>
        s.objects[object]?.map fun memory => saveSession cfg s object memory raises
    | .update raises =>
        let (object, s) := loadSession cfg s
        some (saveSession cfg s object (memoryOf s object) raises)
    | .load => some (loadSession cfg s).2
    | .evict => some { s with cached := none }

/-- A new session. -/
def created : SessionState := cacheSession cfg { objects := [{}] } 0

/-! ## The log -/

/-- The session as it would be loaded. -/
def live : SessionMemory :=
  match s.cached with
  | some object => memoryOf s object
  | none => s.file

/-- The archived entries followed by the live history. -/
def log : List SessionHistoryEntry := s.archive ++ (live s).history

/-- The log holds each accepted event exactly once, in order of acceptance and of turns. -/
def LossFree : Prop :=
  IsLog SessionHistoryEntry.id SessionHistoryEntry.turnNumber s.accepted (log s)

/-- The replay of an accepted event changes nothing. -/
def ReplaysIdle : SessionMove → Prop
  | .append event raises => event.id ∈ s.accepted.map SessionHistoryEntry.id →
      appendHistory cfg s event raises = (loadSession cfg s).2
  | _ => True

/-- The archive has an entry that the memory file has too, or has not counted yet. -/
def ArchiveAhead : Prop :=
  ∃ entry ∈ s.archive, entry ∈ s.file.history ∨ s.file.nextTurnNumber ≤ entry.turnNumber

/-- A write that has to rotate raises only where nothing is lost by it: before the archive is
written if no accepted event is cut off, or the object is not the cached one; after that only if
it is the cached one, or the memory file was written and none is cached. -/
def WritesSafely (object : ℕ) (memory : SessionMemory) (raises : Option SessionWrite) : Prop :=
  overflows cfg memory = true →
    match raises with
    | none => True
    | some .archive => s.cached = some object → ∀ entry ∈ s.accepted, entry ∉ overflow cfg memory
    | some .metadata | some .memory => s.cached = some object
    | some .markdown | some .index => s.cached = some object ∨ s.cached = none

/-- Where a step is taken with care: no event is appended that was archived, no event is appended
again that is live because its append raised, unless it is on file and later than all that were
accepted; what is saved is the session as it is; a write that rotates raises only where nothing
is lost by it; and nothing is evicted while the archive is ahead. -/
def Careful (s : SessionState) : SessionMove → Prop
  | .append event raises =>
      let (object, loaded) := loadSession cfg s
      match (live s).history.find? (·.id = event.id) with
      | some found => event.id ∈ s.accepted.map SessionHistoryEntry.id ∨
          (found ∈ s.file.history ∧ ∀ entry ∈ s.accepted, entry.turnNumber < found.turnNumber)
      | none => event.id ∉ s.archive.map SessionHistoryEntry.id ∧
          WritesSafely cfg loaded object (stamped (live s) event) raises
  | .save object raises => ∀ memory, s.objects[object]? = some memory →
      memory = live s ∧ WritesSafely cfg s object memory raises
  | .update raises =>
      let (object, loaded) := loadSession cfg s
      WritesSafely cfg loaded object (live s) raises
  | .load => True
  | .evict => s.cached = none ∨ ¬ArchiveAhead s

/-! ## The invariant -/

/-- With what was archived, the memory holds the accepted events, and its counter is beyond
them. -/
structure Holds (accepted archived : List SessionHistoryEntry) (memory : SessionMemory) : Prop where
  log : IsLog SessionHistoryEntry.id SessionHistoryEntry.turnNumber accepted
    (archived ++ memory.history)
  counted : ∀ entry ∈ archived ++ memory.history, entry.turnNumber < memory.nextTurnNumber

/-- The entry is in the memory, or is not counted in it yet. -/
def KnownOrNew (memory : SessionMemory) (entry : SessionHistoryEntry) : Prop :=
  entry ∈ memory.history ∨ memory.nextTurnNumber ≤ entry.turnNumber

/-- The session as it would be loaded holds the accepted events; so does the file with a first
part of the archive, and what was archived since is what makes the archive ahead. -/
structure Sound (s : SessionState) : Prop where
  valid : ∀ object, s.cached = some object → object < s.objects.length
  holds : Holds s.accepted s.archive (live s)
  filed : ∃ filed rest, s.archive = filed ++ rest ∧ Holds s.accepted filed s.file ∧
    ∀ entry ∈ rest, KnownOrNew s.file entry
  counter : s.file.nextTurnNumber ≤ (live s).nextTurnNumber
  known : ∀ entry ∈ (live s).history, KnownOrNew s.file entry

section

variable {cfg : SessionConfig} {s t : SessionState}

lemma sound_of_file (hvalid : ∀ object, s.cached = some object → object < s.objects.length)
    (hlive : live s = s.file) (h : Holds s.accepted s.archive s.file) : Sound s where
  valid := hvalid
  holds := hlive ▸ h
  filed := ⟨s.archive, [], (List.append_nil _).symm, h, fun entry hentry => by cases hentry⟩
  counter := by rw [hlive]
  known entry hentry := .inl (hlive ▸ hentry)

lemma Sound.transfer (h : Sound s) (harchive : t.archive = s.archive) (hfile : t.file = s.file)
    (haccepted : t.accepted = s.accepted) (hlive : live t = live s)
    (hvalid : ∀ object, t.cached = some object → object < t.objects.length) : Sound t where
  valid := hvalid
  holds := by
    rw [haccepted, harchive, hlive]
    exact h.holds
  filed := by
    rw [haccepted, harchive, hfile]
    exact h.filed
  counter := by
    rw [hfile, hlive]
    exact h.counter
  known := by
    rw [hfile, hlive]
    exact h.known

lemma Sound.lossFree (h : Sound s) : LossFree s := h.holds.log

/-! ## Rotation -/

@[simp] lemma nextTurnNumber_rotated (memory : SessionMemory) :
    (rotated cfg memory).nextTurnNumber = memory.nextTurnNumber := rfl

lemma overflow_append_rotated (cfg : SessionConfig) (memory : SessionMemory) :
    overflow cfg memory ++ (rotated cfg memory).history = memory.history :=
  List.take_append_drop _ _

lemma mem_of_mem_rotated {memory : SessionMemory} {entry : SessionHistoryEntry}
    (h : entry ∈ (rotated cfg memory).history) : entry ∈ memory.history := List.mem_of_mem_drop h

lemma overflow_eq_nil {memory : SessionMemory} (h : overflows cfg memory = false) :
    overflow cfg memory = [] := by
  unfold overflow overflowLength
  rw [h]
  rfl

lemma rotated_eq_self {memory : SessionMemory} (h : overflows cfg memory = false) :
    rotated cfg memory = memory := by
  unfold rotated overflowLength
  rw [h]
  rfl

lemma Holds.rotate {accepted archived : List SessionHistoryEntry} {memory : SessionMemory}
    (h : Holds accepted archived memory) :
    Holds accepted (archived ++ overflow cfg memory) (rotated cfg memory) := by
  have hsame : archived ++ overflow cfg memory ++ (rotated cfg memory).history =
      archived ++ memory.history := by
    rw [List.append_assoc, overflow_append_rotated]
  exact ⟨hsame ▸ h.log, hsame ▸ h.counted⟩

lemma Holds.cut {accepted archived : List SessionHistoryEntry} {memory : SessionMemory}
    (h : Holds accepted archived memory)
    (hcut : ∀ entry ∈ accepted, entry ∉ overflow cfg memory) :
    Holds accepted archived (rotated cfg memory) := by
  have hsublist : (archived ++ (rotated cfg memory).history).Sublist (archived ++ memory.history) :=
    (List.Sublist.refl archived).append (List.drop_sublist _ _)
  refine ⟨h.log.leaveOut hsublist fun entry hentry => ?_, fun entry hentry => ?_⟩
  · have hmem := h.log.mem hentry
    rw [← overflow_append_rotated cfg memory] at hmem
    rcases List.mem_append.mp hmem with harchived | hlive
    · exact List.mem_append_left _ harchived
    · rcases List.mem_append.mp hlive with hoverflow | hkept
      · exact absurd hoverflow (hcut entry hentry)
      · exact List.mem_append_right _ hkept
  · exact h.counted entry (hsublist.subset hentry)

/-! ## Loading -/

lemma live_of_cached {object : ℕ} (h : s.cached = some object) :
    live s = memoryOf s object := by
  unfold live
  rw [h]

lemma live_of_uncached (h : s.cached = none) : live s = s.file := by
  unfold live
  rw [h]

/-- A load finds the session as it is, in an object that is cached unless nothing is. -/
structure Loaded (s : SessionState) (object : ℕ) (loaded : SessionState) : Prop where
  archive : loaded.archive = s.archive
  file : loaded.file = s.file
  accepted : loaded.accepted = s.accepted
  same : live loaded = live s
  memory : memoryOf loaded object = live s
  valid : object < loaded.objects.length
  cached : loaded.cached = some object ∨ loaded.cached = none

lemma loaded_loadSession (cfg : SessionConfig) (h : Sound s) :
    Loaded s (loadSession cfg s).1 (loadSession cfg s).2 := by
  unfold loadSession
  cases hcached : s.cached with
  | some object =>
      exact ⟨rfl, rfl, rfl, rfl, (live_of_cached hcached).symm, h.valid object hcached,
        .inl hcached⟩
  | none =>
      have hlive := live_of_uncached hcached
      have hmemory : memoryOf (cacheSession cfg { s with objects := s.objects ++ [s.file] }
          s.objects.length) s.objects.length = live s := by
        rw [hlive]
        unfold memoryOf cacheSession
        rw [List.getElem?_concat_length]
        rfl
      have hvalid : s.objects.length < (s.objects ++ [s.file]).length := by
        rw [List.length_append, List.length_singleton]
        omega
      cases hcaches : cfg.caches with
      | true =>
          have hnow : (cacheSession cfg { s with objects := s.objects ++ [s.file] }
              s.objects.length).cached = some s.objects.length := if_pos hcaches
          exact ⟨rfl, rfl, rfl, (live_of_cached hnow).trans hmemory, hmemory, hvalid, .inl hnow⟩
      | false =>
          have hnow : (cacheSession cfg { s with objects := s.objects ++ [s.file] }
              s.objects.length).cached = none :=
            if_neg (by rw [hcaches]; exact Bool.false_ne_true)
          exact ⟨rfl, rfl, rfl, (live_of_uncached hnow).trans hlive.symm, hmemory, hvalid,
            .inr hnow⟩

lemma Loaded.sound {object : ℕ} (hloaded : Loaded s object t) (h : Sound s) : Sound t := by
  refine h.transfer hloaded.archive hloaded.file hloaded.accepted hloaded.same ?_
  intro other hother
  rcases hloaded.cached with hcached | hcached
  · rw [hcached] at hother
    exact Option.some.inj hother ▸ hloaded.valid
  · rw [hcached] at hother
    cases hother

/-! ## Writing -/

/-- What a write is given: an object of the session as it is, or of the session with one more
event. -/
structure Writable (s : SessionState) (object : ℕ) (memory : SessionMemory) : Prop where
  valid : object < s.objects.length
  holds : Holds s.accepted s.archive memory
  counter : s.file.nextTurnNumber ≤ memory.nextTurnNumber
  known : ∀ entry ∈ memory.history, KnownOrNew s.file entry
  /-- Another object that is cached has the same. -/
  same : ∀ other, s.cached = some other → other ≠ object → memory = live s

lemma live_setObject {object : ℕ} (hvalid : object < s.objects.length) (memory : SessionMemory)
    (archive accepted : List SessionHistoryEntry) (file : SessionMemory) :
    live ⟨archive, file, s.objects.set object memory, s.cached, accepted⟩ =
      if s.cached = some object then memory else if s.cached = none then file else live s := by
  unfold live memoryOf
  cases hcached : s.cached with
  | none => rfl
  | some other =>
      dsimp only
      rw [if_neg (Option.some_ne_none other)]
      split
      · rename_i heq
        rw [Option.some.inj heq, List.getElem?_set_self hvalid]
        rfl
      · rename_i hne
        have hother : object ≠ other := fun heq => hne (congrArg some heq.symm)
        rw [List.getElem?_set_ne hother]

lemma Sound.setObject (h : Sound s) {object : ℕ} (hvalid : object < s.objects.length)
    {memory : SessionMemory} (hcached : s.cached ≠ some object) :
    Sound { s with objects := s.objects.set object memory } := by
  refine h.transfer rfl rfl rfl ?_ fun other hother => ?_
  · rw [live_setObject hvalid, if_neg hcached]
    split
    · rename_i hnone
      exact (live_of_uncached hnone).symm
    · rfl
  · rw [List.length_set]
    exact h.valid other hother

lemma Sound.setCached (h : Sound s) {object : ℕ} (hvalid : object < s.objects.length)
    (hcached : s.cached = some object) (memory : SessionMemory)
    (moved : List SessionHistoryEntry) (hholds : Holds s.accepted (s.archive ++ moved) memory)
    (hcounter : s.file.nextTurnNumber ≤ memory.nextTurnNumber)
    (hknown : ∀ entry ∈ moved ++ memory.history, KnownOrNew s.file entry) :
    Sound { s with
      objects := s.objects.set object memory
      archive := s.archive ++ moved } := by
  have hlive : live { s with
      objects := s.objects.set object memory
      archive := s.archive ++ moved } = memory := by
    rw [live_setObject hvalid, if_pos hcached]
  refine ⟨fun other hother => ?_, ?_, ?_, ?_, ?_⟩
  · rw [List.length_set]
    exact h.valid other hother
  · rw [hlive]
    exact hholds
  · obtain ⟨filed, rest, harchive, hfiled, hrest⟩ := h.filed
    refine ⟨filed, rest ++ moved, ?_, hfiled, fun entry hentry => ?_⟩
    · rw [← List.append_assoc, ← harchive]
    · rcases List.mem_append.mp hentry with hold | hmoved
      · exact hrest entry hold
      · exact hknown entry (List.mem_append_left _ hmoved)
  · rw [hlive]
    exact hcounter
  · rw [hlive]
    exact fun entry hentry => hknown entry (List.mem_append_right _ hentry)

lemma Sound.writeRaised (h : Sound s) {object : ℕ} {memory : SessionMemory}
    (hwritable : Writable s object memory) {raises : Option SessionWrite}
    (hsafe : WritesSafely cfg s object memory raises)
    (hraised : (writeSession cfg s object memory raises).1 = true) :
    Sound (writeSession cfg s object memory raises).2 := by
  have hvalid := hwritable.valid
  have hsplit := overflow_append_rotated cfg memory
  unfold writeSession at hraised ⊢
  dsimp only at hraised ⊢
  split at hraised
  · -- the archive
    rename_i harchive
    rw [if_pos harchive]
    obtain ⟨hover, hfails⟩ := Bool.and_eq_true_iff.mp harchive
    obtain rfl : raises = some .archive := of_decide_eq_true hfails
    by_cases hcached : s.cached = some object
    · have hcut := (hwritable.holds.cut (hsafe hover hcached))
      have hkept := h.setCached hvalid hcached (rotated cfg memory) []
        (by rwa [List.append_nil]) hwritable.counter
        (fun entry hentry => hwritable.known entry (mem_of_mem_rotated hentry))
      rwa [List.append_nil] at hkept
    · exact h.setObject hvalid hcached
  · rename_i harchive
    rw [if_neg harchive]
    split at hraised
    · -- the metadata or the memory file
      rename_i hfails
      rw [if_pos hfails]
      by_cases hcached : s.cached = some object
      · refine h.setCached hvalid hcached _ _ hwritable.holds.rotate hwritable.counter ?_
        rw [hsplit]
        exact hwritable.known
      · have hfits : overflows cfg memory = false := by
          refine Bool.eq_false_iff.mpr fun hover => hcached ?_
          have hwrites := hsafe hover
          rcases Bool.or_eq_true_iff.mp hfails with hmetadata | hmemory
          · rw [of_decide_eq_true hmetadata] at hwrites
            exact hwrites
          · rw [of_decide_eq_true hmemory] at hwrites
            exact hwrites
        rw [overflow_eq_nil hfits, List.append_nil]
        exact h.setObject hvalid hcached
    · -- the markdown file or the index
      rename_i hfails
      rw [if_neg hfails]
      have hcases : raises = some .markdown ∨ raises = some .index := by
        rcases Bool.or_eq_true_iff.mp hraised with hmarkdown | hindex
        · exact .inl (of_decide_eq_true hmarkdown)
        · exact .inr (of_decide_eq_true hindex)
      refine sound_of_file (fun other hother => ?_) ?_ hwritable.holds.rotate
      · rw [List.length_set]
        exact h.valid other hother
      · dsimp only
        rw [live_setObject hvalid]
        by_cases hcached : s.cached = some object
        · rw [if_pos hcached]
        · rw [if_neg hcached]
          cases hother : s.cached with
          | none => exact if_pos rfl
          | some other =>
              have hfits : overflows cfg memory = false := by
                refine Bool.eq_false_iff.mpr fun hover => ?_
                have hwrites := hsafe hover
                rcases hcases with rfl | rfl
                · rw [hother] at hwrites
                  exact hcached (hother.trans (hwrites.resolve_right (Option.some_ne_none _)))
                · rw [hother] at hwrites
                  exact hcached (hother.trans (hwrites.resolve_right (Option.some_ne_none _)))
              have hne : other ≠ object := fun heq => hcached (hother.trans (congrArg some heq))
              have hsame := hwritable.same other hother hne
              rw [if_neg (Option.some_ne_none other), rotated_eq_self hfits, hsame]

/-- A write that raises nothing, after which the object is cached, leaves the session as it is on
file; an event that was added may be accepted. -/
lemma sound_written (cfg : SessionConfig) {object : ℕ} {memory : SessionMemory}
    (raises : Option SessionWrite) (hvalid : object < s.objects.length)
    {accepted : List SessionHistoryEntry}
    (hholds : Holds accepted s.archive memory)
    (hreturned : (writeSession cfg s object memory raises).1 = false) :
    Sound { cacheSession cfg (writeSession cfg s object memory raises).2 object with
      accepted := accepted } := by
  unfold writeSession at hreturned ⊢
  dsimp only at hreturned ⊢
  split at hreturned
  · cases hreturned
  · rename_i harchive
    rw [if_neg harchive]
    split at hreturned
    · cases hreturned
    · rename_i hfails
      rw [if_neg hfails]
      refine sound_of_file (fun other hother => ?_) ?_ hholds.rotate
      · unfold cacheSession at hother ⊢
        dsimp only at hother ⊢
        rw [List.length_set]
        split at hother
        · exact Option.some.inj hother ▸ hvalid
        · cases hother
      · unfold live cacheSession memoryOf
        dsimp only
        split
        · rename_i other hother
          split at hother
          · obtain rfl := Option.some.inj hother
            rw [List.getElem?_set_self hvalid]
            rfl
          · cases hother
        · rfl

lemma accepted_writeSession (cfg : SessionConfig) (s : SessionState) (object : ℕ)
    (memory : SessionMemory) (raises : Option SessionWrite) :
    (writeSession cfg s object memory raises).2.accepted = s.accepted := by
  unfold writeSession
  dsimp only
  split
  · rfl
  · split
    · rfl
    · rfl

lemma Sound.save (h : Sound s) {object : ℕ} {memory : SessionMemory}
    (hwritable : Writable s object memory) {raises : Option SessionWrite}
    (hsafe : WritesSafely cfg s object memory raises) :
    Sound (saveSession cfg s object memory raises) := by
  have hraised := h.writeRaised hwritable hsafe
  have hreturned := sound_written cfg raises hwritable.valid hwritable.holds
  have haccepted := accepted_writeSession cfg s object memory raises
  unfold saveSession
  generalize writeSession cfg s object memory raises = written at hraised hreturned haccepted ⊢
  obtain ⟨raised, after⟩ := written
  cases raised with
  | true => exact hraised rfl
  | false =>
      have hsound := hreturned rfl
      rw [← haccepted] at hsound
      exact hsound

lemma Loaded.writable {object : ℕ} (hloaded : Loaded s object t) (h : Sound s) :
    Writable t object (live s) := by
  have hsound := hloaded.sound h
  refine ⟨hloaded.valid, ?_, ?_, ?_, fun other hother _ => hloaded.same.symm⟩
  · rw [← hloaded.same]
    exact hsound.holds
  · rw [← hloaded.same]
    exact hsound.counter
  · rw [← hloaded.same]
    exact hsound.known

section

variable {object : ℕ} {event : SessionHistoryEntry}

lemma not_mem_log (hlive : (live s).history.find? (·.id = event.id) = none)
    (harchive : event.id ∉ s.archive.map SessionHistoryEntry.id) :
    event.id ∉ (s.archive ++ (live s).history).map SessionHistoryEntry.id := by
  intro hmem
  rw [List.map_append] at hmem
  rcases List.mem_append.mp hmem with hold | hnew
  · exact harchive hold
  · obtain ⟨entry, hentry, hid⟩ := List.mem_map.mp hnew
    exact List.find?_eq_none.mp hlive entry hentry (decide_eq_true hid)

/-- The loaded session can be written with an event that is neither live nor archived, and then
the event may be accepted. -/
lemma Loaded.writableStamped (hloaded : Loaded s object t) (h : Sound s)
    (hlive : (live s).history.find? (·.id = event.id) = none)
    (harchive : event.id ∉ s.archive.map SessionHistoryEntry.id) :
    Writable t object (stamped (live s) event) ∧
      Holds (t.accepted ++ [{ event with turnNumber := (live s).nextTurnNumber }]) t.archive
        (stamped (live s) event) := by
  have hnew := not_mem_log hlive harchive
  have hcounted := h.holds.counted
  have hafter : ∀ entry ∈ s.archive ++ (stamped (live s)
      event).history, entry.turnNumber < (live s).nextTurnNumber + 1 := by
    intro entry hentry
    rw [stamped, ← List.append_assoc] at hentry
    rcases List.mem_append.mp hentry with hold | hlast
    · have hbefore := hcounted entry hold
      omega
    · rw [List.mem_singleton.mp hlast]
      exact Nat.lt_succ_self _
  have hone := h.holds.log.append (x := { event with
    turnNumber := (live s).nextTurnNumber }) hnew hcounted
  have hboth := h.holds.log.acceptAppended (x := { event with
    turnNumber := (live s).nextTurnNumber }) hnew hcounted
  rw [List.append_assoc] at hone hboth
  refine ⟨⟨hloaded.valid, ?_, ?_, fun entry hentry => ?_, fun other hother hne => ?_⟩, ?_⟩
  · rw [hloaded.accepted, hloaded.archive]
    exact ⟨hone, hafter⟩
  · rw [hloaded.file]
    exact h.counter.trans (Nat.le_succ _)
  · rw [hloaded.file]
    rcases List.mem_append.mp hentry with hold | hlast
    · exact h.known entry hold
    · rw [List.mem_singleton.mp hlast]
      exact .inr h.counter
  · rcases hloaded.cached with hcached | hcached
    · rw [hcached] at hother
      exact absurd (Option.some.inj hother).symm hne
    · rw [hcached] at hother
      cases hother
  · rw [hloaded.accepted, hloaded.archive]
    exact ⟨hboth, hafter⟩

lemma Sound.accept (h : Sound s) {found : SessionHistoryEntry}
    (hlive : found ∈ (live s).history) (hfile : found ∈ s.file.history)
    (hlast : ∀ entry ∈ s.accepted, entry.turnNumber < found.turnNumber) :
    Sound { s with accepted := s.accepted ++ [found] } where
  valid := h.valid
  holds := ⟨h.holds.log.accept (List.mem_append_right _ hlive) hlast, h.holds.counted⟩
  filed := by
    obtain ⟨filed, rest, harchive, hfiled, hrest⟩ := h.filed
    have haccepted := hfiled.log.accept (List.mem_append_right _ hfile) hlast
    exact ⟨filed, rest, harchive, ⟨haccepted, hfiled.counted⟩, hrest⟩
  counter := h.counter
  known := h.known

lemma Sound.append (h : Sound s) {raises : Option SessionWrite}
    (hcareful : Careful cfg s (.append event raises)) :
    Sound (appendHistory cfg s event raises) := by
  have hloaded := loaded_loadSession cfg h
  unfold Careful at hcareful
  unfold appendHistory
  dsimp only at hcareful
  generalize loadSession cfg s = loaded at hloaded hcareful ⊢
  obtain ⟨object, t⟩ := loaded
  have hsound := hloaded.sound h
  dsimp only at hloaded hcareful ⊢
  rw [hloaded.memory]
  cases hfind : (live s).history.find? (·.id = event.id) with
  | some found =>
      rw [hfind] at hcareful
      dsimp only at hcareful ⊢
      split
      · exact hsound
      · rename_i hnew
        rw [hloaded.accepted] at hnew
        obtain ⟨hfile, hlast⟩ := hcareful.resolve_left hnew
        refine hsound.accept ?_ ?_ ?_
        · rw [hloaded.same]
          exact List.mem_of_find?_eq_some hfind
        · rw [hloaded.file]
          exact hfile
        · rw [hloaded.accepted]
          exact hlast
  | none =>
      rw [hfind] at hcareful
      obtain ⟨harchive, hsafe⟩ := hcareful
      obtain ⟨hwritable, hholds⟩ := hloaded.writableStamped h hfind harchive
      have hraised := hsound.writeRaised hwritable hsafe
      have hreturned := sound_written cfg raises hwritable.valid hholds
      have haccepted := accepted_writeSession cfg t object
        (stamped (live s) event) raises
      dsimp only
      generalize writeSession cfg t object (stamped (live s) event)
        raises = written at hraised hreturned haccepted ⊢
      obtain ⟨raised, after⟩ := written
      cases raised with
      | true => exact hraised rfl
      | false =>
          have hwritten := hreturned rfl
          dsimp only at hwritten haccepted ⊢
          rw [if_neg Bool.false_ne_true, haccepted]
          exact hwritten

end

lemma Sound.evict (h : Sound s) (hcareful : s.cached = none ∨ ¬ArchiveAhead s) :
    Sound { s with cached := none } := by
  rcases hcareful with hnone | hahead
  · refine h.transfer rfl rfl rfl ?_ fun object hobject => by cases hobject
    exact (live_of_uncached hnone).symm
  · refine sound_of_file (fun object hobject => by cases hobject) rfl ?_
    obtain ⟨filed, rest, harchive, hfiled, hrest⟩ := h.filed
    obtain rfl : rest = [] := by
      refine List.eq_nil_iff_forall_not_mem.mpr fun entry hentry => hahead ⟨entry, ?_, ?_⟩
      · rw [harchive]
        exact List.mem_append_right _ hentry
      · exact hrest entry hentry
    rw [List.append_nil] at harchive
    exact harchive.symm ▸ hfiled

theorem sound_step {move : SessionMove} (h : Sound s) (hcareful : Careful cfg s move)
    (hstep : (machine cfg).step s move = some t) : Sound t := by
  cases move with
  | append event raises =>
      obtain rfl := Option.some.inj hstep
      exact h.append hcareful
  | save object raises =>
      obtain ⟨memory, hmemory, rfl⟩ := Option.map_eq_some_iff.mp hstep
      obtain ⟨rfl, hsafe⟩ := hcareful memory hmemory
      obtain ⟨hvalid, -⟩ := List.getElem?_eq_some_iff.mp hmemory
      exact h.save ⟨hvalid, h.holds, h.counter, h.known, fun _ _ _ => rfl⟩ hsafe
  | update raises =>
      have hloaded := loaded_loadSession cfg h
      unfold Careful at hcareful
      unfold machine at hstep
      dsimp only at hstep hcareful
      obtain rfl := Option.some.inj hstep
      rw [hloaded.memory]
      exact (hloaded.sound h).save (hloaded.writable h) hcareful
  | load =>
      obtain rfl := Option.some.inj hstep
      exact (loaded_loadSession cfg h).sound h
  | evict =>
      obtain rfl := Option.some.inj hstep
      exact h.evict hcareful

/-! ## Runs -/

lemma sound_created (cfg : SessionConfig) : Sound (created cfg) := by
  have hempty : Holds [] [] {} := ⟨IsLog.nil, fun entry hentry => by cases hentry⟩
  unfold created cacheSession
  cases cfg.caches with
  | true => exact sound_of_file (fun object hobject => by cases hobject; decide) rfl hempty
  | false => exact sound_of_file (fun object hobject => by cases hobject) rfl hempty

lemma Sound.replaysIdle (h : Sound s) {move : SessionMove} (hcareful : Careful cfg s move) :
    ReplaysIdle cfg s move := by
  cases move with
  | append event raises =>
      intro haccepted
      have hloaded := loaded_loadSession cfg h
      unfold Careful at hcareful
      unfold appendHistory
      dsimp only at hcareful
      generalize loadSession cfg s = loaded at hloaded hcareful ⊢
      obtain ⟨object, t⟩ := loaded
      dsimp only at hloaded hcareful ⊢
      rw [hloaded.memory]
      cases hfind : (live s).history.find? (·.id = event.id) with
      | some found =>
          dsimp only
          rw [if_pos]
          rw [hloaded.accepted]
          exact haccepted
      | none =>
          rw [hfind] at hcareful
          obtain ⟨entry, hentry, hid⟩ := List.mem_map.mp haccepted
          rcases List.mem_append.mp (h.holds.log.mem hentry) with harchived | hlive
          · exact absurd (List.mem_map.mpr ⟨entry, harchived, hid⟩) hcareful.1
          · exact absurd (decide_eq_true hid) (List.find?_eq_none.mp hfind entry hlive)
  | _ => trivial

/-- In every run whose steps are taken with care, the log holds each accepted event exactly once,
in order, in every state, and the replay of an accepted event changes nothing. -/
theorem log_of_guarded (cfg : SessionConfig) (moves : List SessionMove)
    (hcareful : (machine cfg).Guarded (Careful cfg) (created cfg) moves) :
    (machine cfg).Guarded (ReplaysIdle cfg) (created cfg) moves ∧
      ∀ earlier t, earlier <+: moves → (machine cfg).run (created cfg) earlier = some t →
        LossFree t := by
  have hstep : ∀ s move t, Sound s → Careful cfg s move → (machine cfg).step s move = some t →
      Sound t := fun s move t h hcareful ht => sound_step h hcareful ht
  constructor
  · exact (machine cfg).guarded_of_invariant hstep (fun s move h hmove => h.replaysIdle hmove)
      (sound_created cfg) hcareful
  · rintro earlier t ⟨rest, rfl⟩ hrun
    have hearlier := ((machine cfg).guarded_append.mp hcareful).1
    exact ((machine cfg).guarded_invariant hstep (sound_created cfg) hearlier hrun).lossFree

/-! ### Rotations that raise, evictions and replays -/

instance (memory : SessionMemory) (object : ℕ) (raises : Option SessionWrite) :
    Decidable (WritesSafely cfg s object memory raises) :=
  match raises with
  | none => inferInstanceAs (Decidable (overflows cfg memory = true → True))
  | some .archive => inferInstanceAs (Decidable (overflows cfg memory = true →
      s.cached = some object → ∀ entry ∈ s.accepted, entry ∉ overflow cfg memory))
  | some .metadata | some .memory =>
      inferInstanceAs (Decidable (overflows cfg memory = true → s.cached = some object))
  | some .markdown | some .index => inferInstanceAs (Decidable (overflows cfg memory = true →
      s.cached = some object ∨ s.cached = none))

instance (move : SessionMove) : Decidable (Careful cfg s move) :=
  match move with
  | .append event raises =>
      match h : (live s).history.find? (·.id = event.id) with
      | some found => decidable_of_iff (event.id ∈ s.accepted.map SessionHistoryEntry.id ∨
          (found ∈ s.file.history ∧ ∀ entry ∈ s.accepted, entry.turnNumber < found.turnNumber))
          (by unfold Careful; dsimp only; rw [h])
      | none => decidable_of_iff (event.id ∉ s.archive.map SessionHistoryEntry.id ∧
          WritesSafely cfg (loadSession cfg s).2 (loadSession cfg s).1 (stamped (live s) event)
            raises) (by unfold Careful; dsimp only; rw [h])
  | .save object raises => inferInstanceAs (Decidable (∀ memory ∈ s.objects[object]?,
      memory = live s ∧ WritesSafely cfg s object memory raises))
  | .update raises => inferInstanceAs
      (Decidable (WritesSafely cfg (loadSession cfg s).2 (loadSession cfg s).1 (live s) raises))
  | .load => inferInstanceAs (Decidable True)
  | .evict => inferInstanceAs (Decidable (s.cached = none ∨
      ¬∃ entry ∈ s.archive, entry ∈ s.file.history ∨ s.file.nextTurnNumber ≤ entry.turnNumber))

def turn (id : String) : SessionHistoryEntry := { id := id }

/-- Two entries may be live. -/
def twoLive : SessionConfig := { maxHistoryEntries := some 2 }

/-- The write of the index raises in a rotation, the append is tried again, and the session is
evicted and loaded again. -/
theorem log_of_guarded_sample :
    LossFree (((machine twoLive).run (created twoLive) [.append (turn "a") none,
      .append (turn "b") none, .append (turn "c") (some .index), .append (turn "c") none,
      .evict, .append (turn "d") none]).getD {}) := by
  obtain ⟨-, hlog⟩ := log_of_guarded twoLive [.append (turn "a") none,
    .append (turn "b") none, .append (turn "c") (some .index), .append (turn "c") none,
    .evict, .append (turn "d") none] (by decide)
  exact hlog _ _ (List.prefix_refl _) (some_getD (by decide) {})

/-- An accepted event is lost when the archive cannot be written, the overflow is repeated when
the memory file cannot be written and the session is evicted, and an archived event is accepted
again. -/
theorem history_fails :
    let oneLive : SessionConfig := { maxHistoryEntries := some 1 }
    let ids (moves : List SessionMove) := ((machine oneLive).run (created oneLive) moves).map
      fun s => (s.accepted.map SessionHistoryEntry.id, (log s).map SessionHistoryEntry.id)
    ids [.append (turn "a") none, .append (turn "b") (some .archive)] =
        some (["a"], ["b"]) ∧
      ids [.append (turn "a") none, .append (turn "b") (some .memory), .evict] =
        some (["a"], ["a", "a"]) ∧
      ids [.append (turn "a") none, .append (turn "b") none, .append (turn "a") none] =
        some (["a", "b", "a"], ["a", "b", "a"]) := by
  decide

end

end SessionManager

end Samaktha
