import Samaktha.Foundation.Ledger
import Samaktha.Governance.Records

/-!
# Chains across restarts

`ExecutionRecordStore` and `GovernanceAuditLog` as stores on a table that is built anew at every
restart, with calls whose clock readings and whose table writes are chosen from outside.

Neither store keeps the order of its chain in the table: `_load_backing` sorts the rows by the
text of `recorded_at`, and the rows come in the order of their keys.  And both change what is in
memory before they write, so that a write that raises leaves an entry that the table does not
have.  The audit log also hashes the details as they were given and recomputes the hash over what
was read back of them.
-/

namespace Samaktha

variable {sha256 : String → String}

lemma tableRows_keyed {ε : Type} {key : ε → String} {entries : List ε}
    (h : (entries.map key).Nodup) :
    (tableRows (entries.map fun e => (key e, e))).Perm entries ∧
      (tableRows (entries.map fun e => (key e, e))).Pairwise fun a b => key a < key b := by
  have hsnd : (entries.map fun e => (key e, e)).map Prod.snd = entries := by
    rw [List.map_map]
    exact List.map_id entries
  have hkeys : Dict.NodupKeys (entries.map fun e => (key e, e)) := by
    unfold Dict.NodupKeys Dict.keys
    rw [List.map_map]
    exact h
  refine ⟨?_, List.pairwise_map.mpr ?_⟩
  · have hperm := (Dict.sortByKey_perm (entries.map fun e => (key e, e))).map Prod.snd
    rwa [hsnd] at hperm
  · have hle := Dict.pairwise_sortByKey (entries.map fun e => (key e, e))
    have hne := List.pairwise_map.mp hkeys.sortByKey
    refine List.Pairwise.imp_of_mem ?_ (hle.and hne)
    rintro a b ha hb ⟨hab, hne⟩
    have hkey : ∀ row ∈ Dict.sortByKey (entries.map fun e => (key e, e)), row.1 = key row.2 := by
      intro row hrow
      obtain ⟨e, -, rfl⟩ := List.mem_map.mp ((Dict.sortByKey_perm _).mem_iff.mp hrow)
      rfl
    rw [← hkey a ha, ← hkey b hb]
    exact lt_of_le_of_ne hab hne

/-! ## Execution records -/

/-- An `ExecutionRecordStore` on a table.  A call is an append, with whether the table's write
raises. -/
def recordLedger (sha256 : String → String) : Ledger ExecutionRecordStore
    (ExecutionRecord × Bool) RecordError ExecutionRecord (Dict String ExecutionRecord) where
  call store input := store.append sha256 input.1 input.2
  restart store := .load store.backing
  entries := ExecutionRecordStore.records
  table := ExecutionRecordStore.backing
  verifies := ExecutionRecordStore.verifyChain sha256

namespace ExecutionRecordStore

/-- When a step keeps the chain: the record is one that is refused or its write does not raise,
and at a restart the records are in order of `recorded_at`, with those recorded at the same time
in order of their ids. -/
def StepOk (run : Ledger.Run ExecutionRecordStore ExecutionRecord) :
    Ledger.Move (ExecutionRecord × Bool) → Prop
  | .call (record, writeRaises) =>
      (Dict.get? run.store.byId record.recordId).isSome = true ∨ writeRaises = false
  | .restart => run.store.records.Pairwise
      (Before ExecutionRecord.recordedAt fun r s => r.recordId < s.recordId)

/-- The record that an append chains. -/
def chained (sha256 : String → String) (store : ExecutionRecordStore) (record : ExecutionRecord) :
    ExecutionRecord :=
  { record with
    previousHash := HashChain.head ExecutionRecord.hash "" store.records
    hash := chainFor sha256 (HashChain.head ExecutionRecord.hash "" store.records) record }

/-- The index of some records by their ids. -/
def indexed (records : List ExecutionRecord) : Dict String ExecutionRecord :=
  records.map fun r => (r.recordId, r)

@[simp] lemma keys_indexed (records : List ExecutionRecord) :
    (indexed records).keys = records.map ExecutionRecord.recordId := by
  unfold indexed Dict.keys
  rw [List.map_map]
  rfl

lemma indexed_concat (records : List ExecutionRecord) (record : ExecutionRecord) :
    indexed (records ++ [record]) = indexed records ++ [(record.recordId, record)] :=
  List.map_append

/-- What holds of a store between the steps that keep its chain. -/
structure Sound (sha256 : String → String)
    (run : Ledger.Run ExecutionRecordStore ExecutionRecord) : Prop where
  accepted : run.store.records = run.accepted
  verifies : run.store.verifyChain sha256 = true
  nodup : (run.store.records.map ExecutionRecord.recordId).Nodup
  byId : run.store.byId = indexed run.store.records
  backing : run.store.backing = indexed run.store.records

lemma append_of_known {store : ExecutionRecordStore} {record : ExecutionRecord}
    (h : (Dict.get? store.byId record.recordId).isSome = true) (writeRaises : Bool) :
    store.append sha256 record writeRaises = (.error (.exists record.recordId), store) :=
  if_pos h

lemma append_of_new (sha256 : String → String) {store : ExecutionRecordStore}
    {record : ExecutionRecord}
    (hbyId : Dict.get? store.byId record.recordId = none)
    (hbacking : Dict.get? store.backing record.recordId = none) (writeRaises : Bool) :
    store.append sha256 record writeRaises =
      if writeRaises then (.error .write, { store with
        records := store.records ++ [store.chained sha256 record]
        byId := Dict.set store.byId record.recordId (store.chained sha256 record) })
      else (.ok (store.chained sha256 record), {
        records := store.records ++ [store.chained sha256 record]
        byId := Dict.set store.byId record.recordId (store.chained sha256 record)
        backing := Dict.set store.backing record.recordId (store.chained sha256 record) }) := by
  unfold append
  rw [hbyId]
  dsimp only
  rw [hbacking]
  rfl

lemma verifyChain_append {store store' : ExecutionRecordStore} {record : ExecutionRecord}
    (h : store.verifyChain sha256 = true)
    (hrecords : store'.records = store.records ++ [store.chained sha256 record]) :
    store'.verifyChain sha256 = true := by
  unfold verifyChain
  rw [hrecords]
  exact (HashChain.verify_concat _ _).mpr ⟨h, rfl⟩

/-- A restart gets the records back in their order exactly where they are in the order that the
rows are sorted in. -/
lemma load_records_eq_iff {store : ExecutionRecordStore}
    (hnodup : (store.records.map ExecutionRecord.recordId).Nodup)
    (hbacking : store.backing = indexed store.records) :
    (load store.backing).records = store.records ↔ store.records.Pairwise
      (Before ExecutionRecord.recordedAt fun r s => r.recordId < s.recordId) := by
  obtain ⟨hperm, hrows⟩ := tableRows_keyed hnodup
  rw [hbacking]
  exact insertionSort_eq_iff hperm hrows fun r s hrs => hrs.not_gt

variable {run : Ledger.Run ExecutionRecordStore ExecutionRecord}

lemma Sound.get?_eq_none (h : Sound sha256 run) {record : ExecutionRecord}
    (hnew : Dict.get? run.store.byId record.recordId = none) :
    record.recordId ∉ run.store.records.map ExecutionRecord.recordId := by
  rw [h.byId] at hnew
  rw [← keys_indexed]
  exact Dict.get?_eq_none_iff.mp hnew

lemma Sound.backing_get? (h : Sound sha256 run) (recordId : String) :
    Dict.get? run.store.backing recordId = Dict.get? run.store.byId recordId := by
  rw [h.byId, h.backing]

lemma Sound.stepOk_iff_kept (h : Sound sha256 run) (move : Ledger.Move (ExecutionRecord × Bool)) :
    StepOk run move ↔ (recordLedger sha256).Kept run move := by
  cases move with
  | call input =>
      obtain ⟨record, writeRaises⟩ := input
      cases hknown : Dict.get? run.store.byId record.recordId with
      | some known =>
          have hsome : (Dict.get? run.store.byId record.recordId).isSome = true := by
            rw [hknown]
            rfl
          rw [Ledger.kept_call_of_error (append_of_known hsome writeRaises)]
          exact iff_of_true (.inl hsome) ⟨⟨h.verifies, h.accepted⟩, rfl, rfl⟩
      | none =>
          have happend := append_of_new sha256 hknown
            ((h.backing_get? record.recordId).trans hknown) writeRaises
          cases writeRaises with
          | true =>
              rw [Ledger.kept_call_of_error (happend.trans (if_pos rfl))]
              refine iff_of_false ?_ fun hkept => ?_
              · rintro (hsome | hfalse)
                · rw [hknown] at hsome
                  cases hsome
                · cases hfalse
              · have hlength := congrArg List.length hkept.2.1
                simp [recordLedger] at hlength
          | false =>
              rw [Ledger.kept_call_of_ok (happend.trans (if_neg Bool.false_ne_true))]
              refine iff_of_true (.inr rfl) ⟨verifyChain_append h.verifies rfl, ?_⟩
              exact congrArg (· ++ [run.store.chained sha256 record]) h.accepted
  | restart =>
      have hload := load_records_eq_iff h.nodup h.backing
      rw [Ledger.kept_restart]
      constructor
      · intro horder
        have hrecords := hload.mpr horder
        refine ⟨?_, hrecords.trans h.accepted⟩
        have hverifies := h.verifies
        unfold verifyChain at hverifies
        rwa [← hrecords] at hverifies
      · rintro ⟨-, hentries⟩
        exact hload.mp (hentries.trans h.accepted.symm)

/-- A step that meets the condition keeps the store sound. -/
lemma Sound.step (h : Sound sha256 run) {move : Ledger.Move (ExecutionRecord × Bool)}
    (hok : StepOk run move) {next : Ledger.Run ExecutionRecordStore ExecutionRecord}
    (hnext : (recordLedger sha256).machine.step run move = some next) : Sound sha256 next := by
  obtain ⟨hverifies, haccepted⟩ := ((h.stepOk_iff_kept move).mp hok).1 next hnext
  cases move with
  | call input =>
      obtain rfl := Option.some.inj hnext
      obtain ⟨record, writeRaises⟩ := input
      cases hknown : Dict.get? run.store.byId record.recordId with
      | some known =>
          have hsome : (Dict.get? run.store.byId record.recordId).isSome = true := by
            rw [hknown]
            rfl
          have hsame : ((recordLedger sha256).call run.store (record, writeRaises)).2 = run.store :=
            congrArg Prod.snd (append_of_known hsome writeRaises)
          dsimp only at hverifies haccepted ⊢
          rw [hsame] at hverifies haccepted ⊢
          exact ⟨haccepted, hverifies, h.nodup, h.byId, h.backing⟩
      | none =>
          have hmem := h.get?_eq_none hknown
          obtain rfl : writeRaises = false := by
            refine hok.resolve_left fun hsome => ?_
            rw [hknown] at hsome
            cases hsome
          have happend := (append_of_new sha256 hknown
            ((h.backing_get? record.recordId).trans hknown) false).trans
              (if_neg Bool.false_ne_true)
          have hcall : (recordLedger sha256).call run.store (record, false) = _ := happend
          dsimp only at hverifies haccepted ⊢
          rw [hcall] at hverifies haccepted ⊢
          have hset : Dict.set (indexed run.store.records) record.recordId
              (run.store.chained sha256 record) =
                indexed (run.store.records ++ [run.store.chained sha256 record]) := by
            rw [indexed_concat]
            exact Dict.set_of_notMem (by rwa [keys_indexed]) _
          refine ⟨haccepted, hverifies, ?_, ?_, ?_⟩
          · rw [List.map_append]
            refine List.nodup_append.mpr ⟨h.nodup, List.nodup_singleton _, ?_⟩
            rintro id hid _ hsingle rfl
            obtain rfl := List.mem_singleton.mp hsingle
            exact hmem hid
          · exact (congrArg (fun d => Dict.set d record.recordId _) h.byId).trans hset
          · exact (congrArg (fun d => Dict.set d record.recordId _) h.backing).trans hset
  | restart =>
      obtain rfl := Option.some.inj hnext
      have hrecords : (load run.store.backing).records = run.store.records :=
        (load_records_eq_iff h.nodup h.backing).mpr hok
      refine ⟨haccepted, hverifies, ?_, ?_, ?_⟩
      · exact (congrArg (fun rs => (rs.map ExecutionRecord.recordId).Nodup) hrecords).mpr h.nodup
      · have hkeys : Dict.NodupKeys (indexed run.store.records) := by
          unfold Dict.NodupKeys
          rw [keys_indexed]
          exact h.nodup
        have hbyId : (load run.store.backing).byId =
            Dict.ofList (indexed (load run.store.backing).records) := rfl
        exact hbyId.trans (hrecords ▸ Dict.ofList_eq_self hkeys)
      · exact h.backing.trans (congrArg indexed hrecords.symm)

end ExecutionRecordStore

/-! ## Audit entries -/

/-- A `GovernanceAuditLog` on a table.  A call is a `record`, with what the clock shows and
whether the table's write raises; entries are seen as they are after a restart. -/
def auditLedger (sha256 : String → String) : Ledger GovernanceAuditLog
    (AuditCall × String × Bool) RecordError AuditEntry (Dict String AuditEntry) where
  call log input :=
    let recorded := log.record sha256 input.1 input.2.1 input.2.2
    (recorded.1.map AuditEntry.readBack, recorded.2)
  restart log := .load log.backing
  entries log := log.entries.map AuditEntry.readBack
  table := GovernanceAuditLog.backing
  verifies := GovernanceAuditLog.verifyChain sha256

namespace GovernanceAuditLog

/-- Details that are written in a payload as they are after a restart. -/
def Stable (details : AuditDetails) : Prop :=
  details.readBack.dumped.dumps = details.dumped.dumps

/-- When a step keeps the chain: the call raises before it changes anything, or its details can be
written and the write does not raise; and at a restart the clock readings of the entries never go
back, and the details of the entries are written as they were. -/
def StepOk (run : Ledger.Run GovernanceAuditLog AuditEntry) :
    Ledger.Move (AuditCall × String × Bool) → Prop
  | .call (call, _, writeRaises) =>
      ∀ details, call.details = some details → details.stored ≠ none ∧ writeRaises = false
  | .restart => (run.store.entries.Pairwise fun e f => e.recordedAt ≤ f.recordedAt) ∧
      ∀ e ∈ run.store.entries, Stable e.details

@[simp] lemma readBack_readBack (entry : AuditEntry) :
    entry.readBack.readBack = entry.readBack := by
  simp [AuditEntry.readBack]

@[simp] lemma readBack_comp_readBack :
    AuditEntry.readBack ∘ AuditEntry.readBack = AuditEntry.readBack := funext readBack_readBack

lemma stable_readBack (entry : AuditEntry) : Stable entry.readBack.details := by
  simp [Stable, AuditEntry.readBack]

/-! ### The chain over what is read back -/

/-- The text of a payload determines the text of the details in it. -/
lemma dumps_payload_iff (entry : AuditEntry) :
    entry.readBack.payload.dumps = entry.payload.dumps ↔ Stable entry.details := by
  simp [AuditEntry.payload, AuditEntry.readBack, Json.dumps, Json.dumpsFields, Stable]

lemma probe_readBack_of_stable {entry : AuditEntry} (h : Stable entry.details)
    (previous : String) :
    entry.readBack.probe sha256 previous = entry.probe sha256 previous := by
  have htext := (dumps_payload_iff { entry with previousHash := previous }).mpr h
  exact congrArg (fun text => sha256 (previous ++ "|" ++ String.ofList text)) htext

/-- A hash without collisions is the same over the details that are read back only where they are
written as they were. -/
lemma stable_of_probe (hsha : Function.Injective sha256) {entry : AuditEntry} {previous : String}
    (h : entry.readBack.probe sha256 previous = entry.probe sha256 previous) :
    Stable entry.details := by
  refine (dumps_payload_iff { entry with previousHash := previous }).mp ?_
  have htexts := congrArg String.toList (hsha h)
  simpa [AuditEntry.readBack] using htexts

lemma verify_readBack {entries : List AuditEntry} (h : ∀ e ∈ entries, Stable e.details)
    (start : String) :
    HashChain.verify AuditEntry.hash (AuditEntry.probe sha256) start
        (entries.map AuditEntry.readBack) =
      HashChain.verify AuditEntry.hash (AuditEntry.probe sha256) start entries := by
  induction entries generalizing start with
  | nil => rfl
  | cons e entries ih =>
      have hprobe : e.readBack.probe sha256 start = e.probe sha256 start :=
        probe_readBack_of_stable (h e List.mem_cons_self) start
      rw [List.map_cons, HashChain.verify, HashChain.verify, hprobe]
      exact congrArg (_ && ·) (ih (fun f hf => h f (List.mem_cons_of_mem e hf)) _)

lemma stable_of_verify (hsha : Function.Injective sha256) {entries : List AuditEntry}
    {start : String}
    (h : HashChain.verify AuditEntry.hash (AuditEntry.probe sha256) start entries = true)
    (h' : HashChain.verify AuditEntry.hash (AuditEntry.probe sha256) start
      (entries.map AuditEntry.readBack) = true) :
    ∀ e ∈ entries, Stable e.details := by
  induction entries generalizing start with
  | nil => exact fun e he => by cases he
  | cons e entries ih =>
      simp only [List.map_cons, HashChain.verify, Bool.and_eq_true, decide_eq_true_eq] at h h'
      intro f hf
      rcases List.mem_cons.mp hf with rfl | hf
      · exact stable_of_probe hsha (h'.1.symm.trans h.1)
      · exact ih h.2 h'.2 f hf

/-- What holds of a log between the steps that keep its chain. -/
structure Sound (sha256 : String → String) (run : Ledger.Run GovernanceAuditLog AuditEntry) :
    Prop where
  accepted : run.store.entries.map AuditEntry.readBack = run.accepted
  verifies : run.store.verifyChain sha256 = true
  seqs : run.store.entries.map AuditEntry.seq =
    (List.range run.store.entries.length).map Int.ofNat
  seq : run.store.seq = run.store.entries.length
  backing : run.store.backing = run.store.entries.map fun e => (toString e.seq, e.readBack)

lemma record_eq (sha256 : String → String) (log : GovernanceAuditLog) {call : AuditCall}
    {details : AuditDetails} (h : call.details = some details) (now : String)
    (writeRaises : Bool) :
    log.record sha256 call now writeRaises =
      if details.stored.isNone || writeRaises then (.error .write, { log with
        entries := log.entries ++ [log.sealed sha256 call details now]
        seq := log.seq + 1 })
      else (.ok (log.sealed sha256 call details now), {
        entries := log.entries ++ [log.sealed sha256 call details now]
        seq := log.seq + 1
        backing := Dict.set log.backing (toString log.seq)
          (log.sealed sha256 call details now).readBack }) := by
  unfold record
  rw [h]
  rfl

lemma verifyChain_record {log log' : GovernanceAuditLog} {call : AuditCall}
    {details : AuditDetails} {now : String} (h : log.verifyChain sha256 = true)
    (hentries : log'.entries = log.entries ++ [log.sealed sha256 call details now]) :
    log'.verifyChain sha256 = true := by
  unfold verifyChain
  rw [hentries]
  exact (HashChain.verify_concat _ _).mpr ⟨h, rfl⟩

lemma toString_injective : Function.Injective (toString : ℤ → String) := fun _ _ h =>
  Json.intText_injective (congrArg String.toList h)

lemma foldl_max_range (n : ℕ) :
    ((List.range n).map Int.ofNat).foldl (fun seq e : ℤ => max seq (e + 1)) 0 = n := by
  induction n with
  | zero => rfl
  | succ n ih =>
      rw [List.range_succ, List.map_append, List.foldl_append, ih]
      show max (n : ℤ) ((n : ℤ) + 1) = ((n + 1 : ℕ) : ℤ)
      omega

variable {run : Ledger.Run GovernanceAuditLog AuditEntry}

lemma Sound.pairwise_seq (h : Sound sha256 run) :
    run.store.entries.Pairwise fun e f => e.seq < f.seq := by
  refine List.pairwise_map.mp ?_
  rw [h.seqs]
  exact List.pairwise_map.mpr (List.pairwise_lt_range.imp Int.ofNat_lt.mpr)

lemma Sound.nodup_keys (h : Sound sha256 run) :
    (run.store.entries.map fun e => toString e.seq).Nodup :=
  List.pairwise_map.mpr
    (h.pairwise_seq.imp fun hlt heq => hlt.ne (toString_injective heq))

/-- A restart gets the entries back in their order exactly where the clock never went back. -/
lemma Sound.load_entries_eq_iff (h : Sound sha256 run) :
    (load run.store.backing).entries = run.store.entries.map AuditEntry.readBack ↔
      run.store.entries.Pairwise fun e f => e.recordedAt ≤ f.recordedAt := by
  have hkeys : ((run.store.entries.map AuditEntry.readBack).map fun e => toString e.seq).Nodup := by
    rw [List.map_map]
    exact h.nodup_keys
  have hbacking : run.store.backing =
      (run.store.entries.map AuditEntry.readBack).map fun e => (toString e.seq, e) := by
    rw [List.map_map]
    exact h.backing
  obtain ⟨hperm, hrows⟩ := tableRows_keyed hkeys
  rw [hbacking]
  refine (insertionSort_eq_iff hperm hrows fun e f hef => hef.not_gt).trans
    (List.pairwise_map.trans ⟨fun hall => ?_, fun hall => ?_⟩)
  · exact hall.imp fun hef => Prod.Lex.monotone_fst _ _ hef.le
  · refine (hall.and h.pairwise_seq).imp ?_
    rintro e f ⟨hle, hseq⟩
    refine .inl (Prod.Lex.toLex_lt_toLex.mpr ?_)
    exact hle.lt_or_eq.imp_right fun heq => ⟨heq, hseq⟩

/-- A call keeps the chain exactly where the condition holds. -/
lemma Sound.stepOk_call_iff (h : Sound sha256 run) (call : AuditCall) (now : String)
    (writeRaises : Bool) :
    StepOk run (.call (call, now, writeRaises)) ↔
      (auditLedger sha256).Kept run (.call (call, now, writeRaises)) := by
  cases hdetails : call.details with
  | none =>
      have hcall : (auditLedger sha256).call run.store (call, now, writeRaises) =
          (.error .details, run.store) := by
        simp [auditLedger, record, hdetails, Except.map]
      rw [Ledger.kept_call_of_error hcall]
      refine iff_of_true (fun details hsome => ?_) ⟨⟨h.verifies, h.accepted⟩, rfl, rfl⟩
      rw [hdetails] at hsome
      cases hsome
  | some details =>
      have hrecord := record_eq sha256 run.store hdetails now writeRaises
      have hok : StepOk run (.call (call, now, writeRaises)) ↔
          details.stored ≠ none ∧ writeRaises = false := by
        simp [StepOk, hdetails]
      rw [hok]
      by_cases hraises : (details.stored.isNone || writeRaises) = true
      · rw [if_pos hraises] at hrecord
        have hcall : (auditLedger sha256).call run.store (call, now, writeRaises) = (.error .write,
            { run.store with
              entries := run.store.entries ++ [run.store.sealed sha256 call details now]
              seq := run.store.seq + 1 }) := by
          simp only [auditLedger, hrecord]
          rfl
        rw [Ledger.kept_call_of_error hcall]
        refine iff_of_false ?_ fun hkept => ?_
        · rintro ⟨hstored, rfl⟩
          rw [Bool.or_false, Option.isNone_iff_eq_none] at hraises
          exact hstored hraises
        · have hlength := congrArg List.length hkept.2.1
          simp [auditLedger] at hlength
      · rw [if_neg hraises] at hrecord
        have hcall : (auditLedger sha256).call run.store (call, now, writeRaises) = (.ok
            (run.store.sealed sha256 call details now).readBack, {
              entries := run.store.entries ++ [run.store.sealed sha256 call details now]
              seq := run.store.seq + 1
              backing := Dict.set run.store.backing (toString run.store.seq)
                (run.store.sealed sha256 call details now).readBack }) := by
          simp only [auditLedger, hrecord]
          rfl
        rw [Ledger.kept_call_of_ok hcall]
        rw [Bool.or_eq_true, not_or, Bool.not_eq_true, Bool.not_eq_true] at hraises
        refine iff_of_true ⟨fun hnone => ?_, hraises.2⟩ ⟨verifyChain_record h.verifies rfl, ?_⟩
        · rw [hnone] at hraises
          cases hraises.1
        · exact List.map_append.trans
            (congrArg (· ++ [(run.store.sealed sha256 call details now).readBack]) h.accepted)

lemma Sound.verifies_load (h : Sound sha256 run)
    (hentries : (load run.store.backing).entries = run.store.entries.map AuditEntry.readBack)
    (hstable : ∀ e ∈ run.store.entries, Stable e.details) :
    (load run.store.backing).verifyChain sha256 = true := by
  unfold verifyChain
  rw [hentries, verify_readBack hstable]
  exact h.verifies

lemma Sound.kept_restart (h : Sound sha256 run) (hok : StepOk run .restart) :
    (auditLedger sha256).Kept run .restart := by
  rw [Ledger.kept_restart]
  have hentries := h.load_entries_eq_iff.mpr hok.1
  refine ⟨h.verifies_load hentries hok.2, ?_⟩
  show (load run.store.backing).entries.map AuditEntry.readBack = run.accepted
  rw [hentries, List.map_map, readBack_comp_readBack]
  exact h.accepted

lemma Sound.kept_of_stepOk (h : Sound sha256 run) {move : Ledger.Move (AuditCall × String × Bool)}
    (hok : StepOk run move) : (auditLedger sha256).Kept run move := by
  cases move with
  | call input => exact (h.stepOk_call_iff _ _ _).mp hok
  | restart => exact h.kept_restart hok

lemma readBack_load (h : Sound sha256 run) :
    (load run.store.backing).entries.map AuditEntry.readBack =
      (load run.store.backing).entries := by
  refine (List.map_congr_left fun e he => ?_).trans (List.map_id _)
  have hrow := (List.mem_insertionSort _).mp he
  obtain ⟨row, hmem, rfl⟩ := List.mem_map.mp hrow
  have hmem := (Dict.sortByKey_perm _).mem_iff.mp hmem
  rw [h.backing] at hmem
  obtain ⟨entry, -, rfl⟩ := List.mem_map.mp hmem
  exact readBack_readBack entry

lemma Sound.stepOk_of_kept (hsha : Function.Injective sha256) (h : Sound sha256 run)
    {move : Ledger.Move (AuditCall × String × Bool)} (hkept : (auditLedger sha256).Kept run move) :
    StepOk run move := by
  cases move with
  | call input => exact (h.stepOk_call_iff _ _ _).mpr hkept
  | restart =>
      obtain ⟨hverifies, haccepted⟩ := Ledger.kept_restart.mp hkept
      have hentries : (load run.store.backing).entries =
          run.store.entries.map AuditEntry.readBack :=
        (readBack_load h).symm.trans (haccepted.trans h.accepted.symm)
      refine ⟨h.load_entries_eq_iff.mp hentries, ?_⟩
      have hverifies : (load run.store.backing).verifyChain sha256 = true := hverifies
      unfold verifyChain at hverifies
      rw [hentries] at hverifies
      exact stable_of_verify hsha h.verifies hverifies

/-- A step that meets the condition keeps the log sound. -/
lemma Sound.step (h : Sound sha256 run) {move : Ledger.Move (AuditCall × String × Bool)}
    (hok : StepOk run move) {next : Ledger.Run GovernanceAuditLog AuditEntry}
    (hnext : (auditLedger sha256).machine.step run move = some next) : Sound sha256 next := by
  obtain ⟨hverifies, haccepted⟩ := (h.kept_of_stepOk hok).1 next hnext
  cases move with
  | call input =>
      obtain rfl := Option.some.inj hnext
      obtain ⟨call, now, writeRaises⟩ := input
      cases hdetails : call.details with
      | none =>
          have hsame : ((auditLedger sha256).call run.store (call, now, writeRaises)).2 =
              run.store := by
            simp [auditLedger, record, hdetails]
          dsimp only at hverifies haccepted ⊢
          rw [hsame] at hverifies haccepted ⊢
          exact ⟨haccepted, hverifies, h.seqs, h.seq, h.backing⟩
      | some details =>
          obtain ⟨hstored, rfl⟩ := hok details hdetails
          have hrecord := record_eq sha256 run.store hdetails now false
          rw [if_neg (by simpa using hstored)] at hrecord
          have hstore : ((auditLedger sha256).call run.store (call, now, false)).2 = {
              entries := run.store.entries ++ [run.store.sealed sha256 call details now]
              seq := run.store.seq + 1
              backing := Dict.set run.store.backing (toString run.store.seq)
                (run.store.sealed sha256 call details now).readBack } :=
            congrArg Prod.snd hrecord
          dsimp only at hverifies haccepted ⊢
          rw [hstore] at hverifies haccepted ⊢
          refine ⟨haccepted, hverifies, ?_, ?_, ?_⟩
          · dsimp only
            rw [List.map_append, h.seqs, List.length_append, List.length_singleton,
              List.range_succ, List.map_append]
            exact congrArg (_ ++ [·]) h.seq
          · dsimp only
            rw [h.seq, List.length_append, List.length_singleton, Nat.cast_succ]
          · dsimp only
            rw [List.map_append, ← h.backing]
            refine Dict.set_of_notMem ?_ _
            have hkeys : Dict.keys run.store.backing =
                run.store.entries.map fun e => toString e.seq := by
              rw [h.backing]
              exact List.map_map
            rw [hkeys]
            intro hmem
            obtain ⟨e, he, heq⟩ := List.mem_map.mp hmem
            have hseq : e.seq ∈ (List.range run.store.entries.length).map Int.ofNat :=
              h.seqs ▸ List.mem_map_of_mem he
            obtain ⟨n, hn, hne⟩ := List.mem_map.mp hseq
            have hlength : (n : ℤ) = run.store.entries.length :=
              hne.trans ((toString_injective heq).trans h.seq)
            have hlt := List.mem_range.mp hn
            omega
  | restart =>
      obtain rfl := Option.some.inj hnext
      have hentries : (load run.store.backing).entries =
          run.store.entries.map AuditEntry.readBack := h.load_entries_eq_iff.mpr hok.1
      have hseqs : (load run.store.backing).entries.map AuditEntry.seq =
          run.store.entries.map AuditEntry.seq := by
        rw [hentries, List.map_map]
        rfl
      have hlength : (load run.store.backing).entries.length = run.store.entries.length := by
        rw [hentries, List.length_map]
      refine ⟨haccepted, hverifies, ?_, ?_, ?_⟩
      · dsimp only [auditLedger]
        rw [hseqs, hlength, h.seqs]
      · have hseq : (load run.store.backing).seq =
            ((load run.store.backing).entries.map AuditEntry.seq).foldl
              (fun seq e => max seq (e + 1)) 0 := by
          rw [List.foldl_map]
          rfl
        show (load run.store.backing).seq = ((load run.store.backing).entries.length : ℤ)
        rw [hseq, hseqs, h.seqs, foldl_max_range, hlength]
      · refine h.backing.trans ?_
        dsimp only [auditLedger]
        rw [hentries, List.map_map]
        exact List.map_congr_left fun e _ => congrArg (Prod.mk _) (readBack_readBack e).symm

end GovernanceAuditLog

/-! ## Runs -/

/-- A store keeps its chain, its order and its table in step through a run of calls and restarts
exactly where every write of a new entry succeeds and, at every restart, the rows are sorted the
way the entries were accepted and the details of audit entries are written as they were; that
these are needed rests on a hash without collisions. -/
theorem chain_survives_iff (sha256 : String → String) :
    (∀ moves : List (Ledger.Move (ExecutionRecord × Bool)),
      (recordLedger sha256).machine.Guarded ExecutionRecordStore.StepOk { store := {} } moves ↔
        (recordLedger sha256).machine.Guarded (recordLedger sha256).Kept { store := {} } moves) ∧
    ∀ moves : List (Ledger.Move (AuditCall × String × Bool)),
      ((auditLedger sha256).machine.Guarded GovernanceAuditLog.StepOk { store := {} } moves →
        (auditLedger sha256).machine.Guarded (auditLedger sha256).Kept { store := {} } moves) ∧
      (Function.Injective sha256 →
        (auditLedger sha256).machine.Guarded (auditLedger sha256).Kept { store := {} } moves →
          (auditLedger sha256).machine.Guarded GovernanceAuditLog.StepOk { store := {} }
            moves) := by
  constructor
  · intro moves
    refine (recordLedger sha256).machine.guarded_congr
      (I := ExecutionRecordStore.Sound sha256) (fun run move next hsound hok hnext => ?_)
      (fun run move hsound => hsound.stepOk_iff_kept move) ?_
    · exact hsound.step hok hnext
    · exact ⟨rfl, rfl, List.nodup_nil, rfl, rfl⟩
  · intro moves
    have hinit : GovernanceAuditLog.Sound sha256 { store := {} } := ⟨rfl, rfl, rfl, rfl, rfl⟩
    have hstep : ∀ run move next, GovernanceAuditLog.Sound sha256 run →
        GovernanceAuditLog.StepOk run move →
          (auditLedger sha256).machine.step run move = some next →
            GovernanceAuditLog.Sound sha256 next :=
      fun _ _ _ hsound hok hnext => hsound.step hok hnext
    refine ⟨fun hok => ?_, fun hsha hkept => ?_⟩
    · exact (auditLedger sha256).machine.guarded_of_invariant hstep
        (fun _ _ hsound hok => hsound.kept_of_stepOk hok) hinit hok
    · exact ((auditLedger sha256).machine.guarded_congr hstep (fun _ _ hsound =>
        ⟨hsound.kept_of_stepOk, hsound.stepOk_of_kept hsha⟩) hinit).mpr hkept

/-- A call with some details. -/
def sampleCall (details : AuditDetails) : AuditCall where
  category := "c"
  action := "a"
  subject := "s"
  result := "r"
  details := some details

/-- A run of an audit log. -/
def sampleAudit : List (Ledger.Move (AuditCall × String × Bool)) :=
  [.call (sampleCall {}, "2024-01-01T00:00:00+00:00", false), .restart]

/-- An entry without details survives a restart. -/
theorem chain_survives_sample :
    (auditLedger id).machine.Guarded (auditLedger id).Kept { store := {} } sampleAudit ∧
      (auditLedger id).machine.Guarded GovernanceAuditLog.StepOk { store := {} } sampleAudit := by
  have hkept : (auditLedger id).machine.Guarded (auditLedger id).Kept { store := {} }
      sampleAudit := by
    refine ((chain_survives_iff id).2 sampleAudit).1 ⟨fun details hdetails => ?_, fun next hnext =>
      ⟨⟨?_, fun e he => ?_⟩, fun _ _ => trivial⟩⟩
    · obtain rfl := Option.some.inj hdetails
      exact ⟨by simp, rfl⟩
    · obtain rfl := Option.some.inj hnext
      exact List.pairwise_singleton _ _
    · obtain rfl := Option.some.inj hnext
      obtain rfl := List.mem_singleton.mp he
      rfl
  exact ⟨hkept, ((chain_survives_iff id).2 sampleAudit).2 Function.injective_id hkept⟩

/-- A dictionary with the numbers two and ten as its keys. -/
def numbered : AuditDetails where
  dumped := .obj [("n", .obj [("2", .str "x"), ("10", .str "y")])]
  stored := some [("n", .obj [("2", .str "x"), ("10", .str "y")])]

/-- The record of a decision with an id and a time. -/
def sampleRecord (recordId recordedAt : String) : ExecutionRecord where
  recordId := recordId
  recordedAt := recordedAt
  requestId := "q"
  taskId := "t"
  targetType := .tool
  target := "shell"
  decision := "allow"
  risk := "low"
  status := .executed

/-- Two records or entries whose times go back come back in the other order, and the chain does
not verify over keys that were sorted as numbers. -/
theorem chain_survives_not :
    ¬ (∀ sha256 moves,
      (recordLedger sha256).machine.Guarded (recordLedger sha256).Kept { store := {} } moves) ∧
    ¬ (∀ sha256 moves,
      (auditLedger sha256).machine.Guarded (auditLedger sha256).Kept { store := {} } moves) ∧
    ¬ (auditLedger id).machine.Guarded (auditLedger id).Kept { store := {} }
      [.call (sampleCall numbered, "2024-01-01T00:00:00+00:00", false), .restart] := by
  refine ⟨?_, ?_, ?_⟩
  · intro h
    have hrun := h id [.call (sampleRecord "a" "2024-01-01T00:00:01+00:00", false),
      .call (sampleRecord "b" "2024-01-01T00:00:00+00:00", false), .restart]
    have hkept := Ledger.kept_restart.mp ((hrun.2 _ rfl).2 _ rfl).1
    have hids := congrArg (List.map ExecutionRecord.recordId) hkept.2
    exact absurd hids (by decide)
  · intro h
    have hrun := h id [
      .call (sampleCall {}, "2024-01-01T00:00:01+00:00", false),
      .call (sampleCall {}, "2024-01-01T00:00:00+00:00", false), .restart]
    have hkept := Ledger.kept_restart.mp ((hrun.2 _ rfl).2 _ rfl).1
    have hseqs := congrArg (List.map AuditEntry.seq) hkept.2
    exact absurd hseqs (by decide)
  · intro hrun
    have hfirst : GovernanceAuditLog.StepOk { store := {} }
        (.call (sampleCall numbered, "2024-01-01T00:00:00+00:00", false)) := fun details hdetails =>
      Option.some.inj hdetails ▸ ⟨by simp [numbered], rfl⟩
    have hempty : GovernanceAuditLog.Sound id { store := {} } := ⟨rfl, rfl, rfl, rfl, rfl⟩
    have hsound := hempty.step hfirst rfl
    have hstable : GovernanceAuditLog.Stable numbered :=
      (hsound.stepOk_of_kept Function.injective_id (hrun.2 _ rfl).1).2 _
        (List.mem_singleton_self (GovernanceAuditLog.sealed id {} (sampleCall numbered) numbered
          "2024-01-01T00:00:00+00:00"))
    exact absurd hstable (by unfold GovernanceAuditLog.Stable; decide)

end Samaktha
