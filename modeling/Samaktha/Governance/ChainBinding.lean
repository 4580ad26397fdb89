import Samaktha.Governance.Records
import Mathlib.Logic.Equiv.List

/-!
# What the last hash binds

With a hash function without collisions, two record lists that verify and end in the same hash
are of the same records, in every field but the stored previous hash, and likewise for two
lists of audit entries, whose details are the same as `json.dumps` writes them (`lastHash_binds`).

Every payload names the previous hash and all fields but the hash itself; its text determines
it, and so does the text of previous hash, bar and payload, since no digest contains a bar.
-/

namespace Samaktha

/-- A hash function without collisions whose values are texts of hexadecimal digits. -/
structure Digest (sha256 : String → String) : Prop where
  injective : Function.Injective sha256
  digits : ∀ text, ∀ c ∈ (sha256 text).toList,
    c ∈ ['0', '1', '2', '3', '4', '5', '6', '7', '8', '9', 'a', 'b', 'c', 'd', 'e', 'f']
  nonempty : ∀ text, sha256 text ≠ ""

/-- A record without its stored previous hash. -/
def ExecutionRecord.unlinked (record : ExecutionRecord) : ExecutionRecord :=
  { record with previousHash := "" }

/-- An entry without its stored previous hash, and its details as `json.dumps` sorts them. -/
def AuditEntry.unlinked (entry : AuditEntry) : AuditEntry × Json :=
  ({ entry with previousHash := "", details := {} }, entry.details.dumped)

section

variable {sha256 : String → String}

/-! ## Payloads -/

lemma optionalText_injective : Function.Injective fun o => (optionalText o).sortKeys := by
  intro o o' h
  cases o with
  | none =>
      cases o' with
      | none => rfl
      | some text => simp [optionalText] at h
  | some text =>
      cases o' with
      | none => simp [optionalText] at h
      | some text' => simpa [optionalText] using h

lemma genuine_payload (record : ExecutionRecord) : record.payload.Genuine := by
  have hoptional : ∀ o, (optionalText o).Genuine := by
    intro o
    cases o with
    | none => simp [optionalText, Json.Genuine]
    | some text => simp [optionalText, Json.Genuine]
  have hpermissions : Json.GenuineItems (record.permissions.map .str) := by
    rw [Json.genuineItems_iff]
    intro x hx
    obtain ⟨text, -, rfl⟩ := List.mem_map.mp hx
    simp [Json.Genuine]
  simp only [ExecutionRecord.payload, Json.Genuine, Json.GenuineFields, hoptional, hpermissions,
    and_self]

lemma genuine_auditPayload (entry : AuditEntry) (h : entry.details.dumped.Genuine) :
    entry.payload.Genuine := by
  simp only [AuditEntry.payload, Json.Genuine, Json.GenuineFields, h, and_self]

lemma payload_field_eq {payload payload' : Json}
    (hpayload : ∃ kvs, payload = .obj kvs ∧ Dict.NodupKeys kvs)
    (hpayload' : ∃ kvs, payload' = .obj kvs ∧ Dict.NodupKeys kvs)
    (h : payload.sortKeys = payload'.sortKeys) (key : String) {v v' : Json}
    (hv : payload.get? key = some v) (hv' : payload'.get? key = some v') :
    v.sortKeys = v'.sortKeys := by
  obtain ⟨kvs, rfl, hnodup⟩ := hpayload
  obtain ⟨kvs', rfl, hnodup'⟩ := hpayload'
  have hget := Json.get?_sortKeys hnodup key
  rw [Json.get?_obj] at hv hv'
  rw [h, Json.get?_sortKeys hnodup' key, hv, hv'] at hget
  exact (Option.some.inj hget).symm

lemma str_of_sortKeys {a b : String} (h : (Json.str a).sortKeys = (Json.str b).sortKeys) :
    a = b := by
  simpa using h

lemma targetType_value_injective : Function.Injective TargetType.value := by
  intro a b h
  cases a <;> cases b <;> first | rfl | exact absurd h (by decide)

lemma decisionStatus_value_injective : Function.Injective DecisionStatus.value := by
  intro a b h
  cases a <;> cases b <;> first | rfl | exact absurd h (by decide)

lemma record_of_payload {record record' : ExecutionRecord}
    (h : record.payload.sortKeys = record'.payload.sortKeys) :
    { record with hash := "" } = { record' with hash := "" } := by
  have hkeys : ∀ r : ExecutionRecord, ∃ kvs, r.payload = .obj kvs ∧ Dict.NodupKeys kvs :=
    fun r => ⟨_, rfl, by simp [Dict.NodupKeys, Dict.keys]⟩
  have htext : ∀ (key : String) {a b : String}, record.payload.get? key = some (.str a) →
      record'.payload.get? key = some (.str b) → a = b := fun key _ _ ha hb =>
    str_of_sortKeys (payload_field_eq (hkeys record) (hkeys record') h key ha hb)
  have hoptional : ∀ (key : String) {a b : Option String},
      record.payload.get? key = some (optionalText a) →
        record'.payload.get? key = some (optionalText b) → a = b := fun key _ _ ha hb =>
    optionalText_injective (payload_field_eq (hkeys record) (hkeys record') h key ha hb)
  have hpermissions : record.permissions = record'.permissions := by
    have harr : (Json.arr (record.permissions.map .str)).sortKeys =
        (Json.arr (record'.permissions.map .str)).sortKeys :=
      payload_field_eq (hkeys record) (hkeys record') h "permissions" rfl rfl
    rw [Json.sortKeys_arr, Json.sortKeys_arr, List.map_map, List.map_map] at harr
    have hinjective : Function.Injective (Json.sortKeys ∘ Json.str) := fun _ _ hab =>
      str_of_sortKeys hab
    exact List.map_injective_iff.mpr hinjective (Json.arr.inj harr)
  rw [ExecutionRecord.mk.injEq]
  exact ⟨htext "record_id" rfl rfl, htext "recorded_at" rfl rfl, htext "request_id" rfl rfl,
    htext "task_id" rfl rfl,
    targetType_value_injective (htext "target_type" rfl rfl), htext "target" rfl rfl,
    htext "decision" rfl rfl, htext "risk" rfl rfl,
    decisionStatus_value_injective (htext "status" rfl rfl), hpermissions,
    hoptional "error" rfl rfl, hoptional "permit_id" rfl rfl,
    hoptional "operation_digest" rfl rfl, hoptional "authorization_source" rfl rfl,
    htext "previous_hash" rfl rfl, rfl⟩

lemma entry_of_payload {entry entry' : AuditEntry} (h : entry.payload = entry'.payload) :
    { entry with details := {}, hash := "" } = { entry' with details := {}, hash := "" } ∧
      entry.details.dumped = entry'.details.dumped := by
  simp only [AuditEntry.payload, Json.obj.injEq, List.cons.injEq, Prod.mk.injEq, Json.str.injEq,
    Json.int.injEq, true_and, and_true] at h
  obtain ⟨haction, hcategory, hdetails, hprevious, hrecorded, hresult, hseq, hsubject⟩ := h
  refine ⟨?_, hdetails⟩
  rw [AuditEntry.mk.injEq]
  exact ⟨hseq, hrecorded, hcategory, haction, hsubject, hresult, rfl, hprevious, rfl⟩

/-! ## Hashes -/

lemma bar_append_inj {as bs r r' : List Char} (has : '|' ∉ as) (hbs : '|' ∉ bs)
    (h : as ++ '|' :: r = bs ++ '|' :: r') : r = r' := by
  induction as generalizing bs with
  | nil =>
      cases bs with
      | nil => exact (List.cons.inj h).2
      | cons b bs => exact absurd ((List.cons.inj h).1 ▸ List.mem_cons_self) hbs
  | cons a as ih =>
      cases bs with
      | nil => exact absurd ((List.cons.inj h).1 ▸ List.mem_cons_self) has
      | cons b bs =>
          exact ih (fun hmem => has (List.mem_cons_of_mem a hmem))
            (fun hmem => hbs (List.mem_cons_of_mem b hmem)) (List.cons.inj h).2

lemma payload_of_chainHash (hdigest : Digest sha256) {p q : String} {x y : Json}
    (hx : x.Genuine) (hy : y.Genuine) (hp : '|' ∉ p.toList) (hq : '|' ∉ q.toList)
    (h : chainHash sha256 p x = chainHash sha256 q y) : x = y := by
  have hbar : "|".toList = ['|'] := rfl
  have htexts := congrArg String.toList (hdigest.injective h)
  rw [String.toList_append, String.toList_append, String.toList_append, String.toList_append,
    List.append_assoc, List.append_assoc, hbar, String.toList_ofList,
      String.toList_ofList] at htexts
  exact Json.dumps_inj hx hy (bar_append_inj hp hq htexts)

lemma sorted_of_chainHash (hdigest : Digest sha256) {p q : String} {x y : Json} (hx : x.Genuine)
    (hy : y.Genuine) (hp : '|' ∉ p.toList) (hq : '|' ∉ q.toList)
    (h : chainHash sha256 p x.sortKeys = chainHash sha256 q y.sortKeys) :
    x.sortKeys = y.sortKeys :=
  payload_of_chainHash hdigest hx.sortKeys hy.sortKeys hp hq h

lemma not_bar_of_linked (hdigest : Digest sha256) {ε : Type} {link : String → ε → String}
    (hlink : ∀ p e, ∃ text, link p e = sha256 text) {p : String}
    (h : HashChain.Linked link "" p) : '|' ∉ p.toList := by
  rcases h with rfl | ⟨before, e, rfl⟩
  · exact List.not_mem_nil
  · obtain ⟨text, htext⟩ := hlink before e
    rw [htext]
    exact fun hmem => absurd (hdigest.digits text '|' hmem) (by decide)

lemma head_eq_of_last {ε : Type} {hash : ε → String} {es fs : List ε}
    (h : es.getLast?.map hash = fs.getLast?.map hash) :
    HashChain.head hash "" es = HashChain.head hash "" fs := by
  rw [HashChain.head, HashChain.head, h]

/-- Two stores that verify and end in the same hash hold the same records, but for the stored
previous hashes; two logs that verify and end in the same hash hold the same entries, but for
the stored previous hashes and what `json.dumps` does not tell apart in the details. -/
theorem lastHash_binds (hdigest : Digest sha256) :
    (∀ s t : ExecutionRecordStore, s.verifyChain sha256 = true → t.verifyChain sha256 = true →
      s.records.getLast?.map ExecutionRecord.hash = t.records.getLast?.map ExecutionRecord.hash →
      s.records.map ExecutionRecord.unlinked = t.records.map ExecutionRecord.unlinked) ∧
    ∀ s t : GovernanceAuditLog,
      (∀ entry ∈ s.entries ++ t.entries, entry.details.dumped.Genuine) →
      s.verifyChain sha256 = true → t.verifyChain sha256 = true →
      s.entries.getLast?.map AuditEntry.hash = t.entries.getLast?.map AuditEntry.hash →
      s.entries.map AuditEntry.unlinked = t.entries.map AuditEntry.unlinked := by
  constructor
  · intro s t hs ht hlast
    have hlinked : ∀ p (e : ExecutionRecord), ∃ text, chainFor sha256 p e = sha256 text :=
      fun _ _ => ⟨_, rfl⟩
    have hlink : ∀ p e q f, True → True → HashChain.Linked (chainFor sha256) "" p →
        HashChain.Linked (chainFor sha256) "" q → chainFor sha256 p e = chainFor sha256 q f →
          p = q ∧ { e.unlinked with hash := "" } = { f.unlinked with hash := "" } := by
      intro p e q f _ _ hp hq heq
      have hpayload := sorted_of_chainHash hdigest (genuine_payload _) (genuine_payload _)
        (not_bar_of_linked hdigest hlinked hp) (not_bar_of_linked hdigest hlinked hq) heq
      have hrecord := record_of_payload hpayload
      have hprevious := congrArg ExecutionRecord.previousHash hrecord
      have hrest := congrArg ExecutionRecord.unlinked hrecord
      exact ⟨hprevious, hrest⟩
    have hcontent := HashChain.content_eq_of_head hlink (fun p e => hdigest.nonempty _)
      (fun _ _ => trivial) (fun _ _ => trivial) hs ht (head_eq_of_last hlast)
    have hunlinked := congrArg (List.map fun c : String × ExecutionRecord =>
      { c.2 with hash := c.1 }) hcontent
    rwa [List.map_map, List.map_map] at hunlinked
  · intro s t hgenuine hs ht hlast
    have hlinked : ∀ p (e : AuditEntry), ∃ text, AuditEntry.probe sha256 p e = sha256 text :=
      fun _ _ => ⟨_, rfl⟩
    have hlink : ∀ p e q f, e.details.dumped.Genuine → f.details.dumped.Genuine →
        HashChain.Linked (AuditEntry.probe sha256) "" p →
        HashChain.Linked (AuditEntry.probe sha256) "" q →
        AuditEntry.probe sha256 p e = AuditEntry.probe sha256 q f →
          p = q ∧ ({ e.unlinked.1 with hash := "" }, e.unlinked.2) =
            ({ f.unlinked.1 with hash := "" }, f.unlinked.2) := by
      intro p e q f he hf hp hq heq
      have hpayload := payload_of_chainHash hdigest
        (genuine_auditPayload { e with previousHash := p } he)
        (genuine_auditPayload { f with previousHash := q } hf)
        (not_bar_of_linked hdigest hlinked hp) (not_bar_of_linked hdigest hlinked hq) heq
      obtain ⟨hentry, hdetails⟩ := entry_of_payload hpayload
      have hprevious := congrArg AuditEntry.previousHash hentry
      have hrest := congrArg (fun entry => entry.unlinked.1) hentry
      exact ⟨hprevious, Prod.ext hrest hdetails⟩
    have hcontent := HashChain.content_eq_of_head hlink (fun p e => hdigest.nonempty _)
      (fun e he => hgenuine e (List.mem_append_left _ he))
      (fun f hf => hgenuine f (List.mem_append_right _ hf)) hs ht (head_eq_of_last hlast)
    have hunlinked := congrArg (List.map fun c : String × AuditEntry × Json =>
      ({ c.2.1 with hash := c.1 }, c.2.2)) hcontent
    rwa [List.map_map, List.map_map] at hunlinked

/-! ### A forged previous hash -/

/-- The number of a text, in decimal digits. -/
def numberDigest (text : String) : String :=
  Nat.repr (Encodable.encode (text.toList.map Char.toNat))

lemma numberDigest_digest : Digest numberDigest := by
  have hread : ∀ m : ℕ, Nat.ofDigitChars 10 (Nat.repr m).toList 0 = m := by
    intro m
    rw [Nat.toList_repr]
    exact Nat.ofDigitChars_ten_toDigits
  refine ⟨fun a b h => ?_, fun text c hc => ?_, fun text => Nat.repr_ne_empty⟩
  · have hcodes : Encodable.encode (a.toList.map Char.toNat) =
        Encodable.encode (b.toList.map Char.toNat) := by
      have hdigits := congrArg (fun text : String => Nat.ofDigitChars 10 text.toList 0) h
      unfold numberDigest at hdigits
      simpa only [hread] using hdigits
    have hcode : Function.Injective Char.toNat := fun c d hcd => by
      rw [← Char.ofNat_toNat c, ← Char.ofNat_toNat d, hcd]
    have hchars := Encodable.encode_injective hcodes
    exact String.toList_inj.mp (List.map_injective_iff.mpr hcode hchars)
  · unfold numberDigest at hc
    rw [Nat.toList_repr] at hc
    have hdigit := Nat.isDigit_of_mem_toDigits (by decide) (by decide) hc
    have hrange : 48 ≤ c.toNat ∧ c.toNat ≤ 57 := by
      simpa [Char.isDigit, Char.le_def, UInt32.le_iff_toNat_le] using hdigit
    obtain ⟨hlow, hhigh⟩ := hrange
    rw [← Char.ofNat_toNat c]
    interval_cases c.toNat <;> decide

/-- A store of one record, with a stored previous hash. -/
def sampleRecords (sha256 : String → String) (previousHash : String) : ExecutionRecordStore where
  records := [{
    recordId := "r"
    recordedAt := "2024-01-01T00:00:00+00:00"
    requestId := "q"
    taskId := "t"
    targetType := .tool
    target := "shell"
    decision := "allow"
    risk := "low"
    status := .executed
    previousHash := previousHash
    hash := chainFor sha256 "" {
      recordId := "r"
      recordedAt := "2024-01-01T00:00:00+00:00"
      requestId := "q"
      taskId := "t"
      targetType := .tool
      target := "shell"
      decision := "allow"
      risk := "low"
      status := .executed } }]

lemma verifyChain_sampleRecords (sha256 : String → String) (previousHash : String) :
    (sampleRecords sha256 previousHash).verifyChain sha256 = true := by
  unfold ExecutionRecordStore.verifyChain sampleRecords HashChain.verify
  rw [Bool.and_eq_true]
  exact ⟨decide_eq_true rfl, rfl⟩

/-- A log of one entry, with details that were read back. -/
def sampleEntries (sha256 : String → String) (details : Dict String Json) :
    GovernanceAuditLog where
  entries := [{
    seq := 0
    recordedAt := "2024-01-01T00:00:00+00:00"
    category := "c"
    action := "a"
    subject := "s"
    result := "r"
    details := .ofJson details
    hash := AuditEntry.probe sha256 "" {
      seq := 0
      recordedAt := "2024-01-01T00:00:00+00:00"
      category := "c"
      action := "a"
      subject := "s"
      result := "r"
      details := .ofJson [("k", .int 1), ("l", .null)] } }]

lemma verifyChain_sampleEntries (sha256 : String → String) {details : Dict String Json}
    (h : (Json.obj details).sortKeys = (Json.obj [("k", .int 1), ("l", .null)]).sortKeys) :
    (sampleEntries sha256 details).verifyChain sha256 = true := by
  unfold GovernanceAuditLog.verifyChain sampleEntries HashChain.verify
  rw [Bool.and_eq_true]
  refine ⟨decide_eq_true ?_, rfl⟩
  unfold AuditEntry.probe AuditEntry.recomputeHash AuditEntry.payload AuditDetails.ofJson
  dsimp only
  rw [h]

/-- A stored previous hash can be another, and so can the order of keys in the details. -/
theorem lastHash_binds_sample :
    (sampleRecords numberDigest "").records.map ExecutionRecord.unlinked =
        (sampleRecords numberDigest "forged").records.map ExecutionRecord.unlinked ∧
      (sampleEntries numberDigest [("k", .int 1), ("l", .null)]).entries.map
          AuditEntry.unlinked =
        (sampleEntries numberDigest [("l", .null), ("k", .int 1)]).entries.map
          AuditEntry.unlinked := by
  have hgenuine : ∀ entry ∈
      (sampleEntries numberDigest [("k", .int 1), ("l", .null)]).entries ++
        (sampleEntries numberDigest [("l", .null), ("k", .int 1)]).entries,
      entry.details.dumped.Genuine := by
    have hgenuine : ∀ details : Dict String Json, (Json.obj details).Genuine →
        (AuditDetails.ofJson details).dumped.Genuine := fun _ h => h.sortKeys
    intro entry hentry
    simp only [sampleEntries, List.cons_append, List.nil_append, List.mem_cons,
      List.not_mem_nil, or_false] at hentry
    rcases hentry with rfl | rfl
    · exact hgenuine _ (by simp [Json.GenuineFields, Json.Genuine])
    · exact hgenuine _ (by simp [Json.GenuineFields, Json.Genuine])
  refine ⟨(lastHash_binds numberDigest_digest).1 _ _ ?_ ?_ rfl,
    (lastHash_binds numberDigest_digest).2 _ _ hgenuine ?_ ?_ rfl⟩
  · exact verifyChain_sampleRecords numberDigest ""
  · exact verifyChain_sampleRecords numberDigest "forged"
  · exact verifyChain_sampleEntries numberDigest rfl
  · exact verifyChain_sampleEntries numberDigest rfl

end

end Samaktha
