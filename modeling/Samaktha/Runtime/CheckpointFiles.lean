import Samaktha.Runtime.Checkpoint

/-!
# What a checkpoint file tells a store

A save that is not refused writes a checkpoint that is signed and of the supported version, and
has no key with a secret marker (`Written`).  Read back, such a file passes every check but the
comparison with the index; and a file of any content that passes the comparison with the index
entry of a written checkpoint holds that checkpoint, up to the order of keys
(`same_of_authentic`).
-/

namespace Samaktha

namespace CheckpointStore

variable {cfg : StoreConfig} {hmac : Json → String} {c : RecoveryCheckpoint}

/-! ## Secret markers -/

lemma itemsContainSecretKey_eq_any (kvs : List (String × Json)) :
    itemsContainSecretKey kvs = kvs.any fun kv => secretKey kv.1 || containsSecretKey kv.2 := by
  induction kvs with
  | nil => rfl
  | cons kv kvs ih =>
      obtain ⟨k, v⟩ := kv
      rw [itemsContainSecretKey, ih, List.any_cons]

mutual

/-- The order of keys does not matter for secret markers. -/
theorem containsSecretKey_sortKeys : ∀ j : Json,
    containsSecretKey j.sortKeys = containsSecretKey j
  | .null => by rw [Json.sortKeys_null]
  | .bool b => by rw [Json.sortKeys_bool]
  | .int n => by rw [Json.sortKeys_int]
  | .float r => by rw [Json.sortKeys_float]
  | .str s => by rw [Json.sortKeys_str]
  | .arr xs => by
      rw [Json.sortKeys, containsSecretKey, containsSecretKey]
      exact listContainsSecretKey_sortKeys xs
  | .obj kvs => by
      rw [Json.sortKeys, containsSecretKey, containsSecretKey,
        ← itemsContainSecretKey_sortKeys kvs, itemsContainSecretKey_eq_any,
        itemsContainSecretKey_eq_any]
      exact (Dict.sortByKey_perm _).any_eq

theorem itemsContainSecretKey_sortKeys : ∀ kvs : List (String × Json),
    itemsContainSecretKey (Json.sortKeysFields kvs) = itemsContainSecretKey kvs
  | [] => by rw [Json.sortKeysFields]
  | (k, v) :: kvs => by
      rw [Json.sortKeysFields, itemsContainSecretKey, itemsContainSecretKey,
        containsSecretKey_sortKeys v, itemsContainSecretKey_sortKeys kvs]

theorem listContainsSecretKey_sortKeys : ∀ xs : List Json,
    listContainsSecretKey (Json.sortKeysList xs) = listContainsSecretKey xs
  | [] => by rw [Json.sortKeysList]
  | x :: xs => by
      rw [Json.sortKeysList, listContainsSecretKey, listContainsSecretKey,
        containsSecretKey_sortKeys x, listContainsSecretKey_sortKeys xs]

end

/-! ## Written checkpoints -/

/-- A checkpoint as a save that is not refused writes it. -/
structure Written (hmac : Json → String) (c : RecoveryCheckpoint) : Prop where
  version : c.schemaVersion = checkpointSchemaVersion
  clean : containsSecretKey c.modelDump = false
  digest : c.integrityDigest = some (signature hmac c.modelDump)

/-- `model_validate` reads what `model_dump` wrote, if it reads it at all, whatever the order of
the keys. -/
def ReadsBack (cfg : StoreConfig) (c : RecoveryCheckpoint) : Prop :=
  ∀ (payload : Json) (d : RecoveryCheckpoint), payload.sortKeys = c.modelDump.sortKeys →
    cfg.modelValidate payload = some d → d.Same c

lemma signature_withDigest (hmac : Json → String) (c : RecoveryCheckpoint)
    (digest : Option String) :
    signature hmac ({ c with integrityDigest := digest } : RecoveryCheckpoint).modelDump =
      signature hmac c.modelDump := by
  unfold signature RecoveryCheckpoint.modelDump
  congr 2

lemma written_signed {s : StoreState} (hkey : cfg.integrityKey = some hmac) {now : String}
    (h : refuse cfg s c now = none) : Written hmac (signed cfg c now) := by
  unfold refuse at h
  split at h
  · cases h
  · rename_i hversion
    split at h
    · cases h
    · rename_i hclean
      rw [payloadOf_eq] at hclean
      have hsigned : signed cfg c now = { stamped c now with
          integrityDigest := some (signature hmac (stamped c now).modelDump) } := by
        unfold signed
        rw [hkey]
      refine ⟨?_, Bool.eq_false_iff.mpr hclean, ?_⟩
      · rw [hsigned]
        exact not_not.mp hversion
      · rw [hsigned]
        exact congrArg some (signature_withDigest hmac (stamped c now) _).symm

/-! ## Fields of a dump -/

lemma get?_dump (c : RecoveryCheckpoint) (key : String) :
    c.modelDump.sortKeys.get? key = (Dict.get? c.fields key).map Json.sortKeys :=
  Json.get?_sortKeys (nodupKeys_fields c) key

lemma versionOk_dump (h : c.schemaVersion = checkpointSchemaVersion) :
    versionOk c.modelDump.sortKeys = true := by
  unfold versionOk
  rw [get?_dump]
  show (((some (Json.int c.schemaVersion)).map Json.sortKeys).map _).getD false = true
  rw [h]
  rfl

lemma digestOf_dump {digest : String} (h : c.integrityDigest = some digest) :
    digestOf c.modelDump.sortKeys = some digest := by
  unfold digestOf
  rw [get?_dump]
  have hfield : Dict.get? c.fields "integrity_digest" = some (.str digest) := by
    unfold RecoveryCheckpoint.fields
    rw [h]
    rfl
  rw [hfield, Option.map_some, Json.sortKeys_str]
  rfl

lemma generation_dump (c : RecoveryCheckpoint) :
    c.modelDump.sortKeys.get? "generation" = some (.int c.generation) := by
  rw [get?_dump]
  show (some (Json.int c.generation)).map Json.sortKeys = _
  rw [Option.map_some, Json.sortKeys_int]

lemma executionId_dump (c : RecoveryCheckpoint) :
    c.modelDump.sortKeys.get? "execution_id" = some (.str c.executionId) := by
  rw [get?_dump]
  show (some (Json.str c.executionId)).map Json.sortKeys = _
  rw [Option.map_some, Json.sortKeys_str]

lemma executionId_of_same {d : RecoveryCheckpoint} (h : d.Same c) :
    d.executionId = c.executionId := by
  have hid := executionId_dump d
  rw [show d.modelDump.sortKeys = c.modelDump.sortKeys from h, executionId_dump] at hid
  exact (Json.str.inj (Option.some.inj hid)).symm

lemma signature_sortKeys (c : RecoveryCheckpoint) :
    signature hmac c.modelDump.sortKeys = signature hmac c.modelDump := by
  unfold signature RecoveryCheckpoint.modelDump
  rw [Json.sortKeys_erase_sortKeys (nodupKeys_fields c)]

/-! ## Reading a file back -/

/-- The entry of the index for a written checkpoint. -/
def entryOf (hmac : Json → String) (c : RecoveryCheckpoint) : IndexEntry :=
  ⟨c.generation, signature hmac c.modelDump⟩

/-- The file of a written checkpoint passes all checks where the index has an entry of its
generation and digest. -/
lemma authenticate_written (hkey : cfg.integrityKey = some hmac) (hindexed : cfg.indexed = true)
    (hascii : ∀ payload, isAscii (hmac payload) = true) (hwritten : Written hmac c)
    {entries : Dict String IndexEntry} {id : String} :
    authenticate cfg entries id c.modelDump.sortKeys .plain =
      match Dict.get? entries id with
      | none => .error (.checkpoint .checkpointOrphaned)
      | some expected =>
          if expected.generation = c.generation ∧
              expected.integrityDigest = signature hmac c.modelDump then .ok ()
          else .error (.checkpoint .checkpointAntiRollbackFailed) := by
  have hdigest : isAscii (signature hmac c.modelDump) = true := hascii _
  unfold authenticate
  rw [hkey]
  dsimp only
  rw [digestOf_dump hwritten.digest]
  dsimp only
  rw [if_neg (by decide), hdigest, signature_sortKeys, hindexed, generation_dump]
  simp only [Bool.not_true, Bool.false_eq_true, if_false, ne_eq, not_true_eq_false]
  cases Dict.get? entries id with
  | none => rfl
  | some expected =>
      dsimp only
      rw [Option.map_some, Option.getD_some, Json.eqInt_int]
      refine if_congr ?_ rfl rfl
      rw [Bool.and_eq_true, decide_eq_true_eq, decide_eq_true_eq, eq_comm (a := c.generation)]

lemma readParsed_written (hkey : cfg.integrityKey = some hmac) (hindexed : cfg.indexed = true)
    (hascii : ∀ payload, isAscii (hmac payload) = true) (hwritten : Written hmac c)
    {d : RecoveryCheckpoint} (hvalidate : cfg.modelValidate c.modelDump.sortKeys = some d)
    (hsame : d.Same c) {entries : Dict String IndexEntry}
    (unique : ∀ kvs, c.modelDump.sortKeys = .obj kvs → Dict.NodupKeys kvs) :
    readParsed cfg entries c.executionId ⟨c.modelDump.sortKeys, unique⟩ .plain =
      match Dict.get? entries c.executionId with
      | none => .error (.checkpoint .checkpointOrphaned)
      | some expected =>
          if expected.generation = c.generation ∧
              expected.integrityDigest = signature hmac c.modelDump then .ok d
          else .error (.checkpoint .checkpointAntiRollbackFailed) := by
  have hvalid : validate cfg c.executionId c.modelDump.sortKeys = .ok d := by
    unfold validate
    rw [hvalidate]
    dsimp only
    rw [if_neg (not_not_intro (executionId_of_same hsame))]
  unfold readParsed
  dsimp only
  rw [versionOk_dump hwritten.version, containsSecretKey_sortKeys, hwritten.clean,
    authenticate_written hkey hindexed hascii hwritten, hvalid]
  simp only [Bool.not_true, Bool.false_eq_true, if_false]
  rw [if_neg (by decide)]
  cases Dict.get? entries c.executionId with
  | none => rfl
  | some expected =>
      dsimp only
      by_cases hmatch : expected.generation = c.generation ∧
          expected.integrityDigest = signature hmac c.modelDump
      · rw [if_pos hmatch, if_pos hmatch]
      · rw [if_neg hmatch, if_neg hmatch]

/-- A payload that has the digest of a written checkpoint, and a signature that is its digest,
is the payload of that checkpoint. -/
lemma sortKeys_of_digest (hinjective : Function.Injective hmac) (hwritten : Written hmac c)
    {kvs : List (String × Json)} (hkvs : Dict.NodupKeys kvs) {digest : String}
    (hdigest : digestOf (.obj kvs) = some digest) (hsigned : digest = signature hmac (.obj kvs))
    (hexpected : signature hmac c.modelDump = digest) :
    (Json.obj kvs).sortKeys = c.modelDump.sortKeys := by
  have hvalue : Dict.get? kvs "integrity_digest" = some (.str digest) := by
    obtain ⟨value, hget, htext⟩ := Option.bind_eq_some_iff.mp hdigest
    rw [Json.get?_obj] at hget
    rw [hget]
    cases value with
    | str text => rw [show text = digest from Option.some.inj htext]
    | _ => cases htext
  have hfield : Dict.get? c.fields "integrity_digest" = some (.str digest) := by
    unfold RecoveryCheckpoint.fields
    rw [hwritten.digest, hexpected]
    rfl
  have herased : ((Json.obj kvs).erase "integrity_digest").sortKeys =
      ((Json.obj c.fields).erase "integrity_digest").sortKeys :=
    hinjective (hsigned.symm.trans hexpected.symm)
  exact Json.sortKeys_eq_of_erase hkvs (nodupKeys_fields c) hvalue hfield herased

lemma authenticate_ok (hkey : cfg.integrityKey = some hmac) (hindexed : cfg.indexed = true)
    {entries : Dict String IndexEntry} {id : String} {payload : Json} {oddity : Oddity}
    (h : authenticate cfg entries id payload oddity = .ok ()) :
    ∃ expected, Dict.get? entries id = some expected ∧
      digestOf payload = some expected.integrityDigest ∧
      expected.integrityDigest = signature hmac payload := by
  unfold authenticate at h
  rw [hkey, hindexed] at h
  dsimp only at h
  cases hdigest : digestOf payload with
  | none =>
      rw [hdigest] at h
      cases h
  | some digest =>
      rw [hdigest] at h
      dsimp only at h
      split at h
      · cases h
      · split at h
        · cases h
        · split at h
          · cases h
          · rename_i hsigned
            rw [if_neg (by decide)] at h
            cases hget : Dict.get? entries id with
            | none =>
                rw [hget] at h
                cases h
            | some expected =>
                rw [hget] at h
                dsimp only at h
                split at h
                · rename_i hmatch
                  obtain rfl := of_decide_eq_true (Bool.and_elim_right hmatch)
                  exact ⟨expected, rfl, rfl, not_not.mp hsigned⟩
                · cases h

lemma obj_of_versionOk {payload : Json} (h : versionOk payload = true) :
    ∃ kvs, payload = .obj kvs := by
  cases payload with
  | obj kvs => exact ⟨kvs, rfl⟩
  | _ => cases h

lemma readParsed_ok {entries : Dict String IndexEntry} {id : String} {parsed : Parsed}
    {oddity : Oddity} {loaded : RecoveryCheckpoint}
    (h : readParsed cfg entries id parsed oddity = .ok loaded) :
    versionOk parsed.payload = true ∧
      authenticate cfg entries id parsed.payload oddity = .ok () ∧
      cfg.modelValidate parsed.payload = some loaded := by
  unfold readParsed at h
  split at h
  · cases h
  · rename_i hversion
    split at h
    · cases h
    · split at h
      · cases h
      · cases hauthenticate : authenticate cfg entries id parsed.payload oddity with
        | error fault =>
            rw [hauthenticate] at h
            cases h
        | ok passed =>
            rw [hauthenticate] at h
            unfold validate at h
            dsimp only at h
            cases hvalidate : cfg.modelValidate parsed.payload with
            | none =>
                rw [hvalidate] at h
                cases h
            | some d =>
                rw [hvalidate] at h
                dsimp only at h
                split at h
                · cases h
                · obtain rfl := Except.ok.inj h
                  exact ⟨by simpa using hversion, rfl, rfl⟩

lemma same_of_readParsed (hkey : cfg.integrityKey = some hmac) (hindexed : cfg.indexed = true)
    (hinjective : Function.Injective hmac) (hwritten : Written hmac c)
    (hreads : ReadsBack cfg c) {entries : Dict String IndexEntry} {id : String}
    (hentry : ∀ entry, Dict.get? entries id = some entry → entry = entryOf hmac c)
    {parsed : Parsed} {oddity : Oddity} {loaded : RecoveryCheckpoint}
    (h : readParsed cfg entries id parsed oddity = .ok loaded) : loaded.Same c := by
  obtain ⟨hversion, hauthenticate, hvalidate⟩ := readParsed_ok h
  obtain ⟨kvs, hkvs⟩ := obj_of_versionOk hversion
  obtain ⟨expected, hget, hdigest, hsigned⟩ := authenticate_ok hkey hindexed hauthenticate
  obtain rfl := hentry expected hget
  rw [hkvs] at hdigest hsigned
  have hsorted := sortKeys_of_digest hinjective hwritten (parsed.unique kvs hkvs) hdigest hsigned
    rfl
  rw [← hkvs] at hsorted
  exact hreads _ _ hsorted hvalidate

end CheckpointStore

end Samaktha
