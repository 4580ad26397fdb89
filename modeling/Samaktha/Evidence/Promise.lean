import Samaktha.Evidence.Redaction

/-!
# The promise of the sanitizer

The pass over the sizes keeps the safe fields whatever their size, and the mark of a field that
does not fit takes room too, so the result fits exactly where the safe fields do and the marks
have room (`size_limitSize_le_iff`).  With the walk this gives the metadata on which
`sanitize_for_evidence` does what it is for.
-/

namespace Samaktha

namespace Evidence

/-! ## The pass over the sizes -/

/-- The size of a dictionary with these fields. -/
def fieldsSize (fields : Dict Key Datum) : ℕ := (fields.map Datum.fieldSize).sum

@[simp] lemma fieldsSize_append (fields more : Dict Key Datum) :
    fieldsSize (fields ++ more) = fieldsSize fields + fieldsSize more := by
  simp [fieldsSize]

@[simp] lemma fieldsSize_cons (kv : Key × Datum) (fields : Dict Key Datum) :
    fieldsSize (kv :: fields) = Datum.fieldSize kv + fieldsSize fields := by
  simp [fieldsSize]

/-- The keys of the fields that do not fit beside `total` bytes and the fields before them. -/
def leftOut (maxPayloadBytes : ℕ) : ℕ → Dict Key Datum → List Key
  | _, [] => []
  | total, (k, v) :: rest =>
      if total + Datum.fieldSize (k, v) ≤ maxPayloadBytes then
        leftOut maxPayloadBytes (total + Datum.fieldSize (k, v)) rest
      else k :: leftOut maxPayloadBytes (total + Datum.fieldSize (k, omitted)) rest

/-- Each field that does not fit beside `total` bytes and the fields before it leaves room for its
mark. -/
def LeavesRoom (maxPayloadBytes : ℕ) : ℕ → Dict Key Datum → Prop
  | _, [] => True
  | total, (k, v) :: rest =>
      if total + Datum.fieldSize (k, v) ≤ maxPayloadBytes then
        LeavesRoom maxPayloadBytes (total + Datum.fieldSize (k, v)) rest
      else
        total + Datum.fieldSize (k, omitted) ≤ maxPayloadBytes ∧
          LeavesRoom maxPayloadBytes (total + Datum.fieldSize (k, omitted)) rest

/-- The fields that are added, with the marks of those that do not fit. -/
def fitted (maxPayloadBytes : ℕ) (total : ℕ) (rest : Dict Key Datum) : Dict Key Datum :=
  rest.map fun kv =>
    (kv.1, if kv.1 ∈ leftOut maxPayloadBytes total rest then omitted else kv.2)

section Sizes

variable {maxPayloadBytes : ℕ}

lemma mem_keys_of_mem_leftOut {total : ℕ} {rest : Dict Key Datum} {k : Key}
    (h : k ∈ leftOut maxPayloadBytes total rest) : k ∈ Dict.keys rest := by
  induction rest generalizing total with
  | nil => cases h
  | cons kv rest ih =>
      obtain ⟨k', v⟩ := kv
      rw [leftOut] at h
      split at h
      · exact List.mem_cons_of_mem _ (ih h)
      · rcases List.mem_cons.mp h with rfl | h
        · exact List.mem_cons_self
        · exact List.mem_cons_of_mem _ (ih h)

lemma fitted_cons {total : ℕ} {k : Key} {v : Datum} {rest : Dict Key Datum}
    (hk : k ∉ Dict.keys rest) :
    fitted maxPayloadBytes total ((k, v) :: rest) =
      if total + Datum.fieldSize (k, v) ≤ maxPayloadBytes then
        (k, v) :: fitted maxPayloadBytes (total + Datum.fieldSize (k, v)) rest
      else (k, omitted) :: fitted maxPayloadBytes (total + Datum.fieldSize (k, omitted)) rest := by
  have hother : ∀ kv ∈ rest, kv.1 ≠ k := by
    rintro kv hmem rfl
    exact hk (List.mem_map_of_mem hmem)
  unfold fitted
  rw [List.map_cons, leftOut]
  split
  · rw [if_neg fun h => hk (mem_keys_of_mem_leftOut h)]
  · rw [if_pos List.mem_cons_self]
    congr 1
    refine List.map_congr_left fun kv hmem => ?_
    simp [hother kv hmem]

lemma addFields_eq {kept rest : Dict Key Datum} (hkept : kept ≠ [])
    (hnodup : Dict.NodupKeys (kept ++ rest)) :
    addFields maxPayloadBytes kept rest =
      kept ++ fitted maxPayloadBytes (fieldsSize kept) rest := by
  induction rest generalizing kept with
  | nil => simp [addFields, fitted]
  | cons kv rest ih =>
      obtain ⟨k, v⟩ := kv
      have hkeys : (Dict.keys kept ++ k :: Dict.keys rest).Nodup := by
        simpa [Dict.NodupKeys, Dict.keys] using hnodup
      have hk : k ∉ Dict.keys kept := fun h => by
        exact (List.nodup_append.mp hkeys).2.2 k h k List.mem_cons_self rfl
      have hrest : k ∉ Dict.keys rest :=
        (List.nodup_cons.mp (List.nodup_append.mp hkeys).2.1).1
      have hnext : ∀ w, Dict.NodupKeys ((kept ++ [(k, w)]) ++ rest) := fun w => by
        simpa [Dict.NodupKeys, Dict.keys] using hkeys
      have hsize : ∀ w, fieldsSize (kept ++ [(k, w)]) = fieldsSize kept + Datum.fieldSize (k, w) :=
        fun w => by simp [fieldsSize]
      rw [addFields, Dict.set_of_notMem hk, Dict.set_of_notMem hk, Datum.size_dict (by simp),
        ih (by simp) (hnext v), ih (by simp) (hnext omitted), hsize, hsize, fitted_cons hrest]
      show (if fieldsSize (kept ++ [(k, v)]) ≤ maxPayloadBytes then _ else _) = _
      rw [hsize]
      split
      · simp
      · simp

lemma fieldsSize_fitted_le_iff {total : ℕ} {rest : Dict Key Datum} (hnodup : Dict.NodupKeys rest)
    (htotal : total ≤ maxPayloadBytes) :
    total + fieldsSize (fitted maxPayloadBytes total rest) ≤ maxPayloadBytes ↔
      LeavesRoom maxPayloadBytes total rest := by
  induction rest generalizing total with
  | nil => simpa [fitted, fieldsSize, LeavesRoom] using htotal
  | cons kv rest ih =>
      obtain ⟨k, v⟩ := kv
      obtain ⟨hk, hrest⟩ := List.nodup_cons.mp (show (k :: Dict.keys rest).Nodup from hnodup)
      rw [fitted_cons hk, LeavesRoom]
      split
      · rename_i hfits
        rw [fieldsSize_cons, ← Nat.add_assoc]
        exact ih hrest hfits
      · rw [fieldsSize_cons, ← Nat.add_assoc]
        constructor
        · intro hle
          have hmark : total + Datum.fieldSize (k, omitted) ≤ maxPayloadBytes := by omega
          exact ⟨hmark, (ih hrest hmark).mp hle⟩
        · rintro ⟨hmark, hroom⟩
          exact (ih hrest hmark).mpr hroom

/-- The fields that stay whatever their size. -/
def safeFields (sanitized : Dict Key Datum) : Dict Key Datum :=
  sanitized.filter fun kv => alwaysKept kv.1

def otherFields (sanitized : Dict Key Datum) : Dict Key Datum :=
  sanitized.filter fun kv => !alwaysKept kv.1

lemma limitSize_eq {sanitized : Dict Key Datum} (hnodup : Dict.NodupKeys sanitized)
    (hsafe : safeFields sanitized ≠ []) :
    limitSize maxPayloadBytes sanitized = safeFields sanitized ++
      fitted maxPayloadBytes (fieldsSize (safeFields sanitized)) (otherFields sanitized) := by
  refine addFields_eq hsafe ?_
  have hperm : (safeFields sanitized ++ otherFields sanitized).Perm sanitized :=
    List.filter_append_perm _ sanitized
  exact (hperm.map Prod.fst).nodup_iff.mpr hnodup

variable (maxPayloadBytes) in
lemma nodupKeys_limitSize {sanitized : Dict Key Datum} (hnodup : Dict.NodupKeys sanitized)
    (hsafe : safeFields sanitized ≠ []) :
    Dict.NodupKeys (limitSize maxPayloadBytes sanitized) := by
  have hperm : (safeFields sanitized ++ otherFields sanitized).Perm sanitized :=
    List.filter_append_perm _ sanitized
  have hkeys : Dict.keys (limitSize maxPayloadBytes sanitized) =
      (safeFields sanitized ++ otherFields sanitized).map Prod.fst := by
    rw [limitSize_eq hnodup hsafe, Dict.keys, List.map_append, List.map_append, fitted,
      List.map_map]
    rfl
  rw [Dict.NodupKeys, hkeys]
  exact (hperm.map Prod.fst).nodup_iff.mpr hnodup

/-- The result fits exactly where the safe fields do and the marks have room. -/
lemma size_limitSize_le_iff {sanitized : Dict Key Datum} (hnodup : Dict.NodupKeys sanitized)
    (hsafe : safeFields sanitized ≠ []) :
    (Datum.dict (limitSize maxPayloadBytes sanitized)).size ≤ maxPayloadBytes ↔
      fieldsSize (safeFields sanitized) ≤ maxPayloadBytes ∧
        LeavesRoom maxPayloadBytes (fieldsSize (safeFields sanitized)) (otherFields sanitized) := by
  have hother : Dict.NodupKeys (otherFields sanitized) :=
    Dict.NodupKeys.filterKeys (p := fun k => !alwaysKept k) hnodup
  rw [limitSize_eq hnodup hsafe, Datum.size_dict (by simp [hsafe])]
  show fieldsSize (_ ++ _) ≤ _ ↔ _
  rw [fieldsSize_append]
  constructor
  · intro hle
    have hbase : fieldsSize (safeFields sanitized) ≤ maxPayloadBytes := by omega
    exact ⟨hbase, (fieldsSize_fitted_le_iff hother hbase).mp hle⟩
  · rintro ⟨hbase, hroom⟩
    exact (fieldsSize_fitted_le_iff hother hbase).mpr hroom

lemma fieldsEncodable_iff (fields : List (Key × Datum)) :
    Datum.fieldsEncodable fields = true ↔
      ∀ kv ∈ fields, Datum.encodableKey kv.1 = true ∧ kv.2.encodable = true := by
  induction fields with
  | nil => simp [Datum.fieldsEncodable]
  | cons kv fields ih =>
      obtain ⟨k, v⟩ := kv
      rw [Datum.fieldsEncodable, List.forall_mem_cons, ← ih]
      simp

lemma encodable_limitSize {sanitized : Dict Key Datum} (hnodup : Dict.NodupKeys sanitized)
    (hsafe : safeFields sanitized ≠ []) (h : (Datum.dict sanitized).encodable = true) :
    (Datum.dict (limitSize maxPayloadBytes sanitized)).encodable = true := by
  rw [Datum.encodable, fieldsEncodable_iff] at h ⊢
  rw [limitSize_eq hnodup hsafe]
  intro kv hmem
  rcases List.mem_append.mp hmem with hmem | hmem
  · exact h kv (List.mem_of_mem_filter hmem)
  · obtain ⟨lw, hlw, rfl⟩ := List.mem_map.mp hmem
    have hfield := h lw (List.mem_of_mem_filter hlw)
    refine ⟨hfield.1, ?_⟩
    dsimp only
    split
    · rfl
    · exact hfield.2

end Sizes

/-! ## The promise -/

/-- Whether the pass over the sizes is made. -/
def tooLarge (maxPayloadBytes : ℕ) (sanitized : Dict Key Datum) : Bool :=
  (Datum.dict sanitized).encodable && decide (maxPayloadBytes < (Datum.dict sanitized).size)

/-- The pass over the sizes leaves the field out. -/
def Omits (maxPayloadBytes : ℕ) (sanitized : Dict Key Datum) (k : Key) : Prop :=
  tooLarge maxPayloadBytes sanitized = true ∧
    k ∈ leftOut maxPayloadBytes (fieldsSize (safeFields sanitized)) (otherFields sanitized)

/-- What sanitized fields become. -/
def limited (maxPayloadBytes : ℕ) (sanitized : Dict Key Datum) : Dict Key Datum :=
  if tooLarge maxPayloadBytes sanitized then limitSize maxPayloadBytes sanitized else sanitized

lemma get?_limited {maxPayloadBytes : ℕ} {sanitized : Dict Key Datum}
    (hnodup : Dict.NodupKeys sanitized) (hsafe : safeFields sanitized ≠ []) {k : Key} {v : Datum}
    (h : Dict.get? sanitized k = some v) :
    Dict.get? (limited maxPayloadBytes sanitized) k = some omitted ∧
        Omits maxPayloadBytes sanitized k ∨
      Dict.get? (limited maxPayloadBytes sanitized) k = some v ∧
        ¬ Omits maxPayloadBytes sanitized k := by
  have hmem := Dict.mem_of_get? h
  unfold limited
  split
  · rename_i hlarge
    have hkeys := nodupKeys_limitSize maxPayloadBytes hnodup hsafe
    by_cases hkept : alwaysKept k = true
    · refine .inr ⟨Dict.get?_of_mem hkeys ?_, ?_⟩
      · rw [limitSize_eq hnodup hsafe]
        exact List.mem_append_left _ (List.mem_filter.mpr ⟨hmem, hkept⟩)
      · rintro ⟨-, hout⟩
        obtain ⟨kv, hkv, rfl⟩ := List.mem_map.mp (mem_keys_of_mem_leftOut hout)
        have hnot := (List.mem_filter.mp hkv).2
        simp [hkept] at hnot
    · have hfield : (k, if k ∈ leftOut maxPayloadBytes (fieldsSize (safeFields sanitized))
          (otherFields sanitized) then omitted else v) ∈ limitSize maxPayloadBytes sanitized := by
        rw [limitSize_eq hnodup hsafe]
        exact List.mem_append_right _ (List.mem_map.mpr
          ⟨(k, v), List.mem_filter.mpr ⟨hmem, by simpa using hkept⟩, rfl⟩)
      by_cases hout : k ∈ leftOut maxPayloadBytes (fieldsSize (safeFields sanitized))
          (otherFields sanitized)
      · rw [if_pos hout] at hfield
        exact .inl ⟨Dict.get?_of_mem hkeys hfield, hlarge, hout⟩
      · rw [if_neg hout] at hfield
        exact .inr ⟨Dict.get?_of_mem hkeys hfield, fun homits => hout homits.2⟩
  · rename_i hsmall
    exact .inr ⟨h, fun homits => hsmall homits.1⟩

/-- The keys of the two marker fields. -/
def markerKeys : List Key := [.str "_sanitized", .str "_content_allowed"]

/-- The fields of the metadata that the marker fields do not overwrite. -/
def unmarked (metadata : Dict Key Datum) : Dict Key Datum :=
  metadata.filter fun kv => !markerKeys.contains kv.1

/-- A metadata dictionary: in it and below it every key stands once. -/
structure Metadata where
  fields : Dict Key Datum
  distinct : (Datum.dict fields).distinct = true

variable (isLetter : Char → Bool) (allowContent : Bool) (maxPayloadBytes : ℕ)

/-- The sanitizer returns, with marks in place of the values under guarded keys, and the JSON text
of what it returns keeps to the limit. -/
def Sanitizes (metadata : Dict Key Datum) : Prop :=
  ∃ out, sanitizeForEvidence isLetter metadata allowContent maxPayloadBytes = some out ∧
    Redacted (.dict (unmarked metadata)) (.dict out) ∧
    ((Datum.dict out).encodable = true → (Datum.dict out).size ≤ maxPayloadBytes)

/-- The metadata can be copied, and all dictionaries that the walk visits have text keys.  Once
walked, the safe fields fit and each field that does not fit leaves room for its mark.  Below the
fields that are not left out, the tuples that the walk visits show marks only. -/
structure Sanitizable (metadata : Dict Key Datum) : Prop where
  copies : (Datum.dict metadata).copies = true
  textKeys : EachVisited TextKeys 0 (.dict metadata)
  sizes : ∀ fields, sanitizeFields isLetter 0 metadata = some fields →
    tooLarge maxPayloadBytes (markFields allowContent fields) = true →
      fieldsSize (safeFields (markFields allowContent fields)) ≤ maxPayloadBytes ∧
        LeavesRoom maxPayloadBytes (fieldsSize (safeFields (markFields allowContent fields)))
          (otherFields (markFields allowContent fields))
  tuples : ∀ fields, sanitizeFields isLetter 0 metadata = some fields →
    ∀ key x, (.str key, x) ∈ unmarked metadata → fieldMark key x = none →
      ¬ Omits maxPayloadBytes (markFields allowContent fields) (.str key) →
        EachVisited TupleShowsMarks 1 x

variable {isLetter allowContent maxPayloadBytes}

lemma sanitizeForEvidence_eq_some_iff {metadata out : Dict Key Datum} :
    sanitizeForEvidence isLetter metadata allowContent maxPayloadBytes = some out ↔
      (Datum.dict metadata).copies = true ∧ ∃ fields,
        sanitizeFields isLetter 0 metadata = some fields ∧
          out = limited maxPayloadBytes (markFields allowContent fields) := by
  unfold sanitizeForEvidence limited tooLarge
  cases (Datum.dict metadata).copies with
  | false => simp
  | true =>
      simp only [Bool.not_true, Bool.false_eq_true, if_false, Option.map_eq_some_iff, true_and]
      exact exists_congr fun fields => and_congr_right fun _ => eq_comm

lemma nodupKeys_markFields {fields : Dict Key Datum} (h : Dict.NodupKeys fields) :
    Dict.NodupKeys (markFields allowContent fields) :=
  (Dict.NodupKeys.set h _ _).set _ _

variable (allowContent) in
lemma get?_markFields {fields : Dict Key Datum} {k : Key} (hk : k ∉ markerKeys) :
    Dict.get? (markFields allowContent fields) k = Dict.get? fields k := by
  simp only [markerKeys, List.mem_cons, List.not_mem_nil, or_false, not_or] at hk
  rw [markFields, Dict.get?_set_of_ne (Ne.symm hk.2), Dict.get?_set_of_ne (Ne.symm hk.1)]

variable (allowContent) in
lemma safeFields_markFields (fields : Dict Key Datum) :
    safeFields (markFields allowContent fields) ≠ [] := by
  have hmem : (Key.str "_content_allowed", Datum.bool allowContent) ∈
      markFields allowContent fields := Dict.mem_of_get? (Dict.get?_set_self _ _ _)
  exact List.ne_nil_of_mem (List.mem_filter.mpr ⟨hmem, by simp [alwaysKept]⟩)

lemma get?_unmarked_iff (metadata : Dict Key Datum) (k : Key) (x : Datum) :
    Dict.get? (unmarked metadata) k = some x ↔
      k ∉ markerKeys ∧ Dict.get? metadata k = some x := by
  have hget := Dict.get?_filterKeys (p := fun k => !markerKeys.contains k) metadata k
  show Dict.get? (Dict.filterKeys (fun k => !markerKeys.contains k) metadata) k = some x ↔ _
  rw [hget]
  by_cases hk : k ∈ markerKeys
  · simp [hk]
  · simp [hk]

/-- What is returned hides what it should exactly where the tuples below the fields that are not
left out show marks only. -/
lemma redacted_limited_iff {metadata : Dict Key Datum}
    (hdistinct : (Datum.dict metadata).distinct = true) {fields : Dict Key Datum}
    (hfields : sanitizeFields isLetter 0 metadata = some fields) :
    Redacted (.dict (unmarked metadata))
        (.dict (limited maxPayloadBytes (markFields allowContent fields))) ↔
      ∀ key x, (.str key, x) ∈ unmarked metadata → fieldMark key x = none →
        ¬ Omits maxPayloadBytes (markFields allowContent fields) (.str key) →
          EachVisited TupleShowsMarks 1 x := by
  rw [Datum.distinct, Bool.and_eq_true, decide_eq_true_iff] at hdistinct
  have hkeys : Dict.NodupKeys (markFields allowContent fields) :=
    nodupKeys_markFields (by
      rw [Dict.NodupKeys, keys_sanitizeFields isLetter hfields]
      exact hdistinct.1)
  -- a field of the metadata, what the walk makes of it, and what is returned for it
  have hfield : ∀ k x, Dict.get? (unmarked metadata) k = some x → ∃ key y, k = .str key ∧
      (fieldMark key x).or (sanitizeRecursive isLetter 1 x) = some y ∧
        (Dict.get? (limited maxPayloadBytes (markFields allowContent fields)) k = some omitted ∧
            Omits maxPayloadBytes (markFields allowContent fields) k ∨
          Dict.get? (limited maxPayloadBytes (markFields allowContent fields)) k = some y ∧
            ¬ Omits maxPayloadBytes (markFields allowContent fields) k) := by
    intro k x hx
    obtain ⟨hk, hx⟩ := (get?_unmarked_iff metadata k x).mp hx
    obtain ⟨key, y, rfl, hy, hvalue⟩ := get?_sanitizeFields isLetter hfields hx
    rw [← get?_markFields allowContent hk] at hy
    exact ⟨key, y, rfl, hvalue, get?_limited hkeys (safeFields_markFields allowContent fields) hy⟩
  have hbelow : ∀ k x, Dict.get? (unmarked metadata) k = some x → x.distinct = true := by
    intro k x hx
    exact Datum.distinct_of_mem_fields hdistinct.2
      (Dict.mem_of_get? ((get?_unmarked_iff metadata k x).mp hx).2)
  have hnodup : Dict.NodupKeys (unmarked metadata) :=
    Dict.NodupKeys.filterKeys (p := fun k => !markerKeys.contains k) hdistinct.1
  rw [redacted_dict_iff fun k x hx => by
    obtain ⟨key, y, -, -, hout | hout⟩ := hfield k x hx
    · exact ⟨_, hout.1⟩
    · exact ⟨_, hout.1⟩]
  constructor
  · intro hall key x hmem hmark hkept
    have hx := Dict.get?_of_mem hnodup hmem
    obtain ⟨key', y, hkey, hvalue, hout | hout⟩ := hfield _ x hx
    · exact absurd hout.2 hkept
    · cases hkey
      rw [hmark, Option.none_or] at hvalue
      exact (redacted_iff isLetter (hbelow _ _ hx) hvalue).mp (hall _ x y hx hout.1).1
  · intro hvisited k x y hx hy
    obtain ⟨key, z, rfl, hvalue, hout | hout⟩ := hfield k x hx
    · obtain rfl : omitted = y := Option.some.inj (hout.1.symm.trans hy)
      have hnote : omitted ∈ notes := by simp [notes]
      exact ⟨redacted_note hnote x, fun _ _ _ => .inr hnote⟩
    · obtain rfl : z = y := Option.some.inj (hout.1.symm.trans hy)
      cases hmark : fieldMark key x with
      | some m =>
          rw [hmark, Option.some_or] at hvalue
          cases hvalue
          have hspec := fieldMark_spec hmark
          refine ⟨hspec.1, ?_⟩
          rintro key' hkey hguarded
          cases hkey
          exact .inl (hspec.2 hguarded)
      | none =>
          rw [hmark, Option.none_or] at hvalue
          refine ⟨(redacted_iff isLetter (hbelow _ _ hx) hvalue).mpr
            (hvisited key x (Dict.mem_of_get? hx) hmark hout.2), ?_⟩
          rintro key' hkey hguarded
          cases hkey
          rw [isGuarded_of_fieldMark hmark] at hguarded
          cases hguarded

/-- What is returned keeps to the limit exactly where the safe fields do and the marks have
room. -/
lemma size_limited_iff {sanitized : Dict Key Datum} (hnodup : Dict.NodupKeys sanitized)
    (hsafe : safeFields sanitized ≠ []) :
    ((Datum.dict (limited maxPayloadBytes sanitized)).encodable = true →
        (Datum.dict (limited maxPayloadBytes sanitized)).size ≤ maxPayloadBytes) ↔
      (tooLarge maxPayloadBytes sanitized = true →
        fieldsSize (safeFields sanitized) ≤ maxPayloadBytes ∧
          LeavesRoom maxPayloadBytes (fieldsSize (safeFields sanitized))
            (otherFields sanitized)) := by
  unfold limited
  split
  · rename_i hlarge
    have henc : (Datum.dict sanitized).encodable = true := by
      simp only [tooLarge, Bool.and_eq_true] at hlarge
      exact hlarge.1
    rw [← size_limitSize_le_iff hnodup hsafe]
    simp [hlarge, encodable_limitSize hnodup hsafe henc]
  · rename_i hsmall
    refine iff_of_true ?_ fun h => absurd h hsmall
    intro henc
    by_contra hsize
    refine hsmall ?_
    simp only [tooLarge, henc, Bool.true_and, decide_eq_true_eq]
    omega

/-- The sanitizer keeps its promise exactly on the metadata that is `Sanitizable`. -/
theorem sanitizes_iff (isLetter : Char → Bool) (allowContent : Bool) (maxPayloadBytes : ℕ)
    (metadata : Metadata) :
    Sanitizes isLetter allowContent maxPayloadBytes metadata.fields ↔
      Sanitizable isLetter allowContent maxPayloadBytes metadata.fields := by
  have hwalk : (∃ fields, sanitizeFields isLetter 0 metadata.fields = some fields) ↔
      EachVisited TextKeys 0 (.dict metadata.fields) := by
    rw [← sanitizeRecursive_isSome isLetter, sanitizeRecursive, if_neg (by decide),
      Option.isSome_map, Option.isSome_iff_exists]
  have hsafe := safeFields_markFields allowContent
  have hkeys : ∀ {fields}, sanitizeFields isLetter 0 metadata.fields = some fields →
      Dict.NodupKeys (markFields allowContent fields) := by
    intro fields hfields
    have hdistinct := metadata.distinct
    rw [Datum.distinct, Bool.and_eq_true, decide_eq_true_iff] at hdistinct
    refine nodupKeys_markFields ?_
    rw [Dict.NodupKeys, keys_sanitizeFields isLetter hfields]
    exact hdistinct.1
  constructor
  · rintro ⟨out, hout, hredacted, hsmall⟩
    obtain ⟨hcopies, fields, hfields, rfl⟩ := sanitizeForEvidence_eq_some_iff.mp hout
    refine ⟨hcopies, hwalk.mp ⟨fields, hfields⟩, ?_, ?_⟩
    · intro fields' hfields'
      obtain rfl : fields' = fields := Option.some.inj (hfields'.symm.trans hfields)
      exact (size_limited_iff (hkeys hfields) (hsafe fields')).mp hsmall
    · intro fields' hfields'
      obtain rfl : fields' = fields := Option.some.inj (hfields'.symm.trans hfields)
      exact (redacted_limited_iff metadata.distinct hfields).mp hredacted
  · rintro ⟨hcopies, htext, hsizes, htuples⟩
    obtain ⟨fields, hfields⟩ := hwalk.mpr htext
    exact ⟨_, sanitizeForEvidence_eq_some_iff.mpr ⟨hcopies, fields, hfields, rfl⟩,
      (redacted_limited_iff metadata.distinct hfields).mpr (htuples fields hfields),
      (size_limited_iff (hkeys hfields) (hsafe fields)).mpr (hsizes fields hfields)⟩

/-- A password in a tuple is kept as it is, a number as a key raises, and a safe field that is too
large is kept whole. -/
theorem not_sanitizes :
    ¬ Sanitizes (fun _ => false) false 64000
        [(.str "args", .tuple [.dict [(.str "password", .str "correct horse")]])] ∧
      sanitizeForEvidence (fun _ => false)
        [(.str "codes", .dict [(.other "int" "503", .str "busy")])] = none ∧
      ¬ Sanitizes (fun _ => false) false 60 [(.str "model", .str "a model with a long name")] := by
  refine ⟨?_, by rfl, ?_⟩
  · rintro ⟨out, hout, hredacted, -⟩
    have heval : sanitizeForEvidence (fun _ => false)
        [(.str "args", .tuple [.dict [(.str "password", .str "correct horse")]])] false 64000 =
      some [(.str "args", .tuple [.dict [(.str "password", .str "correct horse")]]),
        (.str "_sanitized", .bool true), (.str "_content_allowed", .bool false)] := by rfl
    cases heval.symm.trans hout
    obtain ⟨y, hshown, hy⟩ := hredacted [.key (.str "args"), .item 0] "password"
      (.str "correct horse") (by rfl) (by rfl)
    have hvalue : y = .str "correct horse" := (Option.some.inj hshown).symm
    subst hvalue
    rcases hy with hy | hy
    · obtain ⟨shown, hlength, heq, -⟩ := hy.1 (by rfl)
      have hchars := congrArg String.length (Datum.str.inj heq)
      have hstars : "***".length = 3 := by rfl
      have htext : "correct horse".length = 13 := by rfl
      rw [htext, String.length_append, hstars, String.length_ofList] at hchars
      omega
    · simp [notes, omitted] at hy
  · rintro ⟨out, hout, -, hsmall⟩
    have heval : sanitizeForEvidence (fun _ => false)
        [(.str "model", .str "a model with a long name")] false 60 =
      some [(.str "model", .str "a model with a long name"),
        (.str "_sanitized", .bool true), (.str "_content_allowed", .bool false)] := by rfl
    cases heval.symm.trans hout
    exact absurd (hsmall (by rfl)) (by decide)

end Evidence

end Samaktha
