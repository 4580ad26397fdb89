import Samaktha.Evidence.Sanitizer

/-!
# What the sanitizer hides

The walk visits a value (`Visits`) unless a key marks it, a list is cut before it or it is too
deep.  It raises exactly where it visits a dictionary with a key that is no string
(`sanitizeRecursive_isSome`), and what it makes of a value shows marks in place of all values
under secret and content keys exactly where every tuple it visits shows such marks by itself
(`redacted_iff`): tuples are not walked.
-/

namespace Samaktha

namespace Evidence

/-! ## The promise -/

/-- A redaction mark for a value: at most the first eight characters of a text, and stars. -/
def IsRedaction (value mark : Datum) : Prop :=
  ∃ shown : List Char, shown.length ≤ 8 ∧ mark = .str (String.ofList shown ++ "***") ∧
    (shown = [] ∨ ∃ text, value = .str text ∧ shown <+: text.toList)

/-- A key under which a value must be replaced. -/
def isGuarded (key : String) : Bool := isSecretKey key || isContentKey key

/-- `mark` stands for `value` as the key asks for. -/
def Hides (key : String) (value mark : Datum) : Prop :=
  (isSecretKey key = true → IsRedaction value mark) ∧
    (isSecretKey key = false → mark = contentNote value)

/-- The texts that stand for a value with all that it holds. -/
def notes : List Datum :=
  [.str "***", .str "[content:list]", .str "[content:dict]", .str "[content]",
    .str "[max_depth_exceeded]", .str "[list_truncated]", omitted]

/-- Wherever `value` holds a value under a guarded key, `out` shows a mark for it, or a text that
stands for a value around it. -/
def Redacted (value out : Datum) : Prop :=
  ∀ path key x, isGuarded key = true → value.at? (path ++ [.key (.str key)]) = some x →
    ∃ y, out.shown (path ++ [.key (.str key)]) = some y ∧ (Hides key x y ∨ y ∈ notes)

/-! ## The walk -/

/-- `Visits depth value depth' value'`: the walk of `value` at `depth` comes to `value'` at
`depth'`. -/
inductive Visits : ℕ → Datum → ℕ → Datum → Prop
  | here {depth value} : Visits depth value depth value
  | field {depth kvs key x depth' y} : depth ≤ maxDepth → (.str key, x) ∈ kvs →
      fieldMark key x = none → Visits (depth + 1) x depth' y → Visits depth (.dict kvs) depth' y
  | item {depth xs x depth' y} : depth ≤ maxDepth → x ∈ xs.take maxItems →
      Visits (depth + 1) x depth' y → Visits depth (.list xs) depth' y

/-- Every value that the walk visits and that is not too deep satisfies `P`. -/
def EachVisited (P : Datum → Prop) (depth : ℕ) (value : Datum) : Prop :=
  ∀ depth' y, Visits depth value depth' y → depth' ≤ maxDepth → P y

section Visited

variable {P : Datum → Prop} {depth : ℕ}

lemma Visits.depth_le {value y : Datum} {depth' : ℕ} (h : Visits depth value depth' y) :
    depth ≤ depth' := by
  induction h with
  | here => exact le_refl _
  | field _ _ _ _ ih => omega
  | item _ _ _ ih => omega

lemma eachVisited_of_lt (h : maxDepth < depth) (value : Datum) : EachVisited P depth value := by
  intro depth' y hvisits hle
  have hdepth := hvisits.depth_le
  omega

lemma eachVisited_dict_iff (h : depth ≤ maxDepth) (kvs : List (Key × Datum)) :
    EachVisited P depth (.dict kvs) ↔ P (.dict kvs) ∧
      ∀ key x, (.str key, x) ∈ kvs → fieldMark key x = none → EachVisited P (depth + 1) x := by
  constructor
  · intro hall
    exact ⟨hall _ _ .here h, fun key x hmem hmark depth' y hvisits =>
      hall depth' y (.field h hmem hmark hvisits)⟩
  · rintro ⟨hhere, hbelow⟩ depth' y hvisits hle
    cases hvisits with
    | here => exact hhere
    | field _ hmem hmark hrest => exact hbelow _ _ hmem hmark _ _ hrest hle

lemma eachVisited_list_iff (h : depth ≤ maxDepth) (xs : List Datum) :
    EachVisited P depth (.list xs) ↔ P (.list xs) ∧
      ∀ x ∈ xs.take maxItems, EachVisited P (depth + 1) x := by
  constructor
  · intro hall
    exact ⟨hall _ _ .here h, fun x hmem depth' y hvisits =>
      hall depth' y (.item h hmem hvisits)⟩
  · rintro ⟨hhere, hbelow⟩ depth' y hvisits hle
    cases hvisits with
    | here => exact hhere
    | item _ hmem hrest => exact hbelow _ hmem _ _ hrest hle

/-- A value that is walked no further. -/
lemma eachVisited_leaf_iff (h : depth ≤ maxDepth) {value : Datum}
    (hdict : ∀ kvs, value ≠ .dict kvs) (hlist : ∀ xs, value ≠ .list xs) :
    EachVisited P depth value ↔ P value := by
  constructor
  · intro hall
    exact hall _ _ .here h
  · intro hhere depth' y hvisits _
    cases hvisits with
    | here => exact hhere
    | field => exact absurd rfl (hdict _)
    | item => exact absurd rfl (hlist _)

end Visited

/-! ## Where the walk raises -/

/-- All keys of a dictionary are strings. -/
def TextKeys (value : Datum) : Prop :=
  ∀ kvs, value = .dict kvs → ∀ kv ∈ kvs, ∃ key, kv.1 = .str key

lemma textKeys_dict_iff (kvs : List (Key × Datum)) :
    TextKeys (.dict kvs) ↔ ∀ kv ∈ kvs, ∃ key, kv.1 = .str key := by
  constructor
  · intro h
    exact h kvs rfl
  · rintro h kvs' heq
    cases heq
    exact h

variable (isLetter : Char → Bool)

lemma sanitizeRecursive_leaf (depth : ℕ) {value : Datum} (hdict : ∀ kvs, value ≠ .dict kvs)
    (hlist : ∀ xs, value ≠ .list xs) :
    sanitizeRecursive isLetter depth value =
      some (if maxDepth < depth then .str "[max_depth_exceeded]"
        else sanitizeLeaf isLetter value) := by
  cases value with
  | dict kvs => exact absurd rfl (hdict kvs)
  | list xs => exact absurd rfl (hlist xs)
  | _ =>
      rw [sanitizeRecursive]
      · split <;> rfl
      · simp
      · simp

lemma leaf_isSome (depth : ℕ) {value : Datum} (hdict : ∀ kvs, value ≠ .dict kvs)
    (hlist : ∀ xs, value ≠ .list xs) :
    (sanitizeRecursive isLetter depth value).isSome = true ↔ EachVisited TextKeys depth value := by
  rw [sanitizeRecursive_leaf isLetter depth hdict hlist]
  refine iff_of_true rfl ?_
  intro depth' y hvisits _ kvs hy
  cases hvisits with
  | here => exact absurd hy (hdict kvs)
  | field => exact absurd rfl (hdict _)
  | item => exact absurd rfl (hlist _)

lemma sanitizeFields_cons_isSome (depth : ℕ) (key : String) (value : Datum)
    (kvs : List (Key × Datum)) :
    (sanitizeFields isLetter depth ((.str key, value) :: kvs)).isSome = true ↔
      (fieldMark key value = none → (sanitizeRecursive isLetter (depth + 1) value).isSome = true) ∧
        (sanitizeFields isLetter depth kvs).isSome = true := by
  rw [sanitizeFields]
  cases fieldMark key value <;> cases sanitizeRecursive isLetter (depth + 1) value <;>
    cases sanitizeFields isLetter depth kvs <;> simp

mutual

/-- The walk comes to its end exactly where all dictionaries it visits have text keys. -/
theorem sanitizeRecursive_isSome (depth : ℕ) : ∀ value : Datum,
    (sanitizeRecursive isLetter depth value).isSome = true ↔ EachVisited TextKeys depth value
  | .dict kvs => by
      by_cases hdepth : maxDepth < depth
      · simp [sanitizeRecursive, hdepth, eachVisited_of_lt hdepth]
      · rw [eachVisited_dict_iff (by omega), textKeys_dict_iff, sanitizeRecursive, if_neg hdepth,
          Option.isSome_map, sanitizeFields_isSome depth kvs]
  | .list xs => by
      by_cases hdepth : maxDepth < depth
      · simp [sanitizeRecursive, hdepth, eachVisited_of_lt hdepth]
      · rw [eachVisited_list_iff (by omega), sanitizeRecursive, if_neg hdepth, Option.isSome_map,
          sanitizeItems_isSome depth maxItems xs]
        exact ⟨fun h => ⟨(by intro kvs heq; cases heq), h⟩, fun h => h.2⟩
  | .tuple xs => leaf_isSome isLetter depth (by simp) (by simp)
  | .none => leaf_isSome isLetter depth (by simp) (by simp)
  | .bool _ => leaf_isSome isLetter depth (by simp) (by simp)
  | .int _ => leaf_isSome isLetter depth (by simp) (by simp)
  | .float _ => leaf_isSome isLetter depth (by simp) (by simp)
  | .str _ => leaf_isSome isLetter depth (by simp) (by simp)
  | .bytes _ => leaf_isSome isLetter depth (by simp) (by simp)
  | .other _ => leaf_isSome isLetter depth (by simp) (by simp)

theorem sanitizeItems_isSome (depth : ℕ) : ∀ (room : ℕ) (xs : List Datum),
    (sanitizeItems isLetter depth room xs).isSome = true ↔
      ∀ x ∈ xs.take room, EachVisited TextKeys (depth + 1) x
  | _, [] => by simp [sanitizeItems]
  | 0, _ :: _ => by simp [sanitizeItems]
  | room + 1, x :: xs => by
      have hx := sanitizeRecursive_isSome (depth + 1) x
      have hxs := sanitizeItems_isSome depth room xs
      rw [List.take_succ_cons, List.forall_mem_cons, ← hx, ← hxs, sanitizeItems]
      cases sanitizeRecursive isLetter (depth + 1) x <;>
        cases sanitizeItems isLetter depth room xs <;> simp

theorem sanitizeFields_isSome (depth : ℕ) : ∀ kvs : List (Key × Datum),
    (sanitizeFields isLetter depth kvs).isSome = true ↔
      (∀ kv ∈ kvs, ∃ key, kv.1 = .str key) ∧
        ∀ key x, (.str key, x) ∈ kvs → fieldMark key x = none → EachVisited TextKeys (depth + 1) x
  | [] => by simp [sanitizeFields]
  | (.other _ _, _) :: _ => by simp [sanitizeFields]
  | (.str key, value) :: kvs => by
      have hvalue := sanitizeRecursive_isSome (depth + 1) value
      have hkvs := sanitizeFields_isSome depth kvs
      rw [sanitizeFields_cons_isSome, hvalue, hkvs]
      constructor
      · rintro ⟨hhere, htext, hbelow⟩
        refine ⟨List.forall_mem_cons.mpr ⟨⟨key, rfl⟩, htext⟩, ?_⟩
        intro key' x hmem hmark
        rcases List.mem_cons.mp hmem with heq | hmem
        · cases heq
          exact hhere hmark
        · exact hbelow key' x hmem hmark
      · rintro ⟨htext, hbelow⟩
        exact ⟨hbelow key value List.mem_cons_self, (List.forall_mem_cons.mp htext).2,
          fun key' x hmem => hbelow key' x (List.mem_cons_of_mem _ hmem)⟩

end

/-! ## What the walk hides -/

/-- All values under guarded keys in the value are marks already. -/
def ShowsMarks (value : Datum) : Prop :=
  ∀ path key x, isGuarded key = true → value.at? (path ++ [.key (.str key)]) = some x →
    Hides key x x ∨ x ∈ notes

def TupleShowsMarks (value : Datum) : Prop := ∀ xs, value = .tuple xs → ShowsMarks value

lemma redacted_self_iff (value : Datum) : Redacted value value ↔ ShowsMarks value := by
  constructor
  · intro h path key x hguarded hat
    obtain ⟨y, hshown, hy⟩ := h path key x hguarded hat
    rw [Datum.shown_of_at hat] at hshown
    cases hshown
    exact hy
  · intro h path key x hguarded hat
    exact ⟨x, Datum.shown_of_at hat, h path key x hguarded hat⟩

lemma redacted_note {note : Datum} (h : note ∈ notes) (value : Datum) : Redacted value note := by
  intro path key x _ _
  refine ⟨note, ?_, .inr h⟩
  have htext : ∃ s, note = .str s := by
    simp only [notes, omitted, List.mem_cons, List.not_mem_nil, or_false] at h
    rcases h with rfl | rfl | rfl | rfl | rfl | rfl | rfl <;> exact ⟨_, rfl⟩
  obtain ⟨s, rfl⟩ := htext
  cases path <;> simp [Datum.shown]

lemma redacted_leaf {value : Datum} (hlist : ∀ xs, value ≠ .list xs)
    (htuple : ∀ xs, value ≠ .tuple xs) (hdict : ∀ kvs, value ≠ .dict kvs) (out : Datum) :
    Redacted value out := by
  intro path key x _ hat
  have hnone : ∀ place path, value.at? (place :: path) = none := by
    intro place path
    cases value with
    | list xs => exact absurd rfl (hlist xs)
    | tuple xs => exact absurd rfl (htuple xs)
    | dict kvs => exact absurd rfl (hdict kvs)
    | _ => simp [Datum.at?]
  cases path with
  | nil => rw [List.nil_append, hnone] at hat; cases hat
  | cons place path => rw [List.cons_append, hnone] at hat; cases hat

/-- A dictionary is redacted where its fields are. -/
lemma redacted_dict_iff {kvs fs : List (Key × Datum)}
    (hkeys : ∀ k x, Dict.get? kvs k = some x → ∃ y, Dict.get? fs k = some y) :
    Redacted (.dict kvs) (.dict fs) ↔
      ∀ k x y, Dict.get? kvs k = some x → Dict.get? fs k = some y → Redacted x y ∧
        ∀ key, k = .str key → isGuarded key = true → Hides key x y ∨ y ∈ notes := by
  constructor
  · intro h k x y hx hy
    constructor
    · intro path key z hguarded hat
      obtain ⟨w, hshown, hw⟩ := h (.key k :: path) key z hguarded
        (by simpa [Datum.at?, hx] using hat)
      exact ⟨w, by simpa [Datum.shown, hy] using hshown, hw⟩
    · rintro key rfl hguarded
      obtain ⟨w, hshown, hw⟩ := h [] key x hguarded (by simp [Datum.at?, hx])
      have hwy : y = w := by simpa [Datum.shown, hy] using hshown
      rwa [hwy]
  · intro h path key z hguarded hat
    cases path with
    | nil =>
        have hx : Dict.get? kvs (.str key) = some z := by
          simpa [Datum.at?, Option.bind_eq_some_iff] using hat
        obtain ⟨y, hy⟩ := hkeys _ _ hx
        exact ⟨y, by simp [Datum.shown, hy], (h _ _ _ hx hy).2 key rfl hguarded⟩
    | cons place path =>
        cases place with
        | item i => simp [Datum.at?] at hat
        | key k =>
            simp only [List.cons_append, Datum.at?, Option.bind_eq_some_iff] at hat
            obtain ⟨x, hx, hat⟩ := hat
            obtain ⟨y, hy⟩ := hkeys _ _ hx
            obtain ⟨w, hshown, hw⟩ := (h _ _ _ hx hy).1 path key z hguarded hat
            exact ⟨w, by simpa [Datum.shown, hy] using hshown, hw⟩

/-- A list that is cut, or not, is redacted where its items are. -/
lemma redacted_list_iff {xs : List Datum} (ys : List Datum) {zs : List Datum}
    (hkept : ∀ i x, xs[i]? = some x → i < maxItems → ∃ y, ys[i]? = some y ∧ zs[i]? = some y)
    (hcut : ∀ i x, xs[i]? = some x → ¬ i < maxItems →
      ∃ y ∈ notes, zs[i]?.or zs.getLast? = some y) :
    Redacted (.list xs) (.list zs) ↔
      ∀ i x y, i < maxItems → xs[i]? = some x → ys[i]? = some y → Redacted x y := by
  constructor
  · intro h i x y hi hx hy path key z hguarded hat
    obtain ⟨w, hshown, hw⟩ := h (.item i :: path) key z hguarded
      (by simpa [Datum.at?, hx] using hat)
    obtain ⟨y', hy', hz⟩ := hkept i x hx hi
    have hyy : y' = y := by rw [hy'] at hy; exact Option.some.inj hy
    subst hyy
    exact ⟨w, by simpa [Datum.shown, hz] using hshown, hw⟩
  · intro h path key z hguarded hat
    cases path with
    | nil => simp [Datum.at?] at hat
    | cons place path =>
        cases place with
        | key k => simp [Datum.at?] at hat
        | item i =>
            simp only [List.cons_append, Datum.at?, Option.bind_eq_some_iff] at hat
            obtain ⟨x, hx, hat⟩ := hat
            by_cases hi : i < maxItems
            · obtain ⟨y, hy, hz⟩ := hkept i x hx hi
              obtain ⟨w, hshown, hw⟩ := h i x y hi hx hy path key z hguarded hat
              exact ⟨w, by simpa [Datum.shown, hz] using hshown, hw⟩
            · obtain ⟨y, hnote, hz⟩ := hcut i x hx hi
              obtain ⟨w, hshown, hw⟩ := redacted_note hnote x path key z hguarded hat
              exact ⟨w, by simpa [Datum.shown, hz] using hshown, hw⟩

lemma redacted_of_note {x m : Datum} (hlist : ∀ xs, x = .list xs → m ∈ notes)
    (htuple : ∀ xs, x = .tuple xs → m ∈ notes) (hdict : ∀ kvs, x = .dict kvs → m ∈ notes) :
    Redacted x m := by
  cases x with
  | list xs => exact redacted_note (hlist xs rfl) _
  | tuple xs => exact redacted_note (htuple xs rfl) _
  | dict kvs => exact redacted_note (hdict kvs rfl) _
  | _ => exact redacted_leaf (by simp) (by simp) (by simp) m

lemma isRedaction_redactValue (x : Datum) : IsRedaction x (redactValue x) := by
  unfold redactValue
  split
  · rename_i text
    split
    · exact ⟨[], by simp, rfl, .inl rfl⟩
    · exact ⟨text.toList.take 8, by simp, rfl, .inr ⟨text, rfl, List.take_prefix _ _⟩⟩
  · exact ⟨[], by simp, rfl, .inl rfl⟩

lemma fieldMark_spec {key : String} {x m : Datum} (h : fieldMark key x = some m) :
    Redacted x m ∧ (isGuarded key = true → Hides key x m) := by
  unfold fieldMark at h
  split at h
  · rename_i hsecret
    cases h
    refine ⟨redacted_of_note ?_ ?_ ?_, fun _ => ⟨fun _ => isRedaction_redactValue x, ?_⟩⟩
    · rintro xs rfl
      simp [redactValue, notes]
    · rintro xs rfl
      simp [redactValue, notes]
    · rintro kvs rfl
      simp [redactValue, notes]
    · intro hnot
      rw [hsecret] at hnot
      cases hnot
  · rename_i hsecret
    split at h
    · cases h
      refine ⟨redacted_of_note ?_ ?_ ?_, fun _ => ⟨fun hsec => absurd hsec hsecret, fun _ => rfl⟩⟩
      · rintro xs rfl
        simp [contentNote, notes]
      · rintro xs rfl
        simp [contentNote, notes]
      · rintro kvs rfl
        simp [contentNote, notes]
    · rename_i hcontent
      have hguarded : isGuarded key = false := by simp [isGuarded, hsecret, hcontent]
      have htext : ∃ text, x = .str text := by
        split at h
        · cases h
        · split at h
          · exact ⟨_, rfl⟩
          · cases h
      obtain ⟨text, rfl⟩ := htext
      exact ⟨redacted_leaf (by simp) (by simp) (by simp) m, by simp [hguarded]⟩

lemma isGuarded_of_fieldMark {key : String} {x : Datum} (h : fieldMark key x = none) :
    isGuarded key = false := by
  unfold fieldMark at h
  split at h
  · cases h
  · split at h
    · cases h
    · simp_all [isGuarded]

lemma get?_sanitizeFields {depth : ℕ} {kvs fs : List (Key × Datum)}
    (h : sanitizeFields isLetter depth kvs = some fs) {k : Key} {x : Datum}
    (hget : Dict.get? kvs k = some x) :
    ∃ key y, k = .str key ∧ Dict.get? fs k = some y ∧
      (fieldMark key x).or (sanitizeRecursive isLetter (depth + 1) x) = some y := by
  induction kvs generalizing fs with
  | nil => simp at hget
  | cons kv kvs ih =>
      obtain ⟨k', v⟩ := kv
      cases k' with
      | other type text => simp [sanitizeFields] at h
      | str key =>
          rw [sanitizeFields] at h
          split at h
          · rename_i w rest hw hrest
            cases h
            rw [Dict.get?_cons] at hget
            split at hget
            · rename_i hk
              cases hget
              exact ⟨key, w, hk.symm, by simp [hk], hw⟩
            · rename_i hk
              obtain ⟨key', y, hkey, hy, hval⟩ := ih hrest hget
              exact ⟨key', y, hkey, by simpa [Dict.get?_cons, hk] using hy, hval⟩
          · cases h

lemma getElem?_sanitizeItems {depth room : ℕ} {xs ys : List Datum}
    (h : sanitizeItems isLetter depth room xs = some ys) :
    ys.length = min room xs.length ∧ ∀ i x, xs[i]? = some x → i < room →
      ∃ y, ys[i]? = some y ∧ sanitizeRecursive isLetter (depth + 1) x = some y := by
  induction xs generalizing room ys with
  | nil =>
      simp only [sanitizeItems, Option.some.injEq] at h
      subst h
      simp
  | cons x xs ih =>
      cases room with
      | zero =>
          simp only [sanitizeItems, Option.some.injEq] at h
          subst h
          simp
      | succ room =>
          rw [sanitizeItems] at h
          split at h
          · rename_i y ys' hy hys
            cases h
            obtain ⟨hlength, hitems⟩ := ih hys
            refine ⟨by simp [hlength], ?_⟩
            intro i z hz hi
            cases i with
            | zero =>
                cases hz
                exact ⟨y, rfl, hy⟩
            | succ i => exact hitems i z (by simpa using hz) (by omega)
          · cases h

/-- The fields of a dictionary are redacted where the tuples that the walk visits below them
show marks only. -/
lemma redacted_fields_iff {depth : ℕ} {kvs fs : List (Key × Datum)} (hnodup : Dict.NodupKeys kvs)
    (h : sanitizeFields isLetter depth kvs = some fs)
    (hbelow : ∀ kv ∈ kvs, ∀ y, sanitizeRecursive isLetter (depth + 1) kv.2 = some y →
      (Redacted kv.2 y ↔ EachVisited TupleShowsMarks (depth + 1) kv.2)) :
    Redacted (.dict kvs) (.dict fs) ↔
      ∀ key x, (.str key, x) ∈ kvs → fieldMark key x = none →
        EachVisited TupleShowsMarks (depth + 1) x := by
  rw [redacted_dict_iff fun k x hx => by
    obtain ⟨key, y, -, hy, -⟩ := get?_sanitizeFields isLetter h hx
    exact ⟨y, hy⟩]
  constructor
  · intro hfields key x hmem hmark
    have hx := Dict.get?_of_mem hnodup hmem
    obtain ⟨key', y, hkey, hy, hvalue⟩ := get?_sanitizeFields isLetter h hx
    cases hkey
    rw [hmark, Option.none_or] at hvalue
    exact (hbelow _ hmem y hvalue).mp (hfields _ x y hx hy).1
  · intro hvisited k x y hx hy
    obtain ⟨key, y', rfl, hy', hvalue⟩ := get?_sanitizeFields isLetter h hx
    obtain rfl : y' = y := Option.some.inj (hy'.symm.trans hy)
    have hmem := Dict.mem_of_get? hx
    cases hmark : fieldMark key x with
    | some m =>
        rw [hmark, Option.some_or] at hvalue
        cases hvalue
        have hspec := fieldMark_spec hmark
        refine ⟨hspec.1, ?_⟩
        rintro key' hkey hguarded
        cases hkey
        exact .inl (hspec.2 hguarded)
    | none =>
        rw [hmark, Option.none_or] at hvalue
        refine ⟨(hbelow _ hmem y' hvalue).mpr (hvisited key x hmem hmark), ?_⟩
        rintro key' hkey hguarded
        cases hkey
        rw [isGuarded_of_fieldMark hmark] at hguarded
        cases hguarded

/-- What the walk makes of a value hides what it should exactly where the tuples that it visits
show marks only. -/
theorem redacted_iff {value : Datum} : ∀ {depth : ℕ} {out : Datum}, value.distinct = true →
    sanitizeRecursive isLetter depth value = some out →
      (Redacted value out ↔ EachVisited TupleShowsMarks depth value) := by
  induction value using Datum.nested_induction with
  | hlist xs ih =>
      intro depth out hdistinct h
      rw [Datum.distinct] at hdistinct
      by_cases hdepth : maxDepth < depth
      · rw [sanitizeRecursive, if_pos hdepth] at h
        cases h
        exact iff_of_true (redacted_note (by simp [notes]) _) (eachVisited_of_lt hdepth _)
      · rw [sanitizeRecursive, if_neg hdepth, Option.map_eq_some_iff] at h
        obtain ⟨ys, hys, rfl⟩ := h
        obtain ⟨hlength, hitems⟩ := getElem?_sanitizeItems isLetter hys
        have htuple : TupleShowsMarks (.list xs) := fun _ heq => by cases heq
        rw [eachVisited_list_iff (by omega), and_iff_right htuple,
          redacted_list_iff ys ?_ ?_]
        · constructor
          · intro hred x hmem
            obtain ⟨i, hi⟩ := List.mem_iff_getElem?.mp hmem
            have hroom : i < maxItems := by
              have hlt := (List.getElem?_eq_some_iff.mp hi).1
              rw [List.length_take] at hlt
              omega
            have hx : xs[i]? = some x := by rwa [List.getElem?_take_of_lt hroom] at hi
            obtain ⟨y, hy, hvalue⟩ := hitems i x hx hroom
            have hin : x ∈ xs := List.mem_of_mem_take hmem
            exact (ih x hin (Datum.distinct_of_mem_items hdistinct hin) hvalue).mp
              (hred i x y hroom hx hy)
          · intro hvisited i x y hroom hx hy
            obtain ⟨y', hy', hvalue⟩ := hitems i x hx hroom
            obtain rfl : y' = y := Option.some.inj (hy'.symm.trans hy)
            have hin : x ∈ xs := List.mem_of_getElem? hx
            have htake : x ∈ xs.take maxItems :=
              List.mem_of_getElem? (by rwa [List.getElem?_take_of_lt hroom])
            exact (ih x hin (Datum.distinct_of_mem_items hdistinct hin) hvalue).mpr
              (hvisited x htake)
        · intro i x hx hroom
          obtain ⟨y, hy, -⟩ := hitems i x hx hroom
          refine ⟨y, hy, ?_⟩
          split
          · rw [List.getElem?_append_left (List.getElem?_eq_some_iff.mp hy).1, hy]
          · exact hy
        · intro i x hx hroom
          have hlt := (List.getElem?_eq_some_iff.mp hx).1
          refine ⟨.str "[list_truncated]", by simp [notes], ?_⟩
          rw [if_pos (by omega)]
          by_cases hi : i = maxItems
          · rw [List.getElem?_append_right (by omega), hlength, hi]
            simp [show min maxItems xs.length = maxItems by omega]
          · rw [List.getElem?_eq_none (by simp; omega)]
            simp
  | htuple xs _ =>
      intro depth out _ h
      rw [sanitizeRecursive_leaf isLetter depth (by simp) (by simp)] at h
      cases h
      by_cases hdepth : maxDepth < depth
      · rw [if_pos hdepth]
        exact iff_of_true (redacted_note (by simp [notes]) _) (eachVisited_of_lt hdepth _)
      · rw [if_neg hdepth, eachVisited_leaf_iff (by omega) (by simp) (by simp)]
        exact (redacted_self_iff _).trans ⟨fun h _ _ => h, fun h => h xs rfl⟩
  | hdict kvs ih =>
      intro depth out hdistinct h
      rw [Datum.distinct, Bool.and_eq_true, decide_eq_true_iff] at hdistinct
      by_cases hdepth : maxDepth < depth
      · rw [sanitizeRecursive, if_pos hdepth] at h
        cases h
        exact iff_of_true (redacted_note (by simp [notes]) _) (eachVisited_of_lt hdepth _)
      · rw [sanitizeRecursive, if_neg hdepth, Option.map_eq_some_iff] at h
        obtain ⟨fs, hfs, rfl⟩ := h
        have htuple : TupleShowsMarks (.dict kvs) := fun _ heq => by cases heq
        rw [eachVisited_dict_iff (by omega), and_iff_right htuple]
        exact redacted_fields_iff isLetter hdistinct.1 hfs fun kv hmem y hy =>
          ih kv hmem (Datum.distinct_of_mem_fields hdistinct.2 hmem) hy
  | hleaf value hlist htuple hdict =>
      intro depth out _ _
      refine iff_of_true (redacted_leaf hlist htuple hdict out) ?_
      intro depth' y hvisits _ xs hy
      cases hvisits with
      | here => exact absurd hy (htuple xs)
      | field => exact absurd rfl (hdict _)
      | item => exact absurd rfl (hlist _)

lemma keys_sanitizeFields {depth : ℕ} {kvs fs : List (Key × Datum)}
    (h : sanitizeFields isLetter depth kvs = some fs) : Dict.keys fs = Dict.keys kvs := by
  induction kvs generalizing fs with
  | nil =>
      simp only [sanitizeFields, Option.some.injEq] at h
      subst h
      rfl
  | cons kv kvs ih =>
      obtain ⟨k, v⟩ := kv
      cases k with
      | other type text => simp [sanitizeFields] at h
      | str key =>
          rw [sanitizeFields] at h
          split at h
          · rename_i w rest _ hrest
            cases h
            simpa [Dict.keys] using ih hrest
          · cases h

end Evidence

end Samaktha
