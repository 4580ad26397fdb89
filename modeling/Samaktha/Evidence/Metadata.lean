import Samaktha.Foundation.Value
import Samaktha.Foundation.JsonText

/-!
# Metadata values

What the metadata of an evidence event can hold, with the text `json.dumps` gives to it under
`ensure_ascii=False` and the length of that text in UTF-8.  A place in a value is a path of
dictionary keys and item numbers.

The size of the text of a dictionary is a sum over its fields (`size_dict`).
-/

namespace Samaktha

/-- A value in metadata.  Of a `bytes` or `bytearray` object only the length is read, and of any
other object whether `deepcopy` copies it. -/
inductive Datum where
  | none
  | bool (b : Bool)
  | int (n : ℤ)
  | float (repr : String)
  | str (s : String)
  | bytes (length : ℕ)
  | list (xs : List Datum)
  | tuple (xs : List Datum)
  | dict (kvs : List (Key × Datum))
  | other (copies : Bool)
  deriving Repr, Inhabited

/-- A step from a value to one it holds. -/
inductive Place where
  | key (k : Key)
  | item (i : ℕ)
  deriving Repr, DecidableEq

namespace Datum

/-- Induction over a value: what holds of all that a value holds is shown of the value. -/
theorem nested_induction {P : Datum → Prop} (hlist : ∀ xs, (∀ x ∈ xs, P x) → P (list xs))
    (htuple : ∀ xs, (∀ x ∈ xs, P x) → P (tuple xs))
    (hdict : ∀ kvs : List (Key × Datum), (∀ kv ∈ kvs, P kv.2) → P (dict kvs))
    (hleaf : ∀ v, (∀ xs, v ≠ list xs) → (∀ xs, v ≠ tuple xs) → (∀ kvs, v ≠ dict kvs) → P v) :
    ∀ v, P v
  | list xs => hlist xs fun x _ => nested_induction hlist htuple hdict hleaf x
  | tuple xs => htuple xs fun x _ => nested_induction hlist htuple hdict hleaf x
  | dict kvs => hdict kvs fun kv _ => nested_induction hlist htuple hdict hleaf kv.2
  | none => hleaf _ (by simp) (by simp) (by simp)
  | bool _ => hleaf _ (by simp) (by simp) (by simp)
  | int _ => hleaf _ (by simp) (by simp) (by simp)
  | float _ => hleaf _ (by simp) (by simp) (by simp)
  | str _ => hleaf _ (by simp) (by simp) (by simp)
  | bytes _ => hleaf _ (by simp) (by simp) (by simp)
  | other _ => hleaf _ (by simp) (by simp) (by simp)
  termination_by v => sizeOf v
  decreasing_by
    all_goals rename_i hmem
    · have hlt := List.sizeOf_lt_of_mem hmem
      simp only [list.sizeOf_spec]
      omega
    · have hlt := List.sizeOf_lt_of_mem hmem
      simp only [tuple.sizeOf_spec]
      omega
    · have hlt := List.sizeOf_lt_of_mem hmem
      have hpair : sizeOf kv = 1 + sizeOf kv.1 + sizeOf kv.2 := by cases kv; rfl
      simp only [dict.sizeOf_spec]
      omega

/-- `bool(value)`; of an object that is none of these it is not read. -/
def truthy : Datum → Bool
  | none => false
  | bool b => b
  | int n => n ≠ 0
  | float r => r ≠ "0.0" && r ≠ "-0.0"
  | str s => s ≠ ""
  | bytes length => length ≠ 0
  | list xs => !xs.isEmpty
  | tuple xs => !xs.isEmpty
  | dict kvs => !kvs.isEmpty
  | other _ => true

/-! ## Copies and keys -/

mutual

/-- Whether `deepcopy` copies the value. -/
def copies : Datum → Bool
  | list xs => itemsCopy xs
  | tuple xs => itemsCopy xs
  | dict kvs => fieldsCopy kvs
  | other copies => copies
  | _ => true

/-- `copies` of the items of a list. -/
def itemsCopy : List Datum → Bool
  | [] => true
  | x :: xs => x.copies && itemsCopy xs

/-- `copies` of the values of a dictionary. -/
def fieldsCopy : List (Key × Datum) → Bool
  | [] => true
  | (_, v) :: kvs => v.copies && fieldsCopy kvs

end

mutual

/-- Every dictionary in the value has each of its keys once. -/
def distinct : Datum → Bool
  | list xs => itemsDistinct xs
  | tuple xs => itemsDistinct xs
  | dict kvs => decide (kvs.map Prod.fst).Nodup && fieldsDistinct kvs
  | _ => true

def itemsDistinct : List Datum → Bool
  | [] => true
  | x :: xs => x.distinct && itemsDistinct xs

/-- `distinct` of the values of a dictionary. -/
def fieldsDistinct : List (Key × Datum) → Bool
  | [] => true
  | (_, v) :: kvs => v.distinct && fieldsDistinct kvs

end

lemma distinct_of_mem_items {xs : List Datum} (h : itemsDistinct xs = true) {x : Datum}
    (hmem : x ∈ xs) : x.distinct = true := by
  induction xs with
  | nil => cases hmem
  | cons y ys ih =>
      rw [itemsDistinct, Bool.and_eq_true] at h
      rcases List.mem_cons.mp hmem with rfl | hmem
      · exact h.1
      · exact ih h.2 hmem

lemma distinct_of_mem_fields {kvs : List (Key × Datum)} (h : fieldsDistinct kvs = true)
    {kv : Key × Datum} (hmem : kv ∈ kvs) : kv.2.distinct = true := by
  induction kvs with
  | nil => cases hmem
  | cons lw lws ih =>
      rw [fieldsDistinct, Bool.and_eq_true] at h
      rcases List.mem_cons.mp hmem with rfl | hmem
      · exact h.1
      · exact ih h.2 hmem

/-! ## Places -/

/-- The value at a place. -/
def at? : Datum → List Place → Option Datum
  | v, [] => some v
  | dict kvs, .key k :: path => (Dict.get? kvs k).bind fun v => at? v path
  | list xs, .item i :: path => xs[i]?.bind fun v => at? v path
  | tuple xs, .item i :: path => xs[i]?.bind fun v => at? v path
  | _, _ :: _ => Option.none

/-- What a reader of the value finds at a place: the value there; a text stands for everything
that could be below it, and the last item of a list for the items the list has no more. -/
def shown : Datum → List Place → Option Datum
  | v, [] => some v
  | dict kvs, .key k :: path => (Dict.get? kvs k).bind fun v => shown v path
  | list xs, .item i :: path => (xs[i]?.or xs.getLast?).bind fun v => shown v path
  | tuple xs, .item i :: path => xs[i]?.bind fun v => shown v path
  | str s, _ :: _ => some (str s)
  | _, _ :: _ => Option.none

lemma shown_of_at {v x : Datum} {path : List Place} (h : v.at? path = some x) :
    v.shown path = some x := by
  induction path generalizing v with
  | nil => simpa [at?, shown] using h
  | cons place path ih =>
      cases v with
      | dict kvs =>
          cases place with
          | key k =>
              simp only [at?, Option.bind_eq_some_iff] at h
              obtain ⟨w, hget, hrest⟩ := h
              simp [shown, hget, ih hrest]
          | item i => simp [at?] at h
      | list xs =>
          cases place with
          | key k => simp [at?] at h
          | item i =>
              simp only [at?, Option.bind_eq_some_iff] at h
              obtain ⟨w, hget, hrest⟩ := h
              simp [shown, hget, ih hrest]
      | tuple xs =>
          cases place with
          | key k => simp [at?] at h
          | item i =>
              simp only [at?, Option.bind_eq_some_iff] at h
              obtain ⟨w, hget, hrest⟩ := h
              simp [shown, hget, ih hrest]
      | _ => simp [at?] at h

/-! ## The JSON text -/

/-- A character in a string, as `ensure_ascii=False` writes it. -/
def escape (c : Char) : List Char :=
  match Json.shortEscapes.find? fun e => e.1 = c with
  | some e => ['\\', e.2]
  | Option.none => if c.toNat < 0x20 then Json.unicodeEscape c.toNat else [c]

def quote (s : String) : List Char := '"' :: (s.toList.flatMap escape ++ ['"'])

/-- The text of a key; keys that are no strings are written as the strings of their values. -/
def keyText : Key → List Char
  | .str s => quote s
  | .other type text =>
      if type = "bool" then quote (if text = "True" then "true" else "false")
      else if type = "NoneType" then quote "null"
      else if type = "float" then '"' :: (Json.floatText text ++ ['"'])
      else quote text

/-- The decimal digits an integer may have for `repr` to write it. -/
def maxDigits : ℕ := 4300

/-- Whether `json.dumps` writes a key. -/
def encodableKey : Key → Bool
  | .str _ => true
  | .other type text =>
      type ∈ ["bool", "NoneType", "float"] ||
        (type = "int" && (text.toList.filter Char.isDigit).length ≤ maxDigits)

mutual

/-- Whether `json.dumps` writes the value. -/
def encodable : Datum → Bool
  | int n => (Nat.repr n.natAbs).length ≤ maxDigits
  | list xs => itemsEncodable xs
  | tuple xs => itemsEncodable xs
  | dict kvs => fieldsEncodable kvs
  | bytes _ => false
  | other _ => false
  | _ => true

def itemsEncodable : List Datum → Bool
  | [] => true
  | x :: xs => x.encodable && itemsEncodable xs

def fieldsEncodable : List (Key × Datum) → Bool
  | [] => true
  | (k, v) :: kvs => encodableKey k && v.encodable && fieldsEncodable kvs

end

mutual

/-- `json.dumps(value, ensure_ascii=False)`, of a value that is `encodable`. -/
def dumps : Datum → List Char
  | none => "null".toList
  | bool b => (if b then "true" else "false").toList
  | int n => Json.intText n
  | float r => Json.floatText r
  | str s => quote s
  | list [] => "[]".toList
  | list (x :: xs) => '[' :: (dumps x ++ dumpsItems xs)
  | tuple [] => "[]".toList
  | tuple (x :: xs) => '[' :: (dumps x ++ dumpsItems xs)
  | dict [] => "\x7b\x7d".toList
  | dict ((k, v) :: kvs) => '\x7b' :: (keyText k ++ (':' :: ' ' :: (dumps v ++ dumpsFields kvs)))
  | bytes _ => []
  | other _ => []

/-- The further items of an array, and its end. -/
def dumpsItems : List Datum → List Char
  | [] => [']']
  | x :: xs => ',' :: ' ' :: (dumps x ++ dumpsItems xs)

/-- The further fields of an object, and its end. -/
def dumpsFields : List (Key × Datum) → List Char
  | [] => ['\x7d']
  | (k, v) :: kvs => ',' :: ' ' :: (keyText k ++ (':' :: ' ' :: (dumps v ++ dumpsFields kvs)))

end

/-! ## The size of the text -/

/-- The length of a text in UTF-8. -/
def utf8Length (cs : List Char) : ℕ := (cs.map Char.utf8Size).sum

@[simp] lemma utf8Length_nil : utf8Length [] = 0 := rfl

@[simp] lemma utf8Length_cons (c : Char) (cs : List Char) :
    utf8Length (c :: cs) = c.utf8Size + utf8Length cs := by
  simp [utf8Length]

@[simp] lemma utf8Length_append (cs ds : List Char) :
    utf8Length (cs ++ ds) = utf8Length cs + utf8Length ds := by
  simp [utf8Length]

/-- The bytes of the JSON text of a value. -/
def size (v : Datum) : ℕ := utf8Length v.dumps

/-- What a field adds to the size of a dictionary: its key, its value, the colon and a separator,
the braces counting as the separator of the first field. -/
def fieldSize (kv : Key × Datum) : ℕ := utf8Length (keyText kv.1) + kv.2.size + 4

lemma utf8Length_dumpsFields (kvs : List (Key × Datum)) :
    utf8Length (dumpsFields kvs) = (kvs.map fieldSize).sum + 1 := by
  induction kvs with
  | nil => rfl
  | cons kv kvs ih =>
      obtain ⟨k, v⟩ := kv
      have hcolon : Char.utf8Size ':' = 1 := rfl
      have hcomma : Char.utf8Size ',' = 1 := rfl
      have hspace : Char.utf8Size ' ' = 1 := rfl
      simp only [dumpsFields, utf8Length_cons, utf8Length_append, ih, List.map_cons,
        List.sum_cons, fieldSize, size, hcolon, hcomma, hspace]
      omega

lemma size_dict {kvs : List (Key × Datum)} (h : kvs ≠ []) :
    (dict kvs).size = (kvs.map fieldSize).sum := by
  cases kvs with
  | nil => exact absurd rfl h
  | cons kv kvs =>
      obtain ⟨k, v⟩ := kv
      have hbrace : Char.utf8Size '\x7b' = 1 := rfl
      have hcolon : Char.utf8Size ':' = 1 := rfl
      have hspace : Char.utf8Size ' ' = 1 := rfl
      simp only [size, dumps, utf8Length_cons, utf8Length_append, utf8Length_dumpsFields,
        List.map_cons, List.sum_cons, fieldSize, hbrace, hcolon, hspace]
      omega

end Datum

end Samaktha
