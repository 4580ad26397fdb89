import Samaktha.Foundation.Json
import Samaktha.Foundation.Text
import Mathlib.Data.Nat.Digits.Defs

/-!
# Models read from JSON objects

A model is read field by field from a dictionary: each field has a check, which may change the
value, and perhaps a default.  A dictionary that some field refuses is refused, with the names of
all such fields; dropping these names and reading again succeeds where none of them needs a value
(`construct_eq_ok_iff`, `value_eraseAll`).

`int(value)` is here too, for what `json.loads` gives.
-/

namespace Samaktha

/-! ## Integers -/

/-- The exceptions of `int(value)`. -/
inductive IntError where
  | typeError
  | valueError
  | overflowError
  deriving Repr, DecidableEq, Inhabited

namespace Json

/-- A number written with decimal digits. -/
def ofDigitChars (cs : List Char) : ℕ := Nat.ofDigits 10 (cs.map fun c => c.toNat - 48).reverse

/-- A sign, where there is one, and what follows it. -/
def splitSign : List Char → Bool × List Char
  | '-' :: cs => (true, cs)
  | '+' :: cs => (false, cs)
  | cs => (false, cs)

def signed (negative : Bool) (n : ℕ) : ℤ := if negative then -n else n

/-- `int(text)`: digits in any script, with single underscores between them, and at most 4300. -/
def intOfText (digit : Char → Option ℕ) (text : String) : Except IntError ℤ :=
  let (negative, body) := splitSign (Text.strip text).toList
  let groups := body.splitOn '_'
  match groups.flatten.mapM digit with
  | some digits =>
      if groups.any List.isEmpty || 4300 < digits.length then .error .valueError
      else .ok (signed negative (Nat.ofDigits 10 digits.reverse))
  | none => .error .valueError

/-- `int(x)` of the float that `repr` writes so, its digits cut off at the point. -/
def intOfFloat (repr : String) : Except IntError ℤ :=
  if repr = "nan" then .error .valueError
  else if repr = "inf" || repr = "-inf" then .error .overflowError
  else
    let (negative, body) := splitSign repr.toList
    let mantissa := body.takeWhile (· ≠ 'e')
    let (below, exponent) := splitSign (body.drop (mantissa.length + 1))
    let whole := mantissa.takeWhile (· ≠ '.')
    let fraction := mantissa.drop (whole.length + 1)
    let digits := ofDigitChars (whole ++ fraction)
    let shift := signed below (ofDigitChars exponent) - fraction.length
    .ok (signed negative
      (if 0 ≤ shift then digits * 10 ^ shift.toNat else digits / 10 ^ (-shift).toNat))

def toInt (digit : Char → Option ℕ) : Json → Except IntError ℤ
  | bool b => .ok (if b then 1 else 0)
  | int n => .ok n
  | float repr => intOfFloat repr
  | str text => intOfText digit text
  | null => .error .typeError
  | arr _ => .error .typeError
  | obj _ => .error .typeError

/-- Only an infinite float is too large. -/
lemma toInt_eq_overflow_iff (digit : Char → Option ℕ) (value : Json) :
    toInt digit value = .error .overflowError ↔ value = .float "inf" ∨ value = .float "-inf" := by
  cases value with
  | float repr =>
      simp only [toInt, intOfFloat, Json.float.injEq]
      split
      · rename_i hnan
        subst hnan
        exact iff_of_false (fun h => by cases h) (by decide)
      · split
        · rename_i hinf
          rw [Bool.or_eq_true, decide_eq_true_eq, decide_eq_true_eq] at hinf
          exact iff_of_true rfl hinf
        · rename_i hinf
          rw [Bool.or_eq_true, decide_eq_true_eq, decide_eq_true_eq] at hinf
          exact iff_of_false (fun h => by cases h) hinf
  | str text =>
      simp only [toInt, intOfText]
      refine iff_of_false ?_ (by simp)
      split
      · split
        · exact fun h => by cases h
        · exact fun h => by cases h
      · exact fun h => by cases h
  | null => simp [toInt]
  | bool b => simp [toInt]
  | int n => simp [toInt]
  | arr xs => simp [toInt]
  | obj kvs => simp [toInt]

end Json

/-! ## Fields -/

/-- A field of a model: how a value is checked, and what stands for a missing one. -/
structure ModelField (α : Type*) where
  name : String
  check : α → Option α
  default : Option α := none

namespace ModelField

variable {α : Type*} (fields : List (ModelField α)) (data : Dict String α)

/-- The value that a field takes from a dictionary, if it is valid. -/
def value (field : ModelField α) (data : Dict String α) : Option α :=
  match Dict.get? data field.name with
  | some x => field.check x
  | none => field.default

/-- The names of the fields that are missing or not valid. -/
def invalidNames : List String :=
  (fields.filter fun field => (field.value data).isNone).map ModelField.name

/-- The fields that have a value, with it. -/
def build : Dict String α :=
  fields.filterMap fun field => (field.value data).map fun x => (field.name, x)

/-- `Model(**data)`. -/
def construct : Except (List String) (Dict String α) :=
  if invalidNames fields data = [] then .ok (build fields data)
  else .error (invalidNames fields data)

/-- A dictionary without some keys. -/
def eraseAll (names : List String) (data : Dict String α) : Dict String α :=
  names.foldl Dict.erase data

variable {fields data}

lemma invalidNames_eq_nil_iff :
    invalidNames fields data = [] ↔ ∀ field ∈ fields, field.value data ≠ none := by
  rw [invalidNames, List.map_eq_nil_iff, List.filter_eq_nil_iff]
  simp

lemma mem_invalidNames_iff (hnames : (fields.map ModelField.name).Nodup) {field : ModelField α}
    (hfield : field ∈ fields) :
    field.name ∈ invalidNames fields data ↔ field.value data = none := by
  rw [invalidNames, List.mem_map]
  constructor
  · rintro ⟨other, hother, hname⟩
    obtain ⟨hmem, hnone⟩ := List.mem_filter.mp hother
    rw [List.inj_on_of_nodup_map hnames hmem hfield hname] at hnone
    simpa using hnone
  · intro hnone
    exact ⟨field, List.mem_filter.mpr ⟨hfield, by simp [hnone]⟩, rfl⟩

/-- A dictionary is read exactly where each field has a value. -/
lemma construct_eq_ok_iff {model : Dict String α} : construct fields data = .ok model ↔
    (∀ field ∈ fields, field.value data ≠ none) ∧ model = build fields data := by
  rw [construct, ← invalidNames_eq_nil_iff]
  by_cases hnone : invalidNames fields data = []
  · rw [if_pos hnone, and_iff_right hnone, Except.ok.injEq, eq_comm]
  · rw [if_neg hnone]
    exact iff_of_false (fun h => by cases h) fun h => hnone h.1

variable (data) in
lemma get?_build (hnames : (fields.map ModelField.name).Nodup) {field : ModelField α}
    (hfield : field ∈ fields) : Dict.get? (build fields data) field.name = field.value data := by
  induction fields with
  | nil => cases hfield
  | cons first rest ih =>
      obtain ⟨hfirst, hrest⟩ := List.nodup_cons.mp hnames
      rw [build, List.filterMap_cons]
      rcases List.mem_cons.mp hfield with rfl | hmem
      · cases hvalue : field.value data with
        | some x => exact if_pos rfl
        | none =>
            refine Dict.get?_eq_none_iff.mpr fun hkey => hfirst ?_
            obtain ⟨kv, hkv, hname⟩ := List.mem_map.mp hkey
            obtain ⟨other, hother, hsome⟩ := List.mem_filterMap.mp hkv
            obtain ⟨x, -, rfl⟩ := Option.map_eq_some_iff.mp hsome
            rw [← show other.name = field.name from hname]
            exact List.mem_map_of_mem hother
      · have hne : first.name ≠ field.name := fun heq => hfirst (heq ▸ List.mem_map_of_mem hmem)
        cases first.value data with
        | some x => exact (if_neg hne).trans (ih hrest hmem)
        | none => exact ih hrest hmem

lemma get?_eraseAll (names : List String) (data : Dict String α) (key : String) :
    Dict.get? (eraseAll names data) key = if key ∈ names then none else Dict.get? data key := by
  induction names generalizing data with
  | nil => simp [eraseAll]
  | cons name names ih =>
      rw [eraseAll, List.foldl_cons, ← eraseAll, ih, Dict.get?_erase]
      by_cases hmem : key ∈ names
      · rw [if_pos hmem, if_pos (List.mem_cons_of_mem _ hmem)]
      · rw [if_neg hmem]
        by_cases hname : name = key
        · rw [if_pos hname, if_pos (hname ▸ List.mem_cons_self)]
        · have hnot : key ∉ name :: names := fun h =>
            (List.mem_cons.mp h).elim (fun heq => hname heq.symm) hmem
          rw [if_neg hname, if_neg hnot]

variable (data) in
lemma value_eraseAll (hnames : (fields.map ModelField.name).Nodup) {field : ModelField α}
    (hfield : field ∈ fields) :
    field.value (eraseAll (invalidNames fields data) data) =
      (field.value data).or field.default := by
  rw [value, get?_eraseAll]
  by_cases hinvalid : field.value data = none
  · rw [if_pos ((mem_invalidNames_iff hnames hfield).mpr hinvalid), hinvalid]
    rfl
  · rw [if_neg fun hmem => hinvalid ((mem_invalidNames_iff hnames hfield).mp hmem)]
    obtain ⟨x, hx⟩ := Option.ne_none_iff_exists'.mp hinvalid
    rw [hx]
    exact hx

lemma check_of_get?_eraseAll (hnames : (fields.map ModelField.name).Nodup) {field : ModelField α}
    (hfield : field ∈ fields) {x : α}
    (hx : Dict.get? (eraseAll (invalidNames fields data) data) field.name = some x) :
    field.check x ≠ none := by
  rw [get?_eraseAll] at hx
  split at hx
  · cases hx
  · rename_i hnot
    have hvalue := mt (mem_invalidNames_iff hnames hfield).mpr hnot
    rw [value, hx] at hvalue
    exact hvalue

end ModelField

end Samaktha
