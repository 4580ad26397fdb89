import Samaktha.Foundation.Dict
import Mathlib.Data.String.Basic

/-!
# JSON values

The values `json.loads` can return, with objects as insertion-ordered dictionaries.  Two
objects that differ only in the order of their keys are different values here and equal
dictionaries in Python; `Json.sortKeys`, the effect of `json.dumps(..., sort_keys=True)`
followed by a read, is the normal form that forgets the order.

A float is carried by the text `repr` gives it, so that no arithmetic on floats is implied.
-/

namespace Samaktha

/-- A JSON value as Python holds it. -/
inductive Json where
  | null
  | bool (b : Bool)
  | int (n : ℤ)
  | float (repr : String)
  | str (s : String)
  | arr (xs : List Json)
  | obj (kvs : List (String × Json))
  deriving Repr, Inhabited

namespace Json

/-- `payload.get(key)` for an object, `none` for a missing key and for any other value. -/
def get? : Json → String → Option Json
  | obj kvs, key => Dict.get? kvs key
  | _, _ => none

/-- `payload[key] = value` on an object. -/
def set : Json → String → Json → Json
  | obj kvs, key, value => obj (Dict.set kvs key value)
  | j, _, _ => j

/-- The value without a key, as `dict.pop` leaves it. -/
def erase : Json → String → Json
  | obj kvs, key => obj (Dict.erase kvs key)
  | j, _ => j

/-- Whether the value is an object. -/
def isObj : Json → Bool
  | obj _ => true
  | _ => false

/-- The text of a string value. -/
def str? : Json → Option String
  | str s => some s
  | _ => none

/-- Python's `==` between a JSON value and an integer: `True` is `1` and `1.0` is `1`. -/
def eqInt : Json → ℤ → Bool
  | int m, n => m = n
  | bool b, n => (if b then 1 else 0) = n
  | float r, n => r = toString n ++ ".0"
  | _, _ => false

/-- `bool(value)`. -/
def truthy : Json → Bool
  | null => false
  | bool b => b
  | int n => n ≠ 0
  | float r => r ≠ "0.0" && r ≠ "-0.0"
  | str s => s ≠ ""
  | arr xs => !xs.isEmpty
  | obj kvs => !kvs.isEmpty

/-- `str(value)`; `ofContainer` is `str` of a list or a dictionary. -/
def text (ofContainer : Json → String) : Json → String
  | null => "None"
  | bool b => if b then "True" else "False"
  | int n => toString n
  | float r => r
  | str s => s
  | arr xs => ofContainer (arr xs)
  | obj kvs => ofContainer (obj kvs)

@[simp] lemma get?_obj (kvs : List (String × Json)) (key : String) :
    (obj kvs).get? key = Dict.get? kvs key := rfl

@[simp] lemma eqInt_int (m n : ℤ) : (int m).eqInt n = decide (m = n) := rfl

/-! ## Sorted keys -/

mutual

/-- The value with the keys of every object in increasing order. -/
def sortKeys : Json → Json
  | obj kvs => obj (Dict.sortByKey (sortKeysFields kvs))
  | arr xs => arr (sortKeysList xs)
  | j => j

/-- `sortKeys` on the values of an object. -/
def sortKeysFields : List (String × Json) → List (String × Json)
  | [] => []
  | (k, v) :: kvs => (k, v.sortKeys) :: sortKeysFields kvs

/-- `sortKeys` on the items of an array. -/
def sortKeysList : List Json → List Json
  | [] => []
  | x :: xs => x.sortKeys :: sortKeysList xs

end

lemma sortKeysFields_eq_map (kvs : List (String × Json)) :
    sortKeysFields kvs = kvs.map fun kv => (kv.1, kv.2.sortKeys) := by
  induction kvs with
  | nil => rfl
  | cons kv kvs ih => simp [sortKeysFields, ih]

lemma sortKeysList_eq_map (xs : List Json) : sortKeysList xs = xs.map sortKeys := by
  induction xs with
  | nil => rfl
  | cons x xs ih => simp [sortKeysList, ih]

lemma sortKeys_obj (kvs : List (String × Json)) :
    (obj kvs).sortKeys = obj (Dict.sortByKey (kvs.map fun kv => (kv.1, kv.2.sortKeys))) := by
  rw [sortKeys, sortKeysFields_eq_map]

lemma sortKeys_arr (xs : List Json) : (arr xs).sortKeys = arr (xs.map sortKeys) := by
  rw [sortKeys, sortKeysList_eq_map]

@[simp] lemma sortKeys_null : null.sortKeys = null := by rw [sortKeys]; all_goals simp

@[simp] lemma sortKeys_bool (b : Bool) : (bool b).sortKeys = bool b := by
  rw [sortKeys]; all_goals simp

@[simp] lemma sortKeys_int (n : ℤ) : (int n).sortKeys = int n := by rw [sortKeys]; all_goals simp

@[simp] lemma sortKeys_float (r : String) : (float r).sortKeys = float r := by
  rw [sortKeys]; all_goals simp

@[simp] lemma sortKeys_str (s : String) : (str s).sortKeys = str s := by
  rw [sortKeys]; all_goals simp

lemma sortKeys_obj_of_fixed {kvs : List (String × Json)}
    (h : ∀ kv ∈ kvs, kv.2.sortKeys = kv.2) :
    (obj kvs).sortKeys = obj (Dict.sortByKey kvs) := by
  rw [sortKeys_obj]
  congr 2
  conv_rhs => rw [← List.map_id kvs]
  exact List.map_congr_left fun kv hkv => Prod.ext rfl (h kv hkv)

mutual

theorem sortKeys_sortKeys : ∀ j : Json, j.sortKeys.sortKeys = j.sortKeys
  | null => by simp
  | bool b => by simp
  | int n => by simp
  | float r => by simp
  | str s => by simp
  | arr xs => by
      rw [sortKeys, sortKeys_arr]
      congr 1
      conv_rhs => rw [← List.map_id (sortKeysList xs)]
      exact List.map_congr_left (sortKeysList_fixed xs)
  | obj kvs => by
      rw [sortKeys, sortKeys_obj_of_fixed fun kv hkv =>
        sortKeysFields_fixed kvs kv ((Dict.sortByKey_perm _).mem_iff.mp hkv)]
      rw [Dict.sortByKey_eq_self (Dict.pairwise_sortByKey _)]

/-- The values `sortKeysFields` writes are sorted. -/
theorem sortKeysFields_fixed : ∀ kvs : List (String × Json), ∀ kv ∈ sortKeysFields kvs,
    kv.2.sortKeys = kv.2
  | [], kv, h => by simp [sortKeysFields] at h
  | (k, v) :: kvs, kv, h => by
      rcases List.mem_cons.mp h with rfl | h
      · exact sortKeys_sortKeys v
      · exact sortKeysFields_fixed kvs kv h

/-- The items `sortKeysList` writes are sorted. -/
theorem sortKeysList_fixed : ∀ xs : List Json, ∀ x ∈ sortKeysList xs, x.sortKeys = x
  | [], x, h => by simp [sortKeysList] at h
  | y :: ys, x, h => by
      rcases List.mem_cons.mp h with rfl | h
      · exact sortKeys_sortKeys y
      · exact sortKeysList_fixed ys x h

end

lemma get?_sortKeys {kvs : List (String × Json)} (hd : Dict.NodupKeys kvs) (key : String) :
    (obj kvs).sortKeys.get? key = (Dict.get? kvs key).map sortKeys := by
  have hmap : Dict.NodupKeys (kvs.map fun kv => (kv.1, kv.2.sortKeys)) := by
    have hkeys : Dict.keys (kvs.map fun kv => (kv.1, kv.2.sortKeys)) = Dict.keys kvs := by
      simp [Dict.keys, Function.comp_def]
    rw [Dict.NodupKeys, hkeys]
    exact hd
  rw [sortKeys_obj, get?_obj]
  cases hget : Dict.get? kvs key with
  | none =>
      rw [Option.map_none, Dict.get?_eq_none_iff, (Dict.keys_sortByKey_perm _).mem_iff]
      have hkey := Dict.get?_eq_none_iff.mp hget
      simpa [Dict.keys] using hkey
  | some v =>
      refine Dict.get?_of_mem hmap.sortByKey ?_
      rw [(Dict.sortByKey_perm _).mem_iff]
      exact List.mem_map.mpr ⟨(key, v), Dict.mem_of_get? hget, rfl⟩

lemma sortKeys_obj_eq (kvs : List (String × Json)) :
    (obj kvs).sortKeys = obj (Dict.sortByKey (Dict.mapValues sortKeys kvs)) := sortKeys_obj kvs

lemma sortKeys_eq_of_perm {kvs lws : List (String × Json)} (hd : Dict.NodupKeys kvs)
    (h : kvs.Perm lws) : (obj kvs).sortKeys = (obj lws).sortKeys := by
  rw [sortKeys_obj_eq, sortKeys_obj_eq]
  have hperm : (Dict.mapValues sortKeys kvs).Perm (Dict.mapValues sortKeys lws) :=
    h.map fun kv : String × Json => (kv.1, sortKeys kv.2)
  rw [Dict.sortByKey_eq_of_perm (Dict.NodupKeys.mapValues sortKeys hd) hperm]

lemma perm_of_sortKeys_eq {kvs lws : List (String × Json)}
    (h : (obj kvs).sortKeys = (obj lws).sortKeys) :
    (Dict.mapValues sortKeys kvs).Perm (Dict.mapValues sortKeys lws) := by
  rw [sortKeys_obj_eq, sortKeys_obj_eq] at h
  have hsorted := (Dict.sortByKey_perm (Dict.mapValues sortKeys kvs)).symm
  rw [Json.obj.inj h] at hsorted
  exact hsorted.trans (Dict.sortByKey_perm _)

lemma sortKeys_mapValues_sortKeys (kvs : List (String × Json)) :
    (obj (Dict.mapValues sortKeys kvs)).sortKeys = (obj kvs).sortKeys := by
  rw [sortKeys_obj_eq, sortKeys_obj_eq]
  congr 2
  unfold Dict.mapValues
  rw [List.map_map]
  exact List.map_congr_left fun kv _ => Prod.ext rfl (sortKeys_sortKeys kv.2)

lemma sortKeys_erase_sortKeys {kvs : List (String × Json)} (hd : Dict.NodupKeys kvs)
    (key : String) : ((obj kvs).sortKeys.erase key).sortKeys = ((obj kvs).erase key).sortKeys := by
  have hmapped := Dict.NodupKeys.mapValues sortKeys hd
  have hperm : (Dict.erase (Dict.sortByKey (Dict.mapValues sortKeys kvs)) key).Perm
      (Dict.mapValues sortKeys (Dict.erase kvs key)) := by
    refine ((Dict.sortByKey_perm _).filter _).trans ?_
    unfold Dict.mapValues
    rw [List.filter_map]
    exact List.Perm.refl _
  have hsorted : (Dict.sortByKey (Dict.mapValues sortKeys kvs)).NodupKeys := hmapped.sortByKey
  rw [sortKeys_obj_eq kvs]
  exact (sortKeys_eq_of_perm (hsorted.erase key) hperm).trans (sortKeys_mapValues_sortKeys _)

/-- Objects that have one value under a key, and one sorted form without it, have one sorted
form. -/
lemma sortKeys_eq_of_erase {kvs lws : List (String × Json)} (hd : Dict.NodupKeys kvs)
    (he : Dict.NodupKeys lws) {key : String} {value : Json} (hkvs : Dict.get? kvs key = some value)
    (hlws : Dict.get? lws key = some value)
    (h : ((obj kvs).erase key).sortKeys = ((obj lws).erase key).sortKeys) :
    (obj kvs).sortKeys = (obj lws).sortKeys := by
  have hfirst := Dict.perm_cons_erase hd hkvs
  have hsecond := Dict.perm_cons_erase he hlws
  have hrest := perm_of_sortKeys_eq h
  rw [sortKeys_eq_of_perm hd hfirst, sortKeys_eq_of_perm he hsecond,
    ← sortKeys_mapValues_sortKeys, ← sortKeys_mapValues_sortKeys ((key, value) :: _)]
  refine sortKeys_eq_of_perm (Dict.NodupKeys.mapValues sortKeys ?_) ?_
  · exact (hfirst.map Prod.fst).nodup_iff.mp hd
  · exact hrest.cons (key, value.sortKeys)

/-! ## A text that determines the value -/

/-- A text with its length before it. -/
def framed (s : String) : List Char := List.replicate s.toList.length '1' ++ '.' :: s.toList

mutual

/-- A text of the value from which it can be read back: every text stands behind its length,
and every array and object ends with a mark of its own. -/
def code : Json → List Char
  | null => ['n']
  | bool true => ['t']
  | bool false => ['f']
  | int n => 'i' :: (if n < 0 then '-' else '+') :: (List.replicate n.natAbs '1' ++ ['.'])
  | float r => 'r' :: framed r
  | str s => 's' :: framed s
  | arr xs => 'a' :: listCode xs
  | obj kvs => 'o' :: itemsCode kvs

/-- `code` of the items of an array. -/
def listCode : List Json → List Char
  | [] => ['z']
  | x :: xs => ',' :: (x.code ++ listCode xs)

def itemsCode : List (String × Json) → List Char
  | [] => ['z']
  | (k, v) :: kvs => ',' :: (framed k ++ (v.code ++ itemsCode kvs))

end

lemma replicate_append_inj {m n : ℕ} {r r' : List Char}
    (h : List.replicate m '1' ++ '.' :: r = List.replicate n '1' ++ '.' :: r') :
    m = n ∧ r = r' := by
  induction m generalizing n with
  | zero =>
      cases n with
      | zero => exact ⟨rfl, by simpa using h⟩
      | succ n => simp [List.replicate_succ] at h
  | succ m ih =>
      cases n with
      | zero => simp [List.replicate_succ] at h
      | succ n =>
          simp only [List.replicate_succ, List.cons_append, List.cons.injEq, true_and] at h
          obtain ⟨hmn, hr⟩ := ih h
          exact ⟨congrArg (· + 1) hmn, hr⟩

lemma framed_append_inj {s t : String} {r r' : List Char}
    (h : framed s ++ r = framed t ++ r') : s = t ∧ r = r' := by
  simp only [framed, List.append_assoc, List.cons_append] at h
  obtain ⟨hlen, hrest⟩ := replicate_append_inj h
  obtain ⟨hchars, hr⟩ := List.append_inj hrest hlen
  exact ⟨String.toList_inj.mp hchars, hr⟩

mutual

/-- Two texts that continue to one text are of one value. -/
theorem code_append_inj : ∀ (x y : Json) {r r' : List Char},
    x.code ++ r = y.code ++ r' → x = y ∧ r = r'
  | null, y, r, r', h => by
      rcases y with _ | (_ | _) | n | t | s | xs | kvs <;> simp [code] at h ⊢
      exact h
  | bool b, y, r, r', h => by
      rcases b with _ | _ <;> rcases y with _ | (_ | _) | n | t | s | xs | kvs <;>
        simp [code] at h ⊢ <;> exact h
  | int m, y, r, r', h => by
      rcases y with _ | (_ | _) | n | t | s | xs | kvs <;> simp [code] at h
      obtain ⟨hsign, hrest⟩ := h
      obtain ⟨habs, hr⟩ := replicate_append_inj hrest
      refine ⟨?_, hr⟩
      have hiff : m < 0 ↔ n < 0 := by
        by_cases hm : m < 0 <;> by_cases hn : n < 0 <;> simp [hm, hn] at hsign ⊢
      rw [int.injEq]
      omega
  | float s, y, r, r', h => by
      rcases y with _ | (_ | _) | n | t | t | xs | kvs <;> simp [code] at h
      obtain ⟨rfl, hr⟩ := framed_append_inj h
      exact ⟨rfl, hr⟩
  | str s, y, r, r', h => by
      rcases y with _ | (_ | _) | n | t | t | xs | kvs <;> simp [code] at h
      obtain ⟨rfl, hr⟩ := framed_append_inj h
      exact ⟨rfl, hr⟩
  | arr xs, y, r, r', h => by
      rcases y with _ | (_ | _) | n | t | t | ys | kvs <;> simp [code] at h
      obtain ⟨rfl, hr⟩ := listCode_append_inj xs ys h
      exact ⟨rfl, hr⟩
  | obj kvs, y, r, r', h => by
      rcases y with _ | (_ | _) | n | t | t | ys | lws <;> simp [code] at h
      obtain ⟨rfl, hr⟩ := itemsCode_append_inj kvs lws h
      exact ⟨rfl, hr⟩

theorem listCode_append_inj : ∀ (xs ys : List Json) {r r' : List Char},
    listCode xs ++ r = listCode ys ++ r' → xs = ys ∧ r = r'
  | [], [], r, r', h => ⟨rfl, by simpa [listCode] using h⟩
  | [], y :: ys, r, r', h => by simp [listCode] at h
  | x :: xs, [], r, r', h => by simp [listCode] at h
  | x :: xs, y :: ys, r, r', h => by
      simp only [listCode, List.cons_append, List.append_assoc, List.cons.injEq, true_and] at h
      obtain ⟨rfl, hrest⟩ := code_append_inj x y h
      obtain ⟨rfl, hr⟩ := listCode_append_inj xs ys hrest
      exact ⟨rfl, hr⟩

theorem itemsCode_append_inj : ∀ (xs ys : List (String × Json)) {r r' : List Char},
    itemsCode xs ++ r = itemsCode ys ++ r' → xs = ys ∧ r = r'
  | [], [], r, r', h => ⟨rfl, by simpa [itemsCode] using h⟩
  | [], (l, y) :: ys, r, r', h => by simp [itemsCode] at h
  | (k, x) :: xs, [], r, r', h => by simp [itemsCode] at h
  | (k, x) :: xs, (l, y) :: ys, r, r', h => by
      simp only [itemsCode, List.cons_append, List.append_assoc, List.cons.injEq, true_and] at h
      obtain ⟨rfl, hvalue⟩ := framed_append_inj h
      obtain ⟨rfl, hrest⟩ := code_append_inj x y hvalue
      obtain ⟨rfl, hr⟩ := itemsCode_append_inj xs ys hrest
      exact ⟨rfl, hr⟩

end

/-- The text of a value determines it. -/
theorem text_code_injective : Function.Injective fun j : Json => String.ofList j.code := by
  intro x y h
  have hcode : x.code = y.code := by simpa using congrArg String.toList h
  have happend : x.code ++ [] = y.code ++ [] := by rw [hcode]
  exact (code_append_inj x y happend).1

end Json

end Samaktha
