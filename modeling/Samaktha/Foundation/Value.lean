import Samaktha.Foundation.Json

/-!
# Python values and their JSON form

`Value` is what an argument dictionary of the program can hold: the JSON shapes, tuples,
string enumerations, datetimes, data models (by the dictionary `model_dump` returns) and any
other object, of which only `str(object)` and `bool(object)` can be observed here.  Keys of a
dictionary need not be strings.

`Value.toJsonWithout excluded` is the JSON form of a value with the keys in `excluded` left
out of every dictionary at every depth, and `Json.without excluded` leaves the keys out of a
JSON value.  `Value.toJsonWithout_eq` says that leaving keys out commutes with the passage to
JSON, so what a form without keys forgets is exactly the entries under those keys.
-/

namespace Samaktha

/-- A dictionary key: a string, or another hashable object with its type and its `str`. -/
inductive Key where
  | str (s : String)
  | other (type text : String)
  deriving Repr, DecidableEq, Inhabited

def Key.text : Key → String
  | str s => s
  | other _ text => text

inductive Value where
  | none
  | bool (b : Bool)
  | int (n : ℤ)
  | float (repr : String)
  | str (s : String)
  | list (xs : List Value)
  | tuple (xs : List Value)
  | dict (kvs : List (Key × Value))
  | model (fields : List (Key × Value))
  | enum (value : String)
  | datetime (isoformat : String)
  | other (text : String) (truth : Bool)
  deriving Repr, Inhabited

namespace Value

/-- `bool(value)`. -/
def truthy : Value → Bool
  | none => false
  | bool b => b
  | int n => n ≠ 0
  | float r => r ≠ "0.0" && r ≠ "-0.0"
  | str s => s ≠ ""
  | list xs => !xs.isEmpty
  | tuple xs => !xs.isEmpty
  | dict kvs => !kvs.isEmpty
  | model _ => true
  | enum s => s ≠ ""
  | datetime _ => true
  | other _ truth => truth

/-- The text of a value that is a `str`; a string enumeration is one. -/
def str? : Value → Option String
  | str s => some s
  | enum s => some s
  | _ => Option.none

/-- Whether the value is `None`. -/
def isNone : Value → Bool
  | none => true
  | _ => false

mutual

/-- The JSON form of a value, with the keys in `excluded` left out of every dictionary.  The
items are sorted by the text of their keys; where two keys have one text the later item wins. -/
def toJsonWithout (excluded : List String) : Value → Json
  | none => .null
  | bool b => .bool b
  | int n => .int n
  | float r => .float r
  | str s => .str s
  | list xs => .arr (listToJsonWithout excluded xs)
  | tuple xs => .arr (listToJsonWithout excluded xs)
  | dict kvs => .obj (Dict.ofList (Dict.sortByKey (itemsToJsonWithout excluded kvs)))
  | model kvs => .obj (Dict.ofList (Dict.sortByKey (itemsToJsonWithout excluded kvs)))
  | enum s => .str s
  | datetime t => .str t
  | other text _ => .str text

/-- `toJsonWithout` on the items of a list. -/
def listToJsonWithout (excluded : List String) : List Value → List Json
  | [] => []
  | x :: xs => x.toJsonWithout excluded :: listToJsonWithout excluded xs

/-- `toJsonWithout` on the items of a dictionary that are kept. -/
def itemsToJsonWithout (excluded : List String) : List (Key × Value) → List (String × Json)
  | [] => []
  | (k, v) :: kvs =>
      if k.text ∈ excluded then itemsToJsonWithout excluded kvs
      else (k.text, v.toJsonWithout excluded) :: itemsToJsonWithout excluded kvs

end

/-- The JSON form of a value, nothing left out. -/
def toJson : Value → Json := toJsonWithout []

end Value

namespace Json

mutual

/-- The value with the keys in `excluded` left out of every object. -/
def without (excluded : List String) : Json → Json
  | arr xs => arr (listWithout excluded xs)
  | obj kvs => obj (itemsWithout excluded kvs)
  | j => j

/-- `without` on the items of an array. -/
def listWithout (excluded : List String) : List Json → List Json
  | [] => []
  | x :: xs => x.without excluded :: listWithout excluded xs

def itemsWithout (excluded : List String) : List (String × Json) → List (String × Json)
  | [] => []
  | (k, v) :: kvs =>
      if k ∈ excluded then itemsWithout excluded kvs
      else (k, v.without excluded) :: itemsWithout excluded kvs

end

lemma itemsWithout_eq (excluded : List String) (kvs : List (String × Json)) :
    itemsWithout excluded kvs =
      Dict.filterKeys (fun k => decide (k ∉ excluded))
        (Dict.mapValues (Json.without excluded) kvs) := by
  induction kvs with
  | nil => rfl
  | cons kv kvs ih =>
      obtain ⟨k, v⟩ := kv
      by_cases hk : k ∈ excluded
      · simpa [itemsWithout, hk, Dict.filterKeys, Dict.mapValues] using ih
      · simpa [itemsWithout, hk, Dict.filterKeys, Dict.mapValues] using ih

lemma itemsWithout_ofList_sortByKey (excluded : List String) (items : List (String × Json)) :
    itemsWithout excluded (Dict.ofList (Dict.sortByKey items)) =
      Dict.ofList (Dict.sortByKey (itemsWithout excluded items)) := by
  rw [itemsWithout_eq, itemsWithout_eq, Dict.mapValues_ofList, Dict.mapValues_sortByKey,
    Dict.filterKeys_ofList, Dict.filterKeys_sortByKey]

end Json

namespace Json

mutual

/-- What `without` leaves out, in its place: the entries under the keys in `excluded` are kept
and every other leaf is `null`. -/
def dropped (excluded : List String) : Json → Json
  | arr xs => arr (listDropped excluded xs)
  | obj kvs => obj (itemsDropped excluded kvs)
  | _ => null

/-- `dropped` on the items of an array. -/
def listDropped (excluded : List String) : List Json → List Json
  | [] => []
  | x :: xs => x.dropped excluded :: listDropped excluded xs

def itemsDropped (excluded : List String) : List (String × Json) → List (String × Json)
  | [] => []
  | (k, v) :: kvs =>
      (k, if k ∈ excluded then v else v.dropped excluded) :: itemsDropped excluded kvs

end

mutual

/-- What is kept and what is left out determine the value. -/
theorem eq_of_without_of_dropped (excluded : List String) : ∀ {x y : Json},
    x.without excluded = y.without excluded → x.dropped excluded = y.dropped excluded → x = y
  | arr xs, y, h, hd => by
      cases y with
      | arr ys =>
          simp only [without, dropped, arr.injEq] at h hd
          rw [list_eq_of_without_of_dropped excluded h hd]
      | _ => simp [without] at h
  | obj kvs, y, h, hd => by
      cases y with
      | obj lws =>
          simp only [without, dropped, obj.injEq] at h hd
          rw [items_eq_of_without_of_dropped excluded h hd]
      | _ => simp [without] at h
  | null, y, h, _ => by cases y <;> simp_all [without]
  | bool b, y, h, _ => by cases y <;> simp_all [without]
  | int n, y, h, _ => by cases y <;> simp_all [without]
  | float r, y, h, _ => by cases y <;> simp_all [without]
  | str s, y, h, _ => by cases y <;> simp_all [without]

theorem list_eq_of_without_of_dropped (excluded : List String) : ∀ {xs ys : List Json},
    listWithout excluded xs = listWithout excluded ys →
      listDropped excluded xs = listDropped excluded ys → xs = ys
  | [], [], _, _ => rfl
  | [], _ :: _, h, _ => by simp [listWithout] at h
  | _ :: _, [], h, _ => by simp [listWithout] at h
  | x :: xs, y :: ys, h, hd => by
      simp only [listWithout, listDropped, List.cons.injEq] at h hd
      rw [eq_of_without_of_dropped excluded h.1 hd.1,
        list_eq_of_without_of_dropped excluded h.2 hd.2]

theorem items_eq_of_without_of_dropped (excluded : List String) :
    ∀ {kvs lws : List (String × Json)},
      itemsWithout excluded kvs = itemsWithout excluded lws →
        itemsDropped excluded kvs = itemsDropped excluded lws → kvs = lws
  | [], [], _, _ => rfl
  | [], (_, _) :: _, _, hd => by simp [itemsDropped] at hd
  | (_, _) :: _, [], _, hd => by simp [itemsDropped] at hd
  | (k, v) :: kvs, (l, w) :: lws, h, hd => by
      simp only [itemsDropped, List.cons.injEq, Prod.mk.injEq] at hd
      obtain ⟨⟨rfl, hvalue⟩, hrest⟩ := hd
      by_cases hk : k ∈ excluded
      · simp only [itemsWithout, if_pos hk] at h hvalue
        rw [hvalue, items_eq_of_without_of_dropped excluded h hrest]
      · simp only [itemsWithout, if_neg hk, List.cons.injEq, Prod.mk.injEq, true_and] at h hvalue
        rw [eq_of_without_of_dropped excluded h.1 hvalue,
          items_eq_of_without_of_dropped excluded h.2 hrest]

end

end Json

namespace Value

mutual

/-- The JSON form without some keys is the JSON form, with the keys left out of it. -/
theorem toJsonWithout_eq (excluded : List String) :
    ∀ v : Value, v.toJsonWithout excluded = v.toJson.without excluded
  | none => by simp [toJson, toJsonWithout, Json.without]
  | bool b => by simp [toJson, toJsonWithout, Json.without]
  | int n => by simp [toJson, toJsonWithout, Json.without]
  | float r => by simp [toJson, toJsonWithout, Json.without]
  | str s => by simp [toJson, toJsonWithout, Json.without]
  | enum s => by simp [toJson, toJsonWithout, Json.without]
  | datetime t => by simp [toJson, toJsonWithout, Json.without]
  | other text _ => by simp [toJson, toJsonWithout, Json.without]
  | list xs => by
      rw [toJson, toJsonWithout, toJsonWithout, Json.without, listToJsonWithout_eq]
  | tuple xs => by
      rw [toJson, toJsonWithout, toJsonWithout, Json.without, listToJsonWithout_eq]
  | dict kvs => by
      rw [toJson, toJsonWithout, toJsonWithout, Json.without, itemsToJsonWithout_eq,
        Json.itemsWithout_ofList_sortByKey]
  | model kvs => by
      rw [toJson, toJsonWithout, toJsonWithout, Json.without, itemsToJsonWithout_eq,
        Json.itemsWithout_ofList_sortByKey]

theorem listToJsonWithout_eq (excluded : List String) :
    ∀ xs : List Value,
      listToJsonWithout excluded xs = Json.listWithout excluded (listToJsonWithout [] xs)
  | [] => rfl
  | x :: xs => by
      rw [listToJsonWithout, listToJsonWithout, Json.listWithout, toJsonWithout_eq excluded x,
        listToJsonWithout_eq excluded xs, toJson]

theorem itemsToJsonWithout_eq (excluded : List String) :
    ∀ kvs : List (Key × Value),
      itemsToJsonWithout excluded kvs = Json.itemsWithout excluded (itemsToJsonWithout [] kvs)
  | [] => rfl
  | (k, v) :: kvs => by
      rw [itemsToJsonWithout, itemsToJsonWithout, if_neg List.not_mem_nil, Json.itemsWithout,
        toJsonWithout_eq excluded v, itemsToJsonWithout_eq excluded kvs, toJson]

end

end Value

end Samaktha
