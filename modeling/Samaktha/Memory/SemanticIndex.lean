import Samaktha.Foundation.Json
import Samaktha.Foundation.Text

/-!
# The semantic index

`SemanticIndex` keeps a count of tokens for each item and, for each token, the number of items that
contain it, both changed step by step.  `Consistent` says that the second is always what the first
gives; `indexItem` and `remove` keep it (`Consistent.indexItem`,
`Consistent.remove`).  `vectorOf` is what is
indexed for a text, and nothing is for a text without a token.

The arithmetic of scores is a parameter (`ScoreArithmetic`).  A filter compares an entry of the
metadata with a text, the only kind of value that is filtered by.
-/

namespace Samaktha

class ScoreArithmetic (F : Type) where
  /-- `0.0`. -/
  zero : F
  add : F → F → F
  mul : F → F → F
  div : F → F → F
  sqrt : F → F
  /-- A count as a score. -/
  ofCount : ℕ → F
  /-- `math.log((n_docs + 1) / (df + 1)) + 1.0`. -/
  idf : ℕ → ℤ → F
  /-- `x == 0.0`. -/
  isZero : F → Bool
  /-- `x < y`. -/
  lt : F → F → Bool
  /-- `round(x, 6)`. -/
  round6 : F → F

namespace SemanticIndex

/-! ## Tokens -/

def isTokenChar (c : Char) : Bool := 'a' ≤ c && c ≤ 'z' || '0' ≤ c && c ≤ '9'

/-- The tokens of a text, with the one that is being read. -/
def tokensFrom (token : List Char) : List Char → List (List Char)
  | [] => if token = [] then [] else [token]
  | c :: cs =>
      if isTokenChar c then tokensFrom (token ++ [c]) cs
      else if token = [] then tokensFrom [] cs else token :: tokensFrom [] cs

def tokenize (text : String) : List String :=
  (tokensFrom [] (Text.lowerChars text.toList)).map String.ofList

def counter (tokens : List String) : Dict String ℕ :=
  tokens.foldl (fun tf token => Dict.set tf token ((Dict.get? tf token).getD 0 + 1)) []

/-- What is indexed for a text: nothing, where it has no token. -/
def vectorOf (text : String) : Option (Dict String ℕ) :=
  if tokenize text = [] then none else some (counter (tokenize text))

lemma nodupKeys_counter (tokens : List String) : (counter tokens).NodupKeys := by
  have hfold : ∀ (tokens : List String) (tf : Dict String ℕ), tf.NodupKeys →
      (tokens.foldl (fun tf token =>
        Dict.set tf token ((Dict.get? tf token).getD 0 + 1)) tf).NodupKeys := by
    intro tokens
    induction tokens with
    | nil => exact fun tf h => h
    | cons token tokens ih => exact fun tf h => ih _ (h.set _ _)
  exact hfold tokens [] List.nodup_nil

lemma nodupKeys_of_vectorOf {text : String} {tf : Dict String ℕ} (h : vectorOf text = some tf) :
    tf.NodupKeys := by
  unfold vectorOf at h
  split at h
  · simp at h
  · rw [← Option.some.inj h]
    exact nodupKeys_counter _

end SemanticIndex

/-! ## The index -/

structure SemanticIndex where
  tokenVectors : Dict String (Dict String ℕ) := []
  metadata : Dict String (Dict String Json) := []
  docFreq : Dict String ℤ := []
  deriving Inhabited

namespace SemanticIndex

/-- `self._doc_freq[token] += 1` for each token. -/
def addToDf (docFreq : Dict String ℤ) (tokens : List String) : Dict String ℤ :=
  tokens.foldl (fun df token => Dict.set df token ((Dict.get? df token).getD 0 + 1)) docFreq

/-- `_remove_from_df`, for the tokens of an item. -/
def removeFromDf (docFreq : Dict String ℤ) (tokens : List String) : Dict String ℤ :=
  tokens.foldl (fun df token =>
    let count := (Dict.get? df token).getD 0 - 1
    if count ≤ 0 then Dict.erase df token else Dict.set df token count) docFreq

variable (index : SemanticIndex)

/-- The document frequencies without those of an item. -/
def docFreqWithout (itemId : String) : Dict String ℤ :=
  match Dict.get? index.tokenVectors itemId with
  | some tf => removeFromDf index.docFreq (Dict.keys tf)
  | none => index.docFreq

/-- `SemanticIndex.index`. -/
def indexItem (itemId text : String) (metadata : Dict String Json) : SemanticIndex :=
  match vectorOf text with
  | none => index
  | some tf =>
      { tokenVectors := Dict.set index.tokenVectors itemId tf
        metadata := Dict.set index.metadata itemId metadata
        docFreq := addToDf (index.docFreqWithout itemId) (Dict.keys tf) }

/-- `SemanticIndex.remove`. -/
def remove (itemId : String) : SemanticIndex :=
  match Dict.get? index.tokenVectors itemId with
  | none => index
  | some _ =>
      { tokenVectors := Dict.erase index.tokenVectors itemId
        metadata := Dict.erase index.metadata itemId
        docFreq := index.docFreqWithout itemId }

section Search

variable {F : Type} [ScoreArithmetic F]

open ScoreArithmetic

/-- The sum of scores. -/
def total (scores : List F) : F := scores.foldl add zero

def idfVector (docFreq : String → ℤ) (docs : ℕ) (tf : Dict String ℕ) : Dict String F :=
  tf.map fun (token, count) => (token, mul (ofCount count) (idf docs (docFreq token)))

def vecNorm (vec : Dict String F) : F := sqrt (total (vec.map fun (_, v) => mul v v))

/-- The score of an item for a query, where there is one, and the tokens that match. -/
def score? (docFreq : String → ℤ) (docs : ℕ) (query item : Dict String ℕ) :
    Option (F × List String) :=
  let queryVec : Dict String F := idfVector docFreq docs query
  let itemVec : Dict String F := idfVector docFreq docs item
  if isZero (vecNorm queryVec) || isZero (vecNorm itemVec) then none
  else
    let dot := total (queryVec.map fun (token, v) =>
      mul v ((Dict.get? itemVec token).getD zero))
    let score := div dot (mul (vecNorm queryVec) (vecNorm itemVec))
    if lt zero score then
      some (round6 score, (Dict.keys query).filter fun token => token ∈ Dict.keys item)
    else none

/-- `all(meta.get(k) == v for k, v in filters.items())`. -/
def passes (filters : Dict String String) (metadata : Dict String Json) : Bool :=
  filters.all fun (key, value) =>
    match Dict.get? metadata key with
    | some (.str s) => s = value
    | _ => false

/-- The order of results: the greater score first, of equal ones the smaller id. -/
def Ranked (x y : String × F × List String) : Prop :=
  lt y.2.1 x.2.1 = true ∨ lt x.2.1 y.2.1 = false ∧ x.1 ≤ y.1

instance : DecidableRel (Ranked (F := F)) := fun _ _ => inferInstanceAs (Decidable (_ ∨ _))

/-- The hits of a query, in the order of the index. -/
def hits (query : String) (filters : Dict String String) : List (String × F × List String) :=
  index.tokenVectors.filterMap fun (itemId, tf) =>
    if passes filters ((Dict.get? index.metadata itemId).getD []) then
      (score? (fun token => (Dict.get? index.docFreq token).getD 0) index.tokenVectors.length
        (counter (tokenize query)) tf).map fun hit => (itemId, hit)
    else none

/-- `SemanticIndex.search`. -/
def search (query : String) (topK : ℕ) (filters : Dict String String) :
    List (String × F × List String) :=
  if tokenize query = [] then [] else ((index.hits query filters).insertionSort Ranked).take topK

end Search

/-! ## Document frequencies -/

/-- A count as a dictionary holds it, which has no entry for zero. -/
def held (n : ℕ) : Option ℤ := if n = 0 then none else some n

lemma getD_held (n : ℕ) : (held n).getD 0 = (n : ℤ) := by
  unfold held
  split
  · simp [*]
  · rfl

lemma get?_addToDf {tokens : List String} (hnodup : tokens.Nodup) (docFreq : Dict String ℤ)
    (token : String) : Dict.get? (addToDf docFreq tokens) token =
      if token ∈ tokens then some ((Dict.get? docFreq token).getD 0 + 1)
      else Dict.get? docFreq token := by
  unfold addToDf
  induction tokens generalizing docFreq with
  | nil => simp
  | cons t tokens ih =>
      obtain ⟨hnot, hnodup⟩ := List.nodup_cons.mp hnodup
      rw [List.foldl_cons, ih hnodup, Dict.get?_set]
      by_cases ht : t = token
      · subst ht
        simp [hnot]
      · have hne : token ≠ t := fun h => ht h.symm
        simp [ht, hne]

lemma get?_removeFromDf {tokens : List String} (hnodup : tokens.Nodup) (docFreq : Dict String ℤ)
    (token : String) : Dict.get? (removeFromDf docFreq tokens) token =
      if token ∈ tokens then
        (if (Dict.get? docFreq token).getD 0 - 1 ≤ 0 then none
          else some ((Dict.get? docFreq token).getD 0 - 1))
      else Dict.get? docFreq token := by
  unfold removeFromDf
  induction tokens generalizing docFreq with
  | nil => simp
  | cons t tokens ih =>
      obtain ⟨hnot, hnodup⟩ := List.nodup_cons.mp hnodup
      rw [List.foldl_cons, ih hnodup]
      by_cases ht : t = token
      · subst ht
        simp only [hnot, if_false, List.mem_cons, true_or, if_true]
        split <;> simp
      · have hne : token ≠ t := fun h => ht h.symm
        have hother : Dict.get? (if (Dict.get? docFreq t).getD 0 - 1 ≤ 0 then Dict.erase docFreq t
            else Dict.set docFreq t ((Dict.get? docFreq t).getD 0 - 1)) token =
              Dict.get? docFreq token := by
          split
          · exact Dict.get?_erase_of_ne ht _
          · exact Dict.get?_set_of_ne ht _ _
        rw [hother]
        simp [hne]

/-- How many items contain a token. -/
def documents (vectors : Dict String (Dict String ℕ)) (token : String) : ℕ :=
  vectors.countP fun kv => token ∈ Dict.keys kv.2

/-- The index fits together: one vector and one record of metadata for an item, and for each
token the number of items that contain it. -/
structure Consistent (index : SemanticIndex) : Prop where
  nodup : index.tokenVectors.NodupKeys
  vectors : ∀ id tf, Dict.get? index.tokenVectors id = some tf → tf.NodupKeys
  metadata : ∀ id, (Dict.get? index.metadata id).isSome = (Dict.get? index.tokenVectors id).isSome
  docFreq : ∀ token, Dict.get? index.docFreq token = held (documents index.tokenVectors token)

lemma consistent_empty : Consistent {} := by
  refine ⟨List.nodup_nil, ?_, ?_, ?_⟩
  · intro id tf h
    simp at h
  · intro id
    rfl
  · intro token
    rfl

lemma documents_of_perm {d e : Dict String (Dict String ℕ)} (h : d.Perm e) (token : String) :
    documents d token = documents e token := h.countP_eq _

lemma documents_cons (id : String) (tf : Dict String ℕ) (d : Dict String (Dict String ℕ))
    (token : String) :
    documents ((id, tf) :: d) token =
      documents d token + if token ∈ Dict.keys tf then 1 else 0 := by
  rw [documents, List.countP_cons, documents]
  simp

lemma documents_eq {vectors : Dict String (Dict String ℕ)} (hd : vectors.NodupKeys) {id : String}
    {tf : Dict String ℕ} (h : Dict.get? vectors id = some tf) (token : String) :
    documents vectors token =
      documents (Dict.erase vectors id) token + if token ∈ Dict.keys tf then 1 else 0 := by
  rw [documents_of_perm (Dict.perm_cons_erase hd h), documents_cons]

lemma documents_set {vectors : Dict String (Dict String ℕ)} (hd : vectors.NodupKeys) (id : String)
    (tf : Dict String ℕ) (token : String) :
    documents (Dict.set vectors id tf) token =
      documents (Dict.erase vectors id) token + if token ∈ Dict.keys tf then 1 else 0 := by
  have hself : Dict.get? (Dict.set vectors id tf) id = some tf := Dict.get?_set_self vectors id tf
  rw [documents_eq (hd.set id tf) hself]
  congr 1
  refine documents_of_perm (Dict.perm_of_get? ((hd.set id tf).erase id) (hd.erase id) ?_) token
  intro c
  rw [Dict.get?_erase, Dict.get?_erase]
  split
  · rfl
  · rename_i hne
    exact Dict.get?_set_of_ne hne _ _

variable {index : SemanticIndex}

lemma Consistent.docFreqWithout (h : Consistent index) (id token : String) :
    Dict.get? (index.docFreqWithout id) token =
      held (documents (Dict.erase index.tokenVectors id) token) := by
  unfold SemanticIndex.docFreqWithout
  cases hget : Dict.get? index.tokenVectors id with
  | none =>
      rw [Dict.erase_eq_self hget]
      exact h.docFreq token
  | some tf =>
      have hcount := documents_eq h.nodup hget token
      simp only
      rw [get?_removeFromDf (h.vectors id tf hget), h.docFreq, getD_held, hcount]
      by_cases hmem : token ∈ Dict.keys tf
      · simp only [hmem, if_true]
        by_cases hzero : documents (Dict.erase index.tokenVectors id) token = 0
        · simp [held, hzero]
        · have hpos : ¬ ((documents (Dict.erase index.tokenVectors id) token + 1 : ℕ) :
            ℤ) - 1 ≤ 0 := by
            omega
          rw [if_neg hpos, held, if_neg hzero]
          simp
      · simp [hmem]

lemma Consistent.indexItem (h : Consistent index) (id text : String)
    (metadata : Dict String Json) : Consistent (index.indexItem id text metadata) := by
  unfold SemanticIndex.indexItem
  cases hvector : vectorOf text with
  | none => exact h
  | some tf =>
      refine ⟨h.nodup.set id tf, ?_, ?_, ?_⟩
      · intro c tf' hget
        rw [Dict.get?_set] at hget
        split at hget
        · rw [← Option.some.inj hget]
          exact nodupKeys_of_vectorOf hvector
        · exact h.vectors c tf' hget
      · intro c
        rw [Dict.get?_set, Dict.get?_set]
        split
        · rfl
        · exact h.metadata c
      · intro token
        have hnodup : (Dict.keys tf).Nodup := nodupKeys_of_vectorOf hvector
        simp only
        rw [get?_addToDf hnodup, documents_set h.nodup, h.docFreqWithout, getD_held]
        by_cases hmem : token ∈ Dict.keys tf
        · simp [hmem, held]
        · simp [hmem]

lemma Consistent.remove (h : Consistent index) (id : String) :
    Consistent (index.remove id) := by
  unfold SemanticIndex.remove
  cases hget : Dict.get? index.tokenVectors id with
  | none => exact h
  | some tf =>
      refine ⟨h.nodup.erase id, ?_, ?_, ?_⟩
      · intro c tf' hget'
        rw [Dict.get?_erase] at hget'
        split at hget'
        · simp at hget'
        · exact h.vectors c tf' hget'
      · intro c
        rw [Dict.get?_erase, Dict.get?_erase]
        split
        · rfl
        · exact h.metadata c
      · exact h.docFreqWithout id

/-! ## What is indexed -/

lemma get?_indexItem (index : SemanticIndex) (id text : String) (metadata : Dict String Json)
    (c : String) : Dict.get? (index.indexItem id text metadata).tokenVectors c =
      if id = c ∧ vectorOf text ≠ none then vectorOf text
      else Dict.get? index.tokenVectors c := by
  unfold SemanticIndex.indexItem
  cases hvector : vectorOf text with
  | none => simp
  | some tf => simp [Dict.get?_set]

lemma get?_remove (index : SemanticIndex) (id c : String) :
    Dict.get? (index.remove id).tokenVectors c =
      if id = c then none else Dict.get? index.tokenVectors c := by
  unfold SemanticIndex.remove
  cases hget : Dict.get? index.tokenVectors id with
  | none =>
      simp only
      split
      · rename_i heq
        rw [← heq, hget]
      · rfl
  | some tf => exact Dict.get?_erase _ _ _

end SemanticIndex

end Samaktha
