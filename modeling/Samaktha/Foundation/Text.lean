import Mathlib.Data.List.DropRight
import Mathlib.Data.List.Infix
import Mathlib.Data.String.Basic
import Mathlib.Tactic.Common

/-!
# Text methods

The string methods the program uses, on texts as sequences of Unicode scalar values: `strip`,
`lower`, `split`, `rsplit(marker, 1)[-1]` and `in`.  `lower` changes the ASCII letters and the two
other characters whose lower case contains an ASCII letter, the Kelvin sign and the dotted
capital I; other letters with a lower case are kept, which no comparison with an ASCII text
can notice.  Where two free texts are compared in lower case, what lower case is stays open
(`Casing`).
-/

namespace Samaktha

namespace Text

/-- The characters `str.strip` removes. -/
def isSpace (c : Char) : Bool :=
  (9 ≤ c.toNat && c.toNat ≤ 13) || (28 ≤ c.toNat && c.toNat ≤ 32) || c.toNat = 0x85
    || c.toNat = 0xA0 || c.toNat = 0x1680 || (0x2000 ≤ c.toNat && c.toNat ≤ 0x200A)
    || c.toNat = 0x2028 || c.toNat = 0x2029 || c.toNat = 0x202F || c.toNat = 0x205F
    || c.toNat = 0x3000

/-- `text.strip()`. -/
def strip (text : String) : String :=
  String.ofList ((text.toList.dropWhile isSpace).reverse.dropWhile isSpace).reverse

/-- The lower case of a character. -/
def lowerChar (c : Char) : List Char :=
  if c.toNat = 0x212A then ['k']
  else if c.toNat = 0x130 then ['i', Char.ofNat 0x307]
  else [c.toLower]

/-- The lower case of a sequence of characters. -/
def lowerChars (cs : List Char) : List Char := cs.flatMap lowerChar

/-- `text.lower()`. -/
def lower (text : String) : String := String.ofList (lowerChars text.toList)

end Text

/-- `str.lower` where two free texts are compared: of its table of letters nothing is assumed. -/
class Casing where
  lower : String → String

/-- The lower case of the ASCII letters. -/
@[reducible] def Casing.ascii : Casing := ⟨Text.lower⟩

namespace Text

/-- The words of a sequence of characters, with the one that is being read. -/
def wordsFrom (word : List Char) : List Char → List (List Char)
  | [] => if word = [] then [] else [word]
  | c :: cs =>
      if isSpace c then (if word = [] then wordsFrom [] cs else word :: wordsFrom [] cs)
      else wordsFrom (word ++ [c]) cs

/-- `text.split()`. -/
def words (text : String) : List String := (wordsFrom [] text.toList).map String.ofList

/-- Whether `part` occurs as a contiguous part of a sequence. -/
def occursIn (part : List Char) : List Char → Bool
  | [] => part.isEmpty
  | c :: cs => part.isPrefixOf (c :: cs) || occursIn part cs

/-- `part in text`. -/
def contains (text part : String) : Bool := occursIn part.toList text.toList

/-- What follows the last occurrence of a marker, if there is one. -/
def afterLast (marker : List Char) : List Char → Option (List Char)
  | [] => if marker = [] then some [] else none
  | c :: cs =>
      match afterLast marker cs with
      | some rest => some rest
      | none => if marker.isPrefixOf (c :: cs) then some ((c :: cs).drop marker.length) else none

/-- `text.rsplit(marker, 1)[-1]`: what follows the last marker, or the whole text. -/
def rsplitLast (text marker : String) : String :=
  String.ofList ((afterLast marker.toList text.toList).getD text.toList)

/-- The zeros of the decimal digits: `\d` and `int` know the nine characters after each. -/
def digitZeros : List ℕ := [
  0x30, 0x660, 0x6F0, 0x7C0, 0x966, 0x9E6, 0xA66, 0xAE6, 0xB66, 0xBE6, 0xC66, 0xCE6, 0xD66,
  0xDE6, 0xE50, 0xED0, 0xF20, 0x1040, 0x1090, 0x17E0, 0x1810, 0x1946, 0x19D0, 0x1A80, 0x1A90,
  0x1B50, 0x1BB0, 0x1C40, 0x1C50, 0xA620, 0xA8D0, 0xA900, 0xA9D0, 0xA9F0, 0xAA50, 0xABF0,
  0xFF10, 0x104A0, 0x10D30, 0x11066, 0x110F0, 0x11136, 0x111D0, 0x112F0, 0x11450, 0x114D0,
  0x11650, 0x116C0, 0x11730, 0x118E0, 0x11950, 0x11C50, 0x11D50, 0x11DA0, 0x11F50, 0x16A60,
  0x16AC0, 0x16B50, 0x1D7CE, 0x1D7D8, 0x1D7E2, 0x1D7EC, 0x1D7F6, 0x1E140, 0x1E2F0, 0x1E4F0,
  0x1E950, 0x1FBF0]

def digitValue (c : Char) : Option ℕ :=
  (digitZeros.find? fun first => first ≤ c.toNat && c.toNat < first + 10).map (c.toNat - ·)

/-- The number that digits begin a sequence with, and what follows them. -/
def readNumber (cs : List Char) : Option (ℕ × List Char) :=
  let digits := cs.takeWhile fun c => (digitValue c).isSome
  if digits = [] then none
  else some (digits.foldl (fun n c => 10 * n + (digitValue c).getD 0) 0,
    cs.dropWhile fun c => (digitValue c).isSome)

/-- `text.replace(a, b)` for single characters. -/
def replaceChar (a b : Char) (text : String) : String :=
  String.ofList (text.toList.map fun c => if c = a then b else c)

/-- A search in a given text runs on its characters: `rfl` supplies them, so that evaluation
does not pass through the text's encoding. -/
lemma contains_lower_of_chars {text part : String} {cs ps : List Char}
    (htext : text = String.ofList cs) (hpart : part = String.ofList ps)
    (h : occursIn ps (lowerChars cs) = true) : contains (lower text) part = true := by
  subst htext hpart
  simpa [contains, lower] using h

lemma not_contains_lower_of_chars {text part : String} {cs ps : List Char}
    (htext : text = String.ofList cs) (hpart : part = String.ofList ps)
    (h : occursIn ps (lowerChars cs) = false) : contains (lower text) part = false := by
  subst htext hpart
  simpa [contains, lower] using h

/-! ## Stripped texts -/

/-- No space at either end. -/
structure Trimmed (cs : List Char) : Prop where
  head : ∀ c, cs.head? = some c → isSpace c = false
  last : ∀ c, cs.getLast? = some c → isSpace c = false

lemma strip_eq (text : String) :
    strip text = String.ofList ((text.toList.dropWhile isSpace).rdropWhile isSpace) := rfl

lemma strip_of_trimmed {text : String} (h : Trimmed text.toList) : strip text = text := by
  have hfront : text.toList.dropWhile isSpace = text.toList := by
    rw [List.dropWhile_eq_self_iff]
    intro hpos
    simpa using h.head _ (List.head?_eq_getElem? ▸ List.getElem?_eq_getElem hpos)
  have hback : text.toList.rdropWhile isSpace = text.toList := by
    rw [List.rdropWhile_eq_self_iff]
    intro hne
    simpa using h.last _ (List.getLast?_eq_some_getLast hne)
  rw [strip_eq, hfront, hback, String.ofList_toList]

lemma trimmed_strip (text : String) : Trimmed (strip text).toList := by
  rw [strip_eq, String.toList_ofList]
  set cs := text.toList.dropWhile isSpace with hcs
  have hhead : ∀ c, cs.head? = some c → isSpace c = false := by
    intro c hc
    have h := List.head?_dropWhile_not isSpace text.toList
    rw [← hcs, hc] at h
    simpa using h
  constructor
  · intro c hc
    -- a nonempty prefix begins with the same character
    obtain ⟨rest, hrest⟩ := List.rdropWhile_prefix isSpace (l := cs)
    refine hhead c ?_
    rw [← hrest, List.head?_append, hc, Option.some_or]
  · intro c hc
    have hne : cs.rdropWhile isSpace ≠ [] := by
      rintro heq
      simp [heq] at hc
    have hlast := List.rdropWhile_last_not isSpace cs hne
    rw [List.getLast?_eq_some_getLast hne] at hc
    rw [Option.some.inj hc] at hlast
    simpa using hlast

lemma strip_strip (text : String) : strip (strip text) = strip text :=
  strip_of_trimmed (trimmed_strip text)

lemma Trimmed.map {f : Char → Char} (hf : ∀ c, isSpace c = false → isSpace (f c) = false)
    {cs : List Char} (h : Trimmed cs) : Trimmed (cs.map f) := by
  constructor
  · intro c hc
    rw [List.head?_map, Option.map_eq_some_iff] at hc
    obtain ⟨a, ha, rfl⟩ := hc
    exact hf a (h.head a ha)
  · intro c hc
    rw [List.getLast?_map, Option.map_eq_some_iff] at hc
    obtain ⟨a, ha, rfl⟩ := hc
    exact hf a (h.last a ha)

lemma Trimmed.flatMap {f : Char → List Char}
    (hf : ∀ c, isSpace c = false → Trimmed (f c) ∧ f c ≠ []) {cs : List Char}
    (h : Trimmed cs) : Trimmed (cs.flatMap f) := by
  constructor
  · intro c hc
    cases cs with
    | nil => simp at hc
    | cons a cs =>
        obtain ⟨hfa, hne⟩ := hf a (h.head a rfl)
        have hb := List.head?_eq_some_head hne
        rw [List.flatMap_cons, List.head?_append, hb, Option.some_or] at hc
        exact hfa.head c (hb.trans hc)
  · intro c hc
    rcases List.eq_nil_or_concat cs with rfl | ⟨front, a, rfl⟩
    · simp at hc
    · obtain ⟨hfa, hne⟩ := hf a (h.last a (by simp))
      have hb := List.getLast?_eq_some_getLast hne
      rw [List.concat_eq_append, List.flatMap_append, List.flatMap_singleton,
        List.getLast?_append, hb, Option.some_or] at hc
      exact hfa.last c (hb.trans hc)

lemma isSpace_toLower {c : Char} (h : isSpace c = false) : isSpace c.toLower = false := by
  unfold Char.toLower
  split
  · rename_i hupper
    -- an upper case letter becomes a lower case one
    have hlow : 65 ≤ c.toNat ∧ c.toNat ≤ 90 := hupper
    have hval : (c.val + ('a'.val - 'A'.val)).toNat = c.toNat + 32 := by
      have hmod : (c.val + ('a'.val - 'A'.val)).toNat = (c.val.toNat + 32) % 2 ^ 32 := by
        rw [UInt32.toNat_add]
        rfl
      rw [hmod]
      exact Nat.mod_eq_of_lt (by have := hlow.2; show c.toNat + 32 < _; omega)
    simp only [isSpace, Char.toNat] at hval hlow ⊢
    simp only [hval, Bool.or_eq_false_iff, Bool.and_eq_false_iff, decide_eq_false_iff_not]
    omega
  · exact h

lemma trimmed_lowerChar {c : Char} (h : isSpace c = false) :
    Trimmed (lowerChar c) ∧ lowerChar c ≠ [] := by
  unfold lowerChar
  split
  · exact ⟨⟨by simp [isSpace], by simp [isSpace]⟩, by simp⟩
  · split
    · exact ⟨⟨by simp [isSpace], by simp [isSpace]⟩, by simp⟩
    · have hlower := isSpace_toLower h
      exact ⟨⟨by simpa using hlower, by simpa using hlower⟩, by simp⟩

lemma Trimmed.lower {text : String} (h : Trimmed text.toList) : Trimmed (lower text).toList := by
  rw [Text.lower, String.toList_ofList]
  exact h.flatMap fun _ hc => trimmed_lowerChar hc

lemma Trimmed.replaceChar {a b : Char} (hb : isSpace b = false) {text : String}
    (h : Trimmed text.toList) : Trimmed (replaceChar a b text).toList := by
  rw [Text.replaceChar, String.toList_ofList]
  refine h.map fun c hc => ?_
  split
  · exact hb
  · exact hc

end Text

end Samaktha
