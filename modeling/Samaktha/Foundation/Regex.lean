import Mathlib.Data.List.Infix
import Mathlib.Data.String.Basic
import Mathlib.Tactic.Common
import Samaktha.Foundation.Text

/-!
# Regular expressions with backtracking

`Regex` is the fragment of regular expressions that has literals, character classes, choice,
greedy and lazy repetition, groups, word edges, the two anchors and lookahead.  `run` is the
backtracking matcher: the ways in which an expression can match at a cursor, in the order in
which a backtracking engine tries them.  `Matches` says the same as a relation between the text
before, the matched text and the text after it (`run_faithful`).

The second half says where a match can lie when a text is put together from parts.  `step` gives
the residuals of an expression after a character and `residuals` those after any nonempty text;
both pass over anchors and word edges.  `misses`, `closes` and `blocks` are checks on these that
can be evaluated, and `found_append_right` and `foundFrom_append_left` use them to tell a match
in a composed text from a match in its parts.

The characters of words are a parameter.  Nothing here mentions the program being verified.
-/

namespace Samaktha

/-- The code of a character when case is ignored: an ASCII letter, or another character that
stands for one, has the code of the small letter. -/
def Regex.foldCase (c : Char) : ℕ :=
  let n := c.toNat
  if n < 128 then (if 65 ≤ n && n ≤ 90 then n + 32 else n)
  else if n = 0x212A then 107
  else if n = 0x130 || n = 0x131 then 105
  else if n = 0x17F then 115
  else n

/-- Which characters belong to words: some table that has of the ASCII characters the letters,
the digits and the underscore, and the other characters that stand for an ASCII letter. -/
structure WordChars where
  isWord : Char → Bool
  ascii : ∀ c : Char, c.toNat < 128 → isWord c = (c.isAlphanum || c = '_')
  letter : ∀ c : Char, 97 ≤ Regex.foldCase c → Regex.foldCase c ≤ 122 → isWord c = true

/-- The table without any further character. -/
def WordChars.least : WordChars where
  isWord c := (c.toNat < 128 && (c.isAlphanum || c = '_'))
    || (128 ≤ c.toNat && 97 ≤ Regex.foldCase c && Regex.foldCase c ≤ 122)
  ascii := by
    intro c hc
    have hnot : ¬ 128 ≤ c.toNat := by omega
    simp [hc, hnot]
  letter := by
    intro c hlow hhigh
    by_cases hc : c.toNat < 128
    · have hletter : c.isAlphanum = true := by
        simp only [Regex.foldCase, hc, if_true] at hlow hhigh
        have hcase : (65 ≤ c.toNat ∧ c.toNat ≤ 90) ∨ (97 ≤ c.toNat ∧ c.toNat ≤ 122) := by
          split at hlow <;> simp_all
        rcases hcase with h | h
        · have hupper : c.isAlpha = true := Bool.or_eq_true_iff.mpr (.inl (decide_eq_true h))
          exact Bool.or_eq_true_iff.mpr (.inl hupper)
        · have hlower : c.isLower = true :=
            Bool.and_eq_true_iff.mpr ⟨decide_eq_true h.1, decide_eq_true h.2⟩
          have halpha : c.isAlpha = true := Bool.or_eq_true_iff.mpr (.inr hlower)
          exact Bool.or_eq_true_iff.mpr (.inl halpha)
      simp [hc, hletter]
    · have hge : 128 ≤ c.toNat := by omega
      simp [hge, hlow, hhigh]

/-- A regular expression. -/
inductive Regex where
  | empty
  | char (p : Char → Bool)
  | seq (a b : Regex)
  | alt (a b : Regex)
  | star (greedy : Bool) (a : Regex)
  | group (n : ℕ) (a : Regex)
  | wordEdge
  | textStart
  | textEnd
  | ahead (wanted : Bool) (a : Regex)

namespace Regex

/-! ## The matcher -/

/-- A position in a text: what was read, last character first, what is to be read, and what
the groups have matched, the latest first. -/
structure Cursor where
  back : List Char
  rest : List Char
  groups : List (ℕ × List Char)
  deriving Repr, DecidableEq

/-- At most `n` further rounds; a round that reads nothing is not taken. -/
def rounds (round : Cursor → List Cursor) (greedy : Bool) : ℕ → Cursor → List Cursor
  | 0, c => [c]
  | n + 1, c =>
      let more := ((round c).filter fun next => next.rest.length < c.rest.length).flatMap
        (rounds round greedy n)
      if greedy then more ++ [c] else c :: more

/-- Whether the last character read belongs to a word. -/
def atWord (w : WordChars) (cs : List Char) : Bool := cs.head?.any w.isWord

/-- The ways to match an expression at a cursor, in the order in which they are tried. -/
def run (w : WordChars) : Regex → Cursor → List Cursor
  | empty, c => [c]
  | char p, c =>
      match c.rest with
      | [] => []
      | x :: rest => if p x then [{ c with back := x :: c.back, rest := rest }] else []
  | seq a b, c => (run w a c).flatMap (run w b)
  | alt a b, c => run w a c ++ run w b c
  | star greedy a, c => rounds (run w a) greedy c.rest.length c
  | group n a, c =>
      (run w a c).map fun stop =>
        let part := c.rest.take (c.rest.length - stop.rest.length)
        { stop with groups := (n, part) :: stop.groups }
  | wordEdge, c => if atWord w c.back ≠ atWord w c.rest then [c] else []
  | textStart, c => if c.back = [] then [c] else []
  | textEnd, c => if c.rest = [] ∨ c.rest = ['\n'] then [c] else []
  | ahead wanted a, c => if (run w a c).isEmpty ≠ wanted then [c] else []

/-- The first match from a position on: where it starts and where it stops. -/
def searchFrom (w : WordChars) (r : Regex) : List Char → List Char → Option (Cursor × Cursor)
  | back, [] => (run w r ⟨back, [], []⟩).head?.map fun stop => (⟨back, [], []⟩, stop)
  | back, c :: cs =>
      match (run w r ⟨back, c :: cs, []⟩).head? with
      | some stop => some (⟨back, c :: cs, []⟩, stop)
      | none => searchFrom w r (c :: back) cs

/-- `pattern.search(text)`. -/
def search (w : WordChars) (r : Regex) (text : List Char) : Option (Cursor × Cursor) :=
  searchFrom w r [] text

/-- `pattern.match(text)`: the match at the start of the text, by where it stops. -/
def matchStart (w : WordChars) (r : Regex) (text : List Char) : Option Cursor :=
  (run w r ⟨[], text, []⟩).head?

/-- Whether there is a match from a position on. -/
def foundFrom (w : WordChars) (r : Regex) (back text : List Char) : Bool :=
  (searchFrom w r back text).isSome

/-- `bool(pattern.search(text))`. -/
def found (w : WordChars) (r : Regex) (text : List Char) : Bool := foundFrom w r [] text

/-- What was matched between two positions of one text. -/
def between (start stop : Cursor) : List Char :=
  start.rest.take (start.rest.length - stop.rest.length)

/-- What a group has matched last. -/
def Cursor.group? (c : Cursor) (n : ℕ) : Option (List Char) :=
  (c.groups.find? fun g => g.1 = n).map Prod.snd

/-- The position `n` characters further on. -/
def Cursor.advance (c : Cursor) (n : ℕ) : Cursor :=
  { c with back := (c.rest.take n).reverse ++ c.back, rest := c.rest.drop n }

/-- `pattern.finditer(text)`, by where the matches start and stop: at most `fuel` matches, the
last of them at the first that is empty. -/
def findIter (w : WordChars) (r : Regex) : ℕ → List Char → List Char → List (Cursor × Cursor)
  | 0, _, _ => []
  | fuel + 1, back, text =>
      match searchFrom w r back text with
      | none => []
      | some (start, stop) =>
          if stop.rest.length < start.rest.length then
            (start, stop) :: findIter w r fuel stop.back stop.rest
          else [(start, stop)]

/-- `pattern.sub(replacement, text)` for a pattern that matches no empty text. -/
def subAll (w : WordChars) (r : Regex) (replacement : List Char) :
    ℕ → List Char → List Char → List Char
  | 0, _, text => text
  | fuel + 1, back, text =>
      match searchFrom w r back text with
      | none => text
      | some (start, stop) =>
          text.take (text.length - start.rest.length) ++ replacement ++
            subAll w r replacement fuel stop.back stop.rest

/-! ## Ways to write an expression -/

/-- A text, letter by letter, with case ignored. -/
def literal : List Char → Regex
  | [] => empty
  | c :: cs => seq (char fun d => foldCase d == foldCase c) (literal cs)

/-- A text with case ignored. -/
def word (text : String) : Regex := literal text.toList

/-- One of some expressions, the earlier ones first. -/
def oneOf : List Regex → Regex
  | [] => char fun _ => false
  | [r] => r
  | r :: rs => alt r (oneOf rs)

/-- One of some texts, with case ignored. -/
def words (texts : List String) : Regex := oneOf (texts.map word)

/-- The expressions one after another. -/
def inOrder : List Regex → Regex
  | [] => empty
  | [r] => r
  | r :: rs => seq r (inOrder rs)

def space : Regex := char Text.isSpace

def among (cs : List Char) : Regex := char fun c => cs.contains c

def notAmong (cs : List Char) : Regex := char fun c => !cs.contains c

def option (r : Regex) : Regex := alt r empty

def plus (r : Regex) : Regex := seq r (star true r)

def many (r : Regex) : Regex := star true r

/-- `r{0,n}`. -/
def upTo (r : Regex) : ℕ → Regex
  | 0 => empty
  | n + 1 => option (seq r (upTo r n))

/-! ## What a match is -/

/-- Repetition: pieces one after another, each matched in its place. -/
inductive Iterated (M : List Char → List Char → List Char → Prop) :
    List Char → List Char → List Char → Prop
  | nil (back after) : Iterated M back [] after
  | cons {back m n after} (first : M back m (n ++ after))
      (more : Iterated M (m.reverse ++ back) n after) : Iterated M back (m ++ n) after

/-- The expression matches `m` between what precedes it, last character first, and what
follows it. -/
def Matches (w : WordChars) : Regex → List Char → List Char → List Char → Prop
  | empty, _, m, _ => m = []
  | char p, _, m, _ => ∃ c, m = [c] ∧ p c = true
  | seq a b, back, m, after => ∃ x y, m = x ++ y ∧ Matches w a back x (y ++ after) ∧
      Matches w b (x.reverse ++ back) y after
  | alt a b, back, m, after => Matches w a back m after ∨ Matches w b back m after
  | star _ a, back, m, after => Iterated (Matches w a) back m after
  | group _ a, back, m, after => Matches w a back m after
  | wordEdge, back, m, after => m = [] ∧ atWord w back ≠ atWord w after
  | textStart, back, m, _ => m = [] ∧ back = []
  | textEnd, _, m, after => m = [] ∧ (after = [] ∨ after = ['\n'])
  | ahead wanted a, back, m, after =>
      m = [] ∧ (wanted = true ↔ ∃ x y, after = x ++ y ∧ Matches w a back x y)

variable {w : WordChars} {r : Regex} {back m after : List Char}

/-! ## The matcher finds the matches -/

/-- What a round or a whole run does to the cursor: it reads a part of the text. -/
structure Reads (M : List Char → List Char → List Char → Prop) (c stop : Cursor) (m : List Char) :
    Prop where
  rest : c.rest = m ++ stop.rest
  back : stop.back = m.reverse ++ c.back
  fits : M c.back m stop.rest

lemma exists_reads_rounds {M : List Char → List Char → List Char → Prop}
    {round : Cursor → List Cursor} {greedy : Bool}
    (hround : ∀ c, ∀ stop ∈ round c, ∃ m, Reads M c stop m) (n : ℕ) (c : Cursor) :
    ∀ stop ∈ rounds round greedy n c, ∃ m, Reads (Iterated M) c stop m := by
  induction n generalizing c with
  | zero =>
      intro stop hstop
      rw [rounds, List.mem_singleton] at hstop
      subst hstop
      exact ⟨[], rfl, rfl, .nil _ _⟩
  | succ n ih =>
      intro stop hstop
      have hcases : stop = c ∨ ∃ next ∈ round c, stop ∈ rounds round greedy n next := by
        rw [rounds] at hstop
        split at hstop
        · rcases List.mem_append.mp hstop with hmore | hself
          · obtain ⟨next, hnext, hlast⟩ := List.mem_flatMap.mp hmore
            exact .inr ⟨next, List.mem_of_mem_filter hnext, hlast⟩
          · exact .inl (List.mem_singleton.mp hself)
        · rcases List.mem_cons.mp hstop with hself | hmore
          · exact .inl hself
          · obtain ⟨next, hnext, hlast⟩ := List.mem_flatMap.mp hmore
            exact .inr ⟨next, List.mem_of_mem_filter hnext, hlast⟩
      rcases hcases with rfl | ⟨next, hnext, hlast⟩
      · exact ⟨[], rfl, rfl, .nil _ _⟩
      · obtain ⟨x, hx⟩ := hround c next hnext
        obtain ⟨y, hy⟩ := ih next stop hlast
        refine ⟨x ++ y, ?_, ?_, ?_⟩
        · rw [hx.rest, hy.rest, List.append_assoc]
        · rw [hy.back, hx.back, List.reverse_append, List.append_assoc]
        · refine .cons ?_ ?_
          · rw [← hy.rest]
            exact hx.fits
          · rw [← hx.back]
            exact hy.fits

lemma exists_mem_rounds {M : List Char → List Char → List Char → Prop}
    {round : Cursor → List Cursor} {greedy : Bool}
    (hround : ∀ c m after, c.rest = m ++ after → M c.back m after →
      ∃ stop ∈ round c, Reads M c stop m ∧ stop.rest = after)
    {back m after : List Char} (h : Iterated M back m after) :
    ∀ (n : ℕ) (c : Cursor), m.length ≤ n → c.back = back → c.rest = m ++ after →
      ∃ stop ∈ rounds round greedy n c, Reads (Iterated M) c stop m ∧ stop.rest = after := by
  induction h with
  | nil back after =>
      intro n c hn hback hrest
      refine ⟨c, ?_, ⟨rfl, rfl, .nil _ _⟩, hrest⟩
      cases n with
      | zero => simp [rounds]
      | succ n => cases greedy <;> simp [rounds]
  | @cons back m k after hfirst hmore ih =>
      intro n c hn hback hrest
      rcases m with _ | ⟨x, m⟩
      -- a piece that reads nothing is passed over
      · exact ih n c hn hback hrest
      · rw [List.append_assoc] at hrest
        subst hback
        obtain ⟨next, hnext, hreads, hafter⟩ := hround c _ _ hrest hfirst
        rcases n with _ | n
        · simp at hn
        · have hk : k.length ≤ n := by
            simp only [List.length_append, List.length_cons] at hn
            omega
          obtain ⟨stop, hstop, hlast, hend⟩ := ih n next hk hreads.back hafter
          refine ⟨stop, ?_, ⟨?_, ?_, ?_⟩, hend⟩
          · have hshort : next.rest.length < c.rest.length := by
              rw [hreads.rest, List.length_append, List.length_cons]
              omega
            have hmem : stop ∈ ((round c).filter fun next =>
                next.rest.length < c.rest.length).flatMap (rounds round greedy n) := by
              refine List.mem_flatMap.mpr ⟨next, ?_, hstop⟩
              exact List.mem_filter.mpr ⟨hnext, decide_eq_true hshort⟩
            rw [rounds]
            split
            · exact List.mem_append_left _ hmem
            · exact List.mem_cons_of_mem _ hmem
          · rw [hrest, hend, List.append_assoc]
          · rw [hlast.back, hreads.back, List.reverse_append, List.append_assoc]
          · rw [hend]
            exact .cons hfirst hmore

/-- The matcher finds matches, and finds each. -/
structure Faithful (w : WordChars) (r : Regex) : Prop where
  sound : ∀ c, ∀ stop ∈ run w r c, ∃ m, Reads (Matches w r) c stop m
  complete : ∀ c m after, c.rest = m ++ after → Matches w r c.back m after →
    ∃ stop ∈ run w r c, Reads (Matches w r) c stop m ∧ stop.rest = after

lemma faithful_of_test {test : Cursor → Prop} [∀ c, Decidable (test c)]
    (hrun : ∀ c, run w r c = if test c then [c] else [])
    (hmatches : ∀ c m after, c.rest = m ++ after →
      (Matches w r c.back m after ↔ m = [] ∧ test c)) : Faithful w r := by
  constructor
  · intro c stop hstop
    rw [hrun] at hstop
    split at hstop
    · rename_i htest
      rw [List.mem_singleton] at hstop
      subst hstop
      exact ⟨[], rfl, rfl, (hmatches stop [] stop.rest rfl).mpr ⟨rfl, htest⟩⟩
    · simp at hstop
  · intro c m after hrest h
    obtain ⟨rfl, htest⟩ := (hmatches c m after hrest).mp h
    refine ⟨c, ?_, ⟨rfl, rfl, ?_⟩, hrest⟩
    · rw [hrun, if_pos htest]
      exact List.mem_singleton_self c
    · exact (hmatches c [] c.rest rfl).mpr ⟨rfl, htest⟩

lemma Faithful.seq {a b : Regex} (ha : Faithful w a) (hb : Faithful w b) :
    Faithful w (seq a b) := by
  constructor
  · intro c stop hstop
    rw [run] at hstop
    obtain ⟨mid, hmid, hlast⟩ := List.mem_flatMap.mp hstop
    obtain ⟨x, hx⟩ := ha.sound c mid hmid
    obtain ⟨y, hy⟩ := hb.sound mid stop hlast
    refine ⟨x ++ y, ?_, ?_, x, y, rfl, ?_, ?_⟩
    · rw [hx.rest, hy.rest, List.append_assoc]
    · rw [hy.back, hx.back, List.reverse_append, List.append_assoc]
    · rw [← hy.rest]
      exact hx.fits
    · rw [← hx.back]
      exact hy.fits
  · rintro c m after hrest ⟨x, y, rfl, hx, hy⟩
    rw [List.append_assoc] at hrest
    obtain ⟨mid, hmid, hreads, hafter⟩ := ha.complete c x _ hrest hx
    rw [← hreads.back] at hy
    obtain ⟨stop, hstop, hlast, hend⟩ := hb.complete mid y after hafter hy
    refine ⟨stop, ?_, ⟨?_, ?_, x, y, rfl, ?_, ?_⟩, hend⟩
    · rw [run]
      exact List.mem_flatMap.mpr ⟨mid, hmid, hstop⟩
    · rw [hrest, hend, List.append_assoc]
    · rw [hlast.back, hreads.back, List.reverse_append, List.append_assoc]
    · rw [hend]
      exact hx
    · rw [hend, ← hreads.back]
      exact hy

lemma Faithful.alt {a b : Regex} (ha : Faithful w a) (hb : Faithful w b) :
    Faithful w (alt a b) := by
  constructor
  · intro c stop hstop
    rw [run] at hstop
    rcases List.mem_append.mp hstop with h | h
    · obtain ⟨m, hm⟩ := ha.sound c stop h
      exact ⟨m, hm.rest, hm.back, .inl hm.fits⟩
    · obtain ⟨m, hm⟩ := hb.sound c stop h
      exact ⟨m, hm.rest, hm.back, .inr hm.fits⟩
  · intro c m after hrest h
    rw [run]
    rcases h with h | h
    · obtain ⟨stop, hstop, hreads, hend⟩ := ha.complete c m after hrest h
      refine ⟨stop, List.mem_append_left _ hstop, ⟨hreads.rest, hreads.back, ?_⟩, hend⟩
      exact .inl hreads.fits
    · obtain ⟨stop, hstop, hreads, hend⟩ := hb.complete c m after hrest h
      refine ⟨stop, List.mem_append_right _ hstop, ⟨hreads.rest, hreads.back, ?_⟩, hend⟩
      exact .inr hreads.fits

lemma Faithful.group {a : Regex} (n : ℕ) (ha : Faithful w a) : Faithful w (group n a) := by
  constructor
  · intro c stop hstop
    rw [run] at hstop
    obtain ⟨mid, hmid, rfl⟩ := List.mem_map.mp hstop
    obtain ⟨m, hm⟩ := ha.sound c mid hmid
    exact ⟨m, hm.rest, hm.back, hm.fits⟩
  · intro c m after hrest h
    obtain ⟨mid, hmid, hreads, hend⟩ := ha.complete c m after hrest h
    rw [run]
    exact ⟨_, List.mem_map_of_mem hmid, ⟨hreads.rest, hreads.back, hreads.fits⟩, hend⟩

/-- The matcher finds exactly the matches. -/
theorem run_faithful (w : WordChars) (r : Regex) : Faithful w r := by
  induction r with
  | empty =>
      have hrun : ∀ c, run w .empty c = if True then [c] else [] := fun c => rfl
      refine faithful_of_test hrun fun c m after _ => ?_
      rw [and_true]
      rfl
  | char p =>
      constructor
      · intro c stop hstop
        rw [run] at hstop
        split at hstop
        · simp at hstop
        · rename_i x rest hrest
          split at hstop
          · rename_i hp
            rw [List.mem_singleton] at hstop
            subst hstop
            exact ⟨[x], hrest, rfl, x, rfl, hp⟩
          · simp at hstop
      · rintro ⟨back, rest, groups⟩ m after hrest ⟨x, rfl, hp⟩
        simp only [List.cons_append, List.nil_append] at hrest
        subst hrest
        refine ⟨⟨x :: back, after, groups⟩, ?_, ⟨rfl, rfl, x, rfl, hp⟩, rfl⟩
        simp [run, hp]
  | seq a b iha ihb => exact iha.seq ihb
  | alt a b iha ihb => exact iha.alt ihb
  | star greedy a ih =>
      constructor
      · intro c stop hstop
        rw [run] at hstop
        obtain ⟨m, hm⟩ := exists_reads_rounds ih.sound _ c stop hstop
        exact ⟨m, hm.rest, hm.back, hm.fits⟩
      · intro c m after hrest h
        have hlength : m.length ≤ c.rest.length := by
          rw [hrest, List.length_append]
          omega
        obtain ⟨stop, hstop, hreads, hend⟩ :=
          exists_mem_rounds ih.complete h _ c hlength rfl hrest
        rw [run]
        exact ⟨stop, hstop, ⟨hreads.rest, hreads.back, hreads.fits⟩, hend⟩
  | group n a ih => exact ih.group n
  | wordEdge =>
      refine faithful_of_test (fun c => rfl) fun c m after hrest => ?_
      constructor
      · rintro ⟨rfl, hedge⟩
        rw [List.nil_append] at hrest
        exact ⟨rfl, hrest ▸ hedge⟩
      · rintro ⟨rfl, hedge⟩
        rw [List.nil_append] at hrest
        exact ⟨rfl, hrest ▸ hedge⟩
  | textStart =>
      exact faithful_of_test (fun c => rfl) fun c m after _ => Iff.rfl
  | textEnd =>
      refine faithful_of_test (fun c => rfl) fun c m after hrest => ?_
      constructor
      · rintro ⟨rfl, hend⟩
        rw [List.nil_append] at hrest
        exact ⟨rfl, hrest ▸ hend⟩
      · rintro ⟨rfl, hend⟩
        rw [List.nil_append] at hrest
        exact ⟨rfl, hrest ▸ hend⟩
  | ahead wanted a ih =>
      refine faithful_of_test (fun c => rfl) fun c m after hrest => and_congr_right ?_
      rintro rfl
      rw [List.nil_append] at hrest
      have hmatches : (∃ x y, after = x ++ y ∧ Matches w a c.back x y) ↔ run w a c ≠ [] := by
        constructor
        · rintro ⟨x, y, rfl, h⟩
          obtain ⟨stop, hstop, -⟩ := ih.complete c x y hrest h
          exact List.ne_nil_of_mem hstop
        · intro hne
          obtain ⟨stop, hstop⟩ := List.exists_mem_of_ne_nil _ hne
          obtain ⟨m, hm⟩ := ih.sound c stop hstop
          exact ⟨m, stop.rest, hrest ▸ hm.rest, hm.fits⟩
      rw [hmatches]
      cases wanted <;> cases hrun : run w a c <;> simp

/-! ## Where a match is found -/

lemma foundFrom_iff (w : WordChars) (r : Regex) (back text : List Char) :
    foundFrom w r back text = true ↔
      ∃ u m v, text = u ++ m ++ v ∧ Matches w r (u.reverse ++ back) m v := by
  have hhere : ∀ back text, (run w r ⟨back, text, []⟩).head?.isSome = true ↔
      ∃ m v, text = m ++ v ∧ Matches w r back m v := by
    intro back text
    rw [List.isSome_head?]
    constructor
    · intro hne
      obtain ⟨stop, hstop⟩ := List.exists_mem_of_ne_nil _ (by simpa using hne)
      obtain ⟨m, hm⟩ := (run_faithful w r).sound _ stop hstop
      exact ⟨m, stop.rest, hm.rest, hm.fits⟩
    · rintro ⟨m, v, htext, h⟩
      obtain ⟨stop, hstop, -⟩ :=
        (run_faithful w r).complete ⟨back, text, []⟩ m v htext h
      simpa using List.ne_nil_of_mem hstop
  induction text generalizing back with
  | nil =>
      rw [foundFrom, searchFrom, Option.isSome_map, hhere]
      constructor
      · rintro ⟨m, v, htext, h⟩
        exact ⟨[], m, v, htext, h⟩
      · rintro ⟨u, m, v, htext, h⟩
        obtain ⟨hu, hv⟩ := List.append_eq_nil_iff.mp htext.symm
        obtain ⟨rfl, rfl⟩ := List.append_eq_nil_iff.mp hu
        exact ⟨[], v, by simpa using hv.symm, h⟩
  | cons c cs ih =>
      have hstep : foundFrom w r back (c :: cs) =
          ((run w r ⟨back, c :: cs, []⟩).head?.isSome || foundFrom w r (c :: back) cs) := by
        unfold foundFrom
        rw [searchFrom]
        cases (run w r ⟨back, c :: cs, []⟩).head? <;> rfl
      rw [hstep, Bool.or_eq_true, hhere]
      refine (or_congr_right (ih (c :: back))).trans ?_
      constructor
      · rintro (⟨m, v, htext, h⟩ | ⟨u, m, v, rfl, h⟩)
        · exact ⟨[], m, v, htext, h⟩
        · refine ⟨c :: u, m, v, rfl, ?_⟩
          simpa using h
      · rintro ⟨u, m, v, htext, h⟩
        rcases u with _ | ⟨d, u⟩
        · exact .inl ⟨m, v, htext, h⟩
        · simp only [List.cons_append, List.cons.injEq] at htext
          obtain ⟨rfl, htext⟩ := htext
          refine .inr ⟨u, m, v, htext, ?_⟩
          simpa using h

/-- A search succeeds exactly if some part of the text is matched in its place. -/
theorem found_iff (w : WordChars) (r : Regex) (text : List Char) :
    found w r text = true ↔ ∃ u m v, text = u ++ m ++ v ∧ Matches w r u.reverse m v := by
  rw [found, foundFrom_iff]
  simp only [List.append_nil]

/-- The parts a match divides a text into, where no match starts further to the left. -/
structure FirstMatch (w : WordChars) (r : Regex) (text u m v : List Char) : Prop where
  split : text = u ++ m ++ v
  fits : Matches w r u.reverse m v
  first : ∀ x y z, text = x ++ y ++ z → Matches w r x.reverse y z → u.length ≤ x.length

lemma searchFrom_spec {text : List Char} {start stop : Cursor}
    (h : searchFrom w r back text = some (start, stop)) :
    ∃ u m, text = u ++ m ++ stop.rest ∧ start.back = u.reverse ++ back ∧
      start.rest = m ++ stop.rest ∧ Matches w r start.back m stop.rest ∧
      ∀ x y z, text = x ++ y ++ z → Matches w r (x.reverse ++ back) y z →
        u.length ≤ x.length := by
  have hhere : ∀ {back text : List Char}, (run w r ⟨back, text, []⟩).head? = some stop →
      ∃ m, text = m ++ stop.rest ∧ Matches w r back m stop.rest := by
    intro back text hhead
    obtain ⟨m, hm⟩ := (run_faithful w r).sound _ stop (List.mem_of_head? hhead)
    exact ⟨m, hm.rest, hm.fits⟩
  induction text generalizing back with
  | nil =>
      rw [searchFrom, Option.map_eq_some_iff] at h
      obtain ⟨last, hlast, heq⟩ := h
      simp only [Prod.mk.injEq] at heq
      obtain ⟨rfl, rfl⟩ := heq
      obtain ⟨m, htext, hmatch⟩ := hhere hlast
      exact ⟨[], m, htext, rfl, htext, hmatch, by simp⟩
  | cons c cs ih =>
      rw [searchFrom] at h
      split at h
      · rename_i last hlast
        simp only [Option.some.injEq, Prod.mk.injEq] at h
        obtain ⟨rfl, rfl⟩ := h
        obtain ⟨m, htext, hmatch⟩ := hhere hlast
        exact ⟨[], m, htext, rfl, htext, hmatch, by simp⟩
      · rename_i hnone
        obtain ⟨u, m, htext, hback, hrest, hmatch, hfirst⟩ := ih h
        refine ⟨c :: u, m, by simp [htext], by simp [hback], hrest, hmatch, ?_⟩
        intro x y z hsplit hfits
        rcases x with _ | ⟨d, x⟩
        -- a match at the start would have been found there
        · rw [List.head?_eq_none_iff] at hnone
          obtain ⟨last, hlast, -⟩ :=
            (run_faithful w r).complete ⟨back, c :: cs, []⟩ y z hsplit hfits
          simp [hnone] at hlast
        · simp only [List.cons_append, List.cons.injEq] at hsplit
          obtain ⟨rfl, hsplit⟩ := hsplit
          have hle := hfirst x y z hsplit (by simpa using hfits)
          simpa using hle

theorem firstMatch_of_search {text : List Char} {start stop : Cursor}
    (h : search w r text = some (start, stop)) :
    ∃ u m, FirstMatch w r text u m stop.rest ∧ start.back = u.reverse ∧
      start.rest = m ++ stop.rest := by
  obtain ⟨u, m, htext, hback, hrest, hmatch, hfirst⟩ := searchFrom_spec h
  rw [List.append_nil] at hback
  refine ⟨u, m, ⟨htext, hback ▸ hmatch, ?_⟩, hback, hrest⟩
  intro x y z hsplit hfits
  exact hfirst x y z hsplit (by simpa using hfits)

lemma between_eq {start stop : Cursor} (h : start.rest = m ++ stop.rest) :
    between start stop = m := by
  rw [between, h, List.length_append, Nat.add_sub_cancel_right, List.take_left]

/-- Where there is a match, a search finds the first. -/
theorem exists_search {text : List Char}
    (h : ∃ u m v, text = u ++ m ++ v ∧ Matches w r u.reverse m v) :
    ∃ start stop, search w r text = some (start, stop) := by
  have hfound : found w r text = true := (found_iff w r text).mpr h
  obtain ⟨⟨start, stop⟩, hsearch⟩ := Option.isSome_iff_exists.mp hfound
  exact ⟨start, stop, hsearch⟩

lemma found_alt (w : WordChars) (a b : Regex) (text : List Char) :
    found w (alt a b) text = (found w a text || found w b text) := by
  rw [Bool.eq_iff_iff, Bool.or_eq_true, found_iff, found_iff, found_iff]
  constructor
  · rintro ⟨u, m, v, htext, h | h⟩
    · exact .inl ⟨u, m, v, htext, h⟩
    · exact .inr ⟨u, m, v, htext, h⟩
  · rintro (⟨u, m, v, htext, h⟩ | ⟨u, m, v, htext, h⟩)
    · exact ⟨u, m, v, htext, .inl h⟩
    · exact ⟨u, m, v, htext, .inr h⟩

/-- A literal matches the texts that differ from it in case at most. -/
lemma matches_literal_iff {p : List Char} :
    Matches w (literal p) back m after ↔ m.map foldCase = p.map foldCase := by
  induction p generalizing back m with
  | nil => simp [literal, Matches]
  | cons c p ih =>
      constructor
      · rintro ⟨x, y, rfl, ⟨d, rfl, hd⟩, hy⟩
        rw [beq_iff_eq] at hd
        rw [List.map_append, ih.mp hy, List.map_cons, hd]
        rfl
      · intro hm
        rcases m with _ | ⟨d, m⟩
        · simp at hm
        · simp only [List.map_cons, List.cons.injEq] at hm
          refine ⟨[d], m, rfl, ⟨d, rfl, ?_⟩, ih.mpr hm.2⟩
          rw [beq_iff_eq, hm.1]

lemma matches_oneOf_iff {rs : List Regex} :
    Matches w (oneOf rs) back m after ↔ ∃ r ∈ rs, Matches w r back m after := by
  induction rs with
  | nil => simp [oneOf, Matches]
  | cons r rs ih =>
      rcases rs with _ | ⟨s, rs⟩
      · simp [oneOf]
      · have hcons : oneOf (r :: s :: rs) = alt r (oneOf (s :: rs)) := rfl
        rw [hcons, Matches, ih]
        simp

lemma found_words_mono {a b : Regex} {few more : List String} (hsub : few ⊆ more)
    {text : List Char} (h : found w (inOrder [a, words few, b]) text = true) :
    found w (inOrder [a, words more, b]) text = true := by
  obtain ⟨u, m, v, htext, hmatch⟩ := (found_iff w _ _).mp h
  obtain ⟨x, n, hm, hx, y, z, hn, hy, hz⟩ := hmatch
  refine (found_iff w _ _).mpr ⟨u, m, v, htext, x, n, hm, hx, y, z, hn, ?_, hz⟩
  obtain ⟨r, hr, hmatch⟩ := matches_oneOf_iff.mp hy
  exact matches_oneOf_iff.mpr ⟨r, List.map_subset word hsub hr, hmatch⟩

/-! ## Residuals -/

/-- Whether an expression can match nothing, were its tests to hold. -/
def nullable : Regex → Bool
  | char _ => false
  | seq a b => nullable a && nullable b
  | alt a b => nullable a || nullable b
  | group _ a => nullable a
  | _ => true

/-- What can remain of an expression after a character. -/
def step (c : Char) : Regex → List Regex
  | char p => if p c then [empty] else []
  | seq a b => (step c a).map (seq · b) ++ (if nullable a then step c b else [])
  | alt a b => step c a ++ step c b
  | star greedy a => (step c a).map (seq · (star greedy a))
  | group _ a => step c a
  | _ => []

/-- What can remain of an expression after some text that is not empty. -/
def residuals : Regex → List Regex
  | char _ => [empty]
  | seq a b => (residuals a).map (seq · b) ++ residuals b
  | alt a b => residuals a ++ residuals b
  | star greedy a => (residuals a).map (seq · (star greedy a))
  | group _ a => residuals a
  | _ => []

lemma nullable_of_matches (h : Matches w r back [] after) : nullable r = true := by
  induction r generalizing back after with
  | char p =>
      obtain ⟨c, hc, -⟩ := h
      simp at hc
  | seq a b iha ihb =>
      obtain ⟨x, y, hxy, hx, hy⟩ := h
      obtain ⟨rfl, rfl⟩ := List.append_eq_nil_iff.mp hxy.symm
      rw [nullable, iha hx, ihb hy]
      rfl
  | alt a b iha ihb =>
      rw [nullable, Bool.or_eq_true]
      exact h.imp iha ihb
  | group n a ih => exact ih h
  | empty => rfl
  | star greedy a ih => rfl
  | wordEdge => rfl
  | textStart => rfl
  | textEnd => rfl
  | ahead wanted a ih => rfl

lemma exists_step_of_iterated {a : Regex} {greedy : Bool} {c : Char}
    (ih : ∀ {back m after}, Matches w a back (c :: m) after →
      ∃ d ∈ step c a, Matches w d (c :: back) m after)
    {back n after : List Char} (h : Iterated (Matches w a) back n after) :
    ∀ m, n = c :: m → ∃ d ∈ step c (star greedy a), Matches w d (c :: back) m after := by
  induction h with
  | nil => intro m hm; simp at hm
  | @cons back x y after hfirst hmore ihmore =>
      intro m hm
      rcases x with _ | ⟨d, x⟩
      · exact ihmore m hm
      · simp only [List.cons_append, List.cons.injEq] at hm
        obtain ⟨rfl, rfl⟩ := hm
        obtain ⟨d', hd', hmatch⟩ := ih hfirst
        refine ⟨seq d' (star greedy a), ?_, x, y, rfl, hmatch, ?_⟩
        · rw [step]
          exact List.mem_map_of_mem hd'
        · rw [List.reverse_cons, List.append_assoc] at hmore
          exact hmore

lemma exists_step {c : Char} (h : Matches w r back (c :: m) after) :
    ∃ d ∈ step c r, Matches w d (c :: back) m after := by
  induction r generalizing back m after with
  | char p =>
      obtain ⟨d, hd, hp⟩ := h
      simp only [List.cons.injEq] at hd
      obtain ⟨rfl, rfl⟩ := hd
      refine ⟨empty, ?_, rfl⟩
      rw [step, if_pos hp]
      exact List.mem_singleton_self _
  | seq a b iha ihb =>
      obtain ⟨x, y, hxy, hx, hy⟩ := h
      rcases x with _ | ⟨d, x⟩
      · rw [List.nil_append] at hxy
        subst hxy
        obtain ⟨d, hd, hmatch⟩ := ihb hy
        refine ⟨d, ?_, hmatch⟩
        rw [step, nullable_of_matches hx]
        exact List.mem_append_right _ hd
      · simp only [List.cons_append, List.cons.injEq] at hxy
        obtain ⟨rfl, rfl⟩ := hxy
        obtain ⟨d, hd, hmatch⟩ := iha hx
        refine ⟨seq d b, ?_, x, y, rfl, hmatch, ?_⟩
        · rw [step]
          exact List.mem_append_left _ (List.mem_map_of_mem hd)
        · simpa using hy
  | alt a b iha ihb =>
      rcases h with h | h
      · obtain ⟨d, hd, hmatch⟩ := iha h
        exact ⟨d, List.mem_append_left _ hd, hmatch⟩
      · obtain ⟨d, hd, hmatch⟩ := ihb h
        exact ⟨d, List.mem_append_right _ hd, hmatch⟩
  | star greedy a ih => exact exists_step_of_iterated ih h m rfl
  | group n a ih => exact ih h
  | empty => simp [Matches] at h
  | wordEdge => simp [Matches] at h
  | textStart => simp [Matches] at h
  | textEnd => simp [Matches] at h
  | ahead wanted a ih => simp [Matches] at h

lemma exists_residual_of_iterated {a : Regex} {greedy : Bool}
    (ih : ∀ {back x y after}, x ≠ [] → Matches w a back (x ++ y) after →
      ∃ d ∈ residuals a, Matches w d (x.reverse ++ back) y after)
    {back n after : List Char} (h : Iterated (Matches w a) back n after) :
    ∀ x y, x ≠ [] → n = x ++ y →
      ∃ d ∈ residuals (star greedy a), Matches w d (x.reverse ++ back) y after := by
  induction h with
  | nil =>
      intro x y hx hn
      exact absurd (List.append_eq_nil_iff.mp hn.symm).1 hx
  | @cons back m k after hfirst hmore ihmore =>
      intro x y hx hn
      rcases List.append_eq_append_iff.mp hn with ⟨z, rfl, hk⟩ | ⟨z, rfl, rfl⟩
      -- the first part ends in a later piece
      · rcases z with _ | ⟨c, z⟩
        · rw [List.nil_append] at hk
          subst hk
          rw [List.append_nil] at hx ⊢
          rw [← List.append_nil m] at hfirst
          obtain ⟨d, hd, hmatch⟩ := ih hx hfirst
          refine ⟨seq d (star greedy a), ?_, [], k, rfl, hmatch, hmore⟩
          rw [residuals]
          exact List.mem_map_of_mem hd
        · obtain ⟨d, hd, hmatch⟩ := ihmore (c :: z) y (by simp) hk
          refine ⟨d, hd, ?_⟩
          simpa [List.append_assoc] using hmatch
      -- it ends in the first piece
      · obtain ⟨d, hd, hmatch⟩ := ih hx hfirst
        refine ⟨seq d (star greedy a), ?_, z, k, rfl, hmatch, ?_⟩
        · rw [residuals]
          exact List.mem_map_of_mem hd
        · rw [List.reverse_append, List.append_assoc] at hmore
          exact hmore

lemma exists_residual {x y : List Char} (hx : x ≠ []) (h : Matches w r back (x ++ y) after) :
    ∃ d ∈ residuals r, Matches w d (x.reverse ++ back) y after := by
  induction r generalizing back x y after with
  | char p =>
      obtain ⟨c, hc, -⟩ := h
      obtain ⟨e, x, rfl⟩ := List.exists_cons_of_ne_nil hx
      simp only [List.cons_append, List.cons.injEq, List.append_eq_nil_iff] at hc
      exact ⟨empty, List.mem_singleton_self _, hc.2.2⟩
  | seq a b iha ihb =>
      obtain ⟨m, k, hmk, hm, hk⟩ := h
      rcases List.append_eq_append_iff.mp hmk with ⟨z, rfl, rfl⟩ | ⟨z, rfl, rfl⟩
      -- the first part ends in the first expression
      · obtain ⟨d, hd, hmatch⟩ := iha hx hm
        refine ⟨seq d b, ?_, z, k, rfl, hmatch, ?_⟩
        · rw [residuals]
          exact List.mem_append_left _ (List.mem_map_of_mem hd)
        · simpa [List.append_assoc] using hk
      -- or it goes on in the second
      · rcases z with _ | ⟨c, z⟩
        · rw [List.append_nil] at hx ⊢
          rw [← List.append_nil m] at hm
          obtain ⟨d, hd, hmatch⟩ := iha hx hm
          refine ⟨seq d b, ?_, [], y, rfl, hmatch, hk⟩
          rw [residuals]
          exact List.mem_append_left _ (List.mem_map_of_mem hd)
        · obtain ⟨d, hd, hmatch⟩ := ihb (by simp) hk
          refine ⟨d, List.mem_append_right _ hd, ?_⟩
          simpa [List.append_assoc] using hmatch
  | alt a b iha ihb =>
      rcases h with h | h
      · obtain ⟨d, hd, hmatch⟩ := iha hx h
        exact ⟨d, List.mem_append_left _ hd, hmatch⟩
      · obtain ⟨d, hd, hmatch⟩ := ihb hx h
        exact ⟨d, List.mem_append_right _ hd, hmatch⟩
  | star greedy a ih => exact exists_residual_of_iterated ih h x y hx rfl
  | group n a ih => exact ih hx h
  | empty => exact absurd (List.append_eq_nil_iff.mp h).1 hx
  | wordEdge => exact absurd (List.append_eq_nil_iff.mp h.1).1 hx
  | textStart => exact absurd (List.append_eq_nil_iff.mp h.1).1 hx
  | textEnd => exact absurd (List.append_eq_nil_iff.mp h.1).1 hx
  | ahead wanted a ih => exact absurd (List.append_eq_nil_iff.mp h.1).1 hx

/-! ## Texts without a match -/

/-- No start of the text is matched by one of the expressions. -/
def misses : List Regex → List Char → Bool
  | rs, [] => !rs.any nullable
  | rs, c :: cs => !rs.any nullable && misses (rs.flatMap (step c)) cs

/-- The expressions have come to nothing before the text ends: however it goes on, no start
of it is matched. -/
def closes : List Regex → List Char → Bool
  | rs, [] => rs.isEmpty
  | rs, c :: cs => !rs.any nullable && closes (rs.flatMap (step c)) cs

/-- No part of the text is matched. -/
def silent (r : Regex) : List Char → Bool
  | [] => misses [r] []
  | c :: cs => misses [r] (c :: cs) && silent r cs

/-- No match starts in the text, however it goes on. -/
def blocks (r : Regex) : List Char → Bool
  | [] => true
  | c :: cs => closes [r] (c :: cs) && blocks r cs

/-- No match goes on into the text from what precedes it. -/
def shuts (r : Regex) : List Char → Bool
  | [] => false
  | c :: cs => closes ((residuals r).flatMap (step c)) cs

lemma not_matches_of_misses {rs : List Regex} {text : List Char} (h : misses rs text = true)
    (hr : r ∈ rs) {v : List Char} (htext : text = m ++ v) :
    ¬ Matches w r back m after := by
  induction text generalizing rs r back m with
  | nil =>
      intro hmatch
      obtain ⟨rfl, -⟩ := List.append_eq_nil_iff.mp htext.symm
      simp only [misses, Bool.not_eq_true', List.any_eq_false] at h
      exact h r hr (nullable_of_matches hmatch)
  | cons c cs ih =>
      intro hmatch
      rw [misses, Bool.and_eq_true, Bool.not_eq_true', List.any_eq_false] at h
      obtain ⟨hnull, hcs⟩ := h
      rcases m with _ | ⟨d, m⟩
      · exact hnull r hr (nullable_of_matches hmatch)
      · simp only [List.cons_append, List.cons.injEq] at htext
        obtain ⟨rfl, rfl⟩ := htext
        obtain ⟨d, hd, hmatch⟩ := exists_step hmatch
        exact ih hcs (List.mem_flatMap.mpr ⟨r, hr, hd⟩) rfl hmatch

lemma not_matches_of_closes {rs : List Regex} {text : List Char} (h : closes rs text = true)
    (hr : r ∈ rs) {t v : List Char} (htext : text ++ t = m ++ v) :
    ¬ Matches w r back m after := by
  induction text generalizing rs r back m with
  | nil =>
      rw [closes, List.isEmpty_iff] at h
      simp [h] at hr
  | cons c cs ih =>
      intro hmatch
      rw [closes, Bool.and_eq_true, Bool.not_eq_true', List.any_eq_false] at h
      obtain ⟨hnull, hcs⟩ := h
      rcases m with _ | ⟨d, m⟩
      · exact hnull r hr (nullable_of_matches hmatch)
      · simp only [List.cons_append, List.cons.injEq] at htext
        obtain ⟨rfl, htext⟩ := htext
        obtain ⟨d, hd, hmatch⟩ := exists_step hmatch
        exact ih hcs (List.mem_flatMap.mpr ⟨r, hr, hd⟩) htext hmatch

lemma misses_of_silent {u t : List Char} (h : silent r (u ++ t) = true) :
    misses [r] t = true := by
  induction u with
  | nil =>
      rcases t with _ | ⟨c, cs⟩
      · exact h
      · rw [List.nil_append, silent, Bool.and_eq_true] at h
        exact h.1
  | cons c u ih =>
      rw [List.cons_append, silent, Bool.and_eq_true] at h
      exact ih h.2

lemma closes_of_blocks {u cs : List Char} {c : Char} (h : blocks r (u ++ c :: cs) = true) :
    closes [r] (c :: cs) = true := by
  induction u with
  | nil =>
      rw [List.nil_append, blocks, Bool.and_eq_true] at h
      exact h.1
  | cons d u ih =>
      rw [List.cons_append, blocks, Bool.and_eq_true] at h
      exact ih h.2

/-- A search in a text that is silent for the expression fails. -/
theorem foundFrom_eq_false_of_silent {text : List Char} (h : silent r text = true)
    (w : WordChars) (back : List Char) : foundFrom w r back text = false := by
  rw [Bool.eq_false_iff]
  intro hfound
  obtain ⟨u, m, v, htext, hmatch⟩ := (foundFrom_iff w r back text).mp hfound
  rw [htext, List.append_assoc] at h
  exact not_matches_of_misses (misses_of_silent h) (List.mem_singleton_self r) rfl hmatch

/-! ## Texts put together -/

/-- The expression has no anchor and no lookahead. -/
def isLocal : Regex → Bool
  | seq a b => isLocal a && isLocal b
  | alt a b => isLocal a && isLocal b
  | star _ a => isLocal a
  | group _ a => isLocal a
  | textStart => false
  | textEnd => false
  | ahead _ _ => false
  | _ => true

lemma atWord_append {s s' : List Char} (h : atWord w s = atWord w s') (x : List Char) :
    atWord w (x ++ s) = atWord w (x ++ s') := by
  cases x with
  | nil => exact h
  | cons c x => rfl

lemma matches_congr (hlocal : isLocal r = true) {back back' m after after' : List Char}
    (hback : atWord w back = atWord w back') (hafter : atWord w after = atWord w after')
    (h : Matches w r back m after) : Matches w r back' m after' := by
  induction r generalizing back back' m after after' with
  | empty => exact h
  | char p => exact h
  | seq a b iha ihb =>
      rw [isLocal, Bool.and_eq_true] at hlocal
      obtain ⟨x, y, rfl, hx, hy⟩ := h
      refine ⟨x, y, rfl, ?_, ?_⟩
      · exact iha hlocal.1 hback (atWord_append hafter y) hx
      · exact ihb hlocal.2 (atWord_append hback x.reverse) hafter hy
  | alt a b iha ihb =>
      rw [isLocal, Bool.and_eq_true] at hlocal
      exact h.imp (iha hlocal.1 hback hafter) (ihb hlocal.2 hback hafter)
  | star greedy a ih =>
      induction h generalizing back' after' with
      | nil => exact .nil back' after'
      | @cons back x y after hfirst hmore ihmore =>
          refine .cons (ih hlocal hback (atWord_append hafter y) hfirst) ?_
          exact ihmore (atWord_append hback x.reverse) hafter
  | group n a ih => exact ih hlocal hback hafter h
  | wordEdge =>
      obtain ⟨rfl, hedge⟩ := h
      exact ⟨rfl, by rwa [← hback, ← hafter]⟩
  | textStart => simp [isLocal] at hlocal
  | textEnd => simp [isLocal] at hlocal
  | ahead wanted a ih => simp [isLocal] at hlocal

/-- After something that is not a word a search goes as at the start of a text. -/
theorem foundFrom_eq_found (hlocal : isLocal r = true) (hback : atWord w back = false)
    (text : List Char) : foundFrom w r back text = found w r text := by
  rw [Bool.eq_iff_iff, found_iff, foundFrom_iff]
  have hsame : ∀ u : List Char, atWord w (u.reverse ++ back) = atWord w u.reverse := by
    intro u
    have hempty : atWord w back = atWord w [] := hback
    rw [atWord_append hempty u.reverse, List.append_nil]
  constructor
  · rintro ⟨u, m, v, htext, h⟩
    exact ⟨u, m, v, htext, matches_congr hlocal (hsame u) rfl h⟩
  · rintro ⟨u, m, v, htext, h⟩
    exact ⟨u, m, v, htext, matches_congr hlocal (hsame u).symm rfl h⟩

/-- Where no match starts in the first part, the search is one in the second. -/
theorem foundFrom_append_left {p : List Char} (hblocks : blocks r p = true)
    (back text : List Char) :
    foundFrom w r back (p ++ text) = foundFrom w r (p.reverse ++ back) text := by
  rw [Bool.eq_iff_iff, foundFrom_iff, foundFrom_iff]
  constructor
  · rintro ⟨u, m, v, htext, h⟩
    rw [List.append_assoc] at htext
    rcases List.append_eq_append_iff.mp htext with ⟨z, rfl, rfl⟩ | ⟨z, rfl, hz⟩
    · refine ⟨z, m, v, by simp, ?_⟩
      simpa [List.append_assoc] using h
    · rcases z with _ | ⟨c, z⟩
      · refine ⟨[], m, v, by simpa using hz.symm, ?_⟩
        simpa using h
      -- a match that starts in the first part
      · exact absurd h (not_matches_of_closes (closes_of_blocks hblocks)
          (List.mem_singleton_self r) hz.symm)
  · rintro ⟨u, m, v, rfl, h⟩
    refine ⟨p ++ u, m, v, by simp, ?_⟩
    simpa [List.append_assoc] using h

/-- Where no match goes on into the second part, which starts with no word, a match lies in
the first part or starts in the second. -/
theorem found_append_right (hlocal : isLocal r = true) {t₀ : List Char}
    (hshuts : shuts r t₀ = true) (hword : atWord w t₀ = false) (u t : List Char) :
    found w r (u ++ (t₀ ++ t)) = (found w r u || foundFrom w r u.reverse (t₀ ++ t)) := by
  rw [Bool.eq_iff_iff, Bool.or_eq_true, found_iff, found_iff, foundFrom_iff]
  have hend : atWord w (t₀ ++ t) = false := by
    rcases t₀ with _ | ⟨c, t₀⟩
    · simp [shuts] at hshuts
    · exact hword
  have hsame : ∀ z, atWord w (z ++ (t₀ ++ t)) = atWord w z := by
    intro z
    have hempty : atWord w (t₀ ++ t) = atWord w [] := hend
    rw [atWord_append hempty z, List.append_nil]
  constructor
  · rintro ⟨a, m, v, htext, h⟩
    rw [List.append_assoc] at htext
    rcases List.append_eq_append_iff.mp htext with ⟨z, rfl, hz⟩ | ⟨z, rfl, hz⟩
    -- it starts in the second part
    · refine .inr ⟨z, m, v, by simpa [List.append_assoc] using hz, ?_⟩
      simpa using h
    · rcases List.append_eq_append_iff.mp hz with ⟨y, rfl, rfl⟩ | ⟨y, rfl, hy⟩
      -- it lies in the first part
      · exact .inl ⟨a, m, y, by simp, matches_congr hlocal rfl (hsame y) h⟩
      · rcases y with _ | ⟨c, y⟩
        · rw [List.nil_append] at hy
          rw [List.append_nil] at h
          refine .inl ⟨a, z, [], by simp, matches_congr hlocal rfl ?_ h⟩
          rw [← hy, hend]
          rfl
        · rcases z with _ | ⟨x, z⟩
          · refine .inr ⟨[], c :: y, v, by simpa using hy, ?_⟩
            simpa using h
          -- it would go on from the first part into the second
          · obtain ⟨d, hd, hmatch⟩ := exists_residual (by simp) h
            obtain ⟨e, he, hmatch⟩ := exists_step hmatch
            rcases t₀ with _ | ⟨b, t₀⟩
            · simp [shuts] at hshuts
            · simp only [List.cons_append, List.cons.injEq] at hy
              obtain ⟨rfl, hy⟩ := hy
              have hmem := List.mem_flatMap.mpr ⟨d, hd, he⟩
              exact absurd hmatch (not_matches_of_closes hshuts hmem hy)
  · rintro (⟨a, m, v, rfl, h⟩ | ⟨a, m, v, htext, h⟩)
    · refine ⟨a, m, v ++ (t₀ ++ t), by simp, matches_congr hlocal rfl (hsame v).symm h⟩
    · refine ⟨u ++ a, m, v, by simp [htext], ?_⟩
      simpa using h

/-- An expression tied to the start of the text is not found where it cannot start. -/
theorem found_textStart_eq_false {a : Regex} {p : List Char}
    (hcloses : closes [seq textStart a] p = true) (t : List Char) :
    found w (seq textStart a) (p ++ t) = false := by
  rw [Bool.eq_false_iff]
  intro hfound
  obtain ⟨u, m, v, htext, h⟩ := (found_iff w _ _).mp hfound
  obtain ⟨x, y, rfl, ⟨rfl, hback⟩, hy⟩ := id h
  rw [List.reverse_eq_nil_iff] at hback
  subst hback
  exact not_matches_of_closes hcloses (List.mem_singleton_self _) htext h

/-- A check on a given text runs on its characters: `rfl` supplies them, so that evaluation
does not pass through the text's encoding. -/
lemma check_of_chars {check : List Char → Bool} {text : String} {cs : List Char}
    (htext : text = String.ofList cs) (h : check cs = true) : check text.toList = true := by
  rw [htext, String.toList_ofList, h]

end Regex

end Samaktha
