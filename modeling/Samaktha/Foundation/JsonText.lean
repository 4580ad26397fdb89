import Samaktha.Foundation.Json
import Mathlib.Tactic.IntervalCases

/-!
# The text of a JSON value

`json.dumps` with its default separators and `ensure_ascii`.  The text determines the value:
each character of a string is escaped to a text that can be read back (`unescape_escape`),
numbers end at a separator, and everything else shows in its first character
(`dumps_append_inj`).

A value is `Genuine` where its floats carry the texts that `repr` gives to floats.

Nothing here mentions the program being verified.
-/

namespace Samaktha

namespace Json

/-! ## Strings -/

/-- The value of a hexadecimal digit. -/
def hexValue (c : Char) : ℕ :=
  if 'a'.toNat ≤ c.toNat then c.toNat - 'a'.toNat + 10 else c.toNat - '0'.toNat

def unicodeEscape (n : ℕ) : List Char :=
  ['\\', 'u', Nat.digitChar (n / 4096 % 16), Nat.digitChar (n / 256 % 16),
    Nat.digitChar (n / 16 % 16), Nat.digitChar (n % 16)]

def shortEscapes : List (Char × Char) :=
  [('"', '"'), ('\\', '\\'), ('\n', 'n'), ('\r', 'r'), ('\t', 't'), (Char.ofNat 12, 'f'),
    (Char.ofNat 8, 'b')]

/-- A character in a string. -/
def escape (c : Char) : List Char :=
  match shortEscapes.find? fun e => e.1 = c with
  | some e => ['\\', e.2]
  | none =>
      if 0x20 ≤ c.toNat && c.toNat ≤ 0x7E then [c]
      else if c.toNat < 0x10000 then unicodeEscape c.toNat
      else unicodeEscape (0xD800 + (c.toNat - 0x10000) / 0x400) ++
        unicodeEscape (0xDC00 + (c.toNat - 0x10000) % 0x400)

def quote (s : String) : List Char := '"' :: (s.toList.flatMap escape ++ ['"'])

/-- Reads the four digits of a unicode escape. -/
def readHex : List Char → Option (ℕ × List Char)
  | a :: b :: c :: d :: rest =>
      some (hexValue a * 4096 + hexValue b * 256 + hexValue c * 16 + hexValue d, rest)
  | _ => none

/-- Reads an escaped character. -/
def unescape : List Char → Option (Char × List Char)
  | [] => none
  | c :: rest =>
      if c ≠ '\\' then some (c, rest)
      else
        match rest with
        | [] => none
        | letter :: rest =>
            if letter ≠ 'u' then
              (shortEscapes.find? fun e => e.2 = letter).map fun e => (e.1, rest)
            else do
              let (n, rest) ← readHex rest
              if 0xD800 ≤ n && n < 0xDC00 then do
                let (m, rest) ← readHex (rest.drop 2)
                some (Char.ofNat (0x10000 + (n - 0xD800) * 0x400 + (m - 0xDC00)), rest)
              else some (Char.ofNat n, rest)

lemma hexValue_digitChar {n : ℕ} (h : n < 16) : hexValue (Nat.digitChar n) = n := by
  interval_cases n <;> rfl

lemma readHex_unicodeEscape {n : ℕ} (h : n < 65536) (r : List Char) :
    readHex ((unicodeEscape n).drop 2 ++ r) = some (n, r) := by
  have hdigits : readHex ((unicodeEscape n).drop 2 ++ r) =
      some (hexValue (Nat.digitChar (n / 4096 % 16)) * 4096 +
        hexValue (Nat.digitChar (n / 256 % 16)) * 256 +
        hexValue (Nat.digitChar (n / 16 % 16)) * 16 + hexValue (Nat.digitChar (n % 16)), r) := rfl
  rw [hdigits, hexValue_digitChar (Nat.mod_lt _ (by decide)),
    hexValue_digitChar (Nat.mod_lt _ (by decide)), hexValue_digitChar (Nat.mod_lt _ (by decide)),
    hexValue_digitChar (Nat.mod_lt _ (by decide))]
  have hsum : n / 4096 % 16 * 4096 + n / 256 % 16 * 256 + n / 16 % 16 * 16 + n % 16 = n := by omega
  rw [hsum]

lemma unescape_unicodeEscape {n : ℕ} (h : n < 65536) (r : List Char) :
    unescape (unicodeEscape n ++ r) =
      if 0xD800 ≤ n && n < 0xDC00 then
        (readHex (r.drop 2)).map fun read =>
          (Char.ofNat (0x10000 + (n - 0xD800) * 0x400 + (read.1 - 0xDC00)), read.2)
      else some (Char.ofNat n, r) := by
  have hread := readHex_unicodeEscape h r
  have hstep : unescape (unicodeEscape n ++ r) = (do
      let (n, rest) ← readHex ((unicodeEscape n).drop 2 ++ r)
      if 0xD800 ≤ n && n < 0xDC00 then do
        let (m, rest) ← readHex (rest.drop 2)
        some (Char.ofNat (0x10000 + (n - 0xD800) * 0x400 + (m - 0xDC00)), rest)
      else some (Char.ofNat n, rest)) := rfl
  rw [hstep, hread]
  show (if _ then _ else _) = _
  split
  · cases readHex (r.drop 2) with
    | none => rfl
    | some read => rfl
  · rfl

lemma unescape_escape (c : Char) (r : List Char) : unescape (escape c ++ r) = some (c, r) := by
  unfold escape
  cases hshort : shortEscapes.find? fun e => e.1 = c with
  | some e =>
      have hkey : e.1 = c := by simpa using List.find?_some hshort
      have hback : ∀ e ∈ shortEscapes,
          e.2 ≠ 'u' ∧ (shortEscapes.find? fun other => other.2 = e.2) = some e := by decide
      obtain ⟨hletter, hfind⟩ := hback e (List.mem_of_find?_eq_some hshort)
      show unescape ('\\' :: e.2 :: r) = _
      unfold unescape
      dsimp only
      rw [if_neg (not_not_intro rfl), if_pos hletter, hfind, ← hkey]
      rfl
  | none =>
      have hplain : c ≠ '\\' := by
        rintro rfl
        exact absurd hshort (by decide)
      dsimp only
      split
      · show unescape (c :: r) = _
        unfold unescape
        dsimp only
        rw [if_pos hplain]
      · have hvalid : c.toNat < 0xD800 ∨ 0xDFFF < c.toNat ∧ c.toNat < 0x110000 := c.valid
        split
        · rename_i hbasic
          rw [unescape_unicodeEscape hbasic, if_neg (by simp; omega), Char.ofNat_toNat]
        · rename_i hastral
          -- a pair of surrogates
          have hhigh : 0xD800 + (c.toNat - 0x10000) / 0x400 < 0xDC00 := by omega
          rw [List.append_assoc, unescape_unicodeEscape (by omega), if_pos (by simp; omega)]
          have hlow := readHex_unicodeEscape
            (n := 0xDC00 + (c.toNat - 0x10000) % 0x400) (by omega) r
          have hdrop : (unicodeEscape (0xDC00 + (c.toNat - 0x10000) % 0x400) ++ r).drop 2 =
              (unicodeEscape (0xDC00 + (c.toNat - 0x10000) % 0x400)).drop 2 ++ r := rfl
          rw [hdrop, hlow, Option.map_some]
          have hsum : 0x10000 + (0xD800 + (c.toNat - 0x10000) / 0x400 - 0xD800) * 0x400 +
              (0xDC00 + (c.toNat - 0x10000) % 0x400 - 0xDC00) = c.toNat := by omega
          rw [hsum, Char.ofNat_toNat]

lemma escape_append_inj {c d : Char} {r r' : List Char}
    (h : escape c ++ r = escape d ++ r') : c = d ∧ r = r' := by
  have hread := unescape_escape c r
  rw [h, unescape_escape d r'] at hread
  obtain ⟨rfl, rfl⟩ := Prod.mk.inj (Option.some.inj hread)
  exact ⟨rfl, rfl⟩

lemma escape_append_ne_quote (c : Char) (r r' : List Char) : escape c ++ r ≠ '"' :: r' := by
  intro h
  have hread := unescape_escape c r
  rw [h] at hread
  have hquote : unescape ('"' :: r') = some ('"', r') := rfl
  obtain ⟨rfl, rfl⟩ := Prod.mk.inj (Option.some.inj (hquote.symm.trans hread))
  have hlength := congrArg List.length h
  rw [List.length_append] at hlength
  have htwo : (escape '"').length = 2 := by decide
  rw [htwo, List.length_cons] at hlength
  omega

lemma flatMap_escape_inj {cs ds : List Char} {r r' : List Char}
    (h : cs.flatMap escape ++ '"' :: r = ds.flatMap escape ++ '"' :: r') : cs = ds ∧ r = r' := by
  induction cs generalizing ds with
  | nil =>
      cases ds with
      | nil => exact ⟨rfl, (List.cons.inj h).2⟩
      | cons d ds =>
          rw [List.flatMap_cons, List.append_assoc] at h
          exact absurd h.symm (escape_append_ne_quote d _ _)
  | cons c cs ih =>
      rw [List.flatMap_cons, List.append_assoc] at h
      cases ds with
      | nil => exact absurd h (escape_append_ne_quote c _ _)
      | cons d ds =>
          rw [List.flatMap_cons, List.append_assoc] at h
          obtain ⟨rfl, hrest⟩ := escape_append_inj h
          obtain ⟨rfl, hr⟩ := ih hrest
          exact ⟨rfl, hr⟩

lemma quote_append_inj {s t : String} {r r' : List Char} (h : quote s ++ r = quote t ++ r') :
    s = t ∧ r = r' := by
  have hinner : s.toList.flatMap escape ++ '"' :: r = t.toList.flatMap escape ++ '"' :: r' := by
    have htail : (s.toList.flatMap escape ++ ['"']) ++ r =
        (t.toList.flatMap escape ++ ['"']) ++ r' := (List.cons.inj h).2
    rwa [List.append_assoc, List.append_assoc] at htail
  obtain ⟨hchars, hr⟩ := flatMap_escape_inj hinner
  exact ⟨String.toList_inj.mp hchars, hr⟩

/-! ## Numbers -/

/-- The text `repr` gives to a float is this: digits, a sign, and a point or an exponent, or one
of three names. -/
def IsFloat (repr : String) : Prop :=
  repr ∈ ["nan", "inf", "-inf"] ∨
    ((∃ c ∈ repr.toList, c ∈ ['.', 'e']) ∧
      (∃ c, repr.toList.head? = some c ∧ (c = '-' ∨ c.isDigit = true)) ∧
      ∀ c ∈ repr.toList, c.isDigit = true ∨ c ∈ ['.', 'e', '+', '-'])

def floatText (repr : String) : List Char :=
  if repr = "nan" then "NaN".toList
  else if repr = "inf" then "Infinity".toList
  else if repr = "-inf" then "-Infinity".toList
  else repr.toList

/-- The JSON text of an integer. -/
def intText (n : ℤ) : List Char := (toString n).toList

/-- The characters at which a number ends. -/
def ends (c : Char) : Bool := c ∈ [',', ']', '\x7d']

lemma intText_negSucc (m : ℕ) :
    intText (Int.negSucc m) = '-' :: (Nat.repr (m + 1)).toList := by
  show ("-" ++ Nat.repr (m + 1)).toList = _
  rw [String.toList_append]
  rfl

lemma isDigit_of_mem_intText {n : ℤ} {c : Char} (h : c ∈ intText n) :
    c.isDigit = true ∨ c = '-' := by
  have hnat : ∀ {m : ℕ}, c ∈ (Nat.repr m).toList → c.isDigit = true := by
    intro m hm
    rw [Nat.toList_repr] at hm
    exact Nat.isDigit_of_mem_toDigits (by decide) (by decide) hm
  cases n with
  | ofNat m => exact .inl (hnat h)
  | negSucc m =>
      rw [intText_negSucc] at h
      rcases List.mem_cons.mp h with rfl | hmem
      · exact .inr rfl
      · exact .inl (hnat hmem)

lemma intText_injective : Function.Injective intText := by
  have hread : ∀ m : ℕ, Nat.ofDigitChars 10 (Nat.repr m).toList 0 = m := by
    intro m
    rw [Nat.toList_repr]
    exact Nat.ofDigitChars_ten_toDigits
  have hminus : ∀ m k : ℕ, (Nat.repr m).toList ≠ '-' :: (Nat.repr k).toList := by
    intro m k h
    have hmem : '-' ∈ (Nat.repr m).toList := by
      rw [h]
      exact List.mem_cons_self
    rw [Nat.toList_repr] at hmem
    exact absurd (Nat.isDigit_of_mem_toDigits (by decide) (by decide) hmem) (by decide)
  have hpos : ∀ m : ℕ, intText (Int.ofNat m) = (Nat.repr m).toList := fun _ => rfl
  intro a b h
  cases a with
  | ofNat m =>
      cases b with
      | ofNat k =>
          rw [hpos, hpos] at h
          rw [← hread m, h, hread k]
      | negSucc k =>
          rw [hpos, intText_negSucc] at h
          exact absurd h (hminus m (k + 1))
  | negSucc m =>
      cases b with
      | ofNat k =>
          rw [hpos, intText_negSucc] at h
          exact absurd h.symm (hminus k (m + 1))
      | negSucc k =>
          rw [intText_negSucc, intText_negSucc] at h
          have hmk : m + 1 = k + 1 := by
            rw [← hread (m + 1), (List.cons.inj h).2, hread]
          rw [Nat.succ.inj hmk]

/-- The float of a JSON text. -/
def floatOf (cs : List Char) : String :=
  if cs = "NaN".toList then "nan"
  else if cs = "Infinity".toList then "inf"
  else if cs = "-Infinity".toList then "-inf"
  else String.ofList cs

lemma IsFloat.cases {repr : String} (h : IsFloat repr) :
    repr ∈ ["nan", "inf", "-inf"] ∨
      (floatText repr = repr.toList ∧ (∃ c ∈ repr.toList, c ∈ ['.', 'e']) ∧
        (∃ c, repr.toList.head? = some c ∧ (c = '-' ∨ c.isDigit = true)) ∧
        ∀ c ∈ repr.toList, c.isDigit = true ∨ c ∈ ['.', 'e', '+', '-']) := by
  rcases h with hname | ⟨hmark, hfirst, hall⟩
  · exact .inl hname
  · by_cases hname : repr ∈ ["nan", "inf", "-inf"]
    · exact .inl hname
    · refine .inr ⟨?_, hmark, hfirst, hall⟩
      simp only [List.mem_cons, List.not_mem_nil, or_false, not_or] at hname
      unfold floatText
      rw [if_neg hname.1, if_neg hname.2.1, if_neg hname.2.2]

lemma floatOf_floatText {repr : String} (h : IsFloat repr) : floatOf (floatText repr) = repr := by
  rcases h.cases with hname | ⟨htext, -, -, hall⟩
  · simp only [List.mem_cons, List.not_mem_nil, or_false] at hname
    rcases hname with rfl | rfl | rfl <;> decide
  · have hletter : ∀ c ∈ ['N', 'I'], c ∉ repr.toList := by
      have hnone : ∀ c ∈ ['N', 'I'], ¬(c.isDigit = true ∨ c ∈ ['.', 'e', '+', '-']) :=
        List.forall_iff_forall_mem.mp (by decide)
      exact fun c hc hmem => hnone c hc (hall c hmem)
    unfold floatOf
    rw [htext, if_neg, if_neg, if_neg, String.ofList_toList]
    · exact fun heq => hletter 'I' (by decide) (heq ▸ by decide)
    · exact fun heq => hletter 'I' (by decide) (heq ▸ by decide)
    · exact fun heq => hletter 'N' (by decide) (heq ▸ by decide)

lemma floatText_ne_intText {repr : String} (h : IsFloat repr) (n : ℤ) :
    floatText repr ≠ intText n := by
  have hmark : ∃ c ∈ floatText repr, c ∈ ['.', 'e', 'N', 'I'] := by
    rcases h.cases with hname | ⟨htext, ⟨c, hc, hmark⟩, -, -⟩
    · simp only [List.mem_cons, List.not_mem_nil, or_false] at hname
      rcases hname with rfl | rfl | rfl
      · exact ⟨'N', by decide, by decide⟩
      · exact ⟨'I', by decide, by decide⟩
      · exact ⟨'I', by decide, by decide⟩
    · rw [htext]
      refine ⟨c, hc, ?_⟩
      simp only [List.mem_cons, List.not_mem_nil, or_false] at hmark ⊢
      tauto
  obtain ⟨c, hc, hmark⟩ := hmark
  intro heq
  rw [heq] at hc
  have hnone : ∀ c ∈ ['.', 'e', 'N', 'I'], ¬(c.isDigit = true ∨ c = '-') :=
    List.forall_iff_forall_mem.mp (by decide)
  exact hnone c hmark (isDigit_of_mem_intText hc)

lemma ends_floatText {repr : String} (h : IsFloat repr) :
    ∀ c ∈ floatText repr, ends c = false := by
  rcases h.cases with hname | ⟨htext, -, -, hall⟩
  · simp only [List.mem_cons, List.not_mem_nil, or_false] at hname
    rcases hname with rfl | rfl | rfl <;> exact List.forall_iff_forall_mem.mp (by decide)
  · rw [htext]
    intro c hc
    rw [Bool.eq_false_iff]
    intro hend
    have hnone : ∀ c ∈ [',', ']', '\x7d'], ¬(c.isDigit = true ∨ c ∈ ['.', 'e', '+', '-']) :=
      List.forall_iff_forall_mem.mp (by decide)
    exact hnone c (of_decide_eq_true hend) (hall c hc)

lemma ends_intText (n : ℤ) : ∀ c ∈ intText n, ends c = false := by
  intro c hc
  rw [Bool.eq_false_iff]
  intro hend
  have hnone : ∀ c ∈ [',', ']', '\x7d'], ¬(c.isDigit = true ∨ c = '-') :=
    List.forall_iff_forall_mem.mp (by decide)
  exact hnone c (of_decide_eq_true hend) (isDigit_of_mem_intText hc)

/-- What follows a value in a text: nothing, or a character at which a number ends. -/
def Stops (r : List Char) : Prop := ∀ c, r.head? = some c → ends c = true

lemma stops_nil : Stops [] := fun _ h => (by cases h)

lemma stops_cons {c : Char} (h : ends c = true) (r : List Char) : Stops (c :: r) := by
  intro d hd
  rw [← Option.some.inj hd]
  exact h

lemma number_append_inj {a b r r' : List Char} (ha : ∀ c ∈ a, ends c = false)
    (hb : ∀ c ∈ b, ends c = false) (hr : Stops r) (hr' : Stops r') (h : a ++ r = b ++ r') :
    a = b ∧ r = r' := by
  have htake : ∀ {a r : List Char}, (∀ c ∈ a, ends c = false) → Stops r →
      (a ++ r).takeWhile (fun c => !ends c) = a := by
    intro a r ha hr
    have hnil : r.takeWhile (fun c => !ends c) = [] := by
      cases r with
      | nil => rfl
      | cons c r =>
          have hend := hr c rfl
          rw [List.takeWhile_cons_of_neg (by rw [hend]; decide)]
    rw [List.takeWhile_append_of_pos (fun c hc => by rw [ha c hc]; rfl), hnil, List.append_nil]
  have hab : a = b := by rw [← htake ha hr, h, htake hb hr']
  subst hab
  exact ⟨rfl, List.append_cancel_left h⟩

/-! ## Values -/

mutual

/-- `json.dumps(value)`. -/
def dumps : Json → List Char
  | null => "null".toList
  | bool true => "true".toList
  | bool false => "false".toList
  | int n => intText n
  | float r => floatText r
  | str s => quote s
  | arr [] => "[]".toList
  | arr (x :: xs) => '[' :: (dumps x ++ dumpsItems xs)
  | obj [] => "\x7b\x7d".toList
  | obj ((k, v) :: kvs) => '\x7b' :: (quote k ++ (':' :: ' ' :: (dumps v ++ dumpsFields kvs)))

/-- The further items of an array, and its end. -/
def dumpsItems : List Json → List Char
  | [] => [']']
  | x :: xs => ',' :: ' ' :: (dumps x ++ dumpsItems xs)

/-- The further fields of an object, and its end. -/
def dumpsFields : List (String × Json) → List Char
  | [] => ['\x7d']
  | (k, v) :: kvs => ',' :: ' ' :: (quote k ++ (':' :: ' ' :: (dumps v ++ dumpsFields kvs)))

end

mutual

/-- The floats of a value are written as `repr` writes floats. -/
def Genuine : Json → Prop
  | float r => IsFloat r
  | arr xs => GenuineItems xs
  | obj kvs => GenuineFields kvs
  | _ => True

def GenuineItems : List Json → Prop
  | [] => True
  | x :: xs => Genuine x ∧ GenuineItems xs

/-- `Genuine` of the values of an object. -/
def GenuineFields : List (String × Json) → Prop
  | [] => True
  | (_, v) :: kvs => Genuine v ∧ GenuineFields kvs

end

/-! ## Reading a text back -/

/-- The shapes of values that differ in the first character of their texts. -/
def kind : Json → ℕ
  | null => 0
  | bool _ => 1
  | int _ => 2
  | float _ => 2
  | str _ => 3
  | arr _ => 4
  | obj _ => 5

/-- The shape of a value whose text begins with a character. -/
def kindOf (c : Char) : ℕ :=
  if c = 'n' then 0
  else if c = 't' || c = 'f' then 1
  else if c = '"' then 3
  else if c = '[' then 4
  else if c = '\x7b' then 5
  else 2

lemma kindOf_number {c : Char} (h : c.isDigit = true ∨ c ∈ ['-', 'N', 'I']) : kindOf c = 2 := by
  have hne : ∀ d ∈ ['n', 't', 'f', '"', '[', '\x7b'],
      ¬(d.isDigit = true ∨ d ∈ ['-', 'N', 'I']) := List.forall_iff_forall_mem.mp (by decide)
  have hall : ∀ d ∈ ['n', 't', 'f', '"', '[', '\x7b'], c ≠ d := by
    rintro d hd rfl
    exact hne c hd h
  simp only [List.mem_cons, List.not_mem_nil, or_false, forall_eq_or_imp, forall_eq] at hall
  obtain ⟨hn, ht, hf, hquote, hbracket, hbrace⟩ := hall
  unfold kindOf
  rw [if_neg hn, if_neg (by simp [ht, hf]), if_neg hquote, if_neg hbracket, if_neg hbrace]

lemma kindOf_head : ∀ {x : Json}, Genuine x → ∃ c rest, dumps x = c :: rest ∧ kindOf c = x.kind
  | null, _ => ⟨'n', _, rfl, rfl⟩
  | bool true, _ => ⟨'t', _, rfl, rfl⟩
  | bool false, _ => ⟨'f', _, rfl, rfl⟩
  | int n, _ => by
      have hne : intText n ≠ [] := by
        cases n with
        | ofNat m =>
            show (Nat.repr m).toList ≠ []
            rw [Nat.toList_repr]
            exact Nat.toDigits_ne_nil
        | negSucc m =>
            rw [intText_negSucc]
            exact List.cons_ne_nil _ _
      obtain ⟨c, rest, hsplit⟩ := List.exists_cons_of_ne_nil hne
      have hmem : c ∈ intText n := by
        rw [hsplit]
        exact List.mem_cons_self
      refine ⟨c, rest, by rw [dumps, hsplit], kindOf_number ?_⟩
      rcases isDigit_of_mem_intText hmem with hdigit | rfl
      · exact .inl hdigit
      · exact .inr (by decide)
  | float r, h => by
      rw [Genuine] at h
      rcases h.cases with hname | ⟨htext, -, ⟨c, hhead, hfirst⟩, -⟩
      · simp only [List.mem_cons, List.not_mem_nil, or_false] at hname
        rcases hname with rfl | rfl | rfl
        · exact ⟨'N', ['a', 'N'], by rw [dumps]; decide, by decide⟩
        · exact ⟨'I', "nfinity".toList, by rw [dumps]; decide, by decide⟩
        · exact ⟨'-', "Infinity".toList, by rw [dumps]; decide, by decide⟩
      · obtain ⟨rest, hsplit⟩ : ∃ rest, r.toList = c :: rest := by
          cases hlist : r.toList with
          | nil =>
              rw [hlist] at hhead
              cases hhead
          | cons d rest =>
              rw [hlist] at hhead
              rw [Option.some.inj hhead]
              exact ⟨rest, rfl⟩
        refine ⟨c, rest, by rw [dumps, htext, hsplit], kindOf_number ?_⟩
        rcases hfirst with rfl | hdigit
        · exact .inr (by decide)
        · exact .inl hdigit
  | str s, _ => ⟨'"', _, by rw [dumps, quote], rfl⟩
  | arr [], _ => ⟨'[', _, by rw [dumps]; rfl, rfl⟩
  | arr (x :: xs), _ => ⟨'[', _, by rw [dumps], rfl⟩
  | obj [], _ => ⟨'\x7b', _, by rw [dumps]; rfl, rfl⟩
  | obj ((k, v) :: kvs), _ => ⟨'\x7b', _, by rw [dumps], rfl⟩

lemma kind_eq {x y : Json} {r r' : List Char} (hx : Genuine x) (hy : Genuine y)
    (h : dumps x ++ r = dumps y ++ r') : x.kind = y.kind := by
  obtain ⟨c, rest, hsplit, hc⟩ := kindOf_head hx
  obtain ⟨d, rest', hsplit', hd⟩ := kindOf_head hy
  rw [hsplit, hsplit'] at h
  rw [← hc, ← hd, (List.cons.inj h).1]

lemma stops_dumpsItems (xs : List Json) (r : List Char) : Stops (dumpsItems xs ++ r) := by
  cases xs with
  | nil => exact stops_cons (by decide) _
  | cons x xs => exact stops_cons (by decide) _

lemma stops_dumpsFields (kvs : List (String × Json)) (r : List Char) :
    Stops (dumpsFields kvs ++ r) := by
  cases kvs with
  | nil => exact stops_cons (by decide) _
  | cons kv kvs => exact stops_cons (by decide) _

lemma dumps_append_ne_bracket {x : Json} (hx : Genuine x) (r r' : List Char) :
    dumps x ++ r ≠ ']' :: r' := by
  obtain ⟨c, rest, hsplit, hc⟩ := kindOf_head hx
  intro h
  rw [hsplit] at h
  obtain rfl : c = ']' := (List.cons.inj h).1
  have hnumber : ∀ cs : List Char, dumps x = cs → (∀ d ∈ cs, ends d = false) → False := by
    intro cs hcs hends
    have hend := hends ']' (by rw [← hcs, hsplit]; exact List.mem_cons_self)
    exact absurd hend (by decide)
  have hkind : x.kind = 2 := by
    rw [← hc]
    decide
  cases x with
  | int n => exact hnumber _ (by rw [dumps]) (ends_intText n)
  | float repr => exact hnumber _ (by rw [dumps]) (ends_floatText hx)
  | _ => simp [kind] at hkind

mutual

/-- Two values with the same text, before something at which numbers end, are the same. -/
theorem dumps_append_inj : ∀ (x y : Json) {r r' : List Char}, Genuine x → Genuine y → Stops r →
    Stops r' → dumps x ++ r = dumps y ++ r' → x = y ∧ r = r'
  | null, y, r, r', hx, hy, hr, hr', h => by
      have hkind := kind_eq hx hy h
      cases y with
      | null => exact ⟨rfl, List.append_cancel_left h⟩
      | _ => simp [kind] at hkind
  | bool b, y, r, r', hx, hy, hr, hr', h => by
      have hkind := kind_eq hx hy h
      cases y with
      | bool b' =>
          cases b with
          | true =>
              cases b' with
              | true => exact ⟨rfl, List.append_cancel_left h⟩
              | false => exact absurd (List.cons.inj h).1 (by decide)
          | false =>
              cases b' with
              | true => exact absurd (List.cons.inj h).1 (by decide)
              | false => exact ⟨rfl, List.append_cancel_left h⟩
      | _ => simp [kind] at hkind
  | int m, y, r, r', hx, hy, hr, hr', h => by
      have hkind := kind_eq hx hy h
      cases y with
      | int n =>
          rw [dumps, dumps] at h
          obtain ⟨htext, hrest⟩ := number_append_inj (ends_intText m) (ends_intText n) hr hr' h
          exact ⟨congrArg int (intText_injective htext), hrest⟩
      | float repr =>
          rw [dumps, dumps] at h
          obtain ⟨htext, -⟩ := number_append_inj (ends_intText m) (ends_floatText hy) hr hr' h
          exact absurd htext.symm (floatText_ne_intText hy m)
      | _ => simp [kind] at hkind
  | float repr, y, r, r', hx, hy, hr, hr', h => by
      have hkind := kind_eq hx hy h
      cases y with
      | int n =>
          rw [dumps, dumps] at h
          obtain ⟨htext, -⟩ := number_append_inj (ends_floatText hx) (ends_intText n) hr hr' h
          exact absurd htext (floatText_ne_intText hx n)
      | float repr' =>
          rw [dumps, dumps] at h
          obtain ⟨htext, hrest⟩ :=
            number_append_inj (ends_floatText hx) (ends_floatText hy) hr hr' h
          have hsame : repr = repr' := by
            rw [← floatOf_floatText hx, htext, floatOf_floatText hy]
          exact ⟨congrArg float hsame, hrest⟩
      | _ => simp [kind] at hkind
  | str s, y, r, r', hx, hy, hr, hr', h => by
      have hkind := kind_eq hx hy h
      cases y with
      | str t =>
          rw [dumps, dumps] at h
          obtain ⟨hst, hrest⟩ := quote_append_inj h
          exact ⟨congrArg str hst, hrest⟩
      | _ => simp [kind] at hkind
  | arr [], y, r, r', hx, hy, hr, hr', h => by
      have hkind := kind_eq hx hy h
      cases y with
      | arr ys =>
          cases ys with
          | nil => exact ⟨rfl, List.append_cancel_left h⟩
          | cons y ys =>
              rw [dumps, dumps, List.cons_append, List.append_assoc] at h
              exact absurd (List.cons.inj h).2.symm (dumps_append_ne_bracket hy.1 _ _)
      | _ => simp [kind] at hkind
  | arr (x :: xs), y, r, r', hx, hy, hr, hr', h => by
      have hkind := kind_eq hx hy h
      cases y with
      | arr ys =>
          cases ys with
          | nil =>
              rw [dumps, dumps, List.cons_append, List.append_assoc] at h
              exact absurd (List.cons.inj h).2 (dumps_append_ne_bracket hx.1 _ _)
          | cons y ys =>
              rw [dumps, dumps, List.cons_append, List.cons_append, List.append_assoc,
                List.append_assoc] at h
              obtain ⟨hxy, hrest⟩ := dumps_append_inj x y hx.1 hy.1 (stops_dumpsItems xs r)
                (stops_dumpsItems ys r') (List.cons.inj h).2
              obtain ⟨hitems, hr⟩ := dumpsItems_append_inj xs ys hx.2 hy.2 hrest
              rw [hxy, hitems]
              exact ⟨rfl, hr⟩
      | _ => simp [kind] at hkind
  | obj [], y, r, r', hx, hy, hr, hr', h => by
      have hkind := kind_eq hx hy h
      cases y with
      | obj kvs =>
          cases kvs with
          | nil => exact ⟨rfl, List.append_cancel_left h⟩
          | cons kv kvs =>
              rw [dumps, dumps] at h
              exact absurd (List.cons.inj (List.cons.inj h).2).1 (by decide)
      | _ => simp [kind] at hkind
  | obj ((k, v) :: kvs), y, r, r', hx, hy, hr, hr', h => by
      have hkind := kind_eq hx hy h
      cases y with
      | obj kvs' =>
          cases kvs' with
          | nil =>
              rw [dumps, dumps] at h
              exact absurd (List.cons.inj (List.cons.inj h).2).1 (by decide)
          | cons kv kvs' =>
              obtain ⟨k', v'⟩ := kv
              rw [dumps, dumps, List.cons_append, List.cons_append, List.append_assoc,
                List.append_assoc] at h
              obtain ⟨hkeys, hcolon⟩ := quote_append_inj (List.cons.inj h).2
              have hvalue : (dumps v ++ dumpsFields kvs) ++ r =
                  (dumps v' ++ dumpsFields kvs') ++ r' :=
                (List.cons.inj (List.cons.inj hcolon).2).2
              rw [List.append_assoc, List.append_assoc] at hvalue
              obtain ⟨hvalues, hrest⟩ := dumps_append_inj v v' hx.1 hy.1
                (stops_dumpsFields kvs r) (stops_dumpsFields kvs' r') hvalue
              obtain ⟨hfields, hr⟩ := dumpsFields_append_inj kvs kvs' hx.2 hy.2 hrest
              rw [hkeys, hvalues, hfields]
              exact ⟨rfl, hr⟩
      | _ => simp [kind] at hkind

theorem dumpsItems_append_inj : ∀ (xs ys : List Json) {r r' : List Char}, GenuineItems xs →
    GenuineItems ys → dumpsItems xs ++ r = dumpsItems ys ++ r' → xs = ys ∧ r = r'
  | [], [], r, r', _, _, h => ⟨rfl, (List.cons.inj h).2⟩
  | [], y :: ys, r, r', _, _, h => absurd (List.cons.inj h).1 (by decide)
  | x :: xs, [], r, r', _, _, h => absurd (List.cons.inj h).1 (by decide)
  | x :: xs, y :: ys, r, r', hx, hy, h => by
      have hvalue : (dumps x ++ dumpsItems xs) ++ r = (dumps y ++ dumpsItems ys) ++ r' :=
        (List.cons.inj (List.cons.inj h).2).2
      rw [List.append_assoc, List.append_assoc] at hvalue
      obtain ⟨hxy, hrest⟩ := dumps_append_inj x y hx.1 hy.1 (stops_dumpsItems xs r)
        (stops_dumpsItems ys r') hvalue
      obtain ⟨hitems, hr⟩ := dumpsItems_append_inj xs ys hx.2 hy.2 hrest
      rw [hxy, hitems]
      exact ⟨rfl, hr⟩

theorem dumpsFields_append_inj : ∀ (xs ys : List (String × Json)) {r r' : List Char},
    GenuineFields xs → GenuineFields ys → dumpsFields xs ++ r = dumpsFields ys ++ r' →
      xs = ys ∧ r = r'
  | [], [], r, r', _, _, h => ⟨rfl, (List.cons.inj h).2⟩
  | [], y :: ys, r, r', _, _, h => absurd (List.cons.inj h).1 (by decide)
  | x :: xs, [], r, r', _, _, h => absurd (List.cons.inj h).1 (by decide)
  | (k, v) :: xs, (k', v') :: ys, r, r', hx, hy, h => by
      have hkey : (quote k ++ (':' :: ' ' :: (dumps v ++ dumpsFields xs))) ++ r =
          (quote k' ++ (':' :: ' ' :: (dumps v' ++ dumpsFields ys))) ++ r' :=
        (List.cons.inj (List.cons.inj h).2).2
      rw [List.append_assoc, List.append_assoc] at hkey
      obtain ⟨hkeys, hcolon⟩ := quote_append_inj hkey
      have hvalue : (dumps v ++ dumpsFields xs) ++ r = (dumps v' ++ dumpsFields ys) ++ r' :=
        (List.cons.inj (List.cons.inj hcolon).2).2
      rw [List.append_assoc, List.append_assoc] at hvalue
      obtain ⟨hvalues, hrest⟩ := dumps_append_inj v v' hx.1 hy.1 (stops_dumpsFields xs r)
        (stops_dumpsFields ys r') hvalue
      obtain ⟨hfields, hr⟩ := dumpsFields_append_inj xs ys hx.2 hy.2 hrest
      rw [hkeys, hvalues, hfields]
      exact ⟨rfl, hr⟩

end

/-- The text of a value determines it. -/
theorem dumps_inj {x y : Json} (hx : Genuine x) (hy : Genuine y) (h : dumps x = dumps y) :
    x = y := by
  have happend : dumps x ++ [] = dumps y ++ [] := by rw [h]
  exact (dumps_append_inj x y hx hy stops_nil stops_nil happend).1

/-! ## Sorted keys -/

lemma genuineItems_iff (xs : List Json) : GenuineItems xs ↔ ∀ x ∈ xs, Genuine x := by
  induction xs with
  | nil => simp [GenuineItems]
  | cons x xs ih => rw [GenuineItems, ih, List.forall_mem_cons]

lemma genuineFields_iff (kvs : List (String × Json)) :
    GenuineFields kvs ↔ ∀ kv ∈ kvs, Genuine kv.2 := by
  induction kvs with
  | nil => simp [GenuineFields]
  | cons kv kvs ih =>
      obtain ⟨k, v⟩ := kv
      rw [GenuineFields, ih, List.forall_mem_cons]

mutual

/-- Sorting the keys changes no float. -/
theorem Genuine.sortKeys : ∀ {j : Json}, Genuine j → Genuine j.sortKeys
  | null, _ => by rw [sortKeys_null, Genuine] <;> simp
  | bool b, _ => by rw [sortKeys_bool, Genuine] <;> simp
  | int n, _ => by rw [sortKeys_int, Genuine] <;> simp
  | float r, h => by rw [sortKeys_float]; exact h
  | str s, _ => by rw [sortKeys_str, Genuine] <;> simp
  | arr xs, h => by
      rw [Json.sortKeys, Genuine]
      exact GenuineItems.sortKeys h
  | obj kvs, h => by
      rw [Json.sortKeys, Genuine, genuineFields_iff]
      intro kv hkv
      have hfields := (genuineFields_iff _).mp (GenuineFields.sortKeys h)
      exact hfields kv ((Dict.sortByKey_perm _).mem_iff.mp hkv)

theorem GenuineItems.sortKeys : ∀ {xs : List Json}, GenuineItems xs →
    GenuineItems (sortKeysList xs)
  | [], _ => trivial
  | _ :: _, h => ⟨h.1.sortKeys, GenuineItems.sortKeys h.2⟩

theorem GenuineFields.sortKeys : ∀ {kvs : List (String × Json)}, GenuineFields kvs →
    GenuineFields (sortKeysFields kvs)
  | [], _ => trivial
  | (_, _) :: _, h => ⟨h.1.sortKeys, GenuineFields.sortKeys h.2⟩

end

end Json

end Samaktha
