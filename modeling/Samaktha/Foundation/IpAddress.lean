import Mathlib.Data.BitVec
import Mathlib.Data.List.Basic
import Mathlib.Data.Nat.Digits.Defs
import Mathlib.Data.String.Basic
import Mathlib.Tactic.Common

/-!
# Internet addresses

Addresses of version 4 and 6 as the standard library's `ipaddress` reads them, and the blocks
that it tells apart.  `parse4` and `dotted` are inverse (`parse4_eq_some_iff`): an address of
version 4 has one text.

An address of version 6 under `::ffff:0:0/96` stands for one of version 4.  It is private
exactly if that one is; whether its other properties are those of the address it stands for
depends on the release, and is a parameter.
-/

namespace Samaktha

namespace Ip

inductive Address where
  | v4 (n : BitVec 32)
  | v6 (n : BitVec 128)
  deriving DecidableEq, Inhabited

/-! ## Blocks -/

/-- A block of addresses: the first of them, and how many low bits are free. -/
structure Block where
  first : ℕ
  free : ℕ
  deriving DecidableEq

/-- `address in network`. -/
def Block.has (block : Block) (n : ℕ) : Bool := n / 2 ^ block.free = block.first / 2 ^ block.free

/-- A number from its digits in a base, the highest first. -/
def fromDigits (base : ℕ) (digits : List ℕ) : ℕ := digits.foldl (fun n d => n * base + d) 0

/-- `a.b.c.d/length`. -/
def block4 (octets : List ℕ) (length : ℕ) : Block := ⟨fromDigits 256 octets, 32 - length⟩

/-- `a:b:..::/length`. -/
def block6 (groups : List ℕ) (length : ℕ) : Block :=
  ⟨fromDigits 65536 groups * 65536 ^ (8 - groups.length), 128 - length⟩

/-- Whether a number lies in one of the blocks. -/
def inSome (blocks : List Block) (n : ℕ) : Bool := blocks.any fun block => block.has n

/-- The private blocks of version 4. -/
def private4 : List Block := [
  block4 [0, 0, 0, 0] 8, block4 [10, 0, 0, 0] 8, block4 [127, 0, 0, 0] 8,
  block4 [169, 254, 0, 0] 16, block4 [172, 16, 0, 0] 12, block4 [192, 0, 0, 0] 24,
  block4 [192, 0, 0, 170] 31, block4 [192, 0, 2, 0] 24, block4 [192, 168, 0, 0] 16,
  block4 [198, 18, 0, 0] 15, block4 [198, 51, 100, 0] 24, block4 [203, 0, 113, 0] 24,
  block4 [240, 0, 0, 0] 4, block4 [255, 255, 255, 255] 32]

/-- What is taken out of the private blocks of version 4. -/
def public4 : List Block := [block4 [192, 0, 0, 9] 32, block4 [192, 0, 0, 10] 32]

/-- The private blocks of version 6, the mapped addresses aside. -/
def private6 : List Block := [
  block6 [0, 0, 0, 0, 0, 0, 0, 1] 128, block6 [] 128, block6 [0, 0, 0, 0, 0, 0xffff] 96,
  block6 [0x64, 0xff9b, 1] 48, block6 [0x100] 64, block6 [0x2001] 23, block6 [0x2001, 0xdb8] 32,
  block6 [0x2002] 16, block6 [0xfc00] 7, block6 [0xfe80] 10]

/-- What is taken out of the private blocks of version 6. -/
def public6 : List Block := [
  block6 [0x2001, 1, 0, 0, 0, 0, 0, 1] 128, block6 [0x2001, 1, 0, 0, 0, 0, 0, 2] 128,
  block6 [0x2001, 3] 32, block6 [0x2001, 4, 0x112] 48, block6 [0x2001, 0x20] 28,
  block6 [0x2001, 0x30] 28]

/-- The reserved blocks of version 6. -/
def reserved6 : List Block := [
  block6 [] 8, block6 [0x100] 8, block6 [0x200] 7, block6 [0x400] 6, block6 [0x800] 5,
  block6 [0x1000] 4, block6 [0x4000] 3, block6 [0x6000] 3, block6 [0x8000] 3, block6 [0xa000] 3,
  block6 [0xc000] 3, block6 [0xe000] 4, block6 [0xf000] 5, block6 [0xf800] 6, block6 [0xfe00] 9]

/-! ## Properties -/

structure Properties where
  loopback : Bool
  «private» : Bool
  linkLocal : Bool
  multicast : Bool
  unspecified : Bool
  reserved : Bool
  deriving DecidableEq

/-- The properties of an address of version 4. -/
def properties4 (n : BitVec 32) : Properties where
  loopback := (block4 [127, 0, 0, 0] 8).has n.toNat
  «private» := inSome private4 n.toNat && !inSome public4 n.toNat
  linkLocal := (block4 [169, 254, 0, 0] 16).has n.toNat
  multicast := (block4 [224, 0, 0, 0] 4).has n.toNat
  unspecified := n.toNat = 0
  reserved := (block4 [240, 0, 0, 0] 4).has n.toNat

/-- `ipv4_mapped`. -/
def mapped (n : BitVec 128) : Option (BitVec 32) :=
  if n.toNat / 2 ^ 32 = 0xffff then some (BitVec.ofNat 32 n.toNat) else none

/-- Which properties of a mapped address a release takes from the address it stands for. -/
structure Release where
  loopback : Bool
  others : Bool

/-- The properties of an address of version 6 by its own blocks. -/
def own6 (n : BitVec 128) : Properties where
  loopback := n.toNat = 1
  «private» := inSome private6 n.toNat && !inSome public6 n.toNat
  linkLocal := (block6 [0xfe80] 10).has n.toNat
  multicast := (block6 [0xff00] 8).has n.toNat
  unspecified := n.toNat = 0
  reserved := inSome reserved6 n.toNat

/-- The properties of an address of version 6. -/
def properties6 (release : Release) (n : BitVec 128) : Properties :=
  match mapped n with
  | none => own6 n
  | some m =>
      { loopback := (if release.loopback then properties4 m else own6 n).loopback
        «private» := (properties4 m).private
        linkLocal := (if release.others then properties4 m else own6 n).linkLocal
        multicast := (if release.others then properties4 m else own6 n).multicast
        unspecified := (if release.others then properties4 m else own6 n).unspecified
        reserved := (if release.others then properties4 m else own6 n).reserved }

def properties (release : Release) : Address → Properties
  | .v4 n => properties4 n
  | .v6 n => properties6 release n

/-! ## Texts -/

/-- The octets of an address of version 4. -/
def octets (n : BitVec 32) : List ℕ :=
  [n.toNat / 256 ^ 3, n.toNat / 256 ^ 2 % 256, n.toNat / 256 % 256, n.toNat % 256]

/-- `str(address)` of version 4. -/
def dotted (n : BitVec 32) : String :=
  String.ofList (['.'].intercalate ((octets n).map fun octet => (Nat.repr octet).toList))

/-- The decimal text of a number below 256: no sign, no leading zero. -/
def parseOctet (cs : List Char) : Option ℕ :=
  (List.range 256).find? fun n => (Nat.repr n).toList = cs

/-- `IPv4Address(text)`. -/
def parse4 (text : String) : Option (BitVec 32) :=
  match (text.toList.splitOn '.').mapM parseOctet with
  | some [a, b, c, d] => some (BitVec.ofNat 32 (fromDigits 256 [a, b, c, d]))
  | _ => none

/-- The value of a hexadecimal digit. -/
def hexDigit (c : Char) : Option ℕ :=
  if '0' ≤ c ∧ c ≤ '9' then some (c.toNat - '0'.toNat)
  else if 'a' ≤ c ∧ c ≤ 'f' then some (c.toNat - 'a'.toNat + 10)
  else if 'A' ≤ c ∧ c ≤ 'F' then some (c.toNat - 'A'.toNat + 10)
  else none

/-- A group of at most four hexadecimal digits. -/
def parseGroup (cs : List Char) : Option ℕ :=
  if cs = [] ∨ 4 < cs.length then none else (cs.mapM hexDigit).map (fromDigits 16)

/-- The number of the groups between colons: at most one place inside may be empty, and stands
for as many zeros as are missing; an empty end has to be next to it. -/
def fromGroups (groups : List (List Char)) : Option ℕ :=
  let value (part : List (List Char)) : Option ℕ := (part.mapM parseGroup).map (fromDigits 65536)
  match (groups.drop 1).dropLast.findIdxs List.isEmpty with
  | [] => if groups.length = 8 then value groups else none
  | [i] =>
      let trimHead (part : List (List Char)) : Option (List (List Char)) :=
        if part.head? = some [] then (if part.length = 1 then some [] else none) else some part
      let trimLast (part : List (List Char)) : Option (List (List Char)) :=
        if part.getLast? = some [] then (if part.length = 1 then some [] else none) else some part
      do
        let high ← trimHead (groups.take (i + 1))
        let low ← trimLast (groups.drop (i + 2))
        if 8 ≤ high.length + low.length then none
        else
          let top ← value high
          let bottom ← value low
          some (top * 65536 ^ (8 - high.length) + bottom)
  | _ => none

/-- `IPv6Address(text)`, with an address of version 4 as its last part or a scope behind it. -/
def parse6 (text : String) : Option (BitVec 128) :=
  let address := text.toList.takeWhile (· ≠ '%')
  let scope := text.toList.dropWhile (· ≠ '%')
  if '/' ∈ text.toList ∨ scope = ['%'] ∨ '%' ∈ scope.drop 1 then none
  else
    let parts := address.splitOn ':'
    if parts.length < 3 then none
    else do
      let last := parts.getLast?.getD []
      let groups ←
        if '.' ∈ last then
          (parse4 (String.ofList last)).map fun n =>
            parts.dropLast ++ [Nat.toDigits 16 (n.toNat / 65536), Nat.toDigits 16 (n.toNat % 65536)]
        else some parts
      if 9 < groups.length then none else (fromGroups groups).map (BitVec.ofNat 128)

/-- `ip_address(text)`; `none` where it raises. -/
def parse (text : String) : Option Address :=
  match parse4 text with
  | some n => some (.v4 n)
  | none => (parse6 text).map .v6

/-! ## An address of version 4 has one text -/

lemma repr_toList_injective {m n : ℕ} (h : (Nat.repr m).toList = (Nat.repr n).toList) : m = n := by
  rw [Nat.toList_repr, Nat.toList_repr] at h
  rw [← Nat.ofDigitChars_ten_toDigits (n := m), h, Nat.ofDigitChars_ten_toDigits]

lemma parseOctet_eq_some_iff {cs : List Char} {n : ℕ} :
    parseOctet cs = some n ↔ n < 256 ∧ (Nat.repr n).toList = cs := by
  constructor
  · intro h
    have htext := List.find?_some h
    exact ⟨List.mem_range.mp (List.mem_of_find?_eq_some h), by simpa using htext⟩
  · rintro ⟨hn, rfl⟩
    cases hfind : parseOctet (Nat.repr n).toList with
    | none =>
        have hnone := List.find?_eq_none.mp hfind n (List.mem_range.mpr hn)
        exact absurd (decide_eq_true rfl) hnone
    | some m =>
        have htext := List.find?_some hfind
        exact congrArg some (repr_toList_injective (by simpa using htext))

lemma dot_notMem_repr (n : ℕ) : '.' ∉ (Nat.repr n).toList := by
  intro hmem
  rw [Nat.toList_repr] at hmem
  exact absurd (Nat.isDigit_of_mem_toDigits (by decide) (by decide) hmem) (by decide)

lemma fromDigits_octets (n : BitVec 32) : fromDigits 256 (octets n) = n.toNat := by
  have hn := n.isLt
  simp only [octets, fromDigits, List.foldl_cons, List.foldl_nil]
  omega

lemma octets_ofNat {a b c d : ℕ} (ha : a < 256) (hb : b < 256) (hc : c < 256) (hd : d < 256) :
    octets (BitVec.ofNat 32 (fromDigits 256 [a, b, c, d])) = [a, b, c, d] := by
  have hn : fromDigits 256 [a, b, c, d] = ((a * 256 + b) * 256 + c) * 256 + d := by
    simp [fromDigits]
  rw [octets, BitVec.toNat_ofNat, hn, Nat.mod_eq_of_lt (by omega)]
  congr 1
  · omega
  · congr 1
    · omega
    · congr 1
      · omega
      · congr 1
        omega

lemma mapM_parseOctet {octets : List ℕ} (h : ∀ n ∈ octets, n < 256) :
    (octets.map fun n => (Nat.repr n).toList).mapM parseOctet = some octets := by
  induction octets with
  | nil => rfl
  | cons n octets ih =>
      have hhead := parseOctet_eq_some_iff.mpr ⟨h n List.mem_cons_self, rfl⟩
      have htail := ih fun m hm => h m (List.mem_cons_of_mem n hm)
      rw [List.map_cons, List.mapM_cons, hhead, htail]
      rfl

lemma eq_of_mapM_parseOctet {parts : List (List Char)} {octets : List ℕ}
    (h : parts.mapM parseOctet = some octets) :
    (∀ n ∈ octets, n < 256) ∧ parts = octets.map fun n => (Nat.repr n).toList := by
  induction parts generalizing octets with
  | nil =>
      obtain rfl := Option.some.inj h
      exact ⟨fun n hn => (by cases hn), rfl⟩
  | cons part parts ih =>
      rw [List.mapM_cons] at h
      obtain ⟨n, hn, h⟩ := Option.bind_eq_some_iff.mp h
      obtain ⟨rest, hrest, h⟩ := Option.bind_eq_some_iff.mp h
      obtain rfl := Option.some.inj h
      obtain ⟨hlt, rfl⟩ := parseOctet_eq_some_iff.mp hn
      obtain ⟨hall, rfl⟩ := ih hrest
      exact ⟨List.forall_mem_cons.mpr ⟨hlt, hall⟩, rfl⟩

/-- A text is read as an address of version 4 exactly if it is the text of that address. -/
theorem parse4_eq_some_iff {text : String} {n : BitVec 32} :
    parse4 text = some n ↔ text = dotted n := by
  constructor
  · intro h
    unfold parse4 at h
    split at h
    · rename_i a b c d hoctets
      obtain rfl := Option.some.inj h
      obtain ⟨hlt, hparts⟩ := eq_of_mapM_parseOctet hoctets
      have hall : a < 256 ∧ b < 256 ∧ c < 256 ∧ d < 256 := by simpa using hlt
      rw [dotted, octets_ofNat hall.1 hall.2.1 hall.2.2.1 hall.2.2.2, ← hparts,
        List.intercalate_splitOn, String.ofList_toList]
    · cases h
  · rintro rfl
    have hlt : ∀ octet ∈ octets n, octet < 256 := by
      have hn := n.isLt
      simp only [octets, List.mem_cons, List.not_mem_nil, or_false]
      omega
    have hsplit : (dotted n).toList.splitOn '.' =
        (octets n).map fun octet => (Nat.repr octet).toList := by
      rw [dotted, String.toList_ofList]
      refine List.splitOn_intercalate '.' (fun part hpart => ?_) (by simp [octets])
      obtain ⟨octet, -, rfl⟩ := List.mem_map.mp hpart
      exact dot_notMem_repr octet
    unfold parse4
    rw [hsplit, mapM_parseOctet hlt]
    show some (BitVec.ofNat 32 (fromDigits 256 (octets n))) = some n
    rw [fromDigits_octets, BitVec.ofNat_toNat, BitVec.setWidth_eq]

lemma dotted_injective {m n : BitVec 32} (h : dotted m = dotted n) : m = n :=
  Option.some.inj ((parse4_eq_some_iff.mpr h).symm.trans (parse4_eq_some_iff.mpr rfl)).symm

lemma parse_eq_v4_iff {text : String} {n : BitVec 32} :
    parse text = some (.v4 n) ↔ text = dotted n := by
  rw [← parse4_eq_some_iff, parse]
  cases parse4 text with
  | none =>
      refine iff_of_false (fun h => ?_) (fun h => (by cases h))
      obtain ⟨m, -, hm⟩ := Option.map_eq_some_iff.mp h
      cases hm
  | some m => simp

end Ip

end Samaktha
