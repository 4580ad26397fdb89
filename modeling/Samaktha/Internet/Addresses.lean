import Samaktha.Foundation.IpAddress
import Samaktha.Internet.Fetch

/-!
# The two address filters

The tool security enforcer and the content fetcher each have an `_is_address_allowed` of their
own.  With the same flags they answer differently in two places: the enforcer lets
`100.100.100.200` through, which the fetcher knows for a metadata endpoint, and it refuses every
private address of version 6, which the fetcher takes where private addresses are allowed.
`screened_iff` says that there is no other difference, and that both refuse what is never to be
reached.
-/

namespace Samaktha

open Ip

/-- The kind of an address with these properties. -/
def kindOf (properties : Properties) : AddressKind where
  loopback := properties.loopback
  «private» := properties.private
  linkLocal := properties.linkLocal
  multicast := properties.multicast
  unspecified := properties.unspecified
  reserved := properties.reserved

/-- What a filter reads of an address. -/
def described (release : Release) : Address → IpAddress
  | .v4 n => { kind := kindOf (properties4 n) }
  | .v6 n =>
      { kind := kindOf (properties6 release n)
        version6 := true
        mapped := (mapped n).map fun m => (dotted m, kindOf (properties4 m)) }

/-- `ipaddress.ip_address`. -/
def ipAddress (release : Release) (text : String) : Option IpAddress :=
  (parse text).map (described release)

/-! ## What both filters are to do -/

/-- The address of version 4 that both versions can name. -/
def Address.embedded : Address → Option (BitVec 32)
  | .v4 n => some n
  | .v6 n => mapped n

/-- Link-local, multicast and unspecified addresses and metadata endpoints, also where they are
mapped. -/
def Never (address : Address) : Prop :=
  (∃ n, Address.embedded address = some n ∧ ((properties4 n).linkLocal ∨
    (properties4 n).multicast ∨ (properties4 n).unspecified ∨ dotted n ∈ metadataIps)) ∨
  ∃ n, address = .v6 n ∧ ((own6 n).linkLocal ∨ (own6 n).multicast ∨ (own6 n).unspecified)

/-- A loopback address, also where it is mapped. -/
def Loopback (address : Address) : Prop :=
  (∃ n, Address.embedded address = some n ∧ (properties4 n).loopback) ∨
    ∃ n, address = .v6 n ∧ (own6 n).loopback

/-- The filters answer alike, refuse what is never to be reached, and take loopback and private
addresses only where the flag is set. -/
structure Screened (policy : NetworkSecurityPolicy) (fetcher : ContentFetcher)
    (platform : UrlPlatform) (release : Release) (text : String) (address : Address) : Prop where
  same : policy.addressAllowed platform text = fetcher.addressAllowed platform text
  never : Never address → policy.addressAllowed platform text = false ∧
    fetcher.addressAllowed platform text = false
  loopback : Loopback address → policy.addressAllowed platform text = true ∨
    fetcher.addressAllowed platform text = true → policy.allowLocalhost = true
  «private» : (properties release address).private = true →
    policy.addressAllowed platform text = true ∨
      fetcher.addressAllowed platform text = true → policy.allowPrivateAddresses = true

/-- `100.100.100.200`. -/
def sharedMetadata : BitVec 32 := BitVec.ofNat 32 (fromDigits 256 [100, 100, 100, 200])

/-- The addresses on which the filters differ. -/
def Divided (policy : NetworkSecurityPolicy) (release : Release) : Address → Prop
  | .v4 n => n = sharedMetadata
  | .v6 n =>
      match mapped n with
      | none => policy.allowPrivateAddresses ∧ (own6 n).private ∧ (own6 n).linkLocal = false ∧
          (own6 n).reserved = false
      | some m => release.others ∧ (m = sharedMetadata ∨
          policy.allowPrivateAddresses ∧ (properties4 m).private ∧
            (properties4 m).linkLocal = false ∧ (properties4 m).unspecified = false ∧
            (properties4 m).reserved = false ∧
            ((properties4 m).loopback → policy.allowLocalhost))

/-! ## The blocks -/

lemma own6_of_private {n : BitVec 128} (hprivate : (own6 n).private = true)
    (hlinkLocal : (own6 n).linkLocal = false) (hreserved : (own6 n).reserved = false) :
    (own6 n).multicast = false ∧ (own6 n).unspecified = false ∧ (own6 n).loopback = false := by
  simp only [own6, inSome, private6, reserved6, Block.has, block6, fromDigits, Bool.and_eq_true,
    List.any_cons, List.any_nil, Bool.or_eq_true, Bool.or_eq_false_iff, decide_eq_true_eq,
    decide_eq_false_iff_not, List.foldl_cons, List.foldl_nil, List.length_cons, List.length_nil]
    at hprivate hlinkLocal hreserved ⊢
  norm_num at hprivate hlinkLocal hreserved ⊢
  omega

lemma properties4_of_private {n : BitVec 32} (hprivate : (properties4 n).private = true) :
    (properties4 n).multicast = false := by
  simp only [properties4, inSome, private4, Block.has, block4, fromDigits, Bool.and_eq_true,
    List.any_cons, List.any_nil, Bool.or_eq_true, decide_eq_true_eq, List.foldl_cons,
    List.foldl_nil] at hprivate ⊢
  norm_num at hprivate ⊢
  omega

lemma own6_of_mapped {n : BitVec 128} {m : BitVec 32} (h : mapped n = some m) :
    (own6 n).reserved = true ∧ (own6 n).linkLocal = false ∧ (own6 n).multicast = false ∧
      (own6 n).unspecified = false ∧ (own6 n).loopback = false := by
  have hn : n.toNat / 2 ^ 32 = 0xffff := by
    unfold mapped at h
    split at h
    · assumption
    · cases h
  simp only [own6, inSome, reserved6, Block.has, block6, fromDigits, List.any_cons, List.any_nil,
    Bool.or_eq_true, decide_eq_true_eq, decide_eq_false_iff_not, List.foldl_cons, List.foldl_nil,
    List.length_cons, List.length_nil]
  norm_num at hn ⊢
  omega

/-! ## Texts of metadata endpoints -/

lemma dotted_mem_metadataIps {n : BitVec 32} (h : dotted n ∈ metadataIps) :
    (properties4 n).linkLocal = true ∨ n = sharedMetadata := by
  have hof : ∀ {m : BitVec 32} {text : String}, dotted m = text → dotted n = text → n = m :=
    fun hm hn => dotted_injective (hn.trans hm.symm)
  simp only [metadataIps, List.mem_cons, List.not_mem_nil, or_false] at h
  rcases h with h | h | h | h | h
  · obtain rfl := hof (m := BitVec.ofNat 32 (fromDigits 256 [169, 254, 169, 254])) (by decide) h
    exact .inl (by decide)
  · obtain rfl := hof (m := BitVec.ofNat 32 (fromDigits 256 [169, 254, 169, 253])) (by decide) h
    exact .inl (by decide)
  · obtain rfl := hof (m := BitVec.ofNat 32 (fromDigits 256 [169, 254, 169, 154])) (by decide) h
    exact .inl (by decide)
  · exact .inr (hof (by decide) h)
  · obtain rfl := hof (m := BitVec.ofNat 32 (fromDigits 256 [169, 254, 0, 1])) (by decide) h
    exact .inl (by decide)

lemma dotted_sharedMetadata : dotted sharedMetadata ∈ metadataIps := by decide

lemma notMem_metadataIps {text : String} {n : BitVec 128} (h : parse text = some (.v6 n)) :
    text ∉ metadataIps := by
  intro hmem
  have hv4 : ∃ m, parse text = some (.v4 m) := by
    simp only [metadataIps, List.mem_cons, List.not_mem_nil, or_false] at hmem
    rcases hmem with rfl | rfl | rfl | rfl | rfl
    · exact ⟨BitVec.ofNat 32 (fromDigits 256 [169, 254, 169, 254]), parse_eq_v4_iff.mpr (by decide)⟩
    · exact ⟨BitVec.ofNat 32 (fromDigits 256 [169, 254, 169, 253]), parse_eq_v4_iff.mpr (by decide)⟩
    · exact ⟨BitVec.ofNat 32 (fromDigits 256 [169, 254, 169, 154]), parse_eq_v4_iff.mpr (by decide)⟩
    · exact ⟨sharedMetadata, parse_eq_v4_iff.mpr (by decide)⟩
    · exact ⟨BitVec.ofNat 32 (fromDigits 256 [169, 254, 0, 1]), parse_eq_v4_iff.mpr (by decide)⟩
  obtain ⟨m, hm⟩ := hv4
  cases h.symm.trans hm

/-! ## The answers of the filters -/

/-- The rules for the kind of an address alone. -/
def Passes (policy : NetworkSecurityPolicy) (properties : Properties) : Prop :=
  (properties.loopback = true → policy.allowLocalhost = true) ∧
    (properties.private = true → policy.allowPrivateAddresses = true) ∧
    properties.linkLocal = false ∧ properties.multicast = false ∧
    properties.unspecified = false ∧ properties.reserved = false

lemma kindAllowed_iff {policy : NetworkSecurityPolicy} {metadata : List String} {text : String}
    {properties : Properties} :
    kindAllowed policy.allowLocalhost policy.allowPrivateAddresses metadata text
      (kindOf properties) = true ↔ Passes policy properties ∧ text ∉ metadata := by
  have hflag : ∀ {b c : Bool}, (b && !c) = false ↔ (b = true → c = true) := by decide
  simp only [kindAllowed, kindOf, Passes, Bool.and_eq_true, Bool.not_eq_true', hflag, and_assoc,
    List.contains_eq_mem, decide_eq_false_iff_not]

variable {policy : NetworkSecurityPolicy} {fetcher : ContentFetcher} {platform : UrlPlatform}
  {release : Release}

lemma dotted_ne_of_passes {n : BitVec 32} (h : Passes policy (properties4 n)) :
    dotted n ∉ ["169.254.169.254"] := by
  intro hmem
  rcases dotted_mem_metadataIps (List.mem_cons.mpr (.inl (List.mem_singleton.mp hmem))) with
    hlocal | rfl
  · exact Bool.false_ne_true (h.2.2.1.symm.trans hlocal)
  · exact absurd hmem (by decide)

lemma dotted_notMem_iff {n : BitVec 32} (h : Passes policy (properties4 n)) :
    dotted n ∉ metadataIps ↔ n ≠ sharedMetadata := by
  constructor
  · rintro hnot rfl
    exact hnot dotted_sharedMetadata
  · intro hne hmem
    rcases dotted_mem_metadataIps hmem with hlocal | heq
    · exact Bool.false_ne_true (h.2.2.1.symm.trans hlocal)
    · exact hne heq

section Answers

variable (hplatform : platform.ipAddress = ipAddress release)
include hplatform

lemma enforcer_v4 (n : BitVec 32) :
    policy.addressAllowed platform (dotted n) = true ↔ Passes policy (properties4 n) := by
  have hparse : parse (dotted n) = some (.v4 n) := parse_eq_v4_iff.mpr rfl
  unfold NetworkSecurityPolicy.addressAllowed
  rw [hplatform, ipAddress, hparse]
  simp only [Option.map_some, described, Bool.not_false, Bool.true_or, Bool.and_true]
  rw [kindAllowed_iff]
  exact and_iff_left_of_imp dotted_ne_of_passes

lemma enforcer_v6 {text : String} {n : BitVec 128} (hparse : parse text = some (.v6 n)) :
    policy.addressAllowed platform text = true ↔
      Passes policy (properties6 release n) ∧
        (∀ m, mapped n = some m → Passes policy (properties4 m)) ∧
        (properties6 release n).private = false := by
  have htext : text ∉ ["169.254.169.254"] := fun hmem => notMem_metadataIps hparse
    (List.mem_cons.mpr (.inl (List.mem_singleton.mp hmem)))
  unfold NetworkSecurityPolicy.addressAllowed
  rw [hplatform, ipAddress, hparse]
  simp only [Option.map_some, described, Bool.not_true, Bool.false_or, Bool.and_eq_true,
    Bool.not_eq_true']
  rw [kindAllowed_iff, and_iff_left htext]
  refine and_congr_right fun _ => and_congr ?_ Iff.rfl
  cases mapped n with
  | none => simp
  | some m =>
      simp only [Option.map_some, Option.all_some, Option.some.injEq, forall_eq']
      rw [kindAllowed_iff]
      exact and_iff_left_of_imp dotted_ne_of_passes

variable (hlocal : fetcher.allowLocalhost = policy.allowLocalhost)
  (hprivate : fetcher.allowPrivateAddresses = policy.allowPrivateAddresses)
include hlocal hprivate

lemma fetcher_v4 (n : BitVec 32) :
    fetcher.addressAllowed platform (dotted n) = true ↔
      Passes policy (properties4 n) ∧ n ≠ sharedMetadata := by
  have hparse : parse (dotted n) = some (.v4 n) := parse_eq_v4_iff.mpr rfl
  unfold ContentFetcher.addressAllowed
  rw [hplatform, ipAddress, hparse, hlocal, hprivate]
  simp only [Option.map_some, described, Bool.not_false, Bool.true_or, Bool.and_true]
  rw [kindAllowed_iff]
  exact and_congr_right dotted_notMem_iff

lemma fetcher_v6 {text : String} {n : BitVec 128} (hparse : parse text = some (.v6 n)) :
    fetcher.addressAllowed platform text = true ↔
      Passes policy (properties6 release n) ∧
        ∀ m, mapped n = some m → Passes policy (properties4 m) ∧ m ≠ sharedMetadata := by
  unfold ContentFetcher.addressAllowed
  rw [hplatform, ipAddress, hparse, hlocal, hprivate]
  simp only [Option.map_some, described, Bool.not_true, Bool.false_or, Bool.and_eq_true]
  rw [kindAllowed_iff, and_iff_left (notMem_metadataIps hparse)]
  refine and_congr_right fun _ => ?_
  cases mapped n with
  | none => simp
  | some m =>
      simp only [Option.map_some, Option.all_some, Option.some.injEq, forall_eq']
      rw [kindAllowed_iff]
      exact and_congr_right dotted_notMem_iff

end Answers

/-! ## Addresses that a filter takes -/

/-- What holds of an address that either filter takes. -/
structure Admitted (policy : NetworkSecurityPolicy) (release : Release) (address : Address) :
    Prop where
  passes : Passes policy (properties release address)
  embedded : ∀ n, Address.embedded address = some n → Passes policy (properties4 n)

lemma properties6_of_unmapped {n : BitVec 128} (h : mapped n = none) :
    properties6 release n = own6 n := by
  rw [properties6, h]

lemma properties6_private {n : BitVec 128} {m : BitVec 32} (h : mapped n = some m) :
    (properties6 release n).private = (properties4 m).private := by
  rw [properties6, h]

/-- Where a mapped address has the properties of the address that it stands for, the rules for
that one are enough. -/
lemma passes_mapped {n : BitVec 128} {m : BitVec 32} (h : mapped n = some m)
    (hothers : release.others = true) (hpasses : Passes policy (properties4 m)) :
    Passes policy (properties6 release n) := by
  obtain ⟨hloopback, hprivate, hrest⟩ := hpasses
  rw [properties6, h, hothers]
  refine ⟨fun hset => ?_, hprivate, hrest⟩
  cases hlocal : release.loopback with
  | false =>
      rw [hlocal] at hset
      exact absurd ((own6_of_mapped h).2.2.2.2.symm.trans hset) Bool.false_ne_true
  | true =>
      rw [hlocal] at hset
      exact hloopback hset

lemma not_passes_mapped {n : BitVec 128} {m : BitVec 32} (h : mapped n = some m)
    (hothers : release.others = false) : ¬ Passes policy (properties6 release n) := by
  rintro ⟨-, -, -, -, -, hreserved⟩
  rw [properties6, h, hothers] at hreserved
  exact absurd (hreserved.symm.trans (own6_of_mapped h).1) Bool.false_ne_true

namespace Admitted

variable {address : Address}

lemma not_own {n : BitVec 128} (h : Admitted policy release (.v6 n)) :
    (own6 n).linkLocal = false ∧ (own6 n).multicast = false ∧ (own6 n).unspecified = false ∧
      ((own6 n).loopback = true → policy.allowLocalhost = true) := by
  cases hmapped : mapped n with
  | none =>
      have hpasses : Passes policy (properties6 release n) := h.passes
      rw [properties6_of_unmapped hmapped] at hpasses
      obtain ⟨hloopback, -, hlinkLocal, hmulticast, hunspecified, -⟩ := hpasses
      exact ⟨hlinkLocal, hmulticast, hunspecified, hloopback⟩
  | some m =>
      obtain ⟨-, hlinkLocal, hmulticast, hunspecified, hloopback⟩ := own6_of_mapped hmapped
      exact ⟨hlinkLocal, hmulticast, hunspecified,
        fun hset => absurd (hloopback.symm.trans hset) Bool.false_ne_true⟩

/-- Of the addresses that are never to be reached, only the metadata endpoint that is not
link-local can be taken. -/
lemma eq_shared_of_never (h : Admitted policy release address) (hnever : Never address) :
    Address.embedded address = some sharedMetadata := by
  rcases hnever with ⟨n, hn, hkind⟩ | ⟨n, rfl, hkind⟩
  · obtain ⟨-, -, hlinkLocal, hmulticast, hunspecified, -⟩ := h.embedded n hn
    rcases hkind with hset | hset | hset | hmetadata
    · exact absurd (hlinkLocal.symm.trans hset) Bool.false_ne_true
    · exact absurd (hmulticast.symm.trans hset) Bool.false_ne_true
    · exact absurd (hunspecified.symm.trans hset) Bool.false_ne_true
    · rcases dotted_mem_metadataIps hmetadata with hset | rfl
      · exact absurd (hlinkLocal.symm.trans hset) Bool.false_ne_true
      · exact hn
  · obtain ⟨hlinkLocal, hmulticast, hunspecified, -⟩ := h.not_own
    rcases hkind with hset | hset | hset
    · exact absurd (hlinkLocal.symm.trans hset) Bool.false_ne_true
    · exact absurd (hmulticast.symm.trans hset) Bool.false_ne_true
    · exact absurd (hunspecified.symm.trans hset) Bool.false_ne_true

lemma allowLocalhost (h : Admitted policy release address) (hloopback : Loopback address) :
    policy.allowLocalhost = true := by
  rcases hloopback with ⟨n, hn, hset⟩ | ⟨n, rfl, hset⟩
  · exact (h.embedded n hn).1 hset
  · exact h.not_own.2.2.2 hset

end Admitted

section Admitted

variable {text : String} {address : Address} (hplatform : platform.ipAddress = ipAddress release)
  (hparse : parse text = some address)
include hplatform hparse

variable (hlocal : fetcher.allowLocalhost = policy.allowLocalhost)
  (hprivate : fetcher.allowPrivateAddresses = policy.allowPrivateAddresses)
include hlocal hprivate

lemma admitted_of_fetcher (h : fetcher.addressAllowed platform text = true) :
    Admitted policy release address ∧ Address.embedded address ≠ some sharedMetadata := by
  cases address with
  | v4 n =>
      obtain rfl := parse_eq_v4_iff.mp hparse
      obtain ⟨hpasses, hne⟩ := (fetcher_v4 hplatform hlocal hprivate n).mp h
      refine ⟨⟨hpasses, fun m hm => ?_⟩, fun heq => hne (Option.some.inj heq)⟩
      obtain rfl := Option.some.inj hm
      exact hpasses
  | v6 n =>
      obtain ⟨hpasses, hembedded⟩ := (fetcher_v6 hplatform hlocal hprivate hparse).mp h
      exact ⟨⟨hpasses, fun m hm => (hembedded m hm).1⟩, fun heq => (hembedded _ heq).2 rfl⟩

end Admitted

/-! ## Where the filters agree -/

lemma properties4_sharedMetadata :
    properties4 sharedMetadata = ⟨false, false, false, false, false, false⟩ := by decide

lemma passes_sharedMetadata : Passes policy (properties4 sharedMetadata) := by
  rw [properties4_sharedMetadata]
  exact ⟨fun h => (by cases h), fun h => (by cases h), rfl, rfl, rfl, rfl⟩

lemma eq_iff_of_iff {a b : Bool} {p q : Prop} (ha : a = true ↔ p) (hb : b = true ↔ q) :
    a = b ↔ (p ↔ q) := by
  rw [← ha, ← hb, Bool.eq_iff_iff]

/-- Between the rules of the enforcer and those of the fetcher for a mapped address. -/
lemma mapped_agree_iff {m : BitVec 32} :
    (Passes policy (properties4 m) ∧ (properties4 m).private = false ↔
      Passes policy (properties4 m) ∧ m ≠ sharedMetadata) ↔
    ¬ (m = sharedMetadata ∨ policy.allowPrivateAddresses ∧ (properties4 m).private ∧
      (properties4 m).linkLocal = false ∧ (properties4 m).unspecified = false ∧
      (properties4 m).reserved = false ∧
      ((properties4 m).loopback → policy.allowLocalhost)) := by
  constructor
  · rintro hiff (rfl | ⟨hallow, hprivate, hlinkLocal, hunspecified, hreserved, hloopback⟩)
    · have hset : (properties4 sharedMetadata).private = false :=
        congrArg Properties.private properties4_sharedMetadata
      exact (hiff.mp ⟨passes_sharedMetadata, hset⟩).2 rfl
    · have hpasses : Passes policy (properties4 m) := ⟨hloopback, fun _ => hallow, hlinkLocal,
        properties4_of_private hprivate, hunspecified, hreserved⟩
      have hne : m ≠ sharedMetadata := by
        rintro rfl
        rw [properties4_sharedMetadata] at hprivate
        cases hprivate
      have hset := (hiff.mpr ⟨hpasses, hne⟩).2
      exact Bool.false_ne_true (hset.symm.trans hprivate)
  · intro hnot
    obtain ⟨hne, hpublic⟩ := not_or.mp hnot
    refine and_congr_right fun hpasses => iff_of_true ?_ hne
    refine Bool.eq_false_iff.mpr fun hprivate => hpublic ?_
    obtain ⟨hloopback, hallow, hlinkLocal, -, hunspecified, hreserved⟩ := hpasses
    exact ⟨hallow hprivate, hprivate, hlinkLocal, hunspecified, hreserved, hloopback⟩

/-- Between the rules of the enforcer and those of the fetcher for an address of version 6 that is
not mapped. -/
lemma unmapped_agree_iff {n : BitVec 128} :
    (Passes policy (own6 n) ∧ (own6 n).private = false ↔ Passes policy (own6 n)) ↔
    ¬ (policy.allowPrivateAddresses ∧ (own6 n).private ∧ (own6 n).linkLocal = false ∧
      (own6 n).reserved = false) := by
  constructor
  · rintro hiff ⟨hallow, hprivate, hlinkLocal, hreserved⟩
    obtain ⟨hmulticast, hunspecified, hloopback⟩ := own6_of_private hprivate hlinkLocal hreserved
    have hpasses : Passes policy (own6 n) :=
      ⟨fun hset => absurd (hloopback.symm.trans hset) Bool.false_ne_true, fun _ => hallow,
        hlinkLocal, hmulticast, hunspecified, hreserved⟩
    exact Bool.false_ne_true ((hiff.mpr hpasses).2.symm.trans hprivate)
  · intro hnot
    refine and_iff_left_of_imp fun hpasses => Bool.eq_false_iff.mpr fun hprivate => hnot ?_
    obtain ⟨-, hallow, hlinkLocal, -, -, hreserved⟩ := hpasses
    exact ⟨hallow hprivate, hprivate, hlinkLocal, hreserved⟩

section Agree

variable {text : String} {address : Address} (hplatform : platform.ipAddress = ipAddress release)
  (hparse : parse text = some address)
  (hlocal : fetcher.allowLocalhost = policy.allowLocalhost)
  (hprivate : fetcher.allowPrivateAddresses = policy.allowPrivateAddresses)
include hplatform hparse hlocal hprivate

lemma same_iff : policy.addressAllowed platform text = fetcher.addressAllowed platform text ↔
    ¬ Divided policy release address := by
  cases address with
  | v4 n =>
      obtain rfl := parse_eq_v4_iff.mp hparse
      rw [eq_iff_of_iff (enforcer_v4 hplatform n) (fetcher_v4 hplatform hlocal hprivate n)]
      constructor
      · rintro hiff rfl
        exact (hiff.mp passes_sharedMetadata).2 rfl
      · intro hne
        exact (and_iff_left hne).symm
  | v6 n =>
      rw [eq_iff_of_iff (enforcer_v6 hplatform hparse)
        (fetcher_v6 hplatform hlocal hprivate hparse), Divided]
      cases hmapped : mapped n with
      | none =>
          simp only [reduceCtorEq, false_imp_iff, implies_true, true_and, and_true]
          rw [properties6_of_unmapped hmapped]
          exact unmapped_agree_iff
      | some m =>
          simp only [Option.some.injEq, forall_eq', properties6_private hmapped]
          cases hothers : release.others with
          | false =>
              have hrefused : ¬ Passes policy (properties6 release n) :=
                not_passes_mapped hmapped hothers
              exact iff_of_true (iff_of_false (fun h => hrefused h.1) fun h => hrefused h.1)
                fun h => Bool.false_ne_true h.1
          | true =>
              have henforcer : Passes policy (properties6 release n) ∧
                  Passes policy (properties4 m) ∧ (properties4 m).private = false ↔
                  Passes policy (properties4 m) ∧ (properties4 m).private = false :=
                and_iff_right_of_imp fun h => passes_mapped hmapped hothers h.1
              have hfetcher : Passes policy (properties6 release n) ∧
                  Passes policy (properties4 m) ∧ m ≠ sharedMetadata ↔
                  Passes policy (properties4 m) ∧ m ≠ sharedMetadata :=
                and_iff_right_of_imp fun h => passes_mapped hmapped hothers h.1
              rw [henforcer, hfetcher, mapped_agree_iff]
              simp only [true_and]

/-- With equal flags the filters screen an address alike, and as they should, exactly if it is
none of those on which they differ. -/
theorem screened_iff : Screened policy fetcher platform release text address ↔
    ¬ Divided policy release address := by
  have hagree := same_iff hplatform hparse hlocal hprivate
  refine ⟨fun h => hagree.mp h.same, fun h => ?_⟩
  have hsame := hagree.mpr h
  have hfetcher : policy.addressAllowed platform text = true ∨
      fetcher.addressAllowed platform text = true →
      fetcher.addressAllowed platform text = true := by
    rw [hsame, or_self]
    exact id
  have hadmitted := fun hset =>
    admitted_of_fetcher hplatform hparse hlocal hprivate (hfetcher hset)
  refine ⟨hsame, fun hnever => ?_, fun hloopback hset => ?_, fun hset htaken => ?_⟩
  · have hrefused : fetcher.addressAllowed platform text = false := by
      refine Bool.eq_false_iff.mpr fun hset => ?_
      obtain ⟨hadmits, hne⟩ := hadmitted (.inr hset)
      exact hne (hadmits.eq_shared_of_never hnever)
    exact ⟨hsame.trans hrefused, hrefused⟩
  · exact (hadmitted hset).1.allowLocalhost hloopback
  · exact (hadmitted htaken).1.passes.2.1 hset

end Agree

/-- A platform that parses no URL. -/
def addressPlatform : UrlPlatform where
  urlparse := fun _ => none
  urljoin := fun _ _ => none
  ipAddress := ipAddress ⟨true, true⟩

theorem screened_public : Screened {} {} addressPlatform ⟨true, true⟩ "8.8.8.8"
    (.v4 (BitVec.ofNat 32 (fromDigits 256 [8, 8, 8, 8]))) :=
  (screened_iff rfl (by decide +kernel) rfl rfl).mpr (by unfold Divided; decide)

theorem not_screened :
    (parse "100.100.100.200" = some (.v4 sharedMetadata) ∧
      ¬ Screened {} {} addressPlatform ⟨true, true⟩ "100.100.100.200" (.v4 sharedMetadata)) ∧
    parse "fc00::1" = some (.v6 (BitVec.ofNat 128 (0xfc00 * 2 ^ 112 + 1))) ∧
      ¬ Screened { allowPrivateAddresses := true } { allowPrivateAddresses := true }
        addressPlatform ⟨true, true⟩ "fc00::1" (.v6 (BitVec.ofNat 128 (0xfc00 * 2 ^ 112 + 1))) :=
  ⟨⟨by decide +kernel, fun h => absurd h.same (by decide +kernel)⟩, by decide +kernel,
    fun h => absurd h.same (by decide +kernel)⟩

end Samaktha
