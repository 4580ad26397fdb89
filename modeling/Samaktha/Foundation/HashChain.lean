import Mathlib.Data.List.Induction
import Mathlib.Tactic.Common

/-!
# Hash chains

A list of entries, each with a hash that is computed from the hash before it and from its own
content.  `verify` computes the hashes anew.  Where the function is injective on the entries of a
kind and never gives the hash that the chain starts from, the last hash of a verified chain of
such entries binds all of them (`content_eq_of_head`).

Nothing here mentions the program being verified.
-/

namespace Samaktha

namespace HashChain

universe u v w

variable {ε : Type u} {η : Type v} [DecidableEq η] (hash : ε → η) (link : η → ε → η)

/-- Whether every hash is the one that the hash before it and the entry give. -/
def verify : η → List ε → Bool
  | _, [] => true
  | previous, e :: es => hash e = link previous e && verify (hash e) es

/-- The last hash. -/
def head (start : η) (es : List ε) : η := (es.getLast?.map hash).getD start

variable {hash link} {start : η} {es fs : List ε}

omit [DecidableEq η] in
@[simp] lemma head_nil : head hash start [] = start := rfl

omit [DecidableEq η] in
@[simp] lemma head_concat (es : List ε) (e : ε) : head hash start (es ++ [e]) = hash e := by
  rw [head, List.getLast?_concat, Option.map_some, Option.getD_some]

lemma verify_concat (es : List ε) (e : ε) :
    verify hash link start (es ++ [e]) = true ↔
      verify hash link start es = true ∧ hash e = link (head hash start es) e := by
  induction es generalizing start with
  | nil => simp [verify]
  | cons f es ih =>
      have hhead : head hash start (f :: es) = head hash (hash f) es := by
        unfold head
        rw [List.getLast?_cons]
        cases es.getLast? with
        | none => rfl
        | some last => rfl
      rw [List.cons_append, verify, verify, Bool.and_eq_true, Bool.and_eq_true, ih, hhead,
        and_assoc]

/-- What a hash of a verified chain can be linked to. -/
def Linked (link : η → ε → η) (start previous : η) : Prop :=
  previous = start ∨ ∃ before e, previous = link before e

lemma linked_head (h : verify hash link start es = true) :
    Linked link start (head hash start es) := by
  rcases List.eq_nil_or_concat es with rfl | ⟨init, e, rfl⟩
  · exact .inl rfl
  · rw [List.concat_eq_append] at h ⊢
    rw [head_concat]
    exact .inr ⟨_, e, ((verify_concat init e).mp h).2⟩

/-- Two verified chains with the same last hash have the same entries. -/
theorem content_eq_of_head {κ : Type w} {content : ε → κ} {P : ε → Prop}
    (hlink : ∀ p e q f, P e → P f → Linked link start p → Linked link start q →
      link p e = link q f → p = q ∧ content e = content f)
    (hstart : ∀ p e, link p e ≠ start) (hPes : ∀ e ∈ es, P e) (hPfs : ∀ f ∈ fs, P f)
    (hes : verify hash link start es = true) (hfs : verify hash link start fs = true)
    (h : head hash start es = head hash start fs) :
    es.map (fun e => (hash e, content e)) = fs.map fun e => (hash e, content e) := by
  induction es using List.reverseRecOn generalizing fs with
  | nil =>
      rcases List.eq_nil_or_concat fs with rfl | ⟨init, f, rfl⟩
      · rfl
      · rw [List.concat_eq_append, head_concat, head_nil] at h
        rw [List.concat_eq_append] at hfs
        exact absurd (((verify_concat init f).mp hfs).2.symm.trans h.symm) (hstart _ f)
  | append_singleton init e ih =>
      obtain ⟨hinit, he⟩ := (verify_concat init e).mp hes
      rw [head_concat] at h
      rcases List.eq_nil_or_concat fs with rfl | ⟨init', f, rfl⟩
      · exact absurd (he.symm.trans h) (hstart _ e)
      · rw [List.concat_eq_append] at hfs h hPfs ⊢
        obtain ⟨hinit', hf⟩ := (verify_concat init' f).mp hfs
        rw [head_concat] at h
        obtain ⟨hprevious, hcontent⟩ := hlink _ e _ f (hPes e (by simp)) (hPfs f (by simp))
          (linked_head hinit) (linked_head hinit') (he.symm.trans (h.trans hf))
        have hinits := ih (fun g hg => hPes g (List.mem_append_left _ hg))
          (fun g hg => hPfs g (List.mem_append_left _ hg)) hinit hinit' hprevious
        rw [List.map_append, List.map_append, hinits, List.map_singleton, List.map_singleton, h,
          hcontent]

end HashChain

end Samaktha
