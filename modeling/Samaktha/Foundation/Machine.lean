import Mathlib.Tactic.Common
import Mathlib.Logic.Basic

/-!
# Machines driven by their environment

Every protocol of this development is a deterministic program whose nondeterminism (which
coroutine runs next, what an executor returns, when the process dies) is chosen from outside.
`Machine` is that shape: a partial step function on states and *moves*, undefined where the
program does not allow the move.  A run is a list of moves, so a statement about every
interleaving is a statement about every list.

The rules the protocols use are `Machine.run_invariant` (an invariant of each step is an
invariant of each run), `Machine.guarded_invariant` (the same for runs whose steps all
meet a condition on the state they are taken from), and `Machine.guarded_congr` and
`Machine.guarded_iff_guarded_and_forall` (where the condition is exact for a step, it is exact
for a run).

Nothing here mentions the program being verified.
-/

namespace Samaktha

universe u v

lemma some_getD {α : Type u} {o : Option α} (h : o.isSome = true) (d : α) :
    o = some (o.getD d) := by
  cases o with
  | none => cases h
  | some a => rfl

lemma bind_eq_ok {ε α β : Type} {x : Except ε α} {f : α → Except ε β} {b : β}
    (h : (x >>= f) = .ok b) : ∃ a, x = .ok a ∧ f a = .ok b := by
  cases x with
  | error error => cases h
  | ok a => exact ⟨a, rfl, h⟩

lemma bind_eq_error {ε α β : Type} {x : Except ε α} {f : α → Except ε β} {e : ε}
    (h : (x >>= f) = .error e) : x = .error e ∨ ∃ a, x = .ok a ∧ f a = .error e := by
  cases x with
  | error error =>
      have hsame : (.error error : Except ε β) = .error e := h
      exact .inl (congrArg Except.error (Except.error.inj hsame))
  | ok a => exact .inr ⟨a, rfl, h⟩

/-- A deterministic program driven by moves; `step` is `none` where the move is not enabled. -/
structure Machine (σ : Type u) (ι : Type v) where
  step : σ → ι → Option σ

namespace Machine

variable {σ : Type u} {ι : Type v} (M : Machine σ ι)

/-- The state after a list of moves, if every one of them was enabled. -/
def run : σ → List ι → Option σ
  | s, [] => some s
  | s, i :: is => (M.step s i).bind fun t => run t is

@[simp] lemma run_nil (s : σ) : M.run s [] = some s := rfl

lemma run_cons (s : σ) (i : ι) (is : List ι) :
    M.run s (i :: is) = (M.step s i).bind fun t => M.run t is := rfl

lemma run_cons_eq_some {s t : σ} {i : ι} {is : List ι} :
    M.run s (i :: is) = some t ↔ ∃ r, M.step s i = some r ∧ M.run r is = some t := by
  rw [run_cons, Option.bind_eq_some_iff]

lemma run_append (s : σ) (is js : List ι) :
    M.run s (is ++ js) = (M.run s is).bind fun t => M.run t js := by
  induction is generalizing s with
  | nil => rfl
  | cons i is ih =>
      rw [List.cons_append, run_cons, run_cons]
      cases h : M.step s i with
      | none => rfl
      | some r => simpa using ih r

lemma run_append_eq_some {s t : σ} {is js : List ι} :
    M.run s (is ++ js) = some t ↔ ∃ r, M.run s is = some r ∧ M.run r js = some t := by
  rw [run_append, Option.bind_eq_some_iff]

lemma run_snoc_eq_some {s t : σ} {is : List ι} {i : ι} :
    M.run s (is ++ [i]) = some t ↔ ∃ r, M.run s is = some r ∧ M.step r i = some t := by
  simp [run_append_eq_some, run_cons_eq_some]

/-! ## Invariants -/

/-- An invariant of every step is an invariant of every run. -/
theorem run_invariant {I : σ → Prop} (hstep : ∀ s i t, I s → M.step s i = some t → I t)
    {s t : σ} {is : List ι} (hs : I s) (hrun : M.run s is = some t) : I t := by
  induction is generalizing s with
  | nil =>
      obtain rfl : s = t := by simpa using hrun
      exact hs
  | cons i is ih =>
      obtain ⟨r, hr, hrt⟩ := M.run_cons_eq_some.mp hrun
      exact ih (hstep s i r hs hr) hrt

/-- Every step of the run from `s` meets the condition `G` on the state it is taken from. -/
def Guarded (G : σ → ι → Prop) : σ → List ι → Prop
  | _, [] => True
  | s, i :: is => G s i ∧ ∀ t, M.step s i = some t → Guarded G t is

@[simp] lemma guarded_nil (G : σ → ι → Prop) (s : σ) : M.Guarded G s [] := trivial

lemma guarded_cons {G : σ → ι → Prop} {s : σ} {i : ι} {is : List ι} :
    M.Guarded G s (i :: is) ↔ G s i ∧ ∀ t, M.step s i = some t → M.Guarded G t is := Iff.rfl

lemma guarded_append {G : σ → ι → Prop} {s : σ} {is js : List ι} :
    M.Guarded G s (is ++ js) ↔
      M.Guarded G s is ∧ ∀ t, M.run s is = some t → M.Guarded G t js := by
  induction is generalizing s with
  | nil => simp
  | cons i is ih =>
      rw [List.cons_append, guarded_cons, guarded_cons]
      constructor
      · rintro ⟨hG, hrest⟩
        refine ⟨⟨hG, fun t ht => ((ih).mp (hrest t ht)).1⟩, fun t ht => ?_⟩
        obtain ⟨r, hr, hrt⟩ := M.run_cons_eq_some.mp ht
        exact ((ih).mp (hrest r hr)).2 t hrt
      · rintro ⟨⟨hG, hrest⟩, htail⟩
        refine ⟨hG, fun r hr => (ih).mpr ⟨hrest r hr, fun t ht => ?_⟩⟩
        exact htail t (M.run_cons_eq_some.mpr ⟨r, hr, ht⟩)

/-- Whether every step meets a condition can be decided by taking the steps. -/
instance decidableGuarded {G : σ → ι → Prop} [∀ s i, Decidable (G s i)] :
    ∀ s is, Decidable (M.Guarded G s is)
  | _, [] => isTrue trivial
  | s, i :: is =>
      match h : M.step s i with
      | none => decidable_of_iff (G s i)
          ⟨fun hG => ⟨hG, fun t ht => absurd (h.symm.trans ht) (Option.some_ne_none t).symm⟩,
            And.left⟩
      | some r =>
          have : Decidable (M.Guarded G r is) := decidableGuarded r is
          decidable_of_iff (G s i ∧ M.Guarded G r is)
            ⟨fun hG => ⟨hG.1, fun _ ht => Option.some.inj (h.symm.trans ht) ▸ hG.2⟩,
              fun hG => ⟨hG.1, hG.2 r h⟩⟩

lemma Guarded.mono {M : Machine σ ι} {G H : σ → ι → Prop} (hGH : ∀ s i, G s i → H s i) :
    ∀ {s : σ} {is : List ι}, M.Guarded G s is → M.Guarded H s is
  | _, [], _ => trivial
  | s, i :: _, h => ⟨hGH s i h.1, fun t ht => Guarded.mono hGH (h.2 t ht)⟩

lemma guarded_of_forall {G : σ → ι → Prop} (h : ∀ s i, G s i) :
    ∀ (s : σ) (is : List ι), M.Guarded G s is
  | _, [] => trivial
  | s, i :: is => ⟨h s i, fun t _ => guarded_of_forall h t is⟩

/-- An invariant of every step that meets `G` is an invariant of every run whose steps all
meet `G`. -/
theorem guarded_invariant {I : σ → Prop} {G : σ → ι → Prop}
    (hstep : ∀ s i t, I s → G s i → M.step s i = some t → I t)
    {s t : σ} {is : List ι} (hs : I s) (hG : M.Guarded G s is) (hrun : M.run s is = some t) :
    I t := by
  induction is generalizing s with
  | nil =>
      obtain rfl : s = t := by simpa using hrun
      exact hs
  | cons i is ih =>
      obtain ⟨r, hr, hrt⟩ := M.run_cons_eq_some.mp hrun
      exact ih (hstep s i r hs hG.1 hr) (hG.2 r hr) hrt

/-- Where `I` holds at the start and is kept by every step that meets `G`, a property that
each such step has along a run is the conjunction of its instances. -/
theorem guarded_of_invariant {I : σ → Prop} {G H : σ → ι → Prop}
    (hstep : ∀ s i t, I s → G s i → M.step s i = some t → I t)
    (hprop : ∀ s i, I s → G s i → H s i) :
    ∀ {s : σ} {is : List ι}, I s → M.Guarded G s is → M.Guarded H s is
  | _, [], _, _ => trivial
  | s, i :: _, hs, hG =>
      ⟨hprop s i hs hG.1, fun t ht =>
        guarded_of_invariant hstep hprop (hstep s i t hs hG.1 ht) (hG.2 t ht)⟩

/-- Where `I` holds at the start and is kept by every step that meets `G`, two conditions that
agree on the states with `I` agree on runs, if `G` is one of them. -/
theorem guarded_congr {I : σ → Prop} {G H : σ → ι → Prop}
    (hstep : ∀ s i t, I s → G s i → M.step s i = some t → I t)
    (hexact : ∀ s i, I s → (G s i ↔ H s i)) {s : σ} {is : List ι} (hs : I s) :
    M.Guarded G s is ↔ M.Guarded H s is := by
  induction is generalizing s with
  | nil => rfl
  | cons i is ih =>
      rw [guarded_cons, guarded_cons, ← hexact s i hs]
      refine and_congr_right fun hG => forall_congr' fun t => ?_
      exact imp_congr_right fun ht => ih (hstep s i t hs hG ht)

/-- Where a step from a state with `P` has `H` and ends in a state with `P` exactly where it meets
`G`, the runs whose steps all meet `G` are the ones whose steps all have `H` and that have `P` all
along. -/
theorem guarded_iff_guarded_and_forall {I P : σ → Prop} {G H : σ → ι → Prop}
    (hstep : ∀ s i t, I s → M.step s i = some t → I t)
    (hexact : ∀ s i, I s → P s → (G s i ↔ H s i ∧ ∀ t, M.step s i = some t → P t))
    {s : σ} {is : List ι} (hs : I s) (hP : P s) :
    M.Guarded G s is ↔
      M.Guarded H s is ∧ ∀ js t, js <+: is → M.run s js = some t → P t := by
  induction is generalizing s with
  | nil =>
      refine iff_of_true trivial ⟨trivial, fun js t hstarts hrun => ?_⟩
      obtain rfl := List.prefix_nil.mp hstarts
      exact Option.some.inj hrun ▸ hP
  | cons i is ih =>
      rw [guarded_cons, guarded_cons, hexact s i hs hP]
      constructor
      · rintro ⟨⟨hH, hone⟩, hrest⟩
        refine ⟨⟨hH, fun r hr => ((ih (hstep s i r hs hr) (hone r hr)).mp (hrest r hr)).1⟩, ?_⟩
        intro js t hstarts hrun
        cases js with
        | nil => exact Option.some.inj hrun ▸ hP
        | cons j js =>
            obtain ⟨rfl, htail⟩ := List.cons_prefix_cons.mp hstarts
            obtain ⟨r, hr, hrt⟩ := M.run_cons_eq_some.mp hrun
            exact ((ih (hstep s j r hs hr) (hone r hr)).mp (hrest r hr)).2 js t htail hrt
      · rintro ⟨⟨hH, hrest⟩, hall⟩
        have hone : ∀ t, M.step s i = some t → P t := by
          intro t ht
          refine hall [i] t (List.cons_prefix_cons.mpr ⟨rfl, List.nil_prefix⟩) ?_
          exact M.run_cons_eq_some.mpr ⟨t, ht, rfl⟩
        refine ⟨⟨hH, hone⟩, fun r hr => (ih (hstep s i r hs hr) (hone r hr)).mpr
          ⟨hrest r hr, fun js t hstarts hrun => ?_⟩⟩
        refine hall (i :: js) t (List.cons_prefix_cons.mpr ⟨rfl, hstarts⟩) ?_
        exact M.run_cons_eq_some.mpr ⟨r, hr, hrun⟩

/-- Where a step from a state with `P` ends in a state with `P` exactly where it meets `G`, the
runs whose steps all meet `G` are the ones that have `P` all along. -/
theorem guarded_iff_forall {I P : σ → Prop} {G : σ → ι → Prop}
    (hstep : ∀ s i t, I s → M.step s i = some t → I t)
    (hexact : ∀ s i, I s → P s → (G s i ↔ ∀ t, M.step s i = some t → P t))
    {s : σ} {is : List ι} (hs : I s) (hP : P s) :
    M.Guarded G s is ↔ ∀ js t, js <+: is → M.run s js = some t → P t := by
  rw [M.guarded_iff_guarded_and_forall (H := fun _ _ => True) hstep
    (fun s i hs hP => (hexact s i hs hP).trans (iff_of_eq (true_and _)).symm) hs hP]
  exact and_iff_right (M.guarded_of_forall (fun _ _ => trivial) s is)

/-! ## Watched runs -/

/-- A machine with somebody who takes notes of its moves. -/
def watched {ω : Type*} (note : ω → σ → ι → ω) : Machine (σ × ω) ι where
  step w i := (M.step w.1 i).map fun t => (t, note w.2 w.1 i)

/-- A condition that does not ask for the notes is met where the machine itself meets it. -/
lemma guarded_watched_iff {ω : Type*} {note : ω → σ → ι → ω} {G : σ → ι → Prop} {s : σ} {o : ω}
    {is : List ι} :
    (M.watched note).Guarded (fun w => G w.1) (s, o) is ↔ M.Guarded G s is := by
  induction is generalizing s o with
  | nil => exact Iff.rfl
  | cons i is ih =>
      rw [guarded_cons, guarded_cons]
      refine and_congr_right fun _ => ?_
      constructor
      · intro h t ht
        exact ih.mp (h (t, note o s i) (by simp [watched, ht]))
      · rintro h ⟨t, o'⟩ ht
        obtain ⟨t', hstep, heq⟩ := Option.map_eq_some_iff.mp ht
        obtain ⟨rfl, rfl⟩ := Prod.mk.inj heq
        exact ih.mpr (h t' hstep)

end Machine

end Samaktha
