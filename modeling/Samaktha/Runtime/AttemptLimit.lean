import Samaktha.Runtime.GatePaths
import Samaktha.Runtime.PermitReplay

/-!
# How often an executor is called

The attempts of a call of `run` are counted in its phase, and its executor calls in the log.
`Frugal` relates the two: a call about to make an attempt has made fewer executor calls than
attempts, and the policy allows the attempt.
-/

namespace Samaktha

namespace Engine

variable {κ : Type} {cfg : EngineConfig κ} {s t u : State κ} {i attempt : ℕ} {call : Call}

/-- How many executor calls a call of `run` has made. -/
def made (s : State κ) (i : ℕ) : ℕ := (s.log.map Dispatch.call).count i

/-- How many attempts the policy allows. -/
def attemptLimit (cfg : EngineConfig κ) : ℕ := max 1 cfg.retryPolicy.maxAttempts

/-- What the phase of a call says about the executor calls it has made. -/
def Spent (cfg : EngineConfig κ) (n : ℕ) : Option Phase → Prop
  | some (.ready attempt _) => n < attempt ∧ attempt ≤ attemptLimit cfg
  | some (.executing attempt _) => n ≤ attempt ∧ attempt ≤ attemptLimit cfg
  | some _ => n ≤ attemptLimit cfg
  | none => n = 0

/-- No call has made more executor calls than its phase says. -/
def Frugal (cfg : EngineConfig κ) (s : State κ) : Prop :=
  ∀ i, Spent cfg (made s i) (s.calls[i]?.map Call.phase)

lemma Spent.le {n : ℕ} {phase : Option Phase} (h : Spent cfg n phase) : n ≤ attemptLimit cfg := by
  match phase, h with
  | some (.ready _ _), h => exact h.1.le.trans h.2
  | some (.executing _ _), h => exact h.1.trans h.2
  | some (.returned _), h => exact h
  | some .raised, h => exact h
  | none, h => exact h.trans_le (Nat.zero_le _)

lemma Spent.ended {n : ℕ} {phase : Phase} (h : n ≤ attemptLimit cfg)
    (hended : phase.ended = true) : Spent cfg n (some phase) := by
  cases phase with
  | ready attempt previous => cases hended
  | executing attempt entry => cases hended
  | returned result => exact h
  | raised => exact h

lemma Frugal.phase (h : Frugal cfg s) (hcall : s.calls[i]? = some call) :
    Spent cfg (made s i) (some call.phase) := by
  have := h i
  rwa [hcall] at this

lemma Frugal.set (h : Frugal cfg s) {phase : Phase} (hcall : s.calls[i]? = some call)
    (hcalls : t.calls = s.calls.set i { call with phase := phase })
    (hothers : ∀ j, j ≠ i → made t j = made s j)
    (hspent : Spent cfg (made t i) (some phase)) : Frugal cfg t := by
  intro j
  by_cases hj : j = i
  · subst hj
    rw [hcalls, List.getElem?_set_self (lt_of_getElem?_eq_some hcall)]
    exact hspent
  · rw [hcalls, List.getElem?_set_ne (Ne.symm hj), hothers j hj]
    exact h j

lemma Frugal.keep (h : Frugal cfg s) {phase : Phase} (hcall : s.calls[i]? = some call)
    (hcalls : t.calls = s.calls.set i { call with phase := phase })
    (hlog : t.log.map Dispatch.call = s.log.map Dispatch.call)
    (hspent : Spent cfg (made s i) (some phase)) : Frugal cfg t := by
  have hmade : ∀ j, made t j = made s j := fun j => by rw [made, hlog, made]
  exact h.set hcall hcalls (fun j _ => hmade j) (hmade i ▸ hspent)

lemma Frugal.settle (h : Frugal cfg s) (hcall : s.calls[i]? = some call)
    (hcalls : u.calls = s.calls) (hlog : u.log.map Dispatch.call = s.log.map Dispatch.call)
    (hspent : made s i ≤ attempt) (hlimit : attempt ≤ attemptLimit cfg) (result : RuntimeResult) :
    Frugal cfg (settle cfg u i call attempt result) := by
  obtain ⟨hlog', -, phase, hcalls', hphase⟩ := settle_spec cfg u i call attempt result
  rw [hcalls] at hcalls'
  refine h.keep hcall hcalls' (by rw [hlog', hlog]) ?_
  rcases hphase with hended | ⟨-, hallows, previous, rfl⟩
  · exact .ended (hspent.trans hlimit) hended
  · have hroom : attempt < cfg.retryPolicy.maxAttempts := by
      by_contra hfull
      simp [RetryPolicy.allows, not_lt.mp hfull] at hallows
    exact ⟨Nat.lt_succ_of_le hspent, le_max_of_le_right hroom⟩

lemma Frugal.invoke (h : Frugal cfg s) (hcall : s.calls[i]? = some call)
    (hcalls : u.calls = s.calls) (hlog : u.log = s.log)
    (hspent : made s i < attempt) (hlimit : attempt ≤ attemptLimit cfg) :
    Frugal cfg (invoke cfg u i call attempt) := by
  unfold Engine.invoke
  split
  · have hmade : ∀ j, made (u.dispatch i call attempt) j =
        made s j + if i = j then 1 else 0 := by
      intro j
      simp [made, State.dispatch, State.setPhase, hlog, List.count_singleton]
    have hcalls' : (u.dispatch i call attempt).calls = _ := congrArg (List.set · i _) hcalls
    refine h.set hcall hcalls' (fun j hj => ?_) ?_
    · rw [hmade, if_neg (Ne.symm hj), Nat.add_zero]
    · rw [hmade, if_pos rfl]
      exact ⟨hspent, hlimit⟩
  · exact h.settle hcall hcalls (by rw [hlog]) hspent.le hlimit _

lemma Frugal.iterate (h : Frugal cfg s) {previous : Option RuntimeResult}
    (hcall : s.calls[i]? = some call) (hready : call.phase = .ready attempt previous) (now : ℤ) :
    Frugal cfg (iterate cfg s i call attempt now) := by
  obtain ⟨hspent, hlimit⟩ : made s i < attempt ∧ attempt ≤ attemptLimit cfg := by
    have := h.phase hcall
    rwa [hready] at this
  have hended : ∀ {u : State κ} (phase : Phase), u.calls = s.calls → u.log = s.log →
      phase.ended = true → Frugal cfg (u.setPhase i call phase) := by
    intro u phase hcalls hlog hphase
    have hcalls' : (u.setPhase i call phase).calls = _ := congrArg (List.set · i _) hcalls
    exact h.keep hcall hcalls' (by rw [← hlog]; rfl) (.ended (hspent.le.trans hlimit) hphase)
  unfold Engine.iterate
  dsimp only
  split
  · unfold reuse
    dsimp only
    split
    · exact hended _ rfl rfl rfl
    · exact hended _ rfl rfl rfl
    · split
      · exact hended _ rfl rfl rfl
      · split <;> exact hended _ rfl rfl rfl
  · split
    · have hturned := fun (u : State κ) (hcalls : u.calls = s.calls) (hlog : u.log = s.log) =>
        h.settle hcall hcalls (by rw [hlog]) hspent.le hlimit
      have hpassed := fun (u : State κ) (hcalls : u.calls = s.calls) (hlog : u.log = s.log) =>
        h.invoke hcall hcalls hlog hspent hlimit
      unfold runOnce
      split
      · exact hended _ rfl rfl rfl
      · apply hturned <;> rfl
      · split
        · dsimp only
          split
          · apply hturned <;> rfl
          · apply hpassed <;> rfl
        · apply hpassed <;> rfl
    · exact hended _ rfl rfl rfl

lemma Frugal.step {move : Move} (h : Frugal cfg s) (hstep : step cfg s move = some t) :
    Frugal cfg t := by
  cases move with
  | start context task routing =>
      obtain rfl := Option.some.inj hstep
      intro j
      rcases lt_trichotomy j s.calls.length with hlt | rfl | hgt
      · rw [List.getElem?_append_left hlt]
        exact h j
      · have hnone := h s.calls.length
        simp only [List.getElem?_concat_length, List.getElem?_length] at hnone ⊢
        exact ⟨hnone.trans_lt Nat.one_pos, le_max_left _ _⟩
      · have hnone := h j
        rw [List.getElem?_eq_none hgt.le] at hnone
        rwa [List.getElem?_eq_none]
        rwa [List.length_append]
  | turn i now =>
      simp only [Engine.step] at hstep
      split at hstep
      · rename_i call hcall
        split at hstep
        · rename_i attempt previous hready
          split at hstep
          · obtain rfl := Option.some.inj hstep
            exact h.keep hcall rfl rfl (h.phase hcall).le
          · obtain rfl := Option.some.inj hstep
            exact h.iterate hcall hready now
        · cases hstep
      · cases hstep
  | finish i result =>
      simp only [Engine.step] at hstep
      split at hstep
      · rename_i call hcall
        split at hstep
        · rename_i attempt entry hexec
          obtain ⟨hspent, hlimit⟩ : made s i ≤ attempt ∧ attempt ≤ attemptLimit cfg := by
            have := h.phase hcall
            rwa [hexec] at this
          obtain rfl := Option.some.inj hstep
          exact h.settle hcall (u := s.endDispatch entry _) rfl (callers_endDispatch s entry _)
            hspent hlimit _
        · cases hstep
      · cases hstep
  | raise i =>
      simp only [Engine.step] at hstep
      split at hstep
      · rename_i call hcall
        split at hstep
        · obtain rfl := Option.some.inj hstep
          exact h.keep hcall rfl (callers_endDispatch s _ _) (h.phase hcall).le
        · cases hstep
      · cases hstep
  | cancel i =>
      simp only [Engine.step] at hstep
      split at hstep
      · rename_i call hcall
        split at hstep
        · obtain rfl := Option.some.inj hstep
          exact h.keep hcall rfl (callers_endDispatch s _ _) (h.phase hcall).le
        · obtain rfl := Option.some.inj hstep
          exact h.keep hcall rfl rfl (h.phase hcall).le
        · cases hstep
      · cases hstep
  | requestCancel context =>
      obtain rfl := Option.some.inj hstep
      exact h

/-- However the calls of `run` interleave, each of them calls an executor at most as often as the
retry policy allows. -/
theorem attempts_bounded {world : κ} {retryAttempt : ℕ → ℕ} {cancelRequested : ℕ → Bool}
    {moves : List Move}
    (hrun : (machine cfg).run (.fresh world retryAttempt cancelRequested) moves = some t) (i : ℕ) :
    (t.log.map Dispatch.call).count i ≤ max 1 cfg.retryPolicy.maxAttempts := by
  have hfresh : Frugal cfg (.fresh world retryAttempt cancelRequested) := fun _ => rfl
  exact ((machine cfg).run_invariant (fun _ _ _ hs hstep => hs.step hstep) hfresh hrun i).le

theorem attempts_bounded_sample :
    ∃ s, (machine sampleConfig).run (.fresh () (fun _ => 1) fun _ => false) sampleMoves = some s ∧
      (s.log.map Dispatch.call).count 0 = 2 ∧
      (s.log.map Dispatch.call).count 0 ≤ max 1 sampleConfig.retryPolicy.maxAttempts := by
  have hcount : ((machine sampleConfig).run (.fresh () (fun _ => 1) fun _ => false)
      sampleMoves).map (fun s => (s.log.map Dispatch.call).count 0) = some 2 := by decide
  obtain ⟨s, hrun, hmade⟩ := Option.map_eq_some_iff.mp hcount
  exact ⟨s, hrun, hmade, attempts_bounded hrun 0⟩

end Engine

end Samaktha
