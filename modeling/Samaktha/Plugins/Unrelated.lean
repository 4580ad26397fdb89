import Samaktha.Plugins.LifecycleRuns

/-!
# Plugins that a target does not reach

What is resolved for a target, and how it is loaded, in two registries that have the same records
for the target and for every id that it reaches through declared dependencies.  The choices and
the order are the same in both.  But `_select_dependency_keys` goes through all records and raises
for a dependency of any of them that cannot be met, so the results are the same exactly if the
same dependencies are unmet in both registries (`unrelated_plugins`): one plugin that misses a
dependency keeps every other one from being loaded (`unrelated_blocks`).
-/

namespace Samaktha

namespace Dependencies

/-! ## What a target reaches -/

/-- The ids that a target reaches through declared dependencies. -/
inductive Reaches (records : List PluginRecord) (target : String) : String → Prop
  | declared {record : PluginRecord} {dependency : PluginDependency} (hrecord : record ∈ records)
      (hkey : record.key = target) (hdependency : dependency ∈ record.manifest.dependencies) :
      Reaches records target dependency.pluginId
  | step {record : PluginRecord} {dependency : PluginDependency}
      (h : Reaches records target record.manifest.id) (hrecord : record ∈ records)
      (hdependency : dependency ∈ record.manifest.dependencies) :
      Reaches records target dependency.pluginId

/-- The manifest of the target, or one with an id that it reaches. -/
def Concerned (records : List PluginRecord) (target : String) (manifest : PluginManifest) : Prop :=
  manifest.key = target ∨ Reaches records target manifest.id

/-- The texts of the declared dependencies that no record meets, in order. -/
def unmet (records : List PluginRecord) : List String :=
  records.flatMap fun record =>
    (record.manifest.dependencies.filter fun dependency =>
      !records.any dependency.satisfiedBy).map (missingText records record)

/-- A property of manifests that passes on to whatever they declare as a dependency. -/
def Closed (K : PluginManifest → Prop) (records : List PluginRecord) : Prop :=
  ∀ record ∈ records, K record.manifest → ∀ dependency ∈ record.manifest.dependencies,
    ∀ manifest : PluginManifest, manifest.id = dependency.pluginId → K manifest

lemma closed_concerned (records : List PluginRecord) (target : String) :
    Closed (Concerned records target) records := by
  intro record hrecord hconcerned dependency hdependency manifest hid
  refine .inr ?_
  rw [hid]
  rcases hconcerned with hkey | hreaches
  · exact .declared hrecord hkey hdependency
  · exact .step hreaches hrecord hdependency

section

variable {records records' : List PluginRecord} {preferLoaded preferLoaded' : List String}
  {K : PluginManifest → Prop} {target : String}

/-! ## Unmet dependencies -/

/-- Whether there is a choice depends on what is registered only. -/
lemma chooseCandidate_eq_none_iff {dependency : PluginDependency} :
    chooseCandidate records preferLoaded dependency = none ↔
      records.any dependency.satisfiedBy = false := by
  unfold chooseCandidate
  rw [Option.or_eq_none_iff, List.head?_eq_none_iff]
  constructor
  · rintro ⟨-, hnone⟩
    rw [List.any_eq_false]
    intro record hrecord hsatisfied
    have hmem := mem_candidates.mpr ⟨hrecord, hsatisfied⟩
    rw [hnone] at hmem
    cases hmem
  · intro hnone
    have hempty : candidates records dependency = [] := by
      refine List.eq_nil_iff_forall_not_mem.mpr fun record hmem => ?_
      obtain ⟨hrecord, hsatisfied⟩ := mem_candidates.mp hmem
      exact List.any_eq_false.mp hnone record hrecord hsatisfied
    rw [hempty]
    exact ⟨rfl, rfl⟩

lemma missing_foldl_eq (record : PluginRecord) (dependencies : List PluginDependency)
    (selection : Selection) :
    (dependencies.foldl (selectOne records preferLoaded record) selection).missing =
      selection.missing ++ (dependencies.filter fun dependency =>
        !records.any dependency.satisfiedBy).map (missingText records record) := by
  induction dependencies generalizing selection with
  | nil => simp
  | cons dependency rest ih =>
      rw [List.foldl_cons, ih, selectOne]
      cases hchosen : chooseCandidate records preferLoaded dependency with
      | none =>
          have hnone := chooseCandidate_eq_none_iff.mp hchosen
          rw [List.filter_cons_of_pos (by rw [hnone]; rfl)]
          simp
      | some pick =>
          have hiff : chooseCandidate records preferLoaded dependency = none ↔ _ :=
            chooseCandidate_eq_none_iff
          have hsome : records.any dependency.satisfiedBy = true := by
            rw [← Bool.not_eq_false, ← hiff, hchosen]
            exact Option.some_ne_none pick
          rw [List.filter_cons_of_neg (by rw [hsome]; exact Bool.false_ne_true)]

lemma missing_selectAll_eq (rest : List PluginRecord) (selection : Selection) :
    (selectAll records preferLoaded rest selection).missing =
      selection.missing ++ rest.flatMap fun record =>
        (record.manifest.dependencies.filter fun dependency =>
          !records.any dependency.satisfiedBy).map (missingText records record) := by
  induction rest generalizing selection with
  | nil => simp [selectAll]
  | cons record rest ih =>
      rw [selectAll, ih, missing_foldl_eq, List.flatMap_cons, List.append_assoc]

lemma choosable_iff : Choosable records preferLoaded ↔ unmet records = [] := by
  have h : (selectAll records preferLoaded records {}).missing = [] ↔ _ :=
    missing_selectAll records {}
  rw [missing_selectAll_eq] at h
  simpa [Choosable, unmet] using h.symm

/-- What is raised for unmet dependencies. -/
def unmetError (missing : List String) : DependencyResolutionError where
  message := "Unresolvable plugin dependencies: " ++ "; ".intercalate missing
  missing := missing

lemma message_unmetError_iff {missing missing' : List String} :
    (unmetError missing).message = (unmetError missing').message ↔
      "; ".intercalate missing = "; ".intercalate missing' := by
  have hmessage : ∀ l, (unmetError l).message =
      "Unresolvable plugin dependencies: " ++ "; ".intercalate l := fun _ => rfl
  rw [hmessage, hmessage]
  exact String.append_right_inj _

lemma selectDependencyKeys_of_unmet (h : unmet records ≠ []) :
    selectDependencyKeys records preferLoaded = .error (unmetError (unmet records)) := by
  have hmissing : (selectAll records preferLoaded records {}).missing = unmet records :=
    missing_selectAll_eq records {}
  unfold selectDependencyKeys
  dsimp only
  rw [if_pos (by rw [hmissing]; exact h), hmissing]
  rfl

lemma resolveDependencies_of_unmet (h : unmet records ≠ []) :
    resolveDependencies records target preferLoaded = .error (unmetError (unmet records)) := by
  unfold resolveDependencies
  rw [selectDependencyKeys_of_unmet h]
  rfl

/-! ## The same choices -/

/-- Two lists of records that agree where a property holds. -/
structure Agree (K : PluginManifest → Prop) (records records' : List PluginRecord)
    (preferLoaded preferLoaded' : List String) : Prop where
  keys : (records.map PluginRecord.key).Nodup
  keys' : (records'.map PluginRecord.key).Nodup
  closed : Closed K records
  same : ∀ record : PluginRecord, K record.manifest → (record ∈ records ↔ record ∈ records')
  prefer : ∀ record ∈ records, K record.manifest →
    (record.key ∈ preferLoaded ↔ record.key ∈ preferLoaded')

/-- Whatever is registered under a key has the property. -/
def Kept (K : PluginManifest → Prop) (records records' : List PluginRecord) (key : String) : Prop :=
  ∀ record, record ∈ records ∨ record ∈ records' → record.key = key → K record.manifest

lemma insertionSort_rank_eq {l l' : List PluginRecord} (hkeys : (l.map PluginRecord.key).Nodup)
    (h : l.Perm l') :
    l.insertionSort (fun r s => rank s ≤ rank r) = l'.insertionSort fun r s => rank s ≤ rank r := by
  have hsorted : ∀ m : List PluginRecord,
      (m.insertionSort fun r s => rank s ≤ rank r).Pairwise fun r s => rank s ≤ rank r := by
    intro m
    have htotal : Std.Total fun r s : PluginRecord => rank s ≤ rank r :=
      ⟨fun r s => le_total (rank s) (rank r)⟩
    have htrans : IsTrans PluginRecord fun r s => rank s ≤ rank r :=
      ⟨fun _ _ _ h h' => le_trans h' h⟩
    exact List.pairwise_insertionSort _ m
  have hperm := (List.perm_insertionSort (fun r s => rank s ≤ rank r) l).trans
    (h.trans (List.perm_insertionSort (fun r s => rank s ≤ rank r) l').symm)
  refine hperm.eq_of_pairwise (fun r s hr hs hle hge => ?_) (hsorted l) (hsorted l')
  -- the key is part of the rank
  have hrank : rank r = rank s := le_antisymm hge hle
  have hkey : r.key = s.key := by
    have hlast := congrArg (fun x => (ofLex (ofLex (ofLex x).2).2).2) hrank
    exact hlast
  have hr : r ∈ l := (List.mem_insertionSort _).mp hr
  have hs : s ∈ l := h.mem_iff.mpr ((List.mem_insertionSort _).mp hs)
  exact List.inj_on_of_nodup_map hkeys hr hs hkey

lemma find?_congr_of_mem {α : Type} {p q : α → Bool} {l : List α}
    (h : ∀ r ∈ l, p r = q r) : l.find? p = l.find? q := by
  induction l with
  | nil => rfl
  | cons r l ih =>
      rw [List.find?_cons, List.find?_cons, h r List.mem_cons_self,
        ih fun s hs => h s (List.mem_cons_of_mem r hs)]

lemma chooseCandidate_congr (h : Agree K records records' preferLoaded preferLoaded')
    {dependency : PluginDependency}
    (hK : ∀ manifest : PluginManifest, manifest.id = dependency.pluginId → K manifest) :
    chooseCandidate records preferLoaded dependency =
      chooseCandidate records' preferLoaded' dependency := by
  have hid : ∀ record : PluginRecord, dependency.satisfiedBy record = true → K record.manifest := by
    intro record hsatisfied
    refine hK record.manifest ?_
    unfold PluginDependency.satisfiedBy at hsatisfied
    rw [Bool.and_eq_true, decide_eq_true_eq] at hsatisfied
    exact hsatisfied.1
  have hcandidates : candidates records dependency = candidates records' dependency := by
    unfold candidates
    have hnodup : ((records.filter dependency.satisfiedBy).map PluginRecord.key).Nodup :=
      h.keys.sublist (List.filter_sublist.map _)
    have hnodup' : ((records'.filter dependency.satisfiedBy).map PluginRecord.key).Nodup :=
      h.keys'.sublist (List.filter_sublist.map _)
    refine insertionSort_rank_eq hnodup ?_
    refine (List.perm_ext_iff_of_nodup hnodup.of_map hnodup'.of_map).mpr fun record => ?_
    rw [List.mem_filter, List.mem_filter]
    exact and_congr_left fun hsatisfied => h.same record (hid record hsatisfied)
  unfold chooseCandidate
  rw [← hcandidates]
  refine congrArg (Option.or · _) (find?_congr_of_mem fun record hmem => ?_)
  obtain ⟨hrecord, hsatisfied⟩ := mem_candidates.mp hmem
  exact decide_eq_decide.mpr (h.prefer record hrecord (hid record hsatisfied))

lemma Agree.find?_eq (h : Agree K records records' preferLoaded preferLoaded') {key : String}
    (hkept : Kept K records records' key) :
    (records.find? fun r => r.key = key) = records'.find? fun r => r.key = key := by
  cases hfind : records.find? fun r => r.key = key with
  | some record =>
      have hkey : record.key = key := by simpa using List.find?_some hfind
      have hmem := List.mem_of_find?_eq_some hfind
      have hmem' := (h.same record (hkept record (.inl hmem) hkey)).mp hmem
      rw [← hkey]
      exact (find?_key h.keys' hmem').symm
  | none =>
      refine (List.find?_eq_none.mpr fun record hmem' hkey => ?_).symm
      have hkey := of_decide_eq_true hkey
      have hmem := (h.same record (hkept record (.inr hmem') hkey)).mpr hmem'
      exact List.find?_eq_none.mp hfind record hmem (decide_eq_true hkey)

lemma lastChoice_congr (h : Agree K records records' preferLoaded preferLoaded') {key : String}
    (hkept : Kept K records records' key) :
    lastChoice records preferLoaded key = lastChoice records' preferLoaded' key := by
  unfold lastChoice
  rw [← h.find?_eq hkept]
  cases hfind : records.find? fun r => r.key = key with
  | none => rfl
  | some record =>
      have hmem := List.mem_of_find?_eq_some hfind
      have hK := hkept record (.inl hmem) (by simpa using List.find?_some hfind)
      rw [Option.bind_some, Option.bind_some]
      cases hlast : record.manifest.dependencies.getLast? with
      | none => rfl
      | some dependency =>
          rw [Option.bind_some, Option.bind_some]
          exact congrArg _ (chooseCandidate_congr h
            (h.closed record hmem hK dependency (List.mem_of_getLast? hlast)))

lemma Kept.next (h : Agree K records records' preferLoaded preferLoaded') {a b : String}
    (hkept : Kept K records records' a) (hnext : Next records preferLoaded a b) :
    Kept K records records' b := by
  obtain ⟨record, hmem, hkey, dependency, hdependency, pick, hpick, hpickkey⟩ := hnext.dependsOn
  obtain ⟨hpickmem, hsatisfied⟩ := chooseCandidate_spec hpick
  have hK := hkept record (.inl hmem) hkey
  have hpickK : K pick.manifest := by
    refine h.closed record hmem hK dependency hdependency pick.manifest ?_
    unfold PluginDependency.satisfiedBy at hsatisfied
    rw [Bool.and_eq_true, decide_eq_true_eq] at hsatisfied
    exact hsatisfied.1
  rintro other (hother | hother) hotherkey
  · rw [List.inj_on_of_nodup_map h.keys hother hpickmem (hotherkey.trans hpickkey.symm)]
    exact hpickK
  · have hpickmem' := (h.same pick hpickK).mp hpickmem
    rw [List.inj_on_of_nodup_map h.keys' hother hpickmem' (hotherkey.trans hpickkey.symm)]
    exact hpickK

lemma reflTransGen_congr (h : Agree K records records' preferLoaded preferLoaded')
    (hkept : Kept K records records' target) {a : String} :
    Relation.ReflTransGen (Next records preferLoaded) target a ↔
      Relation.ReflTransGen (Next records' preferLoaded') target a := by
  constructor
  · intro hpath
    have hboth : Kept K records records' a ∧
        Relation.ReflTransGen (Next records' preferLoaded') target a := by
      induction hpath with
      | refl => exact ⟨hkept, .refl⟩
      | tail _ hstep ih =>
          refine ⟨ih.1.next h hstep, ih.2.tail ?_⟩
          exact (lastChoice_congr h ih.1).symm.trans hstep
    exact hboth.2
  · intro hpath
    have hboth : Kept K records records' a ∧
        Relation.ReflTransGen (Next records preferLoaded) target a := by
      induction hpath with
      | refl => exact ⟨hkept, .refl⟩
      | tail _ hstep ih =>
          have hstep : Next records preferLoaded _ _ := (lastChoice_congr h ih.1).trans hstep
          exact ⟨ih.1.next h hstep, ih.2.tail hstep⟩
    exact hboth.2

lemma kept_of_reflTransGen (h : Agree K records records' preferLoaded preferLoaded')
    (hkept : Kept K records records' target) {a : String}
    (hpath : Relation.ReflTransGen (Next records preferLoaded) target a) :
    Kept K records records' a := by
  induction hpath with
  | refl => exact hkept
  | tail _ hstep ih => exact ih.next h hstep

/-! ## The same order -/

lemma waitingGraph_congr {f g : String → Option String} {keys : List String}
    (h : ∀ key ∈ keys, f key = g key) : waitingGraph f keys = waitingGraph g keys := by
  unfold waitingGraph
  exact List.foldl_ext _ _ _ fun graph key hkey => by rw [h key hkey]

/-- The keys that `_toposort` orders: the target and the chain from it, where they are registered,
in their alphabetical order. -/
lemma mem_sortedKeys {selected : Dict (String × String) String}
    (hselected : dependencyOf records selected = lastChoice records preferLoaded)
    (target a : String) :
    a ∈ ((records.map PluginRecord.key).insertionSort (· ≤ ·)).filter (· ∈ target ::
        closureLoop (dependencyOf records selected) (records.length + 1) [] [target]) ↔
      a ∈ records.map PluginRecord.key ∧
        Relation.ReflTransGen (Next records preferLoaded) target a := by
  have hregistered : ∀ a b, lastChoice records preferLoaded a = some b →
      b ∈ records.map PluginRecord.key := fun a b h =>
    (Next.dependsOn (show Next records preferLoaded a b from h)).registered
  have hclosure : a ∈ closureLoop (lastChoice records preferLoaded) (records.length + 1) []
      [target] ↔ Relation.TransGen (Next records preferLoaded) target a :=
    mem_closureLoop hregistered List.nodup_nil
      (by rw [List.length_map, List.length_nil, add_zero]) List.mem_cons_self
      (fun a ha hne => absurd (List.mem_singleton.mp ha) hne) (fun a ha => (by cases ha)) a
  rw [hselected, List.mem_filter, List.mem_insertionSort, decide_eq_true_eq, List.mem_cons,
    hclosure, Relation.reflTransGen_iff_eq_or_transGen]

lemma toposort_congr (h : Agree K records records' preferLoaded preferLoaded')
    (hkept : Kept K records records' target) {selected selected' : Dict (String × String) String}
    (hselected : dependencyOf records selected = lastChoice records preferLoaded)
    (hselected' : dependencyOf records' selected' = lastChoice records' preferLoaded') :
    toposort records selected (some (target ::
        closureLoop (dependencyOf records selected) (records.length + 1) [] [target])) =
      toposort records' selected' (some (target ::
        closureLoop (dependencyOf records' selected') (records'.length + 1) [] [target])) := by
  have hmem := mem_sortedKeys hselected target
  have hmem' := mem_sortedKeys hselected' target
  unfold toposort
  dsimp only
  set keys := ((records.map PluginRecord.key).insertionSort (· ≤ ·)).filter
    (· ∈ target :: closureLoop (dependencyOf records selected) (records.length + 1) [] [target])
    with hkeysdef
  set keys' := ((records'.map PluginRecord.key).insertionSort (· ≤ ·)).filter
    (· ∈ target :: closureLoop (dependencyOf records' selected') (records'.length + 1) [] [target])
    with hkeysdef'
  have hregistered : ∀ a, Kept K records records' a →
      (a ∈ records.map PluginRecord.key ↔ a ∈ records'.map PluginRecord.key) := by
    intro a hkepta
    rw [List.mem_map, List.mem_map]
    constructor
    · rintro ⟨record, hrecord, hkey⟩
      exact ⟨record, (h.same record (hkepta record (.inl hrecord) hkey)).mp hrecord, hkey⟩
    · rintro ⟨record, hrecord, hkey⟩
      exact ⟨record, (h.same record (hkepta record (.inr hrecord) hkey)).mpr hrecord, hkey⟩
  have hsorted : ∀ (l : List String) (p : String → Bool),
      ((l.insertionSort (· ≤ ·)).filter p).Pairwise (· ≤ ·) := fun l p =>
    (List.pairwise_insertionSort (· ≤ ·) l).sublist List.filter_sublist
  have hkeys : keys = keys' := by
    have hnodup : keys.Nodup := ((List.perm_insertionSort _ _).nodup_iff.mpr h.keys).filter _
    have hnodup' : keys'.Nodup := ((List.perm_insertionSort _ _).nodup_iff.mpr h.keys').filter _
    have hperm : keys.Perm keys' := by
      refine (List.perm_ext_iff_of_nodup hnodup hnodup').mpr fun a => ?_
      rw [hmem, hmem', ← reflTransGen_congr h hkept]
      exact and_congr_left fun hpath => hregistered a (kept_of_reflTransGen h hkept hpath)
    exact hperm.eq_of_pairwise (fun a b _ _ hab hba => le_antisymm hab hba)
      (hsorted _ _) (hsorted _ _)
  have hgraph : waitingGraph (dependencyOf records selected) keys =
      waitingGraph (dependencyOf records' selected') keys' := by
    rw [← hkeys, hselected, hselected']
    refine waitingGraph_congr fun key hkey => lastChoice_congr h ?_
    exact kept_of_reflTransGen h hkept ((hmem key).mp hkey).2
  rw [hgraph]

lemma resolveDependencies_congr (h : Agree K records records' preferLoaded preferLoaded')
    (hkept : Kept K records records' target) (hmet : unmet records = [])
    (hmet' : unmet records' = []) :
    resolveDependencies records target preferLoaded =
      resolveDependencies records' target preferLoaded' := by
  rcases selectDependencyKeys_spec preferLoaded h.keys with
    ⟨-, selected, hselect, hselected⟩ | ⟨hnot, -⟩
  · rcases selectDependencyKeys_spec preferLoaded' h.keys' with
      ⟨-, selected', hselect', hselected'⟩ | ⟨hnot, -⟩
    · have horder := toposort_congr h hkept hselected hselected'
      unfold resolveDependencies
      rw [hselect, hselect']
      simp only [bind, Except.bind]
      rw [horder]
    · exact absurd (choosable_iff.mpr hmet') hnot
  · exact absurd (choosable_iff.mpr hmet) hnot

def cycleError (nodes : List String) : DependencyResolutionError where
  message := "Circular plugin dependency detected involving: " ++ ", ".intercalate nodes
  cycles := nodes

lemma missing_cycleError (nodes : List String) : (cycleError nodes).missing = [] := rfl

lemma error_of_met (hkeys : (records.map PluginRecord.key).Nodup) (hmet : unmet records = [])
    {error : DependencyResolutionError}
    (h : resolveDependencies records target preferLoaded = .error error) :
    ∃ nodes, error = cycleError nodes := by
  rcases selectDependencyKeys_spec preferLoaded hkeys with
    ⟨-, selected, hselect, hselected⟩ | ⟨hnot, -⟩
  · unfold resolveDependencies at h
    rw [hselect] at h
    rcases bind_eq_error h with hok | ⟨chosen, -, h⟩
    · cases hok
    · rcases bind_eq_error h with hcycle | ⟨order, -, hok⟩
      · unfold toposort at hcycle
        dsimp only at hcycle
        split at hcycle
        · exact ⟨_, (Except.error.inj hcycle).symm⟩
        · cases hcycle
      · simp only [pure, Except.pure, reduceCtorEq] at hok
  · exact absurd (choosable_iff.mpr hmet) hnot

lemma missing_of_met (hkeys : (records.map PluginRecord.key).Nodup) (hmet : unmet records = [])
    {error : DependencyResolutionError}
    (h : resolveDependencies records target preferLoaded = .error error) : error.missing = [] := by
  obtain ⟨nodes, heq⟩ := error_of_met hkeys hmet h
  rw [heq]
  exact missing_cycleError nodes

lemma cycleError_ne (nodes missing : List String) :
    (cycleError nodes).message ≠ (unmetError missing).message := by
  intro h
  have h : "Circular plugin dependency detected involving: " ++ ", ".intercalate nodes =
    "Unresolvable plugin dependencies: " ++ "; ".intercalate missing := h
  have hchars := congrArg (fun text => text.toList.head?) h
  simp only [String.toList_append] at hchars
  rw [List.head?_append_of_ne_nil _ (by decide), List.head?_append_of_ne_nil _ (by decide)]
    at hchars
  exact absurd hchars (by decide)

/-- The results are the same exactly if the same dependencies are unmet. -/
theorem resolveDependencies_eq_iff (h : Agree K records records' preferLoaded preferLoaded')
    (hkept : Kept K records records' target) :
    resolveDependencies records target preferLoaded =
        resolveDependencies records' target preferLoaded' ↔ unmet records = unmet records' := by
  constructor
  · intro hsame
    by_cases hmet : unmet records = []
    · by_cases hmet' : unmet records' = []
      · rw [hmet, hmet']
      · rw [resolveDependencies_of_unmet hmet'] at hsame
        exact hmet.trans (missing_of_met h.keys hmet hsame).symm
    · by_cases hmet' : unmet records' = []
      · rw [resolveDependencies_of_unmet hmet] at hsame
        exact (missing_of_met h.keys' hmet' hsame.symm).trans hmet'.symm
      · rw [resolveDependencies_of_unmet hmet, resolveDependencies_of_unmet hmet'] at hsame
        exact congrArg DependencyResolutionError.missing (Except.error.inj hsame)
  · intro hsame
    by_cases hmet : unmet records = []
    · exact resolveDependencies_congr h hkept hmet (hsame.symm.trans hmet)
    · have hmet' : unmet records' ≠ [] := fun hmet' => hmet (hsame.trans hmet')
      rw [resolveDependencies_of_unmet hmet, resolveDependencies_of_unmet hmet', hsame]

end

end Dependencies

namespace PluginManager

open Dependencies

/-! ## Managers that agree -/

/-- Two managers that differ only in records without a property. -/
structure Alike (K : PluginManifest → Prop) (manager other : PluginManager) : Prop where
  keyed : Dict.KeyedBy PluginRecord.key manager.records
  keyed' : Dict.KeyedBy PluginRecord.key other.records
  registries : manager.registries = other.registries
  explicit : manager.requireExplicitEnable = other.requireExplicitEnable
  lastCall : manager.lastCall = other.lastCall
  same : ∀ (key : String) (record : PluginRecord), K record.manifest →
    (Dict.get? manager.records key = some record ↔ Dict.get? other.records key = some record)

/-- Whatever either manager has under a key has the property. -/
def KeptKey (K : PluginManifest → Prop) (manager other : PluginManager) (key : String) : Prop :=
  ∀ record, Dict.get? manager.records key = some record ∨
    Dict.get? other.records key = some record → K record.manifest

/-- The same plugins are registered. -/
def SameManifests (manager after : PluginManager) : Prop :=
  ∀ key, (Dict.get? after.records key).map PluginRecord.manifest =
    (Dict.get? manager.records key).map PluginRecord.manifest

section

variable {K : PluginManifest → Prop} {manager other after : PluginManager} {key : String}

lemma SameManifests.refl (manager : PluginManager) : SameManifests manager manager := fun _ => rfl

lemma SameManifests.trans {last : PluginManager} (h : SameManifests manager after)
    (h' : SameManifests after last) : SameManifests manager last :=
  fun key => (h' key).trans (h key)

lemma SameManifests.exists_of_get? (h : SameManifests manager after) {record : PluginRecord}
    (hget : Dict.get? after.records key = some record) :
    ∃ before, Dict.get? manager.records key = some before ∧ before.manifest = record.manifest := by
  have hkey := h key
  rw [hget, Option.map_some, eq_comm, Option.map_eq_some_iff] at hkey
  exact hkey

lemma SameManifests.symm (h : SameManifests manager after) : SameManifests after manager :=
  fun key => (h key).symm

lemma KeptKey.mono {after' : PluginManager} (h : KeptKey K manager other key)
    (hsame : SameManifests manager after) (hsame' : SameManifests other after') :
    KeptKey K after after' key := by
  rintro record (hget | hget)
  · obtain ⟨before, hbefore, hmanifest⟩ := hsame.exists_of_get? hget
    rw [← hmanifest]
    exact h before (.inl hbefore)
  · obtain ⟨before, hbefore, hmanifest⟩ := hsame'.exists_of_get? hget
    rw [← hmanifest]
    exact h before (.inr hbefore)

lemma Alike.get?_eq (h : Alike K manager other) (hkept : KeptKey K manager other key) :
    Dict.get? manager.records key = Dict.get? other.records key := by
  cases hget : Dict.get? manager.records key with
  | some record => exact ((h.same key record (hkept record (.inl hget))).mp hget).symm
  | none =>
      cases hget' : Dict.get? other.records key with
      | none => rfl
      | some record =>
          have hsame := (h.same key record (hkept record (.inr hget'))).mpr hget'
          cases hget.symm.trans hsame

lemma unmet_eq_nil_of_same (hkeyed : Dict.KeyedBy PluginRecord.key manager.records)
    (hkeyed' : Dict.KeyedBy PluginRecord.key after.records) (h : SameManifests manager after)
    (hmet : unmet (listPlugins manager.records) = []) :
    unmet (listPlugins after.records) = [] := by
  have hchoosable : Choosable (listPlugins manager.records) [] := choosable_iff.mpr hmet
  refine choosable_iff.mp (show Choosable (listPlugins after.records) [] from ?_)
  intro record hrecord dependency hdependency
  obtain ⟨before, hbefore, hmanifest⟩ := h.exists_of_get? ((mem_listPlugins hkeyed').mp hrecord)
  have hkey : before.key = record.key := congrArg PluginManifest.key hmanifest
  have hmem : before ∈ listPlugins manager.records :=
    (mem_listPlugins hkeyed).mpr (hkey ▸ hbefore)
  have hsome := hchoosable before hmem dependency (hmanifest ▸ hdependency)
  obtain ⟨pick, hpick⟩ := Option.isSome_iff_exists.mp hsome
  obtain ⟨hpickmem, hsatisfied⟩ := chooseCandidate_spec hpick
  obtain ⟨later, hlater, hsame⟩ := h.symm.exists_of_get? ((mem_listPlugins hkeyed).mp hpickmem)
  have hlaterkey : later.key = pick.key := congrArg PluginManifest.key hsame
  have hany : (listPlugins after.records).any dependency.satisfiedBy = true := by
    refine List.any_eq_true.mpr ⟨later, (mem_listPlugins hkeyed').mpr (hlaterkey ▸ hlater), ?_⟩
    rw [satisfiedBy_congr hsame]
    exact hsatisfied
  rw [Option.isSome_iff_ne_none]
  intro hnone
  exact Bool.false_ne_true ((chooseCandidate_eq_none_iff.mp hnone).symm.trans hany)

lemma closed_of_same (hkeyed : Dict.KeyedBy PluginRecord.key manager.records)
    (hkeyed' : Dict.KeyedBy PluginRecord.key after.records) (h : SameManifests manager after)
    (hclosed : Closed K (listPlugins manager.records)) : Closed K (listPlugins after.records) := by
  intro record hrecord hK dependency hdependency
  obtain ⟨before, hbefore, hmanifest⟩ := h.exists_of_get? ((mem_listPlugins hkeyed').mp hrecord)
  have hkey : before.key = record.key := congrArg PluginManifest.key hmanifest
  refine hclosed before ((mem_listPlugins hkeyed).mpr (hkey ▸ hbefore)) ?_ dependency ?_
  · rw [hmanifest]
    exact hK
  · rw [hmanifest]
    exact hdependency

lemma Alike.agree (h : Alike K manager other) (hclosed : Closed K (listPlugins manager.records)) :
    Agree K (listPlugins manager.records) (listPlugins other.records)
      (loadedKeys manager.records) (loadedKeys other.records) where
  keys := nodup_listPlugins h.keyed
  keys' := nodup_listPlugins h.keyed'
  closed := hclosed
  same record hK := by
    rw [mem_listPlugins h.keyed, mem_listPlugins h.keyed']
    exact h.same record.key record hK
  prefer record hrecord hK := by
    have hget := (mem_listPlugins h.keyed).mp hrecord
    have hget' := (h.same record.key record hK).mp hget
    rw [mem_loadedKeys h.keyed, mem_loadedKeys h.keyed']
    constructor
    · rintro ⟨found, hfound, hstate⟩
      obtain rfl := Option.some.inj (hget.symm.trans hfound)
      exact ⟨record, hget', hstate⟩
    · rintro ⟨found, hfound, hstate⟩
      obtain rfl := Option.some.inj (hget'.symm.trans hfound)
      exact ⟨record, hget, hstate⟩

lemma Alike.kept_iff (h : Alike K manager other) :
    Dependencies.Kept K (listPlugins manager.records) (listPlugins other.records) key ↔
      KeptKey K manager other key := by
  constructor
  · rintro hkept record (hget | hget)
    · have hkey := h.keyed.eq_of_get? hget
      exact hkept record (.inl ((mem_listPlugins h.keyed).mpr (hkey ▸ hget))) hkey
    · have hkey := h.keyed'.eq_of_get? hget
      exact hkept record (.inr ((mem_listPlugins h.keyed').mpr (hkey ▸ hget))) hkey
  · rintro hkept record (hmem | hmem) rfl
    · exact hkept record (.inl ((mem_listPlugins h.keyed).mp hmem))
    · exact hkept record (.inr ((mem_listPlugins h.keyed').mp hmem))

/-! ## What a load does in both -/

/-- The same is raised in both managers, they agree afterwards, and no plugin came or went. -/
structure Twin (K : PluginManifest → Prop) (manager other : PluginManager)
    (ran ran' : Option PluginFault × PluginManager) : Prop where
  fault : ran.1 = ran'.1
  alike : Alike K ran.2 ran'.2
  manifests : SameManifests manager ran.2
  manifests' : SameManifests other ran'.2

lemma sameManifests_modify (manager : PluginManager) (key : String)
    {f : PluginRecord → PluginRecord} (hf : ∀ record, (f record).manifest = record.manifest) :
    SameManifests manager (manager.modify key f) := by
  intro k
  unfold modify
  cases hget : Dict.get? manager.records key with
  | none => rfl
  | some record =>
      dsimp only
      rw [Dict.get?_set]
      split
      · rename_i hkey
        rw [← hkey, hget, Option.map_some, Option.map_some, hf]
      · rfl

lemma keyed_modify (hkeyed : Dict.KeyedBy PluginRecord.key manager.records)
    {f : PluginRecord → PluginRecord} (hf : ∀ record, (f record).manifest = record.manifest) :
    Dict.KeyedBy PluginRecord.key (manager.modify key f).records := by
  cases hget : Dict.get? manager.records key with
  | none =>
      rw [modify, hget]
      exact hkeyed
  | some record => exact (puts_modify hkeyed hget (hf record)).keyed

lemma Alike.modify (h : Alike K manager other) (hkept : KeptKey K manager other key)
    {f : PluginRecord → PluginRecord} (hf : ∀ record, (f record).manifest = record.manifest) :
    Alike K (manager.modify key f) (other.modify key f) := by
  have hget := h.get?_eq hkept
  refine ⟨keyed_modify h.keyed hf, keyed_modify h.keyed' hf, ?_, ?_, ?_, fun k record hK => ?_⟩
  · rw [registries_modify, registries_modify, h.registries]
  · rw [requireExplicitEnable_modify, requireExplicitEnable_modify, h.explicit]
  · unfold PluginManager.modify
    rw [← hget]
    cases Dict.get? manager.records key <;> exact h.lastCall
  · unfold PluginManager.modify
    rw [← hget]
    cases Dict.get? manager.records key with
    | none => exact h.same k record hK
    | some found =>
        dsimp only
        rw [Dict.get?_set, Dict.get?_set]
        split
        · exact Iff.rfl
        · exact h.same k record hK

lemma Alike.twin_modify (h : Alike K manager other) (hkept : KeptKey K manager other key)
    {f : PluginRecord → PluginRecord} (hf : ∀ record, (f record).manifest = record.manifest)
    (fault : Option PluginFault) :
    Twin K manager other (fault, manager.modify key f) (fault, other.modify key f) :=
  ⟨rfl, h.modify hkept hf, sameManifests_modify manager key hf, sameManifests_modify other key hf⟩

lemma Alike.twin_self (h : Alike K manager other) (fault : Option PluginFault) :
    Twin K manager other (fault, manager) (fault, other) :=
  ⟨rfl, h, SameManifests.refl manager, SameManifests.refl other⟩

lemma Alike.twin_failLoad (h : Alike K manager other) (hkept : KeptKey K manager other key)
    (fault : PluginFault) :
    Twin K manager other (manager.failLoad key fault) (other.failLoad key fault) := by
  cases fault with
  | base message => exact h.twin_self _
  | load | unload | isolation | registration | other =>
      apply h.twin_modify hkept
      exact fun _ => rfl

lemma Twin.later {after' : PluginManager} {ran ran' : Option PluginFault × PluginManager}
    (hsame : SameManifests manager after) (hsame' : SameManifests other after')
    (h : Twin K after after' ran ran') : Twin K manager other ran ran' :=
  ⟨h.fault, h.alike, hsame.trans h.manifests, hsame'.trans h.manifests'⟩

variable [Casing]

lemma Alike.twin_loadSingle (h : Alike K manager other) (hkept : KeptKey K manager other key)
    (run : PluginRun) :
    Twin K manager other (manager.loadSingle key run) (other.loadSingle key run) := by
  unfold loadSingle
  rw [← h.get?_eq hkept]
  cases hget : Dict.get? manager.records key with
  | none => exact h.twin_self _
  | some record =>
      dsimp only
      have hloading := h.modify hkept (f := fun record => { record with state := .loading })
        fun _ => rfl
      have hsame := sameManifests_modify manager key
        (f := fun record => { record with state := .loading }) fun _ => rfl
      have hsame' := sameManifests_modify other key
        (f := fun record => { record with state := .loading }) fun _ => rfl
      have hkept := hkept.mono hsame hsame'
      generalize manager.modify key (fun record => { record with state := .loading }) = loading
        at hloading hsame hkept ⊢
      generalize other.modify key (fun record => { record with state := .loading }) = loading'
        at hloading hsame' hkept ⊢
      refine Twin.later hsame hsame' ?_
      cases hprepare : prepare record.manifest run with
      | error fault => exact hloading.twin_failLoad hkept fault
      | ok prepared =>
          obtain ⟨plugin, tools, providers⟩ := prepared
          dsimp only
          have hsteps : loading.steps key record.manifest tools providers =
              loading'.steps key record.manifest tools providers := by
            rw [steps, steps, hloading.registries]
          rw [hsteps, hloading.registries]
          generalize loading'.registries.register
            (loading'.steps key record.manifest tools providers) = registered
          obtain ⟨fault, registries⟩ := registered
          cases fault with
          | some fault =>
              have halike : Alike K { loading with registries := registries }
                  { loading' with registries := registries } :=
                ⟨hloading.keyed, hloading.keyed', rfl, hloading.explicit, hloading.lastCall,
                  hloading.same⟩
              have hfailed := halike.twin_failLoad hkept fault
              exact ⟨hfailed.fault, hfailed.alike, hfailed.manifests, hfailed.manifests'⟩
          | none =>
              dsimp only
              have halike : Alike K
                  { loading with
                    registries := registries
                    lastCall := Dict.set loading.lastCall plugin .start }
                  { loading' with
                    registries := registries
                    lastCall := Dict.set loading'.lastCall plugin .start } :=
                ⟨hloading.keyed, hloading.keyed', rfl, hloading.explicit,
                  congrArg (Dict.set · plugin .start) hloading.lastCall, hloading.same⟩
              cases run.start with
              | some fault =>
                  have hfailed := halike.twin_failLoad hkept fault
                  exact ⟨hfailed.fault, hfailed.alike, hfailed.manifests, hfailed.manifests'⟩
              | none =>
                  have hactive := halike.twin_modify hkept (f := fun found =>
                    { found with
                      contributions := (loading'.steps key record.manifest tools providers).map
                        Registration.contribution
                      plugin := some plugin
                      error := none
                      state := .active }) (fun _ => rfl) none
                  exact ⟨hactive.fault, hactive.alike, hactive.manifests, hactive.manifests'⟩

/-! ## Resolving in both -/

omit [Casing] in
lemma Alike.resolvePlugins_eq (h : Alike K manager other) (hkept : KeptKey K manager other key)
    (hclosed : Closed K (listPlugins manager.records))
    (hmet : unmet (listPlugins manager.records) = [])
    (hmet' : unmet (listPlugins other.records) = []) :
    resolvePlugins manager.records key = resolvePlugins other.records key := by
  unfold resolvePlugins
  rw [resolveDependencies_congr (h.agree hclosed) (h.kept_iff.mpr hkept) hmet hmet']

omit [Casing] in
lemma Alike.kept_of_resolved (h : Alike K manager other) (hkept : KeptKey K manager other key)
    (hclosed : Closed K (listPlugins manager.records)) {record : PluginRecord}
    (hget : Dict.get? manager.records key = some record) {order : List String}
    (hresolve : resolvePlugins manager.records key = .ok order) :
    ∀ dependency ∈ order, KeptKey K manager other dependency := by
  intro dependency hdependency
  obtain ⟨-, -, hmem, -⟩ := resolvePlugins_ok h.keyed hget hresolve
  refine h.kept_iff.mp (kept_of_reflTransGen (h.agree hclosed) (h.kept_iff.mpr hkept) ?_)
  exact ((hmem dependency).mp hdependency).to_reflTransGen

/-! ## Loading in both -/

/-- What has to hold for a load to do the same in both managers. -/
structure Ready (K : PluginManifest → Prop) (manager other : PluginManager) : Prop where
  alike : Alike K manager other
  closed : Closed K (listPlugins manager.records)
  met : unmet (listPlugins manager.records) = []
  met' : unmet (listPlugins other.records) = []

omit [Casing] in
lemma Twin.ready {ran ran' : Option PluginFault × PluginManager} (h : Twin K manager other ran ran')
    (hready : Ready K manager other) : Ready K ran.2 ran'.2 where
  alike := h.alike
  closed := closed_of_same hready.alike.keyed h.alike.keyed h.manifests hready.closed
  met := unmet_eq_nil_of_same hready.alike.keyed h.alike.keyed h.manifests hready.met
  met' := unmet_eq_nil_of_same hready.alike.keyed' h.alike.keyed' h.manifests' hready.met'

omit [Casing] in
lemma twin_loadDependencies
    {load : PluginManager → String → Option PluginFault × PluginManager}
    (hload : ∀ manager other key, Ready K manager other → KeptKey K manager other key →
      Twin K manager other (load manager key) (load other key))
    (hready : Ready K manager other) {keys : List String}
    (hkeys : ∀ key ∈ keys, KeptKey K manager other key) :
    Twin K manager other (loadDependencies load manager keys)
      (loadDependencies load other keys) := by
  induction keys generalizing manager other with
  | nil => exact hready.alike.twin_self none
  | cons dependency rest ih =>
      have hkept := hkeys dependency List.mem_cons_self
      have hrest := fun key hkey => hkeys key (List.mem_cons_of_mem dependency hkey)
      have hloaded : manager.isLoaded dependency = other.isLoaded dependency := by
        rw [isLoaded, isLoaded, hready.alike.get?_eq hkept]
      rw [loadDependencies, loadDependencies, ← hloaded]
      by_cases hup : manager.isLoaded dependency = true
      · rw [if_pos hup, if_pos hup]
        exact ih hready hrest
      · rw [if_neg hup, if_neg hup]
        have hone := hload manager other dependency hready hkept
        have hnext := hone.ready hready
        generalize load manager dependency = ran at hone hnext ⊢
        generalize load other dependency = ran' at hone hnext ⊢
        obtain ⟨fault, after⟩ := ran
        obtain ⟨fault', after'⟩ := ran'
        obtain rfl : fault = fault' := hone.fault
        cases fault with
        | some fault => exact hone
        | none =>
            refine Twin.later hone.manifests hone.manifests' (ih hnext fun key hkey => ?_)
            exact (hrest key hkey).mono hone.manifests hone.manifests'

lemma twin_load (runs : String → PluginRun) (depth : ℕ) (hready : Ready K manager other)
    (hkept : KeptKey K manager other key) :
    Twin K manager other (load resolvePlugins runs depth manager key)
      (load resolvePlugins runs depth other key) := by
  induction depth generalizing manager other key with
  | zero => exact hready.alike.twin_self _
  | succ depth ih =>
      have halike := hready.alike
      rw [load, load, ← halike.get?_eq hkept, ← halike.explicit,
        ← halike.resolvePlugins_eq hkept hready.closed hready.met hready.met']
      cases hget : Dict.get? manager.records key with
      | none => exact halike.twin_self _
      | some record =>
          dsimp only
          split
          · exact halike.twin_self _
          · split
            · exact halike.twin_self _
            · cases hresolve : resolvePlugins manager.records key with
              | error message =>
                  apply halike.twin_modify hkept
                  exact fun _ => rfl
              | ok order =>
                  dsimp only
                  have hkeys := halike.kept_of_resolved hkept hready.closed hget hresolve
                  have hload : ∀ m m' k, Ready K m m' → KeptKey K m m' k →
                      Twin K m m' (load resolvePlugins runs depth m k)
                        (load resolvePlugins runs depth m' k) := fun _ _ _ h h' => ih h h'
                  have hall := twin_loadDependencies hload hready hkeys
                  have hnext := hall.ready hready
                  generalize loadDependencies (load resolvePlugins runs depth) manager order = ran
                    at hall hnext ⊢
                  generalize loadDependencies (load resolvePlugins runs depth) other order = ran'
                    at hall hnext ⊢
                  obtain ⟨fault, after⟩ := ran
                  obtain ⟨fault', after'⟩ := ran'
                  obtain rfl : fault = fault' := hall.fault
                  cases fault with
                  | some fault => exact hall
                  | none =>
                      refine Twin.later hall.manifests hall.manifests' ?_
                      exact hnext.alike.twin_loadSingle
                        (hkept.mono hall.manifests hall.manifests') (runs key)

lemma twin_loadAlone (run : PluginRun) (hready : Ready K manager other)
    (hkept : KeptKey K manager other key) :
    Twin K manager other (loadAlone run manager key) (loadAlone run other key) := by
  have halike := hready.alike
  rw [loadAlone, loadAlone, ← halike.get?_eq hkept, ← halike.explicit,
    ← halike.resolvePlugins_eq hkept hready.closed hready.met hready.met']
  cases hget : Dict.get? manager.records key with
  | none => exact halike.twin_self _
  | some record =>
      dsimp only
      split
      · exact halike.twin_self _
      · split
        · exact halike.twin_self _
        · cases hresolve : resolvePlugins manager.records key with
          | error message =>
              apply halike.twin_modify hkept
              exact fun _ => rfl
          | ok order =>
              dsimp only
              have hkeys := halike.kept_of_resolved hkept hready.closed hget hresolve
              have hfind : (order.find? fun dependency => !manager.isLoaded dependency) =
                  order.find? fun dependency => !other.isLoaded dependency := by
                refine find?_congr_of_mem fun dependency hdependency => ?_
                rw [isLoaded, isLoaded, halike.get?_eq (hkeys dependency hdependency)]
              rw [← hfind]
              cases order.find? fun dependency => !manager.isLoaded dependency with
              | none => exact halike.twin_loadSingle hkept run
              | some dependency =>
                  apply halike.twin_modify hkept
                  exact fun _ => rfl

/-! ## When the loads are the same -/

/-- Nothing is resolved for a plugin: it is not registered, not enabled where that is required, or
loaded or being loaded. -/
def Idle (manager : PluginManager) (key : String) : Prop :=
  ∀ record, Dict.get? manager.records key = some record →
    (manager.requireExplicitEnable && !record.enabled) = true ∨
      record.state ∈ [.loaded, .active, .loading]

/-- The texts of the unmet dependencies are the same, joined. -/
def SameComplaint (records records' : List PluginRecord) : Prop :=
  (unmet records = [] ↔ unmet records' = []) ∧
    "; ".intercalate (unmet records) = "; ".intercalate (unmet records')

/-- Whatever the code of the plugins does, a load raises the same in both managers, and they agree
behind it. -/
structure SameLoads (K : PluginManifest → Prop) (manager other : PluginManager) (key : String) :
    Prop where
  nested : ∀ runs depth, (load resolvePlugins runs depth manager key).1 =
      (load resolvePlugins runs depth other key).1 ∧
    Alike K (load resolvePlugins runs depth manager key).2
      (load resolvePlugins runs depth other key).2
  alone : ∀ run, (loadAlone run manager key).1 = (loadAlone run other key).1 ∧
    Alike K (loadAlone run manager key).2 (loadAlone run other key).2

omit [Casing] in
lemma resolvePlugins_of_unmet (h : unmet (listPlugins manager.records) ≠ []) :
    resolvePlugins manager.records key =
      .error (unmetError (unmet (listPlugins manager.records))).message := by
  rw [resolvePlugins, resolveDependencies_of_unmet h]
  rfl

lemma sameLoads_of_refused (h : Alike K manager other) (hkept : KeptKey K manager other key)
    (hrefused : Idle manager key ∨ ∃ message, resolvePlugins manager.records key = .error message ∧
      resolvePlugins other.records key = .error message) : SameLoads K manager other key := by
  have hguard : ∀ record, Dict.get? manager.records key = some record →
      ¬ (manager.requireExplicitEnable && !record.enabled) = true →
      ¬ record.state ∈ [.loaded, .active, .loading] →
      ∃ message, resolvePlugins manager.records key = .error message ∧
        resolvePlugins other.records key = .error message := by
    intro record hget hexplicit hstate
    rcases hrefused with hidle | hmessage
    · rcases hidle record hget with hset | hset
      · exact absurd hset hexplicit
      · exact absurd hset hstate
    · exact hmessage
  constructor
  · intro runs depth
    cases depth with
    | zero => exact ⟨rfl, h⟩
    | succ depth =>
        rw [load, load, ← h.get?_eq hkept, ← h.explicit]
        cases hget : Dict.get? manager.records key with
        | none => exact ⟨rfl, h⟩
        | some record =>
            dsimp only
            split
            · exact ⟨rfl, h⟩
            · rename_i hexplicit
              split
              · exact ⟨rfl, h⟩
              · rename_i hstate
                obtain ⟨message, hmessage, hmessage'⟩ := hguard record hget hexplicit hstate
                rw [hmessage, hmessage']
                exact ⟨rfl, h.modify hkept fun _ => rfl⟩
  · intro run
    rw [loadAlone, loadAlone, ← h.get?_eq hkept, ← h.explicit]
    cases hget : Dict.get? manager.records key with
    | none => exact ⟨rfl, h⟩
    | some record =>
        dsimp only
        split
        · exact ⟨rfl, h⟩
        · rename_i hexplicit
          split
          · exact ⟨rfl, h⟩
          · rename_i hstate
            obtain ⟨message, hmessage, hmessage'⟩ := hguard record hget hexplicit hstate
            rw [hmessage, hmessage']
            exact ⟨rfl, h.modify hkept fun _ => rfl⟩

/-- A plugin whose module cannot be imported. -/
def brokenImport : PluginRun where
  instantiate := .error (.other "")
  identity := .error (.other "")
  validated := .notAList
  tools := .ok []
  providers := .ok []

lemma loadSingle_brokenImport {record : PluginRecord}
    (hget : Dict.get? manager.records key = some record) :
    (manager.loadSingle key brokenImport).1 = some (.load (.wrapped "")) := by
  rw [loadSingle, hget]
  rfl

section Alone

variable {record : PluginRecord} (hget : Dict.get? manager.records key = some record)
  (hexplicit : ¬ (manager.requireExplicitEnable && !record.enabled) = true)
  (hstate : ¬ record.state ∈ [.loaded, .active, .loading])
include hget hexplicit hstate

lemma loadAlone_of_unmet (run : PluginRun) (h : unmet (listPlugins manager.records) ≠ []) :
    (loadAlone run manager key).1 =
      some (.load (.unresolved (unmetError (unmet (listPlugins manager.records))).message)) := by
  rw [loadAlone, hget]
  dsimp only
  rw [if_neg hexplicit, if_neg hstate, resolvePlugins_of_unmet h]

lemma loadAlone_of_met (hkeyed : Dict.KeyedBy PluginRecord.key manager.records)
    (h : unmet (listPlugins manager.records) = []) (missing : List String) :
    (loadAlone brokenImport manager key).1 ≠
      some (.load (.unresolved (unmetError missing).message)) := by
  rw [loadAlone, hget]
  dsimp only
  rw [if_neg hexplicit, if_neg hstate]
  cases hresolve : resolvePlugins manager.records key with
  | error message =>
      dsimp only
      intro heq
      injection heq with heq
      injection heq with heq
      injection heq with heq
      unfold resolvePlugins at hresolve
      cases hdeps : resolveDependencies (listPlugins manager.records) key
          (loadedKeys manager.records) with
      | ok order =>
          rw [hdeps] at hresolve
          cases hresolve
      | error error =>
          rw [hdeps] at hresolve
          have hmessage : error.message = message := Except.error.inj hresolve
          obtain ⟨nodes, hcycle⟩ := error_of_met (nodup_listPlugins hkeyed) h hdeps
          rw [← hmessage, hcycle] at heq
          exact cycleError_ne nodes missing heq
  | ok order =>
      dsimp only
      split
      · intro heq
        cases heq
      · rw [loadSingle_brokenImport hget]
        intro heq
        cases heq

end Alone

lemma sameLoads_iff (h : Alike K manager other) (hkept : KeptKey K manager other key)
    (hclosed : Closed K (listPlugins manager.records)) : SameLoads K manager other key ↔
      Idle manager key ∨
        SameComplaint (listPlugins manager.records) (listPlugins other.records) := by
  constructor
  · intro hsame
    by_contra hnot
    obtain ⟨hbusy, hcomplaint⟩ := not_or.mp hnot
    simp only [Idle, not_forall, not_or] at hbusy
    obtain ⟨record, hget, hexplicit, hstate⟩ := hbusy
    have hget' : Dict.get? other.records key = some record := (h.get?_eq hkept).symm.trans hget
    have hexplicit' : ¬ (other.requireExplicitEnable && !record.enabled) = true := by
      rw [← h.explicit]
      exact hexplicit
    have hfault := (hsame.alone brokenImport).1
    by_cases hmet : unmet (listPlugins manager.records) = []
    · by_cases hmet' : unmet (listPlugins other.records) = []
      · exact hcomplaint ⟨iff_of_true hmet hmet', by rw [hmet, hmet']⟩
      · rw [loadAlone_of_unmet hget' hexplicit' hstate brokenImport hmet'] at hfault
        exact loadAlone_of_met hget hexplicit hstate h.keyed hmet _ hfault
    · rw [loadAlone_of_unmet hget hexplicit hstate brokenImport hmet] at hfault
      by_cases hmet' : unmet (listPlugins other.records) = []
      · exact loadAlone_of_met hget' hexplicit' hstate h.keyed' hmet' _ hfault.symm
      · rw [loadAlone_of_unmet hget' hexplicit' hstate brokenImport hmet'] at hfault
        injection hfault with hfault
        injection hfault with hfault
        injection hfault with hmessage
        exact hcomplaint ⟨iff_of_false hmet hmet', message_unmetError_iff.mp hmessage⟩
  · rintro (hidle | ⟨hnone, htexts⟩)
    · exact sameLoads_of_refused h hkept (.inl hidle)
    · by_cases hmet : unmet (listPlugins manager.records) = []
      · have hready : Ready K manager other := ⟨h, hclosed, hmet, hnone.mp hmet⟩
        constructor
        · intro runs depth
          have htwin := twin_load runs depth hready hkept
          exact ⟨htwin.fault, htwin.alike⟩
        · intro run
          have htwin := twin_loadAlone run hready hkept
          exact ⟨htwin.fault, htwin.alike⟩
      · have hmet' : unmet (listPlugins other.records) ≠ [] := fun hmet' => hmet (hnone.mpr hmet')
        refine sameLoads_of_refused h hkept (.inr ⟨_, resolvePlugins_of_unmet hmet, ?_⟩)
        rw [resolvePlugins_of_unmet hmet', message_unmetError_iff.mpr htexts]

end

/-- Two sets of records that have the same records for the target and for what it reaches: what is
resolved for it is the same, list or error, exactly if the same dependencies are unmet in both.  And
for managers with such records, a load of the target does the same in both, whatever the code of
the plugins does, exactly if nothing is resolved for it or the texts of the unmet dependencies are
the same. -/
theorem unrelated_plugins [Casing] (records records' : List PluginRecord)
    (target : String) (preferLoaded : List String) (manager other : PluginManager) (key : String) :
    ((records.map PluginRecord.key).Nodup → (records'.map PluginRecord.key).Nodup →
      (∀ record : PluginRecord, Concerned records target record.manifest →
        (record ∈ records ↔ record ∈ records')) →
      (resolveDependencies records target preferLoaded =
        resolveDependencies records' target preferLoaded ↔ unmet records = unmet records')) ∧
    (Alike (Concerned (listPlugins manager.records) key) manager other →
      (SameLoads (Concerned (listPlugins manager.records) key) manager other key ↔
        Idle manager key ∨
          SameComplaint (listPlugins manager.records) (listPlugins other.records))) := by
  constructor
  · intro hkeys hkeys' hsame
    have hagree : Agree (Concerned records target) records records' preferLoaded preferLoaded :=
      ⟨hkeys, hkeys', closed_concerned records target, hsame, fun _ _ _ => Iff.rfl⟩
    exact resolveDependencies_eq_iff hagree fun record _ hkey => .inl hkey
  · intro h
    refine sameLoads_iff h (fun record hget => .inl ?_) (closed_concerned _ key)
    rcases hget with hget | hget
    · exact h.keyed.eq_of_get? hget
    · exact h.keyed'.eq_of_get? hget

/-! ### A plugin that misses a dependency -/

section

attribute [local instance] Casing.ascii

/-- A plugin without dependencies. -/
def appRecord : PluginRecord where
  manifest := { id := "app" }

def extraRecord (dependencies : List PluginDependency) : PluginRecord where
  manifest := { id := "extra", dependencies := dependencies }

lemma not_reaches_app (id : String) : ¬ Reaches [appRecord] "app@1.0.0" id := by
  intro h
  cases h with
  | declared hrecord hkey hdependency =>
      obtain rfl := List.mem_singleton.mp hrecord
      cases hdependency
  | step h hrecord hdependency =>
      obtain rfl := List.mem_singleton.mp hrecord
      cases hdependency

lemma concerned_app {record : PluginRecord} (dependencies : List PluginDependency)
    (h : Concerned [appRecord] "app@1.0.0" record.manifest) :
    record ∈ [appRecord] ↔ record ∈ [appRecord, extraRecord dependencies] := by
  have hkey : record.key = "app@1.0.0" := h.resolve_right (not_reaches_app _)
  have hextra : record ≠ extraRecord dependencies := by
    rintro rfl
    have hkey : "extra" ++ "@" ++ "1.0.0" = "app@1.0.0" := hkey
    exact absurd hkey (by decide)
  simp [hextra]

/-- A manager with some plugins. -/
def managerOf (records : List PluginRecord) : PluginManager where
  records := records.map fun record => (record.key, record)

lemma keyed_managerOf {records : List PluginRecord} (h : (records.map PluginRecord.key).Nodup) :
    Dict.KeyedBy PluginRecord.key (managerOf records).records where
  nodup := by
    simpa [Dict.NodupKeys, Dict.keys, managerOf, Function.comp_def] using h
  keyed key record hmem := by
    obtain ⟨_, -, heq⟩ := List.mem_map.mp hmem
    cases heq
    rfl

lemma mem_managerOf {records : List PluginRecord} (h : (records.map PluginRecord.key).Nodup)
    {key : String} {record : PluginRecord} :
    Dict.get? (managerOf records).records key = some record ↔
      record ∈ records ∧ record.key = key := by
  constructor
  · intro hget
    obtain ⟨_, hmem, heq⟩ := List.mem_map.mp (Dict.mem_of_get? hget)
    cases heq
    exact ⟨hmem, rfl⟩
  · rintro ⟨hmem, rfl⟩
    exact Dict.get?_of_mem (keyed_managerOf h).nodup
      (List.mem_map_of_mem (f := fun record => (record.key, record)) hmem)

lemma nodup_app (dependencies : List PluginDependency) :
    ([appRecord, extraRecord dependencies].map PluginRecord.key).Nodup :=
  List.nodup_cons.mpr ⟨by
    rw [List.map_singleton, List.mem_singleton]
    exact (by decide : "app@1.0.0" ≠ "extra@1.0.0"), List.nodup_singleton _⟩

lemma alike_app (dependencies : List PluginDependency) :
    Alike (Concerned (listPlugins (managerOf [appRecord]).records) "app@1.0.0")
      (managerOf [appRecord]) (managerOf [appRecord, extraRecord dependencies]) where
  keyed := keyed_managerOf (List.nodup_singleton appRecord.key)
  keyed' := keyed_managerOf (nodup_app dependencies)
  registries := rfl
  explicit := rfl
  lastCall := rfl
  same key record hconcerned := by
    have hnodup : ([appRecord].map PluginRecord.key).Nodup := List.nodup_singleton appRecord.key
    rw [mem_managerOf hnodup, mem_managerOf (nodup_app dependencies),
      concerned_app dependencies hconcerned]

/-- Another plugin whose dependency is met changes nothing, and the target is loaded as before. -/
theorem unrelated_plugins_sample :
    resolveDependencies [appRecord] "app@1.0.0" [] =
        resolveDependencies [appRecord, extraRecord [{ pluginId := "app" }]] "app@1.0.0" [] ∧
      SameLoads (Concerned (listPlugins (managerOf [appRecord]).records) "app@1.0.0")
        (managerOf [appRecord]) (managerOf [appRecord, extraRecord [{ pluginId := "app" }]])
        "app@1.0.0" :=
  ⟨((unrelated_plugins _ _ _ _ {} {} "").1 (by decide) (by decide)
      fun _ h => concerned_app [{ pluginId := "app" }] h).mpr (by decide),
    ((unrelated_plugins [] [] "" [] _ _ _).2 (alike_app _)).mpr
      (.inr ⟨by decide +kernel, by decide +kernel⟩)⟩

/-- Another plugin that misses a dependency: nothing is resolved for the target any more, and its
load raises, which it did not without that plugin. -/
theorem unrelated_blocks :
    (∀ record : PluginRecord, Concerned [appRecord] "app@1.0.0" record.manifest →
      (record ∈ [appRecord] ↔ record ∈ [appRecord, extraRecord [{ pluginId := "gone" }]])) ∧
    resolveDependencies [appRecord] "app@1.0.0" [] = .ok [] ∧
    resolveDependencies [appRecord, extraRecord [{ pluginId := "gone" }]] "app@1.0.0" [] =
      .error (unmetError ["extra@1.0.0 requires gone@* (available: none)"]) ∧
    (load resolvePlugins (fun _ => { brokenImport with
      instantiate := .ok 0
      identity := .ok ("app", "1.0.0")
      validated := .list [] }) 2 (managerOf [appRecord]) "app@1.0.0").1 = none ∧
    (load resolvePlugins (fun _ => { brokenImport with
      instantiate := .ok 0
      identity := .ok ("app", "1.0.0")
      validated := .list [] }) 2
        (managerOf [appRecord, extraRecord [{ pluginId := "gone" }]]) "app@1.0.0").1 =
      some (.load (.unresolved ("Unresolvable plugin dependencies: " ++
        "extra@1.0.0 requires gone@* (available: none)"))) := by
  refine ⟨fun _ h => concerned_app [{ pluginId := "gone" }] h, rfl, ?_, ?_, ?_⟩
  · decide +kernel
  · decide +kernel
  · decide +kernel

end

end PluginManager

end Samaktha
