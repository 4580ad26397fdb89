import Samaktha.Plugins.Lifecycle

/-!
# The lifecycle keeps the law

An operation changes the record of one plugin (`Puts`), and with it the registries in one of three
ways: not at all, by what is taken back from the plugin, or by what the plugin contributes.  Each
of the three keeps the invariant `Ordered` under a condition on the step (`Ordered.put`,
`Ordered.withdraw`, `Ordered.join`); every operation is a sequence of such changes.

A load with its dependencies is the loads of the plugins on the chain that is resolved, one after
the other: when one of them is loaded, what its own resolution finds is up (`resolved_up`), and
nothing further is loaded for it.
-/

namespace Samaktha

namespace PluginManager

variable [Casing]

/-! ## Records -/

/-- The records are the same, but for the one under a key. -/
structure Puts (manager after : PluginManager) (key : String) (record : PluginRecord) : Prop where
  records : ∀ k, Dict.get? after.records k =
    if key = k then some record else Dict.get? manager.records k
  keyed : Dict.KeyedBy PluginRecord.key after.records
  explicit : after.requireExplicitEnable = manager.requireExplicitEnable

section

variable {manager after last : PluginManager} {key : String} {record record' : PluginRecord}

omit [Casing] in
lemma Puts.self (h : Puts manager after key record) :
    Dict.get? after.records key = some record := by
  rw [h.records, if_pos rfl]

omit [Casing] in
lemma Puts.other (h : Puts manager after key record) {k : String} (hne : k ≠ key) :
    Dict.get? after.records k = Dict.get? manager.records k := by
  rw [h.records, if_neg (Ne.symm hne)]

omit [Casing] in
lemma Puts.trans (h : Puts manager after key record) (h' : Puts after last key record') :
    Puts manager last key record' := by
  refine ⟨fun k => ?_, h'.keyed, h'.explicit.trans h.explicit⟩
  rw [h'.records]
  by_cases hkey : key = k
  · rw [if_pos hkey, if_pos hkey]
  · rw [if_neg hkey, if_neg hkey, h.records, if_neg hkey]

omit [Casing] in
lemma requireExplicitEnable_modify (manager : PluginManager) (key : String)
    (f : PluginRecord → PluginRecord) :
    (manager.modify key f).requireExplicitEnable = manager.requireExplicitEnable := by
  unfold modify
  split <;> rfl

omit [Casing] in
lemma puts_modify (hkeyed : Dict.KeyedBy PluginRecord.key manager.records)
    (h : Dict.get? manager.records key = some record) {f : PluginRecord → PluginRecord}
    (hf : (f record).manifest = record.manifest) :
    Puts manager (manager.modify key f) key (f record) := by
  have hkey : (f record).key = key := by
    rw [PluginRecord.key, hf]
    exact hkeyed.eq_of_get? h
  refine ⟨fun k => ?_, ?_, requireExplicitEnable_modify manager key f⟩
  · unfold modify
    rw [h]
    exact Dict.get?_set _ _ _ _
  · unfold modify
    rw [h]
    exact hkeyed.set hkey

omit [Casing] in
lemma Puts.congr (h : Puts manager after key record) {manager' after' : PluginManager}
    (hmanager : manager'.records = manager.records) (hafter : after'.records = after.records)
    (hexplicit : after'.requireExplicitEnable = manager'.requireExplicitEnable) :
    Puts manager' after' key record := by
  refine ⟨fun k => ?_, hafter ▸ h.keyed, hexplicit⟩
  rw [hafter, hmanager]
  exact h.records k

/-! ## The invariant -/

/-- The law as an invariant: a plugin that is not up lists nothing and has no instance, none is
in the course of a load, and the keys under which plugins have registered are apart. -/
structure Ordered (host : Dict (ContributionKind × String) RegistryEntry)
    (manager : PluginManager) : Prop where
  keyed : Dict.KeyedBy PluginRecord.key manager.records
  settled : ∀ key record, Dict.get? manager.records key = some record → record.state ≠ .loading
  idle : ∀ key record, Dict.get? manager.records key = some record →
    record.state ∉ loadedStates → record.contributions = [] ∧ record.plugin = none
  attached : ∀ key record, Dict.get? manager.records key = some record →
    ∀ contribution ∈ record.contributions,
      manager.registries.attached contribution.kind = true
  held : ∀ key record, manager.Up key record → ∀ contribution ∈ record.contributions,
    Held host manager key contribution
  hosted : ∀ place entry, Dict.get? host place = some entry →
    Dict.get? manager.registries.entries place = some entry
  listed : ∀ place entry, Dict.get? manager.registries.entries place = some entry →
    Dict.get? host place = some entry ∨
      ∃ key record, manager.Up key record ∧ ownedBy key entry ∧
        ∃ contribution ∈ record.contributions, contribution.key = place
  apart : ∀ key key' record record', Dict.get? manager.records key = some record →
    Dict.get? manager.records key' = some record' → key ≠ key' →
      ∀ contribution ∈ record.contributions, ∀ contribution' ∈ record'.contributions,
        contribution.key ≠ contribution'.key
  provided : ∀ key record, manager.Up key record →
    ∀ dependency ∈ record.manifest.dependencies,
      ∃ key' record', manager.Up key' record' ∧ dependency.satisfiedBy record' = true

variable {host : Dict (ContributionKind × String) RegistryEntry}

lemma Ordered.lawful (h : Ordered host manager) : Lawful host manager where
  present key record hrecord contribution hmem := by
    constructor
    · intro _
      by_contra hdown
      rw [(h.idle key record hrecord hdown).1] at hmem
      cases hmem
    · intro hup
      exact h.held key record ⟨hrecord, hup⟩ contribution hmem
  listed := h.listed
  provided := h.provided
  disjoint key key' record record' hrecord hrecord' hne contribution hmem hmem' :=
    h.apart key key' record record' hrecord hrecord' hne contribution hmem contribution hmem' rfl

lemma ordered_of_empty (hempty : manager.records = []) :
    Ordered manager.registries.entries manager where
  keyed := hempty ▸ Dict.KeyedBy.nil
  settled key record h := by
    rw [hempty] at h
    cases h
  idle key record h := by
    rw [hempty] at h
    cases h
  attached key record h := by
    rw [hempty] at h
    cases h
  held key record h := by
    rw [Up, hempty] at h
    cases h.1
  hosted place entry h := h
  listed place entry h := .inl h
  apart key key' record record' h := by
    rw [hempty] at h
    cases h
  provided key record h := by
    rw [Up, hempty] at h
    cases h.1

omit [Casing] in
lemma satisfiedBy_congr {dependency : PluginDependency} (h : record'.manifest = record.manifest) :
    dependency.satisfiedBy record' = dependency.satisfiedBy record := by
  unfold PluginDependency.satisfiedBy
  rw [h]

omit [Casing] in
lemma isLoaded_iff {k : String} : manager.isLoaded k = true ↔ ∃ record, manager.Up k record := by
  unfold isLoaded Up
  cases Dict.get? manager.records k with
  | none => simp
  | some record => simp

/-! ## A record that stays up or down -/

/-- What may change in a record at no cost. -/
structure Kept (record record' : PluginRecord) : Prop where
  manifest : record'.manifest = record.manifest
  contributions : record'.contributions = record.contributions
  plugin : record'.plugin = record.plugin
  up : record'.state ∈ loadedStates ↔ record.state ∈ loadedStates
  settled : record'.state ≠ .loading

omit [Casing] in
lemma up_put (hput : Puts manager after key record')
    (h : Dict.get? manager.records key = some record)
    (hkept : Kept record record') {k : String} {other : PluginRecord} (hup : manager.Up k other) :
    ∃ other', after.Up k other' ∧ other'.manifest = other.manifest ∧
      other'.contributions = other.contributions := by
  by_cases hkey : k = key
  · subst hkey
    obtain rfl := Option.some.inj (h.symm.trans hup.1)
    exact ⟨record', ⟨hput.self, hkept.up.mpr hup.2⟩, hkept.manifest, hkept.contributions⟩
  · exact ⟨other, ⟨(hput.other hkey).trans hup.1, hup.2⟩, rfl, rfl⟩

omit [Casing] in
lemma kept_of_get? (hput : Puts manager after key record')
    (h : Dict.get? manager.records key = some record) (hkept : Kept record record')
    (hsettled : ∀ k other, Dict.get? manager.records k = some other → other.state ≠ .loading)
    {k : String} {other' : PluginRecord} (hget : Dict.get? after.records k = some other') :
    ∃ other, Dict.get? manager.records k = some other ∧ Kept other other' := by
  by_cases hkey : k = key
  · subst hkey
    obtain rfl := Option.some.inj (hput.self.symm.trans hget)
    exact ⟨record, h, hkept⟩
  · rw [hput.other hkey] at hget
    exact ⟨other', hget, rfl, rfl, rfl, Iff.rfl, hsettled k other' hget⟩

lemma Ordered.put (ho : Ordered host manager) (hput : Puts manager after key record')
    (hregistries : after.registries = manager.registries)
    (h : Dict.get? manager.records key = some record) (hkept : Kept record record') :
    Ordered host after := by
  have hback : ∀ {k : String} {other' : PluginRecord}, Dict.get? after.records k = some other' →
      ∃ other, Dict.get? manager.records k = some other ∧ Kept other other' :=
    fun hget => kept_of_get? hput h hkept ho.settled hget
  have hup : ∀ k other', after.Up k other' → ∃ other, manager.Up k other ∧ Kept other other' := by
    rintro k other' ⟨hget, hstate⟩
    obtain ⟨other, hother, hkept'⟩ := hback hget
    exact ⟨other, ⟨hother, hkept'.up.mp hstate⟩, hkept'⟩
  refine ⟨hput.keyed, fun k other' hget => ?_, fun k other' hget hdown => ?_,
    fun k other' hget c hc => ?_, fun k other' hother c hc => ?_, ?_, fun place entry hget => ?_,
    fun k k' r r' hr hr' hne c hc c' hc' => ?_, fun k other' hother dependency hmem => ?_⟩
  · obtain ⟨other, -, hkept'⟩ := hback hget
    exact hkept'.settled
  · obtain ⟨other, hother, hkept'⟩ := hback hget
    rw [hkept'.contributions, hkept'.plugin]
    exact ho.idle k other hother fun hstate => hdown (hkept'.up.mpr hstate)
  · obtain ⟨other, hother, hkept'⟩ := hback hget
    rw [hregistries]
    exact ho.attached k other hother c (hkept'.contributions ▸ hc)
  · obtain ⟨other, hother', hkept'⟩ := hup k other' hother
    unfold Held
    rw [hregistries]
    exact ho.held k other hother' c (hkept'.contributions ▸ hc)
  · rw [hregistries]
    exact ho.hosted
  · rw [hregistries] at hget
    rcases ho.listed place entry hget with hhost | ⟨k, other, hother, howned, c, hc, hplace⟩
    · exact .inl hhost
    · obtain ⟨other', hother', -, hcontributions⟩ := up_put hput h hkept hother
      exact .inr ⟨k, other', hother', howned, c, hcontributions ▸ hc, hplace⟩
  · obtain ⟨s, hs, hkept'⟩ := hback hr
    obtain ⟨s', hs', hkept''⟩ := hback hr'
    exact ho.apart k k' s s' hs hs' hne c (hkept'.contributions ▸ hc) c'
      (hkept''.contributions ▸ hc')
  · obtain ⟨other, hother', hkept'⟩ := hup k other' hother
    obtain ⟨k', r, hr, hsat⟩ := ho.provided k other hother' dependency (hkept'.manifest ▸ hmem)
    obtain ⟨r', hr', hmanifest, -⟩ := up_put hput h hkept hr
    exact ⟨k', r', hr', (satisfiedBy_congr hmanifest).trans hsat⟩

/-! ## Contributions that are taken back -/

omit [Casing] in
lemma up_other (hput : Puts manager after key record') {k : String} {other : PluginRecord}
    (hne : k ≠ key) : after.Up k other ↔ manager.Up k other := by
  unfold Up
  rw [hput.other hne]

lemma Ordered.withdraw (ho : Ordered host manager) (hput : Puts manager after key record')
    (hregistries : after.registries = manager.registries.unregister record.contributions)
    (h : Dict.get? manager.records key = some record)
    (hcontributions : record'.contributions = []) (hplugin : record'.plugin = none)
    (hdown : record'.state ∉ loadedStates) (hsettled : record'.state ≠ .loading)
    (hspared : ∀ k other, manager.Up k other → k ≠ key →
      ∀ dependency ∈ other.manifest.dependencies, ∃ k' other', manager.Up k' other' ∧ k' ≠ key ∧
        dependency.satisfiedBy other' = true) :
    Ordered host after := by
  have hattached : after.registries.attached = manager.registries.attached := by
    rw [hregistries, PluginRegistries.attached_unregister]
  have hget : ∀ place, Dict.get? after.registries.entries place =
      if place ∈ PluginRegistries.attachedKeys manager.registries.attached record.contributions
        then none else Dict.get? manager.registries.entries place := by
    intro place
    rw [hregistries]
    exact PluginRegistries.get?_unregister _ _ _
  have htaken : ∀ {place}, place ∈ PluginRegistries.attachedKeys manager.registries.attached
      record.contributions ↔ ∃ c ∈ record.contributions, c.key = place := by
    intro place
    unfold PluginRegistries.attachedKeys
    rw [List.mem_map]
    refine exists_congr fun c => ⟨fun hc => ⟨(List.mem_filter.mp hc.1).1, hc.2⟩, fun hc => ?_⟩
    exact ⟨List.mem_filter.mpr ⟨hc.1, ho.attached key record h c hc.1⟩, hc.2⟩
  have hne : ∀ {k other}, after.Up k other → k ≠ key := by
    rintro k other hup rfl
    obtain rfl := Option.some.inj (hput.self.symm.trans hup.1)
    exact hdown hup.2
  have hup : ∀ {k other}, after.Up k other → manager.Up k other := fun hafter =>
    (up_other hput (hne hafter)).mp hafter
  -- what another plugin lists is not taken back
  have hstays : ∀ {k other}, k ≠ key → manager.Up k other → ∀ c ∈ other.contributions,
      Dict.get? after.registries.entries c.key =
        Dict.get? manager.registries.entries c.key := by
    intro k other hk hother c hc
    rw [hget, if_neg]
    intro hmem
    obtain ⟨c', hc', hkey⟩ := htaken.mp hmem
    exact ho.apart key k record other h hother.1 hk.symm c' hc' c hc hkey
  have hrecord : ∀ {k other}, Dict.get? after.records k = some other →
      (k = key ∧ other = record') ∨ (k ≠ key ∧ Dict.get? manager.records k = some other) := by
    intro k other hother
    by_cases hk : k = key
    · subst hk
      exact .inl ⟨rfl, Option.some.inj (hother.symm.trans hput.self)⟩
    · exact .inr ⟨hk, (hput.other hk).symm.trans hother⟩
  refine ⟨hput.keyed, fun k other hother => ?_, fun k other hother hstate => ?_,
    fun k other hother c hc => ?_, fun k other hother c hc => ?_, fun place entry hhost => ?_,
    fun place entry hentry => ?_, fun k k' r r' hr hr' hkk c hc c' hc' => ?_,
    fun k other hother dependency hmem => ?_⟩
  · rcases hrecord hother with ⟨-, rfl⟩ | ⟨-, hold⟩
    · exact hsettled
    · exact ho.settled k other hold
  · rcases hrecord hother with ⟨-, rfl⟩ | ⟨-, hold⟩
    · exact ⟨hcontributions, hplugin⟩
    · exact ho.idle k other hold hstate
  · rw [hattached]
    rcases hrecord hother with ⟨-, rfl⟩ | ⟨-, hold⟩
    · rw [hcontributions] at hc
      cases hc
    · exact ho.attached k other hold c hc
  · unfold Held
    rw [hstays (hne hother) (hup hother) c hc]
    exact ho.held k other (hup hother) c hc
  · rw [hget, if_neg]
    · exact ho.hosted place entry hhost
    · intro hmem
      obtain ⟨c, hc, rfl⟩ := htaken.mp hmem
      by_cases hstate : record.state ∈ loadedStates
      · rw [(ho.held key record ⟨h, hstate⟩ c hc).1] at hhost
        cases hhost
      · rw [(ho.idle key record h hstate).1] at hc
        cases hc
  · rw [hget] at hentry
    split at hentry
    · cases hentry
    · rename_i hfree
      rcases ho.listed place entry hentry with hhost | ⟨k, other, hother, howned, c, hc, hplace⟩
      · exact .inl hhost
      · have hk : k ≠ key := by
          rintro rfl
          obtain rfl := Option.some.inj (h.symm.trans hother.1)
          exact hfree (htaken.mpr ⟨c, hc, hplace⟩)
        exact .inr ⟨k, other, (up_other hput hk).mpr hother, howned, c, hc, hplace⟩
  · rcases hrecord hr with ⟨-, rfl⟩ | ⟨-, hold⟩
    · rw [hcontributions] at hc
      cases hc
    · rcases hrecord hr' with ⟨-, rfl⟩ | ⟨-, hold'⟩
      · rw [hcontributions] at hc'
        cases hc'
      · exact ho.apart k k' r r' hold hold' hkk c hc c' hc'
  · obtain ⟨k', r', hr', hk', hsat⟩ :=
      hspared k other (hup hother) (hne hother) dependency hmem
    exact ⟨k', r', (up_other hput hk').mpr hr', hsat⟩

/-! ## Contributions that are registered -/

lemma mem_registrations {attached : ContributionKind → Bool} {capabilities : List PluginCapability}
    {tools : List PluginTool} {providers : List PluginProvider} {step : Registration}
    (h : step ∈ registrations attached key capabilities tools providers) :
    attached step.contribution.kind = true ∧ ownedBy key step.entry := by
  unfold registrations at h
  rcases List.mem_append.mp h with h | h
  · rcases List.mem_append.mp h with h | h
    · split at h
      · rename_i hattached
        obtain ⟨tool, -, rfl⟩ := List.mem_map.mp h
        exact ⟨hattached, rfl⟩
      · cases h
    · split at h
      · rename_i hattached
        obtain ⟨provider, -, rfl⟩ := List.mem_map.mp h
        exact ⟨hattached, trivial⟩
      · cases h
  · split at h
    · rename_i hattached
      obtain ⟨capability, -, rfl⟩ := List.mem_map.mp h
      exact ⟨hattached, trivial⟩
    · cases h

lemma Ordered.join (ho : Ordered host manager) (hput : Puts manager after key record')
    (h : Dict.get? manager.records key = some record) (hdown : record.state ∉ loadedStates)
    {tools : List PluginTool} {providers : List PluginProvider} {steps : List Registration}
    (hsteps : steps = registrations manager.registries.attached key record.manifest.capabilities
      tools providers)
    (haccepts : manager.registries.Accepts steps)
    (hregistries : after.registries = (manager.registries.register steps).2)
    (hcontributions : record'.contributions = steps.map Registration.contribution)
    (hstate : record'.state ∈ loadedStates) (hmanifest : record'.manifest = record.manifest)
    (hprovided : ∀ dependency ∈ record.manifest.dependencies,
      dependency.satisfiedBy record = true ∨
        ∃ k other, manager.Up k other ∧ dependency.satisfiedBy other = true) :
    Ordered host after := by
  have hattached : after.registries.attached = manager.registries.attached := by
    rw [hregistries, PluginRegistries.attached_register]
  have hself : after.Up key record' := ⟨hput.self, hstate⟩
  have hstays : ∀ {k other}, manager.Up k other → k ≠ key ∧ after.Up k other := by
    intro k other hup
    have hk : k ≠ key := by
      rintro rfl
      obtain rfl := Option.some.inj (h.symm.trans hup.1)
      exact hdown hup.2
    exact ⟨hk, (up_other hput hk).mpr hup⟩
  have hrecord : ∀ {k other}, Dict.get? after.records k = some other →
      (k = key ∧ other = record') ∨ (k ≠ key ∧ Dict.get? manager.records k = some other) := by
    intro k other hother
    by_cases hk : k = key
    · subst hk
      exact .inl ⟨rfl, Option.some.inj (hother.symm.trans hput.self)⟩
    · exact .inr ⟨hk, (hput.other hk).symm.trans hother⟩
  have hgrown : ∀ place entry, Dict.get? manager.registries.entries place = some entry →
      Dict.get? after.registries.entries place = some entry := by
    intro place entry hentry
    rw [hregistries]
    exact PluginRegistries.get?_register_of_some steps hentry
  have hmine : ∀ c ∈ record'.contributions, ∃ step ∈ steps, step.contribution = c := by
    intro c hc
    rw [hcontributions] at hc
    exact List.mem_map.mp hc
  -- what others list was registered before, what the plugin lists was not
  have hnew : ∀ c ∈ record'.contributions, ∀ {k other}, k ≠ key →
      Dict.get? manager.records k = some other → ∀ c' ∈ other.contributions, c.key ≠ c'.key := by
    intro c hc k other hk hother c' hc' hkey
    obtain ⟨step, hstep, rfl⟩ := hmine c hc
    by_cases hup : other.state ∈ loadedStates
    · obtain ⟨-, entry, hentry, -⟩ := ho.held k other ⟨hother, hup⟩ c' hc'
      have hfree := (haccepts.2 step hstep).2
      rw [Registration.key, hkey, hentry] at hfree
      cases hfree
    · rw [(ho.idle k other hother hup).1] at hc'
      cases hc'
  refine ⟨hput.keyed, fun k other hother => ?_, fun k other hother hidle => ?_,
    fun k other hother c hc => ?_, fun k other hother c hc => ?_,
    fun place entry hhost => hgrown place entry (ho.hosted place entry hhost),
    fun place entry hentry => ?_, fun k k' r r' hr hr' hkk c hc c' hc' => ?_,
    fun k other hother dependency hmem => ?_⟩
  · rcases hrecord hother with ⟨-, rfl⟩ | ⟨-, hold⟩
    · rintro heq
      rw [heq] at hstate
      exact absurd hstate (by decide)
    · exact ho.settled k other hold
  · rcases hrecord hother with ⟨-, rfl⟩ | ⟨-, hold⟩
    · exact absurd hstate hidle
    · exact ho.idle k other hold hidle
  · rw [hattached]
    rcases hrecord hother with ⟨-, rfl⟩ | ⟨-, hold⟩
    · obtain ⟨step, hstep, rfl⟩ := hmine c hc
      exact (mem_registrations (hsteps ▸ hstep)).1
    · exact ho.attached k other hold c hc
  · rcases hrecord hother.1 with ⟨rfl, rfl⟩ | ⟨-, hold⟩
    · obtain ⟨step, hstep, rfl⟩ := hmine c hc
      refine ⟨?_, step.entry, ?_, (mem_registrations (hsteps ▸ hstep)).2⟩
      · cases hhost : Dict.get? host step.contribution.key with
        | none => rfl
        | some entry =>
            have hfree := (haccepts.2 step hstep).2
            rw [Registration.key, ho.hosted _ entry hhost] at hfree
            cases hfree
      · rw [hregistries]
        exact PluginRegistries.get?_register_of_mem haccepts hstep
    · obtain ⟨hhost, entry, hentry, howned⟩ := ho.held k other ⟨hold, hother.2⟩ c hc
      exact ⟨hhost, entry, hgrown _ entry hentry, howned⟩
  · by_cases hplace : place ∈ steps.map Registration.key
    · obtain ⟨step, hstep, rfl⟩ := List.mem_map.mp hplace
      have hsame : entry = step.entry := by
        rw [hregistries, PluginRegistries.get?_register_of_mem haccepts hstep] at hentry
        exact (Option.some.inj hentry).symm
      refine .inr ⟨key, record', hself, hsame ▸ (mem_registrations (hsteps ▸ hstep)).2,
        step.contribution, ?_, rfl⟩
      rw [hcontributions]
      exact List.mem_map_of_mem hstep
    · rw [hregistries, PluginRegistries.get?_register_of_notMem hplace] at hentry
      rcases ho.listed place entry hentry with hhost | ⟨k, other, hother, howned, c, hc, hkey⟩
      · exact .inl hhost
      · exact .inr ⟨k, other, (hstays hother).2, howned, c, hc, hkey⟩
  · rcases hrecord hr with ⟨rfl, rfl⟩ | ⟨hk, hold⟩
    · rcases hrecord hr' with ⟨rfl, -⟩ | ⟨hk', hold'⟩
      · exact absurd rfl hkk
      · exact hnew c hc hk' hold' c' hc'
    · rcases hrecord hr' with ⟨rfl, rfl⟩ | ⟨-, hold'⟩
      · exact (hnew c' hc' hk hold c hc).symm
      · exact ho.apart k k' r r' hold hold' hkk c hc c' hc'
  · rcases hrecord hother.1 with ⟨rfl, rfl⟩ | ⟨-, hold⟩
    · rcases hprovided dependency (hmanifest ▸ hmem) with hsat | ⟨k', other', hother', hsat⟩
      · exact ⟨k, other, hself, (satisfiedBy_congr hmanifest).trans hsat⟩
      · exact ⟨k', other', (hstays hother').2, hsat⟩
    · obtain ⟨k', other', hother', hsat⟩ := ho.provided k other ⟨hold, hother.2⟩ dependency hmem
      exact ⟨k', other', (hstays hother').2, hsat⟩

end

end PluginManager

end Samaktha
