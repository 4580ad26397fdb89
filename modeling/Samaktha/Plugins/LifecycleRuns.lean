import Samaktha.Plugins.LifecycleLaws

/-!
# Every run of the lifecycle keeps the law

The load of one plugin, the loads of the plugins that are resolved for it, and the operations.
-/

namespace Samaktha

namespace PluginManager

section

variable [Casing]

section

variable {manager after : PluginManager} {key : String} {record : PluginRecord}
  {host : Dict (ContributionKind × String) RegistryEntry}

/-! ## The load of one plugin -/

omit [Casing] in
lemma validatePlugin_ok {run : PluginRun} (h : QuietRun run) (manifest : PluginManifest) :
    ∃ errors, validatePlugin manifest run = .ok errors := by
  obtain ⟨found, hfound⟩ := h.identity
  unfold validatePlugin
  rw [hfound]
  rcases h.validated with hvalidated | ⟨tools, hvalidated⟩
  · rw [hvalidated]
    exact ⟨_, rfl⟩
  · rw [hvalidated]
    exact ⟨_, rfl⟩

omit [Casing] in
lemma exists_of_forM_error {α : Type} {f : α → Except PluginFault Unit} {l : List α}
    {fault : PluginFault} (h : l.forM f = .error fault) : ∃ a ∈ l, f a = .error fault := by
  induction l with
  | nil => cases h
  | cons a rest ih =>
      change (f a >>= fun _ => rest.forM f) = .error fault at h
      rcases bind_eq_error h with hone | ⟨-, -, hrest⟩
      · exact ⟨a, List.mem_cons_self, hone⟩
      · obtain ⟨b, hb, hfault⟩ := ih hrest
        exact ⟨b, List.mem_cons_of_mem a hb, hfault⟩

omit [Casing] in
lemma isException_of_boundary {manifest : PluginManifest} {tool : PluginTool} {fault : PluginFault}
    (h : enforceToolBoundaries manifest tool = .error fault) : fault.isException = true := by
  unfold enforceToolBoundaries at h
  dsimp only at h
  split at h
  · rw [← Except.error.inj h]
    rfl
  · split at h
    · rw [← Except.error.inj h]
      rfl
    · split at h
      · rw [← Except.error.inj h]
        rfl
      · cases h

omit [Casing] in
lemma isException_of_prepare {manifest : PluginManifest} {run : PluginRun} (hquiet : QuietRun run)
    {fault : PluginFault} (h : prepare manifest run = .error fault) :
    fault.isException = true := by
  obtain ⟨errors, herrors⟩ := validatePlugin_ok hquiet manifest
  obtain ⟨tools, htools⟩ := hquiet.tools
  obtain ⟨providers, hproviders⟩ := hquiet.providers
  unfold prepare at h
  rcases bind_eq_error h with hinstantiate | ⟨plugin, -, h⟩
  · exact hquiet.instantiate fault hinstantiate
  rw [herrors, htools, hproviders] at h
  rcases bind_eq_error h with hnone | ⟨errors', -, h⟩
  · cases hnone
  split at h
  · have hthrow : (.error (.load (.structural errors')) :
        Except PluginFault (ℕ × List PluginTool × List PluginProvider)) = .error fault := h
    rw [← Except.error.inj hthrow]
    rfl
  · rcases bind_eq_error h with hnone | ⟨tools', -, h⟩
    · cases hnone
    rcases bind_eq_error h with hnone | ⟨providers', -, h⟩
    · cases hnone
    rcases bind_eq_error h with hboundary | ⟨-, -, h⟩
    · obtain ⟨tool, -, hfault⟩ := exists_of_forM_error hboundary
      exact isException_of_boundary hfault
    rcases bind_eq_error h with hboundary | ⟨-, -, h⟩
    · obtain ⟨provider, -, hfault⟩ := exists_of_forM_error hboundary
      unfold enforceProviderBoundary at hfault
      split at hfault
      · cases hfault
      · rw [← Except.error.inj hfault]
        rfl
    · cases h

/-- A record that shows a failed load. -/
def failedRecord (record : PluginRecord) (error : Option String) : PluginRecord :=
  { record with error := error, state := .failed }

omit [Casing] in
/-- The handlers of `_load_single` for an exception. -/
lemma failLoad_spec (hkeyed : Dict.KeyedBy PluginRecord.key manager.records)
    (h : Dict.get? manager.records key = some record) {fault : PluginFault}
    (hexception : fault.isException = true) :
    (∃ error, Puts manager (manager.failLoad key fault).2 key (failedRecord record error)) ∧
      ∀ error, (manager.failLoad key fault).1 = some (.load error) → loadErrors fault = true := by
  cases fault with
  | base message => cases hexception
  | isolation error => exact ⟨⟨_, puts_modify hkeyed h rfl⟩, fun _ hload => by cases hload⟩
  | registration message => exact ⟨⟨_, puts_modify hkeyed h rfl⟩, fun _ hload => by cases hload⟩
  | load error => exact ⟨⟨_, puts_modify hkeyed h rfl⟩, fun _ _ => rfl⟩
  | unload message => exact ⟨⟨_, puts_modify hkeyed h rfl⟩, fun _ _ => rfl⟩
  | other message => exact ⟨⟨_, puts_modify hkeyed h rfl⟩, fun _ _ => rfl⟩

/-- What `_load_single` does where no hook raises: it fails before the registration, or in the
course of it, or the plugin is up. -/
inductive LoadResult (manager : PluginManager) (key : String) (record : PluginRecord)
    (run : PluginRun) (result : Option PluginFault × PluginManager) : Prop where
  | unprepared (fault : PluginFault) (error : Option String)
      (prepared : prepare record.manifest run = .error fault)
      (raised : result.1 ≠ none)
      (kind : ∀ error, result.1 = some (.load error) → loadErrors fault = true)
      (registries : result.2.registries = manager.registries)
      (puts : Puts manager result.2 key (failedRecord record error))
  | refused (plugin : ℕ) (tools : List PluginTool) (providers : List PluginProvider)
      (error : Option String)
      (prepared : prepare record.manifest run = .ok (plugin, tools, providers))
      (refused : (manager.registries.register
        (manager.steps key record.manifest tools providers)).1 ≠ none)
      (raised : result.1 ≠ none)
      (registries : result.2.registries = (manager.registries.register
        (manager.steps key record.manifest tools providers)).2)
      (puts : Puts manager result.2 key (failedRecord record error))
  | joined (plugin : ℕ) (tools : List PluginTool) (providers : List PluginProvider)
      (prepared : prepare record.manifest run = .ok (plugin, tools, providers))
      (accepted : (manager.registries.register
        (manager.steps key record.manifest tools providers)).1 = none)
      (raised : result.1 = none)
      (registries : result.2.registries = (manager.registries.register
        (manager.steps key record.manifest tools providers)).2)
      (puts : Puts manager result.2 key { record with
        contributions := (manager.steps key record.manifest tools providers).map
          Registration.contribution
        plugin := some plugin
        error := none
        state := .active })

lemma loadSingle_result (hkeyed : Dict.KeyedBy PluginRecord.key manager.records)
    (h : Dict.get? manager.records key = some record) {run : PluginRun} (hquiet : QuietRun run) :
    LoadResult manager key record run (manager.loadSingle key run) := by
  have hloading := puts_modify hkeyed h (f := fun record => { record with state := .loading }) rfl
  have hregistries := registries_modify manager key fun record => { record with state := .loading }
  unfold loadSingle
  rw [h]
  dsimp only
  generalize (manager.modify key fun record => { record with state := .loading }) = loading
    at hloading hregistries
  have hsteps : ∀ tools providers, loading.steps key record.manifest tools providers =
      manager.steps key record.manifest tools providers := by
    intro tools providers
    unfold steps
    rw [hregistries]
  cases hprepare : prepare record.manifest run with
  | error fault =>
      obtain ⟨⟨error, hput⟩, hkind⟩ := failLoad_spec hloading.keyed hloading.self
        (isException_of_prepare hquiet hprepare)
      exact .unprepared fault error hprepare (failLoad_raises _ _ _) hkind
        ((registries_failLoad _ _ _).trans hregistries) (hloading.trans hput)
  | ok found =>
      obtain ⟨plugin, tools, providers⟩ := found
      dsimp only
      rw [hsteps, hregistries]
      cases hregister : manager.registries.register
          (manager.steps key record.manifest tools providers) with
      | mk refused registries =>
          cases refused with
          | some fault =>
              have hfault : (manager.registries.register
                  (manager.steps key record.manifest tools providers)).1 = some fault := by
                rw [hregister]
              let middle : PluginManager := { loading with registries := registries }
              have hmiddle : Puts manager middle key { record with state := .loading } :=
                hloading.congr rfl rfl hloading.explicit
              obtain ⟨⟨error, hput⟩, -⟩ := failLoad_spec hmiddle.keyed hmiddle.self
                (isException_of_register hfault)
              refine .refused plugin tools providers error hprepare ?_ (failLoad_raises _ _ _) ?_
                (hmiddle.trans hput)
              · rw [hfault]
                exact Option.some_ne_none fault
              · rw [hregister]
                exact registries_failLoad middle key fault
          | none =>
              rw [hquiet.start]
              let middle : PluginManager := { loading with
                registries := registries
                lastCall := Dict.set loading.lastCall plugin .start }
              have hmiddle : Puts manager middle key { record with state := .loading } :=
                hloading.congr rfl rfl hloading.explicit
              refine .joined plugin tools providers hprepare ?_ rfl ?_ ?_
              · rw [hregister]
              · rw [hregister]
                exact registries_modify middle key _
              · exact hmiddle.trans (puts_modify hmiddle.keyed hmiddle.self rfl)

lemma register_of_refusesFirst {registries : PluginRegistries} {steps : List Registration}
    (h : RefusesFirst registries steps) :
    (registries.register steps).1 ≠ none ∧ (registries.register steps).2 = registries := by
  obtain ⟨step, hhead, hrefused⟩ := h
  cases steps with
  | nil => cases hhead
  | cons first rest =>
      obtain rfl := Option.some.inj hhead
      cases hrefusal : first.refusal (Dict.get? registries.entries first.key) with
      | some fault =>
          rw [PluginRegistries.register_cons_of_refused hrefusal]
          exact ⟨Option.some_ne_none fault, rfl⟩
      | none =>
          obtain ⟨hvalid, hfree⟩ := (first.refusal_eq_none_iff _).mp hrefusal
          rcases hrefused with hinvalid | htaken
          · rw [hvalid] at hinvalid
            cases hinvalid
          · exact absurd hfree htaken

/-- What a load leaves: the law is kept and what is up stays up; where it raises a
`PluginLoadError`, what is required of the registries then; and a plugin that was down and is not
loaded is down. -/
structure LoadEnds (host : Dict (ContributionKind × String) RegistryEntry)
    (stopped : PluginRegistries → Prop) (manager : PluginManager) (key : String)
    (result : Option PluginFault × PluginManager) : Prop where
  ordered : Ordered host result.2
  up : ∀ k other, manager.Up k other → result.2.Up k other
  explicit : result.2.requireExplicitEnable = manager.requireExplicitEnable
  halted : ∀ error, result.1 = some (.load error) → stopped result.2.registries
  down : result.1 ≠ none →
    (∀ record, Dict.get? manager.records key = some record → record.state ∉ loadedStates) →
      ∀ record, Dict.get? result.2.records key = some record → record.state ∉ loadedStates

lemma LoadEnds.of_same {stopped : PluginRegistries → Prop} (ho : Ordered host manager)
    {fault : Option PluginFault}
    (hstopped : ∀ error, fault = some (.load error) → stopped manager.registries) :
    LoadEnds host stopped manager key (fault, manager) :=
  ⟨ho, fun _ _ h => h, rfl, hstopped, fun _ h => h⟩

omit [Casing] in
lemma kept_failedRecord (hdown : record.state ∉ loadedStates) (error : Option String) :
    Kept record (failedRecord record error) where
  manifest := rfl
  contributions := rfl
  plugin := rfl
  up := iff_of_false (by decide : PluginState.failed ∉ loadedStates) hdown
  settled := (by decide : PluginState.failed ≠ .loading)

lemma LoadEnds.of_failed {stopped : PluginRegistries → Prop} (ho : Ordered host manager)
    (h : Dict.get? manager.records key = some record) (hdown : record.state ∉ loadedStates)
    {error : Option String} {result : Option PluginFault × PluginManager}
    (hput : Puts manager result.2 key (failedRecord record error))
    (hregistries : result.2.registries = manager.registries)
    (hstopped : ∀ error, result.1 = some (.load error) → stopped manager.registries) :
    LoadEnds host stopped manager key result := by
  refine ⟨ho.put hput hregistries h (kept_failedRecord hdown error), fun k other hup => ?_,
    hput.explicit, hregistries ▸ hstopped, fun _ _ record' hrecord' => ?_⟩
  · have hne : k ≠ key := by
      rintro rfl
      obtain rfl := Option.some.inj (h.symm.trans hup.1)
      exact hdown hup.2
    exact (up_other hput hne).mpr hup
  · obtain rfl := Option.some.inj (hput.self.symm.trans hrecord')
    exact (by decide : PluginState.failed ∉ loadedStates)

/-- The plugins of some records are up, with those manifests. -/
def AllUp (manager : PluginManager) (records : List PluginRecord) : Prop :=
  ∀ record ∈ records, ∃ key record', manager.Up key record' ∧ record'.manifest = record.manifest

lemma loadSingle_ends {loads : String → PluginRun} {stopped : PluginRegistries → Prop}
    {up : List PluginRecord} {next : PluginRegistries → List PluginRecord → Prop}
    (ho : Ordered host manager) (h : Dict.get? manager.records key = some record)
    (hdown : record.state ∉ loadedStates) (hquiet : QuietRun (loads key))
    (hup : manager.AllUp up)
    (hjoins : Joins loads stopped manager.registries up key record next) :
    LoadEnds host stopped manager key (manager.loadSingle key (loads key)) ∧
      ((manager.loadSingle key (loads key)).1 = none →
        next (manager.loadSingle key (loads key)).2.registries (record :: up) ∧
          (manager.loadSingle key (loads key)).2.AllUp (record :: up) ∧
          ∃ record', Puts manager (manager.loadSingle key (loads key)).2 key record' ∧
            record'.state ∈ loadedStates ∧ record'.manifest = record.manifest) := by
  unfold Joins at hjoins
  cases loadSingle_result ho.keyed h hquiet with
  | unprepared fault error hprepare hraised hkind hregistries hput =>
      rw [hprepare] at hjoins
      refine ⟨LoadEnds.of_failed ho h hdown hput hregistries fun error herror => ?_,
        fun hnone => absurd hnone hraised⟩
      exact hjoins (hkind error herror)
  | refused plugin tools providers error hprepare hrefused hraised hregistries hput =>
      rw [hprepare] at hjoins
      rcases hjoins with ⟨hfirst, hstopped⟩ | ⟨haccepts, -⟩
      · have hsame := (register_of_refusesFirst hfirst).2
        exact ⟨LoadEnds.of_failed ho h hdown hput (hregistries.trans hsame)
          fun _ _ => hstopped, fun hnone => absurd hnone hraised⟩
      · exact absurd (PluginRegistries.register_fault_eq_none_iff.mpr haccepts) hrefused
  | joined plugin tools providers hprepare haccepted hraised hregistries hput =>
      rw [hprepare] at hjoins
      rcases hjoins with ⟨hfirst, -⟩ | ⟨haccepts, hprovided, hnext⟩
      · exact absurd haccepted (register_of_refusesFirst hfirst).1
      · have hactive : PluginState.active ∈ loadedStates := by decide
        have hstays : ∀ k other, manager.Up k other →
            (manager.loadSingle key (loads key)).2.Up k other := by
          intro k other hother
          have hne : k ≠ key := by
            rintro rfl
            obtain rfl := Option.some.inj (h.symm.trans hother.1)
            exact hdown hother.2
          exact (up_other hput hne).mpr hother
        refine ⟨⟨?_, hstays, hput.explicit, fun error herror => ?_, fun hne => absurd hraised hne⟩,
          fun _ => ⟨hregistries ▸ hnext, fun other hother => ?_, _, hput, hactive, rfl⟩⟩
        · refine ho.join hput h hdown rfl haccepts hregistries rfl hactive rfl
            fun dependency hmem => ?_
          obtain ⟨other, hother, hsat⟩ := hprovided dependency hmem
          rcases List.mem_cons.mp hother with rfl | hother
          · exact .inl hsat
          · obtain ⟨k, other', hother', hmanifest⟩ := hup other hother
            exact .inr ⟨k, other', hother', (satisfiedBy_congr hmanifest).trans hsat⟩
        · rw [hraised] at herror
          cases herror
        · rcases List.mem_cons.mp hother with rfl | hother
          · exact ⟨key, _, ⟨hput.self, hactive⟩, rfl⟩
          · obtain ⟨k, other', hother', hmanifest⟩ := hup other hother
            exact ⟨k, other', hstays k other' hother', hmanifest⟩

/-! ## What is resolved -/

omit [Casing] in
lemma mem_listPlugins (hkeyed : Dict.KeyedBy PluginRecord.key manager.records) :
    record ∈ listPlugins manager.records ↔ Dict.get? manager.records record.key = some record := by
  unfold listPlugins
  rw [List.mem_map]
  constructor
  · rintro ⟨⟨k, r⟩, hmem, rfl⟩
    exact hkeyed.get?_of_mem ((Dict.sortByKey_perm _).mem_iff.mp hmem)
  · intro hget
    exact ⟨(record.key, record),
      (Dict.sortByKey_perm _).mem_iff.mpr (Dict.mem_of_get? hget), rfl⟩

omit [Casing] in
lemma nodup_listPlugins (hkeyed : Dict.KeyedBy PluginRecord.key manager.records) :
    ((listPlugins manager.records).map PluginRecord.key).Nodup := by
  have hkeys : (listPlugins manager.records).map PluginRecord.key =
      (Dict.sortByKey manager.records).keys := by
    unfold listPlugins Dict.keys
    rw [List.map_map]
    refine List.map_congr_left fun kv hmem => ?_
    exact hkeyed.keyed kv.1 kv.2 ((Dict.sortByKey_perm _).mem_iff.mp hmem)
  rw [hkeys]
  exact hkeyed.nodup.sortByKey

omit [Casing] in
lemma mem_loadedKeys (hkeyed : Dict.KeyedBy PluginRecord.key manager.records) {k : String} :
    k ∈ loadedKeys manager.records ↔ ∃ record, manager.Up k record := by
  unfold loadedKeys
  rw [List.mem_map]
  constructor
  · rintro ⟨r, hmem, rfl⟩
    obtain ⟨hr, hstate⟩ := List.mem_filter.mp hmem
    exact ⟨r, (mem_listPlugins hkeyed).mp hr, of_decide_eq_true hstate⟩
  · rintro ⟨r, hget, hstate⟩
    obtain rfl := hkeyed.eq_of_get? hget
    exact ⟨r, List.mem_filter.mpr ⟨(mem_listPlugins hkeyed).mpr hget, decide_eq_true hstate⟩, rfl⟩

omit [Casing] in
lemma resolvePlugins_ok (hkeyed : Dict.KeyedBy PluginRecord.key manager.records)
    (h : Dict.get? manager.records key = some record) {order : List String}
    (hresolve : resolvePlugins manager.records key = .ok order) :
    Dependencies.Choosable (listPlugins manager.records) (loadedKeys manager.records) ∧
      order.Nodup ∧
      (∀ a, a ∈ order ↔ Relation.TransGen
        (Dependencies.Next (listPlugins manager.records) (loadedKeys manager.records)) key a) ∧
      (∀ a b, a ∈ order →
        Dependencies.Next (listPlugins manager.records) (loadedKeys manager.records) a b →
          [b, a].Sublist order) ∧
      key ∉ order := by
  have hkey := hkeyed.eq_of_get? h
  refine Dependencies.resolveDependencies_ok (nodup_listPlugins hkeyed) ?_ ?_
  · refine List.mem_map.mpr ⟨record, (mem_listPlugins hkeyed).mpr ?_, hkey⟩
    rw [hkey]
    exact h
  · unfold resolvePlugins at hresolve
    cases hdeps : Dependencies.resolveDependencies (listPlugins manager.records) key
        (loadedKeys manager.records) with
    | error error =>
        rw [hdeps] at hresolve
        cases hresolve
    | ok found =>
        rw [hdeps] at hresolve
        exact congrArg Except.ok (Except.ok.inj hresolve)

omit [Casing] in
lemma next_cases (hkeyed : Dict.KeyedBy PluginRecord.key manager.records) {a b : String}
    (h : Dependencies.Next (listPlugins manager.records) (loadedKeys manager.records) a b) :
    ∃ r dependency pick, Dict.get? manager.records a = some r ∧
      r.manifest.dependencies.getLast? = some dependency ∧
      Dependencies.chooseCandidate (listPlugins manager.records) (loadedKeys manager.records)
        dependency = some pick ∧ pick.key = b := by
  obtain ⟨r, hfind, hchoice⟩ := Option.bind_eq_some_iff.mp h
  obtain ⟨pick, hpick, hkey⟩ := Option.map_eq_some_iff.mp hchoice
  obtain ⟨dependency, hlast, hchosen⟩ := Option.bind_eq_some_iff.mp hpick
  have hr : r.key = a := by simpa using List.find?_some hfind
  have hget := (mem_listPlugins hkeyed).mp (List.mem_of_find?_eq_some hfind)
  exact ⟨r, dependency, pick, hr ▸ hget, hlast, hchosen, hkey⟩

omit [Casing] in
lemma up_of_chosen (hkeyed : Dict.KeyedBy PluginRecord.key manager.records)
    {dependency : PluginDependency} {pick : PluginRecord}
    (hchosen : Dependencies.chooseCandidate (listPlugins manager.records)
      (loadedKeys manager.records) dependency = some pick)
    (hup : ∃ k other, manager.Up k other ∧ dependency.satisfiedBy other = true) :
    manager.isLoaded pick.key = true := by
  obtain ⟨k, other, hother, hsat⟩ := hup
  have hkey := hkeyed.eq_of_get? hother.1
  have hmem : other ∈ listPlugins manager.records :=
    (mem_listPlugins hkeyed).mpr (hkey ▸ hother.1)
  have hpreferred : other.key ∈ loadedKeys manager.records :=
    (mem_loadedKeys hkeyed).mpr ⟨other, hkey ▸ hother⟩
  obtain ⟨pick', hpick', hloaded⟩ :=
    Dependencies.chooseCandidate_preferred hmem hsat hpreferred
  obtain rfl := Option.some.inj (hchosen.symm.trans hpick')
  exact isLoaded_iff.mpr ((mem_loadedKeys hkeyed).mp hloaded)

lemma resolved_up (ho : Ordered host manager) (h : Dict.get? manager.records key = some record)
    (hlast : ∀ dependency, record.manifest.dependencies.getLast? = some dependency →
      ∃ k other, manager.Up k other ∧ dependency.satisfiedBy other = true)
    {order : List String} (hresolve : resolvePlugins manager.records key = .ok order) :
    ∀ k ∈ order, manager.isLoaded k = true := by
  obtain ⟨-, -, hmem, -⟩ := resolvePlugins_ok ho.keyed h hresolve
  intro k hk
  have hpath := (hmem k).mp hk
  induction hpath with
  | single hstep =>
      obtain ⟨r, dependency, pick, hr, hdep, hchosen, rfl⟩ := next_cases ho.keyed hstep
      obtain rfl := Option.some.inj (h.symm.trans hr)
      exact up_of_chosen ho.keyed hchosen (hlast dependency hdep)
  | tail hpath hstep ih =>
      obtain ⟨r, dependency, pick, hr, hdep, hchosen, rfl⟩ := next_cases ho.keyed hstep
      obtain ⟨r', hr'⟩ := isLoaded_iff.mp (ih ((hmem _).mpr hpath))
      obtain rfl := Option.some.inj (hr.symm.trans hr'.1)
      exact up_of_chosen ho.keyed hchosen (ho.provided _ r hr' dependency
        (List.mem_of_getLast? hdep))

omit [Casing] in
lemma loadDependencies_of_loaded
    (load : PluginManager → String → Option PluginFault × PluginManager) {keys : List String}
    (h : ∀ k ∈ keys, manager.isLoaded k = true) :
    loadDependencies load manager keys = (none, manager) := by
  induction keys with
  | nil => rfl
  | cons k rest ih =>
      rw [loadDependencies, if_pos (h k List.mem_cons_self)]
      exact ih fun k' hk' => h k' (List.mem_cons_of_mem k hk')

/-! ## A load with its dependencies -/

section Loads

variable {loads : String → PluginRun} {stopped : PluginRegistries → Prop}
  {next : PluginRegistries → List PluginRecord → Prop}

lemma load_one (ho : Ordered host manager) (h : Dict.get? manager.records key = some record)
    (hdown : record.state ∉ loadedStates) (hquiet : ∀ k, QuietRun (loads k))
    (hlast : ∀ dependency, record.manifest.dependencies.getLast? = some dependency →
      ∃ k other, manager.Up k other ∧ dependency.satisfiedBy other = true)
    {up : List PluginRecord} (hup : manager.AllUp up) (hstopped : stopped manager.registries)
    (hjoins : (manager.requireExplicitEnable && !record.enabled) = false →
      Joins loads stopped manager.registries up key record next) (depth : ℕ) :
    let result := load resolvePlugins loads depth manager key
    LoadEnds host stopped manager key result ∧
      (∀ k, k ≠ key → Dict.get? result.2.records k = Dict.get? manager.records k) ∧
      (result.1 = none → next result.2.registries (record :: up) ∧
        result.2.AllUp (record :: up) ∧ ∃ record', Puts manager result.2 key record' ∧
          record'.state ∈ loadedStates ∧ record'.manifest = record.manifest) := by
  intro result
  cases depth with
  | zero =>
      exact ⟨LoadEnds.of_same ho fun error herror => (by cases herror), fun _ _ => rfl,
        fun hnone => by cases hnone⟩
  | succ depth =>
      have hstate : record.state ∉ [PluginState.loaded, .active, .loading] := by
        intro hmem
        have hsettled := ho.settled key record h
        simp only [List.mem_cons, List.not_mem_nil, or_false] at hmem
        rcases hmem with hloaded | hactive | hloading
        · exact hdown (hloaded ▸ by decide)
        · exact hdown (hactive ▸ by decide)
        · exact hsettled hloading
      have hresult : result = load resolvePlugins loads (depth + 1) manager key := rfl
      unfold load at hresult
      rw [h] at hresult
      dsimp only at hresult
      rw [if_neg hstate] at hresult
      split at hresult
      · rw [hresult]
        exact ⟨LoadEnds.of_same ho fun _ _ => hstopped, fun _ _ => rfl, fun hnone => by cases hnone⟩
      · rename_i henabled
        split at hresult
        · rename_i message hresolve
          have hput := puts_modify ho.keyed h
            (f := fun record => failedRecord record (some message)) rfl
          have hregistries := registries_modify manager key
            fun record => failedRecord record (some message)
          rw [hresult]
          exact ⟨LoadEnds.of_failed ho h hdown hput hregistries fun _ _ => hstopped,
            fun k hk => hput.other hk, fun hnone => by cases hnone⟩
        · rename_i dependencies hresolve
          rw [loadDependencies_of_loaded _ (resolved_up ho h hlast hresolve)] at hresult
          dsimp only at hresult
          rw [hresult]
          obtain ⟨hends, hjoined⟩ := loadSingle_ends ho h hdown (hquiet key) hup
            (hjoins (Bool.eq_false_iff.mpr henabled))
          refine ⟨hends, fun k hk => ?_, hjoined⟩
          cases loadSingle_result ho.keyed h (hquiet key) with
          | unprepared fault error _ _ _ _ hput => exact hput.other hk
          | refused plugin tools providers error _ _ _ _ hput => exact hput.other hk
          | joined plugin tools providers _ _ _ _ hput => exact hput.other hk

/-- Where the loop over the dependencies stands: those that are done are up, and the other
records are as they were. -/
structure Loop (host : Dict (ContributionKind × String) RegistryEntry) (base now : PluginManager)
    (done : List String) (up : List PluginRecord) : Prop where
  ordered : Ordered host now
  allUp : now.AllUp up
  loaded : ∀ k ∈ done, now.isLoaded k = true
  others : ∀ k, k ∉ done → Dict.get? now.records k = Dict.get? base.records k
  manifests : ∀ k r, Dict.get? base.records k = some r →
    ∃ r', Dict.get? now.records k = some r' ∧ r'.manifest = r.manifest
  explicit : now.requireExplicitEnable = base.requireExplicitEnable
  kept : ∀ k r, base.Up k r → now.Up k r

omit [Casing] in
lemma mem_of_pair_sublist {a b : String} {done rest : List String}
    (hnodup : (done ++ a :: rest).Nodup) (h : [b, a].Sublist (done ++ a :: rest)) : b ∈ done := by
  obtain ⟨-, hrest, -⟩ := List.nodup_append.mp hnodup
  have ha : a ∉ rest := (List.nodup_cons.mp hrest).1
  obtain ⟨first, second, heq, hfirst, hsecond⟩ := List.sublist_append_iff.mp h
  cases first with
  | nil =>
      obtain rfl : [b, a] = second := heq
      have htail : [a].Sublist rest := List.Sublist.of_cons_cons
        (a := a) (by
          rcases List.sublist_cons_iff.mp hsecond with hsub | ⟨l, hl, hsub⟩
          · exact absurd (hsub.subset (List.mem_cons_of_mem b List.mem_cons_self)) ha
          · obtain ⟨rfl, rfl⟩ := List.cons.inj hl
            exact hsub.cons_cons b)
      exact absurd (htail.subset List.mem_cons_self) ha
  | cons c first =>
      obtain ⟨rfl, -⟩ := List.cons.inj heq
      exact hfirst.subset List.mem_cons_self

lemma loadDependencies_ends {base : PluginManager} (hbase : Ordered host base)
    (h : Dict.get? base.records key = some record) (hquiet : ∀ k, QuietRun (loads k))
    {dependencies : List String} (hresolve : resolvePlugins base.records key = .ok dependencies)
    (depth : ℕ) {rest : List String} :
    ∀ {done : List String} {now : PluginManager} {up : List PluginRecord},
      dependencies = done ++ rest → Loop host base now done up →
      InOrder base loads stopped now.registries up
        (rest.filter fun dependency => !base.isLoaded dependency) next →
      let result := loadDependencies (load resolvePlugins loads depth) now rest
      (result.1 ≠ none → Ordered host result.2 ∧ (∀ k r, base.Up k r → result.2.Up k r) ∧
        result.2.requireExplicitEnable = base.requireExplicitEnable ∧
        (∀ error, result.1 = some (.load error) → stopped result.2.registries) ∧
        ∀ k, k ∉ dependencies → Dict.get? result.2.records k = Dict.get? base.records k) ∧
      (result.1 = none → ∃ up', Loop host base result.2 dependencies up' ∧
        next result.2.registries up') := by
  obtain ⟨hchoosable, hnodup, hmem, hbefore, -⟩ := resolvePlugins_ok hbase.keyed h hresolve
  induction rest with
  | nil =>
      intro done now up hsplit hloop hnext result
      rw [List.append_nil] at hsplit
      exact ⟨fun hne => absurd rfl hne, fun _ => ⟨up, hsplit ▸ hloop, hnext⟩⟩
  | cons d rest ih =>
      intro done now up hsplit hloop horder result
      have hd : d ∉ done := by
        rw [hsplit] at hnodup
        intro hmem
        exact (List.nodup_append.mp hnodup).2.2 d hmem d List.mem_cons_self rfl
      have hdin : d ∈ dependencies := hsplit ▸ List.mem_append_right done List.mem_cons_self
      have hsame : now.isLoaded d = base.isLoaded d := by
        unfold isLoaded
        rw [hloop.others d hd]
      have hsplit' : dependencies = (done ++ [d]) ++ rest := by
        rw [hsplit, List.append_assoc]
        rfl
      have hresult : result = loadDependencies (load resolvePlugins loads depth) now (d :: rest) :=
        rfl
      unfold loadDependencies at hresult
      by_cases hloaded : base.isLoaded d = true
      · rw [if_pos (hsame.trans hloaded)] at hresult
        rw [List.filter_cons_of_neg (by simp [hloaded])] at horder
        rw [hresult]
        refine ih hsplit' ⟨hloop.ordered, hloop.allUp, fun k hk => ?_, fun k hk => ?_,
          hloop.manifests, hloop.explicit, hloop.kept⟩ horder
        · rcases List.mem_append.mp hk with hk | hk
          · exact hloop.loaded k hk
          · rw [List.mem_singleton.mp hk]
            exact hsame.trans hloaded
        · exact hloop.others k fun hk' => hk (List.mem_append_left _ hk')
      · rw [if_neg (hsame ▸ hloaded)] at hresult
        rw [List.filter_cons_of_pos (by simp [hloaded])] at horder
        obtain ⟨hstopped, hjoins⟩ := horder
        -- what is resolved is registered
        obtain ⟨c, -, hstep⟩ := Relation.TransGen.tail'_iff.mp ((hmem d).mp hdin)
        obtain ⟨r, dependency, pick, -, -, hchosen, rfl⟩ := next_cases hbase.keyed hstep
        have hd₀ : Dict.get? base.records pick.key = some pick :=
          (mem_listPlugins hbase.keyed).mp (Dependencies.chooseCandidate_spec hchosen).1
        have hdown : pick.state ∉ loadedStates := fun hup =>
          hloaded (isLoaded_iff.mpr ⟨pick, hd₀, hup⟩)
        have hdnow : Dict.get? now.records pick.key = some pick :=
          (hloop.others pick.key hd).trans hd₀
        have hlast : ∀ dependency, pick.manifest.dependencies.getLast? = some dependency →
            ∃ k other, now.Up k other ∧ dependency.satisfiedBy other = true := by
          intro dependency hdep
          have hpickmem := (mem_listPlugins hbase.keyed).mpr hd₀
          obtain ⟨choice, hchoice⟩ := Option.isSome_iff_exists.mp
            (hchoosable pick hpickmem dependency (List.mem_of_getLast? hdep))
          have hnext : Dependencies.Next (listPlugins base.records) (loadedKeys base.records)
              pick.key choice.key := by
            unfold Dependencies.Next Dependencies.lastChoice
            rw [Dependencies.find?_key (nodup_listPlugins hbase.keyed) hpickmem]
            change (pick.manifest.dependencies.getLast?.bind _).map _ = _
            rw [hdep]
            exact congrArg (Option.map PluginRecord.key) hchoice
          have hdone : choice.key ∈ done := by
            have hsub := hbefore _ _ hdin hnext
            rw [hsplit] at hsub hnodup
            exact mem_of_pair_sublist hnodup hsub
          obtain ⟨hregistered, hsat⟩ := Dependencies.chooseCandidate_spec hchoice
          obtain ⟨r', hr'⟩ := isLoaded_iff.mp (hloop.loaded _ hdone)
          obtain ⟨r'', hr'', hmanifest⟩ := hloop.manifests _ choice
            ((mem_listPlugins hbase.keyed).mp hregistered)
          obtain rfl := Option.some.inj (hr'.1.symm.trans hr'')
          exact ⟨choice.key, r', hr', (satisfiedBy_congr hmanifest).trans hsat⟩
        have hone := load_one hloop.ordered hdnow hdown hquiet hlast hloop.allUp hstopped
          (fun henabled => hjoins pick hd₀ (hloop.explicit ▸ henabled)) depth
        obtain ⟨hends, hothers, hjoined⟩ := hone
        split at hresult
        · rename_i fault after heq
          rw [heq] at hends hothers
          rw [hresult]
          refine ⟨fun _ => ⟨hends.ordered, fun k r hup => hends.up k r (hloop.kept k r hup),
            hends.explicit.trans hloop.explicit, hends.halted, fun k hk => ?_⟩,
            fun hnone => by cases hnone⟩
          rw [hothers k fun heq => hk (heq ▸ hdin)]
          exact hloop.others k fun hmem => hk (hsplit ▸ List.mem_append_left _ hmem)
        · rename_i after heq
          rw [heq] at hends hothers hjoined
          obtain ⟨hnext, hall, record', hput, hup', hmanifest⟩ := hjoined rfl
          rw [hresult]
          refine ih hsplit' ⟨hends.ordered, hall, fun k hk => ?_, fun k hk => ?_,
            fun k r hr => ?_, hends.explicit.trans hloop.explicit,
            fun k r hr => hends.up k r (hloop.kept k r hr)⟩ hnext
          · rcases List.mem_append.mp hk with hk | hk
            · obtain ⟨r', hr'⟩ := isLoaded_iff.mp (hloop.loaded k hk)
              exact isLoaded_iff.mpr ⟨r', hends.up k r' hr'⟩
            · rw [List.mem_singleton.mp hk]
              exact isLoaded_iff.mpr ⟨record', hput.self, hup'⟩
          · have hk' := List.mem_append.not.mp hk
            push Not at hk'
            rw [hothers k fun heq => hk'.2 (heq ▸ List.mem_singleton_self _)]
            exact hloop.others k hk'.1
          · obtain ⟨r', hr', hsame'⟩ := hloop.manifests k r hr
            by_cases hk : k = pick.key
            · subst hk
              obtain rfl := Option.some.inj (hdnow.symm.trans hr')
              exact ⟨record', hput.self, hmanifest.trans hsame'⟩
            · exact ⟨r', (hothers k hk).trans hr', hsame'⟩

omit [Casing] in
lemma allUp_upRecords (hkeyed : Dict.KeyedBy PluginRecord.key manager.records) :
    manager.AllUp manager.upRecords := by
  intro r hr
  obtain ⟨hmem, hstate⟩ := List.mem_filter.mp hr
  obtain ⟨⟨k, r'⟩, hkv, rfl⟩ := List.mem_map.mp hmem
  exact ⟨_, r', ⟨hkeyed.get?_of_mem hkv, of_decide_eq_true hstate⟩, rfl⟩

omit [Casing] in
lemma down_of_notMem (h : record.state ∉ [PluginState.loaded, .active, .loading]) :
    record.state ∉ loadedStates := fun hmem =>
  h (by
    rcases List.mem_pair.mp hmem with hstate | hstate
    · exact hstate ▸ List.mem_cons_self
    · exact hstate ▸ List.mem_cons_of_mem _ List.mem_cons_self)

lemma load_ends (ho : Ordered host manager) (h : Dict.get? manager.records key = some record)
    (hquiet : ∀ k, QuietRun (loads k)) (hsound : manager.LoadSound loads stopped key true)
    (depth : ℕ) :
    LoadEnds host stopped manager key (load resolvePlugins loads depth manager key) := by
  cases depth with
  | zero => exact LoadEnds.of_same ho fun error herror => (by cases herror)
  | succ depth =>
      have hsound := hsound record h
      unfold load
      rw [h]
      dsimp only
      split
      · rename_i henabled
        rw [if_pos henabled] at hsound
        exact LoadEnds.of_same ho fun _ _ => hsound
      · rename_i henabled
        rw [if_neg henabled] at hsound
        split
        · exact LoadEnds.of_same ho fun error herror => by cases herror
        · rename_i hstate
          rw [if_neg hstate] at hsound
          have hdown := down_of_notMem hstate
          cases hresolve : resolvePlugins manager.records key with
          | error message =>
              rw [hresolve] at hsound
              have hput := puts_modify ho.keyed h
                (f := fun record => failedRecord record (some message)) rfl
              have hregistries := registries_modify manager key
                fun record => failedRecord record (some message)
              exact LoadEnds.of_failed ho h hdown hput hregistries fun _ _ => hsound
          | ok dependencies =>
              rw [hresolve] at hsound
              dsimp only at hsound
              rw [if_pos (by rfl)] at hsound
              have hloop : Loop host manager manager [] manager.upRecords :=
                ⟨ho, allUp_upRecords ho.keyed, fun k hk => (by cases hk), fun _ _ => rfl,
                  fun k r hr => ⟨r, hr, rfl⟩, rfl, fun _ _ hup => hup⟩
              obtain ⟨hfailed, hdone⟩ :=
                loadDependencies_ends ho h hquiet hresolve depth rfl hloop hsound
              obtain ⟨-, -, -, -, hout⟩ := resolvePlugins_ok ho.keyed h hresolve
              dsimp only
              cases hrun : loadDependencies (load resolvePlugins loads depth) manager
                  dependencies with
              | mk fault after =>
                  rw [hrun] at hfailed hdone
                  cases fault with
                  | some fault =>
                      obtain ⟨hordered, hup, hexplicit, hhalted, hothers⟩ :=
                        hfailed (Option.some_ne_none fault)
                      refine ⟨hordered, hup, hexplicit, hhalted, fun _ hold r hr => ?_⟩
                      exact hold r ((hothers key hout).symm.trans hr)
                  | none =>
                      obtain ⟨up, hloop, hjoins⟩ := hdone rfl
                      have hafter := (hloop.others key hout).trans h
                      obtain ⟨hends, -⟩ := loadSingle_ends hloop.ordered hafter hdown
                        (hquiet key) hloop.allUp hjoins
                      refine ⟨hends.ordered, fun k r hup => hends.up k r (hloop.kept k r hup),
                        hends.explicit.trans hloop.explicit, hends.halted, fun hne hold => ?_⟩
                      exact hends.down hne fun r hr =>
                        hold r ((hloop.others key hout).symm.trans hr)

lemma load_of_missing (h : Dict.get? manager.records key = none) (depth : ℕ) :
    (load resolvePlugins loads depth manager key).2 = manager := by
  cases depth with
  | zero => rfl
  | succ depth =>
      unfold load
      rw [h]

lemma loadAlone_ordered (ho : Ordered host manager) (hquiet : QuietRun (loads key))
    (hsound : manager.LoadSound loads (fun _ => True) key false) :
    Ordered host (manager.loadAlone (loads key) key).2 := by
  unfold loadAlone
  split
  · exact ho
  · rename_i record h
    have hsound := hsound record h
    split
    · exact ho
    · rename_i henabled
      rw [if_neg henabled] at hsound
      split
      · exact ho
      · rename_i hstate
        rw [if_neg hstate] at hsound
        have hdown := down_of_notMem hstate
        have hfail : ∀ message : String, Ordered host (manager.modify key fun record =>
            { record with error := some message, state := .failed }) := fun message =>
          ho.put (puts_modify ho.keyed h
            (f := fun record => failedRecord record (some message)) rfl)
            (registries_modify _ _ _) h (kept_failedRecord hdown _)
        split
        · exact hfail _
        · rename_i dependencies hresolve
          rw [hresolve] at hsound
          dsimp only at hsound
          split
          · exact hfail _
          · rename_i hfind
            have hwaiting : (dependencies.filter fun d => !manager.isLoaded d) = [] :=
              List.filter_eq_nil_iff.mpr (List.find?_eq_none.mp hfind)
            rw [if_pos (by simp [hwaiting]), hwaiting] at hsound
            have hjoins : Joins loads (fun _ => True) manager.registries manager.upRecords key
                record
                fun _ _ => True := hsound
            exact (loadSingle_ends ho h hdown hquiet (allUp_upRecords ho.keyed) hjoins).1.ordered

end Loads

/-! ## Unloading -/

/-- A record after an unload. -/
def unloadedRecord (record : PluginRecord) : PluginRecord :=
  { record with contributions := [], plugin := none, error := none, state := .unloaded }

/-- What `unload` does where the hook raises nothing: nothing, or it takes back what the record
lists. -/
lemma unload_result (hkeyed : Dict.KeyedBy PluginRecord.key manager.records)
    (h : Dict.get? manager.records key = some record) :
    ((manager.unload key none).2 = manager ∧
        ((manager.unload key none).1 = none → record.state = .unloaded)) ∨
      (manager.loadedDependents key = [] ∧ (manager.unload key none).1 = none ∧
        (manager.unload key none).2.registries =
          manager.registries.unregister record.contributions ∧
        Puts manager (manager.unload key none).2 key (unloadedRecord record)) := by
  have hunloading := puts_modify hkeyed h (f := fun record => { record with state := .unloading })
    rfl
  have hregistries := registries_modify manager key
    fun record => { record with state := .unloading }
  unfold unload
  rw [h]
  dsimp only
  split
  · rename_i hstate
    exact .inl ⟨rfl, fun _ => hstate⟩
  · split
    · exact .inl ⟨rfl, fun hnone => by cases hnone⟩
    · split
      · exact .inl ⟨rfl, fun hnone => by cases hnone⟩
      · rename_i hrefuse
        have hdependents : manager.loadedDependents key = [] := by
          have hnone := (Option.or_eq_none_iff.mp hrefuse).1
          unfold refuseDependents at hnone
          dsimp only at hnone
          split at hnone
          · assumption
          · cases hnone
        refine .inr ⟨hdependents, ?_⟩
        generalize (manager.modify key fun record => { record with state := .unloading }) =
          unloading at hunloading hregistries
        cases record.plugin with
        | none =>
            let middle : PluginManager := { unloading with
              registries := unloading.registries.unregister record.contributions }
            have hmiddle : Puts manager middle key { record with state := .unloading } :=
              hunloading.congr rfl rfl hunloading.explicit
            refine ⟨rfl, ?_, hmiddle.trans (puts_modify hmiddle.keyed hmiddle.self rfl)⟩
            exact (registries_modify middle key _).trans
              (congrArg (·.unregister record.contributions) hregistries)
        | some plugin =>
            let middle : PluginManager := { unloading with
              lastCall := Dict.set unloading.lastCall plugin .stop
              registries := unloading.registries.unregister record.contributions }
            have hmiddle : Puts manager middle key { record with state := .unloading } :=
              hunloading.congr rfl rfl hunloading.explicit
            refine ⟨rfl, ?_, hmiddle.trans (puts_modify hmiddle.keyed hmiddle.self rfl)⟩
            exact (registries_modify middle key _).trans
              (congrArg (·.unregister record.contributions) hregistries)

lemma spared (ho : Ordered host manager) (h : Dict.get? manager.records key = some record)
    (hdeparts : manager.Departs key) (hdependents : manager.loadedDependents key = []) :
    ∀ k other, manager.Up k other → k ≠ key →
      ∀ dependency ∈ other.manifest.dependencies, ∃ k' other', manager.Up k' other' ∧ k' ≠ key ∧
        dependency.satisfiedBy other' = true := by
  intro k other hother hk dependency hmem
  obtain ⟨k', other', hother', hsat⟩ := ho.provided k other hother dependency hmem
  by_cases hk' : k' = key
  · subst hk'
    obtain rfl := Option.some.inj (h.symm.trans hother'.1)
    rcases hdeparts record hother' with hid | hspared
    · -- the plugin would be among the dependents that are seen
      have hname : dependency.pluginId = targetId k' := by
        have hsame : record.manifest.id = dependency.pluginId := by
          unfold PluginDependency.satisfiedBy at hsat
          exact of_decide_eq_true (Bool.and_eq_true_iff.mp hsat).1
        rw [hid, hsame]
      have hseen : k ∈ manager.loadedDependents k' := by
        unfold loadedDependents
        refine List.mem_map.mpr ⟨(k, other), List.mem_filter.mpr ⟨?_, ?_⟩, rfl⟩
        · exact (Dict.sortByKey_perm _).mem_iff.mpr (Dict.mem_of_get? hother.1)
        · have hdeclared : targetId k' ∈
              other.manifest.dependencies.map PluginDependency.pluginId :=
            List.mem_map.mpr ⟨dependency, hmem, hname⟩
          have hloaded : manager.isLoaded k = true := isLoaded_iff.mpr ⟨other, hother⟩
          simp [hk, hdeclared, hloaded]
      rw [hdependents] at hseen
      cases hseen
    · exact hspared k other hother hk dependency hmem
  · exact ⟨k', other', hother', hk', hsat⟩

lemma unload_ordered (ho : Ordered host manager)
    (h : Dict.get? manager.records key = some record) (hdeparts : manager.Departs key) :
    Ordered host (manager.unload key none).2 := by
  rcases unload_result ho.keyed h with ⟨hsame, -⟩ | ⟨hdependents, -, hregistries, hput⟩
  · rw [hsame]
    exact ho
  · exact ho.withdraw hput hregistries h rfl rfl
      (by decide : PluginState.unloaded ∉ loadedStates)
      (by decide : PluginState.unloaded ≠ .loading) (spared ho h hdeparts hdependents)

lemma unload_of_missing (h : Dict.get? manager.records key = none) (stop : Option PluginFault) :
    (manager.unload key stop).2 = manager := by
  unfold unload
  rw [h]

lemma unloadFirst_ordered (ho : Ordered host manager)
    (h : Dict.get? manager.records key = some record) (inLoop : Bool)
    (hdeparts : inLoop = false → manager.Departs key) :
    Ordered host (manager.unloadFirst key record inLoop none).2 ∧
      ((manager.unloadFirst key record inLoop none).1 = none → ∃ record',
        Dict.get? (manager.unloadFirst key record inLoop none).2.records key = some record' ∧
          record'.state ∉ loadedStates) := by
  unfold unloadFirst
  split
  · rename_i hstate
    cases inLoop with
    | true => exact ⟨ho, fun hnone => by cases hnone⟩
    | false =>
        rw [if_neg Bool.false_ne_true]
        refine ⟨unload_ordered ho h (hdeparts rfl), fun hnone => ?_⟩
        rcases unload_result ho.keyed h with ⟨-, hunloaded⟩ | ⟨-, -, -, hput⟩
        · rw [hunloaded hnone] at hstate
          exact absurd hstate (by decide)
        · exact ⟨_, hput.self, (by decide : PluginState.unloaded ∉ loadedStates)⟩
  · rename_i hstate
    exact ⟨ho, fun _ => ⟨record, h, down_of_notMem hstate⟩⟩

lemma Ordered.rename (ho : Ordered host manager)
    (h : Dict.get? manager.records key = some record) (hdown : record.state ∉ loadedStates)
    {f : PluginRecord → PluginRecord} (hmanifest : (f record).manifest = record.manifest)
    (hcontributions : (f record).contributions = record.contributions)
    (hplugin : (f record).plugin = record.plugin) (hstate : (f record).state ∉ loadedStates)
    (hsettled : (f record).state ≠ .loading) : Ordered host (manager.modify key f) :=
  ho.put (puts_modify ho.keyed h hmanifest) (registries_modify _ _ _) h
    ⟨hmanifest, hcontributions, hplugin, iff_of_false hstate hdown, hsettled⟩

/-! ## Reloading -/

lemma unregister_eq_self {registries : PluginRegistries} {contributions : List Contribution}
    (h : ∀ contribution ∈ contributions,
      Dict.get? registries.entries contribution.key = none) :
    registries.unregister contributions = registries := by
  have herase : ∀ keys : List (ContributionKind × String),
      (∀ k ∈ keys, Dict.get? registries.entries k = none) →
        keys.foldl (fun entries k => Dict.erase entries k) registries.entries =
          registries.entries := by
    intro keys
    induction keys with
    | nil => exact fun _ => rfl
    | cons k rest ih =>
        intro hkeys
        have hsame : Dict.erase registries.entries k = registries.entries := by
          refine List.filter_eq_self.mpr fun kv hkv => ?_
          have hfree := Dict.get?_eq_none_iff.mp (hkeys k List.mem_cons_self)
          exact decide_eq_true fun heq => hfree (heq ▸ List.mem_map_of_mem hkv)
        rw [List.foldl_cons, hsame]
        exact ih fun k' hk' => hkeys k' (List.mem_cons_of_mem k hk')
  rw [PluginRegistries.unregister_eq, herase]
  intro k hk
  obtain ⟨c, hc, rfl⟩ := List.mem_map.mp hk
  exact h c (List.mem_reverse.mp (List.mem_filter.mp hc).1)

lemma registrations_of_none (registries : PluginRegistries) (pluginKey : String)
    (capabilities : List PluginCapability) :
    registrations registries.attached pluginKey capabilities [] [] = [] ∨
      RefusesFirst registries (registrations registries.attached pluginKey capabilities [] []) := by
  unfold registrations
  rw [List.map_nil, List.map_nil, ite_self, ite_self, List.append_nil, List.nil_append]
  split
  · cases capabilities with
    | nil => exact .inl rfl
    | cons capability rest => exact .inr ⟨_, rfl, .inl rfl⟩
  · exact .inl rfl

/-- What a rollback registers: its first step is refused, or every step is accepted and the plugin
was up or provides nothing. -/
lemma rollback_registers {run : ReloadRun} {before : PluginManager} (hbefore : Ordered host before)
    (h : Dict.get? before.records key = some record) {registries : PluginRegistries}
    (hrestores : Restores key record run registries) {snapshot : ReloadSnapshot}
    (hsnapshot : snapshotForReload record run = .ok snapshot) :
    RefusesFirst registries (registrations registries.attached key record.manifest.capabilities
        snapshot.tools snapshot.providers) ∨
      (registries.Accepts (registrations registries.attached key record.manifest.capabilities
        snapshot.tools snapshot.providers) ∧
      (record.state ∈ loadedStates ∨ registrations registries.attached key
        record.manifest.capabilities snapshot.tools snapshot.providers = [])) := by
  obtain ⟨-, -, -, hprovides⟩ := snapshotForReload_spec hsnapshot
  rcases hprovides with ⟨-, htools, hproviders⟩ | ⟨hsome, htools, hproviders⟩
  · rw [htools, hproviders]
    rcases registrations_of_none registries key record.manifest.capabilities with hnil | hfirst
    · rw [hnil]
      exact .inr ⟨⟨List.nodup_nil, fun step hstep => by cases hstep⟩, .inr rfl⟩
    · exact .inl hfirst
  · have hup : record.state ∈ loadedStates := by
      by_contra hidle
      exact hsome (hbefore.idle key record h hidle).2
    exact (hrestores hup _ _ htools hproviders).2.imp id fun haccepts => ⟨haccepts, .inl hup⟩

lemma rollback_ordered {run : ReloadRun} (hquiet : QuietReload run)
    {before failed : PluginManager} (hbefore : Ordered host before)
    (h : Dict.get? before.records key = some record)
    (ho : Ordered host failed) (hfailed : Dict.get? failed.records key = some record')
    (hdown : record'.state ∉ loadedStates) (hmanifest : record'.manifest = record.manifest)
    (hothers : ∀ k other, before.Up k other → k ≠ key → failed.Up k other)
    (hrestores : Restores key record run failed.registries) {snapshot : ReloadSnapshot}
    (hsnapshot : snapshotForReload record run = .ok snapshot) :
    Ordered host (failed.rollbackReload key snapshot) := by
  obtain ⟨hstate, hcontributions, hplugin, -⟩ := snapshotForReload_spec hsnapshot
  -- the names of the old instance are free
  have hfree : failed.registries.unregister snapshot.contributions = failed.registries := by
    rw [hcontributions]
    by_cases hup : record.state ∈ loadedStates
    · obtain ⟨tools, htools⟩ := hquiet.tools
      obtain ⟨providers, hproviders⟩ := hquiet.providers
      exact unregister_eq_self (hrestores hup tools providers htools hproviders).1
    · rw [(hbefore.idle key record h hup).1]
      rfl
  unfold rollbackReload
  rw [hfailed]
  dsimp only
  rw [hfree, hmanifest]
  have hsteps := rollback_registers hbefore h hrestores hsnapshot
  cases hrun : failed.registries.register (registrations failed.registries.attached key
      record.manifest.capabilities snapshot.tools snapshot.providers) with
  | mk fault registries =>
      have hregistries : registries = (failed.registries.register (registrations
          failed.registries.attached key record.manifest.capabilities snapshot.tools
            snapshot.providers)).2 := by
        rw [hrun]
      let middle : PluginManager := { failed with registries := registries }
      rcases hsteps with hfirst | ⟨haccepts, hstands⟩
      · obtain ⟨hraised, hsame⟩ := register_of_refusesFirst hfirst
        cases fault with
        | none =>
            rw [hrun] at hraised
            exact absurd rfl hraised
        | some fault =>
            have hput := (puts_modify ho.keyed hfailed
              (f := fun record => failedRecord record (some ("Rollback failed: " ++ fault.text)))
              rfl)
            have hmiddle : middle = failed := by
              rw [hsame] at hregistries
              exact congrArg (fun r => ({ failed with registries := r } : PluginManager))
                hregistries
            change Ordered host (middle.modify key _)
            rw [hmiddle]
            exact ho.put hput (registries_modify _ _ _) hfailed (kept_failedRecord hdown _)
      · have hnone := PluginRegistries.register_fault_eq_none_iff.mpr haccepts
        rw [hrun] at hnone
        obtain rfl : fault = none := hnone
        have hkeyed : Dict.KeyedBy PluginRecord.key middle.records := ho.keyed
        have hput : Puts failed (middle.modify key _) key _ :=
          (puts_modify hkeyed hfailed (f := fun record' =>
            { record' with
              contributions := (registrations failed.registries.attached key
                  record.manifest.capabilities snapshot.tools snapshot.providers).map
                    Registration.contribution
              plugin := snapshot.plugin
              error := none
              state := snapshot.state }) rfl).congr rfl rfl
                (requireExplicitEnable_modify middle key _)
        by_cases hup : record.state ∈ loadedStates
        · refine ho.join hput hfailed hdown (by rw [hmanifest]) haccepts
            ((registries_modify middle key _).trans hregistries) rfl (hstate ▸ hup) rfl
            fun dependency hmem => ?_
          rw [hmanifest] at hmem
          obtain ⟨k, other, hother, hsat⟩ :=
            hbefore.provided key record ⟨h, hup⟩ dependency hmem
          by_cases hk : k = key
          · subst hk
            obtain rfl := Option.some.inj (h.symm.trans hother.1)
            exact .inl ((satisfiedBy_congr hmanifest).trans hsat)
          · exact .inr ⟨k, other, hothers k other hother hk, hsat⟩
        · have hnil := hstands.resolve_left hup
          rw [hnil] at hput
          have hidle := ho.idle key record' hfailed hdown
          have hkept : Kept record' { record' with
              contributions := ([] : List Registration).map Registration.contribution
              plugin := snapshot.plugin
              error := none
              state := snapshot.state } := by
            refine ⟨rfl, hidle.1.symm, ?_, ?_, ?_⟩
            · exact (hplugin.trans (hbefore.idle key record h hup).2).trans hidle.2.symm
            · exact iff_of_false (hstate ▸ hup) hdown
            · exact hstate ▸ hbefore.settled key record h
          refine ho.put (hnil ▸ hput) ((registries_modify middle key _).trans ?_) hfailed hkept
          rw [hnil] at hregistries
          exact hregistries

lemma unload_down (ho : Ordered host manager)
    (h : Dict.get? manager.records key = some record)
    (hnone : (manager.unload key none).1 = none) :
    (∃ record', Dict.get? (manager.unload key none).2.records key = some record' ∧
        record'.state ∉ loadedStates ∧ record'.manifest = record.manifest) ∧
      ∀ k other, manager.Up k other → k ≠ key → (manager.unload key none).2.Up k other := by
  rcases unload_result ho.keyed h with ⟨hsame, hunloaded⟩ | ⟨-, -, -, hput⟩
  · rw [hsame]
    refine ⟨⟨record, h, ?_, rfl⟩, fun _ _ hup _ => hup⟩
    rw [hunloaded hnone]
    decide
  · exact ⟨⟨_, hput.self, (by decide : PluginState.unloaded ∉ loadedStates), rfl⟩,
      fun k other hup hk => (up_other hput hk).mpr hup⟩

lemma reload_ordered {run : ReloadRun} (ho : Ordered host manager) (hquiet : QuietReload run)
    (hdeparts : manager.Departs key)
    (hsound : ∀ record, Dict.get? manager.records key = some record →
      (manager.unload key none).2.LoadSound run.loads (Restores key record run) key true)
    (depth : ℕ) : Ordered host (reload resolvePlugins depth manager key run).2 := by
  unfold reload
  split
  · exact ho
  · rename_i record h
    split
    · exact ho
    · split
      · exact ho
      · rename_i snapshot hsnapshot
        rw [hquiet.stop]
        have hunloaded := unload_ordered ho h hdeparts
        have hdown := unload_down ho h
        have hsound := hsound record h
        cases hunload : manager.unload key none with
        | mk fault withdrawn =>
            rw [hunload] at hunloaded hdown hsound
            cases fault with
            | some fault => exact hunloaded
            | none =>
                obtain ⟨⟨record', hrecord', hstate, hmanifest⟩, hothers⟩ := hdown rfl
                have hends := load_ends hunloaded hrecord' hquiet.loads hsound depth
                have hextends : Extends withdrawn
                    (load resolvePlugins run.loads depth withdrawn key).2 :=
                  extends_load depth withdrawn key
                dsimp only
                cases hload : load resolvePlugins run.loads depth withdrawn key with
                | mk raised failed =>
                    rw [hload] at hends hextends
                    cases raised with
                    | none => exact hends.ordered
                    | some fault =>
                        cases fault with
                        | load error =>
                            obtain ⟨record'', hrecord'', hsame⟩ := hextends.records key _ hrecord'
                            have hdown'' : record''.state ∉ loadedStates :=
                              hends.down (Option.some_ne_none _) (fun r hr => by
                                obtain rfl := Option.some.inj (hrecord'.symm.trans hr)
                                exact hstate) record'' hrecord''
                            exact rollback_ordered hquiet ho h hends.ordered hrecord'' hdown''
                              (hsame.trans hmanifest)
                              (fun k other hup hk => hends.up k other (hothers k other hup hk))
                              (hends.halted error rfl) hsnapshot
                        | _ => exact hends.ordered

/-! ## Every operation -/

lemma callHook_ordered (ho : Ordered host manager)
    (h : Dict.get? manager.records key = some record) (hup : record.state ∈ loadedStates)
    (call : LifecycleCall) {state : PluginState} (hstate : state ∈ loadedStates) :
    Ordered host (manager.callHook key record call none state).2 := by
  have hsettled : state ≠ .loading := by
    rintro rfl
    exact absurd hstate (by decide)
  have hkept : Kept record { record with state := state } :=
    ⟨rfl, rfl, rfl, iff_of_true hstate hup, hsettled⟩
  unfold callHook
  split
  · exact ho.put (puts_modify ho.keyed h rfl) (registries_modify _ _ _) h hkept
  · rename_i plugin hplugin
    let called : PluginManager :=
      { manager with lastCall := Dict.set manager.lastCall plugin call }
    have hkeyed : Dict.KeyedBy PluginRecord.key called.records := ho.keyed
    have hput : Puts called (called.modify key fun record => { record with state := state }) key
        { record with state := state } := puts_modify hkeyed h rfl
    exact ho.put (hput.congr rfl rfl (requireExplicitEnable_modify called key _))
      (registries_modify called key _) h hkept

lemma register_ordered (ho : Ordered host manager) (manifest : PluginManifest) :
    Ordered host (manager.register manifest).2 := by
  unfold register
  split
  · exact ho
  · rename_i hnone
    let after : PluginManager := { manager with
      records := Dict.set manager.records manifest.key { manifest := manifest } }
    have hold : ∀ k r, Dict.get? after.records k = some r →
        Dict.get? manager.records k = some r ∨
          (r.state = .registered ∧ r.contributions = [] ∧ r.plugin = none) := by
      intro k r hr
      change Dict.get? (Dict.set manager.records _ _) k = some r at hr
      rw [Dict.get?_set] at hr
      split at hr
      · obtain rfl := Option.some.inj hr
        exact .inr ⟨rfl, rfl, rfl⟩
      · exact .inl hr
    have hkeeps : ∀ k r, Dict.get? manager.records k = some r →
        Dict.get? after.records k = some r := by
      intro k r hr
      refine (Dict.get?_set_of_ne ?_ _ _).trans hr
      rintro rfl
      rw [hnone] at hr
      cases hr
    have hup : ∀ k r, after.Up k r → manager.Up k r := by
      rintro k r ⟨hr, hstate⟩
      rcases hold k r hr with hr | ⟨hnew, -⟩
      · exact ⟨hr, hstate⟩
      · rw [hnew] at hstate
        exact absurd hstate (by decide)
    refine ⟨ho.keyed.set rfl, fun k r hr => ?_, fun k r hr hidle => ?_, fun k r hr c hc => ?_,
      fun k r hr => ho.held k r (hup k r hr), ho.hosted, fun place entry hentry => ?_,
      fun k k' r r' hr hr' hne c hc c' hc' => ?_, fun k r hr dependency hmem => ?_⟩
    · rcases hold k r hr with hr | ⟨hnew, -⟩
      · exact ho.settled k r hr
      · rw [hnew]
        decide
    · rcases hold k r hr with hr | ⟨-, hnew⟩
      · exact ho.idle k r hr hidle
      · exact hnew
    · rcases hold k r hr with hr | ⟨-, hnew, -⟩
      · exact ho.attached k r hr c hc
      · rw [hnew] at hc
        cases hc
    · rcases ho.listed place entry hentry with hhost | ⟨k, r, ⟨hr, hstate⟩, hrest⟩
      · exact .inl hhost
      · exact .inr ⟨k, r, ⟨hkeeps k r hr, hstate⟩, hrest⟩
    · rcases hold k r hr with hr | ⟨-, hnew, -⟩
      · rcases hold k' r' hr' with hr' | ⟨-, hnew', -⟩
        · exact ho.apart k k' r r' hr hr' hne c hc c' hc'
        · rw [hnew'] at hc'
          cases hc'
      · rw [hnew] at hc
        cases hc
    · obtain ⟨k', r', hr', hsat⟩ := ho.provided k r (hup k r hr) dependency hmem
      exact ⟨k', r', ⟨hkeeps k' r' hr'.1, hr'.2⟩, hsat⟩

omit [Casing] in
lemma updatePlugin_raises (manager : PluginManager) (key : String) (manifest : PluginManifest)
    (check : UpdateCheck) : (manager.updatePlugin key manifest check).1 ≠ none ∧
      (manager.updatePlugin key manifest check).2 = manager := by
  have hversion : ∃ fault, manager.checkPluginApiVersion manifest.key = .error fault := by
    unfold checkPluginApiVersion
    split
    · exact ⟨_, rfl⟩
    · exact ⟨_, rfl⟩
  obtain ⟨fault, hfault⟩ := hversion
  unfold updatePlugin
  split
  · exact ⟨Option.some_ne_none _, rfl⟩
  · split
    · exact ⟨Option.some_ne_none _, rfl⟩
    · split
      · exact ⟨Option.some_ne_none _, rfl⟩
      · exact ⟨Option.some_ne_none _, rfl⟩
      · rw [hfault]
        exact ⟨Option.some_ne_none _, rfl⟩

lemma perform_ordered (depth : ℕ) {op : LifecycleOp} (ho : Ordered host manager)
    (hquiet : Quiet op) (hsound : manager.Sound op) :
    Ordered host (manager.perform depth op).2 := by
  cases op with
  | register manifest => exact register_ordered ho manifest
  | load key loads autoLoad =>
      cases autoLoad with
      | false => exact loadAlone_ordered ho (hquiet key) hsound
      | true =>
          cases h : Dict.get? manager.records key with
          | none =>
              change Ordered host (load resolvePlugins loads depth manager key).2
              rw [load_of_missing h]
              exact ho
          | some record =>
              have hload : manager.LoadSound loads (fun _ => True) key true := hsound
              exact (load_ends ho h hquiet hload depth).ordered
  | unload key stop =>
      obtain rfl : stop = none := hquiet
      cases h : Dict.get? manager.records key with
      | none =>
          change Ordered host (manager.unload key none).2
          rw [unload_of_missing h]
          exact ho
      | some record => exact unload_ordered ho h hsound
  | reload key run => exact reload_ordered ho hquiet hsound.1 hsound.2 depth
  | activate key loads start =>
      obtain ⟨hquiet, rfl⟩ := hquiet
      change Ordered host (manager.activate depth key loads none).2
      unfold activate
      split
      · exact ho
      · rename_i record h
        split
        · exact ho
        · rename_i hactive
          split
          · rename_i hstate
            exact (load_ends ho h hquiet (hsound record h hstate) depth).ordered
          · split
            · exact ho
            · rename_i hloaded
              have hstate := not_not.mp hloaded
              exact callHook_ordered ho h (hstate ▸ by decide) .start (by decide)
  | deactivate key stop =>
      obtain rfl : stop = none := hquiet
      change Ordered host (manager.deactivate key none).2
      unfold deactivate
      split
      · exact ho
      · rename_i record h
        split
        · exact ho
        · rename_i hactive
          have hstate := not_not.mp hactive
          exact callHook_ordered ho h (hstate ▸ by decide) .stop (by decide)
  | install key =>
      change Ordered host (manager.install key).2
      unfold install
      split
      · exact ho
      · rename_i record h
        split
        · exact ho
        · rename_i hstate
          have hdown : record.state ∉ loadedStates := fun hmem =>
            hstate (List.mem_cons_of_mem _ (List.mem_cons_of_mem _ hmem))
          exact ho.rename h hdown rfl rfl rfl (by decide : PluginState.installed ∉ loadedStates)
            (by decide : PluginState.installed ≠ .loading)
  | enable key =>
      change Ordered host (manager.enable key).2
      unfold enable
      split
      · exact ho
      · rename_i record h
        split
        · exact ho
        · split
          · exact ho
          · rename_i henabled
            have hdown : record.state ∉ loadedStates := fun hmem =>
              henabled (hsound record ⟨h, hmem⟩)
            exact ho.rename h hdown rfl rfl rfl (by decide : PluginState.enabled ∉ loadedStates)
              (by decide : PluginState.enabled ≠ .loading)
  | disable key inLoop stop =>
      obtain rfl : stop = none := hquiet
      change Ordered host (manager.disable key inLoop none).2
      unfold disable
      split
      · exact ho
      · rename_i record h
        split
        · exact ho
        · rename_i henabled
          have hdeparts : inLoop = false → manager.Departs key := fun hloop =>
            hsound hloop fun other hother => by
              obtain rfl := Option.some.inj (h.symm.trans hother)
              simpa using henabled
          obtain ⟨hordered, hdown⟩ := unloadFirst_ordered ho h inLoop hdeparts
          cases hfirst : manager.unloadFirst key record inLoop none with
          | mk fault after =>
              rw [hfirst] at hordered hdown
              cases fault with
              | some fault => exact hordered
              | none =>
                  obtain ⟨record', hrecord', hstate⟩ := hdown rfl
                  exact hordered.rename hrecord' hstate rfl rfl rfl
                    (by decide : PluginState.disabled ∉ loadedStates)
                    (by decide : PluginState.disabled ≠ .loading)
  | uninstall key inLoop stop =>
      obtain rfl : stop = none := hquiet
      change Ordered host (manager.uninstall key inLoop none).2
      unfold uninstall
      split
      · exact ho
      · rename_i record h
        obtain ⟨hordered, hdown⟩ := unloadFirst_ordered ho h inLoop hsound
        cases hfirst : manager.unloadFirst key record inLoop none with
        | mk fault after =>
            rw [hfirst] at hordered hdown
            cases fault with
            | some fault => exact hordered
            | none =>
                obtain ⟨record', hrecord', hstate⟩ := hdown rfl
                exact hordered.rename hrecord' hstate rfl rfl rfl
                  (by decide : PluginState.uninstalled ∉ loadedStates)
                  (by decide : PluginState.uninstalled ≠ .loading)
  | updatePlugin key manifest check =>
      change Ordered host (manager.updatePlugin key manifest check).2
      rw [(updatePlugin_raises manager key manifest check).2]
      exact ho
  | track tools =>
      exact ⟨ho.keyed, ho.settled, ho.idle, ho.attached, ho.held, ho.hosted, ho.listed, ho.apart,
        ho.provided⟩

/-- In every run of the lifecycle in which no hook raises and every operation is sound, the law
holds in every state. -/
theorem lawful_of_guarded {depth : ℕ} {start manager : PluginManager} {ops : List LifecycleOp}
    (hempty : start.records = []) (hquiet : ∀ op ∈ ops, Quiet op)
    (hsound : (lifecycle depth).Guarded Sound start ops)
    (hrun : (lifecycle depth).run start ops = some manager) :
    Lawful start.registries.entries manager := by
  have hguard : (lifecycle depth).Guarded (fun m op => Quiet op ∧ Sound m op) start ops := by
    clear hrun hempty
    induction ops generalizing start with
    | nil => trivial
    | cons op rest ih =>
        exact ⟨⟨hquiet op List.mem_cons_self, hsound.1⟩, fun t ht =>
          ih (fun op' hop' => hquiet op' (List.mem_cons_of_mem op hop')) (hsound.2 t ht)⟩
  refine Ordered.lawful ((lifecycle depth).guarded_invariant ?_ (ordered_of_empty hempty) hguard
    hrun)
  rintro m op t ho ⟨hquiet, hsound⟩ hstep
  obtain rfl := Option.some.inj hstep
  exact perform_ordered depth ho hquiet hsound

end

end

/-! ### A plugin with one tool -/

section

attribute [local instance] Casing.ascii

/-- A host without plugins. -/
def sampleHost : PluginManager := {}

/-- The plugin is registered and loaded. -/
def sampleOps : List LifecycleOp :=
  [.register { id := "p" }, .load "p@1.0.0" (fun _ => sampleRun none) true]

lemma quietRun_sample : QuietRun (sampleRun none) where
  instantiate fault h := by cases h
  identity := ⟨_, rfl⟩
  validated := .inr ⟨_, rfl⟩
  tools := ⟨_, rfl⟩
  providers := ⟨_, rfl⟩
  start := rfl

/-- The plugin is loaded and deactivated, and the law holds. -/
theorem lawful_of_guarded_sample :
    ∃ manager, (lifecycle 2).run sampleHost (sampleOps ++ [.deactivate "p@1.0.0" none]) =
        some manager ∧ Lawful [] manager ∧ manager.isLoaded "p@1.0.0" = true := by
  have hquiet : ∀ op ∈ sampleOps ++ [.deactivate "p@1.0.0" none], Quiet op := by
    intro op hop
    simp only [sampleOps, List.cons_append, List.nil_append, List.mem_cons, List.not_mem_nil,
      or_false] at hop
    rcases hop with rfl | rfl | rfl
    · trivial
    · exact fun _ => quietRun_sample
    · rfl
  have hsound : (lifecycle 2).Guarded Sound sampleHost
      (sampleOps ++ [.deactivate "p@1.0.0" none]) := by
    refine ⟨trivial, fun t ht => ?_⟩
    obtain rfl := Option.some.inj ht
    refine ⟨fun record hrecord => ?_, fun t' _ => ⟨trivial, fun _ _ => trivial⟩⟩
    obtain rfl := Option.some.inj hrecord
    refine Or.inr ⟨⟨by decide, by decide⟩, fun dependency hmem => ?_, trivial⟩
    cases hmem
  exact ⟨_, rfl, lawful_of_guarded rfl hquiet hsound rfl, rfl⟩

/-- The plugin is loaded, and enabled afterwards: its tool stays registered, and its record does
not show it as loaded. -/
theorem enable_breaks_law :
    ∃ manager, (lifecycle 2).run sampleHost (sampleOps ++ [.enable "p@1.0.0"]) = some manager ∧
      (∀ op ∈ sampleOps ++ [.enable "p@1.0.0"], Quiet op) ∧ ¬Lawful [] manager := by
  refine ⟨_, rfl, fun op hop => ?_, fun h => ?_⟩
  · simp only [sampleOps, List.cons_append, List.nil_append, List.mem_cons, List.not_mem_nil,
      or_false] at hop
    rcases hop with rfl | rfl | rfl
    · trivial
    · exact fun _ => quietRun_sample
    · trivial
  · have hpresent := h.present "p@1.0.0" _ rfl ⟨.tool, "greet"⟩ List.mem_cons_self
    exact absurd (hpresent.mp ⟨rfl, _, rfl, rfl⟩) (by decide)

end

end PluginManager

end Samaktha
