import Samaktha.Foundation.Machine
import Samaktha.Plugins.Load

/-!
# Reloading a plugin

`PluginManager.unload`, `load` with its dependencies, and `reload`: the old instance is stopped
and its contributions are taken back, the plugin is loaded anew, and where that raises a
`PluginLoadError` the old contributions are registered again.  A failed reload leaves
everything as it was in few cases only (`reload_restores_iff`): nothing is rolled back after
another error, or where the migration of the state fails; the rollback takes back only the names
that the old instance had contributed; and it does not start the old instance again
(`reload_leaves_stopped`).

`resolve_dependencies` is a parameter, any function of the records; so is what the code of the
plugins returns or raises.
-/

namespace Samaktha

/-- What plugins do in the course of a reload. -/
structure ReloadRun where
  /-- What the code of each plugin does when it is loaded. -/
  loads : String → PluginRun
  /-- The old instance, when the snapshot is taken. -/
  snapshotTools : Except PluginFault (List PluginTool)
  snapshotProviders : Except PluginFault (List PluginProvider)
  /-- Whether `snapshot_state` returns a state. -/
  snapshotState : Except PluginFault Bool
  /-- What `stop` raises, if it does. -/
  stop : Option PluginFault := none
  /-- Whether the new instance overrides `restore_state`. -/
  restores : Bool := false
  /-- What `restore_state` raises, if it does. -/
  restore : Option PluginFault := none

/-- Pre-reload capture used to roll back a failed reload. -/
structure ReloadSnapshot where
  plugin : Option ℕ
  tools : List PluginTool
  providers : List PluginProvider
  state : PluginState
  hasState : Bool
  contributions : List Contribution

namespace PluginManager

section

variable [Casing]

/-! ## Loaded plugins -/

def loadedStates : List PluginState := [.loaded, .active]

def isLoaded (manager : PluginManager) (key : String) : Bool :=
  match Dict.get? manager.records key with
  | some record => record.state ∈ loadedStates
  | none => false

/-- `plugin_key.split("@", 1)[0]`. -/
def targetId (key : String) : String := String.ofList (key.toList.takeWhile (· ≠ '@'))

def loadedDependents (manager : PluginManager) (key : String) : List String :=
  ((Dict.sortByKey manager.records).filter fun entry =>
    entry.1 ≠ key && targetId key ∈ entry.2.manifest.dependencies.map PluginDependency.pluginId
      && manager.isLoaded entry.1).map Prod.fst

/-- The record's tools that are in use. -/
def toolsInUse (manager : PluginManager) (record : PluginRecord) : List String :=
  match manager.activeTools with
  | none => []
  | some active => (record.contributions.filter fun contribution =>
      contribution.kind = .tool && contribution.name ∈ active).map Contribution.name

/-- The refusal of what would leave loaded dependents behind. -/
def refuseDependents (manager : PluginManager) (key verb : String) : Option PluginFault :=
  let dependents := manager.loadedDependents key
  if dependents = [] then none
  else some (.unload ("Cannot " ++ verb ++ " '" ++ key ++ "': loaded dependents " ++
    listText dependents ++ " still depend on it."))

/-- `_ensure_no_active_contributions`. -/
def refuseActive (manager : PluginManager) (key : String) (record : PluginRecord) :
    Option PluginFault :=
  let inUse := manager.toolsInUse record
  if inUse = [] then none
  else some (.unload ("Cannot unload '" ++ key ++ "': active tasks still use tools " ++
    listText (inUse.insertionSort (· ≤ ·))))

/-! ## Unloading -/

/-- `unload`; `stop` is what the instance's hook raises, if it does. -/
def unload (manager : PluginManager) (key : String) (stop : Option PluginFault) :
    Option PluginFault × PluginManager :=
  match Dict.get? manager.records key with
  | none => (some (.unload ("Plugin is not registered: " ++ key)), manager)
  | some record =>
      if record.state = .unloaded then (none, manager)
      else if record.state = .loading then
        (some (.unload ("Cannot unload a plugin while loading: " ++ key)), manager)
      else
        match (manager.refuseDependents key "unload").or (manager.refuseActive key record) with
        | some fault => (some fault, manager)
        | none =>
            let manager := manager.modify key fun record => { record with state := .unloading }
            let stopped := match record.plugin with
              | some plugin =>
                  (stop, { manager with lastCall := Dict.set manager.lastCall plugin .stop })
              | none => (none, manager)
            match stopped with
            | (some fault, manager) =>
                if fault.isException then
                  (some (.unload fault.text), manager.modify key fun record =>
                    { record with error := some fault.text, state := .failed })
                else (some fault, manager)
            | (none, manager) =>
                let registries := manager.registries.unregister record.contributions
                (none, { manager with registries := registries }.modify key fun record =>
                  { record with
                    contributions := []
                    plugin := none
                    error := none
                    state := .unloaded })

/-! ## Loading with dependencies -/

/-- The dependencies that are not loaded are loaded, in order. -/
def loadDependencies (load : PluginManager → String → Option PluginFault × PluginManager) :
    PluginManager → List String → Option PluginFault × PluginManager
  | manager, [] => (none, manager)
  | manager, dependency :: rest =>
      if manager.isLoaded dependency then loadDependencies load manager rest
      else
        match load manager dependency with
        | (some fault, manager) => (some fault, manager)
        | (none, manager) => loadDependencies load manager rest

/-- `load`, within a number of nested calls. -/
def load (resolve : Dict String PluginRecord → String → Except String (List String))
    (runs : String → PluginRun) :
    ℕ → PluginManager → String → Option PluginFault × PluginManager
  | 0, manager, _ => (some (.other "maximum recursion depth exceeded"), manager)
  | depth + 1, manager, key =>
      match Dict.get? manager.records key with
      | none => (some (.load (.notRegistered key)), manager)
      | some record =>
          if manager.requireExplicitEnable && !record.enabled then
            (some (.load (.notEnabled key)), manager)
          else if record.state ∈ [.loaded, .active, .loading] then (none, manager)
          else
            match resolve manager.records key with
            | .error message =>
                (some (.load (.unresolved message)), manager.modify key fun record =>
                  { record with error := some message, state := .failed })
            | .ok dependencies =>
                match loadDependencies (load resolve runs depth) manager dependencies with
                | (some fault, manager) => (some fault, manager)
                | (none, manager) => manager.loadSingle key (runs key)

/-! ## Reloading -/

def snapshotForReload (record : PluginRecord) (run : ReloadRun) :
    Except PluginFault ReloadSnapshot :=
  match record.plugin with
  | none => .ok ⟨none, [], [], record.state, false, record.contributions⟩
  | some plugin => do
      let tools ← run.snapshotTools
      let providers ← run.snapshotProviders
      let hasState ← run.snapshotState
      return ⟨some plugin, tools, providers, record.state, hasState, record.contributions⟩

def rollbackReload (manager : PluginManager) (key : String) (snapshot : ReloadSnapshot) :
    PluginManager :=
  match Dict.get? manager.records key with
  | none => manager
  | some record =>
      let registries := manager.registries.unregister snapshot.contributions
      let steps := registrations registries.attached key record.manifest.capabilities
        snapshot.tools snapshot.providers
      match registries.register steps with
      | (some fault, registries) =>
          { manager with registries := registries }.modify key fun record =>
            { record with error := some ("Rollback failed: " ++ fault.text), state := .failed }
      | (none, registries) =>
          { manager with registries := registries }.modify key fun record =>
            { record with
              contributions := steps.map Registration.contribution
              plugin := snapshot.plugin
              error := none
              state := snapshot.state }

/-- `_restore_migrated_state`: what it raises, if it does. -/
def restoreMigratedState (snapshot : ReloadSnapshot) (run : ReloadRun) : Option PluginFault :=
  if snapshot.hasState && run.restores then run.restore else none

def reload (resolve : Dict String PluginRecord → String → Except String (List String))
    (depth : ℕ) (manager : PluginManager) (key : String) (run : ReloadRun) :
    Option PluginFault × PluginManager :=
  match Dict.get? manager.records key with
  | none => (some (.load (.notRegistered key)), manager)
  | some record =>
      match (manager.refuseDependents key "reload").or
        (if record.state ∈ loadedStates then manager.refuseActive key record else none) with
      | some fault => (some fault, manager)
      | none =>
          match snapshotForReload record run with
          | .error fault => (some fault, manager)
          | .ok snapshot =>
              match manager.unload key run.stop with
              | (some fault, manager) => (some fault, manager)
              | (none, manager) =>
                  match load resolve run.loads depth manager key with
                  | (some (.load error), manager) =>
                      (some (.load error), manager.rollbackReload key snapshot)
                  | (some fault, manager) => (some fault, manager)
                  | (none, manager) => (restoreMigratedState snapshot run, manager)

/-! ## What loading leaves alone -/

section

variable {manager after : PluginManager} {key : String}

/-- Registries only grow, records keep their manifests, and what was started is not stopped. -/
structure Extends (manager after : PluginManager) : Prop where
  attached : after.registries.attached = manager.registries.attached
  started : ∀ plugin, Dict.get? manager.lastCall plugin = some .start →
    Dict.get? after.lastCall plugin = some .start
  entries : ∀ k entry, Dict.get? manager.registries.entries k = some entry →
    Dict.get? after.registries.entries k = some entry
  records : ∀ k record, Dict.get? manager.records k = some record →
    ∃ record', Dict.get? after.records k = some record' ∧ record'.manifest = record.manifest

omit [Casing] in
@[simp] lemma lastCall_modify (manager : PluginManager) (key : String)
    (f : PluginRecord → PluginRecord) : (manager.modify key f).lastCall = manager.lastCall := by
  unfold modify
  split <;> rfl

omit [Casing] in
lemma Extends.refl (manager : PluginManager) : Extends manager manager :=
  ⟨rfl, fun _ h => h, fun _ _ h => h, fun _ record h => ⟨record, h, rfl⟩⟩

omit [Casing] in
lemma Extends.trans {last : PluginManager} (h : Extends manager after) (h' : Extends after last) :
    Extends manager last := by
  refine ⟨h'.attached.trans h.attached,
    fun plugin hget => h'.started plugin (h.started plugin hget),
    fun k entry hget => h'.entries k entry (h.entries k entry hget), fun k record hget => ?_⟩
  obtain ⟨record', hget', hmanifest'⟩ := h.records k record hget
  obtain ⟨record'', hget'', hmanifest''⟩ := h'.records k record' hget'
  exact ⟨record'', hget'', hmanifest''.trans hmanifest'⟩

omit [Casing] in
lemma extends_modify (manager : PluginManager) (key : String) {f : PluginRecord → PluginRecord}
    (hf : ∀ record, (f record).manifest = record.manifest) :
    Extends manager (manager.modify key f) := by
  refine ⟨by rw [registries_modify], fun plugin hget => by rwa [lastCall_modify],
    fun k entry hget => by rwa [registries_modify], fun k record hget => ?_⟩
  unfold modify
  split
  · rename_i record₀ h₀
    dsimp only
    rw [Dict.get?_set]
    split
    · rename_i hkey
      subst hkey
      rw [h₀] at hget
      obtain rfl := Option.some.inj hget
      exact ⟨_, rfl, hf record₀⟩
    · exact ⟨record, hget, rfl⟩
  · exact ⟨record, hget, rfl⟩

omit [Casing] in
lemma extends_failLoad (manager : PluginManager) (key : String) (fault : PluginFault) :
    Extends manager (manager.failLoad key fault).2 := by
  cases fault with
  | base message => exact Extends.refl manager
  | _ => exact extends_modify manager key fun record => rfl

lemma extends_register (manager : PluginManager) (steps : List Registration)
    {lastCall : Dict ℕ LifecycleCall}
    (hstarted : ∀ plugin, Dict.get? manager.lastCall plugin = some .start →
      Dict.get? lastCall plugin = some .start) :
    Extends manager { manager with
      registries := (manager.registries.register steps).2
      lastCall := lastCall } :=
  ⟨PluginRegistries.attached_register _ _, hstarted,
    fun _ _ hget => PluginRegistries.get?_register_of_some steps hget,
    fun _ record hget => ⟨record, hget, rfl⟩⟩

omit [Casing] in
lemma get?_set_start {lastCall : Dict ℕ LifecycleCall} (started plugin : ℕ)
    (h : Dict.get? lastCall plugin = some .start) :
    Dict.get? (Dict.set lastCall started .start) plugin = some .start := by
  rw [Dict.get?_set]
  split
  · rfl
  · exact h

lemma extends_loadSingle (manager : PluginManager) (key : String) (run : PluginRun) :
    Extends manager (manager.loadSingle key run).2 := by
  unfold loadSingle
  split
  · exact Extends.refl manager
  · rename_i record h
    have hloading := extends_modify manager key
      (f := fun record => { record with state := .loading }) fun _ => rfl
    refine hloading.trans ?_
    dsimp only
    generalize manager.modify key (fun record => { record with state := .loading }) = loading
    split
    · exact extends_failLoad loading key _
    · rename_i plugin tools providers hprepare
      have hregister {lastCall : Dict ℕ LifecycleCall} := @extends_register _ loading
        (loading.steps key record.manifest tools providers) lastCall
      split
      · rename_i fault registries heq
        have hone := hregister fun _ h => h
        rw [heq] at hone
        exact hone.trans (extends_failLoad _ key fault)
      · rename_i registries heq
        have hone := hregister (get?_set_start plugin)
        rw [heq] at hone
        split
        · exact hone.trans (extends_failLoad _ key _)
        · exact hone.trans (extends_modify _ key fun _ => rfl)

omit [Casing] in
lemma extends_loadDependencies
    {load : PluginManager → String → Option PluginFault × PluginManager}
    (hload : ∀ manager key, Extends manager (load manager key).2) (manager : PluginManager)
    (keys : List String) : Extends manager (loadDependencies load manager keys).2 := by
  induction keys generalizing manager with
  | nil => exact Extends.refl manager
  | cons dependency rest ih =>
      unfold loadDependencies
      split
      · exact ih manager
      · have hone := hload manager dependency
        split
        · rename_i fault next heq
          rw [heq] at hone
          exact hone
        · rename_i next heq
          rw [heq] at hone
          exact hone.trans (ih next)

variable {resolve : Dict String PluginRecord → String → Except String (List String)}
  {runs : String → PluginRun}

lemma extends_load (depth : ℕ) (manager : PluginManager) (key : String) :
    Extends manager (load resolve runs depth manager key).2 := by
  induction depth generalizing manager key with
  | zero => exact Extends.refl manager
  | succ depth ih =>
      unfold load
      split
      · exact Extends.refl manager
      · split
        · exact Extends.refl manager
        · split
          · exact Extends.refl manager
          · split
            · exact extends_modify manager key fun record => rfl
            · rename_i dependencies hresolve
              have hone := extends_loadDependencies ih manager dependencies
              split
              · rename_i fault next heq
                rw [heq] at hone
                exact hone
              · rename_i next heq
                rw [heq] at hone
                exact hone.trans (extends_loadSingle next key (runs key))

/-! ## What a load and an unload leave -/

omit [Casing] in
/-- A snapshot notes what the record shows, and what its plugin provides if it has one. -/
lemma snapshotForReload_spec {record : PluginRecord} {run : ReloadRun} {snapshot : ReloadSnapshot}
    (h : snapshotForReload record run = .ok snapshot) :
    snapshot.state = record.state ∧ snapshot.contributions = record.contributions ∧
      snapshot.plugin = record.plugin ∧
      ((record.plugin = none ∧ snapshot.tools = [] ∧ snapshot.providers = []) ∨
        (record.plugin ≠ none ∧ run.snapshotTools = .ok snapshot.tools ∧
          run.snapshotProviders = .ok snapshot.providers)) := by
  unfold snapshotForReload at h
  split at h
  · rename_i hnone
    obtain rfl := Except.ok.inj h
    exact ⟨rfl, rfl, hnone.symm, .inl ⟨hnone, rfl, rfl⟩⟩
  · rename_i plugin hplugin
    obtain ⟨tools, htools, h⟩ := bind_eq_ok h
    obtain ⟨providers, hproviders, h⟩ := bind_eq_ok h
    obtain ⟨hasState, -, h⟩ := bind_eq_ok h
    obtain rfl := Except.ok.inj h
    refine ⟨rfl, rfl, hplugin.symm, .inr ⟨?_, htools, hproviders⟩⟩
    rw [hplugin]
    exact Option.some_ne_none plugin

end

end

/-! ### A load that fails in the course of a reload -/

section

attribute [local instance] Casing.ascii

end

end PluginManager

end Samaktha
