import Samaktha.Foundation.Machine
import Samaktha.Plugins.Dependencies
import Samaktha.Plugins.Reload

/-!
# The lifecycle of plugins

The operations of `PluginManager` that change the state of a record, as the moves of a machine:
besides `load`, `unload` and `reload` these are `register`, `activate`, `deactivate`, `install`,
`uninstall`, `enable`, `disable` and `update_plugin`.

`Lawful` says what a manager is for: what is registered, apart from the host's own, is what the
plugins that are up have contributed; their dependencies are up; no contribution is listed twice.
Three operations can break it (`Sound` says where): `enable` overwrites the state of a plugin that
is up, a load leaves behind what it registered before it failed, and a plugin is loaded without
the dependencies that were not resolved.

What the code of the plugins returns is a parameter of each operation, and so is what their hooks
raise.  `update_plugin` always raises: it imports a name that `app.plugins.models` does not have.
-/

namespace Samaktha

def PluginState.text : PluginState → String
  | discovered => "discovered"
  | registered => "registered"
  | loading => "loading"
  | loaded => "loaded"
  | active => "active"
  | unloading => "unloading"
  | unloaded => "unloaded"
  | disabled => "disabled"
  | failed => "failed"
  | installing => "installing"
  | installed => "installed"
  | uninstalling => "uninstalling"
  | uninstalled => "uninstalled"
  | enabled => "enabled"

structure UpdateCheck where
  /-- The errors of `validate_manifest`. -/
  errors : List String
  /-- `check_compatibility` of the manifest that is registered under the new key. -/
  compatible : Except PluginFault Bool
  apiVersion : ℕ

/-- An operation of the manager, with what the code of the plugins does in its course. -/
inductive LifecycleOp where
  | register (manifest : PluginManifest)
  | load (key : String) (loads : String → PluginRun) (autoLoad : Bool)
  | unload (key : String) (stop : Option PluginFault)
  | reload (key : String) (run : ReloadRun)
  | activate (key : String) (loads : String → PluginRun) (start : Option PluginFault)
  | deactivate (key : String) (stop : Option PluginFault)
  | install (key : String)
  | enable (key : String)
  /-- `inLoop`: an event loop is running. -/
  | disable (key : String) (inLoop : Bool) (stop : Option PluginFault)
  | uninstall (key : String) (inLoop : Bool) (stop : Option PluginFault)
  | updatePlugin (key : String) (manifest : PluginManifest) (check : UpdateCheck)
  /-- Other tools are in use. -/
  | track (tools : Option (List String))

namespace PluginManager

variable [Casing]

/-! ## Operations -/

def listPlugins (records : Dict String PluginRecord) : List PluginRecord :=
  (Dict.sortByKey records).map Prod.snd

def loadedKeys (records : Dict String PluginRecord) : List String :=
  ((listPlugins records).filter fun record => record.state ∈ loadedStates).map PluginRecord.key

/-- `resolve_dependencies` as `load` calls it, with the text of what it raises. -/
def resolvePlugins (records : Dict String PluginRecord) (key : String) :
    Except String (List String) :=
  (Dependencies.resolveDependencies (listPlugins records) key (loadedKeys records)).mapError
    DependencyResolutionError.message

/-- `PluginRegistry.register`. -/
def register (manager : PluginManager) (manifest : PluginManifest) :
    Option PluginFault × PluginManager :=
  match Dict.get? manager.records manifest.key with
  | some _ => (some (.registration ("Plugin already registered: " ++ manifest.key)), manager)
  | none => (none, { manager with
      records := Dict.set manager.records manifest.key { manifest := manifest } })

/-- `load` with `auto_load_dependencies=False`. -/
def loadAlone (run : PluginRun) (manager : PluginManager) (key : String) :
    Option PluginFault × PluginManager :=
  match Dict.get? manager.records key with
  | none => (some (.load (.notRegistered key)), manager)
  | some record =>
      if manager.requireExplicitEnable && !record.enabled then
        (some (.load (.notEnabled key)), manager)
      else if record.state ∈ [.loaded, .active, .loading] then (none, manager)
      else
        match resolvePlugins manager.records key with
        | .error message =>
            (some (.load (.unresolved message)), manager.modify key fun record =>
              { record with error := some message, state := .failed })
        | .ok dependencies =>
            match dependencies.find? fun dependency => !manager.isLoaded dependency with
            | some dependency =>
                let message := "Plugin dependency is not loaded: " ++ dependency
                (some (.load (.wrapped message)), manager.modify key fun record =>
                  { record with error := some message, state := .failed })
            | none => manager.loadSingle key run

/-- What `self._registry.get` finds missing. -/
def notRegistered (key : String) : PluginFault := .other ("Plugin is not registered: " ++ key)

/-- A hook is called on the instance, if there is one; then the record shows a state. -/
def callHook (manager : PluginManager) (key : String) (record : PluginRecord)
    (call : LifecycleCall) (raised : Option PluginFault) (state : PluginState) :
    Option PluginFault × PluginManager :=
  match record.plugin with
  | none => (none, manager.modify key fun record => { record with state := state })
  | some plugin =>
      let manager := { manager with lastCall := Dict.set manager.lastCall plugin call }
      match raised with
      | some fault => (some fault, manager)
      | none => (none, manager.modify key fun record => { record with state := state })

def activate (depth : ℕ) (manager : PluginManager) (key : String) (loads : String → PluginRun)
    (start : Option PluginFault) : Option PluginFault × PluginManager :=
  match Dict.get? manager.records key with
  | none => (some (notRegistered key), manager)
  | some record =>
      if record.state = .active then (none, manager)
      else if record.state ∈ [.unloaded, .failed] then
        load resolvePlugins loads depth manager key
      else if record.state ≠ .loaded then
        (some (.other ("Cannot activate plugin in state " ++ record.state.text ++ ": " ++ key)),
          manager)
      else manager.callHook key record .start start .active

def deactivate (manager : PluginManager) (key : String) (stop : Option PluginFault) :
    Option PluginFault × PluginManager :=
  match Dict.get? manager.records key with
  | none => (some (notRegistered key), manager)
  | some record =>
      if record.state ≠ .active then (none, manager)
      else manager.callHook key record .stop stop .loaded

def install (manager : PluginManager) (key : String) : Option PluginFault × PluginManager :=
  match Dict.get? manager.records key with
  | none => (some (notRegistered key), manager)
  | some record =>
      if record.state ∈ [.installed, .enabled, .loaded, .active] then (none, manager)
      else (none, manager.modify key fun record => { record with state := .installed })

def enable (manager : PluginManager) (key : String) : Option PluginFault × PluginManager :=
  match Dict.get? manager.records key with
  | none => (some (notRegistered key), manager)
  | some record =>
      if record.state ∈ [.uninstalled, .uninstalling] then
        (some (.other ("Cannot enable uninstalled plugin: " ++ key)), manager)
      else if record.enabled then (none, manager)
      else (none, manager.modify key fun record =>
        { record with enabled := true, state := .enabled })

/-- `asyncio.run(self.unload(key))` where the plugin is up or being loaded. -/
def unloadFirst (manager : PluginManager) (key : String) (record : PluginRecord) (inLoop : Bool)
    (stop : Option PluginFault) : Option PluginFault × PluginManager :=
  if record.state ∈ [.loaded, .active, .loading] then
    if inLoop then
      (some (.other "asyncio.run() cannot be called from a running event loop"), manager)
    else manager.unload key stop
  else (none, manager)

def disable (manager : PluginManager) (key : String) (inLoop : Bool)
    (stop : Option PluginFault) : Option PluginFault × PluginManager :=
  match Dict.get? manager.records key with
  | none => (some (notRegistered key), manager)
  | some record =>
      if record.enabled = false then (none, manager)
      else
        match manager.unloadFirst key record inLoop stop with
        | (some fault, manager) => (some fault, manager)
        | (none, manager) => (none, manager.modify key fun record =>
            { record with enabled := false, state := .disabled })

def uninstall (manager : PluginManager) (key : String) (inLoop : Bool)
    (stop : Option PluginFault) : Option PluginFault × PluginManager :=
  match Dict.get? manager.records key with
  | none => (some (notRegistered key), manager)
  | some record =>
      match manager.unloadFirst key record inLoop stop with
      | (some fault, manager) => (some fault, manager)
      | (none, manager) =>
          (none, manager.modify key fun record => { record with state := .uninstalled })

def checkCompatibility (manager : PluginManager) (key : String) (check : UpdateCheck) :
    Except PluginFault Bool :=
  match Dict.get? manager.records key with
  | none => .error (notRegistered key)
  | some _ => check.compatible

/-- `check_plugin_api_version`, which imports a name that there is not. -/
def checkPluginApiVersion (manager : PluginManager) (key : String) : Except PluginFault Bool :=
  match Dict.get? manager.records key with
  | none => .error (notRegistered key)
  | some _ => .error (.other
      "cannot import name 'SUPPORTED_PLUGIN_API_VERSIONS' from 'app.plugins.models'")

/-- The end of `update_plugin`: the new manifest takes the place of the old one. -/
def switchManifest (manager : PluginManager) (key : String) (record : PluginRecord)
    (manifest : PluginManifest) : Option PluginFault × PluginManager :=
  match manager.register manifest with
  | (some _, manager) => (some (.load (.wrapped
      ("Plugin with key " ++ manifest.key ++ " already exists"))), manager)
  | (none, manager) =>
      let manager := manager.modify manifest.key fun new =>
        { new with enabled := record.enabled, state := record.state }
      (none, { manager with records := Dict.erase manager.records key })

def updatePlugin (manager : PluginManager) (key : String) (manifest : PluginManifest)
    (check : UpdateCheck) : Option PluginFault × PluginManager :=
  match Dict.get? manager.records key with
  | none => (some (notRegistered key), manager)
  | some record =>
      if check.errors ≠ [] then
        (some (.load (.wrapped ("New manifest invalid: " ++ listText check.errors))), manager)
      else
        match manager.checkCompatibility manifest.key check with
        | .error fault => (some fault, manager)
        | .ok false => (some (.load (.wrapped ("Plugin " ++ manifest.key ++
            " is incompatible with current Samaktha version"))), manager)
        | .ok true =>
            match manager.checkPluginApiVersion manifest.key with
            | .error fault => (some fault, manager)
            | .ok false => (some (.load (.wrapped ("Plugin API version " ++
                toString check.apiVersion ++ " is not supported"))), manager)
            | .ok true => manager.switchManifest key record manifest

/-- One operation; `depth` bounds the nested calls. -/
def perform (depth : ℕ) (manager : PluginManager) :
    LifecycleOp → Option PluginFault × PluginManager
  | .register manifest => manager.register manifest
  | .load key loads true => load resolvePlugins loads depth manager key
  | .load key loads false => manager.loadAlone (loads key) key
  | .unload key stop => manager.unload key stop
  | .reload key run => reload resolvePlugins depth manager key run
  | .activate key loads start => manager.activate depth key loads start
  | .deactivate key stop => manager.deactivate key stop
  | .install key => manager.install key
  | .enable key => manager.enable key
  | .disable key inLoop stop => manager.disable key inLoop stop
  | .uninstall key inLoop stop => manager.uninstall key inLoop stop
  | .updatePlugin key manifest check => manager.updatePlugin key manifest check
  | .track tools => (none, { manager with activeTools := tools })

/-- The manager as a machine. -/
def lifecycle (depth : ℕ) : Machine PluginManager LifecycleOp where
  step manager op := some (manager.perform depth op).2

/-! ## The law -/

/-- The plugin of a key is up. -/
def Up (manager : PluginManager) (key : String) (record : PluginRecord) : Prop :=
  Dict.get? manager.records key = some record ∧ record.state ∈ loadedStates

/-- An entry may come from a plugin: a registered tool names its plugin. -/
def ownedBy (key : String) : RegistryEntry → Prop
  | .tool pluginKey _ => pluginKey = key
  | _ => True

/-- A contribution of a plugin is in its registry, and not one of the host's own. -/
def Held (host : Dict (ContributionKind × String) RegistryEntry) (manager : PluginManager)
    (key : String) (contribution : Contribution) : Prop :=
  Dict.get? host contribution.key = none ∧
    ∃ entry, Dict.get? manager.registries.entries contribution.key = some entry ∧
      ownedBy key entry

/-- What holds between the registries and the records: a listed contribution is held exactly
where the plugin is up, and what is registered beyond the host's own is listed by a plugin that
is up; what a plugin that is up depends on is up; no two records list the same. -/
structure Lawful (host : Dict (ContributionKind × String) RegistryEntry)
    (manager : PluginManager) : Prop where
  present : ∀ key record, Dict.get? manager.records key = some record →
    ∀ contribution ∈ record.contributions,
      Held host manager key contribution ↔ record.state ∈ loadedStates
  listed : ∀ place entry, Dict.get? manager.registries.entries place = some entry →
    Dict.get? host place = some entry ∨
      ∃ key record, manager.Up key record ∧ ownedBy key entry ∧
        ∃ contribution ∈ record.contributions, contribution.key = place
  provided : ∀ key record, manager.Up key record →
    ∀ dependency ∈ record.manifest.dependencies,
      ∃ key' record', manager.Up key' record' ∧ dependency.satisfiedBy record' = true
  disjoint : ∀ key key' record record', Dict.get? manager.records key = some record →
    Dict.get? manager.records key' = some record' → key ≠ key' →
      ∀ contribution ∈ record.contributions, contribution ∉ record'.contributions

/-! ## Hooks that raise nothing -/

/-- A load in which no hook raises; the import may raise an exception. -/
structure QuietRun (run : PluginRun) : Prop where
  instantiate : ∀ fault, run.instantiate = .error fault → fault.isException = true
  identity : ∃ found, run.identity = .ok found
  validated : run.validated = .notAList ∨ ∃ tools, run.validated = .list tools
  tools : ∃ tools, run.tools = .ok tools
  providers : ∃ providers, run.providers = .ok providers
  start : run.start = none

/-- A reload in which no hook raises. -/
structure QuietReload (run : ReloadRun) : Prop where
  loads : ∀ key, QuietRun (run.loads key)
  tools : ∃ tools, run.snapshotTools = .ok tools
  providers : ∃ providers, run.snapshotProviders = .ok providers
  state : ∃ hasState, run.snapshotState = .ok hasState
  stop : run.stop = none
  restore : run.restore = none

/-- An operation in which no hook raises. -/
def Quiet : LifecycleOp → Prop
  | .load _ loads _ => ∀ key, QuietRun (loads key)
  | .unload _ stop => stop = none
  | .reload _ run => QuietReload run
  | .activate _ loads start => (∀ key, QuietRun (loads key)) ∧ start = none
  | .deactivate _ stop => stop = none
  | .disable _ _ stop => stop = none
  | .uninstall _ _ stop => stop = none
  | _ => True

/-! ## Where the law is kept -/

/-- The first of some steps is refused. -/
def RefusesFirst (registries : PluginRegistries) (steps : List Registration) : Prop :=
  ∃ step, steps.head? = some step ∧
    (step.valid = false ∨ Dict.get? registries.entries step.key ≠ none)

/-- The faults that the handlers of `_load_single` raise as a `PluginLoadError`. -/
def loadErrors : PluginFault → Bool
  | .isolation _ => false
  | .registration _ => false
  | .base _ => false
  | _ => true

section

variable (manager : PluginManager) (loads : String → PluginRun)
  (stopped : PluginRegistries → Prop)

/-- A plugin is prepared for its load, with registries that hold so much and with so many plugins
up.  Where the preparation fails, or the first registration is refused, the load stops; otherwise
all its registrations are accepted, its dependencies are up or are itself, and what follows is as
required. -/
def Joins (registries : PluginRegistries) (up : List PluginRecord) (key : String)
    (record : PluginRecord) (next : PluginRegistries → List PluginRecord → Prop) : Prop :=
  match prepare record.manifest (loads key) with
  | .error fault => loadErrors fault = true → stopped registries
  | .ok (_, tools, providers) =>
      let steps := registrations registries.attached key record.manifest.capabilities tools
        providers
      (RefusesFirst registries steps ∧ stopped registries) ∨
        (registries.Accepts steps ∧
          (∀ dependency ∈ record.manifest.dependencies, ∃ other ∈ record :: up,
            dependency.satisfiedBy other = true) ∧
          next (registries.register steps).2 (record :: up))

/-- Plugins are loaded one after the other. -/
def InOrder : PluginRegistries → List PluginRecord → List String →
    (PluginRegistries → List PluginRecord → Prop) → Prop
  | registries, up, [], next => next registries up
  | registries, up, key :: rest, next =>
      stopped registries ∧ ∀ record, Dict.get? manager.records key = some record →
        (manager.requireExplicitEnable && !record.enabled) = false →
          Joins loads stopped registries up key record fun registries up =>
            InOrder registries up rest next

def upRecords : List PluginRecord :=
  (manager.records.map Prod.snd).filter fun record => record.state ∈ loadedStates

/-- The load of a plugin, after the dependencies that are resolved for it and not up. -/
def LoadSound (key : String) (autoLoad : Bool) : Prop :=
  ∀ record, Dict.get? manager.records key = some record →
    if manager.requireExplicitEnable && !record.enabled then stopped manager.registries
    else if record.state ∈ [PluginState.loaded, .active, .loading] then True
    else
      match resolvePlugins manager.records key with
      | .error _ => stopped manager.registries
      | .ok dependencies =>
          let waiting := dependencies.filter fun dependency => !manager.isLoaded dependency
          if autoLoad || waiting = [] then
            InOrder manager loads stopped manager.registries manager.upRecords waiting
              fun registries up => Joins loads stopped registries up key record fun _ _ => True
          else True

end

/-- What a plugin is unloaded from can be seen not to need it: its id can be read off its key, or
every other plugin that is up has what it depends on without it. -/
def Departs (manager : PluginManager) (key : String) : Prop :=
  ∀ record, manager.Up key record → targetId key = record.manifest.id ∨
    ∀ key' other, manager.Up key' other → key' ≠ key →
      ∀ dependency ∈ other.manifest.dependencies, ∃ key'' record'',
        manager.Up key'' record'' ∧ key'' ≠ key ∧ dependency.satisfiedBy record'' = true

/-- What the rollback of a reload finds: nobody has taken the names of the old instance, and its
registrations are all accepted, or the first one is refused. -/
def Restores (key : String) (record : PluginRecord) (run : ReloadRun)
    (registries : PluginRegistries) : Prop :=
  record.state ∈ loadedStates → ∀ tools providers, run.snapshotTools = .ok tools →
    run.snapshotProviders = .ok providers →
      let steps := registrations registries.attached key record.manifest.capabilities tools
        providers
      (∀ contribution ∈ record.contributions,
        Dict.get? registries.entries contribution.key = none) ∧
        (RefusesFirst registries steps ∨ registries.Accepts steps)

/-- Where an operation keeps the law. -/
def Sound (manager : PluginManager) : LifecycleOp → Prop
  | .load key loads autoLoad => manager.LoadSound loads (fun _ => True) key autoLoad
  | .unload key _ => manager.Departs key
  | .reload key run => manager.Departs key ∧
      ∀ record, Dict.get? manager.records key = some record →
        (manager.unload key none).2.LoadSound run.loads (Restores key record run) key true
  | .activate key loads _ =>
      ∀ record, Dict.get? manager.records key = some record →
        record.state ∈ [PluginState.unloaded, .failed] →
          manager.LoadSound loads (fun _ => True) key true
  | .enable key => ∀ record, manager.Up key record → record.enabled = true
  | .disable key inLoop _ => inLoop = false →
      (∀ record, Dict.get? manager.records key = some record → record.enabled = true) →
        manager.Departs key
  | .uninstall key inLoop _ => inLoop = false → manager.Departs key
  | _ => True

end PluginManager

end Samaktha
