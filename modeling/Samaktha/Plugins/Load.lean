import Samaktha.Plugins.Contributions
import Mathlib.Data.List.Sort
import Mathlib.Data.List.Dedup

/-!
# Loading a plugin

`PluginManager._load_single`: the plugin is instantiated and checked, its contributions are
registered, and it is started.  What the plugin's own code returns or raises is a parameter
(`PluginRun`).  A load that raises leaves the registries alone exactly where it raises before the
first contribution is registered (`loadSingle_leaves_iff`): there is no step that takes back what
was registered when a later step raises (`loadSingle_leaves_contributions`).

The listeners of the event bus and the times that records keep are left out.
-/

namespace Samaktha

/-- Lifecycle states a plugin record transitions through. -/
inductive PluginState where
  | discovered
  | registered
  | loading
  | loaded
  | active
  | unloading
  | unloaded
  | disabled
  | failed
  | installing
  | installed
  | uninstalling
  | uninstalled
  | enabled
  deriving Repr, DecidableEq, Inhabited

/-- A dependency on another plugin, referenced by its id, under a version constraint. -/
structure PluginDependency where
  pluginId : String
  version : String := "*"
  deriving Repr, DecidableEq, Inhabited

structure PluginManifest where
  id : String
  version : String := "1.0.0"
  capabilities : List PluginCapability := []
  /-- The declared permission scopes. -/
  permissions : List String := []
  dependencies : List PluginDependency := []
  deriving Repr, DecidableEq, Inhabited

/-- Registry entry tracking one plugin through its lifecycle. -/
structure PluginRecord where
  manifest : PluginManifest
  state : PluginState := .registered
  error : Option String := none
  contributions : List Contribution := []
  /-- The identity of the instance. -/
  plugin : Option ℕ := none
  enabled : Bool := false
  deriving Repr, DecidableEq, Inhabited

inductive LifecycleCall where
  | start
  | stop
  deriving Repr, DecidableEq, Inhabited

/-- The host's manager.  `lastCall` is a ghost: the last hook that was called on an instance. -/
structure PluginManager where
  records : Dict String PluginRecord := []
  registries : PluginRegistries := {}
  /-- The ids of the tools that are in use, where they are tracked. -/
  activeTools : Option (List String) := none
  requireExplicitEnable : Bool := false
  lastCall : Dict ℕ LifecycleCall := []

/-- What `provide_tools` does when `validate_plugin` calls it. -/
inductive ProvidedTools where
  | raised (message : String)
  | interrupted (message : String)
  | notAList
  | list (tools : List PluginTool)
  deriving Repr, DecidableEq, Inhabited

/-- What a plugin's code returns or raises in the course of a load. -/
structure PluginRun where
  /-- The import of the entry module and `_instantiate_plugin`. -/
  instantiate : Except PluginFault ℕ
  /-- The id and the version of the instance's own manifest. -/
  identity : Except PluginFault (String × String)
  validated : ProvidedTools
  tools : Except PluginFault (List PluginTool)
  providers : Except PluginFault (List PluginProvider)
  /-- What `start` raises, if it does. -/
  start : Option PluginFault := none

/-- What `except Exception` catches. -/
def PluginFault.isException : PluginFault → Bool
  | .base _ => false
  | _ => true

namespace PluginManager

section

variable [Casing]

/-! ## Checks -/

/-- `[a-z][a-z0-9._-]*`, with at most one newline after it. -/
def isIdentifier (text : String) : Bool :=
  let lower (c : Char) : Bool := 'a' ≤ c && c ≤ 'z'
  let follows (c : Char) : Bool := lower c || ('0' ≤ c && c ≤ '9') || c ∈ ['.', '_', '-']
  let chars := text.toList
  match if chars.getLast? = some '\n' then chars.dropLast else chars with
  | [] => false
  | first :: rest => lower first && rest.all follows

def validatePlugin (manifest : PluginManifest) (run : PluginRun) :
    Except PluginFault (List StructuralError) := do
  let (id, version) ← run.identity
  let errors := (if id ≠ manifest.id then [.idMismatch id manifest.id] else []) ++
    (if version ≠ manifest.version then [.versionMismatch version manifest.version] else [])
  match run.validated with
  | .raised message => return errors ++ [.toolsRaised message]
  | .interrupted message => throw (.base message)
  | .notAList => return errors ++ [.notAList]
  | .list tools =>
      let names := (tools.filter PluginTool.isTool).map PluginTool.name
      let malformed := tools.flatMap fun tool =>
        if tool.isTool then
          if isIdentifier tool.name then [] else [.invalidToolName tool.name]
        else [.notATool tool.typeName]
      return errors ++ malformed ++ (if names.Nodup then [] else [.duplicateToolNames])

/-- What is required but not declared, in order. -/
def missing (required declared : List String) : List String :=
  ((required.filter (· ∉ declared)).dedup).insertionSort (· ≤ ·)

/-- The boundaries of a tool: `enforce_tool_boundary`, `enforce_permission_boundary`,
`enforce_capability_boundary`. -/
def enforceToolBoundaries (manifest : PluginManifest) (tool : PluginTool) :
    Except PluginFault Unit :=
  let permissions := missing tool.permissions manifest.permissions
  let capabilities := missing tool.capabilities (manifest.capabilities.map PluginCapability.name)
  if tool.isTool = false then throw (.isolation (.tool tool.typeName))
  else if permissions ≠ [] then throw (.isolation (.permissions tool.name permissions))
  else if capabilities ≠ [] then throw (.isolation (.capabilities tool.name capabilities))
  else pure ()

def enforceProviderBoundary (provider : PluginProvider) : Except PluginFault Unit :=
  if provider.isProvider then pure () else throw (.isolation (.provider provider.typeName))

/-- What a load does before it registers anything: the instance, its tools and providers. -/
def prepare (manifest : PluginManifest) (run : PluginRun) :
    Except PluginFault (ℕ × List PluginTool × List PluginProvider) := do
  let plugin ← run.instantiate
  let errors ← validatePlugin manifest run
  if errors ≠ [] then throw (.load (.structural errors))
  let tools ← run.tools
  let providers ← run.providers
  tools.forM (enforceToolBoundaries manifest)
  providers.forM enforceProviderBoundary
  return (plugin, tools, providers)

/-! ## `_load_single` -/

/-- The record of a plugin is changed in place. -/
def modify (manager : PluginManager) (key : String) (f : PluginRecord → PluginRecord) :
    PluginManager :=
  match Dict.get? manager.records key with
  | some record => { manager with records := Dict.set manager.records key (f record) }
  | none => manager

/-- The handlers of `_load_single`: what is raised in place of a fault, and the record. -/
def failLoad (manager : PluginManager) (key : String) :
    PluginFault → Option PluginFault × PluginManager
  | .base message => (some (.base message), manager)
  | .other message => (some (.load (.wrapped message)),
      manager.modify key fun record => { record with error := some message, state := .failed })
  | .unload message => (some (.load (.wrapped message)),
      manager.modify key fun record => { record with error := some message, state := .failed })
  | fault => (some fault, manager.modify key fun record =>
      { record with error := some (record.error.getD "Plugin failed to load."), state := .failed })

/-- The steps by which the contributions of a plugin are registered. -/
def steps (manager : PluginManager) (key : String) (manifest : PluginManifest)
    (tools : List PluginTool) (providers : List PluginProvider) : List Registration :=
  registrations manager.registries.attached key manifest.capabilities tools providers

def loadSingle (manager : PluginManager) (key : String) (run : PluginRun) :
    Option PluginFault × PluginManager :=
  match Dict.get? manager.records key with
  | none => (some (.other key), manager)
  | some record =>
      let manager := manager.modify key fun record => { record with state := .loading }
      match prepare record.manifest run with
      | .error fault => manager.failLoad key fault
      | .ok (plugin, tools, providers) =>
          let steps := manager.steps key record.manifest tools providers
          match manager.registries.register steps with
          | (some fault, registries) => { manager with registries := registries }.failLoad key fault
          | (none, registries) =>
              let manager := { manager with
                registries := registries
                lastCall := Dict.set manager.lastCall plugin .start }
              match run.start with
              | some fault => manager.failLoad key fault
              | none => (none, manager.modify key fun record =>
                  { record with
                    contributions := steps.map Registration.contribution
                    plugin := some plugin
                    error := none
                    state := .active })

/-! ## What a failed load leaves -/

/-- The first step is refused, or there is no step, or all are accepted and the start raises
nothing. -/
def StepsFailFirst (registries : PluginRegistries) (start : Option PluginFault) :
    List Registration → Prop
  | [] => ∀ fault, start = some fault → fault.isException = true
  | first :: rest =>
      first.valid = false ∨ Dict.get? registries.entries first.key ≠ none ∨
        (registries.Accepts (first :: rest) ∧ start = none)

/-- The registries hold what they held, and the record shows the failure. -/
def LeavesNothing (manager manager' : PluginManager) (key : String) : Prop :=
  manager.registries.SameEntries manager'.registries ∧
    (Dict.get? manager'.records key).map PluginRecord.state = some .failed

/-- Whatever a load raises, it raises before it has registered anything: before the first
contribution, at the first contribution, or when there is none; and it is an exception. -/
def FailsFirst (manager : PluginManager) (key : String) (manifest : PluginManifest)
    (run : PluginRun) : Prop :=
  match prepare manifest run with
  | .error fault => fault.isException = true
  | .ok (_, tools, providers) =>
      StepsFailFirst manager.registries run.start (manager.steps key manifest tools providers)

section

variable {manager : PluginManager} {key : String}

omit [Casing] in
lemma get?_modify {record : PluginRecord} (h : Dict.get? manager.records key = some record)
    (f : PluginRecord → PluginRecord) :
    Dict.get? (manager.modify key f).records key = some (f record) := by
  unfold modify
  rw [h]
  dsimp only
  rw [Dict.get?_set, if_pos rfl]

omit [Casing] in
@[simp] lemma registries_modify (manager : PluginManager) (key : String)
    (f : PluginRecord → PluginRecord) : (manager.modify key f).registries = manager.registries := by
  unfold modify
  split <;> rfl

omit [Casing] in
@[simp] lemma registries_failLoad (manager : PluginManager) (key : String) (fault : PluginFault) :
    (manager.failLoad key fault).2.registries = manager.registries := by
  cases fault <;> simp [failLoad]

omit [Casing] in
lemma failLoad_raises (manager : PluginManager) (key : String) (fault : PluginFault) :
    (manager.failLoad key fault).1 ≠ none := by
  cases fault <;> exact Option.some_ne_none _

omit [Casing] in
lemma state_failLoad {record : PluginRecord} (h : Dict.get? manager.records key = some record)
    (fault : PluginFault) :
    (Dict.get? (manager.failLoad key fault).2.records key).map PluginRecord.state =
      some (if fault.isException then .failed else record.state) := by
  cases fault with
  | base message => rw [failLoad, h]; rfl
  | _ => exact congrArg (Option.map PluginRecord.state) (get?_modify h _)

lemma isException_of_refusal {step : Registration} {existing : Option RegistryEntry}
    {fault : PluginFault} (h : step.refusal existing = some fault) : fault.isException = true := by
  cases step with
  | tool pluginKey item =>
      cases existing with
      | none =>
          obtain ⟨message, -, rfl⟩ := Option.map_eq_some_iff.mp h
          rfl
      | some existing => rw [← Option.some.inj h]; rfl
  | provider item =>
      cases existing with
      | none => cases h
      | some existing => rw [← Option.some.inj h]; rfl
  | capability declared providing =>
      cases providing with
      | none => rw [← Option.some.inj h]; rfl
      | some item =>
          cases existing with
          | none => cases h
          | some existing =>
              simp only [Registration.refusal] at h
              split at h <;> (rw [← Option.some.inj h]; rfl)

lemma isException_of_register {registries : PluginRegistries} {steps : List Registration}
    {fault : PluginFault} (h : (registries.register steps).1 = some fault) :
    fault.isException = true := by
  induction steps generalizing registries with
  | nil => cases h
  | cons step rest ih =>
      cases hrefusal : step.refusal (Dict.get? registries.entries step.key) with
      | some refused =>
          rw [PluginRegistries.register_cons_of_refused hrefusal] at h
          exact Option.some.inj h ▸ isException_of_refusal hrefusal
      | none =>
          rw [PluginRegistries.register_cons_of_accepted hrefusal] at h
          exact ih h

omit [Casing] in
lemma leavesNothing_failLoad (before after : PluginManager) {record : PluginRecord}
    (h : Dict.get? after.records key = some record) (hstate : record.state = .loading)
    (fault : PluginFault) :
    before.LeavesNothing (after.failLoad key fault).2 key ↔
      before.registries.SameEntries after.registries ∧ fault.isException = true := by
  unfold LeavesNothing
  rw [registries_failLoad, state_failLoad h, hstate]
  refine and_congr_right fun _ => ?_
  cases fault.isException with
  | true => exact iff_of_true rfl rfl
  | false => exact iff_of_false (by decide) Bool.false_ne_true

lemma same_iff_of_refused {registries : PluginRegistries} {steps : List Registration}
    {fault : PluginFault} (h : (registries.register steps).1 = some fault)
    (start : Option PluginFault) :
    registries.SameEntries (registries.register steps).2 ↔
      StepsFailFirst registries start steps := by
  rw [PluginRegistries.register_same_iff]
  have hrefuses : ¬registries.Accepts steps := by
    rw [← PluginRegistries.register_fault_eq_none_iff, h]
    exact Option.some_ne_none fault
  cases steps with
  | nil => cases h
  | cons first rest =>
      constructor
      · intro hsame
        exact (hsame first rfl).imp_right .inl
      · rintro hfirst step hstep
        obtain rfl := Option.some.inj hstep
        rcases hfirst with hinvalid | htaken | ⟨haccepts, -⟩
        · exact .inl hinvalid
        · exact .inr htaken
        · exact absurd haccepts hrefuses

/-- Steps that are all accepted, before a start that raises, have changed nothing exactly where
there are none. -/
lemma same_iff_of_accepted {registries : PluginRegistries} {steps : List Registration}
    (h : (registries.register steps).1 = none) (fault : PluginFault) :
    (registries.SameEntries (registries.register steps).2 ∧ fault.isException = true) ↔
      StepsFailFirst registries (some fault) steps := by
  rw [PluginRegistries.register_same_iff]
  have haccepts := PluginRegistries.register_fault_eq_none_iff.mp h
  cases steps with
  | nil =>
      constructor
      · rintro ⟨-, hexception⟩ fault' hfault'
        exact Option.some.inj hfault' ▸ hexception
      · intro hexception
        exact ⟨fun step hstep => (by cases hstep), hexception fault rfl⟩
  | cons first rest =>
      obtain ⟨hvalid, hfree⟩ := haccepts.2 first List.mem_cons_self
      have hnot : ¬(first.valid = false ∨ Dict.get? registries.entries first.key ≠ none) := by
        rintro (hinvalid | htaken)
        · rw [hvalid] at hinvalid
          cases hinvalid
        · exact htaken hfree
      refine iff_of_false (fun hsame => hnot (hsame.1 first rfl)) ?_
      rintro (hinvalid | htaken | ⟨-, hnone⟩)
      · exact hnot (.inl hinvalid)
      · exact hnot (.inr htaken)
      · cases hnone

/-- A load that raises leaves the registries as they were and the record failed exactly where it
raises before anything is registered. -/
theorem loadSingle_leaves_iff {record : PluginRecord}
    (h : Dict.get? manager.records key = some record) (run : PluginRun) :
    ((manager.loadSingle key run).1 ≠ none →
        manager.LeavesNothing (manager.loadSingle key run).2 key) ↔
      manager.FailsFirst key record.manifest run := by
  have hloading := get?_modify h fun record => { record with state := .loading }
  have hregistries := registries_modify manager key fun record => { record with state := .loading }
  unfold loadSingle FailsFirst
  rw [h]
  dsimp only
  generalize (manager.modify key fun record => { record with state := .loading }) = loading
    at hloading hregistries
  cases prepare record.manifest run with
  | error fault =>
      have hraises := loading.failLoad_raises key fault
      rw [leavesNothing_failLoad manager loading hloading rfl, hregistries]
      exact ⟨fun hleaves => (hleaves hraises).2, fun hexception _ => ⟨fun _ => rfl, hexception⟩⟩
  | ok found =>
      obtain ⟨plugin, tools, providers⟩ := found
      have hsteps : loading.steps key record.manifest tools providers =
          manager.steps key record.manifest tools providers := by
        unfold steps
        rw [hregistries]
      dsimp only
      rw [hsteps, hregistries]
      generalize manager.steps key record.manifest tools providers = steps
      cases hregister : manager.registries.register steps with
      | mk refused registries =>
          cases refused with
          | some fault =>
              have hfault : (manager.registries.register steps).1 = some fault := by
                rw [hregister]
              have hraises := failLoad_raises { loading with registries := registries } key fault
              have hiff := same_iff_of_refused hfault run.start
              rw [hregister] at hiff
              dsimp only
              rw [leavesNothing_failLoad manager { loading with registries := registries }
                hloading rfl, ← hiff]
              exact ⟨fun hleaves => (hleaves hraises).1,
                fun hsame _ => ⟨hsame, isException_of_register hfault⟩⟩
          | none =>
              have hnone : (manager.registries.register steps).1 = none := by rw [hregister]
              cases hstart : run.start with
              | none =>
                  refine iff_of_true (fun hraises => absurd rfl hraises) ?_
                  cases steps with
                  | nil => exact fun fault hfault => by cases hfault
                  | cons first rest =>
                      have haccepts := PluginRegistries.register_fault_eq_none_iff.mp hnone
                      exact .inr (.inr ⟨haccepts, rfl⟩)
              | some fault =>
                  have hraises := failLoad_raises { loading with
                    registries := registries
                    lastCall := Dict.set loading.lastCall plugin .start } key fault
                  have hiff := same_iff_of_accepted hnone fault
                  rw [hregister] at hiff
                  dsimp only
                  rw [leavesNothing_failLoad manager { loading with
                    registries := registries
                    lastCall := Dict.set loading.lastCall plugin .start } hloading rfl, ← hiff]
                  exact ⟨fun hleaves => hleaves hraises, fun hleaves _ => hleaves⟩

end

end

/-! ### A plugin whose start fails -/

section

attribute [local instance] Casing.ascii

/-- A host that knows of one plugin, which has nothing registered. -/
def sampleManager : PluginManager where
  records := [("p@1.0.0", { manifest := { id := "p" } })]

/-- A load of a plugin with one tool. -/
def sampleRun (start : Option PluginFault) : PluginRun where
  instantiate := .ok 0
  identity := .ok ("p", "1.0.0")
  validated := .list [{ object := 0, name := "greet" }]
  tools := .ok [{ object := 0, name := "greet" }]
  providers := .ok []
  start := start

/-- Where the tool's name is taken, the load is refused and leaves nothing. -/
theorem loadSingle_leaves_iff_sample :
    let taken := { sampleManager with registries.entries :=
      [((.tool, "greet"), .tool "q@1.0.0" { object := 1, name := "greet" })] }
    (taken.loadSingle "p@1.0.0" (sampleRun none)).1 =
        some (.load (.toolRegistered "greet")) ∧
      taken.LeavesNothing (taken.loadSingle "p@1.0.0" (sampleRun none)).2 "p@1.0.0" := by
  intro taken
  refine ⟨by decide, (loadSingle_leaves_iff rfl (sampleRun none)).mpr ?_ (by decide)⟩
  exact .inr (.inl (by decide))

/-- A start that raises leaves the tool registered, and it is in the way of the next load. -/
theorem loadSingle_leaves_contributions :
    let failed := (sampleManager.loadSingle "p@1.0.0" (sampleRun (some (.other "boom")))).2
    (sampleManager.loadSingle "p@1.0.0" (sampleRun (some (.other "boom")))).1 =
        some (.load (.wrapped "boom")) ∧
      sampleManager.registries.entries = [] ∧
      failed.registries.entries =
        [((.tool, "greet"), .tool "p@1.0.0" { object := 0, name := "greet" })] ∧
      (failed.loadSingle "p@1.0.0" (sampleRun none)).1 =
        some (.load (.toolRegistered "greet")) := by
  decide

end

end PluginManager

end Samaktha
