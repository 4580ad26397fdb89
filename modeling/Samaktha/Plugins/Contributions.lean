import Samaktha.Foundation.Dict
import Samaktha.Foundation.Text

/-!
# Plugin contributions

What plugins contribute, the three registries that hold it, and the registration of a plugin's
contributions, one after the other, up to the first that is refused
(`_register_contributions`, `_unregister_contributions`).

The tool, communication and capability registries are one dictionary here, whose keys say which
of the three they belong to; each of the three may be missing.  A tool is wrapped in an adapter
and registered with a description that is built from it and from the manifest; the entry keeps
what both are built from.
-/

namespace Samaktha

/-! ## Failures -/

/-- What `validate_plugin` finds wrong with an instance. -/
inductive StructuralError where
  | idMismatch (found registered : String)
  | versionMismatch (found registered : String)
  | toolsRaised (message : String)
  | notAList
  | notATool (typeName : String)
  | invalidToolName (name : String)
  | duplicateToolNames
  deriving Repr, DecidableEq, Inhabited

/-- The reasons of a `PluginLoadError`. -/
inductive LoadError where
  | notRegistered (key : String)
  | notEnabled (key : String)
  | unresolved (message : String)
  | entry (message : String)
  | structural (errors : List StructuralError)
  | toolRegistered (name : String)
  | providerRegistered (name : String)
  | notProvided (capability : String)
  | domainInstalled (capability : String)
  | wrapped (message : String)
  deriving Repr, DecidableEq, Inhabited

/-- The boundaries that a contribution may cross. -/
inductive IsolationError where
  | tool (typeName : String)
  | provider (typeName : String)
  | permissions (tool : String) (missing : List String)
  | capabilities (tool : String) (missing : List String)
  deriving Repr, DecidableEq, Inhabited

/-- What is raised: the manager's own errors, another exception, or what is no `Exception` (a
cancellation, an interrupt), which no handler of the manager catches. -/
inductive PluginFault where
  | load (error : LoadError)
  | unload (message : String)
  | isolation (error : IsolationError)
  | registration (message : String)
  | other (message : String)
  | base (message : String)
  deriving Repr, DecidableEq, Inhabited

/-- `repr` of a text without quotes, backslashes and control characters. -/
def quoted (text : String) : String := "'" ++ text ++ "'"

/-- `str` of a list of such texts. -/
def listText (texts : List String) : String := "[" ++ ", ".intercalate (texts.map quoted) ++ "]"

def StructuralError.text : StructuralError → String
  | idMismatch found registered => "Plugin entry manifest id " ++ quoted found ++
      " does not match registered id " ++ quoted registered ++ "."
  | versionMismatch found registered => "Plugin entry manifest version " ++ quoted found ++
      " does not match registered version " ++ quoted registered ++ "."
  | toolsRaised message => "provide_tools() raised: " ++ message
  | notAList => "provide_tools() must return a list of Tool instances."
  | notATool typeName => "Tool contribution must be a Tool instance, got " ++ typeName ++ "."
  | invalidToolName name => "Invalid tool name " ++ quoted name ++ "."
  | duplicateToolNames => "Tool names contributed by a plugin must be unique."

def LoadError.text : LoadError → String
  | notRegistered key => "Plugin is not registered: " ++ key
  | notEnabled key => "Plugin is not enabled: " ++ key
  | unresolved message => message
  | entry message => message
  | structural errors => "; ".intercalate (errors.map StructuralError.text)
  | toolRegistered name => "Tool id already registered: " ++ name
  | providerRegistered name => "Communication provider already registered: " ++ name
  | notProvided capability => "Declared capability '" ++ capability ++
      "' is not provided by any contributed tool."
  | domainInstalled capability => "Capability domain already installed: " ++ capability
  | wrapped message => message

def IsolationError.text : IsolationError → String
  | tool typeName => "Tool contributions must be instances of app.tools.base.Tool; got " ++
      typeName ++ ". Arbitrary callables are not registered as tools."
  | provider typeName => "Provider contributions must be instances of " ++
      "app.communication.provider.CommunicationProvider; got " ++ typeName ++ "."
  | permissions name missing => "Tool '" ++ name ++ "' requires undeclared permission(s): " ++
      listText missing ++ "."
  | capabilities name missing => "Tool '" ++ name ++ "' provides undeclared capability/" ++
      "capabilities: " ++ listText missing ++ "."

/-- `str(exc)`. -/
def PluginFault.text : PluginFault → String
  | load error => error.text
  | unload message => message
  | isolation error => error.text
  | registration message => message
  | other message => message
  | base message => message

/-! ## Contributions -/

/-- The registries that a plugin contributes to. -/
inductive ContributionKind where
  | tool
  | provider
  | capability
  deriving Repr, DecidableEq, Inhabited

/-- A contribution as a record lists it, `kind:name`. -/
structure Contribution where
  kind : ContributionKind
  name : String
  deriving Repr, DecidableEq, Inhabited

variable [Casing]

/-- The registry and the key under which a contribution is found. -/
def Contribution.key (contribution : Contribution) : ContributionKind × String :=
  match contribution.kind with
  | .tool => (.tool, contribution.name)
  | .provider => (.provider, Casing.lower contribution.name)
  | .capability => (.capability, Casing.lower contribution.name)

/-- An object that is contributed as a tool. -/
structure PluginTool where
  /-- The identity of the object. -/
  object : ℕ
  /-- Whether it is a `Tool`. -/
  isTool : Bool := true
  typeName : String := ""
  name : String
  capabilities : List String := []
  permissions : List String := []
  /-- What `build_tool_info` raises, if it does. -/
  infoError : Option String := none
  deriving Repr, DecidableEq, Inhabited

/-- An object that is contributed as a communication provider. -/
structure PluginProvider where
  /-- The identity of the object. -/
  object : ℕ
  /-- Whether it is a `CommunicationProvider`. -/
  isProvider : Bool := true
  typeName : String
  providerId : Option String := none
  deriving Repr, DecidableEq, Inhabited

/-- A capability that a manifest declares. -/
structure PluginCapability where
  name : String
  description : String := ""
  deriving Repr, DecidableEq, Inhabited

inductive RegistryEntry where
  | tool (pluginKey : String) (tool : PluginTool)
  | provider (provider : PluginProvider)
  | capability (domain : String) (toolId : Option String) (description : String)
      (unavailable : Bool)
  deriving Repr, DecidableEq, Inhabited

def RegistryEntry.installed : RegistryEntry → Bool
  | .capability _ (some toolId) _ unavailable => toolId ≠ "" && !unavailable
  | _ => false

/-- The registries of a host: which of them there are, and what they hold. -/
structure PluginRegistries where
  attached : ContributionKind → Bool := fun _ => true
  entries : Dict (ContributionKind × String) RegistryEntry := []

def providerName (provider : PluginProvider) : String :=
  Casing.lower (provider.providerId.getD (Casing.lower provider.typeName))

def toolProviding (tools : List PluginTool) (capability : String) : Option PluginTool :=
  tools.find? fun tool => capability ∈ tool.capabilities

/-! ## Registration -/

/-- One step of `_register_contributions`. -/
inductive Registration where
  | tool (pluginKey : String) (tool : PluginTool)
  | provider (provider : PluginProvider)
  | capability (capability : PluginCapability) (providing : Option PluginTool)
  deriving Repr, DecidableEq, Inhabited

namespace Registration

/-- What the step adds to the record's list. -/
def contribution : Registration → Contribution
  | .tool _ item => ⟨.tool, item.name⟩
  | .provider item => ⟨.provider, providerName item⟩
  | .capability declared _ => ⟨.capability, declared.name⟩

/-- What the step registers. -/
def entry : Registration → RegistryEntry
  | .tool pluginKey item => .tool pluginKey item
  | .provider item => .provider item
  | .capability declared providing =>
      .capability declared.name (providing.map PluginTool.name) declared.description false

/-- Where the step registers. -/
def key (registration : Registration) : ContributionKind × String :=
  registration.contribution.key

/-- What the step raises, given what is registered under its key. -/
def refusal : Registration → Option RegistryEntry → Option PluginFault
  | .tool _ item, some _ => some (.load (.toolRegistered item.name))
  | .tool _ item, none => item.infoError.map .other
  | .provider item, some _ => some (.load (.providerRegistered (providerName item)))
  | .provider _, none => none
  | .capability declared none, _ => some (.load (.notProvided declared.name))
  | .capability declared (some _), some existing =>
      if existing.installed then some (.load (.domainInstalled declared.name))
      else some (.other ("Capability domain already installed: " ++ declared.name))
  | .capability _ (some _), none => none

/-- The step is not refused whatever is registered under other keys. -/
def valid (registration : Registration) : Bool := (registration.refusal none).isNone

/-- A step is accepted where its key is free, if it is valid. -/
lemma refusal_eq_none_iff (registration : Registration) (existing : Option RegistryEntry) :
    registration.refusal existing = none ↔ registration.valid = true ∧ existing = none := by
  unfold valid
  rw [Option.isNone_iff_eq_none]
  cases existing with
  | none => exact (and_iff_left rfl).symm
  | some existing =>
      refine iff_of_false (fun h => ?_) fun h => absurd h.2 (Option.some_ne_none existing)
      cases registration with
      | tool pluginKey item => cases h
      | provider item => cases h
      | capability declared providing =>
          cases providing with
          | none => cases h
          | some item =>
              simp only [refusal] at h
              split at h <;> cases h

end Registration

/-- The steps of `_register_contributions`: tools, providers, capabilities, each where the host
has a registry for them. -/
def registrations (attached : ContributionKind → Bool) (pluginKey : String)
    (capabilities : List PluginCapability) (tools : List PluginTool)
    (providers : List PluginProvider) : List Registration :=
  (if attached .tool then tools.map (.tool pluginKey) else []) ++
    (if attached .provider then providers.map .provider else []) ++
    (if attached .capability then capabilities.map fun capability =>
      .capability capability (toolProviding tools capability.name) else [])

namespace PluginRegistries

/-- `_register_contributions`: the steps in order, up to the first one that raises. -/
def register (registries : PluginRegistries) :
    List Registration → Option PluginFault × PluginRegistries
  | [] => (none, registries)
  | registration :: rest =>
      match registration.refusal (Dict.get? registries.entries registration.key) with
      | some fault => (some fault, registries)
      | none => register { registries with
          entries := Dict.set registries.entries registration.key registration.entry } rest

/-- `_unregister_contributions`, last one first. -/
def unregister (registries : PluginRegistries) (contributions : List Contribution) :
    PluginRegistries :=
  contributions.reverse.foldl (fun registries contribution =>
    if registries.attached contribution.kind then
      { registries with entries := Dict.erase registries.entries contribution.key }
    else registries) registries

/-- The registries hold the same. -/
def SameEntries (registries registries' : PluginRegistries) : Prop :=
  ∀ key, Dict.get? registries.entries key = Dict.get? registries'.entries key

/-- The steps are valid, and their keys are free and distinct. -/
def Accepts (registries : PluginRegistries) (steps : List Registration) : Prop :=
  (steps.map Registration.key).Nodup ∧
    ∀ step ∈ steps, step.valid = true ∧ Dict.get? registries.entries step.key = none

variable {registries : PluginRegistries}

lemma register_cons_of_refused {step : Registration} {fault : PluginFault}
    (h : step.refusal (Dict.get? registries.entries step.key) = some fault)
    (rest : List Registration) : registries.register (step :: rest) = (some fault, registries) := by
  rw [register, h]

lemma register_cons_of_accepted {step : Registration}
    (h : step.refusal (Dict.get? registries.entries step.key) = none) (rest : List Registration) :
    registries.register (step :: rest) = register { registries with
      entries := Dict.set registries.entries step.key step.entry } rest := by
  rw [register, h]

lemma get?_register_of_some (steps : List Registration) {key : ContributionKind × String}
    {entry : RegistryEntry} (h : Dict.get? registries.entries key = some entry) :
    Dict.get? (registries.register steps).2.entries key = some entry := by
  induction steps generalizing registries with
  | nil => exact h
  | cons step rest ih =>
      cases hrefusal : step.refusal (Dict.get? registries.entries step.key) with
      | some fault => rwa [register_cons_of_refused hrefusal]
      | none =>
          rw [register_cons_of_accepted hrefusal]
          refine ih ?_
          have hfree := ((step.refusal_eq_none_iff _).mp hrefusal).2
          have hne : step.key ≠ key := by
            rintro rfl
            rw [hfree] at h
            cases h
          rw [Dict.get?_set_of_ne hne]
          exact h

lemma get?_register_of_notMem {steps : List Registration} {key : ContributionKind × String}
    (h : key ∉ steps.map Registration.key) :
    Dict.get? (registries.register steps).2.entries key = Dict.get? registries.entries key := by
  induction steps generalizing registries with
  | nil => rfl
  | cons step rest ih =>
      have hne : step.key ≠ key := fun heq => h (heq ▸ List.mem_cons_self)
      have hrest : key ∉ rest.map Registration.key := fun hmem => h (List.mem_cons_of_mem _ hmem)
      cases hrefusal : step.refusal (Dict.get? registries.entries step.key) with
      | some fault => rw [register_cons_of_refused hrefusal]
      | none =>
          rw [register_cons_of_accepted hrefusal, ih hrest, Dict.get?_set_of_ne hne]

/-- Nothing is raised exactly where the registries accept the steps. -/
lemma register_fault_eq_none_iff {steps : List Registration} :
    (registries.register steps).1 = none ↔ registries.Accepts steps := by
  induction steps generalizing registries with
  | nil => exact iff_of_true rfl ⟨List.nodup_nil, fun step hstep => by cases hstep⟩
  | cons step rest ih =>
      cases hrefusal : step.refusal (Dict.get? registries.entries step.key) with
      | some fault =>
          rw [register_cons_of_refused hrefusal]
          refine iff_of_false (Option.some_ne_none fault) fun haccepts => ?_
          have hnone := (step.refusal_eq_none_iff _).mpr (haccepts.2 step List.mem_cons_self)
          rw [hrefusal] at hnone
          cases hnone
      | none =>
          have hstep := (step.refusal_eq_none_iff _).mp hrefusal
          rw [register_cons_of_accepted hrefusal, ih]
          constructor
          · rintro ⟨hnodup, hrest⟩
            refine ⟨List.nodup_cons.mpr ⟨fun hmem => ?_, hnodup⟩, fun other hother => ?_⟩
            · obtain ⟨other, hother, hkey⟩ := List.mem_map.mp hmem
              have hfree := (hrest other hother).2
              rw [hkey, Dict.get?_set, if_pos rfl] at hfree
              cases hfree
            · rcases List.mem_cons.mp hother with rfl | hother
              · exact hstep
              · obtain ⟨hvalid, hfree⟩ := hrest other hother
                refine ⟨hvalid, ?_⟩
                rw [Dict.get?_set] at hfree
                split at hfree
                · cases hfree
                · exact hfree
          · rintro ⟨hnodup, hall⟩
            obtain ⟨hfirst, hnodup⟩ := List.nodup_cons.mp hnodup
            refine ⟨hnodup, fun other hother => ?_⟩
            obtain ⟨hvalid, hfree⟩ := hall other (List.mem_cons_of_mem _ hother)
            refine ⟨hvalid, ?_⟩
            have hne : step.key ≠ other.key := fun heq =>
              hfirst (List.mem_map.mpr ⟨other, hother, heq.symm⟩)
            rw [Dict.get?_set_of_ne hne]
            exact hfree

lemma get?_register_of_mem {steps : List Registration} (h : registries.Accepts steps)
    {step : Registration} (hmem : step ∈ steps) :
    Dict.get? (registries.register steps).2.entries step.key = some step.entry := by
  induction steps generalizing registries with
  | nil => cases hmem
  | cons first rest ih =>
      have hfirst : first.refusal (Dict.get? registries.entries first.key) = none :=
        (first.refusal_eq_none_iff _).mpr (h.2 first List.mem_cons_self)
      have hrest := register_fault_eq_none_iff.mpr h
      rw [register_cons_of_accepted hfirst] at hrest ⊢
      rcases List.mem_cons.mp hmem with rfl | hmem
      · exact get?_register_of_some rest (Dict.get?_set_self _ _ _)
      · exact ih (register_fault_eq_none_iff.mp hrest) hmem

/-- A registration that raises has changed nothing exactly where the first step is refused. -/
lemma register_same_iff {steps : List Registration} :
    registries.SameEntries (registries.register steps).2 ↔
      ∀ step, steps.head? = some step →
        step.valid = false ∨ Dict.get? registries.entries step.key ≠ none := by
  cases steps with
  | nil => exact iff_of_true (fun key => rfl) fun step h => by cases h
  | cons step rest =>
      have hhead : (step :: rest).head? = some step := rfl
      cases hrefusal : step.refusal (Dict.get? registries.entries step.key) with
      | some fault =>
          rw [register_cons_of_refused hrefusal]
          refine iff_of_true (fun key => rfl) fun first hfirst => ?_
          obtain rfl := Option.some.inj (hhead.symm.trans hfirst)
          by_contra hcontra
          push Not at hcontra
          have hnone := (step.refusal_eq_none_iff _).mpr
            ⟨by simpa using hcontra.1, hcontra.2⟩
          rw [hrefusal] at hnone
          cases hnone
      | none =>
          obtain ⟨hvalid, hfree⟩ := (step.refusal_eq_none_iff _).mp hrefusal
          refine iff_of_false (fun hsame => ?_) fun hfirst => ?_
          · have hnew := hsame step.key
            rw [hfree, register_cons_of_accepted hrefusal,
              get?_register_of_some rest (by rw [Dict.get?_set, if_pos rfl])] at hnew
            cases hnew
          · rcases hfirst step hhead with hinvalid | htaken
            · rw [hvalid] at hinvalid
              cases hinvalid
            · exact htaken hfree

@[simp] lemma attached_register (registries : PluginRegistries) (steps : List Registration) :
    (registries.register steps).2.attached = registries.attached := by
  induction steps generalizing registries with
  | nil => rfl
  | cons step rest ih =>
      cases hrefusal : step.refusal (Dict.get? registries.entries step.key) with
      | some fault => rw [register_cons_of_refused hrefusal]
      | none => rw [register_cons_of_accepted hrefusal, ih]

lemma SameEntries.register {registries' : PluginRegistries} (h : registries.SameEntries registries')
    (steps : List Registration) :
    (registries.register steps).1 = (registries'.register steps).1 ∧
      (registries.register steps).2.SameEntries (registries'.register steps).2 := by
  induction steps generalizing registries registries' with
  | nil => exact ⟨rfl, h⟩
  | cons step rest ih =>
      have hsame := h step.key
      cases hrefusal : step.refusal (Dict.get? registries.entries step.key) with
      | some fault =>
          rw [register_cons_of_refused hrefusal, register_cons_of_refused (hsame ▸ hrefusal)]
          exact ⟨rfl, h⟩
      | none =>
          rw [register_cons_of_accepted hrefusal, register_cons_of_accepted (hsame ▸ hrefusal)]
          refine ih fun key => ?_
          rw [Dict.get?_set, Dict.get?_set, h key]

/-- The keys under which contributions are taken back. -/
def attachedKeys (attached : ContributionKind → Bool) (contributions : List Contribution) :
    List (ContributionKind × String) :=
  (contributions.filter fun contribution => attached contribution.kind).map Contribution.key

lemma unregister_eq (registries : PluginRegistries) (contributions : List Contribution) :
    registries.unregister contributions = { registries with
      entries := (attachedKeys registries.attached contributions.reverse).foldl
        (fun entries key => Dict.erase entries key) registries.entries } := by
  unfold unregister attachedKeys
  generalize contributions.reverse = list
  induction list generalizing registries with
  | nil => rfl
  | cons contribution rest ih =>
      rw [List.foldl_cons, ih]
      by_cases hkind : registries.attached contribution.kind = true
      · have hfilter := List.filter_cons_of_pos (l := rest)
          (p := fun c : Contribution => registries.attached c.kind) hkind
        rw [if_pos hkind, hfilter]
        rfl
      · have hfilter := List.filter_cons_of_neg (l := rest)
          (p := fun c : Contribution => registries.attached c.kind) hkind
        rw [if_neg hkind, hfilter]

@[simp] lemma attached_unregister (registries : PluginRegistries)
    (contributions : List Contribution) :
    (registries.unregister contributions).attached = registries.attached := by
  rw [unregister_eq]

lemma get?_unregister (registries : PluginRegistries) (contributions : List Contribution)
    (key : ContributionKind × String) :
    Dict.get? (registries.unregister contributions).entries key =
      if key ∈ attachedKeys registries.attached contributions then none
      else Dict.get? registries.entries key := by
  have herase : ∀ (keys : List (ContributionKind × String))
      (entries : Dict (ContributionKind × String) RegistryEntry),
      Dict.get? (keys.foldl (fun entries key => Dict.erase entries key) entries) key =
        if key ∈ keys then none else Dict.get? entries key := by
    intro keys
    induction keys with
    | nil => exact fun entries => (if_neg List.not_mem_nil).symm
    | cons first rest ih =>
        intro entries
        rw [List.foldl_cons, ih, Dict.get?_erase]
        by_cases hrest : key ∈ rest
        · rw [if_pos hrest, if_pos (List.mem_cons_of_mem _ hrest)]
        · rw [if_neg hrest]
          by_cases hfirst : first = key
          · rw [if_pos hfirst, if_pos (hfirst ▸ List.mem_cons_self)]
          · rw [if_neg hfirst, if_neg]
            exact fun hmem => (List.mem_cons.mp hmem).elim (fun heq => hfirst heq.symm) hrest
  have hreverse : key ∈ attachedKeys registries.attached contributions.reverse ↔
      key ∈ attachedKeys registries.attached contributions := by
    unfold attachedKeys
    rw [List.filter_reverse, List.map_reverse, List.mem_reverse]
  rw [unregister_eq, herase]
  exact if_congr hreverse rfl rfl

end PluginRegistries

end Samaktha
