import Samaktha.Foundation.DependencyOrder
import Samaktha.Foundation.Search
import Samaktha.Plugins.Load
import Mathlib.Data.Prod.Lex
import Mathlib.Data.String.Basic

/-!
# Dependencies between plugins

`app.plugins.semver` and `app.plugins.dependencies`: a version and its constraints, the record
that is chosen for a declared dependency, and the order in which the dependencies of a plugin
are loaded.

The chosen records are kept in a dictionary with one place for each record, so that of several
declared dependencies of a plugin the last one stays.  What is resolved is therefore the chain
that leads from the target to the choice for its last dependency, and so on
(`resolveDependencies_iff`).

The interpreter's limit on the digits of an integer text is left out.
-/

namespace Samaktha

/-! ## Versions -/

/-- An immutable, ordered `MAJOR.MINOR.PATCH` version. -/
structure SemanticVersion where
  major : ℕ
  minor : ℕ
  patch : ℕ
  deriving Repr, DecidableEq, Inhabited

namespace SemanticVersion

def lt (v w : SemanticVersion) : Bool :=
  v.major < w.major || (v.major = w.major && (v.minor < w.minor ||
    (v.minor = w.minor && v.patch < w.patch)))

/-- `[-+][0-9A-Za-z.-]+`, or nothing. -/
def isSuffix : List Char → Bool
  | [] => true
  | c :: cs => c ∈ ['-', '+'] && cs ≠ [] && cs.all fun d => d.isAlphanum || d ∈ ['.', '-']

def afterDot : List Char → Option (List Char)
  | '.' :: cs => some cs
  | _ => none

def parseChars (cs : List Char) : Option SemanticVersion := do
  let (major, cs) ← Text.readNumber cs
  let cs ← afterDot cs
  let (minor, cs) ← Text.readNumber cs
  let cs ← afterDot cs
  let (patch, cs) ← Text.readNumber cs
  if isSuffix cs then some ⟨major, minor, patch⟩ else none

/-- `SemanticVersion.parse`; `none` where it raises `VersionError`. -/
def parse (value : String) : Option SemanticVersion := parseChars (Text.strip value).toList

/-- The operators of a constraint, in the order in which they are looked for. -/
def operators : List (String × (SemanticVersion → SemanticVersion → Bool)) := [
  (">=", fun v base => !v.lt base),
  ("<=", fun v base => !base.lt v),
  (">", fun v base => base.lt v),
  ("<", fun v base => v.lt base),
  ("==", fun v base => v = base),
  ("^", fun v base => !v.lt base && v.major = base.major),
  ("~", fun v base => v.major = base.major && v.minor = base.minor && base.patch ≤ v.patch)]

/-- `satisfies`; `none` where it raises `VersionError`. -/
def satisfies (version : SemanticVersion) (constraint : String) : Option Bool :=
  let constraint := Text.strip constraint
  if constraint = "" || constraint = "*" then some true
  else
    match operators.find? fun op => op.1.toList.isPrefixOf constraint.toList with
    | some (op, holds) =>
        (parse (Text.strip (String.ofList (constraint.toList.drop op.length)))).map (holds version)
    | none => (parse constraint).map fun base => version = base

end SemanticVersion

/-- `PluginManifest.key`. -/
def PluginManifest.key (manifest : PluginManifest) : String :=
  manifest.id ++ "@" ++ manifest.version

/-- `PluginRecord.key`. -/
def PluginRecord.key (record : PluginRecord) : String := record.manifest.key

/-- Whether a record is of the plugin that a dependency names, in a version that it allows. -/
def PluginDependency.satisfiedBy (dependency : PluginDependency) (record : PluginRecord) : Bool :=
  record.manifest.id = dependency.pluginId &&
    ((SemanticVersion.parse record.manifest.version).bind fun version =>
      version.satisfies dependency.version).getD false

/-- Raised when plugin dependencies cannot be resolved. -/
structure DependencyResolutionError where
  message : String
  missing : List String := []
  cycles : List String := []
  deriving Repr, DecidableEq, Inhabited

namespace Dependencies

/-! ## Choosing -/

/-- `_version_key`, and the key. -/
def rank (record : PluginRecord) : ℕ ×ₗ ℕ ×ₗ ℕ ×ₗ String :=
  let version := (SemanticVersion.parse record.manifest.version).getD ⟨0, 0, 0⟩
  toLex (version.major, toLex (version.minor, toLex (version.patch, record.key)))

/-- The candidates for a dependency, the highest version first. -/
def candidates (records : List PluginRecord) (dependency : PluginDependency) :
    List PluginRecord :=
  (records.filter dependency.satisfiedBy).insertionSort fun r s => rank s ≤ rank r

def chooseCandidate (records : List PluginRecord) (preferLoaded : List String)
    (dependency : PluginDependency) : Option PluginRecord :=
  let sorted := candidates records dependency
  (sorted.find? fun record => record.key ∈ preferLoaded).or sorted.head?

/-- The dependencies that were chosen, by id and key of the record that declares them, and the
texts of those for which there is none. -/
structure Selection where
  selected : Dict (String × String) String := []
  missing : List String := []

/-- The text of a dependency for which there is no candidate. -/
def missingText (records : List PluginRecord) (record : PluginRecord)
    (dependency : PluginDependency) : String :=
  let available := (((records.filter fun r => r.manifest.id = dependency.pluginId).map
    fun r => r.manifest.version).dedup).insertionSort (· ≤ ·)
  let constraint := if dependency.version = "" then "*" else dependency.version
  record.key ++ " requires " ++ dependency.pluginId ++ "@" ++ constraint ++ " (available: " ++
    (if available = [] then "none" else ", ".intercalate available) ++ ")"

/-- One declared dependency of `_select_dependency_keys`. -/
def selectOne (records : List PluginRecord) (preferLoaded : List String) (record : PluginRecord)
    (selection : Selection) (dependency : PluginDependency) : Selection :=
  match chooseCandidate records preferLoaded dependency with
  | none => { selection with
      missing := selection.missing ++ [missingText records record dependency] }
  | some pick => { selection with
      selected := Dict.set selection.selected (record.manifest.id, record.key) pick.key }

/-- The declared dependencies of some records. -/
def selectAll (records : List PluginRecord) (preferLoaded : List String) :
    List PluginRecord → Selection → Selection
  | [], selection => selection
  | record :: rest, selection =>
      selectAll records preferLoaded rest
        (record.manifest.dependencies.foldl (selectOne records preferLoaded record) selection)

def selectDependencyKeys (records : List PluginRecord) (preferLoaded : List String) :
    Except DependencyResolutionError (Dict (String × String) String) :=
  let selection := selectAll records preferLoaded records {}
  if selection.missing ≠ [] then
    .error {
      message := "Unresolvable plugin dependencies: " ++ "; ".intercalate selection.missing
      missing := selection.missing }
  else .ok selection.selected

/-! ## Ordering -/

/-- `{r.key: r for r in records}`. -/
def keyToRecord (records : List PluginRecord) : Dict String PluginRecord :=
  Dict.ofList (records.map fun r => (r.key, r))

/-- `selected.get((record.manifest.id, key))` for the record of a key. -/
def dependencyOf (records : List PluginRecord) (selected : Dict (String × String) String)
    (key : String) : Option String :=
  (Dict.get? (keyToRecord records) key).bind fun record =>
    Dict.get? selected (record.manifest.id, key)

/-- The graph of `_toposort`: for each key the keys that wait for it. -/
def waitingGraph (dependencyOf : String → Option String) (keys : List String) :
    Dict String (List String) :=
  keys.foldl (fun graph key =>
    match dependencyOf key with
    | none => graph
    | some dependency =>
        match Dict.get? graph dependency with
        | none => graph
        | some waiting => Dict.set graph dependency (waiting ++ [key]))
    (Dict.ofList (keys.map fun key => (key, [])))

def toposort (records : List PluginRecord) (selected : Dict (String × String) String)
    (subset : Option (List String)) : Except DependencyResolutionError (List String) :=
  let all := (records.map PluginRecord.key).insertionSort (· ≤ ·)
  let keys := match subset with
    | some nodes => all.filter (· ∈ nodes)
    | none => all
  let graph := waitingGraph (dependencyOf records selected) keys
  let order := DependencyOrder.dependencyOrder graph
  if order.length ≠ graph.length then
    let nodes := ((Dict.keys graph).filter (· ∉ order)).insertionSort (· ≤ ·)
    .error {
      message := "Circular plugin dependency detected involving: " ++ ", ".intercalate nodes
      cycles := nodes }
  else .ok order

def resolveLoadOrder (records : List PluginRecord) (preferLoaded : List String) :
    Except DependencyResolutionError (List String) := do
  let selected ← selectDependencyKeys records preferLoaded
  toposort records selected none

/-- The loop of `resolve_dependencies`, within a number of rounds. -/
def closureLoop (dependencyOf : String → Option String) :
    ℕ → List String → List String → List String
  | 0, closure, _ => closure
  | _, closure, [] => closure
  | fuel + 1, closure, key :: stack =>
      match dependencyOf key with
      | none => closureLoop dependencyOf fuel closure stack
      | some dependency =>
          if dependency ∈ closure then closureLoop dependencyOf fuel closure stack
          else closureLoop dependencyOf fuel (closure ++ [dependency]) (dependency :: stack)

/-- `resolve_dependencies`; the loop ends within a round for the target and one for each
record. -/
def resolveDependencies (records : List PluginRecord) (target : String)
    (preferLoaded : List String) : Except DependencyResolutionError (List String) := do
  let selected ← selectDependencyKeys records preferLoaded
  let closure := closureLoop (dependencyOf records selected) (records.length + 1) [] [target]
  let order ← toposort records selected (some (target :: closure))
  return order.filter (· ≠ target)

section

variable {records : List PluginRecord} {preferLoaded : List String}

/-! ## What is chosen -/

lemma mem_candidates {dependency : PluginDependency} {record : PluginRecord} :
    record ∈ candidates records dependency ↔
      record ∈ records ∧ dependency.satisfiedBy record = true := by
  rw [candidates, List.mem_insertionSort, List.mem_filter]

/-- What is chosen is registered and satisfies the dependency. -/
lemma chooseCandidate_spec {dependency : PluginDependency} {pick : PluginRecord}
    (h : chooseCandidate records preferLoaded dependency = some pick) :
    pick ∈ records ∧ dependency.satisfiedBy pick = true := by
  refine mem_candidates.mp ?_
  unfold chooseCandidate at h
  rcases Option.or_eq_some_iff.mp h with hpreferred | ⟨-, hhighest⟩
  · exact List.mem_of_find?_eq_some hpreferred
  · exact List.mem_of_mem_head? hhighest

/-- The record of a key, and the choice for its last dependency. -/
def lastChoice (records : List PluginRecord) (preferLoaded : List String) (key : String) :
    Option String :=
  (records.find? fun r => r.key = key).bind fun record =>
    (record.manifest.dependencies.getLast?.bind (chooseCandidate records preferLoaded)).map
      PluginRecord.key

/-- There is a candidate for every declared dependency. -/
def Choosable (records : List PluginRecord) (preferLoaded : List String) : Prop :=
  ∀ record ∈ records, ∀ dependency ∈ record.manifest.dependencies,
    (chooseCandidate records preferLoaded dependency).isSome = true

instance : Decidable (Choosable records preferLoaded) :=
  inferInstanceAs (Decidable (∀ record ∈ records, ∀ dependency ∈ record.manifest.dependencies, _))

lemma find?_key (hkeys : (records.map PluginRecord.key).Nodup) {record : PluginRecord}
    (h : record ∈ records) : (records.find? fun r => r.key = record.key) = some record := by
  cases hfind : records.find? fun r => r.key = record.key with
  | none =>
      have hnone := List.find?_eq_none.mp hfind record h
      simp at hnone
  | some found =>
      have hkey : found.key = record.key := by simpa using List.find?_some hfind
      rw [List.inj_on_of_nodup_map hkeys (List.mem_of_find?_eq_some hfind) h hkey]

lemma get?_keyToRecord (hkeys : (records.map PluginRecord.key).Nodup) (key : String) :
    Dict.get? (keyToRecord records) key = records.find? fun r => r.key = key := by
  have hnodup : Dict.NodupKeys (records.map fun r => (r.key, r)) := by
    rw [Dict.NodupKeys, Dict.keys, List.map_map]
    exact hkeys
  rw [keyToRecord, Dict.get?_ofList hnodup]
  clear hkeys hnodup
  induction records with
  | nil => rfl
  | cons record rest ih =>
      rw [List.map_cons, Dict.get?_cons, List.find?_cons]
      by_cases hkey : record.key = key
      · rw [if_pos hkey, decide_eq_true hkey]
      · rw [if_neg hkey, decide_eq_false hkey, ih]

/-! ### The dictionary of choices -/

lemma missing_foldl (record : PluginRecord) (dependencies : List PluginDependency)
    (selection : Selection) :
    (dependencies.foldl (selectOne records preferLoaded record) selection).missing = [] ↔
      selection.missing = [] ∧ ∀ dependency ∈ dependencies,
        (chooseCandidate records preferLoaded dependency).isSome = true := by
  induction dependencies generalizing selection with
  | nil => simp
  | cons dependency rest ih =>
      rw [List.foldl_cons, ih, List.forall_mem_cons, ← and_assoc]
      refine and_congr_left fun _ => ?_
      unfold selectOne
      cases chooseCandidate records preferLoaded dependency with
      | none => simp
      | some pick => simp

lemma missing_selectAll (rest : List PluginRecord) (selection : Selection) :
    (selectAll records preferLoaded rest selection).missing = [] ↔
      selection.missing = [] ∧ ∀ record ∈ rest, ∀ dependency ∈ record.manifest.dependencies,
        (chooseCandidate records preferLoaded dependency).isSome = true := by
  induction rest generalizing selection with
  | nil => simp [selectAll]
  | cons record rest ih =>
      rw [selectAll, ih, missing_foldl, List.forall_mem_cons, and_assoc]

lemma selected_foldl_of_ne {record : PluginRecord} (dependencies : List PluginDependency)
    (selection : Selection) {id key : String} (h : record.key ≠ key) :
    Dict.get? (dependencies.foldl (selectOne records preferLoaded record) selection).selected
      (id, key) = Dict.get? selection.selected (id, key) := by
  induction dependencies generalizing selection with
  | nil => rfl
  | cons dependency rest ih =>
      rw [List.foldl_cons, ih]
      unfold selectOne
      cases chooseCandidate records preferLoaded dependency with
      | none => rfl
      | some pick => exact Dict.get?_set_of_ne (fun heq => h (Prod.mk.inj heq).2) _ _

lemma selected_foldl {record : PluginRecord} {dependencies : List PluginDependency}
    (hchoosable : ∀ dependency ∈ dependencies,
      (chooseCandidate records preferLoaded dependency).isSome = true) {selection : Selection}
    (hnew : Dict.get? selection.selected (record.manifest.id, record.key) = none) :
    Dict.get? (dependencies.foldl (selectOne records preferLoaded record) selection).selected
        (record.manifest.id, record.key) =
      (dependencies.getLast?.bind (chooseCandidate records preferLoaded)).map
        PluginRecord.key := by
  rcases List.eq_nil_or_concat dependencies with rfl | ⟨init, last, rfl⟩
  · exact hnew
  · obtain ⟨pick, hpick⟩ := Option.isSome_iff_exists.mp
      (hchoosable last (by simp))
    rw [List.concat_eq_append, List.foldl_append, List.getLast?_concat]
    show Dict.get? (selectOne records preferLoaded record _ last).selected _ = _
    unfold selectOne
    rw [Option.bind_some, hpick]
    exact Dict.get?_set_self _ _ _

lemma selected_selectAll_of_ne (rest : List PluginRecord) (selection : Selection)
    {id key : String} (h : ∀ record ∈ rest, record.key ≠ key) :
    Dict.get? (selectAll records preferLoaded rest selection).selected (id, key) =
      Dict.get? selection.selected (id, key) := by
  induction rest generalizing selection with
  | nil => rfl
  | cons record rest ih =>
      rw [selectAll, ih _ fun other hother => h other (List.mem_cons_of_mem record hother),
        selected_foldl_of_ne _ _ (h record List.mem_cons_self)]

lemma selected_selectAll {rest : List PluginRecord}
    (hkeys : (rest.map PluginRecord.key).Nodup)
    (hchoosable : ∀ record ∈ rest, ∀ dependency ∈ record.manifest.dependencies,
      (chooseCandidate records preferLoaded dependency).isSome = true) {selection : Selection}
    (hnew : ∀ record ∈ rest,
      Dict.get? selection.selected (record.manifest.id, record.key) = none)
    {record : PluginRecord} (h : record ∈ rest) :
    Dict.get? (selectAll records preferLoaded rest selection).selected
        (record.manifest.id, record.key) =
      (record.manifest.dependencies.getLast?.bind (chooseCandidate records preferLoaded)).map
        PluginRecord.key := by
  induction rest generalizing selection with
  | nil => cases h
  | cons first rest ih =>
      rw [List.map_cons, List.nodup_cons] at hkeys
      obtain ⟨hfirst, hrest⟩ := hkeys
      have hne : ∀ other ∈ rest, first.key ≠ other.key := fun other hother heq =>
        hfirst (List.mem_map.mpr ⟨other, hother, heq.symm⟩)
      rw [selectAll]
      rcases List.mem_cons.mp h with rfl | hmem
      · rw [selected_selectAll_of_ne rest _ fun other hother => (hne other hother).symm]
        exact selected_foldl (hchoosable record List.mem_cons_self)
          (hnew record List.mem_cons_self)
      · refine ih hrest (fun other hother => hchoosable other (List.mem_cons_of_mem _ hother))
          (fun other hother => ?_) hmem
        rw [selected_foldl_of_ne _ _ (hne other hother)]
        exact hnew other (List.mem_cons_of_mem _ hother)

/-- The dictionary of choices is there where there is a candidate for every dependency. -/
lemma selectDependencyKeys_spec (preferLoaded : List String)
    (hkeys : (records.map PluginRecord.key).Nodup) :
    (Choosable records preferLoaded ∧ ∃ selected,
      selectDependencyKeys records preferLoaded = .ok selected ∧
        dependencyOf records selected = lastChoice records preferLoaded) ∨
    (¬Choosable records preferLoaded ∧ ∃ error,
      selectDependencyKeys records preferLoaded = .error error ∧ error.cycles = []) := by
  have hmissing : (selectAll records preferLoaded records {}).missing = [] ↔ _ :=
    missing_selectAll records {}
  unfold selectDependencyKeys
  by_cases hnone : (selectAll records preferLoaded records {}).missing = []
  · have hchoosable : Choosable records preferLoaded := (hmissing.mp hnone).2
    refine .inl ⟨hchoosable, _, if_neg (not_not_intro hnone), funext fun key => ?_⟩
    unfold dependencyOf lastChoice
    rw [get?_keyToRecord hkeys]
    cases hfind : records.find? fun r => r.key = key with
    | none => rfl
    | some record =>
        have hkey : record.key = key := by simpa using List.find?_some hfind
        rw [Option.bind_some, Option.bind_some, ← hkey]
        exact selected_selectAll hkeys hchoosable (fun _ _ => rfl)
          (List.mem_of_find?_eq_some hfind)
  · refine .inr ⟨fun hchoosable => hnone (hmissing.mpr ⟨rfl, hchoosable⟩), _, if_pos hnone, rfl⟩

/-! ## The graph -/

/-- The graph of `_toposort` has, for each key, the keys whose dependency it is. -/
lemma waitingGraph_spec (dependencyOf : String → Option String) {keys : List String}
    (hkeys : keys.Nodup) :
    Dict.keys (waitingGraph dependencyOf keys) = keys ∧ ∀ b,
      Dict.get? (waitingGraph dependencyOf keys) b =
        if b ∈ keys then some (keys.filter fun a => dependencyOf a = some b) else none := by
  have hmain : ∀ (rest done : List String) (graph : Dict String (List String)),
      Dict.keys graph = keys →
      (∀ b, Dict.get? graph b =
        if b ∈ keys then some (done.filter fun a => dependencyOf a = some b) else none) →
      let after := rest.foldl (fun graph key =>
        match dependencyOf key with
        | none => graph
        | some dependency =>
            match Dict.get? graph dependency with
            | none => graph
            | some waiting => Dict.set graph dependency (waiting ++ [key])) graph
      Dict.keys after = keys ∧ ∀ b, Dict.get? after b = if b ∈ keys then
        some ((done ++ rest).filter fun a => dependencyOf a = some b) else none := by
    intro rest
    induction rest with
    | nil =>
        intro done graph hgraph hget
        rw [List.append_nil]
        exact ⟨hgraph, hget⟩
    | cons key rest ih =>
        intro done graph hgraph hget
        rw [List.foldl_cons, List.append_cons]
        refine ih (done ++ [key]) _ ?_ ?_
        · cases dependencyOf key with
          | none => exact hgraph
          | some dependency =>
              dsimp only
              rw [hget dependency]
              by_cases hmem : dependency ∈ keys
              · rw [if_pos hmem]
                dsimp only
                rw [Dict.keys_set, hgraph, if_pos hmem]
              · rw [if_neg hmem]
                exact hgraph
        · intro b
          have hfilter : (done ++ [key]).filter (fun a => dependencyOf a = some b) =
              (done.filter fun a => dependencyOf a = some b) ++
                if dependencyOf key = some b then [key] else [] := by
            rw [List.filter_append]
            refine congrArg _ ?_
            by_cases hdep : dependencyOf key = some b
            · simp [hdep]
            · simp [hdep]
          rw [hfilter]
          cases hkey : dependencyOf key with
          | none =>
              rw [if_neg (Option.some_ne_none b).symm, List.append_nil]
              exact hget b
          | some dependency =>
              dsimp only
              rw [hget dependency]
              by_cases hmem : dependency ∈ keys
              · rw [if_pos hmem]
                dsimp only
                rw [Dict.get?_set]
                by_cases heq : dependency = b
                · subst heq
                  rw [if_pos rfl, if_pos hmem, if_pos rfl]
                · rw [if_neg heq, hget b, if_neg fun hsome => heq (Option.some.inj hsome),
                    List.append_nil]
              · rw [if_neg hmem]
                by_cases hb : b ∈ keys
                · have hne : dependency ≠ b := fun heq => hmem (heq ▸ hb)
                  rw [hget b, if_pos hb, if_pos hb,
                    if_neg fun hsome => hne (Option.some.inj hsome), List.append_nil]
                · rw [hget b, if_neg hb, if_neg hb]
  have hstart : Dict.NodupKeys (keys.map fun key => (key, ([] : List String))) := by
    rw [Dict.NodupKeys, Dict.keys, List.map_map]
    simpa [Function.comp_def] using hkeys
  refine hmain keys [] _ ?_ fun b => ?_
  · rw [Dict.ofList_eq_self hstart, Dict.keys, List.map_map]
    simp [Function.comp_def]
  · rw [Dict.ofList_eq_self hstart, List.filter_nil]
    clear hstart hmain
    induction keys with
    | nil => rfl
    | cons key rest ih =>
        rw [List.map_cons, Dict.get?_cons, ih (List.nodup_cons.mp hkeys).2]
        by_cases hb : key = b
        · rw [if_pos hb, if_pos (hb ▸ List.mem_cons_self)]
        · rw [if_neg hb]
          refine if_congr ?_ rfl rfl
          rw [List.mem_cons, or_iff_right fun heq => hb heq.symm]

/-! ## The chain -/

/-- The second key is the choice for the last dependency of the first one. -/
def Next (records : List PluginRecord) (preferLoaded : List String) (a b : String) : Prop :=
  lastChoice records preferLoaded a = some b

/-- The chosen dependency relation: the second key is the choice for a dependency of the first
one. -/
def DependsOn (records : List PluginRecord) (preferLoaded : List String) (a b : String) : Prop :=
  ∃ record ∈ records, record.key = a ∧ ∃ dependency ∈ record.manifest.dependencies,
    ∃ pick, chooseCandidate records preferLoaded dependency = some pick ∧ pick.key = b

lemma Next.dependsOn {a b : String} (h : Next records preferLoaded a b) :
    DependsOn records preferLoaded a b := by
  obtain ⟨record, hfind, hchoice⟩ := Option.bind_eq_some_iff.mp h
  obtain ⟨pick, hpick, hkey⟩ := Option.map_eq_some_iff.mp hchoice
  obtain ⟨dependency, hlast, hchosen⟩ := Option.bind_eq_some_iff.mp hpick
  exact ⟨record, List.mem_of_find?_eq_some hfind, by simpa using List.find?_some hfind,
    dependency, List.mem_of_getLast? hlast, pick, hchosen, hkey⟩

lemma DependsOn.registered {a b : String} (h : DependsOn records preferLoaded a b) :
    b ∈ records.map PluginRecord.key := by
  obtain ⟨record, -, -, dependency, -, pick, hchosen, hkey⟩ := h
  exact List.mem_map.mpr ⟨pick, (chooseCandidate_spec hchosen).1, hkey⟩

lemma closureLoop_nil (dependencyOf : String → Option String) (fuel : ℕ)
    (closure : List String) : closureLoop dependencyOf fuel closure [] = closure := by
  cases fuel <;> rfl

lemma mem_closureLoop {dependencyOf : String → Option String} {target : String}
    {nodes : List String} (hnodes : ∀ a b, dependencyOf a = some b → b ∈ nodes) {fuel : ℕ}
    {closure : List String} {key : String} (hnodup : closure.Nodup)
    (hfuel : nodes.length + 1 ≤ fuel + closure.length) (hkey : key ∈ target :: closure)
    (hclosed : ∀ a ∈ target :: closure, a ≠ key → ∀ b, dependencyOf a = some b → b ∈ closure)
    (hsound : ∀ a ∈ closure, Relation.TransGen (fun a b => dependencyOf a = some b) target a)
    (a : String) :
    a ∈ closureLoop dependencyOf fuel closure [key] ↔
      Relation.TransGen (fun a b => dependencyOf a = some b) target a := by
  have hdone : ∀ closure : List String,
      (∀ a ∈ target :: closure, ∀ b, dependencyOf a = some b → b ∈ closure) →
      (∀ a ∈ closure, Relation.TransGen (fun a b => dependencyOf a = some b) target a) →
      (a ∈ closure ↔ Relation.TransGen (fun a b => dependencyOf a = some b) target a) := by
    intro closure hall hsound
    refine ⟨hsound a, fun hpath => ?_⟩
    induction hpath with
    | single hstep => exact hall target List.mem_cons_self _ hstep
    | tail _ hstep ih => exact hall _ (List.mem_cons_of_mem target ih) _ hstep
  induction fuel generalizing closure key with
  | zero =>
      have hsub : closure ⊆ nodes := by
        intro b hb
        obtain ⟨c, -, hstep⟩ := (Relation.TransGen.tail'_iff).mp (hsound b hb)
        exact hnodes c b hstep
      have hle := (List.subperm_of_subset hnodup hsub).length_le
      omega
  | succ fuel ih =>
      unfold closureLoop
      have hreach : Relation.ReflTransGen (fun a b => dependencyOf a = some b) target key := by
        rcases List.mem_cons.mp hkey with rfl | hmem
        · exact .refl
        · exact (hsound key hmem).to_reflTransGen
      cases hstep : dependencyOf key with
      | none =>
          dsimp only
          rw [closureLoop_nil]
          refine hdone closure (fun c hc b hb => ?_) hsound
          by_cases heq : c = key
          · rw [heq, hstep] at hb
            cases hb
          · exact hclosed c hc heq b hb
      | some dependency =>
          dsimp only
          by_cases hmem : dependency ∈ closure
          · rw [if_pos hmem, closureLoop_nil]
            refine hdone closure (fun c hc b hb => ?_) hsound
            by_cases heq : c = key
            · rw [heq, hstep] at hb
              rw [← Option.some.inj hb]
              exact hmem
            · exact hclosed c hc heq b hb
          · rw [if_neg hmem]
            refine ih ?_ ?_ ?_ ?_ ?_
            · exact hnodup.append (List.nodup_singleton _) (by simpa using hmem)
            · rw [List.length_append, List.length_singleton]
              omega
            · simp
            · intro c hc hne b hb
              refine List.mem_append.mpr ?_
              have hold : c ∈ target :: closure := by
                rcases List.mem_cons.mp hc with rfl | hc
                · exact List.mem_cons_self
                · rcases List.mem_append.mp hc with hc | hc
                  · exact List.mem_cons_of_mem target hc
                  · exact absurd (List.mem_singleton.mp hc) hne
              by_cases heq : c = key
              · rw [heq, hstep] at hb
                exact .inr (by rw [← Option.some.inj hb]; exact List.mem_singleton_self _)
              · exact .inl (hclosed c hold heq b hb)
            · intro c hc
              rcases List.mem_append.mp hc with hc | hc
              · exact hsound c hc
              · rw [List.mem_singleton.mp hc]
                exact Relation.TransGen.tail' hreach hstep

/-- A cycle of a relation is reached from a key. -/
def CycleFrom (r : String → String → Prop) (target : String) : Prop :=
  ∃ a, Relation.ReflTransGen r target a ∧ Relation.TransGen r a a

lemma toposort_chain (hkeys : (records.map PluginRecord.key).Nodup) {target : String}
    (htarget : target ∈ records.map PluginRecord.key)
    {selected : Dict (String × String) String}
    (hselected : dependencyOf records selected = lastChoice records preferLoaded) :
    let result := toposort records selected
      (some (target ::
        closureLoop (dependencyOf records selected) (records.length + 1) [] [target]))
    (∃ order, result = .ok order ∧ order.Nodup ∧
      (∀ a, a ∈ order ↔ Relation.ReflTransGen (Next records preferLoaded) target a) ∧
      ∀ a b, a ∈ order → Next records preferLoaded a b → order.idxOf b < order.idxOf a) ∨
    (∃ error, result = .error error ∧ error.cycles ≠ [] ∧
      CycleFrom (Next records preferLoaded) target) := by
  intro result
  have hregistered : ∀ a b, lastChoice records preferLoaded a = some b →
      b ∈ records.map PluginRecord.key := fun a b h =>
    (Next.dependsOn (show Next records preferLoaded a b from h)).registered
  have hclosure : ∀ a, a ∈ closureLoop (lastChoice records preferLoaded) (records.length + 1) []
      [target] ↔ Relation.TransGen (Next records preferLoaded) target a :=
    mem_closureLoop hregistered List.nodup_nil
      (by rw [List.length_map, List.length_nil, add_zero]) List.mem_cons_self
      (fun a ha hne => absurd (List.mem_singleton.mp ha) hne) (fun a ha => (by cases ha))
  set keys := ((records.map PluginRecord.key).insertionSort (· ≤ ·)).filter
    (· ∈ target :: closureLoop (dependencyOf records selected) (records.length + 1) [] [target])
    with hkeysdef
  have hmem : ∀ a, a ∈ keys ↔ Relation.ReflTransGen (Next records preferLoaded) target a := by
    intro a
    rw [hkeysdef, hselected, List.mem_filter, List.mem_insertionSort, decide_eq_true_eq,
      List.mem_cons, hclosure]
    constructor
    · rintro ⟨-, rfl | hpath⟩
      · exact .refl
      · exact hpath.to_reflTransGen
    · intro hpath
      rcases Relation.reflTransGen_iff_eq_or_transGen.mp hpath with rfl | hpath
      · exact ⟨htarget, .inl rfl⟩
      · obtain ⟨c, -, hstep⟩ := Relation.TransGen.tail'_iff.mp hpath
        exact ⟨hregistered c a hstep, .inr hpath⟩
  have hnodup : keys.Nodup :=
    ((List.perm_insertionSort _ _).nodup_iff.mpr hkeys).filter _
  obtain ⟨hnodes, hget⟩ := waitingGraph_spec (lastChoice records preferLoaded) hnodup
  set graph := waitingGraph (lastChoice records preferLoaded) keys with hgraphdef
  have hgraph : Dict.NodupKeys graph := by
    rw [Dict.NodupKeys, hnodes]
    exact hnodup
  have hwaiting : ∀ b waiting, Dict.get? graph b = some waiting →
      b ∈ keys ∧ waiting = keys.filter fun a => lastChoice records preferLoaded a = some b := by
    intro b waiting hb
    rw [hget b] at hb
    split at hb
    · rename_i hin
      exact ⟨hin, (Option.some.inj hb).symm⟩
    · cases hb
  have hclosed : DependencyOrder.Closed graph := by
    intro b waiting hb a ha
    obtain ⟨-, rfl⟩ := hwaiting b waiting hb
    rw [hnodes]
    exact (List.mem_filter.mp ha).1
  obtain ⟨hordered, hstuck⟩ := DependencyOrder.dependencyOrder_spec hgraph hclosed
  set order := DependencyOrder.dependencyOrder graph with horderdef
  have hresult : result = if order.length ≠ graph.length then .error {
        message := "Circular plugin dependency detected involving: " ++
          ", ".intercalate (((Dict.keys graph).filter (· ∉ order)).insertionSort (· ≤ ·))
        cycles := ((Dict.keys graph).filter (· ∉ order)).insertionSort (· ≤ ·) }
      else .ok order := by
    rw [horderdef, hgraphdef, ← hselected]
    rfl
  have hlength := hordered.length_eq_iff hgraph
  rw [hnodes] at hlength
  by_cases hall : ∀ a ∈ keys, a ∈ order
  · refine .inl ⟨order, ?_, hordered.nodup, fun a => ?_, fun a b ha hstep => ?_⟩
    · rw [hresult, if_neg (not_not_intro (hlength.mpr hall))]
    · rw [← hmem a]
      exact ⟨fun ha => hnodes ▸ hordered.nodes a ha, hall a⟩
    · have hain : a ∈ keys := hnodes ▸ hordered.nodes a ha
      have hbin : b ∈ keys := (hmem b).mpr (((hmem a).mp hain).tail hstep)
      have hb := hget b
      rw [if_pos hbin] at hb
      exact hordered.idxOf_lt ha hb (List.mem_filter.mpr ⟨hain, decide_eq_true hstep⟩)
  · refine .inr ⟨_, by rw [hresult, if_pos fun heq => hall (hlength.mp heq)], ?_, ?_⟩
    · push Not at hall
      obtain ⟨a, ha, hout⟩ := hall
      refine List.ne_nil_of_mem (a := a) ?_
      rw [List.mem_insertionSort, List.mem_filter, hnodes]
      exact ⟨ha, by simpa using hout⟩
    · -- the keys that are left out have no minimal one
      by_contra hacyclic
      push Not at hall
      obtain ⟨a, ha, hout⟩ := hall
      have hminimal := Search.exists_minimal
        (r := fun a b => Relation.ReflTransGen (Next records preferLoaded) target a ∧
          Next records preferLoaded a b) (s := {a | a ∈ keys ∧ a ∉ order}) (fun c hcycle => ?_)
        (keys.finite_toSet.subset fun c hc => hc.1) ⟨a, ha, hout⟩
      · obtain ⟨m, ⟨hm, hmout⟩, hmin⟩ := hminimal
        obtain ⟨b, waiting, hb, hbout, hmwaits⟩ := hstuck m (hnodes ▸ hm) hmout
        obtain ⟨hbin, rfl⟩ := hwaiting b waiting hb
        have hstep : lastChoice records preferLoaded m = some b :=
          of_decide_eq_true (List.mem_filter.mp hmwaits).2
        exact hmin b ⟨hbin, hbout⟩ ⟨(hmem m).mp hm, hstep⟩
      · refine hacyclic ⟨c, ?_, Relation.TransGen.mono (fun _ _ h => h.2) _ _ hcycle⟩
        obtain ⟨d, hfirst, -⟩ := Relation.TransGen.head'_iff.mp hcycle
        exact hfirst.1

/-! ## What is resolved -/

/-- A list of keys as `resolve_dependencies` should return it: registered plugins other than the
target, each once, with one that satisfies each declared dependency of the target and of the
plugins in the list, and each after the records that are chosen for its own dependencies. -/
structure Resolved (records : List PluginRecord) (preferLoaded : List String) (target : String)
    (keys : List String) : Prop where
  acyclic : ¬CycleFrom (DependsOn records preferLoaded) target
  nodup : keys.Nodup
  registered : ∀ key ∈ keys, key ∈ records.map PluginRecord.key
  excluded : target ∉ keys
  complete : ∀ record ∈ records, record.key = target ∨ record.key ∈ keys →
    ∀ dependency ∈ record.manifest.dependencies,
      ∃ other ∈ records, other.key ∈ keys ∧ dependency.satisfiedBy other = true
  ordered : ∀ record ∈ records, record.key ∈ keys →
    ∀ dependency ∈ record.manifest.dependencies, ∀ pick,
      chooseCandidate records preferLoaded dependency = some pick →
        [pick.key, record.key].Sublist keys

/-- What `resolve_dependencies` is to do: it returns such a list, or raises, and what it raises
names a cycle exactly where the chosen dependency relation has one that the target reaches. -/
def ResolvesAll (records : List PluginRecord) (preferLoaded : List String) (target : String) :
    Prop :=
  match resolveDependencies records target preferLoaded with
  | .ok keys => Resolved records preferLoaded target keys
  | .error error => error.cycles ≠ [] ↔ CycleFrom (DependsOn records preferLoaded) target

/-- Everything that is needed lies on the chain of last dependencies: for each dependency of the
target a record that satisfies it, and for each record of the chain what is chosen for its
dependencies, further along. -/
structure OnChain (records : List PluginRecord) (preferLoaded : List String) (target : String) :
    Prop where
  acyclic : ¬CycleFrom (DependsOn records preferLoaded) target
  ofTarget : ∀ record ∈ records, record.key = target →
    ∀ dependency ∈ record.manifest.dependencies, ∃ other ∈ records,
      Relation.TransGen (Next records preferLoaded) target other.key ∧
        dependency.satisfiedBy other = true
  further : ∀ record ∈ records,
    Relation.TransGen (Next records preferLoaded) target record.key →
      ∀ dependency ∈ record.manifest.dependencies, ∀ pick,
        chooseCandidate records preferLoaded dependency = some pick →
          Relation.TransGen (Next records preferLoaded) record.key pick.key

lemma CycleFrom.dependsOn {target : String} (h : CycleFrom (Next records preferLoaded) target) :
    CycleFrom (DependsOn records preferLoaded) target := by
  obtain ⟨a, hreach, hcycle⟩ := h
  exact ⟨a, Relation.ReflTransGen.mono (fun _ _ => Next.dependsOn) _ _ hreach,
    Relation.TransGen.mono (fun _ _ => Next.dependsOn) _ _ hcycle⟩

/-- In a list without duplicates, what stands before is found before. -/
lemma pair_sublist_iff {l : List String} (h : l.Nodup) {a b : String} :
    [b, a].Sublist l ↔ a ∈ l ∧ l.idxOf b < l.idxOf a := by
  induction l with
  | nil => simp
  | cons c l ih =>
      obtain ⟨hc, hl⟩ := List.nodup_cons.mp h
      rw [List.cons_sublist_cons', ih hl, List.singleton_sublist, List.mem_cons]
      by_cases hbc : b = c
      · subst hbc
        rw [List.idxOf_cons_self]
        by_cases hab : a = b
        · subst hab
          simp [hc]
        · rw [List.idxOf_cons_ne l (Ne.symm hab)]
          constructor
          · rintro (⟨hmem, -⟩ | ⟨-, hmem⟩)
            · exact ⟨.inr hmem, Nat.succ_pos _⟩
            · exact ⟨.inr hmem, Nat.succ_pos _⟩
          · rintro ⟨hmem, -⟩
            exact .inr ⟨rfl, hmem.resolve_left hab⟩
      · rw [List.idxOf_cons_ne l (Ne.symm hbc)]
        by_cases hac : a = c
        · subst hac
          rw [List.idxOf_cons_self]
          simp [hc, hbc]
        · rw [List.idxOf_cons_ne l (Ne.symm hac)]
          simp [hbc, hac]

lemma idxOf_lt_of_path {target : String} {order : List String}
    (hmem : ∀ a, a ∈ order ↔ Relation.ReflTransGen (Next records preferLoaded) target a)
    (hbefore : ∀ a b, a ∈ order → Next records preferLoaded a b →
      order.idxOf b < order.idxOf a) {a b : String} (ha : a ∈ order)
    (hpath : Relation.TransGen (Next records preferLoaded) a b) :
    order.idxOf b < order.idxOf a := by
  induction hpath with
  | single hstep => exact hbefore a _ ha hstep
  | tail hpath hstep ih =>
      have hmiddle := (hmem _).mpr (((hmem a).mp ha).trans hpath.to_reflTransGen)
      exact (hbefore _ _ hmiddle hstep).trans ih

/-- Without the target, such an order has what a path from the target leads to. -/
lemma mem_filter_ne_iff {target : String} {order : List String}
    (hmem : ∀ a, a ∈ order ↔ Relation.ReflTransGen (Next records preferLoaded) target a)
    (hbefore : ∀ a b, a ∈ order → Next records preferLoaded a b →
      order.idxOf b < order.idxOf a) (a : String) :
    a ∈ order.filter (· ≠ target) ↔ Relation.TransGen (Next records preferLoaded) target a := by
  rw [List.mem_filter, hmem]
  constructor
  · rintro ⟨hreach, hne⟩
    rcases Relation.reflTransGen_iff_eq_or_transGen.mp hreach with heq | hpath
    · exact absurd heq (of_decide_eq_true hne)
    · exact hpath
  · intro hpath
    refine ⟨hpath.to_reflTransGen, decide_eq_true fun heq => ?_⟩
    have hself := idxOf_lt_of_path hmem hbefore ((hmem target).mpr .refl) hpath
    rw [heq] at hself
    exact lt_irrefl _ hself

lemma pair_sublist_filter_ne {target : String} {order : List String} (hnodup : order.Nodup)
    {a b : String} (ha : a ∈ order.filter (· ≠ target)) (hb : b ∈ order.filter (· ≠ target))
    (hlt : order.idxOf b < order.idxOf a) : [b, a].Sublist (order.filter (· ≠ target)) := by
  have hsub := (pair_sublist_iff hnodup).mpr ⟨(List.mem_filter.mp ha).1, hlt⟩
  have hkept : [b, a].filter (· ≠ target) = [b, a] := by
    refine List.filter_eq_self.mpr fun c hc => ?_
    rcases List.mem_pair.mp hc with rfl | rfl
    · exact (List.mem_filter.mp hb).2
    · exact (List.mem_filter.mp ha).2
  rw [← hkept]
  exact hsub.filter _

/-- An order of the chain from its end is what is to be resolved exactly where everything that
is needed lies on the chain. -/
lemma resolved_iff_onChain (hchoosable : Choosable records preferLoaded) {target : String}
    {order : List String} (hnodup : order.Nodup)
    (hregistered : ∀ a ∈ order, a ∈ records.map PluginRecord.key)
    (hmem : ∀ a, a ∈ order ↔ Relation.ReflTransGen (Next records preferLoaded) target a)
    (hbefore : ∀ a b, a ∈ order → Next records preferLoaded a b →
      order.idxOf b < order.idxOf a) :
    Resolved records preferLoaded target (order.filter (· ≠ target)) ↔
      OnChain records preferLoaded target := by
  have hlater : ∀ a b, a ∈ order → Relation.TransGen (Next records preferLoaded) a b →
      order.idxOf b < order.idxOf a := fun a b => idxOf_lt_of_path hmem hbefore
  have hkeys : ∀ a, a ∈ order.filter (· ≠ target) ↔
      Relation.TransGen (Next records preferLoaded) target a := mem_filter_ne_iff hmem hbefore
  have hpair : ∀ a b, a ∈ order.filter (· ≠ target) → b ∈ order.filter (· ≠ target) →
      ([b, a].Sublist (order.filter (· ≠ target)) ↔ order.idxOf b < order.idxOf a) := by
    intro a b ha hb
    constructor
    · intro hsub
      exact ((pair_sublist_iff hnodup).mp (hsub.trans List.filter_sublist)).2
    · exact pair_sublist_filter_ne hnodup ha hb
  constructor
  · intro h
    refine ⟨h.acyclic, fun record hrecord hkey dependency hdep => ?_,
      fun record hrecord hpath dependency hdep pick hpick => ?_⟩
    · obtain ⟨other, hother, hin, hsatisfies⟩ :=
        h.complete record hrecord (.inl hkey) dependency hdep
      exact ⟨other, hother, (hkeys _).mp hin, hsatisfies⟩
    · have hrecordin := (hkeys _).mpr hpath
      have hsub := h.ordered record hrecord hrecordin dependency hdep pick hpick
      have hpickin : pick.key ∈ order.filter (· ≠ target) := hsub.subset List.mem_cons_self
      have hlt := (hpair _ _ hrecordin hpickin).mp hsub
      -- both are on the chain, so one of them leads to the other
      have hunique : Relator.RightUnique (Next records preferLoaded) := fun _ _ _ hb hc =>
        Option.some.inj (hb.symm.trans hc)
      have hpickpath := (hkeys _).mp hpickin
      rcases Relation.ReflTransGen.total_of_right_unique hunique hpath.to_reflTransGen
        hpickpath.to_reflTransGen with hforward | hback
      · rcases Relation.reflTransGen_iff_eq_or_transGen.mp hforward with heq | hforward
        · rw [heq] at hlt
          exact absurd hlt (lt_irrefl _)
        · exact hforward
      · rcases Relation.reflTransGen_iff_eq_or_transGen.mp hback with heq | hback
        · rw [heq] at hlt
          exact absurd hlt (lt_irrefl _)
        · have hgt := hlater _ _ (List.mem_filter.mp hpickin).1 hback
          omega
  · intro h
    have hfurther : ∀ record ∈ records, record.key ∈ order.filter (· ≠ target) →
        ∀ dependency ∈ record.manifest.dependencies, ∀ pick,
          chooseCandidate records preferLoaded dependency = some pick →
            pick.key ∈ order.filter (· ≠ target) ∧
              order.idxOf pick.key < order.idxOf record.key := by
      intro record hrecord hin dependency hdep pick hpick
      have hpath := (hkeys _).mp hin
      have hforward := h.further record hrecord hpath dependency hdep pick hpick
      exact ⟨(hkeys _).mpr (hpath.trans hforward), hlater _ _ (List.mem_filter.mp hin).1 hforward⟩
    refine ⟨h.acyclic, hnodup.filter _, fun key hkey => hregistered key (List.mem_filter.mp hkey).1,
      fun htarget => ?_, fun record hrecord hwhich dependency hdep => ?_,
      fun record hrecord hin dependency hdep pick hpick => ?_⟩
    · exact of_decide_eq_true (List.mem_filter.mp htarget).2 rfl
    · rcases hwhich with hkey | hin
      · obtain ⟨other, hother, hpath, hsatisfies⟩ :=
          h.ofTarget record hrecord hkey dependency hdep
        exact ⟨other, hother, (hkeys _).mpr hpath, hsatisfies⟩
      · obtain ⟨pick, hpick⟩ :=
          Option.isSome_iff_exists.mp (hchoosable record hrecord dependency hdep)
        obtain ⟨hregistered, hsatisfies⟩ := chooseCandidate_spec hpick
        exact ⟨pick, hregistered, (hfurther record hrecord hin dependency hdep pick hpick).1,
          hsatisfies⟩
    · obtain ⟨hpickin, hlt⟩ := hfurther record hrecord hin dependency hdep pick hpick
      exact (hpair _ _ hin hpickin).mpr hlt

lemma resolveDependencies_of_selected {selected : Dict (String × String) String}
    (h : selectDependencyKeys records preferLoaded = .ok selected) (target : String) :
    resolveDependencies records target preferLoaded =
      (toposort records selected (some (target ::
        closureLoop (dependencyOf records selected) (records.length + 1) [] [target]))).map
          fun order => order.filter (· ≠ target) := by
  unfold resolveDependencies
  rw [h]
  rfl

lemma chooseCandidate_preferred {dependency : PluginDependency} {record : PluginRecord}
    (hrecord : record ∈ records) (hsatisfied : dependency.satisfiedBy record = true)
    (hpreferred : record.key ∈ preferLoaded) :
    ∃ pick, chooseCandidate records preferLoaded dependency = some pick ∧
      pick.key ∈ preferLoaded := by
  have hmem : record ∈ candidates records dependency := mem_candidates.mpr ⟨hrecord, hsatisfied⟩
  unfold chooseCandidate
  dsimp only
  cases hfind : (candidates records dependency).find? fun record =>
      record.key ∈ preferLoaded with
  | none => exact absurd (decide_eq_true hpreferred) (List.find?_eq_none.mp hfind record hmem)
  | some pick =>
      have hchosen : pick.key ∈ preferLoaded := by simpa using List.find?_some hfind
      exact ⟨pick, rfl, hchosen⟩

/-- What is resolved are the plugins on the chain from the target, each once and after the choice
for its last dependency. -/
lemma resolveDependencies_ok (hkeys : (records.map PluginRecord.key).Nodup) {target : String}
    (htarget : target ∈ records.map PluginRecord.key) {order : List String}
    (h : resolveDependencies records target preferLoaded = .ok order) :
    Choosable records preferLoaded ∧ order.Nodup ∧
      (∀ a, a ∈ order ↔ Relation.TransGen (Next records preferLoaded) target a) ∧
      (∀ a b, a ∈ order → Next records preferLoaded a b → [b, a].Sublist order) ∧
      target ∉ order := by
  rcases selectDependencyKeys_spec preferLoaded hkeys with
    ⟨hchoosable, selected, hselect, hselected⟩ | ⟨-, error, hselect, -⟩
  · rw [resolveDependencies_of_selected hselect] at h
    rcases toposort_chain hkeys htarget hselected with
      ⟨all, hresult, hnodup, hmem, hbefore⟩ | ⟨error, hresult, -⟩
    · rw [hresult] at h
      obtain rfl := Except.ok.inj h
      have hpath := mem_filter_ne_iff hmem hbefore
      refine ⟨hchoosable, hnodup.filter _, hpath, fun a b ha hstep => ?_, fun htarget => ?_⟩
      · have hb := (hpath b).mpr (((hpath a).mp ha).tail hstep)
        exact pair_sublist_filter_ne hnodup ha hb (hbefore a b (List.mem_filter.mp ha).1 hstep)
      · exact of_decide_eq_true (List.mem_filter.mp htarget).2 rfl
    · rw [hresult] at h
      cases h
  · unfold resolveDependencies at h
    rw [hselect] at h
    cases h

/-- The dependencies of a plugin are resolved as they should be exactly where the chain of last
dependencies from the target ends in a cycle or holds everything that is needed; where some
dependency in the registry has no candidate, exactly where the target reaches no cycle. -/
theorem resolveDependencies_iff (hkeys : (records.map PluginRecord.key).Nodup) {target : String}
    (htarget : target ∈ records.map PluginRecord.key) :
    ResolvesAll records preferLoaded target ↔
      (Choosable records preferLoaded ∧ (CycleFrom (Next records preferLoaded) target ∨
        OnChain records preferLoaded target)) ∨
      (¬Choosable records preferLoaded ∧
        ¬CycleFrom (DependsOn records preferLoaded) target) := by
  unfold ResolvesAll
  rcases selectDependencyKeys_spec preferLoaded hkeys with
    ⟨hchoosable, selected, hselect, hselected⟩ | ⟨hmissing, error, hselect, hcycles⟩
  · rw [resolveDependencies_of_selected hselect]
    simp only [hchoosable, true_and, not_true_eq_false, false_and, or_false]
    rcases toposort_chain hkeys htarget hselected with
      ⟨order, hresult, hnodup, hmem, hbefore⟩ | ⟨error, hresult, hcycles, hcycle⟩
    · have hacyclic : ¬CycleFrom (Next records preferLoaded) target := by
        rintro ⟨a, hreach, hcycle⟩
        have hlater : ∀ b, Relation.TransGen (Next records preferLoaded) a b →
            b ∈ order ∧ order.idxOf b < order.idxOf a := by
          intro b hpath
          induction hpath with
          | single hstep =>
              exact ⟨(hmem _).mpr (hreach.tail hstep), hbefore a _ ((hmem a).mpr hreach) hstep⟩
          | tail _ hstep ih =>
              exact ⟨(hmem _).mpr (((hmem _).mp ih.1).tail hstep),
                (hbefore _ _ ih.1 hstep).trans ih.2⟩
        exact lt_irrefl _ (hlater a hcycle).2
      have hregistered : ∀ a ∈ order, a ∈ records.map PluginRecord.key := by
        intro a ha
        rcases Relation.reflTransGen_iff_eq_or_transGen.mp ((hmem a).mp ha) with rfl | hpath
        · exact htarget
        · obtain ⟨c, -, hstep⟩ := Relation.TransGen.tail'_iff.mp hpath
          exact (Next.dependsOn hstep).registered
      rw [or_iff_right hacyclic,
        ← resolved_iff_onChain hchoosable hnodup hregistered hmem hbefore]
      rw [hresult]
      rfl
    · refine iff_of_true ?_ (.inl hcycle)
      rw [hresult]
      exact iff_of_true hcycles hcycle.dependsOn
  · have hresolve : resolveDependencies records target preferLoaded = .error error := by
      unfold resolveDependencies
      rw [hselect]
      rfl
    rw [hresolve]
    simp only [hmissing, false_and, not_false_eq_true, true_and, false_or, hcycles]
    exact ⟨fun hiff hcycle => hiff.mpr hcycle rfl,
      fun hnone => iff_of_false (fun hne => hne rfl) hnone⟩

/-! ### Two dependencies -/

/-- A plugin with some dependencies, and two plugins that have none. -/
def sampleRecords (dependencies : List PluginDependency) : List PluginRecord := [
  { manifest := { id := "app", dependencies := dependencies } },
  { manifest := { id := "one" } },
  { manifest := { id := "two" } }]

/-- With a single dependency, the chain has what is needed. -/
theorem resolveDependencies_iff_sample :
    ResolvesAll (sampleRecords [{ pluginId := "one", version := "^1.0.0" }]) [] "app@1.0.0" := by
  have hdepends : ∀ a b,
      DependsOn (sampleRecords [{ pluginId := "one", version := "^1.0.0" }]) [] a b →
        a = "app@1.0.0" ∧ b = "one@1.0.0" := by
    rintro a b ⟨record, hrecord, rfl, dependency, hdep, pick, hpick, rfl⟩
    simp only [sampleRecords, List.mem_cons, List.not_mem_nil, or_false] at hrecord
    rcases hrecord with rfl | rfl | rfl
    · obtain rfl := List.mem_singleton.mp hdep
      obtain rfl := Option.some.inj hpick
      exact ⟨rfl, rfl⟩
    · cases hdep
    · cases hdep
  have hnext : Next (sampleRecords [{ pluginId := "one", version := "^1.0.0" }]) []
    "app@1.0.0" "one@1.0.0" := rfl
  refine (resolveDependencies_iff (by decide) (by decide)).mpr (.inl ⟨?_, .inr ⟨?_, ?_, ?_⟩⟩)
  · decide
  · rintro ⟨a, -, hcycle⟩
    obtain ⟨b, hfirst, -⟩ := Relation.TransGen.head'_iff.mp hcycle
    obtain ⟨c, -, hlast⟩ := Relation.TransGen.tail'_iff.mp hcycle
    exact absurd ((hdepends a b hfirst).1.symm.trans (hdepends c a hlast).2) (by decide)
  · rintro record hrecord hkey dependency hdep
    simp only [sampleRecords, List.mem_cons, List.not_mem_nil, or_false] at hrecord
    rcases hrecord with rfl | rfl | rfl
    · obtain rfl := List.mem_singleton.mp hdep
      exact ⟨_, List.mem_cons_of_mem _ List.mem_cons_self, .single hnext, by decide⟩
    · cases hdep
    · cases hdep
  · rintro record hrecord hpath dependency hdep pick hpick
    obtain ⟨c, -, hlast⟩ := Relation.TransGen.tail'_iff.mp hpath
    obtain ⟨-, hone⟩ := hdepends c record.key (Next.dependsOn hlast)
    simp only [sampleRecords, List.mem_cons, List.not_mem_nil, or_false] at hrecord
    rcases hrecord with rfl | rfl | rfl
    · exact absurd hone (by decide)
    · cases hdep
    · cases hdep

/-- Of two dependencies the first one is not resolved. -/
theorem resolveDependencies_drops :
    resolveDependencies (sampleRecords [{ pluginId := "one" }, { pluginId := "two" }])
        "app@1.0.0" [] = .ok ["two@1.0.0"] ∧
      ¬ResolvesAll (sampleRecords [{ pluginId := "one" }, { pluginId := "two" }]) []
        "app@1.0.0" := by
  have hresult : resolveDependencies
      (sampleRecords [{ pluginId := "one" }, { pluginId := "two" }]) "app@1.0.0" [] =
        .ok ["two@1.0.0"] := rfl
  refine ⟨hresult, fun h => ?_⟩
  unfold ResolvesAll at h
  rw [hresult] at h
  obtain ⟨other, hother, hin, hsatisfies⟩ := h.complete _ List.mem_cons_self (.inl rfl)
    { pluginId := "one" } List.mem_cons_self
  simp only [sampleRecords, List.mem_cons, List.not_mem_nil, or_false] at hother
  rcases hother with rfl | rfl | rfl
  · exact absurd hin (by decide)
  · exact absurd hin (by decide)
  · exact absurd hsatisfies (by decide)

end

end Dependencies

end Samaktha
