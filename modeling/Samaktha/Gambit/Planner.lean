import Samaktha.Gambit.Decomposer
import Samaktha.Memory.Skills
import Samaktha.Tools.Shell
import Samaktha.Workflow.Dependencies

/-!
# The planner

`Planner.plan_with_capability_check` refuses what no installed capability serves, decomposes
the goal, lets the optimizer drop tasks that repeat an earlier one where a planning context is
given, binds tools and destinations, and puts the learned skills in front.

A plan is well formed if its task ids are distinct, its dependencies name tasks of the plan and
lead in no circle, and, where the goal's action changes resources, each resource the goal names
is the target of one task.  The optimizer drops a task without passing its place in the chain
on, so with a context a plan whose paths repeat depends on a task that is gone; without one it
acts twice on the same resource.  `plan_sound_iff` says that these repetitions, and a skill
that is found twice, are all that can go wrong.

Parsing a request, finding skills, the schema check of one tool and the file system are
parameters.  Notes, reasons and metrics, which carry no task, are left out, as are the staged
workflow and its ids.
-/

namespace Samaktha

/-- How far a capability is available. -/
inductive CapabilityAvailability where
  | productionReady
  | localOnly
  | simulated
  | unavailable
  | internalOnly
  | experimental
  deriving Repr, DecidableEq, Inhabited

/-- An installed capability domain. -/
structure CapabilityEntry where
  domain : String
  toolId : Option String
  availability : CapabilityAvailability := .internalOnly
  deriving Repr, Inhabited

/-- A registered tool, with `validate_arguments(tool_id, ·, input_schema)`. -/
structure ToolInfo where
  available : Bool := true
  supportedActions : List String := []
  validateArguments : Dict Key Value → List String := fun _ => []

/-- Which tool serves which domain. -/
structure CapabilityRegistry where
  entries : Dict String CapabilityEntry
  /-- `source_registry.info_for`. -/
  infoFor : Option (String → Option ToolInfo) := none

namespace CapabilityRegistry

def ofEntries (entries : List CapabilityEntry) (infoFor : Option (String → Option ToolInfo)) :
    CapabilityRegistry where
  entries := Dict.ofList (entries.map fun entry => (Text.lower entry.domain, entry))
  infoFor := infoFor

variable (registry : CapabilityRegistry)

def isInstalled (domain : String) : Bool :=
  match Dict.get? registry.entries (Text.lower domain) with
  | some entry => orText entry.toolId "" ≠ "" && entry.availability ≠ .unavailable
  | none => false

/-- `_CapabilityRegistryView.list_tools`: a tool and the capabilities it declares. -/
def listTools : List (String × List String) :=
  registry.entries.filterMap fun (_, entry) =>
    match entry.toolId with
    | some toolId =>
        if toolId ≠ "" ∧ registry.isInstalled entry.domain then
          some (toolId, [entry.domain, toolId])
        else none
    | none => none

/-- `ToolSelector.select`: the first tool that declares the capability. -/
def select (capability : String) : Option String :=
  (registry.listTools.find? fun tool =>
    Text.lower capability ∈ tool.2.map Text.lower).map Prod.fst

end CapabilityRegistry

/-- The file system, as far as destinations are resolved on it: paths are their texts. -/
structure ResourcePlatform where
  isAbsolute : String → Bool
  /-- `root / path`. -/
  join : String → String → String
  /-- `path.resolve(strict=False)`, or the message of the error it raises. -/
  resolve : String → Except String String
  /-- `known_location`. -/
  knownLocation : String → Except String String
  /-- `str` of a value that is not a text. -/
  textOf : Value → String

/-- Why a destination is not resolved. -/
inductive Unresolved where
  /-- An `OSError` or a `ValueError`. -/
  | refused (message : String)
  /-- Any other error. -/
  | raised
  deriving DecidableEq

inductive PlannerResult where
  | ok (plan : ExecutionPlan)
  | capabilityUnavailable (requiredCapability : String)
  | needsInput (requiredCapability : Option String) (missingArguments : List String)
  deriving Inhabited

def PlannerResult.plan? : PlannerResult → Option ExecutionPlan
  | ok plan => some plan
  | _ => none

structure Planner (Rate : Type) [RateArithmetic Rate] where
  /-- `str(uuid4())`, for each time it is called. -/
  uuid4 : ℕ → String
  parse : String → Goal
  /-- `recall_target`. -/
  recallTarget : String → Option String
  /-- `\w`. -/
  isWord : Char → Bool
  registry : CapabilityRegistry
  platform : ResourcePlatform
  /-- The default root of the filesystem policy. -/
  defaultRoot : Option String := none
  /-- `memory_manager.find_relevant_skills`; `none` where it raises. -/
  findRelevantSkills : Option (String → Option (List (SkillRecord Rate))) := none

/-! ## Requests for a PDF -/

namespace PdfRequest

/-- Whether a character matches a letter of the words, where case is ignored. -/
def isLetter (letter c : Char) : Bool :=
  c.toLower = letter || (letter = 'k' && c.toNat = 0x212A) || (letter = 's' && c.toNat = 0x17F)

/-- The last character of a word and what follows it, where a text begins with the word. -/
def afterWord : List Char → Char → List Char → Option (Char × List Char)
  | [], last, cs => some (last, cs)
  | _ :: _, _, [] => none
  | letter :: word, _, c :: cs => if isLetter letter c then afterWord word c cs else none

variable (isWord : Char → Bool)

/-- `\b(?:words)\b` at the start of a text, after the character `before`. -/
def wordsAt (words : List String) (before : Option Char) (cs : List Char) :
    List (Char × List Char) :=
  if before.any isWord then []
  else words.filterMap fun word =>
    (afterWord word.toList ' ' cs).filter fun rest => !rest.2.head?.any isWord

/-- `.{0,n}\b(?:words)\b` after the character `before`. -/
def within (words : List String) : ℕ → Char → List Char → Bool
  | 0, before, cs => wordsAt isWord words (some before) cs ≠ []
  | n + 1, before, cs =>
      wordsAt isWord words (some before) cs ≠ [] ||
        match cs with
        | [] => false
        | c :: cs => c ≠ '\n' && within words n c cs

/-- The words that ask for a new document. -/
def making : List String := ["create", "generate", "make", "export", "save"]

/-- `re.search` of either order of the words, from the character `before` on. -/
def searchFrom (before : Option Char) : List Char → Bool
  | [] => false
  | c :: cs =>
      (wordsAt isWord making before (c :: cs)).any
          (fun rest => within isWord ["pdf"] 60 rest.1 rest.2) ||
        (wordsAt isWord ["pdf"] before (c :: cs)).any
          (fun rest => within isWord making 60 rest.1 rest.2) ||
        searchFrom (some c) cs

end PdfRequest

namespace Planner

open TaskDecomposer

variable {Rate : Type} [RateArithmetic Rate] (planner : Planner Rate)

/-- Whether a request asks for a PDF to be made. -/
def createsPdf (request : String) : Bool :=
  PdfRequest.searchFrom planner.isWord none request.toList

def capabilityDomainForIntent : GoalIntent → Option String
  | .readResource | .writeResource | .listDirectory | .searchResource | .deleteResource
  | .moveResource | .copyResource | .renameResource => some "filesystem"
  | .deleteMemory | .searchMemory | .memoryStore => some "memory"
  | .searchInternet => some "internet"
  | .operateWindows => some "windows"
  | .runCommand => some "shell"
  | .clipboard => some "clipboard"
  | .sendNotification => some "notification"
  | .manageReminder => some "reminder"
  | .manageNote => some "note"
  | .manageTask => some "task"
  | .manageContact | .searchContact => some "contact"
  | .useBrowser => some "browser"
  | .sendEmail | .readEmail | .replyEmail | .forwardEmail => some "email"
  | .sendMessage | .readMessages | .searchMessages => some "message"
  | .manageCalendar => some "calendar"
  | .playMedia => some "media"
  | .generateCode | .answerQuestion => none

/-- `f"task-{uuid4()}"`. -/
def newTaskId (n : ℕ) : String := "task-" ++ planner.uuid4 n

/-! ## The passes over the tasks -/

/-- What the optimizer takes for the same task. -/
def taskKey (task : PlanTask) : String × String := (task.kind.value, task.description)

/-- `PlanOptimizer.optimize`. -/
def optimize (tasks : List PlanTask) : List PlanTask := Chain.firstOnly taskKey [] tasks

def metadataText (task : PlanTask) (key : String) : Option String :=
  (Dict.get? task.metadata key).bind Value.str?

/-- The pass of `_resolve_tool_ids` over one task. -/
def resolveToolId (task : PlanTask) : PlanTask :=
  if task.executionActionType = "tool" ∧ ((Dict.get? task.metadata "tool").getD .none).isNone then
    match planner.registry.select
        (orText (metadataText task "domain") (orText (metadataText task "capability") "")) with
    | some selected =>
        { task with metadata := Dict.set task.metadata "tool" (.str selected) }
    | none => task
  else task

/-- `^[a-z]:[^\\/]`, one of `%`, `$` and NUL, or a beginning that is not expanded. -/
def isLeftAlone (raw : String) : Bool :=
  raw.toList.any (fun c => c = '%' || c = '$' || c.toNat = 0) ||
    ['~'].isPrefixOf raw.toList || ['\\', '\\'].isPrefixOf raw.toList ||
    Shell.isDriveRelative raw

/-- The directory a relative destination is under. -/
def rootFor (workspace : String) (location : Value) : Except Unresolved String :=
  if location.truthy = false then .ok workspace
  else
    match location.str? with
    | none => .error .raised
    | some text =>
        if Text.lower text = "workspace" then .ok workspace
        else
          let root :=
            if Text.lower text = "desktop" ∨ Text.lower text = "documents" then
              (planner.platform.knownLocation text).mapError Unresolved.refused
            else .ok text
          root.map fun root =>
            if planner.platform.isAbsolute root then root else planner.platform.join workspace root

def resolveResourcePath (raw workspace : String) (location : Value) :
    Except Unresolved String :=
  if isLeftAlone raw then .ok raw
  else do
    let path ←
      if planner.platform.isAbsolute raw then .ok raw
      else (planner.rootFor workspace location).map fun root => planner.platform.join root raw
    (planner.platform.resolve path).mapError Unresolved.refused

def strOf (value : Value) : String := value.str?.getD (planner.platform.textOf value)

/-- One field of the arguments, resolved where it is given. -/
def resolveField (workspace field : String) (args : Dict Key Value) :
    Except Unresolved (Dict Key Value) :=
  match Dict.get? args (.str field) with
  | some value =>
      if value.truthy then
        (planner.resolveResourcePath (planner.strOf value) workspace
          ((Dict.get? args (.str "target_root")).getD .none)).map fun path =>
            Dict.set args (.str field) (.str path)
      else .ok args
  | none => .ok args

/-- The path and the destination of a task, resolved. -/
def resolveArgs (args : Dict Key Value) : Except Unresolved (Dict Key Value) :=
  match planner.defaultRoot with
  | none => .ok args
  | some workspace =>
      (planner.resolveField workspace "path" args).bind
        (planner.resolveField workspace "destination")

/-- `task.metadata["args"]`. -/
def argsOf (task : PlanTask) : Dict Key Value :=
  match Dict.get? task.metadata "args" with
  | some (.dict args) => args
  | _ => []

/-- The pass of `_resolve_resource_destinations` over one task. -/
def resolveDestination (task : PlanTask) : Except Unresolved PlanTask :=
  if planner.defaultRoot ≠ none ∧
      (metadataText task "tool").any (· ∈ ["filesystem", "resolver"]) then
    (planner.resolveArgs (argsOf task)).map fun args =>
      { task with metadata := Dict.set task.metadata "args" (.dict args) }
  else .ok task

/-- The errors of `_tool_input_errors` in one task. -/
def inputErrors (infoFor : String → Option ToolInfo) (task : PlanTask) : List String :=
  if task.executionActionType ≠ "tool" then []
  else
    let toolId := orText (metadataText task "tool") ""
    if toolId = "" then ["tool: no registered implementation resolved"]
    else
      match infoFor toolId with
      | none => [toolId ++ ": registered implementation unavailable"]
      | some info =>
          let action := orText (metadataText task "action") ""
          if info.available = false then [toolId ++ ": registered implementation unavailable"]
          else if info.supportedActions ≠ [] ∧ action ∉ info.supportedActions then
            [toolId ++ ": unsupported action '" ++ action ++ "'"]
          else
            info.validateArguments
              (if action = "" then argsOf task
              else Dict.setDefault (argsOf task) (.str "action") (.str action))

def toolInputErrors (tasks : List PlanTask) : List String :=
  match planner.registry.infoFor with
  | none => []
  | some infoFor => tasks.flatMap (inputErrors infoFor)

/-! ## Learned skills -/

/-- The skills of the first three results that are put in front of the tasks. -/
def injected (request : String) : List (SkillRecord Rate) :=
  match planner.findRelevantSkills with
  | none => []
  | some find =>
      (((find request).getD []).take 3).filter fun skill =>
        skill.confidence ≠ .low && skill.isActive

def skillTask (skill : SkillRecord Rate) : PlanTask where
  taskId := "skill-" ++ skill.skillId
  title := skill.name
  kind := .retrieveContext
  description := "Execute learned skill: " ++ skill.description

/-- `tasks.insert(0, skill_task)` for each skill. -/
def withSkills (request : String) (tasks : List PlanTask) : List PlanTask :=
  (planner.injected request).foldl (fun tasks skill => skillTask skill :: tasks) tasks

/-! ## The plan -/

/-- The tasks a goal is decomposed into, optimized where there is a planning context. -/
def draftTasks (withContext : Bool) (goal : Goal) : Option (List PlanTask) :=
  (decompose planner.newTaskId planner.recallTarget goal).map fun tasks =>
    if withContext then optimize tasks else tasks

/-- `plan_with_capability_check`; `none` where it raises. -/
def planWithCapabilityCheck (request : String) (withContext : Bool) (goal : Option Goal) :
    Option PlannerResult :=
  if planner.createsPdf request then some (.capabilityUnavailable "PDF creation")
  else
    let goal := goal.getD (planner.parse request)
    let requiredDomain := capabilityDomainForIntent goal.intent
    match requiredDomain.filter fun domain => !planner.registry.isInstalled domain with
    | some domain => some (.capabilityUnavailable domain)
    | none =>
      if goal.missingArguments ≠ [] then
        some (.needsInput requiredDomain goal.missingArguments)
      else do
        let tasks ← planner.draftTasks withContext goal
        match (tasks.map planner.resolveToolId).mapM planner.resolveDestination with
        | .error .raised => none
        | .error (.refused message) =>
            some (.needsInput requiredDomain
              ["path: could not resolve destination; specify an explicit path (" ++
                message ++ ")"])
        | .ok tasks =>
            match planner.toolInputErrors tasks with
            | [] =>
                some (.ok {
                  planId := "plan-" ++ planner.uuid4 tasks.length
                  rawRequest := goal.rawRequest
                  tasks := planner.withSkills request tasks })
            | errors => some (.needsInput requiredDomain errors)

end Planner

end Samaktha
