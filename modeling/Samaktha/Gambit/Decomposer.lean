import Samaktha.Contracts.Planning
import Samaktha.Foundation.Chain
import Samaktha.Foundation.Text
import Samaktha.Foundation.Value

/-!
# From a goal to a sequence of tasks

`TaskDecomposer.decompose` writes one task for understanding the goal, the tasks of the goal's
intent, a verification of complex goals and a reflection, each depending on the task before it.
Here the content of a task is a `Draft`; `chained` draws an id for each draft and hands the id
on to the next.

A task's suggested skills, its status and its routing request are left out, and the grammar of
memory requests, `recall_target`, is a parameter.
-/

namespace Samaktha

inductive GoalIntent where
  | readResource
  | writeResource
  | listDirectory
  | searchResource
  | deleteMemory
  | deleteResource
  | moveResource
  | copyResource
  | renameResource
  | searchMemory
  | memoryStore
  | generateCode
  | answerQuestion
  | operateWindows
  | runCommand
  | clipboard
  | sendNotification
  | searchInternet
  | useBrowser
  | sendEmail
  | manageCalendar
  | playMedia
  | readEmail
  | replyEmail
  | forwardEmail
  | sendMessage
  | readMessages
  | searchMessages
  | searchContact
  | manageReminder
  | manageNote
  | manageTask
  | manageContact
  deriving Repr, DecidableEq, Inhabited

inductive SearchCategory where
  | general
  | news
  deriving Repr, DecidableEq, Inhabited

inductive MemoryRecallIntent where
  | lastSession
  | sessionRecall
  | memorySearch
  | profileRecall
  | workflowRecall
  | preferenceRecall
  | targetedRecall
  | memoryBrowse
  deriving Repr, DecidableEq, Inhabited

def MemoryRecallIntent.value : MemoryRecallIntent → String
  | lastSession => "last_session"
  | sessionRecall => "session_recall"
  | memorySearch => "memory_search"
  | profileRecall => "profile_recall"
  | workflowRecall => "workflow_recall"
  | preferenceRecall => "preference_recall"
  | targetedRecall => "targeted_recall"
  | memoryBrowse => "memory_browse"

structure Goal where
  rawRequest : String
  summary : String := ""
  complexity : GoalComplexity := .low
  intent : GoalIntent := .answerQuestion
  targetPath : Option String := none
  query : Option String := none
  requiresLongContext : Bool := false
  intentAction : Option String := none
  intentArguments : Dict Key Value := []
  missingArguments : List String := []
  searchCategory : SearchCategory := .general
  memoryIntent : Option MemoryRecallIntent := none
  deriving Repr, Inhabited

namespace TaskDecomposer

/-- What a task is written from, apart from its id and its dependencies. -/
structure Draft where
  title : String
  kind : TaskKind
  description : String
  executionActionType : String := "text_generation"
  metadata : Dict String Value := []
  deriving Repr, Inhabited

def Draft.task (draft : Draft) (taskId : String) (dependencies : List String) : PlanTask where
  taskId := taskId
  title := draft.title
  kind := draft.kind
  description := draft.description
  dependencies := dependencies
  executionActionType := draft.executionActionType
  metadata := draft.metadata

def task (title : String) (kind : TaskKind) (description : String) : Draft where
  title := title
  kind := kind
  description := description

/-- `metadata[key] = value`, where the value is a text that is not empty. -/
def withText (key : String) (value : Option String) (metadata : Dict String Value) :
    Dict String Value :=
  match value with
  | some text => if text = "" then metadata else Dict.set metadata key (.str text)
  | none => metadata

/-- What a tool task names besides its tool, action and arguments. -/
structure Hints where
  capability : Option String := none
  domain : Option String := none
  policyAction : Option String := none

def toolTask (title : String) (tool : Option String) (action : String) (args : Dict Key Value)
    (hints : Hints) : Draft where
  title := title
  kind := .executeViaRuntime
  description := orText tool (orText hints.domain (hints.capability.getD "None")) ++ ":" ++
    action ++ " — " ++ title
  executionActionType := "tool"
  metadata := withText "policy_action" hints.policyAction
    (withText "domain" hints.domain
      (withText "capability" hints.capability
        [("tool", match tool with | some tool => .str tool | none => .none),
          ("action", .str action), ("args", .dict args)]))

/-! ## Resources -/

/-- `goal.target_path.split("|")`, of the empty text where there is no path. -/
def paths (goal : Goal) : List String :=
  match goal.targetPath with
  | some text => if text = "" then [""] else (text.toList.splitOn '|').map String.ofList
  | none => [""]

/-- The action of the intents that name a resource. -/
def resourceAction (goal : Goal) : Option String :=
  match goal.intent with
  | .readResource => some "read"
  | .searchResource => some "search"
  | .deleteResource => some "delete"
  | .moveResource => some "move"
  | .copyResource => some "copy"
  | .renameResource => some "move"
  | .writeResource => some (orText goal.intentAction "write")
  | _ => none

/-- `p.strip() or 'unknown'`. -/
def label (p : String) : String := orText (some (Text.strip p)) "unknown"

/-- The arguments of the task for one path. -/
def resourceArgs (goal : Goal) (p : String) : Dict Key Value :=
  let args :=
    if goal.intentArguments.isEmpty then [(.str "path", .str (Text.strip p))]
    else goal.intentArguments
  let path :=
    if Text.strip p = "" then (Dict.get? args (.str "path")).getD (.str "")
    else .str (Text.strip p)
  let args := Dict.set args (.str "path") path
  match goal.intent, goal.query with
  | .writeResource, some query =>
      if query = "" then args else Dict.setDefault args (.str "content") (.str query)
  | _, _ => args

def resolverTask (goal : Goal) (action p : String) : Draft :=
  toolTask ("Resolve and " ++ action ++ " resource: " ++ label p) (some "resolver") action
    (resourceArgs goal p) {}

/-- Only reading and searching are followed by a summary. -/
def reasonOver (goal : Goal) (action : String) : List Draft :=
  match goal.intent with
  | .readResource | .searchResource =>
      [task ("Reason over " ++ action ++ " results") .executeViaRuntime
        ("Use the " ++ action ++
          " output as context to summarize or answer the user request.")]
  | _ => []

/-! ## Memory -/

/-- `list(value)`; `none` where that raises. -/
def items : Value → Option (List Value)
  | .list values => some values
  | .tuple values => some values
  | .str text => some (text.toList.map fun c => .str (String.singleton c))
  | .enum text => some (text.toList.map fun c => .str (String.singleton c))
  | .dict entries => some (entries.map fun entry =>
      match entry.1 with | .str key => .str key | .other _ text => .other text true)
  | _ => none

/-- The intents that are answered by a model from the memories. -/
def synthesized : List MemoryRecallIntent :=
  [.targetedRecall, .profileRecall, .preferenceRecall, .workflowRecall]

/-- `request.lower().lstrip().startswith(...)`. -/
def asksForSearch (request : String) : Bool :=
  let text := (Text.lowerChars request.toList).dropWhile Text.isSpace
  ["search memory", "search your memory"].any fun start => start.toList.isPrefixOf text

/-- The task of a memory request: the governed search, or the model's answer. -/
def memoryTask (recallTarget : String → Option String) (goal : Goal) : Option Draft := do
  let intent := goal.memoryIntent.getD .memorySearch
  let ids ← items ((Dict.get? goal.intentArguments (.str "memory_result_ids")).getD (.list []))
  let asked (action query : String) (args : Dict Key Value) : String × Dict Key Value :=
    (action, args ++ [(.str "query", .str query), (.str "memory_intent", .str intent.value)])
  let (action, args) :=
    if ids ≠ [] then asked "retrieve" goal.rawRequest [(.str "item_ids", .list ids)]
    else if intent ∈ [.lastSession, .sessionRecall, .workflowRecall] then
      asked "last_session" goal.rawRequest []
    else asked "search"
      ((recallTarget goal.rawRequest).getD (orText goal.query goal.rawRequest)) []
  if intent ∈ synthesized ∧ asksForSearch goal.rawRequest = false ∧ ids = [] then
    some (task "Synthesize scoped memory evidence" .executeViaRuntime
      ("Answer using only the scoped memory evidence produced " ++
        "by the governed memory task."))
  else
    some (toolTask "Retrieve scoped durable memory evidence" (some "memory") action args
      { policyAction := some "search" })

/-- `text.replace(part, "")`; `skip` characters of a part just found are still to be passed. -/
def without (part : List Char) : ℕ → List Char → List Char
  | _, [] => []
  | skip + 1, _ :: cs => without part skip cs
  | 0, c :: cs =>
      if part ≠ [] ∧ part.isPrefixOf (c :: cs) then without part (part.length - 1) cs
      else c :: without part 0 cs

/-- `text.strip(" .!")`. -/
def stripMarks (cs : List Char) : List Char :=
  let mark (c : Char) : Bool := c = ' ' || c = '.' || c = '!'
  ((cs.dropWhile mark).reverse.dropWhile mark).reverse

def detectMemoryDelete (goal : Goal) : String × Dict Key Value :=
  let lowered := Text.lower goal.rawRequest
  let mentions (phrases : List String) : Bool := phrases.any (Text.contains lowered)
  let ofType (memoryType : String) : Dict Key Value := [(.str "memory_type", .str memoryType)]
  if mentions ["forget everything", "forget all about me", "forget about me", "forget me",
      "delete all memories", "delete all memory", "delete all my data", "erase all data",
      "wipe all data", "wipe my memory", "erase my memory", "clear my memory", "clear memory",
      "delete all my memories", "delete my memories"] then ("delete_all", [])
  else if mentions ["delete this session", "forget this session", "clear my session",
      "delete my session", "forget my session"] then
    ("delete_session", [(.str "session_id", .str "")])
  else if mentions ["preference", "preferences"] then
    if mentions ["delete all preferences", "forget all preferences",
        "remove all preferences"] then ("delete_type", ofType "preference")
    else if mentions ["my ide preference", "my ide preferences", "ide preference",
        "editor preference", "tool preference"] then
      ("delete", ofType "preference" ++ [(.str "query", .str "ide")])
    else if mentions ["forget my", "delete my", "remove my"] then
      let query := ["forget my", "delete my", "remove my"].foldl
        (fun cs part => without part.toList 0 cs) lowered.toList
      ("delete", ofType "preference" ++
        [(.str "query", .str (String.ofList (stripMarks query)))])
    else ("delete_type", ofType "preference")
  else if mentions ["discussion", "conversation"] then ("delete_type", ofType "conversation")
  else if mentions ["history"] then ("delete_type", ofType "conversation")
  else if mentions ["project"] then
    ("delete_type", ofType "knowledge" ++ [(.str "query", .str "project")])
  else ("delete_all", [])

/-! ## Other tools -/

/-- The words by which a clipboard request writes. -/
def clipboardWrites (request : String) : Bool :=
  ["copy", "set", "put", "write", "save", "paste "].any (Text.contains (Text.lower request))

def detectClipboardCapability (request : String) : String :=
  if clipboardWrites request then "clipboard_write" else "clipboard_read"

def detectClipboardAction (request : String) : String :=
  if clipboardWrites request then "write" else "read"

def detectWindowsAction (request : String) : String :=
  if Text.contains (Text.lower request) "process" then "processes"
  else if Text.contains (Text.lower request) "clipboard" then "clipboard_get"
  else "terminal"

/-- `route_map`: the domain and the title of a routed intent. -/
def route : GoalIntent → Option (String × String)
  | .manageReminder => some ("reminder", "Manage reminder")
  | .manageNote => some ("note", "Manage note")
  | .manageTask => some ("task", "Manage task")
  | .manageContact => some ("contact", "Manage contact")
  | .searchContact => some ("contact", "Search contacts")
  | .manageCalendar => some ("calendar", "Manage local calendar")
  | .sendEmail => some ("email", "Prepare email preview or experimental SMTP submission")
  | .readEmail => some ("email", "Mailbox read unavailable")
  | .replyEmail => some ("email", "Mailbox reply unavailable")
  | .forwardEmail => some ("email", "Mailbox forward unavailable")
  | .sendMessage => some ("message", "Prepare simulated message action")
  | .readMessages => some ("message", "Read local message simulation state")
  | .searchMessages => some ("message", "Search local message simulation state")
  | _ => none

def routedTask (goal : Goal) (domain title : String) : Draft :=
  let action := goal.intentAction.getD ""
  toolTask title none action goal.intentArguments
    { capability := some domain
      domain := some domain
      policyAction :=
        if domain ∈ ["email", "message"] ∧
            action ∈ ["send", "reply", "forward", "draft", "compose"] then some "write"
        else none }

/-- The tasks of questions, code and every other intent. -/
def answerTasks (goal : Goal) : List Draft :=
  (if goal.requiresLongContext then
    [task "Retrieve relevant context" .retrieveContext
      "Request relevant context through memory or retrieval systems."]
  else []) ++
  [task "Generate LLM response" .executeViaRuntime
    "Call the language model to produce a direct answer."]

/-! ## The sequence -/

/-- The tasks of the goal's intent; `none` where writing them raises. -/
def intentTasks (recallTarget : String → Option String) (goal : Goal) : Option (List Draft) :=
  match resourceAction goal with
  | some action =>
      some ((paths goal).map (resolverTask goal action) ++ reasonOver goal action)
  | none =>
    match goal.intent with
    | .listDirectory =>
        some [toolTask "List directory contents" (some "resolver") "list"
          [(.str "path", .str (orText goal.targetPath "."))] {}]
    | .searchInternet =>
        some [
          toolTask "Search the internet for current information" (some "internet")
            (if goal.searchCategory = .news then "news" else "search")
            [(.str "query", .str (orText goal.query goal.rawRequest))] {},
          task "Synthesize verified search results into response" .executeViaRuntime
            ("Reason over the verified internet search results and the " ++
              "user request. Answer only from the provided results and " ++
              "attribute every claim to its numbered source.")]
    | .memoryStore =>
        some [toolTask "Store user-supplied knowledge" (some "memory") "store"
          goal.intentArguments { policyAction := some "write" }]
    | .searchMemory => (memoryTask recallTarget goal).map fun draft => [draft]
    | .deleteMemory =>
        let (action, args) := detectMemoryDelete goal
        some [toolTask ("Delete memory (" ++ action ++ ")") (some "memory") action args {}]
    | .runCommand =>
        some [toolTask "Execute shell command" none "run" goal.intentArguments
          { capability := some "shell_exec", domain := some "shell" }]
    | .clipboard =>
        let action := orText goal.intentAction (detectClipboardAction goal.rawRequest)
        some [toolTask "Interact with the system clipboard" none action goal.intentArguments
          { capability := some (detectClipboardCapability goal.rawRequest)
            domain := some "clipboard"
            policyAction := some (if action = "write" then "write" else "read") }]
    | .sendNotification =>
        some [toolTask "Send desktop notification" none "send" goal.intentArguments
          { capability := some "notify"
            domain := some "notification"
            policyAction := some "write" }]
    | .operateWindows =>
        some [toolTask "Execute Windows system operation" (some "windows")
          (detectWindowsAction goal.rawRequest)
          [(.str "query", .str (orText goal.query goal.rawRequest))] {}]
    | intent =>
        match route intent with
        | some (domain, title) => some [routedTask goal domain title]
        | none => some (answerTasks goal)

/-- The first task of every plan. -/
def understand (goal : Goal) : Draft :=
  task "Understand goal and constraints" .understand ("Interpret the user goal: " ++ goal.summary)

/-- The verification of a complex goal. -/
def verify (goal : Goal) : List Draft :=
  match goal.complexity with
  | .low => []
  | .medium | .high =>
      [task "Verify plan completeness" .verify
        "Check dependencies, missing context, and expected outputs."]

/-- The last task of every plan. -/
def reflect : Draft :=
  task "Reflect on plan outcome" .reflect
    "Summarize lessons after runtime reports task outcomes."

/-- What the tasks of a goal are written from. -/
def drafts (recallTarget : String → Option String) (goal : Goal) : Option (List Draft) :=
  (intentTasks recallTarget goal).map fun tasks =>
    understand goal :: (tasks ++ verify goal) ++ [reflect]

/-- The tasks of a list of drafts: the id drawn for each is what the next one depends on. -/
def chained (newTaskId : ℕ → String) : ℕ → List String → List Draft → List PlanTask
  | _, _, [] => []
  | n, dependencies, draft :: drafts =>
      draft.task (newTaskId n) dependencies ::
        chained newTaskId (n + 1) [newTaskId n] drafts

/-- `TaskDecomposer.decompose`. -/
def decompose (newTaskId : ℕ → String) (recallTarget : String → Option String) (goal : Goal) :
    Option (List PlanTask) :=
  (drafts recallTarget goal).map (chained newTaskId 0 [])

/-! ## The tasks form a chain -/

section Chained

variable (newTaskId : ℕ → String)

lemma map_chained {β : Type*} (f : PlanTask → β) (g : Draft → β)
    (hfg : ∀ draft id deps, f (Draft.task draft id deps) = g draft) (n : ℕ) (deps : List String)
    (drafts : List Draft) : (chained newTaskId n deps drafts).map f = drafts.map g := by
  induction drafts generalizing n deps with
  | nil => rfl
  | cons draft drafts ih =>
      rw [chained, List.map_cons, List.map_cons, ih, hfg]

lemma taskIds_chained (n : ℕ) (deps : List String) (drafts : List Draft) :
    (chained newTaskId n deps drafts).map PlanTask.taskId =
      (List.range' n drafts.length).map newTaskId := by
  induction drafts generalizing n deps with
  | nil => rfl
  | cons draft drafts ih =>
      rw [chained, List.map_cons, ih, List.length_cons, List.range'_succ, List.map_cons]
      rfl

lemma isChain_chained (n : ℕ) (deps : List String) (drafts : List Draft) :
    (chained newTaskId n deps drafts).IsChain fun a b => b.dependencies = [a.taskId] := by
  induction drafts generalizing n deps with
  | nil => exact List.isChain_nil
  | cons draft drafts ih =>
      rw [chained]
      refine (ih (n + 1) [newTaskId n]).cons fun b hb => ?_
      cases drafts with
      | nil => cases hb
      | cons next drafts =>
          rw [chained, List.head?_cons, Option.mem_some_iff] at hb
          rw [← hb]
          rfl

variable {newTaskId}

lemma linked_decompose (hids : Function.Injective newTaskId)
    {recallTarget : String → Option String} {goal : Goal} {tasks : List PlanTask}
    (h : decompose newTaskId recallTarget goal = some tasks) :
    Chain.Linked PlanTask.taskId PlanTask.dependencies tasks := by
  obtain ⟨drafts, hdrafts, rfl⟩ := Option.map_eq_some_iff.mp h
  refine ⟨?_, fun a ha => ?_, isChain_chained newTaskId 0 [] drafts⟩
  · rw [taskIds_chained]
    exact List.Nodup.map hids List.nodup_range'
  · cases drafts with
    | nil => cases ha
    | cons draft drafts =>
        rw [chained, List.head?_cons, Option.some.injEq] at ha
        rw [← ha]
        rfl

end Chained

end TaskDecomposer

end Samaktha
