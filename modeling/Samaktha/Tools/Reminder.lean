import Samaktha.Contracts.Planning
import Samaktha.Foundation.DateTime
import Samaktha.Foundation.Machine
import Samaktha.Foundation.Text

/-!
# Reminders

`ReminderScheduler` and `ReminderTool`: the store of reminders with its pruning, the actions of
the tool on it, and the round of `check_due` that calls the registered callbacks for what is due.

The scheduler's collaborators are parameters: the table behind the store, which may raise at any
write; the digest of an integrity key; `datetime.fromisoformat` and `timedelta(minutes=...)`.
A callback is what it raises for a reminder, if anything; callbacks do not call the tool, and
nothing else runs while `check_due` waits for one.  The rebuild from the table, the poll loop's
lifecycle and the voice reply are left out.
-/

namespace Samaktha

structure Reminder where
  id : String
  title : Json
  description : Json
  dueAt : Option DateTime := none
  repeats : Json
  snoozedUntil : Option DateTime := none
  completed : Bool := false
  createdAt : DateTime
  principalId : String
  sessionId : String
  workspaceId : Json := .null
  integrityDigest : Option String := none
  deriving Inhabited

def Reminder.toDict (reminder : Reminder) : Dict String Json := [
  ("id", .str reminder.id),
  ("title", reminder.title),
  ("description", reminder.description),
  ("due_at", .ofText? (reminder.dueAt.map DateTime.isoformat)),
  ("repeat", reminder.repeats),
  ("snoozed_until", .ofText? (reminder.snoozedUntil.map DateTime.isoformat)),
  ("completed", .bool reminder.completed),
  ("created_at", .str reminder.createdAt.isoformat),
  ("principal_id", .str reminder.principalId),
  ("session_id", .str reminder.sessionId),
  ("workspace_id", reminder.workspaceId),
  ("integrity_digest", .ofText? reminder.integrityDigest)]

/-- Whether a repeat value is one of these texts. -/
def isText (value : Json) (texts : List String) : Bool :=
  match value with
  | .str text => texts.contains text
  | _ => false

def nextOccurrence (due : DateTime) (repeats : Json) : Except String (Option DateTime) :=
  if isText repeats ["daily"] then (due.add dayMicros).map some
  else if isText repeats ["weekly"] then (due.add (7 * dayMicros)).map some
  else if isText repeats ["monthly"] then
    let date := due.date
    let year := date.1 + date.2.1 / 12
    let month := date.2.1 % 12 + 1
    let day := min date.2.2 (DateTime.daysInMonth year month)
    (due.replaceDate year month day).map some
  else .ok none

/-- The collaborators of a scheduler. -/
structure ReminderTable (κ : Type) where
  /-- `put` of the table, with the text of what it raises. -/
  put : κ → String → Dict String Json → κ × Option String
  /-- `delete` of the table. -/
  delete : κ → String → κ × Option String
  /-- `_reminder_signature` under the integrity key, where there is one. -/
  digest : Option (Dict String Json → String) := none
  /-- `datetime.fromisoformat`; `none` is a `ValueError`. -/
  fromIsoFormat : String → Option DateTime
  /-- The microseconds of `timedelta(minutes=value)`; an error is what it raises. -/
  minutes : Json → Except String ℤ
  /-- `str` of a list or a dictionary. -/
  textOfContainer : Json → String

/-- What is called for a reminder; it returns what it raises, if anything. -/
abbrev Callback := Reminder → Option String

structure ReminderScheduler (κ : Type) where
  reminders : Dict String Reminder := []
  callbacks : List Callback := []
  keepCompleted : Option ℤ := some 200
  errors : List String := []
  firing : List String := []
  world : κ

namespace ReminderScheduler

variable {κ : Type} (table : ReminderTable κ)

/-! ## The store -/

def sign (reminder : Reminder) : Reminder :=
  match table.digest with
  | none => reminder
  | some digest =>
      { reminder with
        integrityDigest := some (digest (Dict.erase reminder.toDict "integrity_digest")) }

/-- `_record_error`; the newest hundred are kept. -/
def recordError (s : ReminderScheduler κ) (message : String) : ReminderScheduler κ :=
  let errors := s.errors ++ [message]
  { s with errors := errors.drop (errors.length - 100) }

/-- A reminder put into memory and into the table. -/
def store (s : ReminderScheduler κ) (reminder : Reminder) :
    ReminderScheduler κ × Option String :=
  let reminder := sign table reminder
  let written := table.put s.world reminder.id reminder.toDict
  ({ s with reminders := Dict.set s.reminders reminder.id reminder, world := written.1 }, written.2)

def addReminder (s : ReminderScheduler κ) (reminder : Reminder) :
    ReminderScheduler κ × Option String :=
  if (Dict.get? s.reminders reminder.id).isSome then
    (s, some ("reminder already exists: " ++ reminder.id))
  else store table s reminder

def removeReminder (s : ReminderScheduler κ) (id : String) : ReminderScheduler κ × Option String :=
  if (Dict.get? s.reminders id).isSome then
    let written := table.delete s.world id
    ({ s with reminders := Dict.erase s.reminders id, world := written.1 }, written.2)
  else (s, none)

/-- The second part of the key that `prune_completed` sorts by. -/
def pruneStamp (reminder : Reminder) : DateTime := reminder.dueAt.getD reminder.createdAt

/-- Whether two keys of `prune_completed` can be compared. -/
def keysCompare (a b : Reminder) : Bool :=
  a.createdAt.instant ≠ b.createdAt.instant || (pruneStamp a).aware = (pruneStamp b).aware

/-- The order of two keys that can be compared. -/
def keysLe (a b : Reminder) : Bool :=
  a.createdAt.instant < b.createdAt.instant ||
    (a.createdAt.instant = b.createdAt.instant &&
      (pruneStamp a).instant ≤ (pruneStamp b).instant)

/-- `sorted` by these keys.  A sort has to compare two neighbours of its result, so it raises
exactly if two keys cannot be compared. -/
def sortedByKey (reminders : List Reminder) : Except String (List Reminder) :=
  if reminders.all fun a => reminders.all fun b => keysCompare a b then
    .ok (reminders.mergeSort keysLe)
  else .error "can't compare offset-naive and offset-aware datetimes"

/-- `remove_reminder` for one after the other. -/
def removeAll (s : ReminderScheduler κ) : List Reminder → ReminderScheduler κ × Option String
  | [] => (s, none)
  | reminder :: rest =>
      let removed := removeReminder table s reminder.id
      match removed.2 with
      | some exception => (removed.1, some exception)
      | none => removeAll removed.1 rest

def completedReminders (s : ReminderScheduler κ) : List Reminder :=
  (s.reminders.map Prod.snd).filter Reminder.completed

def pruneCompleted (s : ReminderScheduler κ) (keep : ℤ) : ReminderScheduler κ × Option String :=
  match sortedByKey s.completedReminders with
  | .error exception => (s, some exception)
  | .ok completed =>
      removeAll table s (if 0 < keep then completed.take (completed.length - keep.toNat)
        else completed)

def pruneIfOverCap (s : ReminderScheduler κ) : ReminderScheduler κ × Option String :=
  match s.keepCompleted with
  | none => (s, none)
  | some keep =>
      if keep < s.completedReminders.length then pruneCompleted table s keep else (s, none)

def saveReminder (s : ReminderScheduler κ) (reminder : Reminder) :
    ReminderScheduler κ × Option String :=
  let stored := store table s reminder
  match stored.2 with
  | some exception => (stored.1, some exception)
  | none => pruneIfOverCap table stored.1

/-! ## What is due -/

/-- The condition of `get_due_reminders`, evaluated from left to right. -/
def isDue (now : DateTime) (reminder : Reminder) : Except String Bool :=
  if reminder.completed then .ok false
  else match reminder.dueAt with
    | none => .ok false
    | some due =>
        match due.le? now with
        | .error exception => .error exception
        | .ok false => .ok false
        | .ok true =>
            match reminder.snoozedUntil with
            | none => .ok true
            | some until_ => until_.le? now

/-- The loop of `get_due_reminders`. -/
def dueAmong (now : DateTime) : List Reminder → Except String (List Reminder)
  | [] => .ok []
  | reminder :: rest =>
      match isDue now reminder with
      | .error exception => .error exception
      | .ok due => (dueAmong now rest).map fun later => if due then reminder :: later else later

def getDueReminders (s : ReminderScheduler κ) (now : DateTime) : Except String (List Reminder) :=
  dueAmong now (s.reminders.map Prod.snd)

/-! ## `check_due` -/

/-- `_fire`, with the calls it makes: what a callback raises is recorded, and the next is called. -/
def fire (s : ReminderScheduler κ) (reminder : Reminder) :
    List Callback → ReminderScheduler κ × List (Reminder × Callback)
  | [] => (s, [])
  | callback :: rest =>
      let s := match callback reminder with
        | none => s
        | some exception => s.recordError
            ("callback failed for reminder " ++ reminder.id ++ ": " ++ exception)
      let later := fire s reminder rest
      (later.1, (reminder, callback) :: later.2)

def rescheduleIfRepeating (s : ReminderScheduler κ) (reminder : Reminder) :
    ReminderScheduler κ × Option String :=
  if isText reminder.repeats ["", "none"] then (s, none)
  else match reminder.dueAt with
    | none => (s, none)
    | some due =>
        match nextOccurrence due reminder.repeats with
        | .error exception => (s, some exception)
        | .ok none => (s, none)
        | .ok (some next) => saveReminder table s { reminder with dueAt := some next }

/-- What `check_due` does behind the callbacks. -/
def settle (s : ReminderScheduler κ) (reminder : Reminder) : ReminderScheduler κ × Option String :=
  if (Dict.get? s.reminders reminder.id).isNone then (s, none)
  else if isText reminder.repeats ["", "none"] then
    saveReminder table s { reminder with completed := true }
  else rescheduleIfRepeating table s reminder

/-- A round of `check_due`: the scheduler after it, the calls it made, and what it raised. -/
structure Round (κ : Type) where
  scheduler : ReminderScheduler κ
  calls : List (Reminder × Callback) := []
  raised : Option String := none

/-- The loop of `check_due`. -/
def fireAll (s : ReminderScheduler κ) : List Reminder → Round κ
  | [] => { scheduler := s }
  | reminder :: rest =>
      if reminder.id ∈ s.firing then fireAll s rest
      else
        let fired := { s with firing := reminder.id :: s.firing }.fire reminder s.callbacks
        let settled := settle table fired.1 reminder
        let left := { settled.1 with firing := settled.1.firing.erase reminder.id }
        match settled.2 with
        | some exception => { scheduler := left, calls := fired.2, raised := some exception }
        | none =>
            let round := fireAll left rest
            { round with calls := fired.2 ++ round.calls }

def checkDue (s : ReminderScheduler κ) (now : DateTime) : Round κ :=
  match s.getDueReminders now with
  | .error exception => { scheduler := s, raised := some exception }
  | .ok due => fireAll table s due

end ReminderScheduler

/-! ## The tool -/

structure ToolResult where
  ok : Bool
  data : Dict String Json := []
  deriving Inhabited

/-- The scheduler after an action, and the result or what the action raised. -/
structure Acted (κ : Type) where
  scheduler : ReminderScheduler κ
  result : Except String ToolResult

namespace ReminderTool

variable {κ : Type} (table : ReminderTable κ)

open ReminderScheduler

/-- An answer that leaves the scheduler. -/
def answer (s : ReminderScheduler κ) (ok : Bool) (data : Dict String Json) : Acted κ :=
  { scheduler := s, result := .ok { ok := ok, data := data } }

/-- The text of an argument that may be missing or empty. -/
def argumentText (arguments : Dict String Json) (key default : String) : String :=
  match (Dict.get? arguments key).filter Json.truthy with
  | some value => value.text table.textOfContainer
  | none => default

/-- `str(arguments.get("_schedule_principal_id") or "local-default")`. -/
def principal (arguments : Dict String Json) : String :=
  argumentText table arguments "_schedule_principal_id" "local-default"

/-- `str(arguments.get("_schedule_session_id") or "default")`. -/
def session (arguments : Dict String Json) : String :=
  argumentText table arguments "_schedule_session_id" "default"

/-- The due date of the arguments: absent or empty, unreadable with its text, or a date.  What is
not a text raises. -/
def readDueAt (arguments : Dict String Json) :
    Except String (Option (Except String DateTime)) :=
  match (Dict.get? arguments "due_at").filter Json.truthy with
  | none => .ok none
  | some (.str text) =>
      match table.fromIsoFormat text with
      | some due => .ok (some (.ok due))
      | none => .ok (some (.error text))
  | some _ => .error "fromisoformat: argument must be str"

/-- `_owned_reminder`; `value` is the reminder's id.  A value that is not a text is no key, and a
list or a dictionary cannot be looked up. -/
def ownedReminder (s : ReminderScheduler κ) (value : Json) (arguments : Dict String Json) :
    Except String (Option Reminder) :=
  match value with
  | .arr _ => .error "unhashable type: 'list'"
  | .obj _ => .error "unhashable type: 'dict'"
  | value => .ok (value.str?.bind fun id => (Dict.get? s.reminders id).filter fun reminder =>
      reminder.principalId = principal table arguments &&
        reminder.sessionId = session table arguments)

/-- The answer of an action on a reminder of the caller, which `act` is. -/
def onOwned (s : ReminderScheduler κ) (value : Json) (arguments : Dict String Json)
    (act : Reminder → Acted κ) : Acted κ :=
  match ownedReminder table s value arguments with
  | .error exception => { scheduler := s, result := .error exception }
  | .ok none => answer s false
      [("error", .str ("Reminder " ++ value.text table.textOfContainer ++ " not found."))]
  | .ok (some reminder) => act reminder

/-- The result for a changed reminder. -/
def changed (ran : ReminderScheduler κ × Option String) (data : Dict String Json) : Acted κ :=
  match ran.2 with
  | some exception => { scheduler := ran.1, result := .error exception }
  | none => { scheduler := ran.1, result := .ok { ok := true, data := data } }

/-- `_create_reminder`; `id` is what `uuid4` gives. -/
def createReminder (s : ReminderScheduler κ) (now : DateTime) (id : String)
    (arguments : Dict String Json) : Acted κ :=
  let title := (Dict.get? arguments "title").getD (.str "Untitled reminder")
  match readDueAt table arguments with
  | .error exception => { scheduler := s, result := .error exception }
  | .ok (some (.error text)) =>
      answer s false [("error", .str ("Invalid due_at format: " ++ text))]
  | .ok due =>
      let reminder := {
        id := id
        title := title
        description := (Dict.get? arguments "description").getD (.str "")
        dueAt := match due with | some (.ok due) => some due | _ => none
        repeats := (Dict.get? arguments "repeat").getD (.str "none")
        createdAt := now
        principalId := principal table arguments
        sessionId := session table arguments
        workspaceId := (Dict.get? arguments "_schedule_workspace_id").getD .null }
      changed (addReminder table s reminder) [
        ("reminder", .obj (sign table reminder).toDict),
        ("message", .str ("Reminder '" ++ title.text table.textOfContainer ++ "' created."))]

def listReminders (s : ReminderScheduler κ) (arguments : Dict String Json) (asked : Option Bool) :
    Acted κ :=
  let reminders := (s.reminders.map Prod.snd).filter fun reminder =>
    (asked.all fun completed => reminder.completed = completed) &&
      reminder.principalId = principal table arguments &&
      reminder.sessionId = session table arguments
  answer s true [
    ("reminders", .arr (reminders.map fun reminder => .obj reminder.toDict)),
    ("count", .int reminders.length)]

def reminderId (arguments : Dict String Json) : Json :=
  (Dict.get? arguments "reminder_id").getD (.str "")

def cancelReminder (s : ReminderScheduler κ) (arguments : Dict String Json) : Acted κ :=
  let value := reminderId arguments
  if !value.truthy then answer s false [("error", .str "reminder_id is required")]
  else onOwned table s value arguments fun reminder =>
    changed (removeReminder table s reminder.id) [
      ("message", .str ("Reminder " ++ reminder.id ++ " cancelled."))]

/-- The reminder with the texts that the arguments have. -/
def retitled (reminder : Reminder) (arguments : Dict String Json) : Reminder :=
  { reminder with
    title := (Dict.get? arguments "title").getD reminder.title
    description := (Dict.get? arguments "description").getD reminder.description }

/-- `_update_reminder`: the record in memory has its new title and description before the due date
is read. -/
def updateReminder (s : ReminderScheduler κ) (arguments : Dict String Json) : Acted κ :=
  onOwned table s (reminderId arguments) arguments fun reminder =>
    let reminder := retitled reminder arguments
    let touched := { s with reminders := Dict.set s.reminders reminder.id reminder }
    match readDueAt table arguments with
    | .error exception => { scheduler := touched, result := .error exception }
    | .ok (some (.error _)) => answer touched false [("error", .str "Invalid due_at format")]
    | .ok due =>
        let reminder := { reminder with
          dueAt := match due with | some (.ok due) => some due | _ => reminder.dueAt
          repeats := (Dict.get? arguments "repeat").getD reminder.repeats }
        changed (saveReminder table touched reminder) [
          ("reminder", .obj (sign table reminder).toDict),
          ("message", .str ("Reminder " ++ reminder.id ++ " updated."))]

def snoozeReminder (s : ReminderScheduler κ) (now : DateTime) (arguments : Dict String Json) :
    Acted κ :=
  let minutes := (Dict.get? arguments "snooze_minutes").getD (.int 10)
  onOwned table s (reminderId arguments) arguments fun reminder =>
    match (table.minutes minutes).bind now.add with
    | .error exception => { scheduler := s, result := .error exception }
    | .ok until_ =>
        let reminder := { reminder with snoozedUntil := some until_ }
        changed (saveReminder table s reminder) [
          ("reminder", .obj (sign table reminder).toDict),
          ("message", .str ("Reminder " ++ reminder.id ++ " snoozed for " ++
            minutes.text table.textOfContainer ++ " minutes."))]

def completeReminder (s : ReminderScheduler κ) (arguments : Dict String Json) : Acted κ :=
  onOwned table s (reminderId arguments) arguments fun reminder =>
    let reminder := { reminder with completed := true }
    changed (saveReminder table s reminder) [
      ("reminder", .obj (sign table reminder).toDict),
      ("message", .str ("Reminder " ++ reminder.id ++ " completed."))]

def run (s : ReminderScheduler κ) (now : DateTime) (id : String) (arguments : Dict String Json) :
    Acted κ :=
  let action := (Dict.get? arguments "action").getD (.str "list")
  if isText action ["create"] then createReminder table s now id arguments
  else if isText action ["list"] then
    match Dict.get? arguments "completed" with
    | none | some .null => listReminders table s arguments none
    | some (.str text) => listReminders table s arguments (some (Text.lower text = "true"))
    | some _ => { scheduler := s, result := .error "object has no attribute 'lower'" }
  else if isText action ["cancel"] then cancelReminder table s arguments
  else if isText action ["update"] then updateReminder table s arguments
  else if isText action ["snooze"] then snoozeReminder table s now arguments
  else if isText action ["complete"] then completeReminder table s arguments
  else answer s false
    [("error", .str ("Unknown action: " ++ action.text table.textOfContainer))]

end ReminderTool

/-! ## Runs -/

/-- What can happen to a scheduler. -/
inductive ReminderMove where
  /-- A call of the tool, at a time, with the text `uuid4` gives. -/
  | act (now : DateTime) (id : String) (arguments : Dict String Json)
  | checkDue (now : DateTime)
  | register (callback : Callback)
  deriving Inhabited

namespace ReminderMove

/-- One move; the clock shows UTC. -/
def step {κ : Type} (table : ReminderTable κ) (s : ReminderScheduler κ) :
    ReminderMove → Option (ReminderScheduler κ)
  | act now id arguments =>
      if now.offset = some 0 then some (ReminderTool.run table s now id arguments).scheduler
      else none
  | checkDue now =>
      if now.offset = some 0 then some (s.checkDue table now).scheduler else none
  | register callback => some { s with callbacks := s.callbacks ++ [callback] }

/-- The life of a scheduler. -/
def machine {κ : Type} (table : ReminderTable κ) : Machine (ReminderScheduler κ) ReminderMove :=
  ⟨step table⟩

end ReminderMove

end Samaktha
