import Samaktha.Tools.Recurrence

/-!
# Reminders changed while they fire

`check_due` waits in asynchronous callbacks, and the tool acts on the same reminders meanwhile.
A state holds the scheduler with every call of `check_due` that is under way: what is left of its
list, and the callback it waits for.  Between two of its waits nothing else runs.

Which object a check holds is a number, since a reminder created under the id of a cancelled one
is another object.  Beside this a state keeps what no code reads: how the user has left each
reminder, which callbacks have been called for what, and when the lists were made that a reminder
has been fired from.  `Kept` says that what the user asked for is in effect and that no occurrence
calls a callback twice; `kept_run` has the condition under which a run keeps it.
-/

namespace Samaktha

/-- A reminder in the list of a check: the object, and since when it was due as it was then. -/
structure Listed where
  id : String
  object : ℕ
  occurrence : ℕ
  deriving DecidableEq, Inhabited

/-- Where the loop of `check_due` is. -/
inductive DueStage where
  /-- Before the next reminder of its list. -/
  | next
  /-- In a callback, by its index. -/
  | waiting (fired : Listed) (callback : ℕ)
  /-- Behind the callbacks. -/
  | settling (fired : Listed)
  deriving DecidableEq, Inhabited

/-- A call of `check_due`, with the time it has made its list at. -/
structure DueCheck where
  since : ℕ
  rest : List Listed
  stage : DueStage := .next
  deriving DecidableEq, Inhabited

/-- The reminder that a check is firing. -/
def DueStage.fired? : DueStage → Option Listed
  | next => none
  | waiting fired _ => some fired
  | settling fired => some fired

/-- A check that waits for a callback or has ended. -/
def DueCheck.suspended (check : DueCheck) : Bool :=
  match check.stage with
  | .next => check.rest.isEmpty
  | .waiting _ _ => true
  | .settling _ => false

/-- What is known of a reminder besides its record. -/
structure Mark where
  object : ℕ
  /-- Since when its due date and its snooze are what they are. -/
  occurrence : ℕ
  /-- The record as the user has left it. -/
  asked : Reminder
  /-- Since when it has a due date or a snooze of the user's for which it has not been fired. -/
  retimed : Option ℕ := none
  /-- The user has left it completed. -/
  finished : Bool := false
  /-- An action of the user's has removed it. -/
  removed : Bool := false
  deriving Inhabited

/-- A scheduler with the checks that are under way. -/
structure FiringState (κ : Type) where
  scheduler : ReminderScheduler κ
  marks : Dict String Mark
  checks : Dict ℕ DueCheck := []
  clock : ℕ := 1
  /-- The calls made: the reminder, the occurrence it was listed for, and the callback. -/
  called : List (String × ℕ × ℕ) := []
  /-- When the latest of the lists was made from which a reminder has been fired. -/
  fires : Dict String ℕ := []

/-- What can happen while reminders fire. -/
inductive FiringMove where
  /-- A call of the tool, at a time, with the text `uuid4` gives. -/
  | act (now : DateTime) (id : String) (arguments : Dict String Json)
  /-- A call of `check_due`, up to its loop. -/
  | check (now : DateTime)
  /-- The next turn of a check that is not waiting. -/
  | turn (check : ℕ)
  /-- The callback that a check waits for returns, or raises a text. -/
  | back (check : ℕ) (raised : Option String)
  deriving Inhabited

namespace FiringState

variable {κ : Type} (table : ReminderTable κ)

/-- A scheduler with its reminders as the user has left them. -/
def opened (s : ReminderScheduler κ) : FiringState κ :=
  { scheduler := s
    marks := Dict.mapValues (fun r =>
      { object := 0, occurrence := 0, asked := r, finished := r.completed }) s.reminders }

/-- Nothing runs but what waits. -/
def idle (s : FiringState κ) : Bool := s.checks.all fun kv => kv.2.suspended

/-! ## Actions of the user -/

/-- The reminder that an action of the tool is about. -/
def target (id : String) (arguments : Dict String Json) : Option String :=
  let action := (Dict.get? arguments "action").getD (.str "list")
  if isText action ["create"] then some id
  else if isText action ["cancel", "update", "snooze", "complete"] then
    (ReminderTool.reminderId arguments).str?
  else none

/-- The due date and the snooze. -/
def timing (reminder : Reminder) : Option DateTime × Option DateTime :=
  (reminder.dueAt, reminder.snoozedUntil)

/-- The mark of a reminder behind an action of the user's on it. -/
def remark (clock : ℕ) (mark : Option Mark) : Option Reminder → Option Reminder → Option Mark
  | none, none => mark
  | none, some new =>
      some { object := clock, occurrence := clock, asked := new, finished := new.completed }
  | some _, none => mark.map fun m => { m with removed := true }
  | some before, some after => mark.map fun m =>
      { m with
        occurrence := if timing after = timing before then m.occurrence else clock
        asked := after
        retimed := if timing after = timing before then m.retimed else some clock
        finished := m.finished || after.completed }

/-- The marks behind an action on a reminder. -/
def remarked (s : FiringState κ) (after : Dict String Reminder) : Option String → Dict String Mark
  | none => s.marks
  | some id =>
      match remark s.clock (Dict.get? s.marks id) (Dict.get? s.scheduler.reminders id)
          (Dict.get? after id) with
      | none => s.marks
      | some mark => Dict.set s.marks id mark

/-- A call of the tool. -/
def act (s : FiringState κ) (now : DateTime) (id : String) (arguments : Dict String Json) :
    FiringState κ :=
  let acted := (ReminderTool.run table s.scheduler now id arguments).scheduler
  { s with
    scheduler := acted
    marks := s.remarked acted.reminders (target id arguments) }

/-! ## The loop of `check_due` -/

def listed (s : FiringState κ) (reminder : Reminder) : Listed :=
  let mark := (Dict.get? s.marks reminder.id).getD default
  { id := reminder.id, object := mark.object, occurrence := mark.occurrence }

/-- A check is put back. -/
def put (s : FiringState κ) (i : ℕ) (check : DueCheck) : FiringState κ :=
  { s with checks := Dict.set s.checks i check }

/-- The ids that are being fired. -/
def withFiring (s : FiringState κ) (firing : List String) : FiringState κ :=
  { s with scheduler := { s.scheduler with firing := firing } }

/-- The loop of `_fire` reaches a callback, or its end. -/
def reach (s : FiringState κ) (i : ℕ) (check : DueCheck) (fired : Listed) (callback : ℕ) :
    FiringState κ :=
  if callback < s.scheduler.callbacks.length then
    { s.put i { check with stage := .waiting fired callback } with
      called := (fired.id, fired.occurrence, callback) :: s.called }
  else s.put i { check with stage := .settling fired }

/-- The `finally` of the loop, and the end of the check where something was raised. -/
def leave (s : FiringState κ) (i : ℕ) (check : DueCheck) (fired : Listed)
    (raised : Option String) : FiringState κ :=
  (s.withFiring (s.scheduler.firing.erase fired.id)).put i
    { check with stage := .next, rest := if raised.isSome then [] else check.rest }

/-- A reminder of a check's list begins to fire. -/
def began (s : FiringState κ) (check : DueCheck) (fired : Listed) : FiringState κ :=
  { s.withFiring (fired.id :: s.scheduler.firing) with
    fires := Dict.set s.fires fired.id
      (max check.since ((Dict.get? s.fires fired.id).getD check.since)) }

/-- `self._reminders.get(reminder.id) is reminder`: the mark and the record of the object. -/
def held (s : FiringState κ) (fired : Listed) : Option (Mark × Reminder) :=
  match Dict.get? s.marks fired.id, Dict.get? s.scheduler.reminders fired.id with
  | some mark, some reminder => if mark.object = fired.object then some (mark, reminder) else none
  | _, _ => none

/-- The mark of a reminder that has been fired: what the user asked for before the list was made
is done. -/
def settledMark (clock since : ℕ) (mark : Mark) (before : Reminder) (after : Option Reminder) :
    Mark :=
  { mark with
    occurrence := if after.elim before.dueAt Reminder.dueAt = before.dueAt then mark.occurrence
      else clock
    retimed := mark.retimed.filter fun at_ => since < at_ }

/-- What `check_due` does behind the callbacks. -/
def settle (s : FiringState κ) (i : ℕ) (check : DueCheck) (fired : Listed) : FiringState κ :=
  match s.held fired with
  | none => s.leave i check fired none
  | some (mark, reminder) =>
      let settled := ReminderScheduler.settle table s.scheduler reminder
      let mark := settledMark s.clock check.since mark reminder
        (Dict.get? settled.1.reminders fired.id)
      { s with
        scheduler := settled.1
        marks := Dict.set s.marks fired.id mark }.leave i check fired settled.2

def turn (s : FiringState κ) (i : ℕ) (check : DueCheck) : Option (FiringState κ) :=
  match check.stage with
  | .waiting _ _ => none
  | .settling fired => some (settle table s i check fired)
  | .next =>
      match check.rest with
      | [] => none
      | fired :: rest =>
          let check := { check with rest := rest }
          if fired.id ∈ s.scheduler.firing then some (s.put i check)
          else some ((s.began check fired).reach i check fired 0)

/-- A callback has returned; what it raised is recorded. -/
def back (s : FiringState κ) (i : ℕ) (check : DueCheck) (raised : Option String) :
    Option (FiringState κ) :=
  match check.stage with
  | .waiting fired callback =>
      let scheduler := match raised with
        | none => s.scheduler
        | some exception => s.scheduler.recordError
            ("callback failed for reminder " ++ fired.id ++ ": " ++ exception)
      some ({ s with scheduler := scheduler }.reach i check fired (callback + 1))
  | _ => none

/-! ## Runs -/

/-- One move, the clock apart. -/
def move (s : FiringState κ) : FiringMove → Option (FiringState κ)
  | .act now id arguments =>
      if s.idle = true ∧ now.offset = some 0 then some (s.act table now id arguments) else none
  | .check now =>
      if s.idle = true ∧ now.offset = some 0 then
        match s.scheduler.getDueReminders now with
        | .error _ => some s
        | .ok due => some (s.put s.clock { since := s.clock, rest := due.map s.listed })
      else none
  | .turn i => (Dict.get? s.checks i).bind (s.turn table i)
  | .back i raised =>
      if s.idle = true then (Dict.get? s.checks i).bind fun check => s.back i check raised
      else none

/-- One move; each takes some time. -/
def step (s : FiringState κ) (move : FiringMove) : Option (FiringState κ) :=
  (s.move table move).map fun t => { t with clock := s.clock + 1 }

/-- The life of a scheduler whose callbacks take time. -/
def machine : Machine (FiringState κ) FiringMove := ⟨step table⟩

/-! ## What is asked of it -/

/-- A stored reminder is as the user has left it, what its firing changes apart: a due date or a
snooze for which it has not been fired is there, with no completion that is not the user's. -/
structure Keeps (mark : Mark) (reminder : Reminder) : Prop where
  title : reminder.title = mark.asked.title
  description : reminder.description = mark.asked.description
  repeats : reminder.repeats = mark.asked.repeats
  finished : mark.finished = true → reminder.completed = true
  retimed : mark.retimed ≠ none → timing reminder = timing mark.asked ∧
    (reminder.completed = true → mark.finished = true)
  stands : mark.removed = false

/-- What the user has asked for is in effect.  A reminder that is not there was removed by the
user, or could be pruned. -/
def Upheld : Option Mark → Option Reminder → Prop
  | some mark, some reminder => Keeps mark reminder
  | some mark, none => mark.removed = true ∨ mark.finished = true ∨ mark.retimed = none
  | none, some _ => False
  | none, none => True

/-- Every change of the user's is in effect, and no callback is called twice for one
occurrence. -/
structure Kept (s : FiringState κ) : Prop where
  upheld : ∀ id, Upheld (Dict.get? s.marks id) (Dict.get? s.scheduler.reminders id)
  once : s.called.Nodup

/-- The date that a repeating reminder gets when it has been fired, if any. -/
def nextDue (reminder : Reminder) : Option DateTime :=
  reminder.dueAt.bind fun due =>
    match nextOccurrence due reminder.repeats with
    | .ok next => next
    | .error _ => none

/-- Settling this reminder completes it or gives it another date. -/
def Overwrites (reminder : Reminder) : Prop :=
  if isText reminder.repeats ["", "none"] = true then reminder.completed = false
  else nextDue reminder ≠ none

instance (reminder : Reminder) : Decidable (Overwrites reminder) :=
  inferInstanceAs (Decidable (if isText reminder.repeats ["", "none"] = true then
    reminder.completed = false else nextDue reminder ≠ none))

/-- The reminder that the next turn of a check may begin to fire. -/
def ahead? (check : DueCheck) : Option Listed :=
  match check.stage with
  | .next => check.rest.head?
  | _ => none

/-- The reminder that the next turn of a check settles. -/
def settling? (check : DueCheck) : Option Listed :=
  match check.stage with
  | .settling fired => some fired
  | _ => none

/-- A firing may begin where the reminder has got the date that it is listed with after the last
list was made from which it has been fired. -/
def Begins (s : FiringState κ) (check : DueCheck) : Prop :=
  ∀ fired ∈ ahead? check, fired.id ∉ s.scheduler.firing → s.scheduler.callbacks ≠ [] →
    ∀ at_ ∈ Dict.get? s.fires fired.id, at_ < fired.occurrence

/-- A firing may end where the user has not given the reminder another due date or snooze since it
was listed, or settling it writes nothing. -/
def Ends (s : FiringState κ) (check : DueCheck) : Prop :=
  ∀ fired ∈ settling? check, ∀ found ∈ s.held fired, ∀ at_ ∈ found.1.retimed,
    check.since < at_ → ¬ Overwrites found.2

/-- The condition on a move. -/
def Clear (s : FiringState κ) : FiringMove → Prop
  | .turn i => ∀ check ∈ Dict.get? s.checks i, s.Begins check ∧ s.Ends check
  | _ => True

/-! ## What an action of the tool does -/

/-- What an action about one reminder makes of a scheduler. -/
inductive Acts (about : Option String) (s : ReminderScheduler κ) : ReminderScheduler κ → Prop where
  | nothing : Acts about s s
  | created (r : Reminder) : about = some r.id → Dict.get? s.reminders r.id = none →
      Acts about s (ReminderScheduler.store table s r).1
  | removed (id : String) : about = some id → Acts about s
      (ReminderScheduler.removeReminder table s id).1
  | touched {t : ReminderScheduler κ} (before after : Reminder) : Acts about s t →
      about = some after.id → Dict.get? t.reminders after.id = some before →
      (before.completed = true → after.completed = true) →
      Acts about s { t with reminders := Dict.set t.reminders after.id after }
  | saved {t : ReminderScheduler κ} (before after : Reminder) : Acts about s t →
      about = some after.id → Dict.get? t.reminders after.id = some before →
      (before.completed = true → after.completed = true) →
      Acts about s (ReminderScheduler.saveReminder table t after).1

section Acts

open ReminderScheduler ReminderTool

variable {table} {s t : ReminderScheduler κ} {about : Option String}

lemma Acts.firing (h : Acts table about s t) : t.firing = s.firing := by
  induction h with
  | nothing => rfl
  | created r => rfl
  | removed id => exact (wrote_removeReminder (P := fun _ => True) table s id).firing
  | touched before after _ _ _ _ ih => exact ih
  | saved before after _ _ _ _ ih =>
      exact (wrote_saveReminder (P := fun _ => True) table _ trivial).firing.trans ih

lemma Acts.entry (h : Acts table about s t) {id : String} {R : Option Reminder → Prop}
    (hentry : Entry id R s.reminders) (hprune : Prunable R)
    (hnew : about = some id → Dict.get? s.reminders id = none → ∀ r, R (some r))
    (hrevised : about = some id → ∀ before after, R (some before) →
      (before.completed = true → after.completed = true) → R (some after))
    (hnone : about = some id → R none) : Entry id R t.reminders := by
  induction h with
  | nothing => exact hentry
  | created r habout habsent =>
      refine entry_store hentry fun hid => ?_
      subst hid
      exact hnew habout habsent _
  | removed gone habout =>
      refine entry_removeReminder hentry fun hid => ?_
      subst hid
      exact hnone habout
  | touched before after _ habout hbefore hcompleted ih =>
      refine ih.set fun hid => ?_
      subst hid
      refine hrevised habout before after ?_ hcompleted
      rw [← hbefore]
      exact ih.stored
  | saved before after _ habout hbefore hcompleted ih =>
      refine entry_saveReminder ih hprune fun hid => ?_
      subst hid
      refine hrevised habout before _ ?_ fun hdone => ?_
      · rw [← hbefore]
        exact ih.stored
      · rw [completed_sign]
        exact hcompleted hdone

lemma Acts.keyed (h : Acts table about s t) (hkeyed : Dict.KeyedBy Reminder.id s.reminders) :
    Dict.KeyedBy Reminder.id t.reminders := by
  have hentry : Entry "" (fun _ => True) s.reminders := ⟨hkeyed, trivial⟩
  exact (h.entry hentry (fun _ _ _ => trivial) (fun _ _ _ => trivial)
    (fun _ _ _ _ _ => trivial) fun _ => trivial).keyed

lemma acts_changed {ran : ReminderScheduler κ × Option String} (h : Acts table about s ran.1)
    (data : Dict String Json) : Acts table about s (changed ran data).scheduler := by
  unfold changed
  split
  · exact h
  · exact h

lemma acts_onOwned (hkeyed : Dict.KeyedBy Reminder.id s.reminders) {value : Json}
    (habout : about = value.str?) {arguments : Dict String Json} {act : Reminder → Acted κ}
    (hact : ∀ r, about = some r.id → Dict.get? s.reminders r.id = some r →
      Acts table about s (act r).scheduler) :
    Acts table about s (onOwned table s value arguments act).scheduler := by
  unfold onOwned
  split
  · exact .nothing
  · exact .nothing
  · rename_i reminder howned
    cases value with
    | str key =>
        have hget := (Option.filter_eq_some_iff.mp (Except.ok.inj howned)).1
        have hkey := hkeyed.eq_of_get? hget
        subst hkey
        exact hact reminder habout hget
    | null | bool | int | float => cases (Except.ok.inj howned)
    | arr | obj => cases howned

lemma acts_addReminder {reminder : Reminder} {id : String} (hid : reminder.id = id) :
    Acts table (some id) s (addReminder table s reminder).1 := by
  subst hid
  unfold addReminder
  split
  · exact .nothing
  · rename_i habsent
    exact .created reminder rfl (Option.not_isSome_iff_eq_none.mp habsent)

lemma acts_createReminder (now : DateTime) (id : String) (arguments : Dict String Json) :
    Acts table (some id) s (createReminder table s now id arguments).scheduler := by
  unfold createReminder
  dsimp only
  split
  · exact .nothing
  · exact .nothing
  · refine acts_changed ?_ _
    exact acts_addReminder rfl

lemma acts_updateReminder (hkeyed : Dict.KeyedBy Reminder.id s.reminders)
    (arguments : Dict String Json) : Acts table (reminderId arguments).str? s
      (updateReminder table s arguments).scheduler := by
  refine acts_onOwned hkeyed rfl fun reminder habout hstored => ?_
  have htouched : Acts table (reminderId arguments).str? s _ :=
    .touched reminder (retitled reminder arguments) .nothing habout hstored id
  dsimp only
  split
  · exact htouched
  · exact htouched
  · refine acts_changed ?_ _
    exact .saved (retitled reminder arguments) _ htouched habout (Dict.get?_set_self _ _ _) id

lemma acts_snoozeReminder (hkeyed : Dict.KeyedBy Reminder.id s.reminders) (now : DateTime)
    (arguments : Dict String Json) : Acts table (reminderId arguments).str? s
      (snoozeReminder table s now arguments).scheduler := by
  refine acts_onOwned hkeyed rfl fun reminder habout hstored => ?_
  split
  · exact .nothing
  · refine acts_changed ?_ _
    exact .saved reminder _ .nothing habout hstored id

lemma acts_completeReminder (hkeyed : Dict.KeyedBy Reminder.id s.reminders)
    (arguments : Dict String Json) : Acts table (reminderId arguments).str? s
      (completeReminder table s arguments).scheduler := by
  refine acts_onOwned hkeyed rfl fun reminder habout hstored => acts_changed ?_ _
  exact .saved reminder _ .nothing habout hstored fun _ => rfl

lemma acts_cancelReminder (hkeyed : Dict.KeyedBy Reminder.id s.reminders)
    (arguments : Dict String Json) : Acts table (reminderId arguments).str? s
      (cancelReminder table s arguments).scheduler := by
  unfold cancelReminder
  dsimp only
  split
  · exact .nothing
  · refine acts_onOwned hkeyed rfl fun reminder habout _ => acts_changed ?_ _
    exact .removed reminder.id habout

def actionOf (arguments : Dict String Json) : Json :=
  (Dict.get? arguments "action").getD (.str "list")

lemma isText_of_mem {value : Json} {text : String} {texts : List String}
    (h : isText value [text] = true) (hmem : text ∈ texts) : isText value texts = true := by
  obtain rfl := isText_singleton.mp h
  exact List.contains_iff_mem.mpr hmem

lemma target_eq {id : String} {arguments : Dict String Json} {text : String}
    (hcreate : ¬ isText (actionOf arguments) ["create"] = true)
    (haction : isText (actionOf arguments) [text] = true)
    (hmem : text ∈ ["cancel", "update", "snooze", "complete"]) :
    target id arguments = (reminderId arguments).str? := by
  unfold target
  exact (if_neg hcreate).trans (if_pos (isText_of_mem haction hmem))

/-- A call of the tool acts on its target. -/
lemma acts_run (hkeyed : Dict.KeyedBy Reminder.id s.reminders) (now : DateTime) (id : String)
    (arguments : Dict String Json) :
    Acts table (target id arguments) s (run table s now id arguments).scheduler := by
  unfold run
  dsimp only
  split
  · rename_i hcreate
    have htarget : target id arguments = some id := if_pos hcreate
    rw [htarget]
    exact acts_createReminder now id arguments
  · rename_i hcreate
    split
    · split <;> exact .nothing
    · split
      · rename_i haction
        rw [target_eq hcreate haction (by decide)]
        exact acts_cancelReminder hkeyed arguments
      · split
        · rename_i haction
          rw [target_eq hcreate haction (by decide)]
          exact acts_updateReminder hkeyed arguments
        · split
          · rename_i haction
            rw [target_eq hcreate haction (by decide)]
            exact acts_snoozeReminder hkeyed now arguments
          · split
            · rename_i haction
              rw [target_eq hcreate haction (by decide)]
              exact acts_completeReminder hkeyed arguments
            · exact .nothing

end Acts

/-! ## What the user has asked for -/

section Upheld

open ReminderScheduler

variable {table} {s : ReminderScheduler κ} {mark : Mark} {r : Reminder}

lemma prunable_upheld (mark : Option Mark) : Prunable (Upheld mark) := by
  intro r hr hcompleted
  cases mark with
  | none => exact hr.elim
  | some mark =>
      by_cases hretimed : mark.retimed = none
      · exact .inr (.inr hretimed)
      · exact .inr (.inl ((hr.retimed hretimed).2 hcompleted))

/-- What a firing may change of a reminder: its due date and its completion, where the user has not
given it another date since it was listed. -/
lemma Keeps.revised (h : Keeps mark r) (r' : Reminder) {since : ℕ}
    (htexts : r'.title = r.title ∧ r'.description = r.description ∧ r'.repeats = r.repeats)
    (hcompleted : r.completed = true → r'.completed = true)
    (hretimed : ∀ at_, mark.retimed = some at_ → since < at_ →
      timing r' = timing r ∧ (r'.completed = true → r.completed = true)) (occurrence : ℕ) :
    Keeps { mark with
      occurrence := occurrence
      retimed := mark.retimed.filter fun at_ => since < at_ } r' where
  title := htexts.1.trans h.title
  description := htexts.2.1.trans h.description
  repeats := htexts.2.2.trans h.repeats
  finished hfinished := hcompleted (h.finished hfinished)
  retimed hsome := by
    obtain ⟨at_, hat⟩ := Option.ne_none_iff_exists'.mp hsome
    obtain ⟨hmark, hlater⟩ := Option.filter_eq_some_iff.mp hat
    have hstill := hretimed at_ hmark (of_decide_eq_true hlater)
    have hwas := h.retimed (by rw [hmark]; exact Option.some_ne_none at_)
    exact ⟨hstill.1.trans hwas.1, fun hdone => hwas.2 (hstill.2 hdone)⟩
  stands := h.stands

/-- Settling a reminder keeps what the user has asked for since it was listed, where it does not
overwrite it. -/
lemma upheld_settle (hkeyed : Dict.KeyedBy Reminder.id s.reminders)
    (hstored : Dict.get? s.reminders r.id = some r) (hkeeps : Keeps mark r) {since : ℕ}
    (hclear : ∀ at_, mark.retimed = some at_ → since < at_ → ¬ Overwrites r) (occurrence : ℕ) :
    Entry r.id (Upheld (some { mark with
      occurrence := occurrence
      retimed := mark.retimed.filter fun at_ => since < at_ }))
      (ReminderScheduler.settle table s r).1.reminders := by
  have hprune := prunable_upheld (some { mark with
    occurrence := occurrence
    retimed := mark.retimed.filter fun at_ => since < at_ })
  have hentry : Entry r.id (fun _ => True) s.reminders := ⟨hkeyed, trivial⟩
  rcases settle_cases table s r with ⟨hgone, -⟩ | ⟨honce, hsettle⟩ |
    ⟨hrepeats, ⟨due, next, hdue, hnext, hsettle⟩ | ⟨-, hsettle⟩⟩
  · cases hgone.symm.trans hstored
  · rw [hsettle]
    refine entry_saved { r with completed := true } hentry hprune ?_
    obtain ⟨digest, hsign⟩ := sign_eq table { r with completed := true }
    rw [hsign]
    refine hkeeps.revised { r with completed := true, integrityDigest := digest } ⟨rfl, rfl, rfl⟩
      (fun _ => rfl) (fun at_ hat hlater => ?_) occurrence
    refine ⟨rfl, fun _ => ?_⟩
    have hnot := hclear at_ hat hlater
    rw [Overwrites, if_pos honce] at hnot
    exact Bool.not_eq_false _ ▸ hnot
  · rw [hsettle]
    refine entry_saved { r with dueAt := some next } hentry hprune ?_
    obtain ⟨digest, hsign⟩ := sign_eq table { r with dueAt := some next }
    rw [hsign]
    refine hkeeps.revised { r with dueAt := some next, integrityDigest := digest }
      ⟨rfl, rfl, rfl⟩ id (fun at_ hat hlater => ?_) occurrence
    refine absurd ?_ (hclear at_ hat hlater)
    rw [Overwrites, if_neg (Bool.eq_false_iff.mp hrepeats), nextDue, hdue, Option.bind_some, hnext]
    exact Option.some_ne_none next
  · rw [hsettle]
    refine ⟨hkeyed, ?_⟩
    rw [hstored]
    exact hkeeps.revised r ⟨rfl, rfl, rfl⟩ id (fun _ _ _ => ⟨rfl, id⟩) occurrence

lemma upheld_remark {mark : Option Mark} {before after : Option Reminder} {clock : ℕ}
    (h : Upheld mark before)
    (hcompleted : ∀ r r', before = some r → after = some r' →
      r.completed = true → r'.completed = true) :
    Upheld (remark clock mark before after) after := by
  cases before with
  | none =>
      cases after with
      | none => exact h
      | some new =>
          exact ⟨rfl, rfl, rfl, id, fun hretimed => absurd rfl hretimed, rfl⟩
  | some before =>
      cases mark with
      | none => exact h.elim
      | some mark =>
          cases after with
          | none => exact .inl rfl
          | some after =>
              refine ⟨rfl, rfl, rfl, fun hfinished => ?_, fun _ => ⟨rfl, fun hdone => ?_⟩, h.stands⟩
              · rcases Bool.or_eq_true_iff.mp hfinished with hwas | hnow
                · exact hcompleted before after rfl rfl (h.finished hwas)
                · exact hnow
              · exact Bool.or_eq_true_iff.mpr (.inr hdone)

end Upheld

/-! ## Checks under way -/

/-- Each check fires under an id of its own, which is noted, and waits in the last callback that
has been called for its occurrence. -/
structure Booked (s : FiringState κ) : Prop where
  noted : ∀ i check fired, Dict.get? s.checks i = some check →
    check.stage.fired? = some fired → fired.id ∈ s.scheduler.firing
  apart : ∀ i j check other fired fired', Dict.get? s.checks i = some check →
    Dict.get? s.checks j = some other → i ≠ j → check.stage.fired? = some fired →
      other.stage.fired? = some fired' → fired.id ≠ fired'.id
  last : ∀ i check fired callback, Dict.get? s.checks i = some check →
    check.stage = .waiting fired callback →
      ∀ later, (fired.id, fired.occurrence, later) ∈ s.called → later ≤ callback

/-- What every state has that a run reaches under the condition. -/
structure Sound (s : FiringState κ) : Prop where
  keyed : Dict.KeyedBy Reminder.id s.scheduler.reminders
  kept : Kept s
  booked : Booked s

section Booked

variable {s t : FiringState κ} {i : ℕ} {check : DueCheck} {fired : Listed}

/-- No other check fires under the id. -/
def Alone (s : FiringState κ) (i : ℕ) (id : String) : Prop :=
  ∀ j other fired, j ≠ i → Dict.get? s.checks j = some other →
    other.stage.fired? = some fired → fired.id ≠ id

lemma Booked.alone (h : Booked s) (hcheck : Dict.get? s.checks i = some check)
    (hfired : check.stage.fired? = some fired) : s.Alone i fired.id :=
  fun j other fired' hj hother hfired' => h.apart j i other check fired' fired hother hcheck hj
    hfired' hfired

lemma Booked.put_next (h : Booked s) (check : DueCheck) (hnext : check.stage = .next)
    {firing : List String} (hnoted : ∀ j other fired, j ≠ i → Dict.get? s.checks j = some other →
      other.stage.fired? = some fired → fired.id ∈ firing) :
    Booked ((s.withFiring firing).put i check) where
  noted j other fired hother hfired := by
    rw [put, Dict.get?_set] at hother
    split at hother
    · obtain rfl := Option.some.inj hother
      rw [hnext] at hfired
      cases hfired
    · rename_i hj
      exact hnoted j other fired (fun hk => hj hk.symm) hother hfired
  apart j k other another fired fired' hother hanother hne hfired hfired' := by
    rw [put, Dict.get?_set] at hother hanother
    split at hother
    · obtain rfl := Option.some.inj hother
      rw [hnext] at hfired
      cases hfired
    · split at hanother
      · obtain rfl := Option.some.inj hanother
        rw [hnext] at hfired'
        cases hfired'
      · exact h.apart j k other another fired fired' hother hanother hne hfired hfired'
  last j other fired callback hother hstage := by
    rw [put, Dict.get?_set] at hother
    split at hother
    · obtain rfl := Option.some.inj hother
      cases hnext.symm.trans hstage
    · exact h.last j other fired callback hother hstage

lemma Booked.put_firing (h : Booked s) (check : DueCheck)
    (hfired : check.stage.fired? = some fired) (hnoted : fired.id ∈ s.scheduler.firing)
    (halone : s.Alone i fired.id) {called : List (String × ℕ × ℕ)}
    (hcalled : ∀ call ∈ called, call.1 = fired.id ∨ call ∈ s.called)
    (hlast : ∀ callback, check.stage = .waiting fired callback →
      ∀ later, (fired.id, fired.occurrence, later) ∈ called → later ≤ callback) :
    Booked { s.put i check with called := called } where
  noted j other fired' hother hfired' := by
    rw [put, Dict.get?_set] at hother
    split at hother
    · obtain rfl := Option.some.inj hother
      obtain rfl := Option.some.inj (hfired.symm.trans hfired')
      exact hnoted
    · exact h.noted j other fired' hother hfired'
  apart j k other another one two hother hanother hne hone htwo := by
    rw [put, Dict.get?_set] at hother hanother
    split at hother
    · rename_i hj
      obtain rfl := Option.some.inj hother
      obtain rfl := Option.some.inj (hfired.symm.trans hone)
      rw [if_neg (fun hk => hne (hj.symm.trans hk))] at hanother
      exact fun heq => halone k another two (fun hk => hne (hj.symm.trans hk.symm)) hanother htwo
        heq.symm
    · rename_i hj
      split at hanother
      · obtain rfl := Option.some.inj hanother
        obtain rfl := Option.some.inj (hfired.symm.trans htwo)
        exact halone j other one (fun hk => hj hk.symm) hother hone
      · exact h.apart j k other another one two hother hanother hne hone htwo
  last j other fired' callback hother hstage later hlater := by
    rw [put, Dict.get?_set] at hother
    split at hother
    · obtain rfl := Option.some.inj hother
      have hsame : check.stage.fired? = some fired' := by
        rw [hstage]
        rfl
      obtain rfl := Option.some.inj (hfired.symm.trans hsame)
      exact hlast callback hstage later hlater
    · rename_i hj
      have hfired' : other.stage.fired? = some fired' := by
        rw [hstage]
        rfl
      rcases hcalled _ hlater with hown | hold
      · exact absurd hown (halone j other fired' (fun hk => hj hk.symm) hother hfired')
      · exact h.last j other fired' callback hother hstage later hold

lemma Sound.reach (h : Sound s) (check : DueCheck) (hnoted : fired.id ∈ s.scheduler.firing)
    (halone : s.Alone i fired.id) {callback : ℕ}
    (hfresh : callback < s.scheduler.callbacks.length →
      ∀ later, (fired.id, fired.occurrence, later) ∈ s.called → later < callback) :
    Sound (s.reach i check fired callback) := by
  unfold FiringState.reach
  split
  · rename_i hless
    refine ⟨h.keyed, ⟨h.kept.upheld, ?_⟩, h.booked.put_firing _ rfl hnoted halone ?_ ?_⟩
    · refine List.nodup_cons.mpr ⟨fun hmem => ?_, h.kept.once⟩
      exact absurd (hfresh hless callback hmem) (Nat.lt_irrefl callback)
    · intro call hcall
      rcases List.mem_cons.mp hcall with rfl | hold
      · exact .inl rfl
      · exact .inr hold
    · intro waiting hstage later hlater
      obtain ⟨-, rfl⟩ := DueStage.waiting.inj hstage
      rcases List.mem_cons.mp hlater with hnew | hold
      · simp only [Prod.mk.injEq] at hnew
        exact hnew.2.2.le
      · exact (hfresh hless later hold).le
  · have hbooked : Booked { s.put i { check with stage := .settling fired } with
        called := s.called } :=
      h.booked.put_firing _ rfl hnoted halone (fun _ hcall => .inr hcall) fun _ hstage => by
        cases hstage
    exact ⟨h.keyed, ⟨h.kept.upheld, h.kept.once⟩, hbooked⟩

lemma Sound.leave (h : Sound s) (hcheck : Dict.get? s.checks i = some check)
    (hfired : check.stage.fired? = some fired) (raised : Option String) :
    Sound (s.leave i check fired raised) := by
  have halone := h.booked.alone hcheck hfired
  refine ⟨h.keyed, ⟨h.kept.upheld, h.kept.once⟩, h.booked.put_next _ rfl ?_⟩
  intro j other fired' hj hother hfired'
  refine (List.mem_erase_of_ne ?_).mpr (h.booked.noted j other fired' hother hfired')
  exact halone j other fired' hj hother hfired'

end Booked

/-! ## Runs that keep it -/

section Runs

open ReminderScheduler

variable {table} {s t : FiringState κ} {i : ℕ} {check : DueCheck}

lemma get?_remarked (s : FiringState κ) (after : Dict String Reminder) (id key : String) :
    Dict.get? (s.remarked after (some id)) key = if id = key then
      remark s.clock (Dict.get? s.marks id) (Dict.get? s.scheduler.reminders id)
        (Dict.get? after id)
      else Dict.get? s.marks key := by
  have hnone : remark s.clock (Dict.get? s.marks id) (Dict.get? s.scheduler.reminders id)
      (Dict.get? after id) = none → Dict.get? s.marks id = none := by
    intro h
    unfold remark at h
    split at h
    · exact h
    · cases h
    · exact Option.map_eq_none_iff.mp h
    · exact Option.map_eq_none_iff.mp h
  unfold remarked
  dsimp only
  cases hmark : remark s.clock (Dict.get? s.marks id) (Dict.get? s.scheduler.reminders id)
      (Dict.get? after id) with
  | none =>
      dsimp only
      split
      · rename_i hid
        rw [← hid, hnone hmark]
      · rfl
  | some mark => exact Dict.get?_set s.marks id key mark

lemma upheld_remarked (h : Sound s) {about : Option String} {after : ReminderScheduler κ}
    (hacts : Acts table about s.scheduler after) (key : String) :
    Upheld (Dict.get? (s.remarked after.reminders about) key)
      (Dict.get? after.reminders key) := by
  have hother : about ≠ some key →
      Upheld (Dict.get? s.marks key) (Dict.get? after.reminders key) := by
    intro hne
    have hentry : Entry key (Upheld (Dict.get? s.marks key)) s.scheduler.reminders :=
      ⟨h.keyed, h.kept.upheld key⟩
    exact (hacts.entry hentry (prunable_upheld _) (fun heq => absurd heq hne)
      (fun heq => absurd heq hne) fun heq => absurd heq hne).stored
  cases about with
  | none => exact hother (fun hnone => by cases hnone)
  | some id =>
      rw [get?_remarked]
      split
      · rename_i hid
        subst hid
        refine upheld_remark (h.kept.upheld id) fun before r' hbefore hafter hdone => ?_
        have hentry : Entry id (fun stored => ∀ r', stored = some r' → r'.completed = true)
            s.scheduler.reminders := by
          refine ⟨h.keyed, fun r' hr' => ?_⟩
          obtain rfl := Option.some.inj (hbefore.symm.trans hr')
          exact hdone
        refine (hacts.entry hentry (fun _ _ _ => ?_) (fun _ habsent => ?_)
          (fun _ b a hb hkeeps r' hr' => ?_) fun _ => ?_).stored r' hafter
        · intro r' hr'
          cases hr'
        · cases hbefore.symm.trans habsent
        · obtain rfl := Option.some.inj hr'
          exact hkeeps (hb b rfl)
        · intro r' hr'
          cases hr'
      · rename_i hne
        exact hother fun heq => hne (Option.some.inj heq)

lemma Sound.act (h : Sound s) (now : DateTime) (id : String) (arguments : Dict String Json) :
    Sound (s.act table now id arguments) := by
  have hacts : Acts table (target id arguments) s.scheduler _ :=
    acts_run h.keyed now id arguments
  refine ⟨hacts.keyed h.keyed, ⟨upheld_remarked h hacts, h.kept.once⟩, ?_⟩
  refine ⟨fun j other fired hother hfired => ?_, h.booked.apart, h.booked.last⟩
  have hnoted := h.booked.noted j other fired hother hfired
  rw [← hacts.firing] at hnoted
  exact hnoted

lemma held_eq_some {fired : Listed} {mark : Mark} {r : Reminder}
    (h : s.held fired = some (mark, r)) :
    Dict.get? s.marks fired.id = some mark ∧ Dict.get? s.scheduler.reminders fired.id = some r := by
  unfold held at h
  split at h
  · rename_i hmark hr
    split at h
    · cases h
      exact ⟨hmark, hr⟩
    · cases h
  · cases h

lemma Sound.settle (h : Sound s) (hcheck : Dict.get? s.checks i = some check) {fired : Listed}
    (hstage : check.stage = .settling fired) (hends : s.Ends check) :
    Sound (s.settle table i check fired) := by
  have hfired : check.stage.fired? = some fired := by
    rw [hstage]
    rfl
  unfold FiringState.settle
  split
  · exact h.leave hcheck hfired none
  · rename_i mark r hheld
    obtain ⟨hmark, hr⟩ := held_eq_some hheld
    have hid := h.keyed.eq_of_get? hr
    have hkeeps : Keeps mark r := by
      have hupheld := h.kept.upheld fired.id
      rw [hmark, hr] at hupheld
      exact hupheld
    have hsettling : settling? check = some fired := by
      rw [settling?, hstage]
    have hsettled : ∀ occurrence, Entry r.id (Upheld (some { mark with
        occurrence := occurrence
        retimed := mark.retimed.filter fun at_ => check.since < at_ }))
        (ReminderScheduler.settle table s.scheduler r).1.reminders :=
      upheld_settle h.keyed (by rw [hid]; exact hr) hkeeps
        fun at_ hat hlater => hends fired hsettling (mark, r) hheld at_ hat hlater
    have hsound : ∀ s' : FiringState κ, s' = { s with
        scheduler := (ReminderScheduler.settle table s.scheduler r).1
        marks := Dict.set s.marks fired.id (settledMark s.clock check.since mark r (Dict.get?
          (ReminderScheduler.settle table s.scheduler r).1.reminders fired.id)) } → Sound s' := by
      rintro s' rfl
      refine ⟨(hsettled 0).keyed, ⟨fun key => ?_, h.kept.once⟩, ?_⟩
      · dsimp only
        rw [Dict.get?_set]
        split
        · rename_i hkey
          subst hkey
          have hstored := (hsettled (settledMark s.clock check.since mark r (Dict.get?
            (ReminderScheduler.settle table s.scheduler r).1.reminders fired.id)).occurrence).stored
          rw [hid] at hstored
          exact hstored
        · rename_i hkey
          have hentry : Entry key (Upheld (Dict.get? s.marks key)) s.scheduler.reminders :=
            ⟨h.keyed, h.kept.upheld key⟩
          exact (entry_settle_ne hentry (prunable_upheld _) (hid.trans_ne hkey)).stored
      · refine ⟨fun j other fired' hother hfired' => ?_, h.booked.apart, h.booked.last⟩
        have hnoted := h.booked.noted j other fired' hother hfired'
        have hwrote : Wrote table (fun _ => True) s.scheduler
            (ReminderScheduler.settle table s.scheduler r).1 := wrote_settle_true s.scheduler r
        rw [← hwrote.firing] at hnoted
        exact hnoted
    exact (hsound _ rfl).leave hcheck hfired _

/-- No date is from a later time than the list or the clock that it is found with, and what has been
fired is noted. -/
structure Dated (s : FiringState κ) : Prop where
  marks : ∀ id mark, Dict.get? s.marks id = some mark → mark.occurrence ≤ s.clock
  rest : ∀ i check, Dict.get? s.checks i = some check →
    ∀ listed ∈ check.rest, listed.occurrence ≤ check.since
  fired : ∀ i check fired, Dict.get? s.checks i = some check → check.stage.fired? = some fired →
    ∃ at_, Dict.get? s.fires fired.id = some at_ ∧ fired.occurrence ≤ at_
  called : ∀ call ∈ s.called, ∃ at_, Dict.get? s.fires call.1 = some at_ ∧ call.2.1 ≤ at_

lemma Dated.not_called (h : Dated s) {fired : Listed} (hbegins : s.Begins check)
    (hahead : ahead? check = some fired) (hnot : fired.id ∉ s.scheduler.firing)
    (hsome : s.scheduler.callbacks ≠ []) (callback : ℕ) :
    (fired.id, fired.occurrence, callback) ∉ s.called := by
  intro hcall
  obtain ⟨at_, hat, hle⟩ := h.called _ hcall
  exact absurd (hbegins fired hahead hnot hsome at_ hat) (not_lt_of_ge hle)

lemma Dated.put_next (h : Dated s) {check : DueCheck} (hnext : check.stage = .next)
    (hrest : ∀ listed ∈ check.rest, listed.occurrence ≤ check.since) :
    Dated (s.put i check) where
  marks := h.marks
  rest j other hother := by
    rw [put, Dict.get?_set] at hother
    split at hother
    · obtain rfl := Option.some.inj hother
      exact hrest
    · exact h.rest j other hother
  fired j other fired hother hfired := by
    rw [put, Dict.get?_set] at hother
    split at hother
    · obtain rfl := Option.some.inj hother
      rw [hnext] at hfired
      cases hfired
    · exact h.fired j other fired hother hfired
  called := h.called

lemma Dated.reach (h : Dated s) {check : DueCheck} {fired : Listed}
    (hrest : ∀ listed ∈ check.rest, listed.occurrence ≤ check.since)
    (hnoted : ∃ at_, Dict.get? s.fires fired.id = some at_ ∧ fired.occurrence ≤ at_)
    (callback : ℕ) : Dated (s.reach i check fired callback) := by
  have hput : ∀ stage : DueStage, stage.fired? = some fired →
      Dated (s.put i { check with stage := stage }) := by
    intro stage hstage
    refine ⟨h.marks, fun j other hother => ?_, fun j other fired' hother hfired' => ?_, h.called⟩
    · rw [put, Dict.get?_set] at hother
      split at hother
      · obtain rfl := Option.some.inj hother
        exact hrest
      · exact h.rest j other hother
    · rw [put, Dict.get?_set] at hother
      split at hother
      · obtain rfl := Option.some.inj hother
        obtain rfl := Option.some.inj (hstage.symm.trans hfired')
        exact hnoted
      · exact h.fired j other fired' hother hfired'
  unfold FiringState.reach
  split
  · have hwaiting := hput (.waiting fired callback) rfl
    refine ⟨hwaiting.marks, hwaiting.rest, hwaiting.fired, fun call hcall => ?_⟩
    rcases List.mem_cons.mp hcall with rfl | hold
    · exact hnoted
    · exact h.called call hold
  · exact hput (.settling fired) rfl

lemma Dated.leave (h : Dated s) (hcheck : Dict.get? s.checks i = some check) (fired : Listed)
    (raised : Option String) : Dated (s.leave i check fired raised) := by
  have hfree : Dated (s.withFiring (s.scheduler.firing.erase fired.id)) :=
    ⟨h.marks, h.rest, h.fired, h.called⟩
  refine hfree.put_next rfl ?_
  intro listed hlisted
  dsimp only at hlisted
  split at hlisted
  · cases hlisted
  · exact h.rest i check hcheck listed hlisted

lemma Dated.began (h : Dated s) (check : DueCheck) (fired : Listed) :
    Dated (s.began check fired) := by
  have hgrows : ∀ id occurrence, (∃ at_, Dict.get? s.fires id = some at_ ∧ occurrence ≤ at_) →
      ∃ at_, Dict.get? (s.began check fired).fires id = some at_ ∧ occurrence ≤ at_ := by
    rintro id occurrence ⟨at_, hat, hle⟩
    dsimp only [FiringState.began]
    rw [Dict.get?_set]
    split
    · rename_i hid
      subst hid
      exact ⟨_, rfl, hle.trans (by rw [hat]; exact le_max_right _ _)⟩
    · exact ⟨at_, hat, hle⟩
  exact ⟨h.marks, h.rest, fun j other fired' hother hfired' =>
    hgrows _ _ (h.fired j other fired' hother hfired'), fun call hcall =>
    hgrows _ _ (h.called call hcall)⟩

lemma Dated.settle (h : Dated s) (hcheck : Dict.get? s.checks i = some check) (fired : Listed) :
    Dated (s.settle table i check fired) := by
  unfold FiringState.settle
  split
  · exact h.leave hcheck fired none
  · rename_i mark r hheld
    obtain ⟨hmark, -⟩ := held_eq_some hheld
    have hsettled : ∀ (scheduler : ReminderScheduler κ) (found : Option Reminder),
        Dated { s with
          scheduler := scheduler
          marks := Dict.set s.marks fired.id (settledMark s.clock check.since mark r found) } := by
      intro scheduler found
      refine ⟨fun id other hother => ?_, h.rest, h.fired, h.called⟩
      dsimp only at hother
      rw [Dict.get?_set] at hother
      split at hother
      · obtain rfl := Option.some.inj hother
        show (if found.elim r.dueAt Reminder.dueAt = r.dueAt then mark.occurrence
          else s.clock) ≤ s.clock
        split
        · exact h.marks _ mark hmark
        · exact le_rfl
      · exact h.marks id other hother
    exact (hsettled _ _).leave hcheck fired _

lemma Dated.turn (h : Dated s) (hcheck : Dict.get? s.checks i = some check)
    (hturn : s.turn table i check = some t) : Dated t := by
  unfold FiringState.turn at hturn
  split at hturn
  · cases hturn
  · obtain rfl := Option.some.inj hturn
    exact h.settle hcheck _
  · rename_i hstage
    split at hturn
    · cases hturn
    · rename_i fired rest hrest
      have hdates := h.rest i check hcheck
      rw [hrest] at hdates
      have hleft : ∀ listed ∈ rest, listed.occurrence ≤ check.since :=
        fun listed hlisted => hdates listed (List.mem_cons_of_mem _ hlisted)
      dsimp only at hturn
      split at hturn
      · obtain rfl := Option.some.inj hturn
        have hnext : Dated (s.put i { check with rest := rest }) := h.put_next hstage hleft
        exact hnext
      · obtain rfl := Option.some.inj hturn
        have hnoted : ∃ at_, Dict.get? (s.began { check with rest := rest } fired).fires fired.id =
            some at_ ∧ fired.occurrence ≤ at_ :=
          ⟨_, Dict.get?_set_self _ _ _,
            (hdates fired List.mem_cons_self).trans (le_max_left _ _)⟩
        have hleft' : ∀ listed ∈ ({ check with rest := rest } : DueCheck).rest,
            listed.occurrence ≤ ({ check with rest := rest } : DueCheck).since := hleft
        exact (h.began _ fired).reach hleft' hnoted 0

lemma Dated.back (h : Dated s) (hcheck : Dict.get? s.checks i = some check)
    {raised : Option String} (hback : s.back i check raised = some t) : Dated t := by
  unfold FiringState.back at hback
  split at hback
  · rename_i fired callback hstage
    obtain rfl := Option.some.inj hback
    have hfired : check.stage.fired? = some fired := by
      rw [hstage]
      rfl
    have hrest := h.rest i check hcheck
    have hnoted := h.fired i check fired hcheck hfired
    cases raised with
    | none => exact h.reach hrest hnoted _
    | some exception =>
        have hrecorded : ∀ message, Dated { s with scheduler := s.scheduler.recordError message } :=
          fun _ => ⟨h.marks, h.rest, h.fired, h.called⟩
        exact (hrecorded _).reach hrest hnoted _
  · cases hback

lemma Dated.act (h : Dated s) (now : DateTime) (id : String) (arguments : Dict String Json) :
    Dated (s.act table now id arguments) := by
  refine ⟨fun key mark hmark => ?_, h.rest, h.fired, h.called⟩
  have hremarked : ∀ (after : Dict String Reminder) (about : Option String) (key : String)
      (mark : Mark), Dict.get? (s.remarked after about) key = some mark →
        mark.occurrence ≤ s.clock := by
    intro after about key mark hmark
    cases about with
    | none => exact h.marks key mark hmark
    | some id =>
        rw [get?_remarked] at hmark
        split at hmark
        · unfold remark at hmark
          split at hmark
          · exact h.marks _ mark hmark
          · obtain rfl := Option.some.inj hmark
            exact le_rfl
          · obtain ⟨old, hold, rfl⟩ := Option.map_eq_some_iff.mp hmark
            exact h.marks _ old hold
          · obtain ⟨old, hold, rfl⟩ := Option.map_eq_some_iff.mp hmark
            dsimp only
            split
            · exact h.marks _ old hold
            · exact le_rfl
        · exact h.marks key mark hmark
  exact hremarked _ _ key mark hmark

lemma clock_reach (s : FiringState κ) (i : ℕ) (check : DueCheck) (fired : Listed) (callback : ℕ) :
    (s.reach i check fired callback).clock = s.clock := by
  unfold FiringState.reach
  split <;> rfl

lemma clock_move {move : FiringMove} (hmove : s.move table move = some t) : t.clock = s.clock := by
  cases move with
  | act now id arguments =>
      simp only [FiringState.move] at hmove
      split at hmove
      · obtain rfl := Option.some.inj hmove
        rfl
      · cases hmove
  | check now =>
      simp only [FiringState.move] at hmove
      split at hmove
      · split at hmove <;> obtain rfl := Option.some.inj hmove <;> rfl
      · cases hmove
  | turn i =>
      obtain ⟨check, -, hturn⟩ := Option.bind_eq_some_iff.mp hmove
      unfold FiringState.turn at hturn
      split at hturn
      · cases hturn
      · obtain rfl := Option.some.inj hturn
        unfold FiringState.settle
        split <;> rfl
      · split at hturn
        · cases hturn
        · dsimp only at hturn
          split at hturn
          · obtain rfl := Option.some.inj hturn
            rfl
          · obtain rfl := Option.some.inj hturn
            exact clock_reach _ _ _ _ _
  | back i raised =>
      simp only [FiringState.move] at hmove
      split at hmove
      · obtain ⟨check, -, hback⟩ := Option.bind_eq_some_iff.mp hmove
        unfold FiringState.back at hback
        split at hback
        · obtain rfl := Option.some.inj hback
          exact clock_reach _ _ _ _ _
        · cases hback
      · cases hmove

/-- Every move keeps the dates in order. -/
lemma dated_step {move : FiringMove} (h : Dated s) (hstep : s.step table move = some t) :
    Dated t := by
  obtain ⟨t', hmove, rfl⟩ := Option.map_eq_some_iff.mp hstep
  have hdated : Dated t' := by
    cases move with
    | act now id arguments =>
        simp only [FiringState.move] at hmove
        split at hmove
        · obtain rfl := Option.some.inj hmove
          exact h.act now id arguments
        · cases hmove
    | check now =>
        simp only [FiringState.move] at hmove
        split at hmove
        · split at hmove
          · obtain rfl := Option.some.inj hmove
            exact h
          · obtain rfl := Option.some.inj hmove
            refine h.put_next rfl fun entry hentry => ?_
            obtain ⟨r, -, rfl⟩ := List.mem_map.mp hentry
            dsimp only [listed]
            cases hmark : Dict.get? s.marks r.id with
            | none => exact Nat.zero_le _
            | some mark => exact h.marks _ mark hmark
        · cases hmove
    | turn i =>
        obtain ⟨check, hcheck, hturn⟩ := Option.bind_eq_some_iff.mp hmove
        exact h.turn hcheck hturn
    | back i raised =>
        simp only [FiringState.move] at hmove
        split at hmove
        · obtain ⟨check, hcheck, hback⟩ := Option.bind_eq_some_iff.mp hmove
          exact h.back hcheck hback
        · cases hmove
  have hclock := clock_move hmove
  refine ⟨fun id mark hmark => ?_, hdated.rest, hdated.fired, hdated.called⟩
  exact (hdated.marks id mark hmark).trans (hclock ▸ Nat.le_succ _)

lemma Sound.turn (h : Sound s) (hdated : Dated s) (hcheck : Dict.get? s.checks i = some check)
    (hbegins : s.Begins check) (hends : s.Ends check) (hturn : s.turn table i check = some t) :
    Sound t := by
  unfold FiringState.turn at hturn
  split at hturn
  · cases hturn
  · rename_i fired hstage
    obtain rfl := Option.some.inj hturn
    exact h.settle hcheck hstage hends
  · rename_i hstage
    split at hturn
    · cases hturn
    · rename_i fired rest hrest
      dsimp only at hturn
      split at hturn
      · obtain rfl := Option.some.inj hturn
        exact ⟨h.keyed, ⟨h.kept.upheld, h.kept.once⟩,
          h.booked.put_next { check with rest := rest } hstage
            fun j other fired' _ => h.booked.noted j other fired'⟩
      · rename_i hnot
        obtain rfl := Option.some.inj hturn
        have halone : s.Alone i fired.id := fun j other fired' _ hother hfired' hid =>
          hnot (hid ▸ h.booked.noted j other fired' hother hfired')
        have hnoted : Sound (s.began { check with rest := rest } fired) := by
          refine ⟨h.keyed, ⟨h.kept.upheld, h.kept.once⟩, ?_, h.booked.apart, h.booked.last⟩
          intro j other fired' hother hfired'
          exact List.mem_cons_of_mem _ (h.booked.noted j other fired' hother hfired')
        refine hnoted.reach _ List.mem_cons_self halone fun hless later hlater => ?_
        have hahead : ahead? check = some fired := by
          rw [ahead?, hstage, hrest]
          rfl
        have hsome : s.scheduler.callbacks ≠ [] := by
          intro hnone
          rw [FiringState.began, withFiring, hnone] at hless
          exact absurd hless (Nat.not_lt_zero 0)
        exact absurd hlater (hdated.not_called hbegins hahead hnot hsome later)

lemma Sound.back (h : Sound s) (hcheck : Dict.get? s.checks i = some check)
    {raised : Option String} (hback : s.back i check raised = some t) : Sound t := by
  unfold FiringState.back at hback
  split at hback
  · rename_i fired callback hstage
    obtain rfl := Option.some.inj hback
    have hfired : check.stage.fired? = some fired := by
      rw [hstage]
      rfl
    have hnoted := h.booked.noted i check fired hcheck hfired
    have halone := h.booked.alone hcheck hfired
    have hfresh : ∀ later, (fired.id, fired.occurrence, later) ∈ s.called → later < callback + 1 :=
      fun later hlater =>
        Nat.lt_succ_of_le (h.booked.last i check fired callback hcheck hstage later hlater)
    cases raised with
    | none => exact h.reach check hnoted halone fun _ => hfresh
    | some exception =>
        have hrecorded : ∀ message, Sound { s with scheduler := s.scheduler.recordError message } :=
          fun _ => ⟨h.keyed, ⟨h.kept.upheld, h.kept.once⟩, h.booked.noted, h.booked.apart,
            h.booked.last⟩
        exact (hrecorded _).reach check hnoted halone fun _ => hfresh
  · cases hback

/-- A move that meets the condition keeps what the user has asked for. -/
lemma sound_step {move : FiringMove} (h : Sound s) (hdated : Dated s) (hclear : s.Clear move)
    (hstep : s.step table move = some t) : Sound t := by
  obtain ⟨t', hmove, rfl⟩ := Option.map_eq_some_iff.mp hstep
  have hticks : Sound t' → Sound { t' with clock := s.clock + 1 } := fun h' =>
    ⟨h'.keyed, ⟨h'.kept.upheld, h'.kept.once⟩, h'.booked.noted, h'.booked.apart, h'.booked.last⟩
  refine hticks ?_
  cases move with
  | act now id arguments =>
      simp only [FiringState.move] at hmove
      split at hmove
      · obtain rfl := Option.some.inj hmove
        exact h.act now id arguments
      · cases hmove
  | check now =>
      simp only [FiringState.move] at hmove
      split at hmove
      · split at hmove
        · obtain rfl := Option.some.inj hmove
          exact h
        · obtain rfl := Option.some.inj hmove
          refine ⟨h.keyed, ⟨h.kept.upheld, h.kept.once⟩, ?_⟩
          exact h.booked.put_next _ rfl fun j other fired' _ => h.booked.noted j other fired'
      · cases hmove
  | turn i =>
      obtain ⟨check, hcheck, hturn⟩ := Option.bind_eq_some_iff.mp hmove
      obtain ⟨hbegins, hends⟩ := hclear check hcheck
      exact h.turn hdated hcheck hbegins hends hturn
  | back i raised =>
      simp only [FiringState.move] at hmove
      split at hmove
      · obtain ⟨check, hcheck, hback⟩ := Option.bind_eq_some_iff.mp hmove
        exact h.back hcheck hback
      · cases hmove

lemma sound_opened {s : ReminderScheduler κ} (hkeyed : Dict.KeyedBy Reminder.id s.reminders) :
    Sound (opened s) := by
  refine ⟨hkeyed, ⟨fun id => ?_, List.nodup_nil⟩, ?_, ?_, ?_⟩
  · rw [opened, Dict.get?_mapValues]
    cases Dict.get? s.reminders id with
    | none => trivial
    | some r => exact ⟨rfl, rfl, rfl, fun hdone => hdone, fun hretimed => absurd rfl hretimed, rfl⟩
  · intro i check fired hcheck
    cases hcheck
  · intro i j check other fired fired' hcheck
    cases hcheck
  · intro i check fired callback hcheck
    cases hcheck

lemma dated_opened (s : ReminderScheduler κ) : Dated (opened s) := by
  refine ⟨fun id mark hmark => ?_, fun i check hcheck => ?_, fun i check fired hcheck => ?_,
    fun call hcall => ?_⟩
  · dsimp only [opened] at hmark
    rw [Dict.get?_mapValues] at hmark
    obtain ⟨r, -, rfl⟩ := Option.map_eq_some_iff.mp hmark
    exact Nat.zero_le _
  · cases hcheck
  · cases hcheck
  · cases hcall

/-- Along every run in which a firing begins only for a date that the reminder got after the last
list was made from which it has been fired, and is settled only where the user has not given the
reminder another date since it was listed or settling writes nothing, every change of the user's is
in effect and no callback is called twice. -/
theorem kept_run {s : ReminderScheduler κ} (hkeyed : Dict.KeyedBy Reminder.id s.reminders)
    {moves : List FiringMove} (hclear : (machine table).Guarded Clear (opened s) moves)
    {t : FiringState κ} (hrun : (machine table).run (opened s) moves = some t) : Kept t :=
  have hinvariant : Sound t ∧ Dated t :=
    (machine table).guarded_invariant (I := fun s => Sound s ∧ Dated s)
      (fun _ _ _ h hguard hstep =>
        ⟨sound_step h.1 h.2 hguard hstep, dated_step h.2 hstep⟩)
      ⟨sound_opened hkeyed, dated_opened s⟩ hclear hrun
  hinvariant.1.kept

end Runs

/-! ### A reminder that is moved while it fires -/

/-- Nine o'clock on a day of January 2024. -/
def january (day : ℕ) (h : day < 31) : DateTime :=
  ⟨(738885 + day) * dayMicros + 9 * 3600000000, some 0, by
    unfold maxWall dayMicros
    omega⟩

/-- A table that takes every write, and the texts of three dates. -/
def diary : ReminderTable Unit where
  put _ _ _ := ((), none)
  delete _ _ := ((), none)
  fromIsoFormat text :=
    if text = "2024-01-02T09:00:00+00:00" then some (january 1 (by decide))
    else if text = "2024-01-03T09:00:00+00:00" then some (january 2 (by decide))
    else if text = "2024-01-09T09:00:00+00:00" then some (january 8 (by decide))
    else none
  minutes _ := .error "unsupported type for timedelta minutes component"
  textOfContainer _ := ""

/-- A scheduler with one callback and no reminders. -/
def bell : FiringState Unit := opened { callbacks := [fun _ => none], world := () }

/-- A reminder is created on the first of January. -/
def create (id due repeats : String) : FiringMove :=
  .act (january 0 (by decide)) id [("action", .str "create"), ("due_at", .str due),
    ("repeat", .str repeats)]

/-- A reminder is moved to the ninth of January. -/
def postpone (id : String) : FiringMove :=
  .act (january 2 (by decide)) "" [("action", .str "update"), ("reminder_id", .str id),
    ("due_at", .str "2024-01-09T09:00:00+00:00")]

/-- A reminder is created, and moved while the callback of its check runs. -/
def movedWhileFiring (repeats : String) : List FiringMove :=
  [create "a" "2024-01-02T09:00:00+00:00" repeats, .check (january 2 (by decide)), .turn 2,
    postpone "a", .back 2 none, .turn 2]

/-- Two checks list a reminder, and the second comes to it when the first has completed it. -/
def listedTwice : List FiringMove :=
  [create "x" "2024-01-03T09:00:00+00:00" "none", create "a" "2024-01-02T09:00:00+00:00" "none",
    .check (january 1 (by decide)), .turn 3, .check (january 2 (by decide)), .turn 5,
    .back 3 none, .turn 3, .back 5 none, .turn 5, .turn 5, .back 5 none, .turn 5]

/-- The state after some moves. -/
def after (moves : List FiringMove) : FiringState Unit :=
  ((machine diary).run bell moves).getD bell

lemma run_after (moves : List FiringMove)
    (h : ((machine diary).run bell moves).isSome = true) :
    (machine diary).run bell moves = some (after moves) :=
  some_getD h _

/-- No check is under way. -/
def ended (s : FiringState κ) : Bool :=
  s.checks.all fun kv => kv.2.stage = .next ∧ kv.2.rest = []

/-- The record under an id. -/
def recordOf (s : FiringState κ) (id : String) : Reminder :=
  (Dict.get? s.scheduler.reminders id).getD default

/-- The mark under an id. -/
def markOf (s : FiringState κ) (id : String) : Mark := (Dict.get? s.marks id).getD default

lemma Kept.keeps {s : FiringState κ} (h : Kept s) (id : String)
    (hmark : (Dict.get? s.marks id).isSome = true)
    (hrecord : (Dict.get? s.scheduler.reminders id).isSome = true) :
    Keeps (s.markOf id) (s.recordOf id) := by
  have hupheld := h.upheld id
  rw [some_getD hmark default, some_getD hrecord default] at hupheld
  exact hupheld

instance (s : FiringState κ) (move : FiringMove) : Decidable (Clear s move) :=
  match move with
  | .turn i => inferInstanceAs (Decidable (∀ check ∈ Dict.get? s.checks i,
      (∀ fired ∈ ahead? check, fired.id ∉ s.scheduler.firing → s.scheduler.callbacks ≠ [] →
        ∀ at_ ∈ Dict.get? s.fires fired.id, at_ < fired.occurrence) ∧
      ∀ fired ∈ settling? check, ∀ found ∈ s.held fired, ∀ at_ ∈ found.1.retimed,
        check.since < at_ → ¬ Overwrites found.2))
  | .act _ _ _ => isTrue trivial
  | .check _ => isTrue trivial
  | .back _ _ => isTrue trivial

/-- Two reminders fire; one is renamed meanwhile and moved later, the other is completed
meanwhile. -/
def renamed : List FiringMove :=
  [create "a" "2024-01-02T09:00:00+00:00" "daily", create "b" "2024-01-02T09:00:00+00:00" "none",
    .check (january 2 (by decide)), .turn 3,
    .act (january 2 (by decide)) "" [("action", .str "update"), ("reminder_id", .str "a"),
      ("title", .str "A")],
    .back 3 (some "no bell"), .turn 3, .turn 3,
    .act (january 2 (by decide)) "" [("action", .str "complete"), ("reminder_id", .str "b")],
    .back 3 none, .turn 3, postpone "a"]

theorem kept_run_sample : Kept (after renamed) ∧ (after renamed).ended = true ∧
    ((after renamed).recordOf "a").dueAt = some (january 8 (by decide)) ∧
    ((after renamed).recordOf "b").completed = true :=
  ⟨kept_run (s := bell.scheduler) Dict.KeyedBy.nil (by decide +kernel)
    (run_after renamed (by decide +kernel)), by decide +kernel, by decide +kernel,
    by decide +kernel⟩

/-- A reminder that the user moves while it fires is completed, a repeating one gets a date behind
that of the user, and a reminder that two checks have listed is fired twice. -/
theorem changes_lost :
    (∃ t, (machine diary).run bell (movedWhileFiring "none") = some t ∧ t.ended = true ∧
      (t.markOf "a").asked.dueAt = some (january 8 (by decide)) ∧
      (t.recordOf "a").completed = true ∧ ¬ Kept t) ∧
    (∃ t, (machine diary).run bell (movedWhileFiring "daily") = some t ∧ t.ended = true ∧
      (t.markOf "a").asked.dueAt = some (january 8 (by decide)) ∧
      (t.recordOf "a").dueAt = some (january 9 (by decide)) ∧ ¬ Kept t) ∧
    ∃ t, (machine diary).run bell listedTwice = some t ∧ t.ended = true ∧
      t.called = [("a", 2, 0), ("x", 1, 0), ("a", 2, 0)] ∧ ¬ Kept t := by
  refine ⟨⟨after (movedWhileFiring "none"), run_after _ (by decide +kernel), by decide +kernel,
    by decide +kernel, by decide +kernel, fun h => ?_⟩,
    ⟨after (movedWhileFiring "daily"), run_after _ (by decide +kernel), by decide +kernel,
      by decide +kernel, by decide +kernel, fun h => ?_⟩,
    ⟨after listedTwice, run_after _ (by decide +kernel), by decide +kernel, by decide +kernel,
      fun h => ?_⟩⟩
  · have hkeeps := h.keeps "a" (by decide +kernel) (by decide +kernel)
    exact absurd ((hkeeps.retimed (by decide +kernel)).2 (by decide +kernel)) (by decide +kernel)
  · have hkeeps := h.keeps "a" (by decide +kernel) (by decide +kernel)
    exact absurd (hkeeps.retimed (by decide +kernel)).1 (by decide +kernel)
  · exact absurd h.once (by decide +kernel)

end FiringState

end Samaktha
