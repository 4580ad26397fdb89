import Samaktha.Tools.Reminder
import Mathlib.Logic.Relation

/-!
# When a round calls for every due reminder

`get_due_reminders` compares the due date of every reminder that is not completed with a clock
that has a time zone, so one reminder whose due date has none ends every round before its first
call (`checkDue_naive`).  Where there is no such reminder, what a callback raises is recorded and
the round goes on; what is left to end it is a write to the table, the order in which completed
reminders are pruned, and the end of the calendar (`delivers_of_smooth`).

`check_due_delivers` puts the two together for every scheduler that calls of the tool and earlier
rounds can lead to.
-/

namespace Samaktha

namespace ReminderScheduler

variable {κ : Type} (table : ReminderTable κ)

/-! ## What a write changes -/

/-- One world of the table follows another by a write. -/
def Writes (world world' : κ) : Prop :=
  (∃ id payload, world' = (table.put world id payload).1) ∨
    ∃ id, world' = (table.delete world id).1

/-- No write from this world on raises. -/
def Quiet (world : κ) : Prop :=
  ∀ world', Relation.ReflTransGen (Writes table) world world' →
    (∀ id payload, (table.put world' id payload).2 = none) ∧
      ∀ id, (table.delete world' id).2 = none

lemma Quiet.follows {table : ReminderTable κ} {world world' : κ} (h : Quiet table world)
    (hfollows : Relation.ReflTransGen (Writes table) world world') : Quiet table world' :=
  fun later hlater => h later (hfollows.trans hlater)

/-- From one scheduler to another only reminders with a property are new. -/
structure Wrote (P : Reminder → Prop) (s s' : ReminderScheduler κ) : Prop where
  members : ∀ kv ∈ s'.reminders, kv ∈ s.reminders ∨ P kv.2
  firing : s'.firing = s.firing
  callbacks : s'.callbacks = s.callbacks
  world : Relation.ReflTransGen (Writes table) s.world s'.world

section Wrote

variable {P : Reminder → Prop} {s s' s'' : ReminderScheduler κ}

lemma Wrote.refl {table : ReminderTable κ} (s : ReminderScheduler κ) : Wrote table P s s :=
  ⟨fun _ hkv => .inl hkv, rfl, rfl, .refl⟩

lemma Wrote.trans {table : ReminderTable κ} (h : Wrote table P s s') (h' : Wrote table P s' s'') :
    Wrote table P s s'' where
  members kv hkv := by
    rcases h'.members kv hkv with hold | hnew
    · exact h.members kv hold
    · exact .inr hnew
  firing := h'.firing.trans h.firing
  callbacks := h'.callbacks.trans h.callbacks
  world := h.world.trans h'.world

lemma wrote_store (s : ReminderScheduler κ) {reminder : Reminder} (h : P (sign table reminder)) :
    Wrote table P s (store table s reminder).1 where
  members kv hkv := by
    rcases Dict.mem_of_mem_set hkv with rfl | hold
    · exact .inr h
    · exact .inl hold
  firing := rfl
  callbacks := rfl
  world := .single (.inl ⟨_, _, rfl⟩)

lemma wrote_removeReminder (s : ReminderScheduler κ) (id : String) :
    Wrote table P s (removeReminder table s id).1 := by
  unfold removeReminder
  split
  · exact ⟨fun kv hkv => .inl (List.mem_of_mem_filter hkv), rfl, rfl, .single (.inr ⟨_, rfl⟩)⟩
  · exact Wrote.refl s

lemma wrote_removeAll (s : ReminderScheduler κ) (reminders : List Reminder) :
    Wrote table P s (removeAll table s reminders).1 := by
  induction reminders generalizing s with
  | nil => exact Wrote.refl s
  | cons reminder rest ih =>
      have hremoved : Wrote table P s (removeReminder table s reminder.id).1 :=
        wrote_removeReminder table s reminder.id
      rw [removeAll]
      cases (removeReminder table s reminder.id).2 with
      | some exception => exact hremoved
      | none => exact hremoved.trans (ih _)

lemma wrote_pruneIfOverCap (s : ReminderScheduler κ) :
    Wrote table P s (pruneIfOverCap table s).1 := by
  unfold pruneIfOverCap
  split
  · exact Wrote.refl s
  · split
    · unfold pruneCompleted
      split
      · exact Wrote.refl s
      · exact wrote_removeAll table s _
    · exact Wrote.refl s

lemma wrote_saveReminder (s : ReminderScheduler κ) {reminder : Reminder}
    (h : P (sign table reminder)) : Wrote table P s (saveReminder table s reminder).1 := by
  have hstored := wrote_store table s h
  rw [saveReminder]
  cases (store table s reminder).2 with
  | some exception => exact hstored
  | none => exact hstored.trans (wrote_pruneIfOverCap table _)

end Wrote

/-! ### Writes that raise nothing -/

section Quiet

variable {table} {s : ReminderScheduler κ}

lemma removeAll_quiet (h : Quiet table s.world) (reminders : List Reminder) :
    (removeAll table s reminders).2 = none := by
  induction reminders generalizing s with
  | nil => rfl
  | cons reminder rest ih =>
      have hremoved : (removeReminder table s reminder.id).2 = none := by
        unfold removeReminder
        split
        · exact (h _ .refl).2 _
        · rfl
      have hwrote : Wrote table (fun _ => True) s (removeReminder table s reminder.id).1 :=
        wrote_removeReminder table s reminder.id
      rw [removeAll, hremoved]
      exact ih (h.follows hwrote.world)

/-- The keys of any two completed reminders can be compared. -/
def Sortable (reminders : List Reminder) : Prop :=
  ∀ a ∈ reminders, ∀ b ∈ reminders, keysCompare a b = true

lemma pruneIfOverCap_quiet (h : Quiet table s.world) (hsort : Sortable s.completedReminders) :
    (pruneIfOverCap table s).2 = none := by
  have hsorted : sortedByKey s.completedReminders =
    .ok (s.completedReminders.mergeSort keysLe) := by
    rw [sortedByKey, if_pos]
    rw [List.all_eq_true]
    intro a ha
    rw [List.all_eq_true]
    exact hsort a ha
  unfold pruneIfOverCap
  split
  · rfl
  · split
    · rw [pruneCompleted, hsorted]
      exact removeAll_quiet h _
    · rfl

lemma saveReminder_quiet (h : Quiet table s.world) {reminder : Reminder}
    (hsort : Sortable (store table s reminder).1.completedReminders) :
    (saveReminder table s reminder).2 = none := by
  have hput : (store table s reminder).2 = none := (h _ .refl).1 _ _
  have hwrote : Wrote table (fun _ => True) s (store table s reminder).1 :=
    wrote_store table s trivial
  rw [saveReminder, hput]
  exact pruneIfOverCap_quiet (h.follows hwrote.world) hsort

end Quiet

/-! ## Due reminders -/

/-- The due date has passed, and the reminder is neither completed nor still snoozed. -/
def DueNow (now : DateTime) (reminder : Reminder) : Prop :=
  reminder.completed = false ∧
    ∃ due, reminder.dueAt = some due ∧ due.instant ≤ now.instant ∧
      ∀ until_, reminder.snoozedUntil = some until_ → until_.instant ≤ now.instant

/-- A reminder that is not completed has no due date, or one with a time zone. -/
def Zoned (reminder : Reminder) : Prop :=
  reminder.completed = false → ∀ due, reminder.dueAt = some due → due.aware = true

/-- A snooze lasts until a time with a time zone. -/
def SnoozeZoned (reminder : Reminder) : Prop :=
  ∀ until_, reminder.snoozedUntil = some until_ → until_.aware = true

section Due

variable {now : DateTime}

lemma isDue_of_zoned (hnow : now.aware = true) {reminder : Reminder} (hzoned : Zoned reminder)
    (hsnoozed : SnoozeZoned reminder) :
    ∃ due, isDue now reminder = .ok due ∧ (due = true ↔ DueNow now reminder) := by
  unfold isDue DueNow
  by_cases hcompleted : reminder.completed = true
  · exact ⟨false, by rw [if_pos hcompleted], by simp [hcompleted]⟩
  · rw [if_neg hcompleted]
    have hopen := Bool.eq_false_iff.mpr hcompleted
    cases hdue : reminder.dueAt with
    | none => exact ⟨false, rfl, by simp⟩
    | some due =>
        dsimp only
        rw [DateTime.le?_of_aware (hzoned hopen due hdue) hnow]
        by_cases hpassed : due.instant ≤ now.instant
        · cases hsnooze : reminder.snoozedUntil with
          | none => exact ⟨true, by simp [hpassed], by simp [hopen, hpassed]⟩
          | some until_ =>
              refine ⟨decide (until_.instant ≤ now.instant), ?_, by simp [hopen, hpassed]⟩
              simp only [hpassed, decide_true]
              exact DateTime.le?_of_aware (hsnoozed until_ hsnooze) hnow
        · exact ⟨false, by simp [hpassed], by simp [hpassed]⟩

lemma isDue_of_naive (hnow : now.aware = true) {reminder : Reminder} (hnaive : ¬ Zoned reminder) :
    ∃ exception, isDue now reminder = .error exception := by
  simp only [Zoned, Classical.not_imp, not_forall] at hnaive
  obtain ⟨hopen, due, hdue, hunaware⟩ := hnaive
  have hraised := DateTime.le?_of_naive (Bool.eq_false_iff.mpr hunaware) hnow
  rw [isDue, if_neg (by rw [hopen]; exact Bool.false_ne_true), hdue]
  dsimp only
  rw [hraised]
  exact ⟨_, rfl⟩

lemma dueAmong_of_zoned (hnow : now.aware = true) {reminders : List Reminder}
    (hzoned : ∀ r ∈ reminders, Zoned r) (hsnoozed : ∀ r ∈ reminders, SnoozeZoned r) :
    ∃ due, dueAmong now reminders = .ok due ∧
      ∀ r, r ∈ due ↔ r ∈ reminders ∧ DueNow now r := by
  induction reminders with
  | nil => exact ⟨[], rfl, by simp⟩
  | cons reminder rest ih =>
      obtain ⟨later, hlater, hmem⟩ := ih (fun r hr => hzoned r (List.mem_cons_of_mem _ hr))
        fun r hr => hsnoozed r (List.mem_cons_of_mem _ hr)
      obtain ⟨due, hdue, hiff⟩ := isDue_of_zoned hnow (hzoned reminder List.mem_cons_self)
        (hsnoozed reminder List.mem_cons_self)
      refine ⟨if due then reminder :: later else later, ?_, fun r => ?_⟩
      · rw [dueAmong, hdue, hlater]
        rfl
      · cases due with
        | true =>
            have hnowdue := hiff.mp rfl
            simp only [if_true, List.mem_cons, hmem]
            constructor
            · rintro (rfl | h)
              · exact ⟨.inl rfl, hnowdue⟩
              · exact ⟨.inr h.1, h.2⟩
            · rintro ⟨rfl | hrest, hr⟩
              · exact .inl rfl
              · exact .inr ⟨hrest, hr⟩
        | false =>
            have hnot : ¬ DueNow now reminder := fun h => Bool.false_ne_true (hiff.mpr h)
            simp only [Bool.false_eq_true, if_false, List.mem_cons, hmem]
            constructor
            · exact fun h => ⟨.inr h.1, h.2⟩
            · rintro ⟨rfl | hrest, hr⟩
              · exact absurd hr hnot
              · exact ⟨hrest, hr⟩

lemma dueAmong_of_naive (hnow : now.aware = true) {reminders : List Reminder} {reminder : Reminder}
    (hmem : reminder ∈ reminders) (hnaive : ¬ Zoned reminder) :
    ∃ exception, dueAmong now reminders = .error exception := by
  induction reminders with
  | nil => cases hmem
  | cons first rest ih =>
      rw [dueAmong]
      cases hfirst : isDue now first with
      | error exception => exact ⟨exception, rfl⟩
      | ok due =>
          rcases List.mem_cons.mp hmem with rfl | hrest
          · obtain ⟨exception, hraised⟩ := isDue_of_naive hnow hnaive
            rw [hraised] at hfirst
            cases hfirst
          · obtain ⟨exception, hraised⟩ := ih hrest
            rw [hraised]
            exact ⟨exception, rfl⟩

end Due

/-! ## The loop -/

section Loop

variable {table} {s : ReminderScheduler κ}

/-- `_fire` calls every callback and changes the recorded errors only. -/
lemma fire_spec (s : ReminderScheduler κ) (reminder : Reminder) (callbacks : List Callback) :
    (∃ errors, (s.fire reminder callbacks).1 = { s with errors := errors }) ∧
      (s.fire reminder callbacks).2 = callbacks.map fun callback => (reminder, callback) := by
  induction callbacks generalizing s with
  | nil => exact ⟨⟨s.errors, rfl⟩, rfl⟩
  | cons callback rest ih =>
      rw [fire]
      cases callback reminder with
      | none =>
          obtain ⟨herrors, hcalls⟩ := ih s
          exact ⟨herrors, by rw [hcalls]; rfl⟩
      | some exception =>
          obtain ⟨⟨errors, hrest⟩, hcalls⟩ := ih (s.recordError
            ("callback failed for reminder " ++ reminder.id ++ ": " ++ exception))
          exact ⟨⟨errors, hrest⟩, by rw [hcalls]; rfl⟩

lemma fireAll_cons (table : ReminderTable κ) (hidle : s.firing = []) (reminder : Reminder)
    (rest : List Reminder) :
    ∃ called : ReminderScheduler κ, called.reminders = s.reminders ∧
      called.callbacks = s.callbacks ∧ called.world = s.world ∧ called.firing = [reminder.id] ∧
      fireAll table s (reminder :: rest) =
        let settled := settle table called reminder
        let left := { settled.1 with firing := settled.1.firing.erase reminder.id }
        let calls := s.callbacks.map fun callback => (reminder, callback)
        match settled.2 with
        | some exception => { scheduler := left, calls := calls, raised := some exception }
        | none => { fireAll table left rest with
            calls := calls ++ (fireAll table left rest).calls } := by
  have hnot : reminder.id ∉ s.firing := by
    rw [hidle]
    exact List.not_mem_nil
  obtain ⟨⟨errors, hfired⟩, hcalls⟩ :=
    fire_spec { s with firing := reminder.id :: s.firing } reminder s.callbacks
  rw [fireAll, if_neg hnot]
  generalize ({ s with firing := reminder.id :: s.firing }.fire reminder s.callbacks) = fired
    at hfired hcalls ⊢
  obtain ⟨called, calls⟩ := fired
  subst hfired hcalls
  refine ⟨{ s with firing := reminder.id :: s.firing, errors := errors }, rfl, rfl, rfl, ?_, rfl⟩
  exact congrArg (reminder.id :: ·) hidle

/-- What `prune_completed` sorts two reminders by is the same. -/
def SameKey (a b : Reminder) : Prop := b.createdAt = a.createdAt ∧ b.dueAt = a.dueAt

lemma keysCompare_congr {a a' b b' : Reminder} (ha : SameKey a a') (hb : SameKey b b') :
    keysCompare a' b' = keysCompare a b := by
  unfold keysCompare pruneStamp
  rw [ha.1, ha.2, hb.1, hb.2]

lemma sameKey_sign (table : ReminderTable κ) (reminder : Reminder) :
    SameKey reminder (sign table reminder) := by
  unfold sign
  split <;> exact ⟨rfl, rfl⟩

lemma completed_sign (reminder : Reminder) :
    (sign table reminder).completed = reminder.completed := by
  unfold sign
  split <;> rfl

lemma snoozedUntil_sign (reminder : Reminder) :
    (sign table reminder).snoozedUntil = reminder.snoozedUntil := by
  unfold sign
  split <;> rfl

lemma sign_eq (table : ReminderTable κ) (reminder : Reminder) :
    ∃ digest, sign table reminder = { reminder with integrityDigest := digest } := by
  unfold sign
  split
  · exact ⟨reminder.integrityDigest, rfl⟩
  · exact ⟨_, rfl⟩

/-- What the loop of a round keeps: nothing is being fired, the table is quiet, and every completed
reminder sorts like one that the round has started with. -/
structure Looping (table : ReminderTable κ) (base : List Reminder) (callbacks : List Callback)
    (s : ReminderScheduler κ) : Prop where
  idle : s.firing = []
  callbacks : s.callbacks = callbacks
  quiet : Quiet table s.world
  keyed : ∀ kv ∈ s.reminders, kv.2.completed = true → ∃ y ∈ base, SameKey y kv.2

lemma Looping.sortable {base : List Reminder} (hbase : Sortable base)
    (h : ∀ kv ∈ s.reminders, kv.2.completed = true → ∃ y ∈ base, SameKey y kv.2) :
    Sortable s.completedReminders := by
  have hof : ∀ a ∈ s.completedReminders, ∃ y ∈ base, SameKey y a := by
    intro a ha
    obtain ⟨hmem, hcompleted⟩ := List.mem_filter.mp ha
    obtain ⟨kv, hkv, rfl⟩ := List.mem_map.mp hmem
    exact h kv hkv hcompleted
  intro a ha b hb
  obtain ⟨y, hy, hya⟩ := hof a ha
  obtain ⟨z, hz, hzb⟩ := hof b hb
  rw [keysCompare_congr hya hzb]
  exact hbase y hy z hz

lemma saved_looping {base : List Reminder} (hbase : Sortable base) (hquiet : Quiet table s.world)
    (hkeyed : ∀ kv ∈ s.reminders, kv.2.completed = true → ∃ y ∈ base, SameKey y kv.2)
    {reminder : Reminder}
    (hnew : reminder.completed = true → ∃ y ∈ base, SameKey y reminder) :
    (saveReminder table s reminder).2 = none ∧
      Wrote table (fun x => x.completed = true → ∃ y ∈ base, SameKey y x) s
        (saveReminder table s reminder).1 := by
  have hsigned : (sign table reminder).completed = true →
      ∃ y ∈ base, SameKey y (sign table reminder) := by
    rw [completed_sign]
    intro hcompleted
    obtain ⟨y, hy, hsame⟩ := hnew hcompleted
    have hsign := sameKey_sign table reminder
    exact ⟨y, hy, hsign.1.trans hsame.1, hsign.2.trans hsame.2⟩
  refine ⟨saveReminder_quiet hquiet (Looping.sortable hbase fun kv hkv => ?_),
    wrote_saveReminder table s hsigned⟩
  rcases Dict.mem_of_mem_set hkv with rfl | hold
  · exact hsigned
  · exact hkeyed kv hold

/-- The next date of a repeating reminder lies within the calendar. -/
def InCalendar (reminder : Reminder) : Prop :=
  isText reminder.repeats ["", "none"] = false → ∀ due, reminder.dueAt = some due →
    ∃ next, nextOccurrence due reminder.repeats = .ok next

lemma settle_looping {base : List Reminder} (hbase : Sortable base)
    (hquiet : Quiet table s.world)
    (hkeyed : ∀ kv ∈ s.reminders, kv.2.completed = true → ∃ y ∈ base, SameKey y kv.2)
    {reminder : Reminder} (hmem : reminder ∈ base) (hopen : reminder.completed = false)
    (hcalendar : InCalendar reminder) :
    (settle table s reminder).2 = none ∧
      Wrote table (fun x => x.completed = true → ∃ y ∈ base, SameKey y x) s
        (settle table s reminder).1 := by
  unfold settle
  split
  · exact ⟨rfl, Wrote.refl s⟩
  · split
    · exact saved_looping hbase hquiet hkeyed fun _ => ⟨reminder, hmem, rfl, rfl⟩
    · rename_i hrepeats
      have hrepeats := Bool.eq_false_iff.mpr hrepeats
      rw [rescheduleIfRepeating, if_neg (Bool.eq_false_iff.mp hrepeats)]
      cases hdue : reminder.dueAt with
      | none => exact ⟨rfl, Wrote.refl s⟩
      | some due =>
          obtain ⟨next, hnext⟩ := hcalendar hrepeats due hdue
          dsimp only
          rw [hnext]
          cases next with
          | none => exact ⟨rfl, Wrote.refl s⟩
          | some next =>
              refine saved_looping hbase hquiet hkeyed fun hcompleted => ?_
              have hcompleted : reminder.completed = true := hcompleted
              rw [hopen] at hcompleted
              cases hcompleted

lemma fireAll_looping {base : List Reminder} (hbase : Sortable base) {callbacks : List Callback}
    {due : List Reminder} (h : Looping table base callbacks s)
    (hdue : ∀ r ∈ due, r ∈ base ∧ r.completed = false ∧ InCalendar r) :
    (fireAll table s due).raised = none ∧
      ∀ r ∈ due, ∀ callback ∈ callbacks, (r, callback) ∈ (fireAll table s due).calls := by
  induction due generalizing s with
  | nil => exact ⟨rfl, fun _ hr => absurd hr List.not_mem_nil⟩
  | cons reminder rest ih =>
      obtain ⟨hmem, hopen, hcalendar⟩ := hdue reminder List.mem_cons_self
      obtain ⟨called, hreminders, hcallbacks, hworld, hfiring, hcons⟩ :=
        fireAll_cons table h.idle reminder rest
      have hkeyed : ∀ kv ∈ called.reminders, kv.2.completed = true →
          ∃ y ∈ base, SameKey y kv.2 := by
        rw [hreminders]
        exact h.keyed
      have hquiet : Quiet table called.world := by
        rw [hworld]
        exact h.quiet
      obtain ⟨hraised, hwrote⟩ := settle_looping hbase hquiet hkeyed hmem hopen hcalendar
      have hleft : Looping table base callbacks { (settle table called reminder).1 with
          firing := (settle table called reminder).1.firing.erase reminder.id } := {
        idle := by
          show List.erase _ _ = []
          rw [hwrote.firing, hfiring, List.erase_cons_head]
        callbacks := hwrote.callbacks.trans (hcallbacks.trans h.callbacks)
        quiet := hquiet.follows hwrote.world
        keyed := fun kv hkv hcompleted => by
          rcases hwrote.members kv hkv with hold | hnew
          · exact hkeyed kv hold hcompleted
          · exact hnew hcompleted }
      obtain ⟨hrest, hothers⟩ := ih hleft fun r hr => hdue r (List.mem_cons_of_mem _ hr)
      rw [hcons]
      dsimp only
      rw [hraised]
      refine ⟨hrest, fun r hr callback hcallback => ?_⟩
      rcases List.mem_cons.mp hr with rfl | hr
      · refine List.mem_append_left _ (List.mem_map.mpr ⟨callback, ?_, rfl⟩)
        rw [h.callbacks]
        exact hcallback
      · exact List.mem_append_right _ (hothers r hr callback hcallback)

end Loop

/-! ## A round -/

/-- The round raises nothing and calls every callback for every reminder that is due. -/
def Delivers (s : ReminderScheduler κ) (now : DateTime) : Prop :=
  (s.checkDue table now).raised = none ∧
    ∀ r ∈ s.reminders.map Prod.snd, DueNow now r →
      ∀ callback ∈ s.callbacks, (r, callback) ∈ (s.checkDue table now).calls

/-- Nothing behind the comparison ends a round: the table takes every write, no two reminders that
are completed or due were created at one instant and have, of the dates they are pruned by, one
with and one without a time zone, and the next date of every due reminder exists. -/
structure Smooth (s : ReminderScheduler κ) (now : DateTime) : Prop where
  quiet : Quiet table s.world
  sortable : ∀ a ∈ s.reminders.map Prod.snd, ∀ b ∈ s.reminders.map Prod.snd,
    (a.completed = true ∨ DueNow now a) → (b.completed = true ∨ DueNow now b) →
      keysCompare a b = true
  calendar : ∀ r ∈ s.reminders.map Prod.snd, DueNow now r → InCalendar r

/-- Nothing is being fired, and every snooze lasts until a time with a time zone. -/
structure Sound (s : ReminderScheduler κ) : Prop where
  idle : s.firing = []
  snoozed : ∀ kv ∈ s.reminders, SnoozeZoned kv.2

section Round

variable {s : ReminderScheduler κ} {now : DateTime}

lemma delivers_of_smooth (hsound : Sound s) (hnow : now.aware = true) (hsmooth : Smooth table s now)
    (hzoned : ∀ r ∈ s.reminders.map Prod.snd, Zoned r) : Delivers table s now := by
  have hsnoozed : ∀ r ∈ s.reminders.map Prod.snd, SnoozeZoned r := by
    intro r hr
    obtain ⟨kv, hkv, rfl⟩ := List.mem_map.mp hr
    exact hsound.snoozed kv hkv
  obtain ⟨due, hdue, hmem⟩ := dueAmong_of_zoned hnow hzoned hsnoozed
  have hbase : Sortable (s.completedReminders ++ due) := by
    have hof : ∀ r ∈ s.completedReminders ++ due, r ∈ s.reminders.map Prod.snd ∧
        (r.completed = true ∨ DueNow now r) := by
      intro r hr
      rcases List.mem_append.mp hr with hcompleted | hlisted
      · obtain ⟨hvalue, hcompleted⟩ := List.mem_filter.mp hcompleted
        exact ⟨hvalue, .inl hcompleted⟩
      · exact ⟨((hmem r).mp hlisted).1, .inr ((hmem r).mp hlisted).2⟩
    intro a ha b hb
    exact hsmooth.sortable a (hof a ha).1 b (hof b hb).1 (hof a ha).2 (hof b hb).2
  have hlooping : Looping table (s.completedReminders ++ due) s.callbacks s := {
    idle := hsound.idle
    callbacks := rfl
    quiet := hsmooth.quiet
    keyed := fun kv hkv hcompleted => by
      refine ⟨kv.2, List.mem_append_left _ (List.mem_filter.mpr ⟨?_, hcompleted⟩), rfl, rfl⟩
      exact List.mem_map.mpr ⟨kv, hkv, rfl⟩ }
  have hround := fireAll_looping hbase hlooping fun r hr =>
    ⟨List.mem_append_right _ hr, ((hmem r).mp hr).2.1,
      hsmooth.calendar r ((hmem r).mp hr).1 ((hmem r).mp hr).2⟩
  rw [Delivers, checkDue, getDueReminders, hdue]
  exact ⟨hround.1, fun r hr hnowdue callback hcallback =>
    hround.2 r ((hmem r).mpr ⟨hr, hnowdue⟩) callback hcallback⟩

lemma checkDue_naive (hnow : now.aware = true) {reminder : Reminder}
    (hmem : reminder ∈ s.reminders.map Prod.snd) (hnaive : ¬ Zoned reminder) :
    (s.checkDue table now).raised.isSome = true ∧ (s.checkDue table now).calls = [] := by
  obtain ⟨exception, hraised⟩ := dueAmong_of_naive hnow hmem hnaive
  rw [checkDue, getDueReminders, hraised]
  exact ⟨rfl, rfl⟩

end Round

/-! ## Runs -/

section Runs

variable {s s' : ReminderScheduler κ} {now : DateTime}

lemma Sound.wrote (h : Sound s) (hwrote : Wrote table SnoozeZoned s s') : Sound s' where
  idle := hwrote.firing.trans h.idle
  snoozed kv hkv := (hwrote.members kv hkv).elim (h.snoozed kv) id

lemma snoozeZoned_sign {reminder : Reminder} (h : SnoozeZoned reminder) :
    SnoozeZoned (sign table reminder) := by
  intro until_ huntil
  rw [snoozedUntil_sign] at huntil
  exact h until_ huntil

lemma wrote_settle (s : ReminderScheduler κ) {reminder : Reminder} (h : SnoozeZoned reminder) :
    Wrote table SnoozeZoned s (settle table s reminder).1 := by
  unfold settle
  split
  · exact Wrote.refl s
  · split
    · exact wrote_saveReminder table s (snoozeZoned_sign table h)
    · unfold rescheduleIfRepeating
      split
      · exact Wrote.refl s
      · split
        · exact Wrote.refl s
        · split
          · exact Wrote.refl s
          · exact Wrote.refl s
          · exact wrote_saveReminder table s (snoozeZoned_sign table h)

lemma sound_fireAll (h : Sound s) {due : List Reminder} (hdue : ∀ r ∈ due, SnoozeZoned r) :
    Sound (fireAll table s due).scheduler := by
  induction due generalizing s with
  | nil => exact h
  | cons reminder rest ih =>
      obtain ⟨called, hreminders, -, -, hfiring, hcons⟩ :=
        fireAll_cons table h.idle reminder rest
      have hwrote := wrote_settle table called (hdue reminder List.mem_cons_self)
      have hleft : Sound { (settle table called reminder).1 with
          firing := (settle table called reminder).1.firing.erase reminder.id } := {
        idle := by
          show List.erase _ _ = []
          rw [hwrote.firing, hfiring, List.erase_cons_head]
        snoozed := fun kv hkv => by
          rcases hwrote.members kv hkv with hold | hnew
          · exact h.snoozed kv (hreminders ▸ hold)
          · exact hnew }
      rw [hcons]
      dsimp only
      split
      · exact hleft
      · exact ih hleft fun r hr => hdue r (List.mem_cons_of_mem _ hr)

lemma mem_of_dueAmong {reminders due : List Reminder} (h : dueAmong now reminders = .ok due) :
    ∀ r ∈ due, r ∈ reminders := by
  induction reminders generalizing due with
  | nil =>
      obtain rfl := Except.ok.inj h
      exact fun _ hr => hr
  | cons first rest ih =>
      rw [dueAmong] at h
      cases hfirst : isDue now first with
      | error exception =>
          rw [hfirst] at h
          cases h
      | ok listed =>
          rw [hfirst] at h
          cases hrest : dueAmong now rest with
          | error exception =>
              rw [hrest] at h
              cases h
          | ok later =>
              rw [hrest] at h
              have h : (if listed then first :: later else later) = due := Except.ok.inj h
              subst h
              intro r hr
              have hr : r = first ∨ r ∈ later := by
                cases listed with
                | true => exact List.mem_cons.mp hr
                | false => exact .inr hr
              rcases hr with rfl | hlater
              · exact List.mem_cons_self
              · exact List.mem_cons_of_mem _ (ih hrest r hlater)

lemma sound_checkDue (h : Sound s) (now : DateTime) : Sound (s.checkDue table now).scheduler := by
  unfold checkDue
  split
  · exact h
  · rename_i due hdue
    refine sound_fireAll table h fun r hr => ?_
    obtain ⟨kv, hkv, rfl⟩ := List.mem_map.mp (mem_of_dueAmong hdue r hr)
    exact h.snoozed kv hkv

end Runs

end ReminderScheduler

namespace ReminderTool

open ReminderScheduler

variable {κ : Type} (table : ReminderTable κ) {s : ReminderScheduler κ}

lemma snoozeZoned_owned (h : Sound s) {value : Json} {arguments : Dict String Json}
    {reminder : Reminder}
    (howned : ownedReminder table s value arguments = .ok (some reminder)) :
    SnoozeZoned reminder := by
  have hof : ∀ id, (Dict.get? s.reminders id).filter (fun reminder =>
      reminder.principalId = principal table arguments &&
        reminder.sessionId = session table arguments) = some reminder → SnoozeZoned reminder := by
    intro id hid
    exact h.snoozed _ (Dict.mem_of_get? (Option.filter_eq_some_iff.mp hid).1)
  cases value with
  | str id => exact hof id (Except.ok.inj howned)
  | null | bool | int | float => cases (Except.ok.inj howned)
  | arr | obj => cases howned

lemma sound_changed {ran : ReminderScheduler κ × Option String} (h : Sound ran.1)
    (data : Dict String Json) : Sound (changed ran data).scheduler := by
  unfold changed
  split <;> exact h

lemma sound_onOwned (h : Sound s) {value : Json} {arguments : Dict String Json}
    {act : Reminder → Acted κ} (hact : ∀ r, SnoozeZoned r → Sound (act r).scheduler) :
    Sound (onOwned table s value arguments act).scheduler := by
  unfold onOwned
  split
  · exact h
  · exact h
  · rename_i reminder howned
    exact hact reminder (snoozeZoned_owned table h howned)

lemma sound_saveReminder (h : Sound s) {reminder : Reminder} (hzoned : SnoozeZoned reminder) :
    Sound (saveReminder table s reminder).1 :=
  h.wrote table (wrote_saveReminder table s (snoozeZoned_sign table hzoned))

lemma sound_addReminder (h : Sound s) {reminder : Reminder} (hzoned : SnoozeZoned reminder) :
    Sound (addReminder table s reminder).1 := by
  unfold addReminder
  split
  · exact h
  · exact h.wrote table (wrote_store table s (snoozeZoned_sign table hzoned))

lemma sound_createReminder (h : Sound s) (now : DateTime) (id : String)
    (arguments : Dict String Json) : Sound (createReminder table s now id arguments).scheduler := by
  unfold createReminder
  dsimp only
  split
  · exact h
  · exact h
  · refine sound_changed (sound_addReminder table h ?_) _
    exact fun until_ huntil => nomatch huntil

lemma sound_set (h : Sound s) {reminder : Reminder} (hzoned : SnoozeZoned reminder) :
    Sound { s with reminders := Dict.set s.reminders reminder.id reminder } where
  idle := h.idle
  snoozed kv hkv := by
    rcases Dict.mem_of_mem_set hkv with rfl | hold
    · exact hzoned
    · exact h.snoozed kv hold

lemma sound_updateReminder (h : Sound s) (arguments : Dict String Json) :
    Sound (updateReminder table s arguments).scheduler := by
  refine sound_onOwned table h fun reminder hreminder => ?_
  have hretitled : SnoozeZoned (retitled reminder arguments) := hreminder
  have htouched := sound_set h hretitled
  dsimp only
  split
  · exact htouched
  · exact htouched
  · refine sound_changed (sound_saveReminder table htouched ?_) _
    exact hretitled

lemma sound_snoozeReminder (h : Sound s) {now : DateTime} (hnow : now.aware = true)
    (arguments : Dict String Json) : Sound (snoozeReminder table s now arguments).scheduler := by
  refine sound_onOwned table h fun reminder hreminder => ?_
  split
  · exact h
  · rename_i later hlater
    refine sound_changed (sound_saveReminder table h fun until_ huntil => ?_) _
    obtain rfl := Option.some.inj huntil
    obtain ⟨micros, -, hadd⟩ := bind_eq_ok hlater
    rw [DateTime.aware_of_add hadd]
    exact hnow

/-- No action fires anything, and a snooze counts from a clock with a time zone. -/
lemma sound_run (h : Sound s) {now : DateTime} (hnow : now.aware = true) (id : String)
    (arguments : Dict String Json) : Sound (run table s now id arguments).scheduler := by
  unfold run
  dsimp only
  split
  · exact sound_createReminder table h now id arguments
  · split
    · split <;> exact h
    · split
      · unfold cancelReminder
        dsimp only
        split
        · exact h
        · refine sound_onOwned table h fun reminder _ => sound_changed ?_ _
          exact h.wrote table (wrote_removeReminder table s reminder.id)
      · split
        · exact sound_updateReminder table h arguments
        · split
          · exact sound_snoozeReminder table h hnow arguments
          · split
            · refine sound_onOwned table h fun reminder hreminder => ?_
              refine sound_changed (sound_saveReminder table h ?_) _
              exact hreminder
            · exact h

end ReminderTool

namespace ReminderMove

open ReminderScheduler

variable {κ : Type} (table : ReminderTable κ)

lemma aware_of_utc {now : DateTime} (h : now.offset = some 0) : now.aware = true := by
  rw [DateTime.aware, h]
  rfl

lemma sound_step {s t : ReminderScheduler κ} {move : ReminderMove} (h : Sound s)
    (hstep : (machine table).step s move = some t) : Sound t := by
  cases move with
  | act now id arguments =>
      simp only [machine, step] at hstep
      split at hstep
      · rename_i hutc
        obtain rfl := Option.some.inj hstep
        exact ReminderTool.sound_run table h (aware_of_utc hutc) id arguments
      · cases hstep
  | checkDue now =>
      simp only [machine, step] at hstep
      split at hstep
      · obtain rfl := Option.some.inj hstep
        exact sound_checkDue table h now
      · cases hstep
  | register callback =>
      obtain rfl := Option.some.inj hstep
      exact ⟨h.idle, h.snoozed⟩

/-- Whatever calls of the tool, callbacks and rounds have come before, and at every time: a
reminder that is not completed and whose due date has no time zone has the round raise before its
first call; and where nothing behind the comparison ends it, the round raises nothing and calls
every callback for every due reminder, whatever the callbacks raise, exactly if there is no such
reminder. -/
theorem check_due_delivers {keepCompleted : Option ℤ} {world : κ} {moves : List ReminderMove}
    {s : ReminderScheduler κ}
    (hrun : (machine table).run { keepCompleted := keepCompleted, world := world } moves = some s)
    {now : DateTime} (hutc : now.offset = some 0) :
    ((∃ r ∈ s.reminders.map Prod.snd, ¬ Zoned r) →
      (s.checkDue table now).raised.isSome = true ∧ (s.checkDue table now).calls = []) ∧
    (Smooth table s now → (Delivers table s now ↔ ∀ r ∈ s.reminders.map Prod.snd, Zoned r)) := by
  have hinit : Sound ({ keepCompleted := keepCompleted, world := world } : ReminderScheduler κ) :=
    ⟨rfl, fun kv hkv => absurd hkv List.not_mem_nil⟩
  have hsound : Sound s := (machine table).run_invariant
    (fun _ _ _ h hstep => sound_step table h hstep) hinit hrun
  have hnow := aware_of_utc hutc
  refine ⟨fun ⟨r, hr, hnaive⟩ => checkDue_naive table hnow hr hnaive, fun hsmooth => ?_⟩
  refine ⟨fun hdelivers => ?_, delivers_of_smooth table hsound hnow hsmooth⟩
  by_contra hnaive
  push Not at hnaive
  obtain ⟨r, hr, hnaive⟩ := hnaive
  have hraised := (checkDue_naive table hnow hr hnaive).1
  rw [hdelivers.1] at hraised
  cases hraised

/-! ### Two reminders -/

/-- Nine o'clock on the first of January 2024. -/
def nineOClock (offset : Option ℤ) : DateTime :=
  ⟨738885 * dayMicros + 9 * 3600000000, offset, by decide⟩

/-- A table that takes every write, and two of the texts that `fromisoformat` reads. -/
def plainTable : ReminderTable Unit where
  put _ _ _ := ((), none)
  delete _ _ := ((), none)
  fromIsoFormat text :=
    if text = "2024-01-01T09:00:00+00:00" then some (nineOClock (some 0))
    else if text = "2024-01-01T09:00" then some (nineOClock none)
    else none
  minutes
    | .int n => .ok (n * 60000000)
    | _ => .error "unsupported type for timedelta minutes component"
  textOfContainer _ := ""

def create (id dueAt : String) : ReminderMove :=
  .act (nineOClock (some 0)) id
    [("action", .str "create"), ("title", .str id), ("due_at", .str dueAt)]

/-- The scheduler after some moves. -/
def schedulerAfter (moves : List ReminderMove) : ReminderScheduler Unit :=
  ((machine plainTable).run { world := () } moves).getD { world := () }

lemma run_schedulerAfter {moves : List ReminderMove}
    (h : ((machine plainTable).run { world := () } moves).isSome = true) :
    (machine plainTable).run { world := () } moves = some (schedulerAfter moves) :=
  some_getD h _

/-- A reminder whose due date has a time zone, and a callback that raises. -/
def zonedMoves : List ReminderMove :=
  [create "a" "2024-01-01T09:00:00+00:00", .register fun _ => some "no display"]

/-- The callback is called for the reminder that is due, although it raises. -/
theorem check_due_delivers_sample :
    (schedulerAfter zonedMoves).reminders.length = 1 ∧
      Delivers plainTable (schedulerAfter zonedMoves) (nineOClock (some 0)) := by
  have hone : ∀ r ∈ (schedulerAfter zonedMoves).reminders.map Prod.snd,
      r.dueAt = some (nineOClock (some 0)) ∧ r.createdAt = nineOClock (some 0) ∧
        r.repeats = .str "none" := by
    intro r hr
    obtain rfl := List.mem_singleton.mp hr
    exact ⟨rfl, rfl, rfl⟩
  refine ⟨by decide, ?_⟩
  refine ((check_due_delivers plainTable (run_schedulerAfter (by decide)) rfl).2 ?_).mpr ?_
  · refine ⟨fun _ _ => ⟨fun _ _ => rfl, fun _ => rfl⟩, fun a ha b hb _ _ => ?_, fun r hr _ => ?_⟩
    · simp [keysCompare, pruneStamp, (hone a ha).1, (hone b hb).1]
    · intro hrepeats
      rw [(hone r hr).2.2] at hrepeats
      exact absurd hrepeats (by decide)
  · intro r hr _ due hdue
    rw [(hone r hr).1] at hdue
    obtain rfl := Option.some.inj hdue
    rfl

/-- Two reminders for nine o'clock, the second without a time zone. -/
def naiveMoves : List ReminderMove :=
  [create "a" "2024-01-01T09:00:00+00:00", create "b" "2024-01-01T09:00", .register fun _ => none]

/-- Both were accepted and the first is due, but the round raises before it calls for it. -/
theorem check_due_silenced :
    (machine plainTable).run { world := () } naiveMoves = some (schedulerAfter naiveMoves) ∧
      (∃ r ∈ (schedulerAfter naiveMoves).reminders.map Prod.snd,
        DueNow (nineOClock (some 0)) r) ∧
      ((schedulerAfter naiveMoves).checkDue plainTable (nineOClock (some 0))).raised =
        some "can't compare offset-naive and offset-aware datetimes" ∧
      ((schedulerAfter naiveMoves).checkDue plainTable (nineOClock (some 0))).calls = [] := by
  refine ⟨run_schedulerAfter (by decide), ⟨_, List.mem_cons_self, ?_⟩, by decide, rfl⟩
  refine ⟨by decide, nineOClock (some 0), rfl, by decide, ?_⟩
  exact fun until_ huntil => nomatch huntil

end ReminderMove

end Samaktha
