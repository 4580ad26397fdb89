import Samaktha.Foundation.Calendar
import Samaktha.Tools.ReminderRounds

/-!
# How reminders recur

A round settles each reminder that it has fired: it is completed, or moves to its next date, or
stays where its repeat value is none of those that `_next_occurrence` knows.
`reminder_recurrence` says which reminders get on, that then none is fired by every round for
ever, and where the next dates lie.

The next date is computed from the one before it, so a monthly reminder that was moved to the last
day of a short month stays on that day: `clampedDay` is the day that it has reached.
-/

namespace Samaktha

open DateTime

/-! ## The next date -/

/-- A repeat value that `_next_occurrence` knows, with a next date in the calendar. -/
def Continues (due : DateTime) (repeats : Json) : Prop :=
  (isText repeats ["daily"] = true ∧ due.wall + dayMicros < maxWall) ∨
    (isText repeats ["weekly"] = true ∧ due.wall + 7 * dayMicros < maxWall) ∨
      (isText repeats ["monthly"] = true ∧ (due.date.1 < 9999 ∨ due.date.2.1 < 12))

/-- A value some time later in the same time zone. -/
def LaterBy (first due : DateTime) (micros : ℤ) : Prop :=
  due.wall = first.wall + micros ∧ due.offset = first.offset

/-- A value on a day some months later, at the same time in the same time zone. -/
def MonthsLater (first due : DateTime) (n day : ℕ) : Prop :=
  monthIndex due.date = monthIndex first.date + n ∧ due.date.2.2 = day ∧
    due.wall % dayMicros = first.wall % dayMicros ∧ due.offset = first.offset

/-- The date after `n` repetitions, the day in the month apart. -/
def Recurrent (repeats : Json) (first : DateTime) (n day : ℕ) (due : DateTime) : Prop :=
  (isText repeats ["daily"] = true → LaterBy first due (n * dayMicros)) ∧
    (isText repeats ["weekly"] = true → LaterBy first due (n * (7 * dayMicros))) ∧
      (isText repeats ["monthly"] = true → MonthsLater first due n day)

/-- The days of the month that is `n` months after a date. -/
def monthDays (first : DateTime) (n : ℕ) : ℕ := daysOfIndex (monthIndex first.date + n)

/-- The `n`-th occurrence behind the first one, as it should be. -/
def IsOccurrence (repeats : Json) (first : DateTime) (n : ℕ) (due : DateTime) : Prop :=
  Recurrent repeats first n (min first.date.2.2 (monthDays first n)) due

/-- The day of the month after `n` repetitions. -/
def clampedDay (first : DateTime) : ℕ → ℕ
  | 0 => first.date.2.2
  | n + 1 => min (clampedDay first n) (monthDays first (n + 1))

/-- No month before the `n`-th is too short for the day that the `n`-th should have. -/
def Unclamped (first : DateTime) (n : ℕ) : Prop :=
  ∀ k < n, min first.date.2.2 (monthDays first n) ≤ monthDays first k

lemma isText_singleton {value : Json} {text : String} :
    isText value [text] = true ↔ value = .str text := by
  cases value with
  | str found => simp [isText]
  | null | bool | int | float | arr | obj => simp [isText]

lemma daysOfIndex_monthIndex {date : ℕ × ℕ × ℕ} (h : IsDate date) :
    daysOfIndex (monthIndex date) = daysInMonth date.1 date.2.1 := by
  obtain ⟨-, ⟨hmonth, hmonths⟩, -⟩ := h
  have hyear : monthIndex date / 12 = date.1 := by
    rw [monthIndex]
    omega
  have hindex : monthIndex date % 12 + 1 = date.2.1 := by
    rw [monthIndex]
    omega
  rw [daysOfIndex, hyear, hindex]

lemma isDate_nextMonth {date : ℕ × ℕ × ℕ} (h : IsDate date) :
    IsDate (date.1 + date.2.1 / 12, date.2.1 % 12 + 1,
        min date.2.2 (daysInMonth (date.1 + date.2.1 / 12) (date.2.1 % 12 + 1))) ∧
      monthIndex (date.1 + date.2.1 / 12, date.2.1 % 12 + 1,
        min date.2.2 (daysInMonth (date.1 + date.2.1 / 12) (date.2.1 % 12 + 1))) =
          monthIndex date + 1 := by
  obtain ⟨hyear, ⟨hmonth, hmonths⟩, hone, -⟩ := h
  have hlength := le_daysInMonth (date.1 + date.2.1 / 12) (date.2.1 % 12 + 1)
  refine ⟨⟨?_, ⟨?_, ?_⟩, ?_, min_le_right _ _⟩, ?_⟩
  · simp only
    omega
  · simp only
    omega
  · simp only
    omega
  · simp only
    omega
  · simp only [monthIndex]
    omega

section Next

variable {due next : DateTime} {repeats : Json}

lemma add_eq_ok_iff {micros : ℤ} (h : 0 ≤ micros) :
    due.add micros = .ok next ↔ LaterBy due next micros := by
  have hlow := due.inRange.1
  unfold DateTime.add LaterBy
  constructor
  · intro hok
    split at hok
    · obtain rfl := Except.ok.inj hok
      exact ⟨rfl, rfl⟩
    · cases hok
  · rintro ⟨hwall, hoffset⟩
    rw [dif_pos ⟨by omega, by rw [← hwall]; exact next.inRange.2⟩]
    congr 1
    cases next
    cases hwall
    cases hoffset
    rfl

lemma exists_add {micros : ℤ} (h : 0 ≤ micros) (hend : due.wall + micros < maxWall) :
    ∃ next, due.add micros = .ok next := by
  have hlow := due.inRange.1
  exact ⟨_, dif_pos ⟨by omega, hend⟩⟩

lemma map_some_eq {result : Except String DateTime} :
    result.map some = .ok (some next) ↔ result = .ok next := by
  cases result with
  | error exception => simp [Except.map]
  | ok value => simp [Except.map]

lemma nextOccurrence_daily :
    nextOccurrence due (.str "daily") = (due.add dayMicros).map some := rfl

lemma nextOccurrence_weekly :
    nextOccurrence due (.str "weekly") = (due.add (7 * dayMicros)).map some := rfl

lemma nextOccurrence_monthly :
    nextOccurrence due (.str "monthly") = (due.replaceDate
      (due.date.1 + due.date.2.1 / 12) (due.date.2.1 % 12 + 1) (min due.date.2.2
        (daysInMonth (due.date.1 + due.date.2.1 / 12) (due.date.2.1 % 12 + 1)))).map some := rfl

lemma monthsLater_of_next (h : nextOccurrence due (.str "monthly") = .ok (some next)) :
    MonthsLater due next 1 (min due.date.2.2 (monthDays due 1)) := by
  obtain ⟨hdate, hindex⟩ := isDate_nextMonth due.isDate_date
  have hdays := daysOfIndex_monthIndex hdate
  rw [hindex] at hdays
  rw [nextOccurrence_monthly, map_some_eq, replaceDate_eq_ok_iff hdate] at h
  obtain ⟨-, hfound, htime, hoffset⟩ := h
  rw [MonthsLater, monthDays, hdays, ← hindex, hfound]
  exact ⟨rfl, rfl, htime, hoffset⟩

lemma nextOccurrence_cases (h : nextOccurrence due repeats = .ok (some next)) :
    (repeats = .str "daily" ∧ LaterBy due next dayMicros) ∨
      (repeats = .str "weekly" ∧ LaterBy due next (7 * dayMicros)) ∨
        (repeats = .str "monthly" ∧
          MonthsLater due next 1 (min due.date.2.2 (monthDays due 1))) := by
  by_cases hdaily : repeats = .str "daily"
  · subst hdaily
    rw [nextOccurrence_daily, map_some_eq, add_eq_ok_iff (by decide)] at h
    exact .inl ⟨rfl, h⟩
  · by_cases hweekly : repeats = .str "weekly"
    · subst hweekly
      rw [nextOccurrence_weekly, map_some_eq, add_eq_ok_iff (by decide)] at h
      exact .inr (.inl ⟨rfl, h⟩)
    · by_cases hmonthly : repeats = .str "monthly"
      · subst hmonthly
        exact .inr (.inr ⟨rfl, monthsLater_of_next h⟩)
      · rw [← isText_singleton] at hdaily hweekly hmonthly
        rw [nextOccurrence, if_neg hdaily, if_neg hweekly, if_neg hmonthly] at h
        cases h

lemma wall_lt_of_next (h : nextOccurrence due repeats = .ok (some next)) :
    due.wall < next.wall ∧ next.offset = due.offset := by
  rcases nextOccurrence_cases h with ⟨-, hwall, hoffset⟩ | ⟨-, hwall, hoffset⟩ |
    ⟨-, hmonth, -, htime, hoffset⟩
  · refine ⟨?_, hoffset⟩
    unfold dayMicros at hwall
    omega
  · refine ⟨?_, hoffset⟩
    unfold dayMicros at hwall
    omega
  · refine ⟨?_, hoffset⟩
    have hlater := ordinal_lt due.isDate_date next.isDate_date (by omega)
    have hdue := due.wall_eq
    have hnext := next.wall_eq
    rw [htime] at hnext
    unfold dayMicros at hdue hnext
    omega

lemma continues_iff :
    Continues due repeats ↔ ∃ next, nextOccurrence due repeats = .ok (some next) := by
  constructor
  · rintro (⟨hrepeats, hend⟩ | ⟨hrepeats, hend⟩ | ⟨hrepeats, hend⟩)
    · obtain rfl := isText_singleton.mp hrepeats
      obtain ⟨next, hnext⟩ := exists_add (by decide) hend
      exact ⟨next, map_some_eq.mpr hnext⟩
    · obtain rfl := isText_singleton.mp hrepeats
      obtain ⟨next, hnext⟩ := exists_add (by decide) hend
      exact ⟨next, map_some_eq.mpr hnext⟩
    · obtain rfl := isText_singleton.mp hrepeats
      obtain ⟨hdate, -⟩ := isDate_nextMonth due.isDate_date
      have hyear : due.date.1 + due.date.2.1 / 12 ≤ 9999 := by
        have hlast := due.year_le
        have hmonths := due.isDate_date.month.2
        omega
      obtain ⟨next, hnext⟩ := exists_replaceDate (d := due) hdate hyear
      exact ⟨next, map_some_eq.mpr hnext⟩
  · rintro ⟨next, hnext⟩
    have hend := next.inRange.2
    rcases nextOccurrence_cases hnext with ⟨rfl, hwall, -⟩ | ⟨rfl, hwall, -⟩ | ⟨rfl, hmonth, -⟩
    · exact .inl ⟨rfl, by omega⟩
    · exact .inr (.inl ⟨rfl, by omega⟩)
    · refine .inr (.inr ⟨rfl, ?_⟩)
      have hlast := next.year_le
      have hmonths := next.isDate_date.month.2
      unfold monthIndex at hmonth
      omega

end Next

/-! ## The day that a monthly reminder has reached -/

section Clamped

variable {first due next : DateTime} {repeats : Json}

lemma le_clampedDay_iff {day n : ℕ} :
    day ≤ clampedDay first n ↔ day ≤ first.date.2.2 ∧ ∀ k ≤ n, day ≤ monthDays first k := by
  have hfirst : first.date.2.2 ≤ monthDays first 0 := by
    rw [monthDays, Nat.add_zero, daysOfIndex_monthIndex first.isDate_date]
    exact first.isDate_date.day.2
  induction n with
  | zero =>
      refine ⟨fun h => ⟨h, fun k hk => ?_⟩, And.left⟩
      obtain rfl := Nat.le_zero.mp hk
      exact h.trans hfirst
  | succ n ih =>
      rw [clampedDay, le_min_iff, and_congr_left' ih, and_assoc]
      refine and_congr_right fun _ => ⟨fun h k hk => ?_, fun h => ?_⟩
      · rcases Nat.le_succ_iff.mp hk with hk | rfl
        · exact h.1 k hk
        · exact h.2
      · exact ⟨fun k hk => h k (Nat.le_succ_of_le hk), h (n + 1) le_rfl⟩

/-- The day that is reached is the day it should be exactly if no month before was too short. -/
lemma clampedDay_eq_iff {n : ℕ} :
    clampedDay first n = min first.date.2.2 (monthDays first n) ↔ Unclamped first n := by
  have hle : clampedDay first n ≤ min first.date.2.2 (monthDays first n) := by
    obtain ⟨hday, hmonths⟩ := le_clampedDay_iff.mp (le_refl (clampedDay first n))
    exact le_min hday (hmonths n le_rfl)
  constructor
  · intro heq k hk
    rw [← heq]
    exact (le_clampedDay_iff.mp le_rfl).2 k hk.le
  · intro h
    refine le_antisymm hle (le_clampedDay_iff.mpr ⟨min_le_left _ _, fun k hk => ?_⟩)
    rcases Nat.lt_or_eq_of_le hk with hk | rfl
    · exact h k hk
    · exact min_le_right _ _

/-- The date that `n` repetitions have reached. -/
def Reached (repeats : Json) (first : DateTime) (n : ℕ) (due : DateTime) : Prop :=
  Recurrent repeats first n (clampedDay first n) due

lemma reached_zero : Reached repeats first 0 first := by
  refine ⟨fun _ => ⟨?_, rfl⟩, fun _ => ⟨?_, rfl⟩, fun _ => ⟨rfl, rfl, rfl, rfl⟩⟩
  · simp
  · simp

lemma reached_succ {n : ℕ} (h : Reached repeats first n due)
    (hnext : nextOccurrence due repeats = .ok (some next)) :
    Reached repeats first (n + 1) next := by
  obtain ⟨hdaily, hweekly, hmonthly⟩ := h
  rcases nextOccurrence_cases hnext with ⟨rfl, hwall, hoffset⟩ | ⟨rfl, hwall, hoffset⟩ |
    ⟨rfl, hmonth, hday, htime, hoffset⟩
  · obtain ⟨hbefore, hzone⟩ := hdaily rfl
    refine ⟨fun _ => ⟨?_, hoffset.trans hzone⟩, fun h => ?_, fun h => ?_⟩
    · push_cast
      linarith
    · exact absurd h (by decide)
    · exact absurd h (by decide)
  · obtain ⟨hbefore, hzone⟩ := hweekly rfl
    refine ⟨fun h => ?_, fun _ => ⟨?_, hoffset.trans hzone⟩, fun h => ?_⟩
    · exact absurd h (by decide)
    · push_cast
      linarith
    · exact absurd h (by decide)
  · obtain ⟨hindex, hreached, hclock, hzone⟩ := hmonthly rfl
    refine ⟨fun h => ?_, fun h => ?_, fun _ => ⟨?_, ?_, htime.trans hclock, hoffset.trans hzone⟩⟩
    · exact absurd h (by decide)
    · exact absurd h (by decide)
    · rw [hmonth, hindex]
      rfl
    · rw [hday, hreached, clampedDay, monthDays, monthDays, hindex]
      rfl

lemma isOccurrence_iff {n : ℕ} (h : Reached repeats first n due) :
    IsOccurrence repeats first n due ↔
      (isText repeats ["monthly"] = true → Unclamped first n) := by
  obtain ⟨hdaily, hweekly, hmonthly⟩ := h
  constructor
  · intro hoccurrence hrepeats
    exact clampedDay_eq_iff.mp ((hmonthly hrepeats).2.1.symm.trans (hoccurrence.2.2 hrepeats).2.1)
  · intro hunclamped
    refine ⟨hdaily, hweekly, fun hrepeats => ?_⟩
    rw [← clampedDay_eq_iff.mpr (hunclamped hrepeats)]
    exact hmonthly hrepeats

end Clamped

namespace ReminderScheduler

variable {κ : Type} (table : ReminderTable κ)

/-! ## What a round fires -/

/-- The reminders that the loop of `check_due` fires. -/
def firedAll (s : ReminderScheduler κ) : List Reminder → List Reminder
  | [] => []
  | reminder :: rest =>
      if reminder.id ∈ s.firing then firedAll s rest
      else
        let fired := { s with firing := reminder.id :: s.firing }.fire reminder s.callbacks
        let settled := settle table fired.1 reminder
        let left := { settled.1 with firing := settled.1.firing.erase reminder.id }
        match settled.2 with
        | some _ => [reminder]
        | none => reminder :: firedAll left rest

/-- The reminders that a round fires. -/
def firedBy (s : ReminderScheduler κ) (now : DateTime) : List Reminder :=
  match s.getDueReminders now with
  | .error _ => []
  | .ok due => firedAll table s due

section Loop

variable {table} {s : ReminderScheduler κ}

lemma settle_cases (table : ReminderTable κ) (s : ReminderScheduler κ) (reminder : Reminder) :
    (Dict.get? s.reminders reminder.id = none ∧ (settle table s reminder).1 = s) ∨
    (isText reminder.repeats ["", "none"] = true ∧
      settle table s reminder = saveReminder table s { reminder with completed := true }) ∨
    isText reminder.repeats ["", "none"] = false ∧
      ((∃ due next, reminder.dueAt = some due ∧
          nextOccurrence due reminder.repeats = .ok (some next) ∧
          settle table s reminder = saveReminder table s { reminder with dueAt := some next }) ∨
        (∀ due next, reminder.dueAt = some due →
          nextOccurrence due reminder.repeats ≠ .ok (some next)) ∧
          (settle table s reminder).1 = s) := by
  unfold settle
  split
  · rename_i hgone
    exact .inl ⟨Option.isNone_iff_eq_none.mp hgone, rfl⟩
  · split
    · rename_i honce
      exact .inr (.inl ⟨honce, rfl⟩)
    · rename_i hrepeats
      refine .inr (.inr ⟨Bool.eq_false_iff.mpr hrepeats, ?_⟩)
      rw [rescheduleIfRepeating, if_neg hrepeats]
      cases hdue : reminder.dueAt with
      | none =>
          refine .inr ⟨fun due next h => ?_, rfl⟩
          cases h
      | some due =>
          dsimp only
          cases hnext : nextOccurrence due reminder.repeats with
          | error exception =>
              refine .inr ⟨fun found next h hfound => ?_, rfl⟩
              obtain rfl := Option.some.inj h
              cases hnext.symm.trans hfound
          | ok next =>
              cases next with
              | none =>
                  refine .inr ⟨fun found next h hfound => ?_, rfl⟩
                  obtain rfl := Option.some.inj h
                  cases hnext.symm.trans hfound
              | some next => exact .inl ⟨due, next, rfl, hnext, rfl⟩

lemma wrote_settle_true (s : ReminderScheduler κ) (reminder : Reminder) :
    Wrote table (fun _ => True) s (settle table s reminder).1 := by
  rcases settle_cases table s reminder with ⟨-, h⟩ | ⟨-, h⟩ | ⟨-, ⟨due, next, -, -, h⟩ | ⟨-, h⟩⟩
  · rw [h]
    exact Wrote.refl s
  · rw [h]
    exact wrote_saveReminder table s trivial
  · rw [h]
    exact wrote_saveReminder table s trivial
  · rw [h]
    exact Wrote.refl s

lemma firedAll_cons (table : ReminderTable κ) (hidle : s.firing = []) (reminder : Reminder)
    (rest : List Reminder) :
    ∃ called left : ReminderScheduler κ, called.reminders = s.reminders ∧
      left.reminders = (settle table called reminder).1.reminders ∧
      left.callbacks = s.callbacks ∧ left.firing = [] ∧
      ((firedAll table s (reminder :: rest) = [reminder] ∧
          (fireAll table s (reminder :: rest)).scheduler = left ∧
          (fireAll table s (reminder :: rest)).calls =
            s.callbacks.map fun callback => (reminder, callback)) ∨
        (firedAll table s (reminder :: rest) = reminder :: firedAll table left rest ∧
          (fireAll table s (reminder :: rest)).scheduler = (fireAll table left rest).scheduler ∧
          (fireAll table s (reminder :: rest)).calls =
            s.callbacks.map (fun callback => (reminder, callback)) ++
              (fireAll table left rest).calls)) := by
  have hnot : reminder.id ∉ s.firing := by
    rw [hidle]
    exact List.not_mem_nil
  obtain ⟨⟨errors, hfired⟩, hcalls⟩ :=
    fire_spec { s with firing := reminder.id :: s.firing } reminder s.callbacks
  rw [fireAll, if_neg hnot, firedAll, if_neg hnot]
  generalize ({ s with firing := reminder.id :: s.firing }.fire reminder s.callbacks) = fired
    at hfired hcalls ⊢
  obtain ⟨called, calls⟩ := fired
  subst hcalls
  have hcalled : called.reminders = s.reminders ∧ called.callbacks = s.callbacks ∧
      called.firing = [reminder.id] := by
    subst hfired
    exact ⟨rfl, rfl, congrArg (reminder.id :: ·) hidle⟩
  have hwrote : Wrote table (fun _ => True) called (settle table called reminder).1 :=
    wrote_settle_true called reminder
  refine ⟨called, { (settle table called reminder).1 with
    firing := (settle table called reminder).1.firing.erase reminder.id }, hcalled.1, rfl,
    hwrote.callbacks.trans hcalled.2.1, ?_, ?_⟩
  · have hfiring := hwrote.firing.trans hcalled.2.2
    rw [hfiring, List.erase_cons_head]
  · dsimp only
    cases (settle table called reminder).2 with
    | some exception => exact .inl ⟨rfl, rfl, rfl⟩
    | none => exact .inr ⟨rfl, rfl, rfl⟩

lemma firedAll_sublist (hidle : s.firing = []) (due : List Reminder) :
    List.Sublist (firedAll table s due) due := by
  induction due generalizing s with
  | nil => exact List.Sublist.refl _
  | cons reminder rest ih =>
      obtain ⟨called, left, -, -, -, hfiring, ⟨hfired, -⟩ | ⟨hfired, -⟩⟩ :=
        firedAll_cons table hidle reminder rest
      · rw [hfired]
        exact List.Sublist.cons_cons _ (List.nil_sublist rest)
      · rw [hfired]
        exact List.Sublist.cons_cons _ (ih hfiring)

end Loop

/-! ## What is stored under an id -/

/-- Every reminder is stored under its id, and what is stored under this one has a property. -/
structure Entry (id : String) (R : Option Reminder → Prop) (reminders : Dict String Reminder) :
    Prop where
  keyed : Dict.KeyedBy Reminder.id reminders
  stored : R (Dict.get? reminders id)

/-- A completed reminder may be pruned. -/
def Prunable (R : Option Reminder → Prop) : Prop := ∀ r, R (some r) → r.completed = true → R none

section Entry

variable {table} {id : String} {R : Option Reminder → Prop} {s : ReminderScheduler κ}

lemma id_sign (reminder : Reminder) : (sign table reminder).id = reminder.id := by
  unfold sign
  split <;> rfl

lemma Entry.set {reminders : Dict String Reminder} (h : Entry id R reminders) {reminder : Reminder}
    (hnew : reminder.id = id → R (some reminder)) :
    Entry id R (Dict.set reminders reminder.id reminder) := by
  refine ⟨h.keyed.set rfl, ?_⟩
  rw [Dict.get?_set]
  split
  · rename_i hid
    exact hnew hid
  · exact h.stored

lemma Entry.erase {reminders : Dict String Reminder} (h : Entry id R reminders) {gone : String}
    (hnone : gone = id → R none) : Entry id R (Dict.erase reminders gone) := by
  refine ⟨h.keyed.erase gone, ?_⟩
  rw [Dict.get?_erase]
  split
  · rename_i hid
    exact hnone hid
  · exact h.stored

lemma entry_store (h : Entry id R s.reminders) {reminder : Reminder}
    (hnew : reminder.id = id → R (some (sign table reminder))) :
    Entry id R (store table s reminder).1.reminders := by
  have hset : Entry id R (Dict.set s.reminders (sign table reminder).id (sign table reminder)) :=
    h.set fun hid => hnew ((id_sign reminder).symm.trans hid)
  exact hset

lemma entry_removeReminder (h : Entry id R s.reminders) {gone : String}
    (hnone : gone = id → R none) : Entry id R (removeReminder table s gone).1.reminders := by
  unfold removeReminder
  split
  · exact h.erase hnone
  · exact h

lemma entry_removeAll (h : Entry id R s.reminders) {gone : List Reminder}
    (hnone : ∀ r ∈ gone, r.id = id → R none) :
    Entry id R (removeAll table s gone).1.reminders := by
  induction gone generalizing s with
  | nil => exact h
  | cons reminder rest ih =>
      have hremoved : Entry id R (removeReminder table s reminder.id).1.reminders :=
        entry_removeReminder h (hnone reminder List.mem_cons_self)
      rw [removeAll]
      cases (removeReminder table s reminder.id).2 with
      | some exception => exact hremoved
      | none => exact ih hremoved fun r hr => hnone r (List.mem_cons_of_mem _ hr)

lemma entry_pruneIfOverCap (h : Entry id R s.reminders) (hprune : Prunable R) :
    Entry id R (pruneIfOverCap table s).1.reminders := by
  have hnone : ∀ r ∈ s.completedReminders, r.id = id → R none := by
    intro r hr hid
    obtain ⟨hmem, hcompleted⟩ := List.mem_filter.mp hr
    obtain ⟨kv, hkv, rfl⟩ := List.mem_map.mp hmem
    refine hprune kv.2 ?_ hcompleted
    rw [← h.keyed.get?_of_mem hkv, hid]
    exact h.stored
  unfold pruneIfOverCap
  split
  · exact h
  · split
    · unfold pruneCompleted sortedByKey
      split
      · exact h
      · rename_i completed hsorted
        split at hsorted
        · obtain rfl := Except.ok.inj hsorted
          refine entry_removeAll h fun r hr => hnone r ?_
          split at hr
          · exact List.mem_mergeSort.mp (List.mem_of_mem_take hr)
          · exact List.mem_mergeSort.mp hr
        · cases hsorted
    · exact h

lemma entry_saveReminder (h : Entry id R s.reminders) (hprune : Prunable R) {reminder : Reminder}
    (hnew : reminder.id = id → R (some (sign table reminder))) :
    Entry id R (saveReminder table s reminder).1.reminders := by
  have hstored := entry_store h hnew
  rw [saveReminder]
  cases (store table s reminder).2 with
  | some exception => exact hstored
  | none => exact entry_pruneIfOverCap hstored hprune

/-! ## Settling -/

/-- The due date behind a firing. -/
def dueAfter (reminder : Reminder) : Option DateTime :=
  reminder.dueAt.map fun due =>
    match nextOccurrence due reminder.repeats with
    | .ok (some next) => next
    | _ => due

/-- What is stored of a fired reminder: it is completed, and may be pruned, or it is there with its
new date. -/
def Settled (reminder : Reminder) (stored : Option Reminder) : Prop :=
  if isText reminder.repeats ["", "none"] then
    ∀ r, stored = some r → r.completed = true ∧ r.dueAt = reminder.dueAt ∧
      r.repeats = reminder.repeats
  else ∃ r, stored = some r ∧ r.completed = false ∧ r.dueAt = dueAfter reminder ∧
    r.repeats = reminder.repeats

lemma prunable_settled (reminder : Reminder) : Prunable (Settled reminder) := by
  intro r hr hcompleted
  unfold Settled at *
  split
  · intro r hr
    cases hr
  · rename_i hrepeats
    rw [if_neg hrepeats] at hr
    obtain ⟨found, hfound, hopen, -⟩ := hr
    obtain rfl := Option.some.inj hfound
    exact absurd (hopen.symm.trans hcompleted) Bool.false_ne_true

lemma prunable_eq {reminder : Reminder} (hopen : reminder.completed = false) :
    Prunable (fun stored => stored = some reminder) := by
  intro r hr hcompleted
  obtain rfl := Option.some.inj hr
  exact absurd (hopen.symm.trans hcompleted) Bool.false_ne_true

lemma repeats_sign (reminder : Reminder) : (sign table reminder).repeats = reminder.repeats := by
  unfold sign
  split <;> rfl

lemma entry_settle_ne (h : Entry id R s.reminders) (hprune : Prunable R) {reminder : Reminder}
    (hne : reminder.id ≠ id) : Entry id R (settle table s reminder).1.reminders := by
  rcases settle_cases table s reminder with ⟨-, hs⟩ | ⟨-, hs⟩ | ⟨-, ⟨due, next, -, -, hs⟩ | ⟨-, hs⟩⟩
  · rw [hs]
    exact h
  · rw [hs]
    exact entry_saveReminder h hprune fun hid => absurd hid hne
  · rw [hs]
    exact entry_saveReminder h hprune fun hid => absurd hid hne
  · rw [hs]
    exact h

lemma entry_saved {R' : Option Reminder → Prop} (reminder : Reminder)
    (h : Entry reminder.id R' s.reminders) (hprune : Prunable R)
    (hnew : R (some (sign table reminder))) :
    Entry reminder.id R (saveReminder table s reminder).1.reminders := by
  have hstored : Entry reminder.id R (store table s reminder).1.reminders := by
    refine ⟨h.keyed.set rfl, ?_⟩
    show R (Dict.get? (Dict.set s.reminders (sign table reminder).id (sign table reminder)) _)
    rw [id_sign, Dict.get?_set, if_pos rfl]
    exact hnew
  rw [saveReminder]
  cases (store table s reminder).2 with
  | some exception => exact hstored
  | none => exact entry_pruneIfOverCap hstored hprune

lemma entry_settle {reminder : Reminder} (hopen : reminder.completed = false)
    (h : Entry reminder.id (fun stored => stored = some reminder) s.reminders) :
    Entry reminder.id (Settled reminder) (settle table s reminder).1.reminders := by
  rcases settle_cases table s reminder with ⟨hgone, -⟩ | ⟨honce, hs⟩ |
    ⟨hrepeats, ⟨due, next, hdue, hnext, hs⟩ | ⟨hnever, hs⟩⟩
  · cases hgone.symm.trans h.stored
  · rw [hs]
    refine entry_saved { reminder with completed := true } h
      (prunable_settled reminder) ?_
    rw [Settled, if_pos honce]
    intro r hr
    obtain rfl := Option.some.inj hr
    have hkey := sameKey_sign table { reminder with completed := true }
    exact ⟨completed_sign _, hkey.2, repeats_sign _⟩
  · rw [hs]
    refine entry_saved { reminder with dueAt := some next } h
      (prunable_settled reminder) ?_
    rw [Settled, if_neg (Bool.eq_false_iff.mp hrepeats)]
    have hkey := sameKey_sign table { reminder with dueAt := some next }
    refine ⟨_, rfl, (completed_sign _).trans hopen, hkey.2.trans ?_, repeats_sign _⟩
    rw [dueAfter, hdue, Option.map_some, hnext]
  · rw [hs]
    refine ⟨h.keyed, ?_⟩
    rw [Settled, if_neg (Bool.eq_false_iff.mp hrepeats)]
    refine ⟨reminder, h.stored, hopen, ?_, rfl⟩
    rw [dueAfter]
    cases hdue : reminder.dueAt with
    | none => rfl
    | some due =>
        rw [Option.map_some]
        split
        · rename_i next hnext
          exact absurd hnext (hnever due next hdue)
        · rfl

/-! ## The loop -/

lemma entry_fireAll (hidle : s.firing = []) (h : Entry id R s.reminders) (hprune : Prunable R)
    {due : List Reminder} (hnot : ∀ r ∈ firedAll table s due, r.id ≠ id) :
    Entry id R (fireAll table s due).scheduler.reminders := by
  induction due generalizing s with
  | nil => exact h
  | cons reminder rest ih =>
      obtain ⟨called, left, hcalled, hleft, -, hfiring, hturn⟩ :=
        firedAll_cons table hidle reminder rest
      have hfired : reminder ∈ firedAll table s (reminder :: rest) := by
        rcases hturn with ⟨hfired, -⟩ | ⟨hfired, -⟩
        · rw [hfired]
          exact List.mem_cons_self
        · rw [hfired]
          exact List.mem_cons_self
      have hsettled : Entry id R left.reminders := by
        rw [hleft]
        exact entry_settle_ne (by rw [hcalled]; exact h) hprune (hnot reminder hfired)
      rcases hturn with ⟨-, hafter, -⟩ | ⟨hfired, hafter, -⟩
      · rw [hafter]
        exact hsettled
      · rw [hafter]
        refine ih hfiring hsettled fun r hr => hnot r ?_
        rw [hfired]
        exact List.mem_cons_of_mem _ hr

lemma settled_fireAll (hidle : s.firing = []) {reminder : Reminder}
    (hopen : reminder.completed = false)
    (h : Entry reminder.id (fun stored => stored = some reminder) s.reminders)
    {due : List Reminder} (hdue : (due.map Reminder.id).Nodup)
    (hfired : reminder ∈ firedAll table s due) :
    Entry reminder.id (Settled reminder) (fireAll table s due).scheduler.reminders := by
  induction due generalizing s with
  | nil => cases hfired
  | cons first rest ih =>
      obtain ⟨called, left, hcalled, hleft, -, hfiring, hturn⟩ :=
        firedAll_cons table hidle first rest
      rw [List.map_cons, List.nodup_cons] at hdue
      by_cases heq : reminder = first
      · subst heq
        have hsettled : Entry reminder.id (Settled reminder) left.reminders := by
          rw [hleft]
          exact entry_settle hopen (by rw [hcalled]; exact h)
        rcases hturn with ⟨-, hafter, -⟩ | ⟨-, hafter, -⟩
        · rw [hafter]
          exact hsettled
        · rw [hafter]
          refine entry_fireAll hfiring hsettled (prunable_settled reminder) fun r hr hid => ?_
          have hmem := List.mem_map_of_mem (f := Reminder.id)
            ((firedAll_sublist hfiring rest).subset hr)
          rw [hid] at hmem
          exact hdue.1 hmem
      · rcases hturn with ⟨hall, -⟩ | ⟨hall, hafter, -⟩
        · rw [hall] at hfired
          exact absurd (List.mem_singleton.mp hfired) heq
        · rw [hall] at hfired
          have hlater := (List.mem_cons.mp hfired).resolve_left heq
          have hne : first.id ≠ reminder.id := by
            intro hid
            have hmem := List.mem_map_of_mem (f := Reminder.id)
              ((firedAll_sublist hfiring rest).subset hlater)
            rw [← hid] at hmem
            exact hdue.1 hmem
          rw [hafter]
          refine ih hfiring ?_ hdue.2 hlater
          rw [hleft]
          exact entry_settle_ne (by rw [hcalled]; exact h) (prunable_eq hopen) hne

end Entry

/-! ## A round -/

/-- A fired reminder is completed, or its due date is a later one; a completed one may be pruned. -/
def Progressed (reminder : Reminder) (s : ReminderScheduler κ) : Prop :=
  ∀ r, Dict.get? s.reminders reminder.id = some r → r.completed = true ∨
    ∃ due later, reminder.dueAt = some due ∧ r.dueAt = some later ∧ due.instant < later.instant

/-- A reminder without repetition, or one with a next date. -/
def Advances (reminder : Reminder) : Prop :=
  isText reminder.repeats ["", "none"] = true ∨
    ∃ due, reminder.dueAt = some due ∧ Continues due reminder.repeats

/-- What holds of every scheduler that is reached. -/
structure Known (s : ReminderScheduler κ) : Prop where
  sound : Sound s
  keyed : Dict.KeyedBy Reminder.id s.reminders

section Round

variable {table} {s : ReminderScheduler κ} {now : DateTime} {id : String}

lemma sublist_of_dueAmong {reminders due : List Reminder} (h : dueAmong now reminders = .ok due) :
    List.Sublist due reminders ∧ ∀ r ∈ due, r.completed = false ∧ r.dueAt.isSome = true := by
  induction reminders generalizing due with
  | nil =>
      obtain rfl := Except.ok.inj h
      exact ⟨List.Sublist.refl _, fun r hr => absurd hr List.not_mem_nil⟩
  | cons first rest ih =>
      rw [dueAmong] at h
      cases hfirst : isDue now first with
      | error exception =>
          rw [hfirst] at h
          cases h
      | ok listed =>
          rw [hfirst] at h
          cases hrest : dueAmong now rest with
          | error exception =>
              rw [hrest] at h
              cases h
          | ok later =>
              rw [hrest] at h
              have h : (if listed then first :: later else later) = due := Except.ok.inj h
              subst h
              obtain ⟨hsub, hopen⟩ := ih hrest
              cases listed with
              | false => exact ⟨hsub.cons first, hopen⟩
              | true =>
                  refine ⟨hsub.cons_cons first, List.forall_mem_cons.mpr ⟨?_, hopen⟩⟩
                  unfold isDue at hfirst
                  split at hfirst
                  · cases hfirst
                  · rename_i hcompleted
                    refine ⟨Bool.eq_false_iff.mpr hcompleted, ?_⟩
                    cases hdue : first.dueAt with
                    | none =>
                        rw [hdue] at hfirst
                        cases hfirst
                    | some due => rfl

lemma nodup_of_dueAmong (h : Known s) {due : List Reminder}
    (hdue : s.getDueReminders now = .ok due) : (due.map Reminder.id).Nodup := by
  have hkeys : (s.reminders.map Prod.snd).map Reminder.id = Dict.keys s.reminders := by
    rw [List.map_map]
    exact List.map_congr_left fun kv hkv => h.keyed.keyed kv.1 kv.2 hkv
  have hids : ((s.reminders.map Prod.snd).map Reminder.id).Nodup := by
    rw [hkeys]
    exact h.keyed.nodup
  exact hids.sublist ((sublist_of_dueAmong hdue).1.map Reminder.id)

lemma nodup_firedBy (h : Known s) : ((firedBy table s now).map Reminder.id).Nodup := by
  unfold firedBy
  split
  · exact List.nodup_nil
  · rename_i due hdue
    exact (nodup_of_dueAmong h hdue).sublist ((firedAll_sublist h.sound.idle due).map Reminder.id)

lemma stored_of_fired (h : Known s) {reminder : Reminder}
    (hfired : reminder ∈ firedBy table s now) :
    Dict.get? s.reminders reminder.id = some reminder ∧ reminder.completed = false ∧
      reminder.dueAt.isSome = true := by
  unfold firedBy at hfired
  split at hfired
  · cases hfired
  · rename_i due hdue
    obtain ⟨hsub, hopen⟩ := sublist_of_dueAmong hdue
    have hmem := (firedAll_sublist h.sound.idle due).subset hfired
    obtain ⟨kv, hkv, rfl⟩ := List.mem_map.mp (hsub.subset hmem)
    exact ⟨h.keyed.get?_of_mem hkv, hopen kv.2 hmem⟩

lemma entry_checkDue {R : Option Reminder → Prop} (hidle : s.firing = [])
    (h : Entry id R s.reminders) (hprune : Prunable R)
    (hnot : ∀ r ∈ firedBy table s now, r.id ≠ id) :
    Entry id R (s.checkDue table now).scheduler.reminders := by
  unfold firedBy at hnot
  unfold checkDue
  split
  · exact h
  · rename_i due hdue
    rw [hdue] at hnot
    exact entry_fireAll hidle h hprune hnot

/-- A round settles what it fires. -/
theorem settled_checkDue (h : Known s) {reminder : Reminder}
    (hfired : reminder ∈ firedBy table s now) :
    Entry reminder.id (Settled reminder) (s.checkDue table now).scheduler.reminders := by
  obtain ⟨hstored, hopen, -⟩ := stored_of_fired h hfired
  unfold firedBy at hfired
  unfold checkDue
  split
  · rename_i exception hdue
    rw [hdue] at hfired
    cases hfired
  · rename_i due hdue
    rw [hdue] at hfired
    exact settled_fireAll h.sound.idle hopen ⟨h.keyed, hstored⟩ (nodup_of_dueAmong h hdue) hfired

lemma known_checkDue (h : Known s) (now : DateTime) : Known (s.checkDue table now).scheduler := by
  refine ⟨sound_checkDue table h.sound now, ?_⟩
  by_cases hfired : ∃ r, r ∈ firedBy table s now
  · obtain ⟨r, hr⟩ := hfired
    exact (settled_checkDue h hr).keyed
  · have hentry : Entry "" (fun _ => True) s.reminders := ⟨h.keyed, trivial⟩
    exact (entry_checkDue h.sound.idle hentry (fun _ _ _ => trivial)
      fun r hr => absurd ⟨r, hr⟩ hfired).keyed

lemma settled_continues {reminder r : Reminder} {due : DateTime}
    (h : Settled reminder (some r)) (hdue : reminder.dueAt = some due)
    (hcontinues : Continues due reminder.repeats) :
    r.completed = false ∧ r.repeats = reminder.repeats ∧ ∃ next, r.dueAt = some next ∧
      nextOccurrence due reminder.repeats = .ok (some next) := by
  obtain ⟨next, hnext⟩ := continues_iff.mp hcontinues
  have hrepeats : ¬ isText reminder.repeats ["", "none"] = true := by
    rcases nextOccurrence_cases hnext with ⟨heq, -⟩ | ⟨heq, -⟩ | ⟨heq, -⟩
    · rw [heq]
      decide
    · rw [heq]
      decide
    · rw [heq]
      decide
  rw [Settled, if_neg hrepeats] at h
  obtain ⟨found, hfound, hopen, hafter, hsame⟩ := h
  obtain rfl := Option.some.inj hfound
  refine ⟨hopen, hsame, next, ?_, hnext⟩
  rw [hafter, dueAfter, hdue, Option.map_some, hnext]

/-- A fired reminder gets on exactly if it is not repeated or has a next date. -/
lemma progressed_iff (h : Known s) {reminder : Reminder} (hfired : reminder ∈ firedBy table s now) :
    Progressed reminder (s.checkDue table now).scheduler ↔ Advances reminder := by
  have hsettled := (settled_checkDue h hfired).stored
  obtain ⟨-, -, hsome⟩ := stored_of_fired h hfired
  obtain ⟨due, hdue⟩ := Option.isSome_iff_exists.mp hsome
  constructor
  · intro hprogressed
    by_contra hadvances
    obtain ⟨hrepeats, hnever⟩ := not_or.mp hadvances
    rw [Settled, if_neg hrepeats] at hsettled
    obtain ⟨r, hr, hopen, hafter, -⟩ := hsettled
    have hstays : dueAfter reminder = some due := by
      rw [dueAfter, hdue, Option.map_some]
      split
      · rename_i next hnext
        exact absurd ⟨due, hdue, continues_iff.mpr ⟨next, hnext⟩⟩ hnever
      · rfl
    rcases hprogressed r hr with hcompleted | ⟨before, later, hbefore, hlater, hlt⟩
    · exact Bool.false_ne_true (hopen.symm.trans hcompleted)
    · obtain rfl := Option.some.inj (hdue.symm.trans hbefore)
      obtain rfl := Option.some.inj (hstays.symm.trans (hafter.symm.trans hlater))
      exact lt_irrefl _ hlt
  · rintro (honce | ⟨before, hbefore, hcontinues⟩) r hr
    · rw [Settled, if_pos honce] at hsettled
      exact .inl (hsettled r hr).1
    · rw [hr] at hsettled
      obtain ⟨-, -, next, hnext, hoccurrence⟩ := settled_continues hsettled hbefore hcontinues
      obtain ⟨hwall, hoffset⟩ := wall_lt_of_next hoccurrence
      refine .inr ⟨before, next, hbefore, hnext, ?_⟩
      rw [instant, instant, hoffset]
      omega

end Round

/-! ## Round after round -/

/-- The scheduler after rounds at these times. -/
def polled (s : ReminderScheduler κ) (times : ℕ → DateTime) : ℕ → ReminderScheduler κ
  | 0 => s
  | n + 1 => ((polled s times n).checkDue table (times n)).scheduler

section Polled

variable {table} {s : ReminderScheduler κ} {times : ℕ → DateTime} {id : String}

lemma known_polled (h : Known s) (n : ℕ) : Known (polled table s times n) := by
  induction n with
  | zero => exact h
  | succ n ih => exact known_checkDue ih (times n)

lemma exists_not_fired (h : Known s)
    (hadvances : ∀ n, ∀ r ∈ firedBy table (polled table s times n) (times n), r.id = id →
      Advances r) :
    ∃ n, ∀ r ∈ firedBy table (polled table s times n) (times n), r.id ≠ id := by
  by_contra hall
  push Not at hall
  have hlate : ∀ n, ∃ r due, Dict.get? (polled table s times n).reminders id = some r ∧
      r.dueAt = some due ∧ (n : ℤ) ≤ due.wall := by
    intro n
    induction n with
    | zero =>
        obtain ⟨r, hr, hid⟩ := hall 0
        obtain ⟨hstored, -, hsome⟩ := stored_of_fired (known_polled h 0) hr
        obtain ⟨due, hdue⟩ := Option.isSome_iff_exists.mp hsome
        exact ⟨r, due, hid ▸ hstored, hdue, due.inRange.1⟩
    | succ n ih =>
        obtain ⟨old, due, hold, hdue, hle⟩ := ih
        obtain ⟨r, hr, hid⟩ := hall n
        obtain ⟨hstored, -⟩ := stored_of_fired (known_polled h n) hr
        obtain rfl := Option.some.inj (hold.symm.trans (hid ▸ hstored))
        have hsettled := (settled_checkDue (known_polled h n) hr).stored
        rw [hid] at hsettled
        obtain ⟨next, hnext, hnextid⟩ := hall (n + 1)
        obtain ⟨hthere, hopen, -⟩ := stored_of_fired (known_polled h (n + 1)) hnext
        rw [hnextid] at hthere
        have hsettled : Settled old (some next) := by
          rw [← hthere]
          exact hsettled
        rcases hadvances n old hr hid with honce | ⟨before, hbefore, hcontinues⟩
        · -- it was completed, so the next round cannot have fired it
          rw [Settled, if_pos honce] at hsettled
          exact absurd (hopen.symm.trans (hsettled next rfl).1) Bool.false_ne_true
        · obtain rfl := Option.some.inj (hdue.symm.trans hbefore)
          obtain ⟨-, -, later, hlater, hoccurrence⟩ := settled_continues hsettled hdue hcontinues
          have hwall := (wall_lt_of_next hoccurrence).1
          exact ⟨next, later, hthere, hlater, by push_cast; omega⟩
  obtain ⟨-, due, -, -, hle⟩ := hlate maxWall.toNat
  have hend := due.inRange.2
  omega

end Polled

end ReminderScheduler

/-! ## Actions of the tool -/

/-- A property of a stored reminder that only its due date and its repetition matter for. -/
structure Lasting (R : Option Reminder → Prop) : Prop where
  none : R none
  keep : ∀ r r', R (some r) → r'.dueAt = r.dueAt → r'.repeats = r.repeats → R (some r')

namespace ReminderTool

open ReminderScheduler

variable {κ : Type} {table : ReminderTable κ} {s : ReminderScheduler κ} {id : String}
  {R : Option Reminder → Prop}

lemma entry_changed {ran : ReminderScheduler κ × Option String} (h : Entry id R ran.1.reminders)
    (data : Dict String Json) : Entry id R (changed ran data).scheduler.reminders := by
  unfold changed
  split <;> exact h

lemma entry_onOwned (h : Entry id R s.reminders) {value : Json} {arguments : Dict String Json}
    {act : Reminder → Acted κ} (hact : ∀ r, value = .str r.id →
      Dict.get? s.reminders r.id = some r → Entry id R (act r).scheduler.reminders) :
    Entry id R (onOwned table s value arguments act).scheduler.reminders := by
  unfold onOwned
  split
  · exact h
  · exact h
  · rename_i reminder howned
    cases value with
    | str key =>
        have hget := (Option.filter_eq_some_iff.mp (Except.ok.inj howned)).1
        have hkey := h.keyed.eq_of_get? hget
        exact hact reminder (by rw [hkey]) (by rw [hkey]; exact hget)
    | null | bool | int | float => cases (Except.ok.inj howned)
    | arr | obj => cases howned

lemma Lasting.sign (hR : Lasting R) {reminder : Reminder} (h : R (some reminder)) :
    R (some (sign table reminder)) :=
  hR.keep reminder _ h (sameKey_sign table reminder).2 (repeats_sign reminder)

lemma Lasting.prunable (hR : Lasting R) : Prunable R := fun _ _ _ => hR.none

lemma entry_saveAgain (h : Entry id R s.reminders) (hR : Lasting R) {reminder r : Reminder}
    (hstored : Dict.get? s.reminders reminder.id = some reminder) (hid : r.id = reminder.id)
    (hdue : r.dueAt = reminder.dueAt) (hrepeats : r.repeats = reminder.repeats) :
    Entry id R (saveReminder table s r).1.reminders := by
  refine entry_saveReminder h (Lasting.prunable hR) fun hkey => Lasting.sign hR ?_
  refine hR.keep reminder r ?_ hdue hrepeats
  rw [← hstored, ← hid, hkey]
  exact h.stored

lemma entry_addReminder (h : Entry id R s.reminders) {reminder : Reminder}
    (hnew : reminder.id = id → R (some (sign table reminder))) :
    Entry id R (addReminder table s reminder).1.reminders := by
  unfold addReminder
  split
  · exact h
  · exact entry_store h hnew

lemma entry_createReminder (h : Entry id R s.reminders) (now : DateTime) {new : String}
    (hnew : new ≠ id ∨ ∀ stored, R stored) (arguments : Dict String Json) :
    Entry id R (createReminder table s now new arguments).scheduler.reminders := by
  unfold createReminder
  dsimp only
  split
  · exact h
  · exact h
  · refine entry_changed (entry_addReminder h fun hid => ?_) _
    rcases hnew with hne | hall
    · exact absurd hid hne
    · exact hall _

lemma entry_updateReminder (h : Entry id R s.reminders) (hR : Lasting R)
    {arguments : Dict String Json} (hother : reminderId arguments ≠ .str id ∨ ∀ stored, R stored) :
    Entry id R (updateReminder table s arguments).scheduler.reminders := by
  refine entry_onOwned h fun reminder hvalue hstored => ?_
  have hnew : ∀ r : Reminder, r.id = reminder.id → r.id = id → R (some r) := by
    intro r hsame hid
    rcases hother with hne | hall
    · exact absurd (hvalue.trans (congrArg Json.str (hsame.symm.trans hid))) hne
    · exact hall _
  have htouched : Entry id R (Dict.set s.reminders (retitled reminder arguments).id
      (retitled reminder arguments)) := h.set (hnew _ rfl)
  dsimp only
  split
  · exact htouched
  · exact htouched
  · refine entry_changed (entry_saveReminder htouched (Lasting.prunable hR) fun hid => ?_) _
    exact hnew _ (id_sign _) ((id_sign _).trans hid)

lemma entry_snoozeReminder (h : Entry id R s.reminders) (hR : Lasting R) (now : DateTime)
    (arguments : Dict String Json) :
    Entry id R (snoozeReminder table s now arguments).scheduler.reminders := by
  refine entry_onOwned h fun reminder _ hstored => ?_
  split
  · exact h
  · refine entry_changed ?_ _
    exact entry_saveAgain h hR hstored rfl rfl rfl

/-- An action that neither creates nor updates the reminder leaves when it is due and how it is
repeated. -/
lemma entry_run (h : Entry id R s.reminders) (hR : Lasting R) (now : DateTime) (new : String)
    (arguments : Dict String Json)
    (hcreate : isText ((Dict.get? arguments "action").getD (.str "list")) ["create"] = true →
      new ≠ id ∨ ∀ stored, R stored)
    (hupdate : isText ((Dict.get? arguments "action").getD (.str "list")) ["update"] = true →
      reminderId arguments ≠ .str id ∨ ∀ stored, R stored) :
    Entry id R (run table s now new arguments).scheduler.reminders := by
  unfold run
  dsimp only
  split
  · rename_i haction
    exact entry_createReminder h now (hcreate haction) arguments
  · split
    · split <;> exact h
    · split
      · unfold cancelReminder
        dsimp only
        split
        · exact h
        · refine entry_onOwned h fun reminder _ _ => entry_changed ?_ _
          exact entry_removeReminder h fun _ => hR.none
      · split
        · rename_i haction
          exact entry_updateReminder h hR (hupdate haction)
        · split
          · exact entry_snoozeReminder h hR now arguments
          · split
            · refine entry_onOwned h fun reminder _ hstored => entry_changed ?_ _
              exact entry_saveAgain h hR hstored rfl rfl rfl
            · exact h

end ReminderTool

/-! ## Runs -/

namespace ReminderMove

open ReminderScheduler ReminderTool

variable {κ : Type} (table : ReminderTable κ)

/-- A move that neither creates a reminder with the id nor updates it. -/
def Leaves (id : String) : ReminderMove → Prop
  | act _ new arguments =>
      (isText ((Dict.get? arguments "action").getD (.str "list")) ["create"] = true → new ≠ id) ∧
        (isText ((Dict.get? arguments "action").getD (.str "list")) ["update"] = true →
          reminderId arguments ≠ .str id)
  | _ => True

/-- The reminders that a move fires. -/
def firedOf (s : ReminderScheduler κ) : ReminderMove → List Reminder
  | checkDue now => firedBy table s now
  | _ => []

/-- The firings of a reminder in a run. -/
def firingsOf (id : String) : ReminderScheduler κ → List ReminderMove → List Reminder
  | _, [] => []
  | s, move :: moves =>
      match step table s move with
      | none => []
      | some t => (firedOf table s move).filter (fun r => r.id = id) ++ firingsOf id t moves

section Runs

variable {table} {s t : ReminderScheduler κ} {id : String} {R : Option Reminder → Prop}

/-- A move that leaves the reminder and does not fire it. -/
lemma entry_step {move : ReminderMove} (hidle : s.firing = []) (h : Entry id R s.reminders)
    (hR : Lasting R) (hleaves : Leaves id move ∨ ∀ stored, R stored)
    (hnot : ∀ r ∈ firedOf table s move, r.id ≠ id)
    (hstep : (machine table).step s move = some t) : Entry id R t.reminders := by
  cases move with
  | act now new arguments =>
      simp only [machine, step] at hstep
      split at hstep
      · obtain rfl := Option.some.inj hstep
        refine entry_run h hR now new arguments (fun haction => ?_) fun haction => ?_
        · exact hleaves.imp_left fun hleft => hleft.1 haction
        · exact hleaves.imp_left fun hleft => hleft.2 haction
      · cases hstep
  | checkDue now =>
      simp only [machine, step] at hstep
      split at hstep
      · obtain rfl := Option.some.inj hstep
        exact entry_checkDue hidle h (Lasting.prunable hR) hnot
      · cases hstep
  | register callback =>
      obtain rfl := Option.some.inj hstep
      exact h

lemma known_step {move : ReminderMove} (h : Known s)
    (hstep : (machine table).step s move = some t) : Known t := by
  cases move with
  | checkDue now =>
      simp only [machine, step] at hstep
      split at hstep
      · obtain rfl := Option.some.inj hstep
        exact known_checkDue h now
      · cases hstep
  | act now new arguments =>
      have hentry : Entry "" (fun _ => True) s.reminders := ⟨h.keyed, trivial⟩
      have hlasting : Lasting fun _ => True := ⟨trivial, fun _ _ _ _ _ => trivial⟩
      refine ⟨sound_step table h.sound hstep, (entry_step h.sound.idle hentry hlasting
        (.inr fun _ => trivial) (fun r hr => ?_) hstep).keyed⟩
      cases hr
  | register callback =>
      obtain rfl := Option.some.inj hstep
      exact ⟨⟨h.sound.idle, h.sound.snoozed⟩, h.keyed⟩

lemma known_run {keepCompleted : Option ℤ} {world : κ} {moves : List ReminderMove}
    (hrun : (machine table).run { keepCompleted := keepCompleted, world := world } moves = some s) :
    Known s := by
  have hinit : Known ({ keepCompleted := keepCompleted, world := world } : ReminderScheduler κ) :=
    ⟨⟨rfl, fun kv hkv => absurd hkv List.not_mem_nil⟩, Dict.KeyedBy.nil⟩
  exact (machine table).run_invariant (fun _ _ _ h hstep => known_step h hstep) hinit hrun

/-- What is stored under an id is due where `n` repetitions have led. -/
def DueAfter (repeats : Json) (first : DateTime) (n : ℕ) (stored : Option Reminder) : Prop :=
  ∀ r, stored = some r → r.repeats = repeats ∧ ∃ due, r.dueAt = some due ∧
    Reached repeats first n due

variable {repeats : Json} {first : DateTime} {n : ℕ}

lemma lasting_dueAfter : Lasting (DueAfter repeats first n) where
  none r hr := by cases hr
  keep r r' h hdue hrepeats := by
    intro found hfound
    obtain rfl := Option.some.inj hfound
    obtain ⟨hsame, due, hold, hreached⟩ := h r rfl
    exact ⟨hrepeats.trans hsame, due, hdue.trans hold, hreached⟩

lemma not_recurrent (h : isText repeats ["", "none"] = true) :
    isText repeats ["daily"] ≠ true ∧ isText repeats ["weekly"] ≠ true ∧
      isText repeats ["monthly"] ≠ true := by
  refine ⟨fun heq => ?_, fun heq => ?_, fun heq => ?_⟩
  · rw [isText_singleton.mp heq] at h
    exact absurd h (by decide)
  · rw [isText_singleton.mp heq] at h
    exact absurd h (by decide)
  · rw [isText_singleton.mp heq] at h
    exact absurd h (by decide)

lemma dueAfter_fired {now : DateTime} {reminder : Reminder} (h : Known s)
    (hfired : reminder ∈ firedBy table s now)
    (hdue : DueAfter repeats first n (some reminder)) (hadvances : Advances reminder) :
    Entry reminder.id (DueAfter repeats first (n + 1))
      (s.checkDue table now).scheduler.reminders := by
  have hsettled := settled_checkDue h hfired
  refine ⟨hsettled.keyed, fun r hr => ?_⟩
  obtain ⟨hrepeats, due, hold, hreached⟩ := hdue reminder rfl
  have hsettled := hsettled.stored
  rcases hadvances with honce | ⟨before, hbefore, hcontinues⟩
  · rw [Settled, if_pos honce] at hsettled
    obtain ⟨-, hafter, hsame⟩ := hsettled r hr
    refine ⟨hsame.trans hrepeats, due, hafter.trans hold, ?_⟩
    rw [hrepeats] at honce
    obtain ⟨hdaily, hweekly, hmonthly⟩ := not_recurrent honce
    exact ⟨fun heq => absurd heq hdaily, fun heq => absurd heq hweekly,
      fun heq => absurd heq hmonthly⟩
  · obtain rfl := Option.some.inj (hold.symm.trans hbefore)
    rw [hr] at hsettled
    obtain ⟨-, hsame, next, hnext, hoccurrence⟩ := settled_continues hsettled hold hcontinues
    rw [hrepeats] at hoccurrence
    exact ⟨hsame.trans hrepeats, next, hnext, reached_succ hreached hoccurrence⟩

lemma filter_of_mem {l : List Reminder} (hnodup : (l.map Reminder.id).Nodup) {r : Reminder}
    (hr : r ∈ l) : l.filter (fun x => x.id = r.id) = [r] := by
  induction l with
  | nil => cases hr
  | cons x l ih =>
      rw [List.map_cons, List.nodup_cons] at hnodup
      rcases List.mem_cons.mp hr with rfl | hrest
      · rw [List.filter_cons_of_pos (by simp)]
        congr 1
        refine List.filter_eq_nil_iff.mpr fun y hy hid => hnodup.1 ?_
        rw [← of_decide_eq_true hid]
        exact List.mem_map_of_mem hy
      · rw [List.filter_cons_of_neg, ih hnodup.2 hrest]
        intro hid
        refine hnodup.1 ?_
        rw [of_decide_eq_true hid]
        exact List.mem_map_of_mem hrest

/-- After moves that leave the reminder, it is due where its firings have led. -/
lemma dueAfter_run {moves : List ReminderMove} (h : Known s)
    (hentry : Entry id (DueAfter repeats first n) s.reminders)
    (hleaves : ∀ move ∈ moves, Leaves id move)
    (hadvances : ∀ r ∈ firingsOf table id s moves, Advances r)
    (hrun : (machine table).run s moves = some t) :
    Entry id (DueAfter repeats first (n + (firingsOf table id s moves).length)) t.reminders := by
  induction moves generalizing s n with
  | nil =>
      obtain rfl := Option.some.inj hrun
      exact hentry
  | cons move moves ih =>
      obtain ⟨middle, hstep, hrest⟩ := (machine table).run_cons_eq_some.mp hrun
      have hknown := known_step h hstep
      have hmove := hleaves move List.mem_cons_self
      have hmoves := fun m hm => hleaves m (List.mem_cons_of_mem move hm)
      have hfirings : firingsOf table id s (move :: moves) =
          (firedOf table s move).filter (fun r => r.id = id) ++
            firingsOf table id middle moves := by
        have hmiddle : step table s move = some middle := hstep
        rw [firingsOf, hmiddle]
      rw [hfirings] at hadvances ⊢
      have hlater := fun r hr => hadvances r (List.mem_append_right _ hr)
      by_cases hfired : ∃ r ∈ firedOf table s move, r.id = id
      · obtain ⟨r, hr, rfl⟩ := hfired
        cases move with
        | act now new arguments => cases hr
        | register callback => cases hr
        | checkDue now =>
            simp only [machine, step] at hstep
            split at hstep
            · obtain rfl := Option.some.inj hstep
              have honce := filter_of_mem (nodup_firedBy h) hr
              have hstored := hentry.stored
              rw [(stored_of_fired h hr).1] at hstored
              have hadvance : Advances r := hadvances r (List.mem_append_left _ (by
                rw [firedOf, honce]
                exact List.mem_singleton_self r))
              have hnext := ih hknown (dueAfter_fired h hr hstored hadvance) hmoves hlater hrest
              rw [firedOf, honce, List.length_append, List.length_singleton, ← Nat.add_assoc]
              exact hnext
            · cases hstep
      · push Not at hfired
        have hnone : (firedOf table s move).filter (fun r => r.id = id) = [] :=
          List.filter_eq_nil_iff.mpr fun r hr hid => hfired r hr (of_decide_eq_true hid)
        rw [hnone]
        exact ih hknown (entry_step h.sound.idle hentry lasting_dueAfter (.inl hmove) hfired hstep)
          hmoves hlater hrest

end Runs

/-- Whatever calls of the tool, callbacks and rounds have come before.  A reminder that a round
fires is completed or due later exactly if it is not repeated or has a next date.  Where that is so
whenever it is fired, it is not fired by every round for ever.  And after any moves that neither
create nor update it, with `n` firings of that kind, it is due on its `n`-th occurrence exactly if,
where it is a monthly one, no month before was too short for the day. -/
theorem reminder_recurrence {keepCompleted : Option ℤ} {world : κ} {moves : List ReminderMove}
    {s : ReminderScheduler κ}
    (hrun : (machine table).run { keepCompleted := keepCompleted, world := world } moves = some s) :
    (∀ now, ∀ r ∈ firedBy table s now,
      (Progressed r (s.checkDue table now).scheduler ↔ Advances r)) ∧
    (∀ (times : ℕ → DateTime) (id : String),
      (∀ n, ∀ r ∈ firedBy table (polled table s times n) (times n), r.id = id → Advances r) →
      ∃ n, ∀ r ∈ firedBy table (polled table s times n) (times n), r.id ≠ id) ∧
    ∀ (r : Reminder) (first : DateTime) (later : List ReminderMove) (t : ReminderScheduler κ)
      (r' : Reminder),
      Dict.get? s.reminders r.id = some r → r.dueAt = some first →
      (∀ move ∈ later, Leaves r.id move) → (machine table).run s later = some t →
      Dict.get? t.reminders r.id = some r' →
      (∀ x ∈ firingsOf table r.id s later, Advances x) →
      ((∃ due, r'.dueAt = some due ∧
          IsOccurrence r.repeats first (firingsOf table r.id s later).length due) ↔
        (isText r.repeats ["monthly"] = true →
          Unclamped first (firingsOf table r.id s later).length)) := by
  have hknown := known_run hrun
  refine ⟨fun now r hr => progressed_iff hknown hr,
    fun times id hadvances => exists_not_fired hknown hadvances, ?_⟩
  intro r first later t r' hstored hdue hleaves hlater hstored' hadvances
  have hentry : Entry r.id (DueAfter r.repeats first 0) s.reminders := by
    refine ⟨hknown.keyed, fun found hfound => ?_⟩
    obtain rfl := Option.some.inj (hstored.symm.trans hfound)
    exact ⟨rfl, first, hdue, reached_zero⟩
  have hafter := (dueAfter_run hknown hentry hleaves hadvances hlater).stored
  rw [Nat.zero_add] at hafter
  obtain ⟨-, due, hold, hreached⟩ := hafter r' hstored'
  rw [← isOccurrence_iff hreached]
  constructor
  · rintro ⟨found, hfound, hoccurrence⟩
    obtain rfl := Option.some.inj (hold.symm.trans hfound)
    exact hoccurrence
  · intro hoccurrence
    exact ⟨due, hold, hoccurrence⟩

/-! ### A reminder for the last day of January -/

/-- Nine o'clock on a day of 2024. -/
def dayOf2024 (day : ℕ) (h : day < 366) : DateTime :=
  ⟨(738885 + day) * dayMicros + 9 * 3600000000, some 0, by
    unfold maxWall dayMicros
    omega⟩

/-- A table that takes every write, and the text of the first date. -/
def januaryTable : ReminderTable Unit where
  put _ _ _ := ((), none)
  delete _ _ := ((), none)
  fromIsoFormat text :=
    if text = "2024-01-31T09:00:00+00:00" then some (dayOf2024 30 (by decide)) else none
  minutes _ := .error "unsupported type for timedelta minutes component"
  textOfContainer _ := ""

/-- A reminder for the last day of January is created. -/
def createJanuary (id repeats : String) : ReminderMove :=
  .act (dayOf2024 0 (by decide)) id [("action", .str "create"), ("title", .str id),
    ("due_at", .str "2024-01-31T09:00:00+00:00"), ("repeat", .str repeats)]

/-- The scheduler after some moves. -/
def januaryAfter (moves : List ReminderMove) : ReminderScheduler Unit :=
  ((machine januaryTable).run { world := () } moves).getD { world := () }

lemma run_januaryAfter (moves : List ReminderMove)
    (h : ((machine januaryTable).run { world := () } moves).isSome = true) :
    (machine januaryTable).run { world := () } moves = some (januaryAfter moves) :=
  some_getD h _

/-- What is stored under an id. -/
def januaryStored (moves : List ReminderMove) (id : String) : Reminder :=
  (Dict.get? (januaryAfter moves).reminders id).getD default

/-- The last day of March. -/
def endOfMarch : DateTime := dayOf2024 90 (by decide)

example : endOfMarch.date = (2024, 3, 31) := by decide +kernel

/-- One round moves the monthly reminder to the last day of February. -/
theorem reminder_recurrence_sample :
    (∀ r ∈ firedBy januaryTable (januaryAfter [createJanuary "a" "monthly"]) endOfMarch,
      Progressed r ((januaryAfter [createJanuary "a" "monthly"]).checkDue januaryTable
        endOfMarch).scheduler) ∧
    ∃ due, (januaryStored [createJanuary "a" "monthly", .checkDue endOfMarch] "a").dueAt =
        some due ∧
      IsOccurrence (.str "monthly") (dayOf2024 30 (by decide)) 1 due := by
  have hrecurs := reminder_recurrence januaryTable
    (run_januaryAfter [createJanuary "a" "monthly"] (by decide +kernel))
  have hadvances : ∀ r : Reminder, isText r.repeats ["monthly"] = true →
      r.dueAt = some (dayOf2024 30 (by decide)) → Advances r := fun r hrepeats hdue =>
    .inr ⟨_, hdue, .inr (.inr ⟨hrepeats, .inl (by decide +kernel)⟩)⟩
  have hfired : ∀ r ∈ firedBy januaryTable (januaryAfter [createJanuary "a" "monthly"]) endOfMarch,
      isText r.repeats ["monthly"] = true ∧ r.dueAt = some (dayOf2024 30 (by decide)) := by
    decide +kernel
  have hfirings : ∀ r ∈ firingsOf januaryTable "a" (januaryAfter [createJanuary "a" "monthly"])
      [.checkDue endOfMarch],
      isText r.repeats ["monthly"] = true ∧ r.dueAt = some (dayOf2024 30 (by decide)) := by
    decide +kernel
  refine ⟨fun r hr => (hrecurs.1 endOfMarch r hr).mpr (hadvances r (hfired r hr).1 (hfired r hr).2),
    ?_⟩
  refine (hrecurs.2.2 (januaryStored [createJanuary "a" "monthly"] "a")
    (dayOf2024 30 (by decide)) [.checkDue endOfMarch]
    (januaryAfter [createJanuary "a" "monthly", .checkDue endOfMarch])
    (januaryStored [createJanuary "a" "monthly", .checkDue endOfMarch] "a")
    rfl (by decide +kernel) (List.forall_mem_singleton.mpr trivial) rfl rfl
    fun x hx => hadvances x (hfirings x hx).1 (hfirings x hx).2).mpr fun _ => ?_
  intro k hk
  obtain rfl := Nat.lt_one_iff.mp hk
  decide +kernel

/-- A yearly reminder is accepted, fired, and stays due; and the monthly one is on the 29th of March
after its second firing. -/
theorem reminder_recurrence_fails :
    (∃ r ∈ firedBy januaryTable (januaryAfter [createJanuary "a" "yearly"]) endOfMarch,
      ¬ Progressed r ((januaryAfter [createJanuary "a" "yearly"]).checkDue januaryTable
        endOfMarch).scheduler) ∧
    (januaryStored [createJanuary "a" "monthly", .checkDue endOfMarch, .checkDue endOfMarch]
      "a").dueAt = some (dayOf2024 88 (by decide)) ∧
    (firingsOf januaryTable "a" (januaryAfter [createJanuary "a" "monthly"])
      [.checkDue endOfMarch, .checkDue endOfMarch]).length = 2 ∧
    ¬ IsOccurrence (.str "monthly") (dayOf2024 30 (by decide)) 2 (dayOf2024 88 (by decide)) := by
  refine ⟨⟨januaryStored [createJanuary "a" "yearly"] "a", ?_, ?_⟩, by decide +kernel,
    by decide +kernel, ?_⟩
  · exact List.mem_cons_self
  · have hknown := known_run (run_januaryAfter [createJanuary "a" "yearly"]
      (by decide +kernel))
    refine (progressed_iff hknown List.mem_cons_self).not.mpr ?_
    rintro (h | ⟨due, -, ⟨h, -⟩ | ⟨h, -⟩ | ⟨h, -⟩⟩)
    · exact absurd h (by decide +kernel)
    · exact absurd h (by decide +kernel)
    · exact absurd h (by decide +kernel)
    · exact absurd h (by decide +kernel)
  · intro h
    exact absurd (h.2.2 rfl).2.1 (by decide +kernel)

end ReminderMove

end Samaktha
