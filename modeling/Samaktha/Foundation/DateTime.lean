import Mathlib.Tactic.Common
import Mathlib.Data.String.Basic
import Mathlib.Data.Nat.Digits.Defs

/-!
# Dates of the proleptic Gregorian calendar

Python's `datetime` with a fixed UTC offset or none: the comparison that refuses to mix the two,
the addition of a duration, and the calendar date behind a wall clock.  A value carries the proof
that it lies within the years 1 to 9999, so what would leave them is an error of the operation.

Nothing here mentions the program being verified.
-/

namespace Samaktha

def dayMicros : ℤ := 86400000000

/-- The microseconds from the first of January of year 1 to the end of year 9999. -/
def maxWall : ℤ := 3652059 * dayMicros

/-- A `datetime`: the microseconds on its wall clock since the first of January of year 1, and the
microseconds of its UTC offset where it has a time zone. -/
structure DateTime where
  wall : ℤ
  offset : Option ℤ := none
  inRange : 0 ≤ wall ∧ wall < maxWall
  deriving DecidableEq

instance : Inhabited DateTime := ⟨⟨0, none, by decide⟩⟩

namespace DateTime

/-- Whether the value has a time zone. -/
def aware (d : DateTime) : Bool := d.offset.isSome

/-- The microseconds of the instant in UTC; the wall clock of a value without a time zone. -/
def instant (d : DateTime) : ℤ := d.wall - d.offset.getD 0

/-- `a <= b`, or the text of the `TypeError`. -/
def le? (a b : DateTime) : Except String Bool :=
  if a.aware = b.aware then .ok (a.instant ≤ b.instant)
  else .error "can't compare offset-naive and offset-aware datetimes"

lemma le?_of_aware {a b : DateTime} (ha : a.aware = true) (hb : b.aware = true) :
    a.le? b = .ok (a.instant ≤ b.instant) := by
  rw [le?, if_pos (ha.trans hb.symm)]

lemma le?_of_naive {a b : DateTime} (ha : a.aware = false) (hb : b.aware = true) :
    a.le? b = .error "can't compare offset-naive and offset-aware datetimes" := by
  rw [le?, if_neg (by rw [ha, hb]; exact Bool.false_ne_true)]

/-- `d + timedelta(microseconds=micros)`, or the text of the `OverflowError`. -/
def add (d : DateTime) (micros : ℤ) : Except String DateTime :=
  if h : 0 ≤ d.wall + micros ∧ d.wall + micros < maxWall then
    .ok { wall := d.wall + micros, offset := d.offset, inRange := h }
  else .error "date value out of range"

lemma aware_of_add {d e : DateTime} {micros : ℤ} (h : d.add micros = .ok e) :
    e.aware = d.aware := by
  unfold add at h
  split at h
  · rw [← Except.ok.inj h]
    rfl
  · cases h

/-! ## The calendar -/

/-- Whether a year is a leap year. -/
def isLeap (year : ℕ) : Bool := year % 4 = 0 && (year % 100 ≠ 0 || year % 400 = 0)

/-- The days of a month, `calendar.monthrange(year, month)[1]`. -/
def daysInMonth (year month : ℕ) : ℕ :=
  if month = 2 then (if isLeap year then 29 else 28)
  else if month = 4 ∨ month = 6 ∨ month = 9 ∨ month = 11 then 30
  else 31

def daysBeforeMonth (year month : ℕ) : ℕ :=
  ((List.range (month - 1)).map fun m => daysInMonth year (m + 1)).sum

def daysBeforeYear (year : ℕ) : ℕ :=
  let y := year - 1
  y * 365 + y / 4 - y / 100 + y / 400

/-- The month and the day of a year behind its first `n` days, looking from a month on. -/
def monthAndDay (year n : ℕ) : ℕ → ℕ → ℕ × ℕ
  | 0, month => (month, n - daysBeforeMonth year month + 1)
  | fuel + 1, month =>
      if n < daysBeforeMonth year (month + 1) then (month, n - daysBeforeMonth year month + 1)
      else monthAndDay year n fuel (month + 1)

/-- The year, month and day behind the first `n` days of the calendar. -/
def ofDays (n : ℕ) : ℕ × ℕ × ℕ :=
  let n400 := n / 146097
  let r400 := n % 146097
  let n100 := r400 / 36524
  let r100 := r400 % 36524
  let n4 := r100 / 1461
  let r4 := r100 % 1461
  let n1 := r4 / 365
  let year := n400 * 400 + n100 * 100 + n4 * 4 + n1 + 1
  if n1 = 4 ∨ n100 = 4 then (year - 1, 12, 31)
  else
    let date := monthAndDay year (r4 % 365) 11 1
    (year, date.1, date.2)

/-- The year, the month and the day of a value. -/
def date (d : DateTime) : ℕ × ℕ × ℕ := ofDays (d.wall / dayMicros).toNat

/-- `d.replace(year=year, month=month, day=day)`, or the text of the `ValueError`. -/
def replaceDate (d : DateTime) (year month day : ℕ) : Except String DateTime :=
  let days := daysBeforeYear year + daysBeforeMonth year month + (day - 1)
  let wall : ℤ := days * dayMicros + d.wall % dayMicros
  if h : year ≤ 9999 ∧ 0 ≤ wall ∧ wall < maxWall then
    .ok { wall := wall, offset := d.offset, inRange := h.2 }
  else .error ("year " ++ toString year ++ " is out of range")

example : ofDays 738885 = (2024, 1, 1) := by decide

example : ofDays 738944 = (2024, 2, 29) := by decide

/-! ## Text -/

/-- The decimal digits of a number, with zeros in front up to a width. -/
def padded (width n : ℕ) : String :=
  let digits := toString n
  String.ofList (List.replicate (width - digits.length) '0') ++ digits

/-- Hours, minutes and, where there are some or `full`, seconds, with the microseconds where there
are some. -/
def clock (micros : ℕ) (full : Bool) : String :=
  let seconds := micros / 1000000
  let fraction := micros % 1000000
  padded 2 (seconds / 3600) ++ ":" ++ padded 2 (seconds / 60 % 60) ++
    (if full || seconds % 60 ≠ 0 || fraction ≠ 0 then ":" ++ padded 2 (seconds % 60) else "") ++
    (if fraction ≠ 0 then "." ++ padded 6 fraction else "")

/-- `d.isoformat()`. -/
def isoformat (d : DateTime) : String :=
  let date := d.date
  padded 4 date.1 ++ "-" ++ padded 2 date.2.1 ++ "-" ++ padded 2 date.2.2 ++ "T" ++
    clock (d.wall % dayMicros).toNat true ++
    match d.offset with
    | none => ""
    | some offset => (if 0 ≤ offset then "+" else "-") ++ clock offset.natAbs false

end DateTime

end Samaktha
