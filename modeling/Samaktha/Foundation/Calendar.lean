import Samaktha.Foundation.DateTime

/-!
# The calendar and its days

`DateTime.ofDays` and the count of the days before a date are inverse (`ordinal_ofDays`,
`ofDays_ordinal`), and later months come later (`ordinal_lt`).  Months are counted through the
years, so that the month after a month has the next number.

Nothing here mentions the program being verified.
-/

namespace Samaktha

namespace DateTime

/-- The days before a date. -/
def ordinal (date : ℕ × ℕ × ℕ) : ℕ :=
  daysBeforeYear date.1 + daysBeforeMonth date.1 date.2.1 + (date.2.2 - 1)

structure IsDate (date : ℕ × ℕ × ℕ) : Prop where
  year : 1 ≤ date.1
  month : 1 ≤ date.2.1 ∧ date.2.1 ≤ 12
  day : 1 ≤ date.2.2 ∧ date.2.2 ≤ daysInMonth date.1 date.2.1

/-! ## Days of a year -/

def daysInYear (year : ℕ) : ℕ := if isLeap year then 366 else 365

lemma isLeap_iff (year : ℕ) :
    isLeap year = true ↔ year % 4 = 0 ∧ (year % 100 ≠ 0 ∨ year % 400 = 0) := by
  simp [isLeap]

lemma daysBeforeMonth_succ (year : ℕ) {month : ℕ} (h : 1 ≤ month) :
    daysBeforeMonth year (month + 1) = daysBeforeMonth year month + daysInMonth year month := by
  obtain ⟨m, rfl⟩ := Nat.exists_eq_add_of_le' h
  rw [daysBeforeMonth, daysBeforeMonth, Nat.add_sub_cancel, Nat.add_sub_cancel, List.range_succ,
    List.map_append, List.sum_append]
  simp

lemma daysBeforeMonth_thirteen (year : ℕ) : daysBeforeMonth year 13 = daysInYear year := by
  cases h : isLeap year <;> simp [daysBeforeMonth, daysInMonth, daysInYear, List.range_succ, h]

lemma daysBeforeMonth_mono (year m m' : ℕ) (h : 1 ≤ m) (hle : m ≤ m') :
    daysBeforeMonth year m ≤ daysBeforeMonth year m' := by
  induction m', hle using Nat.le_induction with
  | base => exact le_rfl
  | succ m' hm ih =>
      rw [daysBeforeMonth_succ year (h.trans hm)]
      omega

lemma le_daysInMonth (year month : ℕ) : 28 ≤ daysInMonth year month := by
  unfold daysInMonth
  split
  · split <;> omega
  · split <;> omega

lemma daysBeforeYear_eq (y : ℕ) :
    daysBeforeYear (y + 1) = y * 365 + y / 4 - y / 100 + y / 400 := rfl

lemma daysBeforeYear_succ {year : ℕ} (h : 1 ≤ year) :
    daysBeforeYear (year + 1) = daysBeforeYear year + daysInYear year := by
  obtain ⟨y, rfl⟩ := Nat.exists_eq_add_of_le' h
  have hleap := isLeap_iff (y + 1)
  have h4 := Nat.succ_div (a := y) (b := 4)
  have h100 := Nat.succ_div (a := y) (b := 100)
  have h400 := Nat.succ_div (a := y) (b := 400)
  rw [daysBeforeYear_eq, daysBeforeYear_eq, daysInYear]
  simp only [Nat.dvd_iff_mod_eq_zero] at h4 h100 h400
  have hmod : (y + 1) % 400 % 100 = (y + 1) % 100 ∧ (y + 1) % 100 % 4 = (y + 1) % 4 :=
    ⟨Nat.mod_mod_of_dvd _ (by decide), Nat.mod_mod_of_dvd _ (by decide)⟩
  split
  · rename_i hset
    have hdivides := hleap.mp hset
    split_ifs at h4 h100 h400 <;> omega
  · rename_i hset
    have hdivides : ¬ ((y + 1) % 4 = 0 ∧ ((y + 1) % 100 ≠ 0 ∨ (y + 1) % 400 = 0)) :=
      fun h => hset (hleap.mpr h)
    split_ifs at h4 h100 h400 <;> omega

lemma daysBeforeYear_mono (y y' : ℕ) (h : 1 ≤ y) (hle : y ≤ y') :
    daysBeforeYear y ≤ daysBeforeYear y' := by
  induction y', hle using Nat.le_induction with
  | base => exact le_rfl
  | succ y' hy ih =>
      rw [daysBeforeYear_succ (h.trans hy)]
      omega

/-! ## The month and the day of a year -/

/-- From a month that begins early enough the search stops at the month of the day. -/
lemma monthAndDay_spec (year n fuel : ℕ) {month : ℕ} (hmonth : 1 ≤ month)
    (hlow : daysBeforeMonth year month ≤ n)
    (hhigh : n < daysBeforeMonth year (month + fuel + 1)) :
    month ≤ (monthAndDay year n fuel month).1 ∧
      (monthAndDay year n fuel month).1 ≤ month + fuel ∧
      1 ≤ (monthAndDay year n fuel month).2 ∧
      (monthAndDay year n fuel month).2 ≤ daysInMonth year (monthAndDay year n fuel month).1 ∧
      daysBeforeMonth year (monthAndDay year n fuel month).1 +
        ((monthAndDay year n fuel month).2 - 1) = n := by
  induction fuel generalizing month with
  | zero =>
      have hsucc := daysBeforeMonth_succ year hmonth
      simp only [monthAndDay, Nat.add_zero] at hhigh ⊢
      omega
  | succ fuel ih =>
      rw [monthAndDay]
      split
      · rename_i hin
        have hsucc := daysBeforeMonth_succ year hmonth
        simp only
        omega
      · rename_i hout
        have hnext : month + 1 + fuel + 1 = month + (fuel + 1) + 1 := by omega
        have hspec := ih (Nat.le_add_left 1 month) (Nat.le_of_not_lt hout) (by rwa [hnext])
        omega

/-! ## Years -/

lemma ordinal_last (year : ℕ) (h : 1 ≤ year) :
    IsDate (year, 12, 31) ∧ ordinal (year, 12, 31) + 1 = daysBeforeYear (year + 1) := by
  have hdecember : daysInMonth year 12 = 31 := rfl
  have hmonth := daysBeforeMonth_succ year (show 1 ≤ 12 by decide)
  rw [daysBeforeMonth_thirteen] at hmonth
  refine ⟨⟨h, ⟨by simp, le_rfl⟩, ⟨by simp, hdecember.ge⟩⟩, ?_⟩
  rw [daysBeforeYear_succ h, hmonth, hdecember, ordinal]
  simp only
  omega

lemma ordinal_within (year : ℕ) {r : ℕ} (h : 1 ≤ year) (hr : r < 365) :
    IsDate (year, monthAndDay year r 11 1) ∧
      ordinal (year, monthAndDay year r 11 1) = daysBeforeYear year + r := by
  have hlength : 365 ≤ daysInYear year := by
    unfold daysInYear
    split <;> omega
  have hinside : r < daysBeforeMonth year (1 + 11 + 1) := by
    rw [daysBeforeMonth_thirteen]
    omega
  obtain ⟨hfirst, hlast, hone, hday, hdays⟩ :=
    monthAndDay_spec year r 11 le_rfl (Nat.zero_le _) hinside
  refine ⟨⟨h, ⟨hfirst, hlast⟩, ⟨hone, hday⟩⟩, ?_⟩
  rw [ordinal]
  simp only
  omega

lemma exists_periods (n : ℕ) : ∃ a b c e r,
    n = a * 146097 + b * 36524 + c * 1461 + e * 365 + r ∧
    ofDays n = (if e = 4 ∨ b = 4 then (a * 400 + b * 100 + c * 4 + e, 12, 31)
      else (a * 400 + b * 100 + c * 4 + e + 1,
        monthAndDay (a * 400 + b * 100 + c * 4 + e + 1) r 11 1)) ∧
    b * 36524 + c * 1461 + e * 365 + r < 146097 ∧ c * 1461 + e * 365 + r < 36524 ∧
    e * 365 + r < 1461 ∧ r < 365 :=
  ⟨n / 146097, n % 146097 / 36524, n % 146097 % 36524 / 1461,
    n % 146097 % 36524 % 1461 / 365, n % 146097 % 36524 % 1461 % 365, by omega, rfl, by omega,
    by omega, by omega, by omega⟩

lemma daysBeforeYear_periods {a b c e : ℕ} (hb : b < 4) (hc : c < 25) (he : e < 4) :
    daysBeforeYear (a * 400 + b * 100 + c * 4 + e + 1) =
      a * 146097 + b * 36524 + c * 1461 + e * 365 := by
  have h4 : (a * 400 + b * 100 + c * 4 + e) / 4 = a * 100 + b * 25 + c := by omega
  have h100 : (a * 400 + b * 100 + c * 4 + e) / 100 = a * 4 + b := by omega
  have h400 : (a * 400 + b * 100 + c * 4 + e) / 400 = a := by omega
  rw [daysBeforeYear_eq, h4, h100, h400]
  omega

lemma ofDays_spec (n : ℕ) : IsDate (ofDays n) ∧ ordinal (ofDays n) = n := by
  obtain ⟨a, b, c, e, r, hn, hof, h400, h100, h4, h1⟩ := exists_periods n
  rw [hof]
  split
  · rename_i hlast
    obtain ⟨hdate, hordinal⟩ := ordinal_last (a * 400 + b * 100 + c * 4 + e) (by omega)
    refine ⟨hdate, ?_⟩
    rcases hlast with rfl | rfl
    · have hperiods := daysBeforeYear_periods (a := a) (b := b) (c := c + 1) (e := 0) (by omega)
        (by omega) (by omega)
      have hyear : a * 400 + b * 100 + (c + 1) * 4 + 0 = a * 400 + b * 100 + c * 4 + 4 := by omega
      rw [hyear] at hperiods
      omega
    · have hperiods := daysBeforeYear_periods (a := a + 1) (b := 0) (c := 0) (e := 0) (by omega)
        (by omega) (by omega)
      have hyear : (a + 1) * 400 + 0 * 100 + 0 * 4 + 0 = a * 400 + 4 * 100 + c * 4 + e := by omega
      rw [hyear] at hperiods
      omega
  · obtain ⟨hdate, hordinal⟩ :=
      ordinal_within (a * 400 + b * 100 + c * 4 + e + 1) (Nat.le_add_left 1 _) h1
    refine ⟨hdate, ?_⟩
    rw [hordinal, daysBeforeYear_periods (by omega) (by omega) (by omega)]
    exact hn.symm

theorem ordinal_ofDays (n : ℕ) : ordinal (ofDays n) = n := (ofDays_spec n).2

lemma isDate_ofDays (n : ℕ) : IsDate (ofDays n) := (ofDays_spec n).1

/-! ## Later months -/

/-- Months counted through the years. -/
def monthIndex (date : ℕ × ℕ × ℕ) : ℕ := date.1 * 12 + (date.2.1 - 1)

/-- The days of a month so counted. -/
def daysOfIndex (index : ℕ) : ℕ := daysInMonth (index / 12) (index % 12 + 1)

lemma ordinal_lt_of_month {date : ℕ × ℕ × ℕ} (h : IsDate date) :
    ordinal date < daysBeforeYear date.1 + daysBeforeMonth date.1 (date.2.1 + 1) := by
  obtain ⟨-, ⟨hmonth, -⟩, hone, hday⟩ := h
  rw [ordinal, daysBeforeMonth_succ _ hmonth]
  omega

/-- A later month comes later. -/
theorem ordinal_lt {date date' : ℕ × ℕ × ℕ} (h : IsDate date) (h' : IsDate date')
    (hlt : monthIndex date < monthIndex date') : ordinal date < ordinal date' := by
  have hbefore := ordinal_lt_of_month h
  obtain ⟨hyear, ⟨hmonth, hmonths⟩, -⟩ := h
  obtain ⟨-, ⟨hmonth', hmonths'⟩, -⟩ := h'
  unfold monthIndex at hlt
  have hstart : daysBeforeYear date.1 + daysBeforeMonth date.1 (date.2.1 + 1) ≤
      daysBeforeYear date'.1 + daysBeforeMonth date'.1 date'.2.1 := by
    rcases Nat.lt_trichotomy date.1 date'.1 with hyears | hyears | hyears
    · have hdays := daysBeforeMonth_mono date.1 (date.2.1 + 1) 13 (by omega) (by omega)
      rw [daysBeforeMonth_thirteen] at hdays
      have hnext := daysBeforeYear_succ hyear
      have hlater := daysBeforeYear_mono (date.1 + 1) date'.1 (by omega) hyears
      omega
    · rw [← hyears]
      have hdays := daysBeforeMonth_mono date.1 (date.2.1 + 1) date'.2.1 (by omega)
        (by omega)
      omega
    · omega
  rw [ordinal.eq_def date']
  omega

/-- A date is the one behind the days before it. -/
theorem ofDays_ordinal {date : ℕ × ℕ × ℕ} (h : IsDate date) : ofDays (ordinal date) = date := by
  have heq := ordinal_ofDays (ordinal date)
  have hdate := isDate_ofDays (ordinal date)
  generalize ofDays (ordinal date) = found at heq hdate
  rcases Nat.lt_trichotomy (monthIndex found) (monthIndex date) with hlt | hindex | hlt
  · exact absurd heq (ordinal_lt hdate h hlt).ne
  · obtain ⟨year, month, day⟩ := date
    obtain ⟨year', month', day'⟩ := found
    obtain ⟨-, ⟨hmonth, hmonths⟩, hone, -⟩ := h
    obtain ⟨-, ⟨hmonth', hmonths'⟩, hone', -⟩ := hdate
    simp only [monthIndex] at hindex hmonth hmonths hmonth' hmonths' hone hone'
    obtain rfl : year' = year := by omega
    obtain rfl : month' = month := by omega
    simp only [ordinal] at heq
    obtain rfl : day' = day := by omega
    rfl
  · exact absurd heq (ordinal_lt h hdate hlt).ne'

/-! ## The date of a value -/

lemma daysBeforeYear_end : daysBeforeYear 10000 = 3652059 := by decide

lemma isDate_date (d : DateTime) : IsDate d.date := isDate_ofDays _

lemma wall_eq (d : DateTime) :
    d.wall = ordinal d.date * dayMicros + d.wall % dayMicros := by
  have hnonneg : 0 ≤ d.wall / dayMicros := Int.ediv_nonneg d.inRange.1 (by decide)
  rw [date, ordinal_ofDays, Int.toNat_of_nonneg hnonneg, mul_comm]
  exact (Int.mul_ediv_add_emod _ _).symm

lemma date_of_wall {d : DateTime} {date : ℕ × ℕ × ℕ} (h : IsDate date)
    {time : ℤ} (htime : 0 ≤ time ∧ time < dayMicros)
    (hwall : d.wall = ordinal date * dayMicros + time) :
    d.date = date ∧ d.wall % dayMicros = time := by
  have hdays : d.wall / dayMicros = ordinal date := by
    rw [hwall, add_comm, Int.add_mul_ediv_right _ _ (by decide),
      Int.ediv_eq_zero_of_lt htime.1 htime.2, zero_add]
  refine ⟨?_, ?_⟩
  · rw [DateTime.date, hdays, Int.toNat_natCast, ofDays_ordinal h]
  · rw [hwall, add_comm, Int.add_mul_emod_self_right, Int.emod_eq_of_lt htime.1 htime.2]

lemma year_le (d : DateTime) : d.date.1 ≤ 9999 := by
  by_contra hyear
  have hlate := daysBeforeYear_mono 10000 d.date.1 (by decide) (by omega)
  rw [daysBeforeYear_end] at hlate
  have hwall := d.wall_eq
  have hend := d.inRange.2
  have htime : 0 ≤ d.wall % dayMicros := Int.emod_nonneg _ (by decide)
  have hordinal : 3652059 ≤ ordinal d.date := by
    rw [ordinal]
    omega
  unfold maxWall dayMicros at *
  omega

lemma ordinal_lt_end {date : ℕ × ℕ × ℕ} (h : IsDate date) (hyear : date.1 ≤ 9999) :
    ordinal date < 3652059 := by
  have hmonth := ordinal_lt_of_month h
  have hmonths := daysBeforeMonth_mono date.1 (date.2.1 + 1) 13 (by omega)
    (by have := h.month; omega)
  rw [daysBeforeMonth_thirteen] at hmonths
  have hnext := daysBeforeYear_succ h.year
  have hend := daysBeforeYear_mono (date.1 + 1) 10000 (by omega) (by omega)
  rw [daysBeforeYear_end] at hend
  omega

/-- A value moved to another date keeps the time of the day and the time zone; the calendar must
not end before it. -/
lemma replaceDate_eq_ok_iff {d e : DateTime} {year month day : ℕ} (h : IsDate (year, month, day)) :
    d.replaceDate year month day = .ok e ↔ year ≤ 9999 ∧ e.date = (year, month, day) ∧
      e.wall % dayMicros = d.wall % dayMicros ∧ e.offset = d.offset := by
  have htime : 0 ≤ d.wall % dayMicros ∧ d.wall % dayMicros < dayMicros :=
    ⟨Int.emod_nonneg _ (by decide), Int.emod_lt_of_pos _ (by decide)⟩
  have hwall : (↑(daysBeforeYear year + daysBeforeMonth year month + (day - 1)) : ℤ) =
      ordinal (year, month, day) := rfl
  unfold replaceDate
  simp only [hwall]
  constructor
  · intro hok
    split at hok
    · rename_i hrange
      obtain rfl := Except.ok.inj hok
      obtain ⟨hdate, htimes⟩ := date_of_wall (d := ⟨_, d.offset, hrange.2⟩) h htime rfl
      exact ⟨hrange.1, hdate, htimes, rfl⟩
    · cases hok
  · rintro ⟨hyear, hdate, htimes, hoffset⟩
    have heq := e.wall_eq
    rw [hdate, htimes] at heq
    rw [dif_pos ⟨hyear, by rw [← heq]; exact e.inRange⟩]
    congr 1
    cases e
    cases heq
    cases hoffset
    rfl

lemma exists_replaceDate {d : DateTime} {year month day : ℕ} (h : IsDate (year, month, day))
    (hyear : year ≤ 9999) : ∃ e, d.replaceDate year month day = .ok e := by
  have hlast := ordinal_lt_end h hyear
  have htime : 0 ≤ d.wall % dayMicros ∧ d.wall % dayMicros < dayMicros :=
    ⟨Int.emod_nonneg _ (by decide), Int.emod_lt_of_pos _ (by decide)⟩
  have hrange : 0 ≤ (ordinal (year, month, day) : ℤ) * dayMicros + d.wall % dayMicros ∧
      (ordinal (year, month, day) : ℤ) * dayMicros + d.wall % dayMicros < maxWall := by
    unfold maxWall dayMicros at *
    omega
  exact ⟨⟨_, d.offset, hrange⟩, dif_pos ⟨hyear, hrange⟩⟩

end DateTime

end Samaktha
