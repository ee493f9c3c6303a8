import PatternSql.Time.Calendar
import Mathlib.Order.Monotone.Basic
import Mathlib.Tactic.IntervalCases

/-!
# Counting days

The number of a date is computed in one step, from its year, month and day.  Here the days are
counted instead: `Date.next` is the day after a date, and `Date.Counted` relates a date to the
number of steps between it and the first of January 1970, forwards or backwards.

`Date.counted_iff` says that counting reaches exactly the dates of the calendar, each with its
number and no other.  A step adds one to the number, also at the ends of months and years
(`Date.dayNumber_next`), and later dates have greater numbers (`Date.dayNumber_lt`), so that
two ways of counting cannot end at different dates.
-/

namespace PatternSql

namespace Calendar

/-! ### Months and years -/

/-- Each month has a day. -/
lemma daysInMonth_pos (year : Int) {month : Nat} (h : 1 ≤ month ∧ month ≤ 12) :
    1 ≤ daysInMonth year month := by
  obtain ⟨hone, htwelve⟩ := h
  interval_cases month <;> simp only [daysInMonth] <;> (try split) <;> omega

/-- Only months have days. -/
lemma month_of_daysInMonth_pos {year : Int} {month : Nat} (h : 1 ≤ daysInMonth year month) :
    1 ≤ month ∧ month ≤ 12 := by
  unfold daysInMonth at h
  split at h <;> omega

/-- Before the next month come also the days of this one. -/
lemma daysBeforeMonth_succ (year : Int) (month : Nat) :
    daysBeforeMonth year (month + 1) = daysBeforeMonth year month + daysInMonth year month := rfl

/-- No fewer days come before a later month. -/
lemma daysBeforeMonth_mono (year : Int) : Monotone (daysBeforeMonth year) := by
  refine monotone_nat_of_le_succ fun month => ?_
  rw [daysBeforeMonth_succ]
  omega

/-- After December come the days of the next year. -/
lemma daysBeforeYear_succ (year : Int) :
    daysBeforeYear (year + 1) = daysBeforeYear year + daysBeforeMonth year 13 := by
  have hleap : isLeapYear year = true ↔
      year % 4 = 0 ∧ (year % 100 ≠ 0 ∨ year % 400 = 0) := by simp [isLeapYear]
  simp only [daysBeforeYear, daysBeforeMonth, daysInMonth]
  split
  · rename_i hyear
    have hrule := hleap.1 hyear
    omega
  · rename_i hyear
    have hrule := mt hleap.2 hyear
    omega

/-- Years begin one after the other. -/
lemma daysBeforeYear_mono {year later : Int} (h : year ≤ later) :
    daysBeforeYear year ≤ daysBeforeYear later := by
  simp only [daysBeforeYear]
  omega

end Calendar

namespace Date

open Calendar

/-! ### Dates and their numbers -/

/-- A date is valid when its day is one of its month. -/
lemma isValid_iff {date : Date} :
    date.isValid = true ↔ 1 ≤ date.day ∧ date.day ≤ daysInMonth date.year date.month := by
  simp [isValid]

/-- The month of a date is one of the twelve. -/
lemma month_of_isValid {date : Date} (h : date.isValid = true) :
    1 ≤ date.month ∧ date.month ≤ 12 := by
  obtain ⟨hone, hday⟩ := isValid_iff.1 h
  exact month_of_daysInMonth_pos (hone.trans hday)

/-- A date is later than another by its year, else by its month, else by its day. -/
def IsBefore (date later : Date) : Prop :=
  date.year < later.year ∨ date.year = later.year ∧
    (date.month < later.month ∨ date.month = later.month ∧ date.day < later.day)

/-- A date lies between the beginning of its year and that of the next. -/
lemma dayNumber_mem_year {date : Date} (h : date.isValid = true) :
    daysBeforeYear date.year - epochDays ≤ date.dayNumber ∧
      date.dayNumber < daysBeforeYear (date.year + 1) - epochDays := by
  obtain ⟨hfirst, hday⟩ := isValid_iff.1 h
  have hmonth := daysBeforeMonth_succ date.year date.month
  have hend : daysBeforeMonth date.year (date.month + 1) ≤ daysBeforeMonth date.year 13 :=
    daysBeforeMonth_mono date.year (Nat.succ_le_succ (month_of_isValid h).2)
  have hsucc := daysBeforeYear_succ date.year
  unfold dayNumber
  omega

/-- A later date has a greater number. -/
lemma dayNumber_lt {date later : Date} (hdate : date.isValid = true)
    (hlater : later.isValid = true) (h : date.IsBefore later) :
    date.dayNumber < later.dayNumber := by
  have hday := (isValid_iff.1 hdate).2
  have hfirst := (isValid_iff.1 hlater).1
  have hmonth := daysBeforeMonth_succ date.year date.month
  rcases h with hyear | ⟨hyear, hmonths | ⟨hsame, hdays⟩⟩
  · -- the year of the first date ends before the year of the second begins
    have hyears := daysBeforeYear_mono (Int.add_one_le_iff.2 hyear)
    have hend := (dayNumber_mem_year hdate).2
    have hbegin := (dayNumber_mem_year hlater).1
    omega
  · have hend : daysBeforeMonth date.year (date.month + 1) ≤
        daysBeforeMonth date.year later.month := daysBeforeMonth_mono date.year hmonths
    unfold dayNumber
    rw [hyear] at hend hmonth hday ⊢
    omega
  · unfold dayNumber
    rw [hyear, hsame]
    omega

/-- No two dates have the same number. -/
lemma eq_of_dayNumber_eq {date other : Date} (hdate : date.isValid = true)
    (hother : other.isValid = true) (h : date.dayNumber = other.dayNumber) : date = other := by
  have hbefore : ¬date.IsBefore other := fun hlt => (dayNumber_lt hdate hother hlt).ne h
  have hafter : ¬other.IsBefore date := fun hlt => (dayNumber_lt hother hdate hlt).ne h.symm
  obtain ⟨year, month, day⟩ := date
  obtain ⟨year', month', day'⟩ := other
  simp only [IsBefore] at hbefore hafter
  simp only [Date.mk.injEq]
  omega

/-! ### The next day -/

/-- The day after a date. -/
def next (date : Date) : Date :=
  if date.day < daysInMonth date.year date.month then { date with day := date.day + 1 }
  else if date.month < 12 then ⟨date.year, date.month + 1, 1⟩
  else ⟨date.year + 1, 1, 1⟩

/-- The next day is a date of the calendar. -/
lemma isValid_next (date : Date) : date.next.isValid = true := by
  rw [isValid_iff]
  unfold next
  split
  · rename_i hday
    exact ⟨Nat.le_add_left 1 date.day, hday⟩
  · split
    · rename_i hmonth
      exact ⟨le_rfl, daysInMonth_pos date.year ⟨Nat.le_add_left 1 date.month, hmonth⟩⟩
    · exact ⟨le_rfl, daysInMonth_pos (date.year + 1) ⟨le_rfl, by simp⟩⟩

/-- The next day has the next number. -/
lemma dayNumber_next {date : Date} (h : date.isValid = true) :
    date.next.dayNumber = date.dayNumber + 1 := by
  have hle := (isValid_iff.1 h).2
  by_cases hday : date.day < daysInMonth date.year date.month
  · rw [next, if_pos hday]
    simp only [dayNumber]
    omega
  by_cases hmonth : date.month < 12
  · have hend := daysBeforeMonth_succ date.year date.month
    rw [next, if_neg hday, if_pos hmonth]
    simp only [dayNumber]
    omega
  · -- the last day of December
    have htwelve : date.month = 12 := by
      have := (month_of_isValid h).2
      omega
    have hend : daysBeforeMonth date.year 13 =
        daysBeforeMonth date.year 12 + daysInMonth date.year 12 := rfl
    have hjanuary : daysBeforeMonth (date.year + 1) 1 = 0 := rfl
    have hyear := daysBeforeYear_succ date.year
    rw [next, if_neg hday, if_neg hmonth]
    rw [htwelve] at hday hle
    simp only [dayNumber, htwelve, hjanuary]
    omega

/-! ### Counting -/

/-- Days are counted from the first of January 1970, forwards and backwards. -/
inductive Counted : Date → Int → Prop
  | epoch : Counted ⟨1970, 1, 1⟩ 0
  | later {date : Date} {days : Int} : Counted date days → Counted date.next (days + 1)
  | earlier {date : Date} {days : Int} :
    date.isValid = true → Counted date.next days → Counted date (days - 1)

/-- What is counted is a date, and the count is its number. -/
lemma Counted.isValid_and_eq {date : Date} {days : Int} (h : date.Counted days) :
    date.isValid = true ∧ days = date.dayNumber := by
  induction h with
  | epoch => exact ⟨by decide, dayNumber_epoch.symm⟩
  | later _ ih =>
    obtain ⟨hvalid, hdays⟩ := ih
    exact ⟨isValid_next _, by rw [dayNumber_next hvalid, hdays]⟩
  | earlier hvalid _ ih =>
    have hnext := dayNumber_next hvalid
    exact ⟨hvalid, by omega⟩

/-- Counting forwards, some date has each number. -/
lemma exists_counted (n : Nat) : ∃ date : Date, date.Counted n := by
  induction n with
  | zero => exact ⟨⟨1970, 1, 1⟩, Counted.epoch⟩
  | succ n ih =>
    obtain ⟨date, hdate⟩ := ih
    exact ⟨date.next, hdate.later⟩

/-- Counting forwards reaches each date that is not before 1970. -/
lemma counted_of_dayNumber_eq {date : Date} (hvalid : date.isValid = true) {n : Nat}
    (h : date.dayNumber = n) : date.Counted n := by
  obtain ⟨reached, hreached⟩ := exists_counted n
  obtain ⟨hreachedValid, hnumber⟩ := hreached.isValid_and_eq
  rwa [eq_of_dayNumber_eq hvalid hreachedValid (h.trans hnumber)]

/-- Counting backwards reaches each date that is before 1970. -/
lemma counted_of_dayNumber_eq_neg {date : Date} (hvalid : date.isValid = true) {n : Nat}
    (h : date.dayNumber = -n) : date.Counted (-n) := by
  induction n generalizing date with
  | zero => exact counted_of_dayNumber_eq hvalid (by simpa using h)
  | succ n ih =>
    have hnext : date.next.dayNumber = -n := by
      rw [dayNumber_next hvalid]
      omega
    have hcounted := Counted.earlier hvalid (ih (isValid_next _) hnext)
    rwa [show (-n : Int) - 1 = -(n + 1 : Nat) by omega] at hcounted

/-- Counting day by day reaches the dates of the calendar, each with its number. -/
theorem counted_iff {date : Date} {days : Int} :
    date.Counted days ↔ date.isValid = true ∧ days = date.dayNumber := by
  constructor
  · exact Counted.isValid_and_eq
  · rintro ⟨hvalid, rfl⟩
    obtain ⟨n, hn | hn⟩ := Int.eq_nat_or_neg date.dayNumber
    · rw [hn]
      exact counted_of_dayNumber_eq hvalid hn
    · rw [hn]
      exact counted_of_dayNumber_eq_neg hvalid hn

end Date

end PatternSql
