import CallWatch.Proofs.Time.Reader
import Mathlib.Tactic.IntervalCases

/-! The dates of days are those of the calendar.
Every day has a valid date whose day it is, for all years, and dates come in the order of their
days.
-/

namespace CallWatch.Time

-----------------------------------------------------------------------------------------
-- Years
-----------------------------------------------------------------------------------------

@[simp]
theorem length_monthsOf (year : Int)
    : (monthsOf year).length = 12 :=
  rfl

theorem monthsOf_le (year : Int) {place : Nat} (inside : place < 12)
    : (monthsOf year).getD place 0 ≤ 31 := by
  simp only [monthsOf]
  cases isLeapYear year <;> interval_cases place <;> decide

/-- A year is as long as its months: a leap year has a day more. -/
theorem daysBeforeYear_succ (year : Int)
    : daysBeforeYear (year + 1) = daysBeforeYear year + daysBefore (monthsOf year) 12 := by
  have months : daysBefore (monthsOf year) 12 = if isLeapYear year then 366 else 365 := by
    simp only [monthsOf]
    cases isLeapYear year <;> rfl
  rw [months]
  simp only [daysBeforeYear, isLeapYear, Bool.and_eq_true, Bool.or_eq_true, decide_eq_true_eq]
  split <;> omega

theorem daysBeforeYear_mono {year later : Int} (h : year ≤ later)
    : daysBeforeYear year ≤ daysBeforeYear later := by
  simp only [daysBeforeYear]
  omega

/-- A day of a cycle of 400 years, from 1 March on, by its year and its day of that year: the
years before it have as many days as there are before it, and a year has its leap day last.
-/
theorem yearOfCycle_eq {day : Nat} (inside : day < 146097)
    : ∃ year dayOfYear,
        yearOfCycle day = (year, dayOfYear)
        ∧ year < 400
        ∧ day = 365 * year + year / 4 - year / 100 + dayOfYear
        ∧ (dayOfYear < 365
          ∨ dayOfYear = 365 ∧ (year + 1) % 4 = 0 ∧ ((year + 1) % 100 ≠ 0 ∨ year = 399)) := by
  refine ⟨_, _, rfl, ?_⟩
  generalize century : min 3 (day / 36524) = c
  generalize quad : (day - c * 36524) / 1461 = q
  generalize year : min 3 ((day - c * 36524 - q * 1461) / 365) = y
  have few : c ≤ 3 ∧ q ≤ 24 ∧ y ≤ 3 := by omega
  have quads : (c * 100 + q * 4 + y) / 4 = c * 25 + q := by omega
  have centuries : (c * 100 + q * 4 + y) / 100 = c := by omega
  rw [quads, centuries]
  exact ⟨by omega, by omega, by omega⟩

-----------------------------------------------------------------------------------------
-- Months
-----------------------------------------------------------------------------------------

/-- A day is found in the month that it belongs to, by induction on the months. -/
theorem monthOfYear_eq {lengths : List Nat} {day : Nat}
    (inside : day < daysBefore lengths lengths.length)
    : ∃ month dayOfMonth,
        monthOfYear lengths day = (month, dayOfMonth)
        ∧ month < lengths.length
        ∧ day = daysBefore lengths month + dayOfMonth
        ∧ dayOfMonth < lengths.getD month 0 := by
  induction lengths generalizing day with
  | nil => cases inside
  | cons length rest ih =>
      by_cases here : day < length
      · exact ⟨0, day, by rw [monthOfYear, if_pos here], Nat.succ_pos _,
          (Nat.zero_add day).symm, here⟩
      · have others : day - length < daysBefore rest rest.length := by
          rw [List.length_cons, daysBefore] at inside
          omega
        obtain ⟨month, dayOfMonth, found, few, split, short⟩ := ih others
        refine ⟨month + 1, dayOfMonth, ?_, Nat.succ_lt_succ few, ?_, short⟩
        · rw [monthOfYear, if_neg here, found]
        · rw [daysBefore]
          omega

/-- The days from 1 March of the year 0 to 1 March of a year. -/
def daysBeforeMarch (year : Int) : Int :=
  365 * year + year / 4 - year / 100 + year / 400

/-- By March the leap day of a year is over. -/
theorem daysBeforeYear_add_leap (year : Int)
    : daysBeforeYear year + (if isLeapYear year then 1 else 0) = daysBeforeMarch year + 1 := by
  simp only [daysBeforeYear, daysBeforeMarch, isLeapYear, Bool.and_eq_true, Bool.or_eq_true,
    decide_eq_true_eq]
  split <;> omega

/-- The 306 days from March on end a year. -/
theorem daysBeforeYear_next (year : Int)
    : daysBeforeYear (year + 1) = daysBeforeMarch year + 366 := by
  simp only [daysBeforeYear, daysBeforeMarch]
  omega

/-- The date of a day, by its year and month from March on. The days of the months before are
those since 1 March, and only a year that ends in a leap day has its last day.
-/
theorem Date.ofUnixDay_eq (n : Int)
    : ∃ (year : Int) (month dayOfMonth : Nat),
        Date.ofUnixDay n
          = (if month < 10 then ⟨year, month + 3, dayOfMonth + 1⟩
            else ⟨year + 1, month - 9, dayOfMonth + 1⟩)
        ∧ month < 12
        ∧ dayOfMonth < monthLengths.getD month 0
        ∧ (month = 11 → dayOfMonth = 28 → isLeapYear (year + 1) = true)
        ∧ n + epochDay = daysBeforeMarch year + daysBefore monthLengths month + dayOfMonth := by
  have cycles := Int.mul_ediv_add_emod (n + epochDay) 146097
  have rest := Int.emod_lt_of_pos (n + epochDay) (by decide : (0 : Int) < 146097)
  have nonneg := Int.emod_nonneg (n + epochDay) (by decide : (146097 : Int) ≠ 0)
  simp only [Date.ofUnixDay, Int.fdiv_eq_ediv_of_nonneg _ (by decide : (0 : Int) ≤ 146097),
    Int.fmod_eq_emod_of_nonneg _ (by decide : (0 : Int) ≤ 146097)]
  generalize (n + epochDay) / 146097 = cycle at cycles ⊢
  generalize (n + epochDay) % 146097 = dayOfCycle at cycles rest nonneg ⊢
  have inCycle : dayOfCycle.toNat < 146097 := by omega
  obtain ⟨year, dayOfYear, yearFound, few, yearSplit, last⟩ := yearOfCycle_eq inCycle
  have inYear : dayOfYear < daysBefore monthLengths monthLengths.length := by
    have all : daysBefore monthLengths monthLengths.length = 366 := rfl
    omega
  obtain ⟨month, dayOfMonth, monthFound, inside, monthSplit, short⟩ := monthOfYear_eq inYear
  rw [yearFound]
  simp only [monthFound]
  refine ⟨cycle * 400 + year, month, dayOfMonth, rfl, inside, short, ?_, ?_⟩
  · rintro rfl rfl
    have before : daysBefore monthLengths 11 = 337 := rfl
    simp only [isLeapYear, Bool.and_eq_true, Bool.or_eq_true, decide_eq_true_eq]
    omega
  · have quads : (cycle * 400 + year) / 4 = cycle * 100 + year / 4 := by omega
    have centuries : (cycle * 400 + year) / 100 = cycle * 4 + year / 100 := by omega
    have whole : (cycle * 400 + year) / 400 = cycle := by omega
    rw [daysBeforeMarch, quads, centuries, whole]
    omega

section Months
variable (year : Int) {month : Nat}

/-- From March to December the months are those of the calendar, after the first two. -/
theorem months_of_march (early : month < 10)
    : daysBefore (monthsOf year) (month + 2)
        = daysBefore monthLengths month + 59 + (if isLeapYear year then 1 else 0)
      ∧ (monthsOf year).getD (month + 2) 0 = monthLengths.getD month 0 := by
  simp only [monthsOf]
  cases isLeapYear year <;> interval_cases month <;> exact ⟨rfl, rfl⟩

/-- January and February come after 306 days, and only a leap year has a day 29 in February. -/
theorem months_of_january (late : 10 ≤ month) (few : month < 12)
    : daysBefore monthLengths month = daysBefore (monthsOf year) (month - 10) + 306
      ∧ (monthsOf year).getD (month - 10) 0
        = if month = 11 ∧ isLeapYear year = false then 28 else monthLengths.getD month 0 := by
  simp only [monthsOf]
  cases isLeapYear year <;> interval_cases month <;> exact ⟨rfl, rfl⟩

end Months

namespace Date

/-- Every day has a date of the calendar. -/
theorem isValid_ofUnixDay (n : Int)
    : (ofUnixDay n).IsValid := by
  obtain ⟨year, month, dayOfMonth, date, few, short, leap, -⟩ := ofUnixDay_eq n
  rw [date]
  split
  · next early =>
    have length := (months_of_march year early).2
    exact ⟨Nat.succ_pos _, Nat.succ_pos _, length ▸ short⟩
  · next late =>
    have length := (months_of_january (year + 1) (Nat.le_of_not_lt late) few).2
    have place : month - 9 - 1 = month - 10 := by omega
    refine ⟨by dsimp only; omega, Nat.succ_pos _, ?_⟩
    dsimp only
    rw [place, length]
    split
    · next last =>
      obtain ⟨rfl, common⟩ := last
      have february : monthLengths.getD 11 0 = 29 := rfl
      have other : dayOfMonth ≠ 28 := by
        rintro rfl
        cases common.symm.trans (leap rfl rfl)
      omega
    · exact short

/-- The date of a day tells the day. -/
theorem unixDay_ofUnixDay (n : Int)
    : (ofUnixDay n).unixDay = n := by
  obtain ⟨year, month, dayOfMonth, date, few, -, -, split⟩ := ofUnixDay_eq n
  have epoch : daysBeforeYear 1970 = epochDay + 60 := rfl
  have leap := daysBeforeYear_add_leap year
  rw [date, unixDay, epoch]
  split
  · next early =>
    have days := (months_of_march year early).1
    dsimp only
    rw [Nat.add_sub_assoc (by decide), days]
    push_cast
    omega
  · next late =>
    have days := (months_of_january (year + 1) (Nat.le_of_not_lt late) few).1
    have place : month - 9 - 1 = month - 10 := by omega
    dsimp only
    rw [place, daysBeforeYear_next]
    omega

end Date

-----------------------------------------------------------------------------------------
-- Order
-----------------------------------------------------------------------------------------

/-- A month begins where the one before it ends, by induction on the months. -/
theorem daysBefore_succ (lengths : List Nat) (place : Nat)
    : daysBefore lengths (place + 1) = daysBefore lengths place + lengths.getD place 0 := by
  induction lengths generalizing place with
  | nil => rfl
  | cons length rest ih =>
      cases place with
      | zero =>
          simp only [daysBefore, List.getD_cons_zero]
          cases rest <;> exact Nat.add_comm _ _
      | succ place =>
          rw [daysBefore, daysBefore, ih, List.getD_cons_succ, Nat.add_assoc]

theorem daysBefore_mono (lengths : List Nat) {place later : Nat} (h : place ≤ later)
    : daysBefore lengths place ≤ daysBefore lengths later := by
  induction h with
  | refl => exact Nat.le_refl _
  | step _ ih =>
      rw [daysBefore_succ]
      omega

namespace Date

/-- A date comes before another one. -/
def Before (a b : Date) : Prop :=
  a.year < b.year
  ∨ a.year = b.year ∧ (a.month < b.month ∨ a.month = b.month ∧ a.day < b.day)

namespace IsValid
variable {d : Date}

theorem month_le (h : d.IsValid)
    : d.month ≤ 12 := by
  obtain ⟨month, day, short⟩ := h
  by_contra past
  have outside : (monthsOf d.year).length ≤ d.month - 1 := by
    rw [length_monthsOf]
    omega
  rw [List.getD_eq_getElem?_getD, List.getElem?_eq_none outside] at short
  have none : d.day ≤ 0 := short
  omega

theorem day_le (h : d.IsValid)
    : d.day ≤ 31 := by
  have last := h.month_le
  obtain ⟨month, -, short⟩ := h
  exact Nat.le_trans short (monthsOf_le d.year (by omega))

/-- A date of the calendar lies within its year. -/
theorem bounds (h : d.IsValid)
    : daysBeforeYear d.year ≤ d.unixDay + daysBeforeYear 1970
      ∧ d.unixDay + daysBeforeYear 1970 < daysBeforeYear (d.year + 1) := by
  have last := h.month_le
  obtain ⟨month, day, short⟩ := h
  have inYear := daysBefore_mono (monthsOf d.year) (by omega : d.month - 1 + 1 ≤ 12)
  rw [daysBefore_succ] at inYear
  rw [daysBeforeYear_succ, unixDay]
  omega

end IsValid

/-- Dates of the calendar come in the order of their days: a year ends before the next one
begins, and so does a month.
-/
theorem unixDay_lt {a b : Date} (first : a.IsValid) (second : b.IsValid) (h : a.Before b)
    : a.unixDay < b.unixDay := by
  rcases h with year | ⟨year, month | ⟨month, day⟩⟩
  · have whole := daysBeforeYear_mono (Int.add_one_le_of_lt year)
    have ends := first.bounds.2
    have begins := second.bounds.1
    omega
  · obtain ⟨aMonth, aDay, short⟩ := first
    obtain ⟨bMonth, bDay, -⟩ := second
    have whole := daysBefore_mono (monthsOf a.year) (by omega : a.month - 1 + 1 ≤ b.month - 1)
    rw [daysBefore_succ] at whole
    simp only [unixDay, ← year]
    omega
  · simp only [unixDay, ← year, ← month]
    omega

/-- A later day has a later date, since an earlier or equal one would be that of an earlier or
equal day.
-/
theorem before_ofUnixDay {n m : Int} (h : n < m)
    : (ofUnixDay n).Before (ofUnixDay m) := by
  by_contra other
  have days : (ofUnixDay m).unixDay ≤ (ofUnixDay n).unixDay := by
    by_cases after : (ofUnixDay m).Before (ofUnixDay n)
    · exact Int.le_of_lt (unixDay_lt (isValid_ofUnixDay m) (isValid_ofUnixDay n) after)
    · have same : ofUnixDay m = ofUnixDay n := by
        simp only [Before] at other after
        generalize ofUnixDay m = a at other after ⊢
        generalize ofUnixDay n = b at other after ⊢
        obtain ⟨aYear, aMonth, aDay⟩ := a
        obtain ⟨bYear, bMonth, bDay⟩ := b
        simp only [mk.injEq]
        dsimp only at other after
        omega
      rw [same]
  rw [unixDay_ofUnixDay, unixDay_ofUnixDay] at days
  omega

end Date

end CallWatch.Time
