import Mathlib
import Almanac.Proofs.Checked.Basic
import Almanac.Week

/-!
# Dates and weeks in 64 bits

The formulas for dates and weeks, step by step. None of the steps overflows, as long as years, days
and weeks are far inside the 64-bit integers, so all come to what they do on unbounded integers.

* `Checked.foldMonth`, `Checked.dayNumber`, `Checked.monthLength`: months and day numbers.
* `Checked.dayAt` and `Checked.nthWeekday`: days of numbered weeks and counted weekdays.
* **`Checked.dayNumber_eq`**, `Checked.dayAt_eq`, `Checked.nthWeekday_eq`: the exact values.
-/

namespace Almanac

namespace Checked

/-! ## Months and day numbers -/

/-- The year and month of a month counted on from `year`. -/
def foldMonth (year month : ℤ) : Checked (ℤ × ℤ) := do
  let fromZero : ℤ ← month - 1
  let year : ℤ ← year + ediv fromZero 12
  let month : ℤ ← emod fromZero 12 + 1
  value (year, month)

theorem foldMonth_eq {year month : ℤ} (hyear : year.natAbs < 10 ^ 15)
    (hmonth : month.natAbs < 10 ^ 15) :
    foldMonth year month = value (Almanac.foldMonth year month) := by
  simp (disch := omega) only [foldMonth, ofNat_eq, value_bind, sub_eq, ediv_eq, emod_eq, add_eq,
    Almanac.foldMonth]

/-- The astronomical year of a year inside an era. -/
def astronomicalYear (era year : ℤ) : Checked ℤ := if era ≤ 0 then 1 - year else year

theorem astronomicalYear_eq (era : ℤ) {year : ℤ} (hyear : year.natAbs < 10 ^ 15) :
    astronomicalYear era year = value (Almanac.astronomicalYear era year) := by
  rw [astronomicalYear, Almanac.astronomicalYear]
  split
  · simp (disch := omega) only [ofNat_eq, sub_eq]
  · rfl

/-- The number of days of a month. -/
def monthLength (year month : ℤ) : Checked ℤ :=
  if month = 2 then 28 + (if isLeapYear year then 1 else 0 : ℤ)
  else 30 + ((month + month / 8) % 2 : ℤ)

theorem monthLength_eq (year month : ℤ) :
    monthLength year month = value (Almanac.monthLength year month) := by
  rw [monthLength, Almanac.monthLength]
  split
  · split <;> rfl
  · simp (disch := omega) only [ofNat_eq, add_eq]

/-- The number of a date's day. -/
def dayNumber (date : Date) : Checked ℤ := do
  let year : ℤ ← (if date.month ≤ 2 then date.year - 1 else date.year : Checked ℤ)
  let cycle : ℤ ← ediv year 400
  let yearOfCycle : ℤ ← year - cycle * 400
  let monthFromMarch : ℤ ← (date.month + 9) % 12
  let dayOfYear : ℤ ← (153 * monthFromMarch + 2) / 5 + date.day - 1
  let dayOfCycle : ℤ ← yearOfCycle * 365 + yearOfCycle / 4 - yearOfCycle / 100 + dayOfYear
  cycle * cycleLength + dayOfCycle - epochShift

theorem dayNumber_eq {date : Date} (hmonth : 1 ≤ date.month ∧ date.month ≤ 12)
    (hyear : date.year.natAbs < 10 ^ 13) (hday : date.day.natAbs < 10 ^ 15) :
    dayNumber date = value date.dayNumber := by
  have hshifted : (if date.month ≤ 2 then value date.year - 1 else value date.year) =
      value (if date.month ≤ 2 then date.year - 1 else date.year) := by
    split
    · simp (disch := omega) only [ofNat_eq, sub_eq]
    · rfl
  have hmem : (if date.month ≤ 2 then date.year - 1 else date.year).natAbs ≤ 10 ^ 13 := by omega
  have hmonthFromMarch : (date.month + 9).tmod 12 = (date.month + 9) % 12 :=
    Int.tmod_eq_emod_of_nonneg (by omega)
  have hdayOfYear : (153 * ((date.month + 9) % 12) + 2).tdiv 5 =
      (153 * ((date.month + 9) % 12) + 2) / 5 := Int.tdiv_eq_ediv_of_nonneg (by omega)
  rw [dayNumber, hshifted, Date.dayNumber, hmonthFromMarch, hdayOfYear]
  generalize (if date.month ≤ 2 then date.year - 1 else date.year) = year at *
  unfold cycleLength epochShift
  simp (disch := omega) only [ofNat_eq, value_bind, add_eq, sub_eq, mul_eq, div_eq, mod_eq, ediv_eq,
    value.injEq]
  omega

/-- The weekday of a day number. -/
def weekdayOf (number : ℤ) : Checked ℤ := emod (number + 4) 7 + 1

theorem weekdayOf_eq {number : ℤ} (h : number.natAbs < 10 ^ 18) :
    weekdayOf number = value (Almanac.weekdayOf number) := by
  simp (disch := omega) only [weekdayOf, ofNat_eq, add_eq, emod_eq, Almanac.weekdayOf]

/-! ## Weeks -/

section Weeks

variable (weeks : WeekNumbering)

/-- The position of a weekday in the week. -/
def placeOf (weekday : ℤ) : Checked ℤ := emod (weekday - weeks.firstWeekday) 7

theorem placeOf_eq {weekday : ℤ} (h : weekday.natAbs < 10 ^ 18) :
    placeOf weeks weekday = value (weeks.placeOf weekday) := by
  have hfirst := weeks.firstWeekday_mem
  simp (disch := omega) only [placeOf, ofNat_eq, sub_eq, emod_eq, WeekNumbering.placeOf]

/-- The day of a weekday in a numbered week of the period that begins on day `start`. -/
def dayAt (start week : ℤ) (weekday : Option ℤ) : Checked ℤ := do
  let first : ℤ ← placeOf weeks (← weekdayOf start)
  let offset : ℤ ← weekday.elim 0 (placeOf weeks)
  let day : ℤ ← 1 - first + offset
  let left : ℤ ← 7 - first
  let day : ℤ ← (if left < weeks.minimumDays then day + 7 else day : Checked ℤ)
  let day : ℤ ← day + 7 * (week - 1)
  start - 1 + day

theorem dayAt_eq {start week : ℤ} {weekday : Option ℤ} (hstart : start.natAbs < 10 ^ 15)
    (hweek : week.natAbs < 10 ^ 15) (hweekday : ∀ value ∈ weekday, value.natAbs < 10 ^ 15) :
    dayAt weeks start week weekday = value (weeks.dayAt start week weekday) := by
  have hweekday' := weekdayOf_mem start
  have hfirst := weeks.placeOf_mem (Almanac.weekdayOf start)
  have hoffset : weekday.elim 0 (placeOf weeks) = value (weekday.elim 0 weeks.placeOf) := by
    cases weekday with
    | none => rfl
    | some weekday =>
      have hsize := hweekday weekday rfl
      exact placeOf_eq weeks (by omega)
  have hmem : 0 ≤ weekday.elim 0 weeks.placeOf ∧ weekday.elim 0 weeks.placeOf < 7 := by
    cases weekday with
    | none => exact ⟨le_refl (0 : ℤ), show (0 : ℤ) < 7 by decide⟩
    | some weekday => exact weeks.placeOf_mem weekday
  have hexact : weeks.dayAt start week weekday = start - weeks.placeOf (Almanac.weekdayOf start) +
      weekday.elim 0 weeks.placeOf +
        (if 7 - weeks.placeOf (Almanac.weekdayOf start) < weeks.minimumDays then 7 else 0) +
          7 * (week - 1) := by
    cases weekday <;> rfl
  rw [dayAt, hoffset, hexact, weekdayOf_eq (by omega), value_bind, placeOf_eq weeks (by omega)]
  generalize weekday.elim 0 weeks.placeOf = offset,
    weeks.placeOf (Almanac.weekdayOf start) = first at *
  simp (disch := omega) only [ofNat_eq, value_bind, sub_eq, add_eq]
  split <;> simp (disch := omega) only [value_bind, add_eq, mul_eq, value.injEq] <;> omega

/-- The day of a counted weekday of the month of `length` days that begins on day `start`. -/
def nthWeekday (start length ordinal weekday : ℤ) : Checked ℤ := do
  let first : ℤ ← placeOf weeks (← weekdayOf start)
  let day : ℤ ← 1 - first + placeOf weeks weekday
  let day : ℤ ← (if day < 1 then day + 7 else day : Checked ℤ)
  let day : ℤ ← (if 0 ≤ ordinal then day + 7 * (ordinal - 1)
    else day + ((length - day) / 7 + ordinal + 1) * 7 : Checked ℤ)
  start - 1 + day

theorem nthWeekday_eq {start length ordinal weekday : ℤ} (hstart : start.natAbs < 10 ^ 15)
    (hlength : 28 ≤ length ∧ length ≤ 31) (hordinal : ordinal.natAbs < 10 ^ 15)
    (hweekday : weekday.natAbs < 10 ^ 15) :
    nthWeekday weeks start length ordinal weekday =
      value (weeks.nthWeekday start length ordinal weekday) := by
  have hfirst := weeks.placeOf_mem (Almanac.weekdayOf start)
  have hplace := weeks.placeOf_mem weekday
  have hweekday' := weekdayOf_mem start
  rw [nthWeekday, WeekNumbering.nthWeekday, weekdayOf_eq (by omega), value_bind,
    placeOf_eq weeks (by omega), placeOf_eq weeks (by omega)]
  generalize weeks.placeOf (Almanac.weekdayOf start) = first, weeks.placeOf weekday = place at *
  simp (disch := omega) only [ofNat_eq, value_bind, sub_eq, add_eq]
  split <;> simp (disch := omega) only [value_bind] <;> split <;>
    simp (disch := omega) only [value_bind, sub_eq, add_eq, mul_eq, div_eq, value.injEq] <;> omega

end Weeks

end Checked

end Almanac
