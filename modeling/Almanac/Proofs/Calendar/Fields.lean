import Mathlib
import Almanac.Proofs.Calendar.LocalTime
import Almanac.Proofs.Week.Year
import Almanac.Calendar.Fields

/-!
# Date fields

* `Calendar.get_fieldsAt` and `Calendar.isLeapMonth_fieldsAt`: the fields of an instant, one by
  one.
* `LocalTime.value_isFieldSized`: every value of a local time may be a field.
* `dayNumber?_of_mem`: days of a month that lies in its year.
* `Calendar.date?_of_dayNumber`: a date is built once its day is pinned.
-/

namespace Almanac

/-! ## Fields of an instant -/

theorem DateFields.isLeapMonth_tabulate (units : TimeUnits) (value : TimeUnit → Option ℤ) :
    (tabulate units value).isLeapMonth = none := by
  suffices h : ∀ (list : List TimeUnit) (c : DateFields),
      (list.foldl (fun c u => c.set u (value u)) c).isLeapMonth = c.isLeapMonth from h _ _
  intro list
  induction list with
  | nil => exact fun _ => rfl
  | cons u list ih =>
    intro c
    rw [List.foldl_cons, ih, isLeapMonth_set]

namespace Calendar

variable (cal : Calendar)

theorem get_fieldsAt (units : TimeUnits) (t : Instant) (u : TimeUnit) :
    (cal.fieldsAt units t).get u =
      if u ∈ units then some ((cal.localTime t).value cal.weeks u) else none := by
  rw [← DateFields.get_tabulate units (fun u => some ((cal.localTime t).value cal.weeks u)) u]
  simp only [fieldsAt]
  split
  · cases u <;> rfl
  · rfl

theorem isLeapMonth_fieldsAt (units : TimeUnits) (t : Instant) :
    (cal.fieldsAt units t).isLeapMonth ≠ some true := by
  simp only [fieldsAt]
  split
  · simp
  · rw [DateFields.isLeapMonth_tabulate]
    simp

end Calendar

/-! ## Sizes -/

theorem LocalTime.value_isFieldSized (weeks : WeekNumbering) {reading : ℤ}
    (hy : IsYearSized (ofReading reading).date.year) (u : TimeUnit) :
    IsFieldSized ((ofReading reading).value weeks u) := by
  have hv := date_isValid reading
  have hm := hv.month_mem
  have hd := hv.day_mem
  have hl := monthLength_mem (ofReading reading).date.year (ofReading reading).date.month
  have hs := secondOfDay_mem reading
  have hw := weekdayOf_mem (ofReading reading).dayNumber
  obtain ⟨weekYear, hweek, hyear, heq⟩ := weeks.exists_weekYear (ofReading reading).dayNumber
  have hsucc := weeks.weekYearStart_succ weekYear
  have heq' : (ofReading reading).weekOfYear weeks =
    (((ofReading reading).dayNumber - weeks.weekYearStart weekYear) / 7 + 1, weekYear) := heq
  change (ofReading reading).date.year - 1 ≤ weekYear ∧
    weekYear ≤ (ofReading reading).date.year + 1 at hyear
  unfold IsYearSized largestYear at hy
  unfold IsFieldSized largestField
  unfold secondsPerDay at hs
  cases u <;> simp only [value]
  case era =>
    unfold yearOfEra
    split <;> dsimp only <;> omega
  case year =>
    unfold yearOfEra
    split <;> dsimp only <;> omega
  case yearForWeekOfYear =>
    rw [heq']
    dsimp only
    omega
  case weekOfYear =>
    rw [heq']
    dsimp only
    omega
  case weekOfMonth =>
    simp only [WeekNumbering.weekAt]
    omega
  case quarter =>
    unfold quarterOf
    omega
  case weekday =>
    unfold weekday
    omega
  case hour =>
    unfold hour
    omega
  case minute =>
    unfold minute
    omega
  case second =>
    unfold second
    omega
  case nanosecond =>
    change -1000000000000 ≤ (0 : ℤ) ∧ (0 : ℤ) ≤ 1000000000000
    omega
  all_goals omega

theorem dayNumber?_eq {month : ℤ} (year day : ℤ) (hm : 1 ≤ month ∧ month ≤ 12) :
    dayNumber? year month day =
      if IsYearSized year then some (Date.dayNumber ⟨year, month, day⟩) else none := by
  rw [dayNumber?, foldMonth_of_mem hm.1 hm.2]

theorem dayNumber?_of_mem {year month : ℤ} (day : ℤ) (hm : 1 ≤ month ∧ month ≤ 12)
    (hy : IsYearSized year) :
    dayNumber? year month day = some (Date.dayNumber ⟨year, month, day⟩) := by
  rw [dayNumber?_eq year day hm, if_pos hy]

/-! ## Dates -/

theorem Calendar.date?_of_dayNumber (cal : Calendar) {c : DateFields} {selector : DaySelector}
    {n : ℤ} (hleap : c.isLeapMonth ≠ some true) (hlimits : c.WithinLimits)
    (hselector : c.daySelector? = some selector)
    (hn : c.dayNumberAt? cal.weeks selector = some n) (resolution : Resolution) :
    cal.date? c resolution =
      some (cal.instantOf n c.secondOfDay (c.nanosecond.getD 0) resolution) := by
  rw [date?, if_neg (not_or.mpr ⟨hleap, not_not.mpr hlimits⟩), hselector]
  simp only [Option.bind_eq_bind, Option.bind_some, hn]

end Almanac
