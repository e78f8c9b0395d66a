import Mathlib
import Almanac.Proofs.Calendar.YearLimit
import Almanac.Proofs.Checked.Date

/-!
# Local time in 64 bits

The way from an instant to its local date, step by step, and the weeks of that date. Only the sum of
a second and an offset may leave the 64-bit integers: the days, years and weeks of a reading that is
one of them are far inside.

* `LocalTime.natAbs_dayNumber_le`, `LocalTime.natAbs_year_le`, `LocalTime.weekOfYear_mem`: how large
  the numbers of a local time are.
* `Checked.secondsAndNanos`, `Checked.localTime`: from an instant to a local date and time.
* `Checked.weekAt`, `Checked.weekOfYear`, `Checked.localWeek`: numbers of weeks.
* **`Checked.localTime_eq`**, `Checked.localWeek_eq`: no step overflows.
-/

namespace Almanac

theorem Date.IsValid.natAbs_dayNumber_le {date : Date} (hv : date.IsValid) :
    date.dayNumber.natAbs ≤ 400 * date.year.natAbs + 800000 := by
  have hday := hv.marchDay_mem.2
  have hlength := yearLength_mem (date.marchYear + 1)
  rw [dayNumber_eq_march hv.month_mem]
  unfold marchStart epochShift
  unfold marchYear at *
  omega

theorem Instant.secondsAndNanos_ofSeconds_mem (n : ℤ) :
    Binary64.int64Min ≤ (ofSeconds n).secondsAndNanos.1 ∧
      (ofSeconds n).secondsAndNanos.1 ≤ Binary64.int64Max := by
  by_cases hsmall : n.natAbs ≤ 2 ^ 53
  · rw [secondsAndNanos_ofSeconds hsmall]
    unfold Binary64.int64Min Binary64.int64Max
    omega
  change _ ≤ (⟨(ofSeconds n).seconds⟩ : Instant).secondsAndNanos.1 ∧
    (⟨(ofSeconds n).seconds⟩ : Instant).secondsAndNanos.1 ≤ _
  obtain ⟨negative, h⟩ | ⟨m, h, -⟩ := exists_seconds_of_large (n := n) (by omega)
  · rw [h, secondsAndNanos_infinite]
    cases negative <;> decide
  · rw [h, secondsAndNanos_finite]
    exact (Binary64.finite (m : ℚ)).toInt64_mem

namespace LocalTime

theorem weekOfYear_mem (weeks : WeekNumbering) (reading : ℤ) :
    (1 ≤ ((ofReading reading).weekOfYear weeks).1 ∧
      ((ofReading reading).weekOfYear weeks).1 ≤ 53) ∧
    (ofReading reading).date.year - 1 ≤ ((ofReading reading).weekOfYear weeks).2 ∧
      ((ofReading reading).weekOfYear weeks).2 ≤ (ofReading reading).date.year + 1 := by
  obtain ⟨weekYear, hmem, hnear, heq⟩ := weeks.exists_weekYear (ofReading reading).dayNumber
  have hlength := weeks.weekYearStart_succ weekYear
  have hweek : (ofReading reading).weekOfYear weeks = _ := heq
  rw [hweek]
  exact ⟨by dsimp only; omega, hnear⟩

variable (reading : ℤ)

theorem natAbs_dayNumber_le :
    (ofReading reading).dayNumber.natAbs ≤ reading.natAbs / 86400 + 1 := by
  change (reading / secondsPerDay).natAbs ≤ _
  unfold secondsPerDay
  omega

theorem natAbs_year_le :
    (ofReading reading).date.year.natAbs ≤ reading.natAbs / 31536000 + 100000003 := by
  have hfirst : Date.dayNumber ⟨-largestYear, 1, 1⟩ = -36524969528 := by decide
  have hlast : Date.dayNumber ⟨largestYear + 1, 1, 1⟩ = 36523530838 := by decide
  have hbeyond : IsBeyondYears (reading.natAbs / 86400 + 1 : ℕ) (reading / secondsPerDay) := by
    unfold IsBeyondYears secondsPerDay
    omega
  have hyear : |(ofReading reading).date.year| ≤ _ := hbeyond.abs_year_ofDayNumber_le (by omega)
  unfold largestYear at hyear
  have hbounds := abs_le.mp hyear
  omega

theorem natAbs_yearOfEra_le :
    (yearOfEra (ofReading reading).date.year).2.natAbs ≤ reading.natAbs / 31536000 + 100000004 := by
  have hyear := natAbs_year_le reading
  unfold yearOfEra
  split <;> dsimp only <;> omega

end LocalTime

namespace Checked

/-! ## Dates -/

/-- The date of a day number. -/
def ofDayNumber (number : ℤ) : Checked Date := do
  let shifted : ℤ ← number + epochShift
  let cycle : ℤ ← ediv shifted cycleLength
  let dayOfCycle : ℤ ← shifted - cycle * cycleLength
  let yearOfCycle : ℤ ←
    (dayOfCycle - dayOfCycle / 1460 + dayOfCycle / 36524 - dayOfCycle / 146096) / 365
  let dayOfYear : ℤ ← dayOfCycle - (365 * yearOfCycle + yearOfCycle / 4 - yearOfCycle / 100)
  let monthFromMarch : ℤ ← (5 * dayOfYear + 2) / 153
  let day : ℤ ← dayOfYear - (153 * monthFromMarch + 2) / 5 + 1
  let month : ℤ ←
    (if monthFromMarch < 10 then monthFromMarch + 3 else monthFromMarch - 9 : Checked ℤ)
  let year : ℤ ← yearOfCycle + cycle * 400 + (if month ≤ 2 then 1 else 0 : ℤ)
  value ⟨year, month, day⟩

theorem dayOfYear_mem {n : ℤ} (h : 0 ≤ n ∧ n < 146097) :
    let year := (n - n / 1460 + n / 36524 - n / 146096) / 365
    (0 ≤ year ∧ year < 400) ∧
      0 ≤ n - (365 * year + year / 4 - year / 100) ∧
      n - (365 * year + year / 4 - year / 100) < 366 := by
  obtain ⟨year, hle, hlt⟩ := exists_marchStart_le n
  have hlen := yearLength_mem (year + 1)
  have hyear : 0 ≤ year ∧ year < 400 := by
    have hnext := marchStart_succ year
    have hcycle := marchStart_add_cycles (year - 400) 1
    have hyears : year - 400 + 400 * 1 = year := by ring
    rw [hyears] at hcycle
    unfold cycleLength at hcycle
    constructor
    · unfold marchStart at hnext hle hlt
      omega
    · unfold marchStart at hcycle hle
      omega
  have hday : 0 ≤ n - marchStart year ∧ n - marchStart year < yearLength (year + 1) := by omega
  have heq := yearOfCycle_eq hyear hday (add_sub_cancel _ n).symm
  intro year'
  have hsame : year' = year := heq
  rw [hsame]
  unfold marchStart at hle hlt
  omega

theorem ofDayNumber_eq {number : ℤ} (h : number.natAbs < 10 ^ 16) :
    ofDayNumber number = value (Date.ofDayNumber number) := by
  have hshift : epochShift = 719468 := rfl
  have hcycle : cycleLength = 146097 := rfl
  have hmod : number + epochShift - (number + epochShift) / cycleLength * cycleLength =
      (number + epochShift) % cycleLength := by
    rw [Int.emod_def, mul_comm]
  rw [ofDayNumber]
  simp (disch := omega) only [add_eq, value_bind, ediv_eq]
  rw [hcycle] at hmod ⊢
  simp (disch := omega) only [mul_eq, sub_eq, value_bind]
  rw [hmod]
  simp only [Date.ofDayNumber, hcycle]
  have hmem : 0 ≤ (number + epochShift) % 146097 ∧ (number + epochShift) % 146097 < 146097 := by
    omega
  generalize (number + epochShift) % 146097 = n, (number + epochShift) / 146097 = cycle at *
  obtain ⟨hyear, hday⟩ := dayOfYear_mem hmem
  have hyear' : (n - n / 1460 + n / 36524 - n / 146096 : Checked ℤ) / 365 =
      value ((n - n / 1460 + n / 36524 - n / 146096) / 365) := by
    simp (disch := omega) only [ofNat_eq, div_eq, sub_eq, add_eq]
  rw [hyear', value_bind]
  generalize (n - n / 1460 + n / 36524 - n / 146096) / 365 = year at *
  have hday' : (n - (365 * year + year / 4 - year / 100) : Checked ℤ) =
      value (n - (365 * year + year / 4 - year / 100)) := by
    simp (disch := omega) only [ofNat_eq, div_eq, mul_eq, sub_eq, add_eq]
  rw [hday', value_bind]
  generalize n - (365 * year + year / 4 - year / 100) = day at *
  have hmonth : (5 * day + 2 : Checked ℤ) / 153 = value ((5 * day + 2) / 153) := by
    simp (disch := omega) only [ofNat_eq, div_eq, mul_eq, add_eq]
  rw [hmonth, value_bind]
  have hmonthMem : 0 ≤ (5 * day + 2) / 153 ∧ (5 * day + 2) / 153 ≤ 11 := by omega
  generalize (5 * day + 2) / 153 = month at *
  simp (disch := omega) only [ofNat_eq, div_eq, mul_eq, add_eq, sub_eq, value_bind]
  split <;> rfl

/-- The position of a date's day in its year. -/
def dayOfYear (date : Date) : Checked ℤ := do
  (← dayNumber date) - (← dayNumber ⟨date.year, 1, 1⟩) + 1

theorem dayOfYear_eq {date : Date} (hv : date.IsValid) (hyear : date.year.natAbs < 10 ^ 13) :
    dayOfYear date = value date.dayOfYear := by
  have hlength := monthLength_mem date.year date.month
  have hday := hv.day_mem
  have hself : dayNumber date = value date.dayNumber := dayNumber_eq hv.month_mem hyear (by omega)
  have hfirst : dayNumber ⟨date.year, 1, 1⟩ = value (Date.dayNumber ⟨date.year, 1, 1⟩) :=
    dayNumber_eq (by dsimp only; decide) hyear (by dsimp only; decide)
  have hmem := hv.dayOfYear_mem
  have hyearLength := yearLength_mem date.year
  unfold Date.dayOfYear at hmem
  rw [dayOfYear, hself, value_bind, hfirst, value_bind]
  simp (disch := omega) only [ofNat_eq, sub_eq, add_eq, Date.dayOfYear]

/-- The era and the year inside it. -/
def yearOfEra (year : ℤ) : Checked (ℤ × ℤ) :=
  if 1 ≤ year then value (1, year) else do
    let year : ℤ ← 1 - year
    value (0, year)

theorem yearOfEra_eq {year : ℤ} (hyear : year.natAbs < 10 ^ 15) :
    yearOfEra year = value (Almanac.yearOfEra year) := by
  rw [yearOfEra, Almanac.yearOfEra]
  split
  · rfl
  · simp (disch := omega) only [ofNat_eq, sub_eq, value_bind]

/-! ## Weeks -/

section Weeks

variable (weeks : WeekNumbering)

/-- The week of a period that holds day `day`, where day `known` falls on `weekday`. -/
def weekAt (day known weekday : ℤ) : Checked ℤ := do
  let start : ℤ ← emod (weekday - weeks.firstWeekday - known + 1) 7
  let week : ℤ ← (day + start - 1) / 7
  let left : ℤ ← 7 - start
  if weeks.minimumDays ≤ left then week + 1 else week

theorem weekAt_eq {day known weekday : ℤ} (hday : 1 ≤ day ∧ day < 10 ^ 15)
    (hknown : known.natAbs < 10 ^ 15) (hweekday : weekday.natAbs < 10 ^ 15) :
    weekAt weeks day known weekday = value (weeks.weekAt day known weekday) := by
  have hfirst := weeks.firstWeekday_mem
  rw [weekAt, WeekNumbering.weekAt]
  simp (disch := omega) only [ofNat_eq, sub_eq, add_eq, emod_eq, div_eq, value_bind]
  split
  · rfl
  · rw [add_zero]

/-- The week number of a day of `year` and the year that the week is counted in. -/
def weekOfYear (year dayOfYear weekday : ℤ) : Checked (ℤ × ℤ) := do
  let length := yearLength year
  let position : ℤ ← placeOf weeks weekday
  let first : ℤ ← emod (weekday - dayOfYear + 1 - weeks.firstWeekday) 7
  let week : ℤ ← (dayOfYear - 1 + first) / 7
  let left : ℤ ← 7 - first
  let week : ℤ ← (if weeks.minimumDays ≤ left then week + 1 else week : Checked ℤ)
  if week = 0 then do
    let yearBefore : ℤ ← year - 1
    let fromYearBefore : ℤ ← dayOfYear + yearLength yearBefore
    let week ← weekAt weeks fromYearBefore fromYearBefore weekday
    value (week, yearBefore)
  else do
    let late : ℤ ← length - 5
    let next : Bool ← if late ≤ dayOfYear then do
        let lastPosition : ℤ ← (position + length - dayOfYear) % 7
        let left : ℤ ← 6 - lastPosition
        let after : ℤ ← dayOfYear + 7 - position
        value (decide (weeks.minimumDays ≤ left ∧ length < after))
      else value false
    if next then do
      let yearAfter : ℤ ← year + 1
      value (1, yearAfter)
    else value (week, year)

theorem weekOfYear_eq {year dayOfYear weekday : ℤ} (hyear : year.natAbs < 10 ^ 15)
    (hday : 1 ≤ dayOfYear ∧ dayOfYear ≤ yearLength year) (hweekday : 1 ≤ weekday ∧ weekday ≤ 7) :
    weekOfYear weeks year dayOfYear weekday = value (weeks.weekOfYear year dayOfYear weekday) := by
  have hfirst := weeks.firstWeekday_mem
  have hlength := yearLength_mem year
  have hbefore := yearLength_mem (year - 1)
  have hplace := weeks.placeOf_mem weekday
  have hstart : (weekday - weeks.firstWeekday - dayOfYear + 1) % 7 =
      (weekday - dayOfYear + 1 - weeks.firstWeekday) % 7 := by
    congr 1
    ring
  rw [weekOfYear, WeekNumbering.weekOfYear, placeOf_eq weeks (by omega), value_bind]
  simp (disch := omega) only [ofNat_eq, sub_eq, add_eq, emod_eq, div_eq, value_bind]
  have hweek : (if weeks.minimumDays ≤ 7 - (weekday - dayOfYear + 1 - weeks.firstWeekday) % 7 then
        value ((dayOfYear - 1 + (weekday - dayOfYear + 1 - weeks.firstWeekday) % 7) / 7 + 1)
      else value ((dayOfYear - 1 + (weekday - dayOfYear + 1 - weeks.firstWeekday) % 7) / 7)) =
      value (weeks.weekAt dayOfYear dayOfYear weekday) := by
    rw [WeekNumbering.weekAt, hstart]
    generalize (weekday - dayOfYear + 1 - weeks.firstWeekday) % 7 = start
    rw [show dayOfYear - 1 + start = dayOfYear + start - 1 by ring]
    split
    · rfl
    · rw [add_zero]
  rw [hweek, value_bind]
  generalize weeks.weekAt dayOfYear dayOfYear weekday = week
  by_cases hzero : week = 0
  · rw [if_pos hzero, weekAt_eq weeks (by omega) (by omega) (by omega), value_bind]
    simp only [if_pos hzero]
  simp only [if_neg hzero]
  by_cases hlate : yearLength year - 5 ≤ dayOfYear
  · rw [if_pos hlate]
    simp (disch := omega) only [mod_eq, value_bind, sub_eq, decide_eq_true_eq]
    simp only [hlate, true_and]
    exact (apply_ite value _ _ _).symm
  · rw [if_neg hlate]
    change (if false = true then _ else value (week, year)) = _
    rw [if_neg Bool.false_ne_true]
    simp only [hlate, false_and, if_false]

/-! ## Local time -/

section LocalTime

open LocalTime

/-- The week of a local time and the year that the week is counted in. -/
def localWeek (l : LocalTime) : Checked (ℤ × ℤ) := do
  weekOfYear weeks l.date.year (← dayOfYear l.date) (← weekdayOf l.dayNumber)

theorem localWeek_eq {reading : ℤ} (hr : reading.natAbs < 2 ^ 63) :
    localWeek weeks (ofReading reading) = value ((ofReading reading).weekOfYear weeks) := by
  have hyear := natAbs_year_le reading
  have hnumber := natAbs_dayNumber_le reading
  have hv := date_isValid reading
  rw [localWeek, dayOfYear_eq hv (by omega), value_bind, weekdayOf_eq (by omega), value_bind,
    weekOfYear_eq weeks (by omega) hv.dayOfYear_mem (weekdayOf_mem _)]
  rfl

end LocalTime

end Weeks

/-! ## Instants -/

/-- The whole second at or before an instant and the nanoseconds after it. -/
def secondsAndNanos (t : Instant) : Checked (ℤ × ℤ) :=
  let whole := t.seconds.floor
  let nanos := ((t.seconds - whole) * Binary64.ofInt nanosPerSecond).round.toInt64
  if nanosPerSecond ≤ nanos then do
    let second : ℤ ← whole.toInt64 + 1
    let rest : ℤ ← nanos - nanosPerSecond
    value (second, rest)
  else value (whole.toInt64, nanos)

/-- The local time of an instant. -/
def localTime (cal : Calendar) (t : Instant) : Checked LocalTime := do
  let split ← secondsAndNanos t
  let reading : ℤ ← split.1 + cal.zone.source.totalAt (.ofSeconds split.1)
  let dayNumber : ℤ ← ediv reading secondsPerDay
  let date ← ofDayNumber dayNumber
  let secondOfDay : ℤ ← emod reading secondsPerDay
  value ⟨dayNumber, date, secondOfDay, split.2⟩

theorem secondsAndNanos_eq {t : Instant} (ht : t.secondsAndNanos.1 ≤ Binary64.int64Max) :
    secondsAndNanos t = value t.secondsAndNanos := by
  have hwhole := t.seconds.floor.toInt64_mem
  have hnanos := ((t.seconds - t.seconds.floor) * Binary64.ofInt nanosPerSecond).round.toInt64_mem
  have hsecond : nanosPerSecond = 1000000000 := rfl
  simp only [secondsAndNanos, Instant.secondsAndNanos] at ht ⊢
  unfold Binary64.int64Min Binary64.int64Max at *
  split
  · next hcarry =>
    rw [if_pos hcarry] at ht
    simp (disch := omega) only [ofNat_eq, add_eq, sub_eq, value_bind]
  · rfl

/-- **No step from an instant to its local time overflows**, if its second and its reading fit. -/
theorem localTime_eq {cal : Calendar} {t : Instant} (ht : t.secondsAndNanos.1 ≤ Binary64.int64Max)
    (hr : (cal.zone.source.toLocal t.secondsAndNanos.1).natAbs < 2 ^ 63) :
    localTime cal t = value (cal.localTime t) := by
  have hday : secondsPerDay = 86400 := rfl
  have hreading : (t.secondsAndNanos.1 + cal.zone.source.totalAt (.ofSeconds t.secondsAndNanos.1) :
      Checked ℤ) = value (cal.zone.source.toLocal t.secondsAndNanos.1) := by
    unfold OffsetSource.toLocal at hr
    exact add_eq (by omega)
  rw [localTime, secondsAndNanos_eq ht, value_bind, hreading, value_bind]
  simp only [hday, ediv_eq (show (0 : ℤ) < 86400 by decide),
    emod_eq (show (0 : ℤ) < 86400 by decide), value_bind]
  rw [ofDayNumber_eq (by omega), value_bind]
  rfl

theorem localTime_wholeSecond {cal : Calendar} {n : ℤ}
    (hr : (cal.zone.source.toLocal (Instant.ofSeconds n).secondsAndNanos.1).natAbs < 2 ^ 63) :
    localTime cal (.ofSeconds n) =
      value (.ofReading (cal.zone.source.toLocal (Instant.ofSeconds n).secondsAndNanos.1)) := by
  rw [localTime_eq (Instant.secondsAndNanos_ofSeconds_mem n).2 hr, cal.localTime_wholeSecond]

end Checked

end Almanac
